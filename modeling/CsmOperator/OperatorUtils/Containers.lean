import CsmOperator.Api.Apply
import CsmOperator.Go.Text

/-!
# Overriding containers: `pkg/operatorutils/utils.go`

What a CR says about a container of a template: its image, when to pull it, its environment and its
arguments. An image is written through the pointer of the template; where the template has none the
operator panics, and the result is `none`.
-/

namespace CsmOperator

open Go

/-! ## Images -/

/-- The repository path of an image, without a registry domain in front. -/
def stripDomain (imageFile : String) : String :=
  match cut imageFile '/' with
  | some (domain, path) =>
    if contains domain "." ∨ domain = "localhost" then path else imageFile
  | none => imageFile

def resolveImage (originalImageFile : String) (cr : ContainerStorageModule) : String :=
  let customRegistry := trimSpace cr.spec.customRegistry
  if customRegistry = "" then originalImageFile
  else
    let imageFile := trimSpace originalImageFile
    let imageFile :=
      if cr.spec.retainImageRegistryPath then stripDomain imageFile else afterLast imageFile '/'
    customRegistry ++ "/" ++ imageFile

/-- `*c.Image = image` -/
def ContainerApply.storeImage (c : ContainerApply) (image : String) : Option ContainerApply :=
  c.image.map fun _ => { c with image := some image }

/-- `*c.Image = ResolveImage(*c.Image)` -/
def ContainerApply.storeResolved (c : ContainerApply) (cr : ContainerStorageModule) :
    Option ContainerApply :=
  c.image.map fun image => { c with image := some (resolveImage image cr) }

/-! ## Environments -/

/-- The value an environment is overridden with: the last entry of the name, `"NA"` for an empty value,
and nothing when there is no entry. -/
def overrideOf (updates : List EnvVar) (name : String) : String :=
  updates.foldl
    (fun val update =>
      if update.name = name then if update.value = "" then "NA" else update.value else val) ""

/-- What stays of an entry whose value is read from a field. -/
def EnvVarApply.keepField (old : EnvVarApply) (src : EnvVarSource) : Option EnvVarApply :=
  match src.fieldRef with
  | none => some { name := old.name }
  | some pRef =>
    pRef.fieldPath.map fun path =>
      { name := old.name, valueFrom := some { fieldRef := some { fieldPath := some path } } }

/-- What stays of an entry whose value is read from a Secret; such a reference wins over a field. -/
def EnvVarApply.keepSecret (old : EnvVarApply) (src : EnvVarSource) (e : EnvVarApply) :
    Option EnvVarApply :=
  match src.secretKeyRef with
  | none => some e
  | some sRef =>
    sRef.name.map fun name =>
      { name := old.name, valueFrom := some { secretKeyRef := some { sRef with name := some name } } }

/-- What stays of an entry that is not overridden. -/
def EnvVarApply.keep (old : EnvVarApply) : Option EnvVarApply :=
  match old.valueFrom with
  | none => some { name := old.name, value := old.value }
  | some src => (old.keepField src).bind (old.keepSecret src)

def EnvVarApply.replace (updates : List EnvVar) (old : EnvVarApply) : Option EnvVarApply :=
  let val := overrideOf updates old.name
  if val ≠ "" then some { name := old.name, value := some (if val = "NA" then "" else val) }
  else old.keep

def replaceAllApplyCustomEnvs (driverEnv : List EnvVarApply) (commonEnv nrEnv : List EnvVar) :
    Option (List EnvVarApply) := driverEnv.mapM (·.replace (commonEnv ++ nrEnv))

/-! ## Arguments -/

/-- An argument of the CR takes the place of every argument that contains its name. -/
def replaceArg (old : String) (defaultArgs : List String) : List String :=
  defaultArgs.map fun new => if contains new ((split old '=').headD "") then old else new

def replacesArg (old : String) (defaultArgs : List String) : Bool :=
  defaultArgs.any fun new => contains new ((split old '=').headD "")

/-- The loop of `ReplaceAllArgs`: the default arguments, and those that are to be appended. -/
def replaceArgs : List String → List String → List String → List String × List String
  | defaultArgs, merge, [] => (defaultArgs, merge)
  | defaultArgs, merge, old :: crArgs =>
    if replacesArg old defaultArgs then replaceArgs (replaceArg old defaultArgs) merge crArgs
    else replaceArgs defaultArgs (merge ++ [old]) crArgs

def replaceAllArgs (defaultArgs crArgs : List String) : List String :=
  let (defaultArgs, merge) := replaceArgs defaultArgs [] crArgs
  defaultArgs ++ merge

/-! ## Containers -/

/-- The image of a container that the CR has an entry for. -/
def applyImage (ctr : ContainerTemplate) (cr : ContainerStorageModule) (matched : VersionSpec)
    (c : ContainerApply) : Option ContainerApply :=
  if matched.version ≠ "" ∧ matched.image ctr.name ≠ "" then c.storeImage (matched.image ctr.name)
  else if cr.spec.customRegistry ≠ "" then c.storeResolved cr
  else if ctr.image ≠ "" then c.storeImage ctr.image
  else some c

def applyPullPolicy (ctr : ContainerTemplate) (c : ContainerApply) : Option ContainerApply :=
  if ctr.imagePullPolicy ≠ "" then
    c.imagePullPolicy.map fun _ => { c with imagePullPolicy := some ctr.imagePullPolicy }
  else some c

/-- What an entry of the CR does to the container of its name. -/
def applyEntry (ctr : ContainerTemplate) (cr : ContainerStorageModule) (matched : VersionSpec)
    (c : ContainerApply) : Option ContainerApply := do
  let c ← applyImage ctr cr matched c
  let c ← applyPullPolicy ctr c
  let env ← replaceAllApplyCustomEnvs c.env [] ctr.envs
  return { c with env, args := replaceAllArgs c.args ctr.args }

/-- A container that the CR has no entry for. -/
def applyDefaultImage (cr : ContainerStorageModule) (matched : VersionSpec) (c : ContainerApply) :
    Option ContainerApply :=
  if matched.version ≠ "" ∧ matched.image c.name ≠ "" then c.storeImage (matched.image c.name)
  else if cr.spec.customRegistry ≠ "" then c.storeResolved cr
  else some c

/-- `UpdateContainerApply`, which `UpdateSideCarApply` and `UpdateInitContainerApply` call. -/
def updateContainerApply (toBeApplied : List ContainerTemplate) (cr : ContainerStorageModule)
    (matched : VersionSpec) (c : ContainerApply) : Option ContainerApply :=
  if toBeApplied.any (·.name = c.name) then
    toBeApplied.foldlM
      (fun c ctr => if c.name = ctr.name then applyEntry ctr cr matched c else some c) c
  else applyDefaultImage cr matched c

/-- The sidecar images of a Kubernetes version: `K8sImagesConfig`. -/
structure K8sImagesConfig where
  attacher : String := ""
  provisioner : String := ""
  snapshotter : String := ""
  registrar : String := ""
  resizer : String := ""
  externalhealthmonitor : String := ""
  sdcmonitor : String := ""
  podmon : String := ""

/-- The image for a container of the name, where the configuration has one. -/
def K8sImagesConfig.imageFor (img : K8sImagesConfig) (name : String) : Option String :=
  match name with
  | "provisioner" => some img.provisioner
  | "attacher" => some img.attacher
  | "snapshotter" => some img.snapshotter
  | "registrar" => some img.registrar
  | "resizer" => some img.resizer
  | "external-health-monitor" => some img.externalhealthmonitor
  -- `driverconfig-default.yaml` has one entry for both
  | "sdc" => some img.sdcmonitor
  | "sdc-monitor" => some img.sdcmonitor
  | "resiliency" => some img.podmon
  | _ => none

def replaceAllContainerImageApply (img : K8sImagesConfig) (c : ContainerApply) :
    Option ContainerApply :=
  match img.imageFor c.name with
  | some image => c.storeImage image
  | none => some c

/-! ### What stays as it is -/

section Frame

variable {cr : ContainerStorageModule} {matched : VersionSpec} {ctr : ContainerTemplate}
  {c c' : ContainerApply}

theorem ContainerApply.storeImage_eq {image : String} (h : c.storeImage image = some c') :
    c' = { c with image := some image } := by
  unfold ContainerApply.storeImage at h
  obtain ⟨_, -, rfl⟩ := Option.map_eq_some_iff.mp h
  rfl

theorem ContainerApply.storeResolved_eq (h : c.storeResolved cr = some c') :
    ∃ image, c.image = some image ∧ c' = { c with image := some (resolveImage image cr) } := by
  unfold ContainerApply.storeResolved at h
  obtain ⟨image, himage, rfl⟩ := Option.map_eq_some_iff.mp h
  exact ⟨image, himage, rfl⟩

/-- The two agree but for the image. -/
def ContainerApply.SameButImage (c c' : ContainerApply) : Prop := c' = { c with image := c'.image }

theorem ContainerApply.SameButImage.volumeMounts (h : c.SameButImage c') :
    c'.volumeMounts = c.volumeMounts := by rw [h]

theorem ContainerApply.SameButImage.name (h : c.SameButImage c') : c'.name = c.name := by rw [h]

theorem applyImage_same (h : applyImage ctr cr matched c = some c') : c.SameButImage c' := by
  unfold applyImage at h
  split_ifs at h
  · rw [ContainerApply.storeImage_eq h]; rfl
  · obtain ⟨_, -, rfl⟩ := ContainerApply.storeResolved_eq h; rfl
  · rw [ContainerApply.storeImage_eq h]; rfl
  · cases h; rfl

theorem applyDefaultImage_same (h : applyDefaultImage cr matched c = some c') : c.SameButImage c' := by
  unfold applyDefaultImage at h
  split_ifs at h
  · rw [ContainerApply.storeImage_eq h]; rfl
  · obtain ⟨_, -, rfl⟩ := ContainerApply.storeResolved_eq h; rfl
  · cases h; rfl

/-- Where there was no image, none is stored. -/
theorem ContainerApply.storeImage_isSome {image : String} (h : c.storeImage image = some c') :
    c'.image.isSome = c.image.isSome := by
  unfold ContainerApply.storeImage at h
  obtain ⟨_, himage, rfl⟩ := Option.map_eq_some_iff.mp h
  simp [himage]

theorem ContainerApply.storeResolved_isSome (h : c.storeResolved cr = some c') :
    c'.image.isSome = c.image.isSome := by
  obtain ⟨_, himage, rfl⟩ := ContainerApply.storeResolved_eq h
  simp [himage]

theorem applyImage_isSome (h : applyImage ctr cr matched c = some c') :
    c'.image.isSome = c.image.isSome := by
  unfold applyImage at h
  split_ifs at h
  · exact ContainerApply.storeImage_isSome h
  · exact ContainerApply.storeResolved_isSome h
  · exact ContainerApply.storeImage_isSome h
  · cases h; rfl

theorem applyDefaultImage_isSome (h : applyDefaultImage cr matched c = some c') :
    c'.image.isSome = c.image.isSome := by
  unfold applyDefaultImage at h
  split_ifs at h
  · exact ContainerApply.storeImage_isSome h
  · exact ContainerApply.storeResolved_isSome h
  · cases h; rfl

theorem replaceAllContainerImageApply_same {img : K8sImagesConfig}
    (h : replaceAllContainerImageApply img c = some c') :
    c.SameButImage c' ∧ c'.image.isSome = c.image.isSome := by
  unfold replaceAllContainerImageApply at h
  split at h
  · refine ⟨?_, ContainerApply.storeImage_isSome h⟩
    rw [ContainerApply.storeImage_eq h]; rfl
  · cases h; exact ⟨rfl, rfl⟩

theorem applyPullPolicy_isSome (h : applyPullPolicy ctr c = some c') :
    c'.imagePullPolicy.isSome = c.imagePullPolicy.isSome := by
  unfold applyPullPolicy at h
  split_ifs at h
  · obtain ⟨_, hpolicy, rfl⟩ := Option.map_eq_some_iff.mp h
    simp [hpolicy]
  · cases h; rfl

theorem applyPullPolicy_eq (h : applyPullPolicy ctr c = some c') :
    c' = { c with imagePullPolicy := c'.imagePullPolicy } := by
  unfold applyPullPolicy at h
  split_ifs at h
  · obtain ⟨_, -, rfl⟩ := Option.map_eq_some_iff.mp h
    rfl
  · cases h; rfl

theorem applyEntry_frame (h : applyEntry ctr cr matched c = some c') :
    c'.name = c.name ∧ c'.volumeMounts = c.volumeMounts := by
  unfold applyEntry at h
  obtain ⟨c₁, h₁, h⟩ := Option.bind_eq_some_iff.mp h
  obtain ⟨c₂, h₂, h⟩ := Option.bind_eq_some_iff.mp h
  obtain ⟨env, -, h⟩ := Option.bind_eq_some_iff.mp h
  cases h
  have hsame := applyImage_same h₁
  rw [applyPullPolicy_eq h₂]
  exact ⟨hsame.name, hsame.volumeMounts⟩

/-- No entry renames a container or changes what it mounts. -/
theorem updateContainerApply_frame {entries : List ContainerTemplate}
    (h : updateContainerApply entries cr matched c = some c') :
    c'.name = c.name ∧ c'.volumeMounts = c.volumeMounts := by
  unfold updateContainerApply at h
  split at h
  · clear * - h
    -- every round of the loop keeps them
    induction entries generalizing c with
    | nil => cases h; exact ⟨rfl, rfl⟩
    | cons ctr entries ih =>
        rw [List.foldlM_cons] at h
        obtain ⟨c₁, h₁, h⟩ := Option.bind_eq_some_iff.mp h
        obtain ⟨hname, hmounts⟩ := ih h
        split at h₁
        · obtain ⟨hname', hmounts'⟩ := applyEntry_frame h₁
          exact ⟨hname.trans hname', hmounts.trans hmounts'⟩
        · cases h₁
          exact ⟨hname, hmounts⟩
  · exact ⟨(applyDefaultImage_same h).name, (applyDefaultImage_same h).volumeMounts⟩

end Frame

def updateSideCarApply (sideCars : List ContainerTemplate) (c : ContainerApply)
    (cr : ContainerStorageModule) (matched : VersionSpec) : Option ContainerApply :=
  updateContainerApply sideCars cr matched c

def updateInitContainerApply (initContainers : List ContainerTemplate) (c : ContainerApply)
    (cr : ContainerStorageModule) (matched : VersionSpec) : Option ContainerApply :=
  updateContainerApply initContainers cr matched c

end CsmOperator
