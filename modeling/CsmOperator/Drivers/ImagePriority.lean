import CsmOperator.Drivers.Images
import CsmOperator.Drivers.SideCars
import CsmOperator.Modules.Authorization

/-!
# The images of a driver

Every container of the Deployment and the DaemonSet of a driver should have its image by priority. The
containers take different ways: the driver, the sidecars, the init containers and the proxy that the
authorization module adds. What each of them comes to is described here, and where it differs from the
priority.
-/

namespace CsmOperator

open Go

/-! ## What a CR and a ConfigMap can say -/

/-- The image that the CR names for the driver. -/
def commonImage (cr : ContainerStorageModule) : String :=
  (cr.spec.driver.common.map (·.image)).getD ""

/-- The rules of the schema about versions, images and registries: `csm_types.go`. -/
structure SchemaAllows (cr : ContainerStorageModule) : Prop where
  configVersion : cr.spec.version ≠ "" → cr.spec.driver.configVersion = ""
  commonImage : cr.spec.version ≠ "" → commonImage cr = ""
  sideCars : cr.spec.version ≠ "" → ∀ ctr ∈ cr.spec.driver.sideCars, ctr.image = ""
  components : cr.spec.version ≠ "" → ∀ m ∈ cr.spec.modules, ∀ ctr ∈ m.components, ctr.image = ""
  initContainers : cr.spec.version ≠ "" → ∀ ctr ∈ cr.spec.driver.initContainers, ctr.image = ""
  customRegistry : cr.spec.customRegistry ≠ "" → cr.spec.version ≠ ""
  retainImageRegistryPath : cr.spec.retainImageRegistryPath = true →
    cr.spec.version ≠ "" ∧ cr.spec.customRegistry ≠ ""

/-- What `SyncCSM` uses as the images of the version: nothing, or an entry of the ConfigMap that has passed
`ValidateConfigMap`. -/
inductive Resolved (cr : ContainerStorageModule) : VersionSpec → Prop
  | unmatched : Resolved cr {}
  | entry {matched : VersionSpec} : cr.spec.version ≠ "" → matched.version = cr.spec.version →
      (∀ key, matched.images.bind (· key) ≠ some "") → Resolved cr matched

namespace Resolved

variable {cr : ContainerStorageModule} {matched : VersionSpec}

/-- An image that is found is a matched image. -/
theorem matchedImage_of_found (h : Resolved cr matched) {key image : String}
    (hfound : matched.images.bind (· key) = some image) : matched.matchedImage key = image ∧ image ≠ "" := by
  cases h with
  | unmatched => cases hfound
  | entry hversion hsame hvalid =>
      refine ⟨?_, ?_⟩
      · rw [VersionSpec.matchedImage, if_neg (hsame ▸ hversion), VersionSpec.image, goLookup, hfound]
        rfl
      · rintro rfl
        exact hvalid key hfound

theorem image_eq (h : Resolved cr matched) (key : String) : matched.image key = matched.matchedImage key := by
  cases h with
  | unmatched => rfl
  | entry hversion hsame _ => rw [VersionSpec.matchedImage, if_neg (hsame ▸ hversion)]

theorem found_eq (h : Resolved cr matched) (key : String) : matched.images.bind (· key) =
    if matched.matchedImage key ≠ "" then some (matched.matchedImage key) else none := by
  cases hfound : matched.images.bind (· key) with
  | some image =>
      obtain ⟨rfl, hne⟩ := h.matchedImage_of_found hfound
      exact (if_pos hne).symm
  | none =>
      rw [← h.image_eq key, VersionSpec.image, goLookup, hfound]
      rfl

/-- A CR whose version has images names none itself. -/
theorem version_ne (h : Resolved cr matched) {key : String} (hmatched : matched.matchedImage key ≠ "") :
    cr.spec.version ≠ "" := by
  cases h with
  | unmatched => exact absurd rfl hmatched
  | entry hversion _ _ => exact hversion

end Resolved

theorem explicitImage_eq_empty {name : String} {entries : List ContainerTemplate}
    (h : ∀ ctr ∈ entries, ctr.image = "") : explicitImage name entries = "" := by
  induction entries with
  | nil => rfl
  | cons ctr entries ih =>
      obtain ⟨hctr, hentries⟩ := List.forall_mem_cons.mp h
      rw [explicitImage, ih hentries, hctr]
      simp

/-! ## The driver -/

section Driver

variable {cr : ContainerStorageModule} {k8sVersion : K8sImagesConfig} {c d : ContainerApply}

theorem driverImage_eq {matchedImage : String} {image image' : Option String}
    (h : driverImage cr (if matchedImage ≠ "" then some matchedImage else none) image = some image') :
    image' = overriddenImage cr matchedImage (commonImage cr) 1 image := by
  unfold overriddenImage commonImage
  by_cases hm : matchedImage = ""
  · rw [if_neg (not_not.mpr hm)] at h ⊢
    unfold driverImage at h
    dsimp only at h
    split at h
    next hregistry =>
      obtain ⟨image, rfl, rfl⟩ := Option.map_eq_some_iff.mp h
      rw [if_pos hregistry, Function.iterate_one, Option.map_some]
    next hregistry =>
      rw [if_neg hregistry]
      split at h
      next common hcommon =>
        rw [hcommon]
        split_ifs at h with hne
        · cases h
          exact (if_pos hne).symm
        · cases h
          exact (if_neg hne).symm
      next hcommon =>
        cases h
        rw [hcommon]
        exact (if_neg (not_not.mpr rfl)).symm
  · rw [if_pos hm] at h ⊢
    cases h
    rfl

theorem driverContainer_image {matchedImage : String} {envs : List EnvVar}
    (h : driverContainer cr (if matchedImage ≠ "" then some matchedImage else none) envs c = some d) :
    d.image = overriddenImage cr matchedImage (commonImage cr) 1 c.image := by
  obtain ⟨image, himage, h⟩ := Option.bind_eq_some_iff.mp h
  obtain ⟨env, -, h⟩ := Option.bind_eq_some_iff.mp h
  cases h
  exact driverImage_eq himage

theorem setDriverMetrics_image (driverType : DriverType) (c : ContainerApply) :
    (setDriverMetrics cr driverType c).image = c.image ∧
      (setDriverMetrics cr driverType c).name = c.name := by
  unfold setDriverMetrics dynamicallyMountVolume dynamicallyAddEnvironmentVariable
  dsimp only
  split_ifs <;> exact ⟨rfl, rfl⟩

/-- The Kubernetes images have none for a driver. -/
theorem defaultImage_driver (hname : isDriverContainer c.name = true) :
    defaultImage k8sVersion c = c.image := by
  unfold defaultImage
  obtain h | h : c.name = "driver" ∨ c.name = "objectstorage-provisioner" := by
    simpa [isDriverContainer] using hname
  · rw [h]
    rfl
  · rw [h]
    rfl

end Driver

/-! ## The priority -/

section Priority

variable (cr : ContainerStorageModule) (matched : VersionSpec) (k8sVersion : K8sImagesConfig)

/-- The matched image of the driver. -/
def matchedDriver : String := matched.matchedImage cr.spec.driver.csiDriverType.text

/-- The image that a container of the template should get. -/
def containerImage (c : ContainerApply) : Option String :=
  if isDriverContainer c.name then priorityImage cr (matchedDriver cr matched) (commonImage cr) c.image
  else priorityImage cr (matched.matchedImage c.name) (explicitImage c.name cr.spec.driver.sideCars)
    (defaultImage k8sVersion c)

/-- A sidecar has a matched image, or its entries resolve the image as one would. -/
def SideCarOnce (c : ContainerApply) : Prop :=
  matched.matchedImage c.name = "" →
    ResolvesOnce cr (timesResolved c.name cr.spec.driver.sideCars) (defaultImage k8sVersion c)

instance (cr : ContainerStorageModule) (n : Nat) (image : Option String) :
    Decidable (ResolvesOnce cr n image) := inferInstanceAs (Decidable (_ = _))

instance (c : ContainerApply) : Decidable (SideCarOnce cr matched k8sVersion c) :=
  inferInstanceAs (Decidable (_ → _))

variable {cr matched k8sVersion} {c d : ContainerApply}

theorem overridden_image (h : overridden cr k8sVersion matched c = some d) :
    d.image = overriddenImage cr (matched.matchedImage c.name)
      (explicitImage c.name cr.spec.driver.sideCars) (timesResolved c.name cr.spec.driver.sideCars)
      (defaultImage k8sVersion c) := by
  obtain ⟨c₁, h₁, h⟩ := Option.bind_eq_some_iff.mp h
  have himage := updateContainerApply_image h
  rwa [(replaceAllContainerImageApply_same h₁).1.name, replaceAllContainerImageApply_image h₁] at himage

theorem VersionSpec.SameButDriver.matchedImage {matched' : VersionSpec} (h : matched.SameButDriver matched')
    {name : String} (hname : isDriverContainer name = false) :
    matched'.matchedImage name = matched.matchedImage name := by
  unfold VersionSpec.matchedImage
  rw [h.version, h.image name hname]

theorem sideCar_image_iff {matched' : VersionSpec} (hsame : matched.SameButDriver matched')
    (hname : isDriverContainer c.name = false) {image : Option String}
    (h : image = overriddenImage cr (matched'.matchedImage c.name)
      (explicitImage c.name cr.spec.driver.sideCars) (timesResolved c.name cr.spec.driver.sideCars)
      (defaultImage k8sVersion c)) :
    image = containerImage cr matched k8sVersion c ↔ SideCarOnce cr matched k8sVersion c := by
  unfold containerImage
  rw [if_neg (by simp [hname]), h, hsame.matchedImage hname]
  exact overriddenImage_eq_priority_iff

end Priority

/-! ## The Deployment -/

/-- The containers, with whether a container of the driver comes before. -/
def afterDriver : Bool → List ContainerApply → List (Bool × ContainerApply)
  | _, [] => []
  | seen, c :: containers => (seen, c) :: afterDriver (seen || isDriverContainer c.name) containers

section Deployment

variable (cr : ContainerStorageModule) (matched : VersionSpec) (k8sVersion : K8sImagesConfig)

/-- The containers of the template that `GetController` keeps. -/
def keptByController (template : List ContainerApply) : List (Bool × ContainerApply) :=
  (afterDriver false template).filter fun x => !removeControllerContainer cr.spec.driver.sideCars x.2.name

/-- The matched image of the driver is used once: a second container of the driver has to come to it in
another way. -/
def ControllerOnce (x : Bool × ContainerApply) : Prop :=
  if isDriverContainer x.2.name then x.1 = true → matchedDriver cr matched ≠ "" →
    priorityImage cr "" (commonImage cr) x.2.image = some (matchedDriver cr matched)
  else SideCarOnce cr matched k8sVersion x.2

instance (x : Bool × ContainerApply) : Decidable (ControllerOnce cr matched k8sVersion x) := by
  unfold ControllerOnce
  infer_instance

variable {cr matched k8sVersion}

theorem controllerContainer_isSome {matchedDriverImage : String} {c : ContainerApply}
    {o : Option ContainerApply}
    (h : controllerContainer cr k8sVersion matchedDriverImage matched c = some o) :
    o.isSome = !removeControllerContainer cr.spec.driver.sideCars c.name := by
  unfold controllerContainer at h
  obtain ⟨c₁, h₁, h⟩ := Option.bind_eq_some_iff.mp h
  have hname : c₁.name = c.name := by
    unfold controllerDriver at h₁
    split at h₁
    · obtain ⟨c₂, h₂, rfl⟩ := Option.map_eq_some_iff.mp h₁
      rw [(setDriverMetrics_image _ _).2, driverContainer_name cr h₂]
    · cases h₁
      rfl
  rw [hname] at h
  split_ifs at h with hremove
  · cases h
    simp [hremove]
  · obtain ⟨c₂, -, h⟩ := Option.bind_eq_some_iff.mp h
    split_ifs at h
    · cases h
      simp [hremove]
    · obtain ⟨c₃, -, h⟩ := Option.bind_eq_some_iff.mp h
      cases h
      simp [hremove]

/-- The loop of `GetController` keeps the containers that are not removed, each treated on its own. -/
theorem controllerContainers_forall₂ {image : String} {seen : Bool} {matched' : VersionSpec}
    {containers ds : List ContainerApply} (hsame : matched.SameButDriver matched')
    (h : controllerContainers cr k8sVersion (if seen then "" else image) matched' containers = some ds) :
    List.Forall₂ (fun x d => ∃ matched'', matched.SameButDriver matched'' ∧
        controllerContainer cr k8sVersion (if x.1 then "" else image) matched'' x.2 = some (some d))
      ((afterDriver seen containers).filter fun x =>
        !removeControllerContainer cr.spec.driver.sideCars x.2.name) ds := by
  induction containers generalizing seen matched' ds with
  | nil =>
      cases h
      exact .nil
  | cons c containers ih =>
      unfold controllerContainers at h
      obtain ⟨o, ho, h⟩ := Option.bind_eq_some_iff.mp h
      obtain ⟨newcontainers, hnew, h⟩ := Option.bind_eq_some_iff.mp h
      cases h
      have hnext : (if (isDriverContainer c.name && decide ((if seen then "" else image) ≠ "")) = true then ""
          else if seen then "" else image) = if seen || isDriverContainer c.name then "" else image := by
        cases seen <;> cases isDriverContainer c.name <;> by_cases himage : image = "" <;> simp [himage]
      rw [hnext] at hnew
      have hmatched : matched.SameButDriver
          (if (isDriverContainer c.name && decide ((if seen then "" else image) ≠ "")) = true then
            recordMatchedContainerImage matched' c.name (if seen then "" else image) else matched') := by
        by_cases huses : (isDriverContainer c.name && decide ((if seen then "" else image) ≠ "")) = true
        · rw [if_pos huses]
          exact hsame.record (Bool.and_eq_true_iff.mp huses).1 _
        · rw [if_neg huses]
          exact hsame
      have hkept := controllerContainer_isSome ho
      rw [afterDriver]
      cases o with
      | none =>
          rw [List.filter_cons_of_neg (by simpa using hkept)]
          exact ih hmatched hnew
      | some d =>
          rw [List.filter_cons_of_pos (by simpa using hkept.symm)]
          exact .cons ⟨_, hmatched, ho⟩ (ih hmatched hnew)

/-- What one container of the Deployment gets. -/
theorem controllerContainer_image_iff {matched' : VersionSpec} {x : Bool × ContainerApply} {d : ContainerApply}
    (hsame : matched.SameButDriver matched')
    (h : controllerContainer cr k8sVersion (if x.1 then "" else matchedDriver cr matched) matched' x.2 =
      some (some d)) :
    d.image = containerImage cr matched k8sVersion x.2 ↔ ControllerOnce cr matched k8sVersion x := by
  obtain ⟨seen, c⟩ := x
  dsimp only at h ⊢
  cases hname : isDriverContainer c.name with
  | false =>
      rw [sideCar_image_iff hsame hname (overridden_image (controllerContainer_eq hname h)), ControllerOnce,
        if_neg (by simp [hname])]
  | true =>
      have himage : d.image = overriddenImage cr (if seen then "" else matchedDriver cr matched)
          (commonImage cr) 1 c.image := by
        unfold controllerContainer controllerDriver at h
        rw [if_pos hname] at h
        obtain ⟨c₁, h₁, h⟩ := Option.bind_eq_some_iff.mp h
        obtain ⟨c₂, h₂, rfl⟩ := Option.map_eq_some_iff.mp h₁
        rw [(setDriverMetrics_image _ _).2, driverContainer_name cr h₂] at h
        split at h
        · cases h
        · obtain ⟨c₃, h₃, h⟩ := Option.bind_eq_some_iff.mp h
          have hname₃ : c₃.name = c.name := by
            rw [(replaceAllContainerImageApply_same h₃).1.name, (setDriverMetrics_image _ _).2,
              driverContainer_name cr h₂]
          rw [hname₃, if_pos hname] at h
          cases h
          rw [replaceAllContainerImageApply_image h₃, defaultImage_driver, (setDriverMetrics_image _ _).1]
          · exact driverContainer_image h₂
          · rw [(setDriverMetrics_image _ _).2, driverContainer_name cr h₂, hname]
      rw [himage, containerImage, if_pos hname, ControllerOnce, if_pos hname]
      unfold priorityImage
      cases seen with
      | false => simp
      | true =>
          by_cases hm : matchedDriver cr matched = ""
          · simp [hm]
          · have hmatched : overriddenImage cr (matchedDriver cr matched) (commonImage cr) 1 c.image =
                some (matchedDriver cr matched) := if_pos hm
            rw [hmatched]
            simp [hm]

end Deployment

/-! ## The DaemonSet -/

section DaemonSet

variable (cr : ContainerStorageModule) (matched : VersionSpec) (k8sVersion : K8sImagesConfig)

/-- `objectstorage-provisioner` is passed over in a DaemonSet: it keeps the image of the template. -/
def NodeOnce (c : ContainerApply) : Prop :=
  if c.name = "driver" then True
  else if isDriverContainer c.name then containerImage cr matched k8sVersion c = c.image
  else SideCarOnce cr matched k8sVersion c

instance (c : ContainerApply) : Decidable (NodeOnce cr matched k8sVersion c) := by
  unfold NodeOnce
  infer_instance

variable {cr matched k8sVersion} {room : ContainerApply → List String} {spare : Nat → List String}
  {c d : ContainerApply}

/-- The copy that is kept shows the image, which is written through a pointer. -/
theorem nodeSideCar_image (h : nodeSideCar cr k8sVersion room spare matched c = some d) :
    d.image = if isDriverContainer c.name then defaultImage k8sVersion c
      else overriddenImage cr (matched.matchedImage c.name)
        (explicitImage c.name cr.spec.driver.sideCars) (timesResolved c.name cr.spec.driver.sideCars)
        (defaultImage k8sVersion c) := by
  have hvalue := c.value_decoded (room c)
  have hheld := c.held_decoded (room c)
  unfold nodeSideCar at h
  generalize c.decoded (room c) = r at h hvalue hheld
  obtain ⟨m, v⟩ := r
  dsimp only at h hvalue hheld
  subst hvalue
  obtain ⟨m₁, h₁, h⟩ := Option.bind_eq_some_iff.mp h
  obtain ⟨himage, hover₁⟩ := replaceAllContainerImageApplyAt_spec hheld h₁
  split at h
  next hname =>
    cases h
    rw [if_pos hname]
    exact replaceAllContainerImageApply_image himage
  next hname =>
    obtain ⟨⟨m₂, v₂⟩, h₂, h⟩ := Option.bind_eq_some_iff.mp h
    cases h
    obtain ⟨hupdate, hover₂⟩ := updateContainerApplyAt_spec hover₁.held h₂
    have hshown : (v.value m₂).image = (v₂.value m₂).image := by
      rw [hover₂.same]
      rfl
    rw [if_neg hname, hshown, updateContainerApply_image hupdate,
      replaceAllContainerImageApply_image himage]
    rfl

/-- What one container of the DaemonSet gets. -/
theorem nodeContainer_image_iff {matched' : VersionSpec} (hresolved : Resolved cr matched)
    (hsame : matched.SameButDriver matched')
    (h : nodeContainer cr k8sVersion room spare (matched.images.bind (· cr.spec.driver.csiDriverType.text))
      matched' c = some (some d)) :
    d.image = containerImage cr matched k8sVersion c ↔ NodeOnce cr matched k8sVersion c := by
  unfold NodeOnce
  by_cases hdriver : c.name = "driver"
  · have hname : isDriverContainer c.name = true := by rw [hdriver]; rfl
    have himage : d.image = overriddenImage cr (matchedDriver cr matched) (commonImage cr) 1 c.image := by
      unfold nodeContainer nodeDriver at h
      rw [if_pos hdriver] at h
      obtain ⟨c₁, h₁, h⟩ := Option.bind_eq_some_iff.mp h
      rw [driverContainer_name cr h₁, if_pos hdriver] at h
      split at h
      · cases h
      · cases h
        rw [hresolved.found_eq] at h₁
        exact driverContainer_image h₁
    rw [if_pos hdriver, himage, containerImage, if_pos hname]
    exact iff_of_true rfl trivial
  · have himage := nodeSideCar_image (nodeContainer_sideCar hdriver h)
    rw [if_neg hdriver]
    cases hname : isDriverContainer c.name with
    | true =>
        rw [hname, if_pos rfl, defaultImage_driver hname] at himage
        rw [if_pos rfl, himage, eq_comm]
    | false =>
        rw [hname, if_neg Bool.false_ne_true] at himage
        rw [if_neg Bool.false_ne_true]
        exact sideCar_image_iff hsame hname himage

end DaemonSet

/-! ## Init containers -/

section Record

variable {cr : ContainerStorageModule} {matched : VersionSpec}

/-- An image that is recorded for a version is one of its images. -/
theorem Resolved.record (h : Resolved cr matched) (hversion : matched.version ≠ "") (name image : String) :
    Resolved cr (recordMatchedContainerImage matched name image) := by
  cases h with
  | unmatched => exact absurd rfl hversion
  | entry hne hsame hvalid =>
      unfold recordMatchedContainerImage
      split
      · exact .entry hne hsame hvalid
      next hgiven =>
        refine .entry hne hsame fun key => ?_
        rw [not_or] at hgiven
        by_cases hkey : key = name
        · simp [hkey, hgiven.2]
        · have hold := hvalid key
          cases himages : matched.images <;> simp_all

theorem Resolved.nodeMatched (h : Resolved cr matched) (containers : List ContainerApply) :
    Resolved cr (nodeMatched cr matched containers) := by
  unfold CsmOperator.nodeMatched
  cases hfound : matched.images.bind (· cr.spec.driver.csiDriverType.text) with
  | none =>
      have hnothing : ∀ matched : VersionSpec,
          containers.foldl (recordNodeDriver none) matched = matched := by
        induction containers with
        | nil => exact fun _ => rfl
        | cons c containers ih => exact fun matched => ih matched
      rwa [hnothing]
  | some image =>
      have hversion : matched.version ≠ "" := by
        cases h with
        | unmatched => cases hfound
        | entry hne hsame _ => exact hsame ▸ hne
      clear hfound
      induction containers generalizing matched with
      | nil => exact h
      | cons c containers ih =>
          rw [List.foldl_cons]
          unfold recordNodeDriver
          dsimp only
          split
          · exact ih (h.record hversion _ _) (by rwa [version_recordMatchedContainerImage])
          · exact ih h hversion

end Record

section Entries

variable (cr : ContainerStorageModule) (mdmVar name : String)

theorem explicitImage_congr {entries entries' : List ContainerTemplate}
    (h : List.Forall₂ (fun a b => a.name = b.name ∧ a.image = b.image) entries entries') :
    explicitImage name entries = explicitImage name entries' ∧
      entries.countP (·.name = name) = entries'.countP (·.name = name) := by
  induction h with
  | nil => exact ⟨rfl, rfl⟩
  | cons hentry _ ih =>
      rw [explicitImage, explicitImage, List.countP_cons, List.countP_cons, ih.1, ih.2, hentry.1, hentry.2]
      exact ⟨rfl, rfl⟩

/-- What is set for the SDC names no image, and adds at most the one entry there has to be. -/
theorem explicitImage_sdcInitContainers :
    explicitImage name (sdcInitContainers mdmVar cr) = explicitImage name cr.spec.driver.initContainers ∧
      timesResolved name (sdcInitContainers mdmVar cr) =
        timesResolved name cr.spec.driver.initContainers := by
  unfold sdcInitContainers
  dsimp only
  split
  next hnone =>
    have hempty : cr.spec.driver.initContainers = [] := by simpa using hnone.1
    rw [hempty]
    unfold timesResolved
    by_cases hname : "sdc" = name <;> simp [explicitImage, hname]
  next =>
    have hsame : List.Forall₂ (fun a b => a.name = b.name ∧ a.image = b.image)
        (cr.spec.driver.initContainers.map fun initcontainer =>
          if initcontainer.name = "sdc" ∧ sdcEnabled cr then
            { initcontainer with envs := setMDM mdmVar initcontainer.envs }
          else initcontainer) cr.spec.driver.initContainers := by
      induction cr.spec.driver.initContainers with
      | nil => exact .nil
      | cons ctr entries ih =>
          refine .cons ?_ ih
          dsimp only
          split_ifs <;> exact ⟨rfl, rfl⟩
    obtain ⟨himage, hcount⟩ := explicitImage_congr name hsame
    unfold timesResolved
    rw [himage, hcount]
    exact ⟨rfl, rfl⟩

end Entries

section Init

variable (cr : ContainerStorageModule) (matched recorded : VersionSpec) (k8sVersion : K8sImagesConfig)

/-- The image that an init container should get; `mdm-container` runs the image of the driver. -/
def initContainerImage (c : ContainerApply) : Option String :=
  let explicit := explicitImage c.name cr.spec.driver.initContainers
  if c.name = "mdm-container" then
    priorityImage cr
      (if matchedDriver cr matched ≠ "" then matchedDriver cr matched else recorded.matchedImage c.name)
      (if commonImage cr ≠ "" then commonImage cr else explicit) (defaultImage k8sVersion c)
  else priorityImage cr (recorded.matchedImage c.name) explicit (defaultImage k8sVersion c)

/-- The init containers of the SDC are resolved once more than the others, and those of other drivers than
PowerFlex do not get the images that the CR names. -/
def InitOnce (c : ContainerApply) : Prop :=
  let explicit := explicitImage c.name cr.spec.driver.initContainers
  let n := timesResolved c.name cr.spec.driver.initContainers
  let own := recorded.matchedImage c.name
  if cr.spec.driver.csiDriverType = .powerFlex then
    if c.name = "mdm-container" then matchedDriver cr matched = "" →
      (own ≠ "" → resolveImage own cr = own) ∧
        (own = "" → ResolvesOnce cr (n + 1) (defaultImage k8sVersion c))
    else own = "" → ResolvesOnce cr (if c.name = "sdc" then n + 1 else n) (defaultImage k8sVersion c)
  else (c.name = "mdm-container" → commonImage cr = "") → explicit ≠ "" →
    defaultImage k8sVersion c = some explicit

instance (c : ContainerApply) : Decidable (InitOnce cr matched recorded k8sVersion c) := by
  unfold InitOnce
  infer_instance

variable {cr matched recorded k8sVersion} {c c' : ContainerApply} {t : Option String} {e : String} {n : Nat}

/-- Resolving once more. -/
theorem overriddenImage_resolved (cr : ContainerStorageModule) (e : String) (n : Nat) (t : Option String) :
    (if cr.spec.customRegistry ≠ "" then (overriddenImage cr "" e n t).map (resolveImage · cr)
      else overriddenImage cr "" e n t) = overriddenImage cr "" e (n + 1) t := by
  unfold overriddenImage
  rw [if_neg (not_not.mpr rfl), if_neg (not_not.mpr rfl)]
  split_ifs with hregistry
  · rw [Option.map_map, Function.iterate_succ']
  · rfl
  · rfl

theorem storeResolved_image (h : c.storeResolved cr = some c') : c'.image = c.image.map (resolveImage · cr) := by
  obtain ⟨image, himage, rfl⟩ := ContainerApply.storeResolved_eq h
  rw [himage]
  rfl

/-- The image of `sdc` once it was overridden. -/
theorem sdcContainer_image {updatedCr : ContainerStorageModule} (hresolved : Resolved cr recorded)
    (hname : c.name = "sdc") (h : sdcContainer cr updatedCr recorded c = some c') :
    c'.image = if recorded.matchedImage c.name ≠ "" then some (recorded.matchedImage c.name)
      else if updatedCr.spec.customRegistry ≠ "" then c.image.map (resolveImage · cr) else c.image := by
  unfold sdcContainer at h
  rw [hresolved.found_eq, ← hname] at h
  by_cases hmatched : recorded.matchedImage c.name ≠ ""
  · rw [if_pos hmatched] at h ⊢
    cases h
    rfl
  · rw [if_neg hmatched] at h ⊢
    dsimp only at h
    split_ifs at h ⊢ with hregistry
    · exact storeResolved_image h
    · cases h
      rfl

theorem mdmContainer_image {updatedCr : ContainerStorageModule} {mdmImage : String}
    (h : mdmContainer cr updatedCr mdmImage c = some c') :
    c'.image = if mdmImage ≠ "" then some mdmImage
      else if updatedCr.spec.customRegistry ≠ "" then
        (if commonImage cr ≠ "" then some (commonImage cr) else c.image).map (resolveImage · cr)
      else if commonImage cr ≠ "" then some (commonImage cr) else c.image := by
  unfold mdmContainer at h
  unfold commonImage
  cases hcommon : cr.spec.driver.common with
  | none =>
      rw [hcommon] at h
      dsimp only at h
      rw [Option.map_none, Option.getD_none, if_neg (not_not.mpr rfl)]
      split_ifs at h ⊢ with hmdm hregistry
      · cases h
        rfl
      · exact storeResolved_image h
      · cases h
        rfl
  | some common =>
      rw [hcommon] at h
      dsimp only at h
      rw [Option.map_some, Option.getD_some]
      have himage : (if common.image ≠ "" then { c with image := some common.image } else c).image =
          if common.image ≠ "" then some common.image else c.image := by
        split_ifs <;> rfl
      rw [← himage]
      split_ifs at h ⊢ with hmdm hregistry
      · cases h
        rfl
      all_goals first | exact storeResolved_image h | (cases h; rfl)

/-- A CR that names an image has no version, and so no matched image and no registry. -/
theorem priorityImage_explicit (hschema : SchemaAllows cr) {m : String}
    (hm : m ≠ "" → cr.spec.version ≠ "") (he : cr.spec.version ≠ "" → e = "") (hne : e ≠ "") :
    priorityImage cr m e t = some e := by
  have hversion : cr.spec.version = "" := not_not.mp fun h => hne (he h)
  have hmatched : m = "" := not_not.mp fun h => hm h hversion
  have hregistry : cr.spec.customRegistry = "" := not_not.mp fun h => hschema.customRegistry h hversion
  unfold priorityImage overriddenImage
  rw [if_neg (not_not.mpr hmatched), if_neg (not_not.mpr hregistry), if_pos hne]

/-- The image that the CR names is left out. -/
theorem unnamed_image_iff (hschema : SchemaAllows cr) {m : String} (hm : m ≠ "" → cr.spec.version ≠ "")
    (he : cr.spec.version ≠ "" → e = "") :
    overriddenImage cr m "" 1 t = priorityImage cr m e t ↔ (e ≠ "" → t = some e) := by
  by_cases hne : e = ""
  · rw [hne]
    exact iff_of_true rfl fun h => absurd rfl h
  · rw [priorityImage_explicit hschema hm he hne]
    have hversion : cr.spec.version = "" := not_not.mp fun h => hne (he h)
    have hmatched : m = "" := not_not.mp fun h => hm h hversion
    have hregistry : cr.spec.customRegistry = "" := not_not.mp fun h => hschema.customRegistry h hversion
    unfold overriddenImage
    rw [if_neg (not_not.mpr hmatched), if_neg (not_not.mpr hregistry), if_neg (not_not.mpr rfl)]
    exact ⟨fun h _ => h, fun h => h hne⟩

/-- The image of `mdm-container` without one of the driver: it is resolved once more, whatever it is. -/
theorem mdm_image_iff (hschema : SchemaAllows cr) {m : String} (hm : m ≠ "" → cr.spec.version ≠ "") :
    (if cr.spec.customRegistry ≠ "" then
        (if commonImage cr ≠ "" then some (commonImage cr) else overriddenImage cr m e n t).map
          (resolveImage · cr)
      else if commonImage cr ≠ "" then some (commonImage cr) else overriddenImage cr m e n t) =
        priorityImage cr m (if commonImage cr ≠ "" then commonImage cr else e) t ↔
      (m ≠ "" → resolveImage m cr = m) ∧ (m = "" → ResolvesOnce cr (n + 1) t) := by
  by_cases hregistry : cr.spec.customRegistry = ""
  · rw [if_neg (not_not.mpr hregistry)]
    refine iff_of_true ?_
      ⟨fun _ => resolveImage_of_no_registry hregistry m, fun _ => resolvesOnce_of_no_registry hregistry⟩
    by_cases hcommon : commonImage cr = ""
    · rw [if_neg (not_not.mpr hcommon), if_neg (not_not.mpr hcommon)]
      exact overriddenImage_eq_priority_iff.mpr fun _ => resolvesOnce_of_no_registry hregistry
    · rw [if_pos hcommon, if_pos hcommon]
      exact (priorityImage_explicit hschema hm hschema.commonImage hcommon).symm
  · have hversion := hschema.customRegistry hregistry
    have hcommon := hschema.commonImage hversion
    rw [if_pos hregistry, if_neg (not_not.mpr hcommon), if_neg (not_not.mpr hcommon)]
    by_cases hmatched : m = ""
    · have hagain := overriddenImage_resolved cr e n t
      rw [if_pos hregistry] at hagain
      rw [hmatched, hagain, overriddenImage_eq_priority_iff]
      exact ⟨fun h => ⟨fun hne => absurd rfl hne, h⟩, fun h => h.2⟩
    · have hpriority : priorityImage cr m e t = some m := if_pos hmatched
      have hoverridden : overriddenImage cr m e n t = some m := if_pos hmatched
      rw [hpriority, hoverridden, Option.map_some, Option.some.injEq]
      exact ⟨fun h => ⟨fun _ => h, fun h => absurd h hmatched⟩, fun h => h.1 hmatched⟩

/-- The images as the loop over the init containers finds them: that of the driver may have been recorded
for `mdm-container`. -/
structure SameButMdm (cr : ContainerStorageModule) (driver : String) (recorded matched' : VersionSpec) :
    Prop where
  resolved : Resolved cr matched'
  version : matched'.version = recorded.version
  same : ∀ name, name ≠ "mdm-container" → matched'.matchedImage name = recorded.matchedImage name
  unchanged : driver = "" → matched' = recorded

theorem recordMatchedContainerImage_found {matched : VersionSpec} {name image : String}
    (h : matched.images.bind (· name) = some image) : recordMatchedContainerImage matched name image = matched := by
  unfold recordMatchedContainerImage
  split
  · rfl
  · cases matched with
    | mk version images =>
        cases images with
        | none => cases h
        | some images =>
            have hname : images name = some image := h
            rw [Option.getD_some, ← hname, Function.update_eq_self]

theorem SameButMdm.record {driver : String} {matched' : VersionSpec}
    (h : SameButMdm cr driver recorded matched') (hversion : driver ≠ "" → recorded.version ≠ "")
    (c : ContainerApply) : SameButMdm cr driver recorded (recordInitContainer driver matched' c) := by
  unfold recordInitContainer
  split_ifs with hmdm hsdc
  · by_cases hdriver : driver = ""
    · have hsame : recordMatchedContainerImage matched' c.name driver = matched' := by
        unfold recordMatchedContainerImage
        rw [if_pos (.inr hdriver)]
      rwa [hsame]
    · refine ⟨h.resolved.record (h.version ▸ hversion hdriver) _ _, ?_, fun name hname => ?_,
        fun h => absurd h hdriver⟩
      · rw [version_recordMatchedContainerImage, h.version]
      · rw [← h.same name hname]
        unfold VersionSpec.matchedImage
        rw [version_recordMatchedContainerImage, image_recordMatchedContainerImage (hmdm ▸ hname)]
  · split
    next sdcImage hfound => rwa [hsdc, recordMatchedContainerImage_found hfound]
    next => exact h
  · exact h

/-- What the entries make of an init container, before the ones of the SDC are looked at. -/
theorem initEntries_image {updatedCr : ContainerStorageModule} {mdmImage : String} {d : ContainerApply}
    (h : nodeInitContainer cr k8sVersion updatedCr mdmImage matched c = some d) :
    ∃ c₂ : ContainerApply, c₂.name = c.name ∧
      c₂.image = overriddenImage cr (matched.matchedImage c.name)
        (explicitImage c.name updatedCr.spec.driver.initContainers)
        (timesResolved c.name updatedCr.spec.driver.initContainers) (defaultImage k8sVersion c) ∧
      (if c.name = "mdm-container" then mdmContainer cr updatedCr mdmImage c₂
        else if c.name = "sdc" then sdcContainer cr updatedCr matched c₂ else some c₂) = some d := by
  obtain ⟨c₁, h₁, h⟩ := Option.bind_eq_some_iff.mp h
  obtain ⟨c₂, h₂, h⟩ := Option.bind_eq_some_iff.mp h
  have hname₁ : c₁.name = c.name := (replaceAllContainerImageApply_same h₁).1.name
  have hname₂ : c₂.name = c.name := (updateContainerApply_frame h₂).1.trans hname₁
  have himage := updateContainerApply_image h₂
  rw [hname₁, replaceAllContainerImageApply_image h₁] at himage
  rw [hname₂] at h
  exact ⟨c₂, hname₂, himage, h⟩

/-- An init container of PowerFlex. -/
theorem powerFlexInit_image_iff (hschema : SchemaAllows cr) {driver : String} {matched' : VersionSpec}
    {mdmVar : String} {d : ContainerApply} (hpowerFlex : cr.spec.driver.csiDriverType = .powerFlex)
    (hdriver : driver = matchedDriver cr matched) (hrecorded : Resolved cr recorded)
    (hsame : SameButMdm cr driver recorded matched')
    (h : nodeInitContainer cr k8sVersion (setSDCinitContainers mdmVar cr) driver matched' c = some d) :
    d.image = initContainerImage cr matched recorded k8sVersion c ↔
      InitOnce cr matched recorded k8sVersion c := by
  obtain ⟨c₂, hname₂, himage, h⟩ := initEntries_image h
  have hentries := explicitImage_sdcInitContainers cr mdmVar c.name
  rw [show (setSDCinitContainers mdmVar cr).spec.driver.initContainers = sdcInitContainers mdmVar cr from rfl,
    hentries.1, hentries.2] at himage
  have hregistry : (setSDCinitContainers mdmVar cr).spec.customRegistry = cr.spec.customRegistry := rfl
  unfold initContainerImage InitOnce
  dsimp only
  rw [if_pos hpowerFlex]
  by_cases hmdm : c.name = "mdm-container"
  · rw [if_pos hmdm] at h ⊢
    rw [if_pos hmdm]
    have hd := mdmContainer_image h
    by_cases hnone : driver = ""
    · obtain rfl := hsame.unchanged hnone
      rw [if_neg (not_not.mpr hnone), hregistry, himage] at hd
      rw [hd, ← hdriver, if_neg (not_not.mpr hnone), mdm_image_iff hschema fun hm => hrecorded.version_ne hm]
      exact ⟨fun h _ => h, fun h => h hnone⟩
    · rw [if_pos hnone] at hd
      rw [hd, ← hdriver, if_pos hnone]
      exact iff_of_true (if_pos hnone).symm fun h => absurd h hnone
  · rw [if_neg hmdm] at h ⊢
    rw [if_neg hmdm]
    rw [hsame.same c.name hmdm] at himage
    by_cases hsdc : c.name = "sdc"
    · rw [if_pos hsdc] at h ⊢
      have hd := sdcContainer_image hsame.resolved (hname₂.trans hsdc) h
      rw [hname₂, hsame.same c.name hmdm, hregistry, himage] at hd
      have htwice : d.image = overriddenImage cr (recorded.matchedImage c.name)
          (explicitImage c.name cr.spec.driver.initContainers)
          (timesResolved c.name cr.spec.driver.initContainers + 1) (defaultImage k8sVersion c) := by
        by_cases hm : recorded.matchedImage c.name = ""
        · rw [hd, if_neg (not_not.mpr hm), hm]
          exact overriddenImage_resolved ..
        · rw [hd, if_pos hm]
          exact (if_pos hm).symm
      rw [htwice]
      exact overriddenImage_eq_priority_iff
    · rw [if_neg hsdc] at h ⊢
      cases h
      rw [himage]
      exact overriddenImage_eq_priority_iff

/-- An init container of another driver. -/
theorem otherInit_image_iff (hschema : SchemaAllows cr) {driver : String} {matched' : VersionSpec}
    {d : ContainerApply} (hother : cr.spec.driver.csiDriverType ≠ .powerFlex)
    (hdriver : driver = matchedDriver cr matched) (hresolved : Resolved cr matched)
    (hrecorded : Resolved cr recorded) (hsame : SameButMdm cr driver recorded matched')
    (h : nodeInitContainer cr k8sVersion {} driver matched' c = some d) :
    d.image = initContainerImage cr matched recorded k8sVersion c ↔
      InitOnce cr matched recorded k8sVersion c := by
  obtain ⟨c₂, hname₂, himage, h⟩ := initEntries_image h
  have himage : c₂.image = overriddenImage cr (matched'.matchedImage c.name) "" 1
      (defaultImage k8sVersion c) := himage
  have hnamed : cr.spec.version ≠ "" → explicitImage c.name cr.spec.driver.initContainers = "" :=
    fun hversion => explicitImage_eq_empty (hschema.initContainers hversion)
  have hunnamed : overriddenImage cr (recorded.matchedImage c.name) "" 1 (defaultImage k8sVersion c) =
      priorityImage cr (recorded.matchedImage c.name) (explicitImage c.name cr.spec.driver.initContainers)
        (defaultImage k8sVersion c) ↔ (explicitImage c.name cr.spec.driver.initContainers ≠ "" →
          defaultImage k8sVersion c = some (explicitImage c.name cr.spec.driver.initContainers)) :=
    unnamed_image_iff hschema (fun hm => hrecorded.version_ne hm) hnamed
  unfold initContainerImage InitOnce
  dsimp only
  rw [if_neg hother]
  by_cases hmdm : c.name = "mdm-container"
  · rw [if_pos hmdm] at h ⊢
    have hd := mdmContainer_image h
    by_cases hnone : driver = ""
    · obtain rfl := hsame.unchanged hnone
      rw [if_neg (not_not.mpr hnone), if_neg (not_not.mpr rfl), himage] at hd
      rw [hd, ← hdriver, if_neg (not_not.mpr hnone)]
      by_cases hcommon : commonImage cr = ""
      · rw [if_neg (not_not.mpr hcommon), if_neg (not_not.mpr hcommon), hunnamed]
        exact ⟨fun h _ => h, fun h => h fun _ => hcommon⟩
      · rw [if_pos hcommon, if_pos hcommon]
        refine iff_of_true ?_ fun h => absurd (h hmdm) hcommon
        exact (priorityImage_explicit hschema (fun hm => hrecorded.version_ne hm) hschema.commonImage
          hcommon).symm
    · rw [if_pos hnone] at hd
      rw [hd, ← hdriver, if_pos hnone]
      refine iff_of_true (if_pos hnone).symm fun _ hne => ?_
      exact absurd (hnamed (hresolved.version_ne (hdriver ▸ hnone))) hne
  · rw [if_neg hmdm] at h ⊢
    rw [hsame.same c.name hmdm] at himage
    have hd : d.image = overriddenImage cr (recorded.matchedImage c.name) "" 1
        (defaultImage k8sVersion c) := by
      split_ifs at h with hsdc
      · have hd := sdcContainer_image hsame.resolved (hname₂.trans hsdc) h
        rw [hname₂, hsame.same c.name hmdm, if_neg (not_not.mpr rfl), himage] at hd
        rw [hd]
        split_ifs with hm
        · exact (if_pos hm).symm
        · rfl
      · cases h
        exact himage
    rw [hd, hunnamed]
    exact ⟨fun h _ => h, fun h => h fun h => absurd h hmdm⟩

/-- The loop over the init containers treats each of them on its own. -/
theorem nodeInitContainers_forall₂ {updatedCr : ContainerStorageModule} {driver : String}
    {matched' : VersionSpec} {containers ds : List ContainerApply}
    (hversion : driver ≠ "" → recorded.version ≠ "") (hsame : SameButMdm cr driver recorded matched')
    (h : nodeInitContainers cr k8sVersion updatedCr driver matched' containers = some ds) :
    List.Forall₂ (fun c d => ∃ matched'', SameButMdm cr driver recorded matched'' ∧
      nodeInitContainer cr k8sVersion updatedCr driver matched'' c = some d) containers ds := by
  induction containers generalizing matched' ds with
  | nil =>
      cases h
      exact .nil
  | cons c containers ih =>
      unfold nodeInitContainers at h
      obtain ⟨d, hd, h⟩ := Option.bind_eq_some_iff.mp h
      obtain ⟨rest, hrest, h⟩ := Option.bind_eq_some_iff.mp h
      cases h
      exact .cons ⟨_, hsame, hd⟩ (ih (hsame.record hversion c) hrest)

end Init

/-! ## The proxy of the authorization module -/

section Proxy

variable (cr : ContainerStorageModule) (matched : VersionSpec)

/-- The components of the authorization module, as `getAuthApplyCR` leaves them. -/
def authComponents : List ContainerTemplate :=
  (cr.getModule .authorization).components.map requestSkip

/-- The container that `AuthInjectDeployment` and `AuthInjectDaemonset` add: the last step of
`getAuthApplyCR` and the step after it, the only ones that change its image. -/
def injectedProxy (c : ContainerApply) : Option ContainerApply :=
  (resolveProxyImage cr matched c).bind (updateSideCarApply (authComponents cr) · cr matched)

/-- The image that the proxy should get. -/
def proxyImage (c : ContainerApply) : Option String :=
  priorityImage cr
    (if matched.matchedImage c.name ≠ "" then matched.matchedImage c.name
      else matched.matchedImage karaviProxy)
    (explicitImage c.name (authComponents cr)) c.image

/-- The proxy is resolved once more than a sidecar, whatever its image is by then. -/
def ProxyOnce (c : ContainerApply) : Prop :=
  let n := timesResolved c.name (authComponents cr)
  let image := matched.matchedImage karaviProxy
  matched.matchedImage c.name = "" →
    (image ≠ "" → (resolveImage · cr)^[n] image = image) ∧ (image = "" → ResolvesOnce cr (n + 1) c.image)

instance (c : ContainerApply) : Decidable (ProxyOnce cr matched c) := by
  unfold ProxyOnce
  infer_instance

variable {cr matched} {c d : ContainerApply}

theorem resolveProxyImage_image (h : resolveProxyImage cr matched c = some d) :
    d.name = c.name ∧ d.image = overriddenImage cr (matched.matchedImage karaviProxy) "" 1 c.image := by
  unfold resolveProxyImage at h
  unfold overriddenImage
  split_ifs at h with hmatched hregistry
  · cases h
    rw [if_pos (matchedImage_ne_iff.mpr hmatched), matchedImage_eq_image (matchedImage_ne_iff.mpr hmatched)]
    exact ⟨rfl, rfl⟩
  all_goals
    rw [if_neg fun hne => hmatched (matchedImage_ne_iff.mp hne)]
  · obtain ⟨image, himage, rfl⟩ := ContainerApply.storeResolved_eq h
    rw [if_pos hregistry, himage, Function.iterate_one]
    exact ⟨rfl, rfl⟩
  · cases h
    rw [if_neg hregistry, if_neg (not_not.mpr rfl)]
    exact ⟨rfl, rfl⟩

theorem image_requestSkip (ctr : ContainerTemplate) : (requestSkip ctr).image = ctr.image := by
  unfold requestSkip
  split <;> rfl

theorem authComponents_image (hschema : SchemaAllows cr) (hversion : cr.spec.version ≠ "") :
    ∀ ctr ∈ authComponents cr, ctr.image = "" := by
  unfold authComponents ContainerStorageModule.getModule
  intro ctr' hmem
  obtain ⟨ctr, hctr, rfl⟩ := List.mem_map.mp hmem
  rw [image_requestSkip]
  cases hfound : cr.spec.modules.find? (·.name = .authorization) with
  | none =>
      rw [hfound] at hctr
      exact absurd hctr List.not_mem_nil
  | some m =>
      rw [hfound] at hctr
      exact hschema.components hversion m (List.mem_of_find?_eq_some hfound) ctr hctr

theorem injectedProxy_image_iff (hschema : SchemaAllows cr) (hresolved : Resolved cr matched)
    (h : injectedProxy cr matched c = some d) :
    d.image = proxyImage cr matched c ↔ ProxyOnce cr matched c := by
  obtain ⟨c₁, h₁, h⟩ := Option.bind_eq_some_iff.mp h
  obtain ⟨hname, himage₁⟩ := resolveProxyImage_image h₁
  have himage := updateContainerApply_image h
  rw [hname, himage₁] at himage
  unfold proxyImage ProxyOnce
  dsimp only
  by_cases hown : matched.matchedImage c.name = ""
  swap
  · rw [himage, if_pos hown]
    refine iff_of_true ?_ fun h => absurd h hown
    unfold priorityImage overriddenImage
    rw [if_pos hown, if_pos hown]
  rw [himage, hown, if_neg (not_not.mpr rfl)]
  by_cases hproxy : matched.matchedImage karaviProxy = ""
  · rw [hproxy, overriddenImage_overriddenImage]
    have hexplicit : (if explicitImage c.name (authComponents cr) ≠ "" then
        explicitImage c.name (authComponents cr) else "") = explicitImage c.name (authComponents cr) := by
      split_ifs with hne
      · rfl
      · exact (not_not.mp hne).symm
    rw [hexplicit, overriddenImage_eq_priority_iff]
    exact ⟨fun h _ => ⟨fun hne => absurd rfl hne, h⟩, fun h => (h rfl).2⟩
  · have hpriority : priorityImage cr (matched.matchedImage karaviProxy)
        (explicitImage c.name (authComponents cr)) c.image = some (matched.matchedImage karaviProxy) :=
      if_pos hproxy
    have hinner : overriddenImage cr (matched.matchedImage karaviProxy) "" 1 c.image =
        some (matched.matchedImage karaviProxy) := if_pos hproxy
    have hexplicit : explicitImage c.name (authComponents cr) = "" :=
      explicitImage_eq_empty (authComponents_image hschema (hresolved.version_ne hproxy))
    rw [hpriority, hinner, hexplicit]
    unfold overriddenImage
    rw [if_neg (not_not.mpr rfl)]
    by_cases hregistry : cr.spec.customRegistry ≠ ""
    · rw [if_pos hregistry, Option.map_some, Option.some.injEq]
      exact ⟨fun h _ => ⟨fun _ => h, fun h => absurd h hproxy⟩, fun h => (h rfl).1 hproxy⟩
    · have hid : (resolveImage · cr) = id := funext (resolveImage_of_no_registry (not_not.mp hregistry))
      rw [if_neg hregistry, if_neg (not_not.mpr rfl), hid, Function.iterate_id]
      exact iff_of_true rfl fun _ => ⟨fun _ => rfl, fun h => absurd h hproxy⟩

end Proxy

/-! ## The whole driver -/

/-- The containers of the templates of a driver, and the proxy that may be added. -/
structure DriverTemplate where
  deployment : List ContainerApply
  daemonSet : List ContainerApply
  initContainers : List ContainerApply
  authProxy : ContainerApply

section Whole

variable (cr : ContainerStorageModule) (matched : VersionSpec) (k8sVersion : K8sImagesConfig)
  (mdmVar : String) (template result : DriverTemplate)

/-- What `GetController`, `GetNode` and `AuthInjectDeployment`, `AuthInjectDaemonset` make of the
templates. -/
structure Rendered (room : ContainerApply → List String) (spare : Nat → List String) : Prop where
  controller : getControllerContainers cr k8sVersion matched template.deployment = some result.deployment
  node : getNode cr k8sVersion room spare mdmVar matched template.daemonSet template.initContainers =
    some (result.daemonSet, result.initContainers)
  authProxy : injectedProxy cr matched template.authProxy = some result.authProxy

/-- Every container has its image by priority. -/
structure ImagesByPriority : Prop where
  deployment : List.Forall₂ (fun x d => d.image = containerImage cr matched k8sVersion x.2)
    (keptByController cr template.deployment) result.deployment
  daemonSet : List.Forall₂ (fun c d => d.image = containerImage cr matched k8sVersion c)
    (keptByNode cr template.daemonSet) result.daemonSet
  initContainers : List.Forall₂
    (fun c d => d.image =
      initContainerImage cr matched (nodeMatched cr matched template.daemonSet) k8sVersion c)
    (keptInitContainers (updatedCr cr mdmVar) template.initContainers) result.initContainers
  authProxy : result.authProxy.image = proxyImage cr matched template.authProxy

/-- No container is one that is resolved again with another result, or passed over. -/
structure ImagesOnce : Prop where
  deployment : ∀ x ∈ keptByController cr template.deployment, ControllerOnce cr matched k8sVersion x
  daemonSet : ∀ c ∈ keptByNode cr template.daemonSet, NodeOnce cr matched k8sVersion c
  initContainers : ∀ c ∈ keptInitContainers (updatedCr cr mdmVar) template.initContainers,
    InitOnce cr matched (nodeMatched cr matched template.daemonSet) k8sVersion c
  authProxy : ProxyOnce cr matched template.authProxy

variable {cr matched k8sVersion mdmVar template result} {room : ContainerApply → List String}
  {spare : Nat → List String}

theorem deployment_iff
    (h : getControllerContainers cr k8sVersion matched template.deployment = some result.deployment) :
    List.Forall₂ (fun x d => d.image = containerImage cr matched k8sVersion x.2)
        (keptByController cr template.deployment) result.deployment ↔
      ∀ x ∈ keptByController cr template.deployment, ControllerOnce cr matched k8sVersion x := by
  have hdriver : (if matched.version ≠ "" then matched.image cr.spec.driver.csiDriverType.text else "") =
      if false then "" else matchedDriver cr matched := by
    unfold matchedDriver VersionSpec.matchedImage
    by_cases hversion : matched.version = "" <;> simp [hversion]
  unfold getControllerContainers at h
  rw [hdriver] at h
  refine forall₂_iff_forall (controllerContainers_forall₂ (.refl matched) h) ?_
  rintro x d ⟨matched', hsame, hd⟩
  exact controllerContainer_image_iff hsame hd

theorem daemonSet_iff (hresolved : Resolved cr matched)
    (h : getNodeContainers cr k8sVersion room spare matched template.daemonSet = some result.daemonSet) :
    List.Forall₂ (fun c d => d.image = containerImage cr matched k8sVersion c)
        (keptByNode cr template.daemonSet) result.daemonSet ↔
      ∀ c ∈ keptByNode cr template.daemonSet, NodeOnce cr matched k8sVersion c := by
  refine forall₂_iff_forall (nodeContainers_forall₂ (.refl matched) h) ?_
  rintro c d ⟨matched', hsame, hd⟩
  exact nodeContainer_image_iff hresolved hsame hd

theorem initContainers_iff (hschema : SchemaAllows cr) (hresolved : Resolved cr matched)
    {recorded : VersionSpec} (hrecorded : Resolved cr recorded) (hversion : recorded.version = matched.version)
    (h : getNodeInitContainers cr k8sVersion mdmVar (matched.image cr.spec.driver.csiDriverType.text) recorded
      template.initContainers = some result.initContainers) :
    List.Forall₂ (fun c d => d.image = initContainerImage cr matched recorded k8sVersion c)
        (keptInitContainers (updatedCr cr mdmVar) template.initContainers) result.initContainers ↔
      ∀ c ∈ keptInitContainers (updatedCr cr mdmVar) template.initContainers,
        InitOnce cr matched recorded k8sVersion c := by
  have hdriver : matched.image cr.spec.driver.csiDriverType.text = matchedDriver cr matched :=
    hresolved.image_eq _
  have hmatched : matched.image cr.spec.driver.csiDriverType.text ≠ "" → recorded.version ≠ "" := by
    rw [hdriver, hversion]
    exact fun hne => (matchedImage_ne_iff.mp hne).1
  have hstart : SameButMdm cr (matched.image cr.spec.driver.csiDriverType.text) recorded recorded :=
    ⟨hrecorded, rfl, fun _ _ => rfl, fun _ => rfl⟩
  refine forall₂_iff_forall (nodeInitContainers_forall₂ hmatched hstart h) ?_
  rintro c d ⟨matched', hsame, hd⟩
  by_cases hpowerFlex : cr.spec.driver.csiDriverType = .powerFlex
  · rw [updatedCr, if_pos hpowerFlex] at hd
    exact powerFlexInit_image_iff hschema hpowerFlex hdriver hrecorded hsame hd
  · rw [updatedCr, if_neg hpowerFlex] at hd
    exact otherInit_image_iff hschema hpowerFlex hdriver hresolved hrecorded hsame hd

theorem version_nodeMatched (containers : List ContainerApply) :
    (nodeMatched cr matched containers).version = matched.version := by
  unfold nodeMatched
  generalize matched.images.bind (· cr.spec.driver.csiDriverType.text) = image
  induction containers generalizing matched with
  | nil => rfl
  | cons c containers ih =>
      rw [List.foldl_cons, ih]
      exact ((VersionSpec.SameButDriver.refl matched).recordNode image c).version

end Whole

/-! ### The SDC of PowerFlex -/

/-- A PowerFlex driver whose images are taken from a mirror. -/
def mirroredFlex (retainImageRegistryPath : Bool) : ContainerStorageModule where
  name := "vxflexos"
  namesp := "vxflexos"
  spec :=
    { version := "v1.16.0"
      driver := { csiDriverType := .powerFlex }
      modules := [{ name := .authorization, enabled := true
                    components := [{ name := "karavi-authorization-proxy" }] }]
      customRegistry := "reg.io/dell"
      retainImageRegistryPath }

theorem schemaAllows_mirroredFlex (retain : Bool) : SchemaAllows (mirroredFlex retain) where
  configVersion _ := rfl
  commonImage _ := rfl
  sideCars _ _ h := by cases h
  components _ m hm ctr hctr := by
    obtain rfl := List.mem_singleton.mp hm
    obtain rfl := List.mem_singleton.mp hctr
    rfl
  initContainers _ _ h := by cases h
  customRegistry _ := by cases retain <;> decide
  retainImageRegistryPath _ := by cases retain <;> decide

def flexImages : K8sImagesConfig where
  attacher := "registry.k8s.io/sig/attacher:v4"
  sdcmonitor := "quay.io/sdc:5.0"

def containerOf (name image : String) : ContainerApply := { name, image := some image }

/-- A driver with one sidecar, the SDC and the proxy, each with an image of its own. -/
def flexContainers (image : String → String) : DriverTemplate where
  deployment := [containerOf "driver" (image "vxflexos:v2.16"),
    containerOf "attacher" (image "attacher:v4")]
  daemonSet := [containerOf "driver" (image "vxflexos:v2.16")]
  initContainers := [containerOf "sdc" (image "sdc:5.0")]
  authProxy := containerOf "karavi-authorization-proxy" (image "sidecar:v2.4")

def flexTemplate : DriverTemplate := flexContainers ("quay.io/csm/" ++ ·)

theorem rendered_flat : Rendered (mirroredFlex false) {} flexImages "10.0.0.1" flexTemplate
    (flexContainers ("reg.io/dell/" ++ ·)) (fun _ => []) (fun _ => []) where
  controller := by decide +kernel
  node := by decide +kernel
  authProxy := by decide +kernel

/-- With the paths the init container of the SDC and the proxy are resolved twice. -/
def flexPaths : DriverTemplate where
  deployment := [containerOf "driver" "reg.io/dell/csm/vxflexos:v2.16",
    containerOf "attacher" "reg.io/dell/sig/attacher:v4"]
  daemonSet := [containerOf "driver" "reg.io/dell/csm/vxflexos:v2.16"]
  initContainers := [containerOf "sdc" "reg.io/dell/dell/sdc:5.0"]
  authProxy := containerOf "karavi-authorization-proxy" "reg.io/dell/dell/csm/sidecar:v2.4"

end CsmOperator
