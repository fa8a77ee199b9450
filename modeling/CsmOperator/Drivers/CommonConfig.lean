import CsmOperator.Drivers.PowerFlex.Sdc
import CsmOperator.OperatorUtils.SharedContainers

/-!
# The containers of a driver: `pkg/drivers/commonconfig.go`

The loops of `GetController` and `GetNode` over the containers of a template. Both drop the sidecars the
CR switches off, give the driver its image and environment, and override the others; `GetController`
overrides the copy `c` of a container and keeps it, `GetNode` overrides `containers[i]` and keeps the
copy.
-/

namespace CsmOperator

open Go

/-- `recordMatchedContainerImage` -/
def recordMatchedContainerImage (matched : VersionSpec) (containerName image : String) : VersionSpec :=
  if containerName = "" ∨ image = "" then matched
  else
    { matched with
      images := some (Function.update (matched.images.getD fun _ => none) containerName (some image)) }

/-- The names under which a template has the container of the driver. -/
def isDriverContainer (name : String) : Bool := name = "driver" || name = "objectstorage-provisioner"

/-- `removeContainer`: the first entry of the name decides, and a flag that is not set means what it
means for a container without an entry. -/
def removeContainer (offByDefault : Bool) (sideCars : List ContainerTemplate) (name : String) : Bool :=
  match (sideCars.find? (·.name = name)).bind (·.enabled) with
  | some enabled => !enabled
  | none => offByDefault

def removeControllerContainer (sideCars : List ContainerTemplate) (name : String) : Bool :=
  removeContainer (name = "csi-external-health-monitor-controller" || name = "external-health-monitor")
    sideCars name

def removeNodeContainer (sideCars : List ContainerTemplate) (name : String) : Bool :=
  removeContainer (name = "sdc-monitor") sideCars name

section

variable (cr : ContainerStorageModule)

/-- The image of the driver: a matched one, the template's in the custom registry, the CR's, or the
template's. The second is read through a pointer. -/
def driverImage (matchedImage : Option String) (image : Option String) : Option (Option String) :=
  match matchedImage with
  | some matchedImage => some (some matchedImage)
  | none =>
    if cr.spec.customRegistry ≠ "" then image.map fun image => some (resolveImage image cr)
    else
      match cr.spec.driver.common with
      | some common => if common.image ≠ "" then some (some common.image) else some image
      | none => some image

/-- The driver's image and environment; `envs` are those of the controller or of the node. -/
def driverContainer (matchedImage : Option String) (envs : List EnvVar) (c : ContainerApply) :
    Option ContainerApply := do
  let image ← driverImage cr matchedImage c.image
  let env ← replaceAllApplyCustomEnvs c.env cr.spec.driver.commonEnvs envs
  return { c with image, env }

def isDriverMetricsTLSEnabled : Bool :=
  cr.spec.driver.metrics.any fun m => m.enabled ∧ m.tlsCertSecret ≠ ""

def dynamicallyMountVolume (c : ContainerApply) (mount : VolumeMountApply) : ContainerApply :=
  if c.volumeMounts.any (·.name = mount.name) then c
  else { c with volumeMounts := c.volumeMounts ++ [mount] }

def dynamicallyAddEnvironmentVariable (c : ContainerApply) (envVar : EnvVarApply) : ContainerApply :=
  if c.env.any (·.name = envVar.name) then c else { c with env := c.env ++ [envVar] }

def setDriverMetrics (driverType : DriverType) (c : ContainerApply) : ContainerApply :=
  if driverType ≠ .powerFlex ∨ !isDriverMetricsTLSEnabled cr then c
  else
    let c := dynamicallyMountVolume c { name := "metrics-tls", mountPath := some "/etc/metrics-tls" }
    let c := dynamicallyAddEnvironmentVariable c
      { name := "X_CSI_METRICS_TLS_CERT_FILE", value := some "/etc/metrics-tls/tls.crt" }
    dynamicallyAddEnvironmentVariable c
      { name := "X_CSI_METRICS_TLS_KEY_FILE", value := some "/etc/metrics-tls/tls.key" }

variable (k8sVersion : K8sImagesConfig)

theorem driverContainer_name {matchedImage : Option String} {envs : List EnvVar} {c c' : ContainerApply}
    (h : driverContainer cr matchedImage envs c = some c') : c'.name = c.name := by
  obtain ⟨image, -, h⟩ := Option.bind_eq_some_iff.mp h
  obtain ⟨env, -, h⟩ := Option.bind_eq_some_iff.mp h
  cases h
  rfl

/-! ## `GetController` -/

/-- The part of the loop's body that is for the driver. -/
def controllerDriver (matchedDriverImage : String) (c : ContainerApply) : Option ContainerApply :=
  if isDriverContainer c.name then
    (driverContainer cr (if matchedDriverImage ≠ "" then some matchedDriverImage else none)
      ((cr.spec.driver.controller.map (·.envs)).getD []) c).map
      (setDriverMetrics cr cr.spec.driver.csiDriverType)
  else some c

/-- What becomes of a container of the Deployment; `none` inside is a container that is dropped. -/
def controllerContainer (matchedDriverImage : String) (matched : VersionSpec) (c : ContainerApply) :
    Option (Option ContainerApply) := do
  let c ← controllerDriver cr matchedDriverImage c
  if removeControllerContainer cr.spec.driver.sideCars c.name then return none
  let c ← replaceAllContainerImageApply k8sVersion c
  if isDriverContainer c.name then return some c
  return some (← updateSideCarApply cr.spec.driver.sideCars c cr matched)

/-- The loop over the containers of the Deployment. The matched image is cleared once it is used. -/
def controllerContainers :
    String → VersionSpec → List ContainerApply → Option (List ContainerApply)
  | _, _, [] => some []
  | matchedDriverImage, matched, c :: containers => do
    let usesMatched : Bool := isDriverContainer c.name && matchedDriverImage ≠ ""
    let matched' :=
      if usesMatched then recordMatchedContainerImage matched c.name matchedDriverImage else matched
    let c ← controllerContainer cr k8sVersion matchedDriverImage matched' c
    let newcontainers ←
      controllerContainers (if usesMatched then "" else matchedDriverImage) matched' containers
    return c.toList ++ newcontainers

def getControllerContainers (matched : VersionSpec) (containers : List ContainerApply) :
    Option (List ContainerApply) :=
  let matchedDriverImage :=
    if matched.version ≠ "" then matched.image cr.spec.driver.csiDriverType.text else ""
  controllerContainers cr k8sVersion matchedDriverImage matched containers

/-! ## `GetNode` -/

variable (room : ContainerApply → List String) (spare : Nat → List String)

/-- A container other than the driver: `containers[i]` is overridden, and `c`, a copy of it, is kept. -/
def nodeSideCar (matched : VersionSpec) (c : ContainerApply) : Option ContainerApply := do
  let (m, v) := c.decoded (room c)
  let m ← replaceAllContainerImageApplyAt k8sVersion m v
  if isDriverContainer c.name then return v.value m
  let (m, _) ← updateContainerApplyAt spare cr matched cr.spec.driver.sideCars m v
  return v.value m

def nodeDriver (image : Option String) (c : ContainerApply) : Option ContainerApply :=
  if c.name = "driver" then driverContainer cr image ((cr.spec.driver.node.map (·.envs)).getD []) c
  else some c

/-- What becomes of a container of the DaemonSet; `image` is the entry of the ConfigMap for the driver,
whatever version it is for. -/
def nodeContainer (image : Option String) (matched : VersionSpec) (c : ContainerApply) :
    Option (Option ContainerApply) := do
  let c ← nodeDriver cr image c
  if removeNodeContainer cr.spec.driver.sideCars c.name then return none
  -- the Kubernetes images have none for the driver
  if c.name = "driver" then return some c
  return some (← nodeSideCar cr k8sVersion room spare matched c)

/-- The matched images once the driver has been seen. -/
def recordNodeDriver (image : Option String) (matched : VersionSpec) (c : ContainerApply) : VersionSpec :=
  match image with
  | some image =>
    if c.name = "driver" then recordMatchedContainerImage matched c.name image else matched
  | none => matched

def nodeContainers (image : Option String) :
    VersionSpec → List ContainerApply → Option (List ContainerApply)
  | _, [] => some []
  | matched, c :: containers => do
    let matched' := recordNodeDriver image matched c
    let c ← nodeContainer cr k8sVersion room spare image matched' c
    let newcontainers ← nodeContainers image matched' containers
    return c.toList ++ newcontainers

def getNodeContainers (matched : VersionSpec) (containers : List ContainerApply) :
    Option (List ContainerApply) :=
  nodeContainers cr k8sVersion room spare (matched.images.bind (· cr.spec.driver.csiDriverType.text))
    matched containers

/-- The matched images once all containers have been seen. -/
def nodeMatched (matched : VersionSpec) (containers : List ContainerApply) : VersionSpec :=
  containers.foldl
    (recordNodeDriver (matched.images.bind (· cr.spec.driver.csiDriverType.text))) matched

/-! ### Init containers

The entries and the custom registry are those of `updatedCr`, which is the CR for PowerFlex only and has
nothing set for the other drivers. -/

def updatedCr (mdmVar : String) : ContainerStorageModule :=
  if cr.spec.driver.csiDriverType = .powerFlex then setSDCinitContainers mdmVar cr else {}

/-- `mdm-container` runs the image of the driver. -/
def mdmContainer (updatedCr : ContainerStorageModule) (mdmInitContainerImage : String)
    (c : ContainerApply) : Option ContainerApply :=
  let c :=
    match cr.spec.driver.common with
    | some common => if common.image ≠ "" then { c with image := some common.image } else c
    | none => c
  if mdmInitContainerImage ≠ "" then some { c with image := some mdmInitContainerImage }
  else if updatedCr.spec.customRegistry ≠ "" then c.storeResolved cr
  else some c

def sdcContainer (updatedCr : ContainerStorageModule) (matched : VersionSpec) (c : ContainerApply) :
    Option ContainerApply :=
  match matched.images.bind (· "sdc") with
  | some sdcImage => some { c with image := some sdcImage }
  | none => if updatedCr.spec.customRegistry ≠ "" then c.storeResolved cr else some c

def nodeInitContainer (updatedCr : ContainerStorageModule) (mdmInitContainerImage : String)
    (matched : VersionSpec) (c : ContainerApply) : Option ContainerApply := do
  let c ← replaceAllContainerImageApply k8sVersion c
  let c ← updateInitContainerApply updatedCr.spec.driver.initContainers c cr matched
  if c.name = "mdm-container" then mdmContainer cr updatedCr mdmInitContainerImage c
  else if c.name = "sdc" then sdcContainer cr updatedCr matched c
  else some c

/-- The matched images once an init container has been seen. -/
def recordInitContainer (mdmInitContainerImage : String) (matched : VersionSpec) (c : ContainerApply) :
    VersionSpec :=
  if c.name = "mdm-container" then recordMatchedContainerImage matched c.name mdmInitContainerImage
  else if c.name = "sdc" then
    match matched.images.bind (· "sdc") with
    | some sdcImage => recordMatchedContainerImage matched c.name sdcImage
    | none => matched
  else matched

def nodeInitContainers (updatedCr : ContainerStorageModule) (mdmInitContainerImage : String) :
    VersionSpec → List ContainerApply → Option (List ContainerApply)
  | _, [] => some []
  | matched, c :: containers => do
    let c' ← nodeInitContainer cr k8sVersion updatedCr mdmInitContainerImage matched c
    let initcontainers ← nodeInitContainers updatedCr mdmInitContainerImage
      (recordInitContainer mdmInitContainerImage matched c) containers
    return c' :: initcontainers

/-- The init containers of the template that `GetNode` keeps. -/
def keptInitContainers (updatedCr : ContainerStorageModule) (containers : List ContainerApply) :
    List ContainerApply :=
  containers.filter fun c => c.name ≠ "sdc" || sdcEnabled updatedCr

/-- The init containers of the DaemonSet; `matched` are the images as the containers left them. -/
def getNodeInitContainers (mdmVar : String) (mdmInitContainerImage : String) (matched : VersionSpec)
    (containers : List ContainerApply) : Option (List ContainerApply) :=
  nodeInitContainers cr k8sVersion (updatedCr cr mdmVar) mdmInitContainerImage matched
    (keptInitContainers (updatedCr cr mdmVar) containers)

/-- The containers and init containers of the DaemonSet. -/
def getNode (mdmVar : String) (matched : VersionSpec) (containers initContainers : List ContainerApply) :
    Option (List ContainerApply × List ContainerApply) := do
  let newcontainers ← getNodeContainers cr k8sVersion room spare matched containers
  let initcontainers ← getNodeInitContainers cr k8sVersion mdmVar
    (matched.image cr.spec.driver.csiDriverType.text) (nodeMatched cr matched containers) initContainers
  return (newcontainers, initcontainers)

end

/-! ## Images that are recorded -/

/-- The two have the same image for every container but the driver. -/
structure VersionSpec.SameButDriver (matched matched' : VersionSpec) : Prop where
  version : matched'.version = matched.version
  image : ∀ name, isDriverContainer name = false → matched'.image name = matched.image name

theorem VersionSpec.SameButDriver.refl (matched : VersionSpec) : matched.SameButDriver matched :=
  ⟨rfl, fun _ _ => rfl⟩

theorem image_recordMatchedContainerImage {matched : VersionSpec} {name containerName : String}
    (hne : name ≠ containerName) (image : String) :
    (recordMatchedContainerImage matched containerName image).image name = matched.image name := by
  unfold recordMatchedContainerImage
  split
  · rfl
  · cases himages : matched.images <;> simp [VersionSpec.image, goLookup, himages, hne]

theorem version_recordMatchedContainerImage (matched : VersionSpec) (containerName image : String) :
    (recordMatchedContainerImage matched containerName image).version = matched.version := by
  unfold recordMatchedContainerImage
  split <;> rfl

theorem VersionSpec.SameButDriver.record {matched matched' : VersionSpec}
    (h : matched.SameButDriver matched') {containerName : String}
    (hdriver : isDriverContainer containerName = true) (image : String) :
    matched.SameButDriver (recordMatchedContainerImage matched' containerName image) := by
  refine ⟨(version_recordMatchedContainerImage ..).trans h.version, fun name hname => ?_⟩
  have hne : name ≠ containerName := by
    rintro rfl
    rw [hdriver] at hname
    cases hname
  rw [image_recordMatchedContainerImage hne, h.image name hname]

theorem VersionSpec.SameButDriver.recordNode {matched matched' : VersionSpec}
    (h : matched.SameButDriver matched') (image : Option String) (c : ContainerApply) :
    matched.SameButDriver (recordNodeDriver image matched' c) := by
  unfold recordNodeDriver
  split
  · split
    · next hname => exact h.record (by rw [hname]; rfl) _
    · exact h
  · exact h

theorem applyEntry_congr {cr : ContainerStorageModule} {matched matched' : VersionSpec}
    {ctr : ContainerTemplate} (h : matched.SameButDriver matched') (hname : isDriverContainer ctr.name = false)
    (c : ContainerApply) : applyEntry ctr cr matched' c = applyEntry ctr cr matched c := by
  unfold applyEntry applyImage
  rw [h.version, h.image _ hname]

theorem updateContainerApply_congr {cr : ContainerStorageModule} {matched matched' : VersionSpec}
    {c : ContainerApply} (h : matched.SameButDriver matched') (hname : isDriverContainer c.name = false)
    (entries : List ContainerTemplate) :
    updateContainerApply entries cr matched' c = updateContainerApply entries cr matched c := by
  unfold updateContainerApply
  split
  · clear * - h hname
    induction entries generalizing c with
    | nil => rfl
    | cons ctr entries ih =>
        have hround : (if c.name = ctr.name then applyEntry ctr cr matched' c else some c) =
            if c.name = ctr.name then applyEntry ctr cr matched c else some c := by
          split
          · next hctr => exact applyEntry_congr h (hctr ▸ hname) c
          · rfl
        rw [List.foldlM_cons, List.foldlM_cons, hround]
        split
        · cases hentry : applyEntry ctr cr matched c with
          | none => rfl
          | some c₁ => exact ih ((applyEntry_frame hentry).1 ▸ hname)
        · exact ih hname
  · unfold applyDefaultImage
    rw [h.version, h.image _ hname]

end CsmOperator
