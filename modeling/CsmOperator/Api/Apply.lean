import CsmOperator.Api.V1

/-!
# Apply configurations

The parts of a Deployment or DaemonSet that the renderers read and rewrite: containers with their image,
arguments, environment and mounts, and the volumes of the pod. Names are pointers in the source; the
templates give every container, mount, volume and environment entry one.
-/

namespace CsmOperator

structure ObjectFieldSelector where
  apiVersion : Option String := none
  fieldPath : Option String := none
  deriving DecidableEq, Repr

structure SecretKeySelector where
  name : Option String := none
  key : Option String := none
  optional : Option Bool := none
  deriving DecidableEq, Repr

/-- Where a value comes from. The kinds the renderers do not know are one field. -/
structure EnvVarSource where
  fieldRef : Option ObjectFieldSelector := none
  secretKeyRef : Option SecretKeySelector := none
  otherRef : Option String := none
  deriving DecidableEq, Repr

structure EnvVarApply where
  name : String
  value : Option String := none
  valueFrom : Option EnvVarSource := none
  deriving DecidableEq, Repr

structure VolumeMountApply where
  name : String
  mountPath : Option String := none
  deriving DecidableEq, Repr

structure ContainerApply where
  name : String
  image : Option String := none
  imagePullPolicy : Option String := none
  args : List String := []
  env : List EnvVarApply := []
  volumeMounts : List VolumeMountApply := []
  deriving DecidableEq, Repr

/-- A volume; of its source only a Secret is looked at. -/
structure VolumeApply where
  name : String
  secretName : Option String := none
  deriving DecidableEq, Repr

/-- A Deployment or a DaemonSet: its annotations and its pod template. -/
structure WorkloadApply where
  annotations : Option StrMap := none
  containers : List ContainerApply := []
  initContainers : List ContainerApply := []
  volumes : List VolumeApply := []

/-- The images of a version in the ConfigMap `csm-images`. -/
structure VersionSpec where
  version : String := ""
  images : Option StrMap := none

/-- `matched.Images[key]` -/
def VersionSpec.image (matched : VersionSpec) (key : String) : String := goLookup matched.images key

end CsmOperator
