import CsmOperator.Api.Lookups
import CsmOperator.OperatorUtils.Containers
import CsmOperator.OperatorUtils.Version

/-!
# The configuration of modules: `pkg/modules/commonconfig.go`

Which version of a module goes with a driver, and the fragments of a workload that the folder of a
version holds.
-/

namespace CsmOperator

open Go Interaction

/-- The folder `moduleconfig`, by what its files decode to. The fragments of a container have the
placeholders for the CR filled in. -/
structure ModuleFiles where
  /-- `os.ReadDir`: the names in a folder -/
  readDir : String → Except GoError (List String)
  /-- `version-values.yaml`: versions of modules by driver and its version -/
  versionValues : String → Except FileError (List (String × List (String × List (String × String))))
  container : String → ContainerStorageModule → Except FileError ContainerApply
  volumes : String → Except FileError (List VolumeApply)

/-- The message lists the folder; for an empty one the last byte of an empty text is cut off. -/
def checkVersion (files : ModuleFiles) (moduleType givenVersion configPath : String) :
    LookupOp (Option GoError) :=
  match files.readDir (configPath ++ "/moduleconfig/" ++ moduleType ++ "/") with
  | .error e => pure (some e)
  | .ok names =>
    if givenVersion ∈ names then pure none
    else if names = [] then orPanic none
    else pure (some (errorf ("CSM " ++ moduleType ++ " does not have " ++ givenVersion ++
      " version. The following are supported versions: " ++ join names ",")))

/-- How the prechecks begin: a version that the CR gives has to be there. -/
def checkGivenVersion (files : ModuleFiles) (op : OperatorConfig) (moduleType : ModuleType) (m : Module) :
    LookupOp (Option GoError) :=
  if m.configVersion ≠ "" then checkVersion files moduleType.text m.configVersion op.configDirectory
  else pure none

def getModuleDefaultVersion (files : ModuleFiles) (driverConfigVersion : String)
    (driverType : DriverType) (moduleType : ModuleType) (path : String) : Except GoError String :=
  let configMapPath := path ++ "/moduleconfig/common/version-values.yaml"
  let dType := (driverFolder driverType).text
  match files.versionValues configMapPath with
  | .error e => .error e.toGoError
  | .ok support =>
    match support.lookup dType with
    | none => .error (errorf (dType ++ " driver does not exist in file " ++ configMapPath))
    | some driver =>
      match driver.lookup driverConfigVersion with
      | none => .error (errorf ("version " ++ driverConfigVersion ++ " of " ++ dType ++
          " driver does not exist in file " ++ configMapPath))
      | some modules =>
        match modules.lookup moduleType.text with
        | none => .error (errorf (" " ++ moduleType.text ++ " module for " ++ dType ++
            " driver  does not exist in file " ++ configMapPath))
        | some moduleVer => .ok moduleVer

/-- The version of a module: its own, or the one that goes with the driver. -/
def moduleVersion (files : ModuleFiles) (op : OperatorConfig) (cr : ContainerStorageModule)
    (moduleType : ModuleType) (m : Module) : Except GoError String :=
  if m.configVersion ≠ "" then .ok m.configVersion
  else match getVersion op cr with
    | .error e => .error e
    | .ok version =>
      getModuleDefaultVersion files version cr.spec.driver.csiDriverType moduleType op.configDirectory

/-- A file of a version of a module. -/
def moduleFile (op : OperatorConfig) (moduleType : ModuleType) (version file : String) : String :=
  op.configDirectory ++ "/moduleconfig/" ++ moduleType.text ++ "/" ++ version ++ "/" ++ file

end CsmOperator
