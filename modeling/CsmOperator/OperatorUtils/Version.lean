import CsmOperator.Api.Cluster
import CsmOperator.Go.Text

/-!
# Versions, modules and configuration: `pkg/operatorutils/utils.go`

The functions that turn a CR and the operator's configuration directory into versions, decide
whether an upgrade is allowed, and fill in default components. They make no API call, so they are
plain functions. The directory is given by what its files decode to; which path is read is computed
as in the source.
-/

namespace CsmOperator

open Go

/-! ## The configuration directory and the process environment -/

/-- Why a configuration file could not be used. -/
inductive FileError where
  | read (e : GoError)
  | decode (e : GoError)

def FileError.toGoError : FileError → GoError
  | read e => e
  | decode e => e

/-- `OperatorConfig`, together with the decoded contents of the files it points to. -/
structure OperatorConfig where
  isOpenShift : Bool
  configDirectory : String
  /-- `csm-version-mapping.yaml`: for each platform, config versions by CSM version -/
  versionMapping : String → Except FileError (List (String × List (String × String)))
  /-- `upgrade-path.yaml`: its `minUpgradePath` -/
  upgradePath : String → Except FileError String
  /-- `default-components.yaml`: the modules of the CR in it -/
  defaultModules : String → Except FileError (List Module)

/-- The libraries and the environment of the operator's process. -/
structure Runtime where
  op : OperatorConfig
  getenv : String → String
  jsonMarshal : ContainerStorageModule → Except GoError String
  jsonUnmarshal : String → Except GoError ContainerStorageModule
  /-- `url.Parse`: scheme and host -/
  urlParse : String → Except GoError (String × String)

def determineUnitTestRun (rt : Runtime) : Bool := (parseBool (rt.getenv "UNIT_TEST")).getD false

/-- The value of an environment variable, with an error when it is empty. -/
def getEnvironmentVariable (rt : Runtime) (varName : String) : Except GoError String :=
  let value := rt.getenv varName
  if value = "" then .error (errorf ("environment variable is not defined: " ++ varName))
  else .ok value

/-! ## Modules of a CR -/

/-- The first module of the type that is enabled. -/
def isModuleEnabled (instance_ : ContainerStorageModule) (mod : ModuleType) : Option Module :=
  instance_.spec.modules.find? fun m => m.name = mod && m.enabled

def hasModuleComponent (instance_ : ContainerStorageModule) (mod : ModuleType)
    (componentType : String) : Bool :=
  (instance_.getModule mod).components.any (·.name = componentType)

/-- The component is appended to every module entry of the type. -/
def addModuleComponent (instance_ : ContainerStorageModule) (mod : ModuleType)
    (component : ContainerTemplate) : ContainerStorageModule :=
  { instance_ with spec := { instance_.spec with
      modules := instance_.spec.modules.map fun m =>
        if m.name = mod then { m with components := m.components ++ [component] } else m } }

/-- `isilon` is spelled `powerscale` in directory and component names. -/
def driverFolder (t : DriverType) : DriverType :=
  if t = .powerScale then .powerScaleName else t

def getDefaultComponents (op : OperatorConfig) (driverType : DriverType) (module : ModuleType) :
    Except GoError (List ContainerTemplate) :=
  let file := op.configDirectory ++ "/moduleconfig/" ++ module.text ++ "/default-components.yaml"
  match op.defaultModules file with
  | .error (.read e) => .error (errorf ("failed to read file " ++ file ++ ": " ++ e.text))
  | .error (.decode e) =>
    .error (errorf ("failed to unmarshal default-components.yaml for " ++ module.text ++ ": " ++
      e.text))
  | .ok modules =>
    let defaultComps := ({ spec := { modules } } : ContainerStorageModule).getModule module
      |>.components
    if module = .observability then
      .ok <| defaultComps.map fun c =>
        if hasPrefix c.name "metrics" then
          { c with name := replaceAll c.name "<CSI_DRIVER_TYPE>" (driverFolder driverType).text }
        else c
    else .ok defaultComps

/-- `LoadDefaultComponents`: the default components of Observability that the CR lacks. -/
def loadDefaultComponents (op : OperatorConfig) (cr : ContainerStorageModule) :
    Except GoError ContainerStorageModule :=
  if cr.hasModule .observability then
    match getDefaultComponents op cr.getDriverType .observability with
    | .error e => .error (errorf ("failed to get default components for " ++
        ModuleType.observability.text ++ ": " ++ e.text))
    | .ok defaultComps =>
      if (isModuleEnabled cr .observability).isSome then
        .ok <| defaultComps.foldl (fun cr comp =>
          if hasModuleComponent cr .observability comp.name then cr
          else addModuleComponent cr .observability comp) cr
      else .ok cr
  else .ok cr

/-- What the operator goes by in a module entry, apart from its contents. -/
def Module.flags (m : Module) : ModuleType × Bool × Bool := (m.name, m.enabled, m.forceRemoveModule)

/-- Two lists of module entries that differ in the contents of entries only. -/
def SameFlags (ms ms' : List Module) : Prop := ms.map (·.flags) = ms'.map (·.flags)

/-- Loading default components changes the components of modules only. -/
theorem loadDefaultComponents_eq {op : OperatorConfig} {cr cr' : ContainerStorageModule}
    (h : loadDefaultComponents op cr = .ok cr') :
    ∃ modules, cr' = { cr with spec := { cr.spec with modules } } ∧
      SameFlags modules cr.spec.modules := by
  have hadd : ∀ (cr : ContainerStorageModule) (comp : ContainerTemplate),
      SameFlags (addModuleComponent cr .observability comp).spec.modules cr.spec.modules := by
    intro cr comp
    rw [SameFlags, addModuleComponent, List.map_map]
    refine List.map_congr_left fun m _ => ?_
    rw [Function.comp_apply]
    split <;> rfl
  have hfold : ∀ (comps : List ContainerTemplate) (cr : ContainerStorageModule), ∃ modules,
      comps.foldl (fun cr comp => if hasModuleComponent cr .observability comp.name then cr
        else addModuleComponent cr .observability comp) cr = { cr with spec := { cr.spec with modules } } ∧
      SameFlags modules cr.spec.modules := by
    intro comps
    induction comps with
    | nil => exact fun cr => ⟨cr.spec.modules, rfl, rfl⟩
    | cons comp comps ih =>
        intro cr
        rw [List.foldl_cons]
        split
        · exact ih cr
        · obtain ⟨modules, hmodules, hflags⟩ := ih (addModuleComponent cr .observability comp)
          exact ⟨modules, hmodules, hflags.trans (hadd cr comp)⟩
  unfold loadDefaultComponents at h
  split at h
  · split at h
    · cases h
    · split at h
      · cases h
        exact hfold _ cr
      · cases h
        exact ⟨cr.spec.modules, rfl, rfl⟩
  · cases h
    exact ⟨cr.spec.modules, rfl, rfl⟩

/-! ## Versions -/

/-- Major and minor number of a version; the patch level is not looked at. -/
def versionParser (version : String) : Except GoError (Int × Int) :=
  match split (trimLeft version ['v']) '.' with
  | [major, minor, _] => .ok ((atoi major).1, (atoi minor).1)
  | pieces => .error (errorf ("version " ++ version ++
      " not in correct version format, breaks down as: [" ++ join pieces " " ++ "]"))

/-- `MinVersionCheck`: does `version` reach `minVersion` in major and minor number? -/
def minVersionCheck (minVersion version : String) : Bool × Option GoError :=
  match versionParser minVersion with
  | .error e => (false, some e)
  | .ok (minMajor, minMinor) =>
    match versionParser version with
    | .error e => (false, some e)
    | .ok (major, minor) =>
      if major > minMajor then (true, none)
      else if major = minMajor ∧ minor ≥ minMinor then (true, none)
      else (false, none)

/-- What an upgrade path is looked up for. -/
inductive CSMComponentType where
  | driver (t : DriverType)
  | module (t : ModuleType)
  deriving DecidableEq, Repr

def CSMComponentType.configDir : CSMComponentType → String
  | driver _ => "driverconfig"
  | module _ => "moduleconfig"

def CSMComponentType.text : CSMComponentType → String
  | driver t => t.text
  | module t => t.text

/-- The minimal version from which, or down to which, `version` can be reached. On an error the
version returned next to it is empty. -/
def getUpgradeInfo (op : OperatorConfig) (csmCompType : CSMComponentType) (version : String) :
    Except GoError String :=
  match op.upgradePath (op.configDirectory ++ "/" ++ csmCompType.configDir ++ "/" ++
      csmCompType.text ++ "/" ++ version ++ "/upgrade-path.yaml") with
  | .error e => .error e.toGoError
  | .ok minUpgradePath => .ok minUpgradePath

/-- The last part of `IsValidUpgrade`: `other` has to reach the minimal version of `target`. -/
def judgeUpgrade (op : OperatorConfig) (oldVersion newVersion : String)
    (csmComponentType : CSMComponentType) (target other : String) : Bool × Option GoError :=
  match getUpgradeInfo op csmComponentType target with
  | .error e => (false, some e)
  | .ok minPath =>
    if (minVersionCheck minPath other).1 then (true, none)
    else (false, some (errorf ("upgrade/downgrade of " ++ csmComponentType.text ++
      " from version " ++ oldVersion ++ " to " ++ newVersion ++ " not valid")))

/-- `IsValidUpgrade`: an upgrade is judged by the path of the new version, a downgrade by that of
the old one. -/
def isValidUpgrade (op : OperatorConfig) (oldVersion newVersion : String)
    (csmComponentType : CSMComponentType) : Bool × Option GoError :=
  if oldVersion = newVersion then (true, none)
  else if (minVersionCheck oldVersion newVersion).1 then
    judgeUpgrade op oldVersion newVersion csmComponentType newVersion oldVersion
  else judgeUpgrade op oldVersion newVersion csmComponentType oldVersion newVersion

/-- `GetVersion`: the config version the CR asks for. -/
def getVersion (op : OperatorConfig) (cr : ContainerStorageModule) : Except GoError String :=
  if cr.spec.version ≠ "" then
    let file := op.configDirectory ++ "/common/csm-version-mapping.yaml"
    match op.versionMapping file with
    | .error (.read e) => .error (errorf ("failed to read file " ++ file ++ ": " ++ e.text))
    | .error (.decode e) => .error e
    | .ok support =>
      let driverType := (driverFolder cr.spec.driver.csiDriverType).text
      let driverType :=
        if driverType = "" && cr.hasModule .authorizationServer then
          ModuleType.authorizationServer.text
        else driverType
      match support.lookup driverType with
      | some csmVersion =>
        match csmVersion.lookup cr.spec.version with
        | some configVersion => .ok configVersion
        | none => .error (errorf ("No custom resource configuration is available for CSM version " ++
            cr.spec.version ++ ". Supported CSM versions are: [" ++
            join (csmVersion.map (·.1)) ", " ++ "]"))
      | none => .error (errorf ("Unsupported platform " ++ driverType))
  else
    let configVersion := cr.spec.driver.configVersion
    if configVersion = "" then .ok (cr.getModule .authorizationServer).configVersion
    else .ok configVersion

/-- `ValidateCustomRegistry`. When the text parses but has no scheme or host, the error returned is
the nil error of the parser. -/
def validateCustomRegistry (rt : Runtime) (registry : String) : Option GoError :=
  let registry := trimSpace registry
  if registry = "" then none
  else
    let url := trimRight registry ['/']
    let url :=
      if !hasPrefix url "http://" && !hasPrefix url "https://" then "http://" ++ url else url
    match rt.urlParse url with
    | .ok _ => none
    | .error e => some e

/-! ## What the version functions decide -/

theorem judgeUpgrade_fst_iff {op : OperatorConfig} {old new target other : String}
    {t : CSMComponentType} :
    (judgeUpgrade op old new t target other).1 = true ↔
      (judgeUpgrade op old new t target other).2 = none := by
  unfold judgeUpgrade
  cases getUpgradeInfo op t target with
  | error e => simp
  | ok minPath => dsimp only; split_ifs <;> simp

/-- A verdict of `IsValidUpgrade` is positive exactly when no error comes with it. -/
theorem isValidUpgrade_fst_iff {op : OperatorConfig} {old new : String} {t : CSMComponentType} :
    (isValidUpgrade op old new t).1 = true ↔ (isValidUpgrade op old new t).2 = none := by
  unfold isValidUpgrade
  split_ifs
  · simp
  · exact judgeUpgrade_fst_iff
  · exact judgeUpgrade_fst_iff

@[simp] theorem isValidUpgrade_self (op : OperatorConfig) (v : String) (t : CSMComponentType) :
    isValidUpgrade op v v t = (true, none) := if_pos rfl

example : minVersionCheck "v2.14.0" "v2.16.0" = (true, none) ∧
    minVersionCheck "v2.15.0" "v2.14.0" = (false, none) := by decide

end CsmOperator
