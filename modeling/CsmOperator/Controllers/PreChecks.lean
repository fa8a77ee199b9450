import CsmOperator.OperatorUtils.Version

/-!
# Validation before an install: `PreChecks` and `checkUpgrade`

What has to hold of a CR before `Reconcile` renders anything. The prechecks of the single drivers and
modules stay abstract (`Action.precheckDriver`, `Action.precheckModule`); how their verdicts are put
together, and the upgrade check, are as in `csm_controller.go`.
-/

namespace CsmOperator

open Go Interaction

/-- The annotation that holds the config version last installed or attempted. -/
def configVersionKey : String := "storage.dell.com/CSMOperatorConfigVersion"

/-- Call an abstract part and put a text in front of its error. -/
def wrapAction (text : String) (a : Action) (cr : ContainerStorageModule) :
    Op (Option GoError) := do
  let err ← act a cr
  pure (err.map fun e => errorf (text ++ e.text))

/-! ## Drivers -/

/-- The name of the driver in the error of its precheck, for the driver types that have one. -/
def driverPrecheckName : DriverType → Option String
  | .powerScale => some "powerscale"
  | .powerFlex => some "powerflex"
  | .powerStore => some "powerstore"
  | .unity => some "unity"
  | .powerMax => some "powermax"
  | .cosi => some "cosi"
  | _ => none

/-- `PrecheckPowerMax` turns the first reverse proxy entry on once its checks have passed. -/
def enableReverseProxy : List Module → List Module
  | [] => []
  | m :: ms =>
    if m.name = .reverseProxy then { m with enabled := true, forceRemoveModule := true } :: ms
    else m :: enableReverseProxy ms

/-- The CR as the precheck of its driver leaves it. -/
def afterDriverPrecheck (cr : ContainerStorageModule) : ContainerStorageModule :=
  if cr.spec.driver.csiDriverType = .powerMax then
    { cr with spec := { cr.spec with modules := enableReverseProxy cr.spec.modules } }
  else cr

/-- The precheck of the driver changes the spec only. -/
theorem afterDriverPrecheck_eq (cr : ContainerStorageModule) :
    ∃ spec, afterDriverPrecheck cr = { cr with spec } := by
  unfold afterDriverPrecheck
  split
  · exact ⟨_, rfl⟩
  · exact ⟨cr.spec, rfl⟩

theorem afterDriverPrecheck_driver (cr : ContainerStorageModule) :
    (afterDriverPrecheck cr).spec.driver = cr.spec.driver := by
  unfold afterDriverPrecheck
  split <;> rfl

/-- The `switch` over driver types at the top of `PreChecks`. -/
def precheckDriver (cr : ContainerStorageModule) : Op (Option GoError) := do
  let driverType := cr.spec.driver.csiDriverType
  match driverPrecheckName driverType with
  | some name =>
    orElse (wrapAction ("failed " ++ name ++ " validation: ") (.precheckDriver driverType) cr)
      -- zoning applies only to PowerFlex
      (if driverType = .powerFlex then
        wrapAction "error during zone validation: " .zoneValidation cr
      else pure none)
  | none =>
    if cr.hasModule .authorizationServer then pure none
    else pure (some (errorf ("unsupported driver type " ++ driverType.text)))

/-! ## Upgrades -/

/-- The version an authorization CR asks for, as `checkUpgrade` reads it. -/
def newAuthorizationVersion (op : OperatorConfig) (cr : ContainerStorageModule) :
    Except GoError String :=
  if cr.spec.version ≠ "" then getVersion op cr
  else .ok (cr.getModule .authorizationServer).configVersion

/-- One version is a v1 and the other a v2. -/
def switchesMajor (oldVersion newVersion : String) : Bool :=
  hasPrefix oldVersion "v1." && hasPrefix newVersion "v2." ||
    hasPrefix oldVersion "v2." && hasPrefix newVersion "v1."

/-- `checkUpgrade`: is going from the version in the annotation to the one of the CR allowed? -/
def checkUpgrade (op : OperatorConfig) (cr : ContainerStorageModule) : Bool × Option GoError :=
  match cr.annotations.bind (· configVersionKey) with
  | some oldVersion =>
    if cr.hasModule .authorizationServer then
      match newAuthorizationVersion op cr with
      | .error e => (false, some e)
      | .ok newVersion =>
        if switchesMajor oldVersion newVersion then (false, none)
        else isValidUpgrade op oldVersion newVersion (.module .authorization)
    else
      match getVersion op cr with
      | .error e => (false, some e)
      | .ok newVersion =>
        isValidUpgrade op oldVersion newVersion (.driver (driverFolder cr.spec.driver.csiDriverType))
  | none => (true, none)

/-! ## Owner reference and modules -/

/-- The controller Deployment, if it is there and has owners, is owned by this CR. -/
def checkOwnerReference (cr : ContainerStorageModule) : Op (Option GoError) := do
  match ← getDeployment ⟨cr.namesp, cr.name ++ "-controller"⟩ with
  | .error _ => pure none
  | .ok driver =>
    match driver.ownerReferences with
    | none => pure none
    | some refs =>
      if refs.any (·.name = cr.name) then pure none
      else pure (some (errorf "required Owner reference not found. Please re-install driver "))

/-- The name of the module in the error of its precheck, for the module types that have one. -/
def modulePrecheckName : ModuleType → Option String
  | .authorization => some "authorization"
  | .authorizationServer => some "authorization proxy server"
  | .replication => some "replication"
  | .resiliency => some "resiliency"
  | .observability => some "observability"
  | .reverseProxy => some "reverseproxy"
  | _ => none

/-- The precheck of one enabled module. -/
def precheckModule (cr : ContainerStorageModule) (m : Module) : Op (Option GoError) :=
  match modulePrecheckName m.name with
  | some name => wrapAction ("failed " ++ name ++ " validation: ") (.precheckModule m) cr
  | none => pure (some (errorf ("unsupported module type " ++ m.name.text)))

/-- The loop over the modules. -/
def precheckModules (cr : ContainerStorageModule) : List Module → Op (Option GoError)
  | [] => pure none
  | m :: ms =>
    if m.enabled then orElse (precheckModule cr m) (precheckModules cr ms)
    else precheckModules cr ms

/-- The part of `PreChecks` after a valid upgrade check. -/
def checkRegistryOwnerModules (rt : Runtime) (cr : ContainerStorageModule) :
    Op (Option GoError) := do
  match validateCustomRegistry rt cr.spec.customRegistry with
  | some e => pure (some (errorf ("failed custom registry validation: " ++ e.text)))
  | none => orElse (checkOwnerReference cr) (precheckModules cr cr.spec.modules)

/-- `PreChecks`: the CR as it is left in memory, and the error returned. -/
def preChecks (rt : Runtime) (cr : ContainerStorageModule) :
    Op (ContainerStorageModule × Option GoError) := do
  match ← precheckDriver cr with
  | some e => pure (cr, some e)
  | none =>
    let cr := afterDriverPrecheck cr
    match checkUpgrade rt.op cr with
    | (_, some e) => pure (cr, some (errorf ("failed upgrade check: " ++ e.text)))
    -- an invalid upgrade that comes without an error is logged and accepted
    | (false, none) => pure (cr, none)
    | (true, none) => pure (cr, ← checkRegistryOwnerModules rt cr)

end CsmOperator
