import CsmOperator.World.Cluster

/-!
# What the module status checks establish

`observabilityStatusCheck` and `authProxyStatusCheck` go through the Deployments that *are* listed.
They return true exactly when nothing goes wrong on the way and no listed Deployment with a watched
name is unready (`observabilityStatusCheck_iff`, `authProxyStatusCheck_iff`). Whether that means that
what the operator installs is up depends on two more things the checks do not look at: that the
Deployments are there, and that the watched names are the names they are installed under.

`observabilityInstalls` and `authorizationInstalls` are the names the operator installs Deployments
under, read off `reconcileObservability`, `reconcileAuthorization` and the templates they apply.
-/

namespace CsmOperator

open Go

variable {cl : Cluster} {faults : FaultPlan} {cr : ContainerStorageModule} {n : Nat}
  {op : OperatorConfig}

/-! ## The loops -/

theorem Deployment.isReady_iff {d : Deployment} :
    d.isReady = true ↔ d.replicas = some d.readyReplicas := by
  simp [Deployment.isReady]

/-- The loop runs through exactly when every watched Deployment of the list is ready. -/
theorem readFrom_scanDeployments {table : List WatchedName} {ds : List Deployment} {m : Nat} :
    readFrom cl faults (scanDeployments table ds) n = some (true, m) ↔
      m = n ∧ ∀ d ∈ ds, watches table d = true → d.isReady = true := by
  induction ds with
  | nil =>
      simp only [scanDeployments, readFrom_pure, List.not_mem_nil, false_imp_iff, implies_true,
        and_true, Option.some.injEq, Prod.mk.injEq, true_and]
      exact eq_comm
  | cons d ds ih =>
      rw [scanDeployments, List.forall_mem_cons]
      cases hw : watches table d with
      | false => simpa using ih
      | true =>
          cases hr : d.replicas with
          | none => simp [readFrom_bind, Deployment.isReady_iff, hr]
          | some r =>
              by_cases hready : d.readyReplicas = r
              · simpa [readFrom_bind, hready, Deployment.isReady_iff, hr] using ih
              · simp [readFrom_bind, hready, Deployment.isReady_iff, hr, Ne.symm hready]

/-- The Deployments of a list that a table watches are ready. -/
def WatchedReady (table : List WatchedName) (ds : List Deployment) : Prop :=
  ∀ d ∈ ds, watches table d = true → d.isReady = true

/-- A check that ends with the loop. -/
theorem readFrom_scan_last {table : List WatchedName} {ds : List Deployment} :
    (∃ err m, readFrom cl faults
        (do pure (← scanDeployments table ds, (none : Option GoError))) n = some ((true, err), m)) ↔
      WatchedReady table ds := by
  simp only [readFrom_bind, readFrom_pure, Option.bind_eq_some_iff, Option.some.injEq,
    Prod.mk.injEq]
  constructor
  · rintro ⟨err, m, ⟨_, k⟩, hscan, ⟨rfl, -⟩, -⟩
    exact (readFrom_scanDeployments.mp hscan).2
  · intro h
    exact ⟨none, n, (true, n), readFrom_scanDeployments.mpr ⟨rfl, h⟩, ⟨rfl, rfl⟩, rfl⟩

/-- A check that goes on after the loop. -/
theorem readFrom_scan_next {table : List WatchedName} {ds : List Deployment}
    {next : Op (Bool × Option GoError)} {err : Option GoError} {m : Nat} :
    readFrom cl faults
        (do if ← scanDeployments table ds then next else pure (false, none)) n =
          some ((true, err), m) ↔
      WatchedReady table ds ∧ readFrom cl faults next n = some ((true, err), m) := by
  rw [readFrom_bind, Option.bind_eq_some_iff]
  constructor
  · rintro ⟨⟨ok, k⟩, hscan, hnext⟩
    cases ok with
    | false => simp at hnext
    | true =>
        obtain ⟨rfl, h⟩ := readFrom_scanDeployments.mp hscan
        exact ⟨h, by simpa using hnext⟩
  · rintro ⟨h, hnext⟩
    exact ⟨(true, n), readFrom_scanDeployments.mpr ⟨rfl, h⟩, by simpa using hnext⟩

/-- Some component with a fitting name is enabled. -/
def anyEnabled (name : String → Bool) (cs : List ContainerTemplate) : Bool :=
  cs.any fun c => name c.name && c.enabled = some true

/-- No component with a fitting name leaves its enabled flag out. -/
def FlagsSet (name : String → Bool) (cs : List ContainerTemplate) : Prop :=
  ∀ c ∈ cs, name c.name = true → c.enabled.isSome = true

/-- Following the flags of components. -/
theorem readFrom_anyComponent (cl : Cluster) (faults : FaultPlan) (n : Nat) (name : String → Bool)
    (cs : List ContainerTemplate) :
    readFrom cl faults (anyComponent name cs) n = some (anyEnabled name cs, n) ∧
        FlagsSet name cs ∨
      readFrom cl faults (anyComponent name cs) n = none ∧ ¬ FlagsSet name cs := by
  induction cs with
  | nil => exact .inl ⟨rfl, by simp [FlagsSet]⟩
  | cons c cs ih =>
      simp only [anyComponent, FlagsSet, anyEnabled, List.forall_mem_cons, List.any_cons] at ih ⊢
      cases hc : name c.name with
      | false =>
          rcases ih with ⟨ih, hset⟩ | ⟨ih, hset⟩
          · exact .inl ⟨by simp [ih], by simpa using hset⟩
          · exact .inr ⟨by simp [ih], by simpa using hset⟩
      | true =>
          cases he : c.enabled with
          | none => exact .inr ⟨by simp [readFrom_bind], by simp⟩
          | some b =>
              rcases ih with ⟨ih, hset⟩ | ⟨ih, hset⟩
              · exact .inl ⟨by simp [readFrom_bind, ih], by simpa using hset⟩
              · exact .inr ⟨by simp [readFrom_bind, ih], by simpa using hset⟩

/-- A computation that starts by following flags: all of them have to be set. -/
theorem readFrom_anyComponent_bind {α : Type} {name : String → Bool} {cs : List ContainerTemplate}
    {f : Bool → Op α} {r : α × Nat} :
    readFrom cl faults (anyComponent name cs >>= f) n = some r ↔
      FlagsSet name cs ∧ readFrom cl faults (f (anyEnabled name cs)) n = some r := by
  rw [readFrom_bind]
  rcases readFrom_anyComponent cl faults n name cs with ⟨h, hset⟩ | ⟨h, hset⟩
  · simp [h, hset]
  · simp [h, hset]

/-! ## Observability -/

/-- The name of the driver in component and Deployment names. -/
def driverName (cr : ContainerStorageModule) : String :=
  (driverFolder cr.spec.driver.csiDriverType).text

/-- The names the check looks at, with the flags it works out from the CR. -/
def observabilityWatched (cr : ContainerStorageModule) : List WatchedName :=
  let on name := anyEnabled (· = name) (moduleComponents cr .observability)
  observabilityTable (driverName cr) (on "otel-collector") (on ("metrics-" ++ driverName cr))
    (on "topology")

def certManagerWatched (cr : ContainerStorageModule) (mod : ModuleType) : List WatchedName :=
  certManagerTable (anyEnabled (· = "cert-manager") (moduleComponents cr mod))

/-- The flags the Observability check follows are set. -/
def ObservabilityFlagsSet (cr : ContainerStorageModule) : Prop :=
  ∀ name ∈ ["topology", "otel-collector", "cert-manager", "metrics-" ++ driverName cr],
    FlagsSet (· = name) (moduleComponents cr .observability)

/-- **The verdict of `observabilityStatusCheck`.** -/
theorem observabilityStatusCheck_iff :
    (∃ err m, readFrom cl faults (observabilityStatusCheck op cr) n = some ((true, err), m)) ↔
      ObservabilityFlagsSet cr ∧ ∃ v, getVersion op cr = .ok v ∧
        faults n = none ∧ faults (n + 1) = none ∧
        WatchedReady (observabilityWatched cr)
          (cl.listDeployments (observabilityListNamespace cr v)) ∧
        WatchedReady (certManagerWatched cr .observability)
          (cl.listDeployments (observabilityListNamespace cr v)) := by
  simp only [observabilityStatusCheck, readFrom_anyComponent_bind, ObservabilityFlagsSet,
    List.forall_mem_cons, List.not_mem_nil, false_imp_iff, implies_true, and_true,
    exists_and_left, and_assoc]
  refine and_congr_right' <| and_congr_right' <| and_congr_right' <| and_congr_right' ?_
  cases hv : getVersion op cr with
  | error e => simp
  | ok v =>
      simp only [readFrom_listDeployments_bind]
      cases hf : faults n with
      | some e => simp
      | none =>
          simp only [orFault_none, readFrom_scan_next, exists_and_left,
            readFrom_listDeployments_bind]
          cases hf' : faults (n + 1) with
          | some e => simp
          | none =>
              simp only [orFault_none, readFrom_scan_last, Except.ok.injEq, exists_eq_left',
                true_and]
              rfl

/-! ## Authorization proxy server -/

/-- The names the check looks at, with the flags it works out from the CR. -/
def authProxyWatched (cr : ContainerStorageModule) : List WatchedName :=
  let on name := anyEnabled name (moduleComponents cr .authorizationServer)
  authProxyTable cr.namesp (on (· = "ingress-nginx"))
    (on (fun n => n = "nginx-gateway-fabric" || n = "nginx") && useGatewayAPI cr)
    (on (· = "cert-manager"))

/-- The flags the authorization check follows are set. -/
def AuthProxyFlagsSet (cr : ContainerStorageModule) : Prop :=
  ∀ name ∈ ["ingress-nginx", "nginx-gateway-fabric", "nginx", "cert-manager"],
    FlagsSet (· = name) (moduleComponents cr .authorizationServer)

theorem flagsSet_or {a b : String} {cs : List ContainerTemplate} :
    FlagsSet (fun n => n = a || n = b) cs ↔ FlagsSet (· = a) cs ∧ FlagsSet (· = b) cs := by
  simp only [FlagsSet, Bool.or_eq_true, or_imp, forall_and]

/-- **The verdict of `authProxyStatusCheck`.** -/
theorem authProxyStatusCheck_iff :
    (∃ err m, readFrom cl faults (authProxyStatusCheck cr) n = some ((true, err), m)) ↔
      AuthProxyFlagsSet cr ∧ faults n = none ∧
        WatchedReady (authProxyWatched cr) (cl.listDeployments cr.namesp) := by
  simp only [authProxyStatusCheck, readFrom_anyComponent_bind, AuthProxyFlagsSet, flagsSet_or,
    List.forall_mem_cons, List.not_mem_nil, false_imp_iff, implies_true, and_true,
    exists_and_left, and_assoc]
  refine and_congr_right' <| and_congr_right' <| and_congr_right' <| and_congr_right' ?_
  simp only [readFrom_listDeployments_bind]
  cases hf : faults n with
  | some e => simp
  | none =>
      simp only [orFault_none, readFrom_scan_last, true_and]
      rfl

/-! ## What the operator installs -/

/-- `IsModuleComponentEnabled`, for components whose flags are set. -/
def componentOn (cr : ContainerStorageModule) (mod : ModuleType) (name : String) : Bool :=
  match isModuleEnabled cr mod with
  | some m => anyEnabled (· = name) m.components
  | none => false

def certManagerNames : List String :=
  ["cert-manager", "cert-manager-cainjector", "cert-manager-webhook"]

/-- The names of the Deployments `reconcileObservability` applies for the enabled components. -/
def observabilityInstalls (cr : ContainerStorageModule) (configVersion : String) : List String :=
  let on := componentOn cr .observability
  (if on "otel-collector" then ["otel-collector"] else []) ++
  (["powerscale", "powerflex", "powermax", "powerstore"].flatMap fun driver =>
    if on ("metrics-" ++ driver) then ["karavi-metrics-" ++ driver] else []) ++
  (if on "topology" && (contains configVersion "v2.13" || contains configVersion "v2.14") then
    ["karavi-topology"] else []) ++
  (if on "cert-manager" then certManagerNames else [])

/-- The name of the ingress or gateway controller `reconcileAuthorization` applies. -/
def ingressInstalls (op : OperatorConfig) (cr : ContainerStorageModule) : List String :=
  let on := componentOn cr .authorizationServer
  if op.isOpenShift then []
  else if useGatewayAPI cr && (on "nginx-gateway-fabric" || on "nginx") then
    [cr.namesp ++ "-nginx-gateway-fabric"]
  else if on "nginx" then [cr.namesp ++ "-ingress-nginx-controller"]
  else []

/-- The names of the Deployments `reconcileAuthorization` applies for the enabled components, apart
from redis, whose names the CR chooses. -/
def authorizationInstalls (op : OperatorConfig) (cr : ContainerStorageModule) : List String :=
  let on := componentOn cr .authorizationServer
  (if on "cert-manager" then certManagerNames else []) ++
  (if on "proxy-server" then
    ["proxy-server", "tenant-service", "role-service", "storage-service",
      "authorization-controller"] else []) ++
  ingressInstalls op cr

/-! ## From the verdict to what is installed -/

/-- Every name is that of a listed Deployment that is ready. -/
def InstalledReady (names : List String) (ds : List Deployment) : Prop :=
  ∀ name ∈ names, ∃ d ∈ ds, d.name = name ∧ d.isReady = true

/-- Every name is that of a listed Deployment that is watched or ready. -/
def InstalledSeen (tables : List (List WatchedName)) (names : List String)
    (ds : List Deployment) : Prop :=
  ∀ name ∈ names, ∃ d ∈ ds, d.name = name ∧
    ((∃ table ∈ tables, watches table d = true) ∨ d.isReady = true)

/-- Where the watched Deployments are ready, being seen is as good as being ready. -/
theorem installedReady_iff_seen {tables : List (List WatchedName)} {names : List String}
    {ds : List Deployment} (h : ∀ table ∈ tables, WatchedReady table ds) :
    InstalledReady names ds ↔ InstalledSeen tables names ds := by
  constructor
  · intro hready name hname
    obtain ⟨d, hd, rfl, hr⟩ := hready name hname
    exact ⟨d, hd, rfl, .inr hr⟩
  · intro hseen name hname
    obtain ⟨d, hd, rfl, ⟨table, ht, hw⟩ | hr⟩ := hseen name hname
    · exact ⟨d, hd, rfl, h table ht d hd hw⟩
    · exact ⟨d, hd, rfl, hr⟩

/-- The tables of the Observability check. -/
def observabilityTables (cr : ContainerStorageModule) : List (List WatchedName) :=
  [observabilityWatched cr, certManagerWatched cr .observability]

/-- A PowerFlex CR with the collector of Observability on. -/
def collectorCR : ContainerStorageModule :=
  { name := "vxflexos", namesp := "dell"
    spec :=
      { driver := { csiDriverType := .powerFlex, configVersion := "v2.16.0" }
        modules := [{ name := .observability, enabled := true,
                      components := [{ name := "otel-collector", enabled := some true }] }] } }

/-- A proxy server CR with the Gateway API controller on. -/
def gatewayCR : ContainerStorageModule :=
  { name := "authorization", namesp := "authorization"
    spec := { modules := [{ name := .authorizationServer, enabled := true, configVersion := "v2.5.0",
                            components := [{ name := "nginx-gateway-fabric", enabled := some true }] }] } }

/-- The gateway controller as the operator deploys it, with no replica ready. -/
def unreadyGateway : Cluster :=
  { deployments := [{ name := "authorization-nginx-gateway-fabric", namesp := "authorization" }] }

end CsmOperator
