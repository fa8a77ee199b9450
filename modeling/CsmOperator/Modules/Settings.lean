import CsmOperator.Api.V1
import CsmOperator.Go.Slices
import CsmOperator.Go.Templates

/-!
# The settings of metrics and replication: `observability.go` and `replication.go`

A component's environment sets what is substituted for the placeholders of a manifest. Four functions read
it in the same way: for each variable they go through their placeholders, and the first placeholder that
*contains* the name of the variable gets its value.
-/

namespace CsmOperator

open Go

/-! ## Reading -/

/-- The chain of conditions for one variable; `accepts` is the condition on its value. -/
def readEnv (accepts : String → Bool) (env : EnvVar) : List Replacement → List Replacement
  | [] => []
  | s :: ss =>
    if contains (placeholder s.name) env.name && accepts env.value then { s with value := env.value } :: ss
    else s :: readEnv accepts env ss

def readEnvs (accepts : String → Bool) (settings : List Replacement) (envs : List EnvVar) : List Replacement :=
  envs.foldl (fun ss env => readEnv accepts env ss) settings

/-- The component a function looks for, and its variables with their defaults, in the order of the chain. -/
structure SettingsReader where
  component : String
  settings : List Replacement
  accepts : String → Bool := fun _ => true

/-- The loop over the components. -/
def SettingsReader.values (r : SettingsReader) (components : List ContainerTemplate) : List Replacement :=
  components.foldl (fun ss c => if c.name = r.component then readEnvs r.accepts ss c.envs else ss) r.settings

def getPowerFlexMetricsObject : SettingsReader where
  component := "metrics-powerflex"
  settings :=
    [⟨"POWERFLEX_LOG_LEVEL", "INFO"⟩,
      ⟨"POWERFLEX_MAX_CONCURRENT_QUERIES", "10"⟩,
      ⟨"POWERFLEX_SDC_METRICS_ENABLED", "true"⟩,
      ⟨"POWERFLEX_SDC_IO_POLL_FREQUENCY", "10"⟩,
      ⟨"POWERFLEX_TOPOLOGY_METRICS_ENABLED", "true"⟩,
      ⟨"POWERFLEX_TOPOLOGY_METRICS_POLL_FREQUENCY", "30"⟩,
      ⟨"POWERFLEX_VOLUME_METRICS_ENABLED", "true"⟩,
      ⟨"POWERFLEX_VOLUME_IO_POLL_FREQUENCY", "10"⟩,
      ⟨"POWERFLEX_STORAGE_POOL_METRICS_ENABLED", "true"⟩,
      ⟨"POWERFLEX_STORAGE_POOL_POLL_FREQUENCY", "10"⟩,
      ⟨"POWERFLEX_LOG_FORMAT", "TEXT"⟩,
      ⟨"COLLECTOR_ADDRESS", "otel-collector:55680"⟩]

def getPowerScaleMetricsObjects : SettingsReader where
  component := "metrics-powerscale"
  settings :=
    [⟨"POWERSCALE_LOG_LEVEL", "INFO"⟩,
      ⟨"POWERSCALE_MAX_CONCURRENT_QUERIES", "10"⟩,
      ⟨"POWERSCALE_CAPACITY_METRICS_ENABLED", "true"⟩,
      ⟨"POWERSCALE_PERFORMANCE_METRICS_ENABLED", "true"⟩,
      ⟨"POWERSCALE_TOPOLOGY_METRICS_ENABLED", "true"⟩,
      ⟨"POWERSCALE_TOPOLOGY_METRICS_POLL_FREQUENCY", "30"⟩,
      ⟨"POWERSCALE_CLUSTER_CAPACITY_POLL_FREQUENCY", "30"⟩,
      ⟨"POWERSCALE_CLUSTER_PERFORMANCE_POLL_FREQUENCY", "20"⟩,
      ⟨"POWERSCALE_QUOTA_CAPACITY_POLL_FREQUENCY", "30"⟩,
      ⟨"ISICLIENT_INSECURE", "true"⟩,
      ⟨"ISICLIENT_AUTH_TYPE", "1"⟩,
      ⟨"ISICLIENT_VERBOSE", "0"⟩,
      ⟨"POWERSCALE_LOG_FORMAT", "TEXT"⟩,
      ⟨"COLLECTOR_ADDRESS", "otel-collector:55680"⟩]

def getPowerStoreMetricsObjects : SettingsReader where
  component := "metrics-powerstore"
  settings :=
    [⟨"POWERSTORE_MAX_CONCURRENT_QUERIES", "10"⟩,
      ⟨"POWERSTORE_VOLUME_METRICS_ENABLED", "true"⟩,
      ⟨"POWERSTORE_VOLUME_IO_POLL_FREQUENCY", "10"⟩,
      ⟨"POWERSTORE_SPACE_POLL_FREQUENCY", "300"⟩,
      ⟨"POWERSTORE_ARRAY_POLL_FREQUENCY", "300"⟩,
      ⟨"POWERSTORE_FILE_SYSTEM_POLL_FREQUENCY", "20"⟩,
      ⟨"POWERSTORE_TOPOLOGY_METRICS_ENABLED", "true"⟩,
      ⟨"POWERSTORE_TOPOLOGY_POLL_FREQUENCY", "30"⟩,
      ⟨"X_CSI_POWERSTORE_API_TIMEOUT", "120s"⟩,
      ⟨"ZIPKIN_URI", ""⟩,
      ⟨"ZIPKIN_SERVICE_NAME", "metrics-powerstore"⟩,
      ⟨"ZIPKIN_PROBABILITY", "0.0"⟩,
      ⟨"POWERSTORE_LOG_LEVEL", "INFO"⟩,
      ⟨"POWERSTORE_LOG_FORMAT", "TEXT"⟩,
      ⟨"COLLECTOR_ADDRESS", "otel-collector:55680"⟩]

/-- Empty values are not taken. -/
def getReplicaController : SettingsReader where
  component := "dell-replication-controller-manager"
  settings :=
    [⟨"REPLICATION_CTRL_LOG_LEVEL", "debug"⟩,
      ⟨"REPLICATION_CTRL_REPLICAS", "1"⟩,
      ⟨"RETRY_INTERVAL_MIN", "1s"⟩,
      ⟨"RETRY_INTERVAL_MAX", "5m"⟩,
      ⟨"DISABLE_PVC_REMAP", "false"⟩,
      ⟨"ENABLE_KUBEVIRT_PVC_REMAP", "false"⟩,
      ⟨"REPLICATION_ALLOW_PVC_CREATION_ON_TARGET", "false"⟩]
  accepts value := value ≠ ""

inductive SettingsFunction where
  | powerFlexMetrics
  | powerScaleMetrics
  | powerStoreMetrics
  | replicaController
  deriving DecidableEq, Repr

def SettingsFunction.reader : SettingsFunction → SettingsReader
  | powerFlexMetrics => getPowerFlexMetricsObject
  | powerScaleMetrics => getPowerScaleMetricsObjects
  | powerStoreMetrics => getPowerStoreMetricsObjects
  | replicaController => getReplicaController

/-! ## What a variable is read as -/

/-- The first of the names whose placeholder contains the variable's name. -/
def readAs (names : List String) (envName : String) : Option String :=
  names.find? fun name => contains (placeholder name) envName

/-- The variable sets `name` in a chain over `names`. -/
def sets (accepts : String → Bool) (names : List String) (name : String) (env : EnvVar) : Bool :=
  accepts env.value && readAs names env.name == some name

/-- The variable has exactly the name `name`. -/
def isNamed (accepts : String → Bool) (name : String) (env : EnvVar) : Bool :=
  accepts env.value && env.name == name

theorem mem_of_readAs {names : List String} {envName name : String} (h : readAs names envName = some name) :
    name ∈ names :=
  List.mem_of_find?_eq_some h

section Reading

variable {accepts : String → Bool}

theorem readEnv_eq (env : EnvVar) (ss : List Replacement) (hnodup : (ss.map (·.name)).Nodup) :
    readEnv accepts env ss = ss.map fun s =>
      if sets accepts (ss.map (·.name)) s.name env then { s with value := env.value } else s := by
  induction ss with
  | nil => rfl
  | cons s ss ih =>
      rw [List.map_cons, List.nodup_cons] at hnodup
      obtain ⟨hnew, hnodup⟩ := hnodup
      have hne : ∀ t ∈ ss, s.name ≠ t.name := fun t ht heq => hnew (heq ▸ List.mem_map_of_mem ht)
      rw [readEnv, List.map_cons, List.map_cons]
      by_cases hs : contains (placeholder s.name) env.name = true
      · have hread : readAs (s.name :: ss.map (·.name)) env.name = some s.name := List.find?_cons_of_pos hs
        cases ha : accepts env.value with
        | true =>
            rw [hs, Bool.and_self, if_pos rfl, if_pos (by rw [sets, ha, hread, Bool.true_and, beq_self_eq_true])]
            congr 1
            refine ((List.map_congr_left fun t ht => ?_).trans (List.map_id ss)).symm
            rw [if_neg]
            · rfl
            · rw [sets, hread, Bool.and_eq_true, beq_iff_eq, Option.some.injEq]
              exact fun h => hne t ht h.2
        | false => simp [sets, ha, ih hnodup]
      · have hread : readAs (s.name :: ss.map (·.name)) env.name = readAs (ss.map (·.name)) env.name :=
          List.find?_cons_of_neg hs
        have hhead : ¬sets accepts (s.name :: ss.map (·.name)) s.name env = true := by
          rw [sets, hread, Bool.and_eq_true, beq_iff_eq]
          exact fun h => hnew (mem_of_readAs h.2)
        rw [if_neg (by simp [hs]), if_neg hhead, ih hnodup]
        refine congrArg (s :: ·) (List.map_congr_left fun t _ => ?_)
        rw [sets, sets, hread]

theorem names_readEnv (env : EnvVar) (ss : List Replacement) :
    (readEnv accepts env ss).map (·.name) = ss.map (·.name) := by
  induction ss with
  | nil => rfl
  | cons s ss ih =>
      rw [readEnv]
      split
      · rfl
      · rw [List.map_cons, List.map_cons, ih]

/-- After all variables each setting has the last value that was read for it. -/
theorem readEnvs_eq (envs : List EnvVar) (ss : List Replacement) (hnodup : (ss.map (·.name)).Nodup) :
    readEnvs accepts ss envs = ss.map fun s =>
      { s with value := lastOf (sets accepts (ss.map (·.name)) s.name) (·.value) s.value envs } := by
  induction envs generalizing ss with
  | nil => exact (List.map_id'' (fun _ => rfl) ss).symm
  | cons env envs ih =>
      rw [readEnvs, List.foldl_cons, ← readEnvs, ih _ (names_readEnv env ss ▸ hnodup), names_readEnv,
        readEnv_eq env ss hnodup, List.map_map]
      refine List.map_congr_left fun s _ => ?_
      rw [Function.comp_apply, lastOf, lastOf, List.foldl_cons]
      split <;> rfl

end Reading

/-! ## Exact names -/

namespace SettingsReader

variable (r : SettingsReader) (components : List ContainerTemplate)

/-- All variables of the components a function looks at. -/
def envs : List EnvVar := (components.filter (·.name = r.component)).flatMap (·.envs)

/-- Each setting has the value of the last variable with exactly its name, or else its default. -/
def MatchesExactly : Prop :=
  r.values components = r.settings.map fun s =>
    { s with value := lastOf (isNamed r.accepts s.name) (·.value) s.value (r.envs components) }

/-- A variable whose name is only a fragment of the placeholder it is read as comes before another one
that is read as the same setting, or has the value which the setting has without it. -/
def FragmentsHarmless : Prop :=
  ∀ s ∈ r.settings, ∀ before env after, r.envs components = before ++ env :: after →
    r.accepts env.value = true → readAs (r.settings.map (·.name)) env.name = some s.name → env.name ≠ s.name →
    (∃ later ∈ after, sets r.accepts (r.settings.map (·.name)) s.name later = true) ∨
      env.value = lastOf (isNamed r.accepts s.name) (·.value) s.value before

theorem values_eq_readEnvs : r.values components = readEnvs r.accepts r.settings (r.envs components) := by
  rw [values, envs, readEnvs, List.foldl_flatMap, List.foldl_filter]
  simp only [decide_eq_true_eq, readEnvs]

variable {r components}

theorem matchesExactly_iff_of_read (hnodup : (r.settings.map (·.name)).Nodup)
    (hread : ∀ s ∈ r.settings, readAs (r.settings.map (·.name)) s.name = some s.name) :
    r.MatchesExactly components ↔ r.FragmentsHarmless components := by
  have hsets : ∀ s ∈ r.settings, ∀ env, isNamed r.accepts s.name env = true →
      sets r.accepts (r.settings.map (·.name)) s.name env = true := by
    intro s hs env h
    rw [isNamed, Bool.and_eq_true, beq_iff_eq] at h
    rw [sets, h.1, h.2, hread s hs, Bool.true_and, beq_self_eq_true]
  rw [MatchesExactly, values_eq_readEnvs, readEnvs_eq _ _ hnodup, List.map_inj_left]
  refine forall₂_congr fun s hs => ?_
  rw [Replacement.mk.injEq, eq_self, true_and, lastOf_eq_iff (hsets s hs)]
  refine forall₄_congr fun before env after _ => ?_
  simp only [sets, isNamed, Bool.and_eq_true, beq_iff_eq]
  constructor
  · intro h ha hs hne
    exact h ⟨ha, hs⟩ (by simp [hne])
  · rintro h ⟨ha, hs⟩ hne
    exact h ha hs (by simpa [ha] using hne)

end SettingsReader

/-! The placeholders of each function are distinct, and none contains another one's name before it. -/

theorem SettingsFunction.nodup_names (f : SettingsFunction) : (f.reader.settings.map (·.name)).Nodup := by
  cases f <;> decide +kernel

theorem SettingsFunction.readAs_name (f : SettingsFunction) :
    ∀ s ∈ f.reader.settings, readAs (f.reader.settings.map (·.name)) s.name = some s.name := by
  cases f <;> decide +kernel

/-- The four functions substitute the value of the last variable with exactly the name of the placeholder,
if and only if no variable named by a fragment gets in between. -/
theorem matchesExactly_iff (f : SettingsFunction) (components : List ContainerTemplate) :
    f.reader.MatchesExactly components ↔ f.reader.FragmentsHarmless components :=
  SettingsReader.matchesExactly_iff_of_read f.nodup_names f.readAs_name

/-- A variable that is meant for nothing in this component: its name is a fragment of a placeholder. -/
def logLevelComponent : ContainerTemplate :=
  { name := "metrics-powerflex", envs := [{ name := "LOG_LEVEL", value := "DEBUG" }] }

theorem fragment_sets_logLevel : ¬getPowerFlexMetricsObject.MatchesExactly [logLevelComponent] := by
  rw [SettingsReader.MatchesExactly]
  decide +kernel

end CsmOperator
