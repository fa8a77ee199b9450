import CsmOperator.Go.Slices
import CsmOperator.OperatorUtils.Containers
import Mathlib.Data.List.Induction

/-!
# `ReplaceAllApplyCustomEnvs` as an override by names

The environment of a template, with the values that the CR gives. The source collects the values of the
CR in a map from names to texts, in which the empty text stands for a name that is not there and `NA` for
an empty value, and builds every entry anew. This module says which entries come out as meant.
-/

namespace CsmOperator

open Go

/-! ## What is meant -/

/-- The last value given for a name. -/
def lastValue (envs : List EnvVar) (name : String) : Option String :=
  (envs.reverse.find? (·.name = name)).map (·.value)

/-- The value that the CR gives for a name: its own section wins over the common one. -/
def givenValue (commonEnv nrEnv : List EnvVar) (name : String) : Option String :=
  (lastValue nrEnv name).or (lastValue commonEnv name)

def EnvVarApply.withGiven (commonEnv nrEnv : List EnvVar) (old : EnvVarApply) : EnvVarApply :=
  match givenValue commonEnv nrEnv old.name with
  | some val => { name := old.name, value := some val }
  | none => old

theorem lastValue_append (commonEnv nrEnv : List EnvVar) (name : String) :
    lastValue (commonEnv ++ nrEnv) name = givenValue commonEnv nrEnv name := by
  unfold givenValue lastValue
  rw [List.reverse_append, List.find?_append]
  cases nrEnv.reverse.find? (·.name = name) <;> rfl

theorem lastValue_concat (envs : List EnvVar) (update : EnvVar) (name : String) :
    lastValue (envs ++ [update]) name =
      if update.name = name then some update.value else lastValue envs name := by
  unfold lastValue
  rw [List.reverse_append, List.reverse_singleton, List.singleton_append, List.find?_cons]
  split <;> simp_all

/-! ## What the map holds -/

theorem overrideOf_concat (updates : List EnvVar) (update : EnvVar) (name : String) :
    overrideOf (updates ++ [update]) name =
      if update.name = name then if update.value = "" then "NA" else update.value
      else overrideOf updates name := by
  unfold overrideOf
  rw [List.foldl_append]
  rfl

/-- The entry of the map, by the last value given. -/
def sentinel : Option String → String
  | none => ""
  | some val => if val = "" then "NA" else val

theorem overrideOf_eq (updates : List EnvVar) (name : String) :
    overrideOf updates name = sentinel (lastValue updates name) := by
  induction updates using List.reverseRecOn with
  | nil => rfl
  | append_singleton updates update ih =>
      rw [overrideOf_concat, lastValue_concat]
      split
      next => rfl
      next => exact ih

@[simp] theorem sentinel_none : sentinel none = "" := rfl

theorem sentinel_some (val : String) : sentinel (some val) = if val = "" then "NA" else val := rfl

theorem sentinel_some_ne (val : String) : sentinel (some val) ≠ "" := by
  rw [sentinel_some]
  split
  next => decide
  next h => exact h

/-- The value read back from the map is the one given, `NA` apart. -/
theorem value_sentinel_iff {val : String} :
    (if sentinel (some val) = "NA" then "" else sentinel (some val)) = val ↔ val ≠ "NA" := by
  rw [sentinel_some]
  by_cases hempty : val = ""
  · subst hempty
    decide
  · rw [if_neg hempty]
    by_cases hna : val = "NA"
    · subst hna
      decide
    · rw [if_neg hna]
      exact ⟨fun _ => hna, fun _ => rfl⟩

/-! ## Entries that are not overridden -/

/-- The entries that are built anew without a loss: a plain value, the path of a field, or a key of a
Secret, and nothing besides. -/
def EnvVarApply.Plain (e : EnvVarApply) : Prop :=
  e.valueFrom = none ∨ e.value = none ∧
    ((∃ path, e.valueFrom = some { fieldRef := some { fieldPath := some path } }) ∨
      ∃ name key optional,
        e.valueFrom = some { secretKeyRef := some { name := some name, key, optional } })

theorem EnvVarApply.keep_eq_iff {e : EnvVarApply} : e.keep = some e ↔ e.Plain := by
  obtain ⟨name, value, _ | ⟨fieldRef, secretKeyRef, otherRef⟩⟩ := e
  · exact ⟨fun _ => .inl rfl, fun _ => rfl⟩
  · -- A reference to a Secret wins, then one to a field; of an entry with neither only the name stays.
    rcases secretKeyRef with _ | ⟨_ | secret, key, optional⟩ <;>
      rcases fieldRef with _ | ⟨apiVersion, _ | path⟩ <;>
        simp [EnvVarApply.keep, EnvVarApply.keepField, EnvVarApply.keepSecret, EnvVarApply.Plain,
          @eq_comm _ none]

/-! ## The environment of a container -/

/-- What the CR gives for an entry is kept as it is, and an entry it gives nothing for is a plain one. -/
def EnvVarApply.Replaceable (commonEnv nrEnv : List EnvVar) (old : EnvVarApply) : Prop :=
  match givenValue commonEnv nrEnv old.name with
  | some val => val ≠ "NA"
  | none => old.Plain

theorem EnvVarApply.replace_eq_iff {commonEnv nrEnv : List EnvVar} {old : EnvVarApply} :
    old.replace (commonEnv ++ nrEnv) = some (old.withGiven commonEnv nrEnv) ↔
      old.Replaceable commonEnv nrEnv := by
  unfold EnvVarApply.replace EnvVarApply.withGiven EnvVarApply.Replaceable
  rw [overrideOf_eq, lastValue_append]
  cases givenValue commonEnv nrEnv old.name with
  | none => exact EnvVarApply.keep_eq_iff
  | some val =>
      dsimp only
      rw [if_pos (sentinel_some_ne val), ← value_sentinel_iff]
      simp

/-- `ReplaceAllApplyCustomEnvs` gives every entry its value, and leaves the others as they are, exactly
when every entry is one that the source can replace. -/
theorem replaceAllApplyCustomEnvs_correct_iff (driverEnv : List EnvVarApply) (commonEnv nrEnv : List EnvVar) :
    replaceAllApplyCustomEnvs driverEnv commonEnv nrEnv =
        some (driverEnv.map (·.withGiven commonEnv nrEnv)) ↔
      ∀ old ∈ driverEnv, old.Replaceable commonEnv nrEnv := by
  unfold replaceAllApplyCustomEnvs
  rw [mapM_eq_some_map_iff]
  exact forall₂_congr fun old _ => EnvVarApply.replace_eq_iff

/-- Two entries of a template, the second one read from a ConfigMap. -/
def levelAndMode : List EnvVarApply :=
  [{ name := "LEVEL" }, { name := "MODE", valueFrom := some { otherRef := some "configMapKeyRef" } }]

/-- A value that is the text `NA` becomes empty, and one that is read from a ConfigMap is lost. -/
theorem configMapValue_lost :
    replaceAllApplyCustomEnvs levelAndMode [] [{ name := "LEVEL", value := "NA" }] =
        some [{ name := "LEVEL", value := some "" }, { name := "MODE" }] ∧
      replaceAllApplyCustomEnvs levelAndMode [] [{ name := "LEVEL", value := "NA" }] ≠
        some (levelAndMode.map (·.withGiven [] [{ name := "LEVEL", value := "NA" }])) := by
  decide

end CsmOperator
