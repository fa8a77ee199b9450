import CsmOperator.Api.Cluster

/-!
# Zones of the arrays: `ValidateZonesInSecret` in `pkg/drivers/powerflex.go`

An array of PowerFlex may be placed in a zone, which is a label and its value. The loop over the arrays
remembers the first label it saw and counts the arrays with a zone. Its verdict does not depend on the
order of the arrays.
-/

namespace CsmOperator

/-! ## The code -/

structure Zone where
  name : String := ""
  labelKey : String := ""
  deriving DecidableEq, Repr

structure ZonedArray where
  systemID : String := ""
  zone : Zone := {}
  deriving DecidableEq, Repr

/-- What the loop carries along. -/
structure ZoneScan where
  labelKey : String := ""
  numArraysWithZone : Nat := 0
  deriving DecidableEq, Repr

def scanZone (st : ZoneScan) (configParam : ZonedArray) : Except GoError ZoneScan :=
  if configParam.systemID = "" then .error (errorf "invalid value for SystemID")
  else if configParam.zone = {} then .ok st
  else if configParam.zone.labelKey = "" then
    .error (errorf ("zone LabelKey is empty or not specified for SystemID: " ++ configParam.systemID))
  else if st.labelKey ≠ "" ∧ st.labelKey ≠ configParam.zone.labelKey then
    .error (errorf "labelKey is not consistent across all arrays in secret")
  else if configParam.zone.name = "" then
    .error (errorf ("zone name is empty or not specified for SystemID: " ++ configParam.systemID))
  else
    .ok
      { labelKey := if st.labelKey = "" then configParam.zone.labelKey else st.labelKey
        numArraysWithZone := st.numArraysWithZone + 1 }

def scanZones : ZoneScan → List ZonedArray → Except GoError ZoneScan
  | st, [] => .ok st
  | st, configParam :: configs =>
    match scanZone st configParam with
    | .error e => .error e
    | .ok st => scanZones st configs

def notAllZoned : GoError :=
  errorf ("not all arrays have zoning configured. Check the array info secret, zone key " ++
    "should be the same for all arrays")

/-- The verdict on the decoded list. -/
def judgeZones (yamlConfig : List ZonedArray) : Option GoError :=
  match scanZones {} yamlConfig with
  | .error e => some e
  | .ok st =>
    if st.numArraysWithZone > 0 ∧ yamlConfig.length ≠ st.numArraysWithZone then
      some notAllZoned
    else none

/-- `ValidateZonesInSecret`, from what `GetSecret` returned: the text under `config`. -/
def validateZonesInSecret (jsonToYAML : String → Except String String)
    (unmarshal : String → Except String (List ZonedArray)) (secret : String)
    (arraySecret : Except GoError String) : Option GoError :=
  match arraySecret with
  | .error e => some (errorf ("reading secret [" ++ secret ++ "] error " ++ e.text))
  | .ok configBytes =>
    if configBytes ≠ "" then
      match jsonToYAML configBytes with
      | .error e =>
        some (errorf ("malformed json in array secret - unable to parse multi-array configuration " ++ e))
      | .ok configs =>
        match unmarshal configs with
        | .error e => some (errorf ("unable to unmarshal array secret " ++ e))
        | .ok yamlConfig => judgeZones yamlConfig
    else some (errorf "array details are not provided in secret")

/-! ## What is meant -/

/-- No array has a zone, or all have one, with a name and with the same label. -/
def ValidZones (arrays : List ZonedArray) : Prop :=
  (∀ a ∈ arrays, a.systemID ≠ "") ∧
    ((∀ a ∈ arrays, a.zone = {}) ∨
      ∃ labelKey, labelKey ≠ "" ∧ ∀ a ∈ arrays, a.zone.name ≠ "" ∧ a.zone.labelKey = labelKey)

theorem ValidZones.perm {arrays arrays' : List ZonedArray} (h : arrays.Perm arrays') :
    ValidZones arrays ↔ ValidZones arrays' := by
  unfold ValidZones
  simp only [h.mem_iff]

/-! ## The loop -/

/-- The array has a system id, and its zone, if any, a name and the given label. -/
def ZonedArray.Fits (labelKey : String) (a : ZonedArray) : Prop :=
  a.systemID ≠ "" ∧
    (a.zone ≠ {} → a.zone.labelKey ≠ "" ∧ a.zone.labelKey = labelKey ∧ a.zone.name ≠ "")

/-- The label is the one remembered, unless none is yet. -/
def ZoneScan.Allows (st : ZoneScan) (labelKey : String) : Prop := st.labelKey = "" ∨ st.labelKey = labelKey

theorem scanZone_of_none {st st' : ZoneScan} {a : ZonedArray} (hzone : a.zone = {}) :
    scanZone st a = .ok st' ↔ a.systemID ≠ "" ∧ st' = st := by
  unfold scanZone
  by_cases hid : a.systemID = ""
  · simp [hid]
  · simp [hid, hzone, eq_comm]

theorem scanZone_of_some {st st' : ZoneScan} {a : ZonedArray} (hzone : a.zone ≠ {}) :
    scanZone st a = .ok st' ↔
      a.Fits a.zone.labelKey ∧ st.Allows a.zone.labelKey ∧
        st' = { labelKey := a.zone.labelKey, numArraysWithZone := st.numArraysWithZone + 1 } := by
  unfold scanZone ZonedArray.Fits ZoneScan.Allows
  split_ifs with hid hkey hsame hname hfirst
  · simp [hid]
  · simp [hkey, hzone]
  · refine ⟨nofun, fun h => ?_⟩
    obtain hallows | hallows := h.2.1
    · exact absurd hallows hsame.1
    · exact absurd hallows hsame.2
  · simp [hname, hzone]
  · simp [hid, hzone, hkey, hname, hfirst, eq_comm]
  · have heq : st.labelKey = a.zone.labelKey := by
      by_contra hne
      exact hsame ⟨hfirst, hne⟩
    rw [heq, Except.ok.injEq, eq_comm]
    simp [hid, hkey, hname]

theorem scanZones_iff {st : ZoneScan} {arrays : List ZonedArray} :
    (∃ st', scanZones st arrays = .ok st') ↔
      ∃ labelKey, st.Allows labelKey ∧ ∀ a ∈ arrays, a.Fits labelKey := by
  induction arrays generalizing st with
  | nil => exact ⟨fun _ => ⟨st.labelKey, .inr rfl, nofun⟩, fun _ => ⟨st, rfl⟩⟩
  | cons a arrays ih =>
      have hstep : (∃ st', scanZones st (a :: arrays) = .ok st') ↔
          ∃ st₁, scanZone st a = .ok st₁ ∧ ∃ st', scanZones st₁ arrays = .ok st' := by
        rw [scanZones]
        cases scanZone st a <;> simp
      rw [hstep]
      simp only [List.forall_mem_cons, ih]
      by_cases hzone : a.zone = {}
      · have hfits : ∀ labelKey, a.Fits labelKey ↔ a.systemID ≠ "" := fun _ =>
          and_iff_left fun h => absurd hzone h
        simp only [scanZone_of_none hzone, hfits]
        constructor
        · rintro ⟨_, ⟨hid, rfl⟩, labelKey, hallows, hrest⟩
          exact ⟨labelKey, hallows, hid, hrest⟩
        · rintro ⟨labelKey, hallows, hid, hrest⟩
          exact ⟨st, ⟨hid, rfl⟩, labelKey, hallows, hrest⟩
      · simp only [scanZone_of_some hzone]
        constructor
        · rintro ⟨_, ⟨hfits, hallows, rfl⟩, labelKey, hsame, hrest⟩
          -- From here on the label of this array is the one remembered.
          obtain rfl : a.zone.labelKey = labelKey := hsame.resolve_left (hfits.2 hzone).1
          exact ⟨_, hallows, hfits, hrest⟩
        · rintro ⟨labelKey, hallows, hfits, hrest⟩
          obtain rfl := (hfits.2 hzone).2.1
          exact ⟨_, ⟨hfits, hallows, rfl⟩, _, .inr rfl, hrest⟩

theorem numArraysWithZone_scanZones {st st' : ZoneScan} {arrays : List ZonedArray}
    (h : scanZones st arrays = .ok st') :
    st'.numArraysWithZone = st.numArraysWithZone + arrays.countP (·.zone ≠ {}) := by
  induction arrays generalizing st with
  | nil => cases h; rfl
  | cons a arrays ih =>
      rw [scanZones] at h
      cases hscan : scanZone st a with
      | error e => rw [hscan] at h; cases h
      | ok st₁ =>
          rw [hscan] at h
          rw [ih h, List.countP_cons]
          by_cases hzone : a.zone = {}
          · rw [((scanZone_of_none hzone).mp hscan).2]
            simp [hzone]
          · rw [((scanZone_of_some hzone).mp hscan).2.2]
            simp [hzone]
            omega

/-- The counters tell whether all arrays have a zone, or none. -/
theorem counts_iff {arrays : List ZonedArray} :
    ¬ (arrays.countP (·.zone ≠ {}) > 0 ∧ arrays.length ≠ arrays.countP (·.zone ≠ {})) ↔
      (∀ a ∈ arrays, a.zone = {}) ∨ ∀ a ∈ arrays, a.zone ≠ {} := by
  rw [not_and_or, Nat.not_lt, Nat.le_zero, List.countP_eq_zero, not_ne_iff, eq_comm,
    List.countP_eq_length]
  simp

theorem judgeZones_iff {arrays : List ZonedArray} : judgeZones arrays = none ↔ ValidZones arrays := by
  have hverdict : judgeZones arrays = none ↔
      (∃ st', scanZones {} arrays = .ok st') ∧
        ((∀ a ∈ arrays, a.zone = {}) ∨ ∀ a ∈ arrays, a.zone ≠ {}) := by
    unfold judgeZones
    cases hscan : scanZones {} arrays with
    | error e => simp
    | ok st =>
        have hnum : st.numArraysWithZone = arrays.countP (·.zone ≠ {}) :=
          (numArraysWithZone_scanZones hscan).trans (Nat.zero_add _)
        dsimp only
        rw [← counts_iff, hnum]
        simp
  rw [hverdict, scanZones_iff]
  unfold ValidZones ZonedArray.Fits
  constructor
  · rintro ⟨⟨labelKey, -, hfits⟩, hnone | hall⟩
    · exact ⟨fun a ha => (hfits a ha).1, .inl hnone⟩
    · refine ⟨fun a ha => (hfits a ha).1, ?_⟩
      cases arrays with
      | nil => exact .inl nofun
      | cons b arrays =>
          obtain ⟨hkey, rfl, -⟩ := (hfits b List.mem_cons_self).2 (hall b List.mem_cons_self)
          refine .inr ⟨_, hkey, fun a ha => ?_⟩
          obtain ⟨-, hsame, hname⟩ := (hfits a ha).2 (hall a ha)
          exact ⟨hname, hsame⟩
  · rintro ⟨hids, hnone | ⟨labelKey, hkey, hall⟩⟩
    · exact ⟨⟨"", .inl rfl, fun a ha => ⟨hids a ha, fun h => absurd (hnone a ha) h⟩⟩, .inl hnone⟩
    · refine ⟨⟨labelKey, .inl rfl, fun a ha => ⟨hids a ha, fun _ => ?_⟩⟩, .inr fun a ha hzone => ?_⟩
      · obtain ⟨hname, hsame⟩ := hall a ha
        exact ⟨hsame ▸ hkey, hsame, hname⟩
      · have hname := (hall a ha).1
        rw [hzone] at hname
        exact hname rfl

/-! ## The verdict on a Secret -/

section Secret

variable {jsonToYAML : String → Except String String} {unmarshal : String → Except String (List ZonedArray)}
  {secret configBytes : String} {arrays : List ZonedArray}

/-- The text of the Secret is there and decodes to the arrays. -/
def DecodesTo (jsonToYAML : String → Except String String)
    (unmarshal : String → Except String (List ZonedArray)) (configBytes : String)
    (arrays : List ZonedArray) : Prop :=
  configBytes ≠ "" ∧ ∃ configs, jsonToYAML configBytes = .ok configs ∧ unmarshal configs = .ok arrays

theorem validateZonesInSecret_eq (h : DecodesTo jsonToYAML unmarshal configBytes arrays) :
    validateZonesInSecret jsonToYAML unmarshal secret (.ok configBytes) = judgeZones arrays := by
  obtain ⟨hconfig, configs, hjson, hyaml⟩ := h
  unfold validateZonesInSecret
  dsimp only
  rw [if_pos hconfig, hjson]
  dsimp only
  rw [hyaml]

/-- `ValidateZonesInSecret` accepts the arrays that all have a zone with the same label, or none; in
whatever order they stand. -/
theorem validateZonesInSecret_correct (h : DecodesTo jsonToYAML unmarshal configBytes arrays) :
    (validateZonesInSecret jsonToYAML unmarshal secret (.ok configBytes) = none ↔ ValidZones arrays) ∧
      ∀ configBytes' arrays', DecodesTo jsonToYAML unmarshal configBytes' arrays' →
        arrays.Perm arrays' →
          (validateZonesInSecret jsonToYAML unmarshal secret (.ok configBytes') = none ↔
            validateZonesInSecret jsonToYAML unmarshal secret (.ok configBytes) = none) := by
  rw [validateZonesInSecret_eq h]
  refine ⟨judgeZones_iff, fun configBytes' arrays' h' hperm => ?_⟩
  rw [validateZonesInSecret_eq h', judgeZones_iff, judgeZones_iff]
  exact ValidZones.perm hperm.symm

end Secret

/-- Two arrays with one label, and one of them without a zone. -/
theorem validateZonesInSecret_correct_two :
    let decode : String → Except String (List ZonedArray) := fun s =>
      if s = "zoned" then .ok [⟨"one", ⟨"a", "rack"⟩⟩, ⟨"two", ⟨"b", "rack"⟩⟩]
      else .ok [⟨"one", ⟨"a", "rack"⟩⟩, ⟨"two", {}⟩]
    validateZonesInSecret .ok decode "vxflexos-config" (.ok "zoned") = none ∧
      validateZonesInSecret .ok decode "vxflexos-config" (.ok "mixed") ≠ none :=
  ⟨(validateZonesInSecret_correct ⟨by decide, _, rfl, rfl⟩).1.mpr
      ⟨by decide, .inr ⟨"rack", by decide, by decide⟩⟩,
    by decide⟩

end CsmOperator
