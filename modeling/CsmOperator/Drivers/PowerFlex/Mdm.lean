import CsmOperator.Api.Cluster
import CsmOperator.Drivers.PowerFlex.Addresses

/-!
# The MDM addresses of a driver: `GetMDMFromSecret` in `pkg/drivers/powerflex.go`

The arrays of PowerFlex are listed in a Secret. One loop checks the list and joins the MDM addresses of
the arrays that have some. The separator stands before every address but that of the array with index 0,
so it stands first when this array has none and a later one has.
-/

namespace CsmOperator

open Go

/-! ## The code -/

structure StorageArrayConfig where
  username : String := ""
  password : String := ""
  systemID : String := ""
  endpoint : String := ""
  isDefault : Bool := false
  mdm : String := ""
  deriving DecidableEq, Repr

/-- What the loop carries along: the addresses joined so far, the system ids that occurred, and the number
of default arrays. -/
structure ArrayScan where
  mdmVal : String := ""
  systemIDs : List String := []
  noOfDefaultArrays : Nat := 0
  deriving DecidableEq, Repr

def invalidArrayValue (field : String) (i : Nat) : GoError :=
  errorf ("invalid value for " ++ field ++ " at index [" ++ itoa i ++ "]")

/-- The four fields that must not be empty, in the order in which they are checked. -/
def checkArrayFields (i : Nat) (config : StorageArrayConfig) : Option GoError :=
  if config.systemID = "" then some (invalidArrayValue "SystemID" i)
  else if config.username = "" then some (invalidArrayValue "Username" i)
  else if config.password = "" then some (invalidArrayValue "Password" i)
  else if config.endpoint = "" then some (invalidArrayValue "RestGateway" i)
  else none

def addMdm (i : Nat) (mdmVal mdm : String) : Except GoError String :=
  if mdm = "" then .ok mdmVal
  else
    let (mdmFin, ismdmip) := validateIPAddress mdm
    if !ismdmip then
      .error (errorf
        "Invalid MDM value. Ip address should be numeric and comma separated without space")
    else if i = 0 then .ok (mdmVal ++ mdmFin)
    else .ok (mdmVal ++ ("&" ++ mdmFin))

/-- One array: its fields, its MDM, its system id and whether it is a default. -/
def scanArray (i : Nat) (st : ArrayScan) (config : StorageArrayConfig) : Except GoError ArrayScan :=
  match checkArrayFields i config with
  | some e => .error e
  | none =>
    match addMdm i st.mdmVal config.mdm with
    | .error e => .error e
    | .ok mdmVal =>
      if config.systemID ∈ st.systemIDs then
        .error (errorf ("Duplicate SystemID [" ++ config.systemID ++
          "] found in storageArrayList parameter"))
      else
        let noOfDefaultArrays := st.noOfDefaultArrays + if config.isDefault then 1 else 0
        if noOfDefaultArrays > 1 then
          .error (errorf ("'isDefaultArray' parameter located in multiple places SystemID: " ++
            config.systemID ++
            ". 'isDefaultArray' parameter should present only once in the storageArrayList"))
        else .ok { mdmVal, systemIDs := config.systemID :: st.systemIDs, noOfDefaultArrays }

def scanArrays : Nat → ArrayScan → List StorageArrayConfig → Except GoError ArrayScan
  | _, st, [] => .ok st
  | i, st, config :: configs =>
    match scanArray i st config with
    | .error e => .error e
    | .ok st => scanArrays (i + 1) st configs

/-- `GetMDMFromSecret`, from what `GetSecret` returned: the text under `config`. `jsonToYAML` is the parser,
which leaves the list of arrays or an error. -/
def getMDMFromSecret (jsonToYAML : String → Except String (List StorageArrayConfig))
    (cr : ContainerStorageModule) (credSecret : Except GoError String) : Except GoError String :=
  match credSecret with
  | .error e => .error (errorf ("reading secret [" ++ cr.name ++ "-config] error [" ++ e.text ++ "]"))
  | .ok configBytes =>
    if configBytes ≠ "" then
      match jsonToYAML configBytes with
      | .error e => .error (errorf ("unable to parse multi-array configuration[" ++ e ++ "]"))
      | .ok yamlConfig => (scanArrays 0 {} yamlConfig).map (·.mdmVal)
    else .error (errorf "Arrays details are not provided in vxflexos-config secret")

/-! ## What is meant -/

/-- The array has all it needs, and its MDM, if any, is a list of addresses. -/
def StorageArrayConfig.Complete (config : StorageArrayConfig) : Prop :=
  config.systemID ≠ "" ∧ config.username ≠ "" ∧ config.password ≠ "" ∧ config.endpoint ≠ "" ∧
    (config.mdm ≠ "" → ∀ ip ∈ trimmedPieces config.mdm, IsDottedQuad ip)

structure ValidArrays (arrays : List StorageArrayConfig) : Prop where
  complete : ∀ config ∈ arrays, config.Complete
  distinct : (arrays.map (·.systemID)).Nodup
  oneDefault : arrays.countP (·.isDefault) ≤ 1

/-- The MDM addresses of the arrays that have some, without white space. -/
def mdmValues (arrays : List StorageArrayConfig) : List String :=
  (arrays.filter (·.mdm ≠ "")).map fun config => join (trimmedPieces config.mdm) ","

/-! ## One array -/

theorem checkArrayFields_iff {i : Nat} {config : StorageArrayConfig} :
    checkArrayFields i config = none ↔
      config.systemID ≠ "" ∧ config.username ≠ "" ∧ config.password ≠ "" ∧ config.endpoint ≠ "" := by
  unfold checkArrayFields
  split_ifs <;> simp_all

/-- What an array adds to the addresses. -/
def mdmText (i : Nat) (mdm : String) : String :=
  if mdm = "" then "" else (if i = 0 then "" else "&") ++ join (trimmedPieces mdm) ","

theorem addMdm_iff {i : Nat} {mdmVal mdm mdmVal' : String} :
    addMdm i mdmVal mdm = .ok mdmVal' ↔
      (mdm ≠ "" → ∀ ip ∈ trimmedPieces mdm, IsDottedQuad ip) ∧ mdmVal' = mdmVal ++ mdmText i mdm := by
  unfold addMdm mdmText
  by_cases hempty : mdm = ""
  · rw [if_pos hempty, if_pos hempty, String.append_empty, Except.ok.injEq, eq_comm]
    exact (and_iff_right fun h => absurd hempty h).symm
  · rw [if_neg hempty, if_neg hempty, ← validateIPAddress_snd_iff, forall_prop_of_true hempty]
    cases hvalid : (validateIPAddress mdm).2 with
    | false => simp [hvalid]
    | true =>
        simp only [hvalid, validateIPAddress_fst hvalid, Bool.not_true, Bool.false_eq_true, if_false]
        split_ifs <;> simp [eq_comm]

theorem scanArray_iff {i : Nat} {st st' : ArrayScan} {config : StorageArrayConfig} :
    scanArray i st config = .ok st' ↔
      config.Complete ∧ config.systemID ∉ st.systemIDs ∧
        st.noOfDefaultArrays + (if config.isDefault then 1 else 0) ≤ 1 ∧
        st' =
          { mdmVal := st.mdmVal ++ mdmText i config.mdm
            systemIDs := config.systemID :: st.systemIDs
            noOfDefaultArrays := st.noOfDefaultArrays + if config.isDefault then 1 else 0 } := by
  unfold scanArray StorageArrayConfig.Complete
  cases hfields : checkArrayFields i config with
  | some e =>
      refine ⟨nofun, fun h => ?_⟩
      obtain ⟨⟨hid, hname, hpass, hend, -⟩, -⟩ := h
      have hnone := (checkArrayFields_iff (i := i)).mpr ⟨hid, hname, hpass, hend⟩
      rw [hfields] at hnone
      cases hnone
  | none =>
      obtain ⟨hid, hname, hpass, hend⟩ := checkArrayFields_iff.mp hfields
      dsimp only
      cases hmdm : addMdm i st.mdmVal config.mdm with
      | error e =>
          refine ⟨nofun, fun h => ?_⟩
          rw [addMdm_iff.mpr ⟨h.1.2.2.2.2, rfl⟩] at hmdm
          cases hmdm
      | ok mdmVal =>
          obtain ⟨hvalid, rfl⟩ := addMdm_iff.mp hmdm
          simp only [hid, hname, hpass, hend, ne_eq, not_false_eq_true, true_and]
          rw [and_iff_right hvalid]
          by_cases hmem : config.systemID ∈ st.systemIDs
          · simp [hmem]
          · by_cases hone : st.noOfDefaultArrays + (if config.isDefault then 1 else 0) ≤ 1
            · rw [if_neg hmem, if_neg (by omega), and_iff_right hmem, and_iff_right hone,
                Except.ok.injEq, eq_comm]
            · rw [if_neg hmem, if_pos (by omega)]
              exact ⟨nofun, fun h => absurd h.2.1 hone⟩

/-! ## The list of arrays -/

/-- What the arrays add, the first of them with index `i`. -/
def mdmTexts : Nat → List StorageArrayConfig → String
  | _, [] => ""
  | i, config :: configs => mdmText i config.mdm ++ mdmTexts (i + 1) configs

theorem scanArrays_iff {i : Nat} {st st' : ArrayScan} {arrays : List StorageArrayConfig}
    (hdefaults : st.noOfDefaultArrays ≤ 1) :
    scanArrays i st arrays = .ok st' ↔
      (∀ config ∈ arrays, config.Complete) ∧ (arrays.map (·.systemID)).Nodup ∧
        (∀ config ∈ arrays, config.systemID ∉ st.systemIDs) ∧
        st.noOfDefaultArrays + arrays.countP (·.isDefault) ≤ 1 ∧
        st' =
          { mdmVal := st.mdmVal ++ mdmTexts i arrays
            systemIDs := (arrays.map (·.systemID)).reverse ++ st.systemIDs
            noOfDefaultArrays := st.noOfDefaultArrays + arrays.countP (·.isDefault) } := by
  induction arrays generalizing i st with
  | nil => simp [scanArrays, mdmTexts, hdefaults, eq_comm]
  | cons config arrays ih =>
      unfold scanArrays
      cases hscan : scanArray i st config with
      | error e =>
          refine ⟨nofun, fun h => ?_⟩
          obtain ⟨hcomplete, -, hfresh, hcount, -⟩ := h
          rw [List.countP_cons] at hcount
          have hok := (scanArray_iff (i := i)).mpr ⟨hcomplete config List.mem_cons_self,
            hfresh config List.mem_cons_self, by omega, rfl⟩
          rw [hscan] at hok
          cases hok
      | ok st₁ =>
          obtain ⟨hcomplete, hfresh, hone, rfl⟩ := scanArray_iff.mp hscan
          have hids : ∀ other ∈ arrays, other.systemID ∉ config.systemID :: st.systemIDs ↔
              config.systemID ≠ other.systemID ∧ other.systemID ∉ st.systemIDs := fun other _ => by
            rw [List.mem_cons, not_or, ne_comm]
          dsimp only
          rw [ih hone, forall₂_congr hids, List.map_cons, List.nodup_cons, List.forall_mem_cons,
            List.forall_mem_cons, and_iff_right hcomplete, and_iff_right hfresh, List.countP_cons,
            List.reverse_cons, List.append_assoc, List.singleton_append, mdmTexts, String.append_assoc,
            Nat.add_assoc, Nat.add_comm (if config.isDefault = true then 1 else 0)]
          constructor
          · rintro ⟨hall, hnodup, hnew, hcount, hst⟩
            refine ⟨hall, ⟨fun hmem => ?_, hnodup⟩, fun other hother => (hnew other hother).2, hcount, hst⟩
            obtain ⟨other, hother, heq⟩ := List.mem_map.mp hmem
            exact (hnew other hother).1 heq.symm
          · rintro ⟨hall, ⟨hnew, hnodup⟩, hfresh', hcount, hst⟩
            refine ⟨hall, hnodup, fun other hother => ⟨fun heq => ?_, hfresh' other hother⟩, hcount, hst⟩
            exact hnew (heq ▸ List.mem_map_of_mem hother)

/-! ## The addresses -/

def ampersands (texts : List String) : String := texts.foldr (fun text rest => "&" ++ text ++ rest) ""

theorem join_eq_ampersands (text : String) (texts : List String) :
    join (text :: texts) "&" = text ++ ampersands texts := by
  induction texts generalizing text with
  | nil => rw [join_singleton]; exact (String.append_empty).symm
  | cons next texts ih =>
      have hcons : ampersands (next :: texts) = "&" ++ next ++ ampersands texts := rfl
      rw [join_cons (List.cons_ne_nil _ _), ih, hcons]
      simp only [String.append_assoc]

theorem mdmTexts_succ (i : Nat) (arrays : List StorageArrayConfig) :
    mdmTexts (i + 1) arrays = ampersands (mdmValues arrays) := by
  induction arrays generalizing i with
  | nil => rfl
  | cons config arrays ih =>
      rw [mdmTexts, ih, mdmText]
      by_cases hmdm : config.mdm = "" <;> simp [hmdm, mdmValues, ampersands, String.append_assoc]

/-- The separators stand between the addresses: the first array has some, or none has. -/
def MdmFirst (arrays : List StorageArrayConfig) : Prop :=
  (∀ config ∈ arrays.head?, config.mdm ≠ "") ∨ ∀ config ∈ arrays, config.mdm = ""

theorem mdmTexts_zero_iff (arrays : List StorageArrayConfig) :
    mdmTexts 0 arrays = join (mdmValues arrays) "&" ↔ MdmFirst arrays := by
  cases arrays with
  | nil => exact ⟨fun _ => .inr nofun, fun _ => rfl⟩
  | cons config arrays =>
      rw [mdmTexts, mdmTexts_succ, MdmFirst]
      by_cases hmdm : config.mdm = ""
      · have hvalues : mdmValues (config :: arrays) = mdmValues arrays := by simp [mdmValues, hmdm]
        have hnone : mdmValues arrays = [] ↔ ∀ other ∈ config :: arrays, other.mdm = "" := by
          simp [mdmValues, hmdm]
        rw [hvalues, mdmText, if_pos hmdm, String.empty_append, ← hnone]
        cases hrest : mdmValues arrays with
        | nil => exact ⟨fun _ => .inr rfl, fun _ => rfl⟩
        | cons text texts =>
            -- A separator stands in front.
            rw [join_eq_ampersands]
            refine ⟨fun heq => ?_, fun h => ?_⟩
            · have hlen := congrArg String.length heq
              simp [ampersands] at hlen
            · obtain h | h := h
              · exact absurd hmdm (h config rfl)
              · cases h
      · have hvalues : mdmValues (config :: arrays) =
            join (trimmedPieces config.mdm) "," :: mdmValues arrays := by simp [mdmValues, hmdm]
        rw [hvalues, join_eq_ampersands, mdmText, if_neg hmdm]
        exact ⟨fun _ => .inl fun _ h => by cases h; exact hmdm, fun _ => rfl⟩

/-! ## The result -/

section Result

variable {jsonToYAML : String → Except String (List StorageArrayConfig)} {cr : ContainerStorageModule}
  {configBytes : String} {arrays : List StorageArrayConfig}

theorem getMDMFromSecret_iff (hconfig : configBytes ≠ "") (hdecode : jsonToYAML configBytes = .ok arrays)
    {mdmVal : String} :
    getMDMFromSecret jsonToYAML cr (.ok configBytes) = .ok mdmVal ↔
      ValidArrays arrays ∧ mdmVal = mdmTexts 0 arrays := by
  have hscan : ∀ st', scanArrays 0 {} arrays = .ok st' ↔ _ := fun _ => scanArrays_iff (Nat.zero_le 1)
  unfold getMDMFromSecret
  dsimp only
  rw [if_pos hconfig, hdecode]
  dsimp only
  constructor
  · intro h
    cases hres : scanArrays 0 {} arrays with
    | error e => rw [hres] at h; cases h
    | ok st =>
        rw [hres] at h
        obtain rfl : st.mdmVal = mdmVal := Except.ok.inj h
        obtain ⟨hcomplete, hdistinct, -, hcount, rfl⟩ := (hscan st).mp hres
        exact ⟨⟨hcomplete, hdistinct, by simpa using hcount⟩, String.empty_append⟩
  · rintro ⟨⟨hcomplete, hdistinct, hcount⟩, rfl⟩
    rw [(hscan _).mpr ⟨hcomplete, hdistinct, fun _ _ => List.not_mem_nil, by simpa using hcount, rfl⟩]
    exact congrArg Except.ok String.empty_append

end Result

/-- An array with the given MDM. -/
def arrayWith (systemID mdm : String) : StorageArrayConfig :=
  { username := "admin", password := "secret", systemID, endpoint := "https://gateway", mdm }

end CsmOperator
