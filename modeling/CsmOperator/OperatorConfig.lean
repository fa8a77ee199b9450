import CsmOperator.Go.Float

/-!
# The image set for a Kubernetes version: `getOperatorConfig` of `main.go`

The operator has a table of images for each supported version of Kubernetes, and one for all older versions.
It compares versions as floating point numbers, so that 1.9 is above 1.36.
-/

namespace CsmOperator

open Go

/-! ## Selecting -/

/-- `version.Info` of the API server. -/
structure ServerVersion where
  major : String
  minor : String
  deriving DecidableEq, Repr

def k8sMinimumSupportedVersion : String := "1.34"

def k8sMaximumSupportedVersion : String := "1.36"

def defaultPath : String := "/driverconfig/common/default.yaml"

def valuesPath (kubeVersion : String) : String := "/driverconfig/common/k8s-" ++ kubeVersion ++ "-values.yaml"

def getk8sPath (kubeVersion : String) (currentVersion minVersion maxVersion : WithTop ℚ) : String :=
  if currentVersion < minVersion then defaultPath
  else if maxVersion < currentVersion then valuesPath k8sMaximumSupportedVersion
  else valuesPath kubeVersion

/-- The two paths of `OperatorConfig`: its directory, and the file the images are read from. -/
structure ConfigPaths where
  configDirectory : String
  k8sPath : String
  deriving DecidableEq, Repr

/-- `mounted` says whether the directory of the deployment can be read. -/
def getOperatorConfig (mounted : Bool) (kubeAPIServerVersion : ServerVersion) : ConfigPaths :=
  let kubeVersion := kubeAPIServerVersion.major ++ "." ++ trimSuffix kubeAPIServerVersion.minor "+"
  let k8sPath := getk8sPath kubeVersion (parseFloat kubeVersion) (parseFloat k8sMinimumSupportedVersion)
    (parseFloat k8sMaximumSupportedVersion)
  let configDirectory := if mounted then "/etc/config/dell-csm-operator" else "operatorconfig"
  ⟨configDirectory, configDirectory ++ k8sPath⟩

/-! ## By the order of versions -/

/-- The version as the API server writes it; a minor version may end in `+`. -/
def serverVersion (major minor : ℕ) (plus : Bool) : ServerVersion :=
  ⟨toString major, toString minor ++ if plus then "+" else ""⟩

/-- The file for a version: older ones have the default, newer ones the last that is supported. -/
def pathInOrder (major minor : ℕ) : String :=
  if major < 1 ∨ major = 1 ∧ minor < 34 then defaultPath
  else if 1 < major ∨ major = 1 ∧ 36 < minor then valuesPath k8sMaximumSupportedVersion
  else valuesPath (toString major ++ "." ++ toString minor)

def FollowsOrder (mounted : Bool) (major minor : ℕ) (plus : Bool) : Prop :=
  (getOperatorConfig mounted (serverVersion major minor plus)).k8sPath =
    (getOperatorConfig mounted (serverVersion major minor plus)).configDirectory ++ pathInOrder major minor

/-- A minor version of one digit is not above the supported ones as a fraction, and one of three digits or
more is: from the middle between the `float64` of 1.36 and the next one. -/
structure InOrder (minor : ℕ) : Prop where
  short : minor < 10 → minor < 4
  long : 100 ≤ minor → 3242591731706759 * 10 ^ (toString minor).length ≤ 9007199254740992 * minor

/-! ### What is compared -/

theorem trimSuffix_minor (minor : ℕ) (plus : Bool) :
    trimSuffix (toString minor ++ if plus then "+" else "") "+" = toString minor := by
  cases plus with
  | true => exact trimSuffix_append ..
  | false =>
      have hdigits : (toString minor ++ "").toList = Nat.toDigits 10 minor := by simp [Nat.toString_eq_repr]
      have hplus : ¬"+".toList.isSuffixOf (toString minor ++ "").toList = true := by
        rw [List.isSuffixOf_iff_suffix, hdigits]
        intro h
        exact absurd (Nat.isDigit_of_mem_toDigits (by decide) (by decide) (h.subset List.mem_cons_self)) (by decide)
      exact (if_neg hplus).trans String.append_empty

theorem roundHalfEven_minimum : roundHalfEven (134 / 100 * 2 ^ 52) = 6034823500676465 := by
  decide +kernel

theorem roundHalfEven_maximum : roundHalfEven (136 / 100 * 2 ^ 52) = 6124895493223875 := by
  decide +kernel

theorem parseFloat_minimum : parseFloat k8sMinimumSupportedVersion = roundFloat (134 / 100) := by
  have h : decimal? k8sMinimumSupportedVersion = some (134 / 100) := by decide +kernel
  rw [parseFloat, h]

theorem parseFloat_maximum : parseFloat k8sMaximumSupportedVersion = roundFloat (136 / 100) := by
  have h : decimal? k8sMaximumSupportedVersion = some (136 / 100) := by decide +kernel
  rw [parseFloat, h]

/-- The number that the version is read as. -/
def versionNumber (major minor : ℕ) : ℚ := (major : ℚ) + (minor : ℚ) / 10 ^ (toString minor).length

theorem followsOrder_iff_path (mounted : Bool) (major minor : ℕ) (plus : Bool) :
    FollowsOrder mounted major minor plus ↔
      getk8sPath (toString major ++ "." ++ toString minor) (roundFloat (versionNumber major minor))
        (roundFloat (134 / 100)) (roundFloat (136 / 100)) = pathInOrder major minor := by
  rw [FollowsOrder, getOperatorConfig, serverVersion]
  dsimp only
  rw [String.append_right_inj, trimSuffix_minor, parseFloat_minimum, parseFloat_maximum, parseFloat,
    decimal?_toString]
  rfl

section Minor

variable (minor : ℕ)

theorem lt_pow_length : minor < 10 ^ (toString minor).length := by
  rw [Nat.toString_eq_ofList_toDigits, String.length_ofList]
  exact (Nat.length_toDigits_le_iff (by decide) (List.length_pos_iff.mpr Nat.toDigits_ne_nil)).mp le_rfl

theorem length_le_iff {k : ℕ} (hk : 0 < k) : (toString minor).length ≤ k ↔ minor < 10 ^ k := by
  rw [Nat.toString_eq_ofList_toDigits, String.length_ofList]
  exact Nat.length_toDigits_le_iff (by decide) hk

theorem one_le_versionNumber : 1 ≤ versionNumber 1 minor := by
  rw [versionNumber, Nat.cast_one]
  exact le_add_of_nonneg_right (by positivity)

theorem fraction_lt_one : (minor : ℚ) / 10 ^ (toString minor).length < 1 := by
  rw [div_lt_one (by positivity)]
  exact_mod_cast lt_pow_length minor

theorem versionNumber_lt_two : versionNumber 1 minor < 2 := by
  have := fraction_lt_one minor
  rw [versionNumber, Nat.cast_one]
  linarith

theorem versionNumber_mul : versionNumber 1 minor * 2 ^ 52 =
    (10 ^ (toString minor).length + minor) * 2 ^ 52 / 10 ^ (toString minor).length := by
  rw [versionNumber, Nat.cast_one, one_add_div (by positivity), div_mul_eq_mul_div]

/-- Below the minimum: up to the middle between its `float64` and the one before. -/
theorem below_minimum_iff : roundFloat (versionNumber 1 minor) < roundFloat (134 / 100) ↔
    9007199254740992 * (10 ^ (toString minor).length + minor) ≤
      12069647001352929 * 10 ^ (toString minor).length := by
  have hpos : (0 : ℚ) < 10 ^ (toString minor).length := by positivity
  rw [roundFloat_lt_iff (one_le_versionNumber minor) (versionNumber_lt_two minor) (by norm_num) (by norm_num),
    roundHalfEven_minimum, show (6034823500676465 : ℤ) = 6034823500676464 + 1 from rfl, Int.lt_add_one_iff,
    ← not_lt, lt_roundHalfEven_iff_of_even (by decide), not_lt, versionNumber_mul, div_le_iff₀ hpos]
  refine Iff.trans ?_ (Nat.cast_le : ((_ : ℕ) : ℚ) ≤ ((_ : ℕ) : ℚ) ↔ _)
  push_cast
  constructor <;> intro h <;> linarith

/-- Above the maximum: from the middle between its `float64` and the next one. -/
theorem above_maximum_iff : roundFloat (136 / 100) < roundFloat (versionNumber 1 minor) ↔
    12249790986447751 * 10 ^ (toString minor).length ≤
      9007199254740992 * (10 ^ (toString minor).length + minor) := by
  have hpos : (0 : ℚ) < 10 ^ (toString minor).length := by positivity
  rw [roundFloat_lt_iff (by norm_num) (by norm_num) (one_le_versionNumber minor) (versionNumber_lt_two minor),
    roundHalfEven_maximum, lt_roundHalfEven_iff_of_odd (by decide), versionNumber_mul, le_div_iff₀ hpos]
  refine Iff.trans ?_ (Nat.cast_le : ((_ : ℕ) : ℚ) ≤ ((_ : ℕ) : ℚ) ↔ _)
  push_cast
  constructor <;> intro h <;> linarith

end Minor

/-! ### The file -/

theorem valuesPath_inj {v w : String} : valuesPath v = valuesPath w ↔ v = w :=
  (String.append_left_inj _).trans (String.append_right_inj _)

theorem valuesPath_ne_defaultPath (v : String) : valuesPath v ≠ defaultPath := by
  have hvalues : hasPrefix (valuesPath v) "/driverconfig/common/k8s-" = true := by
    unfold valuesPath
    rw [String.append_assoc]
    exact hasPrefix_append ..
  intro h
  rw [h] at hvalues
  exact absurd hvalues (by decide +kernel)

theorem toString_injective {a b : ℕ} (h : toString a = toString b) : a = b := by
  rw [Nat.toString_eq_ofList_toDigits, Nat.toString_eq_ofList_toDigits] at h
  have hdigits := congrArg (Nat.ofDigitChars 10 ·.toList 0) h
  simpa using hdigits

/-- A version with major 1 other than 1.36 has another file than the last. -/
theorem valuesPath_ne_maximum {minor : ℕ} (h : minor ≠ 36) :
    valuesPath ("1" ++ "." ++ toString minor) ≠ valuesPath k8sMaximumSupportedVersion := by
  intro heq
  have hmax : k8sMaximumSupportedVersion = "1" ++ "." ++ toString 36 := by decide
  rw [valuesPath_inj, hmax, String.append_right_inj] at heq
  exact h (toString_injective heq)

theorem followsOrder_zero (mounted : Bool) (minor : ℕ) (plus : Bool) : FollowsOrder mounted 0 minor plus := by
  have hle : roundFloat (versionNumber 0 minor) ≤ ((1 : ℚ) : WithTop ℚ) := by
    refine roundFloat_le_one ?_
    rw [versionNumber, Nat.cast_zero, zero_add]
    exact fraction_lt_one minor
  have hlt : ((1 : ℚ) : WithTop ℚ) < roundFloat (134 / 100) := by
    rw [roundFloat_eq (by norm_num) (by norm_num), roundHalfEven_minimum, WithTop.coe_lt_coe]
    norm_num
  rw [followsOrder_iff_path, getk8sPath, if_pos (hle.trans_lt hlt), pathInOrder, if_pos (.inl one_pos)]

theorem followsOrder_of_two_le {major : ℕ} (h : 2 ≤ major) (mounted : Bool) (minor : ℕ) (plus : Bool) :
    FollowsOrder mounted major minor plus := by
  have hle : ((2 : ℚ) : WithTop ℚ) ≤ roundFloat (versionNumber major minor) := by
    refine two_le_roundFloat ?_
    have hmajor : (2 : ℚ) ≤ major := by exact_mod_cast h
    exact hmajor.trans (le_add_of_nonneg_right (by positivity))
  have hmin : roundFloat (134 / 100) < ((2 : ℚ) : WithTop ℚ) := by
    rw [roundFloat_eq (by norm_num) (by norm_num), roundHalfEven_minimum, WithTop.coe_lt_coe]
    norm_num
  have hmax : roundFloat (136 / 100) < ((2 : ℚ) : WithTop ℚ) := by
    rw [roundFloat_eq (by norm_num) (by norm_num), roundHalfEven_maximum, WithTop.coe_lt_coe]
    norm_num
  rw [followsOrder_iff_path, getk8sPath, if_neg (hmin.trans_le hle).not_gt, if_pos (hmax.trans_le hle),
    pathInOrder, if_neg (by omega), if_pos (.inl h)]

theorem length_eq_one {minor : ℕ} (h : minor < 10) : (toString minor).length = 1 := by
  have hle := (length_le_iff minor one_pos).mpr h
  have hpos : 0 < (toString minor).length := Nat.toString_eq_repr ▸ Nat.length_repr_pos
  omega

theorem length_eq_two {minor : ℕ} (h1 : 10 ≤ minor) (h2 : minor < 100) : (toString minor).length = 2 := by
  have hone := length_le_iff minor one_pos
  have htwo := (length_le_iff minor two_pos).mpr h2
  omega

/-- With major version 1 the comparisons depend on the number of digits, which the order of the versions does
not see. -/
theorem followsOrder_one_iff (mounted : Bool) (minor : ℕ) (plus : Bool) :
    FollowsOrder mounted 1 minor plus ↔ InOrder minor := by
  have hbelow := below_minimum_iff minor
  have habove := above_maximum_iff minor
  rw [followsOrder_iff_path]
  rcases lt_or_ge minor 10 with hshort | hshort
  · have hpath : pathInOrder 1 minor = defaultPath := if_pos (.inr ⟨rfl, by omega⟩)
    rw [length_eq_one hshort, pow_one] at hbelow habove
    rw [hpath, getk8sPath]
    by_cases h : minor < 4
    · rw [if_pos (hbelow.mpr (by omega))]
      exact iff_of_true rfl ⟨fun _ => h, by omega⟩
    · rw [if_neg (mt hbelow.mp (by omega))]
      refine iff_of_false ?_ fun hin => h (hin.short hshort)
      split <;> exact valuesPath_ne_defaultPath _
  rcases lt_or_ge minor 100 with hlong | hlong
  · have hin : InOrder minor := ⟨by omega, by omega⟩
    rw [length_eq_two hshort hlong] at hbelow habove
    refine iff_of_true ?_ hin
    rw [getk8sPath, pathInOrder]
    simp only [hbelow, habove, lt_irrefl, true_and, false_or]
    exact if_congr (by omega) rfl (if_congr (by omega) rfl rfl)
  · have hpath : pathInOrder 1 minor = valuesPath k8sMaximumSupportedVersion :=
      (if_neg (by omega)).trans (if_pos (.inr ⟨rfl, by omega⟩))
    rw [hpath, getk8sPath]
    have hpos : 0 < 10 ^ (toString minor).length := Nat.pow_pos (by decide)
    by_cases h : 3242591731706759 * 10 ^ (toString minor).length ≤ 9007199254740992 * minor
    · rw [if_neg (mt hbelow.mp (by omega)), if_pos (habove.mpr (by omega))]
      exact iff_of_true rfl ⟨by omega, fun _ => h⟩
    · refine iff_of_false ?_ fun hin => h (hin.long hlong)
      rw [if_neg (mt habove.mp (by omega))]
      split
      · exact (valuesPath_ne_defaultPath _).symm
      · exact valuesPath_ne_maximum (by omega)

/-- The selection follows the order of versions if and only if the major version is not 1, or the minor one
has two digits or compares the same as a fraction. -/
theorem followsOrder_iff (mounted : Bool) (major minor : ℕ) (plus : Bool) :
    FollowsOrder mounted major minor plus ↔ (major = 1 → InOrder minor) := by
  rcases Nat.lt_trichotomy major 1 with h | rfl | h
  · obtain rfl := Nat.lt_one_iff.mp h
    exact iff_of_true (followsOrder_zero mounted minor plus) nofun
  · rw [followsOrder_one_iff]
    exact ⟨fun hin _ => hin, fun hin => hin rfl⟩
  · exact iff_of_true (followsOrder_of_two_le h mounted minor plus) (by omega)

/-- Kubernetes 1.9 gets the images of 1.36. -/
theorem oneNine_not_inOrder : ¬FollowsOrder true 1 9 false := by
  rw [FollowsOrder]
  decide +kernel

end CsmOperator
