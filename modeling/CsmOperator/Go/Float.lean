import CsmOperator.Go.Text
import Mathlib.Algebra.Order.Ring.WithTop
import Mathlib.Data.Int.Log
import Mathlib.Data.Rat.Floor
import Mathlib.Tactic.Linarith
import Mathlib.Tactic.NormNum
import Mathlib.Tactic.Positivity

/-!
# `strconv.ParseFloat`

The nearest `float64` to a decimal fraction that is not negative, as an exact rational number: 53 binary
digits, the last place at least `2 ^ -1074`, halves to even. Beyond the largest number lies `⊤`, infinity.
-/

namespace Go

/-! ## Halves to even -/

/-- The nearest integer; of two, the even one. -/
def roundHalfEven (y : ℚ) : ℤ :=
  if y - ⌊y⌋ < 1 / 2 then ⌊y⌋
  else if 1 / 2 < y - ⌊y⌋ then ⌊y⌋ + 1
  else if ⌊y⌋ % 2 = 0 then ⌊y⌋ else ⌊y⌋ + 1

/-- An integer is below the rounded value when the number is beyond the middle after it. The middle itself
goes up from an odd integer. -/
theorem lt_roundHalfEven_iff {k : ℤ} {y : ℚ} :
    k < roundHalfEven y ↔ (k : ℚ) + 1 / 2 < y ∨ (k : ℚ) + 1 / 2 = y ∧ k % 2 = 1 := by
  have hle : (⌊y⌋ : ℚ) ≤ y := Int.floor_le y
  have hlt : y < ⌊y⌋ + 1 := Int.lt_floor_add_one y
  have hbelow : k < ⌊y⌋ → (k : ℚ) + 1 ≤ ⌊y⌋ := fun h => by exact_mod_cast h
  have habove : ⌊y⌋ < k → (⌊y⌋ : ℚ) + 1 ≤ k := fun h => by exact_mod_cast h
  rw [roundHalfEven]
  rcases lt_trichotomy k ⌊y⌋ with h | rfl | h
  · have hk := hbelow h
    refine iff_of_true ?_ (.inl (by linarith))
    split_ifs <;> omega
  · split_ifs with hlow hhigh heven
    · exact iff_of_false (lt_irrefl _) (by rintro (h | ⟨h, -⟩) <;> linarith)
    · exact iff_of_true (Int.lt_succ _) (.inl (by linarith))
    · refine iff_of_false (lt_irrefl _) ?_
      rintro (h | ⟨-, hodd⟩)
      · linarith
      · omega
    · refine iff_of_true (Int.lt_succ _) (.inr ⟨by linarith, by omega⟩)
  · have hk := habove h
    refine iff_of_false ?_ (by rintro (h | ⟨h, -⟩) <;> linarith)
    split_ifs <;> omega

theorem lt_roundHalfEven_iff_of_odd {k : ℤ} (hk : k % 2 = 1) {y : ℚ} :
    k < roundHalfEven y ↔ (k : ℚ) + 1 / 2 ≤ y := by
  rw [lt_roundHalfEven_iff, le_iff_lt_or_eq, and_iff_left hk]

theorem lt_roundHalfEven_iff_of_even {k : ℤ} (hk : k % 2 = 0) {y : ℚ} :
    k < roundHalfEven y ↔ (k : ℚ) + 1 / 2 < y := by
  rw [lt_roundHalfEven_iff, or_iff_left]
  rintro ⟨-, hodd⟩
  omega

theorem le_roundHalfEven {n : ℤ} {y : ℚ} (h : (n : ℚ) ≤ y) : n ≤ roundHalfEven y := by
  have hlt : n - 1 < roundHalfEven y := lt_roundHalfEven_iff.mpr (.inl (by push_cast; linarith))
  omega

theorem roundHalfEven_le {n : ℤ} {y : ℚ} (h : y ≤ n) : roundHalfEven y ≤ n := by
  refine not_lt.mp fun hlt => ?_
  rcases lt_roundHalfEven_iff.mp hlt with hlt | ⟨heq, -⟩ <;> linarith

/-! ## Binary places -/

/-- The exponent of the last of 53 binary places. -/
def lastPlace (x : ℚ) : ℤ := max (Int.log 2 x - 52) (-1074)

/-- The nearest `float64`. -/
def roundFloat (x : ℚ) : WithTop ℚ :=
  let nearest : ℚ := roundHalfEven (x / 2 ^ lastPlace x) * 2 ^ lastPlace x
  if nearest < 2 ^ (1024 : ℤ) then nearest else ⊤

section Bounds

variable {x : ℚ} {e : ℤ}

theorem intCast_two_pow {n : ℤ} (h : 0 ≤ n) : (((2 : ℤ) ^ n.toNat : ℤ) : ℚ) = (2 : ℚ) ^ n := by
  obtain ⟨k, rfl⟩ := Int.eq_ofNat_of_zero_le h
  simp

/-- Rounding does not go below a power of two that is not below the last place. -/
theorem le_roundFloat (hplace : lastPlace x ≤ e) (h : (2 : ℚ) ^ e ≤ x) : (((2 : ℚ) ^ e : ℚ) : WithTop ℚ) ≤ roundFloat x := by
  have hpos : (0 : ℚ) < 2 ^ lastPlace x := zpow_pos two_pos _
  have hpow : (2 : ℚ) ^ e = 2 ^ (e - lastPlace x) * 2 ^ lastPlace x := by
    rw [← zpow_add₀ two_ne_zero, sub_add_cancel]
  have hint : (((2 : ℤ) ^ (e - lastPlace x).toNat : ℤ) : ℚ) ≤ x / 2 ^ lastPlace x := by
    rw [intCast_two_pow (sub_nonneg.mpr hplace), le_div_iff₀ hpos, ← hpow]
    exact h
  have hround : (2 : ℚ) ^ (e - lastPlace x) ≤ roundHalfEven (x / 2 ^ lastPlace x) := by
    rw [← intCast_two_pow (sub_nonneg.mpr hplace)]
    exact_mod_cast le_roundHalfEven hint
  rw [roundFloat]
  split
  · rw [WithTop.coe_le_coe, hpow]
    exact mul_le_mul_of_nonneg_right hround hpos.le
  · exact le_top

/-- Rounding does not go beyond a power of two that is not below the last place. -/
theorem roundFloat_le (hplace : lastPlace x ≤ e) (he : e < 1024) (h : x ≤ (2 : ℚ) ^ e) :
    roundFloat x ≤ (((2 : ℚ) ^ e : ℚ) : WithTop ℚ) := by
  have hpos : (0 : ℚ) < 2 ^ lastPlace x := zpow_pos two_pos _
  have hpow : (2 : ℚ) ^ e = 2 ^ (e - lastPlace x) * 2 ^ lastPlace x := by
    rw [← zpow_add₀ two_ne_zero, sub_add_cancel]
  have hint : x / 2 ^ lastPlace x ≤ (((2 : ℤ) ^ (e - lastPlace x).toNat : ℤ) : ℚ) := by
    rw [intCast_two_pow (sub_nonneg.mpr hplace), div_le_iff₀ hpos, ← hpow]
    exact h
  have hround : (roundHalfEven (x / 2 ^ lastPlace x) : ℚ) ≤ 2 ^ (e - lastPlace x) := by
    rw [← intCast_two_pow (sub_nonneg.mpr hplace)]
    exact_mod_cast roundHalfEven_le hint
  have hle : (roundHalfEven (x / 2 ^ lastPlace x) : ℚ) * 2 ^ lastPlace x ≤ 2 ^ e := by
    rw [hpow]
    exact mul_le_mul_of_nonneg_right hround hpos.le
  rw [roundFloat, if_pos (hle.trans_lt (zpow_lt_zpow_right₀ one_lt_two he)), WithTop.coe_le_coe]
  exact hle

/-- From one to two the last place is `2 ^ -52`. -/
theorem lastPlace_eq (h1 : 1 ≤ x) (h2 : x < 2) : lastPlace x = -52 := by
  have hfloor : ⌊x⌋₊ = 1 := (Nat.floor_eq_iff (zero_le_one.trans h1)).mpr ⟨by simpa using h1, by norm_num; exact h2⟩
  rw [lastPlace, Int.log_of_one_le_right 2 h1, hfloor]
  decide

theorem roundFloat_eq (h1 : 1 ≤ x) (h2 : x < 2) :
    roundFloat x = (((roundHalfEven (x * 2 ^ 52) : ℚ) / 2 ^ 52 : ℚ) : WithTop ℚ) := by
  have hpow : (2 : ℚ) ^ lastPlace x = (2 ^ 52)⁻¹ := by
    rw [lastPlace_eq h1 h2]
    norm_num
  have hround : roundHalfEven (x * 2 ^ 52) ≤ 2 ^ 53 := roundHalfEven_le (by push_cast; linarith)
  have hle : (roundHalfEven (x * 2 ^ 52) : ℚ) ≤ 2 ^ 53 := by exact_mod_cast hround
  rw [roundFloat, hpow, div_inv_eq_mul, ← div_eq_mul_inv, if_pos]
  have hlarge : (2 : ℚ) ^ 53 ≤ 2 ^ (1024 : ℤ) := by
    rw [← zpow_natCast]
    exact zpow_le_zpow_right₀ one_le_two (by norm_num)
  rw [div_lt_iff₀ (by positivity)]
  exact (hle.trans hlarge).trans_lt (lt_mul_of_one_lt_right (zpow_pos two_pos _) (by norm_num))

theorem roundFloat_lt_iff {y : ℚ} (hx1 : 1 ≤ x) (hx2 : x < 2) (hy1 : 1 ≤ y) (hy2 : y < 2) :
    roundFloat x < roundFloat y ↔ roundHalfEven (x * 2 ^ 52) < roundHalfEven (y * 2 ^ 52) := by
  rw [roundFloat_eq hx1 hx2, roundFloat_eq hy1 hy2, WithTop.coe_lt_coe,
    div_lt_div_iff_of_pos_right (by positivity), Int.cast_lt]

theorem log_le_zero (h : x < 2) : Int.log 2 x ≤ 0 := by
  rcases le_or_gt x 0 with hx | hx
  · exact (Int.log_of_right_le_zero 2 hx).le
  · have hlt : x < ((2 : ℕ) : ℚ) ^ (1 : ℤ) := by simpa using h
    have := (Int.lt_zpow_iff_log_lt one_lt_two hx).mp hlt
    omega

theorem roundFloat_le_one (h : x < 1) : roundFloat x ≤ ((1 : ℚ) : WithTop ℚ) := by
  have hlog := log_le_zero (h.trans one_lt_two)
  have hplace : lastPlace x ≤ 0 := max_le (by omega) (by norm_num)
  have hle := roundFloat_le hplace (by norm_num) (by rw [zpow_zero]; exact h.le)
  rwa [zpow_zero] at hle

theorem two_le_roundFloat (h : 2 ≤ x) : ((2 : ℚ) : WithTop ℚ) ≤ roundFloat x := by
  have hpos : 0 < x := two_pos.trans_le h
  have hlog : 1 ≤ Int.log 2 x := by
    refine (Int.zpow_le_iff_le_log one_lt_two hpos).mp ?_
    simpa using h
  have hplace : lastPlace x ≤ Int.log 2 x := max_le (by omega) (by omega)
  have hle : (((2 : ℚ) ^ Int.log 2 x : ℚ) : WithTop ℚ) ≤ roundFloat x := by
    refine le_roundFloat hplace ?_
    have := Int.zpow_log_le_self one_lt_two hpos
    exact_mod_cast this
  have htwo : (2 : ℚ) ≤ 2 ^ Int.log 2 x := by
    have := zpow_le_zpow_right₀ (one_le_two : (1 : ℚ) ≤ 2) hlog
    rwa [zpow_one] at this
  exact (WithTop.coe_le_coe.mpr htwo).trans hle

end Bounds

/-! ## Decimal fractions -/

/-- A number without sign and exponent. -/
def decimal? (s : String) : Option ℚ :=
  let whole := s.toList.takeWhile (· ≠ '.')
  let frac := (s.toList.dropWhile (· ≠ '.')).drop 1
  if whole ++ frac ≠ [] ∧ (whole ++ frac).all (·.isDigit) then
    some ((decimalValue (whole ++ frac) : ℚ) / 10 ^ frac.length)
  else none

/-- The value `strconv.ParseFloat` returns, next to an error or not. Other spellings of numbers are not
needed here and read as a syntax error. -/
def parseFloat (s : String) : WithTop ℚ :=
  match decimal? s with
  | some x => roundFloat x
  | none => 0

/-- A decimal fraction is read as what it says. -/
theorem decimal?_toString (a b : ℕ) :
    decimal? (toString a ++ "." ++ toString b) = some ((a : ℚ) + (b : ℚ) / 10 ^ (toString b).length) := by
  have hwhole : ∀ c ∈ Nat.toDigits 10 a, decide (c ≠ '.') = true := by
    intro c hc
    refine decide_eq_true fun heq => ?_
    have hdigit := Nat.isDigit_of_mem_toDigits (by decide) (by decide) hc
    rw [heq] at hdigit
    exact absurd hdigit (by decide)
  have hlist : (toString a ++ "." ++ toString b).toList = Nat.toDigits 10 a ++ '.' :: Nat.toDigits 10 b := by
    simp [Nat.toString_eq_repr]
  have htake : (Nat.toDigits 10 a ++ '.' :: Nat.toDigits 10 b).takeWhile (· ≠ '.') = Nat.toDigits 10 a := by
    rw [List.takeWhile_append_of_pos hwhole]
    simp
  have hdrop : ((Nat.toDigits 10 a ++ '.' :: Nat.toDigits 10 b).dropWhile (· ≠ '.')).drop 1 =
      Nat.toDigits 10 b := by
    rw [List.dropWhile_append_of_pos hwhole]
    simp
  have hvalue : decimalValue (Nat.toDigits 10 a ++ Nat.toDigits 10 b) =
      10 ^ (Nat.toDigits 10 b).length * a + b := by
    rw [decimalValue, ← Nat.ofDigitChars_eq_foldl, Nat.ofDigitChars_append, Nat.ofDigitChars_ten_toDigits,
      Nat.ofDigitChars_eq_ofDigitChars_zero, Nat.ofDigitChars_ten_toDigits]
  have hlength : (toString b).length = (Nat.toDigits 10 b).length := by
    rw [Nat.toString_eq_ofList_toDigits, String.length_ofList]
  rw [decimal?, hlist, htake, hdrop, if_pos, hvalue, hlength, Nat.cast_add, Nat.cast_mul, Nat.cast_pow]
  · rw [Nat.cast_ofNat, add_div, mul_div_cancel_left₀ _ (by positivity)]
  · refine ⟨by simp [Nat.toDigits_ne_nil], List.all_eq_true.mpr fun c hc => ?_⟩
    rcases List.mem_append.mp hc with hc | hc
    all_goals exact Nat.isDigit_of_mem_toDigits (by decide) (by decide) hc

end Go
