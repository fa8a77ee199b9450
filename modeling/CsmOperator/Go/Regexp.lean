import CsmOperator.Go.Text
import Mathlib.Computability.RegularExpressions

/-!
# Regular expressions of Go's `regexp`

As far as they are regular: the syntax and the matcher are Mathlib's, here with character classes. An
expression between `^` and `$` matches the whole text.
-/

namespace Go

/-- The characters from `lo` to `hi`. -/
def charRange (lo hi : Char) : List Char :=
  (List.range' lo.toNat (hi.toNat + 1 - lo.toNat)).map Char.ofNat

/-- `[lo-hi]` -/
def charClass (lo hi : Char) : RegularExpression Char :=
  (charRange lo hi).foldr (fun c re => .char c + re) 0

/-- `MatchString` of an expression between `^` and `$`. -/
def matchWhole (re : RegularExpression Char) (s : String) : Bool := re.rmatch s.toList

theorem toNat_ofNat {n : Nat} (h : n < 0xd800) : (Char.ofNat n).toNat = n := by
  unfold Char.ofNat
  rw [dif_pos (.inl h)]
  rfl

theorem mem_charRange {lo hi c : Char} (hhi : hi.toNat < 0xd800) :
    c ∈ charRange lo hi ↔ lo.toNat ≤ c.toNat ∧ c.toNat ≤ hi.toNat := by
  unfold charRange
  rw [List.mem_map]
  constructor
  · rintro ⟨n, hn, rfl⟩
    rw [List.mem_range'_1] at hn
    rw [toNat_ofNat (by omega)]
    omega
  · intro h
    exact ⟨c.toNat, List.mem_range'_1.mpr (by omega), Char.ofNat_toNat c⟩

theorem mem_matches_charClass {lo hi : Char} (hhi : hi.toNat < 0xd800) {x : List Char} :
    x ∈ (charClass lo hi).matches' ↔ ∃ c, (lo.toNat ≤ c.toNat ∧ c.toNat ≤ hi.toNat) ∧ x = [c] := by
  have hfoldr : ∀ cs : List Char, x ∈ (cs.foldr (fun c re => RegularExpression.char c + re) 0).matches' ↔
      ∃ c ∈ cs, x = [c] := by
    intro cs
    induction cs with
    | nil => simp
    | cons c cs ih =>
        rw [List.foldr_cons, RegularExpression.matches'_add, Language.mem_add, ih,
          RegularExpression.matches'_char, List.exists_mem_cons_iff]
        rfl
  rw [charClass, hfoldr]
  simp only [mem_charRange hhi]

theorem matchWhole_iff {re : RegularExpression Char} {s : String} :
    matchWhole re s = true ↔ s.toList ∈ re.matches' := re.rmatch_iff_matches' s.toList

end Go
