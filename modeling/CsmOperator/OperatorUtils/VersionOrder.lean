import CsmOperator.OperatorUtils.Version
import Mathlib.Data.Prod.Lex
import Mathlib.Order.Lattice

/-!
# `MinVersionCheck` and the order of versions

A version is written as an optional `v` and three decimal numbers with dots between them; versions are
ordered by these numbers, the first one that differs deciding. `versionParser` reads less than that: it
counts the dots, drops every leading `v`, and ignores what `Atoi` says about the first two pieces and
the whole third one. This module says on which pairs of texts the difference shows.
-/

namespace CsmOperator

open Go

/-- Major, minor and patch number, in the lexicographic order. -/
abbrev Triple := ℕ ×ₗ ℕ ×ₗ ℕ

def triple (major minor patch : ℕ) : Triple := toLex (major, toLex (minor, patch))

theorem triple_le_triple {a b c a' b' c' : ℕ} :
    triple a b c ≤ triple a' b' c' ↔ a < a' ∨ a = a' ∧ (b < b' ∨ b = b' ∧ c ≤ c') := by
  simp [triple, Prod.Lex.toLex_le_toLex]

/-- The text is a version with these numbers. -/
structure Written (s : String) (major minor patch : ℕ) : Prop where
  intro ::
  pieces : ∃ a b c, IsNumeral a major ∧ IsNumeral b minor ∧ IsNumeral c patch ∧
    (s.toList = a ++ '.' :: (b ++ '.' :: c) ∨ s.toList = 'v' :: (a ++ '.' :: (b ++ '.' :: c)))

/-- The text is a version. -/
def WellFormed (s : String) : Prop := ∃ major minor patch, Written s major minor patch

/-! ## What `versionParser` reads -/

theorem split_trimLeft_length (s : String) :
    (split (trimLeft s ['v']) '.').length = s.toList.count '.' + 1 := by
  have hdrop : ∀ cs : List Char, (cs.dropWhile (['v'].contains ·)).count '.' = cs.count '.' := by
    intro cs
    induction cs with
    | nil => rfl
    | cons c cs ih =>
        rw [List.dropWhile_cons]
        split
        next hv =>
          have hdot : c ≠ '.' := by
            rintro rfl
            revert hv
            decide
          rw [ih, List.count_cons_of_ne hdot]
        next => rfl
  rw [split, List.length_map, length_splitChars, trimLeft, String.toList_ofList, hdrop]

/-- Only the number of dots can be wrong. -/
theorem versionParser_error_iff (s : String) :
    (∃ e, versionParser s = .error e) ↔ s.toList.count '.' ≠ 2 := by
  have hlength := split_trimLeft_length s
  unfold versionParser
  split
  next major minor patch heq =>
    rw [heq] at hlength
    simp only [List.length_cons, List.length_nil] at hlength
    simp only [reduceCtorEq, exists_false, false_iff, not_not]
    omega
  next heq =>
    refine iff_of_true ⟨_, rfl⟩ fun hdots => ?_
    rw [hdots] at hlength
    obtain ⟨a, b, c, habc⟩ := List.length_eq_three.mp hlength
    exact heq a b c habc

/-- The pieces `versionParser` looks at. -/
theorem Written.split_eq {s : String} {major minor patch : ℕ} (h : Written s major minor patch) :
    ∃ a b c, split (trimLeft s ['v']) '.' = [String.ofList a, String.ofList b, String.ofList c] ∧
      IsNumeral a major ∧ IsNumeral b minor ∧ IsNumeral c patch := by
  obtain ⟨a, b, c, ha, hb, hc, hs⟩ := h.pieces
  have hdot : ∀ {cs n}, IsNumeral cs n → '.' ∉ cs := fun h => h.not_mem (by decide)
  -- a numeral starts with a digit, so nothing of it is trimmed
  have htrim : (a ++ '.' :: (b ++ '.' :: c)).dropWhile (['v'].contains ·) =
      a ++ '.' :: (b ++ '.' :: c) := by
    obtain ⟨d, ds, rfl⟩ := List.exists_cons_of_ne_nil ha.1
    refine List.dropWhile_cons_of_neg ?_
    have hv : d ≠ 'v' := fun hd => ha.not_mem (c := 'v') (by decide) (hd ▸ List.mem_cons_self)
    simp [hv]
  have hrest : s.toList.dropWhile (['v'].contains ·) = a ++ '.' :: (b ++ '.' :: c) := by
    rcases hs with hs | hs
    · rw [hs, htrim]
    · rw [hs, List.dropWhile_cons_of_pos (by decide), htrim]
  refine ⟨a, b, c, ?_, ha, hb, hc⟩
  rw [split, trimLeft, String.toList_ofList, hrest, splitChars_append (hdot ha),
    splitChars_append (hdot hb), splitChars_of_not_mem (hdot hc)]
  rfl

theorem Written.versionParser_eq {s : String} {major minor patch : ℕ}
    (h : Written s major minor patch) : versionParser s = .ok (capped major, capped minor) := by
  obtain ⟨a, b, c, hsplit, ha, hb, -⟩ := h.split_eq
  unfold versionParser
  rw [hsplit]
  dsimp only
  rw [ha.atoi_eq, hb.atoi_eq]

/-- A text is a version in one way only. -/
theorem Written.unique {s : String} {a b c a' b' c' : ℕ} (h : Written s a b c)
    (h' : Written s a' b' c') : a = a' ∧ b = b' ∧ c = c' := by
  obtain ⟨x, y, z, hsplit, hx, hy, hz⟩ := h.split_eq
  obtain ⟨x', y', z', hsplit', hx', hy', hz'⟩ := h'.split_eq
  rw [hsplit] at hsplit'
  simp only [List.cons.injEq, String.ofList_inj, and_true] at hsplit'
  obtain ⟨rfl, rfl, rfl⟩ := hsplit'
  exact ⟨hx.2.2.symm.trans hx'.2.2, hy.2.2.symm.trans hy'.2.2, hz.2.2.symm.trans hz'.2.2⟩

/-! ## The comparison -/

theorem capped_mono {m n : ℕ} (h : m ≤ n) : capped m ≤ capped n := by
  unfold capped
  omega

/-- On versions the capped major and minor numbers are compared. -/
theorem minVersionCheck_written {minVersion version : String} {a b c a' b' c' : ℕ}
    (hmin : Written minVersion a b c) (hversion : Written version a' b' c') :
    minVersionCheck minVersion version = (true, none) ↔
      capped a < capped a' ∨ capped a' = capped a ∧ capped b ≤ capped b' := by
  unfold minVersionCheck
  rw [hmin.versionParser_eq, hversion.versionParser_eq]
  dsimp only
  split_ifs <;> simp_all

theorem minVersionCheck_error_iff (minVersion version : String) :
    (minVersionCheck minVersion version).2 ≠ none ↔
      minVersion.toList.count '.' ≠ 2 ∨ version.toList.count '.' ≠ 2 := by
  rw [← versionParser_error_iff, ← versionParser_error_iff]
  unfold minVersionCheck
  cases versionParser minVersion with
  | error e => simp
  | ok x =>
      cases versionParser version with
      | error e => simp
      | ok y =>
          dsimp only
          split_ifs <;> simp

/-- **`MinVersionCheck` decides the order of versions** for those pairs of texts where

* of two versions with the same major number, as far as it fits, the minor number alone gives the right
  verdict: a version that is not below in the minor number is not below, and one that is has no larger
  major number;
* a text that is no version shows by its number of dots. -/
theorem minVersionCheck_correct_iff (minVersion version : String) :
    ((∀ a b c a' b' c', Written minVersion a b c → Written version a' b' c' →
        (minVersionCheck minVersion version = (true, none) ↔ triple a b c ≤ triple a' b' c')) ∧
      (¬ (WellFormed minVersion ∧ WellFormed version) →
        (minVersionCheck minVersion version).2 ≠ none)) ↔
    (∀ a b c a' b' c', Written minVersion a b c → Written version a' b' c' → capped a' = capped a →
        (capped b ≤ capped b' → triple a b c ≤ triple a' b' c') ∧ (capped b' < capped b → a' ≤ a)) ∧
      (¬ (WellFormed minVersion ∧ WellFormed version) →
        minVersion.toList.count '.' ≠ 2 ∨ version.toList.count '.' ≠ 2) := by
  rw [minVersionCheck_error_iff]
  refine and_congr_left' ?_
  refine forall_congr' fun a => forall_congr' fun b => forall_congr' fun c => ?_
  refine forall_congr' fun a' => forall_congr' fun b' => forall_congr' fun c' => ?_
  refine forall₂_congr fun hmin hversion => ?_
  rw [minVersionCheck_written hmin hversion, triple_le_triple]
  -- a smaller number is never capped to a larger one
  have hmajor := @capped_mono a a'
  have hmajor' := @capped_mono a' a
  have hminor := @capped_mono b b'
  have hminor' := @capped_mono b' b
  omega

/-- The patch level is not compared, and letters are accepted for numbers. -/
theorem minVersionCheck_incorrect :
    (Written "v2.15.1" 2 15 1 ∧ Written "v2.15.0" 2 15 0 ∧
      minVersionCheck "v2.15.1" "v2.15.0" = (true, none) ∧ ¬ triple 2 15 1 ≤ triple 2 15 0) ∧
    ¬ WellFormed "va.b.c" ∧ (minVersionCheck "va.b.c" "v2.15.0").2 = none := by
  have hwritten : ∀ d n s, IsNumeral d n → s = String.ofList ('v' :: (['2'] ++ '.' :: (['1', '5'] ++
      '.' :: d))) → Written s 2 15 n := by
    rintro d n s hd rfl
    refine ⟨['2'], ['1', '5'], d, ⟨by decide, by simp, by decide⟩, ⟨by decide, by simp, by decide⟩,
      hd, .inr (String.toList_ofList ..)⟩
  refine ⟨⟨hwritten ['1'] 1 _ ⟨by decide, by simp, by decide⟩ (by decide),
    hwritten ['0'] 0 _ ⟨by decide, by simp, by decide⟩ (by decide), by decide, ?_⟩, ?_, by decide⟩
  · rw [triple_le_triple]
    decide
  · rintro ⟨major, minor, patch, ⟨a, b, c, ha, -, -, hs⟩⟩
    have hdigit : ∀ d ds, a = d :: ds → d.isDigit = true := fun d ds h => ha.2.1 d (h ▸ List.mem_cons_self)
    obtain ⟨d, ds, rfl⟩ := List.exists_cons_of_ne_nil ha.1
    have hd := hdigit d ds rfl
    rcases hs with hs | hs
    · obtain ⟨rfl, -⟩ := List.cons.inj hs
      revert hd
      decide
    · obtain ⟨rfl, -⟩ := List.cons.inj (List.cons.inj hs).2
      revert hd
      decide

end CsmOperator
