import CsmOperator.OperatorUtils.VersionOrder

/-!
# `IsValidUpgrade` as a relation between versions

Whether one version can be upgraded or downgraded to another is decided by the `upgrade-path.yaml` of
the higher one: the lower one has to reach its `minUpgradePath` in major and minor number. The two
directions are the same question.

The numbers are compared as `int`s. A number of `minUpgradePath` that does not fit is read as the largest
one, which a version can reach without being as high.
-/

namespace CsmOperator

open Go

/-- Three decimal numbers with dots between them, after any number of `v`; the first two. -/
def ThreePart (s : String) (major minor : ℕ) : Prop :=
  ∃ a b c patch, split (trimLeft s ['v']) '.' = [String.ofList a, String.ofList b, String.ofList c] ∧
    IsNumeral a major ∧ IsNumeral b minor ∧ IsNumeral c patch

/-- The `minUpgradePath` values of a configuration directory that have three parts are numbers. -/
def NumericPaths (op : OperatorConfig) : Prop :=
  ∀ path minPath, op.upgradePath path = .ok minPath → minPath.toList.count '.' = 2 →
    ∃ major minor, ThreePart minPath major minor

theorem ThreePart.versionParser_eq {s : String} {major minor : ℕ} (h : ThreePart s major minor) :
    versionParser s = .ok (capped major, capped minor) := by
  obtain ⟨a, b, c, patch, hsplit, ha, hb, -⟩ := h
  unfold versionParser
  rw [hsplit]
  dsimp only
  rw [ha.atoi_eq, hb.atoi_eq]

theorem ThreePart.unique {s : String} {major minor major' minor' : ℕ} (h : ThreePart s major minor)
    (h' : ThreePart s major' minor') : major' = major ∧ minor' = minor := by
  obtain ⟨a, b, c, _, hsplit, ha, hb, -⟩ := h
  obtain ⟨a', b', c', _, hsplit', ha', hb', -⟩ := h'
  rw [hsplit] at hsplit'
  simp only [List.cons.injEq, String.ofList_inj, and_true] at hsplit'
  obtain ⟨rfl, rfl, rfl⟩ := hsplit'
  exact ⟨ha'.2.2.symm.trans ha.2.2, hb'.2.2.symm.trans hb.2.2⟩

/-- The file of `version` exists and has a bound of three parts, and the pair is not below it. -/
def Admits (op : OperatorConfig) (t : CSMComponentType) (version : String) (major minor : ℕ) : Prop :=
  ∃ minPath minMajor minMinor, getUpgradeInfo op t version = .ok minPath ∧
    ThreePart minPath minMajor minMinor ∧ toLex (minMajor, minMinor) ≤ toLex (major, minor)

/-- The bound is above the pair only in what does not fit an `int`. -/
def HiddenByCap (minMajor minMinor major minor : ℕ) : Prop :=
  maxInt < minMajor ∧ (major : Int) = maxInt ∧ capped minMinor ≤ minor ∨
    minMajor = major ∧ maxInt < minMinor ∧ (minor : Int) = maxInt

section Judge

variable {op : OperatorConfig} {t : CSMComponentType} {old new target other : String}
  {major minor patch : ℕ}

/-- The verdict once the file to look at is chosen. -/
theorem judgeUpgrade_iff_of_threePart {minPath : String} {minMajor minMinor : ℕ}
    (hinfo : getUpgradeInfo op t target = .ok minPath) (hmin : ThreePart minPath minMajor minMinor)
    (hother : Written other major minor patch) :
    (judgeUpgrade op old new t target other).1 = true ↔
      capped minMajor < capped major ∨ capped major = capped minMajor ∧ capped minMinor ≤ capped minor := by
  have hcheck : (minVersionCheck minPath other).1 = true ↔
      capped minMajor < capped major ∨
        capped major = capped minMajor ∧ capped minMinor ≤ capped minor := by
    unfold minVersionCheck
    rw [hmin.versionParser_eq, hother.versionParser_eq]
    dsimp only
    split_ifs <;> simp_all
  unfold judgeUpgrade
  rw [hinfo, ← hcheck]
  dsimp only
  split <;> simp_all

theorem judgeUpgrade_eq_false_of_error {minPath : String} {e : GoError}
    (hinfo : getUpgradeInfo op t target = .ok minPath) (hparse : versionParser minPath = .error e) :
    (judgeUpgrade op old new t target other).1 = false := by
  unfold judgeUpgrade minVersionCheck
  rw [hinfo]
  dsimp only
  rw [hparse]
  rfl

/-- The verdict is the one specified, unless the bound is hidden by the cap. -/
theorem judgeUpgrade_correct_iff (hnumeric : NumericPaths op) (hother : Written other major minor patch)
    (hmajor : (major : Int) ≤ maxInt) (hminor : (minor : Int) ≤ maxInt) :
    ((judgeUpgrade op old new t target other).1 = true ↔ Admits op t target major minor) ↔
      ∀ minPath minMajor minMinor, getUpgradeInfo op t target = .ok minPath →
        ThreePart minPath minMajor minMinor → ¬ HiddenByCap minMajor minMinor major minor := by
  unfold Admits
  cases hinfo : getUpgradeInfo op t target with
  | error e => simp [judgeUpgrade, hinfo]
  | ok minPath =>
      by_cases hdots : minPath.toList.count '.' = 2
      · -- a bound of three numbers
        have hfile : ∃ path, op.upgradePath path = .ok minPath := by
          unfold getUpgradeInfo at hinfo
          split at hinfo
          · cases hinfo
          next heq => cases hinfo; exact ⟨_, heq⟩
        obtain ⟨path, hpath⟩ := hfile
        obtain ⟨minMajor, minMinor, hmin⟩ := hnumeric path minPath hpath hdots
        have hadmits : (∃ minPath' minMajor' minMinor', (.ok minPath : Except GoError String) =
            .ok minPath' ∧ ThreePart minPath' minMajor' minMinor' ∧
            toLex (minMajor', minMinor') ≤ toLex (major, minor)) ↔
            minMajor < major ∨ minMajor = major ∧ minMinor ≤ minor := by
          have hlex := Prod.Lex.toLex_le_toLex (x := (minMajor, minMinor)) (y := (major, minor))
          refine Iff.trans ?_ hlex
          constructor
          · rintro ⟨_, _, _, ⟨⟩, hmin', hle⟩
            obtain ⟨rfl, rfl⟩ := hmin.unique hmin'
            exact hle
          · exact fun hle => ⟨minPath, minMajor, minMinor, rfl, hmin, hle⟩
        have hhidden : (∀ minPath' minMajor' minMinor', (.ok minPath : Except GoError String) =
            .ok minPath' → ThreePart minPath' minMajor' minMinor' →
            ¬ HiddenByCap minMajor' minMinor' major minor) ↔
            ¬ HiddenByCap minMajor minMinor major minor := by
          constructor
          · exact fun h => h minPath minMajor minMinor rfl hmin
          · rintro h _ _ _ ⟨⟩ hmin'
            obtain ⟨rfl, rfl⟩ := hmin.unique hmin'
            exact h
        rw [judgeUpgrade_iff_of_threePart hinfo hmin hother, hadmits, hhidden]
        unfold HiddenByCap capped
        omega
      · -- any other text is no bound
        obtain ⟨e, he⟩ := (versionParser_error_iff minPath).mpr hdots
        have hnot : ∀ minMajor minMinor, ¬ ThreePart minPath minMajor minMinor := by
          intro minMajor minMinor hmin
          rw [hmin.versionParser_eq] at he
          cases he
        rw [judgeUpgrade_eq_false_of_error hinfo he]
        refine iff_of_true (iff_of_false Bool.false_ne_true ?_) ?_
        · rintro ⟨_, _, _, ⟨⟩, hmin, -⟩
          exact hnot _ _ hmin
        · rintro _ _ _ ⟨⟩ hmin
          exact absurd hmin (hnot _ _)

end Judge

/-! ## Both directions -/

/-- What `IsValidUpgrade` is to decide for versions with these major and minor numbers. -/
def UpgradeAllowed (op : OperatorConfig) (t : CSMComponentType) (old new : String)
    (oldMajor oldMinor newMajor newMinor : ℕ) : Prop :=
  if toLex (oldMajor, oldMinor) < toLex (newMajor, newMinor) then Admits op t new oldMajor oldMinor
  else Admits op t old newMajor newMinor

/-- The bound of the higher version is not one that the lower version reaches only because of the cap. -/
def BoundFits (op : OperatorConfig) (t : CSMComponentType) (old new : String)
    (oldMajor oldMinor newMajor newMinor : ℕ) : Prop :=
  if toLex (oldMajor, oldMinor) < toLex (newMajor, newMinor) then
    ∀ minPath minMajor minMinor, getUpgradeInfo op t new = .ok minPath →
      ThreePart minPath minMajor minMinor → ¬ HiddenByCap minMajor minMinor oldMajor oldMinor
  else
    ∀ minPath minMajor minMinor, getUpgradeInfo op t old = .ok minPath →
      ThreePart minPath minMajor minMinor → ¬ HiddenByCap minMajor minMinor newMajor newMinor

/-- Which file is looked at, and who has to reach its bound. -/
theorem isValidUpgrade_fst_eq {op : OperatorConfig} {t : CSMComponentType} {old new : String}
    {a b c a' b' c' : ℕ} (hold : Written old a b c) (hnew : Written new a' b' c')
    (ha : (a : Int) ≤ maxInt) (hb : (b : Int) ≤ maxInt) (ha' : (a' : Int) ≤ maxInt)
    (hb' : (b' : Int) ≤ maxInt) (hne : (a, b) ≠ (a', b')) :
    (isValidUpgrade op old new t).1 =
      if toLex (a, b) < toLex (a', b') then (judgeUpgrade op old new t new old).1
      else (judgeUpgrade op old new t old new).1 := by
  have hdiffer : old ≠ new := by
    rintro rfl
    have heq := hold.versionParser_eq.symm.trans hnew.versionParser_eq
    simp only [Except.ok.injEq, Prod.mk.injEq, capped] at heq
    exact hne (Prod.ext_iff.mpr ⟨by dsimp only; omega, by dsimp only; omega⟩)
  have hcheck : (minVersionCheck old new).1 = true ↔ toLex (a, b) < toLex (a', b') := by
    rw [Prod.Lex.toLex_lt_toLex]
    dsimp only
    rw [Ne, Prod.mk.injEq] at hne
    unfold minVersionCheck
    rw [hold.versionParser_eq, hnew.versionParser_eq]
    dsimp only
    unfold capped
    split_ifs <;> simp only [true_iff, false_iff] <;> omega
  unfold isValidUpgrade
  rw [if_neg hdiffer]
  simp only [hcheck]
  split <;> rfl

/-- The verdict does not depend on the direction. -/
theorem judgeUpgrade_fst_swap (op : OperatorConfig) (t : CSMComponentType) (old new target other : String) :
    (judgeUpgrade op old new t target other).1 = (judgeUpgrade op new old t target other).1 := by
  unfold judgeUpgrade
  cases getUpgradeInfo op t target with
  | error e => rfl
  | ok minPath => dsimp only; split <;> rfl

/-- **Upgrades and downgrades.** For versions that differ in major or minor number, `IsValidUpgrade` is
true exactly when the file of the higher one admits the lower one, and a downgrade is allowed exactly
when the upgrade back is; this holds for those bounds for which `BoundFits`. -/
theorem isValidUpgrade_correct_iff (op : OperatorConfig) (t : CSMComponentType) (old new : String)
    (a b c a' b' c' : ℕ) (hnumeric : NumericPaths op) (hold : Written old a b c)
    (hnew : Written new a' b' c') (ha : (a : Int) ≤ maxInt) (hb : (b : Int) ≤ maxInt)
    (ha' : (a' : Int) ≤ maxInt) (hb' : (b' : Int) ≤ maxInt) (hne : (a, b) ≠ (a', b')) :
    (((isValidUpgrade op old new t).1 = true ↔ UpgradeAllowed op t old new a b a' b') ∧
      ((isValidUpgrade op old new t).1 = true ↔ (isValidUpgrade op new old t).1 = true)) ↔
    BoundFits op t old new a b a' b' := by
  have hswap : (isValidUpgrade op old new t).1 = (isValidUpgrade op new old t).1 := by
    rw [isValidUpgrade_fst_eq hold hnew ha hb ha' hb' hne,
      isValidUpgrade_fst_eq hnew hold ha' hb' ha hb hne.symm]
    have hdiff : toLex (a, b) ≠ toLex (a', b') := fun h => hne (toLex.injective h)
    rcases lt_or_gt_of_ne hdiff with hlt | hgt
    · rw [if_pos hlt, if_neg (not_lt_of_gt hlt), judgeUpgrade_fst_swap]
    · rw [if_neg (not_lt_of_gt hgt), if_pos hgt, judgeUpgrade_fst_swap]
  rw [← hswap, and_iff_left Iff.rfl, isValidUpgrade_fst_eq hold hnew ha hb ha' hb' hne]
  unfold UpgradeAllowed BoundFits
  split
  · exact judgeUpgrade_correct_iff hnumeric hold ha hb
  · exact judgeUpgrade_correct_iff hnumeric hnew ha' hb'

/-! ### A bound that does not fit -/

/-- A configuration with the same bound for all versions. -/
def boundedConfig (minPath : String) : OperatorConfig where
  isOpenShift := false
  configDirectory := "operatorconfig"
  versionMapping _ := .ok []
  upgradePath _ := .ok minPath
  defaultModules _ := .ok []

theorem numericPaths_boundedConfig {minPath : String} {major minor : ℕ}
    (h : ThreePart minPath major minor) : NumericPaths (boundedConfig minPath) := by
  rintro path _ ⟨⟩ -
  exact ⟨major, minor, h⟩

/-- A version is written with these digits. -/
theorem written_of_digits {s : String} (a b c : List Char)
    (hs : s.toList = 'v' :: (a ++ '.' :: (b ++ '.' :: c))) (ha : a ≠ []) (hb : b ≠ []) (hc : c ≠ [])
    (hdigits : ∀ d ∈ a ++ b ++ c, d.isDigit = true) :
    Written s (decimalValue a) (decimalValue b) (decimalValue c) := by
  simp only [List.append_assoc, List.forall_mem_append] at hdigits
  exact ⟨a, b, c, ⟨ha, hdigits.1, rfl⟩, ⟨hb, hdigits.2.1, rfl⟩, ⟨hc, hdigits.2.2, rfl⟩, .inr hs⟩

theorem isValidUpgrade_correct_powerScale :
    (isValidUpgrade (boundedConfig "v2.14.0") "v2.15.0" "v2.16.0" (.driver .powerScaleName)).1 = true ∧
    (((isValidUpgrade (boundedConfig "v2.14.0") "v2.15.0" "v2.16.0" (.driver .powerScaleName)).1 = true ↔
        UpgradeAllowed (boundedConfig "v2.14.0") (.driver .powerScaleName) "v2.15.0" "v2.16.0" 2 15 2 16) ∧
      ((isValidUpgrade (boundedConfig "v2.14.0") "v2.15.0" "v2.16.0" (.driver .powerScaleName)).1 = true ↔
        (isValidUpgrade (boundedConfig "v2.14.0") "v2.16.0" "v2.15.0" (.driver .powerScaleName)).1 =
          true)) := by
  have hmin : ThreePart "v2.14.0" 2 14 :=
    ⟨['2'], ['1', '4'], ['0'], 0, by decide, ⟨by decide, by simp, by decide⟩,
      ⟨by decide, by simp, by decide⟩, ⟨by decide, by simp, by decide⟩⟩
  have hold : Written "v2.15.0" 2 15 0 :=
    written_of_digits ['2'] ['1', '5'] ['0'] (by decide) (by decide) (by decide) (by decide) (by simp)
  have hnew : Written "v2.16.0" 2 16 0 :=
    written_of_digits ['2'] ['1', '6'] ['0'] (by decide) (by decide) (by decide) (by decide) (by simp)
  refine ⟨by decide, (isValidUpgrade_correct_iff _ _ _ _ 2 15 0 2 16 0
    (numericPaths_boundedConfig hmin) hold hnew (by decide) (by decide) (by decide) (by decide)
    (by decide)).mpr ?_⟩
  rw [BoundFits, if_pos (by decide)]
  rintro _ minMajor minMinor ⟨⟩ hmin'
  obtain ⟨rfl, rfl⟩ := hmin.unique hmin'
  unfold HiddenByCap
  decide

/-- The bound `2^63` is read as `2^63 - 1`, and a version with that major number reaches it. -/
theorem upgrade_below_bound :
    NumericPaths (boundedConfig "v9223372036854775808.0.0") ∧
    Written "v9223372036854775807.0.0" 9223372036854775807 0 0 ∧
    Written "v9223372036854775807.1.0" 9223372036854775807 1 0 ∧
    (isValidUpgrade (boundedConfig "v9223372036854775808.0.0") "v9223372036854775807.0.0"
      "v9223372036854775807.1.0" (.driver .powerScaleName)).1 = true ∧
    ¬ UpgradeAllowed (boundedConfig "v9223372036854775808.0.0") (.driver .powerScaleName)
      "v9223372036854775807.0.0" "v9223372036854775807.1.0" 9223372036854775807 0
      9223372036854775807 1 := by
  have hmin : ThreePart "v9223372036854775808.0.0" 9223372036854775808 0 :=
    ⟨"9223372036854775808".toList, ['0'], ['0'], 0, by decide,
      ⟨by decide, List.all_eq_true.mp (by decide), by decide⟩, ⟨by decide, by simp, by decide⟩,
      ⟨by decide, by simp, by decide⟩⟩
  refine ⟨numericPaths_boundedConfig hmin,
    written_of_digits "9223372036854775807".toList ['0'] ['0'] (by decide) (by decide) (by decide)
      (by decide) (List.all_eq_true.mp (by decide)),
    written_of_digits "9223372036854775807".toList ['1'] ['0'] (by decide) (by decide) (by decide)
      (by decide) (List.all_eq_true.mp (by decide)), by decide, ?_⟩
  rw [UpgradeAllowed, if_pos (by decide)]
  rintro ⟨_, minMajor, minMinor, ⟨⟩, hmin', hle⟩
  obtain ⟨rfl, rfl⟩ := hmin.unique hmin'
  rw [Prod.Lex.toLex_le_toLex] at hle
  revert hle
  decide

end CsmOperator
