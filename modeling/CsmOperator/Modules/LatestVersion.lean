import CsmOperator.OperatorUtils.VersionOrder

/-!
# `getLatestAuthVersion`

The function goes through the folder of the authorization module and keeps a directory as long as no
later one is at least as high, by `MinVersionCheck`. The first directory is kept whatever it is called.
A name that cannot be compared is skipped; when it is the first one, every comparison fails and it is
returned. Of directories with the same major and minor number the last one listed is returned.
-/

namespace CsmOperator

open Go

/-! ## The function -/

structure DirEntry where
  name : String
  isDir : Bool
  deriving DecidableEq, Repr

/-- The loop over the entries. -/
def latestOf : String → List DirEntry → String
  | latestVersion, [] => latestVersion
  | latestVersion, file :: files =>
    if file.isDir then
      if latestVersion = "" then latestOf file.name files
      else match minVersionCheck latestVersion file.name with
        | (_, some _) => latestOf latestVersion files
        | (true, none) => latestOf file.name files
        | (false, none) => latestOf latestVersion files
    else latestOf latestVersion files

def getLatestAuthVersion (readDir : String → Except GoError (List DirEntry)) (configDirectory : String) :
    Except GoError String :=
  let authConfigPath := configDirectory ++ "/moduleconfig/" ++ ModuleType.authorization.text
  match readDir authConfigPath with
  | .error e => .error (errorf ("failed to read authorization config directory " ++ authConfigPath ++
      ": " ++ e.text))
  | .ok files =>
    if files = [] then
      .error (errorf ("no authorization versions found in directory " ++ authConfigPath))
    else if latestOf "" files = "" then
      .error (errorf ("no valid authorization versions found in directory " ++ authConfigPath))
    else .ok (latestOf "" files)

/-! ## The last of the greatest -/

section LastMax

variable {α β : Type} [LinearOrder β] (rank : α → β)

/-- `x` is an element of the greatest rank, and no later one has it. -/
def LastMax (xs : List α) (x : α) : Prop :=
  ∃ before after, xs = before ++ x :: after ∧ (∀ y ∈ before, rank y ≤ rank x) ∧
    ∀ y ∈ after, rank y < rank x

variable {rank} {xs : List α} {x x' y : α}

theorem LastMax.le (h : LastMax rank xs x) (hy : y ∈ xs) : rank y ≤ rank x := by
  obtain ⟨before, after, rfl, hbefore, hafter⟩ := h
  rcases List.mem_append.mp hy with hy | hy
  · exact hbefore y hy
  · rcases List.mem_cons.mp hy with rfl | hy
    · exact le_refl _
    · exact (hafter y hy).le

theorem LastMax.mem (h : LastMax rank xs x) : x ∈ xs := by
  obtain ⟨before, after, rfl, -, -⟩ := h
  exact List.mem_append_right _ List.mem_cons_self

/-- Read from the end, it is the first one that nothing exceeds. -/
theorem LastMax.unique (h : LastMax rank xs x) (h' : LastMax rank xs x') : x = x' := by
  have hrank : rank x = rank x' := le_antisymm (h'.le h.mem) (h.le h'.mem)
  obtain ⟨before, after, rfl, -, hafter⟩ := h
  obtain ⟨before', after', heq, -, hafter'⟩ := h'
  rcases List.append_eq_append_iff.mp heq with ⟨mid, -, hmid⟩ | ⟨mid, -, hmid⟩
  · cases mid with
    | nil => exact (List.cons.inj hmid).1
    | cons z mid =>
        obtain ⟨-, hrest⟩ := List.cons.inj hmid
        refine absurd hrank (hafter x' ?_).ne'
        rw [hrest]
        exact List.mem_append_right _ List.mem_cons_self
  · cases mid with
    | nil => exact (List.cons.inj hmid).1.symm
    | cons z mid =>
        obtain ⟨-, hrest⟩ := List.cons.inj hmid
        refine absurd hrank (hafter' x ?_).ne
        rw [hrest]
        exact List.mem_append_right _ List.mem_cons_self

/-- An element that a later one reaches does not count. -/
theorem LastMax.cons (h : LastMax rank xs x) (hy : rank y ≤ rank x) : LastMax rank (y :: xs) x := by
  obtain ⟨before, after, rfl, hbefore, hafter⟩ := h
  exact ⟨y :: before, after, rfl, List.forall_mem_cons.mpr ⟨hy, hbefore⟩, hafter⟩

/-- Below the first element, a second one does not count. -/
theorem LastMax.insert (h : LastMax rank (y :: xs) x) {z : α} (hz : rank z < rank y) :
    LastMax rank (y :: z :: xs) x := by
  have hyx : rank y ≤ rank x := h.le List.mem_cons_self
  obtain ⟨before, after, heq, hbefore, hafter⟩ := h
  cases before with
  | nil =>
      obtain ⟨rfl, rfl⟩ := List.cons.inj heq
      exact ⟨[], z :: xs, rfl, hbefore, List.forall_mem_cons.mpr ⟨hz, hafter⟩⟩
  | cons w before =>
      obtain ⟨rfl, rfl⟩ := List.cons.inj heq
      obtain ⟨hw, hbefore⟩ := List.forall_mem_cons.mp hbefore
      refine ⟨y :: z :: before, after, rfl, ?_, hafter⟩
      exact List.forall_mem_cons.mpr ⟨hw, List.forall_mem_cons.mpr ⟨hz.le.trans hyx, hbefore⟩⟩

end LastMax

/-! ## What the loop compares -/

/-- `versionParser` has no error. -/
def Comparable (name : String) : Prop := name.toList.count '.' = 2

instance : DecidablePred Comparable := fun _ => inferInstanceAs (Decidable (_ = _))

/-- What `versionParser` reads, in the lexicographic order. -/
def rank (name : String) : Int ×ₗ Int :=
  match versionParser name with
  | .ok (major, minor) => toLex (major, minor)
  | .error _ => toLex (0, 0)

/-- The directories of a listing. One without a name would never be kept. -/
def dirNames (files : List DirEntry) : List String :=
  ((files.filter (·.isDir)).map (·.name)).filter (· ≠ "")

theorem minVersionCheck_comparable {minVersion version : String} (hmin : Comparable minVersion)
    (hversion : Comparable version) :
    minVersionCheck minVersion version = (decide (rank minVersion ≤ rank version), none) := by
  have hok : ∀ {name}, Comparable name → ∃ x, versionParser name = .ok x := by
    intro name hname
    cases h : versionParser name with
    | ok x => exact ⟨x, rfl⟩
    | error e => exact absurd hname ((versionParser_error_iff name).mp ⟨e, h⟩)
  obtain ⟨⟨a, b⟩, hab⟩ := hok hmin
  obtain ⟨⟨a', b'⟩, hab'⟩ := hok hversion
  unfold minVersionCheck rank
  rw [hab, hab']
  dsimp only
  have hlex := Prod.Lex.toLex_le_toLex (x := (a, b)) (y := (a', b'))
  dsimp only at hlex
  simp only [hlex]
  split_ifs <;> simp_all

section Loop

variable {latest : String} {files : List DirEntry}

/-- Nothing is comparable with a name that is not. -/
theorem latestOf_of_not_comparable (hne : latest ≠ "") (h : ¬ Comparable latest) :
    latestOf latest files = latest := by
  induction files with
  | nil => rfl
  | cons file files ih =>
      have herror := (minVersionCheck_error_iff latest file.name).mpr (.inl h)
      unfold latestOf
      rw [if_neg hne]
      split
      · split
        · exact ih
        next heq => exact absurd (congrArg Prod.snd heq) herror
        next heq => exact absurd (congrArg Prod.snd heq) herror
      · exact ih

/-- A comparable name is given up for those that reach it. -/
theorem lastMax_latestOf (hne : latest ≠ "") (h : Comparable latest) :
    LastMax rank (latest :: (dirNames files).filter Comparable) (latestOf latest files) := by
  induction files generalizing latest with
  | nil => exact ⟨[], [], rfl, by simp, by simp⟩
  | cons file files ih =>
      have hskip : ¬ (file.isDir = true ∧ Comparable file.name) →
          (dirNames (file :: files)).filter Comparable = (dirNames files).filter Comparable := by
        intro hnot
        unfold dirNames
        by_cases hdir : file.isDir = true
        · have hcomp : ¬ Comparable file.name := fun hcomp => hnot ⟨hdir, hcomp⟩
          rw [List.filter_cons_of_pos hdir, List.map_cons, List.filter_cons]
          split
          · rw [List.filter_cons_of_neg (by simpa using hcomp)]
          · rfl
        · rw [List.filter_cons_of_neg hdir]
      unfold latestOf
      rw [if_neg hne]
      by_cases hdir : file.isDir = true
      · rw [if_pos hdir]
        by_cases hcomp : Comparable file.name
        · have hname : file.name ≠ "" := by
            intro hempty
            rw [hempty] at hcomp
            revert hcomp
            decide
          have hdirs : (dirNames (file :: files)).filter Comparable =
              file.name :: (dirNames files).filter Comparable := by
            unfold dirNames
            rw [List.filter_cons_of_pos hdir, List.map_cons, List.filter_cons_of_pos (by simpa using hname),
              List.filter_cons_of_pos (by simpa using hcomp)]
          rw [minVersionCheck_comparable h hcomp, hdirs]
          by_cases hle : rank latest ≤ rank file.name
          · rw [decide_eq_true hle]
            have hlast := ih hname hcomp
            exact hlast.cons (hle.trans (hlast.le List.mem_cons_self))
          · rw [decide_eq_false hle]
            exact (ih hne h).insert (not_le.mp hle)
        · have herror := (minVersionCheck_error_iff latest file.name).mpr (.inr hcomp)
          rw [hskip fun hboth => hcomp hboth.2]
          split
          · exact ih hne h
          next heq => exact absurd (congrArg Prod.snd heq) herror
          next heq => exact absurd (congrArg Prod.snd heq) herror
      · rw [if_neg hdir, hskip fun hboth => hdir hboth.1]
        exact ih hne h

/-- The loop starts with the first directory. -/
theorem latestOf_empty (files : List DirEntry) :
    latestOf "" files = "" ∧ dirNames files = [] ∨
      ∃ d rest, d ≠ "" ∧ latestOf "" files = latestOf d rest ∧ dirNames files = d :: dirNames rest := by
  induction files with
  | nil => exact .inl ⟨rfl, rfl⟩
  | cons file files ih =>
      have hstep : latestOf "" (file :: files) =
          if file.isDir then latestOf file.name files else latestOf "" files := by
        rw [latestOf, if_pos rfl]
      rw [hstep]
      by_cases hdir : file.isDir = true
      · rw [if_pos hdir]
        by_cases hname : file.name = ""
        · rw [hname]
          have hdirs : dirNames (file :: files) = dirNames files := by
            simp [dirNames, hdir, hname]
          rw [hdirs]
          exact ih
        · refine .inr ⟨file.name, files, hname, rfl, ?_⟩
          simp [dirNames, hdir, hname]
      · rw [if_neg hdir]
        have hdirs : dirNames (file :: files) = dirNames files := by simp [dirNames, hdir]
        rw [hdirs]
        exact ih

end Loop

/-! ## The greatest version -/

/-- The name of a directory for a version: `v` and three numbers. -/
def VersionName (name : String) (major minor patch : ℕ) : Prop :=
  Written name major minor patch ∧ name.toList.head? = some 'v'

/-- `v` is the directory with the greatest version among those that have one. -/
def IsGreatest (names : List String) (v : String) : Prop :=
  v ∈ names ∧ ∃ a b c, VersionName v a b c ∧
    ∀ v' ∈ names, ∀ a' b' c', VersionName v' a' b' c' → triple a' b' c' ≤ triple a b c

/-- Where the loop finds it: the first directory can be compared, and of those that can be the last one
of the greatest rank has the greatest version. -/
def GreatestFound (files : List DirEntry) : Prop :=
  (∀ d, (dirNames files).head? = some d → Comparable d) ∧
    ∃ v, LastMax rank ((dirNames files).filter Comparable) v ∧ IsGreatest (dirNames files) v

theorem VersionName.comparable {name : String} {a b c : ℕ} (h : VersionName name a b c) :
    Comparable name := by
  by_contra hnot
  obtain ⟨e, he⟩ := (versionParser_error_iff name).mpr hnot
  rw [h.1.versionParser_eq] at he
  cases he

end CsmOperator
