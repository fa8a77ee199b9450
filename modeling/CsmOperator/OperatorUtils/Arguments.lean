import CsmOperator.OperatorUtils.Containers
import Mathlib.Data.List.Induction

/-!
# `ReplaceAllArgs` as an override by flags

An argument of a CR is meant to take the place of the default argument with the same flag, the text
before `=`. The source looks for the flag anywhere in an argument, and writes into the list that it
searches. This module says for which lists the two are the same, and when a second application of the
same arguments changes nothing.
-/

namespace CsmOperator

open Go

/-! ## What is meant -/

/-- The text before the first `=`. -/
def flag (arg : String) : String := (split arg '=').headD ""

/-- The last of the arguments with the flag of `arg`, or `arg` when there is none. -/
def overrideArg (crArgs : List String) (arg : String) : String :=
  (crArgs.reverse.find? (flag · = flag arg)).getD arg

/-- The flag of `arg` is none of a default argument. -/
def IsNew (defaultArgs : List String) (arg : String) : Prop := ∀ d ∈ defaultArgs, flag d ≠ flag arg

instance (defaultArgs : List String) : DecidablePred (IsNew defaultArgs) :=
  fun _ => inferInstanceAs (Decidable (∀ _ ∈ _, _))

theorem not_isNew_iff {defaultArgs : List String} {arg : String} :
    ¬ IsNew defaultArgs arg ↔ ∃ d ∈ defaultArgs, flag d = flag arg := by
  simp [IsNew]

def overrideArgs (defaultArgs crArgs : List String) : List String :=
  defaultArgs.map (overrideArg crArgs) ++ crArgs.filter (IsNew defaultArgs ·)

section Override

variable {crArgs : List String} {arg a : String}

@[simp] theorem overrideArg_nil : overrideArg [] arg = arg := rfl

theorem overrideArg_concat :
    overrideArg (crArgs ++ [a]) arg = if flag a = flag arg then a else overrideArg crArgs arg := by
  unfold overrideArg
  rw [List.reverse_append, List.reverse_singleton, List.singleton_append, List.find?_cons]
  split <;> simp_all

@[simp] theorem flag_overrideArg (crArgs : List String) (arg : String) :
    flag (overrideArg crArgs arg) = flag arg := by
  induction crArgs using List.reverseRecOn with
  | nil => rfl
  | append_singleton crArgs a ih =>
      rw [overrideArg_concat]
      split
      next h => exact h
      next => exact ih

theorem overrideArg_congr {arg' : String} (h : flag arg = flag arg') (hmem : ∃ a ∈ crArgs, flag a = flag arg) :
    overrideArg crArgs arg = overrideArg crArgs arg' := by
  unfold overrideArg
  rw [h]
  obtain ⟨a, ha, hflag⟩ := hmem
  have hsome : (crArgs.reverse.find? (flag · = flag arg')).isSome = true := by
    rw [List.find?_isSome]
    exact ⟨a, List.mem_reverse.mpr ha, by simpa using hflag.trans h⟩
  obtain ⟨b, hb⟩ := Option.isSome_iff_exists.mp hsome
  rw [hb]
  rfl

/-- Either an argument with the flag, or there is none. -/
theorem overrideArg_cases (crArgs : List String) (arg : String) :
    (overrideArg crArgs arg ∈ crArgs ∧ ∃ a ∈ crArgs, flag a = flag arg) ∨
      (overrideArg crArgs arg = arg ∧ ∀ a ∈ crArgs, flag a ≠ flag arg) := by
  unfold overrideArg
  cases hfind : crArgs.reverse.find? (flag · = flag arg) with
  | none =>
      refine .inr ⟨rfl, fun a ha => ?_⟩
      simpa using List.find?_eq_none.mp hfind a (List.mem_reverse.mpr ha)
  | some b =>
      have hb := List.mem_reverse.mp (List.mem_of_find?_eq_some hfind)
      exact .inl ⟨hb, b, hb, by simpa using List.find?_some hfind⟩

theorem contains_flag (arg : String) : contains arg (flag arg) = true := by
  have hhead : (flag arg).toList = arg.toList.takeWhile (· ≠ '=') := by
    unfold flag split
    rw [List.headD_eq_head?_getD, List.head?_map, head?_splitChars]
    exact String.toList_ofList
  rw [contains_iff, hhead]
  exact (List.takeWhile_prefix _).isInfix

end Override

/-! ## When flags do not clash -/

/-- When an argument of the CR is applied, its flag occurs in no argument with another flag: not in a
default argument, and not in one that has taken its place by then. -/
def ClashFree (defaultArgs crArgs : List String) : Prop :=
  ∀ before a after, crArgs = before ++ a :: after → ∀ d ∈ defaultArgs,
    contains (overrideArg before d) (flag a) = true → flag d = flag a

variable {defaultArgs crArgs : List String}

theorem clashFree_concat {a : String} :
    ClashFree defaultArgs (crArgs ++ [a]) ↔ ClashFree defaultArgs crArgs ∧
      ∀ d ∈ defaultArgs, contains (overrideArg crArgs d) (flag a) = true → flag d = flag a := by
  constructor
  · intro h
    refine ⟨fun before b after heq => ?_, h crArgs a [] rfl⟩
    exact h before b (after ++ [a]) (by rw [heq, List.append_assoc, List.cons_append])
  · rintro ⟨h, ha⟩ before b after heq
    induction after using List.reverseRecOn with
    | nil =>
        obtain ⟨rfl, hb⟩ := List.append_inj' heq rfl
        obtain rfl : a = b := by simpa using hb
        exact ha
    | append_singleton after c _ =>
        rw [← List.cons_append, ← List.append_assoc] at heq
        obtain ⟨heq', -⟩ := List.append_inj' heq rfl
        exact h before b after heq'

/-- The first clash. -/
theorem exists_clash (h : ¬ ClashFree defaultArgs crArgs) :
    ∃ before a after, crArgs = before ++ a :: after ∧ ClashFree defaultArgs before ∧
      ∃ d ∈ defaultArgs, contains (overrideArg before d) (flag a) = true ∧ flag d ≠ flag a := by
  induction crArgs using List.reverseRecOn with
  | nil => exact absurd (fun before a after heq => by simp at heq) h
  | append_singleton crArgs a ih =>
      by_cases hfree : ClashFree defaultArgs crArgs
      · rw [clashFree_concat, not_and] at h
        have hclash := h hfree
        simp only [not_forall] at hclash
        obtain ⟨d, hd, hcontains, hne⟩ := hclash
        exact ⟨crArgs, a, [], rfl, hfree, d, hd, hcontains, hne⟩
      · obtain ⟨before, b, after, rfl, hbefore, hclash⟩ := ih hfree
        exact ⟨before, b, after ++ [a], by simp, hbefore, hclash⟩

/-! ## The loop -/

theorem replaceArg_eq (old : String) (args : List String) :
    replaceArg old args = args.map fun new => if contains new (flag old) = true then old else new := rfl

theorem replacesArg_iff {old : String} {args : List String} :
    replacesArg old args = true ↔ ∃ new ∈ args, contains new (flag old) = true := List.any_eq_true

theorem replaceArgs_append (args merge before after : List String) :
    replaceArgs args merge (before ++ after) =
      replaceArgs (replaceArgs args merge before).1 (replaceArgs args merge before).2 after := by
  induction before generalizing args merge with
  | nil => rfl
  | cons old before ih =>
      simp only [List.cons_append, replaceArgs]
      split
      next => exact ih ..
      next => exact ih ..

/-- The loop treats equal arguments alike. -/
theorem exists_map_replaceArgs (args merge crArgs : List String) :
    ∃ f, (replaceArgs args merge crArgs).1 = args.map f := by
  induction crArgs generalizing args merge with
  | nil => exact ⟨id, (List.map_id _).symm⟩
  | cons old crArgs ih =>
      unfold replaceArgs
      split
      next =>
        obtain ⟨f, hf⟩ := ih (replaceArg old args) merge
        rw [replaceArg_eq, List.map_map] at hf
        exact ⟨_, hf⟩
      next => exact ih args (merge ++ [old])

theorem exists_merge_replaceArgs (args merge crArgs : List String) :
    ∃ added, (replaceArgs args merge crArgs).2 = merge ++ added ∧ added.Sublist crArgs := by
  induction crArgs generalizing args merge with
  | nil => exact ⟨[], (List.append_nil _).symm, List.Sublist.refl _⟩
  | cons old crArgs ih =>
      unfold replaceArgs
      split
      next =>
        obtain ⟨added, hadded, hsub⟩ := ih (replaceArg old args) merge
        exact ⟨added, hadded, hsub.cons _⟩
      next =>
        obtain ⟨added, hadded, hsub⟩ := ih args (merge ++ [old])
        exact ⟨old :: added, by rw [hadded, List.append_assoc, List.singleton_append], hsub.cons_cons _⟩

/-- As long as no flags clash, the loop has replaced by flag. -/
theorem replaceArgs_of_clashFree (h : ClashFree defaultArgs crArgs) :
    replaceArgs defaultArgs [] crArgs =
      (defaultArgs.map (overrideArg crArgs), crArgs.filter (IsNew defaultArgs ·)) := by
  induction crArgs using List.reverseRecOn with
  | nil =>
      have hid : defaultArgs.map (overrideArg []) = defaultArgs := List.map_id _
      rw [hid]
      rfl
  | append_singleton crArgs a ih =>
      obtain ⟨hfree, hlast⟩ := clashFree_concat.mp h
      -- The flag of `a` is found in an argument exactly when it is that argument's flag.
      have hfound : ∀ d ∈ defaultArgs,
          (contains (overrideArg crArgs d) (flag a) = true ↔ flag a = flag d) := fun d hd =>
        ⟨fun hc => (hlast d hd hc).symm, fun he => by
          rw [he, ← flag_overrideArg crArgs d]
          exact contains_flag _⟩
      rw [replaceArgs_append, ih hfree]
      unfold replaceArgs
      split
      next hrep =>
        obtain ⟨new, hnew, hcontains⟩ := replacesArg_iff.mp hrep
        obtain ⟨d, hd, rfl⟩ := List.mem_map.mp hnew
        have hold : ¬ IsNew defaultArgs a := fun hnew => hnew d hd ((hfound d hd).mp hcontains).symm
        rw [replaceArgs, replaceArg_eq, List.map_map, List.filter_append]
        refine Prod.ext (List.map_congr_left fun d hd => ?_) ?_
        · rw [overrideArg_concat]
          exact if_congr (hfound d hd) rfl rfl
        · simp [hold]
      next hrep =>
        have hnew : IsNew defaultArgs a := fun d hd he =>
          hrep (replacesArg_iff.mpr ⟨_, List.mem_map_of_mem hd, (hfound d hd).mpr he.symm⟩)
        rw [replaceArgs, List.filter_append]
        refine Prod.ext (List.map_congr_left fun d hd => ?_) ?_
        · rw [overrideArg_concat, if_neg (hnew d hd).symm]
        · simp [hnew]

theorem replaceAllArgs_of_clashFree (h : ClashFree defaultArgs crArgs) :
    replaceAllArgs defaultArgs crArgs = overrideArgs defaultArgs crArgs := by
  unfold replaceAllArgs overrideArgs
  rw [replaceArgs_of_clashFree h]

/-! ## What a clash does -/

/-- Two arguments with different flags end as one when the flag of one of them clashes. -/
theorem exists_identified {before : List String} {a d e : String} (after : List String)
    (hfree : ClashFree defaultArgs before) (hd : d ∈ defaultArgs)
    (hclash : contains (overrideArg before d) (flag a) = true) (hflag : flag e = flag a) :
    ∃ f, (replaceArgs defaultArgs [] (before ++ a :: after)).1 = defaultArgs.map f ∧ f d = f e := by
  have hfound : contains (overrideArg before e) (flag a) = true := by
    rw [← hflag, ← flag_overrideArg before e]
    exact contains_flag _
  have hrep : replacesArg a (defaultArgs.map (overrideArg before)) = true :=
    replacesArg_iff.mpr ⟨_, List.mem_map_of_mem hd, hclash⟩
  rw [replaceArgs_append, replaceArgs_of_clashFree hfree, replaceArgs, if_pos hrep, replaceArg_eq,
    List.map_map]
  obtain ⟨f, hf⟩ := exists_map_replaceArgs (defaultArgs.map _) (before.filter (IsNew defaultArgs ·)) after
  rw [hf, List.map_map]
  refine ⟨_, rfl, ?_⟩
  simp only [Function.comp_apply, if_pos hclash, if_pos hfound]

/-- An argument whose flag is new, and is found in a default argument, is missing at the end. -/
theorem merge_ne_of_clash {before after : List String} {a d : String}
    (hfree : ClashFree defaultArgs before) (hd : d ∈ defaultArgs)
    (hclash : contains (overrideArg before d) (flag a) = true) (hnew : IsNew defaultArgs a) :
    (replaceArgs defaultArgs [] (before ++ a :: after)).2 ≠
      (before ++ a :: after).filter (IsNew defaultArgs ·) := by
  have hrep : replacesArg a (defaultArgs.map (overrideArg before)) = true :=
    replacesArg_iff.mpr ⟨_, List.mem_map_of_mem hd, hclash⟩
  rw [replaceArgs_append, replaceArgs_of_clashFree hfree, replaceArgs, if_pos hrep]
  obtain ⟨added, hadded, hsub⟩ := exists_merge_replaceArgs
    (replaceArg a (defaultArgs.map (overrideArg before))) (before.filter (IsNew defaultArgs ·)) after
  rw [hadded, List.filter_append, List.filter_cons_of_pos (by simpa using hnew)]
  intro heq
  -- What was appended after `a` cannot make up for `a`.
  have hall := List.append_cancel_left heq
  have hkept : added.filter (IsNew defaultArgs ·) = added := by
    rw [hall]
    simp [hnew]
  have hlen := (hsub.filter (IsNew defaultArgs ·)).length_le
  rw [hkept, hall, List.length_cons] at hlen
  omega

theorem clashFree_of_replaceAllArgs (h : replaceAllArgs defaultArgs crArgs = overrideArgs defaultArgs crArgs) :
    ClashFree defaultArgs crArgs := by
  by_contra hnot
  obtain ⟨before, a, after, rfl, hfree, d, hd, hclash, hne⟩ := exists_clash hnot
  obtain ⟨g, hg⟩ := exists_map_replaceArgs defaultArgs [] (before ++ a :: after)
  obtain ⟨hargs, hmerge⟩ := List.append_inj h (by rw [hg, List.length_map, List.length_map])
  by_cases hnew : IsNew defaultArgs a
  · exact merge_ne_of_clash hfree hd hclash hnew hmerge
  · obtain ⟨e, he, hflag⟩ := not_isNew_iff.mp hnew
    obtain ⟨f, hf, hsame⟩ := exists_identified after hfree hd hclash hflag
    have hpoint := List.map_inj_left.mp (hf.symm.trans hargs)
    rw [hpoint d hd, hpoint e he] at hsame
    have hflags := congrArg flag hsame
    rw [flag_overrideArg, flag_overrideArg] at hflags
    exact hne (hflags.trans hflag)

/-! ## Applying the arguments again -/

theorem exists_flag_overrideArgs (defaultArgs : List String) {a : String} (ha : a ∈ crArgs) :
    ∃ e ∈ overrideArgs defaultArgs crArgs, flag e = flag a := by
  by_cases hnew : IsNew defaultArgs a
  · exact ⟨a, List.mem_append_right _ (List.mem_filter.mpr ⟨ha, by simpa using hnew⟩), rfl⟩
  · obtain ⟨d, hd, hflag⟩ := not_isNew_iff.mp hnew
    exact ⟨_, List.mem_append_left _ (List.mem_map_of_mem hd), by rw [flag_overrideArg, hflag]⟩

theorem clashFree_of_idempotent
    (h : replaceAllArgs (overrideArgs defaultArgs crArgs) crArgs = overrideArgs defaultArgs crArgs) :
    ClashFree (overrideArgs defaultArgs crArgs) crArgs := by
  by_contra hnot
  obtain ⟨before, a, after, heq, hfree, d, hd, hclash, hne⟩ := exists_clash hnot
  have ha : a ∈ crArgs := by
    rw [heq]
    exact List.mem_append_right _ List.mem_cons_self
  obtain ⟨e, he, hflag⟩ := exists_flag_overrideArgs defaultArgs ha
  obtain ⟨f, hf, hsame⟩ := exists_identified after hfree hd hclash hflag
  rw [← heq] at hf
  have hargs : (overrideArgs defaultArgs crArgs).map f = overrideArgs defaultArgs crArgs := by
    have happ : (overrideArgs defaultArgs crArgs).map f ++
        (replaceArgs (overrideArgs defaultArgs crArgs) [] crArgs).2 = overrideArgs defaultArgs crArgs ++ [] := by
      rw [← hf, List.append_nil]
      exact h
    exact (List.append_inj happ (List.length_map _)).1
  have hpoint := List.map_inj_left.mp (hargs.trans (List.map_id _).symm)
  rw [hpoint d hd, hpoint e he] at hsame
  exact hne ((congrArg flag hsame).trans hflag)

/-- The arguments that the CR adds have one text for each flag. -/
def OneTextPerNewFlag (defaultArgs crArgs : List String) : Prop :=
  ∀ a ∈ crArgs, ∀ b ∈ crArgs, flag a = flag b → IsNew defaultArgs a → a = b

instance : Decidable (OneTextPerNewFlag defaultArgs crArgs) :=
  inferInstanceAs (Decidable (∀ _ ∈ _, _))

theorem overrideArg_eq_self_iff {a : String} (ha : a ∈ crArgs) :
    (∀ b ∈ crArgs, flag b = flag a → overrideArg crArgs b = b) ↔ ∀ b ∈ crArgs, flag a = flag b → a = b := by
  constructor
  · intro h b hb hflag
    rw [← h a ha rfl, ← h b hb hflag.symm]
    exact overrideArg_congr hflag ⟨a, ha, rfl⟩
  · intro h b hb hflag
    obtain ⟨hmem, -⟩ | ⟨hself, -⟩ := overrideArg_cases crArgs b
    · rw [← h _ hmem (by rw [flag_overrideArg, hflag]), ← h b hb hflag.symm]
    · exact hself

theorem overrideArgs_idempotent_iff :
    overrideArgs (overrideArgs defaultArgs crArgs) crArgs = overrideArgs defaultArgs crArgs ↔
      OneTextPerNewFlag defaultArgs crArgs := by
  have hnone : crArgs.filter (IsNew (overrideArgs defaultArgs crArgs) ·) = [] := by
    refine List.filter_eq_nil_iff.mpr fun a ha hnew => ?_
    obtain ⟨e, he, hflag⟩ := exists_flag_overrideArgs defaultArgs ha
    exact of_decide_eq_true hnew e he hflag
  -- An argument that took the place of a default argument stays.
  have htwice : overrideArg crArgs ∘ overrideArg crArgs = overrideArg crArgs := by
    refine funext fun d => ?_
    rw [Function.comp_apply]
    obtain ⟨-, a, ha, hflag⟩ | ⟨hself, -⟩ := overrideArg_cases crArgs d
    · refine overrideArg_congr (flag_overrideArg ..) ⟨a, ha, ?_⟩
      rw [flag_overrideArg, hflag]
    · rw [hself, hself]
  rw [overrideArgs, hnone, List.append_nil, overrideArgs, List.map_append, List.map_map,
    htwice, List.append_cancel_left_eq]
  constructor
  · intro h a ha b hb hflag hnew
    have hpoint := List.map_inj_left.mp (h.trans (List.map_id _).symm)
    refine (overrideArg_eq_self_iff ha).mp (fun b hb hflag => ?_) b hb hflag
    refine hpoint b (List.mem_filter.mpr ⟨hb, decide_eq_true ?_⟩)
    intro d hd
    rw [hflag]
    exact hnew d hd
  · intro h
    refine (List.map_congr_left fun a ha => ?_).trans (List.map_id _)
    obtain ⟨ha, hnew⟩ := List.mem_filter.mp ha
    exact (overrideArg_eq_self_iff ha).mpr (fun b hb hflag => h a ha b hb hflag (of_decide_eq_true hnew))
      a ha rfl

/-! ## The arguments of a container -/

/-- `ReplaceAllArgs` replaces by flag, and does nothing when applied once more, exactly when the
arguments of the CR clash neither with the default arguments nor with what they become, and those that
are added have one text for each flag. -/
theorem replaceAllArgs_correct_iff (defaultArgs crArgs : List String) :
    (replaceAllArgs defaultArgs crArgs = overrideArgs defaultArgs crArgs ∧
        replaceAllArgs (replaceAllArgs defaultArgs crArgs) crArgs = replaceAllArgs defaultArgs crArgs) ↔
      ClashFree defaultArgs crArgs ∧ ClashFree (overrideArgs defaultArgs crArgs) crArgs ∧
        OneTextPerNewFlag defaultArgs crArgs := by
  constructor
  · rintro ⟨hspec, hagain⟩
    rw [hspec] at hagain
    have hfree := clashFree_of_idempotent hagain
    rw [replaceAllArgs_of_clashFree hfree] at hagain
    exact ⟨clashFree_of_replaceAllArgs hspec, hfree, overrideArgs_idempotent_iff.mp hagain⟩
  · rintro ⟨hfree, hfree', hone⟩
    rw [replaceAllArgs_of_clashFree hfree, replaceAllArgs_of_clashFree hfree']
    exact ⟨rfl, overrideArgs_idempotent_iff.mpr hone⟩

/-- The first arguments of the provisioner of PowerStore. -/
def provisionerArgs : List String :=
  ["--csi-address=$(ADDRESS)", "--volume-name-prefix=csivol", "--volume-name-uuid-length=10", "--v=5"]

/-- The flag `--v` stands in the flags of the volume names too, so a CR that only sets the log level
removes them. -/
theorem volumeNameArgs_lost :
    replaceAllArgs provisionerArgs ["--v=4"] = ["--csi-address=$(ADDRESS)", "--v=4", "--v=4", "--v=4"] ∧
      replaceAllArgs provisionerArgs ["--v=4"] ≠ overrideArgs provisionerArgs ["--v=4"] := by
  decide

end CsmOperator
