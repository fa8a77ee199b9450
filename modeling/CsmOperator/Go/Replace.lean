import CsmOperator.Go.Text
import Mathlib.Data.List.Infix

/-!
# `strings.ReplaceAll`

What one call does to a text: an occurrence is replaced and the search goes on behind it; a character where
none begins is passed over. All other facts are inductions along the search, `replaceInduction`.
-/

namespace Go

section Characters

variable {old new : List Char}

/-- Fuel and count do not matter once they are large enough. -/
theorem replaceChars_congr (h : old ≠ []) {cs : List Char} {fuel n fuel' n' : Nat} (hfuel : cs.length ≤ fuel)
    (hn : cs.length ≤ n) (hfuel' : cs.length ≤ fuel') (hn' : cs.length ≤ n') :
    replaceChars old new fuel n cs = replaceChars old new fuel' n' cs := by
  induction fuel generalizing cs n fuel' n' with
  | zero =>
      obtain rfl := List.length_eq_zero_iff.mp (Nat.le_zero.mp hfuel)
      cases fuel' <;> cases n' <;> rfl
  | succ fuel ih =>
      cases cs with
      | nil => cases n <;> cases fuel' <;> cases n' <;> rfl
      | cons c cs =>
          rw [List.length_cons] at hfuel hn hfuel' hn'
          obtain ⟨n, rfl⟩ := Nat.exists_eq_add_one.mpr (Nat.lt_of_lt_of_le (Nat.succ_pos _) hn)
          obtain ⟨fuel', rfl⟩ := Nat.exists_eq_add_one.mpr (Nat.lt_of_lt_of_le (Nat.succ_pos _) hfuel')
          obtain ⟨n', rfl⟩ := Nat.exists_eq_add_one.mpr (Nat.lt_of_lt_of_le (Nat.succ_pos _) hn')
          have hold := List.length_pos_iff.mpr h
          have hdrop : ((c :: cs).drop old.length).length ≤ cs.length := by
            rw [List.length_drop, List.length_cons]
            omega
          rw [replaceChars, replaceChars]
          split
          · refine congrArg (new ++ ·) (ih ?_ ?_ ?_ ?_) <;> omega
          · refine congrArg (c :: ·) (ih ?_ ?_ ?_ ?_) <;> omega

/-- `strings.ReplaceAll` on characters. -/
def replaceAllChars (old new cs : List Char) : List Char := replaceChars old new cs.length cs.length cs

theorem replaceAllChars_nil : replaceAllChars old new [] = [] := rfl

theorem replaceAllChars_cons {c : Char} {cs : List Char} (h : old ≠ []) (hne : ¬old <+: c :: cs) :
    replaceAllChars old new (c :: cs) = c :: replaceAllChars old new cs := by
  rw [← List.isPrefixOf_iff_prefix] at hne
  rw [replaceAllChars, List.length_cons, replaceChars, if_neg hne, replaceAllChars]
  exact congrArg (c :: ·) (replaceChars_congr h le_rfl (Nat.le_succ _) le_rfl le_rfl)

theorem replaceAllChars_append_self (h : old ≠ []) (cs : List Char) :
    replaceAllChars old new (old ++ cs) = new ++ replaceAllChars old new cs := by
  obtain ⟨c, old, rfl⟩ := List.exists_cons_of_ne_nil h
  have hpre : (c :: old).isPrefixOf (c :: (old ++ cs)) = true :=
    List.isPrefixOf_iff_prefix.mpr (List.prefix_append (c :: old) cs)
  rw [replaceAllChars, List.cons_append, List.length_cons, replaceChars, if_pos hpre, ← List.cons_append,
    List.drop_left, replaceAllChars]
  have hlen : cs.length ≤ (old ++ cs).length := by
    rw [List.length_append]
    omega
  exact congrArg (new ++ ·) (replaceChars_congr h hlen hlen le_rfl le_rfl)

/-- Induction along the search for `old`. -/
theorem replaceInduction (h : old ≠ []) {motive : List Char → Prop} (nil : motive [])
    (found : ∀ cs, motive cs → motive (old ++ cs))
    (skip : ∀ c cs, ¬old <+: c :: cs → motive cs → motive (c :: cs)) (cs : List Char) : motive cs := by
  induction hn : cs.length using Nat.strong_induction_on generalizing cs with
  | _ n ih =>
    cases cs with
    | nil => exact nil
    | cons c cs =>
        by_cases hpre : old <+: c :: cs
        · obtain ⟨rest, hrest⟩ := hpre
          have hold := List.length_pos_iff.mpr h
          have hlen : rest.length < n := by
            rw [← hn, ← hrest, List.length_append]
            omega
          exact hrest ▸ found rest (ih _ hlen rest rfl)
        · exact skip c cs hpre (ih _ (hn ▸ Nat.lt_succ_self _) cs rfl)

/-- An occurrence does not reach over a character it does not have. -/
theorem isPrefix_of_append_cons {c : Char} {a b : List Char} (hc : c ∉ old) (h : old <+: a ++ c :: b) :
    old <+: a := by
  obtain ⟨t, ht⟩ := h
  rcases List.append_eq_append_iff.mp ht with ⟨d, rfl, -⟩ | ⟨d, rfl, hd⟩
  · exact List.prefix_append old d
  · cases d with
    | nil => simp
    | cons x d =>
        obtain ⟨rfl, -⟩ := List.cons.inj hd
        simp at hc

theorem replaceAllChars_append_cons (h : old ≠ []) {c : Char} (hc : c ∉ old) (a b : List Char) :
    replaceAllChars old new (a ++ c :: b) = replaceAllChars old new a ++ c :: replaceAllChars old new b := by
  induction a using replaceInduction h with
  | nil =>
      refine replaceAllChars_cons h fun hpre => ?_
      exact h (List.prefix_nil.mp (isPrefix_of_append_cons (a := []) hc hpre))
  | found a ih => rw [List.append_assoc, replaceAllChars_append_self h, ih, replaceAllChars_append_self h,
      List.append_assoc]
  | skip x a hne ih =>
      rw [List.cons_append, replaceAllChars_cons h, ih, replaceAllChars_cons h hne, List.cons_append]
      exact fun hpre => hne (isPrefix_of_append_cons (a := x :: a) hc hpre)

/-- Text without the first character of `old` is passed over. -/
theorem replaceAllChars_append_of_not_mem {c : Char} {a : List Char} (h : c ∉ a) (b : List Char) :
    replaceAllChars (c :: old) new (a ++ b) = a ++ replaceAllChars (c :: old) new b := by
  induction a with
  | nil => rfl
  | cons x a ih =>
      rw [List.mem_cons, not_or] at h
      rw [List.cons_append, replaceAllChars_cons (List.cons_ne_nil c old), ih h.2, List.cons_append]
      exact fun hpre => h.1 (List.cons_prefix_cons.mp hpre).1

theorem replaceAllChars_same (h : old ≠ []) (cs : List Char) : replaceAllChars old old cs = cs := by
  induction cs using replaceInduction h with
  | nil => rfl
  | found cs ih => rw [replaceAllChars_append_self h, ih]
  | skip c cs hne ih => rw [replaceAllChars_cons h hne, ih]

theorem replaceAllChars_of_not_infix (h : old ≠ []) {cs : List Char} (hcs : ¬old <:+: cs) :
    replaceAllChars old new cs = cs := by
  induction cs with
  | nil => rfl
  | cons c cs ih =>
      rw [List.infix_cons_iff, not_or] at hcs
      rw [replaceAllChars_cons h hcs.1, ih hcs.2]

theorem length_replaceAllChars_le (h : old ≠ []) (hlen : new.length ≤ old.length) (cs : List Char) :
    (replaceAllChars old new cs).length ≤ cs.length := by
  induction cs using replaceInduction h with
  | nil => rfl
  | found cs ih =>
      rw [replaceAllChars_append_self h, List.length_append, List.length_append]
      omega
  | skip c cs hne ih =>
      rw [replaceAllChars_cons h hne, List.length_cons, List.length_cons]
      omega

theorem not_mem_replaceAllChars (h : old ≠ []) {c : Char} (hnew : c ∉ new) {cs : List Char} (hcs : c ∉ cs) :
    c ∉ replaceAllChars old new cs := by
  induction cs using replaceInduction h with
  | nil => exact hcs
  | found cs ih =>
      rw [List.mem_append, not_or] at hcs
      rw [replaceAllChars_append_self h, List.mem_append, not_or]
      exact ⟨hnew, ih hcs.2⟩
  | skip x cs hne ih =>
      rw [List.mem_cons, not_or] at hcs
      rw [replaceAllChars_cons h hne, List.mem_cons, not_or]
      exact ⟨hcs.1, ih hcs.2⟩

/-- Where a shorter text is put in, the result gets shorter. -/
theorem length_replaceAllChars_lt (h : old ≠ []) (hlen : new.length < old.length) {cs : List Char}
    (hcs : old <:+: cs) : (replaceAllChars old new cs).length < cs.length := by
  induction cs using replaceInduction h with
  | nil => exact absurd (List.infix_nil.mp hcs) h
  | found cs ih =>
      have hle := length_replaceAllChars_le h hlen.le cs
      rw [replaceAllChars_append_self h, List.length_append, List.length_append]
      omega
  | skip c cs hne ih =>
      have hlt := ih ((List.infix_cons_iff.mp hcs).resolve_left hne)
      rw [replaceAllChars_cons h hne, List.length_cons, List.length_cons]
      omega

theorem replaceAllChars_eq_self_iff (h : old ≠ []) (hlen : new.length < old.length) {cs : List Char} :
    replaceAllChars old new cs = cs ↔ ¬old <:+: cs := by
  refine ⟨fun heq hcs => ?_, replaceAllChars_of_not_infix h⟩
  have hlt := length_replaceAllChars_lt h hlen hcs
  rw [heq] at hlt
  exact Nat.lt_irrefl _ hlt

end Characters

theorem toList_replaceAll (s old new : String) :
    (replaceAll s old new).toList = replaceAllChars old.toList new.toList s.toList := by
  rw [replaceAll, replace, String.toList_ofList, replaceAllChars, String.length_toList]

end Go
