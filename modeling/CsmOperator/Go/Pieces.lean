import CsmOperator.Go.Text
import Mathlib.Data.List.DropRight

/-!
# Pieces of a text

How `strings.Split`, `strings.Cut`, `strings.Join` and `strings.TrimSpace` compose. A separator is one
character; where it is written as a text, `t` is that text.
-/

namespace Go

variable {sep : Char} {t : String}

/-! ## Splitting -/

theorem splitChars_ne_nil (sep : Char) (cs : List Char) : splitChars sep cs ≠ [] := by
  intro h
  have hlen := length_splitChars sep cs
  rw [h] at hlen
  cases hlen

theorem splitChars_append_cons (sep : Char) (a b : List Char) :
    splitChars sep (a ++ sep :: b) = splitChars sep a ++ splitChars sep b := by
  induction a with
  | nil => exact if_pos rfl
  | cons c a ih =>
      rw [List.cons_append, splitChars, splitChars, ih]
      split
      next => rw [List.cons_append]
      next =>
        cases hsplit : splitChars sep a with
        | nil => exact absurd hsplit (splitChars_ne_nil sep a)
        | cons piece rest => rfl

theorem not_mem_of_mem_splitChars {cs piece : List Char} (h : piece ∈ splitChars sep cs) :
    sep ∉ piece := by
  induction cs generalizing piece with
  | nil =>
      obtain rfl := List.mem_singleton.mp h
      exact List.not_mem_nil
  | cons c cs ih =>
      unfold splitChars at h
      split at h
      next =>
        obtain rfl | h := List.mem_cons.mp h
        · exact List.not_mem_nil
        · exact ih h
      next hc =>
        cases hsplit : splitChars sep cs with
        | nil => exact absurd hsplit (splitChars_ne_nil sep cs)
        | cons first rest =>
            rw [hsplit] at h ih
            obtain rfl | h := List.mem_cons.mp h
            · rw [List.mem_cons, not_or]
              exact ⟨Ne.symm hc, ih List.mem_cons_self⟩
            · exact ih (List.mem_cons_of_mem _ h)

theorem split_ne_nil (s : String) (sep : Char) : split s sep ≠ [] :=
  fun h => splitChars_ne_nil sep _ (List.map_eq_nil_iff.mp h)

theorem split_append (ht : t.toList = [sep]) (a b : String) :
    split (a ++ t ++ b) sep = split a sep ++ split b sep := by
  unfold split
  rw [String.toList_append, String.toList_append, ht, List.append_assoc, List.singleton_append,
    splitChars_append_cons, List.map_append]

theorem split_of_not_mem {s : String} (h : sep ∉ s.toList) : split s sep = [s] := by
  unfold split
  rw [splitChars_of_not_mem h, List.map_singleton, String.ofList_toList]

theorem not_mem_of_mem_split {s piece : String} (h : piece ∈ split s sep) : sep ∉ piece.toList := by
  obtain ⟨cs, hcs, rfl⟩ := List.mem_map.mp h
  rw [String.toList_ofList]
  exact not_mem_of_mem_splitChars hcs

/-! ## Joining -/

theorem join_singleton (s t : String) : join [s] t = s := String.intercalate_singleton

theorem join_cons {pieces : List String} (h : pieces ≠ []) (s t : String) :
    join (s :: pieces) t = s ++ t ++ join pieces t := String.intercalate_cons_of_ne_nil h

theorem join_append {xs ys : List String} (hxs : xs ≠ []) (hys : ys ≠ []) (t : String) :
    join (xs ++ ys) t = join xs t ++ t ++ join ys t := String.intercalate_append_of_ne_nil hxs hys

/-- Splitting undoes joining. -/
theorem split_join (ht : t.toList = [sep]) {pieces : List String} (hne : pieces ≠ [])
    (h : ∀ piece ∈ pieces, sep ∉ piece.toList) : split (join pieces t) sep = pieces := by
  induction pieces with
  | nil => exact absurd rfl hne
  | cons piece pieces ih =>
      have hpiece := h piece List.mem_cons_self
      cases pieces with
      | nil => rw [join_singleton, split_of_not_mem hpiece]
      | cons next pieces =>
          have hrest := ih (List.cons_ne_nil _ _) fun p hp => h p (List.mem_cons_of_mem _ hp)
          rw [join_cons (List.cons_ne_nil _ _), split_append ht, split_of_not_mem hpiece, hrest]
          rfl

/-! ## The first and the last piece -/

theorem forall_ne_of_not_mem {cs : List Char} (h : sep ∉ cs) : ∀ c ∈ cs, decide (c ≠ sep) = true :=
  fun _ hc => decide_eq_true (ne_of_mem_of_not_mem hc h)

theorem cut_append (ht : t.toList = [sep]) {a : String} (ha : sep ∉ a.toList) (b : String) :
    cut (a ++ t ++ b) sep = some (a, b) := by
  have hall := forall_ne_of_not_mem ha
  have htext : (a ++ t ++ b).toList = a.toList ++ sep :: b.toList := by
    rw [String.toList_append, String.toList_append, ht, List.append_assoc, List.singleton_append]
  unfold cut
  rw [htext, List.dropWhile_append_of_pos hall, List.takeWhile_append_of_pos hall,
    List.dropWhile_cons_of_neg (by simp), List.takeWhile_cons_of_neg (by simp), List.append_nil,
    String.ofList_toList]
  dsimp only
  rw [String.ofList_toList]

theorem cut_of_not_mem {s : String} (h : sep ∉ s.toList) : cut s sep = none := by
  have hdrop : s.toList.dropWhile (· ≠ sep) = [] :=
    List.dropWhile_eq_nil_iff.mpr (forall_ne_of_not_mem h)
  unfold cut
  rw [hdrop]

/-- A text with a separator is cut at its first one. -/
theorem exists_eq_append (ht : t.toList = [sep]) {s : String} (h : sep ∈ s.toList) :
    ∃ a b, s = a ++ t ++ b ∧ sep ∉ a.toList := by
  obtain ⟨a, b, hs, ha⟩ := List.eq_append_cons_of_mem h
  refine ⟨String.ofList a, String.ofList b, ?_, by rwa [String.toList_ofList]⟩
  rw [← String.toList_inj, String.toList_append, String.toList_append, ht, hs]
  simp

theorem afterLast_of_not_mem {s : String} (h : sep ∉ s.toList) : afterLast s sep = s := by
  have hall := forall_ne_of_not_mem (mt List.mem_reverse.mp h)
  unfold afterLast
  rw [List.takeWhile_eq_self_iff.mpr hall, List.reverse_reverse, String.ofList_toList]

theorem afterLast_append (ht : t.toList = [sep]) (a : String) {b : String} (hb : sep ∉ b.toList) :
    afterLast (a ++ t ++ b) sep = b := by
  have hall := forall_ne_of_not_mem (mt List.mem_reverse.mp hb)
  unfold afterLast
  rw [String.toList_append, String.toList_append, ht, List.reverse_append, List.reverse_append,
    List.takeWhile_append_of_pos hall, List.reverse_singleton, List.singleton_append,
    List.takeWhile_cons_of_neg (by simp), List.append_nil, List.reverse_reverse, String.ofList_toList]

/-! ## Trimming -/

/-- Neither the first nor the last character is white space. -/
def Trimmed (s : String) : Prop :=
  (∀ c ∈ s.toList.head?, c ∉ spaces) ∧ ∀ c ∈ s.toList.getLast?, c ∉ spaces

theorem toList_trimSpace (s : String) :
    (trimSpace s).toList = (s.toList.dropWhile (spaces.contains ·)).rdropWhile (spaces.contains ·) := by
  unfold trimSpace trimRight trimLeft
  rw [String.toList_ofList, String.toList_ofList]
  rfl

theorem mem_of_mem_trimSpace {s : String} {c : Char} (h : c ∈ (trimSpace s).toList) : c ∈ s.toList := by
  rw [toList_trimSpace] at h
  exact (List.dropWhile_suffix _).mem ((List.rdropWhile_prefix _ _).mem h)

theorem head?_dropWhile {p : Char → Bool} {cs : List Char} {c : Char}
    (h : (cs.dropWhile p).head? = some c) : p c = false := by
  have hnot := List.head?_dropWhile_not p cs
  rw [h] at hnot
  exact hnot

theorem trimmed_trimSpace (s : String) : Trimmed (trimSpace s) := by
  unfold Trimmed
  rw [toList_trimSpace]
  refine ⟨fun c hc => ?_, fun c hc => ?_⟩
  · obtain ⟨rest, hrest⟩ := List.rdropWhile_prefix (spaces.contains ·)
      (s.toList.dropWhile (spaces.contains ·))
    have hhead : (s.toList.dropWhile (spaces.contains ·)).head? = some c := by
      rw [← hrest, List.head?_append, hc]
      rfl
    simpa using head?_dropWhile hhead
  · unfold List.rdropWhile at hc
    rw [List.getLast?_reverse] at hc
    simpa using head?_dropWhile hc

theorem trimSpace_eq_self_iff {s : String} : trimSpace s = s ↔ Trimmed s := by
  constructor
  · intro h
    rw [← h]
    exact trimmed_trimSpace s
  · rintro ⟨hhead, hlast⟩
    have hleft : s.toList.dropWhile (spaces.contains ·) = s.toList := by
      cases hs : s.toList with
      | nil => rfl
      | cons c cs =>
          rw [hs] at hhead
          exact List.dropWhile_cons_of_neg (by simpa using hhead c rfl)
    have hright : s.toList.rdropWhile (spaces.contains ·) = s.toList := by
      rw [List.rdropWhile_eq_self_iff]
      intro hne
      simpa using hlast _ (List.getLast?_eq_some_getLast hne)
    rw [← String.toList_inj, toList_trimSpace, hleft, hright]

end Go
