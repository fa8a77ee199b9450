import Mathlib.Data.List.GetD

/-!
# Slices that share an array

A slice shows the first elements of an array that other slices may look into as well. Writing through a
slice is seen by all of them; appending is seen through the slice that `append` returns only, and moves
that slice to an array of its own when the old one is too short.
-/

namespace Go

structure Slice where
  array : Nat
  len : Nat
  deriving DecidableEq, Repr

/-- The arrays a program has allocated, each as long as its capacity. -/
abbrev Arrays (α : Type) := List (List α)

namespace Arrays

variable {α : Type} (h : Arrays α)

/-- All of the array that the slice looks into. -/
def array (s : Slice) : List α := h.getD s.array []

/-- What the slice shows. -/
def read (s : Slice) : List α := (h.array s).take s.len

/-- `for i, x := range s { s[i] = f(x) }` -/
def update (s : Slice) (f : α → α) : Arrays α :=
  h.modify s.array fun xs => (xs.take s.len).map f ++ xs.drop s.len

/-- `append(s, xs...)`. How much room a new array gets behind its elements is up to `spare`. -/
def append (spare : Nat → List α) (s : Slice) (xs : List α) : Arrays α × Slice :=
  let len := s.len + xs.length
  if len ≤ (h.array s).length then
    (h.modify s.array fun ys => ys.take s.len ++ xs ++ ys.drop len, { s with len })
  else (h.concat (h.read s ++ xs ++ spare len), ⟨h.length, len⟩)

/-- The slice lies in an array that has been allocated. -/
structure Valid (s : Slice) : Prop where
  allocated : s.array < h.length
  fits : s.len ≤ (h.array s).length

variable {h} {s t : Slice}

theorem Valid.length_read (hs : h.Valid s) : (h.read s).length = s.len := by
  rw [read, List.length_take, Nat.min_eq_left hs.fits]

theorem array_modify_self (f : List α → List α) (hs : s.array < h.length) :
    array (h.modify s.array f) s = f (h.array s) := by
  unfold array
  simp [List.getD_eq_getElem?_getD, List.getElem?_eq_getElem hs]

/-- A change that keeps the lengths of the arrays keeps every slice valid. -/
theorem Valid.modify (ht : h.Valid t) {f : List α → List α} {i : Nat}
    (hf : ∀ xs, h[i]? = some xs → (f xs).length = xs.length) : Valid (h.modify i f) t := by
  have hlength : (array (h.modify i f) t).length = (h.array t).length := by
    unfold array
    rw [List.getD_eq_getElem?_getD, List.getD_eq_getElem?_getD, List.getElem?_modify,
      List.getElem?_eq_getElem ht.allocated]
    by_cases hi : i = t.array
    · subst hi
      simpa using hf _ (List.getElem?_eq_getElem ht.allocated)
    · simp [hi]
  exact ⟨by simpa using ht.allocated, hlength ▸ ht.fits⟩

/-! ## Writing through a slice -/

theorem read_update (hs : h.Valid s) (f : α → α) : (h.update s f).read s = (h.read s).map f := by
  rw [read, update, array_modify_self _ hs.allocated]
  exact List.take_left' ((List.length_map f).trans hs.length_read)

theorem Valid.update (ht : h.Valid t) (f : α → α) : (h.update s f).Valid t :=
  ht.modify fun xs _ => by simp; omega

/-! ## Appending -/

variable (spare : Nat → List α) (xs : List α)

theorem append_len : (h.append spare s xs).2.len = s.len + xs.length := by
  unfold append
  dsimp only
  split <;> rfl

/-- Appending nothing gives the slice itself. -/
theorem append_nil (hs : h.Valid s) : (h.append spare s []).2 = s := by
  unfold append
  dsimp only
  rw [if_pos (by simpa using hs.fits)]
  rfl

theorem read_append (hs : h.Valid s) :
    (h.append spare s xs).1.read (h.append spare s xs).2 = h.read s ++ xs := by
  unfold append
  dsimp only
  split
  · next hfits =>
      rw [read, array_modify_self (s := { s with len := s.len + xs.length }) _ hs.allocated]
      refine List.take_left' ?_
      rw [List.length_append]
      exact congrArg (· + xs.length) hs.length_read
  · rw [read, array, List.concat_eq_append, List.getD_append_right _ _ _ _ (Nat.le_refl _), Nat.sub_self,
      List.getD_cons_zero]
    exact List.take_left' (by rw [List.length_append, hs.length_read])

/-- The slice that is returned is valid, and so are those there were before. -/
theorem Valid.append (ht : h.Valid t) : (h.append spare s xs).1.Valid t := by
  unfold Arrays.append
  dsimp only
  split
  · next hfits =>
      refine ht.modify fun ys hys => ?_
      have : ys = h.array s := by
        rw [array, List.getD_eq_getElem?_getD, hys, Option.getD_some]
      subst this
      simp
      omega
  · refine ⟨by simpa using Nat.lt_succ_of_lt ht.allocated, ?_⟩
    have hfits := ht.fits
    unfold array at hfits ⊢
    rwa [List.concat_eq_append, List.getD_append _ _ _ _ ht.allocated]

theorem Valid.appended (hs : h.Valid s) :
    (h.append spare s xs).1.Valid (h.append spare s xs).2 := by
  have hread := congrArg List.length (read_append spare xs hs)
  rw [List.length_append, hs.length_read, read, List.length_take, append_len] at hread
  refine ⟨?_, by rw [append_len]; omega⟩
  unfold Arrays.append
  dsimp only
  split
  · simpa using hs.allocated
  · simp

end Arrays

end Go
