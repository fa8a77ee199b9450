import Mathlib.Data.List.Basic
import Mathlib.Data.List.Induction

/-!
# Slice idioms of Go

Loops that take elements out of a slice by moving its last element into the gap. What such a loop does
depends on whether it stops at the first one: the range keeps the length it started with, while the
slice gets shorter.
-/

namespace Go

variable {α : Type}

/-- `for i, x := range xs { if p(x) { xs[i] = xs[len(xs)-1]; xs = xs[:len(xs)-1]; break } }` -/
def swapRemove (p : α → Bool) (xs : List α) : List α :=
  match xs.findIdx? p, xs.getLast? with
  | some i, some last => (xs.set i last).dropLast
  | _, _ => xs

/-- The same loop without the `break`, from the positions `is` on. The array keeps its length; `len` is
that of the slice. An index beyond it panics. -/
def swapRemoveLoop (p : α → Bool) : List Nat → List α → Nat → Option (List α)
  | [], array, len => some (array.take len)
  | i :: is, array, len =>
    if array[i]?.any p then
      match array[len - 1]? with
      | some last => if i < len then swapRemoveLoop p is (array.set i last) (len - 1) else none
      | none => none
    else swapRemoveLoop p is array len

def swapRemoveAll (p : α → Bool) (xs : List α) : Option (List α) :=
  swapRemoveLoop p (List.range xs.length) xs xs.length

/-- `for i, x := range xs { if p(x) { xs[i] = y; break } }` -/
def replaceFirst (p : α → Bool) (y : α) : List α → List α
  | [] => []
  | x :: xs => if p x then y :: xs else x :: replaceFirst p y xs

/-! ## Looking at one field

A loop that tests a field of the elements treats the list of these fields in the same way. -/

variable {β : Type}

theorem swapRemoveLoop_map (f : α → β) (p : β → Bool) (is : List Nat) (array : List α) (len : Nat) :
    swapRemoveLoop p is (array.map f) len =
      (swapRemoveLoop (fun x => p (f x)) is array len).map (List.map f) := by
  induction is generalizing array len with
  | nil => simp [swapRemoveLoop, List.map_take]
  | cons i is ih =>
      have hany : (array.map f)[i]?.any p = array[i]?.any fun x => p (f x) := by
        rw [List.getElem?_map, Option.any_map]
      unfold swapRemoveLoop
      rw [hany]
      split
      · rw [List.getElem?_map]
        cases array[len - 1]? with
        | none => rfl
        | some last =>
            simp only [Option.map_some]
            split
            · rw [← List.map_set, ih]
            · rfl
      · exact ih array len

theorem swapRemoveAll_map (f : α → β) (p : β → Bool) (xs : List α) :
    swapRemoveAll p (xs.map f) = (swapRemoveAll (fun x => p (f x)) xs).map (List.map f) := by
  unfold swapRemoveAll
  rw [List.length_map, swapRemoveLoop_map]

/-- A loop that appends one element for each one, and can stop half way. -/
theorem mapM_eq_some_map_iff {f : α → Option β} {g : α → β} {xs : List α} :
    xs.mapM f = some (xs.map g) ↔ ∀ x ∈ xs, f x = some (g x) := by
  induction xs with
  | nil => simp
  | cons x xs ih => simp [List.mapM_cons, Option.bind_eq_some_iff, ih]

theorem map_replaceFirst (f : α → β) (p : β → Bool) (y : α) (xs : List α) :
    (replaceFirst (fun x => p (f x)) y xs).map f = replaceFirst p (f y) (xs.map f) := by
  induction xs with
  | nil => rfl
  | cons x xs ih =>
      simp only [replaceFirst, List.map_cons]
      split
      · rfl
      · rw [List.map_cons, ih]

/-! ## The last value wins -/

section LastValue

variable {α β : Type}

/-- The value of the last element that counts, or else `d`. -/
def lastOf (counts : α → Bool) (value : α → β) (d : β) (xs : List α) : β :=
  xs.foldl (fun v x => if counts x then value x else v) d

variable {p q : α → Bool} {value : α → β} {d : β}

theorem lastOf_concat (xs : List α) (x : α) :
    lastOf p value d (xs ++ [x]) = if p x then value x else lastOf p value d xs := by
  rw [lastOf, List.foldl_append]
  rfl

/-- Where an element of `xs ++ [x]` stands: at the end, or in `xs`. -/
theorem concat_eq_append_cons_iff {xs before after : List α} {x y : α} :
    xs ++ [x] = before ++ y :: after ↔
      before = xs ∧ y = x ∧ after = [] ∨ ∃ after', after = after' ++ [x] ∧ xs = before ++ y :: after' := by
  constructor
  · intro h
    rcases List.eq_nil_or_concat after with rfl | ⟨after', z, rfl⟩
    · obtain ⟨rfl, hlast⟩ := List.append_inj' h rfl
      exact .inl ⟨rfl, (List.singleton_inj.mp hlast).symm, rfl⟩
    · rw [List.concat_eq_append, ← List.cons_append, ← List.append_assoc] at h
      obtain ⟨rfl, hlast⟩ := List.append_inj' h rfl
      rw [← List.singleton_inj.mp hlast]
      exact .inr ⟨after', List.concat_eq_append .., rfl⟩
  · rintro (⟨rfl, rfl, rfl⟩ | ⟨after', rfl, rfl⟩)
    · rfl
    · simp

/-- Counting more elements makes no difference exactly when those that are counted in addition come before
another one, or have the value that is found without them. -/
theorem lastOf_eq_iff (hqp : ∀ x, q x = true → p x = true) (xs : List α) :
    lastOf p value d xs = lastOf q value d xs ↔
      ∀ before x after, xs = before ++ x :: after → p x = true → q x = false →
        (∃ y ∈ after, p y = true) ∨ value x = lastOf q value d before := by
  induction xs using List.reverseRecOn with
  | nil => simp [lastOf]
  | append_singleton xs x ih =>
      rw [lastOf_concat, lastOf_concat]
      simp only [concat_eq_append_cons_iff]
      by_cases hp : p x = true
      · rw [if_pos hp]
        -- the last element comes after all others, so only its own value matters
        have hothers : ∀ before y after, (∃ after', after = after' ++ [x] ∧ xs = before ++ y :: after') →
            ∃ z ∈ after, p z = true := by
          rintro before y after ⟨after', rfl, -⟩
          exact ⟨x, by simp, hp⟩
        by_cases hq : q x = true
        · rw [if_pos hq]
          refine iff_of_true rfl ?_
          rintro before y after (⟨rfl, rfl, rfl⟩ | hsplit) - hy
          · rw [hy] at hq
            cases hq
          · exact .inl (hothers before y after hsplit)
        · rw [if_neg hq]
          constructor
          · rintro heq before y after (⟨rfl, rfl, rfl⟩ | hsplit) - -
            · exact .inr heq
            · exact .inl (hothers before y after hsplit)
          · intro h
            obtain ⟨y, hy, -⟩ | heq := h xs x [] (.inl ⟨rfl, rfl, rfl⟩) hp (Bool.not_eq_true _ ▸ hq)
            · cases hy
            · exact heq
      · have hq : ¬q x = true := fun hq => hp (hqp x hq)
        rw [if_neg hp, if_neg hq, ih]
        constructor
        · rintro h before y after (⟨rfl, rfl, rfl⟩ | ⟨after', rfl, hsplit⟩) hy hqy
          · exact (hp hy).elim
          · exact (h before y after' hsplit hy hqy).imp_left fun ⟨z, hz, hpz⟩ =>
              ⟨z, List.mem_append_left _ hz, hpz⟩
        · intro h before y after hsplit hy hqy
          refine (h before y (after ++ [x]) (.inr ⟨after, rfl, hsplit⟩) hy hqy).imp_left ?_
          rintro ⟨z, hz, hpz⟩
          rcases List.mem_append.mp hz with hz | hz
          · exact ⟨z, hz, hpz⟩
          · rw [List.mem_singleton.mp hz] at hpz
            exact (hp hpz).elim

end LastValue

end Go
