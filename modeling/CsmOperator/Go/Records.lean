import CsmOperator.Go.Memory

/-!
# Structs that hold a slice

A slice of structs that hold slices themselves. A loop that ranges over the structs works on copies of them,
and a copy of a struct has the same slice. What the loop writes through the slice of a copy is seen in the
original; what it appends is not. A loop that goes by index changes the originals.
-/

namespace Go

variable {α ρ : Type}

namespace Arrays

variable {h : Arrays α} {s t : Slice} {xs : List α} (spare : Nat → List α)

/-- Overwrite what the slice shows. -/
def write (h : Arrays α) (s : Slice) (xs : List α) : Arrays α := h.modify s.array fun ys => xs ++ ys.drop s.len

theorem array_modify_of_ne (f : List α → List α) (hne : t.array ≠ s.array) :
    array (h.modify s.array f) t = h.array t := by
  unfold array
  rw [List.getD_eq_getElem?_getD, List.getD_eq_getElem?_getD, List.getElem?_modify_ne _ _ (Ne.symm hne)]

theorem read_write (hs : h.Valid s) (hlen : xs.length = s.len) : (h.write s xs).read s = xs := by
  rw [read, write, array_modify_self _ hs.allocated]
  exact List.take_left' hlen

theorem read_write_of_ne (hne : t.array ≠ s.array) : (h.write s xs).read t = h.read t := by
  rw [read, write, array_modify_of_ne _ hne]
  rfl

theorem Valid.write (ht : h.Valid t) (hs : h.Valid s) (hlen : xs.length = s.len) : (h.write s xs).Valid t := by
  refine ht.modify fun ys hys => ?_
  have hfits : s.len ≤ ys.length := by
    have hfits := hs.fits
    rwa [array, List.getD_eq_getElem?_getD, hys, Option.getD_some] at hfits
  rw [List.length_append, List.length_drop, hlen]
  omega

/-- What was there is seen through the old slice as before. -/
theorem read_append_old (hs : h.Valid s) : (h.append spare s xs).1.read s = h.read s := by
  unfold append
  dsimp only
  split
  · rw [read, array_modify_self _ hs.allocated, List.append_assoc]
    exact List.take_left' hs.length_read
  · rw [read, array, List.concat_eq_append, List.getD_append _ _ _ _ hs.allocated]
    rfl

theorem read_append_of_ne (ht : h.Valid t) (hne : t.array ≠ s.array) :
    (h.append spare s xs).1.read t = h.read t := by
  unfold append
  dsimp only
  split
  · rw [read, array_modify_of_ne _ hne]
    rfl
  · rw [read, array, List.concat_eq_append, List.getD_append _ _ _ _ ht.allocated]
    rfl

/-- The slice stays where it is, or moves to a new array. -/
theorem append_array : (h.append spare s xs).2.array = s.array ∨ (h.append spare s xs).2.array = h.length := by
  unfold append
  dsimp only
  split
  · exact .inl rfl
  · exact .inr rfl

theorem Valid.append_arrays (hs : h.Valid s) (xss : Arrays α) : Valid (h ++ xss) s := by
  obtain ⟨hallocated, hfits⟩ := hs
  refine ⟨?_, ?_⟩
  · rw [List.length_append]
    omega
  · unfold array at hfits ⊢
    rw [List.getD_append _ _ _ _ hallocated]
    exact hfits

theorem Valid.concat (hs : h.Valid s) (xs : List α) : Valid (h.concat xs) s := by
  rw [List.concat_eq_append]
  exact hs.append_arrays [xs]

theorem length_le_of_keeps {h' : Arrays α} (hkeeps : ∀ t, h.Valid t → h'.Valid t) : h.length ≤ h'.length := by
  cases hlen : h.length with
  | zero => exact Nat.zero_le _
  | succ n =>
      -- an empty slice of the last array
      have hlast : h.Valid ⟨n, 0⟩ := ⟨hlen ▸ Nat.lt_succ_self n, Nat.zero_le _⟩
      exact (hkeeps ⟨n, 0⟩ hlast).allocated

end Arrays

/-! ## Edits of a slice variable -/

/-- What some code does to a variable that holds a slice: the arrays and the slice afterwards. -/
abbrev SliceEdit (α : Type) := Arrays α → Slice → Arrays α × Slice

/-- The variable shows `after` in the end, and a copy of it that was made before shows `through`. Slices in other
arrays are not affected. -/
structure SliceShown (h : Arrays α) (s : Slice) (x : Arrays α × Slice) (after through : List α) : Prop where
  after : x.1.read x.2 = after
  through : x.1.read s = through
  others : ∀ t, h.Valid t → t.array ≠ s.array → x.1.read t = h.read t
  valid : x.1.Valid x.2
  keeps : ∀ t, h.Valid t → x.1.Valid t
  place : x.2.array = s.array ∨ h.length ≤ x.2.array

/-- What the edit shows is a function of what the slice did. -/
def SliceEdit.Shows (act : SliceEdit α) (after through : List α → List α) : Prop :=
  ∀ h s, h.Valid s → SliceShown h s (act h s) (after (h.read s)) (through (h.read s))

namespace SliceEdit

/-- Nothing is done. -/
def keep : SliceEdit α := fun h s => (h, s)

/-- `s = append(s, xs...)` -/
def append (spare : Nat → List α) (xs : List α) : SliceEdit α := fun h s => h.append spare s xs

/-- Assign to elements of the slice. -/
def assign (g : List α → List α) : SliceEdit α := fun h s => (h.write s (g (h.read s)), s)

/-- One of two edits, by what the slice shows. -/
def branch (c : List α → Bool) (act act' : SliceEdit α) : SliceEdit α := fun h s =>
  if c (h.read s) then act h s else act' h s

theorem shows_keep : (keep : SliceEdit α).Shows id id :=
  fun _ _ hs => ⟨rfl, rfl, fun _ _ _ => rfl, hs, fun _ ht => ht, .inl rfl⟩

theorem shows_append (spare : Nat → List α) (xs : List α) : (append spare xs).Shows (· ++ xs) id :=
  fun _ _ hs => {
    after := Arrays.read_append spare xs hs
    through := Arrays.read_append_old spare hs
    others := fun _ ht hne => Arrays.read_append_of_ne spare ht hne
    valid := hs.appended spare xs
    keeps := fun _ ht => ht.append spare xs
    place := (Arrays.append_array spare).imp_right fun heq => Nat.le_of_eq heq.symm }

theorem shows_assign {g : List α → List α} (hg : ∀ xs, (g xs).length = xs.length) : (assign g).Shows g g := by
  intro h s hs
  have hlen : (g (h.read s)).length = s.len := (hg _).trans hs.length_read
  exact {
    after := Arrays.read_write hs hlen
    through := Arrays.read_write hs hlen
    others := fun _ _ hne => Arrays.read_write_of_ne hne
    valid := hs.write hs hlen
    keeps := fun _ ht => ht.write hs hlen
    place := .inl rfl }

theorem Shows.branch {act act' : SliceEdit α} {after after' through through' : List α → List α}
    (hact : act.Shows after through) (hact' : act'.Shows after' through') (c : List α → Bool) :
    (branch c act act').Shows (fun xs => if c xs then after xs else after' xs)
      fun xs => if c xs then through xs else through' xs := by
  intro h s hs
  unfold SliceEdit.branch
  dsimp only
  split
  · exact hact h s hs
  · exact hact' h s hs

end SliceEdit

/-! ## Loops over structs -/

/-- A struct with a slice among its fields. -/
structure Record (ρ : Type) where
  fields : ρ
  slice : Slice

/-- What the struct shows. -/
def Record.value (h : Arrays α) (r : Record ρ) : ρ × List α := (r.fields, h.read r.slice)

/-- The slices are there, and each in an array of its own. -/
structure Separate (h : Arrays α) (rs : List (Record ρ)) : Prop where
  valid : ∀ r ∈ rs, h.Valid r.slice
  nodup : (rs.map (·.slice.array)).Nodup

section Loop

variable (sel : ρ → Bool)

/-- The slices of the selected structs are edited one after the other. -/
def editAll (act : SliceEdit α) : Arrays α → List (Record ρ) → Arrays α × List (Record ρ)
  | h, [] => (h, [])
  | h, r :: rs =>
    let x := if sel r.fields then act h r.slice else (h, r.slice)
    let (h, rs) := editAll act x.1 rs
    (h, { r with slice := x.2 } :: rs)

/-- The struct, with something done to its slice if it is selected. -/
def onSelected (g : List α → List α) (x : ρ × List α) : ρ × List α :=
  if sel x.1 then (x.1, g x.2) else x

/-- What a loop leaves: the structs it has made, the structs there were, and everything else. -/
structure EditedAll (after through : List α → List α) (h : Arrays α) (rs : List (Record ρ))
    (x : Arrays α × List (Record ρ)) : Prop where
  copies : x.2.map (·.value x.1) = rs.map fun r => onSelected sel after (r.value h)
  originals : rs.map (·.value x.1) = rs.map fun r => onSelected sel through (r.value h)
  others : ∀ t, h.Valid t → t.array ∉ rs.map (·.slice.array) → x.1.read t = h.read t
  keeps : ∀ t, h.Valid t → x.1.Valid t
  separate : Separate x.1 x.2
  place : ∀ r ∈ x.2, r.slice.array ∈ rs.map (·.slice.array) ∨ h.length ≤ r.slice.array

variable {sel} {act : SliceEdit α} {h : Arrays α} {r : Record ρ} {rs : List (Record ρ)}
  {after through : List α → List α}

theorem length_editAll : (editAll sel act h rs).2.length = rs.length := by
  induction rs generalizing h with
  | nil => rfl
  | cons r rs ih => exact congrArg (· + 1) ih

/-- The edit of one struct, or none if it is not selected. -/
theorem SliceEdit.Shows.shown (hact : act.Shows after through) (hr : h.Valid r.slice) :
    SliceShown h r.slice (if sel r.fields then act h r.slice else (h, r.slice))
      (onSelected sel after (r.value h)).2 (onSelected sel through (r.value h)).2 := by
  unfold onSelected Record.value
  split
  · exact hact h r.slice hr
  · exact shows_keep h r.slice hr

theorem editedAll_editAll (hact : act.Shows after through) (hsep : Separate h rs) :
    EditedAll sel after through h rs (editAll sel act h rs) := by
  induction rs generalizing h with
  | nil => exact ⟨rfl, rfl, fun _ _ _ => rfl, fun _ ht => ht, hsep, nofun⟩
  | cons r rs ih =>
      obtain ⟨hvalid, hnodup⟩ := hsep
      obtain ⟨hr, hrs⟩ := List.forall_mem_cons.mp hvalid
      rw [List.map_cons, List.nodup_cons] at hnodup
      have hshown : SliceShown h r.slice (if sel r.fields then act h r.slice else (h, r.slice)) _ _ := hact.shown hr
      unfold editAll
      generalize (if sel r.fields then act h r.slice else (h, r.slice)) = x at hshown ⊢
      have hrest := ih ⟨fun r' hr' => hshown.keeps _ (hrs r' hr'), hnodup.2⟩
      -- the other structs were not affected by the edit of this one
      have hsame : ∀ r' ∈ rs, r'.value x.1 = r'.value h := by
        intro r' hr'
        have hne : r'.slice.array ≠ r.slice.array := fun heq =>
          hnodup.1 (heq ▸ List.mem_map_of_mem hr')
        rw [Record.value, hshown.others _ (hrs r' hr') hne, Record.value]
      -- nor this one by the edits of the others, neither the struct nor its copy
      have hfields (g : List α → List α) : (onSelected sel g (r.value h)).1 = r.fields := by
        unfold onSelected Record.value
        split <;> rfl
      have hcopy : x.2.array ∉ rs.map (·.slice.array) := by
        rcases hshown.place with hplace | hplace
        · rw [hplace]
          exact hnodup.1
        · intro hmem
          obtain ⟨r', hr', heq⟩ := List.mem_map.mp hmem
          have := (hrs r' hr').allocated
          omega
      have hlen := Arrays.length_le_of_keeps hshown.keeps
      refine ⟨?_, ?_, fun t ht hne => ?_, fun t ht => hrest.keeps t (hshown.keeps t ht), ⟨?_, ?_⟩, ?_⟩
      · rw [List.map_cons, List.map_cons, hrest.copies]
        congr 1
        · refine Prod.ext (hfields after).symm ?_
          exact (hrest.others _ hshown.valid hcopy).trans hshown.after
        · exact List.map_congr_left fun r' hr' => by rw [hsame r' hr']
      · rw [List.map_cons, List.map_cons, hrest.originals]
        congr 1
        · refine Prod.ext (hfields through).symm ?_
          exact (hrest.others _ (hshown.keeps _ hr) hnodup.1).trans hshown.through
        · exact List.map_congr_left fun r' hr' => by rw [hsame r' hr']
      · rw [List.map_cons, List.mem_cons, not_or] at hne
        exact (hrest.others t (hshown.keeps t ht) hne.2).trans (hshown.others t ht hne.1)
      · exact List.forall_mem_cons.mpr ⟨hrest.keeps _ hshown.valid, hrest.separate.valid⟩
      · refine List.nodup_cons.mpr ⟨fun hmem => ?_, hrest.separate.nodup⟩
        obtain ⟨r', hr', heq⟩ := List.mem_map.mp hmem
        have heq : r'.slice.array = x.2.array := heq
        have hlt := hshown.valid.allocated
        rcases hrest.place r' hr' with hold | hnew
        · exact hcopy (heq ▸ hold)
        · omega
      · refine List.forall_mem_cons.mpr ⟨?_, fun r' hr' => ?_⟩
        · refine hshown.place.imp_left fun heq => ?_
          rw [heq]
          exact List.mem_cons_self
        · rcases hrest.place r' hr' with hmem | hnew
          · exact .inl (List.mem_cons_of_mem _ hmem)
          · exact .inr (Nat.le_trans hlen hnew)

end Loop

/-! ## Loops over a slice of structs -/

/-- Arrays of structs, and the arrays that the slices of the structs look into. -/
structure Heap (ρ α : Type) where
  records : Arrays (Record ρ)
  inner : Arrays α

namespace Heap

variable (m : Heap ρ α) (sel : ρ → Bool) (act : SliceEdit α) (s : Slice)

/-- What a slice of structs shows. -/
def shows : List (ρ × List α) := (m.records.read s).map (·.value m.inner)

/-- `for i := range s { … s[i] … }` -/
def rangeIndex : Heap ρ α :=
  let x := editAll sel act m.inner (m.records.read s)
  { records := m.records.write s x.2, inner := x.1 }

/-- `for _, r := range s { … r …; t = append(t, r) }`, with `t` nil before. -/
def rangeCopy : Heap ρ α × Slice :=
  let x := editAll sel act m.inner (m.records.read s)
  ({ records := m.records.concat x.2, inner := x.1 }, ⟨m.records.length, x.2.length⟩)

/-- No two of the slices look into the same array, and no two of their structs do. -/
structure Apart (ss : List Slice) : Prop where
  valid : ∀ s ∈ ss, m.records.Valid s
  arrays : ∀ s ∈ ss, ∀ t ∈ ss, s.array = t.array → s = t
  separate : ∀ s ∈ ss, Separate m.inner (m.records.read s)
  disjoint : ∀ s ∈ ss, ∀ t ∈ ss, s ≠ t → ∀ r ∈ m.records.read s,
    r.slice.array ∉ (m.records.read t).map (·.slice.array)

/-- The slice and those of its structs are there. -/
structure Holds (t : Slice) : Prop where
  valid : m.records.Valid t
  structs : ∀ r ∈ m.records.read t, m.inner.Valid r.slice

/-- The structs of the slice look into other arrays than those of `s`. -/
structure Beside (t : Slice) : Prop where
  holds : m.Holds t
  array : t.array ≠ s.array
  disjoint : ∀ r ∈ m.records.read t, r.slice.array ∉ (m.records.read s).map (·.slice.array)

variable {m sel act s} {t : Slice} {ss : List Slice} {after through : List α → List α}

theorem Apart.holds (hm : m.Apart ss) (ht : t ∈ ss) : m.Holds t := ⟨hm.valid t ht, (hm.separate t ht).valid⟩

theorem Apart.mono (hm : m.Apart ss) {ts : List Slice} (hts : ∀ t ∈ ts, t ∈ ss) : m.Apart ts where
  valid t ht := hm.valid t (hts t ht)
  arrays t ht u hu := hm.arrays t (hts t ht) u (hts u hu)
  separate t ht := hm.separate t (hts t ht)
  disjoint t ht u hu := hm.disjoint t (hts t ht) u (hts u hu)

theorem Apart.beside (hm : m.Apart ss) (hs : s ∈ ss) (ht : t ∈ ss) (hne : t ≠ s) : m.Beside s t where
  holds := hm.holds ht
  array heq := hne (hm.arrays t ht s hs heq)
  disjoint := hm.disjoint t ht s hs hne

section RangeIndex

variable (hact : act.Shows after through) (hm : m.Apart ss) (hs : s ∈ ss)
include hact hm hs

theorem shows_rangeIndex_self : (m.rangeIndex sel act s).shows s = (m.shows s).map (onSelected sel after) := by
  have hlen : (editAll sel act m.inner (m.records.read s)).2.length = s.len :=
    length_editAll.trans (hm.valid s hs).length_read
  rw [shows, rangeIndex, Arrays.read_write (hm.valid s hs) hlen,
    (editedAll_editAll hact (hm.separate s hs)).copies, shows, List.map_map]
  rfl

theorem shows_rangeIndex_of_beside (ht : m.Beside s t) : (m.rangeIndex sel act s).shows t = m.shows t := by
  rw [shows, rangeIndex, Arrays.read_write_of_ne ht.array, shows]
  refine List.map_congr_left fun r hr => ?_
  have hedited : EditedAll sel _ _ _ _ _ := editedAll_editAll hact (hm.separate s hs)
  rw [Record.value, hedited.others _ (ht.holds.structs r hr) (ht.disjoint r hr), Record.value]

theorem holds_rangeIndex_of_beside (ht : m.Beside s t) : (m.rangeIndex sel act s).Holds t := by
  have hlen : (editAll sel act m.inner (m.records.read s)).2.length = s.len :=
    length_editAll.trans (hm.valid s hs).length_read
  refine ⟨ht.holds.valid.write (hm.valid s hs) hlen, fun r hr => ?_⟩
  rw [rangeIndex, Arrays.read_write_of_ne ht.array] at hr
  exact (editedAll_editAll hact (hm.separate s hs)).keeps _ (ht.holds.structs r hr)

theorem apart_rangeIndex : (m.rangeIndex sel act s).Apart ss := by
  have hlen : (editAll sel act m.inner (m.records.read s)).2.length = s.len :=
    length_editAll.trans (hm.valid s hs).length_read
  have hedited : EditedAll sel _ _ _ _ _ := editedAll_editAll hact (hm.separate s hs)
  have hself : (m.rangeIndex sel act s).records.read s = (editAll sel act m.inner (m.records.read s)).2 :=
    Arrays.read_write (hm.valid s hs) hlen
  have hother (t : Slice) (ht : t ∈ ss) (hne : t ≠ s) :
      (m.rangeIndex sel act s).records.read t = m.records.read t :=
    Arrays.read_write_of_ne fun heq => hne (hm.arrays t ht s hs heq)
  -- the new slices are in the old places, or in new arrays
  have hnew (t : Slice) (ht : t ∈ ss) (hne : t ≠ s) (r : Record ρ)
      (hr : r ∈ (editAll sel act m.inner (m.records.read s)).2) (r' : Record ρ) (hr' : r' ∈ m.records.read t) :
      r.slice.array ≠ r'.slice.array := by
    intro heq
    rcases hedited.place r hr with hold | hfresh
    · exact hm.disjoint t ht s hs hne r' hr' (heq ▸ hold)
    · have := ((hm.separate t ht).valid r' hr').allocated
      omega
  refine ⟨fun t ht => (hm.valid t ht).write (hm.valid s hs) hlen, hm.arrays, fun t ht => ?_,
    fun t ht u hu hne r hr hmem => ?_⟩
  · by_cases hts : t = s
    · rw [hts, hself]
      exact hedited.separate
    · rw [hother t ht hts]
      exact ⟨fun r hr => hedited.keeps _ ((hm.separate t ht).valid r hr), (hm.separate t ht).nodup⟩
  · obtain ⟨r', hr', heq⟩ := List.mem_map.mp hmem
    by_cases hts : t = s
    · subst hts
      rw [hself] at hr
      rw [hother u hu (Ne.symm hne)] at hr'
      exact hnew u hu (Ne.symm hne) r hr r' hr' heq.symm
    · rw [hother t ht hts] at hr
      by_cases hus : u = s
      · subst hus
        rw [hself] at hr'
        exact hnew t ht hts r' hr' r hr heq
      · rw [hother u hu hus] at hr'
        exact hm.disjoint t ht u hu hne r hr (List.mem_map.mpr ⟨r', hr', heq⟩)

end RangeIndex

theorem read_rangeCopy (ht : m.records.Valid t) :
    (m.rangeCopy sel act s).1.records.read t = m.records.read t := by
  rw [rangeCopy, Arrays.read, Arrays.array, List.concat_eq_append, List.getD_append _ _ _ _ ht.allocated]
  rfl

theorem read_rangeCopy_new : (m.rangeCopy sel act s).1.records.read (m.rangeCopy sel act s).2 =
    (editAll sel act m.inner (m.records.read s)).2 := by
  rw [rangeCopy, Arrays.read, Arrays.array, List.concat_eq_append,
    List.getD_append_right _ _ _ _ (Nat.le_refl _), Nat.sub_self, List.getD_cons_zero]
  exact List.take_length

section RangeCopy

variable (hact : act.Shows after through) (hm : m.Apart ss) (hs : s ∈ ss)
include hact hm hs

/-- The loop's own slice. -/
theorem shows_rangeCopy_new : (m.rangeCopy sel act s).1.shows (m.rangeCopy sel act s).2 =
    (m.shows s).map (onSelected sel after) := by
  rw [shows, read_rangeCopy_new]
  show List.map (Record.value (editAll sel act m.inner (m.records.read s)).1) _ = _
  rw [(editedAll_editAll hact (hm.separate s hs)).copies, shows, List.map_map]
  rfl

/-- The slice it ranges over. -/
theorem shows_rangeCopy_self :
    (m.rangeCopy sel act s).1.shows s = (m.shows s).map (onSelected sel through) := by
  rw [shows, read_rangeCopy (hm.valid s hs)]
  show List.map (Record.value (editAll sel act m.inner (m.records.read s)).1) _ = _
  rw [(editedAll_editAll hact (hm.separate s hs)).originals, shows, List.map_map]
  rfl

theorem shows_rangeCopy_of_beside (ht : m.Beside s t) : (m.rangeCopy sel act s).1.shows t = m.shows t := by
  rw [shows, read_rangeCopy ht.holds.valid, shows]
  refine List.map_congr_left fun r hr => ?_
  have hedited : EditedAll sel _ _ _ _ _ := editedAll_editAll hact (hm.separate s hs)
  show (r.fields, (editAll sel act m.inner (m.records.read s)).1.read r.slice) = _
  rw [hedited.others _ (ht.holds.structs r hr) (ht.disjoint r hr), Record.value]

theorem apart_rangeCopy : (m.rangeCopy sel act s).1.Apart ss := by
  have hedited : EditedAll sel _ _ _ _ _ := editedAll_editAll hact (hm.separate s hs)
  have hread (t : Slice) (ht : t ∈ ss) : (m.rangeCopy sel act s).1.records.read t = m.records.read t :=
    read_rangeCopy (hm.valid t ht)
  refine ⟨fun t ht => ?_, hm.arrays, fun t ht => ?_, fun t ht u hu hne r hr => ?_⟩
  · exact (hm.valid t ht).concat _
  · rw [hread t ht]
    exact ⟨fun r hr => hedited.keeps _ ((hm.separate t ht).valid r hr), (hm.separate t ht).nodup⟩
  · rw [hread t ht] at hr
    rw [hread u hu]
    exact hm.disjoint t ht u hu hne r hr

/-- The new slice and one that was there. -/
theorem beside_rangeCopy (ht : t ∈ ss) (hne : t ≠ s) :
    (m.rangeCopy sel act s).1.Beside t (m.rangeCopy sel act s).2 := by
  have hedited : EditedAll sel _ _ _ _ _ := editedAll_editAll hact (hm.separate s hs)
  have hnew : (m.rangeCopy sel act s).1.records.read (m.rangeCopy sel act s).2 = _ := read_rangeCopy_new
  refine ⟨⟨⟨?_, ?_⟩, ?_⟩, ?_, ?_⟩
  · simp [rangeCopy]
  · simp [rangeCopy, Arrays.array]
  · rw [hnew]
    exact hedited.separate.valid
  · have := (hm.valid t ht).allocated
    show m.records.length ≠ t.array
    omega
  · rw [hnew, read_rangeCopy (hm.valid t ht)]
    intro r hr hmem
    rcases hedited.place r hr with hold | hfresh
    · obtain ⟨r', hr', heq⟩ := List.mem_map.mp hold
      exact hm.disjoint s hs t ht (Ne.symm hne) r' hr' (heq ▸ hmem)
    · obtain ⟨r', hr', heq⟩ := List.mem_map.mp hmem
      have := ((hm.separate t ht).valid r' hr').allocated
      omega

end RangeCopy

/-! ### New structs -/

section Alloc

/-- Structs whose slices look into the arrays from the `n`-th on. -/
def newRecords : Nat → List (ρ × List α) → List (Record ρ)
  | _, [] => []
  | n, (fields, xs) :: rest => ⟨fields, ⟨n, xs.length⟩⟩ :: newRecords (n + 1) rest

/-- A slice of new structs. -/
def alloc (m : Heap ρ α) (xs : List (ρ × List α)) : Heap ρ α × Slice :=
  ({ records := m.records.concat (newRecords m.inner.length xs), inner := m.inner ++ xs.map (·.2) },
    ⟨m.records.length, xs.length⟩)

theorem length_newRecords (n : Nat) (xs : List (ρ × List α)) : (newRecords n xs).length = xs.length := by
  induction xs generalizing n with
  | nil => rfl
  | cons x xs ih => exact congrArg (· + 1) (ih (n + 1))

theorem arrays_newRecords (n : Nat) (xs : List (ρ × List α)) :
    (newRecords n xs).map (·.slice.array) = List.range' n xs.length := by
  induction xs generalizing n with
  | nil => rfl
  | cons x xs ih => exact congrArg (n :: ·) (ih (n + 1))

theorem value_newRecords (h : Arrays α) (xs : List (ρ × List α)) :
    (newRecords h.length xs).map (·.value (h ++ xs.map (·.2))) = xs := by
  induction xs generalizing h with
  | nil => rfl
  | cons x xs ih =>
      have hrest := ih (h ++ [x.2])
      rw [List.length_append, List.length_singleton, List.append_assoc, List.singleton_append] at hrest
      refine congrArg₂ List.cons (Prod.ext rfl ?_) hrest
      simp [Record.value, Arrays.read, Arrays.array]

theorem valid_newRecords (h : Arrays α) (xs : List (ρ × List α)) :
    ∀ r ∈ newRecords h.length xs, Arrays.Valid (h ++ xs.map (·.2)) r.slice := by
  induction xs generalizing h with
  | nil => exact nofun
  | cons x xs ih =>
      have hrest := ih (h ++ [x.2])
      rw [List.length_append, List.length_singleton, List.append_assoc, List.singleton_append] at hrest
      refine List.forall_mem_cons.mpr ⟨⟨?_, ?_⟩, hrest⟩
      · simp
      · simp [Arrays.array]

variable {xs : List (ρ × List α)}

theorem read_alloc (ht : m.records.Valid t) : (m.alloc xs).1.records.read t = m.records.read t := by
  rw [alloc, Arrays.read, Arrays.array, List.concat_eq_append, List.getD_append _ _ _ _ ht.allocated]
  rfl

theorem read_alloc_new : (m.alloc xs).1.records.read (m.alloc xs).2 = newRecords m.inner.length xs := by
  rw [alloc, Arrays.read, Arrays.array, List.concat_eq_append,
    List.getD_append_right _ _ _ _ (Nat.le_refl _), Nat.sub_self, List.getD_cons_zero]
  exact List.take_of_length_le (Nat.le_of_eq (length_newRecords _ _))

theorem shows_alloc_new (xs : List (ρ × List α)) : (m.alloc xs).1.shows (m.alloc xs).2 = xs := by
  rw [shows, read_alloc_new]
  exact value_newRecords m.inner xs

theorem shows_alloc_of_holds (ht : m.Holds t) : (m.alloc xs).1.shows t = m.shows t := by
  rw [shows, read_alloc ht.valid, shows]
  refine List.map_congr_left fun r hr => ?_
  show (r.fields, (Arrays.array (m.inner ++ xs.map (·.2)) r.slice).take r.slice.len) = _
  rw [Arrays.array, List.getD_append _ _ _ _ (ht.structs r hr).allocated]
  rfl

theorem holds_alloc (ht : m.Holds t) : (m.alloc xs).1.Holds t := by
  refine ⟨ht.valid.concat _, fun r hr => ?_⟩
  rw [read_alloc ht.valid] at hr
  exact (ht.structs r hr).append_arrays _

/-- The new slice and one that was there. -/
theorem beside_alloc (hs : m.Holds s) : (m.alloc xs).1.Beside s (m.alloc xs).2 := by
  refine ⟨⟨⟨?_, ?_⟩, ?_⟩, ?_, fun r hr hmem => ?_⟩
  · simp [alloc]
  · simp [alloc, Arrays.array, length_newRecords]
  · rw [read_alloc_new]
    exact valid_newRecords m.inner xs
  · have := hs.valid.allocated
    show m.records.length ≠ s.array
    omega
  · rw [read_alloc_new] at hr
    rw [read_alloc hs.valid] at hmem
    obtain ⟨r', hr', heq⟩ := List.mem_map.mp hmem
    have hnew : r.slice.array ∈ List.range' m.inner.length xs.length :=
      arrays_newRecords m.inner.length xs ▸ List.mem_map_of_mem hr
    have hold := (hs.structs r' hr').allocated
    have hle := (List.mem_range'_1.mp hnew).1
    have heq : r'.slice.array = r.slice.array := heq
    omega

theorem apart_alloc (hm : m.Apart ss) : (m.alloc xs).1.Apart ss := by
  have hread (t : Slice) (ht : t ∈ ss) : (m.alloc xs).1.records.read t = m.records.read t :=
    read_alloc (hm.valid t ht)
  refine ⟨fun t ht => (holds_alloc (hm.holds ht)).valid, hm.arrays, fun t ht => ?_,
    fun t ht u hu hne r hr => ?_⟩
  · rw [hread t ht]
    exact ⟨fun r hr => ((hm.separate t ht).valid r hr).append_arrays _, (hm.separate t ht).nodup⟩
  · rw [hread t ht] at hr
    rw [hread u hu]
    exact hm.disjoint t ht u hu hne r hr

/-- The new slice is apart from those that were there. -/
theorem apart_alloc_new (hm : m.Apart ss) : (m.alloc xs).1.Apart ((m.alloc xs).2 :: ss) := by
  have hold : (m.alloc xs).1.Apart ss := apart_alloc hm
  have hbeside (t : Slice) (ht : t ∈ ss) : (m.alloc xs).1.Beside t (m.alloc xs).2 := beside_alloc (hm.holds ht)
  refine ⟨List.forall_mem_cons.mpr ⟨?_, hold.valid⟩, ?_, List.forall_mem_cons.mpr ⟨?_, hold.separate⟩, ?_⟩
  · exact ⟨by simp [alloc], by simp [alloc, Arrays.array, length_newRecords]⟩
  · rintro t (_ | ⟨_, ht⟩) u (_ | ⟨_, hu⟩) heq
    · rfl
    · exact absurd heq (hbeside u hu).array
    · exact absurd heq.symm (hbeside t ht).array
    · exact hm.arrays t ht u hu heq
  · rw [read_alloc_new]
    refine ⟨valid_newRecords m.inner xs, ?_⟩
    rw [arrays_newRecords]
    exact List.nodup_range'
  · rintro t (_ | ⟨_, ht⟩) u (_ | ⟨_, hu⟩) hne r hr hmem
    · exact hne rfl
    · exact (hbeside u hu).disjoint r hr hmem
    · obtain ⟨r', hr', heq⟩ := List.mem_map.mp hmem
      exact (hbeside t ht).disjoint r' hr' (List.mem_map.mpr ⟨r, hr, heq.symm⟩)
    · exact hold.disjoint t ht u hu hne r hr hmem

end Alloc

/-! ### Storing several lists -/

section AllocAll

/-- A slice of new structs for each list. -/
def allocAll : Heap ρ α → List (List (ρ × List α)) → Heap ρ α × List Slice
  | m, [] => (m, [])
  | m, xs :: xss =>
    let (m, s) := m.alloc xs
    let (m, ss) := allocAll m xss
    (m, s :: ss)

/-- The slices show the lists, apart from each other and from those there were. -/
theorem allocAll_spec {ss : List Slice} (xss : List (List (ρ × List α))) (hm : m.Apart ss) :
    (m.allocAll xss).2.map (m.allocAll xss).1.shows = xss ∧
      (∀ t, m.Holds t → (m.allocAll xss).1.shows t = m.shows t) ∧
      (m.allocAll xss).1.Apart ((m.allocAll xss).2 ++ ss) ∧
      (m.allocAll xss).2.Nodup ∧ ∀ s ∈ (m.allocAll xss).2, m.records.length ≤ s.array := by
  induction xss generalizing m ss with
  | nil => exact ⟨rfl, fun _ _ => rfl, hm, List.nodup_nil, nofun⟩
  | cons xs xss ih =>
      have hfirst : (m.alloc xs).1.Apart ((m.alloc xs).2 :: ss) := apart_alloc_new hm
      obtain ⟨hshows, hothers, hapart, hnodup, hfresh⟩ := ih hfirst
      have hlen : (m.alloc xs).1.records.length = m.records.length + 1 := List.length_concat ..
      refine ⟨?_, fun t ht => ?_, ?_, ?_, ?_⟩
      · refine congrArg₂ List.cons ?_ hshows
        exact (hothers _ (hfirst.holds List.mem_cons_self)).trans (shows_alloc_new xs)
      · exact (hothers t (holds_alloc ht)).trans (shows_alloc_of_holds ht)
      · refine hapart.mono fun t ht => ?_
        rcases List.mem_cons.mp ht with rfl | ht
        · exact List.mem_append_right _ List.mem_cons_self
        · rcases List.mem_append.mp ht with ht | ht
          · exact List.mem_append_left _ ht
          · exact List.mem_append_right _ (List.mem_cons_of_mem _ ht)
      · refine List.nodup_cons.mpr ⟨fun hmem => ?_, hnodup⟩
        have hle : (m.alloc xs).1.records.length ≤ m.records.length := hfresh _ hmem
        omega
      · refine List.forall_mem_cons.mpr ⟨Nat.le_refl _, fun s hs => ?_⟩
        have hle := hfresh s hs
        omega

end AllocAll

end Heap

end Go
