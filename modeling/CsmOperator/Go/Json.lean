import Mathlib.Data.List.Basic

/-!
# `json.Unmarshal` into a value that is already there

A value of Go as JSON shows it. Reading a text into a populated value keeps what the text does not mention:
structures field by field and maps key by key, where the value of a key is read afresh; a slice is read item
by item into the old ones and cut to the new length. What is found under a path afterwards is `nodeAt_onto`.
-/

namespace Go

inductive Json where
  | scalar (text : String)
  | struct (fields : List (String × Json))
  | map (entries : List (String × Json))
  | slice (items : List Json)

namespace Json

mutual

/-- The value `new`, as text, read into the value `old`. -/
def onto : Json → Json → Json
  | scalar text, _ => scalar text
  | struct fields, .struct olds =>
    struct (olds.map (fun old => (old.1, ontoField fields old.1 old.2)) ++
      fields.filter fun field => (olds.lookup field.1).isNone)
  | struct fields, _ => struct fields
  | map entries, .map olds => map (entries ++ olds.filter fun old => (entries.lookup old.1).isNone)
  | map entries, _ => map entries
  | slice items, .slice olds => slice (ontoItems items olds)
  | slice items, _ => slice items

/-- The field `k`, as far as there is one, read into its old value. -/
def ontoField : List (String × Json) → String → Json → Json
  | [], _, old => old
  | (name, value) :: fields, k, old => if k = name then onto value old else ontoField fields k old

def ontoItems : List Json → List Json → List Json
  | [], _ => []
  | item :: items, [] => item :: items
  | item :: items, old :: olds => onto item old :: ontoItems items olds

end

/-! ## Paths -/

inductive Step where
  | field (name : String)
  | key (name : String)
  | index (i : Nat)
  deriving DecidableEq, Repr

/-- What a value is, apart from what it contains. -/
inductive Node where
  | scalar (text : String)
  | struct
  | map
  | slice (length : Nat)
  deriving DecidableEq, Repr

def node : Json → Node
  | scalar text => .scalar text
  | struct _ => .struct
  | map _ => .map
  | slice items => .slice items.length

def child : Json → Step → Option Json
  | struct fields, .field k => fields.lookup k
  | map entries, .key k => entries.lookup k
  | slice items, .index i => items[i]?
  | _, _ => none

def nodeAt : Json → List Step → Option Node
  | v, [] => some v.node
  | v, s :: path => (v.child s).bind (nodeAt · path)

/-- A path that the text does not set and that does not outlive it: it goes on behind a scalar, below a key
of a map that is read afresh, or beyond the end of a slice. -/
def drops : Json → List Step → Bool
  | _, [] => false
  | struct fields, .field k :: path => ((fields.lookup k).map (drops · path)).getD false
  | map entries, .key k :: _ => (entries.lookup k).isSome
  | slice items, .index i :: path => (items[i]?.map (drops · path)).getD true
  | _, _ => true

/-! ## One step -/

section Lists

variable {α : Type}

theorem lookup_map_value (f : String → α → α) (k : String) (xs : List (String × α)) :
    (xs.map fun x => (x.1, f x.1 x.2)).lookup k = (xs.lookup k).map (f k) := by
  induction xs with
  | nil => rfl
  | cons x xs ih =>
      rw [List.map_cons, List.lookup_cons, List.lookup_cons, ih]
      cases h : k == x.1 with
      | true => rw [beq_iff_eq.mp h]; rfl
      | false => rfl

theorem lookup_filter_key (p : String → Bool) (k : String) (xs : List (String × α)) :
    (xs.filter fun x => p x.1).lookup k = if p k then xs.lookup k else none := by
  induction xs with
  | nil => simp
  | cons x xs ih =>
      rw [List.filter_cons, List.lookup_cons]
      cases h : k == x.1 with
      | true =>
          rw [beq_iff_eq.mp h] at ih ⊢
          split
          · rw [List.lookup_cons, beq_self_eq_true]
          · rwa [if_neg ‹_›] at ih
      | false =>
          split
          · rw [List.lookup_cons, h]
            exact ih
          · exact ih

end Lists

theorem ontoField_eq (fields : List (String × Json)) (k : String) (old : Json) :
    ontoField fields k old = ((fields.lookup k).map (onto · old)).getD old := by
  induction fields with
  | nil => rfl
  | cons f fields ih =>
      rw [ontoField, List.lookup_cons]
      by_cases h : k = f.1
      · rw [if_pos h, beq_iff_eq.mpr h]
        rfl
      · rw [if_neg h, beq_false_of_ne h]
        exact ih

theorem lookup_onto_struct (fields olds : List (String × Json)) (k : String) :
    (olds.map (fun old => (old.1, ontoField fields old.1 old.2)) ++
        fields.filter fun field => (olds.lookup field.1).isNone).lookup k =
      ((olds.lookup k).map fun old => ((fields.lookup k).map (onto · old)).getD old).or (fields.lookup k) := by
  rw [List.lookup_append, lookup_map_value (ontoField fields), lookup_filter_key fun k => (olds.lookup k).isNone]
  cases olds.lookup k with
  | some old => rw [Option.map_some, Option.map_some, Option.some_or, Option.some_or, ontoField_eq]
  | none => rfl

theorem lookup_onto_map (entries olds : List (String × Json)) (k : String) :
    (entries ++ olds.filter fun old => (entries.lookup old.1).isNone).lookup k =
      (entries.lookup k).or (olds.lookup k) := by
  rw [List.lookup_append, lookup_filter_key fun k => (entries.lookup k).isNone]
  cases entries.lookup k with
  | some entry => rfl
  | none => rfl

theorem length_ontoItems (items olds : List Json) : (ontoItems items olds).length = items.length := by
  induction items generalizing olds with
  | nil => rfl
  | cons item items ih =>
      cases olds with
      | nil => rfl
      | cons old olds => rw [ontoItems, List.length_cons, List.length_cons, ih]

theorem getElem?_ontoItems (items olds : List Json) (i : Nat) :
    (ontoItems items olds)[i]? = items[i]?.map fun item => (olds[i]?.map (onto item ·)).getD item := by
  induction items generalizing olds i with
  | nil => rfl
  | cons item items ih =>
      cases olds with
      | nil =>
          rw [ontoItems]
          cases (item :: items)[i]? <;> rfl
      | cons old olds =>
          cases i with
          | zero => rfl
          | succ i => exact ih olds i

/-! ## Whole paths -/

theorem nodeAt_cons (v : Json) (s : Step) (path : List Step) :
    v.nodeAt (s :: path) = (v.child s).bind (·.nodeAt path) := rfl

/-- After reading `new` into `old`, a path has what `new` sets there; if it sets nothing, what `old` had, unless
the path is dropped. -/
theorem nodeAt_onto (new old : Json) (path : List Step) :
    (new.onto old).nodeAt path =
      (new.nodeAt path).or (if new.drops path then none else old.nodeAt path) := by
  induction path generalizing new old with
  | nil =>
      cases new <;> cases old
      all_goals try rfl
      rw [onto, nodeAt, node, length_ontoItems]
      rfl
  | cons s path ih =>
      cases new with
      | scalar text => cases s <;> rfl
      | struct fields =>
          cases s with
          | field k =>
              cases old with
              | struct olds =>
                  rw [onto, nodeAt_cons, nodeAt_cons, nodeAt_cons, child, lookup_onto_struct, drops, child, child]
                  cases fields.lookup k with
                  | none => cases olds.lookup k <;> rfl
                  | some value =>
                      cases olds.lookup k with
                      | none => simp
                      | some old => exact ih value old
              | _ => simp [onto, nodeAt_cons, child]
          | _ => cases old <;> rfl
      | map entries =>
          cases s with
          | key k =>
              cases old with
              | map olds =>
                  rw [onto, nodeAt_cons, nodeAt_cons, nodeAt_cons, child, lookup_onto_map, drops, child, child]
                  cases entries.lookup k with
                  | none => cases olds.lookup k <;> rfl
                  | some value => simp
              | _ => simp [onto, nodeAt_cons, child]
          | _ => cases old <;> rfl
      | slice items =>
          cases s with
          | index i =>
              cases old with
              | slice olds =>
                  rw [onto, nodeAt_cons, nodeAt_cons, nodeAt_cons, child, getElem?_ontoItems, drops, child, child]
                  cases items[i]? with
                  | none => rfl
                  | some value =>
                      cases olds[i]? with
                      | none => simp
                      | some old => exact ih value old
              | _ => simp [onto, nodeAt_cons, child]
          | _ => cases old <;> rfl

end Json

end Go
