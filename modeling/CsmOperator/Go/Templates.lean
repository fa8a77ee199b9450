import CsmOperator.Go.Replace
import Mathlib.Data.List.Nodup

/-!
# Templates with placeholders

A template is a text with placeholders `<name>` in it. It is filled in by one `strings.ReplaceAll` after
the other, each on the whole text. When neither the text nor the values contain a `<`, that is the same as
replacing all placeholders at once, and the order of the calls makes no difference.
-/

namespace Go

def placeholder (name : String) : String := "<" ++ name ++ ">"

theorem toList_placeholder (name : String) : (placeholder name).toList = '<' :: (name.toList ++ ['>']) := by
  simp [placeholder]

/-- What a template consists of. -/
inductive Piece where
  | text (s : String) (free : '<' ∉ s.toList)
  | token (name : String) (free : '<' ∉ name.toList ∧ '>' ∉ name.toList)

namespace Piece

def render : Piece → String
  | text s _ => s
  | token name _ => placeholder name

/-- A token for which there is a value becomes that value. -/
def fill (values : String → Option String) : Piece → String
  | text s _ => s
  | token name _ => (values name).getD (placeholder name)

/-- The token `<name>` becomes text. -/
def assign (name value : String) (free : '<' ∉ value.toList) : Piece → Piece
  | text s h => text s h
  | token other h => if other = name then text value free else token other h

end Piece

namespace Template

variable (t : List Piece)

def render : String := String.ofList (t.flatMap (·.render.toList))

def fill (values : String → Option String) : String := String.ofList (t.flatMap (·.fill values |>.toList))

@[simp] theorem toList_render_nil : (render []).toList = [] := by simp [render]

@[simp] theorem toList_render_cons (p : Piece) (t : List Piece) :
    (render (p :: t)).toList = p.render.toList ++ (render t).toList := by simp [render]

@[simp] theorem toList_fill_nil (values : String → Option String) : (fill [] values).toList = [] := by
  simp [fill]

@[simp] theorem toList_fill_cons (p : Piece) (t : List Piece) (values : String → Option String) :
    (fill (p :: t) values).toList = (p.fill values).toList ++ (fill t values).toList := by simp [fill]

end Template

/-! ## One call -/

/-- A separator cuts a text in one way only when the parts before it do not contain it. -/
theorem append_cons_inj_of_not_mem {c : Char} {a a' b b' : List Char} (ha : c ∉ a) (ha' : c ∉ a')
    (h : a ++ c :: b = a' ++ c :: b') : a = a' := by
  rcases List.append_eq_append_iff.mp h with ⟨d, rfl, hd⟩ | ⟨d, rfl, hd⟩
  all_goals
    cases d with
    | nil => simp
    | cons x d =>
        obtain ⟨rfl, -⟩ := List.cons.inj hd
        simp at ha ha'

/-- A placeholder is no beginning of a text that starts with another one. -/
theorem eq_of_placeholder_isPrefix {name other : String} {rest : List Char} (hname : '>' ∉ name.toList)
    (hother : '>' ∉ other.toList) (h : (placeholder name).toList <+: (placeholder other).toList ++ rest) :
    other = name := by
  obtain ⟨tail, htail⟩ := h
  simp only [toList_placeholder, List.cons_append, List.append_assoc, List.nil_append, List.cons.injEq,
    true_and] at htail
  exact String.toList_injective (append_cons_inj_of_not_mem hother hname htail.symm)

section OneCall

variable {name value : String}

/-- One piece is passed over. -/
theorem replaceAllChars_piece (hname : '>' ∉ name.toList) (hvalue : '<' ∉ value.toList) (p : Piece)
    (cs : List Char) :
    replaceAllChars (placeholder name).toList value.toList (p.render.toList ++ cs) =
      (p.assign name value hvalue).render.toList ++
        replaceAllChars (placeholder name).toList value.toList cs := by
  have hold : (placeholder name).toList ≠ [] := by simp [toList_placeholder]
  cases p with
  | text s free =>
      rw [toList_placeholder]
      exact replaceAllChars_append_of_not_mem free cs
  | token other free =>
      by_cases heq : other = name
      · subst heq
        rw [Piece.assign, if_pos rfl]
        exact replaceAllChars_append_self hold cs
      · -- the other placeholder is not an occurrence, and after its `<` none begins in it
        have hne : ¬(placeholder name).toList <+: '<' :: (other.toList ++ ['>'] ++ cs) := by
          rw [← List.cons_append, ← toList_placeholder]
          exact fun h => heq (eq_of_placeholder_isPrefix hname free.2 h)
        have hrest : '<' ∉ other.toList ++ ['>'] := by simp [free.1]
        rw [Piece.assign, if_neg heq, Piece.render, toList_placeholder other, List.cons_append,
          replaceAllChars_cons hold hne, toList_placeholder, replaceAllChars_append_of_not_mem hrest,
          List.cons_append]

theorem replaceAll_render (hname : '>' ∉ name.toList) (hvalue : '<' ∉ value.toList) (t : List Piece) :
    replaceAll (Template.render t) (placeholder name) value =
      Template.render (t.map (·.assign name value hvalue)) := by
  apply String.toList_injective
  rw [toList_replaceAll]
  induction t with
  | nil => rw [List.map_nil, Template.toList_render_nil, replaceAllChars_nil]
  | cons p t ih =>
      rw [Template.toList_render_cons, replaceAllChars_piece hname hvalue, ih, List.map_cons,
        Template.toList_render_cons]

end OneCall

/-! ## All calls -/

/-- What is substituted for the placeholder `<name>`. -/
structure Replacement where
  name : String
  value : String
  deriving DecidableEq, Repr

namespace Replacement

variable (rs : List Replacement)

/-- `s = strings.ReplaceAll(s, "<name>", value)` for one after the other. -/
def applyAll (s : String) : String := rs.foldl (fun s r => replaceAll s (placeholder r.name) r.value) s

def valueOf (name : String) : Option String := (rs.find? (·.name == name)).map (·.value)

/-- Names and values do not disturb each other. -/
structure WellFormed : Prop where
  nodup : (rs.map (·.name)).Nodup
  names : ∀ r ∈ rs, '>' ∉ r.name.toList
  values : ∀ r ∈ rs, '<' ∉ r.value.toList

variable {rs}

theorem applyAll_append (rs rs' : List Replacement) (s : String) :
    applyAll (rs ++ rs') s = applyAll rs' (applyAll rs s) :=
  List.foldl_append

theorem valueOf_cons (r : Replacement) (name : String) :
    valueOf (r :: rs) name = if name = r.name then some r.value else valueOf rs name := by
  rw [valueOf, List.find?_cons]
  by_cases h : r.name = name
  · rw [beq_iff_eq.mpr h, if_pos h.symm]
    rfl
  · rw [beq_false_of_ne h, if_neg (Ne.symm h)]
    rfl

theorem fill_assign (r : Replacement) (free : '<' ∉ r.value.toList) (p : Piece) :
    (p.assign r.name r.value free).fill (valueOf rs) = p.fill (valueOf (r :: rs)) := by
  cases p with
  | text s h => rfl
  | token name h =>
      rw [Piece.assign, Piece.fill, valueOf_cons]
      split <;> rfl

/-- The chain of calls replaces all placeholders at once. -/
theorem applyAll_render (hnames : ∀ r ∈ rs, '>' ∉ r.name.toList) (hvalues : ∀ r ∈ rs, '<' ∉ r.value.toList)
    (t : List Piece) : applyAll rs (Template.render t) = Template.fill t (valueOf rs) := by
  induction rs generalizing t with
  | nil =>
      have hfill : ∀ p : Piece, p.fill (valueOf []) = p.render := fun p => by cases p <;> rfl
      simp only [applyAll, List.foldl_nil, Template.render, Template.fill, hfill]
  | cons r rs ih =>
      obtain ⟨hname, hnames⟩ := List.forall_mem_cons.mp hnames
      obtain ⟨hvalue, hvalues⟩ := List.forall_mem_cons.mp hvalues
      rw [applyAll, List.foldl_cons, ← applyAll, replaceAll_render hname hvalue, ih hnames hvalues]
      simp only [Template.fill, List.flatMap_map, fill_assign]

theorem valueOf_eq_some_iff (hnodup : (rs.map (·.name)).Nodup) {name value : String} :
    valueOf rs name = some value ↔ ⟨name, value⟩ ∈ rs := by
  induction rs with
  | nil => simp [valueOf]
  | cons r rs ih =>
      rw [List.map_cons, List.nodup_cons] at hnodup
      rw [valueOf_cons, List.mem_cons]
      split
      next heq =>
        subst heq
        constructor
        · rintro ⟨rfl⟩
          exact .inl rfl
        · rintro (heq | hmem)
          · rw [← heq]
          · exact absurd (List.mem_map_of_mem hmem) hnodup.1
      next hne =>
        rw [ih hnodup.2]
        constructor
        · exact .inr
        · rintro (rfl | hmem)
          · exact absurd rfl hne
          · exact hmem

theorem valueOf_perm {rs' : List Replacement} (h : rs.Perm rs') (hnodup : (rs.map (·.name)).Nodup) :
    valueOf rs' = valueOf rs := by
  funext name
  refine Option.ext fun value => ?_
  rw [valueOf_eq_some_iff hnodup, valueOf_eq_some_iff ((h.map _).nodup hnodup), h.mem_iff]

theorem isSome_valueOf {name : String} : (valueOf rs name).isSome ↔ name ∈ rs.map (·.name) := by
  simp [valueOf]

theorem WellFormed.valueOf_free (h : WellFormed rs) {name value : String} (hv : valueOf rs name = some value) :
    '<' ∉ value.toList :=
  h.values _ ((valueOf_eq_some_iff h.nodup).mp hv)

theorem WellFormed.perm (h : WellFormed rs) {rs' : List Replacement} (hperm : rs.Perm rs') : WellFormed rs' where
  nodup := (hperm.map _).nodup h.nodup
  names r hr := h.names r (hperm.mem_iff.mpr hr)
  values r hr := h.values r (hperm.mem_iff.mpr hr)

/-- The order of the calls does not matter. -/
theorem WellFormed.applyAll_perm (h : WellFormed rs) {rs' : List Replacement} (hperm : rs.Perm rs')
    (t : List Piece) : applyAll rs' (Template.render t) = applyAll rs (Template.render t) := by
  have h' := h.perm hperm
  rw [applyAll_render h'.names h'.values, applyAll_render h.names h.values, valueOf_perm hperm h.nodup]

end Replacement

/-! ## What is left -/

/-- An occurrence begins with its first character. -/
theorem cons_infix_append_iff {c : Char} {l a b : List Char} (h : c ∉ a) : c :: l <:+: a ++ b ↔ c :: l <:+: b := by
  induction a with
  | nil => rfl
  | cons x a ih =>
      rw [List.mem_cons, not_or] at h
      rw [List.cons_append, List.infix_cons_iff, ih h.2, List.cons_prefix_cons]
      exact or_iff_right fun hx => h.1 hx.1

/-- A token that has a value is gone. -/
theorem Template.contains_fill {values : String → Option String}
    (hvalues : ∀ name value, values name = some value → '<' ∉ value.toList) {name : String}
    (hname : '>' ∉ name.toList) (hsome : (values name).isSome) (t : List Piece) :
    contains (Template.fill t values) (placeholder name) = false := by
  rw [← Bool.not_eq_true, contains_iff]
  induction t with
  | nil => simp [toList_placeholder]
  | cons p t ih =>
      rw [Template.toList_fill_cons]
      cases p with
      | text s free =>
          rw [toList_placeholder, Piece.fill, cons_infix_append_iff free, ← toList_placeholder]
          exact ih
      | token other free =>
          rw [Piece.fill]
          cases hother : values other with
          | some value =>
              rw [toList_placeholder, Option.getD_some, cons_infix_append_iff (hvalues other value hother),
                ← toList_placeholder]
              exact ih
          | none =>
              have hrest : '<' ∉ other.toList ++ ['>'] := by simp [free.1]
              rw [Option.getD_none, toList_placeholder other, List.cons_append, List.infix_cons_iff, not_or]
              constructor
              · rw [← List.cons_append, ← toList_placeholder]
                intro h
                rw [eq_of_placeholder_isPrefix hname free.2 h] at hother
                rw [hother] at hsome
                cases hsome
              · rw [toList_placeholder, cons_infix_append_iff hrest, ← toList_placeholder]
                exact ih

end Go
