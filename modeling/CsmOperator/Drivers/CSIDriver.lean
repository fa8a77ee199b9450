import CsmOperator.Drivers.Rendering
import Mathlib.Data.List.TakeWhile

/-!
# The CSI driver object: `GetCSIDriver` and the case `CSIDriverSpec`

The storage capacity of the custom resource gets into the object by replacing the word `false` in the text of
the template, wherever it stands.
-/

namespace CsmOperator

open Go

/-! ## Templates -/

/-- A line of a manifest: what it says, and the comment behind it. -/
structure Line where
  text : String
  note : Option String := none
  text_free : '\n' ∉ text.toList ∧ '#' ∉ text.toList
  note_free : ∀ n ∈ note, '\n' ∉ n.toList

def Line.chars (l : Line) : List Char := l.text.toList ++ (l.note.map fun n => '#' :: n.toList).getD []

/-- A line of the object's `spec`: the field that is to be set, or anything else. -/
inductive SpecLine where
  | storageCapacity (value : Bool) (note : Option String) (note_free : ∀ n ∈ note, '\n' ∉ n.toList)
  | other (line : Line) (isOther : hasPrefix line.text "  storageCapacity:" = false)

namespace SpecLine

def line : SpecLine → Line
  | storageCapacity value note free =>
    ⟨"  storageCapacity: " ++ formatBool value, note, by cases value <;> decide +kernel, free⟩
  | other line _ => line

def set (value : Bool) : SpecLine → SpecLine
  | storageCapacity _ note free => storageCapacity value note free
  | other line isOther => other line isOther

def value? : SpecLine → Option Bool
  | storageCapacity value _ _ => some value
  | other _ _ => none

end SpecLine

/-- The manifest of a CSI driver: everything before `spec:`, and the lines below it. -/
structure CSIDriverTemplate where
  header : List Line
  spec : List SpecLine

namespace CSIDriverTemplate

variable (t : CSIDriverTemplate)

def lines : List Line := t.header ++ ⟨"spec:", none, by decide, nofun⟩ :: t.spec.map (·.line)

def text : String := String.ofList (t.lines.flatMap fun l => l.chars ++ ['\n'])

/-- The object with another storage capacity. -/
def set (value : Bool) : CSIDriverTemplate := { t with spec := t.spec.map (·.set value) }

/-- What the field says, as often as it is there. -/
def values : List Bool := t.spec.filterMap (·.value?)

/-- The lines that are none of the field. -/
def others : List Line := t.header ++ (t.spec.filter (·.value?.isNone)).map (·.line)

end CSIDriverTemplate

/-- A statement about two readings of the lines goes line by line. -/
theorem CSIDriverTemplate.map_lines_eq_iff {t : CSIDriverTemplate} {value : Bool} {f g : String → List Char} :
    t.lines.map (f ·.text) = (t.set value).lines.map (g ·.text) ↔
      (∀ l ∈ t.header, f l.text = g l.text) ∧ f "spec:" = g "spec:" ∧
        ∀ s ∈ t.spec, f s.line.text = g (s.set value).line.text := by
  rw [lines, lines, set, List.map_append, List.map_append, List.map_cons, List.map_cons, List.map_map,
    List.map_map, List.map_map, ← List.map_inj_left, ← List.map_inj_left]
  constructor
  · intro h
    obtain ⟨hheader, htail⟩ := List.append_inj h (by simp)
    obtain ⟨hspec, hlines⟩ := List.cons.inj htail
    exact ⟨hheader, hspec, hlines⟩
  · rintro ⟨hheader, hspec, hlines⟩
    rw [hheader]
    exact congrArg (_ ++ ·) (List.cons_eq_cons.mpr ⟨hspec, hlines⟩)

/-- The lines of a manifest without their comments: what the object is read from. -/
def contentLines (text : String) : List (List Char) := (splitChars '\n' text.toList).map (·.takeWhile (· ≠ '#'))

/-- The drivers that set the field from the custom resource. -/
inductive CapacityDriver where
  | powerstore
  | powerscale
  | powerflex
  | unity
  deriving DecidableEq, Repr

def CapacityDriver.modifyCR (cr : ContainerStorageModule) (yamlString : String) : CapacityDriver → String
  | powerstore => modifyPowerstoreCR cr yamlString .csiDriverSpec
  | powerscale => modifyPowerScaleCR cr yamlString .csiDriverSpec
  | powerflex => modifyPowerflexCR cr yamlString .csiDriverSpec
  | unity => modifyUnityCR cr yamlString .csiDriverSpec

/-! ## Line by line -/

/-- A change of the text that leaves line ends and comment signs in place. -/
structure LineWise (f : List Char → List Char) : Prop where
  nil : f [] = []
  append_cons : ∀ c, c = '\n' ∨ c = '#' → ∀ a b, f (a ++ c :: b) = f a ++ c :: f b
  free : ∀ c, c = '\n' ∨ c = '#' → ∀ cs, c ∉ cs → c ∉ f cs

namespace LineWise

theorem id : LineWise id := ⟨rfl, fun _ _ _ _ => rfl, fun _ _ _ h => h⟩

theorem comp {f g : List Char → List Char} (hf : LineWise f) (hg : LineWise g) : LineWise (f ∘ g) where
  nil := by rw [Function.comp_apply, hg.nil, hf.nil]
  append_cons c hc a b := by
    rw [Function.comp_apply, hg.append_cons c hc, hf.append_cons c hc]
    rfl
  free c hc cs h := hf.free c hc _ (hg.free c hc cs h)

theorem replaceAllChars {old new : List Char} (h : old ≠ [])
    (hold : ∀ c, c = '\n' ∨ c = '#' → c ∉ old) (hnew : ∀ c, c = '\n' ∨ c = '#' → c ∉ new) :
    LineWise (replaceAllChars old new) where
  nil := rfl
  append_cons c hc a b := replaceAllChars_append_cons h (hold c hc) a b
  free c hc _ hcs := not_mem_replaceAllChars h (hnew c hc) hcs

variable {f : List Char → List Char}

theorem takeWhile_chars (hf : LineWise f) (l : Line) : (f l.chars).takeWhile (· ≠ '#') = f l.text.toList := by
  have hfree := hf.free '#' (.inr rfl) _ l.text_free.2
  have hall : ∀ c ∈ f l.text.toList, decide (c ≠ '#') = true := fun c hc =>
    decide_eq_true fun heq => hfree (heq ▸ hc)
  rw [Line.chars]
  cases l.note with
  | none =>
      rw [Option.map_none, Option.getD_none, List.append_nil]
      exact List.takeWhile_eq_self_iff.mpr hall
  | some n =>
      rw [Option.map_some, Option.getD_some, hf.append_cons '#' (.inr rfl), List.takeWhile_append_of_pos hall]
      simp

theorem map_takeWhile_splitChars (hf : LineWise f) (ls : List Line) :
    (splitChars '\n' (f (ls.flatMap fun l => l.chars ++ ['\n']))).map (·.takeWhile (· ≠ '#')) =
      ls.map (fun l => f l.text.toList) ++ [[]] := by
  induction ls with
  | nil =>
      rw [List.flatMap_nil, hf.nil]
      rfl
  | cons l ls ih =>
      have hline : '\n' ∉ l.chars := by
        have hnote := l.note_free
        rw [Line.chars, List.mem_append, not_or]
        refine ⟨l.text_free.1, ?_⟩
        cases hn : l.note with
        | none => exact List.not_mem_nil
        | some n =>
            rw [hn] at hnote
            exact fun hmem => (List.mem_cons.mp hmem).elim (by decide) (hnote n rfl)
      rw [List.flatMap_cons, List.append_assoc, List.singleton_append, hf.append_cons '\n' (.inl rfl),
        splitChars_append (hf.free '\n' (.inl rfl) _ hline), List.map_cons, hf.takeWhile_chars, ih,
        List.map_cons, List.cons_append]

end LineWise

namespace CapacityDriver

/-- The replacement of the word `false`, on characters. -/
def setWord (value : Bool) : List Char → List Char := replaceAllChars "false".toList (formatBool value).toList

/-- PowerFlex also takes out a token. -/
def dropToken : CapacityDriver → List Char → List Char
  | powerflex => replaceAllChars "<X_CSI_QUOTA_ENABLED>".toList []
  | _ => id

variable {cr : ContainerStorageModule} {d : CapacityDriver} {value : Bool} {cs : List Char}

theorem toList_modifyCR (yamlString : String) :
    (d.modifyCR cr yamlString).toList = d.dropToken (setWord (storageCapacity cr) yamlString.toList) := by
  cases d with
  | powerflex =>
      rw [modifyCR, modifyPowerflexCR, toList_replaceAll, toList_replaceAll]
      rfl
  | _ => exact toList_replaceAll ..

theorem setWord_false : setWord false = id := funext (replaceAllChars_same (by decide))

theorem setWord_eq_self_iff : setWord value cs = cs ↔ (value = true → ¬"false".toList <:+: cs) := by
  cases value with
  | false => simp [setWord_false]
  | true =>
      rw [setWord, replaceAllChars_eq_self_iff (by decide) (by decide)]
      simp

theorem dropToken_eq_self_iff :
    d.dropToken cs = cs ↔ (d = powerflex → ¬"<X_CSI_QUOTA_ENABLED>".toList <:+: cs) := by
  cases d with
  | powerflex =>
      rw [dropToken, replaceAllChars_eq_self_iff (by decide) (by decide)]
      simp
  | _ => simp [dropToken]

theorem length_dropToken_le : (d.dropToken cs).length ≤ cs.length := by
  cases d with
  | powerflex => exact length_replaceAllChars_le (by decide) (by decide) cs
  | _ => exact le_rfl

theorem length_setWord_lt (h : setWord value cs ≠ cs) : (setWord value cs).length < cs.length := by
  cases value with
  | false => exact absurd (congrFun setWord_false cs) h
  | true =>
      rw [setWord, Ne, replaceAllChars_eq_self_iff (by decide) (by decide), not_not] at h
      exact length_replaceAllChars_lt (by decide) (by decide) h

/-- Both calls shorten the text where they find something, so one does not undo the other. -/
theorem change_eq_self_iff :
    d.dropToken (setWord value cs) = cs ↔
      (value = true → ¬"false".toList <:+: cs) ∧ (d = powerflex → ¬"<X_CSI_QUOTA_ENABLED>".toList <:+: cs) := by
  rw [← setWord_eq_self_iff, ← dropToken_eq_self_iff]
  constructor
  · intro h
    have hword : setWord value cs = cs := by
      by_contra hne
      have hlt := length_setWord_lt hne
      have hle : (d.dropToken (setWord value cs)).length ≤ (setWord value cs).length := length_dropToken_le
      rw [h] at hle
      omega
    rw [hword] at h
    exact ⟨hword, h⟩
  · rintro ⟨hword, htoken⟩
    rw [hword, htoken]

theorem lineWise_change : LineWise (d.dropToken ∘ setWord value) := by
  have hword : LineWise (setWord value) := by
    refine .replaceAllChars (by decide) ?_ ?_ <;> rintro c (rfl | rfl) <;> cases value <;> decide
  refine .comp ?_ hword
  cases d with
  | powerflex => refine .replaceAllChars (by decide) ?_ ?_ <;> rintro c (rfl | rfl) <;> decide
  | _ => exact .id

/-- The field gets its value, unless it is `true` and has to become `false`. -/
theorem change_storageCapacity (d : CapacityDriver) (value old : Bool) :
    d.dropToken (setWord value ("  storageCapacity: " ++ formatBool old).toList) =
      ("  storageCapacity: " ++ formatBool value).toList ↔ (value = false → old = false) := by
  cases d <;> cases value <;> cases old <;> decide +kernel

/-! ## The rendered object -/

variable (cr d) (t : CSIDriverTemplate)

/-- The object differs from the template at most in the storage capacity, which is that of the custom
resource. Where the field is missing, the API server takes it as `false`. -/
def RendersCapacity : Prop :=
  contentLines (d.modifyCR cr t.text) = contentLines (t.set (storageCapacity cr)).text ∧
    (storageCapacity cr = true → t.values ≠ [])

/-- The template leaves nothing to the replacement but the field. -/
structure Undisturbed : Prop where
  /-- a capacity that is off is off in the template -/
  off : storageCapacity cr = false → ∀ value ∈ t.values, value = false
  /-- a capacity that is on has its field, and the word stands nowhere else -/
  on : storageCapacity cr = true → t.values ≠ [] ∧ ∀ l ∈ t.others, contains l.text "false" = false
  /-- the old token does not occur -/
  token : d = powerflex → ∀ l ∈ t.others, contains l.text "<X_CSI_QUOTA_ENABLED>" = false

variable {cr d t}

theorem contentLines_eq_iff :
    contentLines (d.modifyCR cr t.text) = contentLines (t.set (storageCapacity cr)).text ↔
      (∀ l ∈ t.others, d.dropToken (setWord (storageCapacity cr) l.text.toList) = l.text.toList) ∧
        (storageCapacity cr = false → ∀ value ∈ t.values, value = false) := by
  have hspec : d.dropToken (setWord (storageCapacity cr) "spec:".toList) = "spec:".toList := by
    rw [change_eq_self_iff]
    exact ⟨fun _ => by decide, fun _ => by decide⟩
  have hlines : ∀ s ∈ t.spec,
      d.dropToken (setWord (storageCapacity cr) s.line.text.toList) =
          (s.set (storageCapacity cr)).line.text.toList ↔
        (s.value? = none → d.dropToken (setWord (storageCapacity cr) s.line.text.toList) = s.line.text.toList) ∧
          (storageCapacity cr = false → ∀ value, s.value? = some value → value = false) := by
    rintro (⟨old, note, free⟩ | ⟨line, isOther⟩) -
    · refine (change_storageCapacity d _ old).trans ?_
      simp [SpecLine.value?]
    · simp [SpecLine.value?, SpecLine.set]
  have hleft : contentLines (d.modifyCR cr t.text) =
      t.lines.map (fun l => d.dropToken (setWord (storageCapacity cr) l.text.toList)) ++ [[]] := by
    rw [contentLines, toList_modifyCR, CSIDriverTemplate.text, String.toList_ofList]
    exact lineWise_change.map_takeWhile_splitChars t.lines
  have hright : contentLines (t.set (storageCapacity cr)).text =
      (t.set (storageCapacity cr)).lines.map (·.text.toList) ++ [[]] := by
    rw [contentLines, CSIDriverTemplate.text, String.toList_ofList]
    exact LineWise.id.map_takeWhile_splitChars _
  rw [hleft, hright, List.append_left_inj, CSIDriverTemplate.map_lines_eq_iff
    (f := fun text => d.dropToken (setWord (storageCapacity cr) text.toList)) (g := String.toList),
    and_iff_right hspec, forall₂_congr hlines]
  constructor
  · rintro ⟨hheader, hspec⟩
    refine ⟨?_, ?_⟩
    · intro l hl
      rcases List.mem_append.mp hl with hl | hl
      · exact hheader l hl
      · obtain ⟨s, hs, rfl⟩ := List.mem_map.mp hl
        obtain ⟨hs, hnone⟩ := List.mem_filter.mp hs
        exact (hspec s hs).1 (Option.isNone_iff_eq_none.mp hnone)
    · intro hoff value hvalue
      obtain ⟨s, hs, hsome⟩ := List.mem_filterMap.mp hvalue
      exact (hspec s hs).2 hoff value hsome
  · rintro ⟨hothers, hvalues⟩
    refine ⟨fun l hl => hothers l (List.mem_append_left _ hl), fun s hs => ⟨fun hnone => ?_, ?_⟩⟩
    · refine hothers s.line (List.mem_append_right _ (List.mem_map_of_mem (List.mem_filter.mpr ⟨hs, ?_⟩)))
      rw [hnone, Option.isNone_none]
    · exact fun hoff value hsome => hvalues hoff value (List.mem_filterMap.mpr ⟨s, hs, hsome⟩)

/-- The template of PowerStore as it would be without pod information. -/
def podInfoTemplate : CSIDriverTemplate where
  header := [⟨"kind: CSIDriver", none, by decide, nofun⟩]
  spec :=
    [.storageCapacity false none nofun,
      .other ⟨"  podInfoOnMount: false", none, by decide +kernel, nofun⟩ (by decide +kernel)]

def capacityExample : ContainerStorageModule where
  spec := { driver := { csiDriverType := .powerStore, csiDriverSpec := some { storageCapacity := true } } }

end CapacityDriver

end CsmOperator
