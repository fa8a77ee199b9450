import CsmOperator.Api.Cluster
import CsmOperator.Go.Json

/-!
# Applying a module's object: `ApplyObject`

An object that is not there is created. An object that is there is read, the desired one is read into it as
JSON, and the result is sent as an update. So what an earlier version of the manifest had set stays, unless the
new one sets something else in its place.
-/

namespace CsmOperator

open Go

/-! ## The function -/

/-- What `IsForbidden` and `IsInvalid` tell apart. -/
inductive UpdateError where
  | forbidden
  | invalid
  | other (err : GoError)
  deriving DecidableEq, Repr

/-- What the API server answers. -/
structure ObjectAnswers where
  /-- an error of `Get` other than that the object is not found -/
  get : Option GoError := none
  create : Option GoError := none
  update : Option UpdateError := none
  deriving DecidableEq, Repr

/-- What is stored afterwards, and the error that is returned. -/
structure ApplyOutcome where
  stored : Option Json
  err : Option GoError

/-- Updates that are refused as forbidden or invalid are logged and count as done. -/
def updateObject (answers : ObjectAnswers) (obj live : Json) : ApplyOutcome :=
  match answers.update with
  | none => ⟨some (obj.onto live), none⟩
  | some .forbidden => ⟨some live, none⟩
  | some .invalid => ⟨some live, none⟩
  | some (.other err) => ⟨some live, some err⟩

def createObject (answers : ObjectAnswers) (obj : Json) : ApplyOutcome :=
  match answers.create with
  | none => ⟨some obj, none⟩
  | some err => ⟨none, some err⟩

def applyObject (answers : ObjectAnswers) (obj : Json) (live : Option Json) : ApplyOutcome :=
  match answers.get, live with
  | some err, live => ⟨live, some err⟩
  | none, none => createObject answers obj
  | none, some live => updateObject answers obj live

/-! ## As if created -/

/-- The operator's content is that of `obj`: what it sets is there, and what only the manifest `earlier` had
set is gone. -/
structure AsCreated (obj earlier stored : Json) : Prop where
  set : ∀ path node, obj.nodeAt path = some node → stored.nodeAt path = some node
  gone : ∀ path, (earlier.nodeAt path).isSome → obj.nodeAt path = none → stored.nodeAt path = none

/-- Applying `obj` is as good as creating it, if no error is returned. -/
def AppliesAsCreated (answers : ObjectAnswers) (obj earlier live : Json) : Prop :=
  (applyObject answers obj (some live)).err = none →
    ∀ stored ∈ (applyObject answers obj (some live)).stored, AsCreated obj earlier stored

/-- Everything that the earlier manifest left in the object is set again or dropped. -/
def Covered (obj earlier live : Json) : Prop :=
  ∀ path, (earlier.nodeAt path).isSome → (live.nodeAt path).isSome →
    (obj.nodeAt path).isSome ∨ obj.drops path = true

/-- What comes of it depends on the answers. -/
structure Replaces (answers : ObjectAnswers) (obj earlier live : Json) : Prop where
  accepted : answers.get = none → answers.update = none → Covered obj earlier live
  refused : answers.get = none → answers.update = some .forbidden ∨ answers.update = some .invalid →
    AsCreated obj earlier live

theorem asCreated_onto_iff {obj earlier live : Json} :
    AsCreated obj earlier (obj.onto live) ↔ Covered obj earlier live := by
  constructor
  · intro h path hearlier hlive
    by_contra hnot
    rw [not_or, Option.not_isSome_iff_eq_none] at hnot
    have hgone := h.gone path hearlier hnot.1
    rw [Json.nodeAt_onto, hnot.1, Option.none_or, if_neg hnot.2] at hgone
    rw [hgone] at hlive
    cases hlive
  · intro h
    refine ⟨fun path node hset => ?_, fun path hearlier hunset => ?_⟩
    · rw [Json.nodeAt_onto, hset, Option.some_or]
    · rw [Json.nodeAt_onto, hunset, Option.none_or, ite_eq_left_iff]
      intro hkept
      by_contra hne
      rcases h path hearlier (Option.isSome_iff_ne_none.mpr hne) with hset | hdrops
      · rw [hunset] at hset
        cases hset
      · exact hkept hdrops

/-- The cases of the answers: an error, an accepted update, and a refused one. -/
theorem applyObject_cases (answers : ObjectAnswers) (obj live : Json) :
    (∃ err, applyObject answers obj (some live) = ⟨some live, some err⟩) ∧
        (answers.get ≠ none ∨ ∃ err, answers.update = some (.other err)) ∨
      applyObject answers obj (some live) = ⟨some (obj.onto live), none⟩ ∧
        answers.get = none ∧ answers.update = none ∨
      applyObject answers obj (some live) = ⟨some live, none⟩ ∧
        answers.get = none ∧ (answers.update = some .forbidden ∨ answers.update = some .invalid) := by
  obtain ⟨get, create, update⟩ := answers
  cases get with
  | some err => exact .inl ⟨⟨err, rfl⟩, .inl nofun⟩
  | none =>
      cases update with
      | none => exact .inr (.inl ⟨rfl, rfl, rfl⟩)
      | some e =>
          cases e with
          | forbidden => exact .inr (.inr ⟨rfl, rfl, .inl rfl⟩)
          | invalid => exact .inr (.inr ⟨rfl, rfl, .inr rfl⟩)
          | other err => exact .inl ⟨⟨err, rfl⟩, .inr ⟨err, rfl⟩⟩

/-- Applying an object over a live one is as good as creating it if and only if an accepted update covers what
was there, and an object whose update is refused was as desired already. -/
theorem appliesAsCreated_iff (answers : ObjectAnswers) (obj earlier live : Json) :
    AppliesAsCreated answers obj earlier live ↔ Replaces answers obj earlier live := by
  rw [AppliesAsCreated]
  rcases applyObject_cases answers obj live with
    ⟨⟨err, happly⟩, hfailed⟩ | ⟨happly, hget, hupdate⟩ | ⟨happly, hget, hupdate⟩
  · rw [happly]
    refine iff_of_true nofun ⟨fun hget hupdate => ?_, fun hget hupdate => ?_⟩ <;>
      rcases hfailed with hne | ⟨err', heq⟩
    · exact absurd hget hne
    · rw [heq] at hupdate
      cases hupdate
    · exact absurd hget hne
    · rw [heq] at hupdate
      rcases hupdate with h | h <;> cases h
  · rw [happly]
    constructor
    · intro h
      refine ⟨fun _ _ => asCreated_onto_iff.mp (h rfl _ rfl), fun _ hrefused => ?_⟩
      rw [hupdate] at hrefused
      rcases hrefused with h | h <;> cases h
    · rintro h - stored ⟨rfl⟩
      exact asCreated_onto_iff.mpr (h.accepted hget hupdate)
  · rw [happly]
    constructor
    · intro h
      refine ⟨fun _ hnone => ?_, fun _ _ => h rfl _ rfl⟩
      rw [hnone] at hupdate
      rcases hupdate with h | h <;> cases h
    · rintro h - stored ⟨rfl⟩
      exact h.refused hget hupdate

/-- A configuration map with one entry, over one that had two. -/
def configMapWith (entries : List (String × Json)) : Json :=
  .struct [("metadata", .struct [("name", .scalar "params")]), ("data", .map entries)]

/-- The entry that is no longer in the manifest stays. -/
theorem oldEntry_stays :
    ¬AppliesAsCreated {} (configMapWith [("LOG_LEVEL", .scalar "debug")])
      (configMapWith [("LOG_LEVEL", .scalar "info"), ("POLL_RATE", .scalar "60")])
      (configMapWith [("LOG_LEVEL", .scalar "info"), ("POLL_RATE", .scalar "60")]) := by
  intro h
  have hgone := (h rfl _ rfl).gone [.field "data", .key "POLL_RATE"] (by decide +kernel) (by decide +kernel)
  exact absurd hgone (by decide +kernel)

end CsmOperator
