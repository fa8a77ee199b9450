import CsmOperator.Concurrency.LastConfiguration
import CsmOperator.Finalizers.Copies

/-!
# The finalizers of other controllers

Several controllers may keep finalizers on a CR. `Reconcile` should only ever add or remove its own, and
leave the others in their order. But when it adds the CSM finalizer, or removes it, it replaces the whole
list, and the finalizers of others are gone: the CR of a deletion goes away before they have done their
part. The updates in between write the list back as it was.
-/

namespace CsmOperator

open Interaction

variable {kinds : NamespacedName → Kind} {rt : Runtime} {key : NamespacedName} {ps ps' : Threads}
  {i : Nat} {e : Event Api} {s : ContainerStorageModule}

/-- The finalizers of other controllers, in their order. -/
def foreign (finalizers : List String) : List String := finalizers.filter (· ≠ csmFinalizerName)

/-- They are still there. A CR that has gone away had none. -/
def KeepsForeign (s : ContainerStorageModule) : Option ContainerStorageModule → Prop
  | some s' => foreign s'.finalizers = foreign s.finalizers
  | none => foreign s.finalizers = []

/-- The CR of an accepted update. -/
def acceptedUpdate : Event Api → Option ContainerStorageModule
  | ⟨.updateCSM cr, .ok _⟩ => some cr
  | _ => none

/-- An update of the CR was accepted. -/
def Updates (key : NamespacedName) (e : Event Api) : Prop := (acceptedUpdate e).map (·.key) = some key

instance (key : NamespacedName) (e : Event Api) : Decidable (Updates key e) :=
  inferInstanceAs (Decidable ((acceptedUpdate e).map (·.key) = some key))

theorem Updates.of_respond {q : Request} {r : q.Answer} (h : Updates key ⟨q, r⟩) :
    ∃ cr cr', cr.key = key ∧ (⟨q, r⟩ : Event Api) = ⟨.updateCSM cr, .ok cr'⟩ := by
  obtain ⟨cr, hcr, hkey⟩ := Option.map_eq_some_iff.mp h
  unfold acceptedUpdate at hcr
  split at hcr
  next cr₁ cr' heq =>
    cases hcr
    exact ⟨cr, cr', hkey, heq⟩
  next => cases hcr

/-- What is stored after an accepted update has the finalizers of the update. -/
theorem keepsForeign_kept (w : World) (stored cr : ContainerStorageModule) :
    KeepsForeign stored (World.kept (w.updated stored cr)) ↔
      foreign cr.finalizers = foreign stored.finalizers := by
  unfold World.kept
  split
  next hgone =>
    have hnil : cr.finalizers = [] := List.isEmpty_iff.mp (Bool.and_eq_true_iff.mp hgone).2
    rw [hnil]
    exact eq_comm
  next => exact Iff.rfl

theorem not_updates_of_respond {w w' : World} {c : World.Choice} {q : Request} {r : q.Answer}
    (h : w.respond q c = some (r, w')) (hs : w.crs key = some s) (hnot : ¬ Updates key ⟨q, r⟩) :
    KeepsForeign s (w'.crs key) := by
  have hsame : w'.crs key = w.crs key ∨ ∃ status resourceVersion,
      w'.crs key = some { s with status, resourceVersion } := by
    by_cases hq : ∃ cr, q = .updateCSM cr
    · obtain ⟨cr, rfl⟩ := hq
      rcases World.of_updateCSM h with ⟨rfl, -⟩ | ⟨stored, -, -, rfl, rfl⟩
      · exact .inl rfl
      · exact .inl (Function.update_of_ne (fun hk => hnot (congrArg some hk.symm)) _ _)
    · rcases World.stored_of_respond_other (fun cr heq => (hq ⟨cr, heq⟩).elim) h with
        heq | ⟨s', status, version, hs', heq⟩
      · exact .inl heq
      · rw [hs] at hs'
        cases hs'
        exact .inr ⟨status, version, heq⟩
  rcases hsame with heq | ⟨status, version, heq⟩
  · rw [heq, hs]
    rfl
  · rw [heq]
    rfl

/-- The list is replaced unless the CSM finalizer stays. -/
theorem FinalizerWrite.keeps_iff {tr : List (Event Api)} {base cr : ContainerStorageModule}
    (h : FinalizerWrite rt key tr base cr) :
    foreign cr.finalizers = foreign base.finalizers ↔ foreign base.finalizers = [] ∨
      base.hasFinalizer csmFinalizerName = true ∧ base.isBeingDeleted = false := by
  cases h with
  | kept hfinalizers hfinalizer hdeleting =>
      rw [hfinalizers]
      exact iff_of_true rfl (.inr ⟨hfinalizer, hdeleting⟩)
  | added hfinalizers hfinalizer _ =>
      have hnone : foreign [csmFinalizerName] = [] := rfl
      rw [hfinalizers, hnone, hfinalizer, eq_comm]
      simp
  | removed hfinalizers _ hdeleting _ =>
      have hnone : foreign [] = [] := rfl
      rw [hfinalizers, hnone, hdeleting, eq_comm]
      simp

/-- **A call keeps the finalizers of other controllers** exactly when it is not an update of the CR, or
there are none, or the CR has the CSM finalizer and is not being deleted. -/
theorem keepsForeign_iff {w₀ : World} (hkeyed : w₀.KeyStored) (hbounded : w₀.Bounded)
    (hrun : Pool.Reach (environment kinds) (Entry.program rt) (fun _ _ => True) (Pool.empty w₀) ps)
    (hstep : Pool.Step (environment kinds) (Entry.program rt) ps (.act i e) ps')
    (hs : ps.world.crs key = some s) :
    KeepsForeign s (ps'.world.crs key) ↔
      (Updates key e → foreign s.finalizers = [] ∨
        s.hasFinalizer csmFinalizerName = true ∧ s.isBeingDeleted = false) := by
  have hcopies := copiesTrue_of_reach hkeyed hbounded hrun
  cases hstep with
  | @act _ ent q k c r w ht hr =>
      by_cases hupdates : Updates key ⟨q, r⟩
      · obtain ⟨cr, cr', rfl, heq⟩ := hupdates.of_respond
        cases heq
        rcases World.of_updateCSM hr with ⟨-, err, heq⟩ | ⟨stored, hstored, hversion, -, rfl⟩
        · cases heq
        obtain rfl : stored = s := Option.some.inj (hstored.symm.trans hs)
        obtain ⟨key', rfl, hpending⟩ := pending_program (hrun.pending ht) trivial
        obtain ⟨base, hsound⟩ := soundUpdate_of_pending hpending (hcopies.faithful_trace i)
        have hsame := stored_of_soundUpdate hsound (hcopies.seen i base hsound.seen) hstored hversion
        have hkept : (ps.world.put cr.key (World.kept (ps.world.updated stored cr))).crs cr.key =
            World.kept (ps.world.updated stored cr) := Function.update_self ..
        show KeepsForeign stored ((ps.world.put cr.key _).crs cr.key) ↔ _
        rw [hkept, keepsForeign_kept, hsame.hasFinalizer_eq, hsame.isBeingDeleted_eq,
          hsame.finalizers_eq, imp_iff_right hupdates]
        exact hsound.write.keeps_iff
      · exact ⟨fun _ h => (hupdates h).elim, fun _ => not_updates_of_respond hr hs hupdates⟩

/-! ### A CR another controller holds -/

/-- A CR with the given finalizers. -/
def heldWorld (finalizers : List String) : World :=
  .storing [{ isilonCR with spec := isilonSpec "v2.16.0", finalizers }] runningCluster

/-- A reconcile of it that is about to update it for the first time. -/
def firstUpdate (finalizers : List String) : Threads :=
  startAndRun isilonKinds shippedRuntime (fun _ _ _ => true) (.reconcile isilonCR.key) (smooth 3)
    (Pool.empty (heldWorld finalizers))

theorem reach_firstUpdate (finalizers : List String) :
    Pool.Reach (environment isilonKinds) (Entry.program shippedRuntime) (fun _ _ => True)
      (Pool.empty (heldWorld finalizers)) (firstUpdate finalizers) :=
  reach_startAndRun .refl trivial fun _ _ _ _ => trivial

/-- The theorem for a CR that has the CSM finalizer as well. -/
theorem keepsForeign_iff_held :
    ∃ s e ps', (firstUpdate ["example.com/hold", csmFinalizerName]).world.crs isilonCR.key = some s ∧
      Pool.Step (environment isilonKinds) (Entry.program shippedRuntime)
        (firstUpdate ["example.com/hold", csmFinalizerName]) (.act 0 e) ps' ∧
      Updates isilonCR.key e ∧ foreign s.finalizers = ["example.com/hold"] ∧
      KeepsForeign s (ps'.world.crs isilonCR.key) := by
  have hstored : ((firstUpdate ["example.com/hold", csmFinalizerName]).world.crs isilonCR.key).any
      (fun s => foreign s.finalizers = ["example.com/hold"] ∧
        s.hasFinalizer csmFinalizerName = true ∧ s.isBeingDeleted = false) = true := by
    decide +kernel
  have hmove : (Pool.advance (environment isilonKinds)
      (firstUpdate ["example.com/hold", csmFinalizerName]) 0 {}).any
      (fun x => decide (Updates isilonCR.key x.1)) = true := by decide +kernel
  obtain ⟨s, hs, hprops⟩ := (Option.any_eq_true ..).mp hstored
  obtain ⟨hforeign, hkept⟩ := of_decide_eq_true hprops
  obtain ⟨e, ps', hstep, he⟩ := Pool.exists_step_of_advance (Entry.program shippedRuntime) hmove
  refine ⟨s, e, ps', hs, hstep, of_decide_eq_true he, hforeign, ?_⟩
  exact (keepsForeign_iff (World.keyStored_storing _ _) (World.bounded_storing (by decide))
    (reach_firstUpdate _) hstep hs).mpr fun _ => .inr hkept

/-- The first reconcile of a CR takes away the finalizer another controller has put on it. -/
theorem foreign_finalizer_lost :
    Pool.Reach (environment isilonKinds) (Entry.program shippedRuntime) (fun _ _ => True)
      (Pool.empty (heldWorld ["example.com/hold"])) (firstUpdate ["example.com/hold"]) ∧
    ∃ s e ps', (firstUpdate ["example.com/hold"]).world.crs isilonCR.key = some s ∧
      s.finalizers = ["example.com/hold"] ∧
      Pool.Step (environment isilonKinds) (Entry.program shippedRuntime)
        (firstUpdate ["example.com/hold"]) (.act 0 e) ps' ∧
      (ps'.world.crs isilonCR.key).map (·.finalizers) = some [csmFinalizerName] ∧
      ¬ KeepsForeign s (ps'.world.crs isilonCR.key) := by
  have hstored : ((firstUpdate ["example.com/hold"]).world.crs isilonCR.key).any
      (fun s => s.finalizers = ["example.com/hold"]) = true := by decide +kernel
  have hmove : (Pool.advance (environment isilonKinds) (firstUpdate ["example.com/hold"]) 0 {}).any
      (fun x => (x.2.world.crs isilonCR.key).map (·.finalizers) = some [csmFinalizerName]) = true := by
    decide +kernel
  obtain ⟨s, hs, hfinalizers⟩ := (Option.any_eq_true ..).mp hstored
  have hfinalizers : s.finalizers = ["example.com/hold"] := of_decide_eq_true hfinalizers
  obtain ⟨e, ps', hstep, hafter⟩ :=
    Pool.exists_step_of_advance (Entry.program shippedRuntime) hmove
  have hafter : (ps'.world.crs isilonCR.key).map (·.finalizers) = some [csmFinalizerName] :=
    of_decide_eq_true hafter
  refine ⟨reach_firstUpdate _, s, e, ps', hs, hfinalizers, hstep, hafter, fun hkeeps => ?_⟩
  obtain ⟨s', hs', hfinalizers'⟩ := Option.map_eq_some_iff.mp hafter
  rw [hs'] at hkeeps
  have hkeeps : foreign s'.finalizers = foreign s.finalizers := hkeeps
  rw [hfinalizers, hfinalizers'] at hkeeps
  exact absurd hkeeps (by decide)

end CsmOperator
