import CsmOperator.Concurrency.LastConfiguration
import CsmOperator.Finalizers.Copies

/-!
# The finalizer guards what is installed

What `SyncCSM` creates for a CR has to be cleaned up when the CR is deleted. The CSM finalizer sees to
that: it is on the stored CR whenever something is created, and it stays there until a `Reconcile` has
seen that the CR is being deleted and has removed everything.

This is so in every run in which a key is reconciled by one worker at a time and nobody but the operator
changes finalizers.
-/

namespace CsmOperator

open Interaction

variable {kinds : NamespacedName → Kind} {rt : Runtime} {key : NamespacedName} {ps ps' : Threads}
  {w w' : World} {c : World.Choice}

/-- One worker for a key, and finalizers are left to the operator. -/
structure OwnFinalizers (ps : Threads) (m : Move Api World Entry) : Prop where
  worker : OneWorker ps m
  kept : ∀ w key s s', m = .drift w → ps.world.crs key = some s → w.crs key = some s' →
    s'.finalizers = s.finalizers

/-- The stored CR carries the CSM finalizer. -/
def Guarded (w : World) (key : NamespacedName) : Prop :=
  ∃ s, w.crs key = some s ∧ s.hasFinalizer csmFinalizerName = true

/-! ## What keeps the finalizer -/

theorem guarded_of_drift (h : Guarded w key) (hdrift : Drift kinds w w')
    (hkept : ∀ s s', w.crs key = some s → w'.crs key = some s' → s'.finalizers = s.finalizers) :
    Guarded w' key := by
  obtain ⟨s, hs, hfinalizer⟩ := h
  have hedit := hdrift.crs key
  rw [hs] at hedit hkept
  generalize ho : w'.crs key = o at hedit
  cases hedit with
  | untouched => exact ⟨s, ho, hfinalizer⟩
  | @edited _ s' =>
      refine ⟨s', ho, ?_⟩
      rw [ContainerStorageModule.hasFinalizer, hkept s s' rfl ho]
      exact hfinalizer
  | removed hnone =>
      rw [ContainerStorageModule.hasFinalizer, hnone] at hfinalizer
      cases hfinalizer

/-- A call that is not an accepted update of the CR. -/
theorem guarded_of_respond {q : Request} {r : q.Answer} (h : Guarded w key)
    (hr : w.respond q c = some (r, w'))
    (hother : ∀ cr cr', (⟨q, r⟩ : Event Api) = ⟨.updateCSM cr, .ok cr'⟩ → cr.key ≠ key) :
    Guarded w' key := by
  obtain ⟨s, hs, hfinalizer⟩ := h
  by_cases hq : ∃ cr, q = .updateCSM cr
  · obtain ⟨cr, rfl⟩ := hq
    rcases World.of_updateCSM hr with ⟨rfl, -⟩ | ⟨stored, -, -, rfl, rfl⟩
    · exact ⟨s, hs, hfinalizer⟩
    · exact ⟨s, (Function.update_of_ne (hother _ _ rfl).symm _ _).trans hs, hfinalizer⟩
  · rcases World.stored_of_respond_other (fun cr heq => (hq ⟨cr, heq⟩).elim) hr with
      heq | ⟨s', status, version, hs', heq⟩
    · exact ⟨s, heq.trans hs, hfinalizer⟩
    · rw [hs] at hs'
      cases hs'
      exact ⟨_, heq, hfinalizer⟩

/-- A CR that was just read or stored with the finalizer. -/
theorem guarded_of_seen {q : Request} {r : q.Answer} {base : ContainerStorageModule}
    (hkeyed : w.KeyStored) (hr : w.respond q c = some (r, w')) (hseen : seenCR ⟨q, r⟩ = some base)
    (hfinalizer : base.hasFinalizer csmFinalizerName = true) : Guarded w' base.key := by
  cases q with
  | getCSM key =>
      match r with
      | .error e => cases hseen
      | .ok cr =>
          cases hseen
          obtain ⟨rfl, hstored⟩ := World.of_getCSM hr
          have hstored := hstored base rfl
          rw [hkeyed key base hstored]
          exact ⟨base, hstored, hfinalizer⟩
  | updateCSM cr =>
      rcases World.of_updateCSM hr with ⟨-, e, rfl⟩ | ⟨stored, -, -, rfl, rfl⟩
      · cases hseen
      · cases hseen
        have hkept : World.kept (w.updated stored cr) = some (w.updated stored cr) := by
          unfold World.kept
          split
          next hgone =>
            have hnil : cr.finalizers = [] := List.isEmpty_iff.mp (Bool.and_eq_true_iff.mp hgone).2
            have hfinalizer : cr.hasFinalizer csmFinalizerName = true := hfinalizer
            rw [ContainerStorageModule.hasFinalizer, hnil] at hfinalizer
            cases hfinalizer
          next => rfl
        exact ⟨w.updated stored cr, (Function.update_self ..).trans hkept, hfinalizer⟩
  | _ => cases hseen

/-! ## Over whole runs -/

/-- A running reconcile that has seen the finalizer last can rely on it. -/
def GuardHolds (ps : Threads) : Prop :=
  ∀ i key p base, ps.threads[i]? = some (.reconcile key, p) → Running p →
    lastSeen (Pool.trace ps.log i) = some base → base.key = key →
    base.hasFinalizer csmFinalizerName = true → Guarded ps.world key

/-- An answered call, seen from a reconcile that relies on the finalizer. -/
theorem guardHolds_act {Ok : Threads → Move Api World Entry → Prop} {w₀ : World} {i : Nat} {ent : Entry}
    {q : Request} {k : q.Answer → Op Unit} {r : q.Answer}
    (hrun : Pool.Reach (environment kinds) (Entry.program rt) Ok (Pool.empty w₀) ps)
    (hcopies : CopiesTrue ps) (halone : Alone ps) (hguard : GuardHolds ps)
    (ht : ps.threads[i]? = some (ent, .call q k)) (hr : ps.world.respond q c = some (r, w)) :
    GuardHolds (ps.afterAct i ent (k r) ⟨q, r⟩ w) := by
  intro j key p base hj hp hseen hkey hfinalizer
  have hrunning : Running (.call q k) := ⟨q, k, rfl⟩
  have hi : i < ps.threads.length := (List.getElem?_eq_some_iff.mp ht).1
  by_cases hji : j = i
  · subst hji
    rw [Pool.afterAct, List.getElem?_set_self hi] at hj
    cases hj
    rw [Pool.afterAct, Pool.trace_append_self, lastSeen_append] at hseen
    rcases Option.or_eq_some_iff.mp hseen with hnew | ⟨hnone, hold⟩
    · subst hkey
      exact guarded_of_seen hcopies.keyed hr ((Option.or_none ..).symm.trans hnew) hfinalizer
    · refine guarded_of_respond (hguard j key _ base ht hrunning hold hkey hfinalizer) hr ?_
      rintro cr cr' heq
      rw [heq] at hnone
      cases hnone
  · rw [Pool.afterAct, List.getElem?_set_ne (Ne.symm hji)] at hj
    rw [Pool.afterAct, Pool.trace_append_of_ne _ _ hji] at hseen
    refine guarded_of_respond (hguard j key p base hj hp hseen hkey hfinalizer) hr ?_
    -- an update of this CR by another thread is by another reconcile of it
    rintro cr cr' heq rfl
    cases heq
    obtain ⟨key', rfl, hpending⟩ := pending_program (hrun.pending ht) trivial
    obtain ⟨base', hsound⟩ := soundUpdate_of_pending hpending (hcopies.faithful_trace i)
    rw [hsound.key_eq] at hj
    exact hji (halone j i key' p _ hj ht hp hrunning)

theorem guardHolds_of_reach {w₀ : World} (hkeyed : w₀.KeyStored) (hbounded : w₀.Bounded)
    (h : Pool.Reach (environment kinds) (Entry.program rt) OwnFinalizers (Pool.empty w₀) ps) :
    GuardHolds ps := by
  induction h with
  | refl => exact fun _ _ _ _ hj => (Option.some_ne_none _ hj.symm).elim
  | @tail ps ps' m hreach hok hstep ih =>
      cases hstep with
      | act ht hr =>
          have halone := alone_of_reach (fun _ _ hok => hok.worker) hreach
          exact guardHolds_act hreach (copiesTrue_of_reach hkeyed hbounded hreach) halone ih ht hr
      | spawn ent =>
          intro j key p base hj hp hseen hkey hfinalizer
          obtain hj | ⟨rfl, -⟩ := Pool.getElem?_concat hj
          · exact ih j key p base hj hp hseen hkey hfinalizer
          · have hseen : lastSeen (Pool.trace ps.log ps.threads.length) = some base := hseen
            rw [hreach.trace_eq_nil (Nat.le_refl _)] at hseen
            cases hseen
      | @drift w hd =>
          intro j key p base hj hp hseen hkey hfinalizer
          have hbefore := ih j key p base hj hp hseen hkey hfinalizer
          exact guarded_of_drift hbefore hd fun s s' hs hs' => hok.kept w key s s' rfl hs hs'

/-- In a `Reconcile` of the CR: it was read as being deleted, and every removal of the driver and of
modules returned nil. -/
def CleanedUp (rt : Runtime) (key : NamespacedName) (tr : List (Event Api)) : Prop :=
  ∃ csm cr force tr₀ tr₁ trs, prepare rt.op csm = .ok cr ∧ csm.isBeingDeleted = true ∧
    (afterDriverPrecheck cr).spec.driver.forceRemoveDriver = some force ∧
    tr = ⟨.getCSM key, .ok csm⟩ :: (tr₀ ++ (tr₁ ++ trs.flatten)) ∧
    Run (preChecks rt cr) tr₀ (afterDriverPrecheck cr, none) ∧
    (if force then Run (removeDriver (afterDriverPrecheck cr)) tr₁ none
      else ∃ err, Run (removeDeploymentOwnerRef (afterDriverPrecheck cr)) tr₁ err) ∧
    List.Forall₂ (fun _ t => Run (removeModule (afterDriverPrecheck cr)) t none)
      ((afterDriverPrecheck cr).spec.modules.filter (·.forceRemoveModule)) trs

theorem cleanedUp_of_checked {csm : ContainerStorageModule} {tr₀ tr₁ : List (Event Api)}
    (hchecked : Checked rt key tr₀ csm) (hdeleting : csm.isBeingDeleted = true)
    (hcontent : Run (removeContent csm) tr₁ none) : CleanedUp rt key (tr₀ ++ tr₁) := by
  cases hchecked with
  | @intro csm cr tr₀ hprepare hchecks =>
      obtain ⟨force, tr₂, trs, hforce, rfl, hdriver, hmodules⟩ := run_removeContent_none hcontent
      refine ⟨csm, cr, force, tr₀, tr₂, trs, hprepare, ?_, hforce, rfl, hchecks, hdriver, hmodules⟩
      obtain ⟨spec, hcr⟩ := prepare_eq hprepare
      obtain ⟨spec', hcr'⟩ := afterDriverPrecheck_eq cr
      rw [hcr', hcr] at hdeleting
      exact hdeleting

/-- A step that takes the finalizer away is the update at the end of a cleanup. -/
theorem cleanedUp_of_lost {w₀ : World} {m : Move Api World Entry} (hkeyed : w₀.KeyStored)
    (hbounded : w₀.Bounded)
    (hrun : Pool.Reach (environment kinds) (Entry.program rt) OwnFinalizers (Pool.empty w₀) ps)
    (hok : OwnFinalizers ps m) (hstep : Pool.Step (environment kinds) (Entry.program rt) ps m ps')
    (hbefore : Guarded ps.world key) (hlost : ¬ Guarded ps'.world key) :
    ∃ i p, ps.threads[i]? = some (.reconcile key, p) ∧ (∃ e, m = .act i e) ∧
      CleanedUp rt key (Pool.trace ps.log i) := by
  cases hstep with
  | spawn => exact (hlost hbefore).elim
  | @drift w hd =>
      exact (hlost (guarded_of_drift hbefore hd fun s s' hs hs' => hok.kept w key s s' rfl hs hs')).elim
  | @act i ent q k c r w ht hr =>
      have hcopies := copiesTrue_of_reach hkeyed hbounded hrun
      by_cases hupdate : ∃ cr cr', (⟨q, r⟩ : Event Api) = ⟨.updateCSM cr, .ok cr'⟩ ∧ cr.key = key
      · obtain ⟨cr, cr', heq, rfl⟩ := hupdate
        cases heq
        obtain ⟨key', rfl, hpending⟩ := pending_program (hrun.pending ht) trivial
        obtain ⟨base, hsound⟩ := soundUpdate_of_pending hpending (hcopies.faithful_trace i)
        obtain rfl : cr.key = key' := hsound.key_eq
        -- the finalizer is not in what was stored
        have hwithout : cr.hasFinalizer csmFinalizerName ≠ true := by
          intro hfinalizer
          rcases World.of_updateCSM hr with ⟨-, e, heq⟩ | ⟨stored, -, -, heq, -⟩
          · cases heq
          · have hreply : cr'.key = cr.key ∧ cr'.hasFinalizer csmFinalizerName = true := by
              rw [Except.ok.inj heq]
              exact ⟨rfl, hfinalizer⟩
            have hserved : ps.world.respond (.updateCSM cr) c = some (.ok cr', w) := hr
            have hguarded : Guarded w cr'.key := guarded_of_seen hcopies.keyed hserved rfl hreply.2
            rw [hreply.1] at hguarded
            exact hlost hguarded
        cases hsound.write with
        | kept hfinalizers hfinalizer _ =>
            rw [ContainerStorageModule.hasFinalizer, hfinalizers] at hwithout
            exact (hwithout hfinalizer).elim
        | added hfinalizers _ _ =>
            rw [ContainerStorageModule.hasFinalizer, hfinalizers] at hwithout
            exact (hwithout (by decide)).elim
        | removed _ _ _ hcleaned =>
            obtain ⟨csm, tr₀, tr₁, htr, hchecked, hdeleting, hcontent⟩ := hcleaned
            exact ⟨i, _, ht, ⟨_, rfl⟩, htr ▸ cleanedUp_of_checked hchecked hdeleting hcontent⟩
      · refine (hlost (guarded_of_respond hbefore hr fun cr cr' heq hkey => ?_)).elim
        exact hupdate ⟨cr, cr', heq, hkey⟩

/-- **The finalizer guards what is installed.** While a thread is at an action of `SyncCSM` that may
create something, the stored CR carries the finalizer; and a step takes the finalizer away only in a
`Reconcile` that has read the CR as being deleted and has cleaned up. -/
theorem finalizer_guards {w₀ : World} (hkeyed : w₀.KeyStored) (hbounded : w₀.Bounded)
    (hrun : Pool.Reach (environment kinds) (Entry.program rt) OwnFinalizers (Pool.empty w₀) ps) :
    (∀ (i : Nat) (ent : Entry) (a : Action) (csm : ContainerStorageModule) k,
      ps.threads[i]? = some (ent, (.call (.action a csm) k : Op Unit)) → a.installs = true →
      Guarded ps.world csm.key) ∧
    ∀ m ps' key, OwnFinalizers ps m → Pool.Step (environment kinds) (Entry.program rt) ps m ps' →
      Guarded ps.world key → ¬ Guarded ps'.world key →
      ∃ i p, ps.threads[i]? = some (.reconcile key, p) ∧ (∃ e, m = .act i e) ∧
        CleanedUp rt key (Pool.trace ps.log i) := by
  refine ⟨fun i ent a csm k ht ha => ?_, fun m ps' key hok hstep hbefore hlost =>
    cleanedUp_of_lost hkeyed hbounded hrun hok hstep hbefore hlost⟩
  have hcopies := copiesTrue_of_reach hkeyed hbounded hrun
  obtain ⟨key, rfl, hpending⟩ := pending_program (hrun.pending ht) ha
  obtain ⟨rfl, base, hseen, hkey, hfinalizer⟩ :=
    finalizer_of_pending hpending ha (hcopies.faithful_trace i)
  exact guardHolds_of_reach hkeyed hbounded hrun i _ _ base ht ⟨_, k, rfl⟩ hseen hkey hfinalizer

/-! ### An install and a deletion -/

/-- A reconcile that is about to apply the first driver object. -/
def firstObject : Threads :=
  startAndRun isilonKinds shippedRuntime (fun _ _ _ => true) (.reconcile isilonCR.key) (smooth 15)
    (Pool.empty isilonWorld)

/-- The CR has been installed, and a user has deleted it. -/
def deletedAfterInstall : Threads :=
  let ps := startAndRun isilonKinds shippedRuntime (fun _ _ _ => true) (.reconcile isilonCR.key)
    (smooth 60) (Pool.empty isilonWorld)
  { ps with world := ps.world.delete isilonCR.key }

/-- The reconcile of the deletion is about to remove the finalizer. -/
def lastUpdate : Threads :=
  startAndRun isilonKinds shippedRuntime (fun _ _ _ => true) (.reconcile isilonCR.key) (smooth 5)
    deletedAfterInstall

/-- The action a thread is at. -/
def pendingAction (ps : Threads) (i : Nat) : Option (Action × ContainerStorageModule) :=
  match ps.threads[i]? with
  | some (_, .call (.action a csm) _) => some (a, csm)
  | _ => none

theorem of_pendingAction {i : Nat} {a : Action} {csm : ContainerStorageModule}
    (h : pendingAction ps i = some (a, csm)) :
    ∃ ent k, ps.threads[i]? = some (ent, (.call (.action a csm) k : Op Unit)) := by
  unfold pendingAction at h
  split at h
  next ent a' csm' k hthread =>
    cases h
    exact ⟨ent, k, hthread⟩
  next => cases h

theorem OwnFinalizers.act (ps : Threads) (i : Nat) (e : Event Api) : OwnFinalizers ps (.act i e) :=
  ⟨trivial, fun _ _ _ _ heq => nomatch heq⟩

theorem OwnFinalizers.spawn (h : allDone ps = true) (key : NamespacedName) :
    OwnFinalizers ps (.spawn (.reconcile key)) :=
  ⟨not_reconciling h key, fun _ _ _ _ heq => nomatch heq⟩

theorem OwnFinalizers.delete (ps : Threads) (key : NamespacedName) :
    OwnFinalizers ps (.drift (ps.world.delete key)) := by
  refine ⟨trivial, fun w k s s' heq hs hs' => ?_⟩
  cases heq
  by_cases hk : k = key
  · subst hk
    rw [World.delete, World.change_crs_self, hs] at hs'
    cases hs'
    rfl
  · have hother : (ps.world.delete key).crs k = ps.world.crs k := Function.update_of_ne hk _ _
    rw [hother, hs] at hs'
    cases hs'
    rfl

theorem reach_lastUpdate :
    Pool.Reach (environment isilonKinds) (Entry.program shippedRuntime) OwnFinalizers
      (Pool.empty isilonWorld) lastUpdate := by
  have hinstalled : Pool.Reach (environment isilonKinds) (Entry.program shippedRuntime) OwnFinalizers
      (Pool.empty isilonWorld) (startAndRun isilonKinds shippedRuntime (fun _ _ _ => true)
        (.reconcile isilonCR.key) (smooth 60) (Pool.empty isilonWorld)) :=
    reach_startAndRun .refl (.spawn rfl _) fun ps i e _ => .act ps i e
  refine reach_startAndRun (hinstalled.tail (.delete _ _) (.drift ?_)) (.spawn ?_ _)
    fun ps i e _ => .act ps i e
  · refine drift_delete (bounded_of_reach hinstalled bounded_isilonWorld) fun cr =>
      World.fitsKey_of_all ?_
    decide +kernel
  · decide +kernel

instance (w : World) (key : NamespacedName) : Decidable (Guarded w key) :=
  decidable_of_iff ((w.crs key).any (·.hasFinalizer csmFinalizerName) = true) (Option.any_eq_true ..)

/-- The theorem for the first driver object, and for the end of the deletion. -/
theorem finalizer_guards_isilon :
    Guarded firstObject.world isilonCR.key ∧
      CleanedUp shippedRuntime isilonCR.key (Pool.trace lastUpdate.log 1) := by
  constructor
  · have hpending : (pendingAction firstObject 0).any (fun x => x.1 = .syncServiceAccount "node" ∧
        x.2.key = isilonCR.key) = true := by decide +kernel
    obtain ⟨⟨a, csm⟩, hcsm, hprops⟩ := (Option.any_eq_true ..).mp hpending
    obtain ⟨rfl, hkey⟩ := of_decide_eq_true hprops
    obtain ⟨ent, k, hthread⟩ := of_pendingAction hcsm
    rw [← hkey]
    have hrun : Pool.Reach (environment isilonKinds) (Entry.program shippedRuntime) OwnFinalizers
        (Pool.empty isilonWorld) firstObject :=
      reach_startAndRun .refl (.spawn rfl _) fun ps i e _ => .act ps i e
    exact (finalizer_guards keyStored_isilonWorld bounded_isilonWorld hrun).1 0 ent _ csm k hthread rfl
  · have hmove : (Pool.advance (environment isilonKinds) lastUpdate 1 {}).any
        (fun x => ¬ Guarded x.2.world isilonCR.key) = true := by decide +kernel
    have hguarded : Guarded lastUpdate.world isilonCR.key := by decide +kernel
    obtain ⟨e, ps', hstep, hlost⟩ := Pool.exists_step_of_advance (Entry.program shippedRuntime) hmove
    obtain ⟨i, p, -, ⟨e', heq⟩, hcleaned⟩ := (finalizer_guards keyStored_isilonWorld
      bounded_isilonWorld reach_lastUpdate).2 _ _ _ (.act _ _ _) hstep hguarded
      (of_decide_eq_true hlost)
    cases heq
    exact hcleaned

end CsmOperator
