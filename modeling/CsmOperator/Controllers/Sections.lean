import CsmOperator.Controllers.StatusWork

/-!
# Critical sections

Where the operator's code takes its mutexes and touches the stop channels. Everything else it asks is
*plain*. A monitor that does not move on plain requests has to be told only what happens in the
sections — the status functions under their mutex, the handlers under theirs with a status function
inside, and the two places that work on the stop channels — and it is then back where it started when
a reconcile or a handler returns (`Sections.program`).

The mutexes of the status functions and of the handlers are released by deferred calls, so a run-time
panic releases them on its way up the stack. `unwinding` adds that to a program.
-/

namespace CsmOperator

open Interaction

/-- Requests that neither have to do with a mutex nor with a stop channel. -/
def Plain : Request → Prop
  | .lock _ | .unlock _ | .startInformers _ _ | .waitForCacheSync _ | .loadChannel _
  | .storeChannel _ _ | .deleteChannel _ | .closeChannel _ => False
  | _ => True

theorem Inert.plain {q : Request} (h : Inert q) : Plain q := by
  cases q <;> trivial

theorem Quiet.plain {q : Request} (h : Quiet q) : Plain q := h.inert.plain

theorem Calculation.plain {q : Request} (h : Calculation q) : Plain q := by
  cases q <;> trivial

variable {rt : Runtime} {csm : ContainerStorageModule}

/-! ## Plain parts -/

theorem plain_calculateState (override_ : Option PodStatus) :
    Asks Plain (fun _ => True) (calculateState rt csm override_) :=
  (calculation_calculateState rt csm override_).weaken.mono fun _ => Calculation.plain

theorem plain_writeStatus : Asks Plain (fun _ => True) (writeStatus csm) := by
  refine .bind (.ask (.getCSM _) trivial) fun r => ?_
  match r with
  | .error e => exact .pure trivial
  | .ok read =>
      refine .bind (.ask (.updateCSMStatus _) trivial) fun r => ?_
      match r with
      | .error e => exact .pure trivial
      | .ok _ => exact .pure trivial

theorem plain_readEventCSM (key : NamespacedName) : Asks Plain (fun _ => True) (readEventCSM key) := by
  refine .bind (.ask (.getCSM _) trivial) fun r => ?_
  match r with
  | .error e => exact .pure trivial
  | .ok cr => exact .pure trivial

theorem plain_recordEvent (type : EventType) (reason message : String) :
    Asks Plain (fun _ => True) (recordEvent csm type reason message) :=
  .ask (.event _ _ _ _) trivial

theorem plain_updateCSM : Asks Plain (fun _ => True) (updateCSM csm) := .ask (.updateCSM _) trivial

theorem plain_removeFinalizer : Asks Plain (fun _ => True) (removeFinalizer csm) := by
  refine .ite (.bind plain_updateCSM fun r => ?_) (.pure trivial)
  cases r <;> exact .pure trivial

theorem plain_failWith (reason message text : String) (e : GoError) :
    Asks Plain (fun _ => True) (failWith csm reason message text e) :=
  (asks_failWith (fun _ _ _ => trivial) csm reason message text e).weaken

theorem plain_ensureFinalizer : Asks Plain (fun _ => True) (ensureFinalizer csm) := by
  refine .ite (.pure trivial) (.bind plain_updateCSM fun r => ?_)
  cases r with
  | error e =>
      dsimp only
      rw [map_eq_pure_bind]
      exact .bind (plain_failWith _ _ _ _) fun _ => .pure trivial
  | ok cr => exact .bind (plain_recordEvent _ _ _) fun _ => .pure trivial

theorem plain_recordVersion (op : OperatorConfig) :
    Asks Plain (fun _ => True) (recordVersion op csm) := by
  unfold recordVersion
  split
  · exact .pure trivial
  · exact plain_updateCSM

theorem plain_recordApplied : Asks Plain (fun _ => True) (recordApplied rt csm) := by
  unfold recordApplied
  split
  · exact .pure trivial
  · have hstore : ∀ m k v, Asks Plain (fun _ => True) (goStore m k v) := fun _ _ _ =>
      .bind (Asks.deref.inert.mono fun _ => Inert.plain) fun _ => .pure trivial
    refine .bind (hstore _ _ _) fun _ => .bind plain_updateCSM fun r => ?_
    cases r <;> exact .pure trivial

theorem plain_oldStandAloneModuleCleanup :
    Asks Plain (fun _ => True) (oldStandAloneModuleCleanup rt csm) := by
  unfold oldStandAloneModuleCleanup
  refine .ite ?_ plain_recordApplied
  split
  · exact .pure trivial
  · refine .bind ((quiet_cleanupOldModules _ _).mono fun _ => Quiet.plain) fun err => ?_
    cases err with
    | some e => exact .pure trivial
    | none => exact plain_recordApplied

theorem plain_syncCSM : Asks Plain (fun _ => True) (syncCSM rt csm) := by
  refine .bind ?_ fun x => .bind (.ask (.note _) trivial) fun _ => .pure trivial
  have hmodules : Asks Plain (fun _ => True) (syncModules csm) :=
    (inertFor_syncModules csm).weaken.mono fun _ h => h.inert.plain
  refine .bind hmodules fun r => ?_
  match r with
  | .error e => exact .pure trivial
  | .ok false => exact .pure trivial
  | .ok true =>
      refine .bind plain_oldStandAloneModuleCleanup fun ⟨cr, err⟩ => ?_
      cases err with
      | some e => exact .pure trivial
      | none =>
          have hdriver : Asks Plain (fun _ => True) (syncDriver cr) :=
            (inertFor_syncDriver cr).mono fun _ h => h.inert.plain
          exact .bind hdriver fun _ => .pure trivial

theorem plain_addHandlers : Asks Plain (fun _ => True)
    (orElse (addHandler .daemonSet "daemonsetInformer")
      (orElse (addHandler .deployment "deploymentInformer") (addHandler .pods "podsInformer"))) := by
  have hadd : ∀ kind informer, Asks Plain (fun _ => True) (addHandler kind informer) :=
    fun _ _ => .bind (.ask (.addEventHandler _) trivial) fun _ => .pure trivial
  exact .orElse (hadd _ _) (.orElse (hadd _ _) (hadd _ _))

/-! ## Sections -/

variable {L : Type} {M : Monitor Api L} {l idle handling : L}

/-- Between taking and releasing the mutex the monitor is in `inside`, where it lets plain requests
pass. -/
structure Bracket (M : Monitor Api L) (m : Mutex) (outside inside : L) : Prop where
  enter : M.guard outside (.lock m) ∧ ∀ r, M.next outside (.lock m) r = inside
  leave : M.guard inside (.unlock m) ∧ ∀ r, M.next inside (.unlock m) r = outside
  idles : M.Idles inside Plain

section

variable {m : Mutex} {outside inside : L} {α β : Type}

theorem Bracket.lock_bind (h : Bracket M m outside inside) {f : Unit → Op β} {Q : β → L → Prop}
    (hf : M.Obeys (f ()) inside Q) : M.Obeys (lock m >>= f) outside Q := by
  refine obeys_ask_bind (.lock m) h.enter.1 fun r _ => ?_
  rw [h.enter.2 r]
  exact hf

theorem Bracket.unlock_bind (h : Bracket M m outside inside) {f : Unit → Op β} {Q : β → L → Prop}
    (hf : M.Obeys (f ()) outside Q) : M.Obeys (unlock m >>= f) inside Q := by
  refine obeys_ask_bind (.unlock m) h.leave.1 fun r _ => ?_
  rw [h.leave.2 r]
  exact hf

theorem Bracket.unlock (h : Bracket M m outside inside) :
    M.Obeys (CsmOperator.unlock m) inside fun _ l => l = outside :=
  Monitor.Obeys.call_iff.mpr ⟨h.leave.1, fun r _ => Monitor.Obeys.ret_iff.mpr (h.leave.2 r)⟩

/-- What does not move the monitor, followed by the rest. -/
theorem obeys_neutral_bind {p : Op α} {f : α → Op β} {Q : β → L → Prop} (hp : M.Neutral p l)
    (hf : ∀ a, M.Obeys (f a) l Q) : M.Obeys (p >>= f) l Q := by
  refine Monitor.Obeys.bind hp fun a l' hl => ?_
  subst hl
  exact hf a

end

/-- How a monitor takes the sections of the code. -/
structure Sections (M : Monitor Api L) (idle handling : L) : Prop where
  idles : M.Idles idle Plain
  /-- status functions run on their own and inside of handlers -/
  status : ∀ l, l = idle ∨ l = handling → ∃ inside, Bracket M .status l inside
  handlers : Bracket M .handlers idle handling
  stopWatch : ∀ name, M.Neutral (stopWatch name) idle
  startWatch : ∀ name n, M.Obeys (startInformers name n) idle fun stop l =>
    M.Neutral (waitForCacheSync stop) l ∧ M.Obeys (installWatch name stop) l fun _ l' => l' = idle

namespace Sections

/-! ### Status functions -/

theorem updateStatus (hstatus : ∃ inside, Bracket M .status l inside) (hl : M.Idles l Plain)
    (override_ : Option PodStatus) : M.Neutral (updateStatus rt csm override_) l := by
  obtain ⟨inside, h⟩ := hstatus
  refine h.lock_bind (obeys_neutral_bind (.of_sat h.idles (plain_calculateState _)) ?_)
  rintro ⟨cr, running, merr⟩
  have hwrite : Asks Plain (fun _ => True)
      (retryOnConflict (writeStatus (recordConfiguration cr running)) defaultRetrySteps) :=
    asks_retryOnConflict plain_writeStatus _
  refine obeys_neutral_bind (.of_sat h.idles hwrite) fun err => h.unlock_bind ?_
  have hmark : Asks Plain (fun _ => True) (note (.statusUpdated (recordConfiguration cr running).key
      (statusError err running merr))) := .ask (.note _) trivial
  exact obeys_neutral_bind (.of_sat hl hmark) fun _ => Monitor.Neutral.pure _

theorem handleSuccess (hstatus : ∃ inside, Bracket M .status l inside) :
    M.Neutral (handleSuccess rt csm) l := by
  obtain ⟨inside, h⟩ := hstatus
  refine h.lock_bind (obeys_neutral_bind (.of_sat h.idles (plain_calculateState _)) ?_)
  rintro ⟨cr, running, err⟩
  exact h.unlock_bind (Monitor.Neutral.pure _)

theorem handleValidationError (hstatus : ∃ inside, Bracket M .status l inside) (e : GoError) :
    M.Neutral (handleValidationError csm e) l := by
  obtain ⟨inside, h⟩ := hstatus
  have hwrite : Asks Plain (fun _ => True) (updateCSMStatus (csm.setState .failed)) :=
    .ask (.updateCSMStatus _) trivial
  exact h.lock_bind (obeys_neutral_bind (.of_sat h.idles hwrite) fun _ =>
    h.unlock_bind (Monitor.Neutral.pure _))

variable (h : Sections M idle handling)

include h

/-! ### Reconciles -/

theorem plain {α : Type} {p : Op α} (hp : Asks Plain (fun _ => True) p) : M.Neutral p idle :=
  .of_sat h.idles hp

/-- Either no watch is started, or its stop channel is left to be kept. -/
theorem contentWatch : M.Obeys (contentWatch rt csm) idle fun r l =>
    match r with
    | .error _ => l = idle
    | .ok stop => M.Obeys (installWatch csm.name stop) l fun _ l' => l' = idle := by
  refine obeys_neutral_bind (h.plain plain_addHandlers) fun err => ?_
  cases err with
  | some e => exact Monitor.Obeys.pure_iff.mpr rfl
  | none =>
      refine (h.startWatch _ _).bind fun stop l ⟨hwait, hinstall⟩ => ?_
      dsimp only
      split
      · exact obeys_neutral_bind hwait fun _ => Monitor.Obeys.pure_iff.mpr hinstall
      · exact Monitor.Obeys.pure_iff.mpr hinstall

theorem finishInstall : M.Neutral (finishInstall rt csm) idle := by
  refine obeys_neutral_bind (updateStatus (h.status idle (.inl rfl)) h.idles none) ?_
  rintro ⟨cr, err⟩
  refine Monitor.Neutral.ite (Monitor.Neutral.pure _) ?_
  refine h.contentWatch.bind fun r l hr => ?_
  cases r with
  | error e => exact Monitor.Obeys.pure_iff.mpr hr
  | ok stop =>
      refine hr.bind fun _ l' hl' => ?_
      subst hl'
      exact obeys_neutral_bind (h.plain (plain_recordEvent _ _ _)) fun _ => Monitor.Neutral.pure _

theorem syncAndFinish : M.Neutral (syncAndFinish rt csm) idle := by
  refine obeys_neutral_bind (handleSuccess (h.status idle (.inl rfl))) ?_
  rintro ⟨cr, requeue⟩
  refine obeys_neutral_bind (h.plain plain_syncCSM) ?_
  rintro ⟨synced, err⟩
  refine Monitor.Neutral.ite h.finishInstall (h.plain ?_)
  exact .bind (plain_recordEvent _ _ _) fun _ => .pure trivial

theorem reconcileInstall : M.Neutral (reconcileInstall rt csm) idle := by
  refine obeys_neutral_bind (h.plain plain_ensureFinalizer) fun r => ?_
  cases r with
  | error failed => exact Monitor.Neutral.pure _
  | ok cr =>
      refine obeys_neutral_bind (h.plain (plain_recordVersion _)) fun r => ?_
      cases r with
      | error e => exact Monitor.Neutral.pure _
      | ok cr => exact h.syncAndFinish

theorem reconcileDeletion : M.Neutral (reconcileDeletion csm) idle := by
  have hremove : Asks Plain (fun _ => True) (removeContent csm) :=
    (asks_removeContent (fun _ => Quiet.plain) (fun _ _ _ => trivial) csm).weaken
  refine obeys_neutral_bind (h.plain hremove) fun failed => ?_
  cases failed with
  | some failed => exact Monitor.Neutral.pure _
  | none =>
      refine obeys_neutral_bind (h.plain plain_removeFinalizer) fun err => ?_
      cases err with
      | some e => exact h.plain (plain_failWith _ _ _ _)
      | none =>
          refine obeys_neutral_bind (h.stopWatch _) fun _ => h.plain ?_
          exact .bind (plain_recordEvent _ _ _) fun _ => .pure trivial

theorem reconcile (key : NamespacedName) : M.Neutral (reconcile rt key) idle := by
  have hread : Asks Plain (fun _ => True) (getCSM key) := .ask (.getCSM _) trivial
  refine obeys_neutral_bind (h.plain hread) fun r => ?_
  cases r with
  | error e => exact Monitor.Neutral.pure _
  | ok cr =>
      show M.Neutral (reconcileRead rt cr) idle
      unfold reconcileRead
      split
      · exact Monitor.Neutral.pure _
      · have hchecks := (quiet_preChecks rt ‹_›).weaken.mono fun _ => Quiet.plain
        refine obeys_neutral_bind (h.plain hchecks) ?_
        rintro ⟨cr', err⟩
        cases err with
        | some e =>
            refine obeys_neutral_bind (h.plain (plain_recordEvent _ _ _)) fun _ => ?_
            exact handleValidationError (h.status idle (.inl rfl)) e
        | none => exact Monitor.Neutral.ite h.reconcileDeletion h.reconcileInstall

/-! ### Handlers -/

theorem informerUpdate (csmName : String) (e : UpdateEvent) :
    M.Neutral (informerUpdate rt csmName e) idle := by
  have hplain : ∀ {p : Op Unit}, Asks Plain (fun _ => True) p →
      M.Obeys (do p; unlock .handlers) handling fun _ l => l = idle :=
    fun hp => obeys_neutral_bind (.of_sat h.handlers.idles hp) fun _ => h.handlers.unlock
  have hstatus : ∀ cr o, M.Neutral (CsmOperator.updateStatus rt cr o) handling :=
    fun _ o => updateStatus (h.status handling (.inr rfl)) h.handlers.idles o
  have hread : ∀ key, M.Neutral (readEventCSM key) handling :=
    fun key => .of_sat h.handlers.idles (plain_readEventCSM key)
  unfold CsmOperator.informerUpdate when
  refine Monitor.Neutral.ite ?_ (Monitor.Neutral.pure _)
  cases e with
  | daemonSet old new =>
      refine h.handlers.lock_bind ?_
      dsimp only
      split
      · refine obeys_neutral_bind (hread _) fun cr => obeys_neutral_bind (hstatus cr _) fun x => ?_
        split
        · exact hplain (plain_recordEvent _ _ _)
        · exact h.handlers.unlock
      · exact h.handlers.unlock
  | deployment old new =>
      refine h.handlers.lock_bind ?_
      dsimp only
      split
      · refine obeys_neutral_bind (hread _) fun cr => obeys_neutral_bind (hstatus cr _) fun x => ?_
        split
        · exact hplain (plain_recordEvent _ _ _)
        · exact h.handlers.unlock
      · exact h.handlers.unlock
  | pod old new =>
      refine h.handlers.lock_bind ?_
      dsimp only
      split
      · refine obeys_neutral_bind (hread _) fun cr => obeys_neutral_bind (hstatus cr _) ?_
        rintro ⟨cr', err⟩
        have htime : Asks Plain (fun _ => True) unixNano := .ask .unixNano trivial
        refine obeys_neutral_bind (.of_sat h.handlers.idles htime) fun now => ?_
        cases err with
        | none => exact hplain (plain_recordEvent _ _ _)
        | some e =>
            dsimp only
            split
            · exact hplain (plain_recordEvent _ _ _)
            · exact hplain (plain_recordEvent _ _ _)
      · exact h.handlers.unlock

end Sections

/-! ## Panics -/

/-- The mutexes that are released by deferred calls. -/
def Mutex.deferred : Mutex → Bool
  | .status | .handlers => true
  | .contentWatch => false

/-- The deferred calls that release mutexes. -/
def unlockAll : List Mutex → Op Unit
  | [] => pure ()
  | m :: ms => do
    unlock m
    unlockAll ms

/-- The mutexes a goroutine has taken and not released, the last one first. -/
def taken (held : List Mutex) : Request → List Mutex
  | .lock m => m :: held
  | .unlock m => held.erase m
  | _ => held

def Request.isPanic : Request → Bool
  | .panic => true
  | _ => false

/-- A goroutine that holds the mutexes `held`. On a run-time panic the deferred calls are made and it
ends: a panic of `Reconcile` is recovered by its worker. -/
def unwinding : List Mutex → Op Unit → Op Unit
  | _, .ret a => .ret a
  | held, .call q k =>
    if q.isPanic then unlockAll (held.filter (·.deferred))
    else .call q fun r => unwinding (taken held q) (k r)

/-- A goroutine asks what its program asks, releases mutexes, and does not stop at a panic. -/
theorem asks_unwinding {P : Request → Prop} {φ : Unit → Prop} (hunlock : ∀ m, P (.unlock m))
    (held : List Mutex) {p : Op Unit} (hp : Asks P φ p) :
    Asks (fun q => P q ∧ q.isPanic = false) (fun _ => True) (unwinding held p) := by
  induction p generalizing held with
  | ret a => exact .pure trivial
  | call q k ih =>
      obtain ⟨hq, hk⟩ := Sat.call_iff.mp hp
      unfold unwinding
      split
      · generalize held.filter (·.deferred) = ms
        induction ms with
        | nil => exact .pure trivial
        | cons m ms ih => exact .bind (.ask (.unlock m) ⟨hunlock m, rfl⟩) fun _ => ih
      next hpanic =>
        exact Sat.call_iff.mpr ⟨⟨hq, Bool.eq_false_iff.mpr hpanic⟩, fun r => ih r _ (hk r)⟩

/-- A monitor that follows a program follows its goroutine, if it takes the deferred calls: `J` relates
its state to the mutexes that are held. -/
theorem obeys_unwinding {J : List Mutex → L → Prop} {Q : Unit → L → Prop}
    (hJ : ∀ held l q r, J held l → M.guard l q → J (taken held q) (M.next l q r))
    (hpanic : ∀ held l, J held l → M.guard l .panic →
      M.Obeys (unlockAll (held.filter (·.deferred))) l Q)
    {p : Op Unit} {held : List Mutex} (hp : M.Obeys p l Q) (h : J held l) :
    M.Obeys (unwinding held p) l Q := by
  induction p generalizing held l with
  | ret a => exact hp
  | call q k ih =>
      obtain ⟨hguard, hnext⟩ := Monitor.Obeys.call_iff.mp hp
      unfold unwinding
      split
      next hq =>
        cases q <;> first | cases hq
        exact hpanic held l h hguard
      next =>
        exact Monitor.Obeys.call_iff.mpr ⟨hguard, fun r hr =>
          ih r (hnext r hr) (hJ held l q r h hguard)⟩

end CsmOperator
