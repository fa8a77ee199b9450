import CsmOperator.Controllers.Exits
import CsmOperator.Status.Running

/-!
# The stored state after a failed reconcile

`Reconcile` computes the state of a CR twice: `HandleSuccess` before the sync, in memory only, and
`UpdateStatus` after it, which stores what it found. The ledger here follows a single call and keeps
the stored state apart from the one in memory. When the call ends in an error, from the sync on,

* nothing was stored if the sync failed, or `HandleSuccess` wants a requeue, or the CR could not be
  read back: the stored state is the one from before the call, and
* `UpdateStatus` has stored the verdict of `calculateState` otherwise. That verdict can be positive:
  pods that are pending do not count against the node pods that are ready, but make an error.
-/

namespace CsmOperator

open Go Interaction

/-- What is followed along a call of `Reconcile`. -/
structure Ledger where
  /-- the state of the stored CR -/
  state : CSMStateType
  /-- a status of the CR was stored -/
  written : Bool := false
  /-- `SyncCSM` has returned -/
  synced : Bool := false
  /-- the reads of workload objects since then -/
  reads : Nat := 0
  /-- `ContentWatch` was called -/
  watching : Bool := false

namespace Ledger

/-- The answers that are expected: a CR is answered under its own key, an update keeps key and spec,
status writes succeed, and after the sync the cluster is `cl` with the faults given. -/
def Expects (cl : Cluster) (faults : FaultPlan) (l : Ledger) : (q : Request) → q.Answer → Prop
  | .getCSM k, .ok cr => cr.key = k
  | .updateCSM cr, .ok cr' => cr'.key = cr.key ∧ cr'.spec = cr.spec
  | .updateCSMStatus _, .error _ => False
  | q, r => l.synced = true → ∀ x, cl.serve faults l.reads q = some x → x.1 = r

/-- The status is a subresource: only a status update changes the stored state. -/
def record (key : NamespacedName) (cl : Cluster) (faults : FaultPlan) (l : Ledger) :
    (q : Request) → q.Answer → Ledger
  | .updateCSMStatus cr, .ok _ =>
    if cr.key = key then { l with state := cr.status.state, written := true } else l
  | .note (.synced _ _), _ => { l with synced := true, reads := 0 }
  | .addEventHandler _, _ => { l with watching := true }
  | q, _ => { l with reads := ((cl.serve faults l.reads q).map (·.2)).getD l.reads }

end Ledger

def ledger (key : NamespacedName) (cl : Cluster) (faults : FaultPlan) : Monitor Api Ledger where
  guard _ _ := True
  assume := Ledger.Expects cl faults
  next := Ledger.record key cl faults

variable {key : NamespacedName} {cl : Cluster} {faults : FaultPlan} {rt : Runtime}
  {stored csm : ContainerStorageModule} {l : Ledger}

/-- Noise moves only the count of reads. -/
theorem ledger_frames :
    (ledger key cl faults).Frames (fun l l' => ∃ n, l' = { l with reads := n }) Noise where
  refl l := ⟨l.reads, rfl⟩
  trans := by
    rintro l₁ l₂ l₃ ⟨n, rfl⟩ ⟨m, rfl⟩
    exact ⟨m, rfl⟩
  tolerates l q hq := by
    refine ⟨trivial, fun r _ => ?_⟩
    cases q <;> first | exact ⟨_, rfl⟩ | exact hq.elim

theorem ledger_unsynced_of_frames (l l' : Ledger) (h : ∃ n, l' = { l with reads := n })
    (hl : l.synced = false) : l'.synced = false := by
  obtain ⟨n, rfl⟩ := h
  exact hl

/-- An update of the CR is not recorded; key and spec come back as they were sent. -/
theorem ledger_updateCSM :
    (ledger key cl faults).Obeys (updateCSM csm) l fun r l' =>
      l' = l ∧ ∀ cr, r = .ok cr → cr.key = csm.key ∧ cr.spec = csm.spec := by
  refine Monitor.Obeys.call_iff.mpr ⟨trivial, fun r hr => Monitor.Obeys.ret_iff.mpr ⟨rfl, ?_⟩⟩
  rintro cr rfl
  exact hr

/-- Only its mark says that the sync has returned. -/
theorem ledger_aside :
    (ledger key cl faults).Frames (fun l l' => l'.synced = l.synced) Aside where
  refl _ := rfl
  trans _ _ _ h₁ h₂ := h₂.trans h₁
  tolerates l q hq := by
    refine ⟨trivial, fun r _ => ?_⟩
    cases q <;> first | rfl | exact hq.elim

/-- After the sync, what `calculateState` comes to is what it reads from the cluster. -/
theorem ledger_calculateState (hl : l.synced = true) :
    (ledger key cl faults).Obeys (calculateState rt csm none) l fun x l' =>
      (∃ n, l' = { l with reads := n }) ∧
      ((∃ st, Recalculated csm st ∧ x.1 = settleState rt (csm.withStatus st) x.2.1) ∧
        (checksNodes csm = false → x.2.2 = none)) ∧
      readFrom cl faults (calculateState rt csm none) l.reads = some (x, l'.reads) := by
  refine Monitor.Obeys.of_exec (fun _ _ _ _ => trivial) ?_ (calculation_calculateState rt csm none)
    ⟨l.reads, rfl⟩
  rintro _ q r ⟨n, rfl⟩ hq hr
  refine ⟨?_, ?_⟩
  · cases q with
    | note n => cases n <;> first | exact ⟨_, rfl⟩ | exact hq.elim
    | _ => first | exact ⟨_, rfl⟩ | exact hq.elim
  · have hserved : ∀ x, cl.serve faults n q = some x → x.1 = r ∧
        ((ledger key cl faults).next { l with reads := n } q r).reads = x.2 := by
      intro x hx
      cases q with
      | note n =>
          cases n with
          | calculated => cases hx; exact ⟨rfl, rfl⟩
          | _ => exact hq.elim
      | panic => exact r.elim
      | _ => first | exact hq.elim | (cases hx; exact ⟨hr hl _ rfl, rfl⟩)
    have hserve : ∃ x, cl.serve faults n q = some x := by
      cases q with
      | panic => exact r.elim
      | _ => first | exact ⟨_, rfl⟩ | exact hq.elim
    obtain ⟨x, hx⟩ := hserve
    obtain ⟨rfl, hreads⟩ := hserved x hx
    rw [hx, hreads]

/-- The status write: it is stored, unless the CR cannot be read back. -/
theorem ledger_writeStatus (hkey : csm.key = key) :
    (ledger key cl faults).Obeys (retryOnConflict (writeStatus csm) defaultRetrySteps) l
      fun err l' => (err = none ∧ l' = { l with state := csm.status.state, written := true }) ∨
        (err.isSome = true ∧ l' = l) := by
  refine obeys_retryOnConflict (fun l₁ hl₁ => ?_) 4 (rfl : l = l)
  subst hl₁
  refine obeys_writeStatus trivial (fun e _ => ⟨.inr ⟨rfl, rfl⟩, fun _ => rfl⟩) fun read hread => ?_
  refine Monitor.Obeys.call_iff.mpr ⟨trivial, fun r hr => Monitor.Obeys.ret_iff.mpr ?_⟩
  match r with
  | .error e => exact hr.elim
  | .ok _ =>
      have hstored : read.key = key := hread.trans hkey
      exact ⟨.inl ⟨rfl, if_pos hstored⟩, nofun⟩

/-- When a call that ended in an error leaves a state other than `Succeeded`: if it stored a status,
the driver does not pass its checks, and if it did not, the state was another one before. -/
def NotSucceededAfter (rt : Runtime) (cl : Cluster) (faults : FaultPlan)
    (csm : ContainerStorageModule) (before : CSMStateType) (written : Bool) : Prop :=
  if written then ¬ (IsDriverCR csm ∧ PassesChecks rt cl faults csm) else before ≠ .succeeded

theorem notSucceededAfter_congr {a b : ContainerStorageModule} (hkey : a.key = b.key)
    (hspec : a.spec = b.spec) (before : CSMStateType) (written : Bool) :
    NotSucceededAfter rt cl faults a before written ↔
      NotSucceededAfter rt cl faults b before written := by
  unfold NotSucceededAfter
  rw [passesChecks_congr hkey hspec]
  have hdriver : IsDriverCR a ↔ IsDriverCR b := by
    have hname : a.name = b.name := congrArg NamespacedName.name hkey
    constructor
    · intro h
      exact ⟨hname ▸ h.name_ne, by simpa [isAuthorizationProxyServer,
        ContainerStorageModule.hasModule, hspec] using h.not_proxy⟩
    · intro h
      exact ⟨hname ▸ h.name_ne, by simpa [isAuthorizationProxyServer,
        ContainerStorageModule.hasModule, hspec] using h.not_proxy⟩
  rw [hdriver]

theorem isDriverCR_of_checksNodes (h : checksNodes csm = true) : IsDriverCR csm := by
  simp only [checksNodes, Bool.and_eq_true, decide_eq_true_eq, Bool.not_eq_true'] at h
  exact ⟨h.1.1, h.1.2⟩

/-- `UpdateStatus` after the sync, when it returns an error. -/
theorem ledger_updateStatus (hl : l.synced = true) (hreads : l.reads = 0)
    (hwritten : l.written = false) (hkey : csm.key = key) :
    (ledger key cl faults).Obeys (updateStatus rt csm none) l fun x l' => x.2.isSome = true →
      (l'.state ≠ .succeeded ↔ NotSucceededAfter rt cl faults csm l.state l'.written) := by
  -- the reads are counted, so the lock is followed by hand
  refine obeys_ask_bind (.lock .status) trivial fun _ _ => ?_
  refine (ledger_calculateState hl).bind ?_
  rintro ⟨cr, running, merr⟩ _ ⟨⟨n, rfl⟩, ⟨⟨st, hst, hcr⟩, hmerr⟩, hread⟩
  dsimp only at hcr hmerr ⊢
  have hread' : readFrom cl faults (calculateState rt csm none) 0 =
      some ((cr, running, merr), n) := hreads ▸ hread
  have hstate : cr.status.state = if running then .succeeded else .failed := by
    have := settleState_state rt (csm.withStatus st) running
    rw [ContainerStorageModule.withStatus_status, hst.state] at this
    exact hcr ▸ this
  obtain ⟨st', hst'⟩ := settleState_eq_withStatus rt (csm.withStatus st) running
  obtain ⟨c, hc⟩ := recordConfiguration_eq cr running
  have hkey' : (recordConfiguration cr running).key = cr.key := by rw [hc]; rfl
  have hstate' : (recordConfiguration cr running).status.state = cr.status.state := by rw [hc]; rfl
  have hcrkey : cr.key = key := by rw [hcr, hst']; exact hkey
  refine (ledger_writeStatus (hkey'.trans hcrkey)).bind fun err l₁ hl₁ => ?_
  refine obeys_ask_bind (.unlock .status) trivial fun _ _ => ?_
  refine obeys_ask_bind (.note _) trivial fun _ _ => Monitor.Obeys.pure_iff.mpr fun herr => ?_
  rcases hl₁ with ⟨rfl, rfl⟩ | ⟨-, rfl⟩
  · -- the verdict is stored, and an error with a positive verdict is one of the nodes
    show (recordConfiguration cr running).status.state ≠ .succeeded ↔
      ¬ (IsDriverCR csm ∧ PassesChecks rt cl faults csm)
    rw [hstate', hstate]
    cases running with
    | false =>
        simp only [Bool.false_eq_true, if_false, ne_eq, reduceCtorEq, not_false_eq_true, true_iff]
        rintro ⟨hdriver, hpass⟩
        exact Bool.false_ne_true ((calculateState_verdict hdriver hread').mpr hpass)
    | true =>
        simp only [if_true, ne_eq, not_true_eq_false, false_iff, not_not]
        have hnodes : checksNodes csm = true := by
          by_contra hno
          have herr' : merr.isSome = true := herr
          rw [hmerr (Bool.not_eq_true _ ▸ hno)] at herr'
          cases herr'
        have hdriver := isDriverCR_of_checksNodes hnodes
        exact ⟨hdriver, (calculateState_verdict hdriver hread').mp rfl⟩
  · show l.state ≠ .succeeded ↔ NotSucceededAfter rt cl faults csm l.state l.written
    rw [hwritten]
    rfl

/-- Once `ContentWatch` was called, that stays on record. -/
theorem ledger_of_watching {α : Type} {p : Op α} {Q : α → Ledger → Prop} (hl : l.watching = true)
    (hQ : ∀ a l', l'.watching = true → Q a l') : (ledger key cl faults).Obeys p l Q := by
  have hM : (ledger key cl faults).Frames
      (fun l l' => l.watching = true → l'.watching = true) (fun _ => True) := by
    refine ⟨fun _ h => h, fun _ _ _ h₁ h₂ h => h₂ (h₁ h), fun l q _ => ⟨trivial, fun r _ h => ?_⟩⟩
    simp only [ledger]
    unfold Ledger.record
    split
    · split <;> exact h
    · exact h
    · rfl
    · exact h
  exact hM.obeys (.true p) fun a l' _ h => hQ a l' (h hl)

/-- What an error of `Reconcile` means for the stored state, from the sync on. -/
def ErrorSettles (rt : Runtime) (cl : Cluster) (faults : FaultPlan) (csm : ContainerStorageModule)
    (before : CSMStateType) (x : Result × Option GoError) (l : Ledger) : Prop :=
  l.synced = true → l.watching = false → x.2.isSome = true →
    (l.state ≠ .succeeded ↔ NotSucceededAfter rt cl faults csm before l.written)

theorem ledger_finishInstall (hl : l.synced = true) (hreads : l.reads = 0)
    (hwritten : l.written = false) (hkey : csm.key = key) :
    (ledger key cl faults).Obeys (finishInstall rt csm) l
      (ErrorSettles rt cl faults csm l.state) := by
  refine (ledger_updateStatus hl hreads hwritten hkey).bind ?_
  rintro ⟨csm', err⟩ l₁ hsettled
  dsimp only at hsettled ⊢
  split
  next => exact Monitor.Obeys.pure_iff.mpr fun _ _ h => hsettled h
  next =>
    -- the first request of `ContentWatch` is on record
    refine Monitor.Obeys.call_iff.mpr ⟨trivial, fun r _ => ?_⟩
    refine ledger_of_watching rfl fun x l' hwatching _ hnot => ?_
    rw [hwatching] at hnot
    cases hnot

theorem ledger_syncAndFinish (hwritten : l.written = false) (hkey : csm.key = key) :
    (ledger key cl faults).Obeys (syncAndFinish rt csm) l
      (ErrorSettles rt cl faults csm l.state) := by
  -- the state is computed in memory
  refine Monitor.Obeys.bind_iff.mpr (obeys_handleSuccess ledger_frames ?_)
  rintro _ ⟨n₁, rfl⟩
  refine obeys_calculateState (ledger_frames.mono fun _ => Noise.of_inert) ?_
  rintro st₀ running _ _ - - ⟨n₂, rfl⟩
  refine Monitor.Obeys.call_iff.mpr ⟨trivial, fun _ _ => Monitor.Obeys.ret_iff.mpr ?_⟩
  rintro s _ ⟨n₃, rfl⟩
  obtain ⟨st₁, hst₁⟩ := settleState_eq_withStatus rt (csm.withStatus st₀) running
  obtain ⟨st, hst⟩ : ∃ st, (settleState rt (csm.withStatus st₀) running).setState s =
      csm.withStatus st := ⟨_, by rw [hst₁]; rfl⟩
  dsimp only
  rw [hst]
  -- once the sync has returned
  have hrest : ∀ annotations err n, (ledger key cl faults).Obeys
      (note (.synced (csm.withStatus st) err)) { l with reads := n } fun _ l₂ =>
        (ledger key cl faults).Obeys
          (if err.isNone && !(!running && !determineUnitTestRun rt) then
            finishInstall rt { csm.withStatus st with annotations }
          else failInstall { csm.withStatus st with annotations } err) l₂
          (ErrorSettles rt cl faults csm l.state) := by
    intro annotations err n
    refine Monitor.Obeys.call_iff.mpr ⟨trivial, fun _ _ => Monitor.Obeys.ret_iff.mpr ?_⟩
    split
    · refine Monitor.Obeys.mono (ledger_finishInstall ?_ ?_ ?_ ?_) ?_
      · rfl
      · rfl
      · exact hwritten
      · exact hkey
      · intro x l' h hsynced hwatching herr
        refine (h hsynced hwatching herr).trans (notSucceededAfter_congr ?_ ?_ _ _)
        · rfl
        · rfl
    · refine obeys_ask_bind (.event _ _ _ _) trivial fun _ _ => Monitor.Obeys.pure_iff.mpr ?_
      intro _ _ _
      show l.state ≠ .succeeded ↔ NotSucceededAfter rt cl faults csm l.state l.written
      rw [hwritten]
      rfl
  refine Monitor.Obeys.bind_iff.mpr (obeys_syncCSM ledger_frames ?_ ?_)
  · rintro err _ ⟨n, rfl⟩ -
    exact hrest _ err n
  · rintro annotations out _ ⟨n, rfl⟩ - -
    refine Monitor.Obeys.call_iff.mpr ⟨trivial, fun _ _ => Monitor.Obeys.ret_iff.mpr ?_⟩
    rintro cr err _ ⟨m, rfl⟩ -
    exact hrest _ err m

/-- The CR as `Reconcile` installs it. -/
def installedCR (op : OperatorConfig) (stored : ContainerStorageModule) : ContainerStorageModule :=
  match prepare op stored with
  | .ok csm => afterDriverPrecheck csm
  | .error _ => stored

/-- The whole of `Reconcile`, from the stored CR on. -/
theorem ledger_reconcilePrepared (hprep : prepare rt.op stored = .ok csm)
    (hwritten : l.written = false) (hsynced : l.synced = false) (hkey : stored.key = key) :
    (ledger key cl faults).Obeys (reconcilePrepared rt csm) l
      (ErrorSettles rt cl faults (installedCR rt.op stored) l.state) := by
  have hinst : installedCR rt.op stored = afterDriverPrecheck csm := by
    rw [installedCR, hprep]
  have hinstkey : (installedCR rt.op stored).key = key := by
    obtain ⟨spec, rfl⟩ := prepare_eq hprep
    obtain ⟨spec', hspec'⟩ := afterDriverPrecheck_eq { stored with spec }
    rw [hinst, hspec']
    exact hkey
  -- before the sync nothing is claimed
  have hearly : ∀ x l', l'.synced = false →
      ErrorSettles rt cl faults (installedCR rt.op stored) l.state x l' := by
    intro x l' hno hyes
    rw [hno] at hyes
    cases hyes
  refine obeys_reconcilePrepared ledger_frames ?_ ?_
  · -- the validation error is stored, but nothing was synced
    rintro cr e _ - ⟨n, rfl⟩
    refine obeys_ask_bind (.lock _) trivial fun _ _ => ?_
    refine obeys_ask_bind (.updateCSMStatus _) trivial fun r hr => ?_
    refine obeys_ask_bind (.unlock _) trivial fun _ _ => Monitor.Obeys.pure_iff.mpr ?_
    refine hearly _ _ ?_
    match r with
    | .error e => exact hr.elim
    | .ok _ =>
        show (if _ = key then _ else _ : Ledger).synced = false
        split <;> exact hsynced
  · rintro _ ⟨n, rfl⟩ -
    rw [← hinst]
    split
    · refine obeys_reconcileDeletion ledger_frames ledger_unsynced_of_frames hsynced
        (fun e l' hl' => hearly _ l' hl') fun l' h' => ?_
      have hl' : l'.synced = false := ledger_unsynced_of_frames _ _ h' hsynced
      refine Monitor.Obeys.mono ?_ fun err l'' hl'' => ⟨fun _ => hl'', fun _ => ?_⟩
      · unfold removeFinalizer
        split
        · refine ledger_updateCSM.bind fun r l₁ h₁ => ?_
          obtain rfl := h₁.1
          cases r <;> exact Monitor.Obeys.pure_iff.mpr hl'
        · exact Monitor.Obeys.pure_iff.mpr hl'
      · exact ledger_aside.obeys (watching_finishDeletion _).aside fun x l₃ _ h₃ => hearly _ _ (h₃.trans hl'')
    · -- what is known of the CR in memory, up to the sync
      let V : ContainerStorageModule → Ledger → Prop := fun cr l' =>
        (cr.key = (installedCR rt.op stored).key ∧ cr.spec = (installedCR rt.op stored).spec) ∧
          ∃ n, l' = { l with reads := n }
      have hV : ∀ cr l₁ l₂, (∃ n, l₂ = { l₁ with reads := n }) → V cr l₁ → V cr l₂ := by
        rintro cr _ _ ⟨m, rfl⟩ ⟨hcr, k, rfl⟩
        exact ⟨hcr, m, rfl⟩
      have hreply : ∀ cr l₁, V cr l₁ → (ledger key cl faults).Obeys (updateCSM cr) l₁
          (Reply V fun l' => l'.synced = false) := by
        rintro cr _ ⟨hcr, k, rfl⟩
        refine ledger_updateCSM.mono fun r l₂ h₂ => ?_
        obtain ⟨rfl, hkept⟩ := h₂
        cases r with
        | error e => exact hsynced
        | ok cr' =>
            obtain ⟨hk, hs⟩ := hkept cr' rfl
            exact ⟨⟨hk.trans hcr.1, hs.trans hcr.2⟩, k, rfl⟩
      refine obeys_reconcileInstall (V := V) (W := V) ledger_frames ledger_unsynced_of_frames hV
        ⟨⟨rfl, rfl⟩, n, rfl⟩ (fun e l' hl' => hearly _ l' hl') ?_ ?_ ?_
      · exact hreply _ _ ⟨⟨rfl, rfl⟩, n, rfl⟩
      · intro cr l₁ hcr
        obtain ⟨annotations, hann⟩ := applyConfigVersionAnnotations_fst rt.op cr
        have hcr' : V (applyConfigVersionAnnotations rt.op cr).1 l₁ := hann ▸ hcr
        unfold recordVersion
        split
        next cr' heq =>
          rw [heq] at hcr'
          exact Monitor.Obeys.pure_iff.mpr hcr'
        next cr' heq =>
          rw [heq] at hcr'
          exact hreply cr' l₁ hcr'
      · rintro cr _ ⟨⟨hk, hs⟩, m, rfl⟩
        refine Monitor.Obeys.mono (ledger_syncAndFinish hwritten (hk.trans hinstkey)) ?_
        intro x l' h hsynced hwatching herr
        exact (h hsynced hwatching herr).trans (notSucceededAfter_congr hk hs _ _)

/-- A PowerScale CR that runs. -/
def installedIsilon : ContainerStorageModule :=
  { isilonCR with
    spec := { isilonCR.spec with driver := { isilonCR.spec.driver with configVersion := "v2.17.1" } }
    status := { state := .succeeded } }

/-- The error of a DaemonSet that is not accepted. -/
def daemonsetRejected : Action → Option GoError
  | .syncDaemonset => some (errorf "admission webhook denied the request")
  | _ => none

theorem obliging_expected {fails : Action → Option GoError} (l : Ledger) (q : Request) (r : q.Answer)
    (h : obliging stored cl fails q = some r) : (ledger key cl fun _ => none).assume l q r := by
  cases q with
  | getCSM k =>
      have hr : getStored stored k = r := Option.some.inj h
      match r, hr with
      | .ok cr, hr => exact key_of_getStored hr
      | .error e, _ => intro _ x hx; cases hx
  | panic => exact r.elim
  | updateCSM cr => cases h; exact ⟨rfl, rfl⟩
  | _ => cases h; intro _ x hx; cases hx <;> rfl

/-- A failed call evaluated against obliging answers. -/
theorem exists_failed_run {fails : Action → Option GoError} {written : Bool} {state : CSMStateType}
    (h : ((reconcileRead rt stored).exec
        ((ledger key cl fun _ => none).serve fun _ => obliging stored cl fails)
        { state := stored.status.state }).map
        (fun x => (x.1.2.isSome, x.2.synced, x.2.watching, x.2.written, x.2.state)) =
      some (true, true, false, written, state)) :
    ∃ tr res e, Run (reconcile rt key) (⟨.getCSM key, .ok stored⟩ :: tr) (res, some e) ∧
      (ledger key cl fun _ => none).Admits { state := stored.status.state } tr ∧
      ∃ l, (ledger key cl fun _ => none).after { state := stored.status.state } tr = l ∧
        l.synced = true ∧ l.watching = false ∧ l.written = written ∧ l.state = state := by
  obtain ⟨⟨⟨res, err⟩, l⟩, hexec, hout⟩ := Option.map_eq_some_iff.mp h
  simp only [Prod.mk.injEq] at hout
  obtain ⟨herr, hl⟩ := hout
  obtain ⟨e, rfl⟩ := Option.isSome_iff_exists.mp herr
  obtain ⟨tr, hrun, hans, hafter⟩ := Monitor.exists_run_of_serve _ obliging_expected hexec
  exact ⟨tr, res, e, .call hrun, hans, l, hafter, hl⟩

end CsmOperator
