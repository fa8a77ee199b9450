import CsmOperator.Controllers.Runs
import CsmOperator.World.Cluster

/-!
# When `Reconcile` is not retried

An empty result with a nil error tells the work queue that there is nothing left to do. `Reconcile`
should say so only when the CR is gone, its deletion is completed, or everything was installed: `SyncCSM`,
`UpdateStatus` and `ContentWatch` have succeeded.

There are two exits where it does so without reason. An error of the first read other than `NotFound` is
returned as nil, although the comment next to it says that the request is requeued. And in a unit test an
error of `UpdateStatus` is not returned. All other errors are.
-/

namespace CsmOperator

open Interaction

variable {rt : Runtime} {key : NamespacedName} {csm : ContainerStorageModule}
  {tr : List (Event Api)}

/-! ## Status reports -/

/-- What a call reports of an `UpdateStatus`. -/
def reports : Event Api → Option (Option GoError)
  | ⟨.note (.statusUpdated _ err), _⟩ => some err
  | _ => none

/-- Everything but the return of `UpdateStatus`. -/
def Unreported : Request → Prop
  | .note (.statusUpdated _ _) => False
  | _ => True

theorem reports_eq_none {e : Event Api} (h : Unreported e.req) : reports e = none := by
  unfold reports
  split
  · exact h.elim
  · rfl

theorem filterMap_reports_of_asks {α : Type} {p : Op α} {a : α}
    (h : Asks Unreported (fun _ => True) p) (hr : Run p tr a) : tr.filterMap reports = [] := by
  rw [List.filterMap_eq_nil_iff]
  exact fun e he => reports_eq_none ((Sat.of_run h hr).1 e he)

theorem Noise.unreported {q : Request} (h : Noise q) : Unreported q := by
  cases q <;> first | exact h.elim | trivial

theorem Aside.unreported {q : Request} (h : Aside q) : Unreported q := by
  cases q <;> first | exact h.elim | trivial

theorem Judging.unreported {q : Request} (h : Judging q) : Unreported q := by
  cases q with
  | note n => cases n <;> first | exact h.elim | trivial
  | _ => first | exact h.elim | trivial

/-- The monitor that collects the reports. -/
def reporting : Monitor Api (List (Option GoError)) where
  guard _ _ := True
  assume _ _ _ := True
  next l q r := l ++ (reports ⟨q, r⟩).toList

theorem reporting_after (l : List (Option GoError)) (tr : List (Event Api)) :
    reporting.after l tr = l ++ tr.filterMap reports := by
  induction tr generalizing l with
  | nil => rw [List.filterMap_nil, List.append_nil]; rfl
  | cons e tr ih =>
      rw [Monitor.after_cons, ih, List.filterMap_cons]
      show l ++ (reports e).toList ++ _ = _
      cases reports e with
      | none => rw [Option.toList_none, List.append_nil]
      | some x => rw [Option.toList_some, List.append_assoc]; rfl

theorem reporting_noise : reporting.Frames (fun l l' => l' = l) Noise where
  refl _ := rfl
  trans _ _ _ h h' := h'.trans h
  tolerates l q hq := by
    refine ⟨trivial, fun r _ => ?_⟩
    show l ++ (reports ⟨q, r⟩).toList = l
    rw [reports_eq_none (e := ⟨q, r⟩) hq.unreported, Option.toList_none, List.append_nil]

/-- `SyncCSM` does not report a status. -/
theorem filterMap_reports_syncCSM {x : ContainerStorageModule × Option GoError}
    (h : Run (syncCSM rt csm) tr x) : tr.filterMap reports = [] := by
  have hcall : ∀ (q : Request) (l : List (Option GoError)), Unreported q → ∀ r,
      l ++ (reports ⟨q, r⟩).toList = l := by
    intro q l hq r
    rw [reports_eq_none (e := ⟨q, r⟩) hq, Option.toList_none, List.append_nil]
  have hnote : ∀ err, reporting.Obeys (note (.synced csm err)) [] fun _ l => l = [] := fun err =>
    Monitor.Obeys.call_iff.mpr ⟨trivial, fun r _ =>
      Monitor.Obeys.ret_iff.mpr (hcall (.note (.synced csm err)) [] trivial r)⟩
  have hsync : reporting.Obeys (syncCSM rt csm) [] fun _ l => l = [] := by
    refine obeys_syncCSM reporting_noise (fun err l₁ h₁ _ => ?_) fun annotations out l₁ h₁ _ _ => ?_
    · subst h₁
      exact hnote err
    · subst h₁
      refine Monitor.Obeys.call_iff.mpr ⟨trivial, fun r _ => Monitor.Obeys.ret_iff.mpr ?_⟩
      intro cr err l₃ h₃ _
      have h₃ : l₃ = [] := h₃.trans (hcall (.updateCSM _) [] trivial r)
      subst h₃
      exact hnote err
  have hafter := hsync.of_run h (Monitor.admits_of_forall _ (fun _ _ _ => trivial) _ _)
  rw [reporting_after] at hafter
  exact hafter

/-- `UpdateStatus` reports what it returns. -/
theorem filterMap_reports_updateStatus {csm' : ContainerStorageModule} {err : Option GoError}
    (h : Run (updateStatus rt csm none) tr (csm', err)) : tr.filterMap reports = [err] := by
  have hwrite : ∀ cr, Asks Unreported (fun _ => True)
      (retryOnConflict (writeStatus cr) defaultRetrySteps) := by
    refine fun cr => asks_retryOnConflict (.bind (.ask (.getCSM _) trivial) fun r => ?_) _
    match r with
    | .error e => exact .pure trivial
    | .ok read =>
        refine .bind (.ask (.updateCSMStatus _) trivial) fun r => ?_
        match r with
        | .error e => exact .pure trivial
        | .ok _ => exact .pure trivial
  obtain ⟨_, _, _, rfl, hlock, h⟩ := Run.bind_iff.mp h
  obtain ⟨_, _, ⟨cr, running, merr⟩, rfl, hcalc, h⟩ := Run.bind_iff.mp h
  obtain ⟨_, _, werr, rfl, hretry, h⟩ := Run.bind_iff.mp h
  obtain ⟨_, _, _, rfl, hunlock, h⟩ := Run.bind_iff.mp h
  obtain ⟨_, _, _, rfl, hnote, h⟩ := Run.bind_iff.mp h
  obtain ⟨rfl, heq⟩ := Run.ret_iff.mp h
  obtain ⟨_, _, rfl, hret⟩ := Run.call_iff.mp hnote
  obtain ⟨rfl, -⟩ := Run.ret_iff.mp hret
  cases heq
  have hlock' := filterMap_reports_of_asks (Asks.ask (.lock .status) trivial) hlock
  have hunlock' := filterMap_reports_of_asks (Asks.ask (.unlock .status) trivial) hunlock
  have hcalc' := filterMap_reports_of_asks
    ((judging_calculateState none).weaken.mono fun _ => Judging.unreported) hcalc
  have hretry' := filterMap_reports_of_asks (hwrite _) hretry
  simp only [List.filterMap_append, hlock', hcalc', hretry', hunlock', List.nil_append,
    List.append_nil]
  rfl

/-! ## What was finished -/

/-- The reasons not to come back. -/
inductive Finished (rt : Runtime) (key : NamespacedName) (tr : List (Event Api)) : Prop
  /-- the CR was not found -/
  | notFound (e : GoError) (hkind : e.kind = .notFound) (htr : tr = [⟨.getCSM key, .error e⟩])
  /-- its deletion was completed -/
  | deleted (csm cr : ContainerStorageModule) (tr₀ tr₁ tr₂ tr₃ : List (Event Api))
      (htr : tr = ⟨.getCSM key, .ok csm⟩ :: (tr₀ ++ (tr₁ ++ (tr₂ ++ tr₃))))
      (hprepare : prepare rt.op csm = .ok cr) (hdeleting : cr.isBeingDeleted = true)
      (hcontent : Run (removeContent (afterDriverPrecheck cr)) tr₁ none)
      (hfinalizer : Run (removeFinalizer (afterDriverPrecheck cr)) tr₂ none)
  /-- `SyncCSM`, `UpdateStatus` and `ContentWatch` have succeeded -/
  | installed (csm₁ csm₂ csm₃ cr : ContainerStorageModule) (stop : Chan)
      (tr₀ tr₁ tr₂ tr₃ tr₄ : List (Event Api))
      (htr : tr = tr₀ ++ (tr₁ ++ (tr₂ ++ (tr₃ ++ tr₄))))
      (hsync : Run (syncCSM rt csm₁) tr₁ (cr, none))
      (hstatus : Run (updateStatus rt csm₂ none) tr₂ (csm₃, none))
      (hwatch : Run (contentWatch rt csm₃) tr₃ (.ok stop))

/-- The first read failed, and not because there is no CR. -/
def ReadFailed (key : NamespacedName) (tr : List (Event Api)) : Prop :=
  ∃ e tr', e.kind ≠ .notFound ∧ tr = (⟨.getCSM key, .error e⟩ : Event Api) :: tr'

/-- `UpdateStatus` returned an error. -/
def StatusFailed (tr : List (Event Api)) : Prop := ∃ e, some e ∈ tr.filterMap reports

/-- How a finished run can be told: by its first read, or by the success it has reported. -/
theorem Finished.shown (h : Finished rt key tr) :
    (∃ e, e.kind = .notFound ∧ tr = [⟨.getCSM key, .error e⟩]) ∨
      (∃ csm cr tr', tr = ⟨.getCSM key, .ok csm⟩ :: tr' ∧ prepare rt.op csm = .ok cr ∧
        cr.isBeingDeleted = true) ∨ none ∈ tr.filterMap reports := by
  cases h with
  | notFound e hkind htr => exact .inl ⟨e, hkind, htr⟩
  | deleted csm cr _ _ _ _ htr hprepare hdeleting _ _ =>
      exact .inr (.inl ⟨csm, cr, _, htr, hprepare, hdeleting⟩)
  | installed csm₁ csm₂ csm₃ cr stop tr₀ tr₁ tr₂ tr₃ tr₄ htr _ hstatus _ =>
      refine .inr (.inr ?_)
      rw [htr, List.filterMap_append, List.filterMap_append, List.filterMap_append,
        filterMap_reports_updateStatus hstatus]
      simp

/-! ## The branches that return nil -/

/-- A failed read is a reason only if nothing was found. -/
theorem finished_of_readError (rt : Runtime) (e : GoError) :
    Finished rt key [⟨.getCSM key, .error e⟩] ↔ ¬ ReadFailed key [⟨.getCSM key, .error e⟩] := by
  constructor
  · rintro h ⟨e₁, tr', hkind₁, heq₁⟩
    cases heq₁
    obtain ⟨e₂, hkind₂, heq₂⟩ | ⟨_, _, _, heq₂, _⟩ | hnone := h.shown
    · cases heq₂
      exact hkind₁ hkind₂
    · injection heq₂ with heq₂
      cases heq₂
    · cases hnone
  · intro h
    by_cases hkind : e.kind = .notFound
    · exact .notFound e hkind rfl
    · exact (h ⟨e, [], hkind, rfl⟩).elim

theorem unreported_preChecks (rt : Runtime) (csm : ContainerStorageModule) :
    Asks Unreported (fun _ => True) (preChecks rt csm) :=
  (quiet_preChecks rt csm).weaken.calm.mono fun _ hq => hq.noise.unreported

theorem unreported_removeFinalizer : Asks Unreported (fun _ => True) (removeFinalizer csm) := by
  unfold removeFinalizer
  refine .ite (.bind (.ask (.updateCSM _) trivial) fun r => ?_) (.pure trivial)
  match r with
  | .error e => exact .pure trivial
  | .ok _ => exact .pure trivial

theorem unreported_ensureFinalizer : Asks Unreported (fun _ => True) (ensureFinalizer csm) := by
  unfold ensureFinalizer
  refine .ite (.pure trivial) (.bind (.ask (.updateCSM _) trivial) fun r => ?_)
  match r with
  | .error e =>
      refine .bind (.bind (.ask (.event _ _ _ _) trivial) fun _ => .pure trivial) fun _ => .pure trivial
  | .ok _ => exact .bind (.ask (.event _ _ _ _) trivial) fun _ => .pure trivial

theorem unreported_recordVersion (op : OperatorConfig) :
    Asks Unreported (fun _ => True) (recordVersion op csm) := by
  unfold recordVersion
  split
  · exact .pure trivial
  · exact .ask (.updateCSM _) trivial

/-- A deletion that returns nil is completed, without a report. -/
theorem finished_of_deletion {tr₀ tr' : List (Event Api)} {cr : ContainerStorageModule}
    (hprepare : prepare rt.op csm = .ok cr) (hdeleting : cr.isBeingDeleted = true)
    (hchecks : Run (preChecks rt cr) tr₀ (afterDriverPrecheck cr, none))
    (h : Run (reconcileDeletion (afterDriverPrecheck cr)) tr' ({}, none)) :
    Finished rt key (⟨.getCSM key, .ok csm⟩ :: (tr₀ ++ tr')) ∧
      (⟨.getCSM key, .ok csm⟩ :: (tr₀ ++ tr')).filterMap reports = [] := by
  obtain hsome | ⟨tr₁, tr₂, tr₃, rfl, hcontent, hfinalizer, hfinish⟩ := run_reconcileDeletion h
  · cases hsome
  · refine ⟨.deleted csm cr tr₀ tr₁ tr₂ tr₃ rfl hprepare hdeleting hcontent hfinalizer, ?_⟩
    have h₀ := filterMap_reports_of_asks (unreported_preChecks rt cr) hchecks
    have h₁ := filterMap_reports_of_asks
      ((calm_removeContent _).weaken.mono fun _ hq => hq.noise.unreported) hcontent
    have h₂ := filterMap_reports_of_asks unreported_removeFinalizer hfinalizer
    have h₃ := filterMap_reports_of_asks
      ((watching_finishDeletion _).weaken.aside.mono fun _ => Aside.unreported) hfinish
    rw [List.filterMap_cons_none rfl, List.filterMap_append, List.filterMap_append,
      List.filterMap_append, h₀, h₁, h₂, h₃]
    rfl

/-- An install that returns nil has one report. It is a success, or it was ignored in a unit test. -/
theorem finished_of_install {tr₀ tr' : List (Event Api)} {cr : ContainerStorageModule}
    (hchecks : Run (preChecks rt cr) tr₀ (afterDriverPrecheck cr, none))
    (h : Run (reconcileInstall rt (afterDriverPrecheck cr)) tr' ({}, none)) :
    ∃ err, (⟨.getCSM key, .ok csm⟩ :: (tr₀ ++ tr')).filterMap reports = [err] ∧
      (err = none ∨ determineUnitTestRun rt = true) ∧
      (err = none → Finished rt key (⟨.getCSM key, .ok csm⟩ :: (tr₀ ++ tr'))) := by
  obtain hsome | ⟨tr₁, tr₂, tr₃, csm₁, csm₂, rfl, hfinalizer, hversion, hsync⟩ :=
    run_reconcileInstall h
  · cases hsome
  obtain hsome | ⟨tr₄, tr₅, tr₆, csm₃, cr', requeue, rfl, hsuccess, hsynced, hfinish⟩ :=
    run_syncAndFinish hsync
  · cases hsome
  obtain hsome | ⟨tr₇, tr₈, tr₉, csm₄, err, stop, rfl, hstatus, herr, hwatch, hend⟩ :=
    run_finishInstall hfinish
  · cases hsome
  refine ⟨err, ?_, herr, fun hnone => ?_⟩
  · have h₀ := filterMap_reports_of_asks (unreported_preChecks rt cr) hchecks
    have h₁ := filterMap_reports_of_asks unreported_ensureFinalizer hfinalizer
    have h₂ := filterMap_reports_of_asks (unreported_recordVersion rt.op) hversion
    have h₄ := filterMap_reports_of_asks
      (judging_handleSuccess.weaken.mono fun _ => Judging.unreported) hsuccess
    have h₈ := filterMap_reports_of_asks
      ((watching_contentWatch rt csm₄).aside.mono fun _ => Aside.unreported) hwatch
    have h₉ : tr₉.filterMap reports = [] := by
      refine filterMap_reports_of_asks (.bind ((watching_installWatch csm₄.name stop).aside.mono
        fun _ => Aside.unreported) fun _ => ?_) hend
      exact .bind (.ask (.event _ _ _ _) trivial) fun _ => .pure trivial
    rw [List.filterMap_cons_none rfl]
    simp only [List.filterMap_append, h₀, h₁, h₂, h₄, filterMap_reports_syncCSM hsynced,
      filterMap_reports_updateStatus hstatus, h₈, h₉, List.nil_append, List.append_nil]
  · subst hnone
    refine .installed csm₃ _ csm₄ cr' stop
      (⟨.getCSM key, .ok csm⟩ :: (tr₀ ++ (tr₁ ++ (tr₂ ++ tr₄)))) tr₅ tr₇ tr₈ tr₉ ?_ hsynced hstatus
      hwatch
    simp only [List.cons_append, List.append_assoc]

/-- **`Reconcile` returns an empty result and nil with a reason** exactly when the first read did not
fail otherwise than with `NotFound`, and it is no unit test in which `UpdateStatus` failed. -/
theorem reconcile_nil_iff (h : Run (reconcile rt key) tr ({}, none)) :
    Finished rt key tr ↔
      ¬ ReadFailed key tr ∧ ¬ (determineUnitTestRun rt = true ∧ StatusFailed tr) := by
  obtain ⟨e, rfl, -⟩ | ⟨csm, tr', rfl, hread⟩ := run_reconcile h
  · have hquiet : ¬ (determineUnitTestRun rt = true ∧
        StatusFailed [(⟨.getCSM key, .error e⟩ : Event Api)]) := by
      rintro ⟨-, e', he'⟩
      cases he'
    exact (finished_of_readError rt e).trans (and_iff_left hquiet).symm
  obtain ⟨e, hx⟩ | ⟨cr, hprepare, hprepared⟩ := run_reconcileRead hread
  · cases hx
  obtain hsome | ⟨tr₀, tr₁, rfl, hchecks, hrest⟩ := run_reconcilePrepared hprepared
  · cases hsome
  have hreadOk : ¬ ReadFailed key ((⟨.getCSM key, .ok csm⟩ : Event Api) :: (tr₀ ++ tr₁)) := by
    rintro ⟨e, tr', -, heq⟩
    injection heq with heq
    cases heq
  split at hrest
  next hdeleting =>
    rw [isBeingDeleted_afterDriverPrecheck] at hdeleting
    obtain ⟨hfinished, hreports⟩ := finished_of_deletion hprepare hdeleting hchecks hrest
    refine ⟨fun _ => ⟨hreadOk, ?_⟩, fun _ => hfinished⟩
    rintro ⟨-, e, he⟩
    rw [hreports] at he
    cases he
  next hdeleting =>
    obtain ⟨err, hreports, herr, hfinished⟩ := finished_of_install hchecks hrest
    refine ⟨fun h => ⟨hreadOk, ?_⟩, fun h => hfinished ?_⟩
    · rintro ⟨-, e, he⟩
      rw [hreports] at he
      obtain rfl : err = some e := (List.mem_singleton.mp he).symm
      obtain ⟨e', -, heq⟩ | ⟨csm', cr', tr', heq, hprepare', hdeleting'⟩ | hnone := h.shown
      · injection heq with heq
        cases heq
      · injection heq with heq
        cases heq
        obtain rfl : cr' = cr := Except.ok.inj (hprepare'.symm.trans hprepare)
        rw [isBeingDeleted_afterDriverPrecheck] at hdeleting
        exact hdeleting hdeleting'
      · rw [hreports] at hnone
        exact absurd (List.mem_singleton.mp hnone) nofun
    · obtain hnone | htest := herr
      · exact hnone
      · refine Option.eq_none_iff_forall_ne_some.mpr fun e he => h.2 ⟨htest, e, ?_⟩
        rw [hreports, he]
        exact List.mem_singleton_self _

/-- A read with nothing found ends the reconciles of a CR. -/
theorem reconcile_nil_iff_notFound :
    Run (reconcile shippedRuntime ⟨"isilon", "isilon"⟩)
        [⟨.getCSM ⟨"isilon", "isilon"⟩, .error ⟨.notFound, "not found"⟩⟩] ({}, none) ∧
      Finished shippedRuntime ⟨"isilon", "isilon"⟩
        [⟨.getCSM ⟨"isilon", "isilon"⟩, .error ⟨.notFound, "not found"⟩⟩] := by
  have hrun : Run (reconcile shippedRuntime ⟨"isilon", "isilon"⟩)
      [⟨.getCSM ⟨"isilon", "isilon"⟩, .error ⟨.notFound, "not found"⟩⟩] ({}, none) :=
    .call (.ret _)
  refine ⟨hrun, (reconcile_nil_iff hrun).mpr ⟨?_, ?_⟩⟩
  · rintro ⟨e, tr', hkind, heq⟩
    cases heq
    exact hkind rfl
  · rintro ⟨-, e, he⟩
    cases he

/-- A read that timed out ends them as well. -/
theorem timeout_not_retried :
    Run (reconcile shippedRuntime ⟨"isilon", "isilon"⟩)
        [⟨.getCSM ⟨"isilon", "isilon"⟩, .error ⟨.other, "timeout"⟩⟩] ({}, none) ∧
      ¬ Finished shippedRuntime ⟨"isilon", "isilon"⟩
        [⟨.getCSM ⟨"isilon", "isilon"⟩, .error ⟨.other, "timeout"⟩⟩] := by
  refine ⟨.call (.ret _), fun h => (finished_of_readError _ _).mp h ?_⟩
  exact ⟨⟨.other, "timeout"⟩, [], by decide, rfl⟩

end CsmOperator
