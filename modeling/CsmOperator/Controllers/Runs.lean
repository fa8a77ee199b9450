import CsmOperator.Controllers.StatusWork
import Mathlib.Data.List.Forall2

/-!
# The course of a `Reconcile`

A run of `Reconcile` splits into runs of its parts: what was answered decides which part comes next, and
what the last part returns is returned. The theorems of this module take a run apart, one function at a
time.
-/

namespace CsmOperator

open Interaction

variable {rt : Runtime} {key : NamespacedName} {csm cr : ContainerStorageModule}
  {tr : List (Event Api)} {x : Result × Option GoError}

/-! ## Calls in sequence -/

/-- Two calls in sequence return nil when both do. -/
theorem run_orElse_none {p q : Op (Option GoError)} :
    Run (orElse p q) tr none ↔ ∃ tr₁ tr₂, tr = tr₁ ++ tr₂ ∧ Run p tr₁ none ∧ Run q tr₂ none := by
  unfold orElse
  rw [Run.bind_iff]
  constructor
  · rintro ⟨tr₁, tr₂, err, rfl, hp, hq⟩
    cases err with
    | none => exact ⟨tr₁, tr₂, rfl, hp, hq⟩
    | some e => cases (Run.ret_iff.mp hq).2
  · rintro ⟨tr₁, tr₂, rfl, hp, hq⟩
    exact ⟨tr₁, tr₂, none, rfl, hp, hq⟩

/-- An abstract part whose error gets a text in front returns nil when it has. -/
theorem run_wrapAction_none {text : String} {a : Action} (h : Run (wrapAction text a cr) tr none) :
    tr = [⟨.action a cr, none⟩] := by
  obtain ⟨tr₁, tr₂, err, rfl, hact, hret⟩ := Run.bind_iff.mp h
  obtain ⟨r, tr', rfl, hret'⟩ := Run.call_iff.mp hact
  obtain ⟨rfl, rfl⟩ := Run.ret_iff.mp hret'
  obtain ⟨rfl, heq⟩ := Run.ret_iff.mp hret
  cases err with
  | none => rfl
  | some e => cases heq

/-- So do several ones. -/
theorem run_firstError_none {ps : List (Op (Option GoError))} :
    Run (firstError ps) tr none ↔
      ∃ trs, tr = trs.flatten ∧ List.Forall₂ (fun p t => Run p t none) ps trs := by
  induction ps generalizing tr with
  | nil =>
      constructor
      · intro h
        obtain ⟨rfl, -⟩ := Run.ret_iff.mp h
        exact ⟨[], rfl, .nil⟩
      · rintro ⟨trs, rfl, h⟩
        cases h
        exact .ret _
  | cons p ps ih =>
      rw [firstError, run_orElse_none]
      constructor
      · rintro ⟨tr₁, tr₂, rfl, hp, hps⟩
        obtain ⟨trs, rfl, hall⟩ := ih.mp hps
        exact ⟨tr₁ :: trs, rfl, .cons hp hall⟩
      · rintro ⟨trs, rfl, h⟩
        cases h with
        | cons hp hall => exact ⟨_, _, rfl, hp, ih.mpr ⟨_, rfl, hall⟩⟩

theorem run_orElse {p q : Op (Option GoError)} {err : Option GoError} (h : Run (orElse p q) tr err) :
    (∃ e, err = some e ∧ Run p tr (some e)) ∨
      ∃ tr₁ tr₂, tr = tr₁ ++ tr₂ ∧ Run p tr₁ none ∧ Run q tr₂ err := by
  obtain ⟨tr₁, tr₂, err', rfl, hp, hq⟩ := Run.bind_iff.mp h
  cases err' with
  | none => exact .inr ⟨tr₁, tr₂, rfl, hp, hq⟩
  | some e =>
      obtain ⟨rfl, rfl⟩ := Run.ret_iff.mp hq
      rw [List.append_nil]
      exact .inl ⟨e, rfl, hp⟩

/-- The calls of several ones in sequence are calls of the single ones, and the first one is made. -/
theorem run_firstError {ps : List (Op (Option GoError))} {err : Option GoError}
    (h : Run (firstError ps) tr err) :
    (∀ e ∈ tr, ∃ p ∈ ps, ∃ t ⊆ tr, e ∈ t ∧ ∃ err, Run p t err) ∧
      ∀ p ps', ps = p :: ps' → ∃ t ⊆ tr, ∃ err, Run p t err := by
  induction ps generalizing tr with
  | nil =>
      obtain ⟨rfl, -⟩ := Run.ret_iff.mp h
      exact ⟨fun e he => (List.not_mem_nil he).elim, nofun⟩
  | cons p ps ih =>
      obtain ⟨e, -, hp⟩ | ⟨tr₁, tr₂, rfl, hp, hps⟩ := run_orElse h
      · refine ⟨fun e' he' => ⟨p, List.mem_cons_self, tr, fun _ h => h, he', _, hp⟩, fun p' ps' heq => ?_⟩
        obtain ⟨rfl, -⟩ := List.cons.inj heq
        exact ⟨tr, fun _ h => h, _, hp⟩
      · constructor
        · intro e he
          rcases List.mem_append.mp he with he | he
          · exact ⟨p, List.mem_cons_self, tr₁, List.subset_append_left .., he, _, hp⟩
          · obtain ⟨p', hp', t, ht, het, hrun⟩ := (ih hps).1 e he
            exact ⟨p', List.mem_cons_of_mem _ hp', t, List.Subset.trans ht (List.subset_append_right ..), het, hrun⟩
        · intro p' ps' heq
          obtain ⟨rfl, -⟩ := List.cons.inj heq
          exact ⟨tr₁, List.subset_append_left .., _, hp⟩

/-! ## Up to the prechecks -/

/-- `Reconcile` starts with a read of the CR. -/
theorem run_reconcile (h : Run (reconcile rt key) tr x) :
    (∃ e, tr = [⟨.getCSM key, .error e⟩] ∧ x = ({}, none)) ∨
      ∃ csm tr', tr = ⟨.getCSM key, .ok csm⟩ :: tr' ∧ Run (reconcileRead rt csm) tr' x := by
  obtain ⟨tr₁, tr₂, r, rfl, hread, hrest⟩ := Run.bind_iff.mp h
  obtain ⟨r', tr', rfl, hret⟩ := Run.call_iff.mp hread
  obtain ⟨rfl, rfl⟩ := Run.ret_iff.mp hret
  match r with
  | .error e =>
      obtain ⟨rfl, rfl⟩ := Run.ret_iff.mp hrest
      exact .inl ⟨e, rfl, rfl⟩
  | .ok csm => exact .inr ⟨csm, tr₂, rfl, hrest⟩

theorem run_reconcileRead (h : Run (reconcileRead rt csm) tr x) :
    (∃ e, x = ({}, some e)) ∨
      ∃ cr, prepare rt.op csm = .ok cr ∧ Run (reconcilePrepared rt cr) tr x := by
  unfold reconcileRead at h
  split at h
  next e _ => exact .inl ⟨e, (Run.ret_iff.mp h).2⟩
  next cr hcr => exact .inr ⟨cr, hcr, h⟩

/-- A failed precheck is returned; otherwise the CR is deleted or installed. -/
theorem run_reconcilePrepared (h : Run (reconcilePrepared rt csm) tr x) :
    x.2.isSome = true ∨ ∃ tr₁ tr₂, tr = tr₁ ++ tr₂ ∧
      Run (preChecks rt csm) tr₁ (afterDriverPrecheck csm, none) ∧
      Run (if (afterDriverPrecheck csm).isBeingDeleted then reconcileDeletion (afterDriverPrecheck csm)
        else reconcileInstall rt (afterDriverPrecheck csm)) tr₂ x := by
  obtain ⟨tr₁, tr₂, ⟨csm', err⟩, rfl, hchecks, hrest⟩ := Run.bind_iff.mp h
  cases err with
  | some e =>
      have herror : Asks (fun _ => True) (fun x => x.2.isSome = true) (do
          recordEvent (csm'.setState .invalidConfig) .warning "Updated"
            ("Failed Prechecks: " ++ e.text)
          handleValidationError (csm'.setState .invalidConfig) e) := by
        refine .bind (.ask (.event _ _ _ _) trivial) fun _ => .bind (.ask (.lock _) trivial) fun _ => ?_
        refine .bind (.ask (.updateCSMStatus _) trivial) fun _ => ?_
        exact .bind (.ask (.unlock _) trivial) fun _ => .pure rfl
      exact .inl (herror.of_run hrest).2
  | none =>
      obtain rfl : csm' = afterDriverPrecheck csm :=
        (((quiet_preChecks rt csm).of_run hchecks).2.2 rfl).1
      exact .inr ⟨tr₁, tr₂, rfl, hchecks, hrest⟩

/-! ## Deletion -/

theorem run_failWith {reason message text : String} {e : GoError}
    (h : Run (failWith csm reason message text e) tr x) : x.2.isSome = true := by
  obtain ⟨e', rfl⟩ := ((calm_failWith csm reason message text e).of_run h).2
  rfl

/-- The events of an error exit. -/
def Reporting : Request → Prop
  | .event _ _ _ _ => True
  | _ => False

theorem reporting_failWith (csm : ContainerStorageModule) (reason message text : String) (e : GoError) :
    Asks Reporting (fun _ => True) (failWith csm reason message text e) :=
  .bind (.ask (.event _ _ _ _) trivial) fun _ => .pure trivial

/-- What the cleanup does about the driver went well: it was removed, or it is to be kept. Whether a
kept driver could be released does not matter. -/
def DriverDone (csm : ContainerStorageModule) (force : Bool) (tr : List (Event Api)) : Prop :=
  if force then Run (removeDriver csm) tr none else ∃ err, Run (removeDeploymentOwnerRef csm) tr err

/-- The removal of modules, once for each entry that asks for it. -/
def removeModules (csm : ContainerStorageModule) : Op (Option GoError) :=
  firstError ((csm.spec.modules.filter (·.forceRemoveModule)).map fun _ => removeModule csm)

theorem run_some_failWith {message text : String} {e : GoError} {y : Option (Result × Option GoError)}
    (h : Run (some <$> failWith csm "Deleted" message text e) tr y) :
    (∀ e ∈ tr, Reporting e.req) ∧ y ≠ none := by
  rw [map_eq_pure_bind] at h
  obtain ⟨tr₁, tr₂, x, rfl, hfail, hret⟩ := Run.bind_iff.mp h
  obtain ⟨rfl, rfl⟩ := Run.ret_iff.mp hret
  rw [List.append_nil]
  exact ⟨((reporting_failWith csm _ _ _ _).of_run hfail).1, nofun⟩

/-- What follows the removal of the driver. -/
theorem run_removeContent_end {y : Option (Result × Option GoError)}
    (h : Run (do
      match ← removeModules csm with
      | some e =>
        some <$> failWith csm "Deleted" "Failed to remove module: " "error when deleting module: " e
      | none => pure none) tr y) :
    ∃ tr₁ tr₂ err, tr = tr₁ ++ tr₂ ∧ Run (removeModules csm) tr₁ err ∧
      (∀ e ∈ tr₂, Reporting e.req) ∧ (y = none ↔ err = none) ∧ (y = none → tr₂ = []) := by
  obtain ⟨tr₁, tr₂, err, rfl, hmodules, hend⟩ := Run.bind_iff.mp h
  refine ⟨tr₁, tr₂, err, rfl, hmodules, ?_⟩
  cases err with
  | some e =>
      obtain ⟨hreports, hy⟩ := run_some_failWith hend
      exact ⟨hreports, ⟨fun h => (hy h).elim, nofun⟩, fun h => (hy h).elim⟩
  | none =>
      obtain ⟨rfl, rfl⟩ := Run.ret_iff.mp hend
      exact ⟨fun e he => (List.not_mem_nil he).elim, ⟨fun _ => rfl, fun _ => rfl⟩, fun _ => rfl⟩

/-- The cleanup takes care of the driver and goes on with the modules, unless the driver could not be
removed. -/
theorem run_removeContent {y : Option (Result × Option GoError)} (h : Run (removeContent csm) tr y) :
    ∃ force tr₁ tr₂, csm.spec.driver.forceRemoveDriver = some force ∧ tr = tr₁ ++ tr₂ ∧
      ((∃ e, force = true ∧ Run (removeDriver csm) tr₁ (some e) ∧ (∀ e ∈ tr₂, Reporting e.req) ∧
        y ≠ none) ∨
      DriverDone csm force tr₁ ∧ ∃ tr₃ tr₄ err, tr₂ = tr₃ ++ tr₄ ∧ Run (removeModules csm) tr₃ err ∧
        (∀ e ∈ tr₄, Reporting e.req) ∧ (y = none ↔ err = none) ∧ (y = none → tr₄ = [])) := by
  obtain ⟨tr₀, tr', force, rfl, hderef, hbody⟩ := Run.bind_iff.mp h
  obtain ⟨rfl, hforce⟩ : tr₀ = [] ∧ csm.spec.driver.forceRemoveDriver = some force := by
    cases hsome : csm.spec.driver.forceRemoveDriver with
    | some b =>
        rw [hsome] at hderef
        obtain ⟨rfl, rfl⟩ := Run.ret_iff.mp hderef
        exact ⟨rfl, rfl⟩
    | none =>
        rw [hsome] at hderef
        obtain ⟨r, -⟩ := Run.call_iff.mp hderef
        exact nomatch r
  cases force with
  | true =>
      obtain ⟨tr₁, tr₂, err, rfl, hdriver, hrest⟩ := Run.bind_iff.mp hbody
      refine ⟨true, tr₁, tr₂, hforce, rfl, ?_⟩
      cases err with
      | some e => exact .inl ⟨e, rfl, hdriver, run_some_failWith hrest⟩
      | none => exact .inr ⟨hdriver, run_removeContent_end hrest⟩
  | false =>
      obtain ⟨tr₁, tr₂, err, rfl, hlogged, hrest⟩ := Run.bind_iff.mp hbody
      obtain ⟨tr₃, tr₄, err', rfl, hrefs, hret⟩ := Run.bind_iff.mp hlogged
      obtain ⟨rfl, rfl⟩ := Run.ret_iff.mp hret
      rw [List.append_nil]
      exact ⟨false, tr₃, tr₂, hforce, rfl, .inr ⟨⟨err', hrefs⟩, run_removeContent_end hrest⟩⟩

/-- The cleanup succeeds when the removal of the driver returned nil and so did the removal of modules,
each time it was called. -/
theorem run_removeContent_none (h : Run (removeContent csm) tr none) :
    ∃ force tr₁ trs, csm.spec.driver.forceRemoveDriver = some force ∧ tr = tr₁ ++ trs.flatten ∧
      DriverDone csm force tr₁ ∧
      List.Forall₂ (fun _ t => Run (removeModule csm) t none)
        (csm.spec.modules.filter (·.forceRemoveModule)) trs := by
  obtain ⟨force, tr₁, tr₂, hforce, rfl, hcases⟩ := run_removeContent h
  obtain ⟨e, -, -, -, hnone⟩ | ⟨hdriver, tr₃, tr₄, err, rfl, hmodules, -, herr, hend⟩ := hcases
  · exact (hnone rfl).elim
  · obtain rfl := herr.mp rfl
    obtain rfl := hend rfl
    obtain ⟨trs, rfl, hall⟩ := run_firstError_none.mp hmodules
    rw [List.append_nil]
    exact ⟨force, tr₁, trs, hforce, rfl, hdriver, List.forall₂_map_left_iff.mp hall⟩

/-- An error of the cleanup or of the finalizer's update is returned; otherwise the deletion comes to its
end. -/
theorem run_reconcileDeletion (h : Run (reconcileDeletion csm) tr x) :
    x.2.isSome = true ∨ ∃ tr₁ tr₂ tr₃, tr = tr₁ ++ (tr₂ ++ tr₃) ∧ Run (removeContent csm) tr₁ none ∧
      Run (removeFinalizer csm) tr₂ none ∧ Run (finishDeletion csm) tr₃ x := by
  obtain ⟨tr₁, tr', failed, rfl, hcontent, hrest⟩ := Run.bind_iff.mp h
  cases failed with
  | some y =>
      obtain ⟨-, rfl⟩ := Run.ret_iff.mp hrest
      obtain ⟨e, rfl⟩ := ((calm_removeContent csm).of_run hcontent).2 _ rfl
      exact .inl rfl
  | none =>
      obtain ⟨tr₂, tr₃, err, rfl, hfinalizer, hfinish⟩ := Run.bind_iff.mp hrest
      cases err with
      | some e => exact .inl (run_failWith hfinish)
      | none => exact .inr ⟨tr₁, tr₂, tr₃, rfl, hcontent, hfinalizer, hfinish⟩

/-- What follows the cleanup of a deleted CR: the update of the finalizers, and the end of the watch. -/
def Finishing : Request → Prop
  | .updateCSM _ => True
  | q => Watching q

theorem Watching.finishing {q : Request} (h : Watching q) : Finishing q := by
  cases q <;> first | exact h | exact h.elim

/-- What follows a cleanup without error. -/
theorem finishing_reconcileDeletion_end : Asks Finishing (fun _ => True) (do
    match ← removeFinalizer csm with
    | some e =>
      failWith csm "Deleted" "Failed to delete finalizer: " "error when handling finalizer: " e
    | none => finishDeletion csm) := by
  refine .bind (.ite (.bind (.ask (.updateCSM _) trivial) fun r => ?_) (.pure trivial)) fun err => ?_
  · match r with
    | .error e => exact .pure trivial
    | .ok cr => exact .pure trivial
  · cases err with
    | some e =>
        exact (reporting_failWith csm _ _ _ _).mono fun q hq => by
          cases q <;> first | exact hq | exact hq.elim
    | none => exact (watching_finishDeletion csm).weaken.mono fun _ => Watching.finishing

/-- The finalizer is removed after a cleanup without error, and nothing is cleaned up afterwards. -/
theorem run_reconcileDeletion_cleanup (h : Run (reconcileDeletion csm) tr x) :
    ∃ tr₁ tr₂ y, tr = tr₁ ++ tr₂ ∧ Run (removeContent csm) tr₁ y ∧ (y ≠ none → tr₂ = []) ∧
      ∀ e ∈ tr₂, Finishing e.req := by
  obtain ⟨tr₁, tr₂, y, rfl, hcontent, hrest⟩ := Run.bind_iff.mp h
  refine ⟨tr₁, tr₂, y, rfl, hcontent, ?_⟩
  cases y with
  | some y =>
      obtain ⟨rfl, -⟩ := Run.ret_iff.mp hrest
      exact ⟨fun _ => rfl, fun e he => (List.not_mem_nil he).elim⟩
  | none =>
      refine ⟨fun hy => (hy rfl).elim, ?_⟩
      exact (finishing_reconcileDeletion_end.of_run hrest).1

/-- What a `Reconcile` asks that rejects a CR. -/
def Rejecting : Request → Prop
  | .event _ _ _ _ | .lock _ | .updateCSMStatus _ | .unlock _ => True
  | q => Checking q

theorem Checking.rejecting {q : Request} (h : Checking q) : Rejecting q := by
  cases q <;> first | exact h | trivial

theorem isBeingDeleted_afterDriverPrecheck (cr : ContainerStorageModule) :
    (afterDriverPrecheck cr).isBeingDeleted = cr.isBeingDeleted := by
  obtain ⟨spec, h⟩ := afterDriverPrecheck_eq cr
  rw [h]
  rfl

/-- A CR that is being deleted is rejected, or cleaned up once it has passed the prechecks. -/
theorem run_reconcile_deleting (h : Run (reconcile rt key) (⟨.getCSM key, .ok csm⟩ :: tr) x)
    (hdeleting : csm.isBeingDeleted = true) :
    ((∀ e ∈ tr, Rejecting e.req) ∧ ∀ cr, prepare rt.op csm = .ok cr → ∃ tr₀ tr₁ cr' e, tr = tr₀ ++ tr₁ ∧
      Run (preChecks rt cr) tr₀ (cr', some e)) ∨
    ∃ cr tr₀ tr₁, prepare rt.op csm = .ok cr ∧ tr = tr₀ ++ tr₁ ∧
      Run (preChecks rt cr) tr₀ (afterDriverPrecheck cr, none) ∧
      Run (reconcileDeletion (afterDriverPrecheck cr)) tr₁ x := by
  obtain ⟨e, heq, -⟩ | ⟨csm', tr', heq, hread⟩ := run_reconcile h
  · cases heq
  cases heq
  unfold reconcileRead at hread
  split at hread
  next e hprepare =>
    obtain ⟨rfl, -⟩ := Run.ret_iff.mp hread
    refine .inl ⟨fun e he => (List.not_mem_nil he).elim, fun cr hcr => ?_⟩
    cases hprepare.symm.trans hcr
  next cr hprepare =>
    obtain ⟨tr₀, tr₁, ⟨cr', err⟩, rfl, hchecks, hrest⟩ := Run.bind_iff.mp hread
    obtain ⟨hasked, hresult⟩ := (checking_preChecks rt cr).of_run hchecks
    cases err with
    | some e =>
        have hreject : Asks Rejecting (fun _ => True) (do
            recordEvent (cr'.setState .invalidConfig) .warning "Updated" ("Failed Prechecks: " ++ e.text)
            handleValidationError (cr'.setState .invalidConfig) e) := by
          refine .bind (.ask (.event _ _ _ _) trivial) fun _ => .bind (.ask (.lock _) trivial) fun _ => ?_
          refine .bind (.ask (.updateCSMStatus _) trivial) fun _ => ?_
          exact .bind (.ask (.unlock _) trivial) fun _ => .pure trivial
        refine .inl ⟨fun e he => ?_, fun cr₁ hcr => ?_⟩
        · rcases List.mem_append.mp he with he | he
          · exact (hasked e he).rejecting
          · exact (hreject.of_run hrest).1 e he
        · obtain rfl : cr₁ = cr := Except.ok.inj (hcr.symm.trans hprepare)
          exact ⟨tr₀, tr₁, cr', e, rfl, hchecks⟩
    | none =>
        obtain rfl : cr' = afterDriverPrecheck cr := (hresult.2 rfl).1
        refine .inr ⟨cr, tr₀, tr₁, hprepare, rfl, hchecks, ?_⟩
        have hdeleting' : (afterDriverPrecheck cr).isBeingDeleted = true := by
          obtain ⟨spec, rfl⟩ := prepare_eq hprepare
          rw [isBeingDeleted_afterDriverPrecheck]
          exact hdeleting
        dsimp only at hrest
        rw [if_pos hdeleting'] at hrest
        exact hrest

/-! ## Installation -/

/-- Errors of the finalizer and of the record of the version are returned; otherwise there is a sync. -/
theorem run_reconcileInstall (h : Run (reconcileInstall rt csm) tr x) :
    x.2.isSome = true ∨ ∃ tr₁ tr₂ tr₃ csm₁ csm₂, tr = tr₁ ++ (tr₂ ++ tr₃) ∧
      Run (ensureFinalizer csm) tr₁ (.ok csm₁) ∧ Run (recordVersion rt.op csm₁) tr₂ (.ok csm₂) ∧
      Run (syncAndFinish rt csm₂) tr₃ x := by
  obtain ⟨tr₁, tr', r, rfl, hfinalizer, hrest⟩ := Run.bind_iff.mp h
  cases r with
  | error y =>
      obtain ⟨-, rfl⟩ := Run.ret_iff.mp hrest
      refine .inl ?_
      unfold ensureFinalizer at hfinalizer
      split at hfinalizer
      · cases (Run.ret_iff.mp hfinalizer).2
      · obtain ⟨tr₂, tr₃, r, rfl, -, hfail⟩ := Run.bind_iff.mp hfinalizer
        cases r with
        | ok csm' =>
            obtain ⟨_, _, _, -, -, hret⟩ := Run.bind_iff.mp hfail
            cases (Run.ret_iff.mp hret).2
        | error e =>
            dsimp only at hfail
            rw [map_eq_pure_bind] at hfail
            obtain ⟨_, _, y', -, hfail, hret⟩ := Run.bind_iff.mp hfail
            cases (Run.ret_iff.mp hret).2
            exact run_failWith hfail
  | ok csm₁ =>
      obtain ⟨tr₂, tr₃, r, rfl, hversion, hsync⟩ := Run.bind_iff.mp hrest
      cases r with
      | error e =>
          obtain ⟨-, rfl⟩ := Run.ret_iff.mp hsync
          exact .inl rfl
      | ok csm₂ => exact .inr ⟨tr₁, tr₂, tr₃, csm₁, csm₂, rfl, hfinalizer, hversion, hsync⟩

/-- A failed sync is returned; otherwise the install comes to its end. -/
theorem run_syncAndFinish (h : Run (syncAndFinish rt csm) tr x) :
    x.2.isSome = true ∨ ∃ tr₁ tr₂ tr₃ csm₁ cr requeue, tr = tr₁ ++ (tr₂ ++ tr₃) ∧
      Run (handleSuccess rt csm) tr₁ (csm₁, requeue) ∧ Run (syncCSM rt csm₁) tr₂ (cr, none) ∧
      Run (finishInstall rt { csm₁ with annotations := cr.annotations }) tr₃ x := by
  obtain ⟨tr₁, tr', ⟨csm₁, requeue⟩, rfl, hsuccess, hrest⟩ := Run.bind_iff.mp h
  obtain ⟨tr₂, tr₃, ⟨cr, err⟩, rfl, hsync, hfinish⟩ := Run.bind_iff.mp hrest
  dsimp only at hfinish
  split at hfinish
  next hok =>
    have herr : err = none := by
      rw [Bool.and_eq_true, Option.isNone_iff_eq_none] at hok
      exact hok.1
    subst herr
    exact .inr ⟨tr₁, tr₂, tr₃, csm₁, cr, requeue, rfl, hsuccess, hsync, hfinish⟩
  next =>
    obtain ⟨_, _, _, -, -, hret⟩ := Run.bind_iff.mp hfinish
    obtain ⟨-, rfl⟩ := Run.ret_iff.mp hret
    exact .inl rfl

/-- The status is stored and a watch is started. Only in a unit test the outcome of the status update
does not matter. -/
theorem run_finishInstall (h : Run (finishInstall rt csm) tr x) :
    x.1.requeue = true ∨ ∃ tr₁ tr₂ tr₃ csm₁ err stop, tr = tr₁ ++ (tr₂ ++ tr₃) ∧
      Run (updateStatus rt csm none) tr₁ (csm₁, err) ∧
      (err = none ∨ determineUnitTestRun rt = true) ∧ Run (contentWatch rt csm₁) tr₂ (.ok stop) ∧
      Run (do
        installWatch csm₁.name stop
        recordEvent csm₁ .normal "Completed" (completedMessage csm₁.name)
        pure (({} : Result), (none : Option GoError))) tr₃ x := by
  obtain ⟨tr₁, tr', ⟨csm₁, err⟩, rfl, hstatus, hrest⟩ := Run.bind_iff.mp h
  dsimp only at hrest
  split at hrest
  next =>
    obtain ⟨-, rfl⟩ := Run.ret_iff.mp hrest
    exact .inl rfl
  next herr =>
    obtain ⟨tr₂, tr₃, r, rfl, hwatch, hfinish⟩ := Run.bind_iff.mp hrest
    cases r with
    | error e =>
        obtain ⟨-, rfl⟩ := Run.ret_iff.mp hfinish
        exact .inl rfl
    | ok stop =>
        refine .inr ⟨tr₁, tr₂, tr₃, csm₁, err, stop, rfl, hstatus, ?_, hwatch, hfinish⟩
        rw [Bool.and_eq_true, Option.isSome_iff_ne_none, Bool.not_eq_true', not_and_or, not_not,
          Bool.not_eq_false] at herr
        exact herr

end CsmOperator
