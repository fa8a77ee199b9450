import CsmOperator.Controllers.UnderWay

/-!
# The prechecks of modules in a `Reconcile`

A `Reconcile` asks for the prechecks of modules in one place, and in no other: `PreChecks`, after the CR
has been read and prepared. What comes after them is reached only when they have passed, and for the CR of
a driver this means that the precheck of every enabled module has returned nil.
-/

namespace CsmOperator

open Interaction

variable {rt : Runtime} {key : NamespacedName} {csm cr : ContainerStorageModule}
  {tr : List (Event Api)} {q : Request}

/-! ## After the prechecks -/

/-- The requests that are no checks. -/
def Applying : Request → Prop
  | .action a _ => a.checks = false
  | _ => True

@[simp] theorem applying_action {a : Action} : Applying (.action a cr) ↔ a.checks = false := Iff.rfl

theorem StatusWork.applying (h : StatusWork q) : Applying q := by
  cases q <;> first | exact h.elim | trivial

theorem Watching.applying (h : Watching q) : Applying q := by
  cases q <;> first | exact h.elim | trivial

theorem WorkloadRead.applying (h : WorkloadRead q) : Applying q := by
  cases q <;> first | exact h.elim | trivial

theorem Asks.applying {α : Type} {φ : α → Prop} {p : Op α} (h : Asks WorkloadRead φ p) :
    Asks Applying φ p :=
  h.mono fun _ => WorkloadRead.applying

theorem applying_removeDriver : Asks Applying (fun _ => True) (removeDriver cr) := by
  refine .guarded ?_
  simp only [List.forall_mem_cons, List.not_mem_nil, false_imp_iff, implies_true, and_true]
  refine ⟨.act rfl, .act rfl, .guarded ?_, .guarded ?_, ?_, .guarded ?_, .guarded ?_⟩
  · simp [Asks.act, Asks.logError, Action.checks]
  · simp [Asks.act, Action.checks]
  · refine .ite (.bind (.isReverseProxySidecar trivial) fun _ => ?_) (.pure trivial)
    exact .guarded (by simp [Asks.wrapAction, Action.checks])
  · simp [Asks.wrapAction, Action.checks]
  · simp [Asks.act, Action.checks]

theorem applying_removeModule : Asks Applying (fun _ => True) (removeModule cr) := by
  refine .firstError ?_
  simp only [List.forall_mem_cons, List.not_mem_nil, false_imp_iff, implies_true, and_true]
  refine ⟨.guarded (by simp [Asks.act, Action.checks]), ?_⟩
  refine .ite (.bind (.isReverseProxySidecar trivial) fun _ => ?_) (.pure trivial)
  exact .guarded (by simp [Asks.act, Action.checks])

theorem applying_failWith {reason message text : String} {e : GoError} :
    Asks Applying EarlyError (failWith cr reason message text e) :=
  asks_failWith (fun _ _ _ => trivial) cr reason message text e

theorem applying_removeDeploymentOwnerRef :
    Asks Applying (fun _ => True) (removeDeploymentOwnerRef cr) := by
  refine .bind (Asks.getDeployment _).applying fun r => ?_
  cases r with
  | error e => exact .pure trivial
  | ok d => exact .ite (.pure trivial) (.ask (.updateDeployment _) trivial)

theorem applying_removeContent : Asks Applying (fun _ => True) (removeContent cr) := by
  have hfail : ∀ message text e, Asks Applying (fun _ => True)
      (some <$> failWith cr "Deleted" message text e) := by
    intro message text e
    rw [map_eq_pure_bind]
    exact .bind applying_failWith.weaken fun _ => .pure trivial
  refine .bind Asks.deref.applying fun force => ?_
  refine .ite (.bind applying_removeDriver ?_) (.bind (.logError applying_removeDeploymentOwnerRef) ?_)
  all_goals
    intro err
    cases err with
    | some e => exact hfail _ _ _
    | none =>
        refine .bind (.firstError fun p hp => ?_) fun err => ?_
        · obtain ⟨m, -, rfl⟩ := List.mem_map.mp hp
          exact applying_removeModule
        · cases err with
          | some e => exact hfail _ _ _
          | none => exact .pure trivial

theorem applying_reconcileDeletion : Asks Applying (fun _ => True) (reconcileDeletion cr) := by
  refine .bind applying_removeContent fun failed => ?_
  cases failed with
  | some x => exact .pure trivial
  | none =>
      refine .bind ?_ fun err => ?_
      · unfold removeFinalizer
        refine .ite (.bind (.ask (.updateCSM _) trivial) fun r => ?_) (.pure trivial)
        match r with
        | .error e => exact .pure trivial
        | .ok _ => exact .pure trivial
      · cases err with
        | some e => exact applying_failWith.weaken
        | none => exact ((watching_finishDeletion cr).mono fun _ => Watching.applying).weaken

theorem applying_syncModules : Asks Applying (fun _ => True) (syncModules cr) := by
  refine .bind (.guarded (by simp [Asks.act, Action.checks])) fun err => ?_
  cases err with
  | some e => exact .pure trivial
  | none =>
      dsimp only
      split
      · refine .bind (.firstError (by simp [Asks.wrapAction, Action.checks])) fun err => ?_
        cases err with
        | some e => exact .pure trivial
        | none => exact .pure trivial
      · split
        · refine .bind (.isReverseProxySidecar trivial) fun _ => .bind (.pure trivial) fun _ =>
            .bind (.firstError ?_) fun err => ?_
          · simp [Asks.guarded, Asks.wrapAction, Asks.act, Action.checks]
          · cases err with
            | some e => exact .pure trivial
            | none => exact .pure trivial
        · refine .bind (.pure trivial) fun _ => .bind (.firstError ?_) fun err => ?_
          · simp [Asks.guarded, Asks.wrapAction, Asks.act, Action.checks]
          · cases err with
            | some e => exact .pure trivial
            | none => exact .pure trivial

theorem applying_cleanupOldModules (oldCR : ContainerStorageModule) :
    Asks Applying (fun _ => True) (cleanupOldModules oldCR cr) := by
  have henabled : ∀ cr mod name, Asks WorkloadRead (fun _ => True) (isModuleComponentEnabled cr mod name) := by
    intro cr mod name
    have hgo : ∀ cs, Asks WorkloadRead (fun _ => True) (isModuleComponentEnabled.go name cs) := by
      intro cs
      induction cs with
      | nil => exact .pure trivial
      | cons c cs ih => exact .ite (.bind .deref fun _ => .ite (.pure trivial) ih) ih
    unfold isModuleComponentEnabled
    split
    · exact hgo _
    · exact .pure trivial
  have hdropped : ∀ comps, Asks Applying (fun _ => True) (droppedComponents oldCR cr comps) := by
    intro comps
    induction comps with
    | nil => exact .pure trivial
    | cons comp comps ih =>
        exact .bind (henabled _ _ _).applying fun _ =>
          .bind (henabled _ _ _).applying fun _ => .bind ih fun _ => .pure trivial
  refine .bind (.guarded (by simp [Asks.act, Asks.logError, Action.checks])) fun err => ?_
  cases err with
  | some e => exact .pure trivial
  | none =>
      dsimp only
      split
      · exact .pure trivial
      · refine .ite (.bind (hdropped _) fun _ => ?_) (.act rfl)
        exact .guarded (by simp [Asks.act, Action.checks])

theorem applying_recordApplied : Asks Applying (fun _ => True) (recordApplied rt cr) := by
  unfold recordApplied
  split
  · exact .pure trivial
  · refine .bind (.bind Asks.deref.applying fun _ => .pure trivial) fun annotations => ?_
    refine .bind (.ask (.updateCSM _) trivial) fun r => ?_
    match r with
    | .error e => exact .pure trivial
    | .ok _ => exact .pure trivial

theorem applying_oldStandAloneModuleCleanup :
    Asks Applying (fun _ => True) (oldStandAloneModuleCleanup rt cr) := by
  unfold oldStandAloneModuleCleanup
  dsimp only
  split
  · split
    · exact .pure trivial
    · refine .bind (applying_cleanupOldModules _) fun err => ?_
      cases err with
      | some e => exact .pure trivial
      | none => exact applying_recordApplied
  · exact applying_recordApplied

theorem applying_syncDriver : Asks Applying (fun _ => True) (syncDriver cr) := by
  have hproxy : Asks Applying (fun _ => True) (syncPowerMaxProxy cr) := by
    refine .ite (.bind (.isReverseProxySidecar trivial) fun _ => ?_) (.pure trivial)
    exact .guarded (by simp [Asks.wrapAction, Action.checks])
  have hinject : ∀ m, Asks Applying (fun _ => True) (injectModule cr m) := by
    intro m
    unfold injectModule
    split
    · exact .firstError (by simp [Asks.wrapAction, Action.checks])
    · exact .firstError (by simp [Asks.wrapAction, Action.checks])
    · exact .firstError (by simp [Asks.wrapAction, Action.checks])
    · exact .pure trivial
  refine .firstError ?_
  simp only [List.forall_mem_cons, List.not_mem_nil, false_imp_iff, implies_true, and_true]
  refine ⟨hproxy, .wrapAction rfl, .firstError ?_, .ite (.firstError ?_) (.firstError ?_)⟩
  · intro p hp
    obtain ⟨m, -, rfl⟩ := List.mem_map.mp hp
    exact hinject m
  · simp [cosiObjects, Asks.act, Action.checks]
  · simp [driverObjects, Asks.firstError, Asks.guarded, Asks.act, Asks.wrapAction, Action.checks]

theorem applying_syncCSM : Asks Applying (fun _ => True) (syncCSM rt cr) := by
  refine .bind ?_ fun _ => .bind (.ask (.note _) trivial) fun _ => .pure trivial
  refine .bind applying_syncModules fun r => ?_
  match r with
  | .error e => exact .pure trivial
  | .ok false => exact .pure trivial
  | .ok true =>
      refine .bind applying_oldStandAloneModuleCleanup fun x => ?_
      match x with
      | (_, some e) => exact .pure trivial
      | (_, none) => exact .bind applying_syncDriver fun _ => .pure trivial

theorem applying_finishInstall : Asks Applying (fun _ => True) (finishInstall rt cr) := by
  refine .bind ((statusWork_updateStatus none).mono fun _ => StatusWork.applying).weaken
    fun ⟨cr, err⟩ => .ite (.pure trivial) ?_
  refine .bind ((watching_contentWatch rt cr).mono fun _ => Watching.applying) fun r => ?_
  cases r with
  | error e => exact .pure trivial
  | ok stop =>
      refine .bind ((watching_installWatch cr.name stop).mono fun _ => Watching.applying) fun _ => ?_
      exact .bind (.ask (.event _ _ _ _) trivial) fun _ => .pure trivial

theorem applying_reconcileInstall : Asks Applying (fun _ => True) (reconcileInstall rt cr) := by
  refine .bind ?_ fun r => ?_
  · unfold ensureFinalizer
    refine .ite (.pure trivial) (.bind (.ask (.updateCSM _) trivial) fun r => ?_)
    match r with
    | .error e =>
        dsimp only
        rw [map_eq_pure_bind]
        exact .bind applying_failWith.weaken fun _ => .pure trivial
    | .ok cr => exact .bind (.ask (.event _ _ _ _) trivial) fun _ => .pure trivial
  · match r with
    | .error x => exact .pure trivial
    | .ok cr =>
        refine .bind ?_ fun r => ?_
        · unfold recordVersion
          split
          · exact .pure trivial
          · exact .ask (.updateCSM _) trivial
        · match r with
          | .error e => exact .pure trivial
          | .ok cr =>
              refine .bind (judging_handleSuccess.mono fun _ h => h.statusWork.applying).weaken
                fun _ => .bind applying_syncCSM fun _ => .ite applying_finishInstall ?_
              exact .bind (.ask (.event _ _ _ _) trivial) fun _ => .pure trivial

/-! ## The place of the prechecks -/

/-- The precheck of an enabled module, for the CR as the driver's precheck has left it; or some other request
of `PreChecks`. -/
def PrecheckOf (cr : ContainerStorageModule) : Request → Prop
  | .action (.precheckModule m) cr' =>
    cr' = afterDriverPrecheck cr ∧ m ∈ cr'.spec.modules ∧ m.enabled = true
  | q => q ≠ .isReverseProxySidecar

theorem precheckOf_precheckModules {ms : List Module} (cr : ContainerStorageModule)
    (hms : ∀ m ∈ ms, m ∈ (afterDriverPrecheck cr).spec.modules) :
    Asks (PrecheckOf cr) (fun _ => True) (precheckModules (afterDriverPrecheck cr) ms) := by
  induction ms with
  | nil => exact .pure trivial
  | cons m ms ih =>
      obtain ⟨hm, hrest⟩ := List.forall_mem_cons.mp hms
      unfold precheckModules
      split
      next henabled =>
        refine .orElse ?_ (ih hrest)
        unfold precheckModule
        split
        · exact .wrapAction ⟨rfl, hm, henabled⟩
        · exact .pure trivial
      next => exact ih hrest

theorem precheckOf_preChecks (cr : ContainerStorageModule) :
    Asks (PrecheckOf cr) (fun _ => True) (preChecks rt cr) := by
  refine .bind ?_ fun err => ?_
  · unfold precheckDriver
    dsimp only
    split
    · refine .orElse (.wrapAction nofun) ?_
      exact .ite (.wrapAction nofun) (.pure trivial)
    · exact .ite (.pure trivial) (.pure trivial)
  · cases err with
    | some e => exact .pure trivial
    | none =>
        dsimp only
        split
        · exact .pure trivial
        · exact .pure trivial
        · refine .bind ?_ fun _ => .pure trivial
          unfold checkRegistryOwnerModules
          split
          · exact .pure trivial
          · refine .orElse ?_ (precheckOf_precheckModules cr fun _ h => h)
            refine .bind (.ask (.getDeployment _) nofun) fun r => ?_
            match r with
            | .error e => exact .pure trivial
            | .ok d =>
                dsimp only
                split
                · exact .pure trivial
                · exact .ite (.pure trivial) (.pure trivial)

/-- **Where a `Reconcile` is.** It reads the CR; it is in the prechecks; it reports their failure; or the
prechecks have passed and it does not check any more. -/
theorem pending_reconcile (hq : Pending (reconcile rt key) tr q) :
    tr = [] ∧ q = .getCSM key ∨
    ∃ csm cr tr', tr = ⟨.getCSM key, .ok csm⟩ :: tr' ∧ prepare rt.op csm = .ok cr ∧
      (PrecheckOf cr q ∨ Applying q ∧ q ≠ .isReverseProxySidecar ∨
        Applying q ∧ ∃ tr₁ tr₂, tr' = tr₁ ++ tr₂ ∧
          Run (preChecks rt cr) tr₁ (afterDriverPrecheck cr, none)) := by
  obtain hfirst | ⟨tr₁, tr', r, rfl, hread, hrest⟩ := Pending.bind_iff.mp hq
  · obtain ⟨rfl, rfl⟩ | ⟨_, _, -, hret⟩ := Pending.call_iff.mp hfirst
    · exact .inl ⟨rfl, rfl⟩
    · exact (Pending.not_ret hret).elim
  obtain ⟨r', tr'', rfl, hret⟩ := Run.call_iff.mp hread
  obtain ⟨rfl, rfl⟩ := Run.ret_iff.mp hret
  match r with
  | .error e => exact (Pending.not_ret hrest).elim
  | .ok csm =>
      have hprepared : Pending (reconcileRead rt csm) tr' q := hrest
      unfold reconcileRead at hprepared
      split at hprepared
      next => exact (Pending.not_ret hprepared).elim
      next cr hprepare =>
        refine .inr ⟨csm, cr, tr', rfl, hprepare, ?_⟩
        obtain hq | ⟨tr₁, tr₂, ⟨csm', err⟩, rfl, hchecks, hq⟩ := Pending.bind_iff.mp hprepared
        · exact .inl ((precheckOf_preChecks cr).of_pending hq).2
        cases err with
        | some e =>
            have herror : Asks (fun q => Applying q ∧ q ≠ .isReverseProxySidecar) (fun _ => True) (do
                recordEvent (csm'.setState .invalidConfig) .warning "Updated"
                  ("Failed Prechecks: " ++ e.text)
                handleValidationError (csm'.setState .invalidConfig) e) := by
              refine .bind (.ask (.event _ _ _ _) ⟨trivial, nofun⟩) fun _ => ?_
              refine (statusWork_handleValidationError e).mono fun q hq => ⟨hq.applying, ?_⟩
              rintro rfl
              exact hq
            exact .inr (.inl (herror.of_pending hq).2)
        | none =>
            obtain rfl : csm' = afterDriverPrecheck cr :=
              (((quiet_preChecks rt cr).of_run hchecks).2.2 rfl).1
            refine .inr (.inr ⟨?_, tr₁, tr₂, rfl, hchecks⟩)
            dsimp only at hq
            split at hq
            · exact (applying_reconcileDeletion.of_pending hq).2
            · exact (applying_reconcileInstall.of_pending hq).2

end CsmOperator
