import CsmOperator.Controllers.Runs

/-!
# A `Reconcile` under way

An update of the CR, or an action that installs something, is asked for at few places of `Reconcile`.
`Stage` lists them, each with what has been run before it; the main theorem of this module says that
there are no others.
-/

namespace CsmOperator

open Interaction

variable {rt : Runtime} {key : NamespacedName} {csm cr : ContainerStorageModule}
  {tr : List (Event Api)} {q : Request}

/-- The updates of the CR and the actions that install something. -/
def Marked : Request → Prop
  | .updateCSM _ => True
  | .action a _ => a.installs = true
  | _ => False

/-! ## Functions without marked requests -/

theorem Calm.unmarked (h : Calm q) : ¬ Marked q := by
  cases q with
  | action a cr =>
      intro hq
      have hinstalls : a.installs = false := h
      exact Bool.false_ne_true (hinstalls.symm.trans hq)
  | updateCSM cr => exact h.elim
  | _ => exact fun hq => hq

theorem Watching.unmarked (h : Watching q) : ¬ Marked q := by
  cases q <;> first | exact h.elim | exact fun hq => hq

theorem StatusWork.unmarked (h : StatusWork q) : ¬ Marked q := by
  cases q <;> first | exact h.elim | exact fun hq => hq

theorem not_marked_of_pending {α : Type} {P : Request → Prop} {φ : α → Prop} {p : Op α}
    (h : Asks P φ p) (hP : ∀ q, P q → ¬ Marked q) (hq : Pending p tr q) : ¬ Marked q :=
  hP q (Sat.of_pending h hq).2

theorem not_marked_finishInstall (hq : Pending (finishInstall rt csm) tr q) : ¬ Marked q := by
  have hasks : Asks (fun q => ¬ Marked q) (fun _ => True) (finishInstall rt csm) := by
    refine .bind ((statusWork_updateStatus none).mono fun _ => StatusWork.unmarked).weaken
      fun ⟨cr, err⟩ => .ite (.pure trivial) ?_
    refine .bind ((watching_contentWatch rt cr).mono fun _ => Watching.unmarked) fun r => ?_
    cases r with
    | error e => exact .pure trivial
    | ok stop =>
        refine .bind ((watching_installWatch cr.name stop).mono fun _ => Watching.unmarked) fun _ => ?_
        exact .bind (.ask (.event _ _ _ _) fun hq => hq) fun _ => .pure trivial
  exact not_marked_of_pending hasks (fun _ h => h) hq

/-! ## The stages -/

/-- The CR has been read, prepared and has passed the prechecks. -/
inductive Checked (rt : Runtime) (key : NamespacedName) :
    List (Event Api) → ContainerStorageModule → Prop
  | intro {csm cr : ContainerStorageModule} {tr : List (Event Api)} :
      prepare rt.op csm = .ok cr → Run (preChecks rt cr) tr (afterDriverPrecheck cr, none) →
      Checked rt key (⟨.getCSM key, .ok csm⟩ :: tr) (afterDriverPrecheck cr)

/-- Where a `Reconcile` of `key` can be when it makes a marked request. -/
inductive Stage (rt : Runtime) (key : NamespacedName) : List (Event Api) → Request → Prop
  | removeFinalizer {csm : ContainerStorageModule} {tr₀ tr₁ : List (Event Api)} :
      Checked rt key tr₀ csm → csm.isBeingDeleted = true → Run (removeContent csm) tr₁ none →
      csm.hasFinalizer csmFinalizerName = true →
      Stage rt key (tr₀ ++ tr₁) (.updateCSM { csm with finalizers := [] })
  | addFinalizer {csm : ContainerStorageModule} {tr₀ : List (Event Api)} :
      Checked rt key tr₀ csm → csm.isBeingDeleted = false →
      csm.hasFinalizer csmFinalizerName = false →
      Stage rt key tr₀
        (.updateCSM ({ csm with finalizers := [csmFinalizerName] }.setState .creating))
  | recordVersion {csm csm₁ csm₂ : ContainerStorageModule} {tr₀ tr₁ : List (Event Api)} :
      Checked rt key tr₀ csm → csm.isBeingDeleted = false →
      Run (ensureFinalizer csm) tr₁ (.ok csm₁) →
      applyConfigVersionAnnotations rt.op csm₁ = (csm₂, true) →
      Stage rt key (tr₀ ++ tr₁) (.updateCSM csm₂)
  | sync {csm csm₁ csm₂ csm₃ : ContainerStorageModule} {requeue : Result}
      {tr₀ tr₁ tr₂ tr₃ tr₄ : List (Event Api)} {q : Request} :
      Checked rt key tr₀ csm → csm.isBeingDeleted = false →
      Run (ensureFinalizer csm) tr₁ (.ok csm₁) → Run (recordVersion rt.op csm₁) tr₂ (.ok csm₂) →
      Run (handleSuccess rt csm₂) tr₃ (csm₃, requeue) → Pending (syncCSM rt csm₃) tr₄ q →
      Stage rt key (tr₀ ++ (tr₁ ++ (tr₂ ++ (tr₃ ++ tr₄)))) q

theorem pending_removeFinalizer (hq : Pending (removeFinalizer csm) tr q) :
    tr = [] ∧ csm.hasFinalizer csmFinalizerName = true ∧
      q = .updateCSM { csm with finalizers := [] } := by
  unfold removeFinalizer at hq
  split at hq
  next hfinalizer =>
    obtain hq | ⟨_, _, r, -, -, hq⟩ := Pending.bind_iff.mp hq
    · obtain ⟨rfl, rfl⟩ | ⟨_, _, -, hq⟩ := Pending.call_iff.mp hq
      · exact ⟨rfl, hfinalizer, rfl⟩
      · exact (Pending.not_ret hq).elim
    · match r with
      | .error e => exact (Pending.not_ret hq).elim
      | .ok _ => exact (Pending.not_ret hq).elim
  next => exact (Pending.not_ret hq).elim

/-- The finalizer is removed at the end of a cleanup. -/
theorem pending_reconcileDeletion (hq : Pending (reconcileDeletion csm) tr q) (hmarked : Marked q) :
    Run (removeContent csm) tr none ∧ csm.hasFinalizer csmFinalizerName = true ∧
      q = .updateCSM { csm with finalizers := [] } := by
  obtain hq | ⟨tr₁, tr', failed, rfl, hcontent, hq⟩ := Pending.bind_iff.mp hq
  · exact (not_marked_of_pending (calm_removeContent csm) (fun _ => Calm.unmarked) hq hmarked).elim
  cases failed with
  | some x => exact (Pending.not_ret hq).elim
  | none =>
      obtain hq | ⟨tr₂, tr₃, err, rfl, hfinalizer, hq⟩ := Pending.bind_iff.mp hq
      · obtain ⟨rfl, hcsm, rfl⟩ := pending_removeFinalizer hq
        rw [List.append_nil]
        exact ⟨hcontent, hcsm, rfl⟩
      · cases err with
        | some e =>
            have hfail := calm_failWith csm "Deleted" "Failed to delete finalizer: "
              "error when handling finalizer: " e
            exact (not_marked_of_pending hfail (fun _ => Calm.unmarked) hq hmarked).elim
        | none =>
            exact (not_marked_of_pending (watching_finishDeletion csm) (fun _ => Watching.unmarked) hq
              hmarked).elim

theorem pending_ensureFinalizer (hq : Pending (ensureFinalizer csm) tr q) (hmarked : Marked q) :
    tr = [] ∧ csm.hasFinalizer csmFinalizerName = false ∧
      q = .updateCSM ({ csm with finalizers := [csmFinalizerName] }.setState .creating) := by
  unfold ensureFinalizer at hq
  split at hq
  next => exact (Pending.not_ret hq).elim
  next hfinalizer =>
    obtain hq | ⟨_, _, r, -, -, hq⟩ := Pending.bind_iff.mp hq
    · obtain ⟨rfl, rfl⟩ | ⟨_, _, -, hq⟩ := Pending.call_iff.mp hq
      · exact ⟨rfl, Bool.eq_false_iff.mpr hfinalizer, rfl⟩
      · exact (Pending.not_ret hq).elim
    · have hevent : ∀ {α : Type} (cr : ContainerStorageModule) type reason message (a : α),
          Asks (fun q => ¬ Marked q) (fun _ => True) (do
            recordEvent cr type reason message
            pure a) :=
        fun _ _ _ _ _ => .bind (.ask (.event _ _ _ _) fun hq => hq) fun _ => .pure trivial
      match r with
      | .error e =>
          have hfail : Asks (fun q => ¬ Marked q) (fun _ => True) (Except.error <$>
              failWith csm "Updated" "Failed to add finalizer: " "error when adding finalizer: " e :
              Op (Except _ ContainerStorageModule)) := by
            rw [map_eq_pure_bind]
            exact .bind (hevent _ _ _ _ _) fun _ => .pure trivial
          exact (not_marked_of_pending hfail (fun _ h => h) hq hmarked).elim
      | .ok csm' =>
          exact (not_marked_of_pending (hevent csm' .normal "Updated" "Object finalizer is added" _)
            (fun _ h => h) hq hmarked).elim

theorem pending_recordVersion (hq : Pending (recordVersion rt.op csm) tr q) :
    tr = [] ∧ ∃ csm', applyConfigVersionAnnotations rt.op csm = (csm', true) ∧ q = .updateCSM csm' := by
  unfold recordVersion at hq
  split at hq
  next => exact (Pending.not_ret hq).elim
  next csm' heq =>
    obtain ⟨rfl, rfl⟩ | ⟨_, _, -, hq⟩ := Pending.call_iff.mp hq
    · exact ⟨rfl, csm', heq, rfl⟩
    · exact (Pending.not_ret hq).elim

/-- From the computed state on, only the sync makes marked requests. -/
theorem pending_syncAndFinish (hq : Pending (syncAndFinish rt csm) tr q) (hmarked : Marked q) :
    ∃ csm' requeue tr₁ tr₂, tr = tr₁ ++ tr₂ ∧ Run (handleSuccess rt csm) tr₁ (csm', requeue) ∧
      Pending (syncCSM rt csm') tr₂ q := by
  obtain hq | ⟨tr₁, tr', ⟨csm', requeue⟩, rfl, hsuccess, hq⟩ := Pending.bind_iff.mp hq
  · exact (not_marked_of_pending judging_handleSuccess
      (fun _ h => h.statusWork.unmarked) hq hmarked).elim
  obtain hq | ⟨tr₂, tr₃, ⟨cr, err⟩, rfl, -, hq⟩ := Pending.bind_iff.mp hq
  · exact ⟨csm', requeue, tr₁, tr', rfl, hsuccess, hq⟩
  · dsimp only at hq
    split at hq
    · exact (not_marked_finishInstall hq hmarked).elim
    · have hfail : Asks (fun q => ¬ Marked q) (fun _ => True)
          (failInstall { csm' with annotations := cr.annotations } err) :=
        .bind (.ask (.event _ _ _ _) fun hq => hq) fun _ => .pure trivial
      exact (not_marked_of_pending hfail (fun _ h => h) hq hmarked).elim

theorem stage_of_install {tr₀ tr' : List (Event Api)} (hchecked : Checked rt key tr₀ csm)
    (hdeleting : csm.isBeingDeleted = false) (hq : Pending (reconcileInstall rt csm) tr' q)
    (hmarked : Marked q) : Stage rt key (tr₀ ++ tr') q := by
  obtain hq | ⟨tr₁, tr', r, rfl, hfinalizer, hq⟩ := Pending.bind_iff.mp hq
  · obtain ⟨rfl, hcsm, rfl⟩ := pending_ensureFinalizer hq hmarked
    rw [List.append_nil]
    exact .addFinalizer hchecked hdeleting hcsm
  cases r with
  | error x => exact (Pending.not_ret hq).elim
  | ok csm₁ =>
      obtain hq | ⟨tr₂, tr', r, rfl, hversion, hq⟩ := Pending.bind_iff.mp hq
      · obtain ⟨rfl, csm₂, heq, rfl⟩ := pending_recordVersion hq
        rw [List.append_nil]
        exact .recordVersion hchecked hdeleting hfinalizer heq
      · cases r with
        | error e => exact (Pending.not_ret hq).elim
        | ok csm₂ =>
            obtain ⟨csm₃, requeue, tr₃, tr₄, rfl, hsuccess, hq⟩ := pending_syncAndFinish hq hmarked
            exact .sync hchecked hdeleting hfinalizer hversion hsuccess hq

theorem stage_of_prepared (hprepare : prepare rt.op csm = .ok cr)
    (hq : Pending (reconcilePrepared rt cr) tr q) (hmarked : Marked q) :
    Stage rt key (⟨.getCSM key, .ok csm⟩ :: tr) q := by
  obtain hq | ⟨tr₀, tr₁, ⟨csm', err⟩, rfl, hchecks, hq⟩ := Pending.bind_iff.mp hq
  · exact (not_marked_of_pending (quiet_preChecks rt cr).calm (fun _ => Calm.unmarked) hq hmarked).elim
  cases err with
  | some e =>
      have herror : Asks (fun q => ¬ Marked q) (fun _ => True) (do
          recordEvent (csm'.setState .invalidConfig) .warning "Updated"
            ("Failed Prechecks: " ++ e.text)
          handleValidationError (csm'.setState .invalidConfig) e) :=
        .bind (.ask (.event _ _ _ _) fun hq => hq) fun _ =>
          (statusWork_handleValidationError e).mono fun _ => StatusWork.unmarked
      exact (not_marked_of_pending herror (fun _ h => h) hq hmarked).elim
  | none =>
      obtain rfl : csm' = afterDriverPrecheck cr :=
        (((quiet_preChecks rt cr).of_run hchecks).2.2 rfl).1
      have hchecked : Checked rt key (⟨.getCSM key, .ok csm⟩ :: tr₀) (afterDriverPrecheck cr) :=
        .intro hprepare hchecks
      dsimp only at hq
      split at hq
      next hdeleting =>
        obtain ⟨hcontent, hfinalizer, rfl⟩ := pending_reconcileDeletion hq hmarked
        exact .removeFinalizer hchecked hdeleting hcontent hfinalizer
      next hdeleting =>
        exact stage_of_install hchecked (Bool.eq_false_iff.mpr hdeleting) hq hmarked

/-- **Every marked request of a `Reconcile` is made at one of the stages.** -/
theorem stage_of_pending (hq : Pending (reconcile rt key) tr q) (hmarked : Marked q) :
    Stage rt key tr q := by
  obtain hfirst | ⟨tr₁, tr', r, rfl, hread, hrest⟩ := Pending.bind_iff.mp hq
  · obtain ⟨-, rfl⟩ | ⟨_, _, -, hret⟩ := Pending.call_iff.mp hfirst
    · exact hmarked.elim
    · exact (Pending.not_ret hret).elim
  obtain ⟨r', tr'', rfl, hret⟩ := Run.call_iff.mp hread
  obtain ⟨rfl, rfl⟩ := Run.ret_iff.mp hret
  match r with
  | .error e => exact (Pending.not_ret hrest).elim
  | .ok csm =>
      have hprepared : Pending (reconcileRead rt csm) tr' q := hrest
      unfold reconcileRead at hprepared
      cases hprepare : prepare rt.op csm with
      | error e =>
          rw [hprepare] at hprepared
          exact (Pending.not_ret hprepared).elim
      | ok cr =>
          rw [hprepare] at hprepared
          exact stage_of_prepared hprepare hprepared hmarked

/-! ## Inside the sync -/

theorem run_goStore {m : Option StrMap} {k v : String} {m' : Option StrMap}
    (h : Run (goStore m k v) tr m') :
    tr = [] ∧ ∃ f, m = some f ∧ m' = some (Function.update f k (some v)) := by
  cases m with
  | none =>
      obtain ⟨_, _, _, -, hpanic, -⟩ := Run.bind_iff.mp h
      obtain ⟨r, -⟩ := Run.call_iff.mp hpanic
      exact nomatch r
  | some f =>
      obtain ⟨rfl, rfl⟩ := Run.ret_iff.mp h
      exact ⟨rfl, f, rfl, rfl⟩

theorem not_marked_goStore {m : Option StrMap} {k v : String} (hq : Pending (goStore m k v) tr q) :
    ¬ Marked q := by
  have hasks : Asks WorkloadRead (fun _ => True) (goStore m k v) :=
    .bind Asks.deref fun _ => .pure trivial
  exact not_marked_of_pending hasks.quiet.calm (fun _ => Calm.unmarked) hq

/-- The record of the configuration is an update with the annotation set. -/
theorem pending_recordApplied (hq : Pending (recordApplied rt csm) tr q) (hmarked : Marked q) :
    tr = [] ∧ ∃ annotations out, q = .updateCSM (withApplied csm annotations out) := by
  unfold recordApplied at hq
  split at hq
  next => exact (Pending.not_ret hq).elim
  next out _ =>
    obtain hq | ⟨tr₁, tr', m, rfl, hstore, hq⟩ := Pending.bind_iff.mp hq
    · exact (not_marked_goStore hq hmarked).elim
    obtain ⟨rfl, f, -, rfl⟩ := run_goStore hstore
    obtain hq | ⟨_, _, r, -, -, hq⟩ := Pending.bind_iff.mp hq
    · obtain ⟨rfl, rfl⟩ | ⟨_, _, -, hq⟩ := Pending.call_iff.mp hq
      · exact ⟨rfl, f, out, rfl⟩
      · exact (Pending.not_ret hq).elim
    · cases r with
      | error e => exact (Pending.not_ret hq).elim
      | ok cr => exact (Pending.not_ret hq).elim

theorem run_recordApplied (h : Run (recordApplied rt csm) tr (cr, none)) :
    ∃ annotations out, tr = [⟨.updateCSM (withApplied csm annotations out), .ok cr⟩] := by
  unfold recordApplied at h
  split at h
  next => cases (Run.ret_iff.mp h).2
  next out _ =>
    obtain ⟨tr₁, tr', m, rfl, hstore, hrest⟩ := Run.bind_iff.mp h
    obtain ⟨rfl, f, -, rfl⟩ := run_goStore hstore
    obtain ⟨tr₂, tr₃, r, rfl, hupdate, hreply⟩ := Run.bind_iff.mp hrest
    obtain ⟨r', tr'', rfl, hret⟩ := Run.call_iff.mp hupdate
    obtain ⟨rfl, rfl⟩ := Run.ret_iff.mp hret
    match r with
    | .error e => cases (Run.ret_iff.mp hreply).2
    | .ok cr' =>
        obtain ⟨rfl, heq⟩ := Run.ret_iff.mp hreply
        cases heq
        exact ⟨f, out, rfl⟩

/-- A run of the cleanup of old modules, then the record. -/
theorem run_oldStandAloneModuleCleanup (h : Run (oldStandAloneModuleCleanup rt csm) tr (cr, none)) :
    ∃ tr₁ annotations out, (∀ e ∈ tr₁, Inert e.req) ∧
      tr = tr₁ ++ [⟨.updateCSM (withApplied csm annotations out), .ok cr⟩] := by
  unfold oldStandAloneModuleCleanup at h
  dsimp only at h
  split at h
  · split at h
    next => cases (Run.ret_iff.mp h).2
    next oldCR _ =>
      obtain ⟨tr₁, tr₂, err, rfl, hclean, h⟩ := Run.bind_iff.mp h
      cases err with
      | some e => cases (Run.ret_iff.mp h).2
      | none =>
          obtain ⟨annotations, out, rfl⟩ := run_recordApplied h
          refine ⟨tr₁, annotations, out, fun e he => ?_, rfl⟩
          exact ((quiet_cleanupOldModules oldCR csm).of_run hclean).1 e he |>.inert
  · obtain ⟨annotations, out, rfl⟩ := run_recordApplied h
    exact ⟨[], annotations, out, fun e he => (List.not_mem_nil he).elim, rfl⟩

theorem pending_oldStandAloneModuleCleanup
    (hq : Pending (oldStandAloneModuleCleanup rt csm) tr q) (hmarked : Marked q) :
    (∀ e ∈ tr, Inert e.req) ∧ ∃ annotations out, q = .updateCSM (withApplied csm annotations out) := by
  unfold oldStandAloneModuleCleanup at hq
  dsimp only at hq
  split at hq
  · split at hq
    next => exact (Pending.not_ret hq).elim
    next oldCR _ =>
      have hquiet := quiet_cleanupOldModules oldCR csm
      obtain hq | ⟨tr₁, tr₂, err, rfl, hclean, hq⟩ := Pending.bind_iff.mp hq
      · exact (not_marked_of_pending hquiet.calm (fun _ => Calm.unmarked) hq hmarked).elim
      · cases err with
        | some e => exact (Pending.not_ret hq).elim
        | none =>
            obtain ⟨rfl, hupdate⟩ := pending_recordApplied hq hmarked
            rw [List.append_nil]
            exact ⟨fun e he => ((hquiet.of_run hclean).1 e he).inert, hupdate⟩
  · obtain ⟨rfl, hupdate⟩ := pending_recordApplied hq hmarked
    exact ⟨fun e he => (List.not_mem_nil he).elim, hupdate⟩

/-- The marked requests of a sync: actions for the CR it was called with, the record of the
configuration, and actions for the CR that this update has left in memory. -/
theorem pending_syncCSM (hq : Pending (syncCSM rt csm) tr q) (hmarked : Marked q) :
    ((∀ e ∈ tr, Inert e.req) ∧ ((∃ a, q = .action a csm) ∨
      ∃ annotations out, q = .updateCSM (withApplied csm annotations out))) ∨
    ∃ tr₁ tr₂ annotations out cr a, (∀ e ∈ tr₁, Inert e.req) ∧ (∀ e ∈ tr₂, Inert e.req) ∧
      tr = tr₁ ++ ⟨.updateCSM (withApplied csm annotations out), .ok cr⟩ :: tr₂ ∧
      q = .action a cr := by
  have haction : ∀ cr, InertFor cr q → ∃ a, q = .action a cr := by
    intro cr h
    cases q with
    | action a cr' => exact ⟨a, congrArg _ (inertFor_action.mp h)⟩
    | updateCSM cr' => exact h.elim
    | _ => exact hmarked.elim
  have hmodules := inertFor_syncModules csm
  obtain hbody | ⟨_, _, ⟨cr', err⟩, -, -, hrest⟩ := Pending.bind_iff.mp hq
  · obtain hq | ⟨tr₁, tr', r, rfl, hrun, hq⟩ := Pending.bind_iff.mp hbody
    · obtain ⟨htr, hfor⟩ := hmodules.of_pending hq
      exact .inl ⟨fun e he => (htr e he).inert, .inl (haction csm hfor)⟩
    have htr₁ : ∀ e ∈ tr₁, Inert e.req := fun e he => ((hmodules.of_run hrun).1 e he).inert
    match r with
    | .error e => exact (Pending.not_ret hq).elim
    | .ok false => exact (Pending.not_ret hq).elim
    | .ok true =>
        obtain hold | ⟨tr₂, tr₃, ⟨cr, err⟩, rfl, hclean, hdriver⟩ := Pending.bind_iff.mp hq
        · obtain ⟨htr', hupdate⟩ := pending_oldStandAloneModuleCleanup hold hmarked
          refine .inl ⟨fun e he => ?_, .inr hupdate⟩
          rcases List.mem_append.mp he with he | he
          · exact htr₁ e he
          · exact htr' e he
        · cases err with
          | some e => exact (Pending.not_ret hdriver).elim
          | none =>
              obtain ⟨tr₄, annotations, out, htr₄, rfl⟩ := run_oldStandAloneModuleCleanup hclean
              obtain hdriver | ⟨_, _, _, -, -, hret⟩ := Pending.bind_iff.mp hdriver
              · obtain ⟨htr₃, hfor⟩ := (inertFor_syncDriver cr).of_pending hdriver
                obtain ⟨a, rfl⟩ := haction cr hfor
                refine .inr ⟨tr₁ ++ tr₄, tr₃, annotations, out, cr, a, fun e he => ?_,
                  fun e he => (htr₃ e he).inert, by simp, rfl⟩
                rcases List.mem_append.mp he with he | he
                · exact htr₁ e he
                · exact htr₄ e he
              · exact (Pending.not_ret hret).elim
  · obtain hnote | ⟨_, _, _, -, -, hret⟩ := Pending.bind_iff.mp hrest
    · obtain ⟨-, rfl⟩ | ⟨_, _, -, hret⟩ := Pending.call_iff.mp hnote
      · exact hmarked.elim
      · exact (Pending.not_ret hret).elim
    · exact (Pending.not_ret hret).elim

end CsmOperator
