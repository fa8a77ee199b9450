import CsmOperator.Controllers.Requests

/-!
# Rules for the functions of the reconciler

`Reconcile` is long, but most of what it asks is noise: reads of workload objects, calls of abstract
parts, warnings, locks. For a monitor that tolerates noise along a preorder `R`, the rules here reduce
the obligation for a function to the places where something else happens: the updates of the CR, the
status writes, the marks of what was returned, and the stop channels.

In the rules `V csm l` stands for what is known when `csm` is the CR in memory and the monitor is in
`l`, and `F l` for what is left to know on the way out with an error.
-/

namespace CsmOperator

open Interaction

/-- Inert requests, warnings and other events of no consequence, and the locks of status functions
and handlers. -/
def Noise : Request → Prop
  | .event _ type reason _ => ¬ (type = .normal ∧ (reason = "Deleted" ∨ reason = "Completed"))
  | .lock m | .unlock m => m ≠ .contentWatch
  | q => Inert q

theorem Noise.of_inert {q : Request} (h : Inert q) : Noise q := by
  cases q <;> first | exact h | exact h.elim

theorem Asks.noise {α : Type} {φ : α → Prop} {p : Op α} (h : Asks Inert φ p) : Asks Noise φ p :=
  h.mono fun _ => Noise.of_inert

/-- Noise that installs nothing. -/
def Calm : Request → Prop
  | .action a _ => a.installs = false
  | q => Noise q

theorem Calm.noise {q : Request} (h : Calm q) : Noise q := by
  cases q <;> first | exact h | trivial

/-- The early errors come with an empty result. -/
def EarlyError (x : Result × Option GoError) : Prop := ∃ e, x = ({}, some e)

section

variable {P : Request → Prop} (hquiet : ∀ q, Quiet q → P q)
  (hwarn : ∀ cr reason message, P (.event cr .warning reason message)) (csm : ContainerStorageModule)

include hwarn

theorem asks_failWith (reason message text : String) (e : GoError) :
    Asks P EarlyError (failWith csm reason message text e) :=
  .bind (.ask (.event _ _ _ _) (hwarn _ _ _)) fun _ => .pure ⟨_, rfl⟩

include hquiet

/-- What follows the removal of the driver. -/
theorem asks_removeContent_end (err : Option GoError) :
    Asks P (fun x => ∀ y, x = some y → EarlyError y) (do
      match err with
      | some e =>
        some <$> failWith csm "Deleted" "Failed to remove driver: " "error when deleting driver: " e
      | none =>
        match ← firstError ((csm.spec.modules.filter (·.forceRemoveModule)).map fun _ =>
            removeModule csm) with
        | some e =>
          some <$> failWith csm "Deleted" "Failed to remove module: " "error when deleting module: " e
        | none => pure none) := by
  have hfail : ∀ message text e, Asks P (fun x => ∀ y, x = some y → EarlyError y)
      (some <$> failWith csm "Deleted" message text e) := by
    intro message text e
    rw [map_eq_pure_bind]
    refine .bind_of (asks_failWith hwarn csm _ _ _ _) fun x hx => .pure fun y hy => ?_
    cases hy
    exact hx
  cases err with
  | some e => exact hfail _ _ _
  | none =>
      refine .bind (Asks.mono (.firstError ?_) hquiet) fun err => ?_
      · intro p hp
        obtain ⟨m, -, rfl⟩ := List.mem_map.mp hp
        exact quiet_removeModule csm
      · cases err with
        | some e => exact hfail _ _ _
        | none => exact .pure nofun

theorem asks_removeContent :
    Asks P (fun x => ∀ y, x = some y → EarlyError y) (removeContent csm) := by
  refine .bind (Asks.deref.quiet.mono hquiet) fun force => ?_
  dsimp only
  split
  · exact .bind ((quiet_removeDriver csm).mono hquiet) (asks_removeContent_end hquiet hwarn csm)
  · exact .bind ((Asks.logError (quiet_removeDeploymentOwnerRef csm)).mono hquiet)
      (asks_removeContent_end hquiet hwarn csm)

end

theorem Calm.of_quiet {q : Request} (h : Quiet q) : Calm q := by
  cases q <;> first | exact h | exact h.elim

theorem Asks.calm {α : Type} {φ : α → Prop} {p : Op α} (h : Asks Quiet φ p) : Asks Calm φ p :=
  h.mono fun _ => Calm.of_quiet

theorem calm_warning (cr : ContainerStorageModule) (reason message : String) :
    Calm (.event cr .warning reason message) := fun h => nomatch h.1

theorem calm_failWith (csm : ContainerStorageModule) (reason message text : String) (e : GoError) :
    Asks Calm EarlyError (failWith csm reason message text e) :=
  asks_failWith calm_warning csm reason message text e

theorem calm_removeContent (csm : ContainerStorageModule) :
    Asks Calm (fun x => ∀ y, x = some y → EarlyError y) (removeContent csm) :=
  asks_removeContent (fun _ => Calm.of_quiet) calm_warning csm

/-! ## Watches

For properties of the CRs also the watches are of no consequence. -/

/-- The requests that have to do with watches. -/
def Watching : Request → Prop
  | .event _ _ _ _ | .lock _ | .unlock _ | .addEventHandler _ | .startInformers _ _
  | .waitForCacheSync _ | .loadChannel _ | .storeChannel _ _ | .deleteChannel _
  | .closeChannel _ => True
  | _ => False

/-- The requests that neither concern a CR nor mark a return. -/
def Aside : Request → Prop
  | .getCSM _ | .updateCSM _ | .updateCSMStatus _ | .note _ => False
  | _ => True

theorem Noise.aside {q : Request} (h : Noise q) : Aside q := by
  cases q <;> trivial

theorem Watching.aside {q : Request} (h : Watching q) : Aside q := by
  cases q <;> trivial

theorem watching_finishDeletion (csm : ContainerStorageModule) :
    Asks Watching (fun x => x = ({}, none)) (finishDeletion csm) := by
  have hstop : Asks Watching (fun _ => True) (stopWatch csm.name) := by
    refine .bind (.ask (.lock _) trivial) fun _ => .bind (.ask (.loadChannel _) trivial) fun c => ?_
    have hunlock : Asks Watching (fun _ => True) (unlock .contentWatch) := .ask (.unlock _) trivial
    cases c with
    | none => exact hunlock
    | some c =>
        exact .bind (.ask (.closeChannel _) trivial) fun _ =>
          .bind (.ask (.deleteChannel _) trivial) fun _ => hunlock
  exact .bind hstop fun _ => .bind (.ask (.event _ _ _ _) trivial) fun _ => .pure rfl

theorem watching_contentWatch (rt : Runtime) (csm : ContainerStorageModule) :
    Asks Watching (fun _ => True) (contentWatch rt csm) := by
  have hadd : ∀ kind informer, Asks Watching (fun _ => True) (addHandler kind informer) :=
    fun _ _ => .bind (.ask (.addEventHandler _) trivial) fun _ => .pure trivial
  refine .bind (.orElse (hadd _ _) (.orElse (hadd _ _) (hadd _ _))) fun err => ?_
  cases err with
  | some e => exact .pure trivial
  | none =>
      refine .bind (.ask (.startInformers _ _) trivial) fun stop => ?_
      exact .ite (.bind (.ask (.waitForCacheSync _) trivial) fun _ => .pure trivial) (.pure trivial)

theorem watching_installWatch (name : String) (stop : Chan) :
    Asks Watching (fun _ => True) (installWatch name stop) := by
  have hstore : Asks Watching (fun _ => True) (do storeChannel name stop; unlock .contentWatch) :=
    .bind (.ask (.storeChannel _ _) trivial) fun _ => .ask (.unlock _) trivial
  refine .bind (.ask (.lock _) trivial) fun _ => .bind (.ask (.loadChannel _) trivial) fun c => ?_
  cases c with
  | none => exact hstore
  | some c => exact .bind (.ask (.closeChannel _) trivial) fun _ => hstore

/-- For functions that only have to do with watches. -/
theorem Asks.aside {α : Type} {φ : α → Prop} {p : Op α} (h : Asks Watching φ p) : Asks Aside φ p :=
  h.mono fun _ => Watching.aside

section

variable {L : Type} {M : Monitor Api L} {R : L → L → Prop} {l : L} {rt : Runtime}
  {csm : ContainerStorageModule} {V W : ContainerStorageModule → L → Prop} {F : L → Prop}
  {Q : Result × Option GoError → L → Prop}

/-- What is known after an update of the CR in memory. -/
def Reply (V : ContainerStorageModule → L → Prop) (F : L → Prop) :
    Except GoError ContainerStorageModule → L → Prop
  | .ok csm, l => V csm l
  | .error _, l => F l

/-! ## Deletion -/

theorem obeys_reconcileDeletion_calm (hM : M.Frames R Calm) (hF : ∀ l l', R l l' → F l → F l')
    (hl : F l) (hfail : ∀ e l', F l' → Q ({}, some e) l')
    (hfinalizer : ∀ l', R l l' → M.Obeys (removeFinalizer csm) l' fun err l'' =>
      (err.isSome = true → F l'') ∧ (err = none → M.Obeys (finishDeletion csm) l'' Q)) :
    M.Obeys (reconcileDeletion csm) l Q := by
  refine hM.obeys_bind (calm_removeContent csm) fun failed l₁ hfailed h₁ => ?_
  have hl₁ := hF _ _ h₁ hl
  cases failed with
  | some x =>
      obtain ⟨e, rfl⟩ := hfailed x rfl
      exact Monitor.Obeys.pure_iff.mpr (hfail e l₁ hl₁)
  | none =>
      refine (hfinalizer l₁ h₁).bind fun err l₂ h₂ => ?_
      cases err with
      | some e =>
          refine hM.obeys (calm_failWith csm _ _ _ e) fun x l₃ hx h₃ => ?_
          obtain ⟨e', rfl⟩ := hx
          exact hfail e' l₃ (hF _ _ h₃ (h₂.1 rfl))
      | none => exact h₂.2 rfl

theorem obeys_reconcileDeletion (hM : M.Frames R Noise) (hF : ∀ l l', R l l' → F l → F l')
    (hl : F l) (hfail : ∀ e l', F l' → Q ({}, some e) l')
    (hfinalizer : ∀ l', R l l' → M.Obeys (removeFinalizer csm) l' fun err l'' =>
      (err.isSome = true → F l'') ∧ (err = none → M.Obeys (finishDeletion csm) l'' Q)) :
    M.Obeys (reconcileDeletion csm) l Q :=
  obeys_reconcileDeletion_calm (hM.mono fun _ => Calm.noise) hF hl hfail hfinalizer

/-! ## Installation -/

/-- Once there is a finalizer. -/
theorem obeys_reconcileInstall_end (hcsm : V csm l) (hfail : ∀ e l', F l' → Q ({}, some e) l')
    (hversion : ∀ csm' l', V csm' l' → M.Obeys (recordVersion rt.op csm') l' (Reply W F))
    (hinstall : ∀ csm' l', W csm' l' → M.Obeys (syncAndFinish rt csm') l' Q) :
    M.Obeys (do
      match ← recordVersion rt.op csm with
      | .error e => pure ({}, some e)
      | .ok csm => syncAndFinish rt csm) l Q := by
  refine (hversion csm l hcsm).bind fun r l₁ hr => ?_
  cases r with
  | error e => exact Monitor.Obeys.pure_iff.mpr (hfail e l₁ hr)
  | ok csm₁ => exact hinstall csm₁ l₁ hr

theorem obeys_reconcileInstall_calm (hM : M.Frames R Calm) (hF : ∀ l l', R l l' → F l → F l')
    (hV : ∀ csm l l', R l l' → V csm l → V csm l') (hcsm : V csm l)
    (hfail : ∀ e l', F l' → Q ({}, some e) l')
    (hfinalizer : M.Obeys (addFinalizer csm) l (Reply V F))
    (hversion : ∀ csm' l', V csm' l' → M.Obeys (recordVersion rt.op csm') l' (Reply W F))
    (hinstall : ∀ csm' l', W csm' l' → M.Obeys (syncAndFinish rt csm') l' Q) :
    M.Obeys (reconcileInstall rt csm) l Q := by
  refine Monitor.Obeys.bind_iff.mpr ?_
  unfold ensureFinalizer
  split
  · exact Monitor.Obeys.pure_iff.mpr (obeys_reconcileInstall_end hcsm hfail hversion hinstall)
  · refine hfinalizer.bind fun r l₁ hr => ?_
    cases r with
    | error e =>
        dsimp only
        rw [map_eq_pure_bind]
        refine hM.obeys_bind (calm_failWith csm _ _ _ e) fun x l₂ hx h₂ => ?_
        obtain ⟨e', rfl⟩ := hx
        refine Monitor.Obeys.pure_iff.mpr (Monitor.Obeys.pure_iff.mpr ?_)
        exact hfail e' l₂ (hF _ _ h₂ hr)
    | ok csm₁ =>
        have hevent : Calm (.event csm₁ .normal "Updated" "Object finalizer is added") :=
          fun h => absurd h.2 (by decide)
        refine hM.obeys_bind (Asks.ask _ hevent) fun _ l₂ _ h₂ => Monitor.Obeys.pure_iff.mpr ?_
        exact obeys_reconcileInstall_end (hV _ _ _ h₂ hr) hfail hversion hinstall

theorem obeys_reconcileInstall (hM : M.Frames R Noise) (hF : ∀ l l', R l l' → F l → F l')
    (hV : ∀ csm l l', R l l' → V csm l → V csm l') (hcsm : V csm l)
    (hfail : ∀ e l', F l' → Q ({}, some e) l')
    (hfinalizer : M.Obeys (addFinalizer csm) l (Reply V F))
    (hversion : ∀ csm' l', V csm' l' → M.Obeys (recordVersion rt.op csm') l' (Reply W F))
    (hinstall : ∀ csm' l', W csm' l' → M.Obeys (syncAndFinish rt csm') l' Q) :
    M.Obeys (reconcileInstall rt csm) l Q :=
  obeys_reconcileInstall_calm (hM.mono fun _ => Calm.noise) hF hV hcsm hfail hfinalizer hversion hinstall

/-! ## State and status -/

theorem obeys_handleSuccess (hM : M.Frames R Noise)
    {Q : ContainerStorageModule × Result → L → Prop}
    (h : ∀ l₁, R l l₁ → M.Obeys (calculateState rt csm none) l₁ fun x l₂ =>
      ∀ s l₃, R l₂ l₃ → Q (x.1.setState s, { requeue := !x.2.1 && !determineUnitTestRun rt }) l₃) :
    M.Obeys (handleSuccess rt csm) l Q := by
  refine hM.obeys_bind (Asks.ask (.lock .status) nofun) fun _ l₁ _ h₁ => ?_
  refine (h l₁ h₁).bind fun ⟨cr, running, err⟩ l₂ h₂ => ?_
  refine hM.obeys_bind (Asks.ask (.unlock .status) nofun) fun _ l₃ _ h₃ => ?_
  refine Monitor.Obeys.pure_iff.mpr ?_
  split_ifs
  · exact h₂ .succeeded l₃ h₃
  · exact h₂ .succeeded l₃ h₃
  · exact h₂ .failed l₃ h₃
  · exact h₂ cr.status.state l₃ h₃

/-- `UpdateStatus`: what is computed is written, under the mutex of the status functions. -/
theorem obeys_updateStatus (hM : M.Frames R Noise) {override_ : Option PodStatus}
    {Q : ContainerStorageModule × Option GoError → L → Prop}
    (h : ∀ l₁, R l l₁ → M.Obeys (calculateState rt csm override_) l₁ fun x l₂ =>
      M.Obeys (retryOnConflict (writeStatus (recordConfiguration x.1 x.2.1)) defaultRetrySteps) l₂
        fun err l₃ => ∀ l₄, R l₃ l₄ → M.Obeys (note (.statusUpdated (recordConfiguration x.1 x.2.1).key
          (statusError err x.2.1 x.2.2))) l₄ fun _ l₅ =>
            Q (recordConfiguration x.1 x.2.1, statusError err x.2.1 x.2.2) l₅) :
    M.Obeys (updateStatus rt csm override_) l Q := by
  refine hM.obeys_bind (Asks.ask (.lock .status) nofun) fun _ l₁ _ h₁ => ?_
  refine (h l₁ h₁).bind fun ⟨cr, running, merr⟩ l₂ hwrite => ?_
  refine hwrite.bind fun err l₃ hunlock => ?_
  refine hM.obeys_bind (Asks.ask (.unlock .status) nofun) fun _ l₄ _ h₄ => ?_
  refine (hunlock l₄ h₄).bind fun _ l₅ h₅ => ?_
  exact Monitor.Obeys.pure_iff.mpr h₅

/-- One attempt of the status write. -/
theorem obeys_writeStatus {Q : Option GoError → L → Prop} (hread : M.guard l (.getCSM csm.key))
    (hunread : ∀ e, M.assume l (.getCSM csm.key) (.error e) →
      Q (some e) (M.next l (.getCSM csm.key) (.error e)))
    (hwrite : ∀ read, M.assume l (.getCSM csm.key) (.ok read) →
      M.Obeys (updateCSMStatus (read.withStatus csm.status)) (M.next l (.getCSM csm.key) (.ok read))
        fun r l' => Q (match r with | .error e => some e | .ok _ => none) l') :
    M.Obeys (writeStatus csm) l Q := by
  refine obeys_ask_bind (.getCSM csm.key) hread fun r hr => ?_
  match r with
  | .error e => exact Monitor.Obeys.pure_iff.mpr (hunread e hr)
  | .ok read =>
      refine (hwrite read hr).bind fun r l' h => ?_
      cases r <;> exact Monitor.Obeys.pure_iff.mpr h

/-! ## The sync -/

/-- The CR `SyncCSM` stores: the configuration about to be installed is in an annotation. -/
def withApplied (csm : ContainerStorageModule) (annotations : StrMap) (out : String) :
    ContainerStorageModule :=
  { csm with annotations := some (Function.update annotations previouslyApplied (some out)) }

/-- The record of the configuration and what follows it. -/
theorem obeys_syncCSM_end (hM : M.Frames R Noise)
    {Q : ContainerStorageModule × Option GoError → L → Prop} (hfail : ∀ e, Q (csm, some e) l)
    (hrecord : ∀ annotations out, csm.annotations = some annotations →
      rt.jsonMarshal (recordedCR csm) = .ok out →
      M.Obeys (updateCSM (withApplied csm annotations out)) l fun r l₁ => ∀ cr err l₂, R l₁ l₂ →
        (r = .ok cr ∨ cr = withApplied csm annotations out ∧ ∃ e, r = .error e ∧ err = some e) →
        Q (cr, err) l₂) :
    M.Obeys (do
      match ← recordApplied rt csm with
      | (cr, some e) => pure (cr, some e)
      | (cr, none) => pure (cr, ← syncDriver cr)) l Q := by
  refine Monitor.Obeys.bind_iff.mpr ?_
  unfold recordApplied
  split
  next e hjson => exact Monitor.Obeys.pure_iff.mpr (Monitor.Obeys.pure_iff.mpr (hfail _))
  next out hjson =>
    cases hann : csm.annotations with
    | none =>
        -- a nil map: the run stops here
        have hpanic := hM.tolerates l .panic trivial
        exact Monitor.Obeys.call_iff.mpr ⟨hpanic.1, fun r => nomatch r⟩
    | some annotations =>
        refine (hrecord annotations out hann hjson).bind fun r l₁ hr => ?_
        cases r with
        | error e =>
            refine Monitor.Obeys.pure_iff.mpr (Monitor.Obeys.pure_iff.mpr ?_)
            exact hr _ _ l₁ (hM.refl _) (.inr ⟨rfl, e, rfl, rfl⟩)
        | ok cr =>
            have hdriver := ((inertFor_syncDriver cr).mono fun _ => InertFor.inert).noise
            refine Monitor.Obeys.pure_iff.mpr (hM.obeys_bind hdriver fun err l₂ _ h₂ => ?_)
            exact Monitor.Obeys.pure_iff.mpr (hr cr err l₂ h₂ (.inl rfl))

/-- The body of `SyncCSM`: it ends early, or records the configuration and goes on. -/
theorem obeys_syncCSMBody (hM : M.Frames R Noise)
    {Q : ContainerStorageModule × Option GoError → L → Prop}
    (hearly : ∀ err l₁, R l l₁ → (err = none → SyncedEarly csm) → Q (csm, err) l₁)
    (hrecord : ∀ annotations out l₁, R l l₁ → csm.annotations = some annotations →
      rt.jsonMarshal (recordedCR csm) = .ok out →
      M.Obeys (updateCSM (withApplied csm annotations out)) l₁ fun r l₂ => ∀ cr err l₃, R l₂ l₃ →
        (r = .ok cr ∨ cr = withApplied csm annotations out ∧ ∃ e, r = .error e ∧ err = some e) →
        Q (cr, err) l₃) :
    M.Obeys (syncCSMBody rt csm) l Q := by
  have hend := fun (l₁ : L) (h₁ : R l l₁) =>
    obeys_syncCSM_end hM (fun e => hearly (some e) l₁ h₁ nofun) fun annotations out =>
      hrecord annotations out l₁ h₁
  have hmodules := ((inertFor_syncModules csm).mono fun _ => InertFor.inert).noise
  refine hM.obeys_bind hmodules fun r l₁ hr h₁ => ?_
  match r with
  | .error e => exact Monitor.Obeys.pure_iff.mpr (hearly _ _ h₁ nofun)
  | .ok false => exact Monitor.Obeys.pure_iff.mpr (hearly _ _ h₁ fun _ => hr rfl)
  | .ok true =>
      refine Monitor.Obeys.bind_iff.mpr ?_
      unfold oldStandAloneModuleCleanup
      dsimp only
      split
      · split
        next e _ =>
          exact Monitor.Obeys.pure_iff.mpr (Monitor.Obeys.pure_iff.mpr (hearly _ _ h₁ nofun))
        next oldCR _ =>
          have hcleanup := ((quiet_cleanupOldModules oldCR csm).mono fun _ => Quiet.inert).noise
          refine hM.obeys_bind hcleanup fun err l₂ _ h₂ => ?_
          have h₁₂ := hM.trans _ _ _ h₁ h₂
          cases err with
          | some e =>
              exact Monitor.Obeys.pure_iff.mpr (Monitor.Obeys.pure_iff.mpr (hearly _ _ h₁₂ nofun))
          | none => exact Monitor.Obeys.bind_iff.mp (hend l₂ h₁₂)
      · exact Monitor.Obeys.bind_iff.mp (hend l₁ h₁)

/-- `SyncCSM`: its return is marked. -/
theorem obeys_syncCSM (hM : M.Frames R Noise)
    {Q : ContainerStorageModule × Option GoError → L → Prop}
    (hearly : ∀ err l₁, R l l₁ → (err = none → SyncedEarly csm) →
      M.Obeys (note (.synced csm err)) l₁ fun _ l₂ => Q (csm, err) l₂)
    (hrecord : ∀ annotations out l₁, R l l₁ → csm.annotations = some annotations →
      rt.jsonMarshal (recordedCR csm) = .ok out →
      M.Obeys (updateCSM (withApplied csm annotations out)) l₁ fun r l₂ =>
        ∀ cr err l₃, R l₂ l₃ →
          (r = .ok cr ∨ cr = withApplied csm annotations out ∧ ∃ e, r = .error e ∧ err = some e) →
          M.Obeys (note (.synced csm err)) l₃ fun _ l₄ => Q (cr, err) l₄) :
    M.Obeys (syncCSM rt csm) l Q := by
  refine Monitor.Obeys.bind (obeys_syncCSMBody hM (Q := fun x l₁ =>
    M.Obeys (note (.synced csm x.2)) l₁ fun _ l₂ => Q x l₂) hearly hrecord) fun ⟨cr, err⟩ l₁ h => ?_
  exact h.bind fun _ _ h => Monitor.Obeys.pure_iff.mpr h

/-! ## The whole -/

/-- From the prechecks on. -/
theorem obeys_reconcilePrepared_calm (hM : M.Frames R Calm)
    (hinvalid : ∀ cr e l', (cr = csm ∨ cr = afterDriverPrecheck csm) → R l l' →
      M.Obeys (handleValidationError (cr.setState .invalidConfig) e) l' Q)
    (hvalid : ∀ l', R l l' → (checkUpgrade rt.op (afterDriverPrecheck csm)).2 = none →
      M.Obeys (if (afterDriverPrecheck csm).isBeingDeleted
        then reconcileDeletion (afterDriverPrecheck csm)
        else reconcileInstall rt (afterDriverPrecheck csm)) l' Q) :
    M.Obeys (reconcilePrepared rt csm) l Q := by
  refine hM.obeys_bind (quiet_preChecks rt csm).calm fun x l₁ hx h₁ => ?_
  obtain ⟨csm₁, err⟩ := x
  cases err with
  | some e =>
      have hevent : Calm (.event (csm₁.setState .invalidConfig) .warning "Updated"
          ("Failed Prechecks: " ++ e.text)) := fun h => nomatch h.1
      refine hM.obeys_bind (Asks.ask _ hevent) fun _ l₂ _ h₂ => ?_
      exact hinvalid csm₁ e l₂ hx.1 (hM.trans _ _ _ h₁ h₂)
  | none =>
      obtain ⟨heq, hupgrade⟩ := hx.2 rfl
      obtain rfl : csm₁ = afterDriverPrecheck csm := heq
      exact hvalid l₁ h₁ hupgrade

theorem obeys_reconcilePrepared (hM : M.Frames R Noise)
    (hinvalid : ∀ cr e l', (cr = csm ∨ cr = afterDriverPrecheck csm) → R l l' →
      M.Obeys (handleValidationError (cr.setState .invalidConfig) e) l' Q)
    (hvalid : ∀ l', R l l' → (checkUpgrade rt.op (afterDriverPrecheck csm)).2 = none →
      M.Obeys (if (afterDriverPrecheck csm).isBeingDeleted
        then reconcileDeletion (afterDriverPrecheck csm)
        else reconcileInstall rt (afterDriverPrecheck csm)) l' Q) :
    M.Obeys (reconcilePrepared rt csm) l Q :=
  obeys_reconcilePrepared_calm (hM.mono fun _ => Calm.noise) hinvalid hvalid

/-- Up to the prechecks. -/
theorem obeys_reconcileRead (hunprepared : ∀ e, prepare rt.op csm = .error e → Q ({}, some e) l)
    (hprepared : ∀ csm', prepare rt.op csm = .ok csm' → M.Obeys (reconcilePrepared rt csm') l Q) :
    M.Obeys (reconcileRead rt csm) l Q := by
  unfold reconcileRead
  cases hcsm : prepare rt.op csm with
  | error e => exact Monitor.Obeys.pure_iff.mpr (hunprepared e hcsm)
  | ok csm' => exact hprepared csm' hcsm

theorem obeys_reconcile {key : NamespacedName} (hguard : M.guard l (.getCSM key))
    (hunread : ∀ e, M.assume l (.getCSM key) (.error e) →
      Q ({}, none) (M.next l (.getCSM key) (.error e)))
    (hread : ∀ csm, M.assume l (.getCSM key) (.ok csm) →
      M.Obeys (reconcileRead rt csm) (M.next l (.getCSM key) (.ok csm)) Q) :
    M.Obeys (reconcile rt key) l Q := by
  refine obeys_ask_bind (.getCSM key) hguard fun r hr => ?_
  match r with
  | .error e => exact Monitor.Obeys.pure_iff.mpr (hunread e hr)
  | .ok csm => exact hread csm hr

end

end CsmOperator
