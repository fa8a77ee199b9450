import CsmOperator.Controllers.Exits

/-!
# Work on the status

Computing the state of a CR, storing its status and handling the events of a content watch: all of it
reads the CR and the workload objects, writes the status and takes the locks of the status functions.
It does not update the CR itself, does not touch a watch and does not report a completed install.
Every property of those can skip it.
-/

namespace CsmOperator

open Interaction

/-- The requests made for the status of a CR. -/
def StatusWork : Request → Prop
  | .getCSM _ | .updateCSMStatus _ | .lock .status | .unlock .status | .lock .handlers
  | .unlock .handlers | .note (.calculated _ _ _) | .note (.statusUpdated _ _) => True
  | .event cr _ _ message => message ≠ completedMessage cr.name
  | .unixNano => True
  | q => WorkloadRead q

/-- The requests made to compute the state. -/
def Judging : Request → Prop
  | .lock .status | .unlock .status | .note (.calculated _ _ _) => True
  | q => WorkloadRead q

theorem Judging.statusWork {q : Request} (h : Judging q) : StatusWork q := by
  cases q with
  | lock m => cases m <;> trivial
  | unlock m => cases m <;> trivial
  | note n => cases n <;> trivial
  | _ => first | exact h | exact h.elim

variable {rt : Runtime} {csm : ContainerStorageModule}

/-! ## Computing and storing -/

theorem judging_calculateState (override_ : Option PodStatus) :
    Asks Judging (fun x => ∃ st, x.1 = csm.withStatus st) (calculateState rt csm override_) := by
  refine Sat.mono (calculation_calculateState rt csm override_) (fun q hq => ?_) ?_
  · cases q with
    | note n => cases n <;> first | exact hq.elim | trivial
    | _ => first | exact hq.elim | exact hq
  · rintro ⟨cr, running, err⟩ ⟨⟨st, -, hcr⟩, -⟩
    obtain ⟨st', hst'⟩ := settleState_eq_withStatus rt (csm.withStatus st) running
    exact ⟨st', hcr.trans hst'⟩

theorem judging_handleSuccess :
    Asks Judging (fun x => ∃ st, x.1 = csm.withStatus st) (handleSuccess rt csm) := by
  refine .bind (.ask (.lock .status) trivial) fun _ => ?_
  refine .bind_of (judging_calculateState none) fun ⟨cr, running, err⟩ ⟨st, hcr⟩ => ?_
  refine .bind (.ask (.unlock .status) trivial) fun _ => .pure ?_
  dsimp only at hcr ⊢
  subst hcr
  split_ifs <;> exact ⟨_, rfl⟩

theorem statusWork_writeStatus : Asks StatusWork (fun _ => True) (writeStatus csm) := by
  refine .bind (.ask (.getCSM _) trivial) fun r => ?_
  match r with
  | .error e => exact .pure trivial
  | .ok read =>
      refine .bind (.ask (.updateCSMStatus _) trivial) fun r => ?_
      match r with
      | .error e => exact .pure trivial
      | .ok _ => exact .pure trivial

theorem asks_retryOnConflict {P : Request → Prop} {fn : Op (Option GoError)}
    (h : Asks P (fun _ => True) fn) (attempts : Nat) :
    Asks P (fun _ => True) (retryOnConflict fn attempts) := by
  induction attempts with
  | zero => exact .pure trivial
  | succ attempts ih =>
      refine .bind h fun err => ?_
      cases err with
      | none => exact .pure trivial
      | some e => exact .ite ih (.pure trivial)

theorem statusWork_updateStatus (override_ : Option PodStatus) :
    Asks StatusWork (fun x => ∃ st, x.1 = csm.withStatus st) (updateStatus rt csm override_) := by
  refine .bind (.ask (.lock .status) trivial) fun _ => ?_
  refine .bind_of ((judging_calculateState override_).mono fun _ => Judging.statusWork) fun ⟨cr, running, err⟩ ⟨st, hcr⟩ => ?_
  dsimp only at hcr ⊢
  subst hcr
  refine .bind (asks_retryOnConflict statusWork_writeStatus defaultRetrySteps) fun err' => ?_
  refine .bind (.ask (.unlock .status) trivial) fun _ => ?_
  obtain ⟨c, hc⟩ := recordConfiguration_eq (csm.withStatus st) running
  rw [hc]
  exact .bind (.ask (.note (.statusUpdated _ _)) trivial) fun _ => .pure ⟨_, rfl⟩

theorem statusWork_handleValidationError (e : GoError) :
    Asks StatusWork (fun _ => True) (handleValidationError csm e) := by
  refine .bind (.ask (.lock .status) trivial) fun _ => ?_
  refine .bind (.ask (.updateCSMStatus _) trivial) fun _ => ?_
  exact .bind (.ask (.unlock .status) trivial) fun _ => .pure trivial

/-! ## Handlers -/

/-- The first letter of a text that is put together. -/
theorem head?_append {text : String} {c : Char} (h : text.toList.head? = some c) (rest : String) :
    (text ++ rest).toList.head? = some c := by
  rw [String.toList_append, List.head?_append, h, Option.some_or]

/-- The messages of the handlers are not that of a completed install. -/
theorem completedMessage_ne {name text : String} (h : text.toList.head? ≠ some 'i') :
    text ≠ completedMessage name := by
  have hhead : "install/update storage component: ".toList.head? = some 'i' := by decide
  intro heq
  apply h
  rw [heq]
  exact head?_append (head?_append hhead name) _

theorem statusWork_informerUpdate (csmName : String) (e : UpdateEvent) :
    Asks StatusWork (fun _ => True) (informerUpdate rt csmName e) := by
  have hunlock : Asks StatusWork (fun _ => True) (unlock .handlers) := .ask (.unlock _) trivial
  have hread : ∀ key, Asks StatusWork (fun _ => True) (readEventCSM key) := by
    intro key
    refine .bind (.ask (.getCSM _) trivial) fun r => ?_
    match r with
    | .error e => exact .pure trivial
    | .ok cr => exact .pure trivial
  have hpods : ∀ (now : Int) (rest : String) (name : String),
      "at " ++ Go.itoa now ++ rest ≠ completedMessage name := by
    intro now rest name
    have hhead : "at ".toList.head? = some 'a' := by decide
    apply completedMessage_ne
    rw [head?_append (head?_append hhead _) rest]
    decide
  unfold informerUpdate when
  refine .ite ?_ (.pure trivial)
  cases e with
  | daemonSet old new =>
      refine .bind (.ask (.lock _) trivial) fun _ => .ite ?_ hunlock
      refine .bind (hread _) fun csm => .bind (statusWork_updateStatus _).weaken fun x => ?_
      refine .ite (.bind (.ask (.event _ _ _ _) ?_) fun _ => hunlock) hunlock
      exact completedMessage_ne (by decide)
  | deployment old new =>
      refine .bind (.ask (.lock _) trivial) fun _ => .ite ?_ hunlock
      refine .bind (hread _) fun csm => .bind (statusWork_updateStatus _).weaken fun x => ?_
      refine .ite (.bind (.ask (.event _ _ _ _) ?_) fun _ => hunlock) hunlock
      exact completedMessage_ne (by decide)
  | pod old new =>
      refine .bind (.ask (.lock _) trivial) fun _ => .ite ?_ hunlock
      refine .bind (hread _) fun csm => .bind (statusWork_updateStatus _).weaken fun ⟨cr, err⟩ => ?_
      refine .bind (.ask .unixNano trivial) fun now => ?_
      cases err with
      | none => exact .bind (.ask (.event _ _ _ _) (hpods now _ _)) fun _ => hunlock
      | some e =>
          refine .ite (.bind (.ask (.event _ _ _ _) ?_) fun _ => hunlock)
            (.bind (.ask (.event _ _ _ _) (hpods now _ _)) fun _ => hunlock)
          rw [String.append_assoc]
          exact hpods now _ _

/-! ## The end of an install -/

/-- After the sync there is only the status and the watch left. -/
theorem asks_finishInstall_watching {P : Request → Prop} (hwatch : ∀ q, Watching q → P q)
    (hstatus : ∀ q, StatusWork q → P q) : Asks P (fun _ => True) (finishInstall rt csm) := by
  refine .bind ((statusWork_updateStatus none).mono hstatus).weaken fun ⟨cr, err⟩ => ?_
  refine .ite (.pure trivial) (.bind ((watching_contentWatch rt cr).mono hwatch) fun r => ?_)
  cases r with
  | error e => exact .pure trivial
  | ok stop =>
      refine .bind ((watching_installWatch cr.name stop).mono hwatch) fun _ => ?_
      exact .bind (.ask (.event _ _ _ _) (hwatch _ trivial)) fun _ => .pure trivial

theorem asks_finishInstall {P : Request → Prop} (haside : ∀ q, Aside q → P q)
    (hstatus : ∀ q, StatusWork q → P q) : Asks P (fun _ => True) (finishInstall rt csm) :=
  asks_finishInstall_watching (fun q hq => haside q hq.aside) hstatus

end CsmOperator
