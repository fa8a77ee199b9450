import CsmOperator.Interaction.Monitor
import Mathlib.Data.List.Forall2

/-!
# Interleavings of programs

A pool holds any number of programs that share one environment. Between any two calls of one
program the others may move, the environment may move on its own, and further programs may start;
the calls themselves are atomic. The log records every answered call with the thread that made it,
in the order the environment served them.

`Reach.exists_ghost` is the one induction over pool runs that everything else uses: if every program
that may be started obeys a monitor, then an invariant that relates the environment and the log to the
monitor states of the threads only has to be checked one call at a time, and each call may be
assumed to be one its thread's monitor allows.
-/

namespace Interaction

variable {I : Interface} {L W C Ent : Type}

/-- An environment shared by a pool: how it answers, depending on a choice of its own, and how it
moves when nobody asks. -/
structure Env (I : Interface) (W C : Type) where
  respond : W → (q : I.Req) → C → Option (I.Resp q × W)
  drift : W → W → Prop

/-- The threads of a pool, each with the entry point it was started at, the environment they share
and the calls answered so far. -/
structure Pool (I : Interface) (W Ent : Type) where
  world : W
  threads : List (Ent × Prog I Unit)
  log : List (Nat × Event I)

/-- What happened in one step of a pool. -/
inductive Move (I : Interface) (W Ent : Type) where
  | act (i : Nat) (e : Event I)
  | spawn (e : Ent)
  | drift (w : W)

namespace Pool

/-- The pool before anything was started. -/
def empty (w : W) : Pool I W Ent := ⟨w, [], []⟩

/-- Thread `i` has been answered `r` to `q` and goes on with `p`. -/
def afterAct (ps : Pool I W Ent) (i : Nat) (ent : Ent) (p : Prog I Unit) (e : Event I) (w : W) :
    Pool I W Ent :=
  ⟨w, ps.threads.set i (ent, p), ps.log ++ [(i, e)]⟩

/-- A new thread has been started. -/
def afterSpawn (ps : Pool I W Ent) (ent : Ent) (p : Prog I Unit) : Pool I W Ent :=
  ⟨ps.world, ps.threads ++ [(ent, p)], ps.log⟩

/-- One step: some thread gets an answer, a thread is started, or the environment drifts. -/
inductive Step (E : Env I W C) (start : Ent → Prog I Unit) :
    Pool I W Ent → Move I W Ent → Pool I W Ent → Prop
  | act {ps : Pool I W Ent} {i : Nat} {ent : Ent} {q : I.Req} {k : I.Resp q → Prog I Unit}
      {c : C} {r : I.Resp q} {w : W} :
      ps.threads[i]? = some (ent, .call q k) → E.respond ps.world q c = some (r, w) →
      Step E start ps (.act i ⟨q, r⟩) (ps.afterAct i ent (k r) ⟨q, r⟩ w)
  | spawn {ps : Pool I W Ent} (ent : Ent) :
      Step E start ps (.spawn ent) (ps.afterSpawn ent (start ent))
  | drift {ps : Pool I W Ent} {w : W} :
      E.drift ps.world w → Step E start ps (.drift w) { ps with world := w }

/-- The pools reachable from `ps₀` by steps that all meet the condition `Ok`. -/
inductive Reach (E : Env I W C) (start : Ent → Prog I Unit)
    (Ok : Pool I W Ent → Move I W Ent → Prop) (ps₀ : Pool I W Ent) : Pool I W Ent → Prop
  | refl : Reach E start Ok ps₀ ps₀
  | tail {ps ps' : Pool I W Ent} {m : Move I W Ent} :
      Reach E start Ok ps₀ ps → Ok ps m → Step E start ps m ps' → Reach E start Ok ps₀ ps'

variable {E : Env I W C} {start : Ent → Prog I Unit} {Ok : Pool I W Ent → Move I W Ent → Prop}

/-- Thread by thread, what is left to run obeys the monitor from the state given for it. -/
def Watched (M : Monitor I L) (ts : List (Ent × Prog I Unit)) (ls : List L) : Prop :=
  List.Forall₂ (fun t l => M.Obeys t.2 l fun _ _ => True) ts ls

theorem Watched.get {M : Monitor I L} {ts : List (Ent × Prog I Unit)} {ls : List L}
    (h : Watched M ts ls) {i : Nat} {t : Ent × Prog I Unit} (ht : ts[i]? = some t) :
    ∃ l, ls[i]? = some l ∧ M.Obeys t.2 l fun _ _ => True := by
  induction h generalizing i with
  | nil => simp at ht
  | cons hd _ ih =>
      cases i with
      | zero => simp at ht ⊢; exact ht ▸ hd
      | succ i => simpa using ih (by simpa using ht)

theorem Watched.set {M : Monitor I L} {ts : List (Ent × Prog I Unit)} {ls : List L}
    (h : Watched M ts ls) (i : Nat) {t : Ent × Prog I Unit} {l : L}
    (ht : M.Obeys t.2 l fun _ _ => True) : Watched M (ts.set i t) (ls.set i l) := by
  induction h generalizing i with
  | nil => exact .nil
  | cons hd tl ih =>
      cases i with
      | zero => exact .cons ht tl
      | succ i => exact .cons hd (ih i)

theorem Watched.length_eq {M : Monitor I L} {ts : List (Ent × Prog I Unit)} {ls : List L}
    (h : Watched M ts ls) : ts.length = ls.length :=
  List.Forall₂.length_eq h

/-- **The invariant rule for pools.** `J` relates a pool to the monitor states of its threads. It has
to hold of the empty pool and survive a new thread, a drift of the environment, and an answered
call; for the last it may be assumed that the call is allowed, and the answer has to be shown to be
one the monitor expects. -/
theorem Reach.exists_ghost (M : Monitor I L) (init : Ent → L)
    (hstart : ∀ ps ent, Ok ps (.spawn ent) → M.Obeys (start ent) (init ent) fun _ _ => True)
    (J : Pool I W Ent → List L → Prop) {w₀ : W} (hempty : J (Pool.empty w₀) [])
    (hspawn : ∀ ps ls ent, J ps ls → ps.threads.length = ls.length → Ok ps (.spawn ent) →
      J (ps.afterSpawn ent (start ent)) (ls ++ [init ent]))
    (hdrift : ∀ ps ls w, J ps ls → Ok ps (.drift w) → E.drift ps.world w →
      J { ps with world := w } ls)
    (hact : ∀ ps ls i ent l q k c r w, J ps ls → ps.threads[i]? = some (ent, .call q k) →
      ls[i]? = some l → M.guard l q → E.respond ps.world q c = some (r, w) →
      Ok ps (.act i ⟨q, r⟩) →
      M.assume l q r ∧ J (ps.afterAct i ent (k r) ⟨q, r⟩ w) (ls.set i (M.next l q r)))
    {ps : Pool I W Ent} (h : Reach E start Ok (Pool.empty w₀) ps) :
    ∃ ls, Watched M ps.threads ls ∧ J ps ls := by
  induction h with
  | refl => exact ⟨[], .nil, hempty⟩
  | @tail ps ps' m _ hok hstep ih =>
      obtain ⟨ls, hw, hJ⟩ := ih
      cases hstep with
      | @act i ent q k c r w ht hr =>
          obtain ⟨l, hl, hob⟩ := hw.get ht
          obtain ⟨hguard, hnext⟩ := Monitor.Obeys.call_iff.mp hob
          obtain ⟨hassume, hJ'⟩ := hact ps ls i ent l q k c r w hJ ht hl hguard hr hok
          exact ⟨_, hw.set i (hnext r hassume), hJ'⟩
      | spawn ent =>
          refine ⟨_, ?_, hspawn ps ls ent hJ hw.length_eq hok⟩
          exact List.rel_append hw (.cons (hstart ps ent hok) .nil)
      | drift hd => exact ⟨ls, hw, hdrift ps ls _ hJ hok hd⟩

/-- What holds of every state reached may be used at every step. -/
theorem Reach.with_invariant {P : Pool I W Ent → Prop} {ps₀ ps : Pool I W Ent}
    (h : Reach E start Ok ps₀ ps) (hP : ∀ ps, Reach E start Ok ps₀ ps → P ps) :
    Reach E start (fun ps m => Ok ps m ∧ P ps) ps₀ ps := by
  induction h with
  | refl => exact .refl
  | tail h hok hstep ih => exact ih.tail ⟨hok, hP _ h⟩ hstep

/-- The calls of a run are those of the log it ends with. -/
theorem Reach.logged {ps₀ ps : Pool I W Ent} (h : Reach E start Ok ps₀ ps)
    {log : List (Nat × Event I)} (hlog : ps.log ⊆ log) :
    Reach E start (fun ps' m => Ok ps' m ∧ ∀ i e, m = .act i e → (i, e) ∈ log) ps₀ ps := by
  induction h with
  | refl => exact .refl
  | tail h hok hstep ih =>
      cases hstep with
      | act ht hr =>
          refine (ih fun x hx => hlog (List.mem_append_left _ hx)).tail ⟨hok, ?_⟩ (.act ht hr)
          rintro i e heq
          cases heq
          exact hlog (List.mem_append_right _ (List.mem_singleton_self _))
      | spawn ent => exact (ih hlog).tail ⟨hok, fun _ _ heq => by cases heq⟩ (.spawn ent)
      | drift hd => exact (ih hlog).tail ⟨hok, fun _ _ heq => by cases heq⟩ (.drift hd)

/-- What has been appended to a list is at its end. -/
theorem getElem?_concat {α : Type*} {xs : List α} {x y : α} {j : Nat}
    (h : (xs ++ [x])[j]? = some y) : xs[j]? = some y ∨ j = xs.length ∧ y = x := by
  by_cases hj : j < xs.length
  · rw [List.getElem?_append_left hj] at h
    exact .inl h
  · rw [List.getElem?_append_right (Nat.le_of_not_lt hj), List.getElem?_singleton] at h
    split at h
    next h0 =>
      cases h
      exact .inr ⟨by omega, rfl⟩
    next => cases h

/-! ## The threads apart -/

/-- The calls of one thread. -/
def trace (log : List (Nat × Event I)) (i : Nat) : List (Event I) :=
  (log.filter (·.1 = i)).map (·.2)

theorem trace_append_self (log : List (Nat × Event I)) (i : Nat) (e : Event I) :
    trace (log ++ [(i, e)]) i = trace log i ++ [e] := by
  simp [trace]

theorem trace_append_of_ne (log : List (Nat × Event I)) {i j : Nat} (e : Event I) (h : j ≠ i) :
    trace (log ++ [(i, e)]) j = trace log j := by
  simp [trace, h.symm]

theorem mem_of_mem_trace {log : List (Nat × Event I)} {i : Nat} {e : Event I} (h : e ∈ trace log i) :
    (i, e) ∈ log := by
  obtain ⟨⟨j, e'⟩, hmem, rfl⟩ := List.mem_map.mp h
  obtain ⟨hmem, hj⟩ := List.mem_filter.mp hmem
  exact of_decide_eq_true hj ▸ hmem

theorem Reach.log_lt {w₀ : W} {ps : Pool I W Ent} (h : Reach E start Ok (Pool.empty w₀) ps) :
    ∀ x ∈ ps.log, x.1 < ps.threads.length := by
  induction h with
  | refl => exact fun x hx => (List.not_mem_nil hx).elim
  | tail _ _ hstep ih =>
      intro x hx
      cases hstep with
      | act ht _ =>
          rw [afterAct, List.length_set]
          rcases List.mem_append.mp hx with hx | hx
          · exact ih x hx
          · obtain rfl := List.mem_singleton.mp hx
            exact (List.getElem?_eq_some_iff.mp ht).1
      | spawn ent =>
          have hx := ih x hx
          simp only [afterSpawn, List.length_append, List.length_singleton]
          omega
      | drift => exact ih x hx

/-- A thread that was not started has not called anything. -/
theorem Reach.trace_eq_nil {w₀ : W} {ps : Pool I W Ent} (h : Reach E start Ok (Pool.empty w₀) ps) {i : Nat}
    (hi : ps.threads.length ≤ i) : trace ps.log i = [] := by
  rw [trace, List.filter_eq_nil_iff.mpr, List.map_nil]
  intro x hx
  have hx := h.log_lt x hx
  rw [decide_eq_true_eq]
  omega

/-- **A thread of a pool runs its program.** What is left of it to run continues what the log has of
it. -/
theorem Reach.continues {w₀ : W} {ps : Pool I W Ent} (h : Reach E start Ok (Pool.empty w₀) ps) {i : Nat}
    {ent : Ent} {p : Prog I Unit} (hthread : ps.threads[i]? = some (ent, p)) :
    (∀ tr q, Pending p tr q → Pending (start ent) (trace ps.log i ++ tr) q) ∧
      ∀ tr a, Run p tr a → Run (start ent) (trace ps.log i ++ tr) a := by
  induction h generalizing i ent p with
  | refl => cases hthread
  | @tail ps ps' m hreach _ hstep ih =>
      cases hstep with
      | @act i₀ ent₀ q₀ k₀ c r w ht hr =>
          by_cases hi : i = i₀
          · subst hi
            rw [afterAct, List.getElem?_set_self (List.getElem?_eq_some_iff.mp ht).1] at hthread
            cases hthread
            rw [afterAct, trace_append_self]
            simp only [List.append_assoc]
            exact ⟨fun tr q hq => (ih ht).1 _ q (.later hq), fun tr a ha => (ih ht).2 _ a (.call ha)⟩
          · rw [afterAct, List.getElem?_set_ne (Ne.symm hi)] at hthread
            rw [afterAct, trace_append_of_ne _ _ hi]
            exact ih hthread
      | spawn ent₀ =>
          obtain hthread | ⟨rfl, heq⟩ := getElem?_concat hthread
          · exact ih hthread
          · cases heq
            have hnil : trace (ps.afterSpawn ent (start ent)).log ps.threads.length = [] :=
              hreach.trace_eq_nil (Nat.le_refl _)
            rw [hnil]
            exact ⟨fun _ _ hq => hq, fun _ _ ha => ha⟩
      | drift => exact ih hthread

/-- What is pending in a thread is pending in its program after the calls the log has of it. -/
theorem Reach.pending {w₀ : W} {ps : Pool I W Ent} (h : Reach E start Ok (Pool.empty w₀) ps) {i : Nat}
    {ent : Ent} {q : I.Req} {k : I.Resp q → Prog I Unit}
    (hthread : ps.threads[i]? = some (ent, .call q k)) :
    Pending (start ent) (trace ps.log i) q := by
  have hpending := (h.continues hthread).1 [] q .here
  rwa [List.append_nil] at hpending

/-- What the log has of a finished thread is a run of its program. -/
theorem Reach.run {w₀ : W} {ps : Pool I W Ent} (h : Reach E start Ok (Pool.empty w₀) ps) {i : Nat}
    {ent : Ent} {a : Unit} (hthread : ps.threads[i]? = some (ent, .ret a)) :
    Run (start ent) (trace ps.log i) a := by
  have hrun := (h.continues hthread).2 [] a (.ret a)
  rwa [List.append_nil] at hrun

/-- The monitor states of the threads, if all start in `l₀`. -/
def states (M : Monitor I L) (l₀ : L) (log : List (Nat × Event I)) (i : Nat) : L :=
  M.after l₀ (trace log i)

theorem states_append (M : Monitor I L) (l₀ : L) (log : List (Nat × Event I)) (i : Nat) (e : Event I) :
    states M l₀ (log ++ [(i, e)]) =
      Function.update (states M l₀ log) i (M.next (states M l₀ log i) e.req e.resp) := by
  funext j
  by_cases hj : j = i
  · subst hj
    rw [Function.update_self, states, trace_append_self, Monitor.after_append]
    rfl
  · rw [Function.update_of_ne hj, states, trace_append_of_ne _ _ hj, states]

/-- What a thread is about to ask is allowed by a monitor that expects every answer. -/
theorem Reach.guard {M : Monitor I L} {l₀ : L} {Q : Unit → L → Prop}
    (hstart : ∀ ent, M.Obeys (start ent) l₀ Q) (hassume : ∀ l q r, M.assume l q r) {w₀ : W}
    {ps : Pool I W Ent} (h : Reach E start Ok (Pool.empty w₀) ps) {i : Nat} {ent : Ent} {q : I.Req}
    {k : I.Resp q → Prog I Unit} (hthread : ps.threads[i]? = some (ent, .call q k)) :
    M.guard (states M l₀ ps.log i) q :=
  (hstart ent).of_pending (h.pending hthread) (M.admits_of_forall hassume _ _)

/-- The rule for a monitor that expects every answer: its states are those the log leads to. -/
theorem Reach.states_invariant {M : Monitor I L} {l₀ : L} {Q : Unit → L → Prop}
    (hstart : ∀ ent, M.Obeys (start ent) l₀ Q) (hassume : ∀ l q r, M.assume l q r)
    (J : W → List (Nat × Event I) → (Nat → L) → Prop) {w₀ : W} (hempty : J w₀ [] fun _ => l₀)
    (hdrift : ∀ w log ls w', J w log ls → E.drift w w' → J w' log ls)
    (hact : ∀ w log ls i q c r w', J w log ls → M.guard (ls i) q → E.respond w q c = some (r, w') →
      J w' (log ++ [(i, ⟨q, r⟩)]) (Function.update ls i (M.next (ls i) q r)))
    {ps : Pool I W Ent} (h : Reach E start Ok (Pool.empty w₀) ps) :
    J ps.world ps.log (states M l₀ ps.log) := by
  induction h with
  | refl => exact hempty
  | tail hreach _ hstep ih =>
      cases hstep with
      | act ht hr =>
          rw [afterAct, states_append]
          exact hact _ _ _ _ _ _ _ _ ih (hreach.guard hstart hassume ht) hr
      | spawn => exact ih
      | drift hd => exact hdrift _ _ _ _ ih hd

/-- The rule when what is known of a thread does not depend on the others: `G i t` says what a
monitor state means when thread `i` is `t`, and every step has to keep that meaning. -/
theorem Reach.exists_known (M : Monitor I L) (init : Ent → L)
    (hstart : ∀ ps ent, Ok ps (.spawn ent) → M.Obeys (start ent) (init ent) fun _ _ => True)
    (Inv : W → List (Nat × Event I) → Prop)
    (G : Nat → Ent × Prog I Unit → W → List (Nat × Event I) → L → Prop) {w₀ : W} (hempty : Inv w₀ [])
    (hspawn : ∀ ps ent, Inv ps.world ps.log → (∀ x ∈ ps.log, x.1 < ps.threads.length) →
      Ok ps (.spawn ent) →
      G ps.threads.length (ent, start ent) ps.world ps.log (init ent))
    (hdrift : ∀ ps w, Inv ps.world ps.log → Ok ps (.drift w) → E.drift ps.world w →
      Inv w ps.log ∧ ∀ i t l, ps.threads[i]? = some t → G i t ps.world ps.log l → G i t w ps.log l)
    (hact : ∀ ps i ent l q k c r w, Inv ps.world ps.log →
      G i (ent, .call q k) ps.world ps.log l → ps.threads[i]? = some (ent, .call q k) → M.guard l q →
      E.respond ps.world q c = some (r, w) → Ok ps (.act i ⟨q, r⟩) →
      M.assume l q r ∧ Inv w (ps.log ++ [(i, ⟨q, r⟩)]) ∧
        G i (ent, k r) w (ps.log ++ [(i, ⟨q, r⟩)]) (M.next l q r) ∧
        ∀ j t l', j ≠ i → ps.threads[j]? = some t → G j t ps.world ps.log l' →
          G j t w (ps.log ++ [(i, ⟨q, r⟩)]) l')
    {ps : Pool I W Ent} (h : Reach E start Ok (Pool.empty w₀) ps) :
    Inv ps.world ps.log ∧ ∃ ls, Watched M ps.threads ls ∧
      ∀ i t l, ps.threads[i]? = some t → ls[i]? = some l → G i t ps.world ps.log l := by
  have hghost := h.exists_ghost M init hstart
    (fun ps ls => Inv ps.world ps.log ∧ (∀ x ∈ ps.log, x.1 < ps.threads.length) ∧
      ∀ i t l, ps.threads[i]? = some t → ls[i]? = some l → G i t ps.world ps.log l)
    ⟨hempty, nofun, nofun⟩ (fun ps ls ent hJ hlen hok => ?_) (fun ps ls w hJ hok hd => ?_)
    (fun ps ls i ent l q k c r w hJ ht hl hg hr hok => ?_)
  · obtain ⟨ls, hw, hinv, -, hG⟩ := hghost
    exact ⟨hinv, ls, hw, hG⟩
  · obtain ⟨hinv, hlog, hG⟩ := hJ
    refine ⟨hinv, fun x hx => ?_, fun i t l ht hl => ?_⟩
    · have hx := hlog x hx
      simp only [afterSpawn, List.length_append, List.length_singleton]
      omega
    · obtain ht | ⟨rfl, rfl⟩ := getElem?_concat ht
      · have hi := (List.getElem?_eq_some_iff.mp ht).1
        rw [List.getElem?_append_left (hlen ▸ hi)] at hl
        exact hG i t l ht hl
      · rw [hlen, List.getElem?_concat_length] at hl
        cases hl
        exact hspawn ps ent hinv hlog hok
  · obtain ⟨hinv, hlog, hG⟩ := hJ
    obtain ⟨hinv', hG'⟩ := hdrift ps w hinv hok hd
    exact ⟨hinv', hlog, fun i t l ht hl => hG' i t l ht (hG i t l ht hl)⟩
  · obtain ⟨hinv, hlog, hG⟩ := hJ
    have hi : i < ps.threads.length := (List.getElem?_eq_some_iff.mp ht).1
    obtain ⟨hassume, hinv', hnext, hothers⟩ :=
      hact ps i ent l q k c r w hinv (hG i _ l ht hl) ht hg hr hok
    refine ⟨hassume, hinv', fun x hx => ?_, fun j t l' htj hlj => ?_⟩
    · rw [afterAct, List.length_set]
      rcases List.mem_append.mp hx with hx | hx
      · exact hlog x hx
      · obtain rfl := List.mem_singleton.mp hx
        exact hi
    · by_cases hj : j = i
      · subst hj
        rw [afterAct, List.getElem?_set_self hi] at htj
        rw [List.getElem?_set_self (List.getElem?_eq_some_iff.mp hl).1] at hlj
        cases htj
        cases hlj
        exact hnext
      · rw [afterAct, List.getElem?_set_ne (Ne.symm hj)] at htj
        rw [List.getElem?_set_ne (Ne.symm hj)] at hlj
        exact hothers j t l' hj htj (hG j t l' htj hlj)

/-! ## Playing a schedule -/

/-- The move of one thread, with the choice of the environment given. -/
def advance (E : Env I W C) (ps : Pool I W Ent) (i : Nat) (c : C) :
    Option (Event I × Pool I W Ent) :=
  match ps.threads[i]? with
  | some (ent, .call q k) =>
    (E.respond ps.world q c).map fun x => (⟨q, x.1⟩, ps.afterAct i ent (k x.1) ⟨q, x.1⟩ x.2)
  | _ => none

/-- A move that passes a test is a step. -/
theorem exists_step_of_advance (start : Ent → Prog I Unit) {ps : Pool I W Ent} {i : Nat} {c : C}
    {test : Event I × Pool I W Ent → Bool} (h : (advance E ps i c).any test = true) :
    ∃ e ps', Step E start ps (.act i e) ps' ∧ test (e, ps') = true := by
  obtain ⟨⟨e, ps'⟩, hmove, htest⟩ := (Option.any_eq_true ..).mp h
  unfold advance at hmove
  split at hmove
  next ent q k hthread =>
    obtain ⟨⟨r, w⟩, hrespond, heq⟩ := Option.map_eq_some_iff.mp hmove
    cases heq
    exact ⟨_, _, .act hthread hrespond, htest⟩
  next => cases hmove

/-- Let threads move in a given order, with the choices of the environment given. A thread that cannot
move, or whose move does not pass `test`, is skipped. -/
def play (E : Env I W C) (test : Pool I W Ent → Nat → Event I → Bool) :
    List (Nat × C) → Pool I W Ent → Pool I W Ent
  | [], ps => ps
  | (i, c) :: cues, ps =>
    match ps.threads[i]? with
    | some (ent, .call q k) =>
      match E.respond ps.world q c with
      | some (r, w) =>
        if test ps i ⟨q, r⟩ then play E test cues (ps.afterAct i ent (k r) ⟨q, r⟩ w)
        else play E test cues ps
      | none => play E test cues ps
    | _ => play E test cues ps

/-- What is played is reached. -/
theorem Reach.play {test : Pool I W Ent → Nat → Event I → Bool}
    (htest : ∀ ps i e, test ps i e = true → Ok ps (.act i e)) (cues : List (Nat × C))
    {ps₀ ps : Pool I W Ent} (h : Reach E start Ok ps₀ ps) :
    Reach E start Ok ps₀ (ps.play E test cues) := by
  induction cues generalizing ps with
  | nil => exact h
  | cons cue cues ih =>
      unfold Pool.play
      split
      next ent q k hthread =>
        split
        next r w hrespond =>
          split
          next hok => exact ih (h.tail (htest _ _ _ hok) (.act hthread hrespond))
          next => exact ih h
        next => exact ih h
      next => exact ih h

/-- Threads may be started one after the other. -/
theorem Reach.spawnAll (hspawn : ∀ ps ent, Ok ps (.spawn ent)) (ents : List Ent) {ps₀ ps : Pool I W Ent}
    (h : Reach E start Ok ps₀ ps) :
    Reach E start Ok ps₀ (ents.foldl (fun ps ent => ps.afterSpawn ent (start ent)) ps) := by
  induction ents generalizing ps with
  | nil => exact h
  | cons ent ents ih => exact ih (h.tail (hspawn ps ent) (.spawn ent))

theorem spawnAll_entries (ents : List Ent) (ps : Pool I W Ent) :
    (ents.foldl (fun ps ent => ps.afterSpawn ent (start ent)) ps).threads.map (·.1) =
      ps.threads.map (·.1) ++ ents := by
  induction ents generalizing ps with
  | nil => exact (List.append_nil _).symm
  | cons ent ents ih =>
      rw [List.foldl_cons, ih, afterSpawn, List.map_append, List.append_assoc]
      rfl

/-- No thread is exchanged. -/
theorem play_entries (E : Env I W C) (test : Pool I W Ent → Nat → Event I → Bool) (cues : List (Nat × C))
    (ps : Pool I W Ent) : (ps.play E test cues).threads.map (·.1) = ps.threads.map (·.1) := by
  induction cues generalizing ps with
  | nil => rfl
  | cons cue cues ih =>
      unfold Pool.play
      split
      next ent q k hthread =>
        split
        next r w hrespond =>
          split
          next =>
            obtain ⟨hi, hget⟩ := List.getElem?_eq_some_iff.mp hthread
            have hlt : cue.1 < (ps.threads.map Prod.fst).length := by rwa [List.length_map]
            have hent : (ps.threads.map Prod.fst)[cue.1] = ent := by rw [List.getElem_map, hget]
            rw [ih, afterAct, List.map_set, ← hent]
            exact List.set_getElem_self hlt
          next => exact ih ps
        next => exact ih ps
      next => exact ih ps

/-- The thread has returned. -/
def isFinished (ps : Pool I W Ent) (i : Nat) : Bool :=
  match ps.threads[i]? with
  | some (_, .ret _) => true
  | _ => false

theorem thread_of_isFinished {ps : Pool I W Ent} {i : Nat} {ent : Ent}
    (hent : (ps.threads.map (·.1))[i]? = some ent) (h : ps.isFinished i = true) :
    ps.threads[i]? = some (ent, .ret ()) := by
  unfold isFinished at h
  split at h
  next hthread =>
    rw [List.getElem?_map, hthread] at hent
    cases hent
    exact hthread
  next => cases h

end Pool

end Interaction
