import CsmOperator.Interaction.Prog

/-!
# Monitors: a program logic for programs over an interface

A *monitor* watches the calls of one program and keeps a state of its own about them. In a state it
says which requests may be made (`guard`), which answers the environment can give (`assume`), and
how an answered call changes the state (`next`).

`M.Obeys p l Q` is the weakest precondition of `p` for that logic: started with the monitor in `l`,
whatever admissible answers `p` gets, every request it makes is allowed and it returns only with
`Q` satisfied. The rules are the usual ones — return, call, sequencing, consequence — and a frame
rule for the parts of a program the monitor does not look at (`Frames.obeys`).
-/

namespace Interaction

variable {I : Interface} {L α β : Type}

/-- A state machine that watches the calls of a program. -/
structure Monitor (I : Interface) (L : Type) where
  /-- the requests allowed in a state -/
  guard : L → I.Req → Prop
  /-- the answers that can come back in a state -/
  assume : L → (q : I.Req) → I.Resp q → Prop
  /-- the state after an answered call -/
  next : L → (q : I.Req) → I.Resp q → L

namespace Monitor

variable (M : Monitor I L)

/-- Started in `l`, the program only makes allowed requests and returns only with `Q`. -/
def Obeys : Prog I α → L → (α → L → Prop) → Prop
  | .ret a, l, Q => Q a l
  | .call q k, l, Q => M.guard l q ∧ ∀ r, M.assume l q r → Obeys (k r) (M.next l q r) Q

/-- The monitor allows the requests in `P` in every state, and they move it only along `R`. -/
def Tolerates (R : L → L → Prop) (P : I.Req → Prop) : Prop :=
  ∀ l q, P q → M.guard l q ∧ ∀ r, M.assume l q r → R l (M.next l q r)

/-- The state of the monitor after the events of a trace. -/
def after (l : L) (tr : List (Event I)) : L :=
  tr.foldl (fun l e => M.next l e.req e.resp) l

/-- Every answer in the trace is one the monitor expects at that point. -/
def Admits : L → List (Event I) → Prop
  | _, [] => True
  | l, e :: tr => M.assume l e.req e.resp ∧ Admits (M.next l e.req e.resp) tr

@[simp] theorem after_nil (l : L) : M.after l [] = l := rfl

@[simp] theorem after_cons (l : L) (e : Event I) (tr : List (Event I)) :
    M.after l (e :: tr) = M.after (M.next l e.req e.resp) tr := rfl

theorem after_append (l : L) (tr₁ tr₂ : List (Event I)) :
    M.after l (tr₁ ++ tr₂) = M.after (M.after l tr₁) tr₂ :=
  List.foldl_append

@[simp] theorem admits_nil (l : L) : M.Admits l [] := trivial

@[simp] theorem admits_cons (l : L) (e : Event I) (tr : List (Event I)) :
    M.Admits l (e :: tr) ↔ M.assume l e.req e.resp ∧ M.Admits (M.next l e.req e.resp) tr :=
  Iff.rfl

theorem admits_append (l : L) (tr₁ tr₂ : List (Event I)) :
    M.Admits l (tr₁ ++ tr₂) ↔ M.Admits l tr₁ ∧ M.Admits (M.after l tr₁) tr₂ := by
  induction tr₁ generalizing l with
  | nil => simp
  | cons e tr₁ ih => simp only [List.cons_append, admits_cons, after_cons, ih, and_assoc]

/-- A monitor that expects every answer admits every trace. -/
theorem admits_of_forall (h : ∀ l q r, M.assume l q r) (l : L) (tr : List (Event I)) :
    M.Admits l tr := by
  induction tr generalizing l with
  | nil => trivial
  | cons e tr ih => exact ⟨h _ _ _, ih _⟩

namespace Obeys

variable {M} {l : L} {Q Q' : α → L → Prop}

@[simp] theorem ret_iff {a : α} : M.Obeys (.ret a) l Q ↔ Q a l := Iff.rfl

@[simp] theorem pure_iff {a : α} : M.Obeys (pure a) l Q ↔ Q a l := Iff.rfl

theorem call_iff {q : I.Req} {k : I.Resp q → Prog I α} :
    M.Obeys (.call q k) l Q ↔
      M.guard l q ∧ ∀ r, M.assume l q r → M.Obeys (k r) (M.next l q r) Q := Iff.rfl

/-- Sequencing. -/
theorem bind_iff {p : Prog I α} {f : α → Prog I β} {Q : β → L → Prop} :
    M.Obeys (p >>= f) l Q ↔ M.Obeys p l fun a l' => M.Obeys (f a) l' Q := by
  induction p generalizing l with
  | ret a => rfl
  | call q k ih =>
      rw [Prog.call_bind, call_iff, call_iff]
      exact and_congr_right fun _ => forall_congr' fun r => imp_congr_right fun _ => ih r

/-- Consequence. -/
theorem mono {p : Prog I α} (h : M.Obeys p l Q) (hQ : ∀ a l', Q a l' → Q' a l') :
    M.Obeys p l Q' := by
  induction p generalizing l with
  | ret a => exact hQ a l h
  | call q k ih => exact ⟨h.1, fun r hr => ih r (h.2 r hr)⟩

theorem bind {p : Prog I α} {f : α → Prog I β} {Q : α → L → Prop} {R : β → L → Prop}
    (hp : M.Obeys p l Q) (hf : ∀ a l', Q a l' → M.Obeys (f a) l' R) : M.Obeys (p >>= f) l R :=
  bind_iff.mpr (hp.mono hf)

/-- A monitor that expects the answers of a handler: what the program returns is what it evaluates
to. `S` says where in the monitor's states the handler answers, for the requests in `P`. -/
theorem of_exec {σ : Type} {h : σ → (q : I.Req) → Option (I.Resp q × σ)} {π : L → σ}
    {S : L → Prop} {P : I.Req → Prop} {φ : α → Prop} {p : Prog I α}
    (hguard : ∀ l q, S l → P q → M.guard l q)
    (hanswer : ∀ l q r, S l → P q → M.assume l q r →
      S (M.next l q r) ∧ h (π l) q = some (r, π (M.next l q r)))
    (hp : Sat P φ p) (hl : S l) :
    M.Obeys p l fun a l' => S l' ∧ φ a ∧ p.exec h (π l) = some (a, π l') := by
  induction p generalizing l with
  | ret a => exact ⟨hl, Sat.ret_iff.mp hp, rfl⟩
  | call q k ih =>
      obtain ⟨hq, hk⟩ := Sat.call_iff.mp hp
      refine ⟨hguard l q hl hq, fun r hr => ?_⟩
      obtain ⟨hS, hh⟩ := hanswer l q r hl hq hr
      refine (ih r (hk r) hS).mono fun a l' ⟨hS', ha, hexec⟩ => ⟨hS', ha, ?_⟩
      rw [Prog.exec_call, hh]
      exact hexec

/-- What the logic proves holds of every run whose answers the monitor admits. -/
theorem of_run {p : Prog I α} {tr : List (Event I)} {a : α} (h : M.Obeys p l Q)
    (hr : Run p tr a) (ht : M.Admits l tr) : Q a (M.after l tr) := by
  induction hr generalizing l with
  | ret a => exact h
  | call _ ih => exact ih (h.2 _ ht.1) ht.2

/-- A request that is pending is allowed. -/
theorem of_pending {p : Prog I α} {tr : List (Event I)} {q : I.Req} (h : M.Obeys p l Q)
    (hq : Pending p tr q) (ht : M.Admits l tr) : M.guard (M.after l tr) q := by
  induction hq generalizing l with
  | here => exact h.1
  | later _ ih => exact ih (h.2 _ ht.1) ht.2

end Obeys

attribute [irreducible] Obeys

/-- A handler that gives the answers chosen by `answer` and moves the monitor along. -/
def serve (answer : L → (q : I.Req) → Option (I.Resp q)) (l : L) (q : I.Req) :
    Option (I.Resp q × L) :=
  (answer l q).map fun r => (r, M.next l q r)

/-- Evaluated against expected answers, a program makes a run the monitor admits. -/
theorem exists_run_of_serve {answer : L → (q : I.Req) → Option (I.Resp q)}
    (hanswer : ∀ l q r, answer l q = some r → M.assume l q r) {p : Prog I α} {l l' : L} {a : α}
    (h : p.exec (M.serve answer) l = some (a, l')) :
    ∃ tr, Run p tr a ∧ M.Admits l tr ∧ M.after l tr = l' := by
  induction p generalizing l with
  | ret b =>
      rw [Prog.exec_ret, Option.some.injEq, Prod.mk.injEq] at h
      obtain ⟨rfl, rfl⟩ := h
      exact ⟨[], .ret b, trivial, rfl⟩
  | call q k ih =>
      rw [Prog.exec_call, Option.bind_eq_some_iff] at h
      obtain ⟨⟨r, l₁⟩, hserve, h⟩ := h
      obtain ⟨r', hr', heq⟩ := Option.map_eq_some_iff.mp hserve
      cases heq
      obtain ⟨tr, hrun, hadm, hafter⟩ := ih r h
      exact ⟨⟨q, r⟩ :: tr, .call hrun, ⟨hanswer l q r hr', hadm⟩, hafter⟩

/-- The monitor that allows and expects everything, and remembers the calls. -/
def recorder : Monitor I (List (Event I)) where
  guard _ _ := True
  assume _ _ _ := True
  next tr q r := tr ++ [⟨q, r⟩]

theorem recorder_after (tr tr' : List (Event I)) : recorder.after tr tr' = tr ++ tr' := by
  induction tr' generalizing tr with
  | nil => exact (List.append_nil tr).symm
  | cons e tr' ih =>
      rw [after_cons, ih]
      exact List.append_assoc tr [e] tr'

/-- The calls a program makes when each is answered by what was called before, and what it returns. -/
def replay (answer : List (Event I) → (q : I.Req) → Option (I.Resp q)) (p : Prog I α) :
    Option (α × List (Event I)) :=
  p.exec (recorder.serve answer) []

/-- A test that a replay passes is passed by a run. -/
theorem exists_run_of_replay {answer : List (Event I) → (q : I.Req) → Option (I.Resp q)}
    {p : Prog I α} {test : α × List (Event I) → Bool} (h : (replay answer p).any test = true) :
    ∃ a tr, Run p tr a ∧ test (a, tr) = true := by
  obtain ⟨⟨a, tr⟩, hexec, htest⟩ := (Option.any_eq_true ..).mp h
  obtain ⟨tr', hrun, -, hafter⟩ := exists_run_of_serve recorder (fun _ _ _ _ => trivial) hexec
  rw [recorder_after, List.nil_append] at hafter
  subst hafter
  exact ⟨a, tr', hrun, htest⟩

/-- The monitor tolerates the requests in `P`: they move it only along the preorder `R`. -/
structure Frames (R : L → L → Prop) (P : I.Req → Prop) : Prop where
  refl : ∀ l, R l l
  trans : ∀ l₁ l₂ l₃, R l₁ l₂ → R l₂ l₃ → R l₁ l₃
  tolerates : M.Tolerates R P

namespace Frames

variable {M} {l : L} {R : L → L → Prop} {P P' : I.Req → Prop}

theorem mono (hM : M.Frames R P) (h : ∀ q, P' q → P q) : M.Frames R P' :=
  ⟨hM.refl, hM.trans, fun l q hq => hM.tolerates l q (h q hq)⟩

/-- The frame rule: a program that makes only tolerated requests moves the monitor along `R`. -/
theorem obeys {Q : α → L → Prop} {φ : α → Prop} {p : Prog I α} (hM : M.Frames R P)
    (hp : Sat P φ p) (hQ : ∀ a l', φ a → R l l' → Q a l') : M.Obeys p l Q := by
  -- induction on the program, with the distance covered so far in the hypothesis on `Q`
  induction p generalizing l with
  | ret a => exact Obeys.ret_iff.mpr (hQ a l (Sat.ret_iff.mp hp) (hM.refl l))
  | call q k ih =>
      obtain ⟨hq, hk⟩ := Sat.call_iff.mp hp
      obtain ⟨hg, hn⟩ := hM.tolerates l q hq
      refine Obeys.call_iff.mpr ⟨hg, fun r hr => ih r (hk r) fun a l' ha h => ?_⟩
      exact hQ a l' ha (hM.trans _ _ _ (hn r hr) h)

theorem obeys_bind {Q : β → L → Prop} {φ : α → Prop} {p : Prog I α} {f : α → Prog I β}
    (hM : M.Frames R P) (hp : Sat P φ p)
    (hf : ∀ a l', φ a → R l l' → M.Obeys (f a) l' Q) : M.Obeys (p >>= f) l Q :=
  (hM.obeys hp hf).bind fun _ _ h => h

end Frames

/-! ## What is known of the monitor -/

/-- Where `S` holds the monitor allows the requests in `P`, and they keep it. -/
def Keeps (S : L → Prop) (P : I.Req → Prop) : Prop :=
  ∀ l q, S l → P q → M.guard l q ∧ ∀ r, M.assume l q r → S (M.next l q r)

/-- A program that makes only such requests keeps it. -/
theorem Keeps.obeys {M : Monitor I L} {S : L → Prop} {P : I.Req → Prop} {φ : α → Prop} {p : Prog I α} {l : L}
    (hM : M.Keeps S P) (hp : Sat P φ p) (hl : S l) : M.Obeys p l fun a l' => S l' ∧ φ a := by
  induction p generalizing l with
  | ret a => exact Obeys.ret_iff.mpr ⟨hl, Sat.ret_iff.mp hp⟩
  | call q k ih =>
      obtain ⟨hq, hk⟩ := Sat.call_iff.mp hp
      obtain ⟨hguard, hnext⟩ := hM l q hl hq
      exact Obeys.call_iff.mpr ⟨hguard, fun r hr => ih r (hk r) (hnext r hr)⟩

/-- The monitor that allows only what is in `G` as well. -/
def also (G : L → I.Req → Prop) : Monitor I L :=
  { M with guard := fun l q => M.guard l q ∧ G l q }

theorem Obeys.of_also {M : Monitor I L} {G : L → I.Req → Prop} {p : Prog I α} {l : L}
    {Q : α → L → Prop} (h : (M.also G).Obeys p l Q) : M.Obeys p l Q := by
  induction p generalizing l with
  | ret a => exact Obeys.ret_iff.mpr (Obeys.ret_iff.mp h)
  | call q k ih =>
      obtain ⟨hguard, hnext⟩ := Obeys.call_iff.mp h
      exact Obeys.call_iff.mpr ⟨hguard.1, fun r hr => ih r (hnext r hr)⟩

/-! ## Programs that leave the monitor as it was -/

/-- In `l` the monitor allows the requests in `P`, and they do not move it. -/
def Idles (l : L) (P : I.Req → Prop) : Prop :=
  ∀ q, P q → M.guard l q ∧ ∀ r, M.next l q r = l

/-- Started in `l`, the program returns with the monitor in `l`. -/
def Neutral (p : Prog I α) (l : L) : Prop := M.Obeys p l fun _ l' => l' = l

namespace Neutral

variable {M} {l : L}

theorem pure (a : α) : M.Neutral (pure a : Prog I α) l := Obeys.pure_iff.mpr rfl

theorem bind {p : Prog I α} {f : α → Prog I β} (hp : M.Neutral p l) (hf : ∀ a, M.Neutral (f a) l) :
    M.Neutral (p >>= f) l := by
  refine Obeys.bind hp fun a l' hl => ?_
  subst hl
  exact hf a

theorem ite {c : Prop} [Decidable c] {p q : Prog I α} (hp : M.Neutral p l) (hq : M.Neutral q l) :
    M.Neutral (if c then p else q) l := by
  split
  · exact hp
  · exact hq

/-- A program that only makes requests which do not move the monitor. -/
theorem of_sat {P : I.Req → Prop} {φ : α → Prop} {p : Prog I α} (hl : M.Idles l P)
    (hp : Sat P φ p) : M.Neutral p l := by
  induction p with
  | ret a => exact Obeys.ret_iff.mpr rfl
  | call q k ih =>
      obtain ⟨hq, hk⟩ := Sat.call_iff.mp hp
      obtain ⟨hguard, hnext⟩ := hl q hq
      refine Obeys.call_iff.mpr ⟨hguard, fun r _ => ?_⟩
      rw [hnext r]
      exact ih r (hk r)

end Neutral

end Monitor

end Interaction
