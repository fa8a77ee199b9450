import Mathlib.Logic.Basic
import Mathlib.Data.List.Basic

/-!
# Programs that talk to an environment

A program is a tree of *calls*: it either returns, or asks the environment a request and goes on
with whatever it is answered. The tree fixes what is asked and in which order; it says nothing about
what the answers are. Three readings of a program are given here.

* `Run p tr a` — the answers recorded in `tr` lead `p` to return `a`. Quantifying over `tr` is
  quantifying over every outcome of every call.
* `Prog.exec` — the answers come from a handler with a state of its own, so a program can be
  evaluated on a concrete environment.
* `Sat P φ p` — every request `p` can make satisfies `P` and every value it can return satisfies
  `φ`, whatever it is answered.

Nothing here depends on what the requests are.
-/

namespace Interaction

/-- What a program may ask, and the type of the answer to each request. -/
structure Interface where
  Req : Type
  Resp : Req → Type

variable {I : Interface} {α β γ σ : Type}

/-- A program over the interface `I` returning an `α`. -/
inductive Prog (I : Interface) (α : Type) : Type where
  | ret (a : α) : Prog I α
  | call (q : I.Req) (k : I.Resp q → Prog I α) : Prog I α

namespace Prog

/-- Sequential composition: run `p`, then `f` on what it returned. -/
def bind : Prog I α → (α → Prog I β) → Prog I β
  | ret a, f => f a
  | call q k, f => call q fun r => (k r).bind f

/-- Ask one request and return its answer. -/
def ask (q : I.Req) : Prog I (I.Resp q) := call q ret

instance : Monad (Prog I) where
  pure := ret
  bind := bind

theorem pure_eq (a : α) : (pure a : Prog I α) = ret a := rfl

@[simp] theorem ret_bind (a : α) (f : α → Prog I β) : ret a >>= f = f a := rfl

@[simp] theorem call_bind (q : I.Req) (k : I.Resp q → Prog I α) (f : α → Prog I β) :
    call q k >>= f = call q fun r => k r >>= f := rfl

@[simp] theorem ask_bind (q : I.Req) (f : I.Resp q → Prog I β) : ask q >>= f = call q f := rfl

theorem bind_ret (p : Prog I α) : p >>= ret = p := by
  induction p with
  | ret a => rfl
  | call q k ih =>
      rw [call_bind]
      exact congrArg (call q) (funext ih)

theorem bind_bind (p : Prog I α) (f : α → Prog I β) (g : β → Prog I γ) :
    p >>= f >>= g = p >>= fun a => f a >>= g := by
  induction p with
  | ret a => rfl
  | call q k ih =>
      simp only [call_bind]
      exact congrArg (call q) (funext ih)

instance : LawfulMonad (Prog I) := LawfulMonad.mk' (Prog I) bind_ret ret_bind bind_bind

end Prog

/-! ## Runs -/

/-- One call together with the answer it got. -/
structure Event (I : Interface) where
  req : I.Req
  resp : I.Resp req

/-- `Run p tr a`: asked in order and answered as `tr` records, `p` returns `a`. -/
inductive Run : Prog I α → List (Event I) → α → Prop
  | ret (a : α) : Run (.ret a) [] a
  | call {q : I.Req} {k : I.Resp q → Prog I α} {r : I.Resp q} {tr : List (Event I)} {a : α} :
      Run (k r) tr a → Run (.call q k) (⟨q, r⟩ :: tr) a

namespace Run

@[simp] theorem ret_iff {a b : α} {tr : List (Event I)} :
    Run (.ret a) tr b ↔ tr = [] ∧ b = a := by
  constructor
  · intro h; cases h; exact ⟨rfl, rfl⟩
  · rintro ⟨rfl, rfl⟩; exact .ret _

theorem call_iff {q : I.Req} {k : I.Resp q → Prog I α} {tr : List (Event I)} {a : α} :
    Run (.call q k) tr a ↔ ∃ r tr', tr = ⟨q, r⟩ :: tr' ∧ Run (k r) tr' a := by
  constructor
  · intro h
    cases h with
    | call h => exact ⟨_, _, rfl, h⟩
  · rintro ⟨r, tr', rfl, h⟩
    exact .call h

/-- The first answer, and a run of what follows. -/
theorem ask_bind_iff {q : I.Req} {f : I.Resp q → Prog I β} {tr : List (Event I)} {b : β} :
    Run (Prog.ask q >>= f) tr b ↔ ∃ r tr', tr = ⟨q, r⟩ :: tr' ∧ Run (f r) tr' b :=
  call_iff

/-- A run of a composition is a run of the first part followed by a run of the second. -/
theorem bind_iff {p : Prog I α} {f : α → Prog I β} {tr : List (Event I)} {b : β} :
    Run (p >>= f) tr b ↔ ∃ tr₁ tr₂ a, tr = tr₁ ++ tr₂ ∧ Run p tr₁ a ∧ Run (f a) tr₂ b := by
  induction p generalizing tr with
  | ret a =>
      rw [Prog.ret_bind]
      constructor
      · intro h; exact ⟨[], tr, a, rfl, .ret a, h⟩
      · rintro ⟨tr₁, tr₂, a', rfl, h₁, h₂⟩
        obtain ⟨rfl, rfl⟩ := ret_iff.mp h₁
        exact h₂
  | call q k ih =>
      rw [Prog.call_bind, call_iff]
      constructor
      · rintro ⟨r, tr', rfl, h⟩
        obtain ⟨tr₁, tr₂, a, rfl, h₁, h₂⟩ := (ih r).mp h
        exact ⟨⟨q, r⟩ :: tr₁, tr₂, a, rfl, .call h₁, h₂⟩
      · rintro ⟨tr₁, tr₂, a, rfl, h₁, h₂⟩
        obtain ⟨r, tr', rfl, h₁'⟩ := call_iff.mp h₁
        exact ⟨r, tr' ++ tr₂, rfl, (ih r).mpr ⟨tr', tr₂, a, rfl, h₁', h₂⟩⟩

/-- What was answered determines how far a program runs, and what it returns. -/
theorem append_inj {p : Prog I α} {tr₁ tr₂ u₁ u₂ : List (Event I)} {a₁ a₂ : α} (h₁ : Run p tr₁ a₁)
    (h₂ : Run p tr₂ a₂) (h : tr₁ ++ u₁ = tr₂ ++ u₂) : tr₁ = tr₂ ∧ a₁ = a₂ ∧ u₁ = u₂ := by
  induction h₁ generalizing tr₂ with
  | ret a =>
      obtain ⟨rfl, rfl⟩ := ret_iff.mp h₂
      exact ⟨rfl, rfl, h⟩
  | call _ ih =>
      obtain ⟨r, tr', rfl, hrest⟩ := call_iff.mp h₂
      obtain ⟨heq, htail⟩ := List.cons.inj h
      cases heq
      obtain ⟨rfl, rfl, rfl⟩ := ih hrest htail
      exact ⟨rfl, rfl, rfl⟩

end Run

/-! ## Runs under way -/

/-- `Pending p tr q`: asked in order and answered as `tr` records, `p` has come to ask `q`. -/
inductive Pending : Prog I α → List (Event I) → I.Req → Prop
  | here {q : I.Req} {k : I.Resp q → Prog I α} : Pending (.call q k) [] q
  | later {q q' : I.Req} {k : I.Resp q → Prog I α} {r : I.Resp q} {tr : List (Event I)} :
      Pending (k r) tr q' → Pending (.call q k) (⟨q, r⟩ :: tr) q'

namespace Pending

theorem not_ret {a : α} {tr : List (Event I)} {q : I.Req} : ¬ Pending (.ret a) tr q := nofun

theorem call_iff {q q' : I.Req} {k : I.Resp q → Prog I α} {tr : List (Event I)} :
    Pending (.call q k) tr q' ↔
      tr = [] ∧ q' = q ∨ ∃ r tr', tr = ⟨q, r⟩ :: tr' ∧ Pending (k r) tr' q' := by
  constructor
  · intro h
    cases h with
    | here => exact .inl ⟨rfl, rfl⟩
    | later h => exact .inr ⟨_, _, rfl, h⟩
  · rintro (⟨rfl, rfl⟩ | ⟨r, tr', rfl, h⟩)
    · exact .here
    · exact .later h

/-- A composition is in its first part, or past a run of it and in the second. -/
theorem bind_iff {p : Prog I α} {f : α → Prog I β} {tr : List (Event I)} {q : I.Req} :
    Pending (p >>= f) tr q ↔ Pending p tr q ∨
      ∃ tr₁ tr₂ a, tr = tr₁ ++ tr₂ ∧ Run p tr₁ a ∧ Pending (f a) tr₂ q := by
  induction p generalizing tr with
  | ret a =>
      rw [Prog.ret_bind]
      constructor
      · intro h
        exact .inr ⟨[], tr, a, rfl, .ret a, h⟩
      · rintro (h | ⟨tr₁, tr₂, a', rfl, h₁, h₂⟩)
        · exact (not_ret h).elim
        · obtain ⟨rfl, rfl⟩ := Run.ret_iff.mp h₁
          exact h₂
  | call q₀ k ih =>
      rw [Prog.call_bind, call_iff]
      constructor
      · rintro (⟨rfl, rfl⟩ | ⟨r, tr', rfl, h⟩)
        · exact .inl .here
        · obtain h | ⟨tr₁, tr₂, a, rfl, h₁, h₂⟩ := (ih r).mp h
          · exact .inl (.later h)
          · exact .inr ⟨⟨q₀, r⟩ :: tr₁, tr₂, a, rfl, .call h₁, h₂⟩
      · rintro (h | ⟨tr₁, tr₂, a, rfl, h₁, h₂⟩)
        · obtain ⟨rfl, rfl⟩ | ⟨r, tr', rfl, h'⟩ := call_iff.mp h
          · exact .inl ⟨rfl, rfl⟩
          · exact .inr ⟨r, tr', rfl, (ih r).mpr (.inl h')⟩
        · obtain ⟨r, tr', rfl, h₁'⟩ := Run.call_iff.mp h₁
          exact .inr ⟨r, tr' ++ tr₂, rfl, (ih r).mpr (.inr ⟨tr', tr₂, a, rfl, h₁', h₂⟩)⟩

/-- Each call of a run was once pending. -/
theorem of_run {p : Prog I α} {tr₁ tr₂ : List (Event I)} {e : Event I} {a : α}
    (h : Run p (tr₁ ++ e :: tr₂) a) : Pending p tr₁ e.req := by
  induction tr₁ generalizing p with
  | nil =>
      cases h with
      | call _ => exact .here
  | cons e₁ tr₁ ih =>
      cases h with
      | call h => exact .later (ih h)

end Pending

/-! ## Evaluation against a handler -/

namespace Prog

/-- Evaluate `p` against a handler: in state `s` the handler answers a request and moves to a new
state, or refuses (`none`), which is where a run gets stuck. -/
def exec (h : σ → (q : I.Req) → Option (I.Resp q × σ)) : Prog I α → σ → Option (α × σ)
  | ret a, s => some (a, s)
  | call q k, s =>
    match h s q with
    | some (r, s') => (k r).exec h s'
    | none => none

variable {h : σ → (q : I.Req) → Option (I.Resp q × σ)}

@[simp] theorem exec_ret (a : α) (s : σ) : (ret a : Prog I α).exec h s = some (a, s) := rfl

theorem exec_call (q : I.Req) (k : I.Resp q → Prog I α) (s : σ) :
    (call q k).exec h s = (h s q).bind fun x => (k x.1).exec h x.2 := by
  rw [exec]
  cases h s q with
  | none => rfl
  | some x => rfl

theorem exec_bind (p : Prog I α) (f : α → Prog I β) (s : σ) :
    (p >>= f).exec h s = (p.exec h s).bind fun x => (f x.1).exec h x.2 := by
  induction p generalizing s with
  | ret a => rfl
  | call q k ih =>
      rw [call_bind, exec_call, exec_call, Option.bind_assoc]
      exact congrArg (Option.bind (h s q)) (funext fun x => ih x.1 x.2)

end Prog

/-! ## Bounds on what a program asks and returns -/

/-- Every request `p` can make satisfies `P` and every value it can return satisfies `φ`. -/
def Sat (P : I.Req → Prop) (φ : α → Prop) : Prog I α → Prop
  | .ret a => φ a
  | .call q k => P q ∧ ∀ r, Sat P φ (k r)

namespace Sat

variable {P Q : I.Req → Prop} {φ ψ : α → Prop}

@[simp] theorem ret_iff {a : α} : Sat P φ (.ret a : Prog I α) ↔ φ a := Iff.rfl

@[simp] theorem pure_iff {a : α} : Sat P φ (pure a : Prog I α) ↔ φ a := Iff.rfl

@[simp] theorem call_iff {q : I.Req} {k : I.Resp q → Prog I α} :
    Sat P φ (.call q k) ↔ P q ∧ ∀ r, Sat P φ (k r) := Iff.rfl

/-- The bound that says nothing. -/
theorem true (p : Prog I α) : Sat (fun _ => True) (fun _ => True) p := by
  induction p with
  | ret a => trivial
  | call q k ih => exact ⟨trivial, ih⟩

theorem mono {p : Prog I α} (h : Sat P φ p) (hP : ∀ q, P q → Q q) (hφ : ∀ a, φ a → ψ a) :
    Sat Q ψ p := by
  induction p with
  | ret a => exact hφ a h
  | call q k ih => exact ⟨hP q h.1, fun r => ih r (h.2 r)⟩

theorem bind {p : Prog I α} {f : α → Prog I β} {χ : β → Prop} (hp : Sat P φ p)
    (hf : ∀ a, φ a → Sat P χ (f a)) : Sat P χ (p >>= f) := by
  induction p with
  | ret a => exact hf a hp
  | call q k ih => exact ⟨hp.1, fun r => ih r (hp.2 r)⟩

theorem trivial (p : Prog I α) : Sat (fun _ => True) (fun _ => True) p := by
  induction p with
  | ret a => exact True.intro
  | call q k ih => exact ⟨True.intro, ih⟩

/-- The bound read off a run: each request made is in `P`, and the result is in `φ`. -/
theorem of_run {p : Prog I α} {tr : List (Event I)} {a : α} (h : Sat P φ p) (hr : Run p tr a) :
    (∀ e ∈ tr, P e.req) ∧ φ a := by
  induction hr with
  | ret a => exact ⟨by simp, h⟩
  | call _ ih =>
      obtain ⟨htr, ha⟩ := ih (h.2 _)
      refine ⟨fun e he => ?_, ha⟩
      rcases List.mem_cons.mp he with rfl | he
      · exact h.1
      · exact htr e he

/-- The bound read off a run under way. -/
theorem of_pending {p : Prog I α} {tr : List (Event I)} {q : I.Req} (h : Sat P φ p)
    (hq : Pending p tr q) : (∀ e ∈ tr, P e.req) ∧ P q := by
  induction hq with
  | here => exact ⟨by simp, h.1⟩
  | later _ ih =>
      obtain ⟨htr, hq⟩ := ih (h.2 _)
      refine ⟨fun e he => ?_, hq⟩
      rcases List.mem_cons.mp he with rfl | he
      · exact h.1
      · exact htr e he

end Sat

-- Without this, elaborating a lemma about a program would evaluate the program.
attribute [irreducible] Sat

end Interaction
