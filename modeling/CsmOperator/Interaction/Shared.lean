import CsmOperator.Interaction.Implement
import CsmOperator.Interaction.Pool
import Mathlib.Data.List.Induction

/-!
# Variables shared by the programs of a pool

The programs of a pool read and write variables of one memory, and ask further requests whose answers are
fixed. What a program reads is what was written last, by whichever program that was.

A program that only ever reads what it has written itself, or what nobody has written, behaves as if it
were alone: `Reach.replay_alone`.
-/

namespace Interaction

/-- Reads and writes of variables `V` with values `B`. -/
inductive VarRequest (V B : Type) where
  | read (v : V)
  | write (v : V) (b : B)

abbrev Variables (V B : Type) : Interface where
  Req := VarRequest V B
  Resp
    | .read _ => B
    | .write _ _ => Unit

/-- Shared variables, and requests of another kind. -/
abbrev Sharing (V B : Type) (I : Interface) : Interface := (Variables V B).sum I

section Shared

variable {V B Ent : Type} {I : Interface} [DecidableEq V]

/-- The memory is the state of the environment. -/
def sharedEnv (answer : (q : I.Req) → I.Resp q) : Env (Sharing V B I) (V → B) Unit where
  respond m q _ := match q with
    | .inl (.read v) => some (m v, m)
    | .inl (.write v b) => some ((), Function.update m v b)
    | .inr q => some (answer q, m)
  drift _ _ := False

/-- What a call writes to the variable. -/
def written? (v : V) : Event (Sharing V B I) → Option B
  | ⟨.inl (.write v' b), _⟩ => if v' = v then some b else none
  | _ => none

/-- The last value written to the variable, the initial one if there is none. -/
def lastWritten (m₀ : V → B) (tr : List (Event (Sharing V B I))) (v : V) : B :=
  (tr.filterMap (written? v)).getLast?.getD (m₀ v)

/-- The thread that wrote the variable last. -/
def lastWriter (log : List (Nat × Event (Sharing V B I))) (v : V) : Option Nat :=
  ((log.filter fun x => (written? v x.2).isSome).getLast?).map (·.1)

/-- What a program is answered that is alone. -/
def aloneAnswer (m₀ : V → B) (answer : (q : I.Req) → I.Resp q) (tr : List (Event (Sharing V B I))) :
    (q : (Sharing V B I).Req) → Option ((Sharing V B I).Resp q)
  | .inl (.read v) => some (lastWritten m₀ tr v)
  | .inl (.write _ _) => some ()
  | .inr q => some (answer q)

/-- A thread reads a variable only if no other thread was the last to write it. -/
def ReadsOwn (ps : Pool (Sharing V B I) (V → B) Ent) (move : Move (Sharing V B I) (V → B) Ent) : Prop :=
  ∀ i v b, move = .act i ⟨.inl (.read v), b⟩ → ∀ j, lastWriter ps.log v = some j → j = i

end Shared

/-! ## Programs that are answered by what they did before -/

section Follows

variable {I : Interface} {α : Type} {answer : List (Event I) → (q : I.Req) → Option (I.Resp q)}

/-- Every answer after `before` is the one that is given for the calls up to it. -/
def Follows (answer : List (Event I) → (q : I.Req) → Option (I.Resp q)) :
    List (Event I) → List (Event I) → Prop
  | _, [] => True
  | before, e :: tr => answer before e.req = some e.resp ∧ Follows answer (before ++ [e]) tr

theorem follows_concat {before tr : List (Event I)} {e : Event I} :
    Follows answer before (tr ++ [e]) ↔
      Follows answer before tr ∧ answer (before ++ tr) e.req = some e.resp := by
  induction tr generalizing before with
  | nil => simp [Follows]
  | cons e' tr ih =>
      rw [List.cons_append, Follows, Follows, ih, List.append_assoc, and_assoc]
      rfl

/-- A run that is answered this way is what the program evaluates to. -/
theorem exec_of_follows {p : Prog I α} {before tr : List (Event I)} {a : α} (hrun : Run p tr a)
    (h : Follows answer before tr) :
    p.exec (Monitor.recorder.serve answer) before = some (a, before ++ tr) := by
  induction hrun generalizing before with
  | ret a => rw [Prog.exec_ret, List.append_nil]
  | @call q k r tr a _ ih =>
      have hserve : Monitor.recorder.serve answer before q = some (r, before ++ [⟨q, r⟩]) := by
        rw [Monitor.serve, h.1]
        rfl
      rw [Prog.exec_call, hserve, Option.bind_some, ih h.2, List.append_assoc]
      rfl

theorem replay_of_follows {p : Prog I α} {tr : List (Event I)} {a : α} (hrun : Run p tr a)
    (h : Follows answer [] tr) : Monitor.replay answer p = some (a, tr) :=
  exec_of_follows hrun h

end Follows

/-! ## Threads that read what is their own -/

section Alone

variable {V B Ent : Type} {I : Interface} [DecidableEq V] {m₀ : V → B}
  {answer : (q : I.Req) → I.Resp q} {start : Ent → Prog (Sharing V B I) Unit}
  {Ok : Pool (Sharing V B I) (V → B) Ent → Move (Sharing V B I) (V → B) Ent → Prop}
  {ps : Pool (Sharing V B I) (V → B) Ent}

theorem lastWritten_concat (tr : List (Event (Sharing V B I))) (e : Event (Sharing V B I)) (v : V) :
    lastWritten m₀ (tr ++ [e]) v = (written? v e).getD (lastWritten m₀ tr v) := by
  unfold lastWritten
  rw [List.filterMap_append]
  cases h : written? v e with
  | none => simp [h]
  | some b => simp [h]

/-- The memory holds what was written last. -/
theorem Pool.Reach.world_eq (h : Pool.Reach (sharedEnv answer) start Ok (Pool.empty m₀) ps) (v : V) :
    ps.world v = lastWritten m₀ (ps.log.map (·.2)) v := by
  induction h with
  | refl => rfl
  | tail _ _ hstep ih =>
      cases hstep with
      | @act i ent q k c r w ht hr =>
          rw [Pool.afterAct, List.map_append]
          refine Eq.trans ?_ (lastWritten_concat _ _ v).symm
          cases q with
          | inl q =>
              cases q with
              | read v' =>
                  cases hr
                  exact ih
              | write v' b =>
                  cases hr
                  dsimp only [written?]
                  by_cases hv : v' = v
                  · rw [if_pos hv, hv, Function.update_self, Option.getD_some]
                  · rw [if_neg hv, Function.update_of_ne (Ne.symm hv), Option.getD_none, ih]
          | inr q =>
              cases hr
              exact ih
      | spawn => exact ih
      | drift hd => exact hd.elim

/-- Where no other thread wrote last, the last write is the last one of this thread. -/
theorem lastWritten_trace {log : List (Nat × Event (Sharing V B I))} {i : Nat} {v : V}
    (h : ∀ j, lastWriter log v = some j → j = i) :
    lastWritten m₀ (log.map (·.2)) v = lastWritten m₀ (Pool.trace log i) v := by
  induction log using List.reverseRecOn with
  | nil => rfl
  | append_singleton log x ih =>
      obtain ⟨j, e⟩ := x
      rw [List.map_append]
      refine (lastWritten_concat _ e v).trans ?_
      cases hwritten : written? v e with
      | some b =>
          obtain rfl : j = i := h j (by simp [lastWriter, hwritten])
          rw [Pool.trace_append_self, lastWritten_concat, hwritten]
          rfl
      | none =>
          have hsame := ih fun j' hj' => h j' (by simpa [lastWriter, hwritten] using hj')
          rw [Option.getD_none, hsame]
          by_cases hij : i = j
          · subst hij
            rw [Pool.trace_append_self, lastWritten_concat, hwritten]
            rfl
          · rw [Pool.trace_append_of_ne _ _ hij]

/-- Each thread is answered as if it were alone. -/
theorem Pool.Reach.follows_alone (h : Pool.Reach (sharedEnv answer) start ReadsOwn (Pool.empty m₀) ps)
    (i : Nat) : Follows (aloneAnswer m₀ answer) [] (Pool.trace ps.log i) := by
  induction h with
  | refl => trivial
  | @tail ps ps' move hreach hok hstep ih =>
      cases hstep with
      | @act j ent q k c r w ht hr =>
          by_cases hij : i = j
          swap
          · rw [Pool.afterAct, Pool.trace_append_of_ne _ _ hij]
            exact ih
          subst hij
          rw [Pool.afterAct, Pool.trace_append_self, follows_concat]
          refine ⟨ih, ?_⟩
          cases q with
          | inl q =>
              cases q with
              | read v =>
                  cases hr
                  rw [hreach.world_eq v, lastWritten_trace (hok i v _ rfl)]
                  rfl
              | write v b => rfl
          | inr q =>
              cases hr
              rfl
      | spawn => exact ih
      | drift hd => exact hd.elim

/-- **Threads that read what is their own are alone.** What the log has of a finished thread is what its
program does alone. -/
theorem Pool.Reach.replay_alone (h : Pool.Reach (sharedEnv answer) start ReadsOwn (Pool.empty m₀) ps)
    {i : Nat} {ent : Ent} {a : Unit} (hthread : ps.threads[i]? = some (ent, .ret a)) :
    Monitor.replay (aloneAnswer m₀ answer) (start ent) = some (a, Pool.trace ps.log i) :=
  replay_of_follows (h.run hthread) (h.follows_alone i)

end Alone

end Interaction
