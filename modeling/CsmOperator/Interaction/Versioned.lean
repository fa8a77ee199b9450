import CsmOperator.Interaction.Pool
import Mathlib.Data.List.Basic
import Mathlib.Logic.Function.Basic

/-!
# A store of versioned objects

Objects under keys. They are read through a cache that may lag behind, and they are created, replaced and
deleted by any number of clients. A replacement may name the version it is meant for; it is refused if the
object has another one by then. Any request may fail, and the answer to one that was served may be lost.

A *transaction* says what becomes of the object under a key. A program that makes each of its writes for a
transaction, from what it has read, does so in several requests. `Reach.linearized` says that this makes no
difference: the store is always what the transactions that took effect, and the changes of other clients, leave
when each of them is done in one step, in the order in which the writes were served.
-/

namespace Interaction

variable {K V R ε : Type}

/-! ## Requests -/

inductive Reason where
  | notFound
  | alreadyExists
  | conflict
  | other
  deriving DecidableEq, Repr

/-- Why a request was not served, and what the answer says about it. -/
structure Failure (ε : Type) where
  reason : Reason
  detail : ε

inductive StoreRequest (K V R : Type) where
  | get (k : K)
  | create (k : K) (v : V)
  /-- with a version, only the object that has it is replaced -/
  | update (k : K) (v : V) (version : Option Nat)
  | delete (k : K)
  /-- marks the return of a call; it asks nothing -/
  | report (r : R)

namespace StoreRequest

def Answer (ε : Type) : StoreRequest K V R → Type
  | get _ => Except (Failure ε) (V × Nat)
  | report _ => Unit
  | _ => Option (Failure ε)

def isWrite : StoreRequest K V R → Bool
  | create .. | update .. | delete .. => true
  | _ => false

/-- The key that is written to. -/
def written? : StoreRequest K V R → Option K
  | create k _ | update k .. | delete k => some k
  | _ => none

end StoreRequest

abbrev Versioned (K V R ε : Type) : Interface := ⟨StoreRequest K V R, StoreRequest.Answer ε⟩

def succeeded (r : Option (Failure ε)) : Bool := r.isNone

/-- A write that was confirmed. -/
def confirmed : Event (Versioned K V R ε) → Bool
  | ⟨.create .., r⟩ | ⟨.update .., r⟩ | ⟨.delete _, r⟩ => succeeded r
  | _ => false

/-! ## The journal -/

/-- The changes so far, the latest first; a deletion leaves no value. -/
abbrev Journal (K V : Type) := List (K × Option V)

namespace Journal

variable {j : Journal K V} {k : K} {u v : V} {n : Nat}

/-- The change of the number has left the value. -/
def Left (j : Journal K V) (k : K) (v : V) (n : Nat) : Prop := 0 < n ∧ j.reverse[n - 1]? = some (k, some v)

theorem Left.append (h : Left j k v n) (newer : Journal K V) : Left (newer ++ j) k v n := by
  refine ⟨h.1, ?_⟩
  rw [List.reverse_append, List.getElem?_append_left (List.getElem?_eq_some_iff.mp h.2).1]
  exact h.2

theorem Left.of_drop {m : Nat} (h : Left (j.drop m) k v n) : Left j k v n := by
  have happend := h.append (j.take m)
  rwa [List.take_append_drop] at happend

/-- A version is given once. -/
theorem Left.unique (h : Left j k u n) (h' : Left j k v n) : u = v := by
  have heq := h.2.symm.trans h'.2
  injection heq with heq
  injection heq with _ heq
  exact Option.some.inj heq

variable [DecidableEq K]

/-- The object under a key. Its version is the number of the change that has left it. -/
def cell : Journal K V → K → Option (V × Nat)
  | [], _ => none
  | (k', v) :: older, k => if k = k' then v.map (·, older.length + 1) else cell older k

def content (j : Journal K V) (k : K) : Option V := (cell j k).map (·.1)

theorem content_cons (k : K) (v : Option V) (j : Journal K V) :
    content ((k, v) :: j) = Function.update (content j) k v := by
  funext k'
  by_cases hk : k' = k
  · subst hk
    rw [Function.update_self, content, cell, if_pos rfl]
    cases v <;> rfl
  · rw [Function.update_of_ne hk, content, cell, if_neg hk, content]

theorem content_of_cell (h : cell j k = some (v, n)) : content j k = some v := by
  rw [content, h, Option.map_some]

theorem left_of_cell (h : cell j k = some (v, n)) : Left j k v n := by
  induction j with
  | nil => cases h
  | cons x older ih =>
      obtain ⟨k', v'⟩ := x
      rw [cell] at h
      split at h
      next hk =>
        obtain ⟨w, rfl, heq⟩ := Option.map_eq_some_iff.mp h
        cases heq
        refine ⟨Nat.succ_pos _, ?_⟩
        simp [hk]
      next => exact (ih h).append [(k', v')]

end Journal

open Journal

/-! ## How the store answers -/

inductive Fault where
  | none
  /-- the request is not served -/
  | refused
  /-- the request is served, and the client does not get to know -/
  | lost
  deriving DecidableEq, Repr

/-- What is left open. -/
structure StoreChoice (ε : Type) where
  /-- by how many changes the cache lags behind -/
  lag : Nat := 0
  fault : Fault := .none
  /-- what an answer says, should it be an error -/
  detail : ε

def StoreChoice.fail (c : StoreChoice ε) (reason : Reason) : Failure ε := ⟨reason, c.detail⟩

/-- The answer to a write that was served. -/
def StoreChoice.served (c : StoreChoice ε) : Option (Failure ε) :=
  if c.fault = .lost then some (c.fail .other) else none

/-- A write that takes `j` to `j'` unless there is an obstacle. -/
def StoreChoice.attempt (c : StoreChoice ε) (obstacle : Option Reason) (j j' : Journal K V) :
    Option (Failure ε) × Journal K V :=
  if c.fault = .refused then (some (c.fail .other), j)
  else
    match obstacle with
    | some reason => (some (c.fail reason), j)
    | none => (c.served, j')

section Respond

variable [DecidableEq K] (same : V → V → Bool) (j : Journal K V) (c : StoreChoice ε)

def serveGet (k : K) : Except (Failure ε) (V × Nat) :=
  if c.fault = .none then
    match cell (j.drop c.lag) k with
    | some x => .ok x
    | none => .error (c.fail .notFound)
  else .error (c.fail .other)

def serveCreate (k : K) (v : V) : Option (Failure ε) × Journal K V :=
  c.attempt (if (cell j k).isSome then some .alreadyExists else none) j ((k, some v) :: j)

/-- Why an object is not replaced. -/
def updateObstacle (k : K) (version : Option Nat) : Option Reason :=
  match cell j k with
  | none => some .notFound
  | some (_, n) => if version.getD n = n then none else some .conflict

/-- A replacement by the same object is not a change. -/
def serveUpdate (k : K) (v : V) (version : Option Nat) : Option (Failure ε) × Journal K V :=
  c.attempt (updateObstacle j k version) j
    (if (content j k).any (same · v) then j else (k, some v) :: j)

def serveDelete (k : K) : Option (Failure ε) × Journal K V :=
  c.attempt (if (cell j k).isNone then some .notFound else none) j ((k, none) :: j)

def respond : (q : StoreRequest K V R) → StoreChoice ε → Option (q.Answer ε × Journal K V)
  | .get k, c => some (serveGet j c k, j)
  | .create k v, c => some (serveCreate j c k v)
  | .update k v version, c => some (serveUpdate same j c k v version)
  | .delete k, c => some (serveDelete j c k)
  | .report _, _ => some ((), j)

/-- Other clients write what they like. -/
def storeEnv : Env (Versioned K V R ε) (Journal K V) (StoreChoice ε) where
  respond := respond same
  drift j j' := ∃ k v, j' = (k, v) :: j

end Respond

/-- The write is possible, and leaves the value under the key. -/
inductive Serves [DecidableEq K] (j : Journal K V) : StoreRequest K V R → K → Option V → Prop
  | create {k : K} {v : V} : cell j k = none → Serves j (.create k v) k (some v)
  | update {k : K} {u v : V} {version : Option Nat} {n : Nat} : cell j k = some (u, n) →
      version = none ∨ version = some n → Serves j (.update k v version) k (some v)
  | delete {k : K} {x : V × Nat} : cell j k = some x → Serves j (.delete k) k none

section Answers

variable {j j' : Journal K V} {c : StoreChoice ε} {k : K}

theorem attempt_cases {obstacle : Option Reason} {r : Option (Failure ε)} {j₁ : Journal K V}
    (h : c.attempt obstacle j j₁ = (r, j')) : j' = j ∧ r.isNone = false ∨ obstacle = none ∧ j' = j₁ := by
  unfold StoreChoice.attempt at h
  split at h
  · cases h
    exact .inl ⟨rfl, rfl⟩
  · cases obstacle with
    | some reason =>
        cases h
        exact .inl ⟨rfl, rfl⟩
    | none =>
        cases h
        exact .inr ⟨rfl, rfl⟩

variable [DecidableEq K] {same : V → V → Bool}

/-- What is read was there at some time. -/
theorem left_of_serveGet {x : V × Nat} (h : serveGet j c k = .ok x) : Left j k x.1 x.2 := by
  unfold serveGet at h
  split at h
  · split at h
    next hcell =>
      cases h
      exact (left_of_cell hcell).of_drop
    next => cases h
  · cases h

theorem updateObstacle_eq_none {version : Option Nat} (h : updateObstacle j k version = none) :
    ∃ u n, cell j k = some (u, n) ∧ (version = none ∨ version = some n) := by
  unfold updateObstacle at h
  split at h
  next => cases h
  next u n hcell =>
    refine ⟨u, n, hcell, ?_⟩
    cases version with
    | none => exact .inl rfl
    | some m =>
        split at h
        next heq => exact .inr (congrArg some heq)
        next => cases h

/-- A request leaves the journal, or it is a write that is served. -/
theorem respond_cases (hsame : ∀ u v, same u v = true → u = v) {q : StoreRequest K V R} {r : q.Answer ε}
    (h : respond same j q c = some (r, j')) :
    j' = j ∧ confirmed ⟨q, r⟩ = false ∨
      ∃ k v, Serves j q k v ∧ content j' = Function.update (content j) k v ∧ ∃ newer, j' = newer ++ j := by
  cases q with
  | get k =>
      cases h
      exact .inl ⟨rfl, rfl⟩
  | create k v =>
      rcases attempt_cases (Option.some.inj h) with hfailed | ⟨hnone, rfl⟩
      · exact .inl hfailed
      · have hcell : cell j k = none := by simpa using hnone
        exact .inr ⟨k, some v, .create hcell, content_cons .., [_], rfl⟩
  | update k v version =>
      rcases attempt_cases (Option.some.inj h) with hfailed | ⟨hnone, rfl⟩
      · exact .inl hfailed
      · obtain ⟨u, n, hcell, hversion⟩ := updateObstacle_eq_none hnone
        refine .inr ⟨k, some v, .update hcell hversion, ?_⟩
        rw [content_of_cell hcell, Option.any_some]
        split
        next heq =>
          -- the object is the same already
          refine ⟨?_, [], rfl⟩
          rw [← hsame u v heq, ← content_of_cell hcell, Function.update_eq_self]
        next => exact ⟨content_cons .., [_], rfl⟩
  | delete k =>
      rcases attempt_cases (Option.some.inj h) with hfailed | ⟨hsome, rfl⟩
      · exact .inl hfailed
      · have hcell : (cell j k).isSome = true := by simpa [Option.isSome_iff_ne_none] using hsome
        obtain ⟨x, hx⟩ := Option.isSome_iff_exists.mp hcell
        exact .inr ⟨k, none, .delete hx, content_cons .., [_], rfl⟩
  | report r =>
      cases h
      exact .inl ⟨rfl, rfl⟩

end Answers

/-! ## Transactions -/

/-- What becomes of the object under a key. -/
structure Transaction (K V : Type) where
  key : K
  effect : Option V → Option V

/-- A program that may carry out some transactions, and what it has read under each key last. -/
structure Transacting (K V : Type) where
  allowed : Transaction K V → Prop
  read : K → Option (V × Nat)

section Transactions

/-- The write does what the transaction says. Where it replaces an object it is meant for the version that was
read, or does not depend on what was there. -/
inductive Transaction.Allows (t : Transaction K V) (read : K → Option (V × Nat)) : StoreRequest K V R → Prop
  | create {v : V} : t.effect none = some v → Allows t read (.create t.key v)
  | update {u v : V} {n : Nat} : read t.key = some (u, n) → t.effect (some u) = some v →
      Allows t read (.update t.key v (some n))
  | overwrite {v : V} : (∀ u, t.effect (some u) = some v) → Allows t read (.update t.key v none)
  | delete : (∀ u, t.effect (some u) = none) → Allows t read (.delete t.key)

/-- What was read was there. -/
def Knows (j : Journal K V) (read : K → Option (V × Nat)) : Prop :=
  ∀ k v n, read k = some (v, n) → Left j k v n

variable {j j' : Journal K V} {read : K → Option (V × Nat)} {q : StoreRequest K V R} {t : Transaction K V}

theorem Knows.append (h : Knows j read) (newer : Journal K V) : Knows (newer ++ j) read :=
  fun k v n hread => (h k v n hread).append newer

theorem Transaction.Allows.written? (h : t.Allows read q) : q.written? = some t.key := by
  cases h <;> rfl

variable [DecidableEq K]

def Transaction.run (t : Transaction K V) (s : K → Option V) : K → Option V :=
  Function.update s t.key (t.effect (s t.key))

/-- What has been read. -/
def noteRead (read : K → Option (V × Nat)) : (q : StoreRequest K V R) → q.Answer ε → K → Option (V × Nat)
  | .get k, .ok x => Function.update read k (some x)
  | _, _ => read

/-- Every write is one for a transaction. -/
def transacting : Monitor (Versioned K V R ε) (Transacting K V) where
  guard l q := q.isWrite = true → ∃ t, l.allowed t ∧ t.Allows l.read q
  assume _ _ _ := True
  next l q r := { l with read := noteRead l.read q r }

/-- What comes back from a read is known. -/
theorem Knows.noteRead {same : V → V → Bool} {c : StoreChoice ε} {r : q.Answer ε} (h : Knows j read)
    (hrespond : respond same j q c = some (r, j')) : Knows j (noteRead read q r) := by
  cases q with
  | get k =>
      have hget : serveGet j c k = r := congrArg Prod.fst (Option.some.inj hrespond)
      match r with
      | .error e => exact h
      | .ok x =>
          intro k' v n hread
          have hread : Function.update read k (some x) k' = some (v, n) := hread
          by_cases hk : k' = k
          · subst hk
            rw [Function.update_self] at hread
            cases hread
            exact left_of_serveGet hget
          · rw [Function.update_of_ne hk] at hread
            exact h k' v n hread
  | _ => exact h

/-- A write for a transaction that is served does what the transaction says, to what is there now. -/
theorem Transaction.Allows.run_eq {k : K} {v : Option V} (h : t.Allows read q) (hread : Knows j read)
    (hserves : Serves j q k v) : k = t.key ∧ Function.update (content j) k v = t.run (content j) := by
  unfold Transaction.run
  cases h with
  | create heffect =>
      cases hserves with
      | create hcell => exact ⟨rfl, by rw [content, hcell, Option.map_none, heffect]⟩
  | update hlast heffect =>
      cases hserves with
      | update hcell hversion =>
          rcases hversion with heq | heq <;> cases heq
          -- the version is the one that was read, and so is the object
          obtain rfl := (left_of_cell hcell).unique (hread _ _ _ hlast)
          exact ⟨rfl, by rw [content_of_cell hcell, heffect]⟩
  | overwrite heffect =>
      cases hserves with
      | update hcell _ => exact ⟨rfl, by rw [content_of_cell hcell, heffect]⟩
  | delete heffect =>
      cases hserves with
      | @delete _ x hcell => exact ⟨rfl, by rw [content_of_cell (v := x.1) (n := x.2) hcell, heffect]⟩

end Transactions

/-! ## One after the other -/

/-- A change, as one step. -/
inductive Change (K V : Type) where
  | call (i : Nat) (t : Transaction K V)
  | foreign (k : K) (v : Option V)

namespace Change

def run [DecidableEq K] (s : K → Option V) : Change K V → K → Option V
  | call _ t => t.run s
  | foreign k v => Function.update s k v

def call? : Change K V → Option (Nat × Transaction K V)
  | call i t => some (i, t)
  | foreign .. => none

end Change

section Linearized

variable {Ent : Type} (ts : Ent → Transaction K V → Prop)

/-- The thread has made the write for the transaction. -/
structure MadeFor (threads : List (Ent × Prog (Versioned K V R ε) Unit))
    (x : Nat × Event (Versioned K V R ε)) (c : Nat × Transaction K V) : Prop where
  thread : c.1 = x.1
  key : x.2.req.written? = some c.2.key
  allowed : ∃ ent p, threads[x.1]? = some (ent, p) ∧ ts ent c.2

variable {ts} in
/-- A thread keeps its entry point. -/
theorem MadeFor.mono {threads threads' : List (Ent × Prog (Versioned K V R ε) Unit)}
    (hentries : ∀ (i : Nat) (ent : Ent) (p : Prog (Versioned K V R ε) Unit), threads[i]? = some (ent, p) →
      ∃ p', threads'[i]? = some (ent, p'))
    {writes : List (Nat × Event (Versioned K V R ε))} {calls : List (Nat × Transaction K V)}
    (h : List.Forall₂ (MadeFor ts threads) writes calls) : List.Forall₂ (MadeFor ts threads') writes calls := by
  refine h.imp fun x c hmade => ⟨hmade.thread, hmade.key, ?_⟩
  obtain ⟨ent, p, hp, ht⟩ := hmade.allowed
  obtain ⟨p', hp'⟩ := hentries _ _ _ hp
  exact ⟨ent, p', hp', ht⟩

variable [DecidableEq K]

/-- `changes` is what has happened, each change in one step. The calls among them are for the writes `writes` of
the log: all that were confirmed, and none that was not made. -/
structure Linearized (s₀ : K → Option V) (ps : Pool (Versioned K V R ε) (Journal K V) Ent)
    (changes : List (Change K V)) (writes : List (Nat × Event (Versioned K V R ε))) : Prop where
  content : content ps.world = changes.foldl Change.run s₀
  confirmed : (ps.log.filter fun x => Interaction.confirmed x.2).Sublist writes
  made : writes.Sublist (ps.log.filter fun x => x.2.req.isWrite)
  calls : List.Forall₂ (MadeFor ts ps.threads) writes (changes.filterMap Change.call?)

variable {ts} in
/-- The change that a write stands for. -/
theorem Linearized.exists_call {s₀ : K → Option V} {ps : Pool (Versioned K V R ε) (Journal K V) Ent}
    {changes : List (Change K V)} {writes : List (Nat × Event (Versioned K V R ε))}
    (h : Linearized ts s₀ ps changes writes) {x : Nat × Event (Versioned K V R ε)} (hx : x ∈ writes) :
    ∃ t, .call x.1 t ∈ changes ∧ MadeFor ts ps.threads x (x.1, t) := by
  have hexists {xs : List (Nat × Event (Versioned K V R ε))} {cs : List (Nat × Transaction K V)}
      (hcalls : List.Forall₂ (MadeFor ts ps.threads) xs cs) (hx : x ∈ xs) :
      ∃ c ∈ cs, MadeFor ts ps.threads x c := by
    induction hcalls with
    | nil => cases hx
    | cons hmade _ ih =>
        rcases List.mem_cons.mp hx with rfl | hx
        · exact ⟨_, List.mem_cons_self, hmade⟩
        · obtain ⟨c, hc, hmade⟩ := ih hx
          exact ⟨c, List.mem_cons_of_mem _ hc, hmade⟩
  obtain ⟨⟨i, t⟩, hc, hmade⟩ := hexists h.calls hx
  obtain rfl : i = x.1 := hmade.thread
  obtain ⟨change, hchange, hcall⟩ := List.mem_filterMap.mp hc
  cases change with
  | call i t' =>
      cases hcall
      exact ⟨t, hchange, hmade⟩
  | foreign => cases hcall

variable {ts} {same : V → V → Bool} {start : Ent → Prog (Versioned K V R ε) Unit}
  {Ok : Pool (Versioned K V R ε) (Journal K V) Ent → Move (Versioned K V R ε) (Journal K V) Ent → Prop}
  {j₀ : Journal K V} {ps : Pool (Versioned K V R ε) (Journal K V) Ent}

theorem isWrite_of_serves {j : Journal K V} {q : StoreRequest K V R} {k : K} {v : Option V} (h : Serves j q k v) :
    q.isWrite = true := by
  cases h <;> rfl

/-- What a thread is about to write is for one of its transactions, and from what was there. -/
theorem Pool.Reach.allows (hsame : ∀ u v, same u v = true → u = v)
    (hstart : ∀ ent, transacting.Obeys (start ent) ⟨ts ent, fun _ => none⟩ fun _ _ => True)
    (h : Pool.Reach (storeEnv same) start Ok (Pool.empty j₀) ps) {i : Nat} {ent : Ent} {q : StoreRequest K V R}
    {k : q.Answer ε → Prog (Versioned K V R ε) Unit} (hthread : ps.threads[i]? = some (ent, .call q k))
    (hwrite : q.isWrite = true) : ∃ t read, ts ent t ∧ t.Allows read q ∧ Knows ps.world read := by
  have hknown := h.exists_known transacting (fun ent => ⟨ts ent, fun _ => none⟩)
    (fun _ ent _ => hstart ent) (fun _ _ => True) (fun _ x j _ l => l.allowed = ts x.1 ∧ Knows j l.read)
    trivial (fun _ _ _ _ _ => ⟨rfl, nofun⟩) (fun ps j' _ _ hdrift => ?_)
    (fun ps i ent l q k c r j' _ hG _ _ hrespond _ => ?_)
  · obtain ⟨-, ls, hwatched, hknown⟩ := hknown
    obtain ⟨l, hl, hobeys⟩ := hwatched.get hthread
    obtain ⟨hallowed, hknows⟩ := hknown i _ l hthread hl
    obtain ⟨t, ht, hallows⟩ := (Monitor.Obeys.call_iff.mp hobeys).1 hwrite
    have hts : l.allowed = ts ent := hallowed
    exact ⟨t, l.read, hts ▸ ht, hallows, hknows⟩
  · obtain ⟨k, v, rfl⟩ := hdrift
    exact ⟨trivial, fun _ _ _ _ hG => ⟨hG.1, hG.2.append [(k, v)]⟩⟩
  · obtain ⟨newer, rfl⟩ : ∃ newer, j' = newer ++ ps.world := by
      rcases respond_cases hsame hrespond with ⟨rfl, -⟩ | ⟨-, -, -, -, hnewer⟩
      · exact ⟨[], rfl⟩
      · exact hnewer
    refine ⟨trivial, trivial, ⟨hG.1, ?_⟩, fun _ _ _ _ _ hG' => ⟨hG'.1, hG'.2.append newer⟩⟩
    exact (hG.2.noteRead hrespond).append newer

/-- **Linearization.** The store is what the transactions and the other clients leave one after the other. -/
theorem Pool.Reach.linearized (hsame : ∀ u v, same u v = true → u = v)
    (hstart : ∀ ent, transacting.Obeys (start ent) ⟨ts ent, fun _ => none⟩ fun _ _ => True)
    (h : Pool.Reach (storeEnv same) start Ok (Pool.empty j₀) ps) :
    ∃ changes writes, Linearized ts (content j₀) ps changes writes := by
  induction h with
  | refl => exact ⟨[], [], rfl, .slnil, .slnil, .nil⟩
  | @tail ps ps' m hreach _ hstep ih =>
      obtain ⟨changes, writes, hcontent, hconfirmed, hmade, hcalls⟩ := ih
      cases hstep with
      | @act i ent q k c r j' hthread hrespond =>
          have hentries (i' : Nat) (ent' : Ent) (p : Prog (Versioned K V R ε) Unit)
              (hp : ps.threads[i']? = some (ent', p)) :
              ∃ p', (ps.threads.set i (ent, k r))[i']? = some (ent', p') := by
            by_cases hi : i' = i
            · subst hi
              cases hthread.symm.trans hp
              exact ⟨k r, List.getElem?_set_self (List.getElem?_eq_some_iff.mp hthread).1⟩
            · exact ⟨p, (List.getElem?_set_ne (Ne.symm hi)).trans hp⟩
          have hcalls := MadeFor.mono hentries hcalls
          rcases respond_cases hsame hrespond with ⟨rfl, hfailed⟩ | ⟨k', v, hserves, hnew, -⟩
          · refine ⟨changes, writes, hcontent, ?_, ?_, hcalls⟩
            · rw [Pool.afterAct, List.filter_append, List.filter_singleton, hfailed, cond_false, List.append_nil]
              exact hconfirmed
            · rw [Pool.afterAct, List.filter_append]
              exact hmade.trans (List.sublist_append_left _ _)
          · have hwrite := isWrite_of_serves hserves
            obtain ⟨t, read, ht, hallows, hknows⟩ := hreach.allows hsame hstart hthread hwrite
            obtain ⟨rfl, hrun⟩ := hallows.run_eq hknows hserves
            refine ⟨changes ++ [.call i t], writes ++ [(i, ⟨q, r⟩)], ?_, ?_, ?_, ?_⟩
            · rw [List.foldl_append, ← hcontent]
              exact hnew.trans hrun
            · rw [Pool.afterAct, List.filter_append]
              exact hconfirmed.append List.filter_sublist
            · rw [Pool.afterAct, List.filter_append, List.filter_singleton, hwrite, cond_true]
              exact hmade.append (List.Sublist.refl _)
            · rw [List.filterMap_append]
              refine List.rel_append hcalls (.cons ⟨rfl, hallows.written?, ent, k r, ?_, ht⟩ .nil)
              exact List.getElem?_set_self (List.getElem?_eq_some_iff.mp hthread).1
      | spawn ent =>
          refine ⟨changes, writes, hcontent, hconfirmed, hmade, MadeFor.mono (fun i ent' p hp => ⟨p, ?_⟩) hcalls⟩
          exact (List.getElem?_append_left (List.getElem?_eq_some_iff.mp hp).1).trans hp
      | drift hdrift =>
          obtain ⟨k, v, rfl⟩ := hdrift
          refine ⟨changes ++ [.foreign k v], writes, ?_, hconfirmed, hmade, ?_⟩
          · rw [List.foldl_append, ← hcontent]
            exact content_cons k v ps.world
          · have hnone : [Change.foreign k v].filterMap Change.call? = [] := rfl
            rw [List.filterMap_append, hnone, List.append_nil]
            exact hcalls

/-! ## Retries -/

/-- Done twice, the transaction comes to the same as done once. -/
structure Transaction.Repeatable (t : Transaction K V) (Same : Option V → Option V → Prop) : Prop where
  refl : ∀ x, Same x x
  trans : ∀ x y z, Same x y → Same y z → Same x z
  congr : ∀ x y, Same x y → Same (t.effect x) (t.effect y)
  again : ∀ x, Same (t.effect (t.effect x)) (t.effect x)

/-- Of what happens to the object of the transaction, nothing is for another one. -/
def OnlyFor (ts : Ent → Transaction K V → Prop) (t : Transaction K V)
    (ps : Pool (Versioned K V R ε) (Journal K V) Ent) : Move (Versioned K V R ε) (Journal K V) Ent → Prop
  | .act .. => True
  | .spawn ent => ∀ t', ts ent t' → t'.key = t.key → t' = t
  | .drift j => content j t.key = content ps.world t.key

theorem Pool.Reach.sole {t : Transaction K V}
    (h : Pool.Reach (storeEnv same) start (OnlyFor ts t) (Pool.empty j₀) ps) {i : Nat} {ent : Ent}
    {p : Prog (Versioned K V R ε) Unit} (hthread : ps.threads[i]? = some (ent, p)) :
    ∀ t', ts ent t' → t'.key = t.key → t' = t := by
  induction h generalizing i ent p with
  | refl => cases hthread
  | @tail ps ps' m hreach hok hstep ih =>
      cases hstep with
      | @act i' ent' q k c r j' hthread' hrespond =>
          by_cases hi : i = i'
          · subst hi
            rw [Pool.afterAct, List.getElem?_set_self (List.getElem?_eq_some_iff.mp hthread').1] at hthread
            cases hthread
            exact ih hthread'
          · rw [Pool.afterAct, List.getElem?_set_ne (Ne.symm hi)] at hthread
            exact ih hthread
      | spawn ent' =>
          obtain hthread | ⟨-, heq⟩ := Pool.getElem?_concat hthread
          · exact ih hthread
          · cases heq
            exact hok
      | drift => exact ih hthread

/-- **Retries come to one.** However often a transaction that is repeatable was attempted, by however many
programs, and whatever became of the attempts: once one of them was confirmed, its object is what the
transaction makes of the object there was at first. -/
theorem Pool.Reach.as_one (hsame : ∀ u v, same u v = true → u = v)
    (hstart : ∀ ent, transacting.Obeys (start ent) ⟨ts ent, fun _ => none⟩ fun _ _ => True)
    {t : Transaction K V} {Same : Option V → Option V → Prop} (ht : t.Repeatable Same)
    (h : Pool.Reach (storeEnv same) start (OnlyFor ts t) (Pool.empty j₀) ps) :
    content ps.world t.key = content j₀ t.key ∧
        (∀ x ∈ ps.log, confirmed x.2 = true → x.2.req.written? ≠ some t.key) ∨
      Same (content ps.world t.key) (t.effect (content j₀ t.key)) := by
  induction h with
  | refl => exact .inl ⟨rfl, nofun⟩
  | @tail ps ps' m hreach hok hstep ih =>
      cases hstep with
      | @act i ent q k c r j' hthread hrespond =>
          have hlog (hother : q.written? ≠ some t.key ∨ confirmed ⟨q, r⟩ = false)
              (hnone : ∀ x ∈ ps.log, confirmed x.2 = true → x.2.req.written? ≠ some t.key) :
              ∀ x ∈ ps.log ++ [(i, (⟨q, r⟩ : Event (Versioned K V R ε)))], confirmed x.2 = true →
                x.2.req.written? ≠ some t.key := by
            intro x hx hconfirmed
            rcases List.mem_append.mp hx with hx | hx
            · exact hnone x hx hconfirmed
            · obtain rfl := List.mem_singleton.mp hx
              rcases hother with hother | hother
              · exact hother
              · cases hconfirmed.symm.trans hother
          rcases respond_cases hsame hrespond with ⟨rfl, hfailed⟩ | ⟨k', v, hserves, hnew, -⟩
          · exact ih.imp_left fun hsame => ⟨hsame.1, hlog (.inr hfailed) hsame.2⟩
          · obtain ⟨t', read, ht', hallows, hknows⟩ :=
              hreach.allows hsame hstart hthread (isWrite_of_serves hserves)
            obtain ⟨rfl, hrun⟩ := hallows.run_eq hknows hserves
            have hnew : content j' = t'.run (content ps.world) := hnew.trans hrun
            by_cases hkey : t'.key = t.key
            · obtain rfl := hreach.sole hthread t' ht' hkey
              have hafter : content j' t'.key = t'.effect (content ps.world t'.key) := by
                rw [hnew, Transaction.run, Function.update_self]
              refine .inr (show Same (content j' t'.key) _ from hafter ▸ ?_)
              rcases ih with ⟨hfirst, -⟩ | hagain
              · rw [hfirst]
                exact ht.refl _
              · exact ht.trans _ _ _ (ht.congr _ _ hagain) (ht.again _)
            · have hafter : content j' t.key = content ps.world t.key := by
                rw [hnew, Transaction.run, Function.update_of_ne (Ne.symm hkey)]
              have hwritten : q.written? ≠ some t.key := by
                rw [hallows.written?]
                exact fun heq => hkey (Option.some.inj heq)
              exact (ih.imp (fun hsame => ⟨hafter.trans hsame.1, hlog (.inl hwritten) hsame.2⟩)
                fun hsame => show Same (content j' t.key) _ from hafter ▸ hsame)
      | spawn ent => exact ih
      | drift hdrift =>
          have hkept : content _ t.key = content ps.world t.key := hok
          exact ih.imp (fun hsame => ⟨hkept.trans hsame.1, hsame.2⟩)
            fun hsame => show Same (content _ t.key) _ from hkept ▸ hsame

end Linearized

end Interaction
