import CsmOperator.Interaction.Pool
import Mathlib.Logic.Relation

/-!
# Locks shared by a pool

Some requests of an interface acquire a lock and some release one; the environment answers the first
kind only while nobody has the lock. If the locks are ranked, and every program of a pool acquires a
lock only with locks of lower rank in hand, releases only what it has, and ends with nothing in hand,
then

* a lock has one holder (`exclusive_of_reach`),
* no program acquires a lock it holds (`not_holding`), and none wait for each other in a cycle
  (`no_wait_cycle`),
* as long as somebody waits, some holder is not waiting (`exists_moving_holder`).
-/

namespace Interaction

variable {I : Interface} {W C Ent K : Type} [DecidableEq K]

/-- The requests that acquire and release locks, and the rank of each lock. -/
structure Locking (I : Interface) (K : Type) where
  acquires : I.Req → Option K
  releases : I.Req → Option K
  rank : K → Nat

namespace Locking

variable (U : Locking I K)

/-- The locks in hand after an answered call. -/
def next (held : List K) (q : I.Req) : List K :=
  match U.acquires q with
  | some m => m :: held
  | none =>
    match U.releases q with
    | some m => held.erase m
    | none => held

/-- The discipline: acquire upwards, release what is in hand. -/
def monitor : Monitor I (List K) where
  guard held q := (∀ m, U.acquires q = some m → ∀ m' ∈ held, U.rank m' < U.rank m) ∧
    ∀ m, U.acquires q = none → U.releases q = some m → m ∈ held
  assume _ _ _ := True
  next held q _ := U.next held q

/-- A program that keeps the discipline and ends with nothing in hand. -/
def Disciplined (p : Prog I Unit) : Prop := U.monitor.Neutral p []

/-- How an environment with the locks `held` serves the requests about them. -/
structure ServedBy (E : Env I W C) (held : W → K → Bool) : Prop where
  acquired : ∀ {w q c r w' m}, E.respond w q c = some (r, w') → U.acquires q = some m →
    held w m = false ∧ held w' = Function.update (held w) m true
  released : ∀ {w q c r w' m}, E.respond w q c = some (r, w') → U.acquires q = none →
    U.releases q = some m → held w' = Function.update (held w) m false
  kept : ∀ {w q c r w'}, E.respond w q c = some (r, w') → U.acquires q = none → U.releases q = none →
    held w' = held w
  drift : ∀ {w w'}, E.drift w w' → held w' = held w

/-- The locks thread `i` has in hand. -/
def inHand (log : List (Nat × Event I)) : Nat → List K := Pool.states U.monitor [] log

/-- What the discipline says about the locks and the threads' hands. -/
structure Exclusive (held : K → Bool) (hand : Nat → List K) : Prop where
  held_iff : ∀ m, held m = true ↔ ∃ i, m ∈ hand i
  unique : ∀ m i j, m ∈ hand i → m ∈ hand j → i = j
  nodup : ∀ i, (hand i).Nodup

variable {U} {held : K → Bool} {hand : Nat → List K} {i : Nat} {m : K}

theorem Exclusive.acquire (h : Exclusive held hand) (hfree : held m = false) :
    Exclusive (Function.update held m true) (Function.update hand i (m :: hand i)) := by
  -- the lock was free, so it was in nobody's hand
  have hnobody : ∀ j, m ∉ hand j := fun j hm =>
    Bool.false_ne_true (hfree.symm.trans ((h.held_iff m).mpr ⟨j, hm⟩))
  -- in whose hand a lock is afterwards
  have hmem : ∀ m' j, m' ∈ Function.update hand i (m :: hand i) j ↔ m' ∈ hand j ∨ j = i ∧ m' = m := by
    intro m' j
    by_cases hj : j = i
    · subst hj
      simp [or_comm]
    · simp [hj]
  refine ⟨fun m' => ?_, fun m' j j' hj hj' => ?_, fun j => ?_⟩
  · by_cases hm : m' = m
    · subst hm
      simp [hmem]
    · simp [hmem, hm, h.held_iff]
  · rw [hmem] at hj hj'
    obtain hj | ⟨rfl, rfl⟩ := hj <;> obtain hj' | ⟨rfl, hm⟩ := hj'
    · exact h.unique m' j j' hj hj'
    · exact (hnobody j (hm ▸ hj)).elim
    · exact (hnobody j' hj').elim
    · rfl
  · by_cases hj : j = i
    · subst hj
      rw [Function.update_self]
      exact List.nodup_cons.mpr ⟨hnobody j, h.nodup j⟩
    · rw [Function.update_of_ne hj]
      exact h.nodup j

theorem Exclusive.release (h : Exclusive held hand) (hm : m ∈ hand i) :
    Exclusive (Function.update held m false) (Function.update hand i ((hand i).erase m)) := by
  have hmem : ∀ m' j, m' ∈ Function.update hand i ((hand i).erase m) j ↔ m' ∈ hand j ∧ m' ≠ m := by
    intro m' j
    by_cases hj : j = i
    · subst hj
      rw [Function.update_self, (h.nodup j).mem_erase_iff, and_comm]
    · rw [Function.update_of_ne hj]
      refine ⟨fun hm' => ⟨hm', ?_⟩, And.left⟩
      rintro rfl
      exact hj (h.unique m' j i hm' hm)
  refine ⟨fun m' => ?_, fun m' j j' hj hj' => ?_, fun j => ?_⟩
  · by_cases hm' : m' = m
    · subst hm'
      simp [hmem]
    · simp [hmem, hm', h.held_iff]
  · exact h.unique m' j j' ((hmem m' j).mp hj).1 ((hmem m' j').mp hj').1
  · by_cases hj : j = i
    · subst hj
      rw [Function.update_self]
      exact (h.nodup j).erase m
    · rw [Function.update_of_ne hj]
      exact h.nodup j

/-! ## In a pool -/

section Pool

variable {E : Env I W C} {start : Ent → Prog I Unit} {Ok : Pool I W Ent → Move I W Ent → Prop}
  {held : W → K → Bool} {w₀ : W} {ps : Pool I W Ent}

theorem Disciplined.guard (hdisc : ∀ ent, U.Disciplined (start ent))
    (h : Pool.Reach E start Ok (Pool.empty w₀) ps) {ent : Ent} {q : I.Req} {k : I.Resp q → Prog I Unit}
    (hthread : ps.threads[i]? = some (ent, .call q k)) : U.monitor.guard (U.inHand ps.log i) q :=
  h.guard hdisc (fun _ _ _ => trivial) hthread

/-- Every lock is in one hand at most, and taken exactly when it is in one. -/
theorem exclusive_of_reach (hserved : U.ServedBy E held) (hdisc : ∀ ent, U.Disciplined (start ent))
    (hfree : ∀ m, held w₀ m = false) (h : Pool.Reach E start Ok (Pool.empty w₀) ps) :
    Exclusive (held ps.world) (U.inHand ps.log) := by
  refine h.states_invariant hdisc (fun _ _ _ => trivial) (fun w _ hand => Exclusive (held w) hand)
    ?_ (fun w log hand w' hw hd => ?_) fun w log hand i q c r w' hw hguard hr => ?_
  · refine ⟨fun m => ?_, fun m i j hm => (List.not_mem_nil hm).elim, fun i => List.nodup_nil⟩
    refine iff_of_false (fun hm => Bool.false_ne_true ((hfree m).symm.trans hm)) ?_
    rintro ⟨i, hm⟩
    exact List.not_mem_nil hm
  · rw [hserved.drift hd]
    exact hw
  · have hnext : U.monitor.next (hand i) q r = U.next (hand i) q := rfl
    rw [hnext, next]
    cases hacquires : U.acquires q with
    | some m =>
        obtain ⟨hfree, hheld⟩ := hserved.acquired hr hacquires
        rw [hheld]
        exact hw.acquire hfree
    | none =>
        cases hreleases : U.releases q with
        | some m =>
            rw [hserved.released hr hacquires hreleases]
            exact hw.release (hguard.2 m hacquires hreleases)
        | none =>
            rw [hserved.kept hr hacquires hreleases, Function.update_eq_self]
            exact hw

/-- Thread `i` is about to acquire the lock. -/
def Acquiring (U : Locking I K) (ps : Pool I W Ent) (i : Nat) (m : K) : Prop :=
  ∃ ent q k, ps.threads[i]? = some (ent, .call q k) ∧ U.acquires q = some m

omit [DecidableEq K] in
theorem Acquiring.unique {m' : K} (h : U.Acquiring ps i m) (h' : U.Acquiring ps i m') : m = m' := by
  obtain ⟨ent, q, k, ht, hm⟩ := h
  obtain ⟨ent', q', k', ht', hm'⟩ := h'
  rw [ht] at ht'
  cases ht'
  exact Option.some.inj (hm.symm.trans hm')

/-- What is in hand has a lower rank than what is acquired. -/
theorem rank_lt_of_acquiring (hdisc : ∀ ent, U.Disciplined (start ent))
    (h : Pool.Reach E start Ok (Pool.empty w₀) ps) {m' : K} (hacq : U.Acquiring ps i m)
    (hm' : m' ∈ U.inHand ps.log i) : U.rank m' < U.rank m := by
  obtain ⟨ent, q, k, ht, hm⟩ := hacq
  exact (Disciplined.guard hdisc h ht).1 m hm m' hm'

theorem not_holding (hdisc : ∀ ent, U.Disciplined (start ent))
    (h : Pool.Reach E start Ok (Pool.empty w₀) ps) (hacq : U.Acquiring ps i m) :
    m ∉ U.inHand ps.log i :=
  fun hm => Nat.lt_irrefl _ (rank_lt_of_acquiring hdisc h hacq hm)

/-- Thread `i` waits for a lock that thread `j` has in hand. -/
def WaitsFor (U : Locking I K) (ps : Pool I W Ent) (i j : Nat) : Prop :=
  ∃ m, U.Acquiring ps i m ∧ m ∈ U.inHand ps.log j

/-- Along a chain of waiting threads the locks they wait for rise in rank. -/
theorem rank_lt_of_waitsFor (hdisc : ∀ ent, U.Disciplined (start ent))
    (h : Pool.Reach E start Ok (Pool.empty w₀) ps) {j : Nat} {m' : K}
    (hwaits : Relation.TransGen (U.WaitsFor ps) i j) (hi : U.Acquiring ps i m)
    (hj : U.Acquiring ps j m') : U.rank m < U.rank m' := by
  induction hwaits generalizing m' with
  | single hwait =>
      obtain ⟨m₁, hacq, hm₁⟩ := hwait
      obtain rfl := hacq.unique hi
      exact rank_lt_of_acquiring hdisc h hj hm₁
  | tail _ hwait ih =>
      obtain ⟨m₁, hacq, hm₁⟩ := hwait
      exact Nat.lt_trans (ih hacq) (rank_lt_of_acquiring hdisc h hj hm₁)

theorem no_wait_cycle (hdisc : ∀ ent, U.Disciplined (start ent))
    (h : Pool.Reach E start Ok (Pool.empty w₀) ps) (i : Nat) :
    ¬ Relation.TransGen (U.WaitsFor ps) i i := by
  intro hcycle
  obtain ⟨j, hwait, -⟩ := Relation.TransGen.head'_iff.mp hcycle
  obtain ⟨m, hacq, -⟩ := hwait
  exact Nat.lt_irrefl _ (rank_lt_of_waitsFor hdisc h hcycle hacq hacq)

/-- A thread with a lock in hand is at some request. -/
theorem exists_call_of_inHand (hdisc : ∀ ent, U.Disciplined (start ent))
    (h : Pool.Reach E start Ok (Pool.empty w₀) ps) (hm : m ∈ U.inHand ps.log i) :
    ∃ ent q k, ps.threads[i]? = some (ent, (.call q k : Prog I Unit)) := by
  cases ht : ps.threads[i]? with
  | none =>
      rw [inHand, Pool.states, h.trace_eq_nil (List.getElem?_eq_none_iff.mp ht)] at hm
      exact (List.not_mem_nil hm).elim
  | some t =>
      obtain ⟨ent, p⟩ := t
      cases p with
      | call q k => exact ⟨ent, q, k, rfl⟩
      | ret a =>
          have hnothing : U.inHand ps.log i = [] := Monitor.Obeys.of_run (hdisc ent) (h.run ht)
            (U.monitor.admits_of_forall (fun _ _ _ => trivial) _ _)
          rw [hnothing] at hm
          exact (List.not_mem_nil hm).elim

/-- As long as a thread waits, it waits, directly or through others, for one that does not. -/
theorem exists_moving_holder (hserved : U.ServedBy E held) (hdisc : ∀ ent, U.Disciplined (start ent))
    (hfree : ∀ m, held w₀ m = false) {bound : Nat} (hbound : ∀ m, U.rank m < bound)
    (h : Pool.Reach E start Ok (Pool.empty w₀) ps) (hacq : U.Acquiring ps i m)
    (htaken : held ps.world m = true) :
    ∃ j ent q k, Relation.TransGen (U.WaitsFor ps) i j ∧
      ps.threads[j]? = some (ent, (.call q k : Prog I Unit)) ∧
      ∀ m', U.acquires q = some m' → held ps.world m' = false := by
  have hexclusive := exclusive_of_reach hserved hdisc hfree h
  -- the holder waits for a lock of higher rank, or for none
  induction hrank : bound - U.rank m using Nat.strongRecOn generalizing i m with
  | _ n ih =>
      obtain ⟨j, hj⟩ := (hexclusive.held_iff m).mp htaken
      obtain ⟨ent, q, k, ht⟩ := exists_call_of_inHand hdisc h hj
      have hwait : U.WaitsFor ps i j := ⟨m, hacq, hj⟩
      by_cases hwaits : ∃ m', U.acquires q = some m' ∧ held ps.world m' = true
      · obtain ⟨m', hm', htaken'⟩ := hwaits
        have hacq' : U.Acquiring ps j m' := ⟨ent, q, k, ht, hm'⟩
        have hlt := rank_lt_of_acquiring hdisc h hacq' hj
        have hm := hbound m'
        obtain ⟨j', ent', q', k', hchain, ht', hmoves⟩ :=
          ih (bound - U.rank m') (by omega) hacq' htaken' rfl
        exact ⟨j', ent', q', k', .head hwait hchain, ht', hmoves⟩
      · refine ⟨j, ent, q, k, .single hwait, ht, fun m' hm' => ?_⟩
        exact Bool.eq_false_iff.mpr fun htaken' => hwaits ⟨m', hm', htaken'⟩

end Pool

end Locking

end Interaction
