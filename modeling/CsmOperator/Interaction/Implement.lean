import CsmOperator.Interaction.Prog

/-!
# Carrying out requests by programs

A program over one interface becomes a program over another when each of its requests is carried out
by a program over the second one. The implementations of single requests share a state, for what one
of them computes and a later one needs.

`run_implement_iff` relates the two levels: the runs below are the runs above with every call replaced
by a run of its implementation. So what holds of every run above holds, in these terms, of every run
below.
-/

namespace Interaction

variable {I J : Interface} {α σ : Type}

/-- A program over `J` for each request of `I`. -/
abbrev Implementation (I J : Interface) (σ : Type) := σ → (q : I.Req) → Prog J (I.Resp q × σ)

variable {impl : Implementation I J σ} {s s' : σ} {tr tr₁ tr₂ : List (Event I)}
  {u : List (Event J)}

/-- Carry out every request of a program. -/
def Prog.implement (impl : Implementation I J σ) : Prog I α → σ → Prog J (α × σ)
  | .ret a, s => .ret (a, s)
  | .call q k, s => impl s q >>= fun x => (k x.1).implement impl x.2

theorem Prog.implement_bind {β : Type} (p : Prog I α) (f : α → Prog I β) (s : σ) :
    (p >>= f).implement impl s = p.implement impl s >>= fun x => (f x.1).implement impl x.2 := by
  induction p generalizing s with
  | ret a => rfl
  | call q k ih =>
      rw [Prog.call_bind, Prog.implement, Prog.implement, bind_assoc]
      exact congrArg _ (funext fun x => ih x.1 x.2)

/-- `CarriedOut impl s tr u s'`: from the state `s`, the calls of `tr` are carried out by those of `u`,
and the state is `s'` afterwards. -/
inductive CarriedOut (impl : Implementation I J σ) :
    σ → List (Event I) → List (Event J) → σ → Prop
  | nil (s : σ) : CarriedOut impl s [] [] s
  | cons {s s₁ s' : σ} {q : I.Req} {r : I.Resp q} {tr : List (Event I)} {u₁ u₂ : List (Event J)} :
      Run (impl s q) u₁ (r, s₁) → CarriedOut impl s₁ tr u₂ s' →
      CarriedOut impl s (⟨q, r⟩ :: tr) (u₁ ++ u₂) s'

namespace CarriedOut

@[simp] theorem nil_iff : CarriedOut impl s [] u s' ↔ u = [] ∧ s' = s := by
  constructor
  · intro h
    cases h
    exact ⟨rfl, rfl⟩
  · rintro ⟨rfl, rfl⟩
    exact .nil _

theorem cons_iff {e : Event I} :
    CarriedOut impl s (e :: tr) u s' ↔ ∃ u₁ u₂ s₁, u = u₁ ++ u₂ ∧
      Run (impl s e.req) u₁ (e.resp, s₁) ∧ CarriedOut impl s₁ tr u₂ s' := by
  constructor
  · intro h
    cases h with
    | cons hrun hrest => exact ⟨_, _, _, rfl, hrun, hrest⟩
  · rintro ⟨u₁, u₂, s₁, rfl, hrun, hrest⟩
    exact .cons hrun hrest

theorem append_iff :
    CarriedOut impl s (tr₁ ++ tr₂) u s' ↔ ∃ u₁ u₂ s₁, u = u₁ ++ u₂ ∧
      CarriedOut impl s tr₁ u₁ s₁ ∧ CarriedOut impl s₁ tr₂ u₂ s' := by
  induction tr₁ generalizing s u with
  | nil =>
      rw [List.nil_append]
      constructor
      · intro h
        exact ⟨[], u, s, rfl, .nil s, h⟩
      · rintro ⟨u₁, u₂, s₁, rfl, h₁, h₂⟩
        obtain ⟨rfl, rfl⟩ := nil_iff.mp h₁
        exact h₂
  | cons e tr₁ ih =>
      rw [List.cons_append, cons_iff]
      constructor
      · rintro ⟨u₁, u', s₁, rfl, hrun, hrest⟩
        obtain ⟨u₂, u₃, s₂, rfl, h₁, h₂⟩ := ih.mp hrest
        exact ⟨u₁ ++ u₂, u₃, s₂, (List.append_assoc ..).symm, .cons hrun h₁, h₂⟩
      · rintro ⟨u₁, u₂, s₁, rfl, h₁, h₂⟩
        obtain ⟨u₃, u₄, s₂, rfl, hrun, hrest⟩ := cons_iff.mp h₁
        exact ⟨u₃, u₄ ++ u₂, s₂, List.append_assoc .., hrun, ih.mpr ⟨u₄, u₂, s₁, rfl, hrest, h₂⟩⟩

/-- Each call below belongs to the implementation of a call above. -/
theorem exists_of_mem {e : Event J} (h : CarriedOut impl s tr u s') (he : e ∈ u) :
    ∃ e' ∈ tr, ∃ s₁ s₂ t, e ∈ t ∧ Run (impl s₁ e'.req) t (e'.resp, s₂) := by
  induction h with
  | nil s => exact (List.not_mem_nil he).elim
  | cons hrun _ ih =>
      rcases List.mem_append.mp he with he | he
      · exact ⟨_, List.mem_cons_self, _, _, _, he, hrun⟩
      · obtain ⟨e', he', hcall⟩ := ih he
        exact ⟨e', List.mem_cons_of_mem _ he', hcall⟩

/-- Each call above is carried out somewhere below. -/
theorem exists_run_of_mem {e : Event I} (h : CarriedOut impl s tr u s') (he : e ∈ tr) :
    ∃ s₁ s₂ t, t ⊆ u ∧ Run (impl s₁ e.req) t (e.resp, s₂) := by
  induction h with
  | nil s => exact (List.not_mem_nil he).elim
  | cons hrun _ ih =>
      rcases List.mem_cons.mp he with rfl | he
      · exact ⟨_, _, _, List.subset_append_left .., hrun⟩
      · obtain ⟨s₁, s₂, t, hsub, hcall⟩ := ih he
        exact ⟨s₁, s₂, t, List.subset_append_of_subset_right _ hsub, hcall⟩

/-- Calls that are carried out by one call each, without a change of the state. -/
theorem eq_map {pass : Event I → Event J}
    (hpass : ∀ e ∈ tr, ∀ {s s₁ u}, Run (impl s e.req) u (e.resp, s₁) → u = [pass e] ∧ s₁ = s)
    (h : CarriedOut impl s tr u s') : u = tr.map pass ∧ s' = s := by
  induction h with
  | nil s => exact ⟨rfl, rfl⟩
  | cons hrun _ ih =>
      obtain ⟨rfl, rfl⟩ := hpass _ List.mem_cons_self hrun
      obtain ⟨rfl, rfl⟩ := ih fun e he => hpass e (List.mem_cons_of_mem _ he)
      exact ⟨rfl, rfl⟩

end CarriedOut

/-- The runs of a program whose requests are carried out are its runs, call by call carried out. -/
theorem run_implement_iff {p : Prog I α} {x : α × σ} :
    Run (p.implement impl s) u x ↔ ∃ tr, Run p tr x.1 ∧ CarriedOut impl s tr u x.2 := by
  induction p generalizing s u with
  | ret a =>
      rw [Prog.implement, Run.ret_iff]
      constructor
      · rintro ⟨rfl, rfl⟩
        exact ⟨[], .ret a, .nil s⟩
      · rintro ⟨tr, hrun, hcarries⟩
        obtain ⟨rfl, ha⟩ := Run.ret_iff.mp hrun
        obtain ⟨rfl, hs⟩ := CarriedOut.nil_iff.mp hcarries
        exact ⟨rfl, Prod.ext ha hs⟩
  | call q k ih =>
      rw [Prog.implement, Run.bind_iff]
      constructor
      · rintro ⟨u₁, u₂, ⟨r, s₁⟩, rfl, hcall, hrest⟩
        obtain ⟨tr, hrun, hcarries⟩ := (ih r).mp hrest
        exact ⟨⟨q, r⟩ :: tr, .call hrun, .cons hcall hcarries⟩
      · rintro ⟨tr, hrun, hcarries⟩
        obtain ⟨r, tr', rfl, hafter⟩ := Run.call_iff.mp hrun
        obtain ⟨u₁, u₂, s₁, rfl, hcall, hrest⟩ := CarriedOut.cons_iff.mp hcarries
        exact ⟨u₁, u₂, (r, s₁), rfl, hcall, (ih r).mpr ⟨tr', hafter, hrest⟩⟩

/-- Where a program is whose requests are carried out: in the implementation of what it has come to ask,
with all calls before carried out. -/
theorem exists_of_pending_implement {p : Prog I α} {q : J.Req} (h : Pending (p.implement impl s) u q) :
    ∃ tr q' u₁ u₂ s₁, Pending p tr q' ∧ CarriedOut impl s tr u₁ s₁ ∧ u = u₁ ++ u₂ ∧
      Pending (impl s₁ q') u₂ q := by
  induction p generalizing s u with
  | ret a => exact (Pending.not_ret h).elim
  | call q₀ k ih =>
      rw [Prog.implement] at h
      obtain h | ⟨u₁, u₂, ⟨r, s₁⟩, rfl, hcall, hrest⟩ := Pending.bind_iff.mp h
      · exact ⟨[], q₀, [], u, s, .here, .nil s, rfl, h⟩
      · obtain ⟨tr, q', u₃, u₄, s₂, hq', hcarried, rfl, hpending⟩ := ih r hrest
        exact ⟨⟨q₀, r⟩ :: tr, q', u₁ ++ u₃, u₄, s₂, .later hq', .cons hcall hcarried,
          (List.append_assoc ..).symm, hpending⟩

/-! ## Two interfaces side by side -/

/-- The requests of both. -/
abbrev Interface.sum (I J : Interface) : Interface where
  Req := I.Req ⊕ J.Req
  Resp := fun
    | .inl q => I.Resp q
    | .inr q => J.Resp q

def Event.inr (e : Event J) : Event (I.sum J) := ⟨.inr e.req, e.resp⟩

/-- A program that asks only the second. -/
def Prog.inr : Prog J α → Prog (I.sum J) α
  | .ret a => .ret a
  | .call q k => .call (.inr q) fun r => (k r).inr

theorem run_inr_iff {p : Prog J α} {v : List (Event (I.sum J))} {a : α} :
    Run p.inr v a ↔ ∃ tr, v = tr.map Event.inr ∧ Run p tr a := by
  induction p generalizing v with
  | ret b =>
      rw [Prog.inr, Run.ret_iff]
      constructor
      · rintro ⟨rfl, rfl⟩
        exact ⟨[], rfl, .ret _⟩
      · rintro ⟨tr, rfl, hrun⟩
        obtain ⟨rfl, rfl⟩ := Run.ret_iff.mp hrun
        exact ⟨rfl, rfl⟩
  | call q k ih =>
      refine Run.call_iff.trans ⟨?_, ?_⟩
      · rintro ⟨r, v', rfl, hrun⟩
        obtain ⟨tr, rfl, hrest⟩ := (ih r).mp hrun
        exact ⟨⟨q, r⟩ :: tr, rfl, .call hrest⟩
      · rintro ⟨tr, rfl, hrun⟩
        obtain ⟨r, tr', rfl, hrest⟩ := Run.call_iff.mp hrun
        exact ⟨r, tr'.map Event.inr, rfl, (ih r).mpr ⟨tr', rfl, hrest⟩⟩

theorem pending_inr_iff {p : Prog J α} {v : List (Event (I.sum J))} {q : (I.sum J).Req} :
    Pending p.inr v q ↔ ∃ tr q', v = tr.map Event.inr ∧ q = .inr q' ∧ Pending p tr q' := by
  induction p generalizing v with
  | ret b =>
      refine ⟨fun h => (Pending.not_ret h).elim, ?_⟩
      rintro ⟨_, _, -, -, h⟩
      exact (Pending.not_ret h).elim
  | call q₀ k ih =>
      refine Pending.call_iff.trans ⟨?_, ?_⟩
      · rintro (⟨rfl, rfl⟩ | ⟨r, v', rfl, h⟩)
        · exact ⟨[], q₀, rfl, rfl, .here⟩
        · obtain ⟨tr, q', rfl, rfl, hrest⟩ := (ih r).mp h
          exact ⟨⟨q₀, r⟩ :: tr, q', rfl, rfl, .later hrest⟩
      · rintro ⟨tr, q', rfl, rfl, h⟩
        obtain ⟨rfl, rfl⟩ | ⟨r, tr', rfl, hrest⟩ := Pending.call_iff.mp h
        · exact .inl ⟨rfl, rfl⟩
        · exact .inr ⟨r, tr'.map Event.inr, rfl, (ih r).mpr ⟨tr', q', rfl, rfl, hrest⟩⟩

end Interaction
