import CsmOperator.Interaction.Prog

/-!
# Requests that are never made

Whether a program can come to make a given request, when the answers it gets are restricted. For a
request that stands for a crash this says that the program is safe.
-/

namespace Interaction

variable {I : Interface} {α β : Type}

/-- As long as the answers are in `A`, the program does not come to ask `bad`. -/
def Avoids (A : Event I → Prop) (bad : I.Req) (p : Prog I α) : Prop :=
  ∀ tr, (∀ e ∈ tr, A e) → ¬ Pending p tr bad

namespace Avoids

variable {A : Event I → Prop} {bad : I.Req}

theorem ret (a : α) : Avoids A bad (.ret a : Prog I α) := fun _ _ h => Pending.not_ret h

theorem pure (a : α) : Avoids A bad (Pure.pure a : Prog I α) := ret a

theorem call_iff {q : I.Req} {k : I.Resp q → Prog I α} :
    Avoids A bad (.call q k) ↔ q ≠ bad ∧ ∀ r, A ⟨q, r⟩ → Avoids A bad (k r) := by
  constructor
  · intro h
    refine ⟨?_, fun r hr tr htr hpending => ?_⟩
    · rintro rfl
      exact h [] (fun _ he => (List.not_mem_nil he).elim) .here
    · exact h (⟨q, r⟩ :: tr) (List.forall_mem_cons.mpr ⟨hr, htr⟩) (.later hpending)
  · rintro ⟨hne, h⟩ tr htr hpending
    rcases Pending.call_iff.mp hpending with ⟨-, rfl⟩ | ⟨r, tr', rfl, hrest⟩
    · exact hne rfl
    · obtain ⟨hr, htr'⟩ := List.forall_mem_cons.mp htr
      exact h r hr tr' htr' hrest

theorem ask_bind_iff {q : I.Req} {f : I.Resp q → Prog I β} :
    Avoids A bad (Prog.ask q >>= f) ↔ q ≠ bad ∧ ∀ r, A ⟨q, r⟩ → Avoids A bad (f r) :=
  call_iff

/-- A composition is safe when its first part is, and its second after every run of the first. -/
theorem bind_iff {p : Prog I α} {f : α → Prog I β} :
    Avoids A bad (p >>= f) ↔ Avoids A bad p ∧
      ∀ tr a, Run p tr a → (∀ e ∈ tr, A e) → Avoids A bad (f a) := by
  constructor
  · intro h
    refine ⟨fun tr htr hpending => h tr htr (Pending.bind_iff.mpr (.inl hpending)),
      fun tr a hrun htr tr' htr' hpending => ?_⟩
    exact h (tr ++ tr') (List.forall_mem_append.mpr ⟨htr, htr'⟩)
      (Pending.bind_iff.mpr (.inr ⟨tr, tr', a, rfl, hrun, hpending⟩))
  · rintro ⟨hp, hf⟩ tr htr hpending
    rcases Pending.bind_iff.mp hpending with hpending | ⟨tr₁, tr₂, a, rfl, hrun, hrest⟩
    · exact hp tr htr hpending
    · obtain ⟨htr₁, htr₂⟩ := List.forall_mem_append.mp htr
      exact hf tr₁ a hrun htr₁ tr₂ htr₂ hrest

theorem bind {p : Prog I α} {f : α → Prog I β} (hp : Avoids A bad p) (hf : ∀ a, Avoids A bad (f a)) :
    Avoids A bad (p >>= f) :=
  bind_iff.mpr ⟨hp, fun _ a _ _ => hf a⟩

end Avoids

/-! ## Requests that can be made -/

/-- Some answers lead the program to ask `q`. -/
def CanAsk (q : I.Req) (p : Prog I α) : Prop := ∃ tr, Pending p tr q

namespace CanAsk

variable {q : I.Req}

@[simp] theorem not_ret {a : α} : ¬CanAsk q (.ret a : Prog I α) := fun ⟨_, h⟩ => Pending.not_ret h

@[simp] theorem not_pure {a : α} : ¬CanAsk q (Pure.pure a : Prog I α) := not_ret

theorem call_iff {q' : I.Req} {k : I.Resp q' → Prog I α} :
    CanAsk q (.call q' k) ↔ q = q' ∨ ∃ r, CanAsk q (k r) := by
  constructor
  · rintro ⟨tr, h⟩
    obtain ⟨-, rfl⟩ | ⟨r, tr', -, hrest⟩ := Pending.call_iff.mp h
    · exact .inl rfl
    · exact .inr ⟨r, tr', hrest⟩
  · rintro (rfl | ⟨r, tr, h⟩)
    · exact ⟨[], .here⟩
    · exact ⟨⟨q', r⟩ :: tr, .later h⟩

theorem ask_bind_iff {q' : I.Req} {f : I.Resp q' → Prog I β} :
    CanAsk q (Prog.ask q' >>= f) ↔ q = q' ∨ ∃ r, CanAsk q (f r) :=
  call_iff

theorem bind_iff {p : Prog I α} {f : α → Prog I β} :
    CanAsk q (p >>= f) ↔ CanAsk q p ∨ ∃ tr a, Run p tr a ∧ CanAsk q (f a) := by
  constructor
  · rintro ⟨tr, h⟩
    obtain h | ⟨tr₁, tr₂, a, -, hrun, hrest⟩ := Pending.bind_iff.mp h
    · exact .inl ⟨tr, h⟩
    · exact .inr ⟨tr₁, a, hrun, tr₂, hrest⟩
  · rintro (⟨tr, h⟩ | ⟨tr₁, a, hrun, tr₂, hrest⟩)
    · exact ⟨tr, Pending.bind_iff.mpr (.inl h)⟩
    · exact ⟨tr₁ ++ tr₂, Pending.bind_iff.mpr (.inr ⟨tr₁, tr₂, a, rfl, hrun, hrest⟩)⟩

end CanAsk

end Interaction
