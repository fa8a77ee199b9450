import CsmOperator.Finalizers.Course
import CsmOperator.World.Threads

/-!
# What a copy says about the stored CR

A version of a CR is given out once. So when a thread has seen a version of a CR, and this is still the
stored one, the stored CR is as the thread has seen it, whatever the other threads and the users have
done in between. An update is accepted only then.
-/

namespace CsmOperator

open Interaction

variable {kinds : NamespacedName → Kind} {rt : Runtime} {key : NamespacedName}
  {Ok : Threads → Move Api World Entry → Prop} {w w' : World} {c : World.Choice}
  {base cr : ContainerStorageModule} {tr : List (Event Api)} {ps : Threads}

/-- Only reconciles make marked requests. -/
theorem pending_program {ent : Entry} {q : Request} (hq : Pending (ent.program rt) tr q)
    (hmarked : Marked q) : ∃ key, ent = .reconcile key ∧ Pending (reconcile rt key) tr q := by
  cases ent with
  | update csmName e =>
      exact (not_marked_of_pending (statusWork_informerUpdate csmName e)
        (fun _ => StatusWork.unmarked) hq hmarked).elim
  | reconcile key =>
      obtain hq | ⟨_, _, ⟨result, err⟩, -, -, hq⟩ := Pending.bind_iff.mp hq
      · exact ⟨key, rfl, hq⟩
      · obtain ⟨-, rfl⟩ | ⟨_, _, -, hret⟩ := Pending.call_iff.mp hq
        · exact hmarked.elim
        · exact (Pending.not_ret hret).elim

/-- The version seen was given out, and what is stored under it is what was seen. -/
structure TrueCopy (w : World) (base : ContainerStorageModule) : Prop where
  old : base.resourceVersion ≤ w.version
  same : ∀ s, w.crs base.key = some s → s.resourceVersion = base.resourceVersion → SameMeta s base

theorem TrueCopy.of_newer (h : TrueCopy w base) (hversion : w.version ≤ w'.version)
    (hcrs : w'.crs base.key = w.crs base.key ∨
      ∀ s, w'.crs base.key = some s → w.version < s.resourceVersion) : TrueCopy w' base where
  old := Nat.le_trans h.old hversion
  same s hs hsame := by
    rcases hcrs with heq | hnew
    · exact h.same s (heq ▸ hs) hsame
    · have hlt := hnew s hs
      have hle := h.old
      omega

/-- What all threads have seen is true, and all answers about CRs are faithful. -/
structure CopiesTrue (ps : Threads) : Prop where
  faithful : ∀ x ∈ ps.log, Faithful x.2
  keyed : ps.world.KeyStored
  bounded : ps.world.Bounded
  seen : ∀ i base, lastSeen (Pool.trace ps.log i) = some base → TrueCopy ps.world base

theorem CopiesTrue.faithful_trace (h : CopiesTrue ps) (i : Nat) :
    ∀ e ∈ Pool.trace ps.log i, Faithful e :=
  fun e he => h.faithful (i, e) (Pool.mem_of_mem_trace he)

/-- A reply to an update, and the CR it leaves stored. -/
theorem TrueCopy.of_updated (stored cr : ContainerStorageModule) (st : ContainerStorageModuleStatus) :
    TrueCopy (w.put cr.key (World.kept (w.updated stored cr))) ((w.updated stored cr).withStatus st) where
  old := Nat.le_refl _
  same s hs _ := by
    have hs : Function.update w.crs cr.key (World.kept (w.updated stored cr)) cr.key = some s := hs
    rw [Function.update_self] at hs
    unfold World.kept at hs
    split at hs <;> cases hs
    exact ⟨rfl, rfl, rfl, rfl⟩

/-- An accepted update by a thread that knows what is stored. -/
theorem stored_of_soundUpdate {stored : ContainerStorageModule} (h : SoundUpdate rt key tr base cr)
    (htrue : TrueCopy w base) (hstored : w.crs cr.key = some stored)
    (hversion : stored.resourceVersion = cr.resourceVersion) : SameMeta stored base := by
  refine htrue.same stored ?_ (hversion.trans h.resourceVersion_eq.symm)
  rw [h.base_key, ← h.key_eq]
  exact hstored

theorem faithful_of_respond (rt : Runtime) {q : Request} {r : q.Answer} (hkeyed : w.KeyStored)
    (hupdate : ∀ cr, q = .updateCSM cr →
      ∃ key tr base, SoundUpdate rt key tr base cr ∧ TrueCopy w base)
    (h : w.respond q c = some (r, w')) : Faithful ⟨q, r⟩ := by
  cases q with
  | getCSM key =>
      match r with
      | .error e => trivial
      | .ok cr => exact hkeyed key cr ((World.of_getCSM h).2 cr rfl)
  | updateCSM cr =>
      rcases World.of_updateCSM h with ⟨-, e, rfl⟩ | ⟨stored, hstored, hversion, rfl, -⟩
      · trivial
      · obtain ⟨key, tr, base, hsound, htrue⟩ := hupdate cr rfl
        have hsame := stored_of_soundUpdate hsound htrue hstored hversion
        exact ⟨rfl, rfl, hsame.deletionTimestamp_eq.trans hsound.deletionTimestamp_eq⟩
  | _ => trivial

/-- What a thread has seen after an answer. -/
theorem trueCopy_of_respond {q : Request} {r : q.Answer} (hkeyed : w.KeyStored) (hbounded : w.Bounded)
    (h : w.respond q c = some (r, w')) (hseen : seenCR ⟨q, r⟩ = some base) : TrueCopy w' base := by
  cases q with
  | getCSM key =>
      match r with
      | .error e => cases hseen
      | .ok cr =>
          cases hseen
          obtain ⟨rfl, hstored⟩ := World.of_getCSM h
          have hstored := hstored base rfl
          refine ⟨hbounded key base hstored, fun s hs _ => ?_⟩
          rw [hkeyed key base hstored, hstored] at hs
          cases hs
          exact .refl _
  | updateCSM cr =>
      rcases World.of_updateCSM h with ⟨-, e, rfl⟩ | ⟨stored, -, -, rfl, rfl⟩
      · cases hseen
      · cases hseen
        exact .of_updated stored cr _
  | _ => cases hseen

theorem copiesTrue_of_reach {w₀ : World} (hkeyed : w₀.KeyStored) (hbounded : w₀.Bounded)
    (h : Pool.Reach (environment kinds) (Entry.program rt) Ok (Pool.empty w₀) ps) :
    CopiesTrue ps := by
  induction h with
  | refl =>
      refine ⟨fun x hx => (List.not_mem_nil hx).elim, hkeyed, hbounded, fun i base hseen => ?_⟩
      cases hseen
  | @tail ps ps' m hreach hok hstep ih =>
      cases hstep with
      | @act i ent q k c r w ht hr =>
          have hfaithful : Faithful ⟨q, r⟩ := by
            refine faithful_of_respond rt ih.keyed (fun cr heq => ?_) hr
            subst heq
            obtain ⟨key', rfl, hpending⟩ := pending_program (hreach.pending ht) trivial
            obtain ⟨base, hsound⟩ := soundUpdate_of_pending hpending (ih.faithful_trace i)
            exact ⟨key', _, base, hsound, ih.seen i base hsound.seen⟩
          -- what was seen before stays true
          have hbefore : ∀ j base, lastSeen (Pool.trace ps.log j) = some base → TrueCopy w base := by
            intro j base hseen
            have hnewer := World.newer_of_respond hr base.key
            exact (ih.seen j base hseen).of_newer hnewer.1 hnewer.2
          refine ⟨fun x hx => ?_, World.keyStored_of_respond ih.keyed hr,
            World.bounded_of_respond ih.bounded hr, fun j base hseen => ?_⟩
          · rcases List.mem_append.mp hx with hx | hx
            · exact ih.faithful x hx
            · obtain rfl := List.mem_singleton.mp hx
              exact hfaithful
          · by_cases hj : j = i
            · subst hj
              rw [Pool.afterAct, Pool.trace_append_self, lastSeen_append] at hseen
              rcases Option.or_eq_some_iff.mp hseen with hnew | ⟨-, hold⟩
              · exact trueCopy_of_respond ih.keyed ih.bounded hr
                  ((Option.or_none ..).symm.trans hnew)
              · exact hbefore j base hold
            · rw [Pool.afterAct, Pool.trace_append_of_ne _ _ hj] at hseen
              exact hbefore j base hseen
      | spawn ent => exact ⟨ih.faithful, ih.keyed, ih.bounded, ih.seen⟩
      | drift hd =>
          refine ⟨ih.faithful, World.keyStored_of_drift ih.keyed hd, Drift.bounded hd, ?_⟩
          intro i base hseen
          have hnewer := World.newer_of_drift hd base.key
          exact (ih.seen i base hseen).of_newer hnewer.1 hnewer.2

end CsmOperator
