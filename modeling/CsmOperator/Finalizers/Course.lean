import CsmOperator.Controllers.UnderWay

/-!
# Finalizers in the course of a `Reconcile`

Between two answers of the API server, `Reconcile` works on a copy of the CR in memory. As far as the
finalizers are concerned the copy is what was read or stored last, until it is stored with other ones.
This happens at two stages: the CSM finalizer is added before anything is installed, and it is removed
when the cleanup of a deleted CR is through. Both times the list is replaced as a whole.
-/

namespace CsmOperator

open Interaction

variable {rt : Runtime} {key : NamespacedName} {csm cr : ContainerStorageModule}
  {tr : List (Event Api)}

/-! ## The copy in memory -/

/-- The CR a call has left in memory. -/
def seenCR : Event Api → Option ContainerStorageModule
  | ⟨.getCSM _, .ok cr⟩ => some cr
  | ⟨.updateCSM _, .ok cr⟩ => some cr
  | _ => none

/-- The CR that was read or stored last. -/
def lastSeen (tr : List (Event Api)) : Option ContainerStorageModule :=
  tr.foldl (fun seen e => (seenCR e).or seen) none

theorem lastSeen_append (tr tr' : List (Event Api)) :
    lastSeen (tr ++ tr') = (lastSeen tr').or (lastSeen tr) := by
  have hfold : ∀ (tr : List (Event Api)) seen,
      tr.foldl (fun seen e => (seenCR e).or seen) seen = (lastSeen tr).or seen := by
    intro tr
    induction tr with
    | nil => exact fun _ => rfl
    | cons e tr ih =>
        intro seen
        rw [lastSeen, List.foldl_cons, List.foldl_cons, ih, ih, Option.or_none, Option.or_assoc]
  rw [lastSeen, List.foldl_append]
  exact hfold _ _

theorem lastSeen_cons (e : Event Api) (tr : List (Event Api)) :
    lastSeen (e :: tr) = (lastSeen tr).or (seenCR e) := by
  rw [← List.singleton_append, lastSeen_append]
  exact congrArg _ (Option.or_none ..)

theorem seenCR_of_inert {e : Event Api} (h : Inert e.req) : seenCR e = none := by
  unfold seenCR
  split
  · exact h.elim
  · exact h.elim
  · rfl

theorem lastSeen_eq_none (h : ∀ e ∈ tr, seenCR e = none) : lastSeen tr = none := by
  induction tr with
  | nil => rfl
  | cons e tr ih =>
      rw [List.forall_mem_cons] at h
      rw [lastSeen_cons, ih h.2, h.1]
      rfl

/-- The part of a CR that decides about its finalizers and its updates. -/
structure SameMeta (a b : ContainerStorageModule) : Prop where
  key_eq : a.key = b.key
  resourceVersion_eq : a.resourceVersion = b.resourceVersion
  finalizers_eq : a.finalizers = b.finalizers
  deletionTimestamp_eq : a.deletionTimestamp = b.deletionTimestamp

theorem SameMeta.refl (cr : ContainerStorageModule) : SameMeta cr cr := ⟨rfl, rfl, rfl, rfl⟩

theorem SameMeta.hasFinalizer_eq {a b : ContainerStorageModule} (h : SameMeta a b) (name : String) :
    a.hasFinalizer name = b.hasFinalizer name := by
  rw [ContainerStorageModule.hasFinalizer, ContainerStorageModule.hasFinalizer, h.finalizers_eq]

theorem SameMeta.isBeingDeleted_eq {a b : ContainerStorageModule} (h : SameMeta a b) :
    a.isBeingDeleted = b.isBeingDeleted := by
  rw [ContainerStorageModule.isBeingDeleted, ContainerStorageModule.isBeingDeleted,
    h.deletionTimestamp_eq]

/-- The copy in memory is of the CR, and is as that was read or stored last. -/
structure Mirrors (key : NamespacedName) (csm : ContainerStorageModule) (tr : List (Event Api)) :
    Prop where
  key_eq : csm.key = key
  seen : ∃ base, lastSeen tr = some base ∧ SameMeta base csm

theorem Mirrors.append {tr' : List (Event Api)} (h : Mirrors key csm tr)
    (hunseen : ∀ e ∈ tr', seenCR e = none) : Mirrors key csm (tr ++ tr') := by
  obtain ⟨base, hbase, hsame⟩ := h.seen
  refine ⟨h.key_eq, base, ?_, hsame⟩
  rw [lastSeen_append, lastSeen_eq_none hunseen, Option.none_or, hbase]

theorem Mirrors.congr {csm' : ContainerStorageModule} (h : Mirrors key csm tr)
    (hsame : SameMeta csm csm') : Mirrors key csm' tr := by
  obtain ⟨base, hbase, hbase'⟩ := h.seen
  refine ⟨hsame.key_eq.symm.trans h.key_eq, base, hbase, ?_⟩
  exact ⟨hbase'.key_eq.trans hsame.key_eq, hbase'.resourceVersion_eq.trans hsame.resourceVersion_eq,
    hbase'.finalizers_eq.trans hsame.finalizers_eq,
    hbase'.deletionTimestamp_eq.trans hsame.deletionTimestamp_eq⟩

/-- What the API server answers about a CR: a read is of the CR asked for, and an update is taken over.
That a CR is being deleted can only be known from a read. -/
def Faithful : Event Api → Prop
  | ⟨.getCSM key, .ok cr⟩ => cr.key = key
  | ⟨.updateCSM cr, .ok cr'⟩ => cr'.key = cr.key ∧ cr'.finalizers = cr.finalizers ∧
      cr'.deletionTimestamp = cr.deletionTimestamp
  | _ => True

/-- After an update, the reply is what is in memory. -/
theorem Mirrors.update {cr' : ContainerStorageModule} (hkey : cr.key = key)
    (hfaithful : Faithful ⟨.updateCSM cr, .ok cr'⟩) :
    Mirrors key cr' (tr ++ [⟨.updateCSM cr, .ok cr'⟩]) := by
  refine ⟨hfaithful.1.trans hkey, cr', ?_, .refl _⟩
  rw [lastSeen_append]
  rfl

/-! ## From stage to stage -/

theorem mirrors_of_checked (h : Checked rt key tr csm) (hfaithful : ∀ e ∈ tr, Faithful e) :
    Mirrors key csm tr := by
  cases h with
  | @intro csm cr tr hprepare hchecks =>
      have hread : csm.key = key := hfaithful _ List.mem_cons_self
      have hfirst : Mirrors key csm [⟨.getCSM key, .ok csm⟩] := ⟨hread, csm, rfl, .refl _⟩
      have hsame : SameMeta csm (afterDriverPrecheck cr) := by
        obtain ⟨spec, hcr⟩ := prepare_eq hprepare
        obtain ⟨spec', hcr'⟩ := afterDriverPrecheck_eq cr
        rw [hcr', hcr]
        exact ⟨rfl, rfl, rfl, rfl⟩
      refine (hfirst.append fun e he => ?_).congr hsame
      exact seenCR_of_inert (((quiet_preChecks rt cr).of_run hchecks).1 e he).inert

/-- Once the finalizer is ensured, the copy in memory has it. -/
theorem mirrors_ensureFinalizer {tr₁ : List (Event Api)} {csm₁ : ContainerStorageModule}
    (h : Mirrors key csm tr) (hrun : Run (ensureFinalizer csm) tr₁ (.ok csm₁))
    (hfaithful : ∀ e ∈ tr₁, Faithful e) :
    Mirrors key csm₁ (tr ++ tr₁) ∧ csm₁.hasFinalizer csmFinalizerName = true ∧
      csm₁.isBeingDeleted = csm.isBeingDeleted := by
  unfold ensureFinalizer at hrun
  split at hrun
  next hfinalizer =>
    obtain ⟨rfl, heq⟩ := Run.ret_iff.mp hrun
    cases heq
    rw [List.append_nil]
    exact ⟨h, hfinalizer, rfl⟩
  next =>
    obtain ⟨tr₂, tr₃, r, rfl, hadd, hrest⟩ := Run.bind_iff.mp hrun
    obtain ⟨r', tr', rfl, hret⟩ := Run.call_iff.mp hadd
    obtain ⟨rfl, rfl⟩ := Run.ret_iff.mp hret
    match r with
    | .error e =>
        dsimp only at hrest
        rw [map_eq_pure_bind] at hrest
        obtain ⟨_, _, _, -, -, hret⟩ := Run.bind_iff.mp hrest
        cases (Run.ret_iff.mp hret).2
    | .ok csm' =>
        obtain ⟨tr₄, tr₅, _, rfl, hevent, hret⟩ := Run.bind_iff.mp hrest
        obtain ⟨rfl, heq⟩ := Run.ret_iff.mp hret
        cases heq
        obtain ⟨_, _, rfl, hret⟩ := Run.call_iff.mp hevent
        obtain ⟨rfl, -⟩ := Run.ret_iff.mp hret
        have hreply := hfaithful _ List.mem_cons_self
        refine ⟨?_, ?_, ?_⟩
        · rw [← List.append_assoc]
          refine (Mirrors.update (by exact h.key_eq) hreply).append fun e he => ?_
          obtain rfl := List.mem_singleton.mp he
          rfl
        · rw [ContainerStorageModule.hasFinalizer, hreply.2.1]
          exact List.any_eq_true.mpr ⟨csmFinalizerName, List.mem_singleton_self _, by decide⟩
        · rw [ContainerStorageModule.isBeingDeleted, hreply.2.2]
          rfl

theorem mirrors_recordVersion {op : OperatorConfig} {tr₁ : List (Event Api)}
    {csm₁ : ContainerStorageModule} (h : Mirrors key csm tr)
    (hrun : Run (recordVersion op csm) tr₁ (.ok csm₁)) (hfaithful : ∀ e ∈ tr₁, Faithful e) :
    Mirrors key csm₁ (tr ++ tr₁) ∧
      csm₁.hasFinalizer csmFinalizerName = csm.hasFinalizer csmFinalizerName ∧
      csm₁.isBeingDeleted = csm.isBeingDeleted := by
  obtain ⟨annotations, hann⟩ := applyConfigVersionAnnotations_fst op csm
  unfold recordVersion at hrun
  split at hrun
  next csm' heq =>
    rw [heq] at hann
    obtain rfl : csm' = { csm with annotations } := hann
    obtain ⟨rfl, heq⟩ := Run.ret_iff.mp hrun
    cases heq
    rw [List.append_nil]
    exact ⟨h.congr ⟨rfl, rfl, rfl, rfl⟩, rfl, rfl⟩
  next csm' heq =>
    rw [heq] at hann
    obtain rfl : csm' = { csm with annotations } := hann
    obtain ⟨r, tr', rfl, hret⟩ := Run.call_iff.mp hrun
    obtain ⟨rfl, rfl⟩ := Run.ret_iff.mp hret
    have hreply := hfaithful _ List.mem_cons_self
    refine ⟨.update (by exact h.key_eq) hreply, ?_, ?_⟩
    · rw [ContainerStorageModule.hasFinalizer, hreply.2.1]
      rfl
    · rw [ContainerStorageModule.isBeingDeleted, hreply.2.2]
      rfl

theorem mirrors_handleSuccess {tr₁ : List (Event Api)} {csm₁ : ContainerStorageModule}
    {requeue : Result} (h : Mirrors key csm tr)
    (hrun : Run (handleSuccess rt csm) tr₁ (csm₁, requeue)) :
    Mirrors key csm₁ (tr ++ tr₁) ∧ SameMeta csm csm₁ := by
  obtain ⟨htr, st, hst⟩ := judging_handleSuccess.of_run hrun
  have hsame : SameMeta csm csm₁ := by
    obtain rfl : csm₁ = csm.withStatus st := hst
    exact ⟨rfl, rfl, rfl, rfl⟩
  refine ⟨(h.append fun e he => ?_).congr hsame, hsame⟩
  have hjudging := htr e he
  unfold seenCR
  split
  · exact hjudging.elim
  · exact hjudging.elim
  · rfl

/-! ## The marked requests -/

/-- How an update treats the finalizers of the CR it is based on. -/
inductive FinalizerWrite (rt : Runtime) (key : NamespacedName) (tr : List (Event Api))
    (base cr : ContainerStorageModule) : Prop
  | kept (hfinalizers : cr.finalizers = base.finalizers)
      (hfinalizer : base.hasFinalizer csmFinalizerName = true)
      (hdeleting : base.isBeingDeleted = false)
  | added (hfinalizers : cr.finalizers = [csmFinalizerName])
      (hfinalizer : base.hasFinalizer csmFinalizerName = false)
      (hdeleting : base.isBeingDeleted = false)
  | removed (hfinalizers : cr.finalizers = [])
      (hfinalizer : base.hasFinalizer csmFinalizerName = true)
      (hdeleting : base.isBeingDeleted = true)
      (hcleaned : ∃ csm tr₀ tr₁, tr = tr₀ ++ tr₁ ∧ Checked rt key tr₀ csm ∧
        csm.isBeingDeleted = true ∧ Run (removeContent csm) tr₁ none)

/-- The CR a sync is called with: it has the finalizer and is not being deleted. -/
theorem mirrors_of_sync {csm₁ csm₂ csm₃ : ContainerStorageModule} {requeue : Result}
    {tr₀ tr₁ tr₂ tr₃ : List (Event Api)} (hchecked : Checked rt key tr₀ csm)
    (hdeleting : csm.isBeingDeleted = false) (hensured : Run (ensureFinalizer csm) tr₁ (.ok csm₁))
    (hversion : Run (recordVersion rt.op csm₁) tr₂ (.ok csm₂))
    (hsuccess : Run (handleSuccess rt csm₂) tr₃ (csm₃, requeue))
    (hfaithful : ∀ e ∈ tr₀ ++ tr₁ ++ tr₂, Faithful e) :
    Mirrors key csm₃ (tr₀ ++ tr₁ ++ tr₂ ++ tr₃) ∧ csm₃.hasFinalizer csmFinalizerName = true ∧
      csm₃.isBeingDeleted = false := by
  rw [List.forall_mem_append, List.forall_mem_append] at hfaithful
  obtain ⟨⟨hfaithful₀, hfaithful₁⟩, hfaithful₂⟩ := hfaithful
  have h₀ := mirrors_of_checked hchecked hfaithful₀
  obtain ⟨h₁, hfinalizer₁, hdeleting₁⟩ := mirrors_ensureFinalizer h₀ hensured hfaithful₁
  obtain ⟨h₂, hfinalizer₂, hdeleting₂⟩ := mirrors_recordVersion h₁ hversion hfaithful₂
  obtain ⟨h₃, hsame⟩ := mirrors_handleSuccess h₂ hsuccess
  refine ⟨h₃, ?_, ?_⟩
  · rw [← hsame.hasFinalizer_eq, hfinalizer₂, hfinalizer₁]
  · rw [← hsame.isBeingDeleted_eq, hdeleting₂, hdeleting₁, hdeleting]

/-- An update by a `Reconcile` of `key` after `tr`. -/
structure SoundUpdate (rt : Runtime) (key : NamespacedName) (tr : List (Event Api))
    (base cr : ContainerStorageModule) : Prop where
  seen : lastSeen tr = some base
  base_key : base.key = key
  key_eq : cr.key = key
  resourceVersion_eq : base.resourceVersion = cr.resourceVersion
  deletionTimestamp_eq : base.deletionTimestamp = cr.deletionTimestamp
  write : FinalizerWrite rt key tr base cr

/-- An update of the copy in memory, but for its finalizers. -/
theorem Mirrors.sound (h : Mirrors key csm tr) (hkey : cr.key = csm.key)
    (hversion : cr.resourceVersion = csm.resourceVersion)
    (hdeletion : cr.deletionTimestamp = csm.deletionTimestamp)
    (hwrite : ∀ base, SameMeta base csm → FinalizerWrite rt key tr base cr) :
    ∃ base, SoundUpdate rt key tr base cr := by
  obtain ⟨base, hseen, hsame⟩ := h.seen
  exact ⟨base, hseen, hsame.key_eq.trans h.key_eq, hkey.trans h.key_eq,
    hsame.resourceVersion_eq.trans hversion.symm, hsame.deletionTimestamp_eq.trans hdeletion.symm,
    hwrite base hsame⟩

/-- **The updates of a `Reconcile`** are of its CR, based on what was seen of it last, and keep, add or
remove the CSM finalizer as the CR seen last demands. -/
theorem soundUpdate_of_pending (hq : Pending (reconcile rt key) tr (.updateCSM cr))
    (hfaithful : ∀ e ∈ tr, Faithful e) : ∃ base, SoundUpdate rt key tr base cr := by
  generalize hreq : Request.updateCSM cr = q at hq
  have hmarked : Marked q := hreq ▸ trivial
  cases stage_of_pending hq hmarked with
  | @removeFinalizer csm tr₀ tr₁ hchecked hdeleting hcontent hfinalizer =>
      cases hreq
      rw [List.forall_mem_append] at hfaithful
      have hmemory : Mirrors key csm (tr₀ ++ tr₁) := by
        refine (mirrors_of_checked hchecked hfaithful.1).append fun e he => ?_
        have hcalm := ((calm_removeContent csm).of_run hcontent).1 e he
        unfold seenCR
        split
        · exact hcalm.elim
        · exact hcalm.elim
        · rfl
      refine hmemory.sound rfl rfl rfl fun base hsame => ?_
      exact .removed rfl ((hsame.hasFinalizer_eq _).trans hfinalizer)
        (hsame.isBeingDeleted_eq.trans hdeleting) ⟨csm, tr₀, tr₁, rfl, hchecked, hdeleting, hcontent⟩
  | @addFinalizer csm _ hchecked hdeleting hfinalizer =>
      cases hreq
      refine (mirrors_of_checked hchecked hfaithful).sound rfl rfl rfl fun base hsame => ?_
      exact .added rfl ((hsame.hasFinalizer_eq _).trans hfinalizer)
        (hsame.isBeingDeleted_eq.trans hdeleting)
  | @recordVersion csm csm₁ csm₂ tr₀ tr₁ hchecked hdeleting hensured heq =>
      cases hreq
      rw [List.forall_mem_append] at hfaithful
      obtain ⟨hmemory, hfinalizer, hdeleting'⟩ := mirrors_ensureFinalizer
        (mirrors_of_checked hchecked hfaithful.1) hensured hfaithful.2
      obtain ⟨annotations, hann⟩ := applyConfigVersionAnnotations_fst rt.op csm₁
      rw [heq] at hann
      obtain rfl : cr = { csm₁ with annotations } := hann
      refine hmemory.sound rfl rfl rfl fun base hsame => ?_
      exact .kept hsame.finalizers_eq.symm ((hsame.hasFinalizer_eq _).trans hfinalizer)
        (hsame.isBeingDeleted_eq.trans (hdeleting'.trans hdeleting))
  | @sync csm csm₁ csm₂ csm₃ requeue tr₀ tr₁ tr₂ tr₃ tr₄ _ hchecked hdeleting hensured hversion
      hsuccess hsync =>
      subst hreq
      simp only [← List.append_assoc] at hfaithful ⊢
      rw [List.forall_mem_append, List.forall_mem_append] at hfaithful
      obtain ⟨hmemory, hfinalizer, hdeleting⟩ :=
        mirrors_of_sync hchecked hdeleting hensured hversion hsuccess hfaithful.1.1
      obtain ⟨hinert, ⟨a, heq⟩ | ⟨annotations, out, heq⟩⟩ |
        ⟨_, _, _, _, _, a, _, _, _, heq⟩ := pending_syncCSM hsync trivial
      · cases heq
      · cases heq
        have hmemory' := hmemory.append fun e he => seenCR_of_inert (hinert e he)
        refine hmemory'.sound rfl rfl rfl fun base hsame => ?_
        exact .kept hsame.finalizers_eq.symm ((hsame.hasFinalizer_eq _).trans hfinalizer)
          (hsame.isBeingDeleted_eq.trans hdeleting)
      · cases heq

/-- **What a `Reconcile` installs** is for its CR, and the CR seen last has the finalizer. -/
theorem finalizer_of_pending {a : Action} (hq : Pending (reconcile rt key) tr (.action a csm))
    (ha : a.installs = true) (hfaithful : ∀ e ∈ tr, Faithful e) :
    csm.key = key ∧ ∃ base, lastSeen tr = some base ∧ base.key = key ∧
      base.hasFinalizer csmFinalizerName = true := by
  generalize hreq : Request.action a csm = q at hq
  have hmarked : Marked q := hreq ▸ ha
  cases stage_of_pending hq hmarked with
  | removeFinalizer => cases hreq
  | addFinalizer => cases hreq
  | recordVersion => cases hreq
  | @sync _ csm₁ csm₂ csm₃ requeue tr₀ tr₁ tr₂ tr₃ tr₄ _ hchecked hdeleting hensured hversion
      hsuccess hsync =>
      subst hreq
      simp only [← List.append_assoc] at hfaithful ⊢
      rw [List.forall_mem_append, List.forall_mem_append] at hfaithful
      obtain ⟨hmemory, hfinalizer, -⟩ :=
        mirrors_of_sync hchecked hdeleting hensured hversion hsuccess hfaithful.1.1
      obtain ⟨hinert, ⟨a', heq⟩ | ⟨annotations, out, heq⟩⟩ |
        ⟨tr₅, tr₆, annotations, out, cr, a', htr₅, htr₆, rfl, heq⟩ := pending_syncCSM hsync hmarked
      · cases heq
        have hmemory' := hmemory.append fun e he => seenCR_of_inert (hinert e he)
        obtain ⟨base, hseen, hsame⟩ := hmemory'.seen
        exact ⟨hmemory.key_eq, base, hseen, hsame.key_eq.trans hmemory.key_eq,
          (hsame.hasFinalizer_eq _).trans hfinalizer⟩
      · cases heq
      · cases heq
        have hreply := hfaithful.2 _ (List.mem_append_right _ List.mem_cons_self)
        refine ⟨hreply.1.trans hmemory.key_eq, csm, ?_, hreply.1.trans hmemory.key_eq, ?_⟩
        · rw [lastSeen_append, lastSeen_append, lastSeen_cons,
            lastSeen_eq_none fun e he => seenCR_of_inert (htr₆ e he)]
          rfl
        · rw [ContainerStorageModule.hasFinalizer, hreply.2.1]
          exact hfinalizer

end CsmOperator
