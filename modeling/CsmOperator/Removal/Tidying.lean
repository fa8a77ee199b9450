import CsmOperator.Removal.Observability
import CsmOperator.World.Threads
import Mathlib.Data.Set.Basic

/-!
# What a sync tidies up

Replication and Observability have objects of their own, besides those of the driver. When one of them is
turned off, `oldStandAloneModuleCleanup` removes the objects it has: it compares the CR with the one that was
recorded in the annotation of the last sync, removes what is in the one and not in the other, and records the
CR before anything else is installed.

The objects are followed in an inventory of what was created and removed for a CR. A monitor says in which order
a thread creates, removes and records, and every thread keeps to it.
-/

namespace CsmOperator

open Go Interaction

/-! ## Parts and their objects -/

/-- What is installed and removed by a call of its own. -/
inductive ModulePart where
  | replicationCRDs
  /-- with its ConfigMap, in a Namespace that is removed with it -/
  | replicationController
  /-- of Observability -/
  | component (name : String)
  deriving DecidableEq, Repr

def PartEnabled (cr : ContainerStorageModule) : ModulePart → Prop
  | .replicationCRDs | .replicationController => (isModuleEnabled cr .replication).isSome = true
  | .component name => ComponentEnabled cr name

/-- The parts that an action creates objects of. -/
def Action.creates (cr : ContainerStorageModule) : Action → ModulePart → Prop
  | .reconcileReplicationCRDS, p => p = .replicationCRDs
  | .replicationManagerController false, p | .createReplicationConfigmap, p => p = .replicationController
  | .reconcileObservability false _, p => ∃ name, p = .component name ∧ ComponentEnabled cr name
  | _, _ => False

/-- The parts whose objects are gone when an action has returned nil. -/
def Action.removes (cr : ContainerStorageModule) : Action → ModulePart → Prop
  | .deleteReplicationCrds, p => p = .replicationCRDs
  | .replicationManagerController true, p => p = .replicationController
  | .reconcileObservability true components, p =>
    ∃ name, p = .component name ∧ (name ∈ components ∨ components = [] ∧ ComponentEnabled cr name)
  | _, _ => False

theorem Action.not_creates {a : Action} {cr : ContainerStorageModule} {p : ModulePart}
    (h : a.installs = false) : ¬a.creates cr p := by
  cases a with
  | replicationManagerController isDeleting => cases isDeleting <;> simp_all [installs, creates]
  | reconcileObservability isDeleting components => cases isDeleting <;> simp_all [installs, creates]
  | _ => simp_all [installs, creates]

/-- For each part the objects of a configuration. -/
abbrev Manifest := NamespacedName → ContainerStorageModuleSpec → ModulePart → Set ObjectRef

section Inventory

variable (manifest : Manifest) (key : NamespacedName)

def Manifest.of (cr : ContainerStorageModule) (p : ModulePart) : Set ObjectRef := manifest cr.key cr.spec p

/-- The object is one of a part that the CR enables. -/
def BelongsTo (cr : ContainerStorageModule) (x : ModulePart × ObjectRef) : Prop :=
  PartEnabled cr x.1 ∧ x.2 ∈ manifest.of cr x.1

def created (a : Action) (cr : ContainerStorageModule) : Set (ModulePart × ObjectRef) :=
  { x | a.creates cr x.1 ∧ x.2 ∈ manifest.of cr x.1 }

def removed (a : Action) (cr : ContainerStorageModule) : Set (ModulePart × ObjectRef) :=
  { x | a.removes cr x.1 ∧ x.2 ∈ manifest.of cr x.1 }

/-- The objects that may be there after a call for the CR: an action that fails may have created some of its
objects, and may not have removed any. -/
def afterEvent (there : Set (ModulePart × ObjectRef)) : Event Api → Set (ModulePart × ObjectRef)
  | ⟨.action a cr, none⟩ => if cr.key = key then (there ∪ created manifest a cr) \ removed manifest a cr else there
  | ⟨.action a cr, some _⟩ => if cr.key = key then there ∪ created manifest a cr else there
  | _ => there

/-- The objects that may be there after a run. -/
@[irreducible] def inventory (log : List (Nat × Event Api)) : Set (ModulePart × ObjectRef) :=
  log.foldl (fun there x => afterEvent manifest key there x.2) ∅

variable {manifest key} {log : List (Nat × Event Api)} {i : Nat} {x : ModulePart × ObjectRef}

theorem inventory_nil : inventory manifest key [] = ∅ := by
  rw [inventory]
  rfl

theorem inventory_append (e : Event Api) :
    inventory manifest key (log ++ [(i, e)]) = afterEvent manifest key (inventory manifest key log) e := by
  rw [inventory, inventory, List.foldl_append]
  rfl

theorem inventory_other {q : Request} {r : q.Answer} (hq : ∀ a cr, q ≠ .action a cr) :
    inventory manifest key (log ++ [(i, ⟨q, r⟩)]) = inventory manifest key log := by
  rw [inventory_append]
  cases q with
  | action a cr => exact absurd rfl (hq a cr)
  | _ => rfl

/-- What is new was created for the CR. -/
theorem mem_inventory_action {a : Action} {cr : ContainerStorageModule} {r : Option GoError}
    (h : x ∈ inventory manifest key (log ++ [(i, (⟨.action a cr, r⟩ : Event Api))])) :
    x ∈ inventory manifest key log ∨ cr.key = key ∧ a.creates cr x.1 ∧ x.2 ∈ manifest.of cr x.1 := by
  rw [inventory_append] at h
  cases r with
  | none =>
      by_cases hkey : cr.key = key
      · simp only [afterEvent, if_pos hkey] at h
        rcases h.1 with hold | hnew
        · exact .inl hold
        · exact .inr ⟨hkey, hnew⟩
      · simp only [afterEvent, if_neg hkey] at h
        exact .inl h
  | some e =>
      by_cases hkey : cr.key = key
      · simp only [afterEvent, if_pos hkey] at h
        rcases h with hold | hnew
        · exact .inl hold
        · exact .inr ⟨hkey, hnew⟩
      · simp only [afterEvent, if_neg hkey] at h
        exact .inl h

theorem not_mem_inventory_removed {a : Action} {cr : ContainerStorageModule} (hkey : cr.key = key)
    (hremoves : a.removes cr x.1) (hx : x.2 ∈ manifest.of cr x.1) :
    x ∉ inventory manifest key (log ++ [(i, (⟨.action a cr, none⟩ : Event Api))]) := by
  intro h
  rw [inventory_append] at h
  simp only [afterEvent, if_pos hkey] at h
  exact h.2 ⟨hremoves, hx⟩

end Inventory

/-! ## The record -/

/-- The configuration in the annotation. -/
def recordedIn (rt : Runtime) (applied : Option String) : Option ContainerStorageModule :=
  if applied.getD "" = "" then none else (rt.jsonUnmarshal (applied.getD "")).toOption

/-- The annotation of the CR is its own configuration. -/
def Records (rt : Runtime) (cr : ContainerStorageModule) : Prop :=
  ∃ csm out, rt.jsonMarshal (recordedCR csm) = .ok out ∧ csm.key = cr.key ∧ csm.spec = cr.spec ∧
    cr.lookup previouslyApplied = some out

/-- The first Replication entry is the one that counts, as it does for `replicaEnabled`. -/
def FirstDecides (cr : ContainerStorageModule) : Prop :=
  replicaEnabled cr = (isModuleEnabled cr .replication).isSome

theorem partEnabled_congr {a b : ContainerStorageModule} (h : a.spec = b.spec) (p : ModulePart) :
    PartEnabled a p ↔ PartEnabled b p := by
  cases p <;> simp only [PartEnabled, ComponentEnabled, isModuleEnabled, h]

theorem belongsTo_congr {manifest : Manifest} {a b : ContainerStorageModule} (hkey : a.key = b.key)
    (hspec : a.spec = b.spec) (x : ModulePart × ObjectRef) : BelongsTo manifest a x ↔ BelongsTo manifest b x := by
  unfold BelongsTo Manifest.of
  rw [partEnabled_congr hspec, hkey, hspec]

/-! ## What a reconcile has removed -/

/-- A reconcile, the record of the CR it has read or stored last, and what it has done about it since. -/
structure Tidying where
  key : Option NamespacedName
  seen : Option (Option String) := none
  /-- parts of the recorded configuration that are removed -/
  removed : ModulePart → Prop := fun _ => False
  /-- a removal of the CRDs has failed; the error is only logged -/
  crdsKept : Prop := False
  /-- the configuration that this reconcile has recorded -/
  applied : ContainerStorageModule → Prop := fun _ => False

namespace Tidying

/-- What was recorded and is not wanted any more is removed. -/
def CleanedFor (rt : Runtime) (l : Tidying) (applied : Option String) (cr : ContainerStorageModule) : Prop :=
  ∀ old, recordedIn rt applied = some old → FirstDecides old → FirstDecides cr → ∀ p, PartEnabled old p →
    PartEnabled cr p ∨ l.removed p ∨ p = .replicationCRDs ∧ l.crdsKept

def Allows (rt : Runtime) (l : Tidying) : Request → Prop
  | .updateCSM cr =>
    l.key = some cr.key ∧ ∃ a, l.seen = some a ∧
      (cr.lookup previouslyApplied = a ∨ Records rt cr ∧ l.CleanedFor rt a cr)
  | .action a cr =>
    ∀ p, a.creates cr p → l.key = some cr.key ∧ PartEnabled cr p ∧
      (p = .replicationCRDs ∧ (∀ csm, l.applied csm → csm.key = cr.key ∧ csm.spec = cr.spec) ∨ l.applied cr)
  | .note (.synced csm none) => SyncedEarly csm ∨ l.key = some csm.key ∧ l.applied csm
  | _ => True

def Expects : (q : Request) → q.Answer → Prop
  | .getCSM key, .ok cr => cr.key = key
  | .updateCSM cr, .ok cr' => cr'.key = cr.key ∧ cr'.spec = cr.spec ∧ cr'.annotations = cr.annotations
  | _, _ => True

/-- After an action: what it creates is not removed any more; what it removes is, if it was called with the
recorded configuration. -/
def act (rt : Runtime) (l : Tidying) (a : Action) (cr : ContainerStorageModule) (err : Option GoError) : Tidying :=
  { l with
    removed := fun p => ¬a.creates cr p ∧
      (l.removed p ∨ err = none ∧ a.removes cr p ∧ ∃ s, l.seen = some s ∧ recordedIn rt s = some cr)
    crdsKept := l.crdsKept ∨ a = .deleteReplicationCrds ∧ err ≠ none }

/-- After the CR was read or stored. -/
def see (l : Tidying) (cr : ContainerStorageModule) (applied : ContainerStorageModule → Prop) : Tidying :=
  { l with seen := some (cr.lookup previouslyApplied), removed := fun _ => False, applied }

def follow (rt : Runtime) (l : Tidying) : (q : Request) → q.Answer → Tidying
  | .getCSM key, .ok cr => if l.key = some key then l.see cr fun _ => False else l
  | .updateCSM cr, .ok _ => l.see cr fun csm => Records rt cr ∧ csm.key = cr.key ∧ csm.spec = cr.spec
  | .action a cr, err => l.act rt a cr err
  | _, _ => l

end Tidying

def tidying (rt : Runtime) : Monitor Api Tidying where
  guard := Tidying.Allows rt
  assume _ := Tidying.Expects
  next := Tidying.follow rt

variable {rt : Runtime} {key : NamespacedName} {csm : ContainerStorageModule} {l l' : Tidying}

theorem Tidying.key_follow (q : Request) (r : q.Answer) : (l.follow rt q r).key = l.key := by
  unfold Tidying.follow
  split
  · split <;> rfl
  · rfl
  · rfl
  · rfl

/-! ### Requests of no consequence -/

/-- Everything but updates of the CR, the return of `SyncCSM` and installations. -/
def Harmless : Request → Prop
  | .updateCSM _ | .note (.synced _ _) => False
  | .action a _ => a.installs = false
  | _ => True

theorem tidying_harmless : (tidying rt).Frames (fun l l' => l'.key = l.key) Harmless where
  refl _ := rfl
  trans _ _ _ h h' := h'.trans h
  tolerates l q hq := by
    refine ⟨?_, fun r _ => Tidying.key_follow q r⟩
    cases q with
    | updateCSM cr => exact hq.elim
    | action a cr => exact fun p hp => (Action.not_creates hq hp).elim
    | note n => cases n <;> first | exact hq.elim | trivial
    | _ => trivial

theorem Watching.harmless {q : Request} (h : Watching q) : Harmless q := by
  cases q <;> first | exact h.elim | trivial

theorem StatusWork.harmless {q : Request} (h : StatusWork q) : Harmless q := by
  cases q with
  | note n => cases n <;> first | exact h.elim | trivial
  | _ => first | exact h.elim | trivial

/-- The record that the reconcile knows of, and whether it is its own. -/
def SameRecord (l l' : Tidying) : Prop := l'.key = l.key ∧ l'.seen = l.seen ∧ l'.applied = l.applied

theorem tidying_calm : (tidying rt).Frames SameRecord Calm where
  refl _ := ⟨rfl, rfl, rfl⟩
  trans _ _ _ h h' := ⟨h'.1.trans h.1, h'.2.1.trans h.2.1, h'.2.2.trans h.2.2⟩
  tolerates l q hq := by
    refine ⟨?_, fun r _ => ?_⟩
    · cases q with
      | action a cr => exact fun p hp => (Action.not_creates hq hp).elim
      | _ => first | exact hq.elim | trivial
    · cases q with
      | action a cr => exact ⟨rfl, rfl, rfl⟩
      | _ => first | exact hq.elim | exact ⟨rfl, rfl, rfl⟩

theorem tidying_judging : (tidying rt).Frames (fun l l' => l' = l) Judging where
  refl _ := rfl
  trans _ _ _ h h' := h'.trans h
  tolerates l q hq := by
    refine ⟨?_, fun r _ => ?_⟩
    · cases q with
      | note n => cases n <;> first | exact hq.elim | trivial
      | _ => first | exact hq.elim | trivial
    · cases q <;> first | exact hq.elim | rfl

/-! ### The steps of a reconcile -/

/-- A reconcile of the key that has the record of its CR in memory. If it has recorded something, it was what
the CR says. -/
structure Knows (key : NamespacedName) (csm : ContainerStorageModule) (l : Tidying) : Prop where
  key_eq : csm.key = key
  thread : l.key = some key
  seen : l.seen = some (csm.lookup previouslyApplied)
  applied : ∀ cr, l.applied cr → cr.key = csm.key ∧ cr.spec = csm.spec

theorem Knows.sameRecord (h : Knows key csm l) (hl : SameRecord l l') : Knows key csm l' where
  key_eq := h.key_eq
  thread := hl.1.trans h.thread
  seen := hl.2.1.trans h.seen
  applied cr hcr := h.applied cr (hl.2.2 ▸ hcr)

/-- An update of the CR, with the annotation as it was or with a new record. -/
theorem tidying_updateCSM {cr : ContainerStorageModule} (h : Knows key csm l) (hkey : cr.key = key)
    (hlookup : cr.lookup previouslyApplied = csm.lookup previouslyApplied ∨
      Records rt cr ∧ l.CleanedFor rt (csm.lookup previouslyApplied) cr) :
    (tidying rt).Obeys (updateCSM cr) l
      (Reply (fun cr' l' => cr'.key = cr.key ∧ cr'.spec = cr.spec ∧ cr'.annotations = cr.annotations ∧
          l'.key = some key ∧ l'.seen = some (cr.lookup previouslyApplied) ∧
          ∀ csm, l'.applied csm ↔ Records rt cr ∧ csm.key = cr.key ∧ csm.spec = cr.spec)
        fun _ => True) := by
  refine Monitor.Obeys.call_iff.mpr ⟨⟨h.thread.trans (congrArg some hkey.symm), _, h.seen, hlookup⟩, fun r hr => ?_⟩
  refine Monitor.Obeys.ret_iff.mpr ?_
  match r with
  | .error e => trivial
  | .ok cr' =>
      obtain ⟨hkey', hspec, hann⟩ :
        cr'.key = cr.key ∧ cr'.spec = cr.spec ∧ cr'.annotations = cr.annotations := hr
      exact ⟨hkey', hspec, hann, h.thread, rfl, fun csm => Iff.rfl⟩

/-- An update that leaves the record alone. -/
theorem tidying_updateCSM_same {cr : ContainerStorageModule} (h : Knows key csm l) (hkey : cr.key = key)
    (hlookup : cr.lookup previouslyApplied = csm.lookup previouslyApplied) :
    (tidying rt).Obeys (updateCSM cr) l (Reply (Knows key) fun _ => True) := by
  refine (tidying_updateCSM h hkey (.inl hlookup)).mono fun r l' hr => ?_
  cases r with
  | error e => trivial
  | ok cr' =>
      obtain ⟨hkey', hspec, hann, hlkey, hseen, happlied⟩ := hr
      refine ⟨hkey'.trans hkey, hlkey, hseen.trans ?_, fun csm hcsm => ?_⟩
      · rw [ContainerStorageModule.lookup, ContainerStorageModule.lookup, hann]
      · obtain ⟨-, hk, hs⟩ := (happlied csm).mp hcsm
        exact ⟨hk.trans hkey'.symm, hs.trans hspec.symm⟩

theorem lookup_applied_applyConfigVersionAnnotations (op : OperatorConfig) (csm : ContainerStorageModule) :
    (applyConfigVersionAnnotations op csm).1.lookup previouslyApplied = csm.lookup previouslyApplied := by
  have hcsm : previouslyApplied ≠ csmVersionKey := by decide
  have hconfig : previouslyApplied ≠ configVersionKey := by decide
  obtain ⟨-, hlookup, -⟩ | ⟨v, -, -, hlookup⟩ := applyConfigVersionAnnotations_cases op csm
  · rw [hlookup, if_neg hcsm]
  · rw [hlookup, if_neg hconfig, if_neg hcsm]

theorem tidying_recordVersion (h : Knows key csm l) :
    (tidying rt).Obeys (recordVersion rt.op csm) l (Reply (Knows key) fun _ => True) := by
  obtain ⟨annotations, hann⟩ := applyConfigVersionAnnotations_fst rt.op csm
  have hlookup := lookup_applied_applyConfigVersionAnnotations rt.op csm
  have hspec : (applyConfigVersionAnnotations rt.op csm).1.spec = csm.spec := by rw [hann]
  have hkey : (applyConfigVersionAnnotations rt.op csm).1.key = key := by
    rw [hann]
    exact h.key_eq
  unfold recordVersion
  split
  next csm' heq =>
    rw [heq] at hlookup hkey hspec
    refine Monitor.Obeys.pure_iff.mpr ⟨hkey, h.thread, h.seen.trans (congrArg some hlookup.symm), ?_⟩
    intro cr hcr
    obtain ⟨hk, hs⟩ := h.applied cr hcr
    exact ⟨hk.trans (h.key_eq.trans hkey.symm), hs.trans hspec.symm⟩
  next csm' heq =>
    rw [heq] at hlookup hkey
    exact tidying_updateCSM_same h hkey hlookup

/-! ### Installing -/

/-- Inert requests for the CR, which create objects of some of the parts it enables. -/
def InstallsOnly (cr : ContainerStorageModule) (S : ModulePart → Prop) : Request → Prop
  | .action a cr' => cr' = cr ∧ ∀ p, a.creates cr p → S p ∧ PartEnabled cr p
  | q => Inert q

theorem Asks.guarded_of {P : Request → Prop} {c : Bool} {ps : List (Op (Option GoError))}
    (h : c = true → ∀ p ∈ ps, Asks P (fun _ => True) p) : Asks P (fun _ => True) (CsmOperator.guarded c ps) := by
  cases c with
  | false => exact .pure trivial
  | true => exact .guarded (h rfl)

section

variable {cr : ContainerStorageModule} {S : ModulePart → Prop} {a : Action}

@[simp] theorem installsOnly_action {cr' : ContainerStorageModule} :
    InstallsOnly cr S (.action a cr') ↔ cr' = cr ∧ ∀ p, a.creates cr p → S p ∧ PartEnabled cr p := Iff.rfl

theorem installsOnly_of_not_creates (h : ∀ p, ¬a.creates cr p) : InstallsOnly cr S (.action a cr) :=
  ⟨rfl, fun p hp => (h p hp).elim⟩

theorem installsOnly_syncModules_end (cr : ContainerStorageModule) (standalone : Bool) :
    Asks (InstallsOnly cr (· = .replicationCRDs)) (fun x => x = .ok false → SyncedEarly cr) (do
      match ← firstError
          [guarded standalone [wrapAction "failed to deploy reverseproxy proxy server: "
              (.reconcileReverseProxyServer false) cr],
            guarded (isModuleEnabled cr .replication).isSome
              [wrapAction "failed to deploy replication CRDs: " .reconcileReplicationCRDS cr],
            guarded (cr.spec.driver.csiDriverType ≠ .unset) [act .getDriverConfig cr]] with
      | some e => pure (Except.error e)
      | none => pure (.ok (decide (cr.spec.driver.csiDriverType ≠ .unset)))) := by
  refine .bind (.firstError ?_) fun err => ?_
  · simp only [List.forall_mem_cons, List.not_mem_nil, false_imp_iff, implies_true, and_true]
    refine ⟨.guarded ?_, .guarded_of fun henabled => ?_, .guarded ?_⟩
    · simp [Asks.wrapAction, Action.creates]
    · have hcrds : InstallsOnly cr (· = .replicationCRDs) (.action .reconcileReplicationCRDS cr) := by
        refine ⟨rfl, fun p hp => ?_⟩
        obtain rfl : p = .replicationCRDs := hp
        exact ⟨rfl, henabled⟩
      simp [Asks.wrapAction, hcrds]
    · simp [Asks.act, Action.creates]
  · cases err with
    | some e => exact .pure nofun
    | none =>
        refine .pure fun h => .inr ?_
        simpa using Except.ok.inj h

theorem installsOnly_syncModules (cr : ContainerStorageModule) :
    Asks (InstallsOnly cr (· = .replicationCRDs)) (fun x => x = .ok false → SyncedEarly cr) (syncModules cr) := by
  refine .bind (.guarded (by simp [Asks.act, Action.creates])) fun err => ?_
  cases err with
  | some e => exact .pure nofun
  | none =>
      dsimp only
      split
      next hauth =>
        refine .bind (.firstError ?_) fun err => ?_
        · simp [Asks.wrapAction, Action.creates]
        · cases err with
          | some e => exact .pure nofun
          | none => exact .pure fun _ => .inl hauth
      next =>
        exact .ite (.bind (.isReverseProxySidecar trivial) fun _ => installsOnly_syncModules_end cr _)
          (installsOnly_syncModules_end cr _)

/-- The calls of `SyncCSM` that are not about a part. -/
theorem installsOnly_acts (as : List Action) (h : ∀ a ∈ as, ∀ p, ¬a.creates cr p) :
    Asks (InstallsOnly cr S) (fun _ => True) (firstError (as.map (act · cr))) := by
  refine .firstError fun p hp => ?_
  obtain ⟨a, ha, rfl⟩ := List.mem_map.mp hp
  exact .act (installsOnly_of_not_creates (h a ha))

theorem installsOnly_injectModule (cr : ContainerStorageModule) (m : Module) :
    Asks (InstallsOnly cr S) (fun _ => True) (injectModule cr m) := by
  unfold injectModule
  split
  · exact .firstError (by simp [Asks.wrapAction, Action.creates])
  · exact .firstError (by simp [Asks.wrapAction, Action.creates])
  · exact .firstError (by simp [Asks.wrapAction, Action.creates])
  · exact .pure trivial

theorem installsOnly_syncDriver (cr : ContainerStorageModule) :
    Asks (InstallsOnly cr fun _ => True) (fun _ => True) (syncDriver cr) := by
  refine .firstError ?_
  simp only [List.forall_mem_cons, List.not_mem_nil, false_imp_iff, implies_true, and_true]
  refine ⟨.ite (.bind (.isReverseProxySidecar trivial) fun _ => .guarded ?_) (.pure trivial), .wrapAction ?_,
    .firstError fun p hp => ?_, .ite (installsOnly_acts _ ?_) (.firstError ?_)⟩
  · simp [Asks.wrapAction, Action.creates]
  · exact installsOnly_of_not_creates fun p hp => hp
  · obtain ⟨m, -, rfl⟩ := List.mem_map.mp hp
    exact installsOnly_injectModule cr m
  · simp [cosiObjects, Action.creates]
  · simp only [List.forall_mem_cons, List.not_mem_nil, false_imp_iff, implies_true, and_true]
    refine ⟨installsOnly_acts _ ?_, .guarded ?_, .act (installsOnly_of_not_creates fun p hp => hp),
      .guarded_of fun henabled => ?_, .guarded_of fun _ => ?_, .guarded ?_⟩
    · simp [driverObjects, Action.creates]
    · simp [Asks.act, Action.creates]
    · have hpart {a : Action} (ha : ∀ p, a.creates cr p → p = .replicationController) :
          InstallsOnly cr (fun _ => True) (.action a cr) := by
        refine ⟨rfl, fun p hp => ⟨trivial, ?_⟩⟩
        rw [ha p hp]
        exact henabled
      simp only [List.forall_mem_cons, List.not_mem_nil, false_imp_iff, implies_true, and_true]
      exact ⟨.wrapAction (hpart fun p hp => hp), .wrapAction (hpart fun p hp => hp)⟩
    · have hpart : InstallsOnly cr (fun _ => True) (.action (.reconcileObservability false []) cr) := by
        refine ⟨rfl, fun p hp => ⟨trivial, ?_⟩⟩
        obtain ⟨name, rfl, hname⟩ := hp
        exact hname
      simp [Asks.act, hpart]
    · simp [Asks.act, Action.creates]

end

/-- What comes before the record. -/
theorem tidying_keeps_before :
    (tidying rt).Keeps (Knows key csm) (InstallsOnly csm (· = .replicationCRDs)) := by
  intro l q hl hq
  cases q with
  | action a cr =>
      obtain ⟨rfl, hparts⟩ := hq
      refine ⟨fun p hp => ⟨?_, (hparts p hp).2, .inl ⟨(hparts p hp).1, hl.applied⟩⟩, fun r _ => ?_⟩
      · rw [hl.key_eq]
        exact hl.thread
      · exact ⟨hl.key_eq, hl.thread, hl.seen, hl.applied⟩
  | _ => first | exact hq.elim | exact ⟨trivial, fun r _ => hl⟩

/-- What comes after it, for the CR as the server has answered it. -/
theorem tidying_keeps_after {cr : ContainerStorageModule} (hkey : cr.key = key) :
    (tidying rt).Keeps (fun l => l.key = some key ∧ l.applied cr ∧ l.applied csm)
      (InstallsOnly cr fun _ => True) := by
  intro l q hl hq
  cases q with
  | action a cr =>
      obtain ⟨rfl, hparts⟩ := hq
      refine ⟨fun p hp => ⟨?_, (hparts p hp).2, .inr hl.2.1⟩, fun r _ => hl⟩
      rw [hkey]
      exact hl.1
  | _ => first | exact hq.elim | exact ⟨trivial, fun r _ => hl⟩

/-! ### The cleanup -/

/-- An action that installs nothing can be called any time. -/
theorem tidying_act {a : Action} {cr : ContainerStorageModule} (h : a.installs = false) :
    (tidying rt).Obeys (act a cr) l fun err l' => l' = l.act rt a cr err :=
  Monitor.Obeys.call_iff.mpr ⟨fun _ hp => (Action.not_creates h hp).elim, fun _ _ => Monitor.Obeys.ret_iff.mpr rfl⟩

theorem Tidying.removed_act {a : Action} {cr : ContainerStorageModule} {err : Option GoError} {p : ModulePart}
    (h : a.installs = false) (hp : l.removed p) : (l.act rt a cr err).removed p :=
  ⟨Action.not_creates h, .inl hp⟩

theorem Tidying.removed_act_of_removes {a : Action} {cr : ContainerStorageModule} {p : ModulePart}
    {s : Option String} (h : a.installs = false) (hseen : l.seen = some s) (hrecorded : recordedIn rt s = some cr)
    (hp : a.removes cr p) : (l.act rt a cr none).removed p :=
  ⟨Action.not_creates h, .inr ⟨rfl, hp, s, hseen, hrecorded⟩⟩

theorem Knows.act {a : Action} {cr : ContainerStorageModule} {err : Option GoError} (h : Knows key csm l) :
    Knows key csm (l.act rt a cr err) := ⟨h.key_eq, h.thread, h.seen, h.applied⟩

section Cleanup

variable {old : ContainerStorageModule}

/-- Replication is removed if it was on and is not on any more. -/
theorem tidying_removeReplication (h : Knows key csm l)
    (hold : recordedIn rt (csm.lookup previouslyApplied) = some old) :
    (tidying rt).Obeys (guarded (replicaEnabled old && !replicaEnabled csm)
        [act (.replicationManagerController true) old, logError (act .deleteReplicationCrds old)]) l
      fun err l' => Knows key csm l' ∧ (err = none → FirstDecides old → FirstDecides csm →
        (isModuleEnabled old .replication).isSome = true →
        (isModuleEnabled csm .replication).isSome = true ∨
          l'.removed .replicationController ∧ (l'.removed .replicationCRDs ∨ l'.crdsKept)) := by
  unfold guarded
  split
  next hoff =>
    refine Monitor.Obeys.bind (tidying_act rfl) fun err l₁ h₁ => ?_
    subst h₁
    cases err with
    | some e => exact Monitor.Obeys.pure_iff.mpr ⟨h.act, nofun⟩
    | none =>
        have hcontroller : (l.act rt (.replicationManagerController true) old none).removed
            .replicationController := Tidying.removed_act_of_removes rfl h.seen hold rfl
        refine Monitor.Obeys.bind (Q := fun err l' => err = none ∧ Knows key csm l' ∧
          l'.removed .replicationController ∧ (l'.removed .replicationCRDs ∨ l'.crdsKept)) ?_ ?_
        · refine Monitor.Obeys.bind (tidying_act rfl) fun err l₂ h₂ => ?_
          subst h₂
          refine Monitor.Obeys.pure_iff.mpr ⟨rfl, h.act.act, Tidying.removed_act rfl hcontroller, ?_⟩
          cases err with
          | none => exact .inl (Tidying.removed_act_of_removes rfl h.seen hold rfl)
          | some e => exact .inr (.inr ⟨rfl, nofun⟩)
        · rintro _ l₃ ⟨rfl, hknows, hremoved⟩
          exact Monitor.Obeys.pure_iff.mpr ⟨hknows, fun _ _ _ _ => .inr hremoved⟩
  next hoff =>
    refine Monitor.Obeys.pure_iff.mpr ⟨h, fun _ hfirst hfirst' hon => .inl ?_⟩
    -- the first entries decide, and they do not say that it was turned off
    rw [← hfirst] at hon
    rw [← hfirst']
    simpa [hon] using hoff

/-- All that is dropped is found. -/
theorem mem_dropped {comps : List ContainerTemplate} {dropped : List String} {comp : ContainerTemplate}
    (h : droppedNames? old csm comps = some dropped) (hcomp : comp ∈ comps)
    (hold : ComponentEnabled old comp.name) (hnew : ¬ComponentEnabled csm comp.name) : comp.name ∈ dropped := by
  induction comps generalizing dropped with
  | nil => cases hcomp
  | cons c comps ih =>
      simp only [droppedNames?, bind, Option.bind_eq_some_iff, pure, Option.some.injEq] at h
      obtain ⟨oldEnabled, hc, newEnabled, hc', rest, hrest, rfl⟩ := h
      cases hcomp with
      | head =>
          have hon : oldEnabled = true := (componentEnabled?_eq_some hc).mpr hold
          have hoff : newEnabled = false := by
            rw [← Bool.not_eq_true, componentEnabled?_eq_some hc']
            exact hnew
          rw [hon, hoff]
          exact List.mem_cons_self
      | tail _ hcomp =>
          split
          · exact List.mem_cons_of_mem _ (ih hrest hcomp)
          · exact ih hrest hcomp

/-- The second half of the cleanup. -/
def removeComponents (oldCR newCR : ContainerStorageModule) : Op (Option GoError) :=
  match isModuleEnabled oldCR .observability with
  | none => pure none
  | some oldObs =>
    if (isModuleEnabled newCR .observability).isSome then do
      let components ← droppedComponents oldCR newCR oldObs.components
      guarded (components ≠ []) [act (.reconcileObservability true components) oldCR]
    else act (.reconcileObservability true []) oldCR

/-- What the removal of components knows and leaves as it is. -/
def Further (key : NamespacedName) (csm : ContainerStorageModule) (l l' : Tidying) : Prop :=
  Knows key csm l' ∧ (∀ p, l.removed p → l'.removed p) ∧ (l.crdsKept → l'.crdsKept)

theorem Further.act {a : Action} {cr : ContainerStorageModule} {err : Option GoError} (h : Knows key csm l)
    (ha : a.installs = false) : Further key csm l (l.act rt a cr err) :=
  ⟨h.act, fun _ hp => Tidying.removed_act ha hp, .inl⟩

theorem tidying_removeComponents (h : Knows key csm l)
    (hold : recordedIn rt (csm.lookup previouslyApplied) = some old) :
    (tidying rt).Obeys (removeComponents old csm) l fun err l' => Further key csm l l' ∧
      (err = none → ∀ name, ComponentEnabled old name →
        ComponentEnabled csm name ∨ l'.removed (.component name)) := by
  have hsame : Further key csm l l := ⟨h, fun _ hp => hp, fun hk => hk⟩
  unfold removeComponents
  cases hobs : isModuleEnabled old .observability with
  | none =>
      refine Monitor.Obeys.pure_iff.mpr ⟨hsame, fun _ name ⟨m, hm, _⟩ => ?_⟩
      rw [hobs] at hm
      cases hm
  | some oldObs =>
      dsimp only
      split
      · rw [droppedComponents_eq]
        cases hdropped : droppedNames? old csm oldObs.components with
        | none => exact Monitor.Obeys.call_iff.mpr ⟨trivial, fun r => r.elim⟩
        | some dropped =>
            have hmem (name : String) (hname : ComponentEnabled old name) (hnew : ¬ComponentEnabled csm name) :
                name ∈ dropped := by
              obtain ⟨m, hm, c, hc, rfl, hon⟩ := hname
              rw [hobs] at hm
              cases hm
              exact mem_dropped hdropped hc ⟨_, hobs, c, hc, rfl, hon⟩ hnew
            show (tidying rt).Obeys (guarded _ _) l _
            unfold guarded
            split
            next =>
              refine Monitor.Obeys.bind (tidying_act rfl) fun err l₁ h₁ => ?_
              subst h₁
              cases err with
              | some e => exact Monitor.Obeys.pure_iff.mpr ⟨.act h rfl, nofun⟩
              | none =>
                  refine Monitor.Obeys.pure_iff.mpr ⟨.act h rfl, fun _ name hname => ?_⟩
                  by_cases hnew : ComponentEnabled csm name
                  · exact .inl hnew
                  · exact .inr (Tidying.removed_act_of_removes rfl h.seen hold
                      ⟨name, rfl, .inl (hmem name hname hnew)⟩)
            next hnil =>
              refine Monitor.Obeys.pure_iff.mpr ⟨hsame, fun _ name hname => ?_⟩
              by_cases hnew : ComponentEnabled csm name
              · exact .inl hnew
              · have hname := hmem name hname hnew
                obtain rfl : dropped = [] := by simpa using hnil
                cases hname
      · refine Monitor.Obeys.mono (tidying_act rfl) fun err l₁ h₁ => ?_
        subst h₁
        refine ⟨.act h rfl, fun herr name hname => .inr ?_⟩
        subst herr
        exact Tidying.removed_act_of_removes rfl h.seen hold ⟨name, rfl, .inr ⟨rfl, hname⟩⟩

theorem cleanupOldModules_eq (old csm : ContainerStorageModule) :
    cleanupOldModules old csm =
      orElse (guarded (replicaEnabled old && !replicaEnabled csm)
        [act (.replicationManagerController true) old, logError (act .deleteReplicationCrds old)])
        (removeComponents old csm) := rfl

theorem tidying_cleanupOldModules (h : Knows key csm l)
    (hold : recordedIn rt (csm.lookup previouslyApplied) = some old) :
    (tidying rt).Obeys (cleanupOldModules old csm) l fun err l' => Knows key csm l' ∧
      (err = none → l'.CleanedFor rt (csm.lookup previouslyApplied) csm) := by
  rw [cleanupOldModules_eq]
  refine (tidying_removeReplication h hold).bind fun err l₁ ⟨h₁, hreplication⟩ => ?_
  cases err with
  | some e => exact Monitor.Obeys.pure_iff.mpr ⟨h₁, nofun⟩
  | none =>
      refine (tidying_removeComponents h₁ hold).mono fun err l₂ ⟨⟨h₂, hremoved, hkept⟩, hcomponents⟩ => ?_
      refine ⟨h₂, fun herr old' hold' hfirst hfirst' p hp => ?_⟩
      obtain rfl : old = old' := Option.some.inj (hold.symm.trans hold')
      cases p with
      | component name => exact (hcomponents herr name hp).imp_right .inl
      | replicationController =>
          refine (hreplication rfl hfirst hfirst' hp).imp_right fun hgone => ?_
          exact .inl (hremoved _ hgone.1)
      | replicationCRDs =>
          refine (hreplication rfl hfirst hfirst' hp).imp_right fun hgone => ?_
          exact hgone.2.imp (hremoved _) fun hk => ⟨rfl, hkept hk⟩

end Cleanup

/-! ### The sync -/

theorem lookup_withApplied (annotations : StrMap) (out : String) :
    (withApplied csm annotations out).lookup previouslyApplied = some out := by
  show Function.update annotations previouslyApplied (some out) previouslyApplied = some out
  rw [Function.update_self]

/-- What is known when `SyncCSM` returns. -/
def Returned (key : NamespacedName) (csm : ContainerStorageModule) (err : Option GoError) (l : Tidying) : Prop :=
  err = none → SyncedEarly csm ∨ l.key = some key ∧ l.applied csm

/-- From the record on. -/
theorem tidying_record (h : Knows key csm l) (hcleaned : l.CleanedFor rt (csm.lookup previouslyApplied) csm) :
    (tidying rt).Obeys (do
      match ← recordApplied rt csm with
      | (cr, some e) => pure (cr, some e)
      | (cr, none) => pure (cr, ← syncDriver cr)) l fun x l' => Returned key csm x.2 l' := by
  refine Monitor.Obeys.bind_iff.mpr ?_
  unfold recordApplied
  split
  next e hjson => exact Monitor.Obeys.pure_iff.mpr (Monitor.Obeys.pure_iff.mpr nofun)
  next out hjson =>
    cases hann : csm.annotations with
    | none => exact Monitor.Obeys.call_iff.mpr ⟨trivial, fun r => nomatch r⟩
    | some annotations =>
        have hrecords : Records rt (withApplied csm annotations out) :=
          ⟨csm, out, hjson, rfl, rfl, lookup_withApplied annotations out⟩
        have hupdate : (tidying rt).Obeys (updateCSM (withApplied csm annotations out)) l _ :=
          tidying_updateCSM h h.key_eq (.inr ⟨hrecords, hcleaned⟩)
        refine hupdate.bind fun r l₁ hr => ?_
        cases r with
        | error e => exact Monitor.Obeys.pure_iff.mpr (Monitor.Obeys.pure_iff.mpr nofun)
        | ok cr =>
            obtain ⟨hkey, hspec, -, hlkey, -, happlied⟩ := hr
            have hcr : cr.key = key := hkey.trans h.key_eq
            have hknown : l₁.key = some key ∧ l₁.applied cr ∧ l₁.applied csm :=
              ⟨hlkey, (happlied cr).mpr ⟨hrecords, hkey, hspec⟩, (happlied csm).mpr ⟨hrecords, rfl, rfl⟩⟩
            have hdriver : (tidying rt).Obeys (syncDriver cr) l₁ _ :=
              (tidying_keeps_after hcr).obeys (installsOnly_syncDriver cr) hknown
            refine Monitor.Obeys.pure_iff.mpr (hdriver.bind fun err l₂ h₂ => ?_)
            exact Monitor.Obeys.pure_iff.mpr fun _ => .inr ⟨h₂.1.1, h₂.1.2.2⟩

theorem tidying_syncCSMBody (h : Knows key csm l) :
    (tidying rt).Obeys (syncCSMBody rt csm) l fun x l' => Returned key csm x.2 l' := by
  refine (tidying_keeps_before.obeys (installsOnly_syncModules csm) h).bind fun r l₁ ⟨h₁, hearly⟩ => ?_
  match r with
  | .error e => exact Monitor.Obeys.pure_iff.mpr nofun
  | .ok false => exact Monitor.Obeys.pure_iff.mpr fun _ => .inl (hearly rfl)
  | .ok true =>
      refine Monitor.Obeys.bind_iff.mpr ?_
      unfold oldStandAloneModuleCleanup
      have hlookup : (csm.lookup previouslyApplied).getD "" = goLookup csm.annotations previouslyApplied := rfl
      dsimp only
      split
      next hsome =>
        split
        next e _ => exact Monitor.Obeys.pure_iff.mpr (Monitor.Obeys.pure_iff.mpr nofun)
        next old hjson =>
          have hold : recordedIn rt (csm.lookup previouslyApplied) = some old := by
            rw [recordedIn, hlookup, if_neg hsome, hjson]
            rfl
          refine (tidying_cleanupOldModules h₁ hold).bind fun err l₂ ⟨h₂, hcleaned⟩ => ?_
          cases err with
          | some e => exact Monitor.Obeys.pure_iff.mpr (Monitor.Obeys.pure_iff.mpr nofun)
          | none => exact Monitor.Obeys.bind_iff.mp (tidying_record h₂ (hcleaned rfl))
      next hnone =>
        -- nothing is recorded, so nothing has to be removed
        have hnew : l₁.CleanedFor rt (csm.lookup previouslyApplied) csm := by
          intro old hold
          rw [recordedIn, hlookup, if_pos (not_not.mp hnone)] at hold
          cases hold
        exact Monitor.Obeys.bind_iff.mp (tidying_record h₁ hnew)

theorem tidying_syncCSM (h : Knows key csm l) :
    (tidying rt).Obeys (syncCSM rt csm) l fun _ _ => True := by
  refine (tidying_syncCSMBody h).bind fun ⟨cr, err⟩ l₁ h₁ => ?_
  refine Monitor.Obeys.bind (Q := fun _ _ => True) (Monitor.Obeys.call_iff.mpr ⟨?_, fun _ _ => ?_⟩) fun _ _ _ => ?_
  · cases err with
    | some e => trivial
    | none =>
        refine (h₁ rfl).imp_right fun ⟨hkey, happlied⟩ => ⟨?_, happlied⟩
        rw [h.key_eq]
        exact hkey
  · exact Monitor.Obeys.ret_iff.mpr trivial
  · exact Monitor.Obeys.pure_iff.mpr trivial

/-! ### The whole thread -/

theorem tidying_syncAndFinish (h : Knows key csm l) :
    (tidying rt).Obeys (syncAndFinish rt csm) l fun _ _ => True := by
  refine tidying_judging.obeys_bind judging_handleSuccess fun ⟨cr, requeue⟩ l₁ hcr h₁ => ?_
  subst h₁
  obtain ⟨st, rfl⟩ : ∃ st, cr = csm.withStatus st := hcr
  have hst : Knows key (csm.withStatus st) l₁ := ⟨h.key_eq, h.thread, h.seen, h.applied⟩
  refine (tidying_syncCSM hst).bind fun ⟨cr', err⟩ l₂ _ => ?_
  dsimp only
  split
  · refine tidying_harmless.obeys (asks_finishInstall_watching (fun _ => Watching.harmless)
      fun _ => StatusWork.harmless) fun _ _ _ _ => trivial
  · have hfail : Asks Harmless (fun _ => True)
        (failInstall { csm.withStatus st with annotations := cr'.annotations } err) :=
      .bind (.ask (.event _ _ _ _) trivial) fun _ => .pure trivial
    exact tidying_harmless.obeys hfail fun _ _ _ _ => trivial

theorem tidying_reconcileDeletion (h : Knows key csm l) :
    (tidying rt).Obeys (reconcileDeletion csm) l fun _ _ => True := by
  refine obeys_reconcileDeletion_calm (F := fun _ => True) tidying_calm (fun _ _ _ _ => trivial) trivial
    (fun _ _ _ => trivial) fun l₁ h₁ => ?_
  have hfinish (l₂ : Tidying) : (tidying rt).Obeys (finishDeletion csm) l₂ fun _ _ => True :=
    tidying_harmless.obeys ((watching_finishDeletion _).weaken.mono fun _ => Watching.harmless)
      fun _ _ _ _ => trivial
  unfold removeFinalizer
  split
  · have hupdate : (tidying rt).Obeys (updateCSM { csm with finalizers := [] }) l₁ _ :=
      tidying_updateCSM_same (h.sameRecord h₁) h.key_eq rfl
    refine hupdate.bind fun r l₂ _ => ?_
    cases r with
    | error e => exact Monitor.Obeys.pure_iff.mpr ⟨fun _ => trivial, fun _ => hfinish l₂⟩
    | ok cr => exact Monitor.Obeys.pure_iff.mpr ⟨fun _ => trivial, fun _ => hfinish l₂⟩
  · exact Monitor.Obeys.pure_iff.mpr ⟨fun _ => trivial, fun _ => hfinish l₁⟩

theorem tidying_reconcilePrepared (h : Knows key csm l) (hnone : ∀ cr, ¬l.applied cr) :
    (tidying rt).Obeys (reconcilePrepared rt csm) l fun _ _ => True := by
  obtain ⟨spec, hspec⟩ := afterDriverPrecheck_eq csm
  refine obeys_reconcilePrepared_calm tidying_calm (fun cr e l₁ _ _ => ?_) fun l₁ h₁ _ => ?_
  · exact tidying_harmless.obeys ((statusWork_handleValidationError e).mono
      fun _ => StatusWork.harmless) fun _ _ _ _ => trivial
  · have hpre : Knows key (afterDriverPrecheck csm) l₁ := by
      rw [hspec]
      have hknows := h.sameRecord h₁
      exact ⟨hknows.key_eq, hknows.thread, hknows.seen, fun cr hcr => (hnone cr (h₁.2.2 ▸ hcr)).elim⟩
    split
    · exact tidying_reconcileDeletion hpre
    · refine obeys_reconcileInstall_calm (V := Knows key) (W := Knows key) (F := fun _ => True)
        tidying_calm (fun _ _ _ _ => trivial) (fun _ _ _ hl hcr => hcr.sameRecord hl) hpre
        (fun _ _ _ => trivial) ?_ (fun _ _ => tidying_recordVersion) fun _ _ => tidying_syncAndFinish
      exact tidying_updateCSM_same hpre hpre.key_eq rfl

def Entry.firstTidying (ent : Entry) : Tidying := { key := ent.reconciles }

theorem tidying_program (ent : Entry) :
    (tidying rt).Obeys (ent.program rt) ent.firstTidying fun _ _ => True := by
  cases ent with
  | update csmName e =>
      exact tidying_harmless.obeys ((statusWork_informerUpdate csmName e).mono
        fun _ => StatusWork.harmless) fun _ _ _ _ => trivial
  | reconcile key =>
      have hbody : (tidying rt).Obeys (reconcile rt key) (Entry.firstTidying (.reconcile key))
          fun _ _ => True := by
        refine obeys_reconcile trivial (fun _ _ => trivial) fun cr hcr => ?_
        refine obeys_reconcileRead (fun _ _ => trivial) fun csm hcsm => ?_
        obtain ⟨spec, rfl⟩ := prepare_eq hcsm
        have hseen : (tidying rt).next (Entry.firstTidying (.reconcile key)) (.getCSM key) (.ok cr) =
            (Entry.firstTidying (.reconcile key)).see cr fun _ => False := if_pos rfl
        rw [hseen]
        exact tidying_reconcilePrepared ⟨hcr, rfl, rfl, fun _ h => h.elim⟩ fun _ h => h
      refine hbody.bind fun ⟨result, err⟩ l₁ _ => ?_
      exact Monitor.Obeys.call_iff.mpr ⟨trivial, fun _ _ => Monitor.Obeys.ret_iff.mpr trivial⟩

end CsmOperator
