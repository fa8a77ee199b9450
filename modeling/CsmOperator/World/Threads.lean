import CsmOperator.Controllers.StatusWork
import CsmOperator.World.Server

/-!
# Rules for whole threads

A thread of the operator is a reconcile or an event handler. For a property of the CRs, a thread is
followed with two predicates: `V csm l`, what is known of the CR in memory from the first read to the
end of the sync, and `W csm l`, what is known of a CR whose status is about to be computed and stored.
A `Carries` says how the single steps treat them; the two theorems of this module put the steps
together, once for all the properties.
-/

namespace CsmOperator

open Interaction

variable {L : Type} {rt : Runtime} {M : Monitor Api L} {R : L → L → Prop}
  {V W : ContainerStorageModule → L → Prop} {l : L} {csm : ContainerStorageModule}

/-- `V` survives what a reconcile does to the CR it has prepared. -/
structure Keeps (rt : Runtime) (V : ContainerStorageModule → L → Prop) : Prop where
  state : ∀ a s l, V a l → V (a.setState s) l
  finalizers : ∀ a fs l, fs ⊆ [csmFinalizerName] → V a l → V { a with finalizers := fs } l
  prechecked : ∀ a l, V a l → V (afterDriverPrecheck a) l
  annotated : ∀ a l, V a l → V (applyConfigVersionAnnotations rt.op a).1 l

/-- `V` is about what a CR is and what its status reports, and not about its state. -/
def Insensitive (V : ContainerStorageModule → L → Prop) : Prop :=
  ∀ a b l, b.key = a.key → b.kind = a.kind →
    b.status.controllerStatus = a.status.controllerStatus →
    b.status.lastSuccessfulConfiguration = a.status.lastSuccessfulConfiguration → V a l → V b l

theorem Insensitive.prepared (h : Insensitive V) {a b : ContainerStorageModule}
    (hprep : prepare rt.op a = .ok b) (ha : V a l) : V b l := by
  have hkind := kind_prepare hprep
  obtain ⟨spec, rfl⟩ := prepare_eq hprep
  exact h a _ l rfl hkind rfl rfl ha

theorem Insensitive.keeps (h : Insensitive V) : Keeps rt V where
  state a s l ha := h a _ l rfl rfl rfl rfl ha
  finalizers a fs l _ ha := h a _ l rfl rfl rfl rfl ha
  prechecked a l ha := by
    have hkind := kind_afterDriverPrecheck a
    obtain ⟨spec, hspec⟩ := afterDriverPrecheck_eq a
    rw [hspec] at hkind ⊢
    exact h a _ l rfl hkind rfl rfl ha
  annotated a l ha := by
    obtain ⟨annotations, hann⟩ := applyConfigVersionAnnotations_fst rt.op a
    rw [hann]
    exact h a _ l rfl rfl rfl rfl ha

/-- The steps of a thread, for a monitor that lets requests aside of the CRs pass along `R`. -/
structure Carries (rt : Runtime) (M : Monitor Api L) (R : L → L → Prop)
    (V W : ContainerStorageModule → L → Prop) : Prop where
  frames : M.Frames R Aside
  stable : ∀ a l l', R l l' → V a l → V a l'
  keeps : Keeps rt V
  update : ∀ a l, V a l → M.Obeys (updateCSM a) l (Reply V fun _ => True)
  invalid : ∀ a l, V a l → M.Obeys (updateCSMStatus a) l fun _ _ => True
  calculate : ∀ a l, V a l → M.Obeys (calculateState rt a none) l fun x l' => V x.1 l'
  sync : ∀ a l, V a l → M.Obeys (syncCSM rt a) l fun x l' =>
    x.2 = none → W { a with annotations := x.1.annotations } l'
  status : ∀ a l, W a l → M.Obeys (updateStatus rt a none) l fun _ _ => True
  reconciled : ∀ key result err l, M.guard l (.note (.reconciled key result err))

namespace Carries

variable (hC : Carries rt M R V W)

include hC

theorem noise : M.Frames R Noise := hC.frames.mono fun _ => Noise.aside

/-- What only asks aside can follow anything. -/
theorem aside {α : Type} {p : Op α} (hp : Asks Aside (fun _ => True) p) :
    M.Obeys p l fun _ _ => True :=
  hC.frames.obeys hp fun _ _ _ _ => trivial

theorem finishInstall (hcsm : W csm l) :
    M.Obeys (finishInstall rt csm) l fun _ _ => True := by
  refine (hC.status csm l hcsm).bind fun ⟨csm', err⟩ l₁ _ => ?_
  dsimp only
  split
  · exact Monitor.Obeys.pure_iff.mpr trivial
  · refine (hC.aside (watching_contentWatch rt csm').aside).bind fun r l₂ _ => ?_
    cases r with
    | error e => exact Monitor.Obeys.pure_iff.mpr trivial
    | ok stop =>
        refine (hC.aside (watching_installWatch csm'.name stop).aside).bind fun _ l₃ _ => ?_
        exact hC.aside (.bind (.ask (.event _ _ _ _) trivial) fun _ => .pure trivial)

theorem syncAndFinish (hcsm : V csm l) :
    M.Obeys (syncAndFinish rt csm) l fun _ _ => True := by
  have hsuccess : M.Obeys (handleSuccess rt csm) l fun x l' => V x.1 l' := by
    refine obeys_handleSuccess hC.noise fun l₁ h₁ => ?_
    refine (hC.calculate csm l₁ (hC.stable _ _ _ h₁ hcsm)).mono fun x l₂ hx s l₃ h₃ => ?_
    exact hC.keeps.state x.1 s l₃ (hC.stable _ _ _ h₃ hx)
  refine hsuccess.bind fun ⟨csm₁, requeue⟩ l₁ h₁ => ?_
  refine (hC.sync csm₁ l₁ h₁).bind fun ⟨cr, err⟩ l₂ h₂ => ?_
  dsimp only
  split
  next hok =>
    have herr : err = none := by
      rw [Bool.and_eq_true, Option.isNone_iff_eq_none] at hok
      exact hok.1
    exact hC.finishInstall (h₂ herr)
  next => exact hC.aside (.bind (.ask (.event _ _ _ _) trivial) fun _ => .pure trivial)

theorem reconcilePrepared (hcsm : V csm l) :
    M.Obeys (reconcilePrepared rt csm) l fun _ _ => True := by
  have hpre : V (afterDriverPrecheck csm) l := hC.keeps.prechecked csm l hcsm
  refine obeys_reconcilePrepared hC.noise ?_ ?_
  · intro cr e l₁ hcr h₁
    have hV : V cr l₁ := by
      rcases hcr with rfl | rfl
      · exact hC.stable _ _ _ h₁ hcsm
      · exact hC.stable _ _ _ h₁ hpre
    refine hC.frames.obeys_bind (Asks.ask (.lock .status) trivial) fun _ l₂ _ h₂ => ?_
    refine (hC.invalid _ l₂ ?_).bind fun _ l₃ _ => ?_
    · exact hC.keeps.state _ _ l₂ (hC.keeps.state _ _ l₂ (hC.stable _ _ _ h₂ hV))
    · exact hC.aside (.bind (.ask (.unlock _) trivial) fun _ => .pure trivial)
  · intro l₁ h₁ _
    have hV := hC.stable _ _ _ h₁ hpre
    split
    · refine obeys_reconcileDeletion (F := fun _ => True) hC.noise (fun _ _ _ _ => trivial) trivial
        (fun _ _ _ => trivial) fun l₂ h₂ => ?_
      have hdone : ∀ (err : Option GoError) l₃, (err.isSome = true → True) ∧ (err = none →
          M.Obeys (finishDeletion (afterDriverPrecheck csm)) l₃ fun _ _ => True) :=
        fun _ _ => ⟨fun _ => trivial, fun _ => hC.aside (watching_finishDeletion _).weaken.aside⟩
      unfold removeFinalizer
      split
      · refine (hC.update _ l₂ ?_).bind fun r l₃ _ => ?_
        · exact hC.keeps.finalizers _ _ l₂ (List.nil_subset _) (hC.stable _ _ _ h₂ hV)
        · cases r <;> exact Monitor.Obeys.pure_iff.mpr (hdone _ l₃)
      · exact Monitor.Obeys.pure_iff.mpr (hdone _ l₂)
    · refine obeys_reconcileInstall (V := V) (W := V) (F := fun _ => True) hC.noise
        (fun _ _ _ _ => trivial) hC.stable hV (fun _ _ _ => trivial) ?_ ?_ ?_
      · exact hC.update _ l₁ (hC.keeps.state _ _ l₁
          (hC.keeps.finalizers _ _ l₁ (List.Subset.refl _) hV))
      · intro cr l₂ hcr
        have hcr' := hC.keeps.annotated cr l₂ hcr
        unfold recordVersion
        split
        next cr' heq =>
          rw [heq] at hcr'
          exact Monitor.Obeys.pure_iff.mpr hcr'
        next cr' heq =>
          rw [heq] at hcr'
          exact hC.update cr' l₂ hcr'
      · exact fun cr l₂ hcr => hC.syncAndFinish hcr

/-- A reconcile, when `V` is true of what it has read and prepared. -/
theorem reconcile {key : NamespacedName} (hguard : M.guard l (.getCSM key))
    (hread : ∀ cr cr', M.assume l (.getCSM key) (.ok cr) → prepare rt.op cr = .ok cr' →
      V cr' (M.next l (.getCSM key) (.ok cr))) :
    M.Obeys (Entry.program rt (.reconcile key)) l fun _ _ => True := by
  have hbody : M.Obeys (CsmOperator.reconcile rt key) l fun _ _ => True := by
    refine obeys_reconcile hguard (fun _ _ => trivial) fun cr hcr => ?_
    exact obeys_reconcileRead (fun _ _ => trivial) fun cr' hprep =>
      hC.reconcilePrepared (hread cr cr' hcr hprep)
  refine hbody.bind fun ⟨result, err⟩ l₁ _ => ?_
  exact Monitor.Obeys.call_iff.mpr
    ⟨hC.reconciled key result err l₁, fun _ _ => Monitor.Obeys.ret_iff.mpr trivial⟩

end Carries

/-! ## Handlers -/

/-- The CR an update is about. -/
def UpdateEvent.csmKey : UpdateEvent → NamespacedName
  | daemonSet _ new => labelledCSM new.templateLabels
  | deployment _ new => labelledCSM new.templateLabels
  | pod _ new => labelledCSM new.labels

/-- The controller status an update brings along. -/
def UpdateEvent.override : UpdateEvent → Option PodStatus
  | deployment _ new => some (replicaStatus new)
  | _ => none

/-- A handler reads the CR the update is about and updates its status. -/
theorem obeys_informerUpdate (hM : M.Frames R Aside) {csmName : String} {e : UpdateEvent}
    (h : concerns csmName e.oldObj = true → ∀ l₁, R l l₁ →
      M.Obeys (readEventCSM e.csmKey) l₁ fun csm l₂ =>
        M.Obeys (updateStatus rt csm e.override) l₂ fun _ _ => True) :
    M.Obeys (informerUpdate rt csmName e) l fun _ _ => True := by
  have haside : ∀ {p : Op Unit} {l' : L}, Asks Aside (fun _ => True) p →
      M.Obeys p l' fun _ _ => True := fun hp => hM.obeys hp fun _ _ _ _ => trivial
  have hunlock : Asks Aside (fun _ => True) (unlock .handlers) := .ask (.unlock _) trivial
  have hevent : ∀ cr type reason message,
      Asks Aside (fun _ => True) (recordEvent cr type reason message) :=
    fun _ _ _ _ => .ask (.event _ _ _ _) trivial
  unfold informerUpdate when
  split
  next hconcerns =>
    have h := h hconcerns
    cases e with
    | daemonSet old new =>
        refine hM.obeys_bind (Asks.ask (.lock .handlers) trivial) fun _ l₁ _ h₁ => ?_
        dsimp only
        split
        · refine (h l₁ h₁).bind fun csm l₂ h₂ => ?_
          refine h₂.bind fun ⟨csm', err⟩ l₃ _ => haside ?_
          exact .ite (.bind (hevent _ _ _ _) fun _ => hunlock) hunlock
        · exact haside hunlock
    | deployment old new =>
        refine hM.obeys_bind (Asks.ask (.lock .handlers) trivial) fun _ l₁ _ h₁ => ?_
        dsimp only
        split
        · refine (h l₁ h₁).bind fun csm l₂ h₂ => ?_
          refine h₂.bind fun ⟨csm', err⟩ l₃ _ => haside ?_
          exact .ite (.bind (hevent _ _ _ _) fun _ => hunlock) hunlock
        · exact haside hunlock
    | pod old new =>
        refine hM.obeys_bind (Asks.ask (.lock .handlers) trivial) fun _ l₁ _ h₁ => ?_
        dsimp only
        split
        · refine (h l₁ h₁).bind fun csm l₂ h₂ => ?_
          refine h₂.bind fun ⟨csm', err⟩ l₃ _ => haside ?_
          refine .bind (.ask .unixNano trivial) fun now => ?_
          cases err with
          | none => exact .bind (hevent _ _ _ _) fun _ => hunlock
          | some e =>
              exact .ite (.bind (hevent _ _ _ _) fun _ => hunlock)
                (.bind (hevent _ _ _ _) fun _ => hunlock)
        · exact haside hunlock
  next => exact Monitor.Obeys.pure_iff.mpr trivial

/-! ## One worker for a key

The work queue hands a key to one worker at a time. -/

/-- There is something left to run. -/
def Running (p : Op Unit) : Prop := ∃ q k, p = .call q k

/-- The CR a thread reconciles. -/
def Entry.reconciles : Entry → Option NamespacedName
  | .reconcile key => some key
  | .update _ _ => none

theorem Entry.of_reconciles {ent : Entry} {key : NamespacedName} (h : ent.reconciles = some key) :
    ent = .reconcile key := by
  cases ent with
  | reconcile key' => rw [Option.some.inj h]
  | update _ _ => cases h

/-- Some reconcile of the CR is running. -/
def Reconciling (ps : Threads) (key : NamespacedName) : Prop :=
  ∃ (i : Nat) (p : Op Unit), ps.threads[i]? = some (.reconcile key, p) ∧ Running p

/-- A reconcile of a key starts only when no other one of it is running. -/
def OneWorker : Threads → Move Api World Entry → Prop
  | ps, .spawn (.reconcile key) => ¬ Reconciling ps key
  | _, _ => True

/-- No two reconciles of one key are running. -/
def Alone (ps : Threads) : Prop :=
  ∀ (i j : Nat) key p p', ps.threads[i]? = some (.reconcile key, p) →
    ps.threads[j]? = some (.reconcile key, p') → Running p → Running p' → i = j

theorem alone_of_reach {kinds : NamespacedName → Kind} {Ok : Threads → Move Api World Entry → Prop}
    {w₀ : World} {ps : Threads} (hok : ∀ ps m, Ok ps m → OneWorker ps m)
    (h : Pool.Reach (environment kinds) (Entry.program rt) Ok (Pool.empty w₀) ps) : Alone ps := by
  induction h with
  | refl => exact fun _ _ _ _ _ h => nomatch h
  | @tail ps ps' m _ hm hstep ih =>
      cases hstep with
      | @act i ent q k c r w ht hr =>
          -- a thread that runs was running before
          have hbefore : ∀ (j : Nat) ent' p, (ps.threads.set i (ent, k r))[j]? = some (ent', p) →
              ∃ p', ps.threads[j]? = some (ent', p') ∧ (Running p → Running p') := by
            intro j ent' p hj
            by_cases hji : j = i
            · subst hji
              rw [List.getElem?_set_self (List.getElem?_eq_some_iff.mp ht).1] at hj
              cases hj
              exact ⟨_, ht, fun _ => ⟨q, k, rfl⟩⟩
            · rw [List.getElem?_set_ne (Ne.symm hji)] at hj
              exact ⟨p, hj, fun hrun => hrun⟩
          intro a b key p p' ha hb hrun hrun'
          obtain ⟨_, ha', hrun₁⟩ := hbefore a _ p ha
          obtain ⟨_, hb', hrun₂⟩ := hbefore b _ p' hb
          exact ih a b key _ _ ha' hb' (hrun₁ hrun) (hrun₂ hrun')
      | spawn ent =>
          intro a b key p p' ha hb hrun hrun'
          have hnone : ∀ (n : Nat) p, ps.threads[n]? = some (.reconcile key, p) → Running p →
              ent ≠ .reconcile key := by
            rintro n p hn hrun rfl
            exact hok _ _ hm ⟨n, p, hn, hrun⟩
          rcases Pool.getElem?_concat ha with ha | ⟨ha, heq⟩ <;>
            rcases Pool.getElem?_concat hb with hb | ⟨hb, heq'⟩
          · exact ih a b key p p' ha hb hrun hrun'
          · exact absurd (congrArg Prod.fst heq').symm (hnone a p ha hrun)
          · exact absurd (congrArg Prod.fst heq).symm (hnone b p' hb hrun')
          · rw [ha, hb]
      | drift _ => exact ih

/-! ## Concrete runs -/

/-- A world in which the operator has not done anything yet. -/
def World.storing (crs : List ContainerStorageModule) (cl : Cluster) : World where
  crs key := crs.find? (·.key = key)
  version := 0
  history := [cl]

theorem World.of_storing {crs : List ContainerStorageModule} {cl : Cluster} {key : NamespacedName}
    (h : (World.storing crs cl).crs key = some csm) : csm ∈ crs ∧ csm.key = key :=
  ⟨List.mem_of_find?_eq_some h, by simpa using List.find?_some h⟩

theorem World.keyStored_storing (crs : List ContainerStorageModule) (cl : Cluster) :
    (World.storing crs cl).KeyStored := fun _ _ h => (World.of_storing h).2

theorem World.bounded_storing {crs : List ContainerStorageModule} {cl : Cluster}
    (h : ∀ cr ∈ crs, cr.resourceVersion ≤ 0) : (World.storing crs cl).Bounded :=
  fun _ cr hcr => h cr (World.of_storing hcr).1

/-- A stored CR that was checked to fit its key. -/
theorem World.fitsKey_of_all {kinds : NamespacedName → Kind} {w : World} {key : NamespacedName}
    (h : ((w.crs key).all fun cr => cr.key = key ∧ cr.name ≠ "" ∧ cr.kind = kinds key) = true)
    (hcsm : w.crs key = some csm) : FitsKey kinds key csm := by
  rw [hcsm, Option.all_some, decide_eq_true_eq] at h
  exact ⟨h.1, h.2.1, h.2.2⟩

/-- The events are delivered by a watch that is running, of objects there were. -/
def Delivered : Threads → Move Api World Entry → Prop
  | ps, .spawn ent => ent.Possible ps.world
  | _, _ => True

/-- Every key is of a PowerScale driver. -/
def isilonKinds : NamespacedName → Kind := fun _ => ⟨.powerScale, false⟩

/-- The labels that name a CR. -/
def labelsFor (key : NamespacedName) : StrMap := fun k =>
  if k = csmLabel then some key.name else if k = csmNamespaceLabel then some key.namesp else none

/-- Up to `n` answers, and nothing fails. -/
def smooth (n : Nat) : List World.Choice := List.replicate n {}

/-- Start a thread and let it move, with the choices of the environment given. -/
def startAndRun (kinds : NamespacedName → Kind) (rt : Runtime)
    (test : Threads → Nat → Event Api → Bool) (ent : Entry) (cs : List World.Choice)
    (ps : Threads) : Threads :=
  (ps.afterSpawn ent (ent.program rt)).play (environment kinds) test
    (cs.map fun c => (ps.threads.length, c))

section Runs

variable {kinds : NamespacedName → Kind} {Ok : Threads → Move Api World Entry → Prop}
  {test : Threads → Nat → Event Api → Bool} {ps₀ ps : Threads} {w : World} {key : NamespacedName}

theorem reach_startAndRun {ent : Entry} {cs : List World.Choice}
    (h : Pool.Reach (environment kinds) (Entry.program rt) Ok ps₀ ps) (hent : Ok ps (.spawn ent))
    (htest : ∀ ps i e, test ps i e = true → Ok ps (.act i e)) :
    Pool.Reach (environment kinds) (Entry.program rt) Ok ps₀
      (startAndRun kinds rt test ent cs ps) :=
  (h.tail hent (.spawn ent)).play htest _

theorem bounded_of_reach (h : Pool.Reach (environment kinds) (Entry.program rt) Ok ps₀ ps)
    (h₀ : ps₀.world.Bounded) : ps.world.Bounded := by
  induction h with
  | refl => exact h₀
  | tail _ _ hstep ih =>
      cases hstep with
      | act _ hr => exact World.bounded_of_respond ih hr
      | spawn => exact ih
      | drift hd => exact Drift.bounded hd

/-- All threads have returned. -/
def allDone (ps : Threads) : Bool :=
  ps.threads.all fun t => match t.2 with
    | .ret _ => true
    | .call _ _ => false

theorem not_reconciling {ps : Threads} (h : allDone ps = true) (key : NamespacedName) :
    ¬ Reconciling ps key := by
  rintro ⟨i, p, ht, q, k, rfl⟩
  have hmem := List.mem_of_getElem? ht
  exact absurd (List.all_eq_true.mp h _ hmem) nofun

/-- A user changes a CR. -/
def World.change (w : World) (key : NamespacedName)
    (f : ContainerStorageModule → ContainerStorageModule) : World :=
  { w with
    crs := Function.update w.crs key
      ((w.crs key).map fun cr => { f cr with resourceVersion := w.version + 1 })
    version := w.version + 1 }

theorem World.change_crs_self (w : World) (key : NamespacedName)
    (f : ContainerStorageModule → ContainerStorageModule) :
    (w.change key f).crs key =
      (w.crs key).map fun cr => { f cr with resourceVersion := w.version + 1 } :=
  Function.update_self ..

/-- A change that leaves alone what is not the user's. -/
theorem drift_change {f : ContainerStorageModule → ContainerStorageModule} (hw : w.Bounded)
    (hfits : ∀ cr, w.crs key = some cr → FitsKey kinds key (f cr)) (huid : ∀ cr, (f cr).uid = cr.uid)
    (hstatus : ∀ cr, (f cr).status = cr.status)
    (howned : ∀ cr, ∀ k ∈ ownedAnnotations, (f cr).lookup k = cr.lookup k) :
    Drift kinds w (w.change key f) where
  crs k := by
    by_cases hk : k = key
    · subst hk
      simp only [World.change, Function.update_self]
      cases hcr : w.crs k with
      | none => exact .untouched none
      | some cr =>
          obtain ⟨hkey, hname, hkind⟩ := hfits cr hcr
          exact .edited ⟨hkey, hname, hkind⟩ (huid cr) (hstatus cr) (howned cr) (Nat.lt_succ_self _)
    · simp only [World.change, Function.update_of_ne hk]
      exact .untouched _
  version := Nat.le_succ _
  bounded k cr hcr := by
    have hcr' : Function.update w.crs key _ k = some cr := hcr
    by_cases hk : k = key
    · subst hk
      rw [Function.update_self] at hcr'
      obtain ⟨cr', -, rfl⟩ := Option.map_eq_some_iff.mp hcr'
      exact Nat.le_refl _
    · rw [Function.update_of_ne hk] at hcr'
      exact Nat.le_trans (hw k cr hcr') (Nat.le_succ _)
  history := List.suffix_refl _
  held := rfl
  channels := rfl
  watches := rfl

/-- A user changes the spec of a CR. -/
def World.edit (w : World) (key : NamespacedName) (spec : ContainerStorageModuleSpec) : World :=
  w.change key fun cr => { cr with spec }

theorem drift_edit {spec : ContainerStorageModuleSpec} (hw : w.Bounded)
    (hfits : ∀ cr, w.crs key = some cr → FitsKey kinds key { cr with spec }) :
    Drift kinds w (w.edit key spec) :=
  drift_change hw hfits (fun _ => rfl) (fun _ => rfl) fun _ _ _ => rfl

theorem reach_edit {spec : ContainerStorageModuleSpec}
    (h : Pool.Reach (environment kinds) (Entry.program rt) Ok ps₀ ps) (h₀ : ps₀.world.Bounded)
    (hfits : ∀ cr, ps.world.crs key = some cr → FitsKey kinds key { cr with spec })
    (hok : Ok ps (.drift (ps.world.edit key spec))) :
    Pool.Reach (environment kinds) (Entry.program rt) Ok ps₀
      { ps with world := ps.world.edit key spec } :=
  h.tail hok (.drift (drift_edit (bounded_of_reach h h₀) hfits))

/-- A user asks for the deletion of a CR. -/
def World.delete (w : World) (key : NamespacedName) : World :=
  w.change key fun cr => { cr with deletionTimestamp := some w.version }

theorem drift_delete (hw : w.Bounded)
    (hfits : ∀ cr, w.crs key = some cr → FitsKey kinds key cr) : Drift kinds w (w.delete key) := by
  refine drift_change hw (fun cr hcr => ?_) (fun _ => rfl) (fun _ => rfl) fun _ _ _ => rfl
  obtain ⟨hkey, hname, hkind⟩ := hfits cr hcr
  exact ⟨hkey, hname, hkind⟩

end Runs

/-- The CR whose status a served call wrote. -/
def statusWrite : Event Api → Option ContainerStorageModule
  | ⟨.updateCSMStatus cr, .ok _⟩ => some cr
  | _ => none

theorem of_statusWrite {e : Event Api} (h : statusWrite e = some csm) :
    ∃ stored, e = ⟨.updateCSMStatus csm, .ok stored⟩ := by
  unfold statusWrite at h
  split at h
  · cases h
    exact ⟨_, rfl⟩
  · cases h

/-- A log with a status write that passes a test. -/
theorem exists_statusWrite {log : List (Nat × Event Api)} {p : Nat → ContainerStorageModule → Prop}
    [∀ i cr, Decidable (p i cr)]
    (h : (log.any fun x => (statusWrite x.2).any fun cr => p x.1 cr) = true) :
    ∃ i cr stored, (i, (⟨.updateCSMStatus cr, .ok stored⟩ : Event Api)) ∈ log ∧ p i cr := by
  obtain ⟨⟨i, e⟩, hmem, he⟩ := List.any_eq_true.mp h
  obtain ⟨cr, hwrite, hcr⟩ := (Option.any_eq_true ..).mp he
  obtain ⟨stored, rfl⟩ := of_statusWrite hwrite
  exact ⟨i, cr, stored, hmem, of_decide_eq_true hcr⟩

end CsmOperator
