import CsmOperator.WriteBack.Settled
import Mathlib.Logic.Relation

/-!
# How often the operator wakes itself up

`ignoreUpdatePredicate` lets an update of a CR through if it has changed the generation, that is the spec. The
operator changes the spec of a CR itself: it fills in defaults and stores them with the finalizer, and it stores
what the rendering of the driver has done to the CR. Each of these updates wakes it up again. Here it is counted
how often that can happen before a user edits the CR once more.
-/

namespace CsmOperator

open Go Interaction Relation

/-! ## The predicate -/

/-- Of an update: is it worth a reconcile? -/
def ignoreUpdatePredicate (objectOld objectNew : Nat) : Bool := objectOld ≠ objectNew

/-- A stored CR with its generation, what the Secret of its driver says, and how often the user has changed either
and an update has woken the operator. -/
structure WatchedCR where
  cr : ContainerStorageModule
  generation : Nat
  mdmVar : String
  edits : Nat
  woken : Nat

/-- The server counts the changes of the spec. -/
def WatchedCR.store (s : WatchedCR) (w : ContainerStorageModule) : WatchedCR :=
  let generation := if w.spec = s.cr.spec then s.generation else s.generation + 1
  { s with
    cr := w
    generation
    woken := if ignoreUpdatePredicate s.generation generation then s.woken + 1 else s.woken }

/-- The CR in memory after the prechecks. -/
def afterPreChecks (checked : Bool) (csm : ContainerStorageModule) : ContainerStorageModule :=
  if checked then skipRequested (afterDriverPrecheck csm) else afterDriverPrecheck csm

/-- What happens to the stored CR. The updates of a reconcile for the finalizer and the annotations store the CR as
the prechecks leave it, the one of `oldStandAloneModuleCleanup` as the rendering of the driver does; each of them may
fail, and an update that comes after a change by someone else does, so that the updates of a reconcile are one step. -/
inductive WatchedCR.Step (op : OperatorConfig) (s : WatchedCR) : WatchedCR → Prop
  | prechecked {csm : ContainerStorageModule} {checked : Bool} {ws : List ContainerStorageModule} :
      prepare op s.cr = .ok csm → (∀ w ∈ ws, w.spec = (afterPreChecks checked csm).spec) →
      Step op s (ws.foldl WatchedCR.store s)
  | rendered {csm w : ContainerStorageModule} {checked : Bool} {ws : List ContainerStorageModule} :
      prepare op s.cr = .ok csm → (∀ w ∈ ws, w.spec = (afterPreChecks checked csm).spec) →
      w.spec = (driverConfigWritten s.mdmVar (afterPreChecks checked csm)).spec →
      Step op s ((ws.foldl WatchedCR.store s).store w)
  | edited (w : ContainerStorageModule) (mdmVar : String) :
      Step op s { s.store w with mdmVar, edits := s.edits + 1 }

/-! ## What is kept -/

section Kept

variable {op : OperatorConfig} {mdmVar : String} {cr cr' csm w : ContainerStorageModule} {checked : Bool}

/-- The switches of the authorization proxy. -/
def authFlags (cr : ContainerStorageModule) : List Bool := (entries .authorization cr.spec.modules).map (·.enabled)

theorem hasModule_of_authFlags (h : authFlags cr' = authFlags cr) :
    cr'.hasModule .authorization = cr.hasModule .authorization := by
  have hany (ms : List Module) :
      ms.any (·.name = .authorization) = !((entries .authorization ms).map (·.enabled)).isEmpty := by
    rw [Bool.eq_iff_iff]
    simp [entries]
  unfold ContainerStorageModule.hasModule
  rw [hany, hany]
  exact congrArg (fun flags => !List.isEmpty flags) h

theorem enabled_of_authFlags (h : authFlags cr' = authFlags cr) :
    (cr'.getModule .authorization).enabled = (cr.getModule .authorization).enabled := by
  have hhead (cr : ContainerStorageModule) :
      (cr.getModule .authorization).enabled = (authFlags cr).head?.getD false := by
    rw [ContainerStorageModule.getModule, authFlags, entries, List.head?_map, List.head?_filter]
    cases cr.spec.modules.find? (·.name = .authorization) <;> rfl
  rw [hhead, hhead, h]

/-- A driver that has nothing left to do is none when the rest of the CR changes. -/
theorem driverSettled_congr (hdriver : cr'.spec.driver =
      { cr.spec.driver with forceRemoveDriver := cr'.spec.driver.forceRemoveDriver })
    (hauth : authFlags cr' = authFlags cr) (h : driverConfigWritten mdmVar cr = cr) :
    driverConfigWritten mdmVar cr' = cr' := by
  have htype : cr'.spec.driver.csiDriverType = cr.spec.driver.csiDriverType := by rw [hdriver]
  unfold driverConfigWritten at h ⊢
  rw [htype]
  split
  next hflex =>
    rw [if_pos hflex] at h
    have hinit : (sdcWritten mdmVar cr').spec.driver.initContainers = cr'.spec.driver.initContainers := by
      have hsame : (sdcWritten mdmVar cr).spec.driver.initContainers = cr.spec.driver.initContainers := by rw [h]
      unfold sdcWritten sdcEnabled at hsame ⊢
      rw [hdriver]
      exact hsame
    have hside : (sdcWritten mdmVar cr').spec.driver.sideCars = cr'.spec.driver.sideCars := by
      have hsame : (sdcWritten mdmVar cr).spec.driver.sideCars = cr.spec.driver.sideCars := by rw [h]
      unfold sdcWritten at hsame ⊢
      rw [hdriver]
      exact hsame
    exact congrArg₂ (fun initContainers sideCars => { cr' with
      spec := { cr'.spec with driver := { cr'.spec.driver with initContainers, sideCars } } }) hinit hside
  next hflex =>
    rw [if_neg hflex] at h
    split
    next hstore =>
      rw [if_pos hstore] at h
      unfold authEnvWritten at h ⊢
      rw [hasModule_of_authFlags hauth, enabled_of_authFlags hauth]
      split
      next hhas =>
        rw [if_pos hhas] at h
        have hnode : cr'.spec.driver.node = cr.spec.driver.node := by rw [hdriver]
        have hsame := congrArg (·.spec.driver.node) h
        dsimp only at hsame ⊢
        rw [hnode, hsame, ← hnode]
      next => rfl
    next => rfl

/-- What `Reconcile` does before the prechecks leaves the entries of the authorization proxy. -/
theorem entries_of_prepare (h : prepare op cr = .ok csm) :
    entries .authorization (afterDriverPrecheck csm).spec.modules = entries .authorization cr.spec.modules := by
  unfold prepare at h
  cases hload : loadDefaultComponents op (defaultForceRemoveDriver cr) with
  | error e =>
      rw [hload] at h
      cases h
  | ok loaded =>
      rw [hload] at h
      obtain ⟨-, hresolved, -⟩ := resolveAuthVersion_ok h
      obtain ⟨-, hproxied, -⟩ := afterDriverPrecheck_ok csm
      rw [entries_of_editsOnly hproxied (by decide), entries_of_editsOnly hresolved (by decide)]
      rcases loadDefaultComponents_cases hload with ⟨-, rfl⟩ | ⟨_, more, -, rfl, -⟩
      · rfl
      · refine entries_of_editsOnly (t := .observability) (editsOnly_map (fun m => ⟨?_, fun hm => ?_⟩) _) (by decide)
        · exact m.withComponents_name
        · exact if_neg hm

theorem skipped_iff : Skipped cr ↔ ∀ m ∈ entries .authorization cr.spec.modules, m.skipRequested = m := by
  constructor
  · exact fun h m hm => h m (List.mem_of_mem_filter hm)
  · intro h m hm
    by_cases hname : m.name = .authorization
    · exact h m (List.mem_filter.mpr ⟨hm, by simpa using hname⟩)
    · exact if_neg fun hauth => hname hauth.1

theorem authFlags_skipRequested (cr : ContainerStorageModule) : authFlags (skipRequested cr) = authFlags cr := by
  have hname (m : Module) : m.skipRequested.name = m.name := by
    unfold Module.skipRequested
    split <;> rfl
  have henabled (m : Module) : m.skipRequested.enabled = m.enabled := by
    unfold Module.skipRequested
    split <;> rfl
  unfold authFlags entries skipRequested
  rw [List.filter_map, List.map_map]
  simp [Function.comp_def, hname, henabled]

/-- The prechecks of a CR bring it forward, and take nothing back. -/
theorem afterPreChecks_ok (mdmVar : String) (checked : Bool) (h : prepare op cr = .ok csm) :
    Prechecked op (afterPreChecks checked csm) ∧ (checked = true → Skipped (afterPreChecks checked csm)) ∧
      (Skipped cr → Skipped (afterPreChecks checked csm)) ∧
      (driverConfigWritten mdmVar cr = cr →
        driverConfigWritten mdmVar (afterPreChecks checked csm) = afterPreChecks checked csm) := by
  have hprechecked := prechecked_of_prepare h
  have hentries := entries_of_prepare h
  have hdriver := driver_of_prepare h
  have hsettled (hflags : authFlags (afterPreChecks checked csm) = authFlags (afterDriverPrecheck csm))
      (hsame : (afterPreChecks checked csm).spec.driver = (afterDriverPrecheck csm).spec.driver) :
      driverConfigWritten mdmVar cr = cr →
        driverConfigWritten mdmVar (afterPreChecks checked csm) = afterPreChecks checked csm := by
    refine driverSettled_congr ?_ (hflags.trans (congrArg (List.map _) hentries))
    rw [hsame, hdriver]
    rfl
  cases checked with
  | false =>
      refine ⟨hprechecked, nofun, fun hskipped => ?_, hsettled rfl rfl⟩
      rw [skipped_iff] at hskipped ⊢
      show ∀ m ∈ entries .authorization (afterDriverPrecheck csm).spec.modules, m.skipRequested = m
      rw [hentries]
      exact hskipped
  | true =>
      have hskipped : Skipped (afterPreChecks true csm) := skipped_skipRequested _
      exact ⟨hprechecked.skipRequested, fun _ => hskipped, fun _ => hskipped,
        hsettled (authFlags_skipRequested _) rfl⟩

end Kept

/-! ## Progress -/

section Progress

variable {op : OperatorConfig} {mdmVar : String} {cr cr' cr'' csm w : ContainerStorageModule} {checked : Bool}
  {s s' : WatchedCR}

open Classical in
/-- How many of the three kinds of changes the operator has left to make. -/
noncomputable def remaining (op : OperatorConfig) (mdmVar : String) (cr : ContainerStorageModule) : Nat :=
  (if Prechecked op cr then 0 else 1) + (if Skipped cr then 0 else 1) +
    (if driverConfigWritten mdmVar cr = cr then 0 else 1)

theorem remaining_le (op : OperatorConfig) (mdmVar : String) (cr : ContainerStorageModule) :
    remaining op mdmVar cr ≤ 3 := by
  unfold remaining
  split_ifs <;> omega

/-- A CR to be stored is one change ahead at least, unless it changes nothing. -/
def Advances (op : OperatorConfig) (mdmVar : String) (cr cr' : ContainerStorageModule) : Prop :=
  remaining op mdmVar cr' + (if cr'.spec = cr.spec then 0 else 1) ≤ remaining op mdmVar cr

/-- A CR advances if nothing that was done is undone, and something is done if the spec changes. -/
theorem advances_of (hprechecked : Prechecked op cr → Prechecked op cr') (hskipped : Skipped cr → Skipped cr')
    (hdriver : driverConfigWritten mdmVar cr = cr → driverConfigWritten mdmVar cr' = cr')
    (hchange : cr'.spec ≠ cr.spec → ¬Prechecked op cr ∧ Prechecked op cr' ∨ ¬Skipped cr ∧ Skipped cr' ∨
      driverConfigWritten mdmVar cr ≠ cr ∧ driverConfigWritten mdmVar cr' = cr') : Advances op mdmVar cr cr' := by
  unfold Advances remaining
  grind

theorem remaining_congr (h : cr'.spec = cr.spec) : remaining op mdmVar cr' = remaining op mdmVar cr := by
  have hle {cr cr' : ContainerStorageModule} (h : cr'.spec = cr.spec) :
      remaining op mdmVar cr' ≤ remaining op mdmVar cr := by
    have hadv : Advances op mdmVar cr cr' := by
      refine advances_of (fun hcr => ?_) (fun hcr => ?_) (fun hcr => ?_) (absurd h)
      · exact hcr.congr (by rw [h]) (by rw [h]) (by rw [h]) (by rw [h]) fun _ _ => by rw [h]
      · rw [Skipped, h]
        exact hcr
      · exact driverSettled_congr (by rw [h]) (by rw [authFlags, h]; rfl) hcr
    exact (Nat.le_add_right ..).trans hadv
  exact Nat.le_antisymm (hle h) (hle h.symm)

theorem Advances.congr (h : Advances op mdmVar cr cr') (hspec : cr''.spec = cr'.spec) :
    Advances op mdmVar cr cr'' := by
  unfold Advances at h ⊢
  rw [remaining_congr hspec, hspec]
  exact h

theorem advances_refl (h : cr'.spec = cr.spec) : Advances op mdmVar cr cr' := by
  unfold Advances
  rw [remaining_congr h, if_pos h, Nat.add_zero]

theorem Advances.trans (h : Advances op mdmVar cr cr') (h' : Advances op mdmVar cr' cr'') :
    Advances op mdmVar cr cr'' := by
  unfold Advances at h h' ⊢
  grind

/-- The prechecks advance a CR. -/
theorem advances_afterPreChecks (h : prepare op cr = .ok csm) :
    Advances op mdmVar cr (afterPreChecks checked csm) := by
  obtain ⟨hprechecked, hchecked, hskipped, hdriver⟩ := afterPreChecks_ok mdmVar checked h
  refine advances_of (fun _ => hprechecked) hskipped hdriver fun hchange => ?_
  by_cases hcr : Prechecked op cr
  · -- what is left to the prechecks is the variable of the proxies
    obtain ⟨hprepare, hproxy⟩ := hcr.eq_self
    rw [hprepare] at h
    cases h
    unfold afterPreChecks at hchange
    rw [hproxy] at hchange
    cases checked with
    | false => exact absurd rfl hchange
    | true =>
        refine .inr (.inl ⟨fun hskip => hchange ?_, hchecked rfl⟩)
        exact congrArg (·.spec) hskip.eq_self
  · exact .inl ⟨hcr, hprechecked⟩

/-- So does the rendering of the driver. -/
theorem advances_driverConfigWritten (mdmVar : String) (cr : ContainerStorageModule) :
    Advances op mdmVar cr (driverConfigWritten mdmVar cr) := by
  have hsettled := driverConfigWritten_twice mdmVar cr
  refine advances_of (·.driverConfigWritten) (·.driverConfigWritten) (fun _ => hsettled) fun hchange => ?_
  exact .inr (.inr ⟨fun hdriver => hchange (congrArg (·.spec) hdriver), hsettled⟩)

/-! ## The bound -/

theorem WatchedCR.woken_store (s : WatchedCR) (w : ContainerStorageModule) :
    (s.store w).woken = s.woken + (if w.spec = s.cr.spec then 0 else 1) := by
  unfold WatchedCR.store ignoreUpdatePredicate
  split <;> simp

/-- The wake-ups so far and those the operator may still cause itself. -/
noncomputable def WatchedCR.bound (op : OperatorConfig) (s : WatchedCR) : Nat := s.woken + remaining op s.mdmVar s.cr

theorem WatchedCR.bound_store (h : Advances op s.mdmVar s.cr w) : (s.store w).bound op ≤ s.bound op := by
  unfold WatchedCR.bound
  rw [WatchedCR.woken_store, Nat.add_assoc, Nat.add_comm (ite _ _ _)]
  exact Nat.add_le_add_left h _

theorem WatchedCR.bound_foldl {ws : List ContainerStorageModule} (h : Advances op s.mdmVar s.cr cr)
    (hws : ∀ w ∈ ws, w.spec = cr.spec) :
    (ws.foldl WatchedCR.store s).bound op ≤ s.bound op ∧ Advances op s.mdmVar (ws.foldl WatchedCR.store s).cr cr ∧
      (ws.foldl WatchedCR.store s).mdmVar = s.mdmVar ∧ (ws.foldl WatchedCR.store s).edits = s.edits := by
  induction ws generalizing s with
  | nil => exact ⟨le_rfl, h, rfl, rfl⟩
  | cons w ws ih =>
      have hw := hws w (List.mem_cons_self ..)
      have hstored : Advances op (s.store w).mdmVar (s.store w).cr cr := advances_refl hw.symm
      obtain ⟨hbound, hadv, hmdm, hedits⟩ := ih hstored fun w' hw' => hws w' (List.mem_cons_of_mem _ hw')
      exact ⟨hbound.trans (WatchedCR.bound_store (h.congr hw)), hadv, hmdm, hedits⟩

/-- A reconcile does not raise the bound, an edit raises it by four. -/
theorem WatchedCR.bound_step (h : s.Step op s') : s'.bound op + 4 * s.edits ≤ s.bound op + 4 * s'.edits := by
  cases h with
  | prechecked hprepare hws =>
      obtain ⟨hbound, -, -, hedits⟩ := WatchedCR.bound_foldl (advances_afterPreChecks hprepare) hws
      rw [hedits]
      exact Nat.add_le_add_right hbound _
  | @rendered csm w checked ws hprepare hws hw =>
      obtain ⟨hbound, hadv, hmdm, hedits⟩ := WatchedCR.bound_foldl (advances_afterPreChecks hprepare) hws
      have hwritten := (hadv.trans (advances_driverConfigWritten _ _)).congr hw
      have hstore : ((ws.foldl WatchedCR.store s).store w).bound op ≤ _ := WatchedCR.bound_store (hmdm ▸ hwritten)
      have hsame : ((ws.foldl WatchedCR.store s).store w).edits = s.edits := hedits
      rw [hsame]
      exact Nat.add_le_add_right (hstore.trans hbound) _
  | edited w mdmVar =>
      have hwoken := s.woken_store w
      have hremaining := remaining_le op mdmVar w
      have hbound : ({ s.store w with mdmVar, edits := s.edits + 1 } : WatchedCR).bound op =
          (s.store w).woken + remaining op mdmVar w := rfl
      have hleast : s.woken ≤ s.bound op := Nat.le_add_right ..
      have hone : (if w.spec = s.cr.spec then 0 else 1) ≤ 1 := by split <;> decide
      rw [hbound]
      dsimp only
      omega

/-- A CR as the user has created it. -/
def WatchedCR.created (cr : ContainerStorageModule) (mdmVar : String) : WatchedCR :=
  { cr, generation := 1, mdmVar, edits := 0, woken := 0 }

end Progress

end CsmOperator
