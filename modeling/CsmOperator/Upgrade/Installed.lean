import CsmOperator.Concurrency.LastConfiguration
import CsmOperator.Upgrade.Verdict

/-!
# From which version an installed CR was upgraded

`checkUpgrade` compares the version a CR asks for with the one in its annotation. `Reconcile` writes the
annotation before it installs anything, so after a failed sync the annotation names a version that was
not installed, and the next upgrade is judged from there. The upgrade relation is not transitive: by way
of a version that never got installed, a CR can go from one version to another that `IsValidUpgrade`
would not have allowed.

For a CR that is reconciled by one worker at a time, two completed syncs in a row are of versions that
`IsValidUpgrade` accepts as long as the recorded version only changes from, or back to, the version that
is installed. Retries of a version that failed are no problem.
-/

namespace CsmOperator

open Interaction

variable {op : OperatorConfig} {kinds : NamespacedName → Kind} {rt : Runtime} {key : NamespacedName}
  {csm : ContainerStorageModule}

/-! ## Versions in a log -/

/-- The version of the CR that a call was a completed sync with. -/
def syncedVersion (op : OperatorConfig) (key : NamespacedName) : Event Api → Option String
  | ⟨.note (.synced csm none), _⟩ =>
    if csm.key = key then (getVersion op csm).toOption else none
  | _ => none

/-- The version of the last completed sync. -/
def lastInstalled (op : OperatorConfig) (log : List (Nat × Event Api)) (key : NamespacedName) :
    Option String :=
  log.foldl (fun v x => (syncedVersion op key x.2).or v) none

theorem lastInstalled_append (op : OperatorConfig) (log : List (Nat × Event Api))
    (x : Nat × Event Api) (key : NamespacedName) :
    lastInstalled op (log ++ [x]) key = (syncedVersion op key x.2).or (lastInstalled op log key) := by
  rw [lastInstalled, List.foldl_append]
  rfl

/-- What an upgrade path of a CR is looked up for. -/
def upgradeComponent (k : Kind) : CSMComponentType :=
  if k.proxy then .module .authorization else .driver (driverFolder k.driverType)

/-- `IsValidUpgrade` for the CR stored under a key. -/
def ValidUpgrade (op : OperatorConfig) (kinds : NamespacedName → Kind) (key : NamespacedName)
    (oldVersion newVersion : String) : Prop :=
  (isValidUpgrade op oldVersion newVersion (upgradeComponent (kinds key))).1 = true

theorem ValidUpgrade.refl (op : OperatorConfig) (kinds : NamespacedName → Kind)
    (key : NamespacedName) (v : String) : ValidUpgrade op kinds key v v := by
  rw [ValidUpgrade, isValidUpgrade_self]

/-! ## What a reconcile knows of the annotation -/

/-- The CR a thread reconciles, and the annotation of the CR it has read or stored last. -/
structure Annotated where
  key : Option NamespacedName
  seen : Option (Option String) := none

namespace Annotated

def Allows (op : OperatorConfig) (l : Annotated) : Request → Prop
  | .updateCSM cr =>
    l.key = some cr.key ∧ ∃ a, l.seen = some a ∧ (cr.lookup configVersionKey = none → a = none)
  | .note (.synced csm none) =>
    l.key = some csm.key ∧
      ∃ a, l.seen = some a ∧ ∀ version, getVersion op csm = .ok version → a.getD "" = version
  | _ => True

def Expects : (q : Request) → q.Answer → Prop
  | .getCSM key, .ok cr => cr.key = key
  | .updateCSM cr, .ok cr' =>
    cr'.key = cr.key ∧ cr'.spec = cr.spec ∧ cr'.annotations = cr.annotations
  | _, _ => True

def follow (l : Annotated) : (q : Request) → q.Answer → Annotated
  | .getCSM key, .ok cr =>
    if l.key = some key then { l with seen := some (cr.lookup configVersionKey) } else l
  | .updateCSM cr, .ok _ => { l with seen := some (cr.lookup configVersionKey) }
  | _, _ => l

end Annotated

/-- The monitor of the annotation. -/
def annotated (op : OperatorConfig) : Monitor Api Annotated where
  guard := Annotated.Allows op
  assume _ := Annotated.Expects
  next := Annotated.follow

variable {l : Annotated}

theorem key_follow (q : Request) (r : q.Answer) : (l.follow q r).key = l.key := by
  unfold Annotated.follow
  split
  · split <;> rfl
  · rfl
  · rfl

/-- Everything but updates of the CR and the return of `SyncCSM`. -/
def Unrecorded : Request → Prop
  | .updateCSM _ | .note (.synced _ _) => False
  | _ => True

theorem annotated_frames : (annotated op).Frames (fun l l' => l'.key = l.key) Unrecorded where
  refl _ := rfl
  trans _ _ _ h h' := h'.trans h
  tolerates l q hq := by
    refine ⟨?_, fun r _ => key_follow q r⟩
    cases q with
    | updateCSM cr => exact hq.elim
    | note n => cases n <;> first | exact hq.elim | trivial
    | _ => trivial

/-- Noise does not read the CR. -/
theorem annotated_noise : (annotated op).Frames (fun l l' => l' = l) Noise where
  refl _ := rfl
  trans _ _ _ h h' := h'.trans h
  tolerates l q hq := by
    refine ⟨?_, fun r _ => ?_⟩
    · cases q <;> first | exact hq.elim | trivial
    · cases q <;> first | exact hq.elim | rfl

theorem Noise.unrecorded {q : Request} (h : Noise q) : Unrecorded q := by
  cases q <;> first | exact h.elim | trivial

theorem Aside.unrecorded {q : Request} (h : Aside q) : Unrecorded q := by
  cases q <;> first | exact h.elim | trivial

theorem StatusWork.unrecorded {q : Request} (h : StatusWork q) : Unrecorded q := by
  cases q with
  | note n => cases n <;> first | exact h.elim | trivial
  | _ => first | exact h.elim | trivial

theorem annotated_judging : (annotated op).Frames (fun l l' => l' = l) Judging where
  refl _ := rfl
  trans _ _ _ h h' := h'.trans h
  tolerates l q hq := by
    refine ⟨?_, fun r _ => ?_⟩
    · cases q with
      | note n => cases n <;> first | exact hq.elim | trivial
      | _ => first | exact hq.elim | trivial
    · cases q <;> first | exact hq.elim | rfl

/-! ## The steps of a reconcile -/

/-- A reconcile of the key that has the annotation of its CR in memory. -/
def Holds (key : NamespacedName) (csm : ContainerStorageModule) (l : Annotated) : Prop :=
  csm.key = key ∧ l = { key := some key, seen := some (csm.lookup configVersionKey) }

/-- The version the CR asks for is in the annotation. -/
def Recorded (op : OperatorConfig) (key : NamespacedName) (csm : ContainerStorageModule)
    (l : Annotated) : Prop :=
  Holds key csm l ∧
    ∀ version, getVersion op csm = .ok version → (csm.lookup configVersionKey).getD "" = version

theorem getVersion_congr {a b : ContainerStorageModule} (h : a.spec = b.spec) :
    getVersion op a = getVersion op b :=
  calc getVersion op a = getVersion op { b with spec := a.spec } := rfl
    _ = getVersion op b := by rw [h]

theorem annotated_updateCSM {a : Option String} (hkey : csm.key = key)
    (hnone : csm.lookup configVersionKey = none → a = none) :
    (annotated op).Obeys (updateCSM csm) { key := some key, seen := some a }
      (Reply (fun cr l => cr.spec = csm.spec ∧ cr.annotations = csm.annotations ∧ Holds key cr l)
        fun _ => True) := by
  refine Monitor.Obeys.call_iff.mpr ⟨⟨congrArg some hkey.symm, a, rfl, hnone⟩, fun r hr => ?_⟩
  refine Monitor.Obeys.ret_iff.mpr ?_
  match r with
  | .error e => trivial
  | .ok cr =>
      obtain ⟨hkey', hspec, hann⟩ :
        cr.key = csm.key ∧ cr.spec = csm.spec ∧ cr.annotations = csm.annotations := hr
      refine ⟨hspec, hann, hkey'.trans hkey, ?_⟩
      rw [ContainerStorageModule.lookup, hann]
      rfl

/-- What becomes of the annotation when the version is recorded. -/
theorem lookup_applyConfigVersionAnnotations (op : OperatorConfig) (csm : ContainerStorageModule) :
    let csm' := (applyConfigVersionAnnotations op csm).1
    ((applyConfigVersionAnnotations op csm).2 = false →
        csm'.lookup configVersionKey = csm.lookup configVersionKey) ∧
      (csm'.lookup configVersionKey = none → csm.lookup configVersionKey = none) ∧
      ∀ version, getVersion op csm = .ok version →
        (csm'.lookup configVersionKey).getD "" = version := by
  have hne : configVersionKey ≠ csmVersionKey := by decide
  dsimp only
  obtain ⟨-, hlookup, hversion⟩ | ⟨v, hchanged, hversion, hlookup⟩ :=
    applyConfigVersionAnnotations_cases op csm
  · have hsame := hlookup configVersionKey
    rw [if_neg hne] at hsame
    rw [hsame]
    exact ⟨fun _ => rfl, fun h => h, hversion⟩
  · rw [hlookup, if_pos rfl, hchanged]
    refine ⟨nofun, nofun, fun version h => ?_⟩
    exact Except.ok.inj (hversion.symm.trans h)

theorem annotated_recordVersion (h : Holds key csm l) :
    (annotated op).Obeys (recordVersion op csm) l (Reply (Recorded op key) fun _ => True) := by
  obtain ⟨hkey, rfl⟩ := h
  obtain ⟨annotations, hann⟩ := applyConfigVersionAnnotations_fst op csm
  obtain ⟨hkept, hnone, hversion⟩ := lookup_applyConfigVersionAnnotations op csm
  have hspec : (applyConfigVersionAnnotations op csm).1.spec = csm.spec := by rw [hann]
  have hkey' : (applyConfigVersionAnnotations op csm).1.key = key := by
    rw [hann]
    exact hkey
  unfold recordVersion
  split
  next csm' heq =>
    rw [heq] at hspec hkey' hkept hversion
    refine Monitor.Obeys.pure_iff.mpr ⟨⟨hkey', ?_⟩, fun version h => ?_⟩
    · rw [hkept rfl]
    · rw [getVersion_congr hspec] at h
      exact hversion version h
  next csm' heq =>
    rw [heq] at hspec hkey' hnone hversion
    refine (annotated_updateCSM hkey' hnone).mono fun r l' hr => ?_
    cases r with
    | error e => trivial
    | ok cr =>
        obtain ⟨hspec', hann', hholds⟩ := hr
        refine ⟨hholds, fun version h => ?_⟩
        rw [getVersion_congr (hspec'.trans hspec)] at h
        rw [ContainerStorageModule.lookup, hann']
        exact hversion version h

theorem annotated_syncCSM (h : Recorded rt.op key csm l) :
    (annotated rt.op).Obeys (syncCSM rt csm) l fun _ _ => True := by
  obtain ⟨⟨hkey, rfl⟩, hversion⟩ := h
  -- the mark of the return, once the annotation is known to be as it was
  have hnote : ∀ err, (annotated rt.op).Obeys (note (.synced csm err))
      { key := some key, seen := some (csm.lookup configVersionKey) } fun _ _ => True := by
    intro err
    refine Monitor.Obeys.call_iff.mpr ⟨?_, fun _ _ => Monitor.Obeys.ret_iff.mpr trivial⟩
    cases err with
    | some e => trivial
    | none => exact ⟨congrArg some hkey.symm, _, rfl, hversion⟩
  refine obeys_syncCSM annotated_noise (fun err l₁ h₁ _ => ?_) ?_
  · subst h₁
    exact hnote err
  · intro annotations out l₁ h₁ hann _
    subst h₁
    have hlookup : (withApplied csm annotations out).lookup configVersionKey =
        csm.lookup configVersionKey := by
      have hne : configVersionKey ≠ previouslyApplied := by decide
      rw [ContainerStorageModule.lookup, ContainerStorageModule.lookup, hann]
      exact Function.update_of_ne hne _ _
    refine Monitor.Obeys.call_iff.mpr ⟨⟨congrArg some hkey.symm, _, rfl, fun h => hlookup ▸ h⟩,
      fun r _ => Monitor.Obeys.ret_iff.mpr ?_⟩
    rintro cr err _ rfl -
    match r with
    | .error e => exact hnote err
    | .ok cr' =>
        show (annotated rt.op).Obeys (note (.synced csm err)) { key := some key
                                                                seen := some _ } fun _ _ => True
        rw [hlookup]
        exact hnote err

theorem annotated_syncAndFinish (h : Recorded rt.op key csm l) :
    (annotated rt.op).Obeys (syncAndFinish rt csm) l fun _ _ => True := by
  refine annotated_judging.obeys_bind judging_handleSuccess fun ⟨cr, requeue⟩ l₁ hcr h₁ => ?_
  subst h₁
  obtain ⟨st, rfl⟩ : ∃ st, cr = csm.withStatus st := hcr
  have hst : Recorded rt.op key (csm.withStatus st) l₁ :=
    ⟨⟨h.1.1, h.1.2⟩, fun version hversion => h.2 version ((getVersion_congr rfl).trans hversion)⟩
  refine (annotated_syncCSM hst).bind fun ⟨cr', err⟩ l₂ _ => ?_
  dsimp only
  split
  · refine annotated_frames.obeys (asks_finishInstall (fun _ => Aside.unrecorded)
      fun _ => StatusWork.unrecorded) fun _ _ _ _ => trivial
  · have hfail : Asks Unrecorded (fun _ => True)
        (failInstall { csm.withStatus st with annotations := cr'.annotations } err) :=
      .bind (.ask (.event _ _ _ _) trivial) fun _ => .pure trivial
    exact annotated_frames.obeys hfail fun _ _ _ _ => trivial

theorem annotated_reconcilePrepared (h : Holds key csm l) :
    (annotated rt.op).Obeys (reconcilePrepared rt csm) l fun _ _ => True := by
  obtain ⟨spec, hspec⟩ := afterDriverPrecheck_eq csm
  have hpre : Holds key (afterDriverPrecheck csm) l := by
    rw [hspec]
    exact h
  refine obeys_reconcilePrepared annotated_noise (fun cr e l₁ _ _ => ?_) fun l₁ h₁ _ => ?_
  · exact annotated_frames.obeys ((statusWork_handleValidationError e).mono
      fun _ => StatusWork.unrecorded) fun _ _ _ _ => trivial
  · subst h₁
    split
    · refine obeys_reconcileDeletion (F := fun _ => True) annotated_noise (fun _ _ _ _ => trivial)
        trivial (fun _ _ _ => trivial) fun l₂ h₂ => ?_
      subst h₂
      have hfinish : ∀ l₃, (annotated rt.op).Obeys (finishDeletion (afterDriverPrecheck csm)) l₃
          fun _ _ => True :=
        fun l₃ => annotated_frames.obeys ((watching_finishDeletion _).weaken.aside.mono
          fun _ => Aside.unrecorded) fun _ _ _ _ => trivial
      unfold removeFinalizer
      split
      · obtain ⟨hkey, rfl⟩ := hpre
        have hupdate : (annotated rt.op).Obeys (updateCSM { afterDriverPrecheck csm with finalizers := [] })
            { key := some key, seen := some ((afterDriverPrecheck csm).lookup configVersionKey) } _ :=
          annotated_updateCSM hkey fun hnone => hnone
        refine hupdate.bind fun r l₃ _ => ?_
        cases r with
        | error e => exact Monitor.Obeys.pure_iff.mpr ⟨fun _ => trivial, fun _ => hfinish l₃⟩
        | ok cr => exact Monitor.Obeys.pure_iff.mpr ⟨fun _ => trivial, fun _ => hfinish l₃⟩
      · exact Monitor.Obeys.pure_iff.mpr ⟨fun _ => trivial, fun _ => hfinish l₂⟩
    · refine obeys_reconcileInstall (V := Holds key) (W := Recorded rt.op key) (F := fun _ => True)
        annotated_noise (fun _ _ _ _ => trivial) ?_ hpre (fun _ _ _ => trivial) ?_
        (fun _ _ => annotated_recordVersion) fun _ _ => annotated_syncAndFinish
      · rintro cr l₂ _ rfl hcr
        exact hcr
      · obtain ⟨hkey, rfl⟩ := hpre
        refine Monitor.Obeys.mono (annotated_updateCSM hkey fun hnone => hnone) fun r l₂ hr => ?_
        cases r with
        | error e => trivial
        | ok cr => exact hr.2.2

/-- What a thread starts with. -/
def Entry.firstAnnotated (ent : Entry) : Annotated := { key := ent.reconciles }

theorem annotated_program (ent : Entry) :
    (annotated rt.op).Obeys (ent.program rt) ent.firstAnnotated fun _ _ => True := by
  cases ent with
  | update csmName e =>
      exact annotated_frames.obeys ((statusWork_informerUpdate csmName e).mono
        fun _ => StatusWork.unrecorded) fun _ _ _ _ => trivial
  | reconcile key =>
      have hbody : (annotated rt.op).Obeys (reconcile rt key) (Entry.firstAnnotated (.reconcile key))
          fun _ _ => True := by
        refine obeys_reconcile trivial (fun _ _ => trivial) fun cr hcr => ?_
        refine obeys_reconcileRead (fun _ _ => trivial) fun csm hcsm => ?_
        obtain ⟨spec, rfl⟩ := prepare_eq hcsm
        have hholds : Holds key { cr with spec }
            ((Entry.firstAnnotated (.reconcile key)).follow (.getCSM key) (.ok cr)) :=
          ⟨hcr, if_pos rfl⟩
        exact annotated_reconcilePrepared hholds
      refine hbody.bind fun ⟨result, err⟩ l₁ _ => ?_
      exact Monitor.Obeys.call_iff.mpr ⟨trivial, fun _ _ => Monitor.Obeys.ret_iff.mpr trivial⟩

/-! ## All interleavings -/

/-- The runs that are about one CR: it is reconciled by one worker at a time and not replaced by another
of its name, and every recorded step is one `IsValidUpgrade` accepts from the version in the stored
annotation. -/
structure UpgradeSteps (op : OperatorConfig) (kinds : NamespacedName → Kind) (key : NamespacedName)
    (ps : Threads) (m : Move Api World Entry) : Prop where
  worker : OneWorker ps m
  same : ∀ w, m = .drift w → ps.world.crs key = none → w.crs key = none
  accepted : ∀ i cr r s oldVersion newVersion, m = .act i ⟨.updateCSM cr, .ok r⟩ → cr.key = key →
    ps.world.crs key = some s → s.lookup configVersionKey = some oldVersion →
    cr.lookup configVersionKey = some newVersion → ValidUpgrade op kinds key oldVersion newVersion

/-- The condition on a run: the recorded version of an installed CR changes only when it is the
installed one, or to the installed one. -/
def FromInstalled (op : OperatorConfig) (key : NamespacedName) (ps : Threads)
    (m : Move Api World Entry) : Prop :=
  ∀ i cr r s installedVersion newVersion, m = .act i ⟨.updateCSM cr, .ok r⟩ → cr.key = key →
    ps.world.crs key = some s → lastInstalled op ps.log key = some installedVersion →
    cr.lookup configVersionKey = some newVersion → s.lookup configVersionKey ≠ some newVersion →
    s.lookup configVersionKey = some installedVersion ∨ newVersion = installedVersion

theorem UpgradeSteps.spawn {ps : Threads} {ent : Entry} (h : OneWorker ps (.spawn ent)) :
    UpgradeSteps op kinds key ps (.spawn ent) :=
  ⟨h, (fun _ heq => nomatch heq), fun _ _ _ _ _ _ heq => nomatch heq⟩

theorem UpgradeSteps.drift {ps : Threads} {w : World}
    (h : ps.world.crs key = none → w.crs key = none) :
    UpgradeSteps op kinds key ps (.drift w) := by
  refine ⟨trivial, fun w' heq => ?_, fun _ _ _ _ _ _ heq => nomatch heq⟩
  cases heq
  exact h

theorem FromInstalled.of_ne {ps : Threads} {m : Move Api World Entry} (h : ∀ i e, m ≠ .act i e) :
    FromInstalled op key ps m :=
  fun i _ _ _ _ _ heq => absurd heq (h i _)

/-- The annotation names a version that can be reached from the installed one. -/
structure InstalledOk (op : OperatorConfig) (kinds : NamespacedName → Kind) (key : NamespacedName)
    (w : World) (log : List (Nat × Event Api)) : Prop where
  keyed : w.KeyStored
  valid : ∀ s v, w.crs key = some s → lastInstalled op log key = some v →
    ValidUpgrade op kinds key v ((s.lookup configVersionKey).getD "")

/-- What a running reconcile has seen is what is stored. -/
structure AnnotatedTrue (op : OperatorConfig) (kinds : NamespacedName → Kind) (key : NamespacedName)
    (t : Entry × Op Unit) (w : World) (log : List (Nat × Event Api)) (l : Annotated) : Prop where
  key_eq : l.key = t.1.reconciles
  stored : l.key = some key → Running t.2 → ∀ a, l.seen = some a →
    ∀ s, w.crs key = some s → s.lookup configVersionKey = a
  valid : l.key = some key → Running t.2 → ∀ a, l.seen = some a →
    ∀ v, lastInstalled op log key = some v → ValidUpgrade op kinds key v (a.getD "")

variable {w w' : World} {log : List (Nat × Event Api)} {i : Nat} {ent : Entry} {ch : World.Choice}

/-- Only the return of a sync of the key installs something. -/
theorem lastInstalled_other {q : Request} {r : q.Answer}
    (hq : ∀ csm, q = .note (.synced csm none) → csm.key ≠ key) :
    lastInstalled op (log ++ [(i, ⟨q, r⟩)]) key = lastInstalled op log key := by
  have hnone : syncedVersion op key ⟨q, r⟩ = none := by
    unfold syncedVersion
    split
    next csm _ heq =>
      cases heq
      exact if_neg (hq csm rfl)
    next => rfl
  rw [lastInstalled_append, hnone]
  rfl

/-- A request that neither updates the CR nor returns from a sync of it keeps the meaning. -/
theorem installedOk_other {q : Request} {r : q.Answer} (hok : InstalledOk op kinds key w log)
    (hupdate : ∀ cr, q = .updateCSM cr → cr.key ≠ key)
    (hnote : ∀ csm, q = .note (.synced csm none) → csm.key ≠ key)
    (h : w.respond q ch = some (r, w')) : InstalledOk op kinds key w' (log ++ [(i, ⟨q, r⟩)]) where
  keyed := World.keyStored_of_respond hok.keyed h
  valid s v hs hv := by
    rw [lastInstalled_other hnote] at hv
    rcases World.stored_of_respond_other hupdate h with hsame | ⟨s₀, status, rv, hs₀, hs'⟩
    · rw [hsame] at hs
      exact hok.valid s v hs hv
    · rw [hs'] at hs
      cases hs
      exact hok.valid s₀ v hs₀ hv

theorem annotatedTrue_other {q : Request} {r : q.Answer} {t : Entry × Op Unit} {p' : Op Unit}
    (hl : AnnotatedTrue op kinds key t w log l) (hp : Running p' → Running t.2)
    (hupdate : ∀ cr, q = .updateCSM cr → cr.key ≠ key)
    (hnote : ∀ csm, q = .note (.synced csm none) → csm.key ≠ key)
    (h : w.respond q ch = some (r, w')) :
    AnnotatedTrue op kinds key (t.1, p') w' (log ++ [(i, ⟨q, r⟩)]) l where
  key_eq := hl.key_eq
  stored hkey hrun a ha s hs := by
    rcases World.stored_of_respond_other hupdate h with hsame | ⟨s₀, status, rv, hs₀, hs'⟩
    · rw [hsame] at hs
      exact hl.stored hkey (hp hrun) a ha s hs
    · rw [hs'] at hs
      cases hs
      exact hl.stored hkey (hp hrun) a ha s₀ hs₀
  valid hkey hrun a ha v hv := by
    rw [lastInstalled_other hnote] at hv
    exact hl.valid hkey (hp hrun) a ha v hv

/-- The server answers about the CR it was asked about, and an update leaves spec and annotations as
they were sent. -/
theorem annotated_expects {q : Request} {r : q.Answer} (hkeyed : w.KeyStored)
    (h : w.respond q ch = some (r, w')) : Annotated.Expects q r := by
  unfold Annotated.Expects
  split
  next key cr => exact hkeyed key cr ((World.of_getCSM h).2 cr rfl)
  next cr cr' =>
    rcases World.of_updateCSM h with ⟨-, e, heq⟩ | ⟨stored, -, -, heq, -⟩
    · cases heq
    · cases heq
      exact ⟨rfl, rfl, rfl⟩
  next => trivial

/-- What a reconcile learns from a read is true. -/
theorem annotatedTrue_getCSM {k : NamespacedName} {t : Entry × Op Unit} {p' : Op Unit}
    {cr : ContainerStorageModule} (hok : InstalledOk op kinds key w log)
    (hl : AnnotatedTrue op kinds key t w log l) (hp : Running p' → Running t.2)
    (h : w.respond (.getCSM k) ch = some (.ok cr, w')) :
    AnnotatedTrue op kinds key (t.1, p') w' (log ++ [(i, ⟨.getCSM k, .ok cr⟩)])
      (l.follow (.getCSM k) (.ok cr)) := by
  have hsame := annotatedTrue_other (i := i) hl hp (q := .getCSM k)
    (fun _ heq => nomatch heq) (fun _ heq => nomatch heq) h
  obtain ⟨rfl, hcr⟩ := World.of_getCSM h
  have hcr := hcr cr rfl
  show AnnotatedTrue op kinds key (t.1, p') w' _ (if l.key = some k then _ else l)
  split
  next hk =>
    refine ⟨hl.key_eq, fun hkey _ a ha s hs => ?_, fun hkey _ a ha v hv => ?_⟩
    · obtain rfl : k = key := Option.some.inj (hk.symm.trans hkey)
      rw [hcr] at hs
      cases hs
      exact Option.some.inj ha
    · obtain rfl : k = key := Option.some.inj (hk.symm.trans hkey)
      obtain rfl : cr.lookup configVersionKey = a := Option.some.inj ha
      have hlog : lastInstalled op (log ++ [(i, ⟨.getCSM k, .ok cr⟩)]) k = lastInstalled op log k :=
        lastInstalled_other (q := .getCSM k) fun _ heq => nomatch heq
      exact hok.valid cr v hcr (hlog.symm.trans hv)
  next => exact hsame

section Served

variable {ps : Threads}

/-- After an update of its CR, a reconcile has seen what is stored, and that can be reached from the
installed version. -/
theorem served_updateCSM {cr : ContainerStorageModule} {r : Except GoError ContainerStorageModule}
    {p p' : Op Unit} (hok : InstalledOk op kinds key ps.world ps.log)
    (hl : AnnotatedTrue op kinds key (ent, p) ps.world ps.log l) (hrun : Running p)
    (hguard : l.Allows op (.updateCSM cr)) (h : ps.world.respond (.updateCSM cr) ch = some (r, w'))
    (hsteps : UpgradeSteps op kinds key ps (.act i ⟨.updateCSM cr, r⟩))
    (hfrom : FromInstalled op key ps (.act i ⟨.updateCSM cr, r⟩)) :
    InstalledOk op kinds key w' (ps.log ++ [(i, ⟨.updateCSM cr, r⟩)]) ∧
      AnnotatedTrue op kinds key (ent, p') w' (ps.log ++ [(i, ⟨.updateCSM cr, r⟩)])
        (l.follow (.updateCSM cr) r) := by
  obtain ⟨hkey, a, hseen, hnone⟩ := hguard
  have hlog : lastInstalled op (ps.log ++ [(i, (⟨.updateCSM cr, r⟩ : Event Api))]) key =
      lastInstalled op ps.log key := lastInstalled_other fun _ heq => nomatch heq
  rcases World.of_updateCSM h with ⟨hw, e, rfl⟩ | ⟨stored, hstored, -, hr, hw⟩
  · -- nothing was stored
    rw [hw]
    refine ⟨⟨hok.keyed, fun s v hs hv => hok.valid s v hs (hlog ▸ hv)⟩, hl.key_eq,
      fun hk _ => hl.stored hk hrun, fun hk _ a ha v hv => hl.valid hk hrun a ha v (hlog ▸ hv)⟩
  · subst hr
    -- what is stored under the key of the update
    have hnew : ∀ s, w'.crs cr.key = some s →
        s.lookup configVersionKey = cr.lookup configVersionKey := by
      intro s hs
      rw [hw] at hs
      have hs : Function.update ps.world.crs cr.key (World.kept (ps.world.updated stored cr)) cr.key =
          some s := hs
      rw [Function.update_self, World.kept] at hs
      split at hs
      · cases hs
      · cases hs
        rfl
    -- and that can be reached
    have hvalid : ∀ v, cr.key = key → lastInstalled op ps.log key = some v →
        ValidUpgrade op kinds key v ((cr.lookup configVersionKey).getD "") := by
      intro v hk hv
      subst hk
      have hold := hok.valid stored v hstored hv
      cases hlookup : cr.lookup configVersionKey with
      | none =>
          have hseen' := hl.valid hkey hrun a hseen v hv
          rw [hnone hlookup] at hseen'
          exact hseen'
      | some newVersion =>
          by_cases hsame : stored.lookup configVersionKey = some newVersion
          · rw [hsame] at hold
            exact hold
          · rcases hfrom i cr _ stored v newVersion rfl rfl hstored hv hlookup hsame with hv' | rfl
            · exact hsteps.accepted i cr _ stored v newVersion rfl rfl hstored hv' hlookup
            · exact ValidUpgrade.refl op kinds cr.key newVersion
    refine ⟨⟨World.keyStored_of_respond hok.keyed h, fun s v hs hv => ?_⟩, hl.key_eq,
      fun hk _ a' ha' s hs => ?_, fun hk _ a' ha' v hv => ?_⟩
    · rw [hlog] at hv
      by_cases hk : cr.key = key
      · subst hk
        rw [hnew s hs]
        exact hvalid v rfl hv
      · rw [hw] at hs
        have hs : Function.update ps.world.crs cr.key _ key = some s := hs
        rw [Function.update_of_ne (Ne.symm hk)] at hs
        exact hok.valid s v hs hv
    · obtain rfl : cr.key = key := Option.some.inj (hkey.symm.trans hk)
      rw [hnew s hs]
      exact Option.some.inj ha'
    · obtain rfl : cr.key = key := Option.some.inj (hkey.symm.trans hk)
      obtain rfl : cr.lookup configVersionKey = a' := Option.some.inj ha'
      rw [hlog] at hv
      exact hvalid v rfl hv

/-- After a completed sync the installed version is the one in the annotation. -/
theorem served_synced {csm : ContainerStorageModule} {r : Unit} {p p' : Op Unit}
    (hok : InstalledOk op kinds key ps.world ps.log)
    (hl : AnnotatedTrue op kinds key (ent, p) ps.world ps.log l) (hrun : Running p)
    (hguard : l.Allows op (.note (.synced csm none)))
    (h : ps.world.respond (.note (.synced csm none)) ch = some (r, w')) :
    InstalledOk op kinds key w' (ps.log ++ [(i, ⟨.note (.synced csm none), r⟩)]) ∧
      AnnotatedTrue op kinds key (ent, p') w' (ps.log ++ [(i, ⟨.note (.synced csm none), r⟩)]) l := by
  obtain ⟨hkey, a, hseen, hversion⟩ := hguard
  cases h
  -- the installed version is new, or the one there was
  have hlast : ∀ v, lastInstalled op (ps.log ++ [(i, (⟨.note (.synced csm none), ()⟩ : Event Api))]) key =
      some v → lastInstalled op ps.log key = some v ∨ csm.key = key ∧ a.getD "" = v := by
    intro v hv
    rw [lastInstalled_append] at hv
    by_cases hk : csm.key = key
    · have hsynced : syncedVersion op key ⟨.note (.synced csm none), ()⟩ =
          (getVersion op csm).toOption := if_pos hk
      rw [hsynced] at hv
      cases hget : getVersion op csm with
      | error e =>
          rw [hget] at hv
          exact .inl hv
      | ok version =>
          rw [hget] at hv
          exact .inr ⟨hk, (hversion version hget).trans (Option.some.inj hv)⟩
    · have hsynced : syncedVersion op key ⟨.note (.synced csm none), ()⟩ = none := if_neg hk
      rw [hsynced] at hv
      exact .inl hv
  refine ⟨⟨hok.keyed, fun s v hs hv => ?_⟩, hl.key_eq, fun hk _ => hl.stored hk hrun,
    fun hk _ a' ha' v hv => ?_⟩
  · rcases hlast v hv with hv | ⟨hk, rfl⟩
    · exact hok.valid s v hs hv
    · rw [hl.stored (hk ▸ hkey) hrun a hseen s hs]
      exact ValidUpgrade.refl op kinds key _
  · obtain rfl : a = a' := Option.some.inj (hseen.symm.trans ha')
    rcases hlast v hv with hv | ⟨-, rfl⟩
    · exact hl.valid hk hrun a hseen v hv
    · exact ValidUpgrade.refl op kinds key _

/-- Every served request keeps the invariant and teaches the thread the truth. -/
theorem annotated_served {q : Request} {r : q.Answer} {p : Op Unit} (p' : Op Unit)
    (hok : InstalledOk op kinds key ps.world ps.log)
    (hl : AnnotatedTrue op kinds key (ent, p) ps.world ps.log l) (hrun : Running p)
    (hguard : l.Allows op q) (h : ps.world.respond q ch = some (r, w'))
    (hsteps : UpgradeSteps op kinds key ps (.act i ⟨q, r⟩))
    (hfrom : FromInstalled op key ps (.act i ⟨q, r⟩)) :
    InstalledOk op kinds key w' (ps.log ++ [(i, ⟨q, r⟩)]) ∧
      AnnotatedTrue op kinds key (ent, p') w' (ps.log ++ [(i, ⟨q, r⟩)]) (l.follow q r) := by
  have hother : (∀ cr, q ≠ .updateCSM cr) → (∀ csm, q ≠ .note (.synced csm none)) →
      InstalledOk op kinds key w' (ps.log ++ [(i, ⟨q, r⟩)]) ∧
        AnnotatedTrue op kinds key (ent, p') w' (ps.log ++ [(i, ⟨q, r⟩)]) l := by
    intro hupdate hnote
    exact ⟨installedOk_other hok (fun cr heq => absurd heq (hupdate cr))
        (fun csm heq => absurd heq (hnote csm)) h,
      annotatedTrue_other hl (fun _ => hrun) (fun cr heq => absurd heq (hupdate cr))
        (fun csm heq => absurd heq (hnote csm)) h⟩
  cases q with
  | getCSM k =>
      have hsame := hother (fun _ heq => nomatch heq) fun _ heq => nomatch heq
      match r with
      | .error e => exact hsame
      | .ok cr => exact ⟨hsame.1, annotatedTrue_getCSM hok hl (fun _ => hrun) h⟩
  | updateCSM cr => exact served_updateCSM hok hl hrun hguard h hsteps hfrom
  | note n =>
      match n with
      | .synced csm none => exact served_synced hok hl hrun hguard h
      | .synced csm (some e) => exact hother (fun _ heq => nomatch heq) fun _ heq => nomatch heq
      | .calculated _ _ _ => exact hother (fun _ heq => nomatch heq) fun _ heq => nomatch heq
      | .statusUpdated _ _ => exact hother (fun _ heq => nomatch heq) fun _ heq => nomatch heq
      | .reconciled _ _ _ => exact hother (fun _ heq => nomatch heq) fun _ heq => nomatch heq
  | _ => exact hother (fun _ heq => nomatch heq) fun _ heq => nomatch heq

end Served

/-- **In every run of one CR** in which the recorded version of an installed CR changes only from or to
the installed one, a sync is completed only with a version that `IsValidUpgrade` accepts from that of
the last completed sync. -/
theorem completed_sync_valid {w₀ : World} {ps ps' : Threads} {version installedVersion : String}
    (hkeyed : w₀.KeyStored)
    (hrun : Pool.Reach (environment kinds) (Entry.program rt)
      (fun ps m => UpgradeSteps rt.op kinds key ps m ∧ FromInstalled rt.op key ps m)
      (Pool.empty w₀) ps)
    (hstep : Pool.Step (environment kinds) (Entry.program rt) ps
      (.act i ⟨.note (.synced csm none), ()⟩) ps')
    (hkey : csm.key = key) (hversion : getVersion rt.op csm = .ok version)
    (hlast : lastInstalled rt.op ps.log key = some installedVersion) :
    (isValidUpgrade rt.op installedVersion version (upgradeComponent (kinds key))).1 = true := by
  have halone := hrun.with_invariant fun ps h => alone_of_reach (fun _ _ hok => hok.1.worker) h
  have hempty : InstalledOk rt.op kinds key w₀ [] := ⟨hkeyed, fun _ _ _ h => nomatch h⟩
  have hghost := halone.exists_known (annotated rt.op) Entry.firstAnnotated
    (fun _ ent _ => annotated_program ent) (InstalledOk rt.op kinds key)
    (fun _ t w log l => AnnotatedTrue rt.op kinds key t w log l) hempty
    (fun ps ent _ _ _ => ⟨rfl, (fun _ _ _ h => nomatch h), fun _ _ _ h => nomatch h⟩)
    (fun ps w hok hsteps hdrift => ?_) (fun ps i ent l q k c r w hok hl ht hguard hr hsteps => ?_)
  · obtain ⟨-, ls, hwatched, hthreads⟩ := hghost
    cases hstep with
    | act hthread hr =>
        obtain ⟨l, hl, hobeys⟩ := hwatched.get hthread
        have htrue := hthreads i _ l hthread hl
        obtain ⟨hk, a, hseen, hann⟩ := (Monitor.Obeys.call_iff.mp hobeys).1
        have hvalid := htrue.valid (hkey ▸ hk) ⟨_, _, rfl⟩ a hseen installedVersion hlast
        rw [hann version hversion] at hvalid
        exact hvalid
  · obtain ⟨⟨hsteps, -⟩, -⟩ := hsteps
    -- the CR is edited, but not its annotation, or it is gone
    have hstored : ∀ s', w.crs key = some s' → ∃ s, ps.world.crs key = some s ∧
        s'.lookup configVersionKey = s.lookup configVersionKey := by
      intro s' hs'
      have hedit := hdrift.crs key
      rw [hs'] at hedit
      generalize ho : ps.world.crs key = o at hedit
      cases hedit with
      | untouched => exact ⟨s', rfl, rfl⟩
      | edited _ _ _ howned _ => exact ⟨_, rfl, howned configVersionKey (List.mem_cons_self ..)⟩
      | created => exact absurd ((hsteps.same w rfl ho).symm.trans hs') nofun
    refine ⟨⟨World.keyStored_of_drift hok.keyed hdrift, fun s' v hs' hv => ?_⟩,
      fun j t l ht hl => ⟨hl.key_eq, fun hk hrunning a ha s' hs' => ?_, hl.valid⟩⟩
    · obtain ⟨s, hs, hlookup⟩ := hstored s' hs'
      rw [hlookup]
      exact hok.valid s v hs hv
    · obtain ⟨s, hs, hlookup⟩ := hstored s' hs'
      rw [hlookup]
      exact hl.stored hk hrunning a ha s hs
  · obtain ⟨⟨hsteps, hfrom⟩, halone⟩ := hsteps
    have hrunning : Running (.call q k) := ⟨q, k, rfl⟩
    obtain ⟨hok', hl'⟩ := annotated_served (k r) hok hl hrunning hguard hr hsteps hfrom
    refine ⟨annotated_expects hok.keyed hr, hok', hl', fun j t l' hj ht' hl' => ?_⟩
    -- another reconcile of the key that is running rules out that this one is
    by_cases hmine : l.key = some key
    · have hent := Entry.of_reconciles (hl.key_eq.symm.trans hmine)
      have hnot : l'.key = some key → ¬ Running t.2 := by
        intro hkey' hrunning'
        have hent' := Entry.of_reconciles (hl'.key_eq.symm.trans hkey')
        refine hj (halone j i key t.2 _ ?_ (hent ▸ ht) hrunning' hrunning)
        rw [ht', ← hent']
      exact ⟨hl'.key_eq, fun hk hrun' => absurd hrun' (hnot hk), fun hk hrun' => absurd hrun' (hnot hk)⟩
    · refine annotatedTrue_other hl' (fun h => h) (fun cr heq => ?_) (fun csm heq => ?_) hr
      · subst heq
        exact fun hk => hmine (hk ▸ hguard.1)
      · subst heq
        exact fun hk => hmine (hk ▸ hguard.1)

/-! ### By way of a version that was not installed -/

/-- The recorded step is one `IsValidUpgrade` accepts. -/
def acceptsStep (ps : Threads) : Event Api → Bool
  | ⟨.updateCSM cr, .ok _⟩ =>
    match (ps.world.crs isilonCR.key).bind (·.lookup configVersionKey), cr.lookup configVersionKey with
    | some oldVersion, some newVersion =>
      (isValidUpgrade shippedConfig oldVersion newVersion
        (upgradeComponent (isilonKinds isilonCR.key))).1
    | _, _ => true
  | _ => true

/-- The recorded version is the installed one, or becomes it again. -/
def startsInstalled (ps : Threads) : Event Api → Bool
  | ⟨.updateCSM cr, .ok _⟩ =>
    match lastInstalled shippedConfig ps.log isilonCR.key with
    | some v =>
      let recorded := (ps.world.crs isilonCR.key).bind (·.lookup configVersionKey)
      recorded = cr.lookup configVersionKey || recorded = some v || cr.lookup configVersionKey = some v
    | none => true
  | _ => true

theorem acceptsStep_sound {ps : Threads} {i : Nat} {e : Event Api} (h : acceptsStep ps e = true) :
    UpgradeSteps shippedConfig isilonKinds isilonCR.key ps (.act i e) := by
  refine ⟨trivial, (fun _ heq => nomatch heq), ?_⟩
  rintro j cr r s oldVersion newVersion heq hkey hs hold hnew
  cases heq
  simp only [acceptsStep, hs, Option.bind_some, hold, hnew] at h
  exact h

theorem startsInstalled_sound {ps : Threads} {i : Nat} {e : Event Api}
    (h : startsInstalled ps e = true) : FromInstalled shippedConfig isilonCR.key ps (.act i e) := by
  rintro j cr r s v newVersion heq hkey hs hv hnew hne
  cases heq
  simp only [startsInstalled, hv, hs, Option.bind_some, hnew, Bool.or_eq_true, decide_eq_true_eq,
    Option.some.injEq] at h
  rcases h with (h | h) | h
  · exact absurd h hne
  · exact .inl h
  · exact .inr h

/-- A CR that asks for v2.14.0. -/
def olderWorld : World := .storing [{ isilonCR with spec := isilonSpec "v2.14.0" }] runningCluster

/-- The user asks for another version. -/
def askFor (version : String) (ps : Threads) : Threads :=
  { ps with world := ps.world.edit isilonCR.key (isilonSpec version) }

/-- Applying the DaemonSet fails. -/
def daemonsetDenied : List World.Choice :=
  smooth 26 ++ [{ fault := some (errorf "admission webhook denied the request") }] ++ smooth 10

def inOrder (ps : Threads) (_ : Nat) (e : Event Api) : Bool := acceptsStep ps e && startsInstalled ps e

/-- v2.14.0 is installed. -/
def olderInstalled : Threads :=
  startAndRun isilonKinds shippedRuntime inOrder (.reconcile isilonCR.key) (smooth 60)
    (Pool.empty olderWorld)

/-- Then v2.16.0 is asked for, and its sync fails. -/
def olderFailed : Threads :=
  startAndRun isilonKinds shippedRuntime inOrder (.reconcile isilonCR.key) daemonsetDenied
    (askFor "v2.16.0" olderInstalled)

theorem keyStored_olderWorld : olderWorld.KeyStored := World.keyStored_storing _ _

theorem bounded_olderWorld : olderWorld.Bounded := World.bounded_storing (by decide)

/-- A change of the version asked for, in a run. -/
theorem reach_askFor {Ok : Threads → Move Api World Entry → Prop} {ps : Threads} {version : String}
    (h : Pool.Reach (environment isilonKinds) (Entry.program shippedRuntime) Ok
      (Pool.empty olderWorld) ps)
    (hstored : ((ps.world.crs isilonCR.key).all fun cr => cr.key = isilonCR.key ∧ cr.name ≠ "") = true)
    (hok : ∀ w, (ps.world.crs isilonCR.key = none → w.crs isilonCR.key = none) → Ok ps (.drift w)) :
    Pool.Reach (environment isilonKinds) (Entry.program shippedRuntime) Ok (Pool.empty olderWorld)
      (askFor version ps) := by
  refine reach_edit h bounded_olderWorld (fun cr hcr => ?_) (hok _ fun hnone => ?_)
  · rw [hcr, Option.all_some, decide_eq_true_eq] at hstored
    exact ⟨hstored.1, hstored.2, rfl⟩
  · rw [World.edit, World.change_crs_self, hnone]
    rfl

section Runs

variable {Ok : Threads → Move Api World Entry → Prop}
  (hspawn : ∀ ps key, allDone ps = true → Ok ps (.spawn (.reconcile key)))
  (hact : ∀ ps i e, inOrder ps i e = true → Ok ps (.act i e))
  (hdrift : ∀ ps w, (ps.world.crs isilonCR.key = none → w.crs isilonCR.key = none) →
    Ok ps (.drift w))
include hspawn hact hdrift

theorem reach_olderFailed :
    Pool.Reach (environment isilonKinds) (Entry.program shippedRuntime) Ok (Pool.empty olderWorld)
      olderFailed := by
  have hinstalled : Pool.Reach (environment isilonKinds) (Entry.program shippedRuntime) Ok
      (Pool.empty olderWorld) olderInstalled := reach_startAndRun .refl (hspawn _ _ rfl) hact
  refine reach_startAndRun (reach_askFor hinstalled (by decide +kernel) (hdrift _)) (hspawn _ _ ?_) hact
  decide +kernel

end Runs

/-- The completed sync a thread is about to return from. -/
def pendingSync (ps : Threads) (i : Nat) : Option ContainerStorageModule :=
  match ps.threads[i]? with
  | some (_, .call (.note (.synced csm none)) _) => some csm
  | _ => none

/-- A version that was found is the one the CR asks for. -/
theorem getVersion_of_toOption {version : String}
    (h : (getVersion op csm).toOption = some version) : getVersion op csm = .ok version := by
  cases hget : getVersion op csm with
  | error e =>
      rw [hget] at h
      cases h
  | ok v =>
      rw [hget] at h
      exact congrArg Except.ok (Option.some.inj h)

theorem step_of_pendingSync {ps : Threads} (h : pendingSync ps i = some csm) :
    ∃ ps', Pool.Step (environment kinds) (Entry.program rt) ps
      (.act i ⟨.note (.synced csm none), ()⟩) ps' := by
  unfold pendingSync at h
  split at h
  next ent csm' k hthread =>
    cases h
    have hserved : (environment kinds).respond ps.world (.note (.synced csm none)) {} =
        some ((), ps.world) := rfl
    exact ⟨_, .act hthread hserved⟩
  next => cases h

/-- The sync of v2.16.0 is tried again, and is about to be completed. -/
def olderRetried : Threads :=
  startAndRun isilonKinds shippedRuntime inOrder (.reconcile isilonCR.key) (smooth 26) olderFailed

/-- The theorem for that sync. -/
theorem completed_sync_valid_retried :
    lastInstalled shippedConfig olderRetried.log isilonCR.key = some "v2.14.0" ∧
      (isValidUpgrade shippedConfig "v2.14.0" "v2.16.0"
        (upgradeComponent (isilonKinds isilonCR.key))).1 = true := by
  have hpending : ((pendingSync olderRetried 2).any fun csm => csm.key = isilonCR.key ∧
      (getVersion shippedConfig csm).toOption = some "v2.16.0") = true := by decide +kernel
  have hlast : lastInstalled shippedConfig olderRetried.log isilonCR.key = some "v2.14.0" := by
    decide +kernel
  obtain ⟨csm, hcsm, hprops⟩ := (Option.any_eq_true ..).mp hpending
  obtain ⟨hkey, hversion⟩ := of_decide_eq_true hprops
  obtain ⟨ps', hstep⟩ := step_of_pendingSync hcsm
  have hspawn : ∀ ps key, allDone ps = true →
      UpgradeSteps shippedConfig isilonKinds isilonCR.key ps (.spawn (.reconcile key)) ∧
        FromInstalled shippedConfig isilonCR.key ps (.spawn (.reconcile key)) :=
    fun _ key hdone => ⟨.spawn (not_reconciling hdone key), .of_ne fun _ _ heq => nomatch heq⟩
  have hact : ∀ ps i e, inOrder ps i e = true →
      UpgradeSteps shippedConfig isilonKinds isilonCR.key ps (.act i e) ∧
        FromInstalled shippedConfig isilonCR.key ps (.act i e) := by
    intro ps i e h
    obtain ⟨haccepts, hstarts⟩ := Bool.and_eq_true_iff.mp h
    exact ⟨acceptsStep_sound haccepts, startsInstalled_sound hstarts⟩
  have hrun : Pool.Reach (environment isilonKinds) (Entry.program shippedRuntime)
      (fun ps m => UpgradeSteps shippedConfig isilonKinds isilonCR.key ps m ∧
        FromInstalled shippedConfig isilonCR.key ps m) (Pool.empty olderWorld) olderRetried := by
    refine reach_startAndRun (reach_olderFailed hspawn hact fun ps w hsame => ?_) (hspawn _ _ ?_) hact
    · exact ⟨.drift hsame, .of_ne fun _ _ heq => nomatch heq⟩
    · decide +kernel
  exact ⟨hlast, completed_sync_valid keyStored_olderWorld hrun hstep hkey
    (getVersion_of_toOption hversion) hlast⟩

/-- v2.17.0 is asked for instead, and its sync is about to be completed. -/
def olderSkipped : Threads :=
  startAndRun isilonKinds shippedRuntime (fun ps _ e => acceptsStep ps e) (.reconcile isilonCR.key)
    (smooth 27) (askFor "v2.17.0" olderFailed)

/-- Every step was accepted, and yet v2.17.0 is installed over v2.14.0. -/
theorem invalid_upgrade_completed :
    Pool.Reach (environment isilonKinds) (Entry.program shippedRuntime)
      (UpgradeSteps shippedConfig isilonKinds isilonCR.key) (Pool.empty olderWorld) olderSkipped ∧
    ∃ csm ps', Pool.Step (environment isilonKinds) (Entry.program shippedRuntime) olderSkipped
        (.act 2 ⟨.note (.synced csm none), ()⟩) ps' ∧
      csm.key = isilonCR.key ∧ getVersion shippedConfig csm = .ok "v2.17.0" ∧
      lastInstalled shippedConfig olderSkipped.log isilonCR.key = some "v2.14.0" ∧
      (isValidUpgrade shippedConfig "v2.14.0" "v2.17.0"
        (upgradeComponent (isilonKinds isilonCR.key))).1 = false := by
  have hspawn : ∀ ps key, allDone ps = true →
      UpgradeSteps shippedConfig isilonKinds isilonCR.key ps (.spawn (.reconcile key)) :=
    fun _ key hdone => .spawn (not_reconciling hdone key)
  have hdrift : ∀ (ps : Threads) w, (ps.world.crs isilonCR.key = none → w.crs isilonCR.key = none) →
      UpgradeSteps shippedConfig isilonKinds isilonCR.key ps (.drift w) := fun _ _ => .drift
  have hpending : ((pendingSync olderSkipped 2).any fun csm => csm.key = isilonCR.key ∧
      (getVersion shippedConfig csm).toOption = some "v2.17.0") = true := by decide +kernel
  obtain ⟨csm, hcsm, hprops⟩ := (Option.any_eq_true ..).mp hpending
  obtain ⟨hkey, hversion⟩ := of_decide_eq_true hprops
  obtain ⟨ps', hstep⟩ := step_of_pendingSync hcsm
  refine ⟨?_, csm, ps', hstep, hkey, getVersion_of_toOption hversion, by decide +kernel,
    by decide +kernel⟩
  have hfailed := reach_olderFailed hspawn (fun _ _ _ h =>
    acceptsStep_sound (Bool.and_eq_true_iff.mp h).1) hdrift
  refine reach_startAndRun (reach_askFor hfailed ?_ (hdrift _)) (hspawn _ _ ?_)
    fun _ _ _ => acceptsStep_sound
  · decide +kernel
  · decide +kernel

end CsmOperator
