import CsmOperator.Status.Running
import CsmOperator.World.Threads

/-!
# Which configuration is recorded as the last successful one

`UpdateStatus` records as last successful configuration what the annotation of the CR says, once the
driver is found running. The annotation is written in the middle of `SyncCSM`, before any driver
object is applied; while the sync goes on, and after it has failed, the annotation names a
configuration that was not installed. A reconcile only gets to `UpdateStatus` after its own sync went
through. An event handler has no such protection: it takes the annotation it reads.

Followed through all interleavings, the recorded configuration of a driver CR is always one that a
`SyncCSM` returned without error for, as long as no handler reads its CR at a time when the annotation
names a configuration that was not synced.

A thread is watched with the configurations it knows to be synced.
-/

namespace CsmOperator

open Interaction

/-- The configuration of a CR that a call was a completed sync of. -/
def syncedConfig (rt : Runtime) (key : NamespacedName) : Event Api → Option String
  | ⟨.note (.synced cr none), _⟩ =>
    if cr.key = key then (rt.jsonMarshal (recordedCR cr)).toOption else none
  | _ => none

/-- No configuration, or one that some `SyncCSM` has returned without error for. -/
def Synced (rt : Runtime) (log : List (Nat × Event Api)) (key : NamespacedName) (c : String) : Prop :=
  c = "" ∨ ∃ x ∈ log, syncedConfig rt key x.2 = some c

instance (rt : Runtime) (log : List (Nat × Event Api)) (key : NamespacedName) (c : String) :
    Decidable (Synced rt log key c) :=
  inferInstanceAs (Decidable (_ ∨ _))

theorem Synced.append {rt : Runtime} {log : List (Nat × Event Api)} {key : NamespacedName}
    {c : String} (h : Synced rt log key c) (log' : List (Nat × Event Api)) :
    Synced rt (log ++ log') key c := by
  rcases h with h | ⟨x, hx, h⟩
  · exact .inl h
  · exact .inr ⟨x, List.mem_append_left _ hx, h⟩

/-- What `PreviouslyApplied` says. -/
def ContainerStorageModule.applied (cr : ContainerStorageModule) : String :=
  goLookup cr.annotations previouslyApplied

/-- A key of a driver: `SyncCSM` goes all the way for its CRs. -/
def Kind.IsDriver (k : Kind) : Prop := k.proxy = false ∧ k.driverType ≠ .unset

/-! ## What a thread knows -/

/-- Configurations known to be synced, by the CR they are of; and whether the thread is a handler
that has not read its CR yet. -/
structure Known where
  configs : List (NamespacedName × String) := []
  fresh : Bool := false

variable {kinds : NamespacedName → Kind} {rt : Runtime} {key : NamespacedName}
  {cr : ContainerStorageModule} {l l' : Known} {c : String}

/-- A configuration a thread may record. Keys of other CRs than drivers are not followed. -/
def Vouched (kinds : NamespacedName → Kind) (l : Known) (key : NamespacedName) (c : String) : Prop :=
  (kinds key).IsDriver → c = "" ∨ (key, c) ∈ l.configs

theorem Vouched.mono (h : Vouched kinds l key c) (hl : l.configs ⊆ l'.configs) :
    Vouched kinds l' key c :=
  fun hdriver => (h hdriver).imp_right fun h => hl h

namespace Known

def add (l : Known) (key : NamespacedName) (c : String) : Known :=
  { l with configs := (key, c) :: l.configs }

def Allows (kinds : NamespacedName → Kind) (l : Known) : Request → Prop
  | .updateCSM cr =>
    FitsKey kinds cr.key cr ∧ Vouched kinds l cr.key cr.status.lastSuccessfulConfiguration
  | .updateCSMStatus cr => Vouched kinds l cr.key cr.status.lastSuccessfulConfiguration
  | _ => True

def Expects (kinds : NamespacedName → Kind) : (q : Request) → q.Answer → Prop
  | .getCSM key, .ok cr => FitsKey kinds key cr
  | .updateCSM cr, .ok cr' =>
    cr'.key = cr.key ∧ cr'.spec = cr.spec ∧ cr'.annotations = cr.annotations
  | _, _ => True

/-- The recorded configuration is good wherever it is seen; the annotation only in the first read of a
handler, and after a sync of one's own. -/
def learn (rt : Runtime) (l : Known) : (q : Request) → q.Answer → Known
  | .getCSM key, .ok cr =>
    let l := l.add key cr.status.lastSuccessfulConfiguration
    { (if l.fresh then l.add key cr.applied else l) with fresh := false }
  | .getCSM _, .error _ => { l with fresh := false }
  | .updateCSM cr, .ok cr' => l.add cr.key cr'.status.lastSuccessfulConfiguration
  | .note (.synced cr none), _ =>
    match rt.jsonMarshal (recordedCR cr) with
    | .ok c => l.add cr.key c
    | .error _ => l
  | _, _ => l

end Known

/-- The monitor of the configurations a thread records. -/
def known (kinds : NamespacedName → Kind) (rt : Runtime) : Monitor Api Known where
  guard := Known.Allows kinds
  assume _ := Known.Expects kinds
  next := Known.learn rt

/-- Nothing is forgotten. -/
theorem configs_subset_learn (rt : Runtime) (l : Known) (q : Request) (r : q.Answer) :
    l.configs ⊆ (Known.learn rt l q r).configs := by
  unfold Known.learn
  split
  · dsimp only
    split
    · exact List.Subset.trans (List.subset_cons_self _ _) (List.subset_cons_self _ _)
    · exact List.subset_cons_self _ _
  · exact List.Subset.refl _
  · exact List.subset_cons_self _ _
  · split
    · exact List.subset_cons_self _ _
    · exact List.Subset.refl _
  · exact List.Subset.refl _

theorem known_frames :
    (known kinds rt).Frames (fun l l' => l.configs ⊆ l'.configs) Aside where
  refl _ := List.Subset.refl _
  trans _ _ _ := List.Subset.trans
  tolerates l q hq := by
    refine ⟨?_, fun r _ => configs_subset_learn rt l q r⟩
    cases q <;> trivial

/-- What is known of a CR from its first read to the sync. -/
def Tracked (kinds : NamespacedName → Kind) (cr : ContainerStorageModule) (l : Known) : Prop :=
  FitsKey kinds cr.key cr ∧ Vouched kinds l cr.key cr.status.lastSuccessfulConfiguration

/-- What is known of a CR whose status is computed and stored: also its annotation is good. A handler
that could not read its CR goes on with an empty one. -/
def Applied (kinds : NamespacedName → Kind) (cr : ContainerStorageModule) (l : Known) : Prop :=
  (cr = {} ∨ FitsKey kinds cr.key cr) ∧
    Vouched kinds l cr.key cr.status.lastSuccessfulConfiguration ∧ Vouched kinds l cr.key cr.applied

/-! ## The steps of a thread -/

theorem not_proxy (h : cr = {} ∨ FitsKey kinds cr.key cr) (hproxy : (kinds cr.key).proxy = false) :
    isAuthorizationProxyServer cr = false := by
  rcases h with rfl | hfits
  · rfl
  · exact (congrArg Kind.proxy hfits.kind_eq).trans hproxy

/-- Only for a proxy server does `calculateState` touch the recorded configuration. -/
theorem configuration_settleState {st : ContainerStorageModuleStatus}
    (h : cr = {} ∨ FitsKey kinds cr.key cr) (hproxy : (kinds cr.key).proxy = false)
    (hst : Recalculated cr st) (running : Bool) :
    (settleState rt (cr.withStatus st) running).status.lastSuccessfulConfiguration =
      cr.status.lastSuccessfulConfiguration := by
  have hserver : isAuthorizationProxyServer (cr.withStatus st) = false := by
    rw [isAuthorizationProxyServer_withStatus]
    exact not_proxy h hproxy
  rw [settleState_configuration hserver, ContainerStorageModule.withStatus_status, hst.configuration]

theorem known_calculateState {override_ : Option PodStatus} (h : cr = {} ∨ FitsKey kinds cr.key cr)
    (hrecorded : Vouched kinds l cr.key cr.status.lastSuccessfulConfiguration) :
    (known kinds rt).Obeys (calculateState rt cr override_) l fun x l' =>
      (∃ st, x.1 = cr.withStatus st) ∧ l.configs ⊆ l'.configs ∧
        Vouched kinds l' cr.key x.1.status.lastSuccessfulConfiguration := by
  have hinert : (known kinds rt).Frames (fun l l' => l.configs ⊆ l'.configs) Inert :=
    known_frames.mono fun _ hq => (Noise.of_inert hq).aside
  refine obeys_calculateState hinert fun st running err l₁ hst _ h₁ => ?_
  refine Monitor.Obeys.call_iff.mpr ⟨trivial, fun _ _ => Monitor.Obeys.ret_iff.mpr ⟨?_, h₁, ?_⟩⟩
  · obtain ⟨st', hst'⟩ := settleState_eq_withStatus rt (cr.withStatus st) running
    exact ⟨st', hst'⟩
  · intro hdriver
    rw [configuration_settleState h hdriver.1 hst]
    exact hrecorded.mono h₁ hdriver

/-- The configuration recorded is the one there was, or that of the annotation. -/
theorem vouched_recordConfiguration (running : Bool)
    (hrecorded : Vouched kinds l key cr.status.lastSuccessfulConfiguration)
    (happlied : Vouched kinds l key cr.applied) :
    Vouched kinds l key (recordConfiguration cr running).status.lastSuccessfulConfiguration := by
  unfold recordConfiguration
  dsimp only
  split_ifs
  · exact happlied
  · exact hrecorded
  · exact hrecorded

theorem known_writeStatus (h : Vouched kinds l cr.key cr.status.lastSuccessfulConfiguration) :
    (known kinds rt).Obeys (retryOnConflict (writeStatus cr) defaultRetrySteps) l
      fun _ _ => True := by
  let Inv : Known → Prop := fun l => Vouched kinds l cr.key cr.status.lastSuccessfulConfiguration
  refine Monitor.Obeys.mono (obeys_retryOnConflict (J := Inv) (Q := fun _ _ => True)
    (fun l₁ h₁ => ?_) 4 h) fun _ _ _ => trivial
  have hlearn : ∀ q r l₂, Inv l₂ → Inv (Known.learn rt l₂ q r) :=
    fun q r l₂ h₂ => h₂.mono (configs_subset_learn rt l₂ q r)
  refine obeys_writeStatus trivial (fun e _ => ⟨trivial, fun _ => hlearn _ _ _ h₁⟩) fun read hread => ?_
  have hread : FitsKey kinds cr.key read := hread
  have h₂ := hlearn (.getCSM cr.key) (.ok read) l₁ h₁
  refine Monitor.Obeys.call_iff.mpr ⟨?_, fun r _ => Monitor.Obeys.ret_iff.mpr ⟨trivial, fun _ => ?_⟩⟩
  · show Vouched kinds _ read.key cr.status.lastSuccessfulConfiguration
    rw [hread.key_eq]
    exact h₂
  · exact hlearn _ _ _ h₂

theorem known_updateStatus {override_ : Option PodStatus} (h : Applied kinds cr l) :
    (known kinds rt).Obeys (updateStatus rt cr override_) l fun _ _ => True := by
  obtain ⟨hcr, hrecorded, happlied⟩ := h
  refine obeys_updateStatus (known_frames.mono fun _ => Noise.aside) fun l₁ h₁ => ?_
  refine (known_calculateState hcr (hrecorded.mono h₁)).mono fun ⟨x, running, err⟩ l₂ hx => ?_
  obtain ⟨⟨st, hst⟩, h₂, hx⟩ := hx
  dsimp only at hst hx ⊢
  subst hst
  have hconfig := vouched_recordConfiguration running hx
    (happlied.mono (List.Subset.trans h₁ h₂))
  obtain ⟨c, hc⟩ := recordConfiguration_eq (cr.withStatus st) running
  rw [hc] at hconfig ⊢
  refine (known_writeStatus hconfig).mono fun err' l₃ _ l₄ _ => ?_
  exact Monitor.Obeys.call_iff.mpr ⟨trivial, fun _ _ => Monitor.Obeys.ret_iff.mpr trivial⟩

/-- An update leaves the annotations as they were sent. -/
theorem known_updateCSM (h : Tracked kinds cr l) :
    (known kinds rt).Obeys (updateCSM cr) l
      (Reply (fun cr' l' => Tracked kinds cr' l' ∧ cr'.annotations = cr.annotations ∧
        l.configs ⊆ l'.configs) fun l' => l.configs ⊆ l'.configs) := by
  refine Monitor.Obeys.call_iff.mpr ⟨h, fun r hr => Monitor.Obeys.ret_iff.mpr ?_⟩
  match r with
  | .error e => exact List.Subset.refl _
  | .ok cr' =>
      obtain ⟨hkey, hspec, hann⟩ :
        cr'.key = cr.key ∧ cr'.spec = cr.spec ∧ cr'.annotations = cr.annotations := hr
      refine ⟨⟨h.1.congr hkey (kind_of_spec hspec), fun _ => .inr ?_⟩, hann,
        List.subset_cons_self _ _⟩
      rw [hkey]
      exact List.mem_cons_self ..

/-- For a driver, `SyncCSM` does not end early without an error. -/
theorem not_syncedEarly (hfits : FitsKey kinds cr.key cr) (hdriver : (kinds cr.key).IsDriver) :
    ¬ SyncedEarly cr := by
  rintro (hauth | hunset)
  · have hproxy := not_proxy (.inr hfits) hdriver.1
    obtain ⟨m, hm⟩ := Option.isSome_iff_exists.mp hauth
    have hname := List.find?_some hm
    rw [Bool.and_eq_true] at hname
    have hhas : isAuthorizationProxyServer cr = true :=
      List.any_eq_true.mpr ⟨m, List.mem_of_find?_eq_some hm, hname.1⟩
    rw [hproxy] at hhas
    cases hhas
  · exact hdriver.2 ((congrArg Kind.driverType hfits.kind_eq).symm.trans hunset)

/-- After a sync without error the annotation is one that was synced. -/
theorem known_syncCSM (h : Tracked kinds cr l) :
    (known kinds rt).Obeys (syncCSM rt cr) l fun x l' =>
      x.2 = none → Applied kinds { cr with annotations := x.1.annotations } l' := by
  have hfits : ∀ annotations, FitsKey kinds cr.key { cr with annotations } :=
    fun _ => ⟨rfl, h.1.name_ne, h.1.kind_eq⟩
  refine obeys_syncCSM (known_frames.mono fun _ => Noise.aside) ?_ ?_
  · intro err l₁ h₁ hearly
    refine Monitor.Obeys.call_iff.mpr ⟨trivial, fun _ _ => Monitor.Obeys.ret_iff.mpr fun hnone => ?_⟩
    have hdriver : ¬ (kinds cr.key).IsDriver :=
      fun hdriver => not_syncedEarly h.1 hdriver (hearly hnone)
    exact ⟨.inr (hfits _), fun hd => absurd hd hdriver, fun hd => absurd hd hdriver⟩
  · intro annotations out l₁ h₁ _ hjson
    have hsend : Tracked kinds (withApplied cr annotations out) l₁ := ⟨hfits _, h.2.mono h₁⟩
    refine (known_updateCSM hsend).mono fun r l₂ hr cr' err l₃ h₃ hcr' => ?_
    refine Monitor.Obeys.call_iff.mpr ⟨trivial, fun _ _ => Monitor.Obeys.ret_iff.mpr fun hnone => ?_⟩
    subst hnone
    rcases hcr' with rfl | ⟨-, e, -, herr⟩
    · obtain ⟨-, hann, h₂⟩ := hr
      -- the mark of the return adds the configuration that was sent
      have hnext : (known kinds rt).next l₃ (.note (.synced cr none)) () = l₃.add cr.key out := by
        show Known.learn rt l₃ (.note (.synced cr none)) () = _
        simp only [Known.learn, hjson]
      refine ⟨.inr (hfits _), ?_, fun _ => .inr ?_⟩
      · have h₁₃ := List.Subset.trans h₁ (List.Subset.trans h₂ h₃)
        exact h.2.mono (List.Subset.trans h₁₃ (configs_subset_learn rt _ _ _))
      · have happlied : ({ cr with annotations := cr'.annotations }).applied = out := by
          rw [hann]
          exact congrArg (Option.getD · "") (Function.update_self previouslyApplied (some out) annotations)
        rw [happlied]
        show (cr.key, out) ∈ ((known kinds rt).next l₃ (.note (.synced cr none)) ()).configs
        rw [hnext]
        exact List.mem_cons_self ..
    · cases herr

theorem tracked_insensitive : Insensitive (Tracked kinds) := by
  intro a b l hkey hkind _ hrecorded h
  refine ⟨h.1.congr hkey hkind, ?_⟩
  rw [hkey, hrecorded]
  exact h.2

theorem known_carries :
    Carries rt (known kinds rt) (fun l l' => l.configs ⊆ l'.configs) (Tracked kinds)
      (Applied kinds) where
  frames := known_frames
  stable a l l' hl h := ⟨h.1, h.2.mono hl⟩
  keeps := tracked_insensitive.keeps
  update a l h := by
    refine (known_updateCSM h).mono fun r l' hr => ?_
    cases r with
    | error e => trivial
    | ok cr => exact hr.1
  invalid a l h := Monitor.Obeys.call_iff.mpr ⟨h.2, fun _ _ => Monitor.Obeys.ret_iff.mpr trivial⟩
  calculate a l h := by
    refine (known_calculateState (.inr h.1) h.2).mono fun x l' hx => ?_
    obtain ⟨⟨st, hst⟩, -, hrecorded⟩ := hx
    rw [hst] at hrecorded ⊢
    exact ⟨h.1.congr rfl rfl, hrecorded⟩
  sync a l h := known_syncCSM h
  status a l h := known_updateStatus h
  reconciled _ _ _ _ := trivial

/-- A handler has its first read ahead. -/
def Entry.firstKnown : Entry → Known
  | .reconcile _ => {}
  | .update _ _ => { fresh := true }

/-- Up to its read, a handler only takes a lock. -/
theorem known_frames_fresh : (known kinds rt).Frames (fun l l' => l' = l) Aside where
  refl _ := rfl
  trans _ _ _ h h' := h'.trans h
  tolerates l q hq := by
    refine ⟨?_, fun r _ => ?_⟩
    · cases q <;> trivial
    · cases q <;> first | exact hq.elim | rfl

theorem known_program (ent : Entry) :
    (known kinds rt).Obeys (ent.program rt) ent.firstKnown fun _ _ => True := by
  cases ent with
  | reconcile key =>
      refine known_carries.reconcile trivial fun cr _ hcr hprep => tracked_insensitive.prepared hprep ?_
      have hfits : FitsKey kinds key cr := hcr
      obtain rfl := hfits.key_eq
      exact ⟨hfits, fun _ => .inr (List.mem_cons_self ..)⟩
  | update csmName e =>
      refine obeys_informerUpdate known_frames_fresh fun _ l₁ h₁ => ?_
      subst h₁
      refine obeys_ask_bind (.getCSM e.csmKey) trivial fun r hr => ?_
      match r with
      | .error err =>
          refine Monitor.Obeys.pure_iff.mpr (known_updateStatus ⟨.inl rfl, ?_, ?_⟩)
          · exact fun _ => .inl rfl
          · exact fun _ => .inl rfl
      | .ok cr =>
          have hfits : FitsKey kinds e.csmKey cr := hr
          have hkey := hfits.key_eq
          refine Monitor.Obeys.pure_iff.mpr (known_updateStatus ⟨.inr ?_, ?_, ?_⟩)
          · rw [hkey]
            exact hfits
          · rw [hkey]
            exact fun _ => .inr (List.mem_cons_of_mem _ (List.mem_cons_self ..))
          · rw [hkey]
            exact fun _ => .inr (List.mem_cons_self ..)

/-! ## All interleavings -/

/-- A thread has read a CR. -/
def HasRead (log : List (Nat × Event Api)) (i : Nat) : Prop := ∃ key r, (i, ⟨.getCSM key, r⟩) ∈ log

/-- The condition on a run: when a handler first reads its CR, the annotation names a configuration
that was synced, or none. -/
def HandlersReadSynced (kinds : NamespacedName → Kind) (rt : Runtime) :
    Threads → Move Api World Entry → Prop
  | ps, .act i e => ∀ csmName u p key cr, ps.threads[i]? = some (.update csmName u, p) →
      e = ⟨.getCSM key, .ok cr⟩ → ¬ HasRead ps.log i → (kinds key).IsDriver →
      Synced rt ps.log key cr.applied
  | _, _ => True

/-- What holds of the world and the log throughout. -/
structure RecordsOk (kinds : NamespacedName → Kind) (rt : Runtime) (w : World)
    (log : List (Nat × Event Api)) : Prop where
  stored : w.WellStored kinds
  synced : ∀ key cr, w.crs key = some cr → (kinds key).IsDriver →
    Synced rt log key cr.status.lastSuccessfulConfiguration

/-- What a thread knows is so, and if it is fresh it is a handler that has not read yet. -/
structure KnownTrue (kinds : NamespacedName → Kind) (rt : Runtime) (i : Nat) (ent : Entry)
    (log : List (Nat × Event Api)) (l : Known) : Prop where
  synced : ∀ key c, (key, c) ∈ l.configs → (kinds key).IsDriver → Synced rt log key c
  fresh : l.fresh = true → (∃ csmName u, ent = .update csmName u) ∧ ¬ HasRead log i

variable {w w' : World} {log : List (Nat × Event Api)} {i : Nat} {ent : Entry} {ch : World.Choice}

theorem KnownTrue.vouched (h : KnownTrue kinds rt i ent log l) (hc : Vouched kinds l key c)
    (hdriver : (kinds key).IsDriver) : Synced rt log key c :=
  (hc hdriver).elim .inl fun hc => h.synced key c hc hdriver

theorem KnownTrue.append (h : KnownTrue kinds rt i ent log l) {x : Nat × Event Api}
    (hx : x.1 = i → l.fresh = true → ∀ key r, x.2 ≠ ⟨.getCSM key, r⟩) :
    KnownTrue kinds rt i ent (log ++ [x]) l where
  synced key c hc hdriver := (h.synced key c hc hdriver).append _
  fresh hfresh := by
    refine ⟨(h.fresh hfresh).1, ?_⟩
    rintro ⟨key, r, hmem⟩
    rcases List.mem_append.mp hmem with hmem | hmem
    · exact (h.fresh hfresh).2 ⟨key, r, hmem⟩
    · obtain rfl := List.mem_singleton.mp hmem
      exact hx rfl hfresh key r rfl

theorem KnownTrue.add (h : KnownTrue kinds rt i ent log l)
    (hc : (kinds key).IsDriver → Synced rt log key c) :
    KnownTrue kinds rt i ent log (l.add key c) where
  synced key' c' hmem hdriver := by
    rcases List.mem_cons.mp hmem with heq | hmem
    · cases heq
      exact hc hdriver
    · exact h.synced key' c' hmem hdriver
  fresh := h.fresh

/-- A thread that has read is not fresh any more. -/
theorem KnownTrue.read (h : KnownTrue kinds rt i ent log l) (x : Nat × Event Api) :
    KnownTrue kinds rt i ent (log ++ [x]) { l with fresh := false } where
  synced key c hc hdriver := (h.synced key c hc hdriver).append _
  fresh := nofun

/-- What a served request teaches is true. -/
theorem known_served {q : Request} {r : q.Answer} (hok : RecordsOk kinds rt w log)
    (hl : KnownTrue kinds rt i ent log l) (hguard : Known.Allows kinds l q)
    (h : w.respond q ch = some (r, w'))
    (hread : l.fresh = true → ∀ key cr, (⟨q, r⟩ : Event Api) = ⟨.getCSM key, .ok cr⟩ →
      (kinds key).IsDriver → Synced rt log key cr.applied) :
    Known.Expects kinds q r ∧
      KnownTrue kinds rt i ent (log ++ [(i, ⟨q, r⟩)]) (Known.learn rt l q r) := by
  cases q with
  | getCSM key =>
      match r with
      | .error e => exact ⟨trivial, hl.read _⟩
      | .ok cr =>
          have hcr := (World.of_getCSM h).2 cr rfl
          have hadd := hl.add (hok.synced key cr hcr)
          refine ⟨hok.stored key cr hcr, KnownTrue.read ?_ _⟩
          split
          next hfresh => exact hadd.add (hread hfresh key cr rfl)
          next => exact hadd
  | updateCSM cr =>
      have happend := hl.append (x := (i, ⟨.updateCSM cr, r⟩)) fun _ _ _ _ heq => nomatch heq
      match r with
      | .error e => exact ⟨trivial, happend⟩
      | .ok cr' =>
          rcases World.of_updateCSM h with ⟨-, e, he⟩ | ⟨stored, hstored, -, heq, -⟩
          · cases he
          · cases heq
            refine ⟨⟨rfl, rfl, rfl⟩, happend.add fun hdriver => ?_⟩
            -- the reply has what is stored, or nothing and then memory is kept
            have hcases : World.decodeText cr.status.lastSuccessfulConfiguration
                stored.status.lastSuccessfulConfiguration = cr.status.lastSuccessfulConfiguration ∨
              World.decodeText cr.status.lastSuccessfulConfiguration
                stored.status.lastSuccessfulConfiguration =
                  stored.status.lastSuccessfulConfiguration := by
              unfold World.decodeText
              split
              · exact .inl rfl
              · exact .inr rfl
            rcases hcases with heq | heq
            · exact (heq ▸ hl.vouched hguard.2 hdriver).append _
            · exact (heq ▸ hok.synced _ _ hstored hdriver).append _
  | note n =>
      have happend := hl.append (x := (i, ⟨.note n, r⟩)) fun _ _ _ _ heq => nomatch heq
      refine ⟨trivial, ?_⟩
      match n with
      | .synced cr none =>
          simp only [Known.learn]
          split
          next c hjson =>
            refine happend.add fun _ => .inr ⟨_, List.mem_append_right _ (List.mem_singleton_self _), ?_⟩
            simp only [syncedConfig, if_true, hjson, Except.toOption]
          next => exact happend
      | .synced _ (some _) => exact happend
      | .calculated _ _ _ => exact happend
      | .statusUpdated _ _ => exact happend
      | .reconciled _ _ _ => exact happend
  | _ => exact ⟨trivial, hl.append fun _ _ _ _ heq => nomatch heq⟩

theorem recordsOk_served {q : Request} {r : q.Answer} (hok : RecordsOk kinds rt w log)
    (hl : KnownTrue kinds rt i ent log l) (hguard : Known.Allows kinds l q)
    (h : w.respond q ch = some (r, w')) : RecordsOk kinds rt w' (log ++ [(i, ⟨q, r⟩)]) where
  stored := World.wellStored_of_respond hok.stored (fun cr heq => by subst heq; exact hguard.1) h
  synced := by
    refine World.stored_of_respond (Φ := fun key cr => (kinds key).IsDriver →
      Synced rt (log ++ [(i, (⟨q, r⟩ : Event Api))]) key cr.status.lastSuccessfulConfiguration)
      (fun key cr hcr hdriver => (hok.synced key cr hcr hdriver).append _)
      (fun cr stored _ _ hstored => hstored) (fun cr stored heq _ _ hdriver => ?_) h
    subst heq
    exact (hl.vouched hguard hdriver).append _

/-- **In every run** in which handlers first read their CR when its annotation names a synced
configuration, the last successful configuration of a driver CR is one that some `SyncCSM` has
returned without error for. -/
theorem recorded_configuration_synced {w₀ : World} {ps : Threads}
    (hstored : w₀.WellStored kinds)
    (hempty : ∀ key cr, w₀.crs key = some cr → cr.status.lastSuccessfulConfiguration = "")
    (hrun : Pool.Reach (environment kinds) (Entry.program rt) (HandlersReadSynced kinds rt)
      (Pool.empty w₀) ps)
    {key : NamespacedName} {cr : ContainerStorageModule} (hcr : ps.world.crs key = some cr)
    (hdriver : (kinds key).IsDriver) :
    Synced rt ps.log key cr.status.lastSuccessfulConfiguration := by
  have hok := hrun.exists_known (known kinds rt) Entry.firstKnown (fun _ ent _ => known_program ent)
    (RecordsOk kinds rt) (fun i t _ log l => KnownTrue kinds rt i t.1 log l)
    ⟨hstored, fun key cr hcr _ => .inl (hempty key cr hcr)⟩ (fun ps ent _ hlog _ => ?_)
    (fun ps w hok _ hdrift => ?_) (fun ps i ent l q k c r w hok hl ht hguard hr hread => ?_)
  · exact hok.1.synced key cr hcr hdriver
  · -- a new thread has not read anything
    have hunread : ¬ HasRead ps.log ps.threads.length := by
      rintro ⟨key, r, hmem⟩
      exact Nat.lt_irrefl _ (hlog _ hmem)
    cases ent with
    | reconcile key => exact ⟨nofun, nofun⟩
    | update csmName u => exact ⟨nofun, fun _ => ⟨⟨csmName, u, rfl⟩, hunread⟩⟩
  · have hdrift : Drift kinds ps.world w := hdrift
    refine ⟨⟨World.wellStored_of_drift hok.stored hdrift, ?_⟩, fun _ _ _ _ hl => hl⟩
    refine World.stored_of_drift hok.synced (fun key s s' _ hstatus _ hs => ?_)
      (fun key s _ hstatus _ _ => .inl ?_) hdrift
    · rw [hstatus]
      exact hs
    · rw [hstatus]
  · have hfirst : l.fresh = true → ∀ key cr, (⟨q, r⟩ : Event Api) = ⟨.getCSM key, .ok cr⟩ →
        (kinds key).IsDriver → Synced rt ps.log key cr.applied := by
      intro hfresh key cr heq
      obtain ⟨⟨csmName, u, rfl⟩, hunread⟩ := hl.fresh hfresh
      exact hread csmName u _ key cr ht heq hunread
    obtain ⟨hexpects, hlearn⟩ := known_served hok hl hguard hr hfirst
    refine ⟨hexpects, recordsOk_served hok hl hguard hr, hlearn, fun j t l' hj _ hl' => ?_⟩
    exact hl'.append fun heq => absurd heq.symm hj

/-! ### A failed upgrade -/

def isilonSpec (version : String) : ContainerStorageModuleSpec :=
  { driver := { csiDriverType := .powerScale, configVersion := version, replicas := 2 } }

def isilonPod : Pod :=
  { name := "isilon-node-x7k2p", namesp := "dell"
    labels := some fun k => if k = "app" then some "isilon-node" else labelsFor isilonCR.key k
    conditions := [⟨"Ready", .true⟩] }

/-- A cluster in which the driver is up. -/
def runningCluster : Cluster :=
  { deployments := [{ name := "isilon-controller", namesp := "dell", replicas := some 2
                      statusReplicas := 2, readyReplicas := 2, availableReplicas := 2 }]
    daemonSets := [{ name := "isilon-node", namesp := "dell", desiredNumberScheduled := 1 }]
    pods := [isilonPod] }

/-- A CR that asks for v2.16.0 and was not reconciled yet. -/
def isilonWorld : World := .storing [{ isilonCR with spec := isilonSpec "v2.16.0" }] runningCluster

/-- Handlers wait for the annotation to name a synced configuration. -/
def waitsForSync (ps : Threads) (i : Nat) : Event Api → Bool
  | ⟨.getCSM key, .ok cr⟩ =>
    match ps.threads[i]? with
    | some (.update _ _, _) => Synced shippedRuntime ps.log key cr.applied
    | _ => true
  | _ => true

/-- The CR has been reconciled. -/
def isilonInstalled : Threads :=
  startAndRun isilonKinds shippedRuntime waitsForSync (.reconcile isilonCR.key) (smooth 60)
    (Pool.empty isilonWorld)

/-- An update of the node pod is handled. -/
def podUpdated (test : Threads → Nat → Event Api → Bool) (ps : Threads) : Threads :=
  startAndRun isilonKinds shippedRuntime test (.update "isilon" (.pod isilonPod isilonPod))
    (smooth 20) ps

theorem keyStored_isilonWorld : isilonWorld.KeyStored := World.keyStored_storing _ _

theorem bounded_isilonWorld : isilonWorld.Bounded := World.bounded_storing (by decide)

theorem wellStored_isilonWorld : isilonWorld.WellStored isilonKinds := by
  intro key cr h
  obtain ⟨hmem, hkey⟩ := World.of_storing h
  obtain rfl := List.mem_singleton.mp hmem
  exact ⟨hkey, by decide, rfl⟩

theorem waitsForSync_sound (ps : Threads) (i : Nat) (e : Event Api)
    (h : waitsForSync ps i e = true) :
    HandlersReadSynced isilonKinds shippedRuntime ps (.act i e) := by
  rintro csmName u p key cr hthread rfl - -
  simpa [waitsForSync, hthread] using h

/-- The theorem for an update of the node pod after the install. -/
theorem recorded_configuration_synced_install :
    ∃ cr, (podUpdated waitsForSync isilonInstalled).world.crs isilonCR.key = some cr ∧
      cr.status.lastSuccessfulConfiguration = "dell/isilon@v2.16.0" ∧
      Synced shippedRuntime (podUpdated waitsForSync isilonInstalled).log isilonCR.key
        cr.status.lastSuccessfulConfiguration := by
  have hrecorded : ((podUpdated waitsForSync isilonInstalled).world.crs isilonCR.key).map
      (·.status.lastSuccessfulConfiguration) = some "dell/isilon@v2.16.0" := by decide +kernel
  obtain ⟨cr, hcr, hconfig⟩ := Option.map_eq_some_iff.mp hrecorded
  refine ⟨cr, hcr, hconfig, recorded_configuration_synced wellStored_isilonWorld ?_ ?_ hcr
    ⟨rfl, by decide⟩⟩
  · intro key cr h
    obtain ⟨hmem, -⟩ := World.of_storing h
    obtain rfl := List.mem_singleton.mp hmem
    rfl
  · exact reach_startAndRun (reach_startAndRun .refl trivial waitsForSync_sound) trivial
      waitsForSync_sound

/-- The user asks for v2.17.0. -/
def upgradeWanted : Threads :=
  { isilonInstalled with world := isilonInstalled.world.edit isilonCR.key (isilonSpec "v2.17.0") }

/-- The next reconcile records v2.17.0 in the annotation and then fails to apply the DaemonSet. -/
def upgradeFailed : Threads :=
  startAndRun isilonKinds shippedRuntime waitsForSync (.reconcile isilonCR.key)
    (smooth 26 ++ [{ fault := some (errorf "admission webhook denied the request") }] ++ smooth 10)
    upgradeWanted

theorem reach_upgradeWanted :
    Pool.Reach (environment isilonKinds) (Entry.program shippedRuntime) Delivered
      (Pool.empty isilonWorld) upgradeWanted := by
  have hinstalled : Pool.Reach (environment isilonKinds) (Entry.program shippedRuntime) Delivered
      (Pool.empty isilonWorld) isilonInstalled :=
    reach_startAndRun .refl trivial fun _ _ _ _ => trivial
  refine reach_edit hinstalled bounded_isilonWorld (fun cr hcr => ?_) trivial
  have hstored : ((isilonInstalled.world.crs isilonCR.key).all fun cr =>
      cr.key = isilonCR.key ∧ cr.name ≠ "") = true := by decide +kernel
  rw [hcr, Option.all_some, decide_eq_true_eq] at hstored
  exact ⟨hstored.1, hstored.2, rfl⟩

/-- While the upgrade to v2.17.0 fails, a handler records v2.17.0 as the last successful
configuration. -/
theorem unsynced_configuration_recorded :
    Pool.Reach (environment isilonKinds) (Entry.program shippedRuntime) Delivered
      (Pool.empty isilonWorld) (podUpdated (fun _ _ _ => true) upgradeFailed) ∧
    ∃ cr, (podUpdated (fun _ _ _ => true) upgradeFailed).world.crs isilonCR.key = some cr ∧
      (isilonKinds isilonCR.key).IsDriver ∧
      ¬ Synced shippedRuntime (podUpdated (fun _ _ _ => true) upgradeFailed).log isilonCR.key
        cr.status.lastSuccessfulConfiguration := by
  have hwatch : ("isilon", true) ∈ upgradeFailed.world.watches := by decide +kernel
  have hhistory : upgradeFailed.world.history = [runningCluster] := rfl
  have hfailed : Pool.Reach (environment isilonKinds) (Entry.program shippedRuntime) Delivered
      (Pool.empty isilonWorld) upgradeFailed :=
    reach_startAndRun reach_upgradeWanted trivial fun _ _ _ _ => trivial
  refine ⟨reach_startAndRun hfailed ?_ fun _ _ _ _ => trivial, ?_⟩
  · refine ⟨hwatch, runningCluster, ?_, List.mem_singleton_self _⟩
    rw [hhistory]
    exact List.mem_singleton_self _
  · have hrecorded : ((podUpdated (fun _ _ _ => true) upgradeFailed).world.crs isilonCR.key).any
        (fun cr => ¬ Synced shippedRuntime (podUpdated (fun _ _ _ => true) upgradeFailed).log
          isilonCR.key cr.status.lastSuccessfulConfiguration) = true := by decide +kernel
    obtain ⟨cr, hcr, hunsynced⟩ := (Option.any_eq_true ..).mp hrecorded
    exact ⟨cr, hcr, ⟨rfl, by decide⟩, of_decide_eq_true hunsynced⟩

end CsmOperator
