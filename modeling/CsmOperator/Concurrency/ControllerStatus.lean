import CsmOperator.Status.Running
import CsmOperator.World.Threads

/-!
# Which Deployment the controller status reports on

The controller status of a CR comes from one of two places: the lookup of the Deployment
`GetControllerName()` in `calculateState`, or, when a Deployment event is handled, the object of the
event. The two are the same Deployment only if no other Deployment carries the labels of the CR in its
pod template — and the templates of the modules do carry them.

Followed through all interleavings of reconciles and handlers, every controller status that is stored
for a driver CR is that of its controller Deployment at some time, as long as

* the Deployment events handled for a CR are those of its controller Deployment, and
* no lookup of a Deployment fails in another way than that the Deployment is not there.

A thread is watched with the *claims* it can make: which Deployment it has seen with which status.
-/

namespace CsmOperator

open Interaction

/-- The controller Deployment of the CR stored under a key. -/
def controllerKey (kinds : NamespacedName → Kind) (key : NamespacedName) : NamespacedName :=
  ⟨key.namesp, if (kinds key).driverType = .cosi then key.name else key.name ++ "-controller"⟩

/-- Nothing is reported, or what the Deployment was like at some time. -/
def Shown (w : World) (deployment : NamespacedName) (st : PodStatus) : Prop :=
  st = {} ∨ ∃ cl ∈ w.history, lookupStatus (cl.getDeployment deployment) = st

instance (w : World) (deployment : NamespacedName) (st : PodStatus) :
    Decidable (Shown w deployment st) :=
  inferInstanceAs (Decidable (_ ∨ _))

/-- Deployments with the status they were seen with. -/
abbrev Claims := List (NamespacedName × PodStatus)

variable {kinds : NamespacedName → Kind} {rt : Runtime} {key : NamespacedName}
  {cr : ContainerStorageModule} {l : Claims} {w w' : World}

/-- A status a thread may report for a CR: any for a proxy server, which has no controller; for a
driver none or one seen of its controller Deployment. -/
def Grounded (kinds : NamespacedName → Kind) (l : Claims) (key : NamespacedName) (st : PodStatus) :
    Prop :=
  (kinds key).proxy = true ∨ st = {} ∨ (controllerKey kinds key, st) ∈ l

theorem Grounded.mono {l' : Claims} {st : PodStatus} (h : Grounded kinds l key st) (hl : l ⊆ l') :
    Grounded kinds l' key st :=
  h.imp_right (Or.imp_right fun h => hl h)

/-- The claim a stored CR stands for. -/
def storedClaim (kinds : NamespacedName → Kind) (key : NamespacedName) (st : PodStatus) : Claims :=
  if (kinds key).proxy then [] else [(controllerKey kinds key, st)]

namespace Claims

/-- CRs are stored under keys they fit, and updates and status writes report what was seen. -/
def Allows (kinds : NamespacedName → Kind) (l : Claims) : Request → Prop
  | .updateCSM cr => FitsKey kinds cr.key cr ∧ Grounded kinds l cr.key cr.status.controllerStatus
  | .updateCSMStatus cr => Grounded kinds l cr.key cr.status.controllerStatus
  | _ => True

def Expects (kinds : NamespacedName → Kind) : (q : Request) → q.Answer → Prop
  | .getCSM key, .ok cr => FitsKey kinds key cr
  | .updateCSM cr, .ok cr' => cr'.key = cr.key ∧ cr'.spec = cr.spec
  | _, _ => True

def learn (kinds : NamespacedName → Kind) (l : Claims) : (q : Request) → q.Answer → Claims
  | .getDeployment key, r => (key, lookupStatus r) :: l
  | .getCSM key, .ok cr => storedClaim kinds key cr.status.controllerStatus ++ l
  | .updateCSM cr, .ok cr' => storedClaim kinds cr.key cr'.status.controllerStatus ++ l
  | _, _ => l

end Claims

/-- The monitor of the claims a thread makes. -/
def claims (kinds : NamespacedName → Kind) : Monitor Api Claims where
  guard := Claims.Allows kinds
  assume _ := Claims.Expects kinds
  next := Claims.learn kinds

theorem subset_learn (kinds : NamespacedName → Kind) (l : Claims) (q : Request) (r : q.Answer) :
    l ⊆ Claims.learn kinds l q r := by
  unfold Claims.learn
  split
  · exact List.subset_cons_self _ _
  · exact List.subset_append_right _ _
  · exact List.subset_append_right _ _
  · exact List.Subset.refl _

theorem claims_frames : (claims kinds).Frames (· ⊆ ·) Aside where
  refl := List.Subset.refl
  trans _ _ _ := List.Subset.trans
  tolerates l q hq := by
    refine ⟨?_, fun r _ => subset_learn kinds l q r⟩
    cases q <;> trivial

theorem FitsKey.controllerKey_eq (h : FitsKey kinds key cr) :
    (⟨cr.namesp, cr.getControllerName⟩ : NamespacedName) = controllerKey kinds key := by
  have hdriver : cr.spec.driver.csiDriverType = (kinds key).driverType :=
    congrArg Kind.driverType h.kind_eq
  rw [controllerKey, ← hdriver, ← h.key_eq]
  rfl

/-- What is known of the CR in memory. -/
def Trusted (kinds : NamespacedName → Kind) (cr : ContainerStorageModule) (l : Claims) : Prop :=
  FitsKey kinds cr.key cr ∧ Grounded kinds l cr.key cr.status.controllerStatus

/-- The lookup makes the claim it reports. -/
theorem claims_controllerStatusOf (h : FitsKey kinds cr.key cr) :
    (claims kinds).Obeys (controllerStatusOf cr none) l fun status l' =>
      Grounded kinds l' cr.key status ∧ l ⊆ l' := by
  refine Monitor.Obeys.bind_iff.mpr ?_
  unfold getDeploymentStatus
  split
  next hnone =>
    refine Monitor.Obeys.pure_iff.mpr (Monitor.Obeys.pure_iff.mpr ⟨.inl ?_, List.Subset.refl _⟩)
    have hproxy : isAuthorizationProxyServer cr = true := by simpa [h.name_ne] using hnone
    rw [← h.kind_eq]
    exact hproxy
  next =>
    refine obeys_ask_bind (.getDeployment _) trivial fun r _ => ?_
    have hclaim : Grounded kinds ((controllerKey kinds cr.key, lookupStatus r) :: l) cr.key
        (lookupStatus r) := .inr (.inr (List.mem_cons_self ..))
    have hnext : (claims kinds).next l (.getDeployment ⟨cr.namesp, cr.getControllerName⟩) r =
        (controllerKey kinds cr.key, lookupStatus r) :: l := by
      rw [← h.controllerKey_eq]
      rfl
    rw [hnext]
    match r with
    | .error e =>
        exact Monitor.Obeys.pure_iff.mpr (Monitor.Obeys.pure_iff.mpr
          ⟨hclaim, List.subset_cons_self _ _⟩)
    | .ok d =>
        exact Monitor.Obeys.pure_iff.mpr (Monitor.Obeys.pure_iff.mpr
          ⟨hclaim, List.subset_cons_self _ _⟩)

/-- What `calculateState` comes to can be reported. A handler that failed to read its CR goes on with
an empty one, which no key fits. -/
theorem claims_calculateState {override_ : Option PodStatus}
    (h : cr.name = "" ∨ FitsKey kinds cr.key cr)
    (ho : ∀ o, override_ = some o → cr.name = "" ∨ Grounded kinds l cr.key o) :
    (claims kinds).Obeys (calculateState rt cr override_) l fun x l' =>
      (x.1.key = cr.key ∧ x.1.kind = cr.kind) ∧
        (cr.name = "" ∨ Grounded kinds l' cr.key x.1.status.controllerStatus) := by
  have hinert : (claims kinds).Frames (· ⊆ ·) Inert :=
    claims_frames.mono fun _ hq => (Noise.of_inert hq).aside
  have hlookup : (claims kinds).Obeys (controllerStatusOf (cr.setState .succeeded) override_) l
      fun status l' => cr.name = "" ∨ Grounded kinds l' cr.key status := by
    cases override_ with
    | some o => exact Monitor.Obeys.pure_iff.mpr (ho o rfl)
    | none =>
        rcases h with hname | hfits
        · exact hinert.obeys (reads_controllerStatusOf _ _).inert fun _ _ _ _ => .inl hname
        · have hfits' : FitsKey kinds (cr.setState .succeeded).key (cr.setState .succeeded) :=
            ⟨rfl, hfits.name_ne, hfits.kind_eq⟩
          exact (claims_controllerStatusOf hfits').mono fun _ _ hst => .inr hst.1
  refine obeys_calculateState' hinert (hlookup.mono ?_)
  rintro status l₁ hstatus st running err l₂ - rfl h₂
  refine Monitor.Obeys.call_iff.mpr ⟨trivial, fun _ _ => Monitor.Obeys.ret_iff.mpr ?_⟩
  obtain ⟨st', hst'⟩ := settleState_eq_withStatus rt (cr.withStatus st) running
  refine ⟨?_, ?_⟩
  · dsimp only
    rw [hst']
    exact ⟨rfl, rfl⟩
  · dsimp only
    rw [settleState_controllerStatus]
    exact hstatus.imp_right fun hst => hst.mono h₂

/-- The status write, retried on conflicts. -/
theorem claims_writeStatus
    (h : cr.name = "" ∨ Grounded kinds l cr.key cr.status.controllerStatus) :
    (claims kinds).Obeys (retryOnConflict (writeStatus cr) defaultRetrySteps) l
      fun _ _ => True := by
  let Inv : Claims → Prop := fun l' => cr.name = "" ∨ Grounded kinds l' cr.key cr.status.controllerStatus
  refine Monitor.Obeys.mono (obeys_retryOnConflict (J := Inv) (Q := fun _ _ => True)
    (fun l₁ h₁ => ?_) 4 h) fun _ _ _ => trivial
  refine obeys_writeStatus trivial (fun e _ => ⟨trivial, fun _ => h₁⟩) fun read hread => ?_
  have hread : FitsKey kinds cr.key read := hread
  -- there is no CR without a name
  have hgrounded : Grounded kinds l₁ cr.key cr.status.controllerStatus := by
    refine h₁.resolve_left fun hname => hread.name_ne ?_
    exact (congrArg NamespacedName.name hread.key_eq).trans hname
  have hgrounded' := hgrounded.mono (subset_learn kinds l₁ (.getCSM cr.key) (.ok read))
  refine Monitor.Obeys.call_iff.mpr ⟨?_, fun r _ => Monitor.Obeys.ret_iff.mpr ⟨trivial, fun _ => ?_⟩⟩
  · show Grounded kinds _ read.key cr.status.controllerStatus
    rw [hread.key_eq]
    exact hgrounded'
  · exact .inr (hgrounded'.mono (subset_learn kinds _ (.updateCSMStatus (read.withStatus cr.status)) r))

theorem claims_updateStatus {override_ : Option PodStatus}
    (h : cr.name = "" ∨ FitsKey kinds cr.key cr)
    (ho : ∀ o, override_ = some o → cr.name = "" ∨ Grounded kinds l cr.key o) :
    (claims kinds).Obeys (updateStatus rt cr override_) l fun _ _ => True := by
  refine obeys_updateStatus (claims_frames.mono fun _ => Noise.aside) fun l₁ h₁ => ?_
  have ho' : ∀ o, override_ = some o → cr.name = "" ∨ Grounded kinds l₁ cr.key o :=
    fun o heq => (ho o heq).imp_right fun hg => hg.mono h₁
  refine (claims_calculateState h ho').mono fun x l₂ hx => ?_
  obtain ⟨⟨hkey, -⟩, hstatus⟩ := hx
  obtain ⟨c, hc⟩ := recordConfiguration_eq x.1 x.2.1
  rw [hc]
  refine (claims_writeStatus ?_).mono fun err l₃ _ l₄ _ => ?_
  · have hname : x.1.name = cr.name := congrArg NamespacedName.name hkey
    show x.1.name = "" ∨ Grounded kinds l₂ x.1.key x.1.status.controllerStatus
    rw [hname, hkey]
    exact hstatus
  · exact Monitor.Obeys.call_iff.mpr ⟨trivial, fun _ _ => Monitor.Obeys.ret_iff.mpr trivial⟩

/-! ## Threads -/

/-- The reply to an update makes the claim of the status it brings. -/
theorem claims_updateCSM (h : Trusted kinds cr l) :
    (claims kinds).Obeys (updateCSM cr) l (Reply (Trusted kinds) fun _ => True) := by
  refine Monitor.Obeys.call_iff.mpr ⟨h, fun r hr => Monitor.Obeys.ret_iff.mpr ?_⟩
  match r with
  | .error e => trivial
  | .ok cr' =>
      obtain ⟨hkey, hspec⟩ : cr'.key = cr.key ∧ cr'.spec = cr.spec := hr
      refine ⟨h.1.congr hkey (kind_of_spec hspec), ?_⟩
      show Grounded kinds (storedClaim kinds cr.key cr'.status.controllerStatus ++ l) cr'.key _
      rw [hkey]
      unfold Grounded storedClaim
      split
      next hproxy => exact .inl hproxy
      next => exact .inr (.inr (List.mem_append_left _ (List.mem_singleton_self _)))

theorem trusted_insensitive : Insensitive (Trusted kinds) := by
  intro a b l hkey hkind hstatus _ h
  refine ⟨h.1.congr hkey hkind, ?_⟩
  rw [hkey, hstatus]
  exact h.2

theorem claims_carries :
    Carries rt (claims kinds) (· ⊆ ·) (Trusted kinds) fun cr _ => FitsKey kinds cr.key cr where
  frames := claims_frames
  stable a l l' hl h := ⟨h.1, h.2.mono hl⟩
  keeps := trusted_insensitive.keeps
  update a l h := claims_updateCSM h
  invalid a l h := by
    exact Monitor.Obeys.call_iff.mpr ⟨h.2, fun _ _ => Monitor.Obeys.ret_iff.mpr trivial⟩
  calculate a l h := by
    have hnone : ∀ o, (none : Option PodStatus) = some o → a.name = "" ∨ Grounded kinds l a.key o :=
      nofun
    refine (claims_calculateState (.inr h.1) hnone).mono fun x l' hx => ?_
    obtain ⟨⟨hkey, hkind⟩, hstatus⟩ := hx
    refine ⟨h.1.congr hkey hkind, ?_⟩
    rw [hkey]
    exact hstatus.resolve_left h.1.name_ne
  sync a l h := by
    have hnote : ∀ err l', (claims kinds).Obeys (note (.synced a err)) l' fun _ _ => True :=
      fun err l' => Monitor.Obeys.call_iff.mpr ⟨trivial, fun _ _ => Monitor.Obeys.ret_iff.mpr trivial⟩
    have hfits : ∀ annotations, FitsKey kinds a.key { a with annotations } :=
      fun annotations => ⟨rfl, h.1.name_ne, h.1.kind_eq⟩
    refine obeys_syncCSM (claims_frames.mono fun _ => Noise.aside) ?_ ?_
    · intro err l₁ _ _
      exact (hnote err l₁).mono fun _ _ _ _ => hfits _
    · intro annotations out l₁ h₁ _ _
      have hsend : Trusted kinds (withApplied a annotations out) l₁ := ⟨hfits _, h.2.mono h₁⟩
      refine (claims_updateCSM hsend).mono fun r l₂ _ cr err l₃ _ _ => ?_
      exact (hnote err l₃).mono fun _ _ _ _ => hfits _
  status a l h := claims_updateStatus (.inr h) fun _ ho => nomatch ho
  reconciled _ _ _ _ := trivial

/-- What a thread can claim from the start: an event brings the status of its own object. -/
def Entry.firstClaims : Entry → Claims
  | .update _ (.deployment _ new) => [(new.key, replicaStatus new)]
  | _ => []

/-- An update of a Deployment that is handled is one of the controller Deployment of its CR. -/
def ControllerEvent (kinds : NamespacedName → Kind) : Entry → Prop
  | .update csmName (.deployment old new) => concerns csmName (.deployment old) = true →
      let key := labelledCSM new.templateLabels
      (kinds key).proxy = false → new.key = controllerKey kinds key
  | _ => True

theorem claims_program {ent : Entry} (h : ControllerEvent kinds ent) :
    (claims kinds).Obeys (ent.program rt) ent.firstClaims fun _ _ => True := by
  cases ent with
  | reconcile key =>
      refine claims_carries.reconcile trivial fun cr _ hcr hprep => trusted_insensitive.prepared hprep ?_
      have hfits : FitsKey kinds key cr := hcr
      obtain rfl := hfits.key_eq
      refine ⟨hfits, ?_⟩
      show Grounded kinds (storedClaim kinds cr.key cr.status.controllerStatus ++ []) cr.key _
      unfold Grounded storedClaim
      split
      next hproxy => exact .inl hproxy
      next => exact .inr (.inr (List.mem_append_left _ (List.mem_singleton_self _)))
  | update csmName e =>
      refine obeys_informerUpdate claims_frames fun hconcerns l₁ h₁ => ?_
      -- the status the event brings along may be reported
      have hover : ∀ o l₂, l₁ ⊆ l₂ → e.override = some o → Grounded kinds l₂ e.csmKey o := by
        intro o l₂ h₂ ho
        cases e with
        | deployment old new =>
            cases ho
            by_cases hproxy : (kinds (labelledCSM new.templateLabels)).proxy = true
            · exact .inl hproxy
            · have hkey := h hconcerns (Bool.not_eq_true _ ▸ hproxy)
              refine .inr (.inr (h₂ (h₁ ?_)))
              show (controllerKey kinds _, _) ∈ [(new.key, replicaStatus new)]
              rw [hkey]
              exact List.mem_singleton_self _
        | _ => cases ho
      refine obeys_ask_bind (.getCSM e.csmKey) trivial fun r hr => ?_
      match r with
      | .error err =>
          refine Monitor.Obeys.pure_iff.mpr (claims_updateStatus (.inl rfl) fun _ _ => .inl rfl)
      | .ok cr =>
          have hfits : FitsKey kinds e.csmKey cr := hr
          refine Monitor.Obeys.pure_iff.mpr (claims_updateStatus (.inr ?_) fun o ho => .inr ?_)
          · rw [hfits.key_eq]
            exact hfits
          · rw [hfits.key_eq]
            exact hover o _ (List.subset_append_right _ _) ho

/-! ## All interleavings -/

/-- The condition on a run: the Deployment events that are handled are those of the controllers, and a
lookup fails only because there is no Deployment. -/
def ReportsController (kinds : NamespacedName → Kind) : Threads → Move Api World Entry → Prop
  | ps, .spawn ent => ent.Possible ps.world ∧ ControllerEvent kinds ent
  | _, .act _ e => ∀ key err, e = ⟨.getDeployment key, .error err⟩ → err.kind = .notFound
  | _, .drift _ => True

theorem Shown.mono {deployment : NamespacedName} {st : PodStatus} (h : Shown w deployment st)
    (hw : w.history <:+ w'.history) : Shown w' deployment st := by
  rcases h with h | ⟨cl, hcl, h⟩
  · exact .inl h
  · exact .inr ⟨cl, hw.subset hcl, h⟩

/-- What is stored is kept when a reply is decoded over what can be reported. -/
theorem Shown.decode {deployment : NamespacedName} {memory reply : PodStatus}
    (hmemory : Shown w deployment memory) (hreply : Shown w deployment reply) :
    Shown w deployment (World.decodePodStatus memory reply) := by
  rcases hreply with rfl | ⟨cl, hcl, rfl⟩
  · exact hmemory
  · -- a status that was looked up has no empty field
    have hkeep : ∀ r, World.decodePodStatus memory (lookupStatus r) = lookupStatus r := by
      intro r
      cases r with
      | error e => simp [World.decodePodStatus, World.decodeText, lookupStatus, emptyStatus]
      | ok d =>
          simp [World.decodePodStatus, World.decodeText, lookupStatus, replicaStatus,
            Go.itoa_ne_empty]
    rw [hkeep]
    exact .inr ⟨cl, hcl, rfl⟩

/-- What holds of the world and the log throughout. -/
structure ReportsOk (kinds : NamespacedName → Kind) (w : World) (log : List (Nat × Event Api)) :
    Prop where
  nonempty : w.history ≠ []
  stored : w.WellStored kinds
  shown : ∀ key cr, w.crs key = some cr → (kinds key).proxy = false →
    Shown w (controllerKey kinds key) cr.status.controllerStatus
  written : ∀ i cr r, (i, ⟨.updateCSMStatus cr, .ok r⟩) ∈ log → (kinds cr.key).proxy = false →
    Shown w (controllerKey kinds cr.key) cr.status.controllerStatus

/-- What claims mean. -/
def ClaimsTrue (w : World) (l : Claims) : Prop := ∀ c ∈ l, Shown w c.1 c.2

theorem ClaimsTrue.shown {st : PodStatus} (h : ClaimsTrue w l) (hst : Grounded kinds l key st)
    (hproxy : (kinds key).proxy = false) : Shown w (controllerKey kinds key) st := by
  rcases hst with hyes | hst | hst
  · rw [hproxy] at hyes
    cases hyes
  · exact .inl hst
  · exact h _ hst

theorem claimsTrue_append_stored {st : PodStatus} (h : ClaimsTrue w l)
    (hst : (kinds key).proxy = false → Shown w (controllerKey kinds key) st) :
    ClaimsTrue w (storedClaim kinds key st ++ l) := by
  intro c hc
  rcases List.mem_append.mp hc with hc | hc
  · unfold storedClaim at hc
    split at hc
    · cases hc
    · next hproxy =>
        obtain rfl := List.mem_singleton.mp hc
        exact hst (Bool.not_eq_true _ ▸ hproxy)
  · exact h c hc

theorem ClaimsTrue.mono (h : ClaimsTrue w l) (hw : w.history <:+ w'.history) : ClaimsTrue w' l :=
  fun c hc => (h c hc).mono hw

variable {log : List (Nat × Event Api)} {c : World.Choice}

/-- A lookup that does not fail shows the Deployment as it is. -/
theorem shown_of_getDeployment {deployment : NamespacedName} {r : Except GoError Deployment}
    (hne : w.history ≠ []) (h : w.respond (.getDeployment deployment) c = some (r, w'))
    (hfound : ∀ e, r = .error e → e.kind = .notFound) : Shown w deployment (lookupStatus r) := by
  rcases (World.of_truthful h).2 with rfl | ⟨e, rfl, hkind⟩
  · refine .inr ⟨w.cluster, ?_, rfl⟩
    obtain ⟨cl, past, hhistory⟩ := List.exists_cons_of_ne_nil hne
    rw [World.cluster, hhistory]
    exact List.mem_cons_self ..
  · exact absurd (hfound e rfl) hkind

/-- What a served request teaches is true. -/
theorem claims_served {q : Request} {r : q.Answer} (hok : ReportsOk kinds w log)
    (hl : ClaimsTrue w l) (hguard : Claims.Allows kinds l q)
    (h : w.respond q c = some (r, w'))
    (hfound : ∀ key err, (⟨q, r⟩ : Event Api) = ⟨.getDeployment key, .error err⟩ →
      err.kind = .notFound) :
    Claims.Expects kinds q r ∧ ClaimsTrue w' (Claims.learn kinds l q r) := by
  have hw := World.history_of_respond h
  cases q with
  | getDeployment key =>
      refine ⟨trivial, fun c hc => ?_⟩
      rcases List.mem_cons.mp hc with rfl | hc
      · refine (shown_of_getDeployment hok.nonempty h fun e he => ?_).mono hw
        subst he
        exact hfound key e rfl
      · exact (hl c hc).mono hw
  | getCSM key =>
      match r with
      | .error e => exact ⟨trivial, hl.mono hw⟩
      | .ok cr =>
          obtain ⟨rfl, hstored⟩ := World.of_getCSM h
          have hcr := hstored cr rfl
          exact ⟨hok.stored key cr hcr, claimsTrue_append_stored hl (hok.shown key cr hcr)⟩
  | updateCSM cr =>
      match r with
      | .error e => exact ⟨trivial, hl.mono hw⟩
      | .ok cr' =>
          rcases World.of_updateCSM h with ⟨-, e, he⟩ | ⟨stored, hstored, -, heq, -⟩
          · cases he
          · cases heq
            refine ⟨⟨rfl, rfl⟩, claimsTrue_append_stored (hl.mono hw) fun hproxy => ?_⟩
            have hmemory := hl.shown hguard.2 hproxy
            exact (hmemory.decode (hok.shown _ _ hstored hproxy)).mono hw
  | _ => exact ⟨trivial, hl.mono hw⟩

theorem reportsOk_served {q : Request} {r : q.Answer} (i : Nat) (hok : ReportsOk kinds w log)
    (hl : ClaimsTrue w l) (hguard : Claims.Allows kinds l q)
    (h : w.respond q c = some (r, w')) : ReportsOk kinds w' (log ++ [(i, ⟨q, r⟩)]) := by
  have hw := World.history_of_respond h
  refine ⟨?_, ?_, ?_, ?_⟩
  · intro hnil
    rw [hnil] at hw
    exact hok.nonempty (List.suffix_nil.mp hw)
  · refine World.wellStored_of_respond hok.stored (fun cr heq => ?_) h
    subst heq
    exact hguard.1
  · refine World.stored_of_respond (Φ := fun key cr => (kinds key).proxy = false →
      Shown w' (controllerKey kinds key) cr.status.controllerStatus)
      (fun key cr hcr hproxy => (hok.shown key cr hcr hproxy).mono hw)
      (fun cr stored _ _ hstored => hstored) (fun cr stored heq _ _ hproxy => ?_) h
    subst heq
    exact (hl.shown hguard hproxy).mono hw
  · intro j cr r' hmem hproxy
    rcases List.mem_append.mp hmem with hmem | hmem
    · exact (hok.written j cr r' hmem hproxy).mono hw
    · cases List.mem_singleton.mp hmem
      exact (hl.shown hguard hproxy).mono hw

/-- What an event brings along was the status of its object. -/
theorem claimsTrue_firstClaims {ent : Entry} (h : ent.Possible w) :
    ClaimsTrue w ent.firstClaims := by
  intro c hc
  match ent with
  | .update _ (.deployment _ new) =>
      obtain ⟨cl, hcl, hget⟩ := h.2
      obtain rfl := List.mem_singleton.mp hc
      exact .inr ⟨cl, hcl, by rw [hget]; rfl⟩
  | .reconcile _ => cases hc
  | .update _ (.daemonSet _ _) => cases hc
  | .update _ (.pod _ _) => cases hc

/-- **In every run** in which the Deployment events handled for a driver CR are those of its
controller Deployment, and lookups do not fail but for a missing Deployment, every controller status
that is written for a driver CR is that of its controller Deployment. -/
theorem written_controller_status_shown {w₀ : World} {ps : Threads}
    (hinit : ReportsOk kinds w₀ [])
    (hrun : Pool.Reach (environment kinds) (Entry.program rt) (ReportsController kinds)
      (Pool.empty w₀) ps)
    {i : Nat} {cr stored : ContainerStorageModule}
    (hwrite : (i, (⟨.updateCSMStatus cr, .ok stored⟩ : Event Api)) ∈ ps.log)
    (hdriver : (kinds cr.key).proxy = false) :
    Shown ps.world (controllerKey kinds cr.key) cr.status.controllerStatus := by
  have hok := hrun.exists_known (claims kinds) Entry.firstClaims
    (fun _ _ hspawn => claims_program hspawn.2) (ReportsOk kinds)
    (fun _ _ w _ l => ClaimsTrue w l) hinit
    (fun ps ent _ _ hspawn => claimsTrue_firstClaims hspawn.1) (fun ps w hok _ hdrift => ?_)
    (fun ps i ent l q k c r w hok hl _ hguard hr hfound => ?_)
  · exact hok.1.written i cr stored hwrite hdriver
  · have hdrift : Drift kinds ps.world w := hdrift
    refine ⟨⟨?_, ?_, ?_, ?_⟩, fun _ _ l _ hl => hl.mono hdrift.history⟩
    · intro hnil
      have hsuffix := hdrift.history
      rw [hnil] at hsuffix
      exact hok.nonempty (List.suffix_nil.mp hsuffix)
    · exact World.wellStored_of_drift hok.stored hdrift
    · refine World.stored_of_drift (Φ := fun key cr => (kinds key).proxy = false →
        Shown w (controllerKey kinds key) cr.status.controllerStatus)
        (fun key cr hcr hproxy => (hok.shown key cr hcr hproxy).mono hdrift.history)
        (fun key s s' _ hstatus _ hs => ?_) (fun key s _ hstatus _ _ => .inl ?_) hdrift
      · rw [hstatus]
        exact hs
      · rw [hstatus]
    · exact fun j cr r hmem hproxy => (hok.written j cr r hmem hproxy).mono hdrift.history
  · obtain ⟨hexpects, hlearn⟩ := claims_served hok hl hguard hr hfound
    exact ⟨hexpects, reportsOk_served i hok hl hguard hr, hlearn,
      fun _ _ l' _ _ hl' => hl'.mono (World.history_of_respond hr)⟩

/-! ### A module's Deployment -/

/-- A PowerScale CR with Observability. -/
def observedIsilon : ContainerStorageModule :=
  { isilonCR with spec :=
      { driver := { csiDriverType := .powerScale, configVersion := "v2.17.1" }
        modules := [{ name := .observability, enabled := true }] } }

def isilonController : Deployment :=
  { name := "isilon-controller", namesp := "dell", templateLabels := some (labelsFor isilonCR.key)
    replicas := some 2, statusReplicas := 2, readyReplicas := 2, availableReplicas := 2 }

/-- The collector of the Observability module. Its template has the labels of the CR, too. -/
def otelCollector : Deployment :=
  { name := "otel-collector", namesp := "dell", templateLabels := some (labelsFor isilonCR.key)
    statusReplicas := 1, readyReplicas := 1, availableReplicas := 1 }

def observedCluster : Cluster :=
  { nodesOnlyCluster with deployments := [isilonController, otelCollector] }

/-- No lookup of a Deployment fails. -/
def foundDeployment (_ : Threads) (_ : Nat) : Event Api → Bool
  | ⟨.getDeployment _, .error _⟩ => false
  | _ => true

/-- The CR has been reconciled. -/
def observedInstall : Threads :=
  startAndRun isilonKinds shippedRuntime foundDeployment (.reconcile isilonCR.key) (smooth 80)
    (Pool.empty (World.storing [observedIsilon] observedCluster))

/-- After that, an update of `d` has been handled. -/
def observedUpdate (d : Deployment) : Threads :=
  startAndRun isilonKinds shippedRuntime foundDeployment (.update "isilon" (.deployment d d))
    (smooth 20) observedInstall

theorem reach_observedUpdate {d : Deployment} {Ok : Threads → Move Api World Entry → Prop}
    (hreconcile : Ok (Pool.empty (World.storing [observedIsilon] observedCluster))
      (.spawn (.reconcile isilonCR.key)))
    (hupdate : Ok observedInstall (.spawn (.update "isilon" (.deployment d d))))
    (htest : ∀ ps i e, foundDeployment ps i e = true → Ok ps (.act i e)) :
    Pool.Reach (environment isilonKinds) (Entry.program shippedRuntime) Ok
      (Pool.empty (World.storing [observedIsilon] observedCluster)) (observedUpdate d) :=
  reach_startAndRun (reach_startAndRun .refl hreconcile htest) hupdate htest

theorem possible_observed {d : Deployment} (hd : observedCluster.getDeployment d.key = .ok d) :
    Entry.Possible observedInstall.world (.update "isilon" (.deployment d d)) := by
  have hwatch : ("isilon", true) ∈ observedInstall.world.watches := by decide
  have hhistory : observedInstall.world.history = [observedCluster] := rfl
  refine ⟨hwatch, observedCluster, ?_, hd⟩
  rw [hhistory]
  exact List.mem_singleton_self _

theorem reportsOk_observed :
    ReportsOk isilonKinds (World.storing [observedIsilon] observedCluster) [] where
  nonempty := List.cons_ne_nil _ _
  stored key cr h := by
    obtain ⟨hmem, hkey⟩ := World.of_storing h
    obtain rfl := List.mem_singleton.mp hmem
    exact ⟨hkey, by decide, rfl⟩
  shown key cr h _ := by
    obtain ⟨hmem, -⟩ := World.of_storing h
    obtain rfl := List.mem_singleton.mp hmem
    exact .inl rfl
  written i cr r h := nomatch h

/-- The theorem for an update of the controller Deployment. -/
theorem written_controller_status_shown_controller :
    ∃ i cr stored, (i, (⟨.updateCSMStatus cr, .ok stored⟩ : Event Api)) ∈
        (observedUpdate isilonController).log ∧
      i = 1 ∧ Shown (observedUpdate isilonController).world (controllerKey isilonKinds cr.key)
        cr.status.controllerStatus := by
  have hwrites : ((observedUpdate isilonController).log.any fun x =>
      (statusWrite x.2).any fun _ => x.1 = 1) = true := by decide +kernel
  obtain ⟨i, cr, stored, hwrite, hi⟩ := exists_statusWrite (p := fun i _ => i = 1) hwrites
  refine ⟨i, cr, stored, hwrite, hi,
    written_controller_status_shown reportsOk_observed (reach_observedUpdate ?_ ?_ ?_) hwrite rfl⟩
  · exact ⟨trivial, trivial⟩
  · exact ⟨possible_observed rfl, fun _ _ => rfl⟩
  · rintro ps i _ hfound key err rfl
    cases hfound

/-- The status of a module's Deployment is written as that of the controller. -/
theorem module_status_written_for_controller :
    Pool.Reach (environment isilonKinds) (Entry.program shippedRuntime) Delivered
      (Pool.empty (World.storing [observedIsilon] observedCluster)) (observedUpdate otelCollector) ∧
    ∃ i cr stored, (i, (⟨.updateCSMStatus cr, .ok stored⟩ : Event Api)) ∈
        (observedUpdate otelCollector).log ∧ (isilonKinds cr.key).proxy = false ∧
      ¬ Shown (observedUpdate otelCollector).world (controllerKey isilonKinds cr.key)
        cr.status.controllerStatus := by
  have hwrites : ((observedUpdate otelCollector).log.any fun x =>
      (statusWrite x.2).any fun cr => (isilonKinds cr.key).proxy = false ∧
        ¬ Shown (observedUpdate otelCollector).world (controllerKey isilonKinds cr.key)
          cr.status.controllerStatus) = true := by decide +kernel
  exact ⟨reach_observedUpdate trivial (possible_observed rfl) fun _ _ _ _ => trivial,
    exists_statusWrite hwrites⟩

end CsmOperator
