import CsmOperator.Concurrency.LastConfiguration
import CsmOperator.Concurrency.StopChannels

/-!
# What the operator writes about a CR into the CR

The operator keeps two JSON texts in a CR: the configuration applied last, in an annotation, and the
last successful configuration, in the status. Each is made of the CR it is stored in, and each is
copied or encoded into the other: `UpdateStatus` takes the annotation over into the status, and the
status of an authorization proxy server records a CR together with its annotations. If one of them
contained its own predecessor, a CR would grow with every reconcile.

It does not. What is encoded never has a status, so the recorded configuration is never inside another
text; and what goes into the annotation is encoded without the annotation. So the annotation has the
content of one CR that was read, and the recorded configuration that of one CR and perhaps one
annotation, however long the operator has been running.
-/

namespace CsmOperator

open Interaction

variable {rt : Runtime} {read csm : ContainerStorageModule} {key : NamespacedName} {text : String}

/-! ## Content -/

/-- The specs a thread can have in memory after it has read a CR: as it was read or prepared, before
and after the precheck of the driver. -/
def SpecOf (rt : Runtime) (read : ContainerStorageModule) (spec : ContainerStorageModuleSpec) : Prop :=
  ∃ cr, (cr = read ∨ prepare rt.op read = .ok cr) ∧
    (spec = cr.spec ∨ spec = (afterDriverPrecheck cr).spec)

/-- `csm` has the spec and the user's metadata of a CR that was read. What the operator adds is its
finalizer, its version and the config version; the two large texts are left open here. -/
structure ContentOf (rt : Runtime) (read csm : ContainerStorageModule) : Prop where
  key : csm.key = read.key
  spec : SpecOf rt read csm.spec
  finalizers : csm.finalizers = read.finalizers ∨ csm.finalizers ⊆ [csmFinalizerName]
  annotations : ∀ k, k ∉ ownedAnnotations → k ≠ kubectlLastApplied → csm.lookup k = read.lookup k
  version : csm.lookup csmVersionKey = read.lookup csmVersionKey ∨
    csm.lookup csmVersionKey = some csmVersion
  configVersion : csm.lookup configVersionKey = read.lookup configVersionKey ∨
    ∃ cr v, SpecOf rt read cr.spec ∧ getVersion rt.op cr = .ok v ∧
      csm.lookup configVersionKey = some v

theorem enableReverseProxy_idem (ms : List Module) :
    enableReverseProxy (enableReverseProxy ms) = enableReverseProxy ms := by
  induction ms with
  | nil => rfl
  | cons m ms ih =>
      by_cases hm : m.name = .reverseProxy
      · simp only [enableReverseProxy, hm, if_true]
      · simp only [enableReverseProxy, hm, if_false, ih]

/-- The precheck of the driver looks at nothing but the spec. -/
theorem afterDriverPrecheck_spec {a b : ContainerStorageModule} (h : a.spec = b.spec) :
    (afterDriverPrecheck a).spec = (afterDriverPrecheck b).spec := by
  unfold afterDriverPrecheck
  rw [h]
  split
  · rfl
  · exact h

/-- A second precheck of the driver changes nothing. -/
theorem afterDriverPrecheck_idem (cr : ContainerStorageModule) :
    afterDriverPrecheck (afterDriverPrecheck cr) = afterDriverPrecheck cr := by
  by_cases hdriver : cr.spec.driver.csiDriverType = .powerMax
  · simp only [afterDriverPrecheck, hdriver, if_true, enableReverseProxy_idem]
  · simp only [afterDriverPrecheck, hdriver, if_false]

theorem SpecOf.prechecked (h : SpecOf rt read csm.spec) :
    SpecOf rt read (afterDriverPrecheck csm).spec := by
  obtain ⟨cr, hcr, hspec | hspec⟩ := h
  · exact ⟨cr, hcr, .inr (afterDriverPrecheck_spec hspec)⟩
  · refine ⟨cr, hcr, .inr ?_⟩
    rw [afterDriverPrecheck_spec hspec, afterDriverPrecheck_idem]

namespace ContentOf

theorem refl (rt : Runtime) (read : ContainerStorageModule) : ContentOf rt read read where
  key := rfl
  spec := ⟨read, .inl rfl, .inl rfl⟩
  finalizers := .inl rfl
  annotations _ _ _ := rfl
  version := .inl rfl
  configVersion := .inl rfl

theorem prepared (h : prepare rt.op read = .ok csm) : ContentOf rt read csm := by
  have hspec : SpecOf rt read csm.spec := ⟨csm, .inr h, .inl rfl⟩
  obtain ⟨spec, rfl⟩ := prepare_eq h
  exact { refl rt read with spec := hspec }

variable (h : ContentOf rt read csm)

include h

theorem withStatus (st : ContainerStorageModuleStatus) : ContentOf rt read (csm.withStatus st) :=
  ⟨h.key, h.spec, h.finalizers, h.annotations, h.version, h.configVersion⟩

theorem withFinalizers {fs : List String} (hfs : fs ⊆ [csmFinalizerName]) :
    ContentOf rt read { csm with finalizers := fs } :=
  ⟨h.key, h.spec, .inr hfs, h.annotations, h.version, h.configVersion⟩

theorem prechecked : ContentOf rt read (afterDriverPrecheck csm) := by
  have hspec := h.spec.prechecked
  obtain ⟨spec, heq⟩ := afterDriverPrecheck_eq csm
  rw [heq] at hspec ⊢
  exact ⟨h.key, hspec, h.finalizers, h.annotations, h.version, h.configVersion⟩

/-- The same content with other annotations, as far as they matter. -/
theorem withAnnotations (annotations : Option StrMap)
    (hsame : ∀ k, k ≠ previouslyApplied → k ≠ kubectlLastApplied →
      ({ csm with annotations }).lookup k = csm.lookup k) :
    ContentOf rt read { csm with annotations } where
  key := h.key
  spec := h.spec
  finalizers := h.finalizers
  annotations k hk hkubectl := by
    have happlied : k ≠ previouslyApplied := by
      rintro rfl
      exact hk (by decide)
    rw [hsame k happlied hkubectl]
    exact h.annotations k hk hkubectl
  version := by
    rw [hsame csmVersionKey (by decide) (by decide)]
    exact h.version
  configVersion := by
    rw [hsame configVersionKey (by decide) (by decide)]
    exact h.configVersion

end ContentOf

/-! ### Annotations -/

theorem lookup_goDelete_of_ne (m : Option StrMap) {k k' : String} (hk : k ≠ k') :
    (goDelete m k').bind (· k) = m.bind (· k) := by
  cases m with
  | none => rfl
  | some f => exact Function.update_of_ne hk _ _

theorem lookup_goDelete_self (m : Option StrMap) (k : String) : (goDelete m k).bind (· k) = none := by
  cases m with
  | none => rfl
  | some f => exact Function.update_self ..

/-- `applyConfigVersionAnnotations` writes two annotations. -/
theorem lookup_versions_recorded (op : OperatorConfig) (csm : ContainerStorageModule) :
    (∀ k, k ≠ csmVersionKey → k ≠ configVersionKey →
      (applyConfigVersionAnnotations op csm).1.lookup k = csm.lookup k) ∧
    ((applyConfigVersionAnnotations op csm).1.lookup csmVersionKey = csm.lookup csmVersionKey ∨
      (applyConfigVersionAnnotations op csm).1.lookup csmVersionKey = some csmVersion) ∧
    ((applyConfigVersionAnnotations op csm).1.lookup configVersionKey = csm.lookup configVersionKey ∨
      ∃ v, getVersion op csm = .ok v ∧
        (applyConfigVersionAnnotations op csm).1.lookup configVersionKey = some v) := by
  have hkeys : configVersionKey ≠ csmVersionKey := by decide
  obtain ⟨-, hlookup, -⟩ | ⟨v, -, hversion, hlookup⟩ := applyConfigVersionAnnotations_cases op csm
  · simp only [hlookup]
    refine ⟨fun k hk _ => if_neg hk, ?_, .inl (if_neg hkeys)⟩
    rw [if_pos trivial, ContainerStorageModule.lookup]
    cases csm.annotations with
    | none => exact .inl rfl
    | some f => exact .inr rfl
  · simp only [hlookup]
    refine ⟨fun k hk hk' => (if_neg hk').trans (if_neg hk), .inr ?_, .inr ⟨v, hversion, if_pos trivial⟩⟩
    exact (if_neg hkeys.symm).trans (if_pos trivial)

/-- Recording the versions keeps the content. -/
theorem ContentOf.annotated (h : ContentOf rt read csm) :
    ContentOf rt read (applyConfigVersionAnnotations rt.op csm).1 := by
  obtain ⟨hother, hversion, hconfig⟩ := lookup_versions_recorded rt.op csm
  obtain ⟨annotations, heq⟩ := applyConfigVersionAnnotations_fst rt.op csm
  rw [heq] at hother hversion hconfig ⊢
  refine ⟨h.key, h.spec, h.finalizers, fun k hk hkubectl => ?_, ?_, ?_⟩
  · have hk₁ : k ≠ csmVersionKey := by
      rintro rfl
      exact hk (by decide)
    have hk₂ : k ≠ configVersionKey := by
      rintro rfl
      exact hk (by decide)
    rw [hother k hk₁ hk₂]
    exact h.annotations k hk hkubectl
  · rcases hversion with hversion | hversion
    · rw [hversion]
      exact h.version
    · exact .inr hversion
  · rcases hconfig with hconfig | ⟨v, hv, hconfig⟩
    · rw [hconfig]
      exact h.configVersion
    · exact .inr ⟨csm, v, h.spec, hv, hconfig⟩

/-! ## The two texts -/

section Texts

variable {reads reads' : ContainerStorageModule → Prop}

/-- A CR as it is encoded, for the CRs that were read: without a status and without the annotation of
kubectl. -/
structure Encoded (rt : Runtime) (reads : ContainerStorageModule → Prop) (key : NamespacedName)
    (csm : ContainerStorageModule) : Prop where
  content : ∃ read, reads read ∧ read.key = key ∧ ContentOf rt read csm
  status : csm.status = {}
  kubectl : csm.lookup kubectlLastApplied = none

/-- A text for the annotation. -/
def AppliedText (rt : Runtime) (reads : ContainerStorageModule → Prop) (key : NamespacedName)
    (text : String) : Prop :=
  ∃ csm, Encoded rt reads key csm ∧ csm.lookup previouslyApplied = none ∧
    rt.jsonMarshal csm = .ok text

/-- A text for the status: nothing yet, or a CR whose annotation, if it has one, is such a text. -/
def RecordedText (rt : Runtime) (reads : ContainerStorageModule → Prop) (key : NamespacedName)
    (text : String) : Prop :=
  text = "" ∨ ∃ csm, Encoded rt reads key csm ∧
    (∀ t, csm.lookup previouslyApplied = some t → AppliedText rt reads key t) ∧
    rt.jsonMarshal csm = .ok text

theorem Encoded.mono (h : Encoded rt reads key csm) (hreads : ∀ cr, reads cr → reads' cr) :
    Encoded rt reads' key csm where
  content := h.content.imp fun read hread => ⟨hreads read hread.1, hread.2⟩
  status := h.status
  kubectl := h.kubectl

theorem AppliedText.mono (h : AppliedText rt reads key text) (hreads : ∀ cr, reads cr → reads' cr) :
    AppliedText rt reads' key text :=
  h.imp fun _ hcsm => ⟨hcsm.1.mono hreads, hcsm.2⟩

theorem RecordedText.mono (h : RecordedText rt reads key text)
    (hreads : ∀ cr, reads cr → reads' cr) : RecordedText rt reads' key text :=
  h.imp_right fun ⟨csm, hcsm, happlied, hjson⟩ =>
    ⟨csm, hcsm.mono hreads, fun t ht => (happlied t ht).mono hreads, hjson⟩

/-- `UpdateStatus` takes the text of the annotation. -/
theorem AppliedText.recorded (h : AppliedText rt reads key text) : RecordedText rt reads key text := by
  obtain ⟨csm, hcsm, hnone, hjson⟩ := h
  refine .inr ⟨csm, hcsm, fun t ht => ?_, hjson⟩
  rw [hnone] at ht
  cases ht

/-- What `oldStandAloneModuleCleanup` encodes. -/
theorem encoded_recordedCR (hread : reads read) (h : ContentOf rt read csm) :
    Encoded rt reads read.key (recordedCR csm) ∧ (recordedCR csm).lookup previouslyApplied = none := by
  have hdeleted : ∀ k, k ≠ kubectlLastApplied → (recordedCR csm).lookup k =
      (goDelete csm.annotations previouslyApplied).bind (· k) :=
    fun k hk => lookup_goDelete_of_ne _ hk
  refine ⟨⟨⟨read, hread, rfl, ?_⟩, rfl, lookup_goDelete_self _ _⟩, ?_⟩
  · exact ContentOf.withStatus (h.withAnnotations _ fun k happlied hkubectl =>
      (hdeleted k hkubectl).trans (lookup_goDelete_of_ne _ happlied)) {}
  · exact (hdeleted previouslyApplied (by decide)).trans (lookup_goDelete_self _ _)

/-- What `calculateState` records for a proxy server. -/
theorem recordedText_proxyConfiguration (hread : reads read) (h : ContentOf rt read csm)
    (happlied : ∀ t, csm.lookup previouslyApplied = some t → AppliedText rt reads read.key t) :
    RecordedText rt reads read.key (proxyConfiguration rt csm) := by
  unfold proxyConfiguration
  split
  next out hjson =>
    have hcontent := ContentOf.withStatus (h.withAnnotations
      (goDelete csm.annotations kubectlLastApplied) fun _ _ => lookup_goDelete_of_ne _) {}
    refine .inr ⟨_, ⟨⟨read, hread, rfl, hcontent⟩, rfl, lookup_goDelete_self _ _⟩, fun t ht => ?_, hjson⟩
    exact happlied t ((lookup_goDelete_of_ne csm.annotations (by decide)).symm.trans ht)
  next => exact .inl rfl

/-- The two texts of a CR, read or in memory. -/
structure Sound (rt : Runtime) (reads : ContainerStorageModule → Prop)
    (csm : ContainerStorageModule) : Prop where
  applied : ∀ t, csm.lookup previouslyApplied = some t → AppliedText rt reads csm.key t
  recorded : RecordedText rt reads csm.key csm.status.lastSuccessfulConfiguration

/-- A CR in memory that has the content of one that was read. -/
structure Genuine (rt : Runtime) (reads : ContainerStorageModule → Prop)
    (csm : ContainerStorageModule) : Prop extends Sound rt reads csm where
  content : ∃ read, reads read ∧ ContentOf rt read csm

/-- A CR whose status is computed and stored. A handler that could not read its CR goes on with an
empty one, which is no proxy server. -/
structure Reportable (rt : Runtime) (reads : ContainerStorageModule → Prop)
    (csm : ContainerStorageModule) : Prop extends Sound rt reads csm where
  content : isAuthorizationProxyServer csm = true → ∃ read, reads read ∧ ContentOf rt read csm

theorem Genuine.reportable (h : Genuine rt reads csm) : Reportable rt reads csm :=
  ⟨h.toSound, fun _ => h.content⟩

theorem reportable_empty : Reportable rt reads {} where
  applied _ h := by cases h
  recorded := .inl rfl
  content h := by cases h

/-! ## The steps of a thread -/

/-- The monitor of what a thread writes, for a run in which `reads` have been read. -/
def bookkeeper (rt : Runtime) (reads : ContainerStorageModule → Prop) : Monitor Api Unit where
  guard _ q := match q with
    | .updateCSM cr => Sound rt reads cr
    | .updateCSMStatus cr => RecordedText rt reads cr.key cr.status.lastSuccessfulConfiguration
    | _ => True
  assume _ q r := match q, r with
    | .getCSM key, .ok cr => cr.key = key ∧ reads cr ∧ Sound rt reads cr
    | .updateCSM cr, .ok cr' => ∃ uid resourceVersion deletionTimestamp status,
        cr' = { cr with uid, resourceVersion, deletionTimestamp, status } ∧
          RecordedText rt reads cr.key status.lastSuccessfulConfiguration
    | _, _ => True
  next _ _ _ := ()

theorem bookkeeper_frames : (bookkeeper rt reads).Frames (fun _ _ => True) Aside where
  refl _ := trivial
  trans _ _ _ _ _ := trivial
  tolerates _ q hq := by
    refine ⟨?_, fun _ _ => trivial⟩
    cases q <;> trivial

theorem Sound.withStatus (h : Sound rt reads csm) {st : ContainerStorageModuleStatus}
    (hst : RecordedText rt reads csm.key st.lastSuccessfulConfiguration) :
    Sound rt reads (csm.withStatus st) :=
  ⟨h.applied, hst⟩

/-- What `calculateState` comes to. -/
theorem Reportable.settled {st : ContainerStorageModuleStatus} (h : Reportable rt reads csm)
    (hst : Recalculated csm st) (running : Bool) :
    RecordedText rt reads csm.key
      (settleState rt (csm.withStatus st) running).status.lastSuccessfulConfiguration := by
  have hkept : RecordedText rt reads csm.key st.lastSuccessfulConfiguration :=
    hst.configuration ▸ h.recorded
  -- with the verdict in, the text is that of a proxy server or the one there was
  have hverdict : ∀ cr st', cr = csm.withStatus st' →
      st'.lastSuccessfulConfiguration = st.lastSuccessfulConfiguration →
      RecordedText rt reads csm.key (if isAuthorizationProxyServer cr && cr.status.state = .succeeded
        then cr.setLastSuccessfulConfiguration (proxyConfiguration rt cr)
        else cr).status.lastSuccessfulConfiguration := by
    rintro cr st' rfl hsame
    split
    next hserver =>
      rw [Bool.and_eq_true] at hserver
      obtain ⟨read, hread, hcontent⟩ := h.content hserver.1
      have happlied := h.applied
      rw [hcontent.key] at happlied ⊢
      exact recordedText_proxyConfiguration hread (hcontent.withStatus st') happlied
    next => exact hsame ▸ hkept
  cases running
  · exact hverdict _ { st with state := .failed } rfl rfl
  · exact hverdict _ st rfl rfl

theorem bookkeeper_calculateState {override_ : Option PodStatus} (h : Reportable rt reads csm) :
    (bookkeeper rt reads).Obeys (calculateState rt csm override_) () fun x _ =>
      ∃ st, x.1 = csm.withStatus st ∧
        RecordedText rt reads csm.key st.lastSuccessfulConfiguration := by
  have hinert : (bookkeeper rt reads).Frames (fun _ _ => True) Inert :=
    bookkeeper_frames.mono fun _ hq => (Noise.of_inert hq).aside
  refine obeys_calculateState hinert fun st running err _ hst _ _ => ?_
  refine Monitor.Obeys.call_iff.mpr ⟨trivial, fun _ _ => Monitor.Obeys.ret_iff.mpr ?_⟩
  have hsettled := h.settled hst running
  obtain ⟨st', hst'⟩ := settleState_eq_withStatus rt (csm.withStatus st) running
  dsimp only
  rw [hst'] at hsettled ⊢
  exact ⟨st', rfl, hsettled⟩

/-- The text recorded is the one there was, or that of the annotation. -/
theorem recordedText_recordConfiguration (h : Sound rt reads csm) (running : Bool) :
    RecordedText rt reads csm.key
      (recordConfiguration csm running).status.lastSuccessfulConfiguration := by
  unfold recordConfiguration
  dsimp only
  split_ifs with _ hne
  · unfold goLookup at hne ⊢
    cases happlied : csm.annotations.bind (· previouslyApplied) with
    | none =>
        rw [happlied] at hne
        exact absurd rfl hne
    | some t => exact (h.applied t happlied).recorded
  · exact h.recorded
  · exact h.recorded

theorem bookkeeper_writeStatus
    (h : RecordedText rt reads csm.key csm.status.lastSuccessfulConfiguration) :
    (bookkeeper rt reads).Obeys (retryOnConflict (writeStatus csm) defaultRetrySteps) ()
      fun _ _ => True := by
  refine Monitor.Obeys.mono (obeys_retryOnConflict (J := fun _ => True) (Q := fun _ _ => True)
    (fun _ _ => ?_) 4 trivial) fun _ _ _ => trivial
  refine obeys_writeStatus trivial (fun _ _ => ⟨trivial, fun _ => trivial⟩) fun read hread => ?_
  refine Monitor.Obeys.call_iff.mpr
    ⟨?_, fun _ _ => Monitor.Obeys.ret_iff.mpr ⟨trivial, fun _ => trivial⟩⟩
  show RecordedText rt reads read.key csm.status.lastSuccessfulConfiguration
  rw [hread.1]
  exact h

theorem bookkeeper_updateStatus {override_ : Option PodStatus} (h : Reportable rt reads csm) :
    (bookkeeper rt reads).Obeys (updateStatus rt csm override_) () fun _ _ => True := by
  refine obeys_updateStatus (bookkeeper_frames.mono fun _ => Noise.aside) fun _ _ => ?_
  refine (bookkeeper_calculateState h).mono fun ⟨x, running, err⟩ _ hx => ?_
  obtain ⟨st, hst, hrecorded⟩ := hx
  dsimp only at hst ⊢
  subst hst
  have hconfig := recordedText_recordConfiguration (h.toSound.withStatus hrecorded) running
  obtain ⟨c, hc⟩ := recordConfiguration_eq (csm.withStatus st) running
  rw [hc] at hconfig ⊢
  refine (bookkeeper_writeStatus hconfig).mono fun _ _ _ _ _ => ?_
  exact Monitor.Obeys.call_iff.mpr ⟨trivial, fun _ _ => Monitor.Obeys.ret_iff.mpr trivial⟩

/-- The reply to an update has the content that was sent. -/
theorem bookkeeper_updateCSM (h : Genuine rt reads csm) :
    (bookkeeper rt reads).Obeys (updateCSM csm) ()
      (Reply (fun cr _ => Genuine rt reads cr ∧ cr.annotations = csm.annotations) fun _ => True) := by
  refine Monitor.Obeys.call_iff.mpr ⟨h.toSound, fun r hr => Monitor.Obeys.ret_iff.mpr ?_⟩
  match r with
  | .error e => trivial
  | .ok cr =>
      obtain ⟨uid, resourceVersion, deletionTimestamp, status, rfl, hrecorded⟩ := hr
      obtain ⟨read, hread, hcontent⟩ := h.content
      exact ⟨⟨⟨h.applied, hrecorded⟩, read, hread, hcontent.key, hcontent.spec, hcontent.finalizers,
        hcontent.annotations, hcontent.version, hcontent.configVersion⟩, rfl⟩

/-- The annotation that `SyncCSM` writes. -/
theorem Genuine.withApplied {annotations : StrMap} {out : String} (h : Genuine rt reads csm)
    (hann : csm.annotations = some annotations) (hjson : rt.jsonMarshal (recordedCR csm) = .ok out) :
    Genuine rt reads (withApplied csm annotations out) := by
  obtain ⟨read, hread, hcontent⟩ := h.content
  refine ⟨⟨fun t ht => ?_, h.recorded⟩, read, hread,
    hcontent.withAnnotations _ fun k happlied _ => ?_⟩
  · have hout : Function.update annotations previouslyApplied (some out) previouslyApplied = some t := ht
    rw [Function.update_self] at hout
    cases hout
    obtain ⟨hencoded, hnone⟩ := encoded_recordedCR hread hcontent
    exact hcontent.key ▸ ⟨recordedCR csm, hencoded, hnone, hjson⟩
  · rw [ContainerStorageModule.lookup, ContainerStorageModule.lookup, hann]
    exact Function.update_of_ne happlied _ _

theorem bookkeeper_syncCSM (h : Genuine rt reads csm) :
    (bookkeeper rt reads).Obeys (syncCSM rt csm) () fun x _ =>
      x.2 = none → Reportable rt reads { csm with annotations := x.1.annotations } := by
  refine obeys_syncCSM (bookkeeper_frames.mono fun _ => Noise.aside) ?_ ?_
  · intro err _ _ _
    exact Monitor.Obeys.call_iff.mpr ⟨trivial, fun _ _ => Monitor.Obeys.ret_iff.mpr fun _ =>
      h.reportable⟩
  · intro annotations out _ _ hann hjson
    have hsent := h.withApplied hann hjson
    refine (bookkeeper_updateCSM hsent).mono fun r _ hr cr err _ _ hcr => ?_
    refine Monitor.Obeys.call_iff.mpr ⟨trivial, fun _ _ => Monitor.Obeys.ret_iff.mpr fun hnone => ?_⟩
    subst hnone
    rcases hcr with rfl | ⟨-, e, -, herr⟩
    · obtain ⟨-, hannotations⟩ := hr
      dsimp only
      rw [hannotations]
      exact hsent.reportable
    · cases herr

theorem bookkeeper_keeps : Keeps rt fun cr (_ : Unit) => Genuine rt reads cr where
  state _ _ _ h := ⟨⟨h.applied, h.recorded⟩, h.content.imp fun _ hread =>
    ⟨hread.1, hread.2.withStatus _⟩⟩
  finalizers _ _ _ hfs h := ⟨⟨h.applied, h.recorded⟩, h.content.imp fun _ hread =>
    ⟨hread.1, hread.2.withFinalizers hfs⟩⟩
  prechecked a _ h := by
    have hcontent := h.content.imp fun _ hread => And.intro hread.1 hread.2.prechecked
    obtain ⟨spec, hspec⟩ := afterDriverPrecheck_eq a
    rw [hspec] at hcontent ⊢
    exact ⟨⟨h.applied, h.recorded⟩, hcontent⟩
  annotated a _ h := by
    have hcontent := h.content.imp fun _ hread => And.intro hread.1 hread.2.annotated
    have hlookup := (lookup_versions_recorded rt.op a).1 previouslyApplied (by decide)
      (by decide)
    obtain ⟨annotations, heq⟩ := applyConfigVersionAnnotations_fst rt.op a
    rw [heq] at hcontent hlookup ⊢
    exact ⟨⟨fun t ht => h.applied t (hlookup.symm.trans ht), h.recorded⟩, hcontent⟩

theorem bookkeeper_carries :
    Carries rt (bookkeeper rt reads) (fun _ _ => True) (fun cr _ => Genuine rt reads cr)
      (fun cr _ => Reportable rt reads cr) where
  frames := bookkeeper_frames
  stable _ _ _ _ h := h
  keeps := bookkeeper_keeps
  update _ _ h := (bookkeeper_updateCSM h).mono fun r _ hr => by
    cases r with
    | error e => trivial
    | ok cr => exact hr.1
  invalid _ _ h := Monitor.Obeys.call_iff.mpr
    ⟨h.recorded, fun _ _ => Monitor.Obeys.ret_iff.mpr trivial⟩
  calculate _ _ h := (bookkeeper_calculateState h.reportable).mono fun x _ hx => by
    obtain ⟨st, hst, hrecorded⟩ := hx
    rw [hst]
    exact ⟨h.toSound.withStatus hrecorded, h.content.imp fun _ hread =>
      ⟨hread.1, hread.2.withStatus st⟩⟩
  sync _ _ h := bookkeeper_syncCSM h
  status _ _ h := bookkeeper_updateStatus h
  reconciled _ _ _ _ := trivial

/-- Every thread keeps the books. -/
theorem bookkeeper_program (ent : Entry) :
    (bookkeeper rt reads).Obeys (ent.program rt) () fun _ _ => True := by
  cases ent with
  | reconcile key =>
      refine bookkeeper_carries.reconcile trivial fun cr cr' hcr hprep => ?_
      obtain ⟨-, hread, hsound⟩ : cr.key = key ∧ reads cr ∧ Sound rt reads cr := hcr
      have hcontent := ContentOf.prepared hprep
      obtain ⟨spec, rfl⟩ := prepare_eq hprep
      exact ⟨⟨hsound.applied, hsound.recorded⟩, cr, hread, hcontent⟩
  | update csmName e =>
      refine obeys_informerUpdate bookkeeper_frames fun _ _ _ => ?_
      refine obeys_ask_bind (.getCSM e.csmKey) trivial fun r hr => ?_
      match r with
      | .error err => exact Monitor.Obeys.pure_iff.mpr (bookkeeper_updateStatus reportable_empty)
      | .ok cr =>
          obtain ⟨-, hread, hsound⟩ : cr.key = e.csmKey ∧ reads cr ∧ Sound rt reads cr := hr
          exact Monitor.Obeys.pure_iff.mpr
            (bookkeeper_updateStatus ⟨hsound, fun _ => ⟨cr, hread, .refl rt cr⟩⟩)

theorem bookkeeper_goroutine (ent : Entry) :
    (bookkeeper rt reads).Obeys (ent.goroutine rt) () fun _ _ => True := by
  refine obeys_unwinding (J := fun _ _ => True) (fun _ _ _ _ _ _ => trivial) ?_
    (bookkeeper_program ent) trivial
  intro held l _ _
  generalize held.filter (·.deferred) = ms
  induction ms with
  | nil => exact Monitor.Obeys.pure_iff.mpr trivial
  | cons m ms ih => exact Monitor.Obeys.call_iff.mpr ⟨trivial, fun _ _ => ih⟩

end Texts

/-! ## All interleavings -/

/-- The world as it answers. Users and the cluster are free to do anything, except that the two texts
are the operator's: they stay as they are in a CR that is edited, and a CR that is created has none. -/
def ownTexts : Env Api World World.Choice where
  respond := World.respond
  drift w w' := ∀ key cr', w'.crs key = some cr' → cr'.key = key ∧
    match w.crs key with
    | some cr => cr'.lookup previouslyApplied = cr.lookup previouslyApplied ∧
        cr'.status.lastSuccessfulConfiguration = cr.status.lastSuccessfulConfiguration
    | none => cr'.lookup previouslyApplied = none ∧ cr'.status.lastSuccessfulConfiguration = ""

/-- The operator has not written anything yet. -/
def World.Unwritten (w : World) : Prop :=
  ∀ key cr, w.crs key = some cr → cr.key = key ∧ cr.lookup previouslyApplied = none ∧
    cr.status.lastSuccessfulConfiguration = ""

/-- The CR was the answer to a read. -/
def ReadIn (log : List (Nat × Event Api)) (cr : ContainerStorageModule) : Prop :=
  ∃ i, (i, (⟨.getCSM cr.key, .ok cr⟩ : Event Api)) ∈ log

/-- The stored CRs while the books are kept. -/
def World.Booked (rt : Runtime) (reads : ContainerStorageModule → Prop) (w : World) : Prop :=
  ∀ key cr, w.crs key = some cr → cr.key = key ∧ Sound rt reads cr

section Booked

variable {reads : ContainerStorageModule → Prop} {w w' : World} {c : World.Choice}

theorem booked_of_unwritten (h : w.Unwritten) : w.Booked rt reads := by
  intro key cr hcr
  obtain ⟨hkey, happlied, hrecorded⟩ := h key cr hcr
  refine ⟨hkey, fun t ht => ?_, .inl hrecorded⟩
  rw [happlied] at ht
  cases ht

theorem booked_of_drift (hw : w.Booked rt reads) (h : ownTexts.drift w w') : w'.Booked rt reads := by
  intro key cr' hcr'
  obtain ⟨rfl, htexts⟩ := h key cr' hcr'
  refine ⟨rfl, ?_⟩
  split at htexts
  next cr hcr =>
    obtain ⟨hkey, hsound⟩ := hw _ cr hcr
    refine ⟨fun t ht => ?_, ?_⟩
    · exact hkey ▸ hsound.applied t (htexts.1.symm.trans ht)
    · rw [htexts.2, ← hkey]
      exact hsound.recorded
  next =>
    refine ⟨fun t ht => ?_, .inl htexts.2⟩
    rw [htexts.1] at ht
    cases ht

theorem booked_of_respond {q : Request} {r : q.Answer} (hw : w.Booked rt reads)
    (hguard : (bookkeeper rt reads).guard () q) (h : w.respond q c = some (r, w')) :
    w'.Booked rt reads := by
  refine World.stored_of_respond (Φ := fun key cr => cr.key = key ∧ Sound rt reads cr) hw ?_ ?_ h
  · rintro cr stored rfl - ⟨hkey, hstored⟩
    have hsent : Sound rt reads cr := hguard
    exact ⟨rfl, hsent.applied, hkey ▸ hstored.recorded⟩
  · rintro cr stored rfl - ⟨hkey, hstored⟩
    refine ⟨hkey, hstored.applied, ?_⟩
    show RecordedText rt reads stored.key cr.status.lastSuccessfulConfiguration
    rw [hkey]
    exact hguard

/-- What the server answers is what the threads rely on. -/
theorem bookkeeper_assume {q : Request} {r : q.Answer} (hw : w.Booked rt reads)
    (hread : ∀ key cr, (⟨q, r⟩ : Event Api) = ⟨.getCSM key, .ok cr⟩ → cr.key = key → reads cr)
    (hguard : (bookkeeper rt reads).guard () q)
    (h : w.respond q c = some (r, w')) : (bookkeeper rt reads).assume () q r := by
  cases q with
  | getCSM key =>
      match r with
      | .error e => trivial
      | .ok cr =>
          obtain ⟨hkey, hsound⟩ := hw key cr ((World.of_getCSM h).2 cr rfl)
          exact ⟨hkey, hread key cr rfl hkey, hsound⟩
  | updateCSM cr =>
      match r with
      | .error e => trivial
      | .ok cr' =>
          rcases World.of_updateCSM h with ⟨-, e, he⟩ | ⟨stored, hstored, -, heq, -⟩
          · cases he
          · cases heq
            obtain ⟨hkey, hsound⟩ := hw _ stored hstored
            refine ⟨_, _, _, _, rfl, ?_⟩
            show RecordedText rt reads cr.key (World.decodeText cr.status.lastSuccessfulConfiguration
              stored.status.lastSuccessfulConfiguration)
            unfold World.decodeText
            split
            · exact Sound.recorded hguard
            · exact hkey ▸ hsound.recorded
  | _ => trivial

end Booked

/-- The length of the JSON of a CR without status is bounded by what the user and the operator put into
it. What else there is of it, its uid, version and deletion time, are texts of the server of a fixed
length. -/
def Measures (rt : Runtime) (size : NamespacedName → List String → Option StrMap →
    ContainerStorageModuleSpec → Nat) : Prop :=
  ∀ csm text, csm.status = {} → rt.jsonMarshal csm = .ok text →
    text.length ≤ size csm.key csm.finalizers csm.annotations csm.spec

/-- Start a goroutine and let it move. -/
def keepBooks (ent : Entry) (ps : Threads) : Threads :=
  (ps.afterSpawn ent (ent.goroutine shippedRuntime)).play ownTexts (fun _ _ _ => true)
    ((smooth 60).map fun c => (ps.threads.length, c))

theorem reach_keepBooks {w₀ : World} {ent : Entry} {ps : Threads}
    (h : Pool.Reach ownTexts (Entry.goroutine shippedRuntime) (fun _ _ => True) (Pool.empty w₀) ps) :
    Pool.Reach ownTexts (Entry.goroutine shippedRuntime) (fun _ _ => True) (Pool.empty w₀)
      (keepBooks ent ps) :=
  (h.tail trivial (.spawn ent)).play (fun _ _ _ _ => trivial) _

/-- Two reconciles, with an update of the node pod in between. -/
def bookedTwice : Threads :=
  keepBooks (.reconcile isilonCR.key) (keepBooks (.update "isilon" (.pod isilonPod isilonPod))
    (keepBooks (.reconcile isilonCR.key) (Pool.empty isilonWorld)))

theorem unwritten_isilonWorld : isilonWorld.Unwritten := by
  intro key cr h
  obtain ⟨hmem, hkey⟩ := World.of_storing h
  obtain rfl := List.mem_singleton.mp hmem
  exact ⟨hkey, rfl, rfl⟩

end CsmOperator
