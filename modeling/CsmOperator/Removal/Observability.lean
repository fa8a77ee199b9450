import CsmOperator.Interaction.Avoids
import CsmOperator.Removal.Driver
import Mathlib.Data.List.Perm.Basic

/-!
# The removal of Observability components

`oldStandAloneModuleCleanup` compares the CR with the one it recorded last, and calls
`reconcileObservability` to delete the components that are not enabled any more. This action is opened
here: it goes through the given components, and then through the certificates of all components that the
old CR enables. What can be deleted is computed exactly, over all answers of the API server.
-/

namespace CsmOperator

open Interaction Go

/-! ## Components -/

def otelCollectorName : String := "otel-collector"
def obsCertManagerName : String := "cert-manager"
def topologyName : String := "topology"
def metricsPowerStoreName : String := "metrics-powerstore"

def metricsNames : List String :=
  ["metrics-powerscale", "metrics-powerflex", "metrics-powermax", metricsPowerStoreName]

/-- The components that `IssuerCertServiceObs` makes a certificate for. -/
def certNames : List String := [otelCollectorName, topologyName, metricsPowerStoreName]

/-- What is read of the configuration for a CR: its version, and the objects of the manifests once they
are rendered. -/
structure ObsFiles where
  version : Except GoError String
  objects : String → Except GoError (List ObjectRef)
  certificates : String → Except GoError (List ObjectRef)

/-- `getObservabilityModule`: the first entry, enabled or not. -/
def getObservabilityModule (cr : ContainerStorageModule) : Except GoError Module :=
  match cr.spec.modules.find? (·.name = .observability) with
  | some m => .ok m
  | none => .error (errorf "could not find observability module")

/-! ## Deleting -/

/-- Follow a pointer. -/
def objectDeref {α : Type} : Option α → ObjectOp α
  | some a => pure a
  | none => .call (.api .panic) nofun

/-- The second part, when the first one returns nil. -/
def thenOk (p q : ObjectOp (Option GoError)) : ObjectOp (Option GoError) := do
  match ← p with
  | some e => pure (some e)
  | none => q

def deleteManifest (manifest : Except GoError (List ObjectRef)) : ObjectOp (Option GoError) :=
  match manifest with
  | .error e => pure (some e)
  | .ok os => eachObject deleteObject os

/-- `objs[i] = objs[len(objs)-1]; objs = objs[:len(objs)-1]`. -/
def swapRemove (os : List ObjectRef) (i : Nat) (last : ObjectRef) : List ObjectRef := (os.set i last).dropLast

/-- The first Deployment and the other objects. -/
def splitDeployment (os : List ObjectRef) : Option (ObjectRef × List ObjectRef) := do
  let i ← os.findIdx? (·.kind = .deployment)
  let deployment ← os[i]?
  let last ← os.getLast?
  pure (deployment, swapRemove os i last)

/-- `PowerScaleMetrics` and its siblings; the copies of Secrets in versions before v2.15 are left out. -/
def deleteMetrics (manifest : Except GoError (List ObjectRef)) : ObjectOp (Option GoError) :=
  match manifest with
  | .error e => pure (some e)
  | .ok os =>
    match splitDeployment os with
    | none => pure (some (errorf "could not find deployment obj"))
    | some (deployment, rest) =>
      thenOk (eachObject deleteObject rest) do
        let err ← deleteWorkload deployment
        pure (err.map fun e => errorf ("error deleting deployment: " ++ e.text))

section Reconcile

variable (files : ObsFiles)

def topologySupported (version : String) : Bool := contains version "v2.13" || contains version "v2.14"

/-- One component, with `isDeleting`. -/
def deleteComponent (version comp : String) : ObjectOp (Option GoError) :=
  if comp = otelCollectorName ∨ comp = obsCertManagerName then deleteManifest (files.objects comp)
  else if comp = topologyName then
    if topologySupported version then deleteManifest (files.objects comp) else pure none
  else if comp ∈ metricsNames then deleteMetrics (files.objects comp)
  else pure (some (errorf ("unsupported component type: " ++ comp)))

def deleteComponents (version : String) : List String → ObjectOp (Option GoError)
  | [] => pure none
  | comp :: comps => thenOk (deleteComponent files version comp) (deleteComponents version comps)

/-- The loop of `IssuerCertServiceObs`: it follows the flag of each component with a certificate. -/
def deleteCertificates : List ContainerTemplate → ObjectOp (Option GoError)
  | [] => pure none
  | component :: components =>
    if component.name ∈ certNames then do
      if ← objectDeref component.enabled then
        thenOk (deleteManifest (files.certificates component.name)) (deleteCertificates components)
      else deleteCertificates components
    else deleteCertificates components

def issuerCertServiceObs (cr : ContainerStorageModule) : ObjectOp (Option GoError) :=
  match getObservabilityModule cr with
  | .error e => pure (some e)
  | .ok obs => deleteCertificates files obs.components

/-- The flag of the first component of the name that is on; `none` for a flag that is nil. -/
def flagOf? (name : String) : List ContainerTemplate → Option Bool
  | [] => some false
  | c :: cs =>
    if c.name = name then c.enabled.bind fun on => if on then some true else flagOf? name cs
    else flagOf? name cs

def componentEnabled? (cr : ContainerStorageModule) (name : String) : Option Bool :=
  match isModuleEnabled cr .observability with
  | some m => flagOf? name m.components
  | none => some false

/-- All enabled components, for a call without a list. -/
def enabledNames? (cr : ContainerStorageModule) : List ContainerTemplate → Option (List String)
  | [] => some []
  | c :: cs => do
    let on ← componentEnabled? cr c.name
    let rest ← enabledNames? cr cs
    pure (if on then c.name :: rest else rest)

def reconciledComponents? (cr : ContainerStorageModule) (components : List String) : Option (List String) :=
  if components = [] then
    match isModuleEnabled cr .observability with
    | some obs => enabledNames? cr obs.components
    | none => some []
  else some components

/-- `reconcileObservability` with `isDeleting`. -/
def deleteObservability (cr : ContainerStorageModule) (components : List String) :
    ObjectOp (Option GoError) :=
  match files.version with
  | .error e => pure (some e)
  | .ok version => do
    let comps ← objectDeref (reconciledComponents? cr components)
    thenOk (deleteComponents files version comps) do
      let err ← issuerCertServiceObs files cr
      pure (err.map fun e =>
        errorf ("unable to deploy Certificate & Issuer for Observability: " ++ e.text))

end Reconcile

/-- The opened action; everything else is passed on. -/
def openObservability (files : ContainerStorageModule → ObsFiles) : Implementation Api ObjectApi Unit
  | _, .action (.reconcileObservability true components) cr => do
    let err ← deleteObservability (files cr) cr components
    pure (err, ())
  | _, q => do
    let r ← objectAsk (.api q)
    pure (r, ())

/-- `oldStandAloneModuleCleanup` with the action opened. -/
def cleanupObjects (files : ContainerStorageModule → ObsFiles) (rt : Runtime)
    (newCR : ContainerStorageModule) : ObjectOp ((ContainerStorageModule × Option GoError) × Unit) :=
  (oldStandAloneModuleCleanup rt newCR).implement (openObservability files) ()

/-! ## What is meant -/

/-- Observability is on, and the component is. -/
def ComponentEnabled (cr : ContainerStorageModule) (name : String) : Prop :=
  ∃ m, isModuleEnabled cr .observability = some m ∧ ∃ c ∈ m.components, c.name = name ∧ c.enabled = some true

/-- The component was on and is not on any more. -/
def ComponentRemoved (oldCR newCR : ContainerStorageModule) (name : String) : Prop :=
  ComponentEnabled oldCR name ∧ ¬ComponentEnabled newCR name

def ComponentStays (oldCR newCR : ContainerStorageModule) (name : String) : Prop :=
  ComponentEnabled oldCR name ∧ ComponentEnabled newCR name

namespace ObsFiles

variable (files : ObsFiles)

/-- The objects of the component's own manifest. -/
def objectsOf (name : String) : List ObjectRef := ((files.objects name).toOption).getD []

/-- The objects of the component's certificate: an issuer and the certificate, or those for one of the CR. -/
def certificatesOf (name : String) : List ObjectRef :=
  if name ∈ certNames then ((files.certificates name).toOption).getD [] else []

def owns (name : String) : List ObjectRef := files.objectsOf name ++ files.certificatesOf name

/-- A manifest for a certificate has an object of its own, the certificate of the component. -/
def OwnCertificates : Prop :=
  ∀ name ∈ certNames, ∀ os, files.certificates name = .ok os →
    ∃ o ∈ os, ∀ other, o ∈ files.owns other → other = name

end ObsFiles

/-- Some answers lead to the deletion of the object. -/
def Deletes {α : Type} (o : ObjectRef) (p : ObjectOp α) : Prop := CanAsk (I := ObjectApi) (.delete o) p

/-- Whatever can be deleted belongs to a component that is removed, and to none that stays. -/
def CleanupFramed (files : ContainerStorageModule → ObsFiles) (rt : Runtime)
    (oldCR newCR : ContainerStorageModule) : Prop :=
  ∀ o, Deletes o (cleanupObjects files rt newCR) →
    (∃ name, ComponentRemoved oldCR newCR name ∧ o ∈ (files oldCR).owns name) ∧
      ∀ name, ComponentStays oldCR newCR name → o ∉ (files oldCR).owns name

/-! ## What single deletions can do -/

/-- Some answers lead to a return without error. -/
def Succeeds (p : ObjectOp (Option GoError)) : Prop := ∃ tr, Run p tr none

section Deletions

variable {α β : Type} {o o' : ObjectRef} {p q : ObjectOp (Option GoError)}

@[simp] theorem not_deletes_pure {a : α} : ¬Deletes o (pure a : ObjectOp α) := CanAsk.not_pure

theorem succeeds_pure : Succeeds (pure none) := ⟨[], .ret none⟩

theorem not_succeeds_pure {e : GoError} : ¬Succeeds (pure (some e)) := by
  rintro ⟨tr, hrun⟩
  cases (Run.ret_iff.mp hrun).2

theorem deletes_objectDeref_bind {x : Option α} {f : α → ObjectOp β} :
    Deletes o (objectDeref x >>= f) ↔ ∃ a, x = some a ∧ Deletes o (f a) := by
  cases x with
  | some a => simp [objectDeref, Prog.pure_eq]
  | none =>
      refine CanAsk.call_iff.trans ?_
      constructor
      · rintro (h | ⟨r, -⟩)
        · cases h
        · exact r.elim
      · rintro ⟨a, h, -⟩
        cases h

theorem deletes_thenOk : Deletes o (thenOk p q) ↔ Deletes o p ∨ Succeeds p ∧ Deletes o q := by
  refine CanAsk.bind_iff.trans (or_congr_right ?_)
  constructor
  · rintro ⟨tr, err, hrun, hrest⟩
    cases err with
    | none => exact ⟨⟨tr, hrun⟩, hrest⟩
    | some e => exact (CanAsk.not_pure hrest).elim
  · rintro ⟨⟨tr, hrun⟩, hrest⟩
    exact ⟨tr, none, hrun, hrest⟩

theorem succeeds_thenOk : Succeeds (thenOk p q) ↔ Succeeds p ∧ Succeeds q := by
  constructor
  · rintro ⟨tr, hrun⟩
    obtain ⟨tr₁, tr₂, err, -, hfirst, hrest⟩ := Run.bind_iff.mp hrun
    cases err with
    | none => exact ⟨⟨tr₁, hfirst⟩, ⟨tr₂, hrest⟩⟩
    | some e => exact (not_succeeds_pure ⟨tr₂, hrest⟩).elim
  · rintro ⟨⟨tr₁, hfirst⟩, ⟨tr₂, hrest⟩⟩
    exact ⟨tr₁ ++ tr₂, Run.bind_iff.mpr ⟨tr₁, tr₂, none, rfl, hfirst, hrest⟩⟩

/-- What is done to the error at the end deletes nothing. -/
theorem deletes_map {f : Option GoError → Option GoError} :
    Deletes o (p >>= fun err => pure (f err)) ↔ Deletes o p := by
  refine CanAsk.bind_iff.trans ⟨?_, .inl⟩
  rintro (h | ⟨tr, err, -, h⟩)
  · exact h
  · exact (CanAsk.not_pure h).elim

theorem succeeds_map {f : GoError → GoError} (h : Succeeds p) :
    Succeeds (p >>= fun err => pure (err.map f)) := by
  obtain ⟨tr, hrun⟩ := h
  exact ⟨tr ++ [], Run.bind_iff.mpr ⟨tr, [], none, rfl, hrun, .ret _⟩⟩

theorem deletes_deleteFound : Deletes o (deleteFound o') ↔ o = o' := by
  refine CanAsk.ask_bind_iff.trans ⟨?_, ?_⟩
  · rintro (h | ⟨r, h⟩)
    · exact ObjectRequest.delete.inj h
    · exact (CanAsk.not_pure h).elim
  · rintro rfl
    exact .inl rfl

/-- The read before a deletion. -/
theorem deletes_get_bind {f : Option GoError → ObjectOp α} :
    Deletes o (objectAsk (.get o') >>= f) ↔ ∃ err, Deletes o (f err) := by
  refine CanAsk.ask_bind_iff.trans ⟨?_, .inr⟩
  rintro (h | h)
  · cases h
  · exact h

theorem deletes_deleteObject : Deletes o (deleteObject o') ↔ o = o' := by
  refine deletes_get_bind.trans ⟨?_, fun h => ⟨none, deletes_deleteFound.mpr h⟩⟩
  rintro ⟨err, h⟩
  cases err with
  | none => exact deletes_deleteFound.mp h
  | some e => exact (CanAsk.not_pure h).elim

theorem deletes_deleteWorkload : Deletes o (deleteWorkload o') ↔ o = o' := by
  refine deletes_get_bind.trans ⟨?_, fun h => ⟨none, deletes_deleteFound.mpr h⟩⟩
  rintro ⟨err, h⟩
  cases err with
  | none => exact deletes_deleteFound.mp h
  | some e => exact (CanAsk.not_pure h).elim

theorem succeeds_deleteFound : Succeeds (deleteFound o) :=
  ⟨[⟨.delete o, none⟩], .call (.ret _)⟩

theorem succeeds_deleteObject : Succeeds (deleteObject o) :=
  ⟨[⟨.get o, none⟩, ⟨.delete o, none⟩], .call (.call (.ret _))⟩

theorem succeeds_deleteWorkload : Succeeds (deleteWorkload o) :=
  ⟨[⟨.get o, none⟩, ⟨.delete o, none⟩], .call (.call (.ret _))⟩

theorem succeeds_eachObject (os : List ObjectRef) : Succeeds (eachObject deleteObject os) := by
  induction os with
  | nil => exact succeeds_pure
  | cons o os ih => exact succeeds_thenOk.mpr ⟨succeeds_deleteObject, ih⟩

theorem deletes_eachObject {os : List ObjectRef} : Deletes o (eachObject deleteObject os) ↔ o ∈ os := by
  induction os with
  | nil => simp [eachObject]
  | cons o' os ih =>
      refine deletes_thenOk.trans ?_
      rw [deletes_deleteObject, ih, List.mem_cons]
      exact or_congr_right (and_iff_right succeeds_deleteObject)

end Deletions

/-! ## What the loops can do -/

theorem mem_splitDeployment {os rest : List ObjectRef} {deployment : ObjectRef}
    (h : splitDeployment os = some (deployment, rest)) (o : ObjectRef) :
    o ∈ os ↔ o ∈ rest ∨ o = deployment := by
  simp only [splitDeployment, bind, Option.bind_eq_some_iff, pure, Option.some.injEq, Prod.mk.injEq] at h
  obtain ⟨i, -, d, hd, last, hlast, rfl, rfl⟩ := h
  obtain ⟨hi, rfl⟩ := List.getElem?_eq_some_iff.mp hd
  obtain ⟨init, rfl⟩ := List.getLast?_eq_some_iff.mp hlast
  unfold swapRemove
  by_cases hlt : i < init.length
  · -- the last object takes the place of the Deployment
    have hperm := List.getD_set_perm_cons init i last
    rw [List.getElem?_eq_getElem hlt, Option.getD_some] at hperm
    rw [List.set_append_left _ _ hlt, List.dropLast_concat, List.getElem_append_left hlt, or_comm,
      ← List.mem_cons, hperm.mem_iff, List.mem_cons, List.mem_append, List.mem_singleton, or_comm]
  · -- the Deployment is the last object
    have hi' : i = init.length := by
      rw [List.length_append, List.length_singleton] at hi
      omega
    subst hi'
    simp

theorem splitDeployment_isSome_iff {os : List ObjectRef} :
    (splitDeployment os).isSome ↔ os.any (·.kind = .deployment) = true := by
  cases hfind : os.findIdx? (·.kind = .deployment) with
  | none =>
      rw [List.findIdx?_eq_none_iff] at hfind
      have hnone : os.any (·.kind = .deployment) = false := by simpa using hfind
      simp [splitDeployment, hnone, List.findIdx?_eq_none_iff.mpr hfind]
  | some i =>
      obtain ⟨hi, hkind, -⟩ := List.findIdx?_eq_some_iff_getElem.mp hfind
      have hany : os.any (·.kind = .deployment) = true := List.any_eq_true.mpr ⟨os[i], List.getElem_mem hi, hkind⟩
      have hne : os ≠ [] := List.ne_nil_of_length_pos (Nat.lt_of_le_of_lt (Nat.zero_le i) hi)
      simp [splitDeployment, hfind, hany, List.getElem?_eq_getElem hi, List.getLast?_eq_some_getLast hne]

section Loops

variable (files : ObsFiles) (version : String) {o : ObjectRef}

/-- The objects that are deleted for a component; `none` where its function returns an error. -/
def ObsFiles.deletedFor (comp : String) : Option (List ObjectRef) :=
  if comp = otelCollectorName ∨ comp = obsCertManagerName then (files.objects comp).toOption
  else if comp = topologyName then
    if topologySupported version then (files.objects comp).toOption else some []
  else if comp ∈ metricsNames then
    (files.objects comp).toOption.filter (·.any (·.kind = .deployment))
  else none

theorem deleteManifest_iff (manifest : Except GoError (List ObjectRef)) :
    (Deletes o (deleteManifest manifest) ↔ ∃ os, manifest.toOption = some os ∧ o ∈ os) ∧
      (Succeeds (deleteManifest manifest) ↔ manifest.toOption.isSome = true) := by
  cases manifest with
  | error e => exact ⟨by simp [deleteManifest, Except.toOption], by
      simp [deleteManifest, Except.toOption, not_succeeds_pure]⟩
  | ok os => exact ⟨by simp [deleteManifest, Except.toOption, deletes_eachObject], by
      simp [deleteManifest, Except.toOption, succeeds_eachObject]⟩

theorem deleteMetrics_iff (manifest : Except GoError (List ObjectRef)) :
    (Deletes o (deleteMetrics manifest) ↔
      ∃ os, manifest.toOption.filter (·.any (·.kind = .deployment)) = some os ∧ o ∈ os) ∧
      (Succeeds (deleteMetrics manifest) ↔
        (manifest.toOption.filter (·.any (·.kind = .deployment))).isSome = true) := by
  cases manifest with
  | error e => exact ⟨by simp [deleteMetrics, Except.toOption], by
      simp [deleteMetrics, Except.toOption, not_succeeds_pure]⟩
  | ok os =>
      cases hsplit : splitDeployment os with
      | none =>
          have hany : os.any (·.kind = .deployment) = false := by
            rw [← Bool.not_eq_true, ← splitDeployment_isSome_iff, hsplit]
            simp
          simp [deleteMetrics, hsplit, Except.toOption, Option.filter, hany, not_succeeds_pure]
      | some x =>
          obtain ⟨deployment, rest⟩ := x
          have hany : os.any (·.kind = .deployment) = true := by
            rw [← splitDeployment_isSome_iff, hsplit]
            rfl
          have hfilter : (Except.ok os : Except GoError _).toOption.filter (·.any (·.kind = .deployment)) =
              some os := by simp [Except.toOption, Option.filter, hany]
          have hprog : deleteMetrics (.ok os) = thenOk (eachObject deleteObject rest) (do
              let err ← deleteWorkload deployment
              pure (err.map fun e => errorf ("error deleting deployment: " ++ e.text))) := by
            simp only [deleteMetrics, hsplit]
          rw [hfilter, hprog]
          constructor
          · rw [deletes_thenOk, deletes_eachObject, deletes_map, deletes_deleteWorkload]
            simp only [succeeds_eachObject, true_and, Option.some.injEq, exists_eq_left']
            exact (mem_splitDeployment hsplit o).symm
          · rw [succeeds_thenOk]
            exact iff_of_true ⟨succeeds_eachObject _, succeeds_map succeeds_deleteWorkload⟩ rfl

theorem deleteComponent_iff (comp : String) :
    (Deletes o (deleteComponent files version comp) ↔
      ∃ os, files.deletedFor version comp = some os ∧ o ∈ os) ∧
      (Succeeds (deleteComponent files version comp) ↔ (files.deletedFor version comp).isSome = true) := by
  unfold deleteComponent ObsFiles.deletedFor
  split
  · exact deleteManifest_iff _
  · split
    · split
      · exact deleteManifest_iff _
      · exact ⟨by simp, iff_of_true succeeds_pure rfl⟩
    · split
      · exact deleteMetrics_iff _
      · exact ⟨by simp, by simp [not_succeeds_pure]⟩

/-- The components are gone through up to the first whose function returns an error. -/
theorem deleteComponents_iff (comps : List String) :
    (Deletes o (deleteComponents files version comps) ↔
      ∃ comp ∈ comps.takeWhile fun c => (files.deletedFor version c).isSome,
        ∃ os, files.deletedFor version comp = some os ∧ o ∈ os) ∧
      (Succeeds (deleteComponents files version comps) ↔
        ∀ comp ∈ comps, (files.deletedFor version comp).isSome = true) := by
  induction comps with
  | nil => exact ⟨by simp [deleteComponents], iff_of_true succeeds_pure (by simp)⟩
  | cons comp comps ih =>
      obtain ⟨hdeletes, hsucceeds⟩ := deleteComponent_iff (o := o) files version comp
      rw [deleteComponents, deletes_thenOk, succeeds_thenOk, hdeletes, hsucceeds, ih.1, ih.2]
      refine ⟨?_, by simp⟩
      cases hcomp : files.deletedFor version comp with
      | none => simp [hcomp]
      | some os => simp [hcomp]

/-- The components whose certificates the loop comes to delete: it ends with a flag that is nil, and with a
manifest that cannot be rendered. -/
def ObsFiles.certified : List ContainerTemplate → List String
  | [] => []
  | c :: cs =>
    if c.name ∈ certNames then
      match c.enabled with
      | none => []
      | some false => ObsFiles.certified cs
      | some true => if (files.certificates c.name).toOption.isSome then c.name :: ObsFiles.certified cs else []
    else ObsFiles.certified cs

theorem deletes_deleteCertificates (components : List ContainerTemplate) :
    Deletes o (deleteCertificates files components) ↔
      ∃ name ∈ files.certified components, o ∈ files.certificatesOf name := by
  induction components with
  | nil => simp [deleteCertificates, ObsFiles.certified]
  | cons c cs ih =>
      rw [deleteCertificates, ObsFiles.certified]
      by_cases hname : c.name ∈ certNames
      · rw [if_pos hname, if_pos hname, deletes_objectDeref_bind]
        cases henabled : c.enabled with
        | none => simp
        | some on =>
            cases on with
            | false => simpa using ih
            | true =>
                obtain ⟨hdeletes, hsucceeds⟩ := deleteManifest_iff (o := o) (files.certificates c.name)
                simp only [Option.some.injEq, exists_eq_left', if_true]
                rw [deletes_thenOk, hdeletes, hsucceeds, ih]
                cases hcert : (files.certificates c.name).toOption with
                | none => simp
                | some os => simp [ObsFiles.certificatesOf, hname, hcert]
      · rw [if_neg hname, if_neg hname]
        exact ih

end Loops

/-! ## The components that are dropped -/

theorem go_eq (name : String) (cs : List ContainerTemplate) :
    isModuleComponentEnabled.go name cs = deref (flagOf? name cs) := by
  induction cs with
  | nil => rfl
  | cons c cs ih =>
      rw [isModuleComponentEnabled.go, flagOf?]
      split
      · cases hflag : c.enabled with
        | none =>
            refine congrArg (Prog.call _) (funext fun r => ?_)
            exact r.elim
        | some on =>
            cases on with
            | true => rfl
            | false => exact ih
      · exact ih

theorem isModuleComponentEnabled_eq (cr : ContainerStorageModule) (name : String) :
    isModuleComponentEnabled cr .observability name = deref (componentEnabled? cr name) := by
  unfold isModuleComponentEnabled componentEnabled?
  cases isModuleEnabled cr .observability with
  | none => rfl
  | some m => exact go_eq name m.components

theorem flagOf?_eq_some {name : String} {cs : List ContainerTemplate} {on : Bool}
    (h : flagOf? name cs = some on) : on = true ↔ ∃ c ∈ cs, c.name = name ∧ c.enabled = some true := by
  induction cs with
  | nil =>
      cases h
      simp
  | cons c cs ih =>
      rw [flagOf?] at h
      split at h
      next hname =>
        cases hflag : c.enabled with
        | none => simp [hflag] at h
        | some b =>
            cases b with
            | true =>
                have hon : on = true := by simpa [hflag] using h.symm
                simp [hon, hname, hflag]
            | false =>
                have hrest : flagOf? name cs = some on := by simpa [hflag] using h
                simpa [hflag] using ih hrest
      next hname => simpa [hname] using ih h

theorem componentEnabled?_eq_some {cr : ContainerStorageModule} {name : String} {on : Bool}
    (h : componentEnabled? cr name = some on) : on = true ↔ ComponentEnabled cr name := by
  unfold componentEnabled? at h
  unfold ComponentEnabled
  cases hm : isModuleEnabled cr .observability with
  | none =>
      rw [hm] at h
      cases h
      simp
  | some m =>
      rw [hm] at h
      simpa using flagOf?_eq_some h

/-- The components that were on and are not on any more; `none` where a flag is nil. -/
def droppedNames? (oldCR newCR : ContainerStorageModule) : List ContainerTemplate → Option (List String)
  | [] => some []
  | comp :: comps => do
    let oldEnabled ← componentEnabled? oldCR comp.name
    let newEnabled ← componentEnabled? newCR comp.name
    let rest ← droppedNames? oldCR newCR comps
    pure (if oldEnabled && !newEnabled then comp.name :: rest else rest)

theorem deref_bind_deref {α β : Type} (x : Option α) (f : α → Option β) :
    (deref x >>= fun a => deref (f a)) = deref (x.bind f) := by
  cases x with
  | some a => rfl
  | none =>
      refine congrArg (Prog.call _) (funext fun r => ?_)
      exact r.elim

theorem droppedComponents_eq (oldCR newCR : ContainerStorageModule) (comps : List ContainerTemplate) :
    droppedComponents oldCR newCR comps = deref (droppedNames? oldCR newCR comps) := by
  induction comps with
  | nil => rfl
  | cons comp comps ih =>
      rw [droppedComponents, droppedNames?, ih, isModuleComponentEnabled_eq, isModuleComponentEnabled_eq]
      have hpure (oldEnabled newEnabled : Bool) (rest : List String) :
          (pure (if oldEnabled && !newEnabled then comp.name :: rest else rest) : Op (List String)) =
            deref (some (if oldEnabled && !newEnabled then comp.name :: rest else rest)) := rfl
      simp only [hpure, deref_bind_deref]
      rfl

theorem removed_of_dropped {oldCR newCR : ContainerStorageModule} {comps : List ContainerTemplate}
    {dropped : List String} (h : droppedNames? oldCR newCR comps = some dropped) :
    ∀ name ∈ dropped, ComponentRemoved oldCR newCR name := by
  induction comps generalizing dropped with
  | nil =>
      cases h
      simp
  | cons comp comps ih =>
      simp only [droppedNames?, bind, Option.bind_eq_some_iff, pure, Option.some.injEq] at h
      obtain ⟨oldEnabled, hold, newEnabled, hnew, rest, hrest, rfl⟩ := h
      split
      next hboth =>
        rw [Bool.and_eq_true, Bool.not_eq_true'] at hboth
        refine List.forall_mem_cons.mpr ⟨⟨?_, ?_⟩, ih hrest⟩
        · exact (componentEnabled?_eq_some hold).mp hboth.1
        · rw [← componentEnabled?_eq_some hnew, hboth.2]
          exact Bool.false_ne_true
      next => exact ih hrest

/-! ## What the cleanup can delete -/

section Cleanup

variable {files : ContainerStorageModule → ObsFiles} {rt : Runtime} {oldCR newCR : ContainerStorageModule}
  {o : ObjectRef}

/-- The requests that are passed on. -/
def PassedOn : Request → Prop
  | .action (.reconcileObservability true _) _ => False
  | _ => True

theorem openObservability_passed {q : Request} (h : PassedOn q) :
    openObservability files () q = (do
      let r ← objectAsk (.api q)
      pure (r, ())) := by
  cases q with
  | action a cr =>
      cases a with
      | reconcileObservability isDeleting components =>
          cases isDeleting with
          | true => exact h.elim
          | false => rfl
      | _ => rfl
  | _ => rfl

/-- A program that does not ask for the opened action deletes nothing. -/
theorem not_deletes_implement {α : Type} {p : Op α} (h : Asks PassedOn (fun _ => True) p) :
    ¬Deletes o (p.implement (openObservability files) ()) := by
  rintro ⟨u, hpending⟩
  obtain ⟨tr, q, u₁, u₂, s₁, hq, -, -, hcall⟩ := exists_of_pending_implement hpending
  rw [openObservability_passed (h.of_pending hq).2] at hcall
  obtain hask | ⟨r, hret⟩ := CanAsk.ask_bind_iff.mp ⟨u₂, hcall⟩
  · cases hask
  · exact CanAsk.not_pure hret

theorem deletes_deleteObservability {fs : ObsFiles} {cr : ContainerStorageModule} {obs : Module} {components : List String}
    (hobs : getObservabilityModule cr = .ok obs) (hne : components ≠ []) :
    Deletes o (deleteObservability fs cr components) ↔
      ∃ version, fs.version = .ok version ∧
        ((∃ comp ∈ components.takeWhile fun c => (fs.deletedFor version c).isSome,
            ∃ os, fs.deletedFor version comp = some os ∧ o ∈ os) ∨
          (∀ comp ∈ components, (fs.deletedFor version comp).isSome = true) ∧
            ∃ name ∈ fs.certified obs.components, o ∈ fs.certificatesOf name) := by
  unfold deleteObservability
  cases fs.version with
  | error e => simp
  | ok version =>
      obtain ⟨hdeletes, hsucceeds⟩ := deleteComponents_iff (o := o) fs version components
      simp only [reconciledComponents?, if_neg hne, deletes_objectDeref_bind, Option.some.injEq,
        exists_eq_left', Except.ok.injEq]
      rw [deletes_thenOk, hdeletes, hsucceeds, deletes_map, issuerCertServiceObs, hobs]
      exact or_congr_right (and_congr_right fun _ => deletes_deleteCertificates _ _)

theorem deletes_deref_implement {α β : Type} {x : Option α} {f : α → Op β} :
    Deletes o ((deref x >>= f).implement (openObservability files) ()) ↔
      ∃ a, x = some a ∧ Deletes o ((f a).implement (openObservability files) ()) := by
  cases x with
  | some a => exact ⟨fun h => ⟨a, rfl, h⟩, fun ⟨_, ha, h⟩ => Option.some.inj ha ▸ h⟩
  | none =>
      constructor
      · intro h
        have hpanic : Asks PassedOn (fun _ => True) (deref (none : Option α) >>= f) :=
          Sat.call_iff.mpr ⟨trivial, nofun⟩
        exact (not_deletes_implement hpanic h).elim
      · rintro ⟨a, ha, -⟩
        cases ha

theorem passedOn_recordApplied : Asks PassedOn (fun _ => True) (recordApplied rt newCR) := by
  have hderef {α : Type} (x : Option α) : Asks PassedOn (fun _ => True) (deref x) := by
    cases x with
    | some a => exact .pure trivial
    | none => exact Sat.call_iff.mpr ⟨trivial, nofun⟩
  unfold recordApplied
  split
  · exact .pure trivial
  · refine .bind (.bind (hderef _) fun _ => .pure trivial) fun annotations => ?_
    refine .bind (.ask (.updateCSM _) trivial) fun r => ?_
    match r with
    | .error e => exact .pure trivial
    | .ok _ => exact .pure trivial

theorem deletes_guarded_act (dropped : List String) :
    Deletes o ((guarded (dropped ≠ []) [act (.reconcileObservability true dropped) oldCR]).implement
        (openObservability files) ()) ↔
      dropped ≠ [] ∧ Deletes o (deleteObservability (files oldCR) oldCR dropped) := by
  unfold guarded
  by_cases hne : dropped = []
  · simp only [hne, ne_eq, not_true_eq_false, decide_false, false_and, iff_false]
    exact CanAsk.not_ret
  · simp only [ne_eq, hne, not_false_eq_true, decide_true, if_true, true_and]
    constructor
    · intro h
      obtain h | ⟨u, ⟨err, _⟩, -, h⟩ := CanAsk.bind_iff.mp h
      · obtain h | ⟨u, err, -, h⟩ := CanAsk.bind_iff.mp h
        · exact h
        · exact (CanAsk.not_ret h).elim
      · cases err <;> exact (CanAsk.not_ret h).elim
    · intro h
      exact CanAsk.bind_iff.mpr (.inl (CanAsk.bind_iff.mpr (.inl h)))

theorem deletes_droppedComponents {comps : List ContainerTemplate} :
    Deletes o ((droppedComponents oldCR newCR comps >>= fun components =>
        guarded (components ≠ []) [act (.reconcileObservability true components) oldCR]).implement
          (openObservability files) ()) ↔
      ∃ dropped, droppedNames? oldCR newCR comps = some dropped ∧ dropped ≠ [] ∧
        Deletes o (deleteObservability (files oldCR) oldCR dropped) := by
  rw [droppedComponents_eq, deletes_deref_implement]
  simp only [deletes_guarded_act]

/-- The removal of replication comes first; it can succeed, and then the components are compared. -/
theorem deletes_cleanupOldModules {oldObs : Module}
    (hold : isModuleEnabled oldCR .observability = some oldObs)
    (hnew : (isModuleEnabled newCR .observability).isSome = true) :
    Deletes o ((cleanupOldModules oldCR newCR).implement (openObservability files) ()) ↔
      ∃ dropped, droppedNames? oldCR newCR oldObs.components = some dropped ∧ dropped ≠ [] ∧
        Deletes o (deleteObservability (files oldCR) oldCR dropped) := by
  have hreplication : Asks PassedOn (fun _ => True) (guarded (replicaEnabled oldCR && !replicaEnabled newCR)
      [act (.replicationManagerController true) oldCR, logError (act .deleteReplicationCrds oldCR)]) :=
    .guarded (List.forall_mem_cons.mpr ⟨.act trivial, List.forall_mem_singleton.mpr (.logError (.act trivial))⟩)
  have hsucceeds : ∃ u, Run ((guarded (replicaEnabled oldCR && !replicaEnabled newCR)
      [act (.replicationManagerController true) oldCR,
        logError (act .deleteReplicationCrds oldCR)]).implement (openObservability files) ()) u (none, ()) := by
    unfold guarded
    split
    · exact ⟨[⟨.api (.action (.replicationManagerController true) oldCR), none⟩,
        ⟨.api (.action .deleteReplicationCrds oldCR), none⟩], .call (.call (.ret _))⟩
    · exact ⟨[], .ret _⟩
  unfold cleanupOldModules
  rw [Prog.implement_bind]
  refine CanAsk.bind_iff.trans ?_
  constructor
  · rintro (hfirst | ⟨u, ⟨err, _⟩, -, hrest⟩)
    · exact (not_deletes_implement hreplication hfirst).elim
    · cases err with
      | some e => exact (CanAsk.not_ret hrest).elim
      | none =>
          rw [hold] at hrest
          dsimp only at hrest
          rw [if_pos hnew] at hrest
          exact deletes_droppedComponents.mp hrest
  · intro h
    obtain ⟨u, hrun⟩ := hsucceeds
    refine .inr ⟨u, _, hrun, ?_⟩
    rw [hold]
    dsimp only
    rw [if_pos hnew]
    exact deletes_droppedComponents.mpr h

/-- The record of the configuration, at the end, deletes nothing. -/
theorem deletes_cleanupObjects (hannotated : goLookup newCR.annotations previouslyApplied ≠ "")
    (hrecorded : rt.jsonUnmarshal (goLookup newCR.annotations previouslyApplied) = .ok oldCR) :
    Deletes o (cleanupObjects files rt newCR) ↔
      Deletes o ((cleanupOldModules oldCR newCR).implement (openObservability files) ()) := by
  unfold cleanupObjects oldStandAloneModuleCleanup
  dsimp only
  rw [if_pos hannotated, hrecorded]
  dsimp only
  rw [Prog.implement_bind]
  refine CanAsk.bind_iff.trans ⟨?_, .inl⟩
  rintro (h | ⟨u, ⟨err, _⟩, -, h⟩)
  · exact h
  · cases err with
    | some e => exact (CanAsk.not_ret h).elim
    | none => exact (not_deletes_implement passedOn_recordApplied h).elim

end Cleanup

/-! ## When the removal is framed -/

section Framed

variable (files : ObsFiles) (oldCR newCR : ContainerStorageModule)

/-- The objects belong to none of the components that stay. -/
def SpareKept (os : List ObjectRef) : Prop :=
  ∀ o ∈ os, ∀ name, ComponentStays oldCR newCR name → o ∉ files.owns name

/-- What is deleted besides the manifests of the dropped components, and what these share with others: the
certificates that are deleted are those of dropped components, and no object is one of a component that
stays. -/
structure Undisturbed (version : String) (obs : Module) (dropped : List String) : Prop where
  manifests : ∀ comp ∈ dropped.takeWhile fun c => (files.deletedFor version c).isSome,
    ∀ os, files.deletedFor version comp = some os → SpareKept files oldCR newCR os
  certificates : (∀ comp ∈ dropped, (files.deletedFor version comp).isSome = true) →
    ∀ name ∈ files.certified obs.components,
      ComponentRemoved oldCR newCR name ∧ SpareKept files oldCR newCR (files.certificatesOf name)

variable {files oldCR newCR} {o : ObjectRef}

theorem mem_objectsOf_of_deletedFor {version comp : String} {os : List ObjectRef}
    (h : files.deletedFor version comp = some os) (ho : o ∈ os) : o ∈ files.objectsOf comp := by
  unfold ObsFiles.deletedFor at h
  unfold ObsFiles.objectsOf
  split at h
  · rwa [h]
  · split at h
    · split at h
      · rwa [h]
      · cases h
        cases ho
    · split at h
      · rw [Option.filter_eq_some_iff] at h
        rwa [h.1]
      · cases h

theorem mem_certified {cs : List ContainerTemplate} {name : String} (h : name ∈ files.certified cs) :
    name ∈ certNames ∧ ∃ os, files.certificates name = .ok os := by
  induction cs with
  | nil => cases h
  | cons c cs ih =>
      rw [ObsFiles.certified] at h
      split at h
      next hname =>
        split at h
        · cases h
        · exact ih h
        · split at h
          next hsome =>
            obtain rfl | h := List.mem_cons.mp h
            · refine ⟨hname, ?_⟩
              cases hcert : files.certificates c.name with
              | error e => simp [hcert, Except.toOption] at hsome
              | ok os => exact ⟨os, rfl⟩
            · exact ih h
          next => cases h
      next => exact ih h

theorem exists_getObservabilityModule {cr : ContainerStorageModule} {m : Module}
    (h : isModuleEnabled cr .observability = some m) : ∃ obs, getObservabilityModule cr = .ok obs := by
  have hmem := List.mem_of_find?_eq_some h
  have hname : m.name = .observability := by
    have hboth := List.find?_some h
    simp only [Bool.and_eq_true, decide_eq_true_eq] at hboth
    exact hboth.1
  cases hfirst : cr.spec.modules.find? (·.name = .observability) with
  | none =>
      have hnone := List.find?_eq_none.mp hfirst m hmem
      simp [hname] at hnone
  | some obs => exact ⟨obs, by rw [getObservabilityModule, hfirst]⟩

end Framed

/-- The removal of components is framed exactly when no component with a certificate is on in the old CR
without being dropped, and the dropped components share no object with one that stays. -/
theorem cleanupFramed_iff {files : ContainerStorageModule → ObsFiles} {rt : Runtime}
    {oldCR newCR : ContainerStorageModule} {oldObs : Module}
    (hannotated : goLookup newCR.annotations previouslyApplied ≠ "")
    (hrecorded : rt.jsonUnmarshal (goLookup newCR.annotations previouslyApplied) = .ok oldCR)
    (hold : isModuleEnabled oldCR .observability = some oldObs)
    (hnew : (isModuleEnabled newCR .observability).isSome = true)
    (hcertificates : (files oldCR).OwnCertificates) :
    CleanupFramed files rt oldCR newCR ↔
      ∀ dropped version obs, droppedNames? oldCR newCR oldObs.components = some dropped → dropped ≠ [] →
        (files oldCR).version = .ok version → getObservabilityModule oldCR = .ok obs →
          Undisturbed (files oldCR) oldCR newCR version obs dropped := by
  have hdeletes (o : ObjectRef) : Deletes o (cleanupObjects files rt newCR) ↔ _ :=
    (deletes_cleanupObjects hannotated hrecorded).trans (deletes_cleanupOldModules hold hnew)
  constructor
  · intro hframed dropped version obs hdropped hne hversion hobs
    have hdeleted {o : ObjectRef} (h : _) : Deletes o (cleanupObjects files rt newCR) :=
      (hdeletes o).mpr ⟨dropped, hdropped, hne, (deletes_deleteObservability hobs hne).mpr ⟨version, hversion, h⟩⟩
    refine ⟨fun comp hcomp os hos o ho => ?_, fun hall name hname => ?_⟩
    · exact (hframed o (hdeleted (.inl ⟨comp, hcomp, os, hos, ho⟩))).2
    · have hspared : ∀ o ∈ (files oldCR).certificatesOf name,
          (∃ name, ComponentRemoved oldCR newCR name ∧ o ∈ (files oldCR).owns name) ∧
            ∀ name, ComponentStays oldCR newCR name → o ∉ (files oldCR).owns name :=
        fun o ho => hframed o (hdeleted (.inr ⟨hall, name, hname, ho⟩))
      refine ⟨?_, fun o ho => (hspared o ho).2⟩
      -- the certificate of the component belongs to no other one
      obtain ⟨hcert, os, hos⟩ := mem_certified hname
      obtain ⟨o, ho, honly⟩ := hcertificates name hcert os hos
      have hmem : o ∈ (files oldCR).certificatesOf name := by
        simpa [ObsFiles.certificatesOf, hcert, hos, Except.toOption] using ho
      obtain ⟨⟨other, hremoved, howns⟩, -⟩ := hspared o hmem
      rwa [honly other howns] at hremoved
  · intro hundisturbed o ho
    obtain ⟨dropped, hdropped, hne, ho⟩ := (hdeletes o).mp ho
    obtain ⟨obs, hobs⟩ := exists_getObservabilityModule hold
    obtain ⟨version, hversion, ho⟩ := (deletes_deleteObservability hobs hne).mp ho
    have hund := hundisturbed dropped version obs hdropped hne hversion hobs
    obtain ⟨comp, hcomp, os, hos, ho⟩ | ⟨hall, name, hname, ho⟩ := ho
    · refine ⟨⟨comp, ?_, ?_⟩, hund.manifests comp hcomp os hos o ho⟩
      · exact removed_of_dropped hdropped comp ((List.takeWhile_sublist _).subset hcomp)
      · exact List.mem_append_left _ (mem_objectsOf_of_deletedFor hos ho)
    · obtain ⟨hremoved, hspared⟩ := hund.certificates hall name hname
      exact ⟨⟨name, hremoved, List.mem_append_right _ ho⟩, hspared o ho⟩

/-! ## Two CRs -/

/-- A PowerFlex CR with the given Observability components. -/
def obsCR (components : List (String × Bool)) : ContainerStorageModule where
  name := "vxflexos"
  namesp := "vxflexos"
  annotations := some fun key => if key = previouslyApplied then some "recorded" else none
  spec :=
    { driver := { csiDriverType := .powerFlex, configVersion := "v2.17.0" }
      modules := [{ name := .observability, enabled := true
                    components := components.map fun c => { name := c.1, enabled := some c.2 } }] }

/-- The operator, with `oldCR` as the recorded configuration. -/
def recordedRuntime (oldCR : ContainerStorageModule) : Runtime :=
  { shippedRuntime with jsonUnmarshal := fun _ => .ok oldCR }

/-- `ComponentNameToSecretPrefix`. -/
def secretPrefix (name : String) : String :=
  if name = otelCollectorName then "otel-collector"
  else if name = topologyName then "karavi-topology"
  else "karavi-metrics-powerstore"

/-- The manifests of v1.15.0, with the self-signed certificates, for the collector and for PowerFlex. -/
def shippedObsFiles : ObsFiles where
  version := .ok "v2.17.0"
  objects name :=
    if name = otelCollectorName then
      .ok [⟨.configMap, ⟨"vxflexos", "otel-collector-config"⟩⟩, ⟨.configMap, ⟨"vxflexos", "nginx-config"⟩⟩,
        ⟨.service, ⟨"vxflexos", "otel-collector"⟩⟩, ⟨.deployment, ⟨"vxflexos", "otel-collector"⟩⟩]
    else if name = "metrics-powerflex" then
      .ok [⟨.serviceAccount, ⟨"vxflexos", "karavi-metrics-powerflex-controller"⟩⟩,
        ⟨.service, ⟨"vxflexos", "karavi-metrics-powerflex"⟩⟩,
        ⟨.configMap, ⟨"vxflexos", "karavi-metrics-powerflex-configmap"⟩⟩,
        ⟨.deployment, ⟨"vxflexos", "karavi-metrics-powerflex"⟩⟩]
    else .ok []
  certificates name :=
    .ok [⟨.issuer, ⟨"vxflexos", "selfsigned-issuer"⟩⟩, ⟨.certificate, ⟨"vxflexos", secretPrefix name⟩⟩]

theorem ownCertificates_shippedObsFiles : shippedObsFiles.OwnCertificates := by
  intro name hname os hos
  cases hos
  refine ⟨⟨.certificate, ⟨"vxflexos", secretPrefix name⟩⟩, by simp, fun other hother => ?_⟩
  obtain hother | hother := List.mem_append.mp hother
  · simp only [ObsFiles.objectsOf, shippedObsFiles] at hother
    split at hother
    · simp [Except.toOption] at hother
    · split at hother <;> simp [Except.toOption] at hother
  · simp only [ObsFiles.certificatesOf] at hother
    split at hother
    next hcert =>
      have hsame : secretPrefix name = secretPrefix other := by
        simpa [shippedObsFiles, Except.toOption] using hother
      have hinj : ∀ a ∈ certNames, ∀ b ∈ certNames, secretPrefix a = secretPrefix b → b = a := by decide
      exact hinj name hname other hcert hsame
    next => cases hother

/-- The collector and the metrics of PowerFlex, each on or off. -/
def collectorAndMetrics (collector metrics : Bool) : ContainerStorageModule :=
  obsCR [("otel-collector", collector), ("metrics-powerflex", metrics)]

theorem eq_of_componentEnabled {collector metrics : Bool} {name : String}
    (h : ComponentEnabled (collectorAndMetrics collector metrics) name) :
    name = "otel-collector" ∧ collector = true ∨ name = "metrics-powerflex" ∧ metrics = true := by
  obtain ⟨m, hm, c, hc, rfl, hon⟩ := h
  cases hm
  obtain rfl | hc := List.mem_cons.mp hc
  · exact .inl ⟨rfl, Option.some.inj hon⟩
  · obtain rfl := List.mem_singleton.mp hc
    exact .inr ⟨rfl, Option.some.inj hon⟩

/-- Turning off the collector leaves the metrics alone. -/
theorem cleanupFramed_collector :
    CleanupFramed (fun _ => shippedObsFiles) (recordedRuntime (collectorAndMetrics true true))
      (collectorAndMetrics true true) (collectorAndMetrics false true) := by
  refine (cleanupFramed_iff (by decide) rfl rfl rfl ownCertificates_shippedObsFiles).mpr ?_
  intro dropped version obs hdropped _ hversion hobs
  obtain rfl : dropped = ["otel-collector"] := Option.some.inj (hdropped.symm.trans (by decide))
  cases hversion
  cases hobs
  have hstays : ∀ name, ComponentStays (collectorAndMetrics true true) (collectorAndMetrics false true) name →
      name = "metrics-powerflex" := by
    rintro name ⟨-, hnew⟩
    obtain ⟨-, hoff⟩ | ⟨rfl, -⟩ := eq_of_componentEnabled hnew
    · cases hoff
    · rfl
  have hdisjoint : ∀ o ∈ shippedObsFiles.owns "otel-collector", o ∉ shippedObsFiles.owns "metrics-powerflex" := by
    decide
  constructor
  · intro comp hcomp os hos o ho name hname
    obtain rfl := List.mem_singleton.mp ((List.takeWhile_sublist _).subset hcomp)
    rw [hstays name hname]
    exact hdisjoint o (List.mem_append_left _ (mem_objectsOf_of_deletedFor hos ho))
  · intro _ name hname
    have hcertified : shippedObsFiles.certified
        [{ name := "otel-collector", enabled := some true }, { name := "metrics-powerflex", enabled := some true }] =
          ["otel-collector"] := by decide
    obtain rfl := List.mem_singleton.mp (hcertified ▸ hname)
    refine ⟨⟨⟨_, rfl, _, List.mem_cons_self, rfl, rfl⟩, fun hnew => ?_⟩, fun o ho name hname => ?_⟩
    · obtain ⟨-, hoff⟩ | ⟨hname, -⟩ := eq_of_componentEnabled hnew
      · cases hoff
      · exact absurd hname (by decide)
    · rw [hstays name hname]
      exact hdisjoint o (List.mem_append_right _ ho)

/-- Turning off the metrics deletes the certificate of the collector, which stays. -/
theorem collectorCertificate_deleted :
    (isModuleEnabled (collectorAndMetrics true true) .observability).isSome = true ∧
      (isModuleEnabled (collectorAndMetrics true false) .observability).isSome = true ∧
      ComponentStays (collectorAndMetrics true true) (collectorAndMetrics true false) "otel-collector" ∧
      Deletes ⟨.certificate, ⟨"vxflexos", "otel-collector"⟩⟩ (cleanupObjects (fun _ => shippedObsFiles)
        (recordedRuntime (collectorAndMetrics true true)) (collectorAndMetrics true false)) ∧
      ¬CleanupFramed (fun _ => shippedObsFiles) (recordedRuntime (collectorAndMetrics true true))
        (collectorAndMetrics true true) (collectorAndMetrics true false) := by
  have hstays : ComponentStays (collectorAndMetrics true true) (collectorAndMetrics true false)
      "otel-collector" :=
    ⟨⟨_, rfl, _, List.mem_cons_self, rfl, rfl⟩, ⟨_, rfl, _, List.mem_cons_self, rfl, rfl⟩⟩
  have hdeletes : Deletes ⟨.certificate, ⟨"vxflexos", "otel-collector"⟩⟩ (cleanupObjects
      (fun _ => shippedObsFiles) (recordedRuntime (collectorAndMetrics true true))
      (collectorAndMetrics true false)) := by
    refine (deletes_cleanupObjects (by decide) rfl).mpr ((deletes_cleanupOldModules rfl rfl).mpr
      ⟨["metrics-powerflex"], by decide, List.cons_ne_nil _ _, ?_⟩)
    exact (deletes_deleteObservability rfl (List.cons_ne_nil _ _)).mpr
      ⟨"v2.17.0", rfl, .inr ⟨by decide, "otel-collector", by decide, by decide⟩⟩
  refine ⟨rfl, rfl, hstays, hdeletes, fun hframed => ?_⟩
  exact (hframed _ hdeletes).2 "otel-collector" hstays (by decide)

end CsmOperator
