import CsmOperator.Drivers.CommonConfig
import CsmOperator.OperatorUtils.Arguments
import Mathlib.Data.List.Forall2

/-!
# Sidecars of the DaemonSet

The Deployment has what the entries of the CR make of a sidecar. The DaemonSet has the copy, and shows an
image, a pull policy and a replaced argument; an environment that is overridden and an argument that is
added are lost.
-/

namespace CsmOperator

open Go

/-! ## What an entry changes -/

/-- The environment that the entries leave. -/
def envsAfter (entries : List ContainerTemplate) (env : List EnvVarApply) : Option (List EnvVarApply) :=
  entries.foldlM (fun env ctr => replaceAllApplyCustomEnvs env [] ctr.envs) env

/-- Some entry has an argument that takes the place of none there is by then. -/
def appendsArg : List String → List ContainerTemplate → Bool
  | _, [] => false
  | args, ctr :: entries =>
    (replaceArgs args [] ctr.args).2 ≠ [] || appendsArg (replaceAllArgs args ctr.args) entries

/-- The entries of the container override no variable of it and add no argument to it. -/
def LeavesEnvAndArity (sideCars : List ContainerTemplate) (c : ContainerApply) : Prop :=
  envsAfter (sideCars.filter (·.name = c.name)) c.env = some c.env ∧
    appendsArg c.args (sideCars.filter (·.name = c.name)) = false

instance (sideCars : List ContainerTemplate) (c : ContainerApply) :
    Decidable (LeavesEnvAndArity sideCars c) := inferInstanceAs (Decidable (_ ∧ _))

theorem length_replaceAllArgs (args crArgs : List String) :
    (replaceAllArgs args crArgs).length = args.length + (replaceArgs args [] crArgs).2.length := by
  obtain ⟨f, hf⟩ := exists_map_replaceArgs args [] crArgs
  unfold replaceAllArgs
  rw [List.length_append, hf, List.length_map]

section Entries

variable {cr : ContainerStorageModule} {matched : VersionSpec} {c c' : ContainerApply}

theorem applyEntry_env_args {ctr : ContainerTemplate} (h : applyEntry ctr cr matched c = some c') :
    replaceAllApplyCustomEnvs c.env [] ctr.envs = some c'.env ∧
      c'.args = replaceAllArgs c.args ctr.args := by
  unfold applyEntry at h
  obtain ⟨c₁, h₁, h⟩ := Option.bind_eq_some_iff.mp h
  obtain ⟨c₂, h₂, h⟩ := Option.bind_eq_some_iff.mp h
  obtain ⟨env, henv, h⟩ := Option.bind_eq_some_iff.mp h
  cases h
  have hsame : c₂.env = c.env ∧ c₂.args = c.args := by
    rw [applyPullPolicy_eq h₂, applyImage_same h₁]
    exact ⟨rfl, rfl⟩
  rw [← hsame.1, ← hsame.2]
  exact ⟨henv, rfl⟩

/-- What the entries leave of the environment, and whether they add arguments. -/
theorem entries_env_args {entries : List ContainerTemplate}
    (h : entries.foldlM
      (fun c ctr => if c.name = ctr.name then applyEntry ctr cr matched c else some c) c = some c') :
    envsAfter (entries.filter (·.name = c.name)) c.env = some c'.env ∧
      c.args.length ≤ c'.args.length ∧
      (c'.args.length = c.args.length ↔
        appendsArg c.args (entries.filter (·.name = c.name)) = false) := by
  induction entries generalizing c with
  | nil => cases h; exact ⟨rfl, le_rfl, iff_of_true rfl rfl⟩
  | cons ctr entries ih =>
      rw [List.foldlM_cons] at h
      obtain ⟨c₁, h₁, h⟩ := Option.bind_eq_some_iff.mp h
      obtain ⟨henv, hle, hlength⟩ := ih h
      split at h₁
      · next hname =>
          obtain ⟨henv₁, hargs₁⟩ := applyEntry_env_args h₁
          have hname₁ := (applyEntry_frame h₁).1
          have hlen₁ := length_replaceAllArgs c.args ctr.args
          rw [hname₁, hargs₁] at hlength
          rw [hname₁] at henv
          rw [hargs₁, hlen₁] at hle
          rw [List.filter_cons_of_pos (by simpa using hname.symm)]
          refine ⟨?_, by omega, ?_⟩
          · unfold envsAfter
            rw [List.foldlM_cons, henv₁]
            exact henv
          · unfold appendsArg
            rw [Bool.or_eq_false_iff, decide_eq_false_iff_not, not_not, ← hlength, hlen₁,
              ← List.length_eq_zero_iff]
            omega
      · next hname =>
          cases h₁
          rw [List.filter_cons_of_neg (by simpa using Ne.symm hname)]
          exact ⟨henv, hle, hlength⟩

theorem updateContainerApply_leaves_iff {sideCars : List ContainerTemplate}
    (h : updateContainerApply sideCars cr matched c = some c') :
    c'.env = c.env ∧ c'.args.length = c.args.length ↔ LeavesEnvAndArity sideCars c := by
  unfold updateContainerApply at h
  unfold LeavesEnvAndArity
  split at h
  · obtain ⟨henv, -, hlength⟩ := entries_env_args h
    rw [henv, hlength, Option.some.injEq]
  · next hany =>
      have hfilter : sideCars.filter (·.name = c.name) = [] := by
        simpa [List.filter_eq_nil_iff] using hany
      rw [hfilter, applyDefaultImage_same h]
      exact iff_of_true ⟨rfl, rfl⟩ ⟨rfl, rfl⟩

end Entries

/-! ## One container -/

section

variable {cr : ContainerStorageModule} {k8sVersion : K8sImagesConfig}
  {room : ContainerApply → List String} {spare : Nat → List String} {matched : VersionSpec}
  {c d : ContainerApply}

/-- What the entries of the CR make of a container of a template. -/
def overridden (cr : ContainerStorageModule) (k8sVersion : K8sImagesConfig) (matched : VersionSpec)
    (c : ContainerApply) : Option ContainerApply :=
  (replaceAllContainerImageApply k8sVersion c).bind
    (updateSideCarApply cr.spec.driver.sideCars · cr matched)

theorem LeavesEnvAndArity.congr {sideCars : List ContainerTemplate} {c' : ContainerApply}
    (h : c.SameButImage c') : LeavesEnvAndArity sideCars c' ↔ LeavesEnvAndArity sideCars c := by
  rw [h]
  rfl

theorem nodeSideCar_eq_iff (hname : isDriverContainer c.name = false)
    (h : nodeSideCar cr k8sVersion room spare matched c = some d) :
    overridden cr k8sVersion matched c = some d ↔ LeavesEnvAndArity cr.spec.driver.sideCars c := by
  have hvalue := c.value_decoded (room c)
  have hheld := c.held_decoded (room c)
  unfold nodeSideCar at h
  generalize c.decoded (room c) = r at h hvalue hheld
  obtain ⟨m, v⟩ := r
  dsimp only at h hvalue hheld
  subst hvalue
  obtain ⟨m₁, h₁, h⟩ := Option.bind_eq_some_iff.mp h
  rw [if_neg (by simp [hname])] at h
  obtain ⟨⟨m₂, v₂⟩, h₂, h⟩ := Option.bind_eq_some_iff.mp h
  cases h
  obtain ⟨himage, hover₁⟩ := replaceAllContainerImageApplyAt_spec hheld h₁
  obtain ⟨hupdate, hover₂⟩ := updateContainerApplyAt_spec hover₁.held h₂
  have hsame := (replaceAllContainerImageApply_same himage).1
  unfold overridden updateSideCarApply
  rw [himage, Option.bind_some, hupdate, Option.some.injEq, eq_comm, hover₂.value_eq_iff hover₁.held,
    updateContainerApply_leaves_iff hupdate]
  exact LeavesEnvAndArity.congr hsame

/-! ## The loops -/

/-- `GetController` puts into the Deployment what the entries make of the container. -/
theorem controllerContainer_eq {matchedDriverImage : String} (hname : isDriverContainer c.name = false)
    (h : controllerContainer cr k8sVersion matchedDriverImage matched c = some (some d)) :
    overridden cr k8sVersion matched c = some d := by
  unfold controllerContainer controllerDriver at h
  rw [if_neg (by simp [hname]), Option.bind_eq_bind, Option.bind_some] at h
  split at h
  · cases h
  · obtain ⟨c₁, h₁, h⟩ := Option.bind_eq_some_iff.mp h
    rw [if_neg (by simp [(replaceAllContainerImageApply_same h₁).1.name, hname])] at h
    obtain ⟨c₂, h₂, h⟩ := Option.bind_eq_some_iff.mp h
    cases h
    unfold overridden
    rw [h₁, Option.bind_some, h₂]

theorem nodeContainer_isSome {image : Option String} {o : Option ContainerApply}
    (h : nodeContainer cr k8sVersion room spare image matched c = some o) :
    o.isSome = !removeNodeContainer cr.spec.driver.sideCars c.name := by
  unfold nodeContainer at h
  obtain ⟨c₁, h₁, h⟩ := Option.bind_eq_some_iff.mp h
  have hname : c₁.name = c.name := by
    unfold nodeDriver at h₁
    split at h₁
    · exact driverContainer_name cr h₁
    · cases h₁; rfl
  rw [hname] at h
  split_ifs at h with hremove hdriver
  · cases h; simp [hremove]
  · cases h; simp [hremove]
  · obtain ⟨c₂, -, h⟩ := Option.bind_eq_some_iff.mp h
    cases h; simp [hremove]

theorem ne_driver_of_sideCar (hname : isDriverContainer c.name = false) : c.name ≠ "driver" := by
  intro heq
  simp [isDriverContainer, heq] at hname

theorem nodeContainer_sideCar {image : Option String} (hdriver : c.name ≠ "driver")
    (h : nodeContainer cr k8sVersion room spare image matched c = some (some d)) :
    nodeSideCar cr k8sVersion room spare matched c = some d := by
  unfold nodeContainer nodeDriver at h
  simp only [if_neg hdriver, Option.bind_eq_bind, Option.bind_some] at h
  split at h
  · cases h
  · obtain ⟨c₂, h₂, h⟩ := Option.bind_eq_some_iff.mp h
    cases h
    exact h₂

/-- The loop of `GetNode` keeps the containers that are not removed, each treated on its own. -/
theorem nodeContainers_forall₂ {image : Option String} {matched' : VersionSpec}
    {containers ds : List ContainerApply} (hsame : matched.SameButDriver matched')
    (h : nodeContainers cr k8sVersion room spare image matched' containers = some ds) :
    List.Forall₂ (fun c d => ∃ matched'', matched.SameButDriver matched'' ∧
        nodeContainer cr k8sVersion room spare image matched'' c = some (some d))
      (containers.filter fun c => !removeNodeContainer cr.spec.driver.sideCars c.name) ds := by
  induction containers generalizing matched' ds with
  | nil => cases h; exact .nil
  | cons c containers ih =>
      unfold nodeContainers at h
      obtain ⟨o, ho, h⟩ := Option.bind_eq_some_iff.mp h
      obtain ⟨newcontainers, hnew, h⟩ := Option.bind_eq_some_iff.mp h
      cases h
      have hmatched : matched.SameButDriver (recordNodeDriver image matched' c) := hsame.recordNode _ _
      have hkept := nodeContainer_isSome ho
      cases o with
      | none =>
          rw [List.filter_cons_of_neg (by simpa using hkept)]
          exact ih hmatched hnew
      | some d =>
          rw [List.filter_cons_of_pos (by simpa using hkept.symm)]
          exact .cons ⟨_, hmatched, ho⟩ (ih hmatched hnew)

end

/-! ## Parity -/

/-- Where the elements of two lists are related, what holds of the pairs may depend on the first ones. -/
theorem forall₂_iff_forall {α β : Type} {R P : α → β → Prop} {Q : α → Prop} {xs : List α} {ys : List β}
    (hR : List.Forall₂ R xs ys) (hiff : ∀ x y, R x y → (P x y ↔ Q x)) :
    List.Forall₂ P xs ys ↔ ∀ x ∈ xs, Q x := by
  induction hR with
  | nil => simp
  | cons hxy _ ih => rw [List.forall₂_cons, List.forall_mem_cons, ih, hiff _ _ hxy]

section

variable (cr : ContainerStorageModule) (k8sVersion : K8sImagesConfig) (matched : VersionSpec)

/-- The containers of the template that `GetNode` keeps. -/
def keptByNode (template : List ContainerApply) : List ContainerApply :=
  template.filter fun c => !removeNodeContainer cr.spec.driver.sideCars c.name

/-- The container of the template is a sidecar that the CR has an entry for. -/
def HasEntry (c : ContainerApply) : Prop :=
  ∃ ctr ∈ cr.spec.driver.sideCars, ctr.name = c.name ∧ isDriverContainer c.name = false

/-- The DaemonSet has every sidecar with an entry as the entries make it. -/
def SideCarParity (template daemonSet : List ContainerApply) : Prop :=
  List.Forall₂ (fun c d => HasEntry cr c → overridden cr k8sVersion matched c = some d)
    (keptByNode cr template) daemonSet

variable {cr k8sVersion matched}

/-- The DaemonSet has its sidecars as the entries make them if and only if no entry for one of them
overrides a variable or adds an argument. -/
theorem sideCarParity_iff {room : ContainerApply → List String} {spare : Nat → List String}
    {template daemonSet : List ContainerApply}
    (h : getNodeContainers cr k8sVersion room spare matched template = some daemonSet) :
    SideCarParity cr k8sVersion matched template daemonSet ↔
      ∀ c ∈ keptByNode cr template, HasEntry cr c → LeavesEnvAndArity cr.spec.driver.sideCars c := by
  refine forall₂_iff_forall (nodeContainers_forall₂ (.refl matched) h) ?_
  rintro c d ⟨matched', hsame, hd⟩
  refine forall_congr' fun ⟨_, _, _, hname⟩ => ?_
  rw [← nodeSideCar_eq_iff hname (nodeContainer_sideCar (ne_driver_of_sideCar hname) hd)]
  -- what has been recorded for the driver does not matter here
  unfold overridden updateSideCarApply
  cases himage : replaceAllContainerImageApply k8sVersion c with
  | none => rfl
  | some c₁ =>
      have hname₁ : isDriverContainer c₁.name = false := by
        rwa [(replaceAllContainerImageApply_same himage).1.name]
      rw [Option.bind_some, Option.bind_some, updateContainerApply_congr hsame hname₁]

end

/-! ### An argument that is added -/

def registrar : ContainerApply where
  name := "registrar"
  image := some "registry.k8s.io/sig-storage/csi-node-driver-registrar:v2.15.0"
  args := ["--v=5", "--csi-address=$(ADDRESS)"]
  env := [{ name := "ADDRESS", value := some "/csi/csi.sock" }]

def k8sRegistrar : K8sImagesConfig where
  registrar := "registry.k8s.io/sig-storage/csi-node-driver-registrar:v2.15.0"

/-- A CR with one entry for the registrar. -/
def withRegistrarArgs (args : List String) : ContainerStorageModule :=
  { spec := { driver := { sideCars := [{ name := "registrar", args }] } } }

theorem sideCarParity_verbosity :
    SideCarParity (withRegistrarArgs ["--v=9"]) k8sRegistrar {} [registrar]
      [{ registrar with args := ["--v=9", "--csi-address=$(ADDRESS)"] }] := by
  have h : getNodeContainers (withRegistrarArgs ["--v=9"]) k8sRegistrar (fun _ => []) (fun _ => []) {}
      [registrar] = some [{ registrar with args := ["--v=9", "--csi-address=$(ADDRESS)"] }] := by
    decide +kernel
  have hleaves : ∀ c ∈ keptByNode (withRegistrarArgs ["--v=9"]) [registrar],
      LeavesEnvAndArity (withRegistrarArgs ["--v=9"]).spec.driver.sideCars c := by decide +kernel
  exact (sideCarParity_iff h).mpr fun c hc _ => hleaves c hc

/-- A timeout for the registrar does not get into the DaemonSet. -/
theorem registrarTimeout_lost :
    getNodeContainers (withRegistrarArgs ["--timeout=30s"]) k8sRegistrar (fun _ => []) (fun _ => []) {}
        [registrar] = some [registrar] ∧
      ¬ SideCarParity (withRegistrarArgs ["--timeout=30s"]) k8sRegistrar {} [registrar] [registrar] := by
  refine ⟨by decide +kernel, fun h => ?_⟩
  have hkept : keptByNode (withRegistrarArgs ["--timeout=30s"]) [registrar] = [registrar] := by
    decide +kernel
  have hentry : HasEntry (withRegistrarArgs ["--timeout=30s"]) registrar :=
    ⟨_, List.mem_singleton_self _, rfl, rfl⟩
  unfold SideCarParity at h
  rw [hkept, List.forall₂_cons] at h
  exact absurd (h.1 hentry) (by decide +kernel)

end CsmOperator
