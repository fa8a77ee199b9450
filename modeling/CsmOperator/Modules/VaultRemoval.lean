import CsmOperator.Modules.StorageService

/-!
# Upgrading the storage service: `removeVaultFromStorageService` of `pkg/modules/authorization.go`

A storage service from before v2.3.0 reads its credentials from Vault. When it is upgraded, the arguments,
mounts and volumes that belong to Vault are taken out of the live Deployment. Each is recognised by its
text: an argument by its beginning, the path of a mount and the name of a volume by what they contain.
-/

namespace CsmOperator

open Go

/-! ## The live Deployment -/

/-- A volume: the field `Projected` of its source, and the other fields. -/
structure LiveVolume (Source : Type) where
  name : String
  projected : Option Source := none
  source : Option Source := none
  deriving DecidableEq

/-- A Deployment as the API server has it; `rest` is what nothing here looks at. -/
structure LiveDeployment (Source Rest : Type) where
  containers : List PodContainer
  initContainers : List PodContainer := []
  volumes : List (LiveVolume Source)
  rest : Rest
  deriving DecidableEq

variable {Source Rest : Type}

def PodContainer.withoutVault (c : PodContainer) : PodContainer :=
  { c with
    args := c.args.filter fun arg => !hasPrefix arg "--vault="
    volumeMounts := c.volumeMounts.filter fun m => !contains m.mountPath "/etc/vault/" }

/-- The source keeps all its fields but `Projected`. -/
def LiveVolume.clearProjected (v : LiveVolume Source) : LiveVolume Source := { v with projected := none }

def LiveDeployment.withoutVault (d : LiveDeployment Source Rest) : LiveDeployment Source Rest :=
  { d with
    containers := d.containers.map fun c => if c.name = storageServiceName then c.withoutVault else c
    volumes := (d.volumes.filter fun v => !contains v.name "vault-client-certificate-").map
      (·.clearProjected) }

/-- `removeVaultFromStorageService`: what it writes, if anything. The live Deployment, the error of deleting
the certificates and that of the update are answers of the API server. -/
def removeVaultFromStorageService (live : Except GoError (LiveDeployment Source Rest))
    (deleted : Option GoError) (update : LiveDeployment Source Rest → Option GoError) :
    Option (LiveDeployment Source Rest) × Option GoError :=
  match live with
  | .error _ => (none, none)
  | .ok currentDeployment =>
    match deleted with
    | some e => (none, some (errorf ("deleting vault certificates: " ++ e.text)))
    | none =>
      (some currentDeployment.withoutVault, (update currentDeployment.withoutVault).map fun e =>
        errorf ("updating storage service deployment for upgrading: " ++ e.text))

/-! ## What is to go -/

/-- The argument is for the flag `--vault`. -/
def isVaultArg (arg : String) : Bool := arg = "--vault" || hasPrefix arg "--vault="

def isVaultMount (m : VolumeMount) : Bool := hasPrefix m.mountPath "/etc/vault/"

/-- A volume for the certificate that a client of Vault has. -/
def isVaultVolume (name : String) : Bool := hasPrefix name "vault-client-certificate-"

def PodContainer.cleared (c : PodContainer) : PodContainer :=
  { c with
    args := c.args.filter (!isVaultArg ·)
    volumeMounts := c.volumeMounts.filter (!isVaultMount ·) }

/-- The Deployment without anything of Vault, and otherwise as it is. -/
def LiveDeployment.cleared (d : LiveDeployment Source Rest) : LiveDeployment Source Rest :=
  { d with
    containers := d.containers.map (·.cleared)
    initContainers := d.initContainers.map (·.cleared)
    volumes := d.volumes.filter (!isVaultVolume ·.name) }

def LiveDeployment.allContainers (d : LiveDeployment Source Rest) : List PodContainer :=
  d.containers ++ d.initContainers

/-- Every mount names a volume of the pod. -/
def LiveDeployment.MountsDeclared (d : LiveDeployment Source Rest) : Prop :=
  ∀ c ∈ d.allContainers, ∀ m ∈ c.volumeMounts, ∃ v ∈ d.volumes, v.name = m.name

/-- The container has nothing of Vault. -/
def PodContainer.FreeOfVault (c : PodContainer) : Prop :=
  (∀ arg ∈ c.args, isVaultArg arg = false) ∧ ∀ m ∈ c.volumeMounts, isVaultMount m = false

/-- The texts of the container that the code goes by mean what they look like: `--vault` has its value in
the same argument, and a path with `/etc/vault/` in it begins with that. -/
def PodContainer.PlainTexts (c : PodContainer) : Prop :=
  "--vault" ∉ c.args ∧
    ∀ m ∈ c.volumeMounts, contains m.mountPath "/etc/vault/" = true → isVaultMount m = true

instance (d : LiveDeployment Source Rest) : Decidable d.MountsDeclared :=
  inferInstanceAs (Decidable (∀ c ∈ d.allContainers, ∀ m ∈ c.volumeMounts, ∃ v ∈ d.volumes, v.name = m.name))

instance (c : PodContainer) : Decidable c.FreeOfVault := inferInstanceAs (Decidable (_ ∧ _))

instance (c : PodContainer) : Decidable c.PlainTexts := inferInstanceAs (Decidable (_ ∧ _))

/-- The Deployments that are upgraded well: only the storage service has something of Vault, its texts and
the names of the volumes are plain, no other volume is a projected one, and the volumes of Vault are mounted
under `/etc/vault/` only. -/
structure LiveDeployment.Plain (d : LiveDeployment Source Rest) : Prop where
  storageService : ∀ c ∈ d.containers, c.name = storageServiceName → c.PlainTexts
  others : ∀ c ∈ d.containers, c.name ≠ storageServiceName → c.FreeOfVault
  initContainers : ∀ c ∈ d.initContainers, c.FreeOfVault
  volumes : ∀ v ∈ d.volumes, contains v.name "vault-client-certificate-" = true → isVaultVolume v.name = true
  projected : ∀ v ∈ d.volumes, isVaultVolume v.name = false → v.projected = none
  mounts : ∀ c ∈ d.allContainers, ∀ m ∈ c.volumeMounts, isVaultVolume m.name = true → isVaultMount m = true

/-! ## What the code takes out -/

theorem filter_eq_filter_iff {α : Type} {p q : α → Bool} {xs : List α} :
    xs.filter p = xs.filter q ↔ ∀ x ∈ xs, p x = q x := by
  refine ⟨fun h x hx => ?_, List.filter_congr⟩
  have hmem : x ∈ xs.filter p ↔ x ∈ xs.filter q := by rw [h]
  rw [List.mem_filter, List.mem_filter, and_iff_right hx, and_iff_right hx] at hmem
  exact Bool.eq_iff_iff.mpr hmem

theorem contains_of_hasPrefix {s t : String} (h : hasPrefix s t = true) : contains s t = true :=
  contains_iff.mpr (List.isPrefixOf_iff_prefix.mp h).isInfix

/-- A test for what a text contains agrees with one for its beginning unless it goes further. -/
theorem not_contains_eq_iff {s t : String} :
    ((!contains s t) = !hasPrefix s t) ↔ (contains s t = true → hasPrefix s t = true) := by
  have hcontains := @contains_of_hasPrefix s t
  revert hcontains
  cases contains s t <;> cases hasPrefix s t <;> simp

theorem not_hasPrefix_eq_iff {arg : String} :
    ((!hasPrefix arg "--vault=") = !isVaultArg arg) ↔ arg ≠ "--vault" := by
  have hbare : hasPrefix "--vault" "--vault=" = false := by decide
  unfold isVaultArg
  by_cases h : arg = "--vault"
  · subst h
    simp [hbare]
  · simp [h]

namespace PodContainer

variable {c : PodContainer}

theorem withoutVault_eq_cleared_iff : c.withoutVault = c.cleared ↔ c.PlainTexts := by
  unfold PodContainer.withoutVault PodContainer.cleared PlainTexts
  simp only [PodContainer.mk.injEq, true_and, filter_eq_filter_iff]
  refine and_congr ?_ (forall₂_congr fun m _ => not_contains_eq_iff)
  constructor
  · intro h hmem
    exact not_hasPrefix_eq_iff.mp (h _ hmem) rfl
  · rintro h arg harg
    apply not_hasPrefix_eq_iff.mpr
    rintro rfl
    exact h harg

theorem eq_cleared_iff : c = c.cleared ↔ c.FreeOfVault := by
  obtain ⟨name, image, args, env, ports, mounts⟩ := c
  simp [PodContainer.cleared, FreeOfVault, eq_comm (a := args), eq_comm (a := mounts), List.filter_eq_self]

end PodContainer

/-- The volumes are those that are to stay if the names are plain and nothing is cleared from them. -/
theorem volumes_eq_iff {vs : List (LiveVolume Source)} :
    ((vs.filter fun v => !contains v.name "vault-client-certificate-").map (·.clearProjected)) =
        vs.filter (!isVaultVolume ·.name) ↔
      (∀ v ∈ vs, contains v.name "vault-client-certificate-" = true → isVaultVolume v.name = true) ∧
        ∀ v ∈ vs, isVaultVolume v.name = false → v.projected = none := by
  have hclear : ∀ v : LiveVolume Source, v.clearProjected = v ↔ v.projected = none := by
    rintro ⟨name, projected, source⟩
    simp [LiveVolume.clearProjected, eq_comm]
  constructor
  · intro h
    -- the names alone say which volumes stay
    have hnames : (vs.map LiveVolume.name).filter (!contains · "vault-client-certificate-") =
        (vs.map LiveVolume.name).filter (!isVaultVolume ·) := by
      have hmap := congrArg (List.map LiveVolume.name) h
      rw [List.map_map] at hmap
      rw [List.filter_map, List.filter_map]
      exact hmap
    have hplain : ∀ v ∈ vs, (!contains v.name "vault-client-certificate-") = !isVaultVolume v.name :=
      fun v hv => filter_eq_filter_iff.mp hnames v.name (List.mem_map_of_mem hv)
    refine ⟨fun v hv => not_contains_eq_iff.mp (hplain v hv), ?_⟩
    rw [filter_eq_filter_iff.mpr hplain] at h
    intro v hv hstays
    have hv' : v ∈ vs.filter (!isVaultVolume ·.name) := List.mem_filter.mpr ⟨hv, by simp [hstays]⟩
    exact (hclear v).mp (List.map_inj_left.mp (h.trans (List.map_id _).symm) v hv')
  · rintro ⟨hplain, hprojected⟩
    rw [filter_eq_filter_iff.mpr fun v hv => not_contains_eq_iff.mpr (hplain v hv)]
    refine (List.map_congr_left fun v hv => (hclear v).mpr ?_).trans (List.map_id' _)
    obtain ⟨hv, hstays⟩ := List.mem_filter.mp hv
    exact hprojected v hv (by simpa [isVaultVolume] using hstays)

namespace LiveDeployment

variable {d : LiveDeployment Source Rest}

/-- The code takes out what is to go, and nothing else. -/
theorem withoutVault_eq_cleared_iff :
    d.withoutVault = d.cleared ↔
      (∀ c ∈ d.containers, c.name = storageServiceName → c.PlainTexts) ∧
      (∀ c ∈ d.containers, c.name ≠ storageServiceName → c.FreeOfVault) ∧
      (∀ c ∈ d.initContainers, c.FreeOfVault) ∧
      (∀ v ∈ d.volumes,
        contains v.name "vault-client-certificate-" = true → isVaultVolume v.name = true) ∧
      ∀ v ∈ d.volumes, isVaultVolume v.name = false → v.projected = none := by
  have hcontainers : (d.containers.map fun c =>
        if c.name = storageServiceName then c.withoutVault else c) = d.containers.map (·.cleared) ↔
      (∀ c ∈ d.containers, c.name = storageServiceName → c.PlainTexts) ∧
        ∀ c ∈ d.containers, c.name ≠ storageServiceName → c.FreeOfVault := by
    rw [List.map_inj_left, ← forall₂_and]
    refine forall₂_congr fun c _ => ?_
    by_cases hname : c.name = storageServiceName
    · simp [hname, PodContainer.withoutVault_eq_cleared_iff]
    · simp [hname, PodContainer.eq_cleared_iff]
  have hinits : d.initContainers = d.initContainers.map (·.cleared) ↔
      ∀ c ∈ d.initContainers, c.FreeOfVault := by
    rw [← forall₂_congr fun c _ => PodContainer.eq_cleared_iff (c := c), eq_comm]
    conv_lhs => rhs; rw [← List.map_id d.initContainers]
    rw [List.map_inj_left]
    exact forall₂_congr fun c _ => eq_comm
  unfold withoutVault cleared
  rw [LiveDeployment.mk.injEq, hcontainers, hinits, volumes_eq_iff]
  tauto

/-- In what is left, a mount that stays names a volume that stays. -/
theorem mountsDeclared_cleared_iff (hdeclared : d.MountsDeclared) :
    d.cleared.MountsDeclared ↔
      ∀ c ∈ d.allContainers, ∀ m ∈ c.volumeMounts, isVaultVolume m.name = true → isVaultMount m = true := by
  have hall : d.cleared.allContainers = d.allContainers.map (·.cleared) := by
    simp [allContainers, cleared]
  unfold MountsDeclared
  rw [hall]
  constructor
  · intro h c hc m hm hvolume
    by_contra hmount
    obtain ⟨v, hv, hname⟩ := h _ (List.mem_map_of_mem hc) m
      (List.mem_filter.mpr ⟨hm, by simpa using hmount⟩)
    have hstays : isVaultVolume v.name = false := by simpa using (List.mem_filter.mp hv).2
    rw [hname, hvolume] at hstays
    cases hstays
  · intro h c' hc' m hm
    obtain ⟨c, hc, rfl⟩ := List.mem_map.mp hc'
    obtain ⟨hm, hmount⟩ := List.mem_filter.mp hm
    obtain ⟨v, hv, hname⟩ := hdeclared c hc m hm
    refine ⟨v, List.mem_filter.mpr ⟨hv, ?_⟩, hname⟩
    rw [hname]
    by_contra hvolume
    have := h c hc m hm (by simpa using hvolume)
    simp [this] at hmount

end LiveDeployment

/-- What is written is the live Deployment without anything of Vault, and its mounts still name volumes of
it, if and only if the live Deployment is plain. -/
theorem removeVault_correct_iff {d written : LiveDeployment Source Rest} {deleted : Option GoError}
    {update : LiveDeployment Source Rest → Option GoError} (hdeclared : d.MountsDeclared)
    (h : (removeVaultFromStorageService (.ok d) deleted update).1 = some written) :
    written = d.cleared ∧ written.MountsDeclared ↔ d.Plain := by
  have hwritten : written = d.withoutVault := by
    unfold removeVaultFromStorageService at h
    cases deleted with
    | some e => cases h
    | none => cases h; rfl
  subst hwritten
  constructor
  · rintro ⟨heq, hmounts⟩
    rw [heq, LiveDeployment.mountsDeclared_cleared_iff hdeclared] at hmounts
    obtain ⟨hservice, hothers, hinits, hvolumes, hprojected⟩ :=
      LiveDeployment.withoutVault_eq_cleared_iff.mp heq
    exact ⟨hservice, hothers, hinits, hvolumes, hprojected, hmounts⟩
  · intro hplain
    have heq : d.withoutVault = d.cleared := LiveDeployment.withoutVault_eq_cleared_iff.mpr
      ⟨hplain.storageService, hplain.others, hplain.initContainers, hplain.volumes, hplain.projected⟩
    rw [heq, LiveDeployment.mountsDeclared_cleared_iff hdeclared]
    exact ⟨rfl, hplain.mounts⟩

/-! ### A Secret that is named like a certificate -/

/-- A storage service from before v2.3.0. -/
def vaultService : LiveDeployment VolumeSource Unit where
  containers :=
    [{ name := storageServiceName, args := ["--vault=vault0,https://10.0.0.1:8400,csm", "--leader-election=true"]
       volumeMounts := [{ name := "config-volume", mountPath := "/etc/karavi-authorization/config" },
         { name := "vault-client-certificate-vault0", mountPath := "/etc/vault/vault0" }] }]
  volumes := [{ name := "config-volume", source := some (.secret "karavi-config-secret") },
    { name := "vault-client-certificate-vault0", projected := some (.secret "storage-service-vault0-tls") }]
  rest := ()

theorem removeVault_correct_vaultService :
    (removeVaultFromStorageService (.ok vaultService) none fun _ => none).1 = some vaultService.cleared ∧
      vaultService.cleared.MountsDeclared := by
  have hdeclared : vaultService.MountsDeclared := by decide +kernel
  have hplain : vaultService.Plain := by
    constructor <;> decide +kernel
  have hwritten : (removeVaultFromStorageService (.ok vaultService) none fun _ => none).1 =
      some vaultService.withoutVault := rfl
  obtain ⟨heq, hmounts⟩ := (removeVault_correct_iff hdeclared hwritten).mpr hplain
  rw [← heq]
  exact ⟨hwritten, hmounts⟩

/-- A storage service that a Secret of the name is mounted into. -/
def secretService (secret : String) : LiveDeployment VolumeSource Unit where
  containers :=
    [{ name := storageServiceName, volumeMounts := [(Credential.secret secret).mount] }]
  volumes :=
    [{ name := (Credential.secret secret).volumeName, source := some (Credential.secret secret).source }]
  rest := ()

/-- The volume of the Secret is taken out, and its mount stays. -/
theorem secretVolume_lost :
    (secretService "vault-client-certificate-array1").MountsDeclared ∧
      (removeVaultFromStorageService (.ok (secretService "vault-client-certificate-array1")) none
          fun _ => none).1 =
        some { secretService "vault-client-certificate-array1" with volumes := [] } ∧
      ¬ ({ secretService "vault-client-certificate-array1" with volumes := [] } :
          LiveDeployment VolumeSource Unit).MountsDeclared := by
  refine ⟨?_, ?_, ?_⟩ <;> decide +kernel

end CsmOperator
