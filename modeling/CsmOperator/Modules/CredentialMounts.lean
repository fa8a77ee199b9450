import CsmOperator.Modules.StorageService
import Mathlib.Data.List.Nodup
import Mathlib.Logic.Function.Iterate

/-!
# The credentials that the storage service mounts

Four functions mount credentials into the pod, two of them without a look at what is there. The pod is
described by the list of its credentials: each function appends to this list, and mounting the class of
redis appends only what the list does not have.
-/

namespace CsmOperator

/-! ## What is meant -/

def PodSpec.mounts (spec : PodSpec) : List VolumeMount := spec.containers.flatMap (·.volumeMounts)

/-- The class that redis reads its password from, if any. -/
def StorageInputs.redisClass (inputs : StorageInputs) : List Credential :=
  if inputs.vars.redisSecretProviderClassName ≠ "" ∧ inputs.vars.redisSecretName ≠ "" then
    [.secretProviderClass inputs.vars.redisSecretProviderClassName]
  else []

/-- The Secrets or classes of the storage systems. -/
def StorageInputs.storageCredentials (inputs : StorageInputs) : List Credential :=
  if hasSPC inputs.secretProviderClasses then
    (inputs.secretProviderClasses.map fun classes =>
      classes.vaults.map Credential.secretProviderClass ++
        classes.conjurs.map fun c => Credential.secretProviderClass c.name).getD []
  else inputs.secrets.map Credential.secret

/-- The names of the storage systems' credentials differ, and no Secret has the name of the redis class. -/
structure StorageInputs.Distinct (inputs : StorageInputs) : Prop where
  nodup : (inputs.storageCredentials.map (·.name)).Nodup
  redis : ∀ s, Credential.secret s ∈ inputs.storageCredentials → ∀ r ∈ inputs.redisClass, r.name ≠ s

/-- Volumes and mount paths differ, every mount names a volume, and each of the credentials is mounted
once, at its path, from its own volume. -/
structure PodSpec.Mounts (spec : PodSpec) (requested : List Credential) : Prop where
  volumes : (spec.volumes.map (·.name)).Nodup
  paths : (spec.mounts.map (·.mountPath)).Nodup
  declared : ∀ m ∈ spec.mounts, m.name ∈ spec.volumes.map (·.name)
  once : ∀ cred ∈ requested, spec.mounts.countP (·.mountPath = cred.mountPath) = 1
  fromSource : ∀ cred ∈ requested, ∀ m ∈ spec.mounts, m.mountPath = cred.mountPath →
    ∃ v ∈ spec.volumes, v.name = m.name ∧ v.source = cred.source

/-- Every container mounts the class. -/
def PodSpec.MountedEverywhere (spec : PodSpec) (secretProviderClassName : String) : Prop :=
  ∀ c ∈ spec.containers, (Credential.secretProviderClass secretProviderClassName).mount ∈ c.volumeMounts

/-! ## Names and paths -/

namespace Credential

theorem getElem?_append {a : String} {i : Nat} {c : Char} (h : a.toList[i]? = some c) (b : String) :
    (a ++ b).toList[i]? = some c := by
  obtain ⟨hi, -⟩ := List.getElem?_eq_some_iff.mp h
  rw [String.toList_append, List.getElem?_append_left hi, h]

theorem volumeName_injective : Function.Injective volumeName := by
  -- The two kinds differ in the second letter of the name.
  have hkinds : ∀ s t, "storage-system-secrets-" ++ s ≠ "secrets-store-inline-" ++ t := by
    intro s t h
    have hsecret := getElem?_append (a := "storage-system-secrets-") (i := 1) (c := 't') (by decide) s
    have hclass := getElem?_append (a := "secrets-store-inline-") (i := 1) (c := 'e') (by decide) t
    rw [h, hclass] at hsecret
    cases hsecret
  rintro (s | s) (t | t) h
  · rw [(String.append_right_inj _).mp h]
  · exact absurd h (hkinds s t)
  · exact absurd h.symm (hkinds t s)
  · rw [(String.append_right_inj _).mp h]

theorem mountPath_inj {c d : Credential} : c.mountPath = d.mountPath ↔ c.name = d.name := by
  unfold mountPath
  exact String.append_right_inj _

/-- The scaffold's own volumes have other names. -/
theorem volumeName_not_mem_scaffold (c : Credential) (configSecretName : String) :
    c.volumeName ∉ (createConfigSecretVolumeAndVolumeMnts configSecretName).1.map (·.name) := by
  have hfirst : c.volumeName.toList[0]? = some 's' := by
    cases c with
    | secret s => exact getElem?_append (by decide) s
    | secretProviderClass s => exact getElem?_append (by decide) s
  intro hmem
  simp only [createConfigSecretVolumeAndVolumeMnts, List.map_cons, List.map_nil, List.mem_cons,
    List.not_mem_nil, or_false] at hmem
  obtain h | h := hmem
  · rw [h] at hfirst
    exact absurd hfirst (by decide)
  · rw [h] at hfirst
    exact absurd hfirst (by decide)

/-- And its own mounts other paths. -/
theorem mountPath_not_mem_scaffold (c : Credential) (configSecretName : String) :
    c.mountPath ∉ (createConfigSecretVolumeAndVolumeMnts configSecretName).2.map (·.mountPath) := by
  have hfifth : c.mountPath.toList[5]? = some 'c' := getElem?_append (by decide) c.name
  intro hmem
  simp only [createConfigSecretVolumeAndVolumeMnts, List.map_cons, List.map_nil, List.mem_cons,
    List.not_mem_nil, or_false] at hmem
  obtain h | h := hmem
  · rw [h] at hfifth
    exact absurd hfifth (by decide)
  · rw [h] at hfifth
    exact absurd hfifth (by decide)

theorem volume_mem_iff {c : Credential} {cs : List Credential} :
    c.volumeName ∈ (cs.map (·.volume)).map (·.name) ↔ c ∈ cs := by
  rw [List.map_map]
  exact List.mem_map_of_injective volumeName_injective

end Credential

/-! ## The credentials of a pod -/

/-- The pod is the scaffold with the given credentials mounted. -/
structure PodSpec.Holds (spec : PodSpec) (configSecretName : String) (creds : List Credential) : Prop where
  volumes : spec.volumes =
    (createConfigSecretVolumeAndVolumeMnts configSecretName).1 ++ creds.map (·.volume)
  container : ∃ c, spec.containers = [c] ∧ c.name = storageServiceName ∧
    c.volumeMounts = (createConfigSecretVolumeAndVolumeMnts configSecretName).2 ++ creds.map (·.mount)

namespace PodSpec.Holds

variable {spec : PodSpec} {configSecretName : String} {creds : List Credential}

theorem mounts (h : spec.Holds configSecretName creds) :
    spec.mounts = (createConfigSecretVolumeAndVolumeMnts configSecretName).2 ++ creds.map (·.mount) := by
  obtain ⟨c, hcontainers, -, hmounts⟩ := h.container
  rw [PodSpec.mounts, hcontainers, List.flatMap_singleton, hmounts]

theorem scaffold (namesp image : String) (replicas : Int) :
    (getStorageServiceScaffold namesp image replicas configSecretName).spec.Holds configSecretName [] where
  volumes := rfl
  container := ⟨_, rfl, rfl, rfl⟩

/-- Mounting into the one container, and declaring the volumes. -/
theorem add (h : spec.Holds configSecretName creds) (new : List Credential) {spec' : PodSpec}
    (hvolumes : spec'.volumes = spec.volumes ++ new.map (·.volume))
    (hcontainers : ∀ c, spec.containers = [c] → c.name = storageServiceName →
      spec'.containers = [c.addMounts new]) : spec'.Holds configSecretName (creds ++ new) where
  volumes := by rw [hvolumes, h.volumes, List.append_assoc, List.map_append]
  container := by
    obtain ⟨c, hc, hname, hmounts⟩ := h.container
    refine ⟨c.addMounts new, hcontainers c hc hname, hname, ?_⟩
    rw [PodContainer.addMounts, hmounts, List.append_assoc, List.map_append]

theorem withSecrets (h : spec.Holds configSecretName creds) (secrets : List String) :
    (mountSecretVolumes secrets spec).Holds configSecretName (creds ++ secrets.map .secret) :=
  h.add _ rfl fun c hc hname => by
    rw [mountSecretVolumes, hc]
    exact if_pos hname

theorem withVaults (h : spec.Holds configSecretName creds) (vaults : List String) :
    (configureVaultSecretProvider vaults spec).Holds configSecretName
      (creds ++ vaults.map .secretProviderClass) :=
  h.add _ rfl fun c hc hname => by
    rw [configureVaultSecretProvider, hc, List.map_singleton, if_pos hname]

theorem withConjurs (h : spec.Holds configSecretName creds) (conjurs : List ConjurSecretProviderClass) :
    (configureConjurSecretProvider conjurs spec).Holds configSecretName
      (creds ++ conjurs.map fun c => .secretProviderClass c.name) :=
  h.add _ rfl fun c hc hname => by
    rw [configureConjurSecretProvider, hc]
    exact if_pos hname

/-- Changing the container in other respects. -/
theorem updateContainer {d : PodDeployment} (h : d.spec.Holds configSecretName creds)
    {f : PodContainer → PodContainer} (hname : ∀ c, (f c).name = c.name)
    (hmounts : ∀ c, (f c).volumeMounts = c.volumeMounts) :
    (d.updateContainer f).spec.Holds configSecretName creds where
  volumes := h.volumes
  container := by
    obtain ⟨c, hc, hcname, hcmounts⟩ := h.container
    refine ⟨f c, ?_, (hname c).trans hcname, (hmounts c).trans hcmounts⟩
    rw [PodDeployment.updateContainer, hc]
    exact if_pos hcname

/-- The volume of a credential is declared exactly when it is one of the pod's. -/
theorem mem_names_iff (h : spec.Holds configSecretName creds) (cred : Credential) :
    cred.volumeName ∈ spec.volumes.map (·.name) ↔ cred ∈ creds := by
  rw [h.volumes, List.map_append, List.mem_append, Credential.volume_mem_iff]
  exact or_iff_right (cred.volumeName_not_mem_scaffold configSecretName)

theorem mem_mounts_iff (h : spec.Holds configSecretName creds) (cred : Credential) :
    (∃ m ∈ spec.mounts, m.name = cred.volumeName ∧ m.mountPath = cred.mountPath) ↔ cred ∈ creds := by
  rw [h.mounts]
  constructor
  · rintro ⟨m, hm, hname, hpath⟩
    obtain hm | hm := List.mem_append.mp hm
    · exact absurd (hpath ▸ List.mem_map_of_mem hm) (cred.mountPath_not_mem_scaffold configSecretName)
    · obtain ⟨c, hc, rfl⟩ := List.mem_map.mp hm
      rwa [← Credential.volumeName_injective hname]
  · intro hcred
    exact ⟨cred.mount, List.mem_append_right _ (List.mem_map_of_mem hcred), rfl, rfl⟩

/-- What the function finds, of the volume and of the mount. -/
theorem mountSPCVolume_eq (h : spec.Holds configSecretName creds) (cls : String) :
    mountSPCVolume spec cls =
      if .secretProviderClass cls ∈ creds then spec
      else ⟨spec.containers.map (·.addMounts [.secretProviderClass cls]),
        spec.volumes ++ [(Credential.secretProviderClass cls).volume]⟩ := by
  have hvolume : spec.volumes.any (·.name = (Credential.secretProviderClass cls).volumeName) = true ↔
      .secretProviderClass cls ∈ creds := by
    rw [← h.mem_names_iff]
    simp
  have hmount : (spec.containers.any fun container => container.volumeMounts.any fun m =>
      m.name = (Credential.secretProviderClass cls).volumeName ∧
        m.mountPath = (Credential.secretProviderClass cls).mountPath) = true ↔
      .secretProviderClass cls ∈ creds := by
    rw [← h.mem_mounts_iff, PodSpec.mounts]
    simp only [List.any_eq_true, List.mem_flatMap, decide_eq_true_eq]
    constructor
    · rintro ⟨c, hc, m, hm, hboth⟩
      exact ⟨m, ⟨c, hc, hm⟩, hboth⟩
    · rintro ⟨m, ⟨c, hc, hm⟩, hboth⟩
      exact ⟨c, hc, m, hm, hboth⟩
  unfold mountSPCVolume
  simp only [hvolume, hmount]
  split <;> rfl

theorem withSPCVolume (h : spec.Holds configSecretName creds) (cls : String) :
    (mountSPCVolume spec cls).Holds configSecretName
      (if .secretProviderClass cls ∈ creds then creds else creds ++ [.secretProviderClass cls]) := by
  rw [h.mountSPCVolume_eq]
  split
  next => exact h
  next =>
    refine h.add _ rfl fun c hc _ => ?_
    rw [hc, List.map_singleton]

/-- A pod whose credentials have different names mounts each of them once. -/
theorem mountsOnce (h : spec.Holds configSecretName creds) (hnodup : (creds.map (·.name)).Nodup)
    {requested : List Credential} (hrequested : ∀ r ∈ requested, r ∈ creds) : spec.Mounts requested := by
  have hpaths : (spec.mounts.map (·.mountPath)).Nodup := by
    rw [h.mounts, List.map_append, List.nodup_append']
    refine ⟨by simp [createConfigSecretVolumeAndVolumeMnts], ?_, fun path hpath hmem => ?_⟩
    · have hmap : (creds.map (·.mount)).map (·.mountPath) =
          (creds.map (·.name)).map ("/etc/csm-authorization/" ++ ·) := by
        rw [List.map_map, List.map_map]
        rfl
      rw [hmap]
      exact hnodup.map fun _ _ => (String.append_right_inj _).mp
    · obtain ⟨c, hc, rfl⟩ := List.mem_map.mp (List.map_map ▸ hmem)
      exact c.mountPath_not_mem_scaffold configSecretName hpath
  refine ⟨?_, hpaths, ?_, fun r hr => ?_, fun r hr m hm hpath => ?_⟩
  · rw [h.volumes, List.map_append, List.nodup_append', List.map_map]
    refine ⟨by simp [createConfigSecretVolumeAndVolumeMnts], ?_, fun name hname hmem => ?_⟩
    · exact (List.Nodup.of_map _ hnodup).map Credential.volumeName_injective
    · obtain ⟨c, hc, rfl⟩ := List.mem_map.mp hmem
      exact c.volumeName_not_mem_scaffold configSecretName hname
  · intro m hm
    rw [h.mounts] at hm
    obtain hm | hm := List.mem_append.mp hm
    · rw [h.volumes, List.map_append]
      refine List.mem_append_left _ ?_
      have hscaffold : (createConfigSecretVolumeAndVolumeMnts configSecretName).1.map (·.name) =
          (createConfigSecretVolumeAndVolumeMnts configSecretName).2.map (·.name) := rfl
      rw [hscaffold]
      exact List.mem_map_of_mem hm
    · obtain ⟨c, hc, rfl⟩ := List.mem_map.mp hm
      exact (h.mem_names_iff c).mpr hc
  · have hmem : r.mountPath ∈ spec.mounts.map (·.mountPath) := by
      rw [h.mounts, List.map_append]
      exact List.mem_append_right _ (List.mem_map_of_mem (List.mem_map_of_mem (hrequested r hr)))
    have hcount := List.count_eq_one_of_mem hpaths hmem
    rw [List.count, List.countP_map] at hcount
    exact hcount
  · rw [h.mounts] at hm
    obtain hm | hm := List.mem_append.mp hm
    · exact absurd (hpath ▸ List.mem_map_of_mem hm) (r.mountPath_not_mem_scaffold configSecretName)
    · obtain ⟨c, hc, rfl⟩ := List.mem_map.mp hm
      obtain rfl : c = r := List.inj_on_of_nodup_map hnodup hc (hrequested r hr)
        (Credential.mountPath_inj.mp hpath)
      refine ⟨c.volume, ?_, rfl, rfl⟩
      rw [h.volumes]
      exact List.mem_append_right _ (List.mem_map_of_mem hc)

end PodSpec.Holds

/-! ## The Deployment -/

section Deployment

variable {readDir : String → Except GoError (List DirEntry)} {configDirectory : String}
  {cr : ContainerStorageModule} {matched : VersionSpec} {authModule : Module}
  {removeVault : Option GoError} {vars : AuthVars} {d : PodDeployment}

/-- The credentials of the storage systems, and the class of redis unless it is one of them. -/
def StorageInputs.allCredentials (inputs : StorageInputs) : List Credential :=
  inputs.storageCredentials ++ inputs.redisClass.filter (· ∉ inputs.storageCredentials)

theorem holds_storageCredentials {inputs : StorageInputs} {configSecretName : String}
    (h : d.spec.Holds configSecretName []) :
    (mountStorageCredentials inputs d).spec.Holds configSecretName inputs.storageCredentials := by
  unfold mountStorageCredentials StorageInputs.storageCredentials
  cases inputs.secretProviderClasses with
  | none => exact h.withSecrets inputs.secrets
  | some classes =>
      dsimp only
      split
      next =>
        have hboth := (h.withVaults classes.vaults).withConjurs classes.conjurs
        exact hboth
      next => exact h.withSecrets inputs.secrets

theorem holds_mountCredentials {inputs : StorageInputs} {configSecretName : String}
    (h : d.spec.Holds configSecretName []) :
    (mountCredentials inputs d).spec.Holds configSecretName inputs.allCredentials := by
  have hstorage : (mountStorageCredentials inputs d).spec.Holds configSecretName inputs.storageCredentials :=
    holds_storageCredentials h
  unfold mountCredentials StorageInputs.allCredentials StorageInputs.redisClass
  dsimp only
  split
  next =>
    have hspc := hstorage.withSPCVolume inputs.vars.redisSecretProviderClassName
    rw [List.filter_singleton]
    split at hspc
    next hmem => simpa [hmem] using hspc
    next hmem => simpa [hmem] using hspc
  next => simpa using hstorage

theorem holds_of_build (hversion : minVersionCheck "v2.3.0" authModule.configVersion = (true, none))
    (h : authorizationStorageServiceV2 readDir configDirectory cr matched authModule removeVault vars = .ok d) :
    ∃ inputs, readComponents readDir configDirectory cr matched authModule
        { vars := { vars with configSecretName := defaultConfigSecretName } } authModule.components =
          .ok inputs ∧
      d.spec.Holds inputs.vars.configSecretName inputs.allCredentials := by
  unfold authorizationStorageServiceV2 at h
  rw [hversion] at h
  dsimp only at h
  split at h
  · cases h
  next inputs hinputs =>
    refine ⟨inputs, hinputs, ?_⟩
    split at h
    · cases h
    · rw [if_pos rfl, if_pos rfl] at h
      split at h
      · cases h
      · split at h
        · cases h
        next v2Version _ =>
          cases h
          exact (holds_mountCredentials (PodSpec.Holds.scaffold ..)).updateContainer (fun _ => rfl) fun _ => rfl

theorem StorageInputs.Distinct.nodup_allCredentials {inputs : StorageInputs} (h : inputs.Distinct) :
    (inputs.allCredentials.map (·.name)).Nodup := by
  unfold StorageInputs.allCredentials
  rw [List.map_append, List.nodup_append']
  refine ⟨h.nodup, ?_, fun name hstorage hredis => ?_⟩
  · unfold StorageInputs.redisClass
    split
    next =>
      exact ((List.filter_sublist.map _).nodup (List.nodup_singleton _))
    next => simp
  · obtain ⟨cred, hcred, rfl⟩ := List.mem_map.mp hstorage
    obtain ⟨r, hr, hname⟩ := List.mem_map.mp hredis
    obtain ⟨hr, hnew⟩ := List.mem_filter.mp hr
    cases cred with
    | secret s => exact h.redis s hcred r hr hname
    | secretProviderClass s =>
        -- The class of redis is a class, so it would be this one.
        unfold StorageInputs.redisClass at hr
        split at hr
        next =>
          obtain rfl := List.mem_singleton.mp hr
          have hsame : inputs.vars.redisSecretProviderClassName = s := hname
          rw [hsame] at hnew
          exact absurd hcred (of_decide_eq_true hnew)
        next => cases hr

theorem StorageInputs.mem_allCredentials {inputs : StorageInputs} {cred : Credential}
    (h : cred ∈ inputs.storageCredentials ++ inputs.redisClass) : cred ∈ inputs.allCredentials := by
  by_cases hstorage : cred ∈ inputs.storageCredentials
  · exact List.mem_append_left _ hstorage
  · have hredis := (List.mem_append.mp h).resolve_left hstorage
    exact List.mem_append_right _ (List.mem_filter.mpr ⟨hredis, decide_eq_true hstorage⟩)

/-- A class that every container mounts is found, however often it is mounted again. -/
theorem PodSpec.Holds.iterate_mountSPCVolume {spec : PodSpec} {configSecretName cls : String}
    {creds : List Credential} (h : spec.Holds configSecretName creds) (hmounted : spec.MountedEverywhere cls)
    (n : Nat) : (mountSPCVolume · cls)^[n] spec = spec := by
  refine Function.iterate_fixed ?_ n
  obtain ⟨c, hc, -, -⟩ := h.container
  have hmem : Credential.secretProviderClass cls ∈ creds := by
    refine (h.mem_mounts_iff _).mp ⟨(Credential.secretProviderClass cls).mount, ?_, rfl, rfl⟩
    rw [PodSpec.mounts, List.mem_flatMap]
    have hin : c ∈ spec.containers := by rw [hc]; exact List.mem_singleton.mpr rfl
    exact ⟨c, hin, hmounted c hin⟩
  rw [h.mountSPCVolume_eq, if_pos hmem]

/-- The pod of the storage service mounts every credential once, and mounting a class again that all its
containers have changes nothing. -/
theorem storageService_mounts (hversion : minVersionCheck "v2.3.0" authModule.configVersion = (true, none))
    (hbuild : authorizationStorageServiceV2 readDir configDirectory cr matched authModule removeVault vars =
      .ok d) {inputs : StorageInputs}
    (hinputs : readComponents readDir configDirectory cr matched authModule
      { vars := { vars with configSecretName := defaultConfigSecretName } } authModule.components =
        .ok inputs)
    (hdistinct : inputs.Distinct) :
    d.spec.Mounts (inputs.storageCredentials ++ inputs.redisClass) ∧
      ∀ cls n, d.spec.MountedEverywhere cls → (mountSPCVolume · cls)^[n] d.spec = d.spec := by
  obtain ⟨inputs', hinputs', hholds⟩ := holds_of_build hversion hbuild
  obtain rfl : inputs' = inputs := Except.ok.inj (hinputs'.symm.trans hinputs)
  refine ⟨?_, fun cls n hmounted => hholds.iterate_mountSPCVolume hmounted n⟩
  exact hholds.mountsOnce hdistinct.nodup_allCredentials fun r hr => StorageInputs.mem_allCredentials hr

end Deployment

/-- A server that reads its storage credentials from two classes, one of them also that of redis. -/
def serverModule : Module where
  name := .authorizationServer
  enabled := true
  configVersion := "v2.3.0"
  components :=
    [{ name := "redis", redisSecretProviderClass :=
        [{ secretProviderClassName := "vault-one", redisSecretName := "redis-secret" }] },
      { name := "storage-system-credentials",
        secretProviderClasses := some { vaults := ["vault-one"], conjurs := [{ name := "conjur-one" }] } }]

theorem storageService_mounts_shared :
    ∃ d, authorizationStorageServiceV2 (fun _ => .ok []) "" {} {} serverModule none {} = .ok d ∧
      d.spec.Mounts [.secretProviderClass "vault-one", .secretProviderClass "conjur-one",
        .secretProviderClass "vault-one"] := by
  cases hbuild : authorizationStorageServiceV2 (fun _ => .ok []) "" {} {} serverModule none {} with
  | error e =>
      have hok : (authorizationStorageServiceV2 (fun _ => .ok []) "" {} {} serverModule none {}).isOk = true := by
        decide +kernel
      rw [hbuild] at hok
      cases hok
  | ok d =>
      refine ⟨d, rfl, (storageService_mounts (by decide) hbuild rfl ⟨?_, ?_⟩).1⟩
      · decide
      · intro s hs
        exact absurd hs (by simp [StorageInputs.storageCredentials, hasSPC])

end CsmOperator
