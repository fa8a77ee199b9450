import CsmOperator.Api.Lookups
import CsmOperator.Go.Number
import CsmOperator.World.Cluster

/-!
# The certificates of a driver

PowerScale, PowerStore and Unity verify the certificates of their arrays with Secrets called
`<name>-certs-0`, `<name>-certs-1` and so on. How many there are, and whether certificates are verified
at all, is said in the common environment of the CR. Two functions of each driver read it: the precheck,
which looks the Secrets up, and the renderer of the volume into which they are projected.

The two read the environment with the same loop, and with different values to start from. The precheck
expects one Secret unless told otherwise. The renderers of PowerScale and PowerStore expect none when
there is no environment, or only one entry and that not the count; then the Secret that was looked up is
not projected.
-/

namespace CsmOperator

open Go Interaction

/-! ## The environment -/

def certSecretCount : String := "CERT_SECRET_COUNT"

/-- What the environment says about certificates. -/
structure CertConfig where
  skipCertValid : Bool
  certCount : Int
  deriving DecidableEq, Repr

/-- The error for a value that does not parse: the name of the entry, its value and the parser's text. -/
abbrev InvalidValue := String → String → String → GoError

/-- `fmt.Errorf("%s is an invalid value for NAME: %v", value, err)` -/
def isInvalidValue : InvalidValue :=
  fun name value err => errorf (value ++ " is an invalid value for " ++ name ++ ": " ++ err)

/-- `fmt.Errorf("invalid value for NAME: %s (%v)", value, err)` -/
def invalidValue : InvalidValue :=
  fun name value err => errorf ("invalid value for " ++ name ++ ": " ++ value ++ " (" ++ err ++ ")")

/-- The loop over the environment; `skipEnv` is the entry that turns the verification off. Later entries
win. -/
def scanCertEnvs (skipEnv : String) (invalid : InvalidValue) :
    CertConfig → List EnvVar → Except GoError CertConfig
  | cfg, [] => .ok cfg
  | cfg, env :: envs =>
    if env.name = skipEnv then
      match parseBool env.value with
      | none => .error (invalid skipEnv env.value (numError "ParseBool" env.value .invalidSyntax))
      | some b => scanCertEnvs skipEnv invalid { cfg with skipCertValid := b } envs
    else if env.name = certSecretCount then
      match parseInt 8 env.value with
      | .error e => .error (invalid certSecretCount env.value (numError "ParseInt" env.value e))
      | .ok d => scanCertEnvs skipEnv invalid { cfg with certCount := d } envs
    else scanCertEnvs skipEnv invalid cfg envs

/-- The names of the certificate Secrets. -/
def certSecrets (name : String) (cfg : CertConfig) : List String :=
  if cfg.skipCertValid then []
  else (List.range cfg.certCount.toNat).map fun i : Nat => name ++ "-certs-" ++ itoa i

/-! ## Prechecks -/

/-- What the prechecks of the drivers differ in. -/
structure CertPrecheck where
  skipEnv : String
  skipCertValid : Bool
  invalid : InvalidValue
  /-- the driver's folder in the configuration directory -/
  folder : String
  /-- the Secret with the credentials -/
  config : ContainerStorageModule → String

/-- Every Secret is read; only one that is not there is an error. -/
def lookUpSecrets (namesp : String) : List String → LookupOp (Option GoError)
  | [] => pure none
  | name :: names => do
    match ← getSecret ⟨namesp, name⟩ with
    | some e =>
      if e.kind = .notFound then pure (some (errorf ("failed to find secret " ++ name)))
      else lookUpSecrets namesp names
    | none => lookUpSecrets namesp names

def precheckCerts (d : CertPrecheck) (op : OperatorConfig) (cr : ContainerStorageModule) :
    LookupOp (Option GoError) := do
  match getVersion op cr with
  | .error e => pure (some e)
  | .ok version =>
    if ← isNotExist (op.configDirectory ++ "/driverconfig/" ++ d.folder ++ "/" ++ version ++
        "/upgrade-path.yaml") then
      pure (some (errorf (d.folder ++ " " ++ version ++ " not supported")))
    else
      let start : CertConfig := { skipCertValid := d.skipCertValid, certCount := 1 }
      match scanCertEnvs d.skipEnv d.invalid start cr.spec.driver.commonEnvs with
      | .error e => pure (some e)
      | .ok cfg => lookUpSecrets cr.namesp (d.config cr :: certSecrets cr.name cfg)

/-- The credentials of the driver, by default called after the CR. -/
def authSecretOr (suffix : String) (cr : ContainerStorageModule) : String :=
  if cr.spec.driver.authSecret ≠ "" then cr.spec.driver.authSecret else cr.name ++ suffix

def isilonSkip : String := "X_CSI_ISI_SKIP_CERTIFICATE_VALIDATION"

def powerstoreSkip : String := "X_CSI_POWERSTORE_SKIP_CERTIFICATE_VALIDATION"

def unitySkip : String := "X_CSI_UNITY_SKIP_CERTIFICATE_VALIDATION"

def precheckPowerScale : OperatorConfig → ContainerStorageModule → LookupOp (Option GoError) :=
  precheckCerts
    { skipEnv := isilonSkip, skipCertValid := false, invalid := isInvalidValue
      folder := "powerscale", config := authSecretOr "-creds" }

def precheckPowerStore : OperatorConfig → ContainerStorageModule → LookupOp (Option GoError) :=
  precheckCerts
    { skipEnv := powerstoreSkip, skipCertValid := true, invalid := invalidValue
      folder := "powerstore", config := authSecretOr "-config" }

def precheckUnity : OperatorConfig → ContainerStorageModule → LookupOp (Option GoError) :=
  precheckCerts
    { skipEnv := unitySkip, skipCertValid := true, invalid := isInvalidValue
      folder := "unity", config := fun cr => cr.name ++ "-creds" }

/-! ## Volumes -/

/-- A Secret projected into a volume, with one item. -/
structure SecretProjection where
  name : String
  key : String
  path : String
  deriving DecidableEq, Repr

/-- A volume with projected Secrets. -/
structure ProjectedVolume where
  name : String
  sources : List SecretProjection
  deriving DecidableEq, Repr

/-- The volume `certs`; `certCount` is the number of Secrets for an environment that does not say. -/
def certVolume (skipEnv : String) (skipCertValid : Bool) (certCount : List EnvVar → Int)
    (cr : ContainerStorageModule) : Except GoError ProjectedVolume :=
  let cfg : Except GoError CertConfig := match cr.spec.driver.common with
    | none => .ok { skipCertValid := true, certCount := 0 }
    | some common =>
      scanCertEnvs skipEnv isInvalidValue { skipCertValid, certCount := certCount common.envs }
        common.envs
  match cfg with
  | .error e => .error e
  | .ok cfg =>
    let source (i : Nat) : SecretProjection :=
      { name := cr.name ++ "-certs-" ++ itoa i, key := "cert-" ++ itoa i, path := "cert-" ++ itoa i }
    let sources := if cfg.skipCertValid then [] else (List.range cfg.certCount.toNat).map source
    .ok { name := "certs", sources }

/-- No Secret for an empty environment, nor for a single entry that is not the count. -/
def certCountOf : List EnvVar → Int
  | [] => 0
  | [env] => if env.name ≠ certSecretCount then 0 else 1
  | _ => 1

def getApplyCertVolume : ContainerStorageModule → Except GoError ProjectedVolume :=
  certVolume isilonSkip false certCountOf

def getApplyCertVolumePowerstore : ContainerStorageModule → Except GoError ProjectedVolume :=
  certVolume powerstoreSkip true certCountOf

def getApplyCertVolumeUnity : ContainerStorageModule → Except GoError ProjectedVolume :=
  certVolume unitySkip true fun _ => 1

/-! ## What is looked up and what is projected -/

variable {op : OperatorConfig} {cr : ContainerStorageModule} {tr : List (Event Lookups)}
  {skipEnv : String} {cfg : CertConfig} {envs : List EnvVar}

/-- Without an error, every Secret was read. -/
theorem secretReads_lookUpSecrets {namesp : String} {names : List String}
    (h : Run (lookUpSecrets namesp names) tr none) : secretReads tr = names.map (⟨namesp, ·⟩) := by
  induction names generalizing tr with
  | nil =>
      obtain ⟨rfl, -⟩ := Run.ret_iff.mp h
      rfl
  | cons name names ih =>
      obtain ⟨r, tr', rfl, hrest⟩ := Run.ask_bind_iff.mp h
      have hread : secretReads (⟨.getSecret ⟨namesp, name⟩, r⟩ :: tr') =
          ⟨namesp, name⟩ :: secretReads tr' := rfl
      rw [hread, List.map_cons]
      refine congrArg _ (ih ?_)
      match r with
      | none => exact hrest
      | some e =>
          dsimp only at hrest
          split at hrest
          · cases (Run.ret_iff.mp hrest).2
          · exact hrest

/-- A precheck that returns nil has understood the environment, and looked up the credentials and the
certificates it asks for. -/
theorem secretReads_precheckCerts {d : CertPrecheck} (h : Run (precheckCerts d op cr) tr none) :
    ∃ cfg, scanCertEnvs d.skipEnv d.invalid { skipCertValid := d.skipCertValid, certCount := 1 }
        cr.spec.driver.commonEnvs = .ok cfg ∧
      secretReads tr = (d.config cr :: certSecrets cr.name cfg).map (⟨cr.namesp, ·⟩) := by
  unfold precheckCerts at h
  split at h
  · cases (Run.ret_iff.mp h).2
  · obtain ⟨missing, tr', rfl, hrest⟩ := Run.ask_bind_iff.mp h
    split at hrest
    · cases (Run.ret_iff.mp hrest).2
    · dsimp only at hrest
      split at hrest
      · cases (Run.ret_iff.mp hrest).2
      next cfg hscan => exact ⟨cfg, hscan, (secretReads_lookUpSecrets hrest :)⟩

/-- The Secrets projected into the volume. -/
theorem certVolume_eq {skip : Bool} {count : List EnvVar → Int} {common : ContainerTemplate}
    (hcommon : cr.spec.driver.common = some common)
    (hscan : scanCertEnvs skipEnv isInvalidValue { skipCertValid := skip, certCount := count common.envs }
      common.envs = .ok cfg) :
    ∃ v, certVolume skipEnv skip count cr = .ok v ∧ v.sources.map (·.name) = certSecrets cr.name cfg := by
  unfold certVolume certSecrets
  rw [hcommon]
  dsimp only
  rw [hscan]
  refine ⟨_, rfl, ?_⟩
  dsimp only
  split
  · rfl
  · rw [List.map_map]
    rfl

/-- The entry that says how many certificates there are. -/
def GivesCount (skipEnv : String) (envs : List EnvVar) : Prop :=
  ∃ env ∈ envs, env.name ≠ skipEnv ∧ env.name = certSecretCount

theorem givesCount_cons {env : EnvVar} :
    GivesCount skipEnv (env :: envs) ↔
      (env.name ≠ skipEnv ∧ env.name = certSecretCount) ∨ GivesCount skipEnv envs :=
  List.exists_mem_cons_iff ..

/-- Two readings of one environment from different counts: an entry that gives the count makes them the
same, and otherwise each keeps its own. -/
theorem scanCertEnvs_agree {invalid invalid' : InvalidValue} {skip : Bool} {count : Int} (count' : Int)
    (h : scanCertEnvs skipEnv invalid ⟨skip, count⟩ envs = .ok cfg) :
    ∃ cfg', scanCertEnvs skipEnv invalid' ⟨skip, count'⟩ envs = .ok cfg' ∧
      cfg'.skipCertValid = cfg.skipCertValid ∧
      (GivesCount skipEnv envs → cfg'.certCount = cfg.certCount) ∧
      (¬ GivesCount skipEnv envs → cfg.certCount = count ∧ cfg'.certCount = count') := by
  induction envs generalizing skip count count' with
  | nil =>
      cases h
      exact ⟨_, rfl, rfl, fun ⟨_, henv, _⟩ => (List.not_mem_nil henv).elim, fun _ => ⟨rfl, rfl⟩⟩
  | cons env envs ih =>
      rw [givesCount_cons]
      unfold scanCertEnvs at h ⊢
      split at h
      next hskip =>
        split at h
        · cases h
        next b _ =>
          obtain ⟨cfg', hscan, hsame, hgiven, hfree⟩ := ih count' h
          rw [if_pos hskip]
          refine ⟨cfg', hscan, hsame, ?_, fun hnone => hfree fun hg => hnone (.inr hg)⟩
          rintro (⟨hne, -⟩ | hg)
          · exact absurd hskip hne
          · exact hgiven hg
      next hskip =>
        split at h
        next hcount =>
          split at h
          · cases h
          next d _ =>
            -- from here on both have the count of the entry
            obtain ⟨cfg', hscan, hsame, hgiven, hfree⟩ := ih d h
            rw [if_neg hskip, if_pos hcount]
            refine ⟨cfg', hscan, hsame, fun _ => ?_, fun hnone => absurd (.inl ⟨hskip, hcount⟩) hnone⟩
            by_cases hg : GivesCount skipEnv envs
            · exact hgiven hg
            · exact (hfree hg).2.trans (hfree hg).1.symm
        next hcount =>
          obtain ⟨cfg', hscan, hsame, hgiven, hfree⟩ := ih count' h
          rw [if_neg hskip, if_neg hcount]
          refine ⟨cfg', hscan, hsame, ?_, fun hnone => hfree fun hg => hnone (.inr hg)⟩
          rintro (⟨-, heq⟩ | hg)
          · exact absurd heq hcount
          · exact hgiven hg

/-- The Secrets projected into the volume are the certificate Secrets that were looked up: those that
were read after the credentials. -/
def Projects (cr : ContainerStorageModule) (vol : Except GoError ProjectedVolume)
    (tr : List (Event Lookups)) : Prop :=
  ∃ v, vol = .ok v ∧ ∀ key, key ∈ v.sources.map (fun s => (⟨cr.namesp, s.name⟩ : NamespacedName)) ↔
    key ∈ (secretReads tr).tail

theorem projects_iff {config : String} {cfg' : CertConfig} {vol : Except GoError ProjectedVolume}
    {v : ProjectedVolume} (hvol : vol = .ok v)
    (hsources : v.sources.map (·.name) = certSecrets cr.name cfg')
    (hreads : secretReads tr = (config :: certSecrets cr.name cfg).map (⟨cr.namesp, ·⟩)) :
    Projects cr vol tr ↔
      ∀ key : NamespacedName, key ∈ (certSecrets cr.name cfg').map (⟨cr.namesp, ·⟩) ↔
        key ∈ (certSecrets cr.name cfg).map (⟨cr.namesp, ·⟩) := by
  unfold Projects
  rw [hreads, ← hsources, List.map_map]
  constructor
  · rintro ⟨v', hv', h⟩
    obtain rfl := Except.ok.inj (hvol.symm.trans hv')
    exact h
  · exact fun h => ⟨v, hvol, h⟩

/-- Nothing is projected in place of the one Secret that is looked up unless told otherwise. -/
theorem not_projects_none {config : String} {cfg' : CertConfig} {vol : Except GoError ProjectedVolume}
    {v : ProjectedVolume} (hvol : vol = .ok v)
    (hsources : v.sources.map (·.name) = certSecrets cr.name cfg')
    (hreads : secretReads tr = (config :: certSecrets cr.name cfg).map (⟨cr.namesp, ·⟩))
    (hskip : cfg.skipCertValid = false) (hone : cfg.certCount = 1)
    (hnone : certSecrets cr.name cfg' = []) : ¬ Projects cr vol tr := by
  rw [projects_iff hvol hsources hreads, hnone]
  have hcerts : certSecrets cr.name cfg = [cr.name ++ "-certs-" ++ itoa (0 : Nat)] := by
    rw [certSecrets, hskip, hone]
    rfl
  intro h
  rw [hcerts] at h
  exact List.not_mem_nil ((h _).mpr (List.mem_singleton_self _))

theorem certSecrets_of_skip {name : String} (h : cfg.skipCertValid = true) : certSecrets name cfg = [] :=
  if_pos h

/-- **When precheck and renderer agree**: if certificates are not verified, or if both start from one
Secret, or if an entry says how many there are. -/
theorem projects_certVolume_iff {d : CertPrecheck} {count : List EnvVar → Int}
    (hcount : ∀ envs, count envs = 1 ∨ count envs = 0) (h : Run (precheckCerts d op cr) tr none) :
    ∃ cfg, scanCertEnvs d.skipEnv d.invalid { skipCertValid := d.skipCertValid, certCount := 1 }
        cr.spec.driver.commonEnvs = .ok cfg ∧
      (Projects cr (certVolume d.skipEnv d.skipCertValid count cr) tr ↔
        cfg.skipCertValid = true ∨ ∃ common, cr.spec.driver.common = some common ∧
          (count common.envs = 1 ∨ GivesCount d.skipEnv common.envs)) := by
  obtain ⟨cfg, hscan, hreads⟩ := secretReads_precheckCerts h
  refine ⟨cfg, hscan, ?_⟩
  unfold Driver.commonEnvs at hscan
  cases hcommon : cr.spec.driver.common with
  | none =>
      -- nothing is projected
      have hvol : certVolume d.skipEnv d.skipCertValid count cr =
          .ok { name := "certs", sources := [] } := by
        unfold certVolume
        rw [hcommon]
        rfl
      have hsources : ([] : List SecretProjection).map (·.name) = certSecrets cr.name ⟨true, 0⟩ := rfl
      rw [hcommon] at hscan
      cases hscan
      cases hskip : d.skipCertValid with
      | true =>
          rw [hskip] at hreads hvol
          rw [projects_iff hvol hsources hreads]
          exact iff_of_true (fun _ => Iff.rfl) (.inl rfl)
      | false =>
          rw [hskip] at hreads hvol
          refine iff_of_false (not_projects_none hvol hsources hreads rfl rfl rfl) ?_
          rintro (hskip' | ⟨common, hnone, -⟩)
          · cases hskip'
          · cases hnone
  | some common =>
      rw [hcommon, Option.map_some, Option.getD_some] at hscan
      obtain ⟨cfg', hscan', hsame, hgiven, hfree⟩ := scanCertEnvs_agree (count common.envs) hscan
      obtain ⟨v, hvol, hsources⟩ := certVolume_eq hcommon hscan'
      have hcommon_iff : (cfg.skipCertValid = true ∨ ∃ common', some common = some common' ∧
          (count common'.envs = 1 ∨ GivesCount d.skipEnv common'.envs)) ↔
          cfg.skipCertValid = true ∨ count common.envs = 1 ∨ GivesCount d.skipEnv common.envs := by
        simp only [Option.some.injEq, exists_eq_left']
      rw [hcommon_iff]
      cases hskip : cfg.skipCertValid with
      | true =>
          refine iff_of_true ?_ (.inl rfl)
          rw [projects_iff hvol hsources hreads, certSecrets_of_skip hskip,
            certSecrets_of_skip (hsame.trans hskip)]
          exact fun _ => Iff.rfl
      | false =>
          by_cases hstart : count common.envs = 1 ∨ GivesCount d.skipEnv common.envs
          · refine iff_of_true ?_ (.inr hstart)
            have hcounts : cfg'.certCount = cfg.certCount := by
              by_cases hg : GivesCount d.skipEnv common.envs
              · exact hgiven hg
              · obtain ⟨hc, hc'⟩ := hfree hg
                rw [hc, hc', hstart.resolve_right hg]
            rw [projects_iff hvol hsources hreads, certSecrets, certSecrets, hsame, hcounts]
            exact fun _ => Iff.rfl
          · rw [not_or] at hstart
            obtain ⟨hc, hc'⟩ := hfree hstart.2
            have hzero := (hcount common.envs).resolve_left hstart.1
            refine iff_of_false (not_projects_none hvol hsources hreads hskip hc ?_) ?_
            · rw [certSecrets, hsame, hskip, hc', hzero]
              rfl
            · rintro (hskip' | hstart')
              · cases hskip'
              · exact hstart'.elim hstart.1 hstart.2

/-! ## The three drivers -/

/-- The environments for which both find the same number of Secrets, for a driver that verifies
certificates by default or does not: there are two entries, or one that gives the count or turns the
verification off, or it is off by default and no entry is about it. -/
def CertsAgree (skipEnv : String) (skipCertValid : Bool) (envs : List EnvVar) : Prop :=
  2 ≤ envs.length ∨ (∃ env ∈ envs, env.name = certSecretCount) ∨
    (∃ env ∈ envs, env.name = skipEnv ∧ parseBool env.value = some true) ∨
    (skipCertValid = true ∧ ∀ env ∈ envs, env.name ≠ skipEnv)

theorem certCountOf_cases (envs : List EnvVar) : certCountOf envs = 1 ∨ certCountOf envs = 0 := by
  unfold certCountOf
  split
  · exact .inr rfl
  · split
    · exact .inr rfl
    · exact .inl rfl
  · exact .inl rfl

theorem certsAgree_nil {skip : Bool} : CertsAgree skipEnv skip [] ↔ skip = true := by
  simp [CertsAgree]

/-- A single entry: what the loop makes of it decides. -/
theorem certsAgree_singleton {invalid : InvalidValue} {skip : Bool} {count : Int} {env : EnvVar}
    (hne : skipEnv ≠ certSecretCount)
    (h : scanCertEnvs skipEnv invalid ⟨skip, count⟩ [env] = .ok cfg) :
    CertsAgree skipEnv skip [env] ↔ cfg.skipCertValid = true ∨ env.name = certSecretCount := by
  unfold scanCertEnvs at h
  split at h
  next hskip =>
    split at h
    · cases h
    next b hb =>
      cases h
      simp [CertsAgree, hskip, hb, hne]
  next hskip =>
    split at h
    next hcount => simp [CertsAgree, hcount]
    next hcount =>
      cases h
      simp [CertsAgree, hskip, hcount]

/-- The drivers whose renderer looks at the length of the environment. -/
theorem projects_certCountOf_iff {d : CertPrecheck} (hne : d.skipEnv ≠ certSecretCount)
    (h : Run (precheckCerts d op cr) tr none) :
    Projects cr (certVolume d.skipEnv d.skipCertValid certCountOf cr) tr ↔
      CertsAgree d.skipEnv d.skipCertValid cr.spec.driver.commonEnvs := by
  obtain ⟨cfg, hscan, hiff⟩ := projects_certVolume_iff certCountOf_cases h
  rw [hiff]
  -- an entry is in the environment of a template
  have hsome : ∀ envs, cr.spec.driver.commonEnvs = envs → envs ≠ [] →
      ((∃ common, cr.spec.driver.common = some common ∧
        (certCountOf common.envs = 1 ∨ GivesCount d.skipEnv common.envs)) ↔
        certCountOf envs = 1 ∨ GivesCount d.skipEnv envs) := by
    rintro envs rfl hnil
    unfold Driver.commonEnvs at hnil ⊢
    cases hcommon : cr.spec.driver.common with
    | none =>
        rw [hcommon] at hnil
        exact absurd rfl hnil
    | some common => simp only [Option.some.injEq, exists_eq_left', Option.map_some, Option.getD_some]
  match henvs : cr.spec.driver.commonEnvs with
  | [] =>
      rw [henvs] at hscan
      cases hscan
      rw [certsAgree_nil, or_iff_left_iff_imp]
      rintro ⟨common, hcommon, hcount⟩
      have hempty : common.envs = [] := by
        unfold Driver.commonEnvs at henvs
        rwa [hcommon] at henvs
      rw [hempty] at hcount
      rcases hcount with hcount | ⟨_, henv, -⟩
      · cases hcount
      · exact (List.not_mem_nil henv).elim
  | [env] =>
      rw [henvs] at hscan
      rw [hsome _ henvs (List.cons_ne_nil _ _), certsAgree_singleton hne hscan]
      refine or_congr_right ?_
      by_cases hcount : env.name = certSecretCount
      · exact iff_of_true (.inr ⟨env, List.mem_singleton_self _, hcount ▸ hne.symm, hcount⟩) hcount
      · refine iff_of_false ?_ hcount
        rintro (hone | ⟨env', henv', -, hcount'⟩)
        · rw [certCountOf, if_pos hcount] at hone
          cases hone
        · obtain rfl := List.mem_singleton.mp henv'
          exact hcount hcount'
  | env :: env' :: envs =>
      refine iff_of_true (.inr ((hsome _ henvs (List.cons_ne_nil _ _)).mpr (.inl rfl))) (.inl ?_)
      simp

/-- **Precheck and volume.** When the precheck of its driver has returned nil, the certificate Secrets
that a CR gets projected are those that were looked up: for PowerScale and PowerStore exactly under the
condition `CertsAgree` on the common environment, for Unity always. -/
theorem certificates_projected (op : OperatorConfig) (cr : ContainerStorageModule)
    (tr : List (Event Lookups)) :
    (Run (precheckPowerScale op cr) tr none → (Projects cr (getApplyCertVolume cr) tr ↔
      CertsAgree isilonSkip false cr.spec.driver.commonEnvs)) ∧
    (Run (precheckPowerStore op cr) tr none → (Projects cr (getApplyCertVolumePowerstore cr) tr ↔
      CertsAgree powerstoreSkip true cr.spec.driver.commonEnvs)) ∧
    (Run (precheckUnity op cr) tr none → Projects cr (getApplyCertVolumeUnity cr) tr) := by
  refine ⟨fun h => projects_certCountOf_iff (by decide) h,
    fun h => projects_certCountOf_iff (by decide) h, fun h => ?_⟩
  have hone : ∀ _ : List EnvVar, (1 : Int) = 1 ∨ (1 : Int) = 0 := fun _ => .inl rfl
  obtain ⟨cfg, hscan, hiff⟩ := projects_certVolume_iff hone h
  refine hiff.mpr ?_
  unfold Driver.commonEnvs at hscan
  cases hcommon : cr.spec.driver.common with
  | none =>
      rw [hcommon] at hscan
      cases hscan
      exact .inl rfl
  | some common => exact .inr ⟨common, rfl, .inl rfl⟩

/-- A PowerScale CR that says nothing about certificates. -/
def quietIsilon : ContainerStorageModule :=
  { name := "isilon", namesp := "dell"
    spec := { driver := { csiDriverType := .powerScale, configVersion := "v2.16.0", common := some {} } } }

/-- A CR that leaves the verification on, and has two Secrets. -/
def certifiedIsilon : ContainerStorageModule :=
  { quietIsilon with spec := { driver := { quietIsilon.spec.driver with
      common := some { envs := [⟨isilonSkip, "false"⟩, ⟨certSecretCount, "2"⟩] } } } }

/-- A precheck that was answered so, and the Secrets it read. -/
theorem exists_precheck (p : LookupOp (Option GoError)) (reads : List NamespacedName)
    (h : ((Monitor.replay (fun _ => allFound) p).any fun x =>
      x.1 = none ∧ secretReads x.2 = reads) = true) :
    ∃ tr, Run p tr none ∧ secretReads tr = reads := by
  obtain ⟨err, tr, hrun, htest⟩ := Monitor.exists_run_of_replay h
  obtain ⟨rfl, hreads⟩ := of_decide_eq_true htest
  exact ⟨tr, hrun, hreads⟩

theorem certificates_projected_two :
    ∃ tr, Run (precheckPowerScale shippedConfig certifiedIsilon) tr none ∧
      (secretReads tr).tail = [⟨"dell", "isilon-certs-0"⟩, ⟨"dell", "isilon-certs-1"⟩] ∧
      Projects certifiedIsilon (getApplyCertVolume certifiedIsilon) tr := by
  obtain ⟨tr, hrun, hreads⟩ := exists_precheck (precheckPowerScale shippedConfig certifiedIsilon)
    (["isilon-creds", "isilon-certs-0", "isilon-certs-1"].map (⟨"dell", ·⟩)) (by decide)
  refine ⟨tr, hrun, by rw [hreads]; rfl, ?_⟩
  exact ((certificates_projected shippedConfig certifiedIsilon tr).1 hrun).mpr (.inl (by decide))

/-- Without an entry in the environment one Secret is looked up, and none is projected. -/
theorem certificate_not_projected :
    ∃ tr, Run (precheckPowerScale shippedConfig quietIsilon) tr none ∧
      (secretReads tr).tail = [⟨"dell", "isilon-certs-0"⟩] ∧
      getApplyCertVolume quietIsilon = .ok { name := "certs", sources := [] } ∧
      ¬ Projects quietIsilon (getApplyCertVolume quietIsilon) tr := by
  obtain ⟨tr, hrun, hreads⟩ := exists_precheck (precheckPowerScale shippedConfig quietIsilon)
    (["isilon-creds", "isilon-certs-0"].map (⟨"dell", ·⟩)) (by decide)
  have htail : (secretReads tr).tail = [⟨"dell", "isilon-certs-0"⟩] := by rw [hreads]; rfl
  have hvol : getApplyCertVolume quietIsilon = .ok { name := "certs", sources := [] } := rfl
  refine ⟨tr, hrun, htail, hvol, ?_⟩
  rintro ⟨v, hv, hsame⟩
  obtain rfl := Except.ok.inj (hvol.symm.trans hv)
  rw [htail] at hsame
  exact List.not_mem_nil ((hsame _).mpr (List.mem_singleton_self _))

end CsmOperator
