import CsmOperator.Controllers.Sync
import CsmOperator.Go.Slices
import CsmOperator.Go.Templates

/-!
# Rendering the driver's manifests: `ModifyCommonCR` and `ModifyPowerflexCR` and its siblings

The manifests of a driver are templates. `ModifyCommonCR` fills in what all drivers share; the driver's own
function then fills in its settings, which come from the environments in the custom resource. Each setting
is one call of `strings.ReplaceAll` on the whole text.
-/

namespace CsmOperator

open Go

/-- `fileType` of the `Modify…CR` functions. -/
inductive FileType where
  | node
  | controller
  | csiDriverSpec
  deriving DecidableEq, Repr

/-! ## Values -/

namespace Driver

variable (d : Driver)

/-- `Node.Envs`, where there is one. -/
def nodeEnvs : List EnvVar := (d.node.map (·.envs)).getD []

/-- `Controller.Envs`, where there is one. -/
def controllerEnvs : List EnvVar := (d.controller.map (·.envs)).getD []

end Driver

/-- `for _, env := range envs { if env.Name == name { value = env.Value } }` -/
def envValue (envs : List EnvVar) (name value : String) : String := lastOf (·.name == name) (·.value) value envs

/-- The same with `&& env.Value != ""`. -/
def nonEmptyEnvValue (envs : List EnvVar) (name value : String) : String :=
  lastOf (fun env => env.name == name && env.value != "") (·.value) value envs

def formatBool (b : Bool) : String := if b then "true" else "false"

variable (cr : ContainerStorageModule)

/-- The first `KUBELET_CONFIG_DIR`, even when it is empty. -/
def kubeletConfigDir : String :=
  ((cr.spec.driver.commonEnvs.find? (·.name == "KUBELET_CONFIG_DIR")).map (·.value)).getD "/var/lib/kubelet"

/-- `cr.Spec.Driver.Common.ImagePullPolicy`, where there is one. -/
def imagePullPolicy : String := (cr.spec.driver.common.map (·.imagePullPolicy)).getD ""

def modifyCommonCR (yamlString : String) : String :=
  let yamlString := if cr.name ≠ "" then replaceAll yamlString "<DriverDefaultReleaseName>" cr.name else yamlString
  let yamlString :=
    if cr.namesp ≠ "" then replaceAll yamlString "<DriverDefaultReleaseNamespace>" cr.namesp else yamlString
  let yamlString :=
    if imagePullPolicy cr ≠ "" then replaceAll yamlString "IfNotPresent" (imagePullPolicy cr) else yamlString
  replaceAll yamlString "<KUBELET_CONFIG_DIR>" (kubeletConfigDir cr)

/-- What the three drivers end the rendering of a node with. -/
def volumeCheckValues : List Replacement :=
  [⟨"X_CSI_FS_CHECK_ENABLED", getDriverCommonEnv cr "X_CSI_FS_CHECK_ENABLED" "false"⟩,
    ⟨"X_CSI_FS_CHECK_MODE", getDriverCommonEnv cr "X_CSI_FS_CHECK_MODE" "checkOnly"⟩,
    ⟨"X_CSI_SPACE_RECLAMATION_ENABLED", getDriverCommonEnv cr "X_CSI_SPACE_RECLAMATION_ENABLED" "false"⟩,
    ⟨"X_CSI_SPACE_RECLAMATION_SCHEDULE", getDriverCommonEnv cr "X_CSI_SPACE_RECLAMATION_SCHEDULE" ""⟩,
    ⟨"X_CSI_SPACE_RECLAMATION_MAX_CONCURRENT", getDriverCommonEnv cr "X_CSI_SPACE_RECLAMATION_MAX_CONCURRENT" ""⟩,
    ⟨"X_CSI_SPACE_RECLAMATION_TIMEOUT", getDriverCommonEnv cr "X_CSI_SPACE_RECLAMATION_TIMEOUT" ""⟩]

/-! ## PowerFlex -/

def metricsEnabled : Bool := (cr.spec.driver.metrics.map (·.enabled)).getD false

def metricsPort : String :=
  match cr.spec.driver.metrics with
  | some m => if m.port ≠ 0 then itoa m.port else "9090"
  | none => "9090"

def gatewayMonitoring : Option GatewayMonitoringConfig := cr.spec.driver.metrics.bind (·.gatewayMonitoring)

def gwMonitoringEnabled : Bool := metricsEnabled cr && ((gatewayMonitoring cr).map (·.enabled)).getD false

def gwMonitoringLeaderElection : Bool := ((gatewayMonitoring cr).bind (·.leaderElectionEnabled)).getD true

def gwMonitoringPollInterval : String :=
  match gatewayMonitoring cr with
  | some gm => if gm.pollInterval ≠ "" then gm.pollInterval else "30s"
  | none => "30s"

/-- The calls of `ModifyPowerflexCR` for a workload, in its order. -/
def powerflexControllerValues : List Replacement :=
  let common := cr.spec.driver.commonEnvs
  let controller := cr.spec.driver.controllerEnvs
  [⟨"X_CSI_HEALTH_MONITOR_ENABLED", envValue controller "X_CSI_HEALTH_MONITOR_ENABLED" "false"⟩,
    ⟨"X_CSI_POWERFLEX_EXTERNAL_ACCESS", envValue controller "X_CSI_POWERFLEX_EXTERNAL_ACCESS" ""⟩,
    ⟨"CSM_NAMESPACE", cr.namesp⟩,
    ⟨"GOSCALEIO_DEBUG", envValue common "GOSCALEIO_DEBUG" "false"⟩,
    ⟨"GOSCALEIO_SHOWHTTP", envValue common "GOSCALEIO_SHOWHTTP" "false"⟩,
    ⟨"X_CSI_PROBE_TIMEOUT", envValue common "X_CSI_PROBE_TIMEOUT" "10s"⟩,
    ⟨"X_CSI_AUTH_TYPE", envValue common "X_CSI_AUTH_TYPE" ""⟩,
    ⟨"X_CSI_METRICS_ENABLED", formatBool (metricsEnabled cr)⟩,
    ⟨"X_CSI_METRICS_PORT", metricsPort cr⟩,
    ⟨"X_CSI_GATEWAY_MONITORING_ENABLED", formatBool (gwMonitoringEnabled cr)⟩,
    ⟨"X_CSI_GATEWAY_MONITORING_LEADER_ELECTION_ENABLED", formatBool (gwMonitoringLeaderElection cr)⟩,
    ⟨"X_CSI_GATEWAY_MONITORING_POLL_INTERVAL", gwMonitoringPollInterval cr⟩]

def powerflexNodeValues : List Replacement :=
  let common := cr.spec.driver.commonEnvs
  let node := cr.spec.driver.nodeEnvs
  [⟨"X_CSI_SDC_ENABLED", envValue node "X_CSI_SDC_ENABLED" "true"⟩,
    ⟨"X_CSI_APPROVE_SDC_ENABLED", envValue node "X_CSI_APPROVE_SDC_ENABLED" ""⟩,
    ⟨"X_CSI_RENAME_SDC_ENABLED", envValue node "X_CSI_RENAME_SDC_ENABLED" ""⟩,
    ⟨"X_CSI_RENAME_SDC_PREFIX", envValue node "X_CSI_RENAME_SDC_PREFIX" ""⟩,
    ⟨"X_CSI_MAX_VOLUMES_PER_NODE", envValue node "X_CSI_MAX_VOLUMES_PER_NODE" ""⟩,
    ⟨"X_CSI_HEALTH_MONITOR_ENABLED", envValue node "X_CSI_HEALTH_MONITOR_ENABLED" "false"⟩,
    ⟨"CSM_NAMESPACE", cr.namesp⟩,
    ⟨"GOSCALEIO_DEBUG", envValue common "GOSCALEIO_DEBUG" "false"⟩,
    ⟨"GOSCALEIO_SHOWHTTP", envValue common "GOSCALEIO_SHOWHTTP" "false"⟩,
    ⟨"X_CSI_SFTP_REPO_ADDRESS", envValue node "REPO_ADDRESS" "sftp://0.0.0.0"⟩,
    ⟨"X_CSI_SFTP_REPO_USER", envValue node "REPO_USER" ""⟩,
    ⟨"X_CSI_SDC_SFTP_REPO_ENABLED", envValue node "X_CSI_SDC_SFTP_REPO_ENABLED" ""⟩,
    ⟨"X_CSI_PROBE_TIMEOUT", envValue common "X_CSI_PROBE_TIMEOUT" "10s"⟩,
    ⟨"X_CSI_AUTH_TYPE", envValue common "X_CSI_AUTH_TYPE" ""⟩] ++
    volumeCheckValues cr

/-- `CSIDriverSpec.StorageCapacity`, `false` when unset. -/
def storageCapacity : Bool := (cr.spec.driver.csiDriverSpec.map (·.storageCapacity)).getD false

def modifyPowerflexCR (yamlString : String) : FileType → String
  | .controller => Replacement.applyAll (powerflexControllerValues cr) yamlString
  | .node => Replacement.applyAll (powerflexNodeValues cr) yamlString
  | .csiDriverSpec =>
    replaceAll (replaceAll yamlString "false" (formatBool (storageCapacity cr))) "<X_CSI_QUOTA_ENABLED>" ""

/-! ## PowerStore -/

/-- `authEnabled`: the state of the first authorization module. The function also leaves it in the
`X_CSM_AUTH_ENABLED` of the node it was passed; the text depends only on the module. -/
def authEnabled : String :=
  match cr.spec.modules.find? (·.name = .authorization) with
  | some m => formatBool m.enabled
  | none => ""

/-- What the node and the controller of PowerStore share. -/
def powerstoreCommonValues : List Replacement :=
  let common := cr.spec.driver.commonEnvs
  [⟨"X_CSI_POWERSTORE_API_TIMEOUT", nonEmptyEnvValue common "X_CSI_POWERSTORE_API_TIMEOUT" "120s"⟩,
    ⟨"X_CSI_PODMON_ARRAY_CONNECTIVITY_TIMEOUT",
      nonEmptyEnvValue common "X_CSI_PODMON_ARRAY_CONNECTIVITY_TIMEOUT" "10s"⟩,
    ⟨"X_CSI_NFS_CLIENT_PORT", "unused"⟩,
    ⟨"X_CSI_NFS_SERVER_PORT", "unused"⟩,
    ⟨"X_CSI_NFS_EXPORT_DIRECTORY", "/var/lib/dell/nfs"⟩,
    ⟨"X_CSM_DR_ENABLED", getDriverCommonEnv cr "X_CSM_DR_ENABLED" "true"⟩,
    ⟨"X_CSM_DR_BIND_PORT", getDriverCommonEnv cr "X_CSM_DR_BIND_PORT" "8082"⟩]

def powerstoreNodeValues : List Replacement :=
  let common := cr.spec.driver.commonEnvs
  let node := cr.spec.driver.nodeEnvs
  [⟨"X_CSI_POWERSTORE_NODE_NAME_PREFIX", envValue common "X_CSI_POWERSTORE_NODE_NAME_PREFIX" ""⟩,
    ⟨"X_CSI_FC_PORTS_FILTER_FILE_PATH", envValue common "X_CSI_FC_PORTS_FILTER_FILE_PATH" ""⟩,
    ⟨"X_CSI_POWERSTORE_ENABLE_CHAP", envValue node "X_CSI_POWERSTORE_ENABLE_CHAP" ""⟩,
    ⟨"X_CSI_HEALTH_MONITOR_ENABLED", envValue node "X_CSI_HEALTH_MONITOR_ENABLED" ""⟩,
    ⟨"X_CSI_POWERSTORE_MAX_VOLUMES_PER_NODE", envValue node "X_CSI_POWERSTORE_MAX_VOLUMES_PER_NODE" ""⟩,
    ⟨"X_CSI_VOLUME_DISCONNECT_MAX_RETRIES", envValue node "X_CSI_VOLUME_DISCONNECT_MAX_RETRIES" "5"⟩,
    ⟨"X_CSI_VOLUME_DISCONNECT_RETRY_INTERVAL", envValue node "X_CSI_VOLUME_DISCONNECT_RETRY_INTERVAL" "5s"⟩,
    ⟨"X_CSI_VOLUME_DISCONNECT_TIMEOUT_SECONDS", envValue node "X_CSI_VOLUME_DISCONNECT_TIMEOUT_SECONDS" "120s"⟩,
    ⟨"CSM_NAMESPACE", cr.namesp⟩,
    ⟨"GOPOWERSTORE_DEBUG", envValue common "GOPOWERSTORE_DEBUG" "false"⟩,
    ⟨"X_CSM_AUTH_ENABLED", authEnabled cr⟩] ++
    powerstoreCommonValues cr ++ volumeCheckValues cr

def powerstoreControllerValues : List Replacement :=
  let controller := cr.spec.driver.controllerEnvs
  [⟨"X_CSI_NFS_ACLS", envValue controller "X_CSI_NFS_ACLS" ""⟩,
    ⟨"X_CSI_HEALTH_MONITOR_ENABLED", envValue controller "X_CSI_HEALTH_MONITOR_ENABLED" ""⟩,
    ⟨"X_CSI_POWERSTORE_EXTERNAL_ACCESS", envValue controller "X_CSI_POWERSTORE_EXTERNAL_ACCESS" ""⟩,
    ⟨"X_CSI_POWERSTORE_EXCLUSIVE_ACCESS", envValue controller "X_CSI_POWERSTORE_EXCLUSIVE_ACCESS" "false"⟩,
    ⟨"CSM_NAMESPACE", cr.namesp⟩,
    ⟨"GOPOWERSTORE_DEBUG", envValue cr.spec.driver.commonEnvs "GOPOWERSTORE_DEBUG" "false"⟩] ++
    powerstoreCommonValues cr

def modifyPowerstoreCR (yamlString : String) : FileType → String
  | .node => Replacement.applyAll (powerstoreNodeValues cr) yamlString
  | .controller => Replacement.applyAll (powerstoreControllerValues cr) yamlString
  | .csiDriverSpec => replaceAll yamlString "false" (formatBool (storageCapacity cr))

/-! ## PowerMax -/

/-- The certificate of the reverse proxy: the last one its server component names. -/
def proxyTLSSecret : String :=
  let components := (cr.getModule .reverseProxy).components
  envValue ((components.filter (·.name = "csipowermax-reverseproxy")).flatMap (·.envs))
    "X_CSI_REVPROXY_TLS_SECRET" "csirevproxy-tls-secret"

/-- The settings both workloads begin with, up to the monitor. -/
def powermaxArrayValues : List Replacement :=
  let common := cr.spec.driver.commonEnvs
  [⟨"X_CSI_MANAGED_ARRAY", envValue common "X_CSI_MANAGED_ARRAYS" ""⟩,
    ⟨"X_CSI_POWERMAX_ENDPOINT", envValue common "X_CSI_POWERMAX_ENDPOINT" ""⟩,
    ⟨"X_CSI_POWERMAX_DEBUG", envValue common "X_CSI_POWERMAX_DEBUG" "false"⟩,
    ⟨"X_CSI_POWERMAX_PORTGROUPS", envValue common "X_CSI_POWERMAX_PORTGROUPS" ""⟩,
    ⟨"X_CSI_TRANSPORT_PROTOCOL", envValue common "X_CSI_TRANSPORT_PROTOCOL" ""⟩,
    ⟨"X_CSI_IG_NODENAME_TEMPLATE", envValue common "X_CSI_IG_NODENAME_TEMPLATE" ""⟩,
    ⟨"X_CSI_IG_MODIFY_HOSTNAME", envValue common "X_CSI_IG_MODIFY_HOSTNAME" "false"⟩]

def powermaxVsphereValues : List Replacement :=
  let common := cr.spec.driver.commonEnvs
  [⟨"X_CSI_VSPHERE_ENABLED", envValue common "X_CSI_VSPHERE_ENABLED" "false"⟩,
    ⟨"X_CSI_VSPHERE_PORTGROUP", envValue common "X_CSI_VSPHERE_PORTGROUP" ""⟩,
    ⟨"X_CSI_VSPHERE_HOSTNAME", envValue common "X_CSI_VSPHERE_HOSTNAME" ""⟩,
    ⟨"X_CSI_VCENTER_HOST", envValue common "X_CSI_VCENTER_HOST" ""⟩]

/-- The settings both workloads end with. -/
def powermaxProxyValues : List Replacement :=
  [⟨"X_CSI_REVPROXY_TLS_SECRET", proxyTLSSecret cr⟩,
    ⟨"CSM_NAMESPACE", cr.namesp⟩,
    ⟨"X_CSI_DYNAMIC_SG_ENABLED", envValue cr.spec.driver.commonEnvs "X_CSI_DYNAMIC_SG_ENABLED" "false"⟩]

def powermaxNodeValues : List Replacement :=
  let node := cr.spec.driver.nodeEnvs
  powermaxArrayValues cr ++
    [⟨"X_CSI_HEALTH_MONITOR_ENABLED", envValue node "X_CSI_HEALTH_MONITOR_ENABLED" "false"⟩,
      ⟨"X_CSI_TOPOLOGY_CONTROL_ENABLED", envValue node "X_CSI_TOPOLOGY_CONTROL_ENABLED" "false"⟩] ++
    powermaxVsphereValues cr ++
    [⟨"X_CSI_POWERMAX_ISCSI_ENABLE_CHAP", envValue node "X_CSI_POWERMAX_ISCSI_ENABLE_CHAP" "false"⟩,
      ⟨"X_CSI_MAX_VOLUMES_PER_NODE", envValue node "X_CSI_MAX_VOLUMES_PER_NODE" ""⟩] ++
    powermaxProxyValues cr ++ volumeCheckValues cr

/-- The controller has no topology and no `CHAP` of its own: they keep their defaults. -/
def powermaxControllerValues : List Replacement :=
  let controller := cr.spec.driver.controllerEnvs
  powermaxArrayValues cr ++
    [⟨"X_CSI_HEALTH_MONITOR_ENABLED", envValue controller "X_CSI_HEALTH_MONITOR_ENABLED" "false"⟩,
      ⟨"X_CSI_TOPOLOGY_CONTROL_ENABLED", "false"⟩] ++
    powermaxVsphereValues cr ++
    [⟨"X_CSI_POWERMAX_ISCSI_ENABLE_CHAP", "false"⟩] ++
    powermaxProxyValues cr

/-- The storage capacity starts out as `true` here, so the CSI driver gets no other value. -/
def modifyPowermaxCR (yamlString : String) : FileType → String
  | .node => Replacement.applyAll (powermaxNodeValues cr) yamlString
  | .controller => Replacement.applyAll (powermaxControllerValues cr) yamlString
  | .csiDriverSpec => replaceAll yamlString "false" "true"

/-! ## PowerScale and Unity -/

def powerScaleNodeValues : List Replacement :=
  [⟨"X_CSI_HEALTH_MONITOR_ENABLED", envValue cr.spec.driver.nodeEnvs "X_CSI_HEALTH_MONITOR_ENABLED" "false"⟩,
    ⟨"CSM_NAMESPACE", cr.namesp⟩,
    ⟨"GOISILON_DEBUG", envValue cr.spec.driver.commonEnvs "GOISILON_DEBUG" "false"⟩]

def powerScaleControllerValues : List Replacement :=
  let controller := cr.spec.driver.controllerEnvs
  [⟨"X_CSI_HEALTH_MONITOR_ENABLED", envValue controller "X_CSI_HEALTH_MONITOR_ENABLED" "false"⟩,
    ⟨"CSM_NAMESPACE", cr.namesp⟩,
    ⟨"GOISILON_DEBUG", envValue cr.spec.driver.commonEnvs "GOISILON_DEBUG" "false"⟩,
    ⟨"CSI_VOL_PREFIX", envValue controller "X_CSI_VOL_PREFIX" "csivol"⟩]

def modifyPowerScaleCR (yamlString : String) : FileType → String
  | .node => Replacement.applyAll (powerScaleNodeValues cr) yamlString
  | .controller => Replacement.applyAll (powerScaleControllerValues cr) yamlString
  | .csiDriverSpec => replaceAll yamlString "false" (formatBool (storageCapacity cr))

/-- What both workloads of Unity end with. -/
def unityCommonValues : List Replacement :=
  let common := cr.spec.driver.commonEnvs
  [⟨"CSM_NAMESPACE", cr.namesp⟩,
    ⟨"GOUNITY_DEBUG", envValue common "GOUNITY_DEBUG" "false"⟩,
    ⟨"GOUNITY_SHOWHTTP", envValue common "GOUNITY_SHOWHTTP" "false"⟩]

def unityNodeValues : List Replacement :=
  let node := cr.spec.driver.nodeEnvs
  [⟨"X_CSI_HEALTH_MONITOR_ENABLED", envValue node "X_CSI_HEALTH_MONITOR_ENABLED" "false"⟩,
    ⟨"X_CSI_ALLOWED_NETWORKS", envValue node "X_CSI_ALLOWED_NETWORKS" ""⟩] ++ unityCommonValues cr

def unityControllerValues : List Replacement :=
  [⟨"X_CSI_HEALTH_MONITOR_ENABLED",
      envValue cr.spec.driver.controllerEnvs "X_CSI_HEALTH_MONITOR_ENABLED" "false"⟩] ++ unityCommonValues cr

def modifyUnityCR (yamlString : String) : FileType → String
  | .node => Replacement.applyAll (unityNodeValues cr) yamlString
  | .controller => Replacement.applyAll (unityControllerValues cr) yamlString
  | .csiDriverSpec => replaceAll yamlString "false" (formatBool (storageCapacity cr))

/-! ## The chain as one substitution -/

/-- The drivers whose manifests are rendered so. -/
inductive RenderedDriver where
  | powerflex
  | powerstore
  | powermax
  deriving DecidableEq, Repr

inductive Workload where
  | node
  | controller
  deriving DecidableEq, Repr

def Workload.fileType : Workload → FileType
  | node => .node
  | controller => .controller

namespace RenderedDriver

/-- The driver's function, after `ModifyCommonCR`. -/
def modifyCR (yamlString : String) (fileType : FileType) : RenderedDriver → String
  | powerflex => modifyPowerflexCR cr yamlString fileType
  | powerstore => modifyPowerstoreCR cr yamlString fileType
  | powermax => modifyPowermaxCR cr yamlString fileType

def values : RenderedDriver → Workload → List Replacement
  | powerflex, .node => powerflexNodeValues cr
  | powerflex, .controller => powerflexControllerValues cr
  | powerstore, .node => powerstoreNodeValues cr
  | powerstore, .controller => powerstoreControllerValues cr
  | powermax, .node => powermaxNodeValues cr
  | powermax, .controller => powermaxControllerValues cr

/-- All handled tokens with their values, in the order of the calls. -/
def replacements (d : RenderedDriver) (w : Workload) : List Replacement :=
  [⟨"DriverDefaultReleaseName", cr.name⟩, ⟨"DriverDefaultReleaseNamespace", cr.namesp⟩,
    ⟨"KUBELET_CONFIG_DIR", kubeletConfigDir cr⟩] ++ d.values cr w

/-- The custom resources the result is about. -/
structure Renderable (d : RenderedDriver) (w : Workload) : Prop where
  name : cr.name ≠ ""
  namesp : cr.namesp ≠ ""
  noOverride : imagePullPolicy cr = ""
  values : ∀ r ∈ d.replacements cr w, '<' ∉ r.value.toList

variable {cr} {d : RenderedDriver} {w : Workload}

theorem modifyCR_workload (yamlString : String) :
    d.modifyCR cr yamlString w.fileType = Replacement.applyAll (d.values cr w) yamlString := by
  cases d <;> cases w <;> rfl

/-- The tokens do not depend on the custom resource. -/
theorem names_replacements (cr cr' : ContainerStorageModule) (d : RenderedDriver) (w : Workload) :
    (d.replacements cr w).map (·.name) = (d.replacements cr' w).map (·.name) := by
  cases d <;> cases w <;> rfl

theorem nodup_replacements : ((d.replacements cr w).map (·.name)).Nodup := by
  rw [names_replacements cr {}]
  cases d <;> cases w <;> decide +kernel

theorem names_free : ∀ r ∈ d.replacements cr w, '>' ∉ r.name.toList := by
  suffices h : ∀ name ∈ (d.replacements cr w).map (·.name), '>' ∉ name.toList from
    fun r hr => h _ (List.mem_map_of_mem hr)
  rw [names_replacements cr {}]
  cases d <;> cases w <;> decide +kernel

theorem Renderable.wellFormed (h : Renderable cr d w) : Replacement.WellFormed (d.replacements cr w) where
  nodup := nodup_replacements
  names := names_free
  values := h.values

theorem Renderable.modifyCommonCR_eq (h : Renderable cr d w) (yamlString : String) :
    d.modifyCR cr (modifyCommonCR cr yamlString) w.fileType =
      Replacement.applyAll (d.replacements cr w) yamlString := by
  have hname : placeholder "DriverDefaultReleaseName" = "<DriverDefaultReleaseName>" := by decide +kernel
  have hnamesp : placeholder "DriverDefaultReleaseNamespace" = "<DriverDefaultReleaseNamespace>" := by
    decide +kernel
  have hdir : placeholder "KUBELET_CONFIG_DIR" = "<KUBELET_CONFIG_DIR>" := by decide +kernel
  rw [modifyCR_workload, modifyCommonCR, if_pos h.name, if_pos h.namesp, if_neg (not_not.mpr h.noOverride),
    replacements, Replacement.applyAll_append]
  simp only [Replacement.applyAll, List.foldl_cons, List.foldl_nil, hname, hnamesp, hdir]

/-- A node of PowerStore, with an authorization module that is off. -/
def renderedExample : ContainerStorageModule where
  name := "powerstore"
  namesp := "dell"
  spec :=
    { modules := [{ name := .authorization, enabled := false }]
      driver :=
        { csiDriverType := .powerStore
          common := some { envs := [⟨"KUBELET_CONFIG_DIR", "/data/kubelet"⟩] } } }

def renderedTemplate : List Piece :=
  [.text "path: " (by decide), .token "KUBELET_CONFIG_DIR" (by decide), .text " > " (by decide),
    .token "X_CSM_AUTH_ENABLED" (by decide), .token "OTHER" (by decide)]

end RenderedDriver

end CsmOperator
