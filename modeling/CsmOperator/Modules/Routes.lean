import CsmOperator.Api.Cluster
import CsmOperator.Go.Text

/-!
# Routes and certificates of the proxy server: `pkg/modules/authorization.go`

The proxy server is reached through an ingress or, from v2.5.0 on, through a route of the Gateway API. Its
certificate is one of the CR, or one that the operator asks the certificate manager for. The names of the
hosts are collected twice: by `getHosts`, for the certificate and the ingress, and by `createHTTPRoute`.
-/

namespace CsmOperator

open Go

def getAuthorizationModule (cr : ContainerStorageModule) : Except GoError Module :=
  match cr.spec.modules.find? (·.name = .authorizationServer) with
  | some m => .ok m
  | none => .error (errorf "authorization module not found")

def authProxyServerComponent : String := "proxy-server"

/-! ## Hosts -/

/-- The hosts that the ingresses and the gateway of a component list. -/
def ContainerTemplate.listedHosts (component : ContainerTemplate) : List String :=
  component.proxyServerIngress.flatMap (·.hosts) ++ (component.gateway.map (·.hosts)).getD []

def getHosts (cr : ContainerStorageModule) : Except GoError (List String) :=
  match getAuthorizationModule cr with
  | .error e => .error e
  | .ok authModule => .ok (authModule.components.flatMap fun component =>
      if component.name = authProxyServerComponent then component.hostname :: component.listedHosts
      else [])

structure IngressRule where
  /-- empty for the rule that takes any host -/
  host : String := ""
  path : String := "/"
  serviceName : String := authProxyServerComponent
  port : Nat := 8080
  deriving DecidableEq, Repr

/-- No host specified: uses the address of a node. -/
def noHostRule : IngressRule := {}

def setIngressRules (cr : ContainerStorageModule) : Except GoError (List IngressRule) :=
  match getHosts cr with
  | .error e => .error (errorf ("getting hosts: " ++ e.text))
  | .ok hosts => .ok (hosts.map (fun host => { host }) ++ [noHostRule])

structure HTTPRoute where
  name : String := authProxyServerComponent
  namesp : String
  annotations : StrMap
  gatewayName : String
  hostnames : List String
  path : String := "/"
  port : Nat := 8080

/-- `annotations[k] = v` for each pair. -/
def setAnnotations (annotations : StrMap) (pairs : List (String × String)) : StrMap :=
  pairs.foldl (fun m pair => fun key => if key = pair.1 then some pair.2 else m key) annotations

/-- One component: an unset hostname is left out. -/
def routeHosts (component : ContainerTemplate) : List String :=
  if component.name = authProxyServerComponent then
    (if component.hostname ≠ "" then [component.hostname] else []) ++ component.listedHosts
  else []

def routeAnnotations (annotations : StrMap) (component : ContainerTemplate) : StrMap :=
  if component.name = authProxyServerComponent then
    setAnnotations annotations
      (component.proxyServerIngress.flatMap (·.annotations) ++ (component.gateway.map (·.annotations)).getD [])
  else annotations

def createHTTPRoute (cr : ContainerStorageModule) : Except GoError HTTPRoute :=
  match getAuthorizationModule cr with
  | .error e => .error e
  | .ok authModule =>
    .ok
      { namesp := cr.namesp
        annotations := authModule.components.foldl routeAnnotations fun _ => none
        gatewayName := cr.namesp ++ "-gateway"
        hostnames := authModule.components.flatMap routeHosts }

/-! ## Certificates -/

/-- The package variables that `getCerts` sets. -/
structure CertVars where
  authHostname : String := ""
  authCertificate : String := ""
  authPrivateKey : String := ""
  deriving DecidableEq, Repr

structure Issuer where
  name : String
  namesp : String
  deriving DecidableEq, Repr

structure Certificate where
  name : String
  namesp : String
  secretName : String
  issuerName : String
  dnsNames : List String
  deriving DecidableEq, Repr

/-- What is handed to `applyDeleteObjects`. -/
inductive CertManifest where
  | issuer (i : Issuer)
  | certificate (c : Certificate)
  | text (yaml : String)
  deriving DecidableEq, Repr

def createSelfSignedIssuer (cr : ContainerStorageModule) (name : String) : Issuer :=
  { name, namesp := cr.namesp }

def createSelfSignedCertificate (cr : ContainerStorageModule) (hosts : List String)
    (name secretName issuerName : String) : Certificate :=
  { name, namesp := cr.namesp, secretName, issuerName, dnsNames := hosts }

def CertVars.readComponent (vars : CertVars) (component : ContainerTemplate) : CertVars :=
  if component.name = authProxyServerComponent then
    { authHostname := component.hostname
      authCertificate := component.certificate
      authPrivateKey := component.privateKey }
  else vars

section Install

-- `readConfigFile` reads the template of the custom certificate
variable (readConfigFile : Module → ContainerStorageModule → Except GoError String)
  (cr : ContainerStorageModule)

/-- Is the certificate self-signed, and else what is applied; with the variables after. -/
def getCerts (vars : CertVars) : Except GoError (Bool × String × CertVars) :=
  match getAuthorizationModule cr with
  | .error e => .error e
  | .ok authModule =>
    let vars := authModule.components.foldl CertVars.readComponent vars
    if vars.authCertificate ≠ "" ∨ vars.authPrivateKey ≠ "" then
      if vars.authCertificate ≠ "" ∧ vars.authPrivateKey ≠ "" then
        match readConfigFile authModule cr with
        | .error e => .error e
        | .ok text =>
          let yamlString := replaceAll text "<NAMESPACE>" cr.namesp
          let yamlString := replaceAll yamlString "<BASE64_CERTIFICATE>" vars.authCertificate
          .ok (false, replaceAll yamlString "<BASE64_PRIVATE_KEY>" vars.authPrivateKey, vars)
      else
        .error (errorf ("authorization install failed -- either certificate or private key missing for " ++
          "custom cert"))
    else .ok (true, "", vars)

/-- The manifests that `InstallWithCerts` applies or deletes, in order. -/
def installWithCerts (vars : CertVars) : Except GoError (List CertManifest) :=
  match getCerts readConfigFile cr vars with
  | .error e => .error e
  | .ok (false, yamlString, _) => .ok [.text yamlString]
  | .ok (true, yamlString, _) =>
    match getHosts cr with
    | .error e => .error e
    | .ok hosts =>
      .ok [.issuer (createSelfSignedIssuer cr "selfsigned"),
        .certificate (createSelfSignedCertificate cr hosts "karavi-auth" "karavi-selfsigned-tls" "selfsigned"),
        .text yamlString]

end Install

/-! ## Agreement -/

/-- The hosts that the CR lists for ingresses and gateways are names. -/
def HostsListed (cr : ContainerStorageModule) : Prop :=
  ∀ authModule, getAuthorizationModule cr = .ok authModule →
    ∀ component ∈ authModule.components, component.name = authProxyServerComponent →
      "" ∉ component.listedHosts

/-- Every proxy server has a hostname. -/
def HostnamesSet (cr : ContainerStorageModule) : Prop :=
  ∀ authModule, getAuthorizationModule cr = .ok authModule →
    ∀ component ∈ authModule.components, component.name = authProxyServerComponent →
      component.hostname ≠ ""

/-- The route and the rules of the ingress, but its last one, are for the hosts of the certificate. -/
structure RoutesAgree (cr : ContainerStorageModule) (cert : Certificate) : Prop where
  route : ∃ route, createHTTPRoute cr = .ok route ∧ route.hostnames = cert.dnsNames
  ingress : ∃ rules, setIngressRules cr = .ok (rules ++ [noHostRule]) ∧ rules.map (·.host) = cert.dnsNames
  named : "" ∉ cert.dnsNames

theorem dnsNames_of_install {readConfigFile : Module → ContainerStorageModule → Except GoError String}
    {cr : ContainerStorageModule} {vars : CertVars} {manifests : List CertManifest} {cert : Certificate}
    (hinstall : installWithCerts readConfigFile cr vars = .ok manifests)
    (hcert : .certificate cert ∈ manifests) : getHosts cr = .ok cert.dnsNames := by
  unfold installWithCerts at hinstall
  split at hinstall
  · cases hinstall
  · cases hinstall
    simp at hcert
  · split at hinstall
    · cases hinstall
    next hosts hhosts =>
      cases hinstall
      obtain rfl : cert = createSelfSignedCertificate cr hosts _ _ _ := by simpa using hcert
      exact hhosts

/-- Where the certificate is self-signed, routes and certificate agree exactly when no proxy server leaves
its hostname out: `getHosts` then lists an empty name, which `createHTTPRoute` does not. -/
theorem routesAgree_iff {readConfigFile : Module → ContainerStorageModule → Except GoError String}
    {cr : ContainerStorageModule} {vars : CertVars} {manifests : List CertManifest} {cert : Certificate}
    (hinstall : installWithCerts readConfigFile cr vars = .ok manifests)
    (hcert : .certificate cert ∈ manifests) (hlisted : HostsListed cr) :
    RoutesAgree cr cert ↔ HostnamesSet cr := by
  have hhosts := dnsNames_of_install hinstall hcert
  unfold getHosts at hhosts
  cases hmodule : getAuthorizationModule cr with
  | error e =>
      rw [hmodule] at hhosts
      cases hhosts
  | ok authModule =>
      rw [hmodule] at hhosts
      have hdns := (Except.ok.inj hhosts).symm
      constructor
      · intro hagree authModule' hmodule' component hcomponent hname hempty
        obtain rfl : authModule = authModule' := Except.ok.inj (hmodule.symm.trans hmodule')
        apply hagree.named
        rw [hdns, List.mem_flatMap]
        refine ⟨component, hcomponent, ?_⟩
        rw [if_pos hname, hempty]
        exact List.mem_cons_self
      · intro hset
        refine ⟨⟨_, by rw [createHTTPRoute, hmodule], ?_⟩, ⟨cert.dnsNames.map fun host => { host }, ?_, ?_⟩, ?_⟩
        · rw [hdns]
          refine List.flatMap_congr fun component hcomponent => ?_
          unfold routeHosts
          split
          next hname =>
            rw [if_pos (hset authModule hmodule component hcomponent hname)]
            rfl
          next => rfl
        · rw [setIngressRules, getHosts, hmodule, hdns]
        · rw [List.map_map]
          exact List.map_id _
        · rw [hdns, List.mem_flatMap]
          rintro ⟨component, hcomponent, hmem⟩
          split at hmem
          next hname =>
            obtain hhost | hmem := List.mem_cons.mp hmem
            · exact hset authModule hmodule component hcomponent hname hhost.symm
            · exact hlisted authModule hmodule component hcomponent hname hmem
          next => cases hmem

/-- A server that is reached by the names of its gateway. -/
def gatewayServer (hostname : String) : ContainerStorageModule where
  name := "authorization"
  namesp := "authorization"
  spec :=
    { modules := [{ name := .authorizationServer, enabled := true, configVersion := "v2.5.0"
                    components := [{ name := "proxy-server", hostname
                                     gateway := some { hosts := ["auth.example.com"] } }] }] }

def gatewayCertificate (hostname : String) : Certificate :=
  createSelfSignedCertificate (gatewayServer hostname) [hostname, "auth.example.com"] "karavi-auth"
    "karavi-selfsigned-tls" "selfsigned"

theorem routesAgree_hostname : RoutesAgree (gatewayServer "csm-authorization.com")
    (gatewayCertificate "csm-authorization.com") := by
  have hset : HostnamesSet (gatewayServer "csm-authorization.com") := by
    intro authModule hmodule component hcomponent _
    cases hmodule
    obtain rfl := List.mem_singleton.mp hcomponent
    decide
  have hlisted : HostsListed (gatewayServer "csm-authorization.com") := by
    intro authModule hmodule component hcomponent _
    cases hmodule
    obtain rfl := List.mem_singleton.mp hcomponent
    decide
  have hinstall : installWithCerts (fun _ _ => .ok "") (gatewayServer "csm-authorization.com") {} =
      .ok [.issuer (createSelfSignedIssuer (gatewayServer "csm-authorization.com") "selfsigned"),
        .certificate (gatewayCertificate "csm-authorization.com"), .text ""] := by
    decide
  exact (routesAgree_iff hinstall (by simp) hlisted).mpr hset

/-- Without a hostname the certificate is for the empty name too, and the route is not. -/
theorem emptyName_certified :
    installWithCerts (fun _ _ => .ok "") (gatewayServer "") {} =
        .ok [.issuer (createSelfSignedIssuer (gatewayServer "") "selfsigned"),
          .certificate (gatewayCertificate ""), .text ""] ∧
      HostsListed (gatewayServer "") ∧ ¬RoutesAgree (gatewayServer "") (gatewayCertificate "") := by
  refine ⟨by decide, ?_, fun h => h.named (by decide)⟩
  intro authModule hmodule component hcomponent _
  cases hmodule
  obtain rfl := List.mem_singleton.mp hcomponent
  decide

end CsmOperator
