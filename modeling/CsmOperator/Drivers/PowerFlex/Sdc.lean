import CsmOperator.Api.V1
import CsmOperator.Go.Slices

/-!
# The SDC: `SetSDCinitContainers` of `pkg/drivers/powerflex.go`

The init container `sdc` and the sidecar `sdc-monitor` get the addresses of the MDM, which are read from
the Secret of the driver.
-/

namespace CsmOperator

open Go

/-- The first variable `MDM` gets the value, and where there is none one is added. -/
def setMDM (mdmVar : String) (envs : List EnvVar) : List EnvVar :=
  if envs.any (·.name = "MDM") then replaceFirst (·.name = "MDM") { name := "MDM", value := mdmVar } envs
  else envs ++ [{ name := "MDM", value := mdmVar }]

/-- The node's environment does not say that the SDC is off. -/
def sdcEnabled (cr : ContainerStorageModule) : Bool :=
  !((cr.spec.driver.node.map (·.envs)).getD []).any fun env =>
    env.name = "X_CSI_SDC_ENABLED" ∧ env.value = "false"

def sdcInitContainers (mdmVar : String) (cr : ContainerStorageModule) : List ContainerTemplate :=
  let newInitContainers := cr.spec.driver.initContainers.map fun initcontainer =>
    if initcontainer.name = "sdc" ∧ sdcEnabled cr then
      { initcontainer with envs := setMDM mdmVar initcontainer.envs }
    else initcontainer
  if newInitContainers.length = 0 ∧ sdcEnabled cr then
    [{ name := "sdc", envs := [{ name := "MDM", value := mdmVar }] }]
  else newInitContainers

def sdcSideCars (mdmVar : String) (cr : ContainerStorageModule) : List ContainerTemplate :=
  if cr.spec.driver.sideCars.length = 0 then
    [{ name := "sdc-monitor", envs := [{ name := "MDM", value := mdmVar }] }]
  else
    cr.spec.driver.sideCars.map fun sideCar =>
      if sideCar.name = "sdc-monitor" then { sideCar with envs := setMDM mdmVar sideCar.envs }
      else sideCar

/-- What `SetSDCinitContainers` returns; an error of `GetMDMFromSecret` leaves `mdmVar` empty. -/
def setSDCinitContainers (mdmVar : String) (cr : ContainerStorageModule) : ContainerStorageModule :=
  { cr with
    spec := { cr.spec with
      driver := { cr.spec.driver with
        initContainers := sdcInitContainers mdmVar cr
        sideCars := sdcSideCars mdmVar cr } } }

end CsmOperator
