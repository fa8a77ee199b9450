import CsmOperator.Controllers.Reconcile
import CsmOperator.Drivers.PowerFlex.Sdc
import CsmOperator.Go.Records
import CsmOperator.Modules.Authorization

/-!
# What becomes of the CR while it is rendered

`AuthorizationPrecheck`, `SetSDCinitContainers` and `ModifyPowerstoreCR` get the CR, or one of its modules, by
value. Its lists of containers are slices and its node is a pointer, so what these functions do to a variable
of a container may be done to the CR of `Reconcile`, which is later written back. Each of them is given here
twice: on the slices as the source has it, and as the change that the caller finds in its CR.
-/

namespace CsmOperator

open Go Interaction

/-! ## The changes -/

/-- The first variable of the name gets the value, and where there is none one is added. -/
def setEnv (name value : String) (envs : List EnvVar) : List EnvVar :=
  if envs.any (·.name = name) then replaceFirst (·.name = name) ⟨name, value⟩ envs
  else envs ++ [⟨name, value⟩]

/-- The same without the addition. -/
def overwriteEnv (name value : String) (envs : List EnvVar) : List EnvVar :=
  replaceFirst (·.name = name) ⟨name, value⟩ envs

/-- The variable is added unless there is one. -/
def addEnvIfMissing (name value : String) (envs : List EnvVar) : List EnvVar :=
  if envs.any (·.name = name) then envs else envs ++ [⟨name, value⟩]

/-- Do something to the environment of the selected containers. -/
def onEnvs (sel : ContainerTemplate → Bool) (g : List EnvVar → List EnvVar) (c : ContainerTemplate) :
    ContainerTemplate :=
  if sel c then { c with envs := g c.envs } else c

def isKaraviProxy (c : ContainerTemplate) : Bool := c.name = karaviProxy

def isSdc (c : ContainerTemplate) : Bool := c.name = "sdc"

def isSdcMonitor (c : ContainerTemplate) : Bool := c.name = "sdc-monitor"

/-- What `AuthorizationPrecheck` does to the module. -/
def Module.skipRequested (m : Module) : Module :=
  if m.name = .authorization ∧ m.enabled then
    { m with components :=
        m.components.map (onEnvs isKaraviProxy (addEnvIfMissing skipCertificateValidation "true")) }
  else m

/-- The prechecks of all modules have run. -/
def skipRequested (cr : ContainerStorageModule) : ContainerStorageModule :=
  { cr with spec := { cr.spec with modules := cr.spec.modules.map (·.skipRequested) } }

/-- What the caller of `SetSDCinitContainers` finds. An init container is a copy, and what is appended to it is
lost. -/
def sdcWritten (mdmVar : String) (cr : ContainerStorageModule) : ContainerStorageModule :=
  { cr with spec := { cr.spec with driver := { cr.spec.driver with
      initContainers := cr.spec.driver.initContainers.map
        (onEnvs (fun c => isSdc c && sdcEnabled cr) (overwriteEnv "MDM" mdmVar))
      sideCars := cr.spec.driver.sideCars.map (onEnvs isSdcMonitor (setEnv "MDM" mdmVar)) } } }

/-- What the caller of `ModifyPowerstoreCR` finds. A node that was missing is added to a copy. -/
def authEnvWritten (cr : ContainerStorageModule) : ContainerStorageModule :=
  if cr.hasModule .authorization then
    let expectedValue := toString (cr.getModule .authorization).enabled
    { cr with spec := { cr.spec with driver := { cr.spec.driver with
        node := cr.spec.driver.node.map (onEnvs (fun _ => true) (setEnv "X_CSM_AUTH_ENABLED" expectedValue)) } } }
  else cr

/-- What the caller of `getDriverConfig` finds. -/
def driverConfigWritten (mdmVar : String) (cr : ContainerStorageModule) : ContainerStorageModule :=
  if cr.spec.driver.csiDriverType = .powerFlex then sdcWritten mdmVar cr
  else if cr.spec.driver.csiDriverType = .powerStore then authEnvWritten cr
  else cr

/-! ## On slices -/

section Memory

variable (spare : Nat → List EnvVar)

def setEnvAt (name value : String) : SliceEdit EnvVar :=
  .branch (·.any (·.name = name)) (.assign (replaceFirst (·.name = name) ⟨name, value⟩))
    (.append spare [⟨name, value⟩])

def addEnvIfMissingAt (name value : String) : SliceEdit EnvVar :=
  .branch (·.any (·.name = name)) .keep (.append spare [⟨name, value⟩])

theorem length_replaceFirst {α : Type} (p : α → Bool) (y : α) (xs : List α) :
    (replaceFirst p y xs).length = xs.length := by
  induction xs with
  | nil => rfl
  | cons x xs ih =>
      unfold replaceFirst
      split
      · rfl
      · exact congrArg (· + 1) ih

theorem replaceFirst_of_not_any {α : Type} {p : α → Bool} {y : α} {xs : List α} (h : xs.any p = false) :
    replaceFirst p y xs = xs := by
  induction xs with
  | nil => rfl
  | cons x xs ih =>
      rw [List.any_cons, Bool.or_eq_false_iff] at h
      rw [replaceFirst, h.1, ih h.2]
      rfl

theorem shows_setEnvAt (name value : String) :
    (setEnvAt spare name value).Shows (setEnv name value) (overwriteEnv name value) := by
  have hshows := (SliceEdit.shows_assign (length_replaceFirst (·.name = name) ⟨name, value⟩)).branch
    (SliceEdit.shows_append spare [⟨name, value⟩]) (·.any (·.name = name))
  have hthrough : overwriteEnv name value = fun envs =>
      if envs.any (·.name = name) then replaceFirst (·.name = name) ⟨name, value⟩ envs else id envs := by
    funext envs
    split
    · rfl
    · next hnone => exact replaceFirst_of_not_any (by simpa using hnone)
  rw [hthrough]
  exact hshows

theorem shows_addEnvIfMissingAt (name value : String) :
    (addEnvIfMissingAt spare name value).Shows (addEnvIfMissing name value) id := by
  have hshows := SliceEdit.shows_keep.branch (SliceEdit.shows_append spare [⟨name, value⟩]) (·.any (·.name = name))
  have hthrough : (id : List EnvVar → List EnvVar) = fun envs =>
      if envs.any (·.name = name) then id envs else id envs := by
    funext envs
    split <;> rfl
  rw [hthrough]
  exact hshows

/-- Containers, and the environments they have. The field `envs` of a container here is not used. -/
abbrev TemplateHeap := Heap ContainerTemplate EnvVar

/-- A CR in memory. A pointer to a container is a slice of one. -/
structure CRVar where
  /-- everything else -/
  rest : ContainerStorageModule
  initContainers : Slice
  sideCars : Slice
  node : Option Slice
  /-- for each module its components -/
  components : List Slice

def template (x : ContainerTemplate × List EnvVar) : ContainerTemplate := { x.1 with envs := x.2 }

/-- The containers that a slice shows. -/
def templates (m : TemplateHeap) (s : Slice) : List ContainerTemplate := (m.shows s).map template

/-- The module with the components that it shows. -/
def Module.showing (mod : Module) (components : List ContainerTemplate) : Module := { mod with components }

def CRVar.modules (m : TemplateHeap) (v : CRVar) : List Module :=
  (v.rest.spec.modules.zip v.components).map fun x => x.1.showing (templates m x.2)

/-- The CR that the variable shows. -/
def CRVar.value (m : TemplateHeap) (v : CRVar) : ContainerStorageModule :=
  { v.rest with spec := { v.rest.spec with
      driver := { v.rest.spec.driver with
        initContainers := templates m v.initContainers
        sideCars := templates m v.sideCars
        node := v.node.bind fun p => (templates m p).head? }
      modules := CRVar.modules m v } }

def CRVar.slices (v : CRVar) : List Slice := v.initContainers :: v.sideCars :: (v.node.toList ++ v.components)

/-- As the decoder leaves a CR: every list is in an array of its own. -/
structure CRVar.Held (m : TemplateHeap) (v : CRVar) : Prop where
  apart : m.Apart v.slices
  nodup : v.slices.Nodup
  modules : v.components.length = v.rest.spec.modules.length

/-- The loop of `AuthorizationPrecheck`, which goes by index over the components of a copy of the module. -/
def authorizationPrecheckAt (m : TemplateHeap) (x : Module × Slice) : TemplateHeap :=
  if x.1.name = .authorization ∧ x.1.enabled then
    m.rangeIndex isKaraviProxy (addEnvIfMissingAt spare skipCertificateValidation "true") x.2
  else m

def preChecksAt (m : TemplateHeap) (v : CRVar) : TemplateHeap :=
  (v.rest.spec.modules.zip v.components).foldl (authorizationPrecheckAt spare) m

/-- The first half of `SetSDCinitContainers`, which ranges over the init containers. -/
def newInitContainersAt (mdmVar : String) (m : TemplateHeap) (v : CRVar) : TemplateHeap × Slice :=
  let enabled := sdcEnabled (v.value m)
  let x := m.rangeCopy (fun c => isSdc c && enabled) (setEnvAt spare "MDM" mdmVar) v.initContainers
  if x.2.len = 0 ∧ enabled then x.1.alloc [({ name := "sdc" }, [⟨"MDM", mdmVar⟩])] else x

/-- The second half, which goes over the sidecars by index. -/
def newSideCarsAt (mdmVar : String) (m : TemplateHeap) (v : CRVar) : TemplateHeap × Slice :=
  let m := m.rangeIndex isSdcMonitor (setEnvAt spare "MDM" mdmVar) v.sideCars
  if v.sideCars.len = 0 then m.alloc [({ name := "sdc-monitor" }, [⟨"MDM", mdmVar⟩])] else (m, v.sideCars)

/-- The memory and the CR that `SetSDCinitContainers` returns. -/
def setSDCinitContainersAt (mdmVar : String) (m : TemplateHeap) (v : CRVar) : TemplateHeap × CRVar :=
  let x := newInitContainersAt spare mdmVar m v
  let y := newSideCarsAt spare mdmVar x.1 v
  (y.1, { v with initContainers := x.2, sideCars := y.2 })

/-- The memory after `ModifyPowerstoreCR` of the node. -/
def modifyPowerstoreCRAt (m : TemplateHeap) (v : CRVar) : TemplateHeap :=
  if (v.value m).hasModule .authorization then
    match v.node with
    | some p =>
      m.rangeIndex (fun _ => true)
        (setEnvAt spare "X_CSM_AUTH_ENABLED" (toString ((v.value m).getModule .authorization).enabled)) p
    -- the new node is one of the copy
    | none => m
  else m

def getDriverConfigAt (mdmVar : String) (m : TemplateHeap) (v : CRVar) : TemplateHeap :=
  if v.rest.spec.driver.csiDriverType = .powerFlex then (setSDCinitContainersAt spare mdmVar m v).1
  else if v.rest.spec.driver.csiDriverType = .powerStore then modifyPowerstoreCRAt spare m v
  else m

end Memory

/-! ## What the slices show -/

section Templates

variable {m : TemplateHeap} {ss : List Slice} {s t : Slice} {sel : ContainerTemplate → Bool}
  {act : SliceEdit EnvVar} {after through : List EnvVar → List EnvVar}

/-- The test does not look at the environment. -/
def IgnoresEnvs (sel : ContainerTemplate → Bool) : Prop := ∀ x, sel (template x) = sel x.1

theorem map_template_onSelected (hsel : IgnoresEnvs sel) (g : List EnvVar → List EnvVar)
    (xs : List (ContainerTemplate × List EnvVar)) :
    (xs.map (onSelected sel g)).map template = (xs.map template).map (onEnvs sel g) := by
  rw [List.map_map, List.map_map]
  refine List.map_congr_left fun x _ => ?_
  simp only [Function.comp_apply, onSelected, onEnvs, hsel x]
  split <;> rfl

theorem templates_rangeIndex_self (hsel : IgnoresEnvs sel) (hact : act.Shows after through) (hm : m.Apart ss)
    (hs : s ∈ ss) : templates (m.rangeIndex sel act s) s = (templates m s).map (onEnvs sel after) := by
  rw [templates, Heap.shows_rangeIndex_self hact hm hs, map_template_onSelected hsel, templates]

theorem templates_rangeIndex_of_beside (hact : act.Shows after through) (hm : m.Apart ss) (hs : s ∈ ss)
    (ht : m.Beside s t) : templates (m.rangeIndex sel act s) t = templates m t := by
  rw [templates, Heap.shows_rangeIndex_of_beside hact hm hs ht, templates]

theorem templates_alloc {xs : List (ContainerTemplate × List EnvVar)} (ht : m.Holds t) :
    templates (m.alloc xs).1 t = templates m t := by
  rw [templates, Heap.shows_alloc_of_holds ht, templates]

end Templates

section Value

variable {spare : Nat → List EnvVar} {m m' : TemplateHeap} {v : CRVar}

namespace CRVar

theorem initContainers_mem : v.initContainers ∈ v.slices := List.mem_cons_self

theorem sideCars_mem : v.sideCars ∈ v.slices := List.mem_cons_of_mem _ List.mem_cons_self

theorem node_mem {p : Slice} (h : v.node = some p) : p ∈ v.slices :=
  List.mem_cons_of_mem _ (List.mem_cons_of_mem _ (List.mem_append_left _ (by simp [h])))

theorem components_mem {s : Slice} (h : s ∈ v.components) : s ∈ v.slices :=
  List.mem_cons_of_mem _ (List.mem_cons_of_mem _ (List.mem_append_right _ h))

theorem Held.sideCars_ne (h : v.Held m) : v.sideCars ≠ v.initContainers := by
  have hnodup := (List.nodup_cons.mp h.nodup).1
  exact fun heq => hnodup (heq ▸ List.mem_cons_self)

theorem Held.node_ne {p : Slice} (h : v.Held m) (hp : v.node = some p) :
    p ≠ v.initContainers ∧ p ≠ v.sideCars := by
  obtain ⟨hinit, hrest⟩ := List.nodup_cons.mp h.nodup
  have hmem : p ∈ v.node.toList ++ v.components := List.mem_append_left _ (by simp [hp])
  exact ⟨fun heq => hinit (heq ▸ List.mem_cons_of_mem _ hmem),
    fun heq => (List.nodup_cons.mp hrest).1 (heq ▸ hmem)⟩

theorem Held.components_ne {s : Slice} (h : v.Held m) (hs : s ∈ v.components) :
    s ≠ v.initContainers ∧ s ≠ v.sideCars ∧ ∀ p ∈ v.node, p ≠ s := by
  obtain ⟨hinit, hrest⟩ := List.nodup_cons.mp h.nodup
  obtain ⟨hside, hrest⟩ := List.nodup_cons.mp hrest
  have hmem : s ∈ v.node.toList ++ v.components := List.mem_append_right _ hs
  refine ⟨fun heq => hinit (heq ▸ List.mem_cons_of_mem _ hmem), fun heq => hside (heq ▸ hmem),
    fun p hp heq => ?_⟩
  exact (List.nodup_append.mp hrest).2.2 p (Option.mem_toList.mpr hp) s hs heq

theorem Held.of_apart (h : v.Held m) (hm : m'.Apart v.slices) : v.Held m' := ⟨hm, h.nodup, h.modules⟩

/-- The parts of the value. -/
theorem value_congr {cr : ContainerStorageModule}
    (hinit : templates m' v.initContainers = cr.spec.driver.initContainers)
    (hside : templates m' v.sideCars = cr.spec.driver.sideCars)
    (hnode : (v.node.bind fun p => (templates m' p).head?) = cr.spec.driver.node)
    (hmodules : v.modules m' = cr.spec.modules)
    (hrest : cr = { v.rest with spec := { v.rest.spec with
      driver := { v.rest.spec.driver with
        initContainers := cr.spec.driver.initContainers
        sideCars := cr.spec.driver.sideCars
        node := cr.spec.driver.node }
      modules := cr.spec.modules } }) : v.value m' = cr := by
  rw [value, hinit, hside, hnode, hmodules]
  exact hrest.symm

end CRVar

/-- Where no components change, the modules do not. -/
theorem CRVar.modules_congr (h : ∀ s ∈ v.components, templates m' s = templates m s) :
    v.modules m' = v.modules m :=
  List.map_congr_left fun x hx => congrArg x.1.showing (h x.2 (List.of_mem_zip hx).2)

/-! ### Prechecks -/

theorem Module.skipRequested_showing (mod : Module) (cs : List ContainerTemplate) :
    (mod.showing cs).skipRequested = mod.showing (if mod.name = .authorization ∧ mod.enabled then
      cs.map (onEnvs isKaraviProxy (addEnvIfMissing skipCertificateValidation "true")) else cs) := by
  unfold Module.skipRequested
  rw [apply_ite mod.showing]
  rfl

/-- The loop over the modules, for those that are left. -/
theorem preChecksAt_loop (spare : Nat → List EnvVar) {ss : List Slice} (xs : List (Module × Slice)) (hm : m.Apart ss)
    (hxs : ∀ x ∈ xs, x.2 ∈ ss) (hnodup : (xs.map (·.2)).Nodup) :
    let m' := xs.foldl (authorizationPrecheckAt spare) m
    m'.Apart ss ∧ (∀ t ∈ ss, t ∉ xs.map (·.2) → templates m' t = templates m t) ∧
      ∀ x ∈ xs, x.1.showing (templates m' x.2) = (x.1.showing (templates m x.2)).skipRequested := by
  induction xs generalizing m with
  | nil => exact ⟨hm, fun _ _ _ => rfl, nofun⟩
  | cons x xs ih =>
      obtain ⟨hx, hrest⟩ := List.forall_mem_cons.mp hxs
      obtain ⟨hnot, hnodup⟩ := List.nodup_cons.mp hnodup
      have hshows := shows_addEnvIfMissingAt spare skipCertificateValidation "true"
      -- what the first module does
      have hfirst : (authorizationPrecheckAt spare m x).Apart ss ∧
          (∀ t ∈ ss, t ≠ x.2 → templates (authorizationPrecheckAt spare m x) t = templates m t) ∧
          x.1.showing (templates (authorizationPrecheckAt spare m x) x.2) =
            (x.1.showing (templates m x.2)).skipRequested := by
        rw [Module.skipRequested_showing]
        unfold authorizationPrecheckAt
        split
        next hauth =>
          refine ⟨Heap.apart_rangeIndex hshows hm hx, fun t ht hne => ?_, ?_⟩
          · exact templates_rangeIndex_of_beside hshows hm hx (hm.beside hx ht hne)
          · rw [templates_rangeIndex_self (fun _ => rfl) hshows hm hx]
        next hauth => exact ⟨hm, fun _ _ _ => rfl, rfl⟩
      obtain ⟨hm', hothers, hself⟩ := hfirst
      obtain ⟨hm'', hothers', hmods⟩ := ih hm' hrest hnodup
      refine ⟨hm'', fun t ht hne => ?_, List.forall_mem_cons.mpr ⟨?_, fun y hy => ?_⟩⟩
      · rw [List.map_cons, List.mem_cons, not_or] at hne
        exact (hothers' t ht hne.2).trans (hothers t ht hne.1)
      · rw [← hself]
        exact congrArg x.1.showing (hothers' x.2 hx hnot)
      · have hne : y.2 ≠ x.2 := fun heq => hnot (List.mem_map.mpr ⟨y, hy, heq⟩)
        rw [← hothers y.2 (hrest y hy) hne]
        exact hmods y hy

/-- The caller of the prechecks finds the variable in every proxy. -/
theorem value_preChecksAt (spare : Nat → List EnvVar) (h : v.Held m) :
    v.value (preChecksAt spare m v) = skipRequested (v.value m) ∧ v.Held (preChecksAt spare m v) := by
  have hsnd : ((v.rest.spec.modules.zip v.components).map (·.2)) = v.components :=
    List.map_snd_zip (Nat.le_of_eq h.modules)
  have hcomponents : v.components.Nodup := by
    obtain ⟨-, hrest⟩ := List.nodup_cons.mp h.nodup
    exact (List.nodup_append.mp (List.nodup_cons.mp hrest).2).2.1
  obtain ⟨hm', hothers, hmods⟩ := preChecksAt_loop spare (v.rest.spec.modules.zip v.components)
    h.apart (fun x hx => CRVar.components_mem (List.of_mem_zip hx).2) (hsnd.symm ▸ hcomponents)
  rw [hsnd] at hothers
  refine ⟨CRVar.value_congr ?_ ?_ ?_ ?_ rfl, h.of_apart hm'⟩
  · exact hothers _ CRVar.initContainers_mem fun hmem => (h.components_ne hmem).1 rfl
  · exact hothers _ CRVar.sideCars_mem fun hmem => (h.components_ne hmem).2.1 rfl
  · cases hnode : v.node with
    | none => simp [skipRequested, CRVar.value, hnode]
    | some p =>
        have hp : templates (preChecksAt spare m v) p = templates m p :=
          hothers p (CRVar.node_mem hnode) fun hmem => (h.components_ne hmem).2.2 p hnode rfl
        simp [skipRequested, CRVar.value, hnode, hp]
  · show _ = (v.modules m).map (·.skipRequested)
    rw [CRVar.modules, CRVar.modules, List.map_map]
    exact List.map_congr_left hmods

/-! ### PowerStore -/

theorem value_modifyPowerstoreCRAt (h : v.Held m) :
    v.value (modifyPowerstoreCRAt spare m v) = authEnvWritten (v.value m) := by
  unfold modifyPowerstoreCRAt authEnvWritten
  split
  next hauth =>
    cases hnode : v.node with
    | none =>
        refine CRVar.value_congr rfl rfl ?_ rfl rfl
        simp [CRVar.value, hnode]
    | some p =>
        have hp := CRVar.node_mem hnode
        have hshows := shows_setEnvAt spare "X_CSM_AUTH_ENABLED"
          (toString ((v.value m).getModule .authorization).enabled)
        have hothers (t : Slice) (ht : t ∈ v.slices) (hne : t ≠ p) :
            templates (m.rangeIndex (fun _ => true) _ p) t = templates m t :=
          templates_rangeIndex_of_beside hshows h.apart hp (h.apart.beside hp ht hne)
        refine CRVar.value_congr ?_ ?_ ?_ ?_ rfl
        · exact hothers _ CRVar.initContainers_mem (h.node_ne hnode).1.symm
        · exact hothers _ CRVar.sideCars_mem (h.node_ne hnode).2.symm
        · rw [hnode, Option.bind_some, templates_rangeIndex_self (fun _ => rfl) hshows h.apart hp,
            List.head?_map]
          simp [CRVar.value, hnode]
        · refine CRVar.modules_congr fun s hs => ?_
          exact hothers s (CRVar.components_mem hs) ((h.components_ne hs).2.2 p hnode).symm
  next hauth => rfl

/-! ### The SDC -/

section Sdc

variable {mdmVar : String}

theorem sdcInitContainers_eq (mdmVar : String) (cr : ContainerStorageModule) :
    sdcInitContainers mdmVar cr =
      if cr.spec.driver.initContainers.length = 0 ∧ sdcEnabled cr then
        [template ({ name := "sdc" }, [⟨"MDM", mdmVar⟩])]
      else cr.spec.driver.initContainers.map (onEnvs (fun c => isSdc c && sdcEnabled cr) (setEnv "MDM" mdmVar)) := by
  unfold sdcInitContainers
  dsimp only
  rw [List.length_map]
  congr 1
  refine List.map_congr_left fun c _ => ?_
  simp only [onEnvs, isSdc, Bool.and_eq_true, decide_eq_true_eq]
  rfl

theorem sdcSideCars_eq (cr : ContainerStorageModule) :
    sdcSideCars mdmVar cr =
      if cr.spec.driver.sideCars.length = 0 then [template ({ name := "sdc-monitor" }, [⟨"MDM", mdmVar⟩])]
      else cr.spec.driver.sideCars.map (onEnvs isSdcMonitor (setEnv "MDM" mdmVar)) := by
  unfold sdcSideCars
  congr 1
  refine List.map_congr_left fun c _ => ?_
  simp only [onEnvs, isSdcMonitor, decide_eq_true_eq]
  rfl

theorem length_templates {s : Slice} (hs : m.Holds s) : (templates m s).length = s.len := by
  rw [templates, List.length_map, Heap.shows, List.length_map, hs.valid.length_read]

/-- What the first half leaves. -/
structure InitContainersSet (mdmVar : String) (m : TemplateHeap) (v : CRVar) (x : TemplateHeap × Slice) :
    Prop where
  apart : x.1.Apart v.slices
  own : templates x.1 x.2 = sdcInitContainers mdmVar (v.value m)
  written : templates x.1 v.initContainers = (sdcWritten mdmVar (v.value m)).spec.driver.initContainers
  others : ∀ t ∈ v.slices, t ≠ v.initContainers → templates x.1 t = templates m t
  beside : x.1.Beside v.sideCars x.2

theorem initContainersSet_newInitContainersAt (spare : Nat → List EnvVar) (mdmVar : String) (h : v.Held m) :
    InitContainersSet mdmVar m v (newInitContainersAt spare mdmVar m v) := by
  have hshows := shows_setEnvAt spare "MDM" mdmVar
  have hinit := v.initContainers_mem
  unfold newInitContainersAt
  dsimp only
  generalize hsel : (fun c : ContainerTemplate => isSdc c && sdcEnabled (v.value m)) = sel
  have hignores : IgnoresEnvs sel := by
    subst hsel
    exact fun _ => rfl
  generalize hx : m.rangeCopy sel (setEnvAt spare "MDM" mdmVar) v.initContainers = x
  have happart : x.1.Apart v.slices := hx ▸ Heap.apart_rangeCopy hshows h.apart hinit
  have hbeside : x.1.Beside v.sideCars x.2 :=
    hx ▸ Heap.beside_rangeCopy hshows h.apart hinit v.sideCars_mem h.sideCars_ne
  have hwritten : templates x.1 v.initContainers =
      (sdcWritten mdmVar (v.value m)).spec.driver.initContainers := by
    rw [← hx, templates, Heap.shows_rangeCopy_self hshows h.apart hinit, map_template_onSelected hignores]
    subst hsel
    rfl
  have hothers (t : Slice) (ht : t ∈ v.slices) (hne : t ≠ v.initContainers) :
      templates x.1 t = templates m t := by
    rw [← hx, templates, Heap.shows_rangeCopy_of_beside hshows h.apart hinit (h.apart.beside hinit ht hne),
      templates]
  have hown : templates x.1 x.2 = (templates m v.initContainers).map (onEnvs sel (setEnv "MDM" mdmVar)) := by
    rw [← hx, templates, Heap.shows_rangeCopy_new hshows h.apart hinit, map_template_onSelected hignores,
      templates]
  have hlen : x.2.len = (templates m v.initContainers).length := by
    rw [← length_templates hbeside.holds, hown, List.length_map]
  have hsdc := sdcInitContainers_eq mdmVar (v.value m)
  rw [hsel, show (v.value m).spec.driver.initContainers = templates m v.initContainers from rfl, ← hlen] at hsdc
  split
  next hempty =>
    rw [if_pos hempty] at hsdc
    refine ⟨Heap.apart_alloc happart, ?_, ?_, fun t ht hne => ?_, Heap.beside_alloc (happart.holds v.sideCars_mem)⟩
    · rw [hsdc, templates, Heap.shows_alloc_new]
      rfl
    · rw [templates_alloc (happart.holds hinit), hwritten]
    · rw [templates_alloc (happart.holds ht), hothers t ht hne]
  next hempty =>
    rw [if_neg hempty] at hsdc
    exact ⟨happart, hown.trans hsdc.symm, hwritten, hothers, hbeside⟩

/-- What the second half leaves. -/
structure SideCarsSet (mdmVar : String) (m : TemplateHeap) (v : CRVar) (y : TemplateHeap × Slice) : Prop where
  own : templates y.1 y.2 = if v.sideCars.len = 0 then [template ({ name := "sdc-monitor" }, [⟨"MDM", mdmVar⟩])]
    else (templates m v.sideCars).map (onEnvs isSdcMonitor (setEnv "MDM" mdmVar))
  written : templates y.1 v.sideCars = (templates m v.sideCars).map (onEnvs isSdcMonitor (setEnv "MDM" mdmVar))
  others : ∀ t, m.Beside v.sideCars t → templates y.1 t = templates m t

theorem sideCarsSet_newSideCarsAt (spare : Nat → List EnvVar) (mdmVar : String) (hm : m.Apart v.slices) :
    SideCarsSet mdmVar m v (newSideCarsAt spare mdmVar m v) := by
  have hshows := shows_setEnvAt spare "MDM" mdmVar
  have hside := v.sideCars_mem
  have hapart : (m.rangeIndex isSdcMonitor (setEnvAt spare "MDM" mdmVar) v.sideCars).Apart v.slices :=
    Heap.apart_rangeIndex hshows hm hside
  have hself : templates (m.rangeIndex isSdcMonitor _ v.sideCars) v.sideCars = _ :=
    templates_rangeIndex_self (fun _ => rfl) hshows hm hside
  have hothers (t : Slice) (ht : m.Beside v.sideCars t) :
      templates (m.rangeIndex isSdcMonitor _ v.sideCars) t = templates m t :=
    templates_rangeIndex_of_beside hshows hm hside ht
  unfold newSideCarsAt
  dsimp only
  split
  next hempty =>
    refine ⟨?_, ?_, fun t ht => ?_⟩
    · rw [if_pos hempty, templates, Heap.shows_alloc_new]
      rfl
    · rw [templates_alloc (hapart.holds hside), hself]
    · rw [templates_alloc (Heap.holds_rangeIndex_of_beside hshows hm hside ht), hothers t ht]
  next hempty =>
    refine ⟨?_, hself, hothers⟩
    rw [if_neg hempty]
    exact hself

/-- The CR that the function returns is the one that `setSDCinitContainers` computes, and its caller finds
`sdcWritten` in its own. -/
theorem value_setSDCinitContainersAt (h : v.Held m) :
    let x := setSDCinitContainersAt spare mdmVar m v
    x.2.value x.1 = setSDCinitContainers mdmVar (v.value m) ∧ v.value x.1 = sdcWritten mdmVar (v.value m) := by
  obtain ⟨hm, hown, hwritten, hothers, hbeside⟩ :=
    initContainersSet_newInitContainersAt spare mdmVar h
  obtain ⟨hown', hwritten', hothers'⟩ := sideCarsSet_newSideCarsAt spare mdmVar hm
  unfold setSDCinitContainersAt
  dsimp only
  generalize newInitContainersAt spare mdmVar m v = x at *
  generalize newSideCarsAt spare mdmVar x.1 v = y at *
  have hside : templates x.1 v.sideCars = templates m v.sideCars :=
    hothers _ v.sideCars_mem h.sideCars_ne
  -- a slice that is neither of the two
  have hrest (t : Slice) (ht : t ∈ v.slices) (hinit : t ≠ v.initContainers) (hne : t ≠ v.sideCars) :
      templates y.1 t = templates m t :=
    (hothers' t (hm.beside v.sideCars_mem ht hne)).trans (hothers t ht hinit)
  have hnode : (v.node.bind fun p => (templates y.1 p).head?) = (v.value m).spec.driver.node := by
    cases hp : v.node with
    | none => simp [CRVar.value, hp]
    | some p =>
        obtain ⟨hinit, hne⟩ := h.node_ne hp
        simp [CRVar.value, hp, hrest p (CRVar.node_mem hp) hinit hne]
  have hmodules : v.modules y.1 = v.modules m := by
    refine CRVar.modules_congr fun s hs => ?_
    obtain ⟨hinit, hne, -⟩ := h.components_ne hs
    exact hrest s (CRVar.components_mem hs) hinit hne
  constructor
  · refine CRVar.value_congr ?_ ?_ hnode hmodules rfl
    · exact (hothers' _ hbeside).trans hown
    · show templates y.1 y.2 = sdcSideCars mdmVar (v.value m)
      have hlen : (v.value m).spec.driver.sideCars.length = v.sideCars.len :=
        length_templates (h.apart.holds v.sideCars_mem)
      rw [hown', sdcSideCars_eq, hlen, hside]
      rfl
  · refine CRVar.value_congr ?_ ?_ hnode hmodules rfl
    · exact (hothers' _ (hm.beside v.sideCars_mem v.initContainers_mem h.sideCars_ne.symm)).trans hwritten
    · rw [hwritten', hside]
      rfl

end Sdc

theorem value_getDriverConfigAt {mdmVar : String} (h : v.Held m) :
    v.value (getDriverConfigAt spare mdmVar m v) = driverConfigWritten mdmVar (v.value m) := by
  unfold getDriverConfigAt driverConfigWritten
  show v.value (if v.rest.spec.driver.csiDriverType = .powerFlex then _ else _) =
    if v.rest.spec.driver.csiDriverType = .powerFlex then _ else
      if v.rest.spec.driver.csiDriverType = .powerStore then _ else _
  split
  · exact (value_setSDCinitContainersAt h).2
  · split
    · exact value_modifyPowerstoreCRAt h
    · rfl

/-- **What is written back**: after the prechecks and the rendering of the driver, the CR in memory is the one
that was read with `skipRequested` and `driverConfigWritten` done to it, however much room the decoder and
`append` have left behind the environments. -/
theorem value_rendered {mdmVar : String} (h : v.Held m) :
    v.value (getDriverConfigAt spare mdmVar (preChecksAt spare m v) v) =
      driverConfigWritten mdmVar (skipRequested (v.value m)) := by
  obtain ⟨hvalue, hheld⟩ := value_preChecksAt spare h
  rw [value_getDriverConfigAt hheld, hvalue]

end Value

/-! ## Every CR can be in memory -/

section Decoded

/-- The containers as structs with an environment. -/
def structs (cs : List ContainerTemplate) : List (ContainerTemplate × List EnvVar) := cs.map fun c => (c, c.envs)

theorem map_template_structs (cs : List ContainerTemplate) : (structs cs).map template = cs := by
  rw [structs, List.map_map]
  exact List.map_id _

theorem modules_of_shows {m : TemplateHeap} {mods : List Module} {ss : List Slice}
    (h : ss.map m.shows = mods.map fun mod => structs mod.components) :
    (mods.zip ss).map (fun x => x.1.showing (templates m x.2)) = mods := by
  induction mods generalizing ss with
  | nil => rfl
  | cons mod mods ih =>
      obtain ⟨s, ss, rfl, hs, hss⟩ := List.map_eq_cons_iff.mp h
      have hshowing : mod.showing (templates m s) = mod := by
        rw [templates, hs, map_template_structs]
        rfl
      exact congrArg₂ List.cons hshowing (ih hss)

/-- Every CR can be held in memory. -/
theorem CRVar.exists_held (cr : ContainerStorageModule) : ∃ m v, CRVar.Held m v ∧ v.value m = cr := by
  have hempty : (⟨[], []⟩ : TemplateHeap).Apart [] := ⟨nofun, nofun, nofun, nofun⟩
  obtain ⟨hshows, -, hapart, hnodup, -⟩ := Heap.allocAll_spec
    (structs cr.spec.driver.initContainers :: structs cr.spec.driver.sideCars ::
      (cr.spec.driver.node.toList.map (fun c => structs [c]) ++
        cr.spec.modules.map fun mod => structs mod.components)) hempty
  generalize Heap.allocAll _ _ = x at hshows hapart hnodup
  obtain ⟨m, ss⟩ := x
  obtain ⟨init, ss, rfl, hinit, hshows⟩ := List.map_eq_cons_iff.mp hshows
  obtain ⟨side, ss, rfl, hside, hshows⟩ := List.map_eq_cons_iff.mp hshows
  obtain ⟨nodes, components, rfl, hnodes, hcomponents⟩ := List.map_eq_append_iff.mp hshows
  have hlen : components.length = cr.spec.modules.length := by simpa using congrArg List.length hcomponents
  -- there is one node, or none
  have hnode : nodes.head?.toList = nodes ∧
      (nodes.head?.bind fun p => (templates m p).head?) = cr.spec.driver.node := by
    cases hcr : cr.spec.driver.node with
    | none =>
        rw [hcr] at hnodes
        obtain rfl : nodes = [] := List.map_eq_nil_iff.mp hnodes
        exact ⟨rfl, rfl⟩
    | some c =>
        rw [hcr] at hnodes
        obtain ⟨p, rest, rfl, hp, hrest⟩ := List.map_eq_cons_iff.mp hnodes
        obtain rfl : rest = [] := List.map_eq_nil_iff.mp hrest
        refine ⟨rfl, ?_⟩
        rw [List.head?_cons, Option.bind_some, templates, hp, map_template_structs, List.head?_cons]
  refine ⟨m, ⟨cr, init, side, nodes.head?, components⟩, ⟨?_, ?_, hlen⟩, CRVar.value_congr ?_ ?_ hnode.2 ?_ rfl⟩
  · rw [CRVar.slices, hnode.1]
    exact hapart.mono fun t ht => List.mem_append_left _ ht
  · rw [CRVar.slices, hnode.1]
    exact hnodup
  · rw [templates, hinit, map_template_structs]
  · rw [templates, hside, map_template_structs]
  · exact modules_of_shows hcomponents

end Decoded

/-- A PowerFlex with an SDC, observability and the authorization proxy. -/
def flexCR : ContainerStorageModule :=
  { name := "vxflexos", namesp := "vxflexos", spec := {
      driver := {
        csiDriverType := .powerFlex
        initContainers := [{ name := "sdc", envs := [⟨"MDM", ""⟩] }]
        sideCars := [{ name := "sdc-monitor" }] }
      modules := [
        { name := .observability, enabled := true },
        { name := .authorization, enabled := true, components := [{ name := karaviProxy }] }] } }

/-- In some memory that holds the CR, with room behind every environment that `append` has moved. -/
theorem value_rendered_flex :
    let spare (n : Nat) : List EnvVar := List.replicate n ⟨"", ""⟩
    ∃ (m : TemplateHeap) (v : CRVar), v.value m = flexCR ∧
      v.value (getDriverConfigAt spare "10.0.0.1" (preChecksAt spare m v) v) =
        driverConfigWritten "10.0.0.1" (skipRequested flexCR) := by
  obtain ⟨m, v, hheld, hvalue⟩ := CRVar.exists_held flexCR
  exact ⟨m, v, hvalue, hvalue ▸ value_rendered hheld⟩

end CsmOperator
