import CsmOperator.OperatorUtils.Version
import Mathlib.Data.List.Forall2

/-!
# Default components

`LoadDefaultComponents` looks for a default component in the first Observability entry and appends a
missing one to all of them. So the entries all get the same components, which are those that the first
one lacks, and a second call finds nothing missing.
-/

namespace CsmOperator

/-- The entry with the components appended, if it is one of Observability. -/
def Module.withComponents (added : List ContainerTemplate) (m : Module) : Module :=
  if m.name = .observability then { m with components := m.components ++ added } else m

/-- The CR with the components appended to every Observability entry. -/
def withComponents (cr : ContainerStorageModule) (added : List ContainerTemplate) :
    ContainerStorageModule :=
  { cr with spec := { cr.spec with modules := cr.spec.modules.map (·.withComponents added) } }

/-- One round of the loop. -/
def addIfMissing (cr : ContainerStorageModule) (comp : ContainerTemplate) : ContainerStorageModule :=
  if hasModuleComponent cr .observability comp.name then cr
  else addModuleComponent cr .observability comp

section

variable {cr cr' : ContainerStorageModule} {added comps : List ContainerTemplate}

@[simp] theorem Module.withComponents_name (m : Module) : (m.withComponents added).name = m.name := by
  unfold Module.withComponents
  split <;> rfl

@[simp] theorem Module.withComponents_enabled (m : Module) :
    (m.withComponents added).enabled = m.enabled := by
  unfold Module.withComponents
  split <;> rfl

theorem Module.prefix_withComponents (m : Module) :
    m.components <+: (m.withComponents added).components := by
  unfold Module.withComponents
  split
  · exact List.prefix_append _ _
  · exact List.prefix_rfl

theorem withComponents_nil : withComponents cr [] = cr := by
  have hsame : (fun m : Module => m.withComponents []) = id := by
    funext m
    simp [Module.withComponents]
  unfold withComponents
  rw [hsame, List.map_id]

theorem addModuleComponent_withComponents (comp : ContainerTemplate) :
    addModuleComponent (withComponents cr added) .observability comp =
      withComponents cr (added ++ [comp]) := by
  unfold addModuleComponent withComponents
  simp only [List.map_map]
  congr 3
  funext m
  by_cases hname : m.name = .observability <;> simp [Module.withComponents, hname]

/-- The first Observability entry has the components of before and those that were appended. -/
theorem hasModuleComponent_withComponents (hobs : cr.hasModule .observability = true) (name : String) :
    hasModuleComponent (withComponents cr added) .observability name =
      (hasModuleComponent cr .observability name || added.any (·.name = name)) := by
  unfold hasModuleComponent ContainerStorageModule.getModule withComponents
  unfold ContainerStorageModule.hasModule at hobs
  dsimp only
  generalize cr.spec.modules = modules at hobs ⊢
  induction modules with
  | nil => cases hobs
  | cons m modules ih =>
      by_cases hname : m.name = .observability
      · simp [Module.withComponents, hname]
      · have hrest : modules.any (fun m => decide (m.name = .observability)) = true := by
          simpa [hname] using hobs
        simpa [hname] using ih hrest

/-- The loop appends components to all entries, and leaves none of the names missing. -/
theorem foldl_addIfMissing (hobs : cr.hasModule .observability = true)
    (comps added : List ContainerTemplate) :
    ∃ more, comps.foldl addIfMissing (withComponents cr added) = withComponents cr (added ++ more) ∧
      ∀ comp ∈ comps,
        hasModuleComponent (withComponents cr (added ++ more)) .observability comp.name = true := by
  induction comps generalizing added with
  | nil => exact ⟨[], by simp, by simp⟩
  | cons comp comps ih =>
      rw [List.foldl_cons]
      by_cases hhas : hasModuleComponent (withComponents cr added) .observability comp.name = true
      · -- the component is there already, and stays there
        obtain ⟨more, hfold, hall⟩ := ih added
        refine ⟨more, by rw [addIfMissing, if_pos hhas, hfold], ?_⟩
        rintro c (_ | ⟨_, hc⟩)
        · rw [hasModuleComponent_withComponents hobs] at hhas ⊢
          grind
        · exact hall c hc
      · obtain ⟨more, hfold, hall⟩ := ih (added ++ [comp])
        refine ⟨comp :: more, ?_, ?_⟩
        · rw [addIfMissing, if_neg hhas, addModuleComponent_withComponents, hfold]
          simp
        · rintro c (_ | ⟨_, hc⟩)
          · rw [hasModuleComponent_withComponents hobs]
            simp
          · simpa using hall c hc

/-- Where nothing is missing, the loop does nothing. -/
theorem foldl_addIfMissing_eq_self
    (h : ∀ comp ∈ comps, hasModuleComponent cr .observability comp.name = true) :
    comps.foldl addIfMissing cr = cr := by
  induction comps with
  | nil => rfl
  | cons comp comps ih =>
      rw [List.foldl_cons, addIfMissing, if_pos (h comp List.mem_cons_self)]
      exact ih fun c hc => h c (List.mem_cons_of_mem _ hc)

/-! ## What the call does -/

theorem hasModule_withComponents (mod : ModuleType) :
    (withComponents cr added).hasModule mod = cr.hasModule mod := by
  simp [ContainerStorageModule.hasModule, withComponents, Function.comp_def]

theorem isModuleEnabled_withComponents (mod : ModuleType) :
    (isModuleEnabled (withComponents cr added) mod).isSome = (isModuleEnabled cr mod).isSome := by
  simp [isModuleEnabled, withComponents, List.find?_map, Function.comp_def]

theorem hasModule_of_enabled {mod : ModuleType} (h : (isModuleEnabled cr mod).isSome = true) :
    cr.hasModule mod = true := by
  unfold isModuleEnabled at h
  rw [List.find?_isSome] at h
  obtain ⟨m, hm, hp⟩ := h
  have hname : m.name = mod := by simp at hp; exact hp.1
  exact List.any_eq_true.mpr ⟨m, hm, by simp [hname]⟩

/-- A call that succeeds changes nothing, or appends what is missing to the Observability entries. -/
theorem loadDefaultComponents_cases {op : OperatorConfig} (h : loadDefaultComponents op cr = .ok cr') :
    ((isModuleEnabled cr .observability).isSome = false ∧ cr' = cr) ∨
      ∃ comps more, getDefaultComponents op cr.getDriverType .observability = .ok comps ∧
        cr' = withComponents cr more ∧
        ∀ comp ∈ comps, hasModuleComponent cr' .observability comp.name = true := by
  unfold loadDefaultComponents at h
  split at h
  · next hobs =>
      split at h
      · cases h
      · next comps hcomps =>
          split at h
          · cases h
            obtain ⟨more, hfold, hall⟩ := foldl_addIfMissing hobs comps []
            rw [withComponents_nil, List.nil_append] at hfold
            rw [List.nil_append] at hall
            refine .inr ⟨comps, more, hcomps, hfold, ?_⟩
            show ∀ comp ∈ comps,
              hasModuleComponent (comps.foldl addIfMissing cr) .observability comp.name = true
            rw [hfold]
            exact hall
          · next hdisabled =>
              cases h
              exact .inl ⟨by simpa using hdisabled, rfl⟩
  · next hobs =>
      cases h
      refine .inl ⟨?_, rfl⟩
      by_contra henabled
      exact hobs (hasModule_of_enabled (eq_true_of_ne_false henabled))

/-- Where every default component is there, the call changes nothing. -/
theorem loadDefaultComponents_eq_self {op : OperatorConfig} {comps : List ContainerTemplate}
    (hcomps : getDefaultComponents op cr.getDriverType .observability = .ok comps)
    (h : ∀ comp ∈ comps, hasModuleComponent cr .observability comp.name = true) :
    loadDefaultComponents op cr = .ok cr := by
  have hfold := foldl_addIfMissing_eq_self h
  unfold loadDefaultComponents
  rw [hcomps]
  dsimp only
  split_ifs
  · exact congrArg Except.ok hfold
  · rfl
  · rfl

/-- A module entry of before and what became of it. -/
structure Module.Extends (m m' : Module) : Prop where
  components : m.components <+: m'.components
  others : m' = { m with components := m'.components }
  unchanged : m.name ≠ .observability → m' = m

theorem Module.extends_withComponents (m : Module) : m.Extends (m.withComponents added) where
  components := m.prefix_withComponents
  others := by
    unfold Module.withComponents
    split <;> rfl
  unchanged hname := by
    unfold Module.withComponents
    rw [if_neg hname]

/-- Loading default components extends the Observability entries only, leaves the first one with a
component of every default name if one of them is enabled, and does nothing the second time. -/
theorem loadDefaultComponents_complete {op : OperatorConfig}
    (h : loadDefaultComponents op cr = .ok cr') :
    List.Forall₂ Module.Extends cr.spec.modules cr'.spec.modules ∧
      ((isModuleEnabled cr .observability).isSome = true →
        ∃ comps, getDefaultComponents op cr.getDriverType .observability = .ok comps ∧
          ∀ comp ∈ comps, hasModuleComponent cr' .observability comp.name = true) ∧
      loadDefaultComponents op cr' = .ok cr' := by
  rcases loadDefaultComponents_cases h with ⟨hdisabled, rfl⟩ | ⟨comps, more, hcomps, rfl, hall⟩
  · refine ⟨List.forall₂_same.mpr fun m _ => ⟨List.prefix_rfl, rfl, fun _ => rfl⟩, ?_, h⟩
    intro henabled
    rw [hdisabled] at henabled
    cases henabled
  · refine ⟨?_, fun _ => ⟨comps, hcomps, hall⟩, loadDefaultComponents_eq_self hcomps hall⟩
    show List.Forall₂ Module.Extends cr.spec.modules (cr.spec.modules.map (·.withComponents more))
    rw [List.forall₂_map_right_iff]
    exact List.forall₂_same.mpr fun m _ => m.extends_withComponents

end

/-! ### Two Observability entries -/

/-- A directory whose default components are the topology and the metrics of the driver. -/
def topologyAndMetrics : OperatorConfig where
  isOpenShift := false
  configDirectory := ""
  versionMapping _ := .ok []
  upgradePath _ := .ok ""
  defaultModules _ := .ok
    [{ name := .observability, enabled := true,
       components := [{ name := "topology" }, { name := "metrics-<CSI_DRIVER_TYPE>" }] }]

/-- The first entry is off and has the topology, the second one is on. -/
def twoObservability (first second : List ContainerTemplate) : ContainerStorageModule :=
  { spec := { driver := { csiDriverType := .powerScale }, modules :=
      [{ name := .observability, enabled := false, components := first },
       { name := .observability, enabled := true, components := second }] } }

theorem loadDefaultComponents_complete_twice :
    loadDefaultComponents topologyAndMetrics (twoObservability [{ name := "topology" }] []) =
        .ok (twoObservability [{ name := "topology" }, { name := "metrics-powerscale" }]
          [{ name := "metrics-powerscale" }]) ∧
      loadDefaultComponents topologyAndMetrics
          (twoObservability [{ name := "topology" }, { name := "metrics-powerscale" }]
            [{ name := "metrics-powerscale" }]) =
        .ok (twoObservability [{ name := "topology" }, { name := "metrics-powerscale" }]
          [{ name := "metrics-powerscale" }]) := by
  have h : loadDefaultComponents topologyAndMetrics (twoObservability [{ name := "topology" }] []) =
      .ok (twoObservability [{ name := "topology" }, { name := "metrics-powerscale" }]
        [{ name := "metrics-powerscale" }]) := by
    rfl
  exact ⟨h, (loadDefaultComponents_complete h).2.2⟩

end CsmOperator
