import CsmOperator.Go.Memory
import CsmOperator.OperatorUtils.Containers

/-!
# Overriding a container that has a copy

`c := containers[i]` copies the pointers and slices of a container, not what they lead to. A change of
the image or of the pull policy is written through a pointer, and one of an argument into an array, so
that both variables see it; an environment is a new slice, and appended arguments lie behind the length
the copy has, and only the variable that is overridden sees them.
-/

namespace CsmOperator

open Go

/-- What the pointers and slices of containers lead to. -/
structure ContainerMemory where
  images : List String
  pullPolicies : List String
  args : Arrays String

/-- A variable that holds a container. Nothing writes into the environment of one in place. -/
structure ContainerVar where
  name : String
  image : Option Nat
  imagePullPolicy : Option Nat
  args : Slice
  env : List EnvVarApply
  volumeMounts : List VolumeMountApply

/-- The container that the variable shows. -/
def ContainerVar.value (m : ContainerMemory) (v : ContainerVar) : ContainerApply where
  name := v.name
  image := v.image.bind (m.images[·]?)
  imagePullPolicy := v.imagePullPolicy.bind (m.pullPolicies[·]?)
  args := m.args.read v.args
  env := v.env
  volumeMounts := v.volumeMounts

/-- A container as the decoder leaves it, with pointers of its own and some room behind its arguments. -/
def ContainerApply.decoded (c : ContainerApply) (room : List String) : ContainerMemory × ContainerVar :=
  ({ images := c.image.toList
     pullPolicies := c.imagePullPolicy.toList
     args := [c.args ++ room] },
   { name := c.name
     image := c.image.map fun _ => 0
     imagePullPolicy := c.imagePullPolicy.map fun _ => 0
     args := ⟨0, c.args.length⟩
     env := c.env
     volumeMounts := c.volumeMounts })

/-- `*c.Image = image` -/
def ContainerMemory.storeImage (m : ContainerMemory) (v : ContainerVar) (image : Option String) :
    ContainerMemory :=
  match v.image, image with
  | some p, some image => { m with images := m.images.set p image }
  | _, _ => m

/-- `*c.ImagePullPolicy = policy` -/
def ContainerMemory.storePullPolicy (m : ContainerMemory) (v : ContainerVar) (policy : Option String) :
    ContainerMemory :=
  match v.imagePullPolicy, policy with
  | some p, some policy => { m with pullPolicies := m.pullPolicies.set p policy }
  | _, _ => m

/-- The loop of `ReplaceAllArgs`, which writes into the array. -/
def replaceArgsAt (h : Arrays String) (defaultArgs : Slice) :
    List String → List String → Arrays String × List String
  | merge, [] => (h, merge)
  | merge, old :: crArgs =>
    if replacesArg old (h.read defaultArgs) then
      replaceArgsAt
        (h.update defaultArgs fun new => if contains new ((split old '=').headD "") then old else new)
        defaultArgs merge crArgs
    else replaceArgsAt h defaultArgs (merge ++ [old]) crArgs

section

variable (spare : Nat → List String) (cr : ContainerStorageModule) (matched : VersionSpec)

def replaceAllArgsAt (h : Arrays String) (defaultArgs : Slice) (crArgs : List String) :
    Arrays String × Slice :=
  let (h, merge) := replaceArgsAt h defaultArgs [] crArgs
  h.append spare defaultArgs merge

/-- `applyEntry` for the variable. -/
def applyEntryAt (ctr : ContainerTemplate) (m : ContainerMemory) (v : ContainerVar) :
    Option (ContainerMemory × ContainerVar) := do
  let c ← applyImage ctr cr matched (v.value m)
  let m := m.storeImage v c.image
  let c ← applyPullPolicy ctr (v.value m)
  let m := m.storePullPolicy v c.imagePullPolicy
  let env ← replaceAllApplyCustomEnvs v.env [] ctr.envs
  let (args, slice) := replaceAllArgsAt spare m.args v.args ctr.args
  return ({ m with args }, { v with env, args := slice })

/-- `UpdateContainerApply` for the variable. -/
def updateContainerApplyAt (toBeApplied : List ContainerTemplate) (m : ContainerMemory)
    (v : ContainerVar) : Option (ContainerMemory × ContainerVar) :=
  if toBeApplied.any (·.name = v.name) then
    toBeApplied.foldlM
      (fun (m, v) ctr =>
        if v.name = ctr.name then applyEntryAt spare cr matched ctr m v else some (m, v)) (m, v)
  else do
    let c ← applyDefaultImage cr matched (v.value m)
    return (m.storeImage v c.image, v)

/-- `ReplaceAllContainerImageApply` for the variable. -/
def replaceAllContainerImageApplyAt (img : K8sImagesConfig) (m : ContainerMemory) (v : ContainerVar) :
    Option ContainerMemory := do
  let c ← replaceAllContainerImageApply img (v.value m)
  return m.storeImage v c.image

end

/-! ## What the variable shows -/

/-- The pointers and the slice of the variable lead somewhere. -/
structure ContainerVar.Held (m : ContainerMemory) (v : ContainerVar) : Prop where
  image : ∀ p ∈ v.image, p < m.images.length
  imagePullPolicy : ∀ p ∈ v.imagePullPolicy, p < m.pullPolicies.length
  args : m.args.Valid v.args

theorem ContainerApply.value_decoded (c : ContainerApply) (room : List String) :
    (c.decoded room).2.value (c.decoded room).1 = c := by
  have hargs : Arrays.read [c.args ++ room] ⟨0, c.args.length⟩ = c.args := List.take_left' rfl
  obtain ⟨name, image, policy, args, env, mounts⟩ := c
  cases image <;> cases policy <;> simp_all [ContainerApply.decoded, ContainerVar.value]

theorem ContainerApply.held_decoded (c : ContainerApply) (room : List String) :
    (c.decoded room).2.Held (c.decoded room).1 where
  image := by cases h : c.image <;> simp [ContainerApply.decoded, h]
  imagePullPolicy := by cases h : c.imagePullPolicy <;> simp [ContainerApply.decoded, h]
  args := ⟨Nat.zero_lt_one, by simp [ContainerApply.decoded, Arrays.array]⟩

section Stores

variable {m : ContainerMemory} {v t : ContainerVar} {x : Option String}

theorem ContainerVar.Held.storeImage (ht : t.Held m) : t.Held (m.storeImage v x) := by
  unfold ContainerMemory.storeImage
  split
  · exact ⟨by simpa using ht.image, ht.imagePullPolicy, ht.args⟩
  · exact ht

theorem ContainerVar.Held.storePullPolicy (ht : t.Held m) : t.Held (m.storePullPolicy v x) := by
  unfold ContainerMemory.storePullPolicy
  split
  · exact ⟨ht.image, by simpa using ht.imagePullPolicy, ht.args⟩
  · exact ht

/-- Storing an image through the pointer shows it, where there is a pointer to store it through. -/
theorem ContainerVar.Held.value_storeImage (hv : v.Held m) (hx : x.isSome = (v.value m).image.isSome) :
    v.value (m.storeImage v x) = { v.value m with image := x } := by
  obtain ⟨name, image, policy, args, env, mounts⟩ := v
  cases image with
  | none =>
      have hnone : x = none := by simpa [ContainerVar.value] using hx
      simp [ContainerMemory.storeImage, ContainerVar.value, hnone]
  | some p =>
      have hp : p < m.images.length := hv.image p rfl
      have hsome : x.isSome := by simpa [ContainerVar.value, List.getElem?_eq_getElem hp] using hx
      obtain ⟨image, rfl⟩ := Option.isSome_iff_exists.mp hsome
      simp [ContainerMemory.storeImage, ContainerVar.value, List.getElem?_set_self hp]

theorem ContainerVar.Held.value_storePullPolicy (hv : v.Held m)
    (hx : x.isSome = (v.value m).imagePullPolicy.isSome) :
    v.value (m.storePullPolicy v x) = { v.value m with imagePullPolicy := x } := by
  obtain ⟨name, image, policy, args, env, mounts⟩ := v
  cases policy with
  | none =>
      have hnone : x = none := by simpa [ContainerVar.value] using hx
      simp [ContainerMemory.storePullPolicy, ContainerVar.value, hnone]
  | some p =>
      have hp : p < m.pullPolicies.length := hv.imagePullPolicy p rfl
      have hsome : x.isSome := by simpa [ContainerVar.value, List.getElem?_eq_getElem hp] using hx
      obtain ⟨policy, rfl⟩ := Option.isSome_iff_exists.mp hsome
      simp [ContainerMemory.storePullPolicy, ContainerVar.value, List.getElem?_set_self hp]

end Stores

/-! ## Arguments -/

section Args

variable {h : Arrays String} {s t : Slice}

theorem replaceArgsAt_valid (ht : h.Valid t) (crArgs merge : List String) :
    (replaceArgsAt h s merge crArgs).1.Valid t := by
  induction crArgs generalizing h merge with
  | nil => exact ht
  | cons old crArgs ih =>
      unfold replaceArgsAt
      split
      · exact ih (ht.update _) merge
      · exact ih ht _

theorem replaceArgsAt_eq (hs : h.Valid s) (crArgs merge : List String) :
    ((replaceArgsAt h s merge crArgs).1.read s, (replaceArgsAt h s merge crArgs).2) =
      replaceArgs (h.read s) merge crArgs := by
  induction crArgs generalizing h merge with
  | nil => rfl
  | cons old crArgs ih =>
      unfold replaceArgsAt replaceArgs
      split
      · rw [ih (hs.update _), Arrays.read_update hs]
        rfl
      · exact ih hs _

variable (spare : Nat → List String) (crArgs : List String)

theorem replaceAllArgsAt_valid (ht : h.Valid t) :
    (replaceAllArgsAt spare h s crArgs).1.Valid t :=
  (replaceArgsAt_valid ht crArgs []).append _ _

theorem replaceAllArgsAt_valid_self (hs : h.Valid s) :
    (replaceAllArgsAt spare h s crArgs).1.Valid (replaceAllArgsAt spare h s crArgs).2 :=
  (replaceArgsAt_valid hs crArgs []).appended _ _

theorem read_replaceAllArgsAt (hs : h.Valid s) :
    (replaceAllArgsAt spare h s crArgs).1.read (replaceAllArgsAt spare h s crArgs).2 =
      replaceAllArgs (h.read s) crArgs := by
  have heq := replaceArgsAt_eq hs crArgs []
  refine (Arrays.read_append spare _ (replaceArgsAt_valid hs crArgs [])).trans ?_
  unfold replaceAllArgs
  rw [← heq]

/-- The arguments stay the slice they are, or get longer. -/
theorem replaceAllArgsAt_slice (hs : h.Valid s) :
    (replaceAllArgsAt spare h s crArgs).2 = s ∨ s.len < (replaceAllArgsAt spare h s crArgs).2.len := by
  have hvalid := replaceArgsAt_valid (s := s) hs crArgs []
  unfold replaceAllArgsAt
  dsimp only
  cases (replaceArgsAt h s [] crArgs).2 with
  | nil => exact .inl (Arrays.append_nil spare hvalid)
  | cons arg merge =>
      refine .inr ?_
      rw [Arrays.append_len, List.length_cons]
      omega

end Args

/-! ## One variable is overridden -/

/-- What overriding `v` does to the memory: other variables keep leading somewhere, and `v` keeps its
pointers and, unless it gets more arguments, its slice. -/
structure ContainerVar.Overrides (m : ContainerMemory) (v : ContainerVar) (m' : ContainerMemory)
    (v' : ContainerVar) : Prop where
  keeps : ∀ t : ContainerVar, t.Held m → t.Held m'
  held : v'.Held m'
  same : v' = { v with env := v'.env, args := v'.args }
  args : v'.args = v.args ∨ v.args.len < v'.args.len

namespace ContainerVar.Overrides

variable {m m₁ m₂ : ContainerMemory} {v v₁ v₂ : ContainerVar}

theorem refl (hv : v.Held m) : Overrides m v m v := ⟨fun _ h => h, hv, rfl, .inl rfl⟩

theorem trans (h₁ : Overrides m v m₁ v₁) (h₂ : Overrides m₁ v₁ m₂ v₂) : Overrides m v m₂ v₂ where
  keeps t ht := h₂.keeps t (h₁.keeps t ht)
  held := h₂.held
  same := by
    rw [h₂.same, h₁.same]
  args := by
    rcases h₁.args with h | h <;> rcases h₂.args with h' | h'
    · exact .inl (h'.trans h)
    · exact .inr (h ▸ h')
    · exact .inr (h' ▸ h)
    · exact .inr (h.trans h')

/-- The old variable shows the same container if the environment is the same and no argument came. -/
theorem value_eq_iff (h : Overrides m v m₁ v₁) (hv : v.Held m) :
    v.value m₁ = v₁.value m₁ ↔
      (v₁.value m₁).env = (v.value m).env ∧
        (v₁.value m₁).args.length = (v.value m).args.length := by
  have hold : (v.value m).args.length = v.args.len := hv.args.length_read
  have hnew : (v₁.value m₁).args.length = v₁.args.len := h.held.args.length_read
  constructor
  · intro heq
    refine ⟨(congrArg ContainerApply.env heq).symm, ?_⟩
    have hseen : (v.value m₁).args.length = v.args.len := (h.keeps v hv).args.length_read
    rw [hold, ← heq, hseen]
  · rintro ⟨henv, hlength⟩
    have hargs : v₁.args = v.args := h.args.resolve_right (by omega)
    have hsame : v₁ = v := by
      have henv' : v₁.env = v.env := henv
      rw [h.same, henv', hargs]
    rw [hsame]

end ContainerVar.Overrides

section Overriding

variable {m m' : ContainerMemory} {v v' : ContainerVar}

theorem ContainerVar.Overrides.storeImage (hv : v.Held m) (x : Option String) :
    Overrides m v (m.storeImage v x) v :=
  ⟨fun _ ht => ht.storeImage, hv.storeImage, rfl, .inl rfl⟩

theorem ContainerVar.Overrides.storePullPolicy (hv : v.Held m) (x : Option String) :
    Overrides m v (m.storePullPolicy v x) v :=
  ⟨fun _ ht => ht.storePullPolicy, hv.storePullPolicy, rfl, .inl rfl⟩

theorem ContainerVar.Overrides.replaceArgs (hv : v.Held m) (spare : Nat → List String)
    (env : List EnvVarApply) (crArgs : List String) :
    Overrides m v { m with args := (replaceAllArgsAt spare m.args v.args crArgs).1 }
      { v with env, args := (replaceAllArgsAt spare m.args v.args crArgs).2 } where
  keeps _ ht := ⟨ht.image, ht.imagePullPolicy, replaceAllArgsAt_valid spare crArgs ht.args⟩
  held := ⟨hv.image, hv.imagePullPolicy, replaceAllArgsAt_valid_self spare crArgs hv.args⟩
  same := rfl
  args := replaceAllArgsAt_slice spare crArgs hv.args

variable {spare : Nat → List String} {cr : ContainerStorageModule} {matched : VersionSpec}

theorem applyEntryAt_spec {ctr : ContainerTemplate} (hv : v.Held m)
    (h : applyEntryAt spare cr matched ctr m v = some (m', v')) :
    applyEntry ctr cr matched (v.value m) = some (v'.value m') ∧
      ContainerVar.Overrides m v m' v' := by
  unfold applyEntryAt at h
  obtain ⟨c₁, hc₁, h⟩ := Option.bind_eq_some_iff.mp h
  obtain ⟨c₂, hc₂, h⟩ := Option.bind_eq_some_iff.mp h
  obtain ⟨env, henv, h⟩ := Option.bind_eq_some_iff.mp h
  cases h
  have hv₁ : v.Held (m.storeImage v c₁.image) := hv.storeImage
  have hvalue₁ : v.value (m.storeImage v c₁.image) = c₁ :=
    (hv.value_storeImage (applyImage_isSome hc₁)).trans (applyImage_same hc₁).symm
  have hvalue₂ : v.value ((m.storeImage v c₁.image).storePullPolicy v c₂.imagePullPolicy) = c₂ :=
    (hv₁.value_storePullPolicy (applyPullPolicy_isSome hc₂)).trans (applyPullPolicy_eq hc₂).symm
  have hv₂ : v.Held ((m.storeImage v c₁.image).storePullPolicy v c₂.imagePullPolicy) :=
    hv₁.storePullPolicy
  refine ⟨?_, ((ContainerVar.Overrides.storeImage hv _).trans
    (.storePullPolicy hv₁ _)).trans (.replaceArgs hv₂ spare env ctr.args)⟩
  rw [hvalue₁] at hc₂
  generalize (m.storeImage v c₁.image).storePullPolicy v c₂.imagePullPolicy = m₂ at hvalue₂ hv₂ ⊢
  subst hvalue₂
  have henv₂ : replaceAllApplyCustomEnvs (v.value m₂).env [] ctr.envs = some env := henv
  unfold applyEntry
  rw [hc₁, Option.bind_eq_bind, Option.bind_some, hc₂, Option.bind_eq_bind, Option.bind_some, henv₂]
  exact congrArg (fun args => some { v.value m₂ with env, args })
    (read_replaceAllArgsAt spare ctr.args hv₂.args).symm

/-- One round of the loop over the entries. -/
theorem applyIfNamedAt_spec {ctr : ContainerTemplate} (hv : v.Held m)
    (h : (if v.name = ctr.name then applyEntryAt spare cr matched ctr m v else some (m, v)) =
      some (m', v')) :
    (if (v.value m).name = ctr.name then applyEntry ctr cr matched (v.value m)
      else some (v.value m)) = some (v'.value m') ∧ ContainerVar.Overrides m v m' v' := by
  have hname : (v.value m).name = v.name := rfl
  rw [hname]
  split at h
  · next hctr =>
      rw [if_pos hctr]
      exact applyEntryAt_spec hv h
  · next hctr =>
      cases h
      rw [if_neg hctr]
      exact ⟨rfl, .refl hv⟩

/-- The variable shows what the entries make of the container. -/
theorem updateContainerApplyAt_spec {entries : List ContainerTemplate} (hv : v.Held m)
    (h : updateContainerApplyAt spare cr matched entries m v = some (m', v')) :
    updateContainerApply entries cr matched (v.value m) = some (v'.value m') ∧
      ContainerVar.Overrides m v m' v' := by
  have hname : (v.value m).name = v.name := rfl
  unfold updateContainerApplyAt at h
  unfold updateContainerApply
  rw [hname]
  split at h
  · next hany =>
      rw [if_pos hany]
      clear * - h hv
      -- every round overrides the variable that the round before left
      induction entries generalizing m v with
      | nil => cases h; exact ⟨rfl, .refl hv⟩
      | cons ctr entries ih =>
          rw [List.foldlM_cons] at h ⊢
          obtain ⟨⟨m₁, v₁⟩, h₁, h⟩ := Option.bind_eq_some_iff.mp h
          obtain ⟨hround, hover⟩ := applyIfNamedAt_spec hv h₁
          obtain ⟨hentries, hmore⟩ := ih hover.held h
          rw [hround]
          exact ⟨hentries, hover.trans hmore⟩
  · next hany =>
      rw [if_neg hany]
      obtain ⟨c, hc, h⟩ := Option.bind_eq_some_iff.mp h
      cases h
      refine ⟨?_, .storeImage hv _⟩
      rw [hc, hv.value_storeImage (applyDefaultImage_isSome hc)]
      exact congrArg some (applyDefaultImage_same hc)

theorem replaceAllContainerImageApplyAt_spec {img : K8sImagesConfig} (hv : v.Held m)
    (h : replaceAllContainerImageApplyAt img m v = some m') :
    replaceAllContainerImageApply img (v.value m) = some (v.value m') ∧
      ContainerVar.Overrides m v m' v := by
  obtain ⟨c, hc, h⟩ := Option.bind_eq_some_iff.mp h
  cases h
  obtain ⟨hsame, hsome⟩ := replaceAllContainerImageApply_same hc
  refine ⟨?_, .storeImage hv _⟩
  rw [hc, hv.value_storeImage hsome]
  exact congrArg some hsame

end Overriding

end CsmOperator
