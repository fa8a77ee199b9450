import CsmOperator.Drivers.CommonConfig
import Mathlib.Logic.Function.Iterate

/-!
# Which image a container gets

An image that the ConfigMap has for the version of the CR comes first, then the image of the template in
the custom registry, then the image that the CR names, and last the image of the template. Moving an image
to the registry twice is not the same as moving it once when the path of the image is retained.
-/

namespace CsmOperator

open Go

/-- The image the ConfigMap has for the key; a specification without a version matches nothing. -/
def VersionSpec.matchedImage (matched : VersionSpec) (key : String) : String :=
  if matched.version = "" then "" else matched.image key

/-- The image of a container when a template's image is moved to the registry `n` times. -/
def overriddenImage (cr : ContainerStorageModule) (matchedImage explicit : String) (n : Nat)
    (image : Option String) : Option String :=
  if matchedImage ≠ "" then some matchedImage
  else if cr.spec.customRegistry ≠ "" then image.map fun image => (resolveImage · cr)^[n] image
  else if explicit ≠ "" then some explicit
  else image

/-- The image by priority: the registry is resolved once. -/
def priorityImage (cr : ContainerStorageModule) (matchedImage explicit : String)
    (image : Option String) : Option String := overriddenImage cr matchedImage explicit 1 image

/-- Moving the image to the registry `n` times is moving it there once. -/
def ResolvesOnce (cr : ContainerStorageModule) (n : Nat) (image : Option String) : Prop :=
  (image.map fun image => (resolveImage · cr)^[n] image) = image.map (resolveImage · cr)

/-- The last image that an entry of the name has. -/
def explicitImage (name : String) : List ContainerTemplate → String
  | [] => ""
  | ctr :: entries =>
    if explicitImage name entries ≠ "" then explicitImage name entries
    else if ctr.name = name then ctr.image else ""

theorem explicitImage_cons_of_eq {name : String} {ctr : ContainerTemplate} (h : ctr.name = name)
    (entries : List ContainerTemplate) :
    explicitImage name (ctr :: entries) =
      if explicitImage name entries ≠ "" then explicitImage name entries else ctr.image := by
  rw [explicitImage, if_pos h]

theorem explicitImage_cons_of_ne {name : String} {ctr : ContainerTemplate} (h : ctr.name ≠ name)
    (entries : List ContainerTemplate) :
    explicitImage name (ctr :: entries) = explicitImage name entries := by
  rw [explicitImage, if_neg h]
  split_ifs with hlater
  · rfl
  · exact (not_not.mp hlater).symm

theorem explicitImage_of_count_zero {name : String} {entries : List ContainerTemplate}
    (h : entries.countP (·.name = name) = 0) : explicitImage name entries = "" := by
  induction entries with
  | nil => rfl
  | cons ctr entries ih =>
      rw [List.countP_eq_zero] at h
      have hctr : ctr.name ≠ name := by simpa using h ctr List.mem_cons_self
      rw [explicitImage_cons_of_ne hctr]
      exact ih (List.countP_eq_zero.mpr fun e he => h e (List.mem_cons_of_mem _ he))

section Priority

variable {cr : ContainerStorageModule} {m e : String} {n : Nat} {t : Option String}

theorem resolveImage_of_no_registry (h : cr.spec.customRegistry = "") (image : String) :
    resolveImage image cr = image := by
  have htrim : trimSpace cr.spec.customRegistry = "" := by rw [h]; rfl
  unfold resolveImage
  rw [if_pos htrim]

theorem resolvesOnce_of_no_registry (h : cr.spec.customRegistry = "") : ResolvesOnce cr n t := by
  have hid : (resolveImage · cr) = id := funext (resolveImage_of_no_registry h)
  unfold ResolvesOnce
  rw [hid, Function.iterate_id]

theorem resolvesOnce_one : ResolvesOnce cr 1 t := by
  unfold ResolvesOnce
  rw [Function.iterate_one]

/-- The image has its priority if there is a matched one, or if resolving it again changes nothing. -/
theorem overriddenImage_eq_priority_iff :
    overriddenImage cr m e n t = priorityImage cr m e t ↔ (m = "" → ResolvesOnce cr n t) := by
  unfold priorityImage overriddenImage
  by_cases hm : m = ""
  · rw [if_neg (not_not.mpr hm), if_neg (not_not.mpr hm)]
    by_cases hreg : cr.spec.customRegistry = ""
    · rw [if_neg (not_not.mpr hreg), if_neg (not_not.mpr hreg)]
      exact iff_of_true rfl fun _ => resolvesOnce_of_no_registry hreg
    · rw [if_pos hreg, if_pos hreg, Function.iterate_one]
      exact ⟨fun h _ => h, fun h => h hm⟩
  · rw [if_pos hm, if_pos hm]
    exact iff_of_true rfl fun h => absurd h hm

/-- What a second round makes of the image. -/
theorem overriddenImage_overriddenImage (e' : String) (n' : Nat) :
    overriddenImage cr m e' n' (overriddenImage cr m e n t) =
      overriddenImage cr m (if e' ≠ "" then e' else e) (n' + n) t := by
  unfold overriddenImage
  by_cases hm : m = ""
  · by_cases hreg : cr.spec.customRegistry = ""
    · by_cases he' : e' = "" <;> simp [hm, hreg, he']
    · simp only [hm, hreg, ne_eq, not_true_eq_false, not_false_eq_true, if_true, if_false,
        Option.map_map, Function.iterate_add]
  · simp [hm]

end Priority

/-! ## Overriding a container -/

/-- How often the entries resolve the image of a container of the name. -/
def timesResolved (name : String) (entries : List ContainerTemplate) : Nat :=
  max 1 (entries.countP (·.name = name))

/-- The image a container of the template starts from: the default of the Kubernetes version, if any. -/
def defaultImage (k8sVersion : K8sImagesConfig) (c : ContainerApply) : Option String :=
  (k8sVersion.imageFor c.name).or c.image

section Override

variable {cr : ContainerStorageModule} {matched : VersionSpec} {c c' : ContainerApply}

theorem matchedImage_ne_iff {key : String} :
    matched.matchedImage key ≠ "" ↔ matched.version ≠ "" ∧ matched.image key ≠ "" := by
  unfold VersionSpec.matchedImage
  split_ifs with h <;> simp [h]

theorem matchedImage_eq_image {key : String} (h : matched.matchedImage key ≠ "") :
    matched.matchedImage key = matched.image key := by
  unfold VersionSpec.matchedImage at h ⊢
  split_ifs at h ⊢ with hversion
  · exact absurd rfl h
  · rfl

theorem replaceAllContainerImageApply_image {k8sVersion : K8sImagesConfig}
    (h : replaceAllContainerImageApply k8sVersion c = some c') : c'.image = defaultImage k8sVersion c := by
  unfold replaceAllContainerImageApply at h
  unfold defaultImage
  split at h
  · next image himage =>
      rw [ContainerApply.storeImage_eq h, himage]
      rfl
  · next himage =>
      cases h
      rw [himage]
      rfl

theorem applyImage_image {ctr : ContainerTemplate} (h : applyImage ctr cr matched c = some c') :
    c'.image = overriddenImage cr (matched.matchedImage ctr.name) ctr.image 1 c.image := by
  unfold applyImage at h
  unfold overriddenImage
  split_ifs at h with hmatched hregistry himage
  · rw [ContainerApply.storeImage_eq h, if_pos (matchedImage_ne_iff.mpr hmatched),
      matchedImage_eq_image (matchedImage_ne_iff.mpr hmatched)]
  all_goals
    rw [if_neg fun hne => hmatched (matchedImage_ne_iff.mp hne)]
  · obtain ⟨image, himage, rfl⟩ := ContainerApply.storeResolved_eq h
    rw [if_pos hregistry, himage, Function.iterate_one]
    rfl
  · rw [ContainerApply.storeImage_eq h, if_neg hregistry, if_pos himage]
  · cases h
    rw [if_neg hregistry, if_neg himage]

theorem applyDefaultImage_image (h : applyDefaultImage cr matched c = some c') :
    c'.image = overriddenImage cr (matched.matchedImage c.name) "" 1 c.image := by
  unfold applyDefaultImage at h
  unfold overriddenImage
  split_ifs at h with hmatched hregistry
  · rw [ContainerApply.storeImage_eq h, if_pos (matchedImage_ne_iff.mpr hmatched),
      matchedImage_eq_image (matchedImage_ne_iff.mpr hmatched)]
  all_goals
    rw [if_neg fun hne => hmatched (matchedImage_ne_iff.mp hne)]
  · obtain ⟨image, himage, rfl⟩ := ContainerApply.storeResolved_eq h
    rw [if_pos hregistry, himage, Function.iterate_one]
    rfl
  · cases h
    rw [if_neg hregistry, if_neg (not_not.mpr rfl)]

theorem applyEntry_image {ctr : ContainerTemplate} (h : applyEntry ctr cr matched c = some c') :
    c'.image = overriddenImage cr (matched.matchedImage ctr.name) ctr.image 1 c.image := by
  unfold applyEntry at h
  obtain ⟨c₁, h₁, h⟩ := Option.bind_eq_some_iff.mp h
  obtain ⟨c₂, h₂, h⟩ := Option.bind_eq_some_iff.mp h
  obtain ⟨env, -, h⟩ := Option.bind_eq_some_iff.mp h
  cases h
  rw [← applyImage_image h₁, applyPullPolicy_eq h₂]

/-- The loop over the entries resolves the image once for each entry of the name. -/
theorem entries_image {entries : List ContainerTemplate}
    (h : entries.foldlM
      (fun c ctr => if c.name = ctr.name then applyEntry ctr cr matched c else some c) c = some c') :
    c'.image = if entries.countP (·.name = c.name) = 0 then c.image
      else overriddenImage cr (matched.matchedImage c.name) (explicitImage c.name entries)
        (entries.countP (·.name = c.name)) c.image := by
  induction entries generalizing c with
  | nil => cases h; rfl
  | cons ctr entries ih =>
      rw [List.foldlM_cons] at h
      obtain ⟨c₁, h₁, h⟩ := Option.bind_eq_some_iff.mp h
      have hrest := ih h
      split at h₁
      · next hname =>
          have himage := applyEntry_image h₁
          have hcount : (ctr :: entries).countP (·.name = c.name) =
              entries.countP (·.name = c.name) + 1 := by
            rw [List.countP_cons_of_pos (by simpa using hname.symm)]
          rw [(applyEntry_frame h₁).1, himage, ← hname] at hrest
          rw [hrest, hcount, if_neg (Nat.succ_ne_zero _), explicitImage_cons_of_eq hname.symm]
          split_ifs with hnone hlater hlater
          · exact absurd (explicitImage_of_count_zero hnone) hlater
          · rw [hnone]
          · rw [overriddenImage_overriddenImage, if_pos hlater]
          · rw [overriddenImage_overriddenImage, if_neg hlater]
      · next hname =>
          cases h₁
          rw [hrest, List.countP_cons_of_neg (by simpa using Ne.symm hname),
            explicitImage_cons_of_ne (Ne.symm hname)]

/-- The image of a container that has been overridden. -/
theorem updateContainerApply_image {entries : List ContainerTemplate}
    (h : updateContainerApply entries cr matched c = some c') :
    c'.image = overriddenImage cr (matched.matchedImage c.name) (explicitImage c.name entries)
      (timesResolved c.name entries) c.image := by
  unfold updateContainerApply at h
  unfold timesResolved
  split at h
  · next hany =>
      have hpos : 0 < entries.countP (·.name = c.name) := by
        simpa [List.countP_pos_iff] using hany
      rw [entries_image h, if_neg (Nat.pos_iff_ne_zero.mp hpos), Nat.max_eq_right hpos]
  · next hany =>
      have hnone : entries.countP (·.name = c.name) = 0 := by
        simpa [List.countP_eq_zero] using hany
      rw [applyDefaultImage_image h, hnone, explicitImage_of_count_zero hnone]
      rfl

end Override

end CsmOperator
