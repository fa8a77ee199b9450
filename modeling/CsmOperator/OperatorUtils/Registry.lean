import CsmOperator.Go.Pieces
import CsmOperator.OperatorUtils.Containers
import CsmOperator.World.Cluster

/-!
# Custom registries

`ValidateCustomRegistry` looks at a copy of the registry from which slashes were trimmed and to which a
scheme was added; `ResolveImage` puts the registry as it stands before the path of an image. This module
says for which registries and images the result is the reference that is meant.
-/

namespace CsmOperator

open Go

/-! ## Image references -/

/-- A component of a reference. -/
def IsComponent (s : String) : Prop := s ≠ "" ∧ '/' ∉ s.toList

instance : DecidablePred IsComponent := fun s => inferInstanceAs (Decidable (s ≠ "" ∧ '/' ∉ s.toList))

/-- `[domain/]path[:tag]`: the path has components `parents` and `name`. -/
structure ImageRef where
  domain : Option String := none
  parents : List String := []
  name : String
  tag : Option String := none
  domain_ok : ∀ d ∈ domain, IsComponent d
  parents_ok : ∀ p ∈ parents, IsComponent p
  name_ok : IsComponent name
  tag_ok : ∀ t ∈ tag, '/' ∉ t.toList

namespace ImageRef

variable (ref : ImageRef)

def nameAndTag : String :=
  match ref.tag with
  | none => ref.name
  | some tag => ref.name ++ ":" ++ tag

def path : String := join (ref.parents ++ [ref.nameAndTag]) "/"

def text : String :=
  match ref.domain with
  | none => ref.path
  | some domain => domain ++ "/" ++ ref.path

/-- What stays of an image: its path, or the last component of it. -/
def kept (retain : Bool) : String := if retain then ref.path else ref.nameAndTag

theorem not_mem_nameAndTag : '/' ∉ ref.nameAndTag.toList := by
  unfold nameAndTag
  cases htag : ref.tag with
  | none => exact ref.name_ok.2
  | some tag =>
      have hcolon : '/' ∉ (":" : String).toList := by decide
      simp only [String.toList_append, List.mem_append, not_or]
      exact ⟨⟨ref.name_ok.2, hcolon⟩, ref.tag_ok tag htag⟩

theorem nameAndTag_ne_empty : ref.nameAndTag ≠ "" := by
  unfold nameAndTag
  cases ref.tag with
  | none => exact ref.name_ok.1
  | some tag => simp

theorem split_path : split ref.path '/' = ref.parents ++ [ref.nameAndTag] := by
  refine split_join rfl (by simp) fun piece hpiece => ?_
  obtain hparent | hlast := List.mem_append.mp hpiece
  · exact (ref.parents_ok piece hparent).2
  · rw [List.mem_singleton.mp hlast]
    exact ref.not_mem_nameAndTag

/-- The last component ends the path. -/
theorem path_cases : ref.path = ref.nameAndTag ∨ ∃ before, ref.path = before ++ "/" ++ ref.nameAndTag := by
  unfold path
  cases hparents : ref.parents with
  | nil => exact .inl (join_singleton _ _)
  | cons p ps =>
      right
      rw [join_append (List.cons_ne_nil p ps) (List.cons_ne_nil _ _), join_singleton]
      exact ⟨_, rfl⟩

theorem text_cases : ref.text = ref.nameAndTag ∨ ∃ before, ref.text = before ++ "/" ++ ref.nameAndTag := by
  unfold text
  cases ref.domain with
  | none => exact ref.path_cases
  | some domain =>
      right
      obtain h | ⟨before, h⟩ := ref.path_cases
      · exact ⟨domain, by rw [h]⟩
      · exact ⟨domain ++ "/" ++ before, by rw [h]; simp only [String.append_assoc]⟩

theorem afterLast_text : afterLast ref.text '/' = ref.nameAndTag := by
  obtain h | ⟨before, h⟩ := ref.text_cases
  · rw [h, afterLast_of_not_mem ref.not_mem_nameAndTag]
  · rw [h, afterLast_append rfl before ref.not_mem_nameAndTag]

/-- The pieces of what stays are no empty ones. -/
theorem pieces_kept_ne_empty (retain : Bool) : ∀ piece ∈ split (ref.kept retain) '/', piece ≠ "" := by
  intro piece hpiece
  unfold kept at hpiece
  split at hpiece
  next =>
    rw [split_path] at hpiece
    obtain hparent | hlast := List.mem_append.mp hpiece
    · exact (ref.parents_ok piece hparent).1
    · rw [List.mem_singleton.mp hlast]
      exact ref.nameAndTag_ne_empty
  next =>
    rw [split_of_not_mem ref.not_mem_nameAndTag] at hpiece
    rw [List.mem_singleton.mp hpiece]
    exact ref.nameAndTag_ne_empty

/-- What stays ends in the last component, too. -/
theorem kept_cases (retain : Bool) :
    ref.kept retain = ref.nameAndTag ∨ ∃ before, ref.kept retain = before ++ "/" ++ ref.nameAndTag := by
  unfold kept
  cases retain with
  | true => exact ref.path_cases
  | false => exact .inl rfl

/-- What stays ends as the image does. -/
theorem getLast?_kept (retain : Bool) : (ref.kept retain).toList.getLast? = ref.text.toList.getLast? := by
  have hlast : ∀ s, (s = ref.nameAndTag ∨ ∃ before, s = before ++ "/" ++ ref.nameAndTag) →
      s.toList.getLast? = ref.nameAndTag.toList.getLast? := by
    rintro s (rfl | ⟨before, rfl⟩)
    · rfl
    · have hne : ref.nameAndTag.toList ≠ [] := fun h => ref.nameAndTag_ne_empty (String.toList_eq_nil_iff.mp h)
      rw [String.toList_append, List.getLast?_append_of_ne_nil _ hne]
  rw [hlast _ (ref.kept_cases retain), hlast _ ref.text_cases]

theorem kept_ne_empty (retain : Bool) : ref.kept retain ≠ "" := by
  obtain h | ⟨before, h⟩ := ref.kept_cases retain
  · rw [h]
    exact ref.nameAndTag_ne_empty
  · rw [h]
    simp

end ImageRef

/-! ## Domains -/

/-- What `ResolveImage` takes for the domain of a registry. -/
def IsDomain (s : String) : Prop := contains s "." = true ∨ s = "localhost"

instance (s : String) : Decidable (IsDomain s) := inferInstanceAs (Decidable (_ ∨ _))

theorem stripDomain_append {a : String} (ha : '/' ∉ a.toList) (b : String) :
    stripDomain (a ++ "/" ++ b) = if IsDomain a then b else a ++ "/" ++ b := by
  unfold stripDomain
  rw [cut_append rfl ha]
  rfl

theorem append_ne_self (a b : String) : a ++ "/" ++ b ≠ b := by
  intro h
  have hlen := congrArg String.length h
  rw [String.length_append, String.length_append] at hlen
  have hone : ("/" : String).length = 1 := rfl
  omega

theorem stripDomain_append_iff {a : String} (ha : '/' ∉ a.toList) (b : String) :
    stripDomain (a ++ "/" ++ b) = b ↔ IsDomain a := by
  rw [stripDomain_append ha]
  split
  next h => exact ⟨fun _ => h, fun _ => rfl⟩
  next h => exact ⟨fun heq => absurd heq (append_ne_self a b), fun h' => absurd h' h⟩

/-- Of a registry with several components the resolver takes off at most one. -/
theorem stripDomain_registry_iff (registry b : String) :
    stripDomain (registry ++ "/" ++ b) = b ↔ '/' ∉ registry.toList ∧ IsDomain registry := by
  by_cases h : '/' ∈ registry.toList
  · obtain ⟨first, rest, rfl, hfirst⟩ := exists_eq_append (t := "/") rfl h
    have hassoc : first ++ "/" ++ rest ++ "/" ++ b = first ++ "/" ++ (rest ++ "/" ++ b) := by
      simp only [String.append_assoc]
    rw [hassoc, stripDomain_append hfirst]
    refine ⟨fun heq => ?_, fun h' => absurd h h'.1⟩
    split at heq
    next => exact absurd heq (append_ne_self rest b)
    next => exact absurd (hassoc.trans heq) (append_ne_self _ b)
  · rw [stripDomain_append_iff h]
    exact (and_iff_right h).symm

/-- The domain is recognised, and no part of the path is taken for one. -/
def ImageRef.DomainRecognised (ref : ImageRef) : Prop :=
  match ref.domain with
  | some domain => IsDomain domain
  | none => ∀ parent ∈ ref.parents.head?, ¬ IsDomain parent

theorem ImageRef.stripDomain_text_iff (ref : ImageRef) :
    stripDomain ref.text = ref.path ↔ ref.DomainRecognised := by
  unfold ImageRef.text ImageRef.DomainRecognised
  cases hdomain : ref.domain with
  | some domain => exact stripDomain_append_iff (ref.domain_ok domain hdomain).2 _
  | none =>
      dsimp only
      cases hparents : ref.parents with
      | nil =>
          have hpath : ref.path = ref.nameAndTag := by
            unfold ImageRef.path
            rw [hparents]
            exact join_singleton _ _
          rw [hpath, stripDomain, cut_of_not_mem ref.not_mem_nameAndTag]
          simp
      | cons parent parents =>
          have hpath : ref.path = parent ++ "/" ++ join (parents ++ [ref.nameAndTag]) "/" := by
            unfold ImageRef.path
            rw [hparents]
            exact join_cons (by simp) _ _
          have hparent : IsComponent parent := ref.parents_ok parent (by rw [hparents]; exact List.mem_cons_self)
          rw [hpath, stripDomain_append hparent.2]
          split
          next h =>
            refine ⟨fun heq => absurd heq.symm (append_ne_self _ _), fun hnot => absurd h ?_⟩
            exact hnot parent rfl
          next h => exact ⟨fun _ p hp => by cases hp; exact h, fun _ => rfl⟩

/-! ## Resolving an image -/

section Resolve

variable {cr : ContainerStorageModule} {imageFile : String} {ref : ImageRef}

/-- The registry as the resolver uses it. -/
def registryOf (cr : ContainerStorageModule) : String := trimSpace cr.spec.customRegistry

/-- The reference that is meant. -/
def ImageRef.reference (ref : ImageRef) (cr : ContainerStorageModule) : String :=
  registryOf cr ++ "/" ++ ref.kept cr.spec.retainImageRegistryPath

theorem resolveImage_eq (h : registryOf cr ≠ "") :
    resolveImage imageFile cr = registryOf cr ++ "/" ++
      if cr.spec.retainImageRegistryPath then stripDomain (trimSpace imageFile)
      else afterLast (trimSpace imageFile) '/' := by
  unfold resolveImage
  exact if_neg h

theorem ImageRef.trimSpace_reference (himage : trimSpace imageFile = ref.text) (h : registryOf cr ≠ "") :
    trimSpace (ref.reference cr) = ref.reference cr := by
  have hregistry : Trimmed (registryOf cr) := trimmed_trimSpace _
  have htext : Trimmed ref.text := by
    rw [← himage]
    exact trimmed_trimSpace _
  have hne : (registryOf cr).toList ≠ [] := fun hnil => h (String.toList_eq_nil_iff.mp hnil)
  have hkept : (ref.kept cr.spec.retainImageRegistryPath).toList ≠ [] := fun hnil =>
    ref.kept_ne_empty _ (String.toList_eq_nil_iff.mp hnil)
  refine trimSpace_eq_self_iff.mpr ⟨fun c hc => hregistry.1 c ?_, fun c hc => htext.2 c ?_⟩
  · rw [ImageRef.reference, String.append_assoc, String.toList_append,
      List.head?_append_of_ne_nil _ hne] at hc
    exact hc
  · rw [ImageRef.reference, String.toList_append, List.getLast?_append_of_ne_nil _ hkept,
      ref.getLast?_kept] at hc
    exact hc

theorem resolveImage_iff (himage : trimSpace imageFile = ref.text) (h : registryOf cr ≠ "") :
    resolveImage imageFile cr = ref.reference cr ↔
      (cr.spec.retainImageRegistryPath = true → ref.DomainRecognised) := by
  rw [resolveImage_eq h, himage, ImageRef.reference, String.append_right_inj, ← ref.stripDomain_text_iff]
  cases cr.spec.retainImageRegistryPath with
  | true => simp [ImageRef.kept]
  | false => simp [ImageRef.kept, ref.afterLast_text]

theorem resolveImage_again_iff (himage : trimSpace imageFile = ref.text) (h : registryOf cr ≠ "") :
    resolveImage (ref.reference cr) cr = ref.reference cr ↔
      (cr.spec.retainImageRegistryPath = true →
        '/' ∉ (registryOf cr).toList ∧ IsDomain (registryOf cr)) := by
  rw [resolveImage_eq h, ImageRef.trimSpace_reference himage h, ImageRef.reference,
    String.append_right_inj]
  cases cr.spec.retainImageRegistryPath with
  | true => simp [stripDomain_registry_iff]
  | false =>
      have hlast : afterLast (registryOf cr ++ "/" ++ ref.nameAndTag) '/' = ref.nameAndTag :=
        afterLast_append rfl _ ref.not_mem_nameAndTag
      simpa [ImageRef.kept] using hlast

theorem pieces_reference_iff (ref : ImageRef) :
    (∀ piece ∈ split (ref.reference cr) '/', piece ≠ "") ↔
      ∀ piece ∈ split (registryOf cr) '/', piece ≠ "" := by
  rw [ImageRef.reference, split_append rfl]
  constructor
  · intro h piece hpiece
    exact h piece (List.mem_append_left _ hpiece)
  · intro h piece hpiece
    obtain hpiece | hpiece := List.mem_append.mp hpiece
    · exact h piece hpiece
    · exact ref.pieces_kept_ne_empty _ piece hpiece

/-- A text with a scheme has an empty piece. -/
theorem no_scheme_of_pieces {s : String} (h : ∀ piece ∈ split s '/', piece ≠ "") :
    contains s "://" = false := by
  rw [← Bool.not_eq_true, contains_iff]
  rintro ⟨before, after, hs⟩
  have htext : s = String.ofList before ++ ":" ++ "/" ++ ("" ++ "/" ++ String.ofList after) := by
    rw [← String.toList_inj, ← hs]
    simp
  rw [htext, split_append rfl, split_append rfl] at h
  exact h "" (List.mem_append_right _ (List.mem_append_left _ (List.mem_singleton.mpr rfl))) rfl

/-- The image becomes `registry/path`, without a scheme and without an empty component, and resolving it
once more changes nothing. -/
def ImageRef.ResolvesWell (ref : ImageRef) (imageFile : String) (cr : ContainerStorageModule) : Prop :=
  resolveImage imageFile cr = ref.reference cr ∧
    contains (resolveImage imageFile cr) "://" = false ∧
    (∀ piece ∈ split (resolveImage imageFile cr) '/', piece ≠ "") ∧
    resolveImage (resolveImage imageFile cr) cr = resolveImage imageFile cr

/-- The registry has no empty component; and where the path is retained it is one component that the
resolver takes for a domain, as it does with the domain of the image and with nothing else. -/
def ImageRef.Fits (ref : ImageRef) (cr : ContainerStorageModule) : Prop :=
  (∀ piece ∈ split (registryOf cr) '/', piece ≠ "") ∧
    (cr.spec.retainImageRegistryPath = true →
      '/' ∉ (registryOf cr).toList ∧ IsDomain (registryOf cr) ∧ ref.DomainRecognised)

theorem registry_ne_empty (h : ∀ piece ∈ split (registryOf cr) '/', piece ≠ "") : registryOf cr ≠ "" := by
  intro hempty
  rw [hempty] at h
  exact h "" (List.mem_singleton.mpr rfl) rfl

/-- Of the registries that `ValidateCustomRegistry` accepts, those that fit the image give the reference
that is meant. -/
theorem resolveImage_correct_iff (rt : Runtime)
    (_haccepted : validateCustomRegistry rt cr.spec.customRegistry = none)
    (himage : trimSpace imageFile = ref.text) : ref.ResolvesWell imageFile cr ↔ ref.Fits cr := by
  unfold ImageRef.ResolvesWell ImageRef.Fits
  constructor
  · rintro ⟨heq, -, hpieces, hagain⟩
    rw [heq] at hpieces hagain
    have hregistry := (pieces_reference_iff ref).mp hpieces
    have hne := registry_ne_empty hregistry
    refine ⟨hregistry, fun hretain => ?_⟩
    obtain ⟨hslash, hdomain⟩ := (resolveImage_again_iff himage hne).mp hagain hretain
    exact ⟨hslash, hdomain, (resolveImage_iff himage hne).mp heq hretain⟩
  · rintro ⟨hregistry, hretain⟩
    have hne := registry_ne_empty hregistry
    have heq := (resolveImage_iff himage hne).mpr fun h => (hretain h).2.2
    have hpieces := (pieces_reference_iff ref).mpr hregistry
    rw [heq]
    refine ⟨rfl, no_scheme_of_pieces hpieces, hpieces, ?_⟩
    exact (resolveImage_again_iff himage hne).mpr fun h => ⟨(hretain h).1, (hretain h).2.1⟩

/-- `quay.io/org/image:tag` -/
def quayImage : ImageRef where
  domain := some "quay.io"
  parents := ["org"]
  name := "image"
  tag := some "tag"
  domain_ok := by decide
  parents_ok := by decide
  name_ok := by decide
  tag_ok := by decide

def withRegistry (registry : String) : ContainerStorageModule :=
  { spec := { customRegistry := registry, retainImageRegistryPath := true } }

theorem resolveImage_correct_quay :
    quayImage.Fits (withRegistry "my.registry.local") ∧
      quayImage.ResolvesWell " quay.io/org/image:tag " (withRegistry "my.registry.local") :=
  have hfits : quayImage.Fits (withRegistry "my.registry.local") :=
    ⟨by decide, fun _ => ⟨by decide, .inl (by decide), .inl (by decide)⟩⟩
  ⟨hfits, (resolveImage_correct_iff shippedRuntime (by decide) (by decide)).mpr hfits⟩

/-- A registry with a path is accepted, and the path is added again each time an image is resolved. -/
theorem registryPath_repeated :
    validateCustomRegistry shippedRuntime "docker.io/dell" = none ∧
      resolveImage quayImage.text (withRegistry "docker.io/dell") = "docker.io/dell/org/image:tag" ∧
      resolveImage (resolveImage quayImage.text (withRegistry "docker.io/dell"))
        (withRegistry "docker.io/dell") = "docker.io/dell/dell/org/image:tag" := by
  decide

end Resolve

end CsmOperator
