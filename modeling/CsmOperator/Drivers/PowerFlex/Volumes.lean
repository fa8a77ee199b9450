import CsmOperator.Api.Apply
import CsmOperator.Api.Cluster

/-!
# Removing a volume: `RemoveVolume` and `RemoveInitVolume` in `pkg/drivers/powerflex.go`

The two take a volume out of the node's pod, together with one mount of it: the first one of the first
container, or of the first init container, that has one. A pod whose mounts all name a volume stays such
a pod only when there is no other mount.
-/

namespace CsmOperator

/-! ## The code -/

/-- The containers that a removal looks at. -/
inductive ContainerKind where
  | containers
  | initContainers
  deriving DecidableEq, Repr

def WorkloadApply.ofKind (w : WorkloadApply) : ContainerKind → List ContainerApply
  | .containers => w.containers
  | .initContainers => w.initContainers

def WorkloadApply.setKind (w : WorkloadApply) (cs : List ContainerApply) : ContainerKind → WorkloadApply
  | .containers => { w with containers := cs }
  | .initContainers => { w with initContainers := cs }

/-- Take out the first mount of the volume, and return. -/
def removeMount (volumeName : String) : List ContainerApply → List ContainerApply
  | [] => []
  | c :: cs =>
    if c.volumeMounts.any (·.name = volumeName) then
      { c with volumeMounts := c.volumeMounts.eraseP (·.name = volumeName) } :: cs
    else c :: removeMount volumeName cs

/-- What the two functions do to the pod template. -/
def removeVolumeFrom (kind : ContainerKind) (podTemplate : WorkloadApply) (volumeName : String) :
    WorkloadApply :=
  let podTemplate :=
    { podTemplate with volumes := podTemplate.volumes.eraseP (·.name = volumeName) }
  podTemplate.setKind (removeMount volumeName (podTemplate.ofKind kind)) kind

/-- The DaemonSet, `none` for nil, after the call, and the error returned. -/
def removeVolume (configuration : Option WorkloadApply) (volumeName : String) :
    Option WorkloadApply × Option GoError :=
  match configuration with
  | none => (none, some (errorf "RemoveVolume called with a nil daemonset"))
  | some podTemplate => (some (removeVolumeFrom .containers podTemplate volumeName), none)

def removeInitVolume (configuration : Option WorkloadApply) (volumeName : String) :
    Option WorkloadApply × Option GoError :=
  match configuration with
  | none => (none, some (errorf "RemoveInitVolume called with a nil daemonset"))
  | some podTemplate => (some (removeVolumeFrom .initContainers podTemplate volumeName), none)

/-! ## What is meant -/

def mountsOf (cs : List ContainerApply) : List VolumeMountApply := cs.flatMap (·.volumeMounts)

/-- The volumes have different names, and every mount names one of them. -/
structure WorkloadApply.MountsDeclared (w : WorkloadApply) : Prop where
  distinct : (w.volumes.map (·.name)).Nodup
  declared : ∀ kind, ∀ m ∈ mountsOf (w.ofKind kind), m.name ∈ w.volumes.map (·.name)

/-- A container without its mounts of a volume. -/
def ContainerApply.without (volumeName : String) (c : ContainerApply) : ContainerApply :=
  { c with volumeMounts := c.volumeMounts.filter (·.name ≠ volumeName) }

/-- The two differ in the volume of the name and in mounts of it. -/
structure WorkloadApply.SameBut (volumeName : String) (w w' : WorkloadApply) : Prop where
  annotations : w'.annotations = w.annotations
  volumes : w'.volumes.filter (·.name ≠ volumeName) = w.volumes.filter (·.name ≠ volumeName)
  containers : ∀ kind,
    (w'.ofKind kind).map (·.without volumeName) = (w.ofKind kind).map (·.without volumeName)

/-! ## Removing the first one -/

section Erase

variable {α : Type} {p : α → Bool}

theorem filter_not_eraseP (xs : List α) : (xs.eraseP p).filter (!p ·) = xs.filter (!p ·) := by
  induction xs with
  | nil => rfl
  | cons x xs ih =>
      cases hx : p x with
      | true => simp [hx]
      | false => simp [hx, ih]

theorem forall_eraseP_iff {xs : List α} : (∀ x ∈ xs.eraseP p, p x = false) ↔ xs.countP p ≤ 1 := by
  induction xs with
  | nil => simp
  | cons x xs ih =>
      cases hx : p x with
      | true =>
          rw [List.eraseP_cons_of_pos hx, List.countP_cons_of_pos hx]
          have hzero : (∀ y ∈ xs, p y = false) ↔ xs.countP p = 0 := by
            simp [List.countP_eq_zero]
          rw [hzero]
          omega
      | false =>
          rw [List.eraseP_cons_of_neg (by simp [hx]), List.countP_cons_of_neg (by simp [hx]),
            List.forall_mem_cons, ih]
          exact and_iff_right hx

end Erase

variable {volumeName : String}

/-- Over all containers, too, it is the first mount that goes. -/
theorem mountsOf_removeMount (cs : List ContainerApply) :
    mountsOf (removeMount volumeName cs) = (mountsOf cs).eraseP (·.name = volumeName) := by
  unfold mountsOf
  induction cs with
  | nil => rfl
  | cons c cs ih =>
      unfold removeMount
      split
      next h =>
        obtain ⟨m, hm, hname⟩ := List.any_eq_true.mp h
        rw [List.flatMap_cons, List.flatMap_cons]
        exact (List.eraseP_append_left (p := fun m => decide (m.name = volumeName)) hname _ hm).symm
      next h =>
        have hnone : ∀ m ∈ c.volumeMounts, ¬ decide (m.name = volumeName) = true := fun m hm hname =>
          h (List.any_eq_true.mpr ⟨m, hm, hname⟩)
        rw [List.flatMap_cons, List.flatMap_cons, List.eraseP_append_right _ hnone, ih]

theorem map_without_removeMount (cs : List ContainerApply) :
    (removeMount volumeName cs).map (·.without volumeName) = cs.map (·.without volumeName) := by
  induction cs with
  | nil => rfl
  | cons c cs ih =>
      unfold removeMount
      split
      next =>
        have hmounts := filter_not_eraseP (p := fun m => decide (m.name = volumeName)) c.volumeMounts
        simp only [List.map_cons, ContainerApply.without]
        simp only [← decide_not] at hmounts
        rw [hmounts]
      next => rw [List.map_cons, List.map_cons, ih]

/-! ## The pod template -/

section Template

variable {w : WorkloadApply} {kind other : ContainerKind}

@[simp] theorem WorkloadApply.ofKind_setKind (cs : List ContainerApply) :
    (w.setKind cs kind).ofKind kind = cs := by
  cases kind <;> rfl

theorem WorkloadApply.ofKind_setKind_of_ne (cs : List ContainerApply) (h : other ≠ kind) :
    (w.setKind cs kind).ofKind other = w.ofKind other := by
  cases kind <;> cases other <;> first | rfl | exact absurd rfl h

@[simp] theorem WorkloadApply.volumes_setKind (cs : List ContainerApply) :
    (w.setKind cs kind).volumes = w.volumes := by
  cases kind <;> rfl

@[simp] theorem volumes_removeVolumeFrom :
    (removeVolumeFrom kind w volumeName).volumes = w.volumes.eraseP (·.name = volumeName) :=
  WorkloadApply.volumes_setKind _

theorem ofKind_removeVolumeFrom :
    (removeVolumeFrom kind w volumeName).ofKind other =
      if other = kind then removeMount volumeName (w.ofKind kind) else w.ofKind other := by
  unfold removeVolumeFrom
  split
  next h =>
    subst h
    rw [WorkloadApply.ofKind_setKind]
    cases other <;> rfl
  next h =>
    rw [WorkloadApply.ofKind_setKind_of_ne _ h]
    cases other <;> rfl

/-- Other volumes and mounts stay, in their order. -/
theorem sameBut_removeVolumeFrom : w.SameBut volumeName (removeVolumeFrom kind w volumeName) where
  annotations := by cases kind <;> rfl
  volumes := by
    rw [volumes_removeVolumeFrom]
    simpa using filter_not_eraseP (p := fun v => decide (v.name = volumeName)) w.volumes
  containers other := by
    rw [ofKind_removeVolumeFrom]
    split
    next h =>
      subst h
      exact map_without_removeMount _
    next => rfl

/-- The volume is mounted at most once, by a container of the kind that is looked at. -/
def MountedOnce (kind : ContainerKind) (w : WorkloadApply) (volumeName : String) : Prop :=
  (mountsOf (w.ofKind kind)).countP (·.name = volumeName) ≤ 1 ∧
    ∀ other, other ≠ kind → ∀ m ∈ mountsOf (w.ofKind other), m.name ≠ volumeName

theorem names_removeVolumeFrom :
    (removeVolumeFrom kind w volumeName).volumes.map (·.name) = (w.volumes.map (·.name)).erase volumeName := by
  rw [volumes_removeVolumeFrom, List.erase_eq_eraseP', List.eraseP_map]
  rfl

/-- The names that are left are those of the other volumes. -/
theorem mem_names_removeVolumeFrom (h : w.MountsDeclared) {name : String} :
    name ∈ (removeVolumeFrom kind w volumeName).volumes.map (·.name) ↔
      name ≠ volumeName ∧ name ∈ w.volumes.map (·.name) := by
  rw [names_removeVolumeFrom, h.distinct.mem_erase_iff]

theorem mountsOf_removeVolumeFrom :
    mountsOf ((removeVolumeFrom kind w volumeName).ofKind other) =
      if other = kind then (mountsOf (w.ofKind kind)).eraseP (·.name = volumeName)
      else mountsOf (w.ofKind other) := by
  rw [ofKind_removeVolumeFrom]
  split
  next => rw [mountsOf_removeMount]
  next => rfl

/-- No mount of the volume is left exactly when it was mounted once. -/
theorem forall_mounts_ne_iff :
    (∀ other, ∀ m ∈ mountsOf ((removeVolumeFrom kind w volumeName).ofKind other), m.name ≠ volumeName) ↔
      MountedOnce kind w volumeName := by
  have hself := @forall_eraseP_iff _ (fun m => decide (m.name = volumeName)) (mountsOf (w.ofKind kind))
  simp only [decide_eq_false_iff_not] at hself
  unfold MountedOnce
  rw [← hself]
  constructor
  · intro h
    refine ⟨fun m hm => h kind m ?_, fun other hother m hm => h other m ?_⟩
    · rw [mountsOf_removeVolumeFrom, if_pos rfl]
      exact hm
    · rw [mountsOf_removeVolumeFrom, if_neg hother]
      exact hm
  · rintro ⟨hkind, hothers⟩ other m hm
    rw [mountsOf_removeVolumeFrom] at hm
    split at hm
    next => exact hkind m hm
    next hother => exact hothers other hother m hm

theorem mountsDeclared_iff (h : w.MountsDeclared) :
    (removeVolumeFrom kind w volumeName).MountsDeclared ↔
      (volumeName ∈ w.volumes.map (·.name) → MountedOnce kind w volumeName) := by
  -- The mounts that are left named a volume before.
  have hbefore : ∀ other, ∀ m ∈ mountsOf ((removeVolumeFrom kind w volumeName).ofKind other),
      m.name ∈ w.volumes.map (·.name) := by
    intro other m hm
    rw [mountsOf_removeVolumeFrom] at hm
    split at hm
    next => exact h.declared kind m (List.mem_of_mem_eraseP hm)
    next => exact h.declared other m hm
  rw [← forall_mounts_ne_iff]
  constructor
  · intro hdeclared _ other m hm
    exact ((mem_names_removeVolumeFrom h).mp (hdeclared.declared other m hm)).1
  · intro hne
    refine ⟨?_, fun other m hm => (mem_names_removeVolumeFrom h).mpr ⟨?_, hbefore other m hm⟩⟩
    · rw [names_removeVolumeFrom]
      exact h.distinct.erase _
    · intro heq
      exact hne (heq ▸ hbefore other m hm) other m hm heq

/-- The call keeps the mounts declared, and changes nothing else. -/
def WorkloadApply.Removes (w : WorkloadApply) (volumeName : String)
    (result : Option WorkloadApply × Option GoError) : Prop :=
  ∃ w', result = (some w', none) ∧ w'.MountsDeclared ∧ w.SameBut volumeName w'

theorem removes_iff (h : w.MountsDeclared) :
    w.Removes volumeName (some (removeVolumeFrom kind w volumeName), none) ↔
      (volumeName ∈ w.volumes.map (·.name) → MountedOnce kind w volumeName) := by
  rw [← mountsDeclared_iff h]
  constructor
  · rintro ⟨w', heq, hdeclared, -⟩
    rw [Option.some.inj (congrArg Prod.fst heq)]
    exact hdeclared
  · intro hdeclared
    exact ⟨_, rfl, hdeclared, sameBut_removeVolumeFrom⟩

end Template

/-- `RemoveVolume` and `RemoveInitVolume` keep every mount declared exactly when the volume is mounted by no
other container than the first one they look at, and there once. -/
theorem removeVolume_correct_iff {w : WorkloadApply} (h : w.MountsDeclared) (volumeName : String) :
    (w.Removes volumeName (removeVolume (some w) volumeName) ↔
        (volumeName ∈ w.volumes.map (·.name) → MountedOnce .containers w volumeName)) ∧
      (w.Removes volumeName (removeInitVolume (some w) volumeName) ↔
        (volumeName ∈ w.volumes.map (·.name) → MountedOnce .initContainers w volumeName)) :=
  ⟨removes_iff h, removes_iff h⟩

/-- A node pod with the volume `sftp-keys`, mounted by the given number of init containers. -/
def nodePod (inits : Nat) : WorkloadApply where
  containers := [{ name := "driver", volumeMounts := [{ name := "driver-path" }] }]
  initContainers := List.replicate inits { name := "sdc", volumeMounts := [{ name := "sftp-keys" }] }
  volumes := [{ name := "driver-path" }, { name := "sftp-keys" }]

theorem mountsDeclared_nodePod (inits : Nat) : (nodePod inits).MountsDeclared where
  distinct := by simp [nodePod]
  declared kind m hm := by
    cases kind with
    | containers =>
        obtain rfl : m = { name := "driver-path" } := List.mem_singleton.mp hm
        simp [nodePod]
    | initContainers =>
        obtain ⟨c, hc, hm⟩ := List.mem_flatMap.mp hm
        rw [List.eq_of_mem_replicate hc] at hm
        rw [List.mem_singleton.mp hm]
        simp [nodePod]

theorem removeVolume_correct_nodePod :
    (nodePod 1).MountsDeclared ∧
      (nodePod 1).Removes "sftp-keys" (removeInitVolume (some (nodePod 1)) "sftp-keys") :=
  ⟨mountsDeclared_nodePod 1,
    (removeVolume_correct_iff (mountsDeclared_nodePod 1) "sftp-keys").2.mpr fun _ =>
      ⟨by decide, by rintro (_ | _) h; exacts [by decide, absurd rfl h]⟩⟩

/-- A second init container keeps its mount of a volume that is gone. -/
theorem secondMount_left :
    (nodePod 2).MountsDeclared ∧
      ¬ (nodePod 2).Removes "sftp-keys" (removeInitVolume (some (nodePod 2)) "sftp-keys") := by
  refine ⟨mountsDeclared_nodePod 2, fun hremoves => ?_⟩
  obtain ⟨w', heq, hdeclared, -⟩ := hremoves
  obtain rfl := Option.some.inj (congrArg Prod.fst heq)
  have hmount := hdeclared.declared .initContainers { name := "sftp-keys" } (by decide)
  exact absurd hmount (by decide)

end CsmOperator
