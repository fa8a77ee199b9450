import CsmOperator.Status.Running
import CsmOperator.World.Threads

/-!
# Who is watched

A completed install leaves a content watch behind: informers that run until their stop channel is
closed. The reconciler keeps the stop channels in a map by the *name* of the CR. Two CRs of one name in
different namespaces share an entry: the install of the second one replaces the watch of the first.
That does no harm, for a watch passes on the events of all objects labelled with its name. But the
deletion of one of the two closes the channel, and the other is left without a watch.

Followed through all interleavings, every CR that has completed an install and was not seen being
deleted since has a running watch of its name, as long as

* two reconciles of one key do not run at the same time, and
* a reconcile that has seen its CR being deleted closes a channel only when no CR of that name in
  another namespace is watched or being reconciled.

The argument does not need the mutex of the channel map: a watch is only closed by a thread that has
found it in the map, and a thread that installs a watch has an open one of its own that is not there.
-/

namespace CsmOperator

open Interaction

/-- Some watch of the name is running. -/
def Watched (w : World) (name : String) : Prop := (name, true) ∈ w.watches

instance (w : World) (name : String) : Decidable (Watched w name) :=
  inferInstanceAs (Decidable (_ ∈ _))

/-- The CR whose install a request reports as completed. -/
def completes : Request → Option NamespacedName
  | .event cr type reason message =>
    if type = .normal ∧ reason = "Completed" ∧ message = completedMessage cr.name then some cr.key
    else none
  | _ => none

/-- How a served call changes whether a CR counts as installed: an install is completed, or the CR is
seen being deleted. -/
def installs (key : NamespacedName) (v : Bool) : Event Api → Bool
  | ⟨.getCSM k, .ok cr⟩ => v && !(k = key && cr.isBeingDeleted)
  | ⟨q, _⟩ => v || completes q = some key

/-- The CR has completed an install and was not seen being deleted since. -/
def installed (log : List (Nat × Event Api)) (key : NamespacedName) : Bool :=
  log.foldl (fun v x => installs key v x.2) false

theorem installed_append (log : List (Nat × Event Api)) (x : Nat × Event Api)
    (key : NamespacedName) : installed (log ++ [x]) key = installs key (installed log key) x.2 := by
  rw [installed, List.foldl_append]
  rfl

/-- An install is completed only where it is reported. -/
theorem installed_of_append {log : List (Nat × Event Api)} {i : Nat} {q : Request} {r : q.Answer}
    {key : NamespacedName} (h : installed (log ++ [(i, ⟨q, r⟩)]) key = true) :
    installed log key = true ∨ completes q = some key := by
  rw [installed_append] at h
  unfold installs at h
  split at h
  · rw [Bool.and_eq_true] at h
    exact .inl h.1
  · next heq =>
      cases heq
      rw [Bool.or_eq_true, decide_eq_true_eq] at h
      exact h

/-! ## The watch of a thread -/

/-- What a thread has to do with watches. -/
structure Watcher where
  /-- the CR it reconciles -/
  key : Option NamespacedName
  /-- it has not read the CR yet -/
  fresh : Bool := true
  /-- the CR it has read is being deleted -/
  deleting : Bool := false
  /-- the stop channel of a watch it has started, which is not in the map yet -/
  own : Option Chan := none
  /-- a channel it has found in the map -/
  loaded : Option Chan := none
  /-- its own channel is in the map -/
  stored : Bool := false

namespace Watcher

def Allows (l : Watcher) : Request → Prop
  | .startInformers name _ => l.own = none ∧ l.key.map (·.name) = some name
  | .loadChannel name => l.key.map (·.name) = some name
  | .closeChannel c => l.loaded = some c ∧ (l.own.isSome = true ∨ l.deleting = true)
  | .storeChannel name c =>
    l.own = some c ∧ l.key.map (·.name) = some name ∧ l.deleting = false ∧ l.fresh = false
  | q => ∀ key, completes q = some key → l.key = some key ∧ l.stored = true ∧ l.deleting = false

def Expects : (q : Request) → q.Answer → Prop
  | .getCSM key, .ok cr => cr.key = key
  | .updateCSM cr, .ok cr' => cr'.key = cr.key
  | _, _ => True

def follow (l : Watcher) : (q : Request) → q.Answer → Watcher
  | .getCSM key, .ok cr =>
    if l.fresh then { l with fresh := false, deleting := cr.isBeingDeleted && l.key = some key } else l
  | .startInformers _ _, c => { l with own := some c }
  | .loadChannel _, c => { l with loaded := c }
  | .storeChannel _ _, _ => { l with own := none, stored := true }
  | _, _ => l

end Watcher

/-- The monitor of the watches a thread starts and stops. -/
def watchers : Monitor Api Watcher where
  guard := Watcher.Allows
  assume _ := Watcher.Expects
  next := Watcher.follow

/-- Requests that have nothing to do with watches. -/
def Unwatched : Request → Prop
  | .startInformers _ _ | .loadChannel _ | .closeChannel _ | .storeChannel _ _ => False
  | q => completes q = none

/-- A thread that has read its CR keeps its state on such requests. -/
theorem watchers_frames :
    watchers.Frames (fun l l' => l.fresh = false → l' = l) Unwatched where
  refl _ _ := rfl
  trans l₁ l₂ l₃ h₁₂ h₂₃ hfresh := by
    obtain rfl := h₁₂ hfresh
    exact h₂₃ hfresh
  tolerates l q hq := by
    refine ⟨?_, fun r _ hfresh => ?_⟩
    · cases q with
      | startInformers => exact hq.elim
      | loadChannel => exact hq.elim
      | closeChannel => exact hq.elim
      | storeChannel => exact hq.elim
      | _ =>
          intro key hkey
          rw [show completes _ = none from hq] at hkey
          cases hkey
    · cases q with
      | startInformers => exact hq.elim
      | loadChannel => exact hq.elim
      | storeChannel => exact hq.elim
      | getCSM key =>
          match r with
          | .error e => rfl
          | .ok cr =>
              show (if l.fresh then _ else l) = l
              rw [hfresh]
              rfl
      | _ => rfl

theorem Noise.unwatched {q : Request} (h : Noise q) : Unwatched q := by
  cases q with
  | event cr type reason message =>
      refine if_neg fun hcompletes => h ⟨hcompletes.1, .inr hcompletes.2.1⟩
  | _ => first | exact h.elim | rfl

theorem StatusWork.unwatched {q : Request} (h : StatusWork q) : Unwatched q := by
  cases q with
  | event cr type reason message => exact if_neg fun hcompletes => h hcompletes.2.2
  | lock m => rfl
  | _ => first | exact h.elim | rfl

/-! ## The steps of a thread -/

variable {rt : Runtime} {key : NamespacedName} {csm : ContainerStorageModule} {l : Watcher}

/-- A reconcile of the CR that has read it and goes on to install it. -/
structure Installing (key : NamespacedName) (l : Watcher) : Prop where
  key_eq : l.key = some key
  fresh : l.fresh = false
  deleting : l.deleting = false
  own : l.own = none

theorem watchers_noise : watchers.Frames (fun l l' => l.fresh = false → l' = l) Noise :=
  watchers_frames.mono fun _ => Noise.unwatched

theorem watchers_statusWork : watchers.Frames (fun l l' => l.fresh = false → l' = l) StatusWork :=
  watchers_frames.mono fun _ => StatusWork.unwatched

/-- A thread with a watch of its own puts it into the map, in place of the one there, and reports. -/
theorem watchers_installWatch {stop : Chan} (hcsm : csm.key = key) (hkey : l.key = some key)
    (hfresh : l.fresh = false) (hdeleting : l.deleting = false) (hown : l.own = some stop) :
    watchers.Obeys (do
      installWatch csm.name stop
      recordEvent csm .normal "Completed" (completedMessage csm.name)
      pure (({} : Result), (none : Option GoError))) l fun _ _ => True := by
  have hname : l.key.map (·.name) = some csm.name := by
    rw [hkey, ← hcsm]
    rfl
  refine Monitor.Obeys.bind_iff.mpr ?_
  unfold installWatch
  refine watchers_frames.obeys_bind (Asks.ask (.lock .contentWatch) rfl) fun _ l₁ _ h₁ => ?_
  obtain rfl := h₁ hfresh
  refine obeys_ask_bind (.loadChannel csm.name) hname fun c _ => ?_
  -- what follows the close
  have hstore : watchers.Obeys (do
      storeChannel csm.name stop
      unlock .contentWatch) { l₁ with loaded := c } fun _ l' => watchers.Obeys (do
        recordEvent csm .normal "Completed" (completedMessage csm.name)
        pure (({} : Result), (none : Option GoError))) l' fun _ _ => True := by
    refine obeys_ask_bind (.storeChannel csm.name stop) ⟨hown, hname, hdeleting, hfresh⟩ fun _ _ => ?_
    refine watchers_frames.obeys (Asks.ask (.unlock .contentWatch) rfl) fun _ l₂ _ h₂ => ?_
    obtain rfl := h₂ hfresh
    refine obeys_ask_bind (.event _ _ _ _) (fun k hk => ?_) fun _ _ =>
      Monitor.Obeys.pure_iff.mpr trivial
    rw [completes, if_pos ⟨rfl, rfl, rfl⟩, hcsm] at hk
    exact ⟨hkey.trans hk, rfl, hdeleting⟩
  match c with
  | none => exact hstore
  | some c =>
      refine obeys_ask_bind (.closeChannel c) ⟨rfl, .inl ?_⟩ fun _ _ => hstore
      show l₁.own.isSome = true
      rw [hown]
      rfl

/-- A watch is started and put to use. -/
theorem watchers_startWatch (hcsm : csm.key = key) (hl : Installing key l) :
    watchers.Obeys (do
      match ← contentWatch rt csm with
      | .error e => pure ({ requeue := true }, some e)
      | .ok stop =>
        installWatch csm.name stop
        recordEvent csm .normal "Completed" (completedMessage csm.name)
        pure (({} : Result), (none : Option GoError))) l fun _ _ => True := by
  have hname : l.key.map (·.name) = some csm.name := by
    rw [hl.key_eq, ← hcsm]
    rfl
  have hadd : ∀ kind informer, Asks Unwatched (fun _ => True) (addHandler kind informer) :=
    fun _ _ => .bind (.ask (.addEventHandler _) rfl) fun _ => .pure trivial
  refine Monitor.Obeys.bind_iff.mpr ?_
  unfold contentWatch
  refine watchers_frames.obeys_bind (Asks.orElse (hadd _ _) (Asks.orElse (hadd _ _) (hadd _ _)))
    fun err l₁ _ h₁ => ?_
  obtain rfl := h₁ hl.fresh
  cases err with
  | some e => exact Monitor.Obeys.pure_iff.mpr (Monitor.Obeys.pure_iff.mpr trivial)
  | none =>
      refine obeys_ask_bind (.startInformers _ _) ⟨hl.own, hname⟩ fun stop _ => ?_
      have hrest := watchers_installWatch (l := { l₁ with own := some stop }) hcsm hl.key_eq hl.fresh
        hl.deleting rfl
      dsimp only
      split
      · refine watchers_frames.obeys_bind (Asks.ask (.waitForCacheSync _) rfl) fun _ l₂ _ h₂ => ?_
        obtain rfl := h₂ hl.fresh
        exact Monitor.Obeys.pure_iff.mpr hrest
      · exact Monitor.Obeys.pure_iff.mpr hrest

theorem watchers_finishInstall (hcsm : csm.key = key) (hl : Installing key l) :
    watchers.Obeys (finishInstall rt csm) l fun _ _ => True := by
  refine watchers_statusWork.obeys_bind (statusWork_updateStatus none) fun ⟨cr, err⟩ l₁ hcr h₁ => ?_
  obtain rfl := h₁ hl.fresh
  obtain ⟨st, rfl⟩ : ∃ st, cr = csm.withStatus st := hcr
  dsimp only
  split
  · exact Monitor.Obeys.pure_iff.mpr trivial
  · exact watchers_startWatch hcsm hl

theorem watchers_syncAndFinish (hcsm : csm.key = key) (hl : Installing key l) :
    watchers.Obeys (syncAndFinish rt csm) l fun _ _ => True := by
  refine (watchers_statusWork.mono fun _ => Judging.statusWork).obeys_bind judging_handleSuccess fun ⟨cr, requeue⟩ l₁ hcr h₁ => ?_
  obtain rfl := h₁ hl.fresh
  have hcr : cr.key = key := by
    obtain ⟨st, rfl⟩ : ∃ st, cr = csm.withStatus st := hcr
    exact hcsm
  have hsync : watchers.Obeys (syncCSM rt cr) l₁ fun _ l' => l' = l₁ := by
    have hnote : ∀ err l', l' = l₁ → watchers.Obeys (note (.synced cr err)) l' fun _ l'' => l'' = l₁ := by
      rintro err l' rfl
      exact Monitor.Obeys.call_iff.mpr ⟨nofun, fun _ _ => Monitor.Obeys.ret_iff.mpr rfl⟩
    refine obeys_syncCSM watchers_noise (fun err l₂ h₂ _ => hnote err l₂ (h₂ hl.fresh)) ?_
    intro annotations out l₂ h₂ _ _
    obtain rfl := h₂ hl.fresh
    refine Monitor.Obeys.call_iff.mpr ⟨nofun, fun r _ => Monitor.Obeys.ret_iff.mpr ?_⟩
    exact fun cr' err l₃ h₃ _ => hnote err l₃ (h₃ hl.fresh)
  refine hsync.bind fun ⟨cr', err⟩ l₂ h₂ => ?_
  subst h₂
  dsimp only
  split
  · exact watchers_finishInstall hcr hl
  · have hfail : Asks Noise (fun _ => True)
        (failInstall { cr with annotations := cr'.annotations } err) :=
      .bind (.ask (.event _ _ _ _) fun h => nomatch h.1) fun _ => .pure trivial
    exact watchers_noise.obeys hfail fun _ _ _ _ => trivial

/-- A reconcile of a CR that is being deleted closes the channel it finds. -/
theorem watchers_finishDeletion (hcsm : csm.key = key) (hkey : l.key = some key)
    (hfresh : l.fresh = false) (hdeleting : l.deleting = true) :
    watchers.Obeys (finishDeletion csm) l fun _ _ => True := by
  have hname : l.key.map (·.name) = some csm.name := by
    rw [hkey, ← hcsm]
    rfl
  have hdeleted : completes (.event csm .normal "Deleted" "Object finalizer is deleted") = none := by
    rw [completes, if_neg]
    rintro ⟨-, hreason, -⟩
    exact absurd hreason (by decide)
  have hunlock : Asks Unwatched (fun _ => True) (unlock .contentWatch) := .ask (.unlock _) rfl
  have hevent : ∀ l', watchers.Obeys (do
      recordEvent csm .normal "Deleted" "Object finalizer is deleted"
      pure (({} : Result), (none : Option GoError))) l' fun _ _ => True := by
    intro l'
    have hasks : Asks Unwatched (fun _ => True) (do
        recordEvent csm .normal "Deleted" "Object finalizer is deleted"
        pure (({} : Result), (none : Option GoError))) :=
      .bind (.ask (.event _ _ _ _) hdeleted) fun _ => .pure trivial
    exact watchers_frames.obeys hasks fun _ _ _ _ => trivial
  refine Monitor.Obeys.bind_iff.mpr ?_
  unfold stopWatch
  refine watchers_frames.obeys_bind (Asks.ask (.lock .contentWatch) rfl) fun _ l₁ _ h₁ => ?_
  obtain rfl := h₁ hfresh
  refine obeys_ask_bind (.loadChannel csm.name) hname fun c _ => ?_
  match c with
  | none => exact watchers_frames.obeys hunlock fun _ l₂ _ _ => hevent l₂
  | some c =>
      refine obeys_ask_bind (.closeChannel c) ⟨rfl, .inr hdeleting⟩ fun _ _ => ?_
      have hforget : Asks Unwatched (fun _ => True) (do
          deleteChannel csm.name
          unlock .contentWatch) := .bind (.ask (.deleteChannel _) rfl) fun _ => hunlock
      exact watchers_frames.obeys hforget fun _ l₂ _ _ => hevent l₂

theorem watchers_reconcileDeletion (hcsm : csm.key = key) (hkey : l.key = some key)
    (hfresh : l.fresh = false) (hdeleting : l.deleting = true) :
    watchers.Obeys (reconcileDeletion csm) l fun _ _ => True := by
  refine obeys_reconcileDeletion (F := fun _ => True) watchers_noise (fun _ _ _ _ => trivial) trivial
    (fun _ _ _ => trivial) fun l₁ h₁ => ?_
  obtain rfl := h₁ hfresh
  have hasks : Asks Unwatched (fun _ => True) (removeFinalizer csm) := by
    unfold removeFinalizer
    refine .ite (.bind (.ask (.updateCSM _) rfl) fun r => ?_) (.pure trivial)
    match r with
    | .error e => exact .pure trivial
    | .ok cr => exact .pure trivial
  refine watchers_frames.obeys hasks fun err l₂ _ h₂ => ?_
  obtain rfl := h₂ hfresh
  exact ⟨fun _ => trivial, fun _ => watchers_finishDeletion hcsm hkey hfresh hdeleting⟩

theorem watchers_updateCSM (hcsm : csm.key = key) :
    watchers.Obeys (updateCSM csm) l (Reply (fun cr l' => cr.key = key ∧ l' = l) fun _ => True) := by
  refine Monitor.Obeys.call_iff.mpr ⟨nofun, fun r hr => Monitor.Obeys.ret_iff.mpr ?_⟩
  match r with
  | .error e => trivial
  | .ok cr =>
      have hr : cr.key = csm.key := hr
      exact ⟨hr.trans hcsm, rfl⟩

theorem watchers_reconcileInstall (hcsm : csm.key = key) (hl : Installing key l) :
    watchers.Obeys (reconcileInstall rt csm) l fun _ _ => True := by
  let V : ContainerStorageModule → Watcher → Prop := fun cr l' => cr.key = key ∧ l' = l
  refine obeys_reconcileInstall (V := V) (W := V) (F := fun _ => True) watchers_noise
    (fun _ _ _ _ => trivial) ?_ ⟨hcsm, rfl⟩ (fun _ _ _ => trivial) (watchers_updateCSM hcsm) ?_ ?_
  · rintro cr _ l' h ⟨hcr, rfl⟩
    exact ⟨hcr, h hl.fresh⟩
  · rintro cr _ ⟨hcr, rfl⟩
    obtain ⟨annotations, hann⟩ := applyConfigVersionAnnotations_fst rt.op cr
    have hcr' : (applyConfigVersionAnnotations rt.op cr).1.key = key := by
      rw [hann]
      exact hcr
    unfold recordVersion
    split
    next cr' heq =>
      rw [heq] at hcr'
      exact Monitor.Obeys.pure_iff.mpr ⟨hcr', rfl⟩
    next cr' heq =>
      rw [heq] at hcr'
      exact watchers_updateCSM hcr'
  · rintro cr _ ⟨hcr, rfl⟩
    exact watchers_syncAndFinish hcr hl

/-- What a thread starts with. -/
def Entry.firstWatcher : Entry → Watcher
  | .reconcile key => { key := some key }
  | .update _ _ => { key := none }

theorem watchers_program (ent : Entry) :
    watchers.Obeys (ent.program rt) ent.firstWatcher fun _ _ => True := by
  cases ent with
  | update csmName e =>
      exact watchers_statusWork.obeys (statusWork_informerUpdate csmName e) fun _ _ _ _ => trivial
  | reconcile key =>
      have hbody : watchers.Obeys (reconcile rt key) (Entry.firstWatcher (.reconcile key))
          fun _ _ => True := by
        refine obeys_reconcile nofun (fun _ _ => trivial) fun cr hcr => ?_
        have hcr : cr.key = key := hcr
        refine obeys_reconcileRead (fun _ _ => trivial) fun csm hcsm => ?_
        obtain ⟨spec, rfl⟩ := prepare_eq hcsm
        refine obeys_reconcilePrepared watchers_noise ?_ ?_
        · intro cr' e l₁ _ _
          exact watchers_statusWork.obeys (statusWork_handleValidationError e) fun _ _ _ _ => trivial
        · intro l₁ h₁ _
          obtain rfl := h₁ rfl
          obtain ⟨spec', hspec'⟩ := afterDriverPrecheck_eq { cr with spec }
          rw [hspec']
          split
          next hdeleting =>
            refine watchers_reconcileDeletion hcr rfl rfl ?_
            show (cr.isBeingDeleted && decide (some key = some key)) = true
            rw [decide_eq_true rfl, Bool.and_true]
            exact hdeleting
          next hdeleting =>
            refine watchers_reconcileInstall hcr ⟨rfl, rfl, ?_, rfl⟩
            show (cr.isBeingDeleted && decide (some key = some key)) = false
            rw [decide_eq_true rfl, Bool.and_true]
            exact Bool.not_eq_true _ ▸ hdeleting
      refine hbody.bind fun ⟨result, err⟩ l₁ _ => ?_
      exact Monitor.Obeys.call_iff.mpr ⟨nofun, fun _ _ => Monitor.Obeys.ret_iff.mpr trivial⟩

/-! ## All interleavings -/

/-- The condition on a run: a reconcile of a CR starts only when no other one of it is running, and one
that has seen its CR being deleted closes a channel only when no CR of that name in another namespace
is installed or being reconciled. -/
def NamesApart : Threads → Move Api World Entry → Prop
  | ps, .spawn (.reconcile key) => ¬ Reconciling ps key
  | ps, .act i e => ∀ ch r key p cr, e = ⟨.closeChannel ch, r⟩ →
      ps.threads[i]? = some (.reconcile key, p) →
      (i, (⟨.getCSM key, .ok cr⟩ : Event Api)) ∈ ps.log → cr.isBeingDeleted = true →
      ∀ key', key'.name = key.name → key' ≠ key →
        installed ps.log key' = false ∧ ¬ Reconciling ps key'
  | _, _ => True

/-- What the state of a thread means. -/
structure WatcherTrue (w : World) (log : List (Nat × Event Api)) (i : Nat) (ent : Entry)
    (p : Op Unit) (l : Watcher) : Prop where
  key : l.key = ent.reconciles
  /-- its own watch is running, and nobody finds it in the map -/
  own : ∀ c, l.own = some c → (∃ key, l.key = some key ∧ w.watches[c]? = some (key.name, true)) ∧
    ∀ name, w.channels name ≠ some c
  /-- what it has found is a watch of its name -/
  loaded : ∀ c, l.loaded = some c → ∃ key b, l.key = some key ∧ w.watches[c]? = some (key.name, b)
  stored : l.stored = true → (l.deleting = false ∧ l.fresh = false) ∧
    (Running p → ∀ key, l.key = some key → Watched w key.name)
  deleting : l.deleting = true → Running p → ∀ key, l.key = some key →
    installed log key = false ∧
      ∃ cr, (i, (⟨.getCSM key, .ok cr⟩ : Event Api)) ∈ log ∧ cr.isBeingDeleted = true

variable {w w' : World} {log log' : List (Nat × Event Api)} {i : Nat} {ent : Entry} {p p' : Op Unit}

/-- What has to be looked at when the world and the log change and a thread does not. -/
theorem WatcherTrue.transport (h : WatcherTrue w log i ent p l) (hp : Running p' → Running p)
    (hlog : ∀ x ∈ log, x ∈ log')
    (hown : ∀ c, l.own = some c → w'.watches[c]? = w.watches[c]? ∧
      ∀ name, w'.channels name = some c → w.channels name = some c)
    (hnames : ∀ (c : Chan) name b, w.watches[c]? = some (name, b) → ∃ b', w'.watches[c]? = some (name, b'))
    (hwatched : l.stored = true → Running p → ∀ key, l.key = some key → Watched w key.name →
      Watched w' key.name)
    (hinstalled : l.deleting = true → Running p → ∀ key, l.key = some key →
      installed log key = false → installed log' key = false) :
    WatcherTrue w' log' i ent p' l where
  key := h.key
  own c hc := by
    obtain ⟨⟨key, hkey, hopen⟩, hfree⟩ := h.own c hc
    obtain ⟨hsame, hchannels⟩ := hown c hc
    exact ⟨⟨key, hkey, hsame.trans hopen⟩, fun name hname => hfree name (hchannels name hname)⟩
  loaded c hc := by
    obtain ⟨key, b, hkey, hc⟩ := h.loaded c hc
    obtain ⟨b', hc'⟩ := hnames c key.name b hc
    exact ⟨key, b', hkey, hc'⟩
  stored hs := by
    obtain ⟨hdeleting, hw⟩ := h.stored hs
    exact ⟨hdeleting, fun hrun key hkey => hwatched hs (hp hrun) key hkey (hw (hp hrun) key hkey)⟩
  deleting hd hrun key hkey := by
    obtain ⟨hno, cr, hmem, hcr⟩ := h.deleting hd (hp hrun) key hkey
    exact ⟨hinstalled hd (hp hrun) key hkey hno, cr, hlog _ hmem, hcr⟩

/-- What holds of a pool and the states of its threads. -/
structure WatchesOk (ps : Threads) (ls : List Watcher) : Prop where
  length : ps.threads.length = ls.length
  keyed : ps.world.KeyStored
  /-- the map has watches under their own names -/
  typed : ∀ name c, ps.world.channels name = some c → ∃ b, ps.world.watches[c]? = some (name, b)
  watched : ∀ key, installed ps.log key = true → Watched ps.world key.name
  alone : ∀ (i j : Nat) key p p', ps.threads[i]? = some (.reconcile key, p) →
    ps.threads[j]? = some (.reconcile key, p') → Running p → Running p' → i = j
  thread : ∀ (i : Nat) ent p l, ps.threads[i]? = some (ent, p) → ls[i]? = some l →
    WatcherTrue ps.world ps.log i ent p l
  /-- a watch that is not in the map is known to one thread only -/
  apart : ∀ (i j : Nat) l l' c, ls[i]? = some l → ls[j]? = some l' → l.own = some c →
    l'.loaded ≠ some c ∧ (l'.own = some c → i = j)

/-- A watch that is closed leaves the others as they are. -/
theorem watched_close {c : Chan} {name other : String} (hopen : w.watches[c]? = some (name, true))
    (hne : other ≠ name) (h : Watched w other) :
    Watched { w with watches := w.watches.set c (name, false) } other := by
  obtain ⟨j, hj⟩ := List.mem_iff_getElem?.mp h
  refine List.mem_iff_getElem?.mpr ⟨j, ?_⟩
  have hjc : c ≠ j := by
    rintro rfl
    rw [hopen] at hj
    cases hj
    exact hne rfl
  rw [List.getElem?_set_ne hjc]
  exact hj

section Act

variable {ps : Threads} {ls : List Watcher} {q : Request} {r : q.Answer} {k : q.Answer → Op Unit}
  {ch : World.Choice} {l' : Watcher}

/-- A call of thread `i` leaves what is to be shown: the map and the installed CRs, the thread itself,
and the others. -/
theorem WatchesOk.act (hJ : WatchesOk ps ls) (ht : ps.threads[i]? = some (ent, .call q k))
    (hl : ls[i]? = some l) (hr : ps.world.respond q ch = some (r, w'))
    (htyped : ∀ name c, w'.channels name = some c → ∃ b, w'.watches[c]? = some (name, b))
    (hwatched : ∀ key, installed (ps.log ++ [(i, ⟨q, r⟩)]) key = true → Watched w' key.name)
    (hself : WatcherTrue w' (ps.log ++ [(i, ⟨q, r⟩)]) i ent (k r) l')
    (hothers : ∀ j ent' p l'', j ≠ i → ps.threads[j]? = some (ent', p) → ls[j]? = some l'' →
      WatcherTrue w' (ps.log ++ [(i, ⟨q, r⟩)]) j ent' p l'')
    (hown : ∀ c, l'.own = some c → l'.loaded ≠ some c ∧
      ∀ (j : Nat) l'', j ≠ i → ls[j]? = some l'' → l''.loaded ≠ some c ∧ l''.own ≠ some c)
    (hloaded : ∀ c, l'.loaded = some c → ∀ (j : Nat) l'', j ≠ i → ls[j]? = some l'' →
      l''.own ≠ some c) :
    WatchesOk (ps.afterAct i ent (k r) ⟨q, r⟩ w') (ls.set i l') := by
  have hi : i < ps.threads.length := (List.getElem?_eq_some_iff.mp ht).1
  have hi' : i < ls.length := (List.getElem?_eq_some_iff.mp hl).1
  -- a thread that runs was running before
  have hbefore : ∀ (j : Nat) ent' p, (ps.threads.set i (ent, k r))[j]? = some (ent', p) →
      ∃ p', ps.threads[j]? = some (ent', p') ∧ (Running p → Running p') := by
    intro j ent' p hj
    by_cases hji : j = i
    · subst hji
      rw [List.getElem?_set_self hi] at hj
      cases hj
      exact ⟨_, ht, fun _ => ⟨q, k, rfl⟩⟩
    · rw [List.getElem?_set_ne (Ne.symm hji)] at hj
      exact ⟨p, hj, fun hrun => hrun⟩
  refine ⟨?_, World.keyStored_of_respond hJ.keyed hr, htyped, hwatched, ?_, ?_, ?_⟩
  · rw [Pool.afterAct, List.length_set, List.length_set, hJ.length]
  · intro a b key p p' ha hb hrun hrun'
    obtain ⟨_, ha', hrun₁⟩ := hbefore a _ p ha
    obtain ⟨_, hb', hrun₂⟩ := hbefore b _ p' hb
    exact hJ.alone a b key _ _ ha' hb' (hrun₁ hrun) (hrun₂ hrun')
  · intro j ent' p l'' hj hlj
    by_cases hji : j = i
    · subst hji
      rw [Pool.afterAct, List.getElem?_set_self hi] at hj
      rw [List.getElem?_set_self hi'] at hlj
      cases hj
      cases hlj
      exact hself
    · rw [Pool.afterAct, List.getElem?_set_ne (Ne.symm hji)] at hj
      rw [List.getElem?_set_ne (Ne.symm hji)] at hlj
      exact hothers j ent' p l'' hji hj hlj
  · intro a b la lb c ha hb hc
    by_cases hai : a = i
    · subst hai
      rw [List.getElem?_set_self hi'] at ha
      cases ha
      by_cases hbi : b = a
      · subst hbi
        rw [List.getElem?_set_self hi'] at hb
        cases hb
        exact ⟨(hown c hc).1, fun _ => rfl⟩
      · rw [List.getElem?_set_ne (Ne.symm hbi)] at hb
        obtain ⟨hload, hne⟩ := (hown c hc).2 b lb hbi hb
        exact ⟨hload, fun hc' => absurd hc' hne⟩
    · rw [List.getElem?_set_ne (Ne.symm hai)] at ha
      by_cases hbi : b = i
      · subst hbi
        rw [List.getElem?_set_self hi'] at hb
        cases hb
        refine ⟨fun hc' => hloaded c hc' a la hai ha hc, fun hc' => ?_⟩
        exact absurd hc ((hown c hc').2 a la hai ha).2
      · rw [List.getElem?_set_ne (Ne.symm hbi)] at hb
        exact hJ.apart a b la lb c ha hb hc

theorem allows_completes (hguard : l.Allows q) (hq : completes q = some key) :
    l.key = some key ∧ l.stored = true ∧ l.deleting = false := by
  cases q with
  | event cr type reason message => exact hguard key hq
  | _ => cases hq

theorem reconcile_of_key (h : WatcherTrue w log i ent p l) (hkey : l.key = some key) :
    ent = .reconcile key :=
  Entry.of_reconciles (h.key.symm.trans hkey)

/-- A reconcile that has seen its CR being deleted does not see it being installed. -/
theorem deleting_of_served (hJ : WatchesOk ps ls) (ht : ps.threads[i]? = some (ent, .call q k))
    (hl : ls[i]? = some l) (hguard : l.Allows q) {j : Nat} {ent' : Entry} {lj : Watcher}
    (hj : ps.threads[j]? = some (ent', p)) (hlj : ls[j]? = some lj) (hdeleting : lj.deleting = true)
    (hrun : Running p) (hkey : lj.key = some key) (hno : installed ps.log key = false) :
    installed (ps.log ++ [(i, ⟨q, r⟩)]) key = false := by
  rw [Bool.eq_false_iff]
  intro hyes
  rcases installed_of_append hyes with hold | hq
  · rw [hno] at hold
    cases hold
  · obtain ⟨hkey', -, hnot⟩ := allows_completes hguard hq
    have hent := reconcile_of_key (hJ.thread i ent _ l ht hl) hkey'
    have hent' := reconcile_of_key (hJ.thread j ent' p lj hj hlj) hkey
    subst hent hent'
    have hij := hJ.alone j i key _ _ hj ht hrun ⟨q, k, rfl⟩
    subst hij
    rw [hl] at hlj
    cases hlj
    rw [hdeleting] at hnot
    cases hnot

/-- What other threads know survives a call that keeps the map and the watches. -/
theorem watcherTrue_other (hJ : WatchesOk ps ls) (ht : ps.threads[i]? = some (ent, .call q k))
    (hl : ls[i]? = some l) (hguard : l.Allows q) {j : Nat} {ent' : Entry} {lj : Watcher}
    (hj : ps.threads[j]? = some (ent', p)) (hlj : ls[j]? = some lj)
    (hown : ∀ c, lj.own = some c → w'.watches[c]? = ps.world.watches[c]? ∧
      ∀ name, w'.channels name = some c → ps.world.channels name = some c)
    (hnames : ∀ (c : Chan) name b, ps.world.watches[c]? = some (name, b) →
      ∃ b', w'.watches[c]? = some (name, b'))
    (hwatched : lj.stored = true → Running p → ∀ key, lj.key = some key →
      Watched ps.world key.name → Watched w' key.name) (hp : Running p' → Running p) :
    WatcherTrue w' (ps.log ++ [(i, ⟨q, r⟩)]) j ent' p' lj :=
  (hJ.thread j ent' p lj hj hlj).transport hp (fun _ hx => List.mem_append_left _ hx) hown hnames
    hwatched fun hdeleting hrun _ hkey hno =>
      deleting_of_served hJ ht hl hguard hj hlj hdeleting hrun hkey hno

/-- The installs that are reported are those of threads whose watch is in the map. -/
theorem watched_of_installed (hJ : WatchesOk ps ls) (ht : ps.threads[i]? = some (ent, .call q k))
    (hl : ls[i]? = some l) (hguard : l.Allows q)
    (h : installed (ps.log ++ [(i, ⟨q, r⟩)]) key = true) : Watched ps.world key.name := by
  rcases installed_of_append h with hold | hq
  · exact hJ.watched key hold
  · obtain ⟨hkey, hstored, -⟩ := allows_completes hguard hq
    exact ((hJ.thread i ent _ l ht hl).stored hstored).2 ⟨q, k, rfl⟩ key hkey

theorem own_apart (hJ : WatchesOk ps ls) (hl : ls[i]? = some l) {c : Chan} (hc : l.own = some c) :
    l.loaded ≠ some c ∧
      ∀ (j : Nat) l'', j ≠ i → ls[j]? = some l'' → l''.loaded ≠ some c ∧ l''.own ≠ some c := by
  refine ⟨(hJ.apart i i l l c hl hl hc).1, fun j l'' hj hlj => ?_⟩
  obtain ⟨hloaded, hown⟩ := hJ.apart i j l l'' c hl hlj hc
  exact ⟨hloaded, fun hc' => hj (hown hc').symm⟩

theorem loaded_apart (hJ : WatchesOk ps ls) (hl : ls[i]? = some l) {c : Chan}
    (hc : l.loaded = some c) (j : Nat) (l'' : Watcher) (hlj : ls[j]? = some l'') :
    l''.own ≠ some c :=
  fun hc' => (hJ.apart j i l'' l c hlj hl hc').1 hc

theorem exists_thread (hJ : WatchesOk ps ls) (hl : ls[i]? = some l) :
    ∃ t, ps.threads[i]? = some t := by
  have hi : i < ps.threads.length := hJ.length ▸ (List.getElem?_eq_some_iff.mp hl).1
  exact ⟨_, List.getElem?_eq_getElem hi⟩

/-- What a thread knows survives a call that keeps the map and the watches. -/
theorem watcherTrue_quiet (hJ : WatchesOk ps ls) (ht : ps.threads[i]? = some (ent, .call q k))
    (hl : ls[i]? = some l) (hguard : l.Allows q) (hr : ps.world.respond q ch = some (r, w'))
    (hq : ¬ World.Rewires q) {j : Nat} {ent' : Entry} {lj : Watcher}
    (hj : ps.threads[j]? = some (ent', p)) (hlj : ls[j]? = some lj) (hp : Running p' → Running p) :
    WatcherTrue w' (ps.log ++ [(i, ⟨q, r⟩)]) j ent' p' lj := by
  obtain ⟨hchannels, hwatches⟩ := World.wiring_of_respond hq hr
  refine watcherTrue_other hJ ht hl hguard hj hlj (fun c _ => ?_) (fun c name b hc => ?_)
    (fun _ _ key _ h => ?_) hp
  · rw [hwatches, hchannels]
    exact ⟨rfl, fun _ h => h⟩
  · rw [hwatches]
    exact ⟨b, hc⟩
  · rw [Watched, hwatches]
    exact h

/-- After such a call only the thread itself is left to look at. -/
theorem watchesOk_of_self (hJ : WatchesOk ps ls) (ht : ps.threads[i]? = some (ent, .call q k))
    (hl : ls[i]? = some l) (hguard : l.Allows q) (hr : ps.world.respond q ch = some (r, w'))
    (hq : ¬ World.Rewires q) (hself : WatcherTrue w' (ps.log ++ [(i, ⟨q, r⟩)]) i ent (k r) l')
    (hown : ∀ c, l'.own = some c → l'.loaded ≠ some c ∧
      ∀ (j : Nat) l'', j ≠ i → ls[j]? = some l'' → l''.loaded ≠ some c ∧ l''.own ≠ some c)
    (hloaded : ∀ c, l'.loaded = some c → ∀ (j : Nat) l'', j ≠ i → ls[j]? = some l'' →
      l''.own ≠ some c) :
    WatchesOk (ps.afterAct i ent (k r) ⟨q, r⟩ w') (ls.set i l') := by
  obtain ⟨hchannels, hwatches⟩ := World.wiring_of_respond hq hr
  refine hJ.act ht hl hr (fun name c hc => ?_) (fun key hkey => ?_) hself
    (fun j ent' p l'' _ hj hlj => watcherTrue_quiet hJ ht hl hguard hr hq hj hlj fun h => h) hown
    hloaded
  · rw [hchannels] at hc
    rw [hwatches]
    exact hJ.typed name c hc
  · rw [Watched, hwatches]
    exact watched_of_installed hJ ht hl hguard hkey

/-- A thread that stays as it is. -/
theorem watchesOk_same (hJ : WatchesOk ps ls) (ht : ps.threads[i]? = some (ent, .call q k))
    (hl : ls[i]? = some l) (hguard : l.Allows q) (hr : ps.world.respond q ch = some (r, w'))
    (hq : ¬ World.Rewires q) :
    WatchesOk (ps.afterAct i ent (k r) ⟨q, r⟩ w') (ls.set i l) :=
  watchesOk_of_self hJ ht hl hguard hr hq
    (watcherTrue_quiet hJ ht hl hguard hr hq ht hl fun _ => ⟨q, k, rfl⟩)
    (fun _ hc => own_apart hJ hl hc) fun _ hc j l'' _ hlj => loaded_apart hJ hl hc j l'' hlj

end Act

section Calls

variable {ps : Threads} {ls : List Watcher} {ch : World.Choice}

/-- The first read tells whether the CR is being deleted. -/
theorem watchesOk_getCSM {r : Except GoError ContainerStorageModule}
    {k : Except GoError ContainerStorageModule → Op Unit} (hJ : WatchesOk ps ls)
    (ht : ps.threads[i]? = some (ent, .call (.getCSM key) k)) (hl : ls[i]? = some l)
    (hguard : l.Allows (.getCSM key)) (hr : ps.world.respond (.getCSM key) ch = some (r, w')) :
    WatchesOk (ps.afterAct i ent (k r) ⟨.getCSM key, r⟩ w') (ls.set i (l.follow (.getCSM key) r)) := by
  have hq : ¬ World.Rewires (.getCSM key) := fun h => h
  have hsame := watchesOk_same hJ ht hl hguard hr hq
  have hbase := watcherTrue_quiet hJ ht hl hguard hr hq ht hl
    fun (_ : Running (k r)) => ⟨.getCSM key, k, rfl⟩
  cases r with
  | error e => exact hsame
  | ok cr =>
      show WatchesOk _ (ls.set i (if l.fresh then _ else l))
      split
      next hfresh =>
        refine watchesOk_of_self hJ ht hl hguard hr hq ⟨hbase.key, hbase.own, hbase.loaded,
          fun hstored => ?_, fun hdeleting _ key' hkey' => ?_⟩ (fun c hc => own_apart hJ hl hc)
          fun c hc j l'' _ hlj => loaded_apart hJ hl hc j l'' hlj
        · rw [((hbase.stored hstored).1).2] at hfresh
          cases hfresh
        · rw [Bool.and_eq_true, decide_eq_true_eq] at hdeleting
          obtain rfl : key' = key := Option.some.inj (hkey'.symm.trans hdeleting.2)
          refine ⟨?_, cr, List.mem_append_right _ (List.mem_singleton_self _), hdeleting.1⟩
          rw [installed_append]
          simp [installs, hdeleting.1]
      next => exact hsame

/-- What is found in the map is a watch of that name, and nobody's own. -/
theorem watchesOk_loadChannel {name : String} {r : Option Chan} {k : Option Chan → Op Unit}
    (hJ : WatchesOk ps ls) (ht : ps.threads[i]? = some (ent, .call (.loadChannel name) k))
    (hl : ls[i]? = some l) (hguard : l.Allows (.loadChannel name))
    (hr : ps.world.respond (.loadChannel name) ch = some (r, w')) :
    WatchesOk (ps.afterAct i ent (k r) ⟨.loadChannel name, r⟩ w')
      (ls.set i (l.follow (.loadChannel name) r)) := by
  have hq : ¬ World.Rewires (.loadChannel name) := fun h => h
  have hbase := watcherTrue_quiet hJ ht hl hguard hr hq ht hl
    fun (_ : Running (k r)) => ⟨.loadChannel name, k, rfl⟩
  have hfind : ∀ c, ps.world.channels name = some c → ∀ (j : Nat) lj, ls[j]? = some lj →
      lj.own ≠ some c := by
    intro c hc j lj hlj hown
    obtain ⟨⟨ent', p⟩, hj⟩ := exists_thread hJ hlj
    exact ((hJ.thread j ent' p lj hj hlj).own c hown).2 name hc
  have hanswer := hr
  cases hr
  refine watchesOk_of_self hJ ht hl hguard hanswer hq
    ⟨hbase.key, hbase.own, fun c hc => ?_, hbase.stored, hbase.deleting⟩
    (fun c hc => ⟨fun hload => hfind c hload i l hl hc, (own_apart hJ hl hc).2⟩)
    fun c hc j l'' _ hlj => hfind c hc j l'' hlj
  obtain ⟨key, hkey, hname⟩ := Option.map_eq_some_iff.mp hguard
  obtain ⟨b, hb⟩ := hJ.typed name c hc
  exact ⟨key, b, hkey, hname ▸ hb⟩

/-- A watch that is started is known to nobody else. -/
theorem watchesOk_startInformers {name : String} {m : Int} {r : Chan} {k : Chan → Op Unit}
    (hJ : WatchesOk ps ls) (ht : ps.threads[i]? = some (ent, .call (.startInformers name m) k))
    (hl : ls[i]? = some l) (hguard : l.Allows (.startInformers name m))
    (hr : ps.world.respond (.startInformers name m) ch = some (r, w')) :
    WatchesOk (ps.afterAct i ent (k r) ⟨.startInformers name m, r⟩ w')
      (ls.set i (l.follow (.startInformers name m) r)) := by
  -- the others stay where they were
  have hold : ∀ (c : Chan) x, ps.world.watches[c]? = some x →
      (ps.world.watches ++ [(name, true)])[c]? = some x := by
    intro c x hc
    rw [List.getElem?_append_left (List.getElem?_eq_some_iff.mp hc).1]
    exact hc
  have hlast : (ps.world.watches ++ [(name, true)])[ps.world.watches.length]? = some (name, true) :=
    List.getElem?_concat_length
  have hnone : ps.world.watches[ps.world.watches.length]? = none :=
    List.getElem?_eq_none (Nat.le_refl _)
  have hloaded : ∀ (j : Nat) lj, ls[j]? = some lj → lj.loaded ≠ some ps.world.watches.length := by
    intro j lj hlj hc
    obtain ⟨⟨ent', p⟩, hj⟩ := exists_thread hJ hlj
    obtain ⟨_, _, -, hb⟩ := (hJ.thread j ent' p lj hj hlj).loaded _ hc
    rw [hnone] at hb
    cases hb
  have hown : ∀ (j : Nat) lj, ls[j]? = some lj → lj.own ≠ some ps.world.watches.length := by
    intro j lj hlj hc
    obtain ⟨⟨ent', p⟩, hj⟩ := exists_thread hJ hlj
    obtain ⟨⟨_, -, hb⟩, -⟩ := (hJ.thread j ent' p lj hj hlj).own _ hc
    rw [hnone] at hb
    cases hb
  have hkept : ∀ j ent' p p' lj, ps.threads[j]? = some (ent', p) → ls[j]? = some lj →
      (Running p' → Running p) →
      WatcherTrue { ps.world with watches := ps.world.watches ++ [(name, true)] }
        (ps.log ++ [(i, (⟨.startInformers name m, ps.world.watches.length⟩ : Event Api))])
        j ent' p' lj := by
    intro j ent' p p' lj hj hlj hp
    refine watcherTrue_other hJ ht hl hguard hj hlj (fun c hc => ⟨?_, fun _ h => h⟩)
      (fun c name' b hc => ⟨b, hold c _ hc⟩) (fun _ _ _ _ h => List.mem_append_left _ h) hp
    obtain ⟨⟨_, -, hb⟩, -⟩ := (hJ.thread j ent' p lj hj hlj).own c hc
    exact (hold c _ hb).trans hb.symm
  have hanswer := hr
  cases hr
  have hbase := hkept i ent _ (k ps.world.watches.length) l ht hl
    fun _ => ⟨.startInformers name m, k, rfl⟩
  refine hJ.act ht hl hanswer (fun name' c hc => ?_) (fun key hkey => ?_)
    ⟨hbase.key, fun c hc => ?_, hbase.loaded, hbase.stored, hbase.deleting⟩
    (fun j ent' p l'' _ hj hlj => hkept j ent' p p l'' hj hlj fun h => h) (fun c hc => ?_)
    fun c hc j l'' _ hlj => loaded_apart hJ hl hc j l'' hlj
  · obtain ⟨b, hb⟩ := hJ.typed name' c hc
    exact ⟨b, hold c _ hb⟩
  · exact List.mem_append_left _ (watched_of_installed hJ ht hl hguard hkey)
  · obtain rfl : ps.world.watches.length = c := Option.some.inj hc
    obtain ⟨key, hkey, hname⟩ := Option.map_eq_some_iff.mp hguard.2
    refine ⟨⟨key, hkey, hname ▸ hlast⟩, fun name' hc' => ?_⟩
    obtain ⟨b, hb⟩ := hJ.typed name' _ hc'
    rw [hnone] at hb
    cases hb
  · obtain rfl : ps.world.watches.length = c := Option.some.inj hc
    exact ⟨hloaded i l hl, fun j l'' _ hlj => ⟨hloaded j l'' hlj, hown j l'' hlj⟩⟩

/-- The own watch goes into the map. -/
theorem watchesOk_storeChannel {name : String} {c : Chan} {r : Unit} {k : Unit → Op Unit}
    (hJ : WatchesOk ps ls) (ht : ps.threads[i]? = some (ent, .call (.storeChannel name c) k))
    (hl : ls[i]? = some l) (hguard : l.Allows (.storeChannel name c))
    (hr : ps.world.respond (.storeChannel name c) ch = some (r, w')) :
    WatchesOk (ps.afterAct i ent (k r) ⟨.storeChannel name c, r⟩ w')
      (ls.set i (l.follow (.storeChannel name c) r)) := by
  obtain ⟨hc, hname, hdeleting, hfresh⟩ := hguard
  obtain ⟨⟨key, hkey, hopen⟩, -⟩ := (hJ.thread i ent _ l ht hl).own c hc
  have hname : key.name = name := by
    rw [hkey] at hname
    exact Option.some.inj hname
  have hguard : l.Allows (.storeChannel name c) := by
    refine ⟨hc, ?_, hdeleting, hfresh⟩
    rw [hkey, ← hname]
    rfl
  have hanswer := hr
  cases hr
  have hself := hJ.thread i ent _ l ht hl
  refine hJ.act ht hl hanswer (fun name' c' hc' => ?_) (fun key' hkey' => ?_)
    ⟨hself.key, fun _ h => (nomatch h), hself.loaded,
      fun _ => ⟨⟨hdeleting, hfresh⟩, fun _ key' hkey' => ?_⟩, fun h => ?_⟩
    (fun j ent' p l'' hj hthread hlj => ?_) (fun _ h => nomatch h)
    fun c' hc' j l'' _ hlj => loaded_apart hJ hl hc' j l'' hlj
  · have hc' : Function.update ps.world.channels name (some c) name' = some c' := hc'
    by_cases hn : name' = name
    · subst hn
      rw [Function.update_self] at hc'
      cases hc'
      exact ⟨true, hname ▸ hopen⟩
    · rw [Function.update_of_ne hn] at hc'
      exact hJ.typed name' c' hc'
  · exact watched_of_installed hJ ht hl hguard hkey'
  · obtain rfl : key = key' := Option.some.inj (hkey.symm.trans hkey')
    exact List.mem_iff_getElem?.mpr ⟨c, hopen⟩
  · exact absurd (hdeleting.symm.trans h) nofun
  · refine watcherTrue_other hJ ht hl hguard hthread hlj (fun c' hc' => ⟨rfl, fun name' h => ?_⟩)
      (fun _ _ b h => ⟨b, h⟩) (fun _ _ _ _ h => h) fun h => h
    have h : Function.update ps.world.channels name (some c) name' = some c' := h
    by_cases hn : name' = name
    · subst hn
      rw [Function.update_self] at h
      cases h
      exact absurd hc' ((own_apart hJ hl hc).2 j l'' hj hlj).2
    · rw [Function.update_of_ne hn] at h
      exact h

/-- A name that leaves the map takes no watch with it. -/
theorem watchesOk_deleteChannel {name : String} {r : Unit} {k : Unit → Op Unit}
    (hJ : WatchesOk ps ls) (ht : ps.threads[i]? = some (ent, .call (.deleteChannel name) k))
    (hl : ls[i]? = some l) (hguard : l.Allows (.deleteChannel name))
    (hr : ps.world.respond (.deleteChannel name) ch = some (r, w')) :
    WatchesOk (ps.afterAct i ent (k r) ⟨.deleteChannel name, r⟩ w') (ls.set i l) := by
  have hfind : ∀ name' c, Function.update ps.world.channels name none name' = some c →
      ps.world.channels name' = some c := by
    intro name' c hc
    by_cases hn : name' = name
    · subst hn
      rw [Function.update_self] at hc
      cases hc
    · rw [Function.update_of_ne hn] at hc
      exact hc
  have hanswer := hr
  cases hr
  have hkept : ∀ j ent' p p' lj, ps.threads[j]? = some (ent', p) → ls[j]? = some lj →
      (Running p' → Running p) →
      WatcherTrue { ps.world with channels := Function.update ps.world.channels name none }
        (ps.log ++ [(i, (⟨.deleteChannel name, ()⟩ : Event Api))]) j ent' p' lj :=
    fun j ent' p p' lj hj hlj hp => watcherTrue_other hJ ht hl hguard hj hlj
      (fun c _ => ⟨rfl, fun name' h => hfind name' c h⟩) (fun _ _ b h => ⟨b, h⟩)
      (fun _ _ _ _ h => h) hp
  exact hJ.act ht hl hanswer (fun name' c hc => hJ.typed name' c (hfind name' c hc))
    (fun _ hkey => watched_of_installed hJ ht hl hguard hkey)
    (hkept i ent _ (k ()) l ht hl fun _ => ⟨.deleteChannel name, k, rfl⟩)
    (fun j ent' p l'' _ hj hlj => hkept j ent' p p l'' hj hlj fun h => h)
    (fun _ hc => own_apart hJ hl hc) fun _ hc j l'' _ hlj => loaded_apart hJ hl hc j l'' hlj

/-- A channel that is closed stops a watch of the name of the thread's own CR. Either the thread has
another one running, or its CR is being deleted and nobody else needs the watch. -/
theorem watchesOk_closeChannel {c : Chan} {r : Unit} {k : Unit → Op Unit}
    (hJ : WatchesOk ps ls) (ht : ps.threads[i]? = some (ent, .call (.closeChannel c) k))
    (hl : ls[i]? = some l) (hguard : l.Allows (.closeChannel c))
    (hr : ps.world.respond (.closeChannel c) ch = some (r, w'))
    (hapart : NamesApart ps (.act i ⟨.closeChannel c, r⟩)) :
    WatchesOk (ps.afterAct i ent (k r) ⟨.closeChannel c, r⟩ w') (ls.set i l) := by
  obtain ⟨name, hopen, hw'⟩ := World.of_closeChannel hr
  have hself := hJ.thread i ent _ l ht hl
  obtain ⟨key, b, hkey, hname⟩ := hself.loaded c hguard.1
  obtain rfl : name = key.name := (Prod.mk.inj (Option.some.inj (hopen.symm.trans hname))).1
  have hrunning : Running (.call (.closeChannel c) k) := ⟨.closeChannel c, k, rfl⟩
  have hent := reconcile_of_key hself hkey
  -- what is watched stays watched, if somebody relies on it
  have hstay : ∀ key' : NamespacedName, Watched ps.world key'.name →
      (l.deleting = true → key'.name = key.name → False) → Watched w' key'.name := by
    intro key' hwatched hno
    rw [hw']
    by_cases hn : key'.name = key.name
    · rcases hguard.2 with hown | hdeleting
      · obtain ⟨c', hc'⟩ := Option.isSome_iff_exists.mp hown
        obtain ⟨⟨key'', hkey'', hopen'⟩, -⟩ := hself.own c' hc'
        obtain rfl : key = key'' := Option.some.inj (hkey.symm.trans hkey'')
        have hne : c ≠ c' := by
          rintro rfl
          exact (own_apart hJ hl hc').1 hguard.1
        refine List.mem_iff_getElem?.mpr ⟨c', ?_⟩
        rw [List.getElem?_set_ne hne, hn]
        exact hopen'
      · exact (hno hdeleting hn).elim
    · exact watched_close hopen hn hwatched
  have hinstalled : ∀ key', installed ps.log key' = true → l.deleting = true →
      key'.name = key.name → False := by
    intro key' hyes hdeleting hn
    obtain ⟨hno, cr, hmem, hcr⟩ := hself.deleting hdeleting hrunning key hkey
    by_cases hk : key' = key
    · rw [hk, hno] at hyes
      cases hyes
    · have hno' := (hapart c r key _ cr rfl (hent ▸ ht) hmem hcr key' hn hk).1
      rw [hno'] at hyes
      cases hyes
  have hkept : ∀ j ent' p p' lj, ps.threads[j]? = some (ent', p) → ls[j]? = some lj →
      (Running p' → Running p) →
      WatcherTrue w' (ps.log ++ [(i, (⟨.closeChannel c, r⟩ : Event Api))]) j ent' p' lj := by
    intro j ent' p p' lj hj hlj hp
    refine watcherTrue_other hJ ht hl hguard hj hlj (fun c' hc' => ?_) (fun c' name' b' hc' => ?_)
      (fun hs hrun key' hkey' hwatched => ?_) hp
    · rw [hw']
      have hne : c ≠ c' := by
        rintro rfl
        exact (hJ.apart j i lj l c hlj hl hc').1 hguard.1
      exact ⟨List.getElem?_set_ne hne, fun _ h => h⟩
    · rw [hw']
      by_cases hc : c = c'
      · subst hc
        rw [hopen] at hc'
        cases hc'
        exact ⟨false, List.getElem?_set_self (List.getElem?_eq_some_iff.mp hopen).1⟩
      · exact ⟨b', (List.getElem?_set_ne hc).trans hc'⟩
    · refine hstay key' hwatched fun hdeleting hn => ?_
      obtain ⟨-, cr, hmem, hcr⟩ := hself.deleting hdeleting hrunning key hkey
      have hent' := reconcile_of_key (hJ.thread j ent' p lj hj hlj) hkey'
      by_cases hk : key' = key
      · -- the thread itself is not installing
        subst hk hent hent'
        obtain rfl := hJ.alone j i _ _ _ hj ht hrun hrunning
        rw [hl] at hlj
        cases hlj
        rw [(((hself.stored hs).1).1)] at hdeleting
        cases hdeleting
      · refine (hapart c r key _ cr rfl (hent ▸ ht) hmem hcr key' hn hk).2 ⟨j, p, ?_, hrun⟩
        rw [hj, hent']
  refine hJ.act ht hl hr (fun name' c' hc' => ?_) (fun key' hkey' => ?_)
    (hkept i ent _ (k r) l ht hl fun _ => hrunning)
    (fun j ent' p l'' _ hj hlj => hkept j ent' p p l'' hj hlj fun h => h)
    (fun _ hc => own_apart hJ hl hc) fun _ hc j l'' _ hlj => loaded_apart hJ hl hc j l'' hlj
  · rw [hw'] at hc' ⊢
    obtain ⟨b', hb'⟩ := hJ.typed name' c' hc'
    by_cases hc : c = c'
    · subst hc
      rw [hopen] at hb'
      cases hb'
      exact ⟨false, List.getElem?_set_self (List.getElem?_eq_some_iff.mp hopen).1⟩
    · exact ⟨b', (List.getElem?_set_ne hc).trans hb'⟩
  · have hold : installed ps.log key' = true := by
      rcases installed_of_append hkey' with hold | hq
      · exact hold
      · cases hq
    exact hstay key' (hJ.watched key' hold) fun hdeleting hn => hinstalled key' hold hdeleting hn

/-- Every served call keeps the invariant. -/
theorem watchesOk_served {q : Request} {r : q.Answer} {k : q.Answer → Op Unit} (hJ : WatchesOk ps ls)
    (ht : ps.threads[i]? = some (ent, .call q k)) (hl : ls[i]? = some l) (hguard : l.Allows q)
    (hr : ps.world.respond q ch = some (r, w')) (hapart : NamesApart ps (.act i ⟨q, r⟩)) :
    WatchesOk (ps.afterAct i ent (k r) ⟨q, r⟩ w') (ls.set i (l.follow q r)) := by
  cases q with
  | getCSM key => exact watchesOk_getCSM hJ ht hl hguard hr
  | loadChannel name => exact watchesOk_loadChannel hJ ht hl hguard hr
  | startInformers name m => exact watchesOk_startInformers hJ ht hl hguard hr
  | storeChannel name c => exact watchesOk_storeChannel hJ ht hl hguard hr
  | deleteChannel name => exact watchesOk_deleteChannel hJ ht hl hguard hr
  | closeChannel c => exact watchesOk_closeChannel hJ ht hl hguard hr hapart
  | _ => exact watchesOk_same hJ ht hl hguard hr fun h => h

/-- The server answers about the CR it was asked about. -/
theorem expects_served {q : Request} {r : q.Answer} (hkeyed : w.KeyStored)
    (hr : w.respond q ch = some (r, w')) : Watcher.Expects q r := by
  unfold Watcher.Expects
  split
  next key cr => exact hkeyed key cr ((World.of_getCSM hr).2 cr rfl)
  next cr cr' =>
    rcases World.of_updateCSM hr with ⟨-, e, heq⟩ | ⟨stored, -, -, heq, -⟩
    · cases heq
    · cases heq
      rfl
  next => trivial

end Calls

section Runs

variable {ps : Threads} {ls : List Watcher}

/-- A new thread has nothing to do with watches yet. -/
theorem watchesOk_spawn {ent : Entry} (hJ : WatchesOk ps ls) (hapart : NamesApart ps (.spawn ent)) :
    WatchesOk (ps.afterSpawn ent (ent.program rt)) (ls ++ [ent.firstWatcher]) := by
  have hfirst : ent.firstWatcher = { key := ent.reconciles } := by
    cases ent <;> rfl
  refine ⟨?_, hJ.keyed, hJ.typed, hJ.watched, ?_, ?_, ?_⟩
  · rw [Pool.afterSpawn, List.length_append, List.length_append, hJ.length]
    rfl
  · intro i j key p p' hi hj hrun hrun'
    -- a new reconcile finds no other one running
    have hnone : ∀ (j : Nat) p, ps.threads[j]? = some (.reconcile key, p) → Running p →
        ent ≠ .reconcile key := by
      rintro n p hn hrun rfl
      exact hapart ⟨n, p, hn, hrun⟩
    rcases Pool.getElem?_concat hi with hi | ⟨hi, heq⟩ <;> rcases Pool.getElem?_concat hj with hj | ⟨hj, heq'⟩
    · exact hJ.alone i j key p p' hi hj hrun hrun'
    · exact absurd (congrArg Prod.fst heq').symm (hnone i p hi hrun)
    · exact absurd (congrArg Prod.fst heq).symm (hnone j p' hj hrun')
    · rw [hi, hj]
  · intro i ent' p l hi hl
    rcases Pool.getElem?_concat hi with hi | ⟨hi, heq⟩ <;> rcases Pool.getElem?_concat hl with hl | ⟨hj, heq'⟩
    · exact hJ.thread i ent' p l hi hl
    · rw [hj, ← hJ.length, List.getElem?_eq_none (Nat.le_refl _)] at hi
      cases hi
    · rw [hi, hJ.length, List.getElem?_eq_none (Nat.le_refl _)] at hl
      cases hl
    · cases heq
      subst heq'
      rw [hfirst]
      refine ⟨rfl, fun _ hc => ?_, fun _ hc => ?_, fun hs => ?_, fun hd => ?_⟩
      · cases hc
      · cases hc
      · cases hs
      · cases hd
  · intro i j l l' c hl hl' hc
    rcases Pool.getElem?_concat hl with hl | ⟨-, rfl⟩
    · rcases Pool.getElem?_concat hl' with hl' | ⟨-, rfl⟩
      · exact hJ.apart i j l l' c hl hl' hc
      · rw [hfirst]
        refine ⟨fun hc' => ?_, fun hc' => ?_⟩ <;> cases hc'
    · rw [hfirst] at hc
      cases hc

/-- What happens to the CRs does not concern the watches. -/
theorem watchesOk_drift (hJ : WatchesOk ps ls) (hdrift : Drift kinds ps.world w) :
    WatchesOk { ps with world := w } ls := by
  have hchannels := hdrift.channels
  have hwatches := hdrift.watches
  have hwatched : ∀ name, Watched ps.world name → Watched w name := by
    intro name h
    rw [Watched, hwatches]
    exact h
  refine ⟨hJ.length, World.keyStored_of_drift hJ.keyed hdrift, fun name c hc => ?_,
    fun key hkey => hwatched _ (hJ.watched key hkey), hJ.alone, fun i ent p l ht hl => ?_, hJ.apart⟩
  · have hc : w.channels name = some c := hc
    rw [hchannels] at hc
    rw [hwatches]
    exact hJ.typed name c hc
  · refine (hJ.thread i ent p l ht hl).transport (fun h => h) (fun _ h => h) (fun c _ => ?_)
      (fun c name b hc => ?_) (fun _ _ key _ h => hwatched _ h) fun _ _ _ _ h => h
    · rw [hwatches, hchannels]
      exact ⟨rfl, fun _ h => h⟩
    · rw [hwatches]
      exact ⟨b, hc⟩

theorem watchesOk_empty {w₀ : World} (hkeyed : w₀.KeyStored)
    (hchannels : ∀ name, w₀.channels name = none) : WatchesOk (Pool.empty w₀) [] where
  length := rfl
  keyed := hkeyed
  typed name c hc := by
    rw [show (Pool.empty w₀ : Threads).world.channels name = none from hchannels name] at hc
    cases hc
  watched _ h := nomatch h
  alone _ _ _ _ _ h := nomatch h
  thread _ _ _ _ h := nomatch h
  apart _ _ _ _ _ h := nomatch h

/-- After every run that keeps the names apart, a CR whose install was completed and that was not seen
being deleted since has an open stop channel of a running watch, and that watch hands on the updates of
the objects labelled with the CR. -/
theorem installed_is_watched {w₀ : World} (hkeyed : w₀.KeyStored)
    (hchannels : ∀ name, w₀.channels name = none)
    (hrun : Pool.Reach (environment kinds) (Entry.program rt) NamesApart (Pool.empty w₀) ps)
    (hinstalled : installed ps.log key = true) (hname : key.name ≠ "") (hnamesp : key.namesp ≠ "") :
    ∃ c : Chan, ps.world.watches[c]? = some (key.name, true) ∧
      ∀ e : UpdateEvent, e.oldObj.csmLabels.bind (· csmLabel) = some key.name →
        e.oldObj.csmLabels.bind (· csmNamespaceLabel) = some key.namesp →
        informerUpdate rt key.name e = e.handler rt := by
  have hghost := hrun.exists_ghost watchers Entry.firstWatcher (fun _ ent _ => watchers_program ent)
    WatchesOk (watchesOk_empty hkeyed hchannels) (fun _ _ _ hJ _ hok => watchesOk_spawn hJ hok)
    (fun _ _ _ hJ _ hdrift => watchesOk_drift hJ hdrift)
    fun _ _ _ _ _ _ _ _ _ _ hJ ht hl hguard hr hok =>
      ⟨expects_served hJ.keyed hr, watchesOk_served hJ ht hl hguard hr hok⟩
  obtain ⟨ls, -, hJ⟩ := hghost
  obtain ⟨c, hc⟩ := List.mem_iff_getElem?.mp (hJ.watched key hinstalled)
  exact ⟨c, hc, fun e hlabel hlabel' => informerUpdate_eq_handler hlabel hlabel' hname hnamesp⟩

end Runs

/-! ### Two CRs of one name -/

/-- A PowerScale driver called `isilon`. -/
def namesake (namesp : String) : ContainerStorageModule :=
  { isilonCR with
    namesp
    spec := { driver := { csiDriverType := .powerScale, configVersion := "v2.16.0" } } }

/-- A cluster in which the drivers of two namespaces are up. -/
def namesakeCluster : Cluster where
  deployments := ["dell", "edge"].map fun namesp =>
    { name := "isilon-controller", namesp, replicas := some 2, statusReplicas := 2
      readyReplicas := 2, availableReplicas := 2 }
  daemonSets := ["dell", "edge"].map fun namesp =>
    { name := "isilon-node", namesp, desiredNumberScheduled := 1 }
  pods := ["dell", "edge"].map fun namesp =>
    { name := "isilon-node-x7k2p", namesp
      labels := some fun k => if k = "app" then some "isilon-node" else labelsFor ⟨namesp, "isilon"⟩ k
      conditions := [⟨"Ready", .true⟩] }

def namesakeWorld : World := .storing [namesake "dell", namesake "edge"] namesakeCluster

/-- No read has seen a CR that is being deleted. -/
def noDeletionSeen (ps : Threads) (_ : Nat) (_ : Event Api) : Bool :=
  ps.log.all fun x => match x.2 with
    | ⟨.getCSM _, .ok cr⟩ => !cr.isBeingDeleted
    | _ => true

theorem noDeletionSeen_sound (ps : Threads) (i : Nat) (e : Event Api)
    (h : noDeletionSeen ps i e = true) : NamesApart ps (.act i e) := by
  intro ch r key p cr _ _ hmem hcr
  have hseen : (!cr.isBeingDeleted) = true := List.all_eq_true.mp h _ hmem
  rw [hcr] at hseen
  cases hseen

/-- The two CRs are installed one after the other. -/
def namesakesInstalled : Threads :=
  startAndRun isilonKinds shippedRuntime noDeletionSeen (.reconcile ⟨"edge", "isilon"⟩) (smooth 60)
    (startAndRun isilonKinds shippedRuntime noDeletionSeen (.reconcile ⟨"dell", "isilon"⟩) (smooth 60)
      (Pool.empty namesakeWorld))

theorem keyStored_namesakeWorld : namesakeWorld.KeyStored :=
  fun _ _ h => (World.of_storing h).2

theorem reach_namesakesInstalled {Ok : Threads → Move Api World Entry → Prop}
    (hspawn : ∀ ps key, allDone ps = true → Ok ps (.spawn (.reconcile key)))
    (hact : ∀ ps i e, noDeletionSeen ps i e = true → Ok ps (.act i e)) :
    Pool.Reach (environment isilonKinds) (Entry.program shippedRuntime) Ok
      (Pool.empty namesakeWorld) namesakesInstalled := by
  refine reach_startAndRun (reach_startAndRun .refl (hspawn _ _ rfl) hact) (hspawn _ _ ?_) hact
  decide +kernel

/-- The theorem for the CR that was installed first. -/
theorem installed_is_watched_twice :
    ∃ c : Chan, namesakesInstalled.world.watches[c]? = some ("isilon", true) ∧
      ∀ e : UpdateEvent, e.oldObj.csmLabels.bind (· csmLabel) = some "isilon" →
        e.oldObj.csmLabels.bind (· csmNamespaceLabel) = some "dell" →
        informerUpdate shippedRuntime "isilon" e = e.handler shippedRuntime := by
  have hinstalled : installed namesakesInstalled.log ⟨"dell", "isilon"⟩ = true := by decide +kernel
  have hrun : Pool.Reach (environment isilonKinds) (Entry.program shippedRuntime) NamesApart
      (Pool.empty namesakeWorld) namesakesInstalled :=
    reach_namesakesInstalled (fun _ key h => not_reconciling h key) noDeletionSeen_sound
  exact installed_is_watched keyStored_namesakeWorld (fun _ => rfl) hrun hinstalled (by decide)
    (by decide)

/-- One worker for a key, and events of watches that are running. -/
def Scheduled : Threads → Move Api World Entry → Prop
  | ps, .spawn (.reconcile key) => ¬ Reconciling ps key
  | ps, .spawn ent => ent.Possible ps.world
  | _, _ => True

/-- The second CR is deleted. -/
def namesakeDeleted : Threads :=
  { namesakesInstalled with world := namesakesInstalled.world.delete ⟨"edge", "isilon"⟩ }

/-- Its reconcile has run. -/
def namesakeGone : Threads :=
  startAndRun isilonKinds shippedRuntime (fun _ _ _ => true) (.reconcile ⟨"edge", "isilon"⟩)
    (smooth 60) namesakeDeleted

/-- The CR that stays is installed and is not being deleted, and its watch was stopped. -/
theorem installed_without_watch :
    Pool.Reach (environment isilonKinds) (Entry.program shippedRuntime) Scheduled
      (Pool.empty namesakeWorld) namesakeGone ∧
    installed namesakeGone.log ⟨"dell", "isilon"⟩ = true ∧
    (namesakeGone.world.crs ⟨"dell", "isilon"⟩).map (·.isBeingDeleted) = some false ∧
    ∀ c : Chan, namesakeGone.world.watches[c]? ≠ some ("isilon", true) := by
  have hinstalled : Pool.Reach (environment isilonKinds) (Entry.program shippedRuntime) Scheduled
      (Pool.empty namesakeWorld) namesakesInstalled :=
    reach_namesakesInstalled (fun _ key h => not_reconciling h key) fun _ _ _ _ => trivial
  have hbounded : namesakesInstalled.world.Bounded :=
    bounded_of_reach hinstalled (World.bounded_storing (by decide))
  have hdeleted : Pool.Reach (environment isilonKinds) (Entry.program shippedRuntime) Scheduled
      (Pool.empty namesakeWorld) namesakeDeleted := by
    refine hinstalled.tail (m := .drift namesakeDeleted.world) trivial
      (.drift (drift_delete hbounded fun cr => World.fitsKey_of_all ?_))
    decide +kernel
  have hunwatched : ¬ Watched namesakeGone.world "isilon" := by decide +kernel
  refine ⟨reach_startAndRun hdeleted (not_reconciling ?_ _) fun _ _ _ _ => trivial,
    by decide +kernel, by decide +kernel, fun c hc => hunwatched (List.mem_of_getElem? hc)⟩
  decide +kernel

end CsmOperator
