import CsmOperator.Concurrency.Watches
import CsmOperator.Controllers.Sections
import Mathlib.Data.List.Induction

/-!
# Stop channels have one owner

Every content watch has a stop channel. A reconcile makes it, puts it into `ContentWatchChannels`
under the name of its CR, and from there it is taken, and closed, by the next reconcile or deletion of
a CR of that name. The map is only touched under `ContentWatchLock`.

A goroutine is followed by a `Keeper`: the channel it has made and not stored, and where it is in a
section of `ContentWatchLock`. The invariant `Kept` says that an open channel is in the map or in one
goroutine's hands, and that what is in the map is open unless the goroutine in the section has just
closed it. Nothing is assumed about the CRs, the cluster or the order in which goroutines are started;
in particular reconciles of one name, or of one CR, may overlap.
-/

namespace CsmOperator

open Interaction

/-! ## The keeper of a goroutine -/

/-- Where a goroutine is with respect to the sections of `ContentWatchLock`. -/
inductive Phase where
  | outside
  | inside
  /-- the map has been looked up -/
  | found (name : String) (stopCh : Option Chan)
  /-- the channel found has been closed and is still in the map -/
  | closed (name : String) (stopCh : Chan)

structure Keeper where
  /-- the channel made and not yet stored, with the name of its CR -/
  own : Option (String × Chan) := none
  phase : Phase := .outside

namespace Keeper

/-- What the code asks about stop channels, and when. -/
def Allows (l : Keeper) : Request → Prop
  | .lock .contentWatch => l.phase = .outside
  | .unlock .contentWatch => l.phase = .inside ∨ ∃ name, l.phase = .found name none
  | .startInformers _ _ => l.own = none ∧ l.phase = .outside
  | .loadChannel _ => l.phase = .inside
  | .closeChannel c => ∃ name, l.phase = .found name (some c)
  | .deleteChannel name => ∃ c, l.phase = .closed name c
  | .storeChannel name c =>
    l.own = some (name, c) ∧ (l.phase = .found name none ∨ ∃ c', l.phase = .closed name c')
  | .panic => l.own = none ∧ l.phase = .outside
  | _ => True

def follow (l : Keeper) : (q : Request) → q.Answer → Keeper
  | .lock .contentWatch, _ => { l with phase := .inside }
  | .unlock .contentWatch, _ => { l with phase := .outside }
  | .startInformers name _, c => { l with own := some (name, c) }
  | .loadChannel name, r => { l with phase := .found name r }
  | .closeChannel c, _ =>
    match l.phase with
    | .found name _ => { l with phase := .closed name c }
    | _ => l
  | .deleteChannel _, _ => { l with phase := .inside }
  | .storeChannel _ _, _ => { own := none, phase := .inside }
  | _, _ => l

end Keeper

def keepers : Monitor Api Keeper where
  guard := Keeper.Allows
  assume _ _ _ := True
  next := Keeper.follow

theorem keepers_idles : keepers.Idles {} Plain := by
  intro q hq
  cases q <;> first | exact hq.elim | exact ⟨trivial, fun _ => rfl⟩ | exact ⟨⟨rfl, rfl⟩, fun _ => rfl⟩

theorem keepers_bracket {m : Mutex} (hm : m ≠ .contentWatch) : Bracket keepers m {} {} where
  enter := by
    cases m <;> first | exact (hm rfl).elim | exact ⟨trivial, fun _ => rfl⟩
  leave := by
    cases m <;> first | exact (hm rfl).elim | exact ⟨trivial, fun _ => rfl⟩
  idles := keepers_idles

theorem keepers_unlock {l : Keeper} (h : l.phase = .inside ∨ ∃ name, l.phase = .found name none) :
    keepers.Obeys (unlock .contentWatch) l fun _ l' => l' = { l with phase := .outside } :=
  Monitor.Obeys.call_iff.mpr ⟨h, fun _ _ => Monitor.Obeys.ret_iff.mpr rfl⟩

theorem keepers_stopWatch (name : String) : keepers.Neutral (stopWatch name) {} := by
  refine obeys_ask_bind (.lock .contentWatch) rfl fun _ _ => ?_
  refine obeys_ask_bind (.loadChannel name) rfl fun r _ => ?_
  match r with
  | none => exact keepers_unlock (.inr ⟨name, rfl⟩)
  | some c =>
      refine obeys_ask_bind (.closeChannel c) ⟨name, rfl⟩ fun _ _ => ?_
      exact obeys_ask_bind (.deleteChannel name) ⟨c, rfl⟩ fun _ _ => keepers_unlock (.inl rfl)

theorem keepers_installWatch (name : String) (stop : Chan) :
    keepers.Obeys (installWatch name stop) { own := some (name, stop) } fun _ l => l = {} := by
  refine obeys_ask_bind (.lock .contentWatch) rfl fun _ _ => ?_
  refine obeys_ask_bind (.loadChannel name) rfl fun r _ => ?_
  match r with
  | none =>
      exact obeys_ask_bind (.storeChannel name stop) ⟨rfl, .inl rfl⟩ fun _ _ => keepers_unlock (.inl rfl)
  | some c =>
      refine obeys_ask_bind (.closeChannel c) ⟨name, rfl⟩ fun _ _ => ?_
      exact obeys_ask_bind (.storeChannel name stop) ⟨rfl, .inr ⟨c, rfl⟩⟩ fun _ _ =>
        keepers_unlock (.inl rfl)

theorem keepers_sections : Sections keepers {} {} where
  idles := keepers_idles
  status l hl := by
    obtain rfl : l = {} := hl.elim id id
    exact ⟨{}, keepers_bracket (m := .status) nofun⟩
  handlers := keepers_bracket nofun
  stopWatch := keepers_stopWatch
  startWatch name n := by
    refine Monitor.Obeys.call_iff.mpr ⟨⟨rfl, rfl⟩, fun c _ => Monitor.Obeys.ret_iff.mpr ⟨?_, ?_⟩⟩
    · exact Monitor.Obeys.call_iff.mpr ⟨trivial, fun _ _ => Monitor.Obeys.ret_iff.mpr rfl⟩
    · exact keepers_installWatch name c

/-! ## Goroutines -/

variable {rt : Runtime}

theorem Sections.program {L : Type} {M : Monitor Api L} {idle handling : L}
    (h : Sections M idle handling) (ent : Entry) : M.Neutral (ent.program rt) idle := by
  cases ent with
  | reconcile key =>
      refine obeys_neutral_bind (h.reconcile key) ?_
      rintro ⟨result, err⟩
      exact h.plain (.ask (.note _) trivial)
  | update csmName e => exact h.informerUpdate csmName e

/-- The goroutine of an entry. -/
def Entry.goroutine (rt : Runtime) (ent : Entry) : Op Unit := unwinding [] (ent.program rt)

/-- The world as it answers, with users and the cluster free to do anything in between. -/
def freeEnvironment : Env Api World World.Choice where
  respond := World.respond
  drift w w' := w'.held = w.held ∧ w'.channels = w.channels ∧ w'.watches = w.watches

/-- A process that has just been started. -/
structure World.Fresh (w : World) : Prop where
  held : ∀ m, w.held m = false
  channels : ∀ name, w.channels name = none
  watches : w.watches = []

/-- Goroutines under any schedule. -/
abbrev Interleaved (rt : Runtime) (w₀ : World) : Threads → Prop :=
  Pool.Reach freeEnvironment (Entry.goroutine rt) (fun _ _ => True) (Pool.empty w₀)

theorem keepers_goroutine (ent : Entry) :
    keepers.Neutral (ent.goroutine rt) {} := by
  refine obeys_unwinding (J := fun _ _ => True) (fun _ _ _ _ _ _ => trivial) ?_
    (keepers_sections.program ent) trivial
  rintro held l - ⟨hown, hphase⟩
  obtain ⟨own, phase⟩ := l
  obtain rfl : own = none := hown
  obtain rfl : phase = .outside := hphase
  -- the deferred calls do not concern the stop channels
  have hdeferred : ∀ m ∈ held.filter (·.deferred), m ≠ .contentWatch := by
    rintro m hm rfl
    cases (List.mem_filter.mp hm).2
  generalize held.filter (·.deferred) = ms at hdeferred
  induction ms with
  | nil => exact Monitor.Neutral.pure _
  | cons m ms ih =>
      rw [List.forall_mem_cons] at hdeferred
      exact (keepers_bracket hdeferred.1).unlock_bind (ih hdeferred.2)

/-! ## The invariant -/

/-- The map and the watches, seen with the keepers of all goroutines. -/
structure Kept (w : World) (ls : Nat → Keeper) : Prop where
  locked : ∀ i, (ls i).phase ≠ .outside → w.held .contentWatch = true
  alone : ∀ i j, (ls i).phase ≠ .outside → (ls j).phase ≠ .outside → i = j
  found : ∀ i name r, (ls i).phase = .found name r → w.channels name = r
  closed : ∀ i name c, (ls i).phase = .closed name c →
    w.channels name = some c ∧ w.watches[c]? = some (name, false)
  stored : ∀ name c, w.channels name = some c →
    w.watches[c]? = some (name, true) ∨ ∃ i, (ls i).phase = .closed name c
  own : ∀ i name c, (ls i).own = some (name, c) →
    w.watches[c]? = some (name, true) ∧ w.channels name ≠ some c
  apart : ∀ i j name name' c, (ls i).own = some (name, c) → (ls j).own = some (name', c) → i = j
  kept : ∀ c name, w.watches[c]? = some (name, true) →
    w.channels name = some c ∨ ∃ i, (ls i).own = some (name, c)

namespace Kept

variable {w w' : World} {ls : Nat → Keeper} {i : Nat} {name : String} {c : Chan}

theorem empty (hw : w.Fresh) : Kept w fun _ => {} where
  locked _ h := (h rfl).elim
  alone _ _ h := (h rfl).elim
  found _ _ _ h := nomatch h
  closed _ _ _ h := nomatch h
  stored name c h := by rw [hw.channels] at h; cases h
  own _ _ _ h := nomatch h
  apart _ _ _ _ _ h := nomatch h
  kept c name h := by rw [hw.watches] at h; cases h

/-- Only what is known of the lock, the map and the watches matters. -/
theorem congr (h : Kept w ls) (hheld : w'.held .contentWatch = w.held .contentWatch)
    (hchannels : w'.channels = w.channels) (hwatches : w'.watches = w.watches) : Kept w' ls where
  locked := hheld ▸ h.locked
  alone := h.alone
  found := hchannels ▸ h.found
  closed := hchannels ▸ hwatches ▸ h.closed
  stored := hchannels ▸ hwatches ▸ h.stored
  own := hchannels ▸ hwatches ▸ h.own
  apart := h.apart
  kept := hchannels ▸ hwatches ▸ h.kept

/-- What has been found is open: nobody else is in a section who could have closed it. -/
theorem open_of_found (h : Kept w ls) (hphase : (ls i).phase = .found name (some c)) :
    w.watches[c]? = some (name, true) := by
  obtain hopen | ⟨j, hj⟩ := h.stored name c (h.found i name _ hphase)
  · exact hopen
  · obtain rfl := h.alone j i (by rw [hj]; nofun) (by rw [hphase]; nofun)
    rw [hj] at hphase
    cases hphase

theorem lock (h : Kept w ls) (hfree : w.held .contentWatch = false) :
    Kept { w with held := Function.update w.held .contentWatch true }
      (Function.update ls i { ls i with phase := .inside }) := by
  have houtside : ∀ j, (ls j).phase = .outside := fun j => by
    by_contra hj
    exact Bool.false_ne_true (hfree.symm.trans (h.locked j hj))
  obtain ⟨locked, alone, found, closed, stored, own, apart, kept⟩ := h
  constructor <;>
    simp only [Function.update_apply, apply_ite Keeper.own, apply_ite Keeper.phase] <;> grind

/-- The section is left with nothing in the map that is closed. -/
theorem unlock (h : Kept w ls)
    (hphase : (ls i).phase = .inside ∨ ∃ name, (ls i).phase = .found name none) :
    Kept { w with held := Function.update w.held .contentWatch false }
      (Function.update ls i { ls i with phase := .outside }) := by
  have hothers : ∀ j, j ≠ i → (ls j).phase = .outside := fun j hj => by
    by_contra hin
    exact hj (h.alone j i hin (by rcases hphase with hp | ⟨_, hp⟩ <;> rw [hp] <;> nofun))
  obtain ⟨locked, alone, found, closed, stored, own, apart, kept⟩ := h
  constructor <;>
    simp only [Function.update_apply, apply_ite Keeper.own, apply_ite Keeper.phase] <;> grind

theorem load (h : Kept w ls) (hphase : (ls i).phase = .inside) :
    Kept w (Function.update ls i { ls i with phase := .found name (w.channels name) }) := by
  obtain ⟨locked, alone, found, closed, stored, own, apart, kept⟩ := h
  constructor <;>
    simp only [Function.update_apply, apply_ite Keeper.own, apply_ite Keeper.phase] <;> grind

theorem start (h : Kept w ls) (hown : (ls i).own = none) :
    Kept { w with watches := w.watches ++ [(name, true)] }
      (Function.update ls i { ls i with own := some (name, w.watches.length) }) := by
  -- the channel is new: neither in the map nor in any hands
  have hold : ∀ c x, w.watches[c]? = some x → c < w.watches.length :=
    fun c x hx => (List.getElem?_eq_some_iff.mp hx).1
  have hmap : ∀ name, w.channels name ≠ some w.watches.length := fun name hc => by
    obtain hopen | ⟨j, hj⟩ := h.stored name _ hc
    · exact Nat.lt_irrefl _ (hold _ _ hopen)
    · exact Nat.lt_irrefl _ (hold _ _ (h.closed j name _ hj).2)
  obtain ⟨locked, alone, found, closed, stored, own, apart, kept⟩ := h
  constructor <;>
    simp only [Function.update_apply, apply_ite Keeper.own, apply_ite Keeper.phase] <;> grind

theorem close (h : Kept w ls) (hphase : (ls i).phase = .found name (some c)) :
    Kept { w with watches := w.watches.set c (name, false) }
      (Function.update ls i { ls i with phase := .closed name c }) := by
  have hopen := h.open_of_found hphase
  have hmap := h.found i name _ hphase
  obtain ⟨locked, alone, found, closed, stored, own, apart, kept⟩ := h
  constructor <;>
    simp only [Function.update_apply, apply_ite Keeper.own, apply_ite Keeper.phase] <;> grind

/-- The closed channel leaves the map. -/
theorem delete (h : Kept w ls) (hphase : (ls i).phase = .closed name c) :
    Kept { w with channels := Function.update w.channels name none }
      (Function.update ls i { ls i with phase := .inside }) := by
  obtain ⟨hmap, hclosed⟩ := h.closed i name c hphase
  obtain ⟨locked, alone, found, closed, stored, own, apart, kept⟩ := h
  constructor <;>
    simp only [Function.update_apply, apply_ite Keeper.own, apply_ite Keeper.phase] <;> grind

/-- The channel made takes the place of the closed one, if there was one. -/
theorem store (h : Kept w ls) (hown : (ls i).own = some (name, c))
    (hphase : (ls i).phase = .found name none ∨ ∃ c', (ls i).phase = .closed name c') :
    Kept { w with channels := Function.update w.channels name (some c) }
      (Function.update ls i { own := none, phase := .inside }) := by
  have hclosed : ∀ c', w.channels name = some c' → w.watches[c']? = some (name, false) := by
    intro c' hc'
    obtain hfound | ⟨c₁, hc₁⟩ := hphase
    · rw [h.found i name _ hfound] at hc'
      cases hc'
    · obtain ⟨hmap, hclosed⟩ := h.closed i name c₁ hc₁
      rw [hmap] at hc'
      cases hc'
      exact hclosed
  obtain ⟨locked, alone, found, closed, stored, own, apart, kept⟩ := h
  constructor <;>
    simp only [Function.update_apply, apply_ite Keeper.own, apply_ite Keeper.phase] <;> grind

/-- A call that has nothing to do with the stop channels. -/
theorem other {q : Request} {r : q.Answer} {ch : World.Choice} (h : Kept w ls)
    (hr : w.respond q ch = some (r, w')) (hrewires : ¬ World.Rewires q)
    (hheld : World.locked w.held q .contentWatch = w.held .contentWatch)
    (hfollow : (ls i).follow q r = ls i) : Kept w' (Function.update ls i ((ls i).follow q r)) := by
  obtain ⟨hchannels, hwatches⟩ := World.wiring_of_respond hrewires hr
  have hheld' := World.held_of_respond hr
  rw [hfollow, Function.update_eq_self]
  exact h.congr (by rw [hheld', hheld]) hchannels hwatches

theorem act {q : Request} {r : q.Answer} {ch : World.Choice} (h : Kept w ls)
    (hguard : (ls i).Allows q) (hr : w.respond q ch = some (r, w')) :
    Kept w' (Function.update ls i ((ls i).follow q r)) := by
  cases q with
  | lock m =>
      cases m with
      | contentWatch =>
          obtain ⟨hfree, rfl⟩ := World.of_lock hr
          exact h.lock hfree
      | status => exact h.other hr id rfl rfl
      | handlers => exact h.other hr id rfl rfl
  | unlock m =>
      cases m with
      | contentWatch =>
          cases hr
          exact h.unlock hguard
      | status => exact h.other hr id rfl rfl
      | handlers => exact h.other hr id rfl rfl
  | startInformers name n =>
      cases hr
      exact h.start hguard.1
  | loadChannel name =>
      cases hr
      exact h.load hguard
  | closeChannel c =>
      obtain ⟨name, hphase⟩ := hguard
      obtain ⟨name', hopen, rfl⟩ := World.of_closeChannel hr
      obtain rfl : name = name' := by
        rw [h.open_of_found hphase] at hopen
        cases hopen
        rfl
      have hfollow : (ls i).follow (.closeChannel c) r = { ls i with phase := .closed name c } := by
        simp only [Keeper.follow, hphase]
      rw [hfollow]
      exact h.close hphase
  | deleteChannel name =>
      cases hr
      obtain ⟨c, hphase⟩ := hguard
      exact h.delete hphase
  | storeChannel name c =>
      cases hr
      exact h.store hguard.1 hguard.2
  | panic => cases hr
  | _ => exact h.other hr id rfl rfl

end Kept

variable {w₀ : World} {ps : Threads}

theorem kept_of_interleaved (hw : w₀.Fresh) (h : Interleaved rt w₀ ps) :
    Kept ps.world (Pool.states keepers {} ps.log) := by
  refine h.states_invariant keepers_goroutine (fun _ _ _ => trivial) (fun w _ ls => Kept w ls)
    (Kept.empty hw) (fun w _ ls w' hkept hd => ?_) fun w _ ls i q c r w' hkept hguard hr => ?_
  · obtain ⟨hheld, hchannels, hwatches⟩ := hd
    exact hkept.congr (by rw [hheld]) hchannels hwatches
  · exact hkept.act hguard hr

/-! ## The log -/

/-- The channel a request closes. -/
def closes : Request → Option Chan
  | .closeChannel c => some c
  | _ => none

/-- How often a channel has been closed. -/
def closings (log : List (Nat × Event Api)) (c : Chan) : Nat :=
  log.countP fun x => closes x.2.req = some c

theorem closings_append (log : List (Nat × Event Api)) (x : Nat × Event Api) (c : Chan) :
    closings (log ++ [x]) c = closings log c + if closes x.2.req = some c then 1 else 0 := by
  simp [closings, List.countP_append, List.countP_singleton]

/-- The channel a call has made. -/
def makes : Event Api → Option Chan
  | ⟨.startInformers _ _, c⟩ => some c
  | _ => none

/-- The channel a request stores. -/
def stores : Request → Option Chan
  | .storeChannel _ c => some c
  | _ => none

/-- What the log says about the channels. -/
structure ChannelLog (w : World) (log : List (Nat × Event Api)) : Prop where
  unclosed : ∀ c, (∀ name, w.watches[c]? ≠ some (name, false)) → closings log c = 0
  once : ∀ c, closings log c ≤ 1
  made : ∀ x ∈ log, ∀ c, makes x.2 = some c → c < w.watches.length
  maker : ∀ x ∈ log, ∀ y ∈ log, ∀ c, makes x.2 = some c → makes y.2 = some c → x.1 = y.1

theorem ChannelLog.act {w w' : World} {log : List (Nat × Event Api)} {i : Nat} {q : Request}
    {r : q.Answer} {ch : World.Choice} (h : ChannelLog w log) (hr : w.respond q ch = some (r, w')) :
    ChannelLog w' (log ++ [(i, ⟨q, r⟩)]) := by
  obtain ⟨unclosed, once, made, maker⟩ := h
  -- a call that neither closes nor makes a channel
  have hother : w'.watches = w.watches → closes q = none → makes ⟨q, r⟩ = none →
      ChannelLog w' (log ++ [(i, ⟨q, r⟩)]) := by
    intro hwatches hcloses hmakes
    have hcount : ∀ c, closings (log ++ [(i, ⟨q, r⟩)]) c = closings log c := by
      simp [closings_append, hcloses]
    constructor <;> grind
  cases q with
  | startInformers name n =>
      cases hr
      have hmakes : makes ⟨.startInformers name n, w.watches.length⟩ = some w.watches.length := rfl
      have hcount : ∀ c, closings (log ++ [(i, ⟨.startInformers name n, w.watches.length⟩)]) c =
          closings log c := by
        simp [closings_append, closes]
      constructor <;> grind
  | closeChannel c =>
      obtain ⟨name, hopen, rfl⟩ := World.of_closeChannel hr
      have hmakes : makes ⟨.closeChannel c, r⟩ = none := rfl
      have hzero : closings log c = 0 := unclosed c fun name' => by rw [hopen]; simp
      have hcount : ∀ c', closings (log ++ [(i, ⟨.closeChannel c, r⟩)]) c' =
          closings log c' + if c = c' then 1 else 0 := by
        simp [closings_append, closes]
      constructor <;> grind
  | storeChannel name c =>
      cases hr
      exact hother rfl rfl rfl
  | deleteChannel name =>
      cases hr
      exact hother rfl rfl rfl
  | _ => exact hother (World.wiring_of_respond id hr).2 rfl rfl

theorem channelLog_of_interleaved (h : Interleaved rt w₀ ps) :
    ChannelLog ps.world ps.log := by
  induction h with
  | refl =>
      exact ⟨fun _ _ => rfl, fun _ => Nat.zero_le _, fun x hx => (List.not_mem_nil hx).elim,
        fun x hx => (List.not_mem_nil hx).elim⟩
  | tail _ _ hstep ih =>
      cases hstep with
      | act _ hr => exact ih.act hr
      | spawn => exact ih
      | drift hd =>
          obtain ⟨unclosed, once, made, maker⟩ := ih
          exact ⟨hd.2.2 ▸ unclosed, once, hd.2.2 ▸ made, maker⟩

/-! ## Who holds a channel -/

/-- Goroutine `i` is a reconcile under way that has made the channel and not stored it. -/
structure HoldsChannel (ps : Threads) (i : Nat) (name : String) (c : Chan) : Prop where
  running : ∃ key p, ps.threads[i]? = some (.reconcile key, p) ∧ Running p
  made : ∃ tr₁ n tr₂, Pool.trace ps.log i = tr₁ ++ ⟨.startInformers name n, c⟩ :: tr₂ ∧
    ∀ e ∈ tr₂, stores e.req ≠ some c

/-- Only making and storing a channel changes what a keeper owns. -/
theorem Keeper.own_follow (l : Keeper) (q : Request) (r : q.Answer) (hmakes : makes ⟨q, r⟩ = none)
    (hstores : stores q = none) : (l.follow q r).own = l.own := by
  cases q with
  | startInformers => cases hmakes
  | storeChannel => cases hstores
  | closeChannel c =>
      simp only [follow]
      split <;> rfl
  | lock m => cases m <;> rfl
  | unlock m => cases m <;> rfl
  | _ => rfl

/-- What a keeper owns has been made, and not stored since. -/
theorem made_of_own {tr : List (Event Api)} {name : String} {c : Chan}
    (h : (keepers.after {} tr).own = some (name, c)) :
    ∃ tr₁ n tr₂, tr = tr₁ ++ ⟨.startInformers name n, c⟩ :: tr₂ ∧ ∀ e ∈ tr₂, stores e.req ≠ some c := by
  induction tr using List.reverseRecOn with
  | nil => cases h
  | append_singleton tr e ih =>
      obtain ⟨q, r⟩ := e
      rw [Monitor.after_append] at h
      generalize keepers.after {} tr = l at h ih
      have hown : (l.follow q r).own = some (name, c) := h
      -- a call after which the keeper owns what it owned before
      have hsame : makes ⟨q, r⟩ = none → stores q = none → ∃ tr₁ n tr₂,
          tr ++ [⟨q, r⟩] = tr₁ ++ ⟨.startInformers name n, c⟩ :: tr₂ ∧
            ∀ e ∈ tr₂, stores e.req ≠ some c := by
        intro hmakes hstores
        rw [l.own_follow q r hmakes hstores] at hown
        obtain ⟨tr₁, n, tr₂, rfl, hnot⟩ := ih hown
        refine ⟨tr₁, n, tr₂ ++ [⟨q, r⟩], by simp, fun e he => ?_⟩
        rcases List.mem_append.mp he with he | he
        · exact hnot e he
        · obtain rfl := List.mem_singleton.mp he
          rw [hstores]
          nofun
      cases q with
      | startInformers name' n =>
          obtain ⟨rfl, rfl⟩ := Prod.mk.inj (Option.some.inj hown)
          exact ⟨tr, n, [], rfl, fun e he => (List.not_mem_nil he).elim⟩
      | storeChannel name' c' => exact (Option.some_ne_none _ hown.symm).elim
      | _ => exact hsame rfl rfl

/-- Requests that start no watch. -/
def StartsNone : Request → Prop
  | .startInformers _ _ => False
  | _ => True

theorem startsNone_handler (csmName : String) (e : UpdateEvent) :
    Asks StartsNone (fun _ => True) (Entry.goroutine rt (.update csmName e)) := by
  have hprogram : Asks StartsNone (fun _ => True) (Entry.program rt (.update csmName e)) :=
    (statusWork_informerUpdate csmName e).mono fun q hq => by
      cases q <;> trivial
  exact (asks_unwinding (fun _ => trivial) [] hprogram).mono fun _ hq => hq.1

theorem holdsChannel_of_own {i : Nat} {name : String} {c : Chan} (h : Interleaved rt w₀ ps)
    (hown : (Pool.states keepers {} ps.log i).own = some (name, c)) : HoldsChannel ps i name c := by
  have hmade := made_of_own hown
  refine ⟨?_, hmade⟩
  cases hthread : ps.threads[i]? with
  | none =>
      rw [Pool.states, h.trace_eq_nil (List.getElem?_eq_none_iff.mp hthread)] at hown
      cases hown
  | some t =>
      obtain ⟨ent, p⟩ := t
      cases p with
      | ret a =>
          -- who has returned owns nothing
          have hidle : Pool.states keepers {} ps.log i = {} :=
            (keepers_goroutine ent).of_run (h.run hthread) (keepers.admits_of_forall (fun _ _ _ => trivial) _ _)
          rw [hidle] at hown
          cases hown
      | call q k =>
          cases ent with
          | reconcile key => exact ⟨key, _, rfl, q, k, rfl⟩
          | update csmName e =>
              obtain ⟨tr₁, n, tr₂, htrace, -⟩ := hmade
              have hnone := (Sat.of_pending (startsNone_handler csmName e) (h.pending hthread)).1
              exact (hnone ⟨.startInformers name n, c⟩ (by rw [htrace]; simp)).elim

/-- **Stop-channel discipline.** Under any schedule of any number of reconciles, deletions and event
handlers, a stop channel is closed at most once, nobody is about to close a closed one, and a channel is
closed, or in the map under the name of its CR, or held by the one reconcile that made it. -/
theorem stop_channels_disciplined (hw : w₀.Fresh) (h : Interleaved rt w₀ ps) :
    (∀ c, closings ps.log c ≤ 1) ∧
    (∀ (i : Nat) ent c k, ps.threads[i]? = some (ent, (.call (.closeChannel c) k : Op Unit)) →
      ∃ name, ps.world.watches[c]? = some (name, true)) ∧
    ∀ c name isOpen, ps.world.watches[c]? = some (name, isOpen) →
      isOpen = false ∨ ps.world.channels name = some c ∨ ∃! i, HoldsChannel ps i name c := by
  have hkept := kept_of_interleaved hw h
  have hlog := channelLog_of_interleaved h
  refine ⟨hlog.once, fun i ent c k hthread => ?_, fun c name isOpen hc => ?_⟩
  · obtain ⟨name, hphase⟩ := h.guard keepers_goroutine (fun _ _ _ => trivial) hthread
    exact ⟨name, hkept.open_of_found hphase⟩
  · cases isOpen with
    | false => exact .inl rfl
    | true =>
        refine .inr ((hkept.kept c name hc).imp_right fun ⟨i, hown⟩ => ?_)
        have hholds := holdsChannel_of_own h hown
        refine ⟨i, hholds, fun j hj => ?_⟩
        -- both have made the channel
        obtain ⟨tr₁, n, tr₂, htrace, -⟩ := hholds.made
        obtain ⟨tr₁', n', tr₂', htrace', -⟩ := hj.made
        have hi := Pool.mem_of_mem_trace (by rw [htrace]; simp :
          (⟨.startInformers name n, c⟩ : Event Api) ∈ Pool.trace ps.log i)
        have hj := Pool.mem_of_mem_trace (by rw [htrace']; simp :
          (⟨.startInformers name n', c⟩ : Event Api) ∈ Pool.trace ps.log j)
        exact hlog.maker _ hj _ hi c rfl rfl

/-! ### A CR reconciled twice -/

/-- Start a goroutine and let it move without failures. -/
def launch (rt : Runtime) (ent : Entry) (n : Nat) (ps : Threads) : Threads :=
  (ps.afterSpawn ent (ent.goroutine rt)).play freeEnvironment (fun _ _ _ => true)
    ((smooth n).map fun c => (ps.threads.length, c))

theorem interleaved_launch {ent : Entry} {n : Nat} (h : Interleaved rt w₀ ps) :
    Interleaved rt w₀ (launch rt ent n ps) :=
  (h.tail trivial (.spawn ent)).play (fun _ _ _ _ => trivial) _

theorem fresh_storing (crs : List ContainerStorageModule) (cl : Cluster) :
    (World.storing crs cl).Fresh := ⟨fun _ => rfl, fun _ => rfl, rfl⟩

/-- A driver that is up is reconciled once, and a second time up to the moment when the first channel is
closed and the second one not stored yet. -/
def reconciledAgain : Threads :=
  launch shippedRuntime (.reconcile ⟨"dell", "isilon"⟩) 44
    (launch shippedRuntime (.reconcile ⟨"dell", "isilon"⟩) 60 (Pool.empty namesakeWorld))

theorem stop_channels_disciplined_again :
    reconciledAgain.world.watches = [("isilon", false), ("isilon", true)] ∧
      reconciledAgain.world.channels "isilon" = some 0 ∧ closings reconciledAgain.log 0 ≤ 1 ∧
      ∃! i, HoldsChannel reconciledAgain i "isilon" 1 := by
  have hrun : Interleaved shippedRuntime namesakeWorld reconciledAgain :=
    interleaved_launch (interleaved_launch .refl)
  have hwatches : reconciledAgain.world.watches = [("isilon", false), ("isilon", true)] := by
    decide +kernel
  have hmap : reconciledAgain.world.channels "isilon" = some 0 := by decide +kernel
  obtain ⟨honce, -, hkept⟩ := stop_channels_disciplined (fresh_storing _ _) hrun
  refine ⟨hwatches, hmap, honce 0, ?_⟩
  obtain hclosed | hstored | hheld := hkept 1 "isilon" true (by rw [hwatches]; rfl)
  · cases hclosed
  · rw [hmap] at hstored
    cases hstored
  · exact hheld

end CsmOperator
