import CsmOperator.Concurrency.StopChannels
import CsmOperator.Interaction.Locks

/-!
# The mutexes do not deadlock

The operator has three mutexes: the `dMutex` of the status functions, the `dMutex` of the event
handlers and `ContentWatchLock`. A handler calls a status function with its own mutex in hand; nothing
else is taken while a mutex is held. Ranked in that order, every goroutine acquires upwards, releases
what it has taken, also when it panics, and ends with nothing in hand. What follows for pools of
goroutines is in `Interaction.Locks`.

A goroutine with a mutex in hand that does not wait for another one can go on: API calls return, and a
channel that is about to be closed is open, by the discipline of the stop channels.
-/

namespace CsmOperator

open Interaction

/-- Handlers before status functions. -/
def Mutex.rank : Mutex → Nat
  | .handlers => 0
  | .status => 1
  | .contentWatch => 2

def mutexes : Locking Api Mutex where
  acquires
    | .lock m => some m
    | _ => none
  releases
    | .unlock m => some m
    | _ => none
  rank := Mutex.rank

/-- A panic can happen only with mutexes in hand that are released by deferred calls. -/
def lockers : Monitor Api (List Mutex) :=
  mutexes.monitor.also fun held q => q.isPanic = true → .contentWatch ∉ held

/-! ## The discipline -/

theorem lockers_guard_of_neither {held : List Mutex} {q : Request} (hacquires : mutexes.acquires q = none)
    (hreleases : mutexes.releases q = none) (hpanic : q.isPanic = true → .contentWatch ∉ held) :
    lockers.guard held q := by
  refine ⟨⟨fun m hm => ?_, fun m _ hm => ?_⟩, hpanic⟩
  · rw [hacquires] at hm
    cases hm
  · rw [hreleases] at hm
    cases hm

theorem lockers_idles {held : List Mutex} (h : .contentWatch ∉ held) : lockers.Idles held Plain := by
  intro q hq
  cases q <;>
    first
    | exact hq.elim
    | exact ⟨lockers_guard_of_neither rfl rfl fun _ => h, fun _ => rfl⟩

theorem lockers_guard_lock {held : List Mutex} {m : Mutex} (h : ∀ m' ∈ held, m'.rank < m.rank) :
    lockers.guard held (.lock m) := by
  refine ⟨⟨fun m' hm' => ?_, nofun⟩, nofun⟩
  cases hm'
  exact h

theorem lockers_guard_unlock {held : List Mutex} {m : Mutex} (h : m ∈ held) :
    lockers.guard held (.unlock m) := by
  refine ⟨⟨nofun, fun m' _ hm' => ?_⟩, nofun⟩
  cases hm'
  exact h

theorem lockers_bracket {held : List Mutex} {m : Mutex} (hm : m ≠ .contentWatch)
    (hheld : .contentWatch ∉ held) (hrank : ∀ m' ∈ held, m'.rank < m.rank) :
    Bracket lockers m held (m :: held) where
  enter := ⟨lockers_guard_lock hrank, fun _ => rfl⟩
  leave := ⟨lockers_guard_unlock List.mem_cons_self, fun _ => List.erase_cons_head ..⟩
  idles := lockers_idles (by simp [hm.symm, hheld])

/-- What is asked about the stop channels in a section leaves the mutexes alone. -/
def Wiring : Request → Prop
  | .startInformers _ _ | .waitForCacheSync _ | .loadChannel _ | .storeChannel _ _ | .deleteChannel _
  | .closeChannel _ => True
  | _ => False

theorem lockers_wiring {held : List Mutex} : lockers.Idles held Wiring := by
  intro q hq
  cases q <;> first | exact hq.elim | exact ⟨lockers_guard_of_neither rfl rfl nofun, fun _ => rfl⟩

/-- A request about the stop channels, followed by the rest. -/
theorem lockers_wire {held : List Mutex} {α : Type} (q : Request) (hq : Wiring q)
    {f : q.Answer → Op α} {Q : α → List Mutex → Prop} (hf : ∀ r, lockers.Obeys (f r) held Q) :
    lockers.Obeys (ask q >>= f) held Q :=
  obeys_neutral_bind (.of_sat lockers_wiring (Asks.ask q hq)) hf

theorem lockers_enter {f : Unit → Op Unit} {Q : Unit → List Mutex → Prop}
    (hf : lockers.Obeys (f ()) [.contentWatch] Q) : lockers.Obeys (lock .contentWatch >>= f) [] Q :=
  obeys_ask_bind (.lock .contentWatch)
    (lockers_guard_lock fun _ hm => (List.not_mem_nil hm).elim) fun _ _ => hf

theorem lockers_leave : lockers.Obeys (unlock .contentWatch) [.contentWatch] fun _ l => l = [] :=
  Monitor.Obeys.call_iff.mpr ⟨lockers_guard_unlock List.mem_cons_self,
    fun _ _ => Monitor.Obeys.ret_iff.mpr rfl⟩

theorem lockers_stopWatch (name : String) : lockers.Neutral (stopWatch name) [] := by
  refine lockers_enter (lockers_wire (.loadChannel name) trivial fun r => ?_)
  match r with
  | none => exact lockers_leave
  | some c =>
      exact lockers_wire (.closeChannel c) trivial fun _ =>
        lockers_wire (.deleteChannel name) trivial fun _ => lockers_leave

theorem lockers_installWatch (name : String) (stop : Chan) :
    lockers.Neutral (installWatch name stop) [] := by
  have hstore : lockers.Obeys (do storeChannel name stop; unlock .contentWatch) [.contentWatch]
      fun _ l => l = [] := lockers_wire (.storeChannel name stop) trivial fun _ => lockers_leave
  refine lockers_enter (lockers_wire (.loadChannel name) trivial fun r => ?_)
  match r with
  | none => exact hstore
  | some c => exact lockers_wire (.closeChannel c) trivial fun _ => hstore

theorem lockers_sections : Sections lockers [] [.handlers] where
  idles := lockers_idles List.not_mem_nil
  status l hl := by
    rcases hl with rfl | rfl
    · exact ⟨_, lockers_bracket nofun (by decide) (by decide)⟩
    · exact ⟨_, lockers_bracket nofun (by decide) (by decide)⟩
  handlers := lockers_bracket nofun (by decide) (by decide)
  stopWatch := lockers_stopWatch
  startWatch name n := by
    have hguard : lockers.guard [] (.startInformers name n) := lockers_guard_of_neither rfl rfl nofun
    refine Monitor.Obeys.call_iff.mpr ⟨hguard, fun c _ => Monitor.Obeys.ret_iff.mpr ⟨?_, ?_⟩⟩
    · exact .of_sat lockers_wiring (Asks.ask (.waitForCacheSync c) trivial)
    · exact lockers_installWatch name c

variable {rt : Runtime} {w₀ : World} {ps : Threads}

/-- A goroutine keeps the discipline, and a panic does not make it keep a mutex. -/
theorem disciplined_goroutine (ent : Entry) : mutexes.Disciplined (ent.goroutine rt) := by
  refine Monitor.Obeys.of_also (obeys_unwinding (M := lockers) (J := fun held l => l = held) ?_ ?_
    (lockers_sections.program ent) rfl)
  · rintro held l q r rfl -
    cases q <;> rfl
  · rintro held l rfl ⟨-, hpanic⟩
    -- all that is in hand is released by deferred calls
    have hdeferred : l.filter (·.deferred) = l := by
      refine List.filter_eq_self.mpr fun m hm => ?_
      cases m with
      | contentWatch => exact (hpanic rfl hm).elim
      | _ => rfl
    rw [hdeferred]
    clear hdeferred hpanic
    induction l with
    | nil => exact Monitor.Neutral.pure _
    | cons m ms ih =>
        refine obeys_ask_bind (.unlock m) (lockers_guard_unlock List.mem_cons_self) fun r _ => ?_
        have hnext : lockers.next (m :: ms) (.unlock m) r = ms := List.erase_cons_head ..
        rw [hnext]
        exact ih

theorem mutexes_served : mutexes.ServedBy freeEnvironment World.held where
  acquired {w q c r w' m} hr hm := by
    cases q <;> cases hm
    obtain ⟨hfree, rfl⟩ := World.of_lock (c := c) hr
    exact ⟨hfree, rfl⟩
  released {w q c r w' m} hr _ hm := by
    cases q <;> cases hm
    exact World.held_of_respond (q := .unlock m) (c := c) hr
  kept {w q c r w'} hr ha hb := by
    rw [World.held_of_respond hr]
    cases q with
    | lock m => cases ha
    | unlock m => cases hb
    | _ => rfl
  drift hd := hd.1

/-! ## Progress -/

/-- Every request is answered except a lock that is taken, a second close and a panic. -/
theorem World.exists_respond (w : World) (q : Request) (hlock : ∀ m, q = .lock m → w.held m = false)
    (hclose : ∀ c, q = .closeChannel c → ∃ name, w.watches[c]? = some (name, true))
    (hpanic : q.isPanic = false) : ∃ c x, w.respond q c = some x := by
  cases q with
  | lock m =>
      refine ⟨{}, ((), { w with held := Function.update w.held m true }), ?_⟩
      simp [World.respond, World.lock, hlock m rfl]
  | closeChannel ch =>
      obtain ⟨name, hopen⟩ := hclose ch rfl
      refine ⟨{}, ((), { w with watches := w.watches.set ch (name, false) }), ?_⟩
      simp [World.respond, World.closeChannel, hopen]
  | panic => cases hpanic
  | _ => exact ⟨{}, _, rfl⟩

/-- The goroutine can take a step: there is an answer to what it asks. -/
def CanStep (rt : Runtime) (ps : Threads) (i : Nat) : Prop :=
  ∃ e ps', Pool.Step freeEnvironment (Entry.goroutine rt) ps (.act i e) ps'

theorem no_panic (h : Interleaved rt w₀ ps) {i : Nat} {ent : Entry} {q : Request}
    {k : q.Answer → Op Unit} (hthread : ps.threads[i]? = some (ent, .call q k)) : q.isPanic = false := by
  have hasks : Asks (fun _ => True) (fun _ => True) (ent.program rt) := Sat.trivial _
  exact (Sat.of_pending (asks_unwinding (fun _ => trivial) [] hasks) (h.pending hthread)).2.2

/-- A goroutine that does not wait for a mutex can take a step. -/
theorem canStep_of_call (hw : w₀.Fresh) (h : Interleaved rt w₀ ps) {i : Nat} {ent : Entry} {q : Request}
    {k : q.Answer → Op Unit} (hthread : ps.threads[i]? = some (ent, .call q k))
    (hfree : ∀ m, mutexes.acquires q = some m → ps.world.held m = false) : CanStep rt ps i := by
  have hopen : ∀ c, q = .closeChannel c → ∃ name, ps.world.watches[c]? = some (name, true) := by
    rintro c rfl
    obtain ⟨name, hphase⟩ := h.guard keepers_goroutine (fun _ _ _ => trivial) hthread
    exact ⟨name, (kept_of_interleaved hw h).open_of_found hphase⟩
  have hlock : ∀ m, q = .lock m → ps.world.held m = false := by
    rintro m rfl
    exact hfree m rfl
  obtain ⟨c, ⟨r, w⟩, hr⟩ := ps.world.exists_respond q hlock hopen (no_panic h hthread)
  exact ⟨_, _, .act hthread hr⟩

/-- **Deadlock freedom.** Under any schedule of any number of reconciles and event handlers, nobody
locks a mutex it holds, no goroutines wait for each other in a cycle, and whoever waits for a mutex
waits, directly or through others, for a goroutine that can take a step. -/
theorem deadlock_free (hw : w₀.Fresh) (h : Interleaved rt w₀ ps) :
    (∀ i m, mutexes.Acquiring ps i m → m ∉ mutexes.inHand ps.log i) ∧
    (∀ i, ¬ Relation.TransGen (mutexes.WaitsFor ps) i i) ∧
    ∀ i m, mutexes.Acquiring ps i m → ps.world.held m = true →
      ∃ j, Relation.TransGen (mutexes.WaitsFor ps) i j ∧ CanStep rt ps j := by
  refine ⟨fun i m => Locking.not_holding disciplined_goroutine h,
    Locking.no_wait_cycle disciplined_goroutine h, fun i m hacq htaken => ?_⟩
  have hbound : ∀ m, mutexes.rank m < 3 := by
    intro m
    cases m <;> decide
  obtain ⟨j, ent, q, k, hchain, hthread, hfree⟩ := Locking.exists_moving_holder mutexes_served
    disciplined_goroutine hw.held hbound h hacq htaken
  exact ⟨j, hchain, canStep_of_call hw h hthread hfree⟩

/-- An update of the node DaemonSet of a CR. -/
def nodesUpdate (key : NamespacedName) : UpdateEvent :=
  let ds : DaemonSet := { name := key.name ++ "-node", namesp := key.namesp
                          desiredNumberScheduled := 1, templateLabels := some (labelsFor key) }
  .daemonSet ds ds

/-- A reconcile holds the mutex of the status functions, a handler waits for it, and another handler
for the first one. -/
def queued : Threads :=
  launch shippedRuntime (.update "isilon" (nodesUpdate ⟨"edge", "isilon"⟩)) 1
    (launch shippedRuntime (.update "isilon" (nodesUpdate ⟨"dell", "isilon"⟩)) 9
      (launch shippedRuntime (.reconcile ⟨"dell", "isilon"⟩) 7 (Pool.empty namesakeWorld)))

/-- Is the goroutine about to lock the mutex? -/
def atLock (ps : Threads) (i : Nat) (m : Mutex) : Bool :=
  match ps.threads[i]? with
  | some (_, .call (.lock m') _) => m' = m
  | _ => false

theorem acquiring_of_atLock {i : Nat} {m : Mutex} (h : atLock ps i m = true) :
    mutexes.Acquiring ps i m := by
  unfold atLock at h
  split at h
  next ent m' k hthread => exact ⟨ent, _, k, hthread, congrArg some (of_decide_eq_true h)⟩
  next => cases h

theorem deadlock_free_queued :
    mutexes.Acquiring queued 2 .handlers ∧ queued.world.held .handlers = true ∧
      queued.world.held .status = true ∧
      ∃ j, Relation.TransGen (mutexes.WaitsFor queued) 2 j ∧ CanStep shippedRuntime queued j := by
  have hrun : Interleaved shippedRuntime namesakeWorld queued :=
    interleaved_launch (interleaved_launch (interleaved_launch .refl))
  have hacq : mutexes.Acquiring queued 2 .handlers := acquiring_of_atLock (by decide +kernel)
  have htaken : queued.world.held .handlers = true := by decide +kernel
  exact ⟨hacq, htaken, by decide +kernel,
    (deadlock_free (fresh_storing _ _) hrun).2.2 2 .handlers hacq htaken⟩

end CsmOperator
