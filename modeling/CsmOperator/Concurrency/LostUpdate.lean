import CsmOperator.Concurrency.LastConfiguration

/-!
# Recorded configurations that get lost

`UpdateStatus` works on a copy of the CR that its caller has read some time before. It writes the whole
status of the copy onto a CR it reads afresh, so the API server sees no conflict: whatever was recorded
after the copy was made is overwritten. A driver that is found not running leaves the last successful
configuration of the copy alone, and yet the write changes the stored one if another thread has
recorded a configuration in between.

Followed through all interleavings, a write after a negative verdict does not change the stored
configuration of a driver CR, as long as nobody changes it behind the back of a thread that has read
the CR and is still running.

A thread is watched with the copy it holds and the last verdict it came to.
-/

namespace CsmOperator

open Interaction

/-- The last successful configuration stored under a key. -/
def recorded (w : World) (key : NamespacedName) : Option String :=
  (w.crs key).map (·.status.lastSuccessfulConfiguration)

/-- The verdict a thread came to with a call. -/
def verdict (i : Nat) : Nat × Event Api → Option Bool
  | (j, ⟨.note (.calculated _ running _), _⟩) => if j = i then some running else none
  | _ => none

/-- The last verdict of `calculateState` in a thread. -/
def lastVerdict (log : List (Nat × Event Api)) (i : Nat) : Option Bool :=
  log.foldl (fun v x => (verdict i x).or v) none

theorem lastVerdict_append (log : List (Nat × Event Api)) (x : Nat × Event Api) (i : Nat) :
    lastVerdict (log ++ [x]) i = (verdict i x).or (lastVerdict log i) := by
  rw [lastVerdict, List.foldl_append]
  rfl

theorem lastVerdict_append_of_ne {log : List (Nat × Event Api)} {x : Nat × Event Api} {i : Nat}
    (h : x.1 ≠ i) : lastVerdict (log ++ [x]) i = lastVerdict log i := by
  have hnone : verdict i x = none := by
    unfold verdict
    split
    next j _ _ _ _ => exact if_neg h
    next => rfl
  rw [lastVerdict_append, hnone, Option.none_or]

theorem lastVerdict_eq_none {log : List (Nat × Event Api)} {i : Nat} (h : ∀ x ∈ log, x.1 ≠ i) :
    lastVerdict log i = none := by
  induction log using List.reverseRecOn with
  | nil => rfl
  | append_singleton log x ih =>
      rw [lastVerdict_append_of_ne (h x (List.mem_append_right _ (List.mem_singleton_self x)))]
      exact ih fun y hy => h y (List.mem_append_left _ hy)

/-! ## The copy of a thread -/

/-- The CR a thread has read with the configuration recorded in the copy, until its status is
written; and the last verdict. -/
structure Copy where
  held : Option (NamespacedName × String) := none
  verdict : Option Bool := none

variable {kinds : NamespacedName → Kind} {rt : Runtime} {key : NamespacedName}
  {cr : ContainerStorageModule} {l : Copy}

/-- The copy held is of the CR and has its recorded configuration. Proxy servers, whose configuration
`HandleSuccess` sets in memory, are not followed. -/
def Held (kinds : NamespacedName → Kind) (cr : ContainerStorageModule) (l : Copy) : Prop :=
  (kinds cr.key).proxy = false → l.held = some (cr.key, cr.status.lastSuccessfulConfiguration)

namespace Copy

def Allows (kinds : NamespacedName → Kind) (l : Copy) : Request → Prop
  | .updateCSM cr => FitsKey kinds cr.key cr ∧ Held kinds cr l
  | .updateCSMStatus cr => l.verdict = some false → Held kinds cr l
  | _ => True

def Expects (kinds : NamespacedName → Kind) : (q : Request) → q.Answer → Prop
  | .getCSM key, .ok cr => FitsKey kinds key cr
  | .updateCSM cr, .ok cr' => cr'.key = cr.key ∧ cr'.spec = cr.spec ∧
    ((kinds cr.key).proxy = false →
      cr'.status.lastSuccessfulConfiguration = cr.status.lastSuccessfulConfiguration)
  | _, _ => True

def follow (l : Copy) : (q : Request) → q.Answer → Copy
  | .getCSM key, .ok cr =>
    { l with held := l.held.or (some (key, cr.status.lastSuccessfulConfiguration)) }
  | .updateCSMStatus _, .ok _ => { l with held := none }
  | .note (.calculated _ running _), _ => { l with verdict := some running }
  | _, _ => l

end Copy

/-- The monitor of the copy a thread works on. -/
def copies (kinds : NamespacedName → Kind) : Monitor Api Copy where
  guard := Copy.Allows kinds
  assume _ := Copy.Expects kinds
  next := Copy.follow

theorem copies_frames : (copies kinds).Frames (fun l l' => l' = l) Aside where
  refl _ := rfl
  trans _ _ _ h h' := h'.trans h
  tolerates l q hq := by
    refine ⟨?_, fun r _ => ?_⟩
    · cases q <;> trivial
    · cases q <;> first | exact hq.elim | rfl

/-- What is known of a CR in memory: it is the copy held. -/
def Carried (kinds : NamespacedName → Kind) (cr : ContainerStorageModule) (l : Copy) : Prop :=
  FitsKey kinds cr.key cr ∧ Held kinds cr l

theorem copies_calculateState {override_ : Option PodStatus} (h : cr = {} ∨ FitsKey kinds cr.key cr) :
    (copies kinds).Obeys (calculateState rt cr override_) l fun x l' =>
      (∃ st, x.1 = cr.withStatus st) ∧ l' = { l with verdict := some x.2.1 } ∧
        ((kinds cr.key).proxy = false → x.1.status.lastSuccessfulConfiguration =
          cr.status.lastSuccessfulConfiguration) := by
  have hinert : (copies kinds).Frames (fun l l' => l' = l) Inert :=
    copies_frames.mono fun _ hq => (Noise.of_inert hq).aside
  refine obeys_calculateState hinert fun st running err l₁ hst _ h₁ => ?_
  subst h₁
  refine Monitor.Obeys.call_iff.mpr ⟨trivial, fun _ _ => Monitor.Obeys.ret_iff.mpr ⟨?_, rfl, ?_⟩⟩
  · obtain ⟨st', hst'⟩ := settleState_eq_withStatus rt (cr.withStatus st) running
    exact ⟨st', hst'⟩
  · exact fun hproxy => configuration_settleState h hproxy hst running

/-- After a negative verdict only the copy held is written. -/
def MayWrite (kinds : NamespacedName → Kind) (cr : ContainerStorageModule) (l : Copy) : Prop :=
  cr.name = "" ∨ (l.verdict = some false → Held kinds cr l)

/-- The read before the write does not replace the copy. -/
theorem MayWrite.read {read : ContainerStorageModule} (h : MayWrite kinds cr l) :
    MayWrite kinds cr (l.follow (.getCSM cr.key) (.ok read)) := by
  refine h.imp_right fun h hverdict hproxy => ?_
  show l.held.or _ = _
  rw [h hverdict hproxy, Option.some_or]

theorem copies_writeStatus (h : MayWrite kinds cr l) :
    (copies kinds).Obeys (retryOnConflict (writeStatus cr) defaultRetrySteps) l
      fun _ _ => True := by
  refine Monitor.Obeys.mono (obeys_retryOnConflict (J := MayWrite kinds cr)
    (Q := fun _ _ => True) (fun l₁ h₁ => ?_) 4 h) fun _ _ _ => trivial
  refine obeys_writeStatus trivial (fun e _ => ⟨trivial, fun _ => h₁⟩) fun read hread => ?_
  have hread : FitsKey kinds cr.key read := hread
  have h₂ : MayWrite kinds cr (l₁.follow (.getCSM cr.key) (.ok read)) := h₁.read
  refine Monitor.Obeys.call_iff.mpr ⟨fun hverdict => ?_, fun r _ => Monitor.Obeys.ret_iff.mpr ?_⟩
  · -- there is no CR without a name
    have hheld : Held kinds cr (l₁.follow (.getCSM cr.key) (.ok read)) := by
      refine h₂.resolve_left (fun hname => hread.name_ne ?_) hverdict
      exact (congrArg NamespacedName.name hread.key_eq).trans hname
    intro hproxy
    have hkey : (read.withStatus cr.status).key = cr.key := hread.key_eq
    rw [hkey] at hproxy ⊢
    exact hheld hproxy
  · match r with
    | .error e => exact ⟨trivial, fun _ => h₂⟩
    | .ok _ => exact ⟨trivial, nofun⟩

/-- A negative verdict leaves the recorded configuration of the copy alone. -/
theorem copies_updateStatus {override_ : Option PodStatus} (h : cr = {} ∨ Carried kinds cr l) :
    (copies kinds).Obeys (updateStatus rt cr override_) l fun _ _ => True := by
  refine obeys_updateStatus (copies_frames.mono fun _ => Noise.aside) fun l₁ h₁ => ?_
  subst h₁
  refine (copies_calculateState (h.imp_right And.left)).mono fun ⟨x, running, err⟩ l₂ hx => ?_
  obtain ⟨⟨st, hst⟩, h₂, hx⟩ := hx
  dsimp only at hst h₂ hx ⊢
  subst hst h₂
  have hwrite : MayWrite kinds (recordConfiguration (cr.withStatus st) running)
      { l₁ with verdict := some running } := by
    cases running with
    | true =>
        exact .inr nofun
    | false =>
        have hsame : recordConfiguration (cr.withStatus st) false = cr.withStatus st := by
          unfold recordConfiguration
          rw [Bool.and_false]
          rfl
        rw [hsame]
        rcases h with rfl | h
        · exact .inl rfl
        · refine .inr fun _ hproxy => ?_
          rw [hx hproxy]
          exact h.2 hproxy
  refine (copies_writeStatus hwrite).mono fun err' l₃ _ l₄ _ => ?_
  exact Monitor.Obeys.call_iff.mpr ⟨trivial, fun _ _ => Monitor.Obeys.ret_iff.mpr trivial⟩

theorem Carried.congr {a b : ContainerStorageModule} (h : Carried kinds a l) (hkey : b.key = a.key)
    (hkind : b.kind = a.kind) (hrecorded : (kinds a.key).proxy = false →
      b.status.lastSuccessfulConfiguration = a.status.lastSuccessfulConfiguration) :
    Carried kinds b l := by
  refine ⟨h.1.congr hkey hkind, fun hproxy => ?_⟩
  rw [hkey] at hproxy ⊢
  rw [hrecorded hproxy]
  exact h.2 hproxy

theorem copies_updateCSM (h : Carried kinds cr l) :
    (copies kinds).Obeys (updateCSM cr) l (Reply (Carried kinds) fun _ => True) := by
  refine Monitor.Obeys.call_iff.mpr ⟨h, fun r hr => Monitor.Obeys.ret_iff.mpr ?_⟩
  match r with
  | .error e => trivial
  | .ok cr' =>
      obtain ⟨hkey, hspec, hrecorded⟩ : cr'.key = cr.key ∧ cr'.spec = cr.spec ∧
        ((kinds cr.key).proxy = false → cr'.status.lastSuccessfulConfiguration =
          cr.status.lastSuccessfulConfiguration) := hr
      exact h.congr hkey (kind_of_spec hspec) hrecorded

/-- `SyncCSM` does not touch the copy. -/
theorem copies_syncCSM (h : Carried kinds cr l) :
    (copies kinds).Obeys (syncCSM rt cr) l fun x l' =>
      x.2 = none → ({ cr with annotations := x.1.annotations } = {} ∨
        Carried kinds { cr with annotations := x.1.annotations } l') := by
  have hnote : ∀ err l' x, l' = l → (copies kinds).Obeys (note (.synced cr err)) l' fun _ l'' =>
      err = none → ({ cr with annotations := x } = ({} : ContainerStorageModule) ∨
        Carried kinds { cr with annotations := x } l'') := by
    rintro err _ x rfl
    refine Monitor.Obeys.call_iff.mpr ⟨trivial, fun _ _ => Monitor.Obeys.ret_iff.mpr fun _ => ?_⟩
    exact .inr (h.congr rfl rfl fun _ => rfl)
  refine obeys_syncCSM (copies_frames.mono fun _ => Noise.aside) ?_ ?_
  · exact fun err l₁ h₁ _ => hnote err l₁ _ h₁
  · intro annotations out l₁ h₁ _ _
    rw [h₁]
    have hsend : Carried kinds (withApplied cr annotations out) l := h.congr rfl rfl fun _ => rfl
    refine Monitor.Obeys.call_iff.mpr ⟨hsend, fun r _ => Monitor.Obeys.ret_iff.mpr ?_⟩
    exact fun cr' err l₃ h₃ _ => hnote err l₃ _ h₃

theorem carried_insensitive : Insensitive (Carried kinds) :=
  fun _ _ _ hkey hkind _ hrecorded h => h.congr hkey hkind fun _ => hrecorded

theorem copies_carries :
    Carries rt (copies kinds) (fun l l' => l' = l) (Carried kinds)
      (fun cr l => cr = {} ∨ Carried kinds cr l) where
  frames := copies_frames
  stable a l l' hl h := hl ▸ h
  keeps := carried_insensitive.keeps
  update a l h := copies_updateCSM h
  invalid a l h := by
    refine Monitor.Obeys.call_iff.mpr ⟨fun _ => h.2, fun _ _ => Monitor.Obeys.ret_iff.mpr trivial⟩
  calculate a l h := by
    refine (copies_calculateState (.inr h.1)).mono fun x l' hx => ?_
    obtain ⟨⟨st, hst⟩, rfl, hrecorded⟩ := hx
    rw [hst] at hrecorded ⊢
    have hcopy : Carried kinds a { l with verdict := some x.2.1 } := h
    exact hcopy.congr rfl rfl hrecorded
  sync a l h := copies_syncCSM h
  status a l h := copies_updateStatus h
  reconciled _ _ _ _ := trivial

theorem copies_program (ent : Entry) :
    (copies kinds).Obeys (ent.program rt) {} fun _ _ => True := by
  -- the first read makes the copy
  have hfirst : ∀ key cr, FitsKey kinds key cr →
      Carried kinds cr ((copies kinds).next {} (.getCSM key) (.ok cr)) := by
    intro key cr hfits
    obtain rfl := hfits.key_eq
    exact ⟨hfits, fun _ => rfl⟩
  cases ent with
  | reconcile key =>
      exact copies_carries.reconcile trivial fun cr _ hcr hprep =>
        carried_insensitive.prepared hprep (hfirst key cr hcr)
  | update csmName e =>
      refine obeys_informerUpdate copies_frames fun _ l₁ h₁ => ?_
      subst h₁
      refine obeys_ask_bind (.getCSM e.csmKey) trivial fun r hr => ?_
      match r with
      | .error err => exact Monitor.Obeys.pure_iff.mpr (copies_updateStatus (.inl rfl))
      | .ok cr =>
          exact Monitor.Obeys.pure_iff.mpr (copies_updateStatus (.inr (hfirst _ cr hr)))

/-! ## All interleavings -/

/-- A thread has read a CR and is still running. -/
def Busy (ps : Threads) (i : Nat) (key : NamespacedName) : Prop :=
  (∃ cr, (i, (⟨.getCSM key, .ok cr⟩ : Event Api)) ∈ ps.log) ∧
    ∃ ent q k, ps.threads[i]? = some (ent, .call q k)

/-- The condition on a run: the configuration stored for a CR does not change while another thread is
busy with the CR, neither by a status write nor because the CR is created anew. -/
def NotBehindBack : Threads → Move Api World Entry → Prop
  | ps, .act i e => ∀ cr stored, e = ⟨.updateCSMStatus cr, .ok stored⟩ →
      recorded ps.world cr.key ≠ some cr.status.lastSuccessfulConfiguration →
      ∀ j, j ≠ i → ¬ Busy ps j cr.key
  | ps, .drift w => ∀ key c, recorded w key = some c → recorded ps.world key ≠ some c →
      ∀ j, ¬ Busy ps j key
  | _, .spawn _ => True

/-- What the copy of a thread means: it was read, and is still good while the thread runs. -/
structure CopyTrue (kinds : NamespacedName → Kind) (i : Nat) (t : Entry × Op Unit) (w : World)
    (log : List (Nat × Event Api)) (l : Copy) : Prop where
  verdict : l.verdict = lastVerdict log i
  read : ∀ key c, l.held = some (key, c) →
    ∃ cr, (i, (⟨.getCSM key, .ok cr⟩ : Event Api)) ∈ log
  current : ∀ key c, l.held = some (key, c) → (kinds key).proxy = false →
    (∃ q k, t.2 = .call q k) → ∀ c', recorded w key = some c' → c' = c

variable {w w' : World} {log : List (Nat × Event Api)} {i : Nat} {t : Entry × Op Unit}
  {ch : World.Choice}

/-- Only a status write brings a new configuration. -/
theorem recorded_of_respond {q : Request} {r : q.Answer} {c : String}
    (h : w.respond q ch = some (r, w')) (hc : recorded w' key = some c) :
    recorded w key = some c ∨ ∃ cr stored, (⟨q, r⟩ : Event Api) = ⟨.updateCSMStatus cr, .ok stored⟩ ∧
      cr.key = key ∧ cr.status.lastSuccessfulConfiguration = c := by
  -- a new CR under one key, and the others as they were
  have hput : ∀ k o, w' = w.put k o →
      recorded w key = some c ∨ k = key ∧ o.map (·.status.lastSuccessfulConfiguration) = some c := by
    rintro k o rfl
    have hc' : (Function.update w.crs k o key).map (·.status.lastSuccessfulConfiguration) = some c := hc
    by_cases hk : key = k
    · subst hk
      rw [Function.update_self] at hc'
      exact .inr ⟨rfl, hc'⟩
    · rw [Function.update_of_ne hk] at hc'
      exact .inl hc'
  by_cases hq : World.Writes q
  · cases q with
    | updateCSM cr =>
        rcases World.of_updateCSM h with ⟨rfl, -⟩ | ⟨stored, hstored, -, -, hw⟩
        · exact .inl hc
        · rcases hput _ _ hw with hc | ⟨rfl, hnew⟩
          · exact .inl hc
          · refine .inl ?_
            rw [recorded, hstored]
            unfold World.kept at hnew
            split at hnew
            · cases hnew
            · exact hnew
    | updateCSMStatus cr =>
        rcases World.of_updateCSMStatus h with ⟨rfl, -⟩ | ⟨stored, -, -, rfl, hw⟩
        · exact .inl hc
        · rcases hput _ _ hw with hc | ⟨rfl, hnew⟩
          · exact .inl hc
          · exact .inr ⟨cr, _, rfl, rfl, Option.some.inj hnew⟩
    | _ => exact hq.elim
  · rw [recorded, (World.crs_of_respond hq h).1] at hc
    exact .inl hc

/-- The verdict a monitor state has is the last one logged. -/
theorem verdict_follow (l : Copy) (i : Nat) (q : Request) (r : q.Answer) :
    (l.follow q r).verdict = (verdict i (i, ⟨q, r⟩)).or l.verdict := by
  cases q with
  | getCSM key =>
      match r with
      | .ok _ => rfl
      | .error _ => rfl
  | updateCSMStatus cr =>
      match r with
      | .ok _ => rfl
      | .error _ => rfl
  | note n =>
      cases n with
      | calculated _ running _ =>
          show some running = (if i = i then some running else none).or l.verdict
          rw [if_pos rfl, Option.some_or]
      | _ => rfl
  | _ => rfl

/-- The thread that was served keeps a good copy. -/
theorem copyTrue_served {q : Request} {r : q.Answer} {k : q.Answer → Op Unit} {ent : Entry}
    (hstored : w.WellStored kinds) (hl : CopyTrue kinds i (ent, .call q k) w log l)
    (hguard : Copy.Allows kinds l q) (h : w.respond q ch = some (r, w')) :
    Copy.Expects kinds q r ∧
      CopyTrue kinds i (ent, k r) w' (log ++ [(i, ⟨q, r⟩)]) (l.follow q r) := by
  have hcurrent : ∀ key c, l.held = some (key, c) → (kinds key).proxy = false →
      ∀ c', recorded w key = some c' → c' = c :=
    fun key c hheld hproxy => hl.current key c hheld hproxy ⟨q, k, rfl⟩
  -- the copy is kept unless it was written
  have hverdict : (l.follow q r).verdict = lastVerdict (log ++ [(i, ⟨q, r⟩)]) i := by
    rw [verdict_follow l i q r, lastVerdict_append, hl.verdict]
  have hkeep : (l.follow q r).held = l.held →
      (∀ cr stored, (⟨q, r⟩ : Event Api) ≠ ⟨.updateCSMStatus cr, .ok stored⟩) →
      CopyTrue kinds i (ent, k r) w' (log ++ [(i, ⟨q, r⟩)]) (l.follow q r) := by
    intro hheld hwrite
    refine ⟨hverdict, fun key c hc => ?_, fun key c hc hproxy _ c' hc' => ?_⟩
    · obtain ⟨cr, hmem⟩ := hl.read key c (hheld ▸ hc)
      exact ⟨cr, List.mem_append_left _ hmem⟩
    · rcases recorded_of_respond h hc' with hc' | ⟨cr, stored, heq, -⟩
      · exact hcurrent key c (hheld ▸ hc) hproxy c' hc'
      · exact absurd heq (hwrite cr stored)
  cases q with
  | getCSM key =>
      match r with
      | .error e => exact ⟨trivial, hkeep rfl fun _ _ heq => nomatch heq⟩
      | .ok cr =>
          obtain ⟨rfl, hcr⟩ := World.of_getCSM h
          refine ⟨hstored key cr (hcr cr rfl), ?_⟩
          have hfollow : (l.follow (.getCSM key) (.ok cr)).held =
              l.held.or (some (key, cr.status.lastSuccessfulConfiguration)) := rfl
          cases hheld : l.held with
          | some x =>
              refine hkeep ?_ fun _ _ heq => nomatch heq
              rw [hfollow, hheld, Option.some_or]
          | none =>
              rw [hheld, Option.none_or] at hfollow
              refine ⟨hverdict, fun key' c hc => ?_, fun key' c hc _ _ c' hc' => ?_⟩
              · rw [hfollow] at hc
                cases hc
                exact ⟨cr, List.mem_append_right _ (List.mem_singleton_self _)⟩
              · rw [hfollow] at hc
                cases hc
                rw [recorded, hcr cr rfl] at hc'
                exact (Option.some.inj hc').symm
  | updateCSM cr =>
      refine ⟨?_, hkeep rfl fun _ _ heq => nomatch heq⟩
      match r with
      | .error e => trivial
      | .ok cr' =>
          rcases World.of_updateCSM h with ⟨-, e, he⟩ | ⟨stored, hcr, -, heq, -⟩
          · cases he
          · cases heq
            refine ⟨rfl, rfl, fun hproxy => ?_⟩
            -- what is stored is what the copy has
            have hsame : stored.status.lastSuccessfulConfiguration =
                cr.status.lastSuccessfulConfiguration := by
              refine hcurrent _ _ (hguard.2 hproxy) hproxy _ ?_
              rw [recorded, hcr]
              rfl
            show World.decodeText _ stored.status.lastSuccessfulConfiguration = _
            rw [hsame, World.decodeText]
            split <;> rfl
  | updateCSMStatus cr =>
      match r with
      | .error e => exact ⟨trivial, hkeep rfl fun _ _ heq => nomatch heq⟩
      | .ok stored =>
          exact ⟨trivial, hverdict, (fun _ _ hc => nomatch hc), (fun _ _ hc => nomatch hc)⟩
  | note n =>
      refine ⟨trivial, hkeep ?_ fun _ _ heq => nomatch heq⟩
      cases n <;> rfl
  | _ => exact ⟨trivial, hkeep rfl fun _ _ heq => nomatch heq⟩

/-- The other threads keep theirs: nobody writes behind their back. -/
theorem copyTrue_other {q : Request} {r : q.Answer} {ps : Threads} {j : Nat}
    (hl : CopyTrue kinds j t ps.world ps.log l) (hj : j ≠ i) (ht : ps.threads[j]? = some t)
    (h : ps.world.respond q ch = some (r, w')) (hok : NotBehindBack ps (.act i ⟨q, r⟩)) :
    CopyTrue kinds j t w' (ps.log ++ [(i, ⟨q, r⟩)]) l where
  verdict := hl.verdict.trans (lastVerdict_append_of_ne hj.symm).symm
  read key c hc := by
    obtain ⟨cr, hmem⟩ := hl.read key c hc
    exact ⟨cr, List.mem_append_left _ hmem⟩
  current key c hc hproxy hrunning c' hc' := by
    have hcurrent := hl.current key c hc hproxy hrunning
    rcases recorded_of_respond h hc' with hc' | ⟨cr, stored, heq, rfl, rfl⟩
    · exact hcurrent c' hc'
    · by_cases hsame : recorded ps.world cr.key = some cr.status.lastSuccessfulConfiguration
      · exact hcurrent _ hsame
      · obtain ⟨q', k', hq'⟩ := hrunning
        refine absurd ⟨hl.read _ c hc, t.1, q', k', ?_⟩ (hok cr stored heq hsame j hj)
        rw [ht, ← hq']

/-- **In every run** in which the recorded configuration of a CR does not change behind the back of a
thread that is busy with it, the next status write of a thread whose last verdict was negative leaves
all recorded configurations as they are. -/
theorem not_running_keeps_configuration {w₀ : World} {ps ps' : Threads}
    (hstored : w₀.WellStored kinds)
    (hrun : Pool.Reach (environment kinds) (Entry.program rt) NotBehindBack (Pool.empty w₀) ps)
    {i : Nat} {cr : ContainerStorageModule} {r : Except GoError ContainerStorageModule}
    (hstep : Pool.Step (environment kinds) (Entry.program rt) ps
      (.act i ⟨.updateCSMStatus cr, r⟩) ps')
    (hverdict : lastVerdict ps.log i = some false) (hproxy : (kinds cr.key).proxy = false)
    (key : NamespacedName) : recorded ps'.world key = recorded ps.world key := by
  have hghost := hrun.exists_known (copies kinds) (fun _ => {})
    (fun _ ent _ => copies_program ent) (fun w _ => w.WellStored kinds) (CopyTrue kinds) hstored
    (fun ps ent _ hlog _ => ?_) (fun ps w hstored hok hdrift => ?_)
    (fun ps i ent l q k c r w hstored hl ht hguard hr hok => ?_)
  · obtain ⟨-, ls, hwatched, hcopies⟩ := hghost
    cases hstep with
    | @act _ ent _ k c _ w hthread hr =>
        obtain ⟨l, hl, hobeys⟩ := hwatched.get hthread
        have hcopy := hcopies i _ l hthread hl
        have hguard := (Monitor.Obeys.call_iff.mp hobeys).1
        have hheld := hguard (hcopy.verdict.trans hverdict) hproxy
        rcases World.of_updateCSMStatus hr with ⟨rfl, -⟩ | ⟨stored, hcr, -, -, rfl⟩
        · rfl
        · show (Function.update ps.world.crs cr.key (some (ps.world.restated stored cr)) key).map _ = _
          by_cases hkey : key = cr.key
          · subst hkey
            have hold : recorded ps.world cr.key =
                some stored.status.lastSuccessfulConfiguration := by
              rw [recorded, hcr]
              rfl
            have hsame := hcopy.current _ _ hheld hproxy ⟨_, k, rfl⟩ _ hold
            rw [Function.update_self, hold, hsame]
            rfl
          · rw [Function.update_of_ne hkey]
            rfl
  · -- a new thread holds nothing and has no verdict
    have hnone : lastVerdict ps.log ps.threads.length = none :=
      lastVerdict_eq_none fun x hx => Nat.ne_of_lt (hlog x hx)
    exact ⟨hnone.symm, (fun _ _ hc => nomatch hc), (fun _ _ hc => nomatch hc)⟩
  · refine ⟨World.wellStored_of_drift hstored hdrift, fun j t l ht hl => ?_⟩
    refine ⟨hl.verdict, hl.read, fun key c hc hproxy hrunning c' hc' => ?_⟩
    by_cases hsame : recorded ps.world key = some c'
    · exact hl.current key c hc hproxy hrunning c' hsame
    · obtain ⟨q', k', hq'⟩ := hrunning
      refine absurd ⟨hl.read _ c hc, t.1, q', k', ?_⟩ (hok key c' hc' hsame j)
      rw [ht, ← hq']
  · obtain ⟨hexpects, hnext⟩ := copyTrue_served hstored hl hguard hr
    refine ⟨hexpects, ?_, hnext, fun j t l' hj ht hl' => copyTrue_other hl' hj ht hr hok⟩
    exact World.wellStored_of_respond hstored (fun cr heq => by subst heq; exact hguard.1) hr

/-! ### A handler that was slow -/

/-- The status write a thread is about to make. -/
def pendingStatusWrite (ps : Threads) (i : Nat) : Option ContainerStorageModule :=
  match ps.threads[i]? with
  | some (_, .call (.updateCSMStatus cr) _) => some cr
  | _ => none

/-- A pending write can be served. -/
theorem step_of_pending {ps : Threads} (h : pendingStatusWrite ps i = some cr) :
    ∃ r ps', Pool.Step (environment kinds) (Entry.program rt) ps
      (.act i ⟨.updateCSMStatus cr, r⟩) ps' ∧ ps'.world = (ps.world.updateCSMStatus cr).2 := by
  unfold pendingStatusWrite at h
  split at h
  next ent cr' k hthread =>
    cases h
    have hserved : (environment kinds).respond ps.world (.updateCSMStatus cr) {} =
        some (ps.world.updateCSMStatus cr) := rfl
    exact ⟨_, _, .act hthread hserved, rfl⟩
  next => cases h

/-- The nodes cannot be counted: the verdict is negative. The write is next. -/
def uncounted (i : Nat) : List (Nat × World.Choice) :=
  [{}, {}, {}, { fault := some (errorf "the server is currently unable to handle the request") },
    {}, {}].map fun c => (i, c)

/-- Configurations only change while there is one thread. -/
def changesAlone (ps : Threads) (i : Nat) : Event Api → Bool
  | ⟨.updateCSMStatus cr, .ok _⟩ =>
    recorded ps.world cr.key = some cr.status.lastSuccessfulConfiguration ||
      (ps.threads.length ≤ 1 && i = 0)
  | _ => true

theorem changesAlone_sound (ps : Threads) (i : Nat) (e : Event Api)
    (h : changesAlone ps i e = true) : NotBehindBack ps (.act i e) := by
  rintro cr stored rfl hchanged j hj ⟨-, ent, q, k, hthread⟩
  have hlen : ps.threads.length ≤ 1 ∧ i = 0 := by simpa [changesAlone, hchanged] using h
  have hlt : j < ps.threads.length := (List.getElem?_eq_some_iff.mp hthread).1
  omega

/-- A handler reads the CR and then lets `others` run; it comes to a negative verdict after that. -/
def slowHandler (test : Threads → Nat → Event Api → Bool) (others : Threads → Threads)
    (ps : Threads) : Threads :=
  (others (startAndRun isilonKinds shippedRuntime test (.update "isilon" (.pod isilonPod isilonPod))
    (smooth 2) ps)).play (environment isilonKinds) test (uncounted 1)

theorem reach_slowHandler {Ok : Threads → Move Api World Entry → Prop}
    {test : Threads → Nat → Event Api → Bool} {others : Threads → Threads} {ps₀ ps : Threads}
    (h : Pool.Reach (environment isilonKinds) (Entry.program shippedRuntime) Ok ps₀ ps)
    (hupdate : Ok ps (.spawn (.update "isilon" (.pod isilonPod isilonPod))))
    (hothers : ∀ ps, Pool.Reach (environment isilonKinds) (Entry.program shippedRuntime) Ok ps₀ ps →
      Pool.Reach (environment isilonKinds) (Entry.program shippedRuntime) Ok ps₀ (others ps))
    (htest : ∀ ps i e, test ps i e = true → Ok ps (.act i e)) :
    Pool.Reach (environment isilonKinds) (Entry.program shippedRuntime) Ok ps₀
      (slowHandler test others ps) :=
  (hothers _ (reach_startAndRun h hupdate htest)).play htest _

/-- The CR has been reconciled, and then a handler has come to a negative verdict. -/
def handlerAlone : Threads :=
  slowHandler changesAlone id
    (startAndRun isilonKinds shippedRuntime changesAlone (.reconcile isilonCR.key) (smooth 60)
      (Pool.empty isilonWorld))

/-- The theorem for that handler. -/
theorem not_running_keeps_configuration_alone :
    ∃ cr r ps', Pool.Step (environment isilonKinds) (Entry.program shippedRuntime) handlerAlone
        (.act 1 ⟨.updateCSMStatus cr, r⟩) ps' ∧
      recorded ps'.world isilonCR.key = recorded handlerAlone.world isilonCR.key := by
  have hpending : (pendingStatusWrite handlerAlone 1).isSome = true := by decide +kernel
  have hverdict : lastVerdict handlerAlone.log 1 = some false := by decide +kernel
  obtain ⟨cr, hcr⟩ := Option.isSome_iff_exists.mp hpending
  obtain ⟨r, ps', hstep, -⟩ := step_of_pending hcr
  refine ⟨cr, r, ps', hstep, not_running_keeps_configuration wellStored_isilonWorld ?_ hstep hverdict
    rfl isilonCR.key⟩
  exact reach_slowHandler (reach_startAndRun .refl trivial changesAlone_sound) trivial
    (fun _ h => h) changesAlone_sound

/-- While a handler is on its way, a reconcile installs v2.17.0 and records it. -/
def handlerOvertaken : Threads :=
  slowHandler (fun _ _ _ => true)
    (startAndRun isilonKinds shippedRuntime (fun _ _ _ => true) (.reconcile isilonCR.key) (smooth 60))
    upgradeWanted

/-- The write of the handler, which found the driver not running, takes the record of v2.17.0 away. -/
theorem not_running_loses_configuration :
    Pool.Reach (environment isilonKinds) (Entry.program shippedRuntime) Delivered
      (Pool.empty isilonWorld) handlerOvertaken ∧
    ∃ cr r ps', Pool.Step (environment isilonKinds) (Entry.program shippedRuntime) handlerOvertaken
        (.act 1 ⟨.updateCSMStatus cr, r⟩) ps' ∧
      lastVerdict handlerOvertaken.log 1 = some false ∧ (isilonKinds cr.key).proxy = false ∧
      recorded handlerOvertaken.world isilonCR.key = some "dell/isilon@v2.17.0" ∧
      recorded ps'.world isilonCR.key = some "dell/isilon@v2.16.0" := by
  have hwatch : ("isilon", true) ∈ upgradeWanted.world.watches := by decide +kernel
  have hhistory : upgradeWanted.world.history = [runningCluster] := rfl
  have hpossible : Entry.Possible upgradeWanted.world (.update "isilon" (.pod isilonPod isilonPod)) := by
    refine ⟨hwatch, runningCluster, ?_, List.mem_singleton_self _⟩
    rw [hhistory]
    exact List.mem_singleton_self _
  have hpending : ((pendingStatusWrite handlerOvertaken 1).any fun cr =>
      recorded (handlerOvertaken.world.updateCSMStatus cr).2 isilonCR.key =
        some "dell/isilon@v2.16.0") = true := by decide +kernel
  obtain ⟨cr, hcr, hlost⟩ := (Option.any_eq_true ..).mp hpending
  obtain ⟨r, ps', hstep, hworld⟩ := step_of_pending hcr
  refine ⟨?_, cr, r, ps', hstep, by decide +kernel, rfl, by decide +kernel, ?_⟩
  · exact reach_slowHandler reach_upgradeWanted hpossible
      (fun _ h => reach_startAndRun h trivial fun _ _ _ _ => trivial) fun _ _ _ _ => trivial
  · rw [hworld]
    exact of_decide_eq_true hlost

end CsmOperator
