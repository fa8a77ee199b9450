import CsmOperator.Removal.Tidying
import CsmOperator.Upgrade.Installed

/-!
# What modules leave behind

The objects of Replication and Observability through whole runs: edits of the CR, reconciles that fail
anywhere, other CRs. What is there belongs to the recorded configuration, and after a completed sync to the CR
itself. There is one exception. The CRDs of Replication are created before the configuration is recorded, so
they have no record if the sync stops in between.
-/

namespace CsmOperator

open Go Interaction

variable {rt : Runtime} {manifest : Manifest} {kinds : NamespacedName → Kind} {key : NamespacedName}
  {csm : ContainerStorageModule} {l : Tidying}

/-! ## Configurations with the same parts -/

/-- As far as the parts go, what was decoded is what was encoded. -/
structure SameParts (manifest : Manifest) (a b : ContainerStorageModule) : Prop where
  key_eq : a.key = b.key
  enabled : ∀ p, PartEnabled a p ↔ PartEnabled b p
  objects : ∀ p, manifest.of a p = manifest.of b p
  decides : FirstDecides a ↔ FirstDecides b

theorem SameParts.belongsTo {a b : ContainerStorageModule} (h : SameParts manifest a b)
    (x : ModulePart × ObjectRef) : BelongsTo manifest a x ↔ BelongsTo manifest b x := by
  unfold BelongsTo
  rw [h.enabled, h.objects]

/-! ## All interleavings -/

/-- The condition on an accepted record. -/
structure SoundRecord (rt : Runtime) (manifest : Manifest) (log : List (Nat × Event Api))
    (stored cr : ContainerStorageModule) : Prop where
  decides : FirstDecides cr
  /-- the JSON of the CR is read as the CR -/
  decoded : ∃ old, recordedIn rt (cr.lookup previouslyApplied) = some old ∧ SameParts manifest old cr
  /-- a part that stays enabled keeps its objects -/
  grows : ∀ old p, recordedIn rt (stored.lookup previouslyApplied) = some old → PartEnabled old p →
    PartEnabled cr p → manifest.of old p ⊆ manifest.of cr p
  /-- the CRDs that are there are those of the CR or of the configuration recorded before -/
  crds : ∀ o, (.replicationCRDs, o) ∈ inventory manifest cr.key log →
    BelongsTo manifest cr (.replicationCRDs, o) ∨
      ∃ old, recordedIn rt (stored.lookup previouslyApplied) = some old ∧
        BelongsTo manifest old (.replicationCRDs, o)

/-- The runs that are about one CR: it is reconciled by one worker at a time and not replaced by another of its
name, CRDs are removed when that is tried, and the records are sound. -/
structure RecordedSteps (rt : Runtime) (manifest : Manifest) (key : NamespacedName) (ps : Threads)
    (m : Move Api World Entry) : Prop where
  worker : OneWorker ps m
  same : ∀ w, m = .drift w → ps.world.crs key = none → w.crs key = none
  removed : ∀ i cr e, m ≠ .act i ⟨.action .deleteReplicationCrds cr, some e⟩
  record : ∀ i cr r s, m = .act i ⟨.updateCSM cr, .ok r⟩ → cr.key = key → ps.world.crs key = some s →
    Records rt cr → SoundRecord rt manifest ps.log s cr

/-- What is there belongs to the recorded configuration. -/
structure InventoryOk (rt : Runtime) (manifest : Manifest) (key : NamespacedName) (w : World)
    (log : List (Nat × Event Api)) : Prop where
  keyed : w.KeyStored
  decoded : ∀ s old, w.crs key = some s → recordedIn rt (s.lookup previouslyApplied) = some old →
    old.key = key ∧ FirstDecides old
  belongs : ∀ s x, w.crs key = some s → x ∈ inventory manifest key log → x.1 ≠ .replicationCRDs →
    ∃ old, recordedIn rt (s.lookup previouslyApplied) = some old ∧ BelongsTo manifest old x

/-- What a running reconcile knows is true. -/
structure TidyingTrue (rt : Runtime) (manifest : Manifest) (key : NamespacedName) (t : Entry × Op Unit)
    (w : World) (log : List (Nat × Event Api)) (l : Tidying) : Prop where
  key_eq : l.key = t.1.reconciles
  kept : ¬l.crdsKept
  stored : l.key = some key → Running t.2 → ∀ a s, l.seen = some a → w.crs key = some s →
    s.lookup previouslyApplied = a
  gone : l.key = some key → Running t.2 → ∀ a s old p o, l.seen = some a → w.crs key = some s →
    recordedIn rt a = some old → l.removed p → o ∈ manifest.of old p → (p, o) ∉ inventory manifest key log
  recorded : l.key = some key → Running t.2 → ∀ cr, l.applied cr →
    ∃ a old, l.seen = some a ∧ recordedIn rt a = some old ∧ SameParts manifest old cr
  settled : l.key = some key → Running t.2 → ∀ cr, l.applied cr → ∀ x ∈ inventory manifest key log,
    BelongsTo manifest cr x

variable {w w' : World} {log log' : List (Nat × Event Api)} {i : Nat} {ent : Entry} {ch : World.Choice}
  {t : Entry × Op Unit} {p p' : Op Unit}

/-- A thread that is not a running reconcile of the key has nothing to be true about. -/
theorem TidyingTrue.idle (hkey : l.key = t.1.reconciles) (hkept : ¬l.crdsKept)
    (h : l.key = some key → ¬Running t.2) : TidyingTrue rt manifest key t w log l where
  key_eq := hkey
  kept := hkept
  stored hk hrun := absurd hrun (h hk)
  gone hk hrun := absurd hrun (h hk)
  recorded hk hrun := absurd hrun (h hk)
  settled hk hrun := absurd hrun (h hk)

/-- Where nothing is created for the key and the annotation of its CR is not changed, all stays true. -/
theorem InventoryOk.frame (hok : InventoryOk rt manifest key w log) (hkeyed : w'.KeyStored)
    (hstored : ∀ s', w'.crs key = some s' → ∃ s, w.crs key = some s ∧
      s'.lookup previouslyApplied = s.lookup previouslyApplied)
    (hinventory : inventory manifest key log' ⊆ inventory manifest key log) : InventoryOk rt manifest key w' log' where
  keyed := hkeyed
  decoded s' old hs' hold := by
    obtain ⟨s, hs, hlookup⟩ := hstored s' hs'
    exact hok.decoded s old hs (hlookup ▸ hold)
  belongs s' x hs' hx hne := by
    obtain ⟨s, hs, hlookup⟩ := hstored s' hs'
    rw [hlookup]
    exact hok.belongs s x hs (hinventory hx) hne

theorem TidyingTrue.frame (hl : TidyingTrue rt manifest key t w log l) (hp : Running p' → Running t.2)
    (hstored : ∀ s', w'.crs key = some s' → ∃ s, w.crs key = some s ∧
      s'.lookup previouslyApplied = s.lookup previouslyApplied)
    (hinventory : inventory manifest key log' ⊆ inventory manifest key log) :
    TidyingTrue rt manifest key (t.1, p') w' log' l where
  key_eq := hl.key_eq
  kept := hl.kept
  stored hk hrun a s' ha hs' := by
    obtain ⟨s, hs, hlookup⟩ := hstored s' hs'
    exact hlookup.trans (hl.stored hk (hp hrun) a s ha hs)
  gone hk hrun a s' old part o ha hs' hold hpart ho hmem := by
    obtain ⟨s, hs, -⟩ := hstored s' hs'
    exact hl.gone hk (hp hrun) a s old part o ha hs hold hpart ho (hinventory hmem)
  recorded hk hrun := hl.recorded hk (hp hrun)
  settled hk hrun cr hcr x hx := hl.settled hk (hp hrun) cr hcr x (hinventory hx)

/-! ### Requests that are no actions -/

theorem annotation_of_respond {q : Request} {r : q.Answer} (hupdate : ∀ cr, q = .updateCSM cr → cr.key ≠ key)
    (h : w.respond q ch = some (r, w')) (s' : ContainerStorageModule) (hs' : w'.crs key = some s') :
    ∃ s, w.crs key = some s ∧ s'.lookup previouslyApplied = s.lookup previouslyApplied := by
  rcases World.stored_of_respond_other hupdate h with hsame | ⟨s, status, rv, hs, hnew⟩
  · exact ⟨s', hsame ▸ hs', rfl⟩
  · rw [hnew] at hs'
    cases hs'
    exact ⟨s, hs, rfl⟩

/-- Of the actions, those that create something for the key. -/
theorem inventory_subset {q : Request} {r : q.Answer}
    (h : ∀ a cr p, q = .action a cr → cr.key = key → ¬a.creates cr p) :
    inventory manifest key (log ++ [(i, ⟨q, r⟩)]) ⊆ inventory manifest key log := by
  intro x hx
  cases q with
  | action a cr =>
      rcases mem_inventory_action hx with hold | ⟨hkey, hcreates, -⟩
      · exact hold
      · exact (h a cr x.1 rfl hkey hcreates).elim
  | _ =>
      rw [inventory_append] at hx
      exact hx

theorem tidying_expects {q : Request} {r : q.Answer} (hkeyed : w.KeyStored)
    (h : w.respond q ch = some (r, w')) : Tidying.Expects q r := by
  unfold Tidying.Expects
  split
  next key cr => exact hkeyed key cr ((World.of_getCSM h).2 cr rfl)
  next cr cr' =>
    rcases World.of_updateCSM h with ⟨-, e, heq⟩ | ⟨stored, -, -, heq, -⟩
    · cases heq
    · cases heq
      exact ⟨rfl, rfl, rfl⟩
  next => trivial

/-- What a reconcile learns from a read is true. -/
theorem tidyingTrue_getCSM {k : NamespacedName} {cr : ContainerStorageModule}
    (hl : TidyingTrue rt manifest key (ent, p) w log l) (hrun : Running p)
    (h : w.respond (.getCSM k) ch = some (.ok cr, w')) :
    TidyingTrue rt manifest key (ent, p') w' (log ++ [(i, ⟨.getCSM k, .ok cr⟩)])
      (l.follow rt (.getCSM k) (.ok cr)) := by
  have hinventory : inventory manifest key (log ++ [(i, (⟨.getCSM k, .ok cr⟩ : Event Api))]) ⊆
      inventory manifest key log := inventory_subset fun _ _ _ heq => nomatch heq
  have hsame : TidyingTrue rt manifest key (ent, p') w' _ l :=
    hl.frame (fun _ => hrun) (annotation_of_respond (q := .getCSM k) (fun _ heq => nomatch heq) h) hinventory
  obtain ⟨rfl, hcr⟩ := World.of_getCSM h
  show TidyingTrue rt manifest key (ent, p') w' _ (if l.key = some k then _ else l)
  split
  next hk =>
    refine ⟨hl.key_eq, hl.kept, fun hkey _ a s ha hs => ?_, fun _ _ _ _ _ _ _ _ _ _ hpart => hpart.elim,
      fun _ _ _ hcr => hcr.elim, fun _ _ _ hcr => hcr.elim⟩
    obtain rfl : k = key := Option.some.inj (hk.symm.trans hkey)
    rw [hcr cr rfl] at hs
    cases hs
    exact Option.some.inj ha
  next => exact hsame

section Served

variable {ps : Threads}

/-! ### Actions -/

/-- What is created for the key by its reconcile is part of the configuration it has recorded. -/
theorem belongs_of_creates {a : Action} {cr csm : ContainerStorageModule} {x : ModulePart × ObjectRef}
    (hl : TidyingTrue rt manifest key (ent, p) w log l) (hrun : Running p)
    (hguard : l.Allows rt (.action a cr)) (hkey : cr.key = key) (hcreates : a.creates cr x.1)
    (hx : x.2 ∈ manifest.of cr x.1) (hcsm : l.applied csm) : BelongsTo manifest csm x := by
  obtain ⟨hlkey, henabled, ⟨-, hlike⟩ | happlied⟩ := hguard x.1 hcreates
  · obtain ⟨hkey', hspec⟩ := hlike csm hcsm
    exact (belongsTo_congr hkey' hspec x).mpr ⟨henabled, hx⟩
  · have hk : l.key = some key := hlkey.trans (congrArg some hkey)
    obtain ⟨b, old, hb, hold, hsame⟩ := hl.recorded hk hrun cr happlied
    obtain ⟨b', old', hb', hold', hsame'⟩ := hl.recorded hk hrun csm hcsm
    obtain rfl : b = b' := Option.some.inj (hb.symm.trans hb')
    obtain rfl : old = old' := Option.some.inj (hold.symm.trans hold')
    exact (hsame'.belongsTo x).mp ((hsame.belongsTo x).mpr ⟨henabled, hx⟩)

theorem served_action {a : Action} {cr : ContainerStorageModule} {r : Option GoError}
    (hok : InventoryOk rt manifest key ps.world ps.log)
    (hl : TidyingTrue rt manifest key (ent, p) ps.world ps.log l) (hrun : Running p)
    (hguard : l.Allows rt (.action a cr)) (h : ps.world.respond (.action a cr) ch = some (r, w'))
    (hsteps : RecordedSteps rt manifest key ps (.act i ⟨.action a cr, r⟩)) :
    InventoryOk rt manifest key w' (ps.log ++ [(i, ⟨.action a cr, r⟩)]) ∧
      TidyingTrue rt manifest key (ent, p') w' (ps.log ++ [(i, ⟨.action a cr, r⟩)]) (l.act rt a cr r) := by
  have hstored : ∀ s', w'.crs key = some s' → ∃ s, ps.world.crs key = some s ∧
      s'.lookup previouslyApplied = s.lookup previouslyApplied :=
    annotation_of_respond (q := .action a cr) (fun _ heq => nomatch heq) h
  refine ⟨⟨World.keyStored_of_respond hok.keyed h, fun s' old hs' hold => ?_, fun s' x hs' hx hne => ?_⟩,
    ⟨hl.key_eq, ?_, fun hk _ b s' hb hs' => ?_, fun hk _ b s' old part o hb hs' hold hpart ho hmem => ?_,
      fun hk _ => hl.recorded hk hrun, fun hk _ csm hcsm x hx => ?_⟩⟩
  · obtain ⟨s, hs, hlookup⟩ := hstored s' hs'
    exact hok.decoded s old hs (hlookup ▸ hold)
  · obtain ⟨s, hs, hlookup⟩ := hstored s' hs'
    rw [hlookup]
    rcases mem_inventory_action hx with hx | ⟨hkey, hcreates, hxmem⟩
    · exact hok.belongs s x hs hx hne
    · -- only the CRDs are created before the record
      obtain ⟨hlkey, -, ⟨hcrds, -⟩ | happlied⟩ := hguard x.1 hcreates
      · exact (hne hcrds).elim
      · have hk : l.key = some key := hlkey.trans (congrArg some hkey)
        obtain ⟨b, old, hb, hold, hsame⟩ := hl.recorded hk hrun cr happlied
        refine ⟨old, hl.stored hk hrun b s hb hs ▸ hold, (hsame.belongsTo x).mpr ?_⟩
        exact belongs_of_creates hl hrun hguard hkey hcreates hxmem happlied
  · rintro (hkept | ⟨rfl, herr⟩)
    · exact hl.kept hkept
    · cases r with
      | none => exact herr rfl
      | some e => exact hsteps.removed i cr e rfl
  · obtain ⟨s, hs, hlookup⟩ := hstored s' hs'
    exact hlookup.trans (hl.stored hk hrun b s hb hs)
  · obtain ⟨s, hs, hlookup⟩ := hstored s' hs'
    obtain ⟨hnot, hpart | ⟨rfl, hremoves, b', hb', hold'⟩⟩ := hpart
    · rcases mem_inventory_action hmem with hmem | ⟨-, hcreates, -⟩
      · exact hl.gone hk hrun b s old part o hb hs hold hpart ho hmem
      · exact hnot hcreates
    · obtain rfl : b = b' := Option.some.inj (hb.symm.trans hb')
      obtain rfl : old = cr := Option.some.inj (hold.symm.trans hold')
      have hkey := (hok.decoded s old hs (hl.stored hk hrun b s hb hs ▸ hold)).1
      exact not_mem_inventory_removed hkey hremoves ho hmem
  · rcases mem_inventory_action hx with hx | ⟨hkey, hcreates, hxmem⟩
    · exact hl.settled hk hrun csm hcsm x hx
    · exact belongs_of_creates hl hrun hguard hkey hcreates hxmem hcsm

/-! ### Updates of the CR -/

/-- Once the configuration is recorded, everything that is there is part of it. -/
theorem belongs_of_recorded {cr stored : ContainerStorageModule} {a : Option String}
    (hok : InventoryOk rt manifest cr.key w log)
    (hl : TidyingTrue rt manifest cr.key (ent, p) w log l) (hrun : Running p) (hk : l.key = some cr.key)
    (hseen : l.seen = some a) (hstored : w.crs cr.key = some stored)
    (hguard : cr.lookup previouslyApplied = a ∨ Records rt cr ∧ l.CleanedFor rt a cr)
    (hsound : SoundRecord rt manifest log stored cr) (x : ModulePart × ObjectRef)
    (hx : x ∈ inventory manifest cr.key log) : BelongsTo manifest cr x := by
  have ha := hl.stored hk hrun a stored hseen hstored
  -- it is part of the configuration recorded before, unless it is new
  have hbefore : BelongsTo manifest cr x ∨
      ∃ old, recordedIn rt a = some old ∧ BelongsTo manifest old x := by
    rw [← ha]
    obtain ⟨part, o⟩ := x
    by_cases hpart : part = .replicationCRDs
    · subst hpart
      exact hsound.crds o hx
    · exact .inr (hok.belongs stored (part, o) hstored hx hpart)
  rcases hbefore with hnew | ⟨old, hold, henabled, hmem⟩
  · exact hnew
  · rcases hguard with hsame | ⟨-, hcleaned⟩
    · obtain ⟨old', hold', hparts⟩ := hsound.decoded
      rw [hsame, hold] at hold'
      cases hold'
      exact (hparts.belongsTo x).mp ⟨henabled, hmem⟩
    · have hfirst := (hok.decoded stored old hstored (ha ▸ hold)).2
      rcases hcleaned old hold hfirst hsound.decides x.1 henabled with hcr | hgone | ⟨-, hkept⟩
      · exact ⟨hcr, hsound.grows old x.1 (ha ▸ hold) henabled hcr hmem⟩
      · exact (hl.gone hk hrun a stored old x.1 x.2 hseen hstored hold hgone hmem hx).elim
      · exact (hl.kept hkept).elim

/-- What is stored under the key of an accepted update. -/
theorem lookup_of_updated {cr stored s : ContainerStorageModule}
    (h : (w.put cr.key (World.kept (w.updated stored cr))).crs cr.key = some s) (k : String) :
    s.lookup k = cr.lookup k := by
  have h : Function.update w.crs cr.key (World.kept (w.updated stored cr)) cr.key = some s := h
  rw [Function.update_self, World.kept] at h
  split at h
  · cases h
  · cases h
    rfl

theorem served_record {cr : ContainerStorageModule} {r : Except GoError ContainerStorageModule}
    (hok : InventoryOk rt manifest key ps.world ps.log)
    (hl : TidyingTrue rt manifest key (ent, p) ps.world ps.log l) (hrun : Running p)
    (hguard : l.Allows rt (.updateCSM cr)) (h : ps.world.respond (.updateCSM cr) ch = some (r, w'))
    (hsteps : RecordedSteps rt manifest key ps (.act i ⟨.updateCSM cr, r⟩)) :
    InventoryOk rt manifest key w' (ps.log ++ [(i, ⟨.updateCSM cr, r⟩)]) ∧
      TidyingTrue rt manifest key (ent, p') w' (ps.log ++ [(i, ⟨.updateCSM cr, r⟩)])
        (l.follow rt (.updateCSM cr) r) := by
  have hkeyed := World.keyStored_of_respond hok.keyed h
  have hinventory : inventory manifest key (ps.log ++ [(i, (⟨.updateCSM cr, r⟩ : Event Api))]) =
      inventory manifest key ps.log := inventory_other fun _ _ heq => nomatch heq
  by_cases hkey : cr.key = key
  · subst hkey
    obtain ⟨hk, a, hseen, hguard⟩ := hguard
    rcases World.of_updateCSM h with ⟨rfl, e, rfl⟩ | ⟨stored, hstored, -, rfl, rfl⟩
    · exact ⟨hok.frame hkeyed (fun s hs => ⟨s, hs, rfl⟩) hinventory.le,
        hl.frame (fun _ => hrun) (fun s hs => ⟨s, hs, rfl⟩) hinventory.le⟩
    · have ha := hl.stored hk hrun a stored hseen hstored
      by_cases hrecords : Records rt cr
      · have hsound := hsteps.record i cr _ stored rfl rfl hstored hrecords
        have hbelongs := belongs_of_recorded hok hl hrun hk hseen hstored hguard hsound
        obtain ⟨old, hold, hparts⟩ := hsound.decoded
        refine ⟨⟨hkeyed, fun s old' hs hold' => ?_, fun s x hs hx _ => ?_⟩, hl.key_eq, hl.kept,
          fun _ _ b s hb hs => ?_, fun _ _ _ _ _ _ _ _ _ _ hpart => hpart.elim, fun _ _ c hc => ?_,
          fun _ _ c hc x hx => ?_⟩
        · rw [lookup_of_updated hs, hold] at hold'
          cases hold'
          exact ⟨hparts.key_eq, hparts.decides.mpr hsound.decides⟩
        · rw [lookup_of_updated hs]
          exact ⟨old, hold, (hparts.belongsTo x).mpr (hbelongs x (hinventory ▸ hx))⟩
        · rw [lookup_of_updated hs]
          exact Option.some.inj hb
        · obtain ⟨-, hckey, hcspec⟩ := hc
          refine ⟨_, old, rfl, hold, hparts.key_eq.trans hckey.symm, fun part => ?_, fun part => ?_, ?_⟩
          · rw [partEnabled_congr hcspec]
            exact hparts.enabled part
          · rw [hparts.objects, Manifest.of, Manifest.of, hckey, hcspec]
          · rw [hparts.decides]
            simp only [FirstDecides, replicaEnabled, isModuleEnabled, hcspec]
        · obtain ⟨-, hckey, hcspec⟩ := hc
          exact (belongsTo_congr hckey hcspec x).mpr (hbelongs x (hinventory ▸ hx))
      · -- the annotation is the one that was read
        have hsame : cr.lookup previouslyApplied = a := by
          rcases hguard with hsame | ⟨hr, -⟩
          · exact hsame
          · exact (hrecords hr).elim
        have hann (s : ContainerStorageModule)
            (hs : (ps.world.put cr.key (World.kept (ps.world.updated stored cr))).crs cr.key = some s) :
            ∃ s₀, ps.world.crs cr.key = some s₀ ∧
              s.lookup previouslyApplied = s₀.lookup previouslyApplied := by
          refine ⟨stored, hstored, ?_⟩
          rw [lookup_of_updated hs, hsame, ha]
        refine ⟨hok.frame hkeyed hann hinventory.le, hl.key_eq, hl.kept, fun _ _ b s hb hs => ?_,
          fun _ _ _ _ _ _ _ _ _ _ hpart => hpart.elim, fun _ _ c hc => (hrecords hc.1).elim,
          fun _ _ c hc => (hrecords hc.1).elim⟩
        rw [lookup_of_updated hs]
        exact Option.some.inj hb
  · have hother : ∀ cr', Request.updateCSM cr = .updateCSM cr' → cr'.key ≠ key := by
      rintro _ heq hk
      cases heq
      exact hkey hk
    have hlkey : (l.follow rt (.updateCSM cr) r).key = l.key := Tidying.key_follow (.updateCSM cr) r
    have hidle : (l.follow rt (.updateCSM cr) r).key = some key → ¬Running p' := by
      rw [hlkey, hguard.1]
      exact fun hk => (hkey (Option.some.inj hk)).elim
    refine ⟨hok.frame hkeyed (annotation_of_respond hother h) hinventory.le, .idle ?_ ?_ hidle⟩
    · exact hlkey.trans hl.key_eq
    · cases r with
      | error e => exact hl.kept
      | ok cr' => exact hl.kept

/-- Every served request keeps the invariant and teaches the thread the truth. -/
theorem tidying_served {q : Request} {r : q.Answer} (p' : Op Unit)
    (hok : InventoryOk rt manifest key ps.world ps.log)
    (hl : TidyingTrue rt manifest key (ent, p) ps.world ps.log l) (hrun : Running p)
    (hguard : l.Allows rt q) (h : ps.world.respond q ch = some (r, w'))
    (hsteps : RecordedSteps rt manifest key ps (.act i ⟨q, r⟩)) :
    InventoryOk rt manifest key w' (ps.log ++ [(i, ⟨q, r⟩)]) ∧
      TidyingTrue rt manifest key (ent, p') w' (ps.log ++ [(i, ⟨q, r⟩)]) (l.follow rt q r) := by
  have hother : (∀ cr, q ≠ .updateCSM cr) → (∀ a cr, q ≠ .action a cr) →
      InventoryOk rt manifest key w' (ps.log ++ [(i, ⟨q, r⟩)]) ∧
        TidyingTrue rt manifest key (ent, p') w' (ps.log ++ [(i, ⟨q, r⟩)]) l := by
    intro hupdate haction
    have hstored (s' : ContainerStorageModule) (hs' : w'.crs key = some s') :=
      annotation_of_respond (fun cr heq => absurd heq (hupdate cr)) h s' hs'
    have hinventory : inventory manifest key (ps.log ++ [(i, (⟨q, r⟩ : Event Api))]) ⊆
        inventory manifest key ps.log := inventory_subset fun a cr _ heq => absurd heq (haction a cr)
    exact ⟨hok.frame (World.keyStored_of_respond hok.keyed h) hstored hinventory,
      hl.frame (fun _ => hrun) hstored hinventory⟩
  cases q with
  | getCSM k =>
      have hsame := hother (fun _ heq => nomatch heq) fun _ _ heq => nomatch heq
      match r with
      | .error e => exact hsame
      | .ok cr => exact ⟨hsame.1, tidyingTrue_getCSM hl hrun h⟩
  | updateCSM cr => exact served_record hok hl hrun hguard h hsteps
  | action a cr => exact served_action hok hl hrun hguard h hsteps
  | _ => exact hother (fun _ heq => nomatch heq) fun _ _ heq => nomatch heq

end Served

/-! ## Runs -/

/-- A world in which nothing is recorded for the key. -/
def NothingRecorded (key : NamespacedName) (w : World) : Prop :=
  w.KeyStored ∧ ∀ s, w.crs key = some s → s.lookup previouslyApplied = none

theorem inventoryOk_start (h : NothingRecorded key w) : InventoryOk rt manifest key w [] where
  keyed := h.1
  decoded s old hs hold := by
    rw [h.2 s hs] at hold
    cases hold
  belongs s x _ hx := by
    rw [inventory_nil] at hx
    exact hx.elim

/-- The invariant holds in every run, and what its threads know is true. -/
theorem inventoryOk_of_reach {w₀ : World} {ps : Threads} (hnew : NothingRecorded key w₀)
    (hrun : Pool.Reach (environment kinds) (Entry.program rt) (RecordedSteps rt manifest key)
      (Pool.empty w₀) ps) :
    InventoryOk rt manifest key ps.world ps.log ∧ ∃ ls, Pool.Watched (tidying rt) ps.threads ls ∧
      ∀ (i : Nat) t l, ps.threads[i]? = some t → ls[i]? = some l →
        TidyingTrue rt manifest key t ps.world ps.log l := by
  have halone := hrun.with_invariant fun ps h => alone_of_reach (fun _ _ hok => hok.worker) h
  refine halone.exists_known (tidying rt) Entry.firstTidying (fun _ ent _ => tidying_program ent)
    (InventoryOk rt manifest key) (fun _ t w log l => TidyingTrue rt manifest key t w log l)
    (inventoryOk_start hnew) (fun ps ent _ _ _ => ?_) (fun ps w hok hsteps hdrift => ?_)
    (fun ps i ent l q k c r w hok hl ht hguard hr hsteps => ?_)
  · exact ⟨rfl, fun h => h, (fun _ _ _ _ h => nomatch h), (fun _ _ _ _ _ _ _ h => nomatch h),
      (fun _ _ _ h => h.elim), fun _ _ _ h => h.elim⟩
  · -- the CR is edited, but not its annotation, or it is gone
    have hstored : ∀ s', w.crs key = some s' → ∃ s, ps.world.crs key = some s ∧
        s'.lookup previouslyApplied = s.lookup previouslyApplied := by
      intro s' hs'
      have hedit := hdrift.crs key
      rw [hs'] at hedit
      generalize ho : ps.world.crs key = o at hedit
      cases hedit with
      | untouched => exact ⟨s', rfl, rfl⟩
      | edited _ _ _ howned _ => exact ⟨_, rfl, howned previouslyApplied (by decide)⟩
      | created => exact absurd ((hsteps.1.same w rfl ho).symm.trans hs') nofun
    refine ⟨hok.frame (World.keyStored_of_drift hok.keyed hdrift) hstored subset_rfl, fun j t l _ hl => ?_⟩
    exact hl.frame (fun h => h) hstored subset_rfl
  · obtain ⟨hsteps, halone⟩ := hsteps
    have hrunning : Running (.call q k) := ⟨q, k, rfl⟩
    obtain ⟨hok', hl'⟩ := tidying_served (k r) hok hl hrunning hguard hr hsteps
    refine ⟨tidying_expects hok.keyed hr, hok', hl', fun j t l' hj ht' hl' => ?_⟩
    by_cases hmine : l.key = some key
    · -- another reconcile of the key is not running
      have hent := Entry.of_reconciles (hl.key_eq.symm.trans hmine)
      refine .idle hl'.key_eq hl'.kept fun hkey' hrunning' => ?_
      have hent' := Entry.of_reconciles (hl'.key_eq.symm.trans hkey')
      refine hj (halone j i key t.2 _ ?_ (hent ▸ ht) hrunning' hrunning)
      rw [ht', ← hent']
    · refine hl'.frame (fun h => h) (annotation_of_respond (fun cr heq hk => ?_) hr)
        (inventory_subset fun a cr part heq hk hcreates => ?_)
      · subst heq
        exact hmine (hk ▸ hguard.1)
      · subst heq
        exact hmine (hk ▸ (hguard part hcreates).1)

/-- Something that was created is there if nothing was removed since. -/
theorem mem_inventory_of_created {a : Action} {cr : ContainerStorageModule} {r : Option GoError}
    {x : ModulePart × ObjectRef} (hmem : (i, (⟨.action a cr, r⟩ : Event Api)) ∈ log) (hkey : cr.key = key)
    (hx : x ∈ created manifest a cr)
    (hkept : ∀ j a cr r, (j, (⟨.action a cr, r⟩ : Event Api)) ∈ log → ¬a.removes cr x.1) :
    x ∈ inventory manifest key log := by
  induction log using List.reverseRecOn with
  | nil => cases hmem
  | append_singleton log e ih =>
      obtain ⟨j, q, ans⟩ := e
      rw [inventory_append]
      rcases List.mem_append.mp hmem with hmem | hmem
      · have hx := ih hmem fun j a cr r h => hkept j a cr r (List.mem_append_left _ h)
        cases q with
        | action a' cr' =>
            have hnot : x ∉ removed manifest a' cr' := fun h =>
              hkept j a' cr' ans (List.mem_append_right _ (List.mem_singleton.mpr rfl)) h.1
            cases ans with
            | none =>
                show x ∈ if cr'.key = key then _ else _
                split
                · exact ⟨.inl hx, hnot⟩
                · exact hx
            | some e =>
                show x ∈ if cr'.key = key then _ else _
                split
                · exact .inl hx
                · exact hx
        | _ => exact hx
      · have hnot : x ∉ removed manifest a cr := fun h =>
          hkept i a cr r (List.mem_append_right _ hmem) h.1
        cases List.mem_singleton.mp hmem
        cases r with
        | none =>
            show x ∈ if cr.key = key then _ else _
            rw [if_pos hkey]
            exact ⟨.inr hx, hnot⟩
        | some e =>
            show x ∈ if cr.key = key then _ else _
            rw [if_pos hkey]
            exact .inr hx

/-- With a manifest that does not depend on the spec, the modules are what counts. -/
theorem sameParts_of_modules {a b : ContainerStorageModule} (hkey : a.key = b.key)
    (hmodules : a.spec.modules = b.spec.modules) (hmanifest : ∀ p, manifest.of a p = manifest.of b p) :
    SameParts manifest a b where
  key_eq := hkey
  enabled p := by cases p <;> simp only [PartEnabled, ComponentEnabled, isModuleEnabled, hmodules]
  objects := hmanifest
  decides := by simp only [FirstDecides, replicaEnabled, isModuleEnabled, hmodules]

def replicatedSpec (enabled : Bool) : ContainerStorageModuleSpec :=
  { isilonSpec "v2.16.0" with modules := [{ name := .replication, enabled }] }

/-- Of the configuration, whether Replication is on. -/
def switchedRuntime : Runtime :=
  { shippedRuntime with
    jsonMarshal cr := .ok (if replicaEnabled cr then "on" else "off")
    jsonUnmarshal text := .ok { isilonCR with spec := replicatedSpec (text = "on") } }

/-- Whatever the objects are. -/
def anyObjects : Manifest := fun _ _ _ => Set.univ

def replicatedWorld : World := .storing [{ isilonCR with spec := replicatedSpec true }] runningCluster

/-- The recorded configuration is read as it was written, and Replication is on in it or was before. -/
def recordsSoundly (ps : Threads) (_ : Nat) : Event Api → Bool
  | ⟨.updateCSM cr, .ok _⟩ =>
    ((ps.world.crs isilonCR.key).all fun s =>
      (recordedIn switchedRuntime (cr.lookup previouslyApplied)).all fun old =>
        old.key = cr.key && old.spec.modules = cr.spec.modules &&
          replicaEnabled cr = (isModuleEnabled cr .replication).isSome &&
          ((isModuleEnabled cr .replication).isSome ||
            (recordedIn switchedRuntime (s.lookup previouslyApplied)).any
              fun before => (isModuleEnabled before .replication).isSome)) &&
      ((cr.lookup previouslyApplied).isNone ||
        (recordedIn switchedRuntime (cr.lookup previouslyApplied)).isSome)
  | ⟨.action .deleteReplicationCrds _, some _⟩ => false
  | _ => true

theorem recordsSoundly_sound {ps : Threads} {e : Event Api} (h : recordsSoundly ps i e = true) :
    RecordedSteps switchedRuntime anyObjects isilonCR.key ps (.act i e) := by
  refine ⟨trivial, (fun _ heq => nomatch heq), ?_, ?_⟩
  · rintro j cr err heq
    cases heq
    cases h
  · rintro j cr r s heq hkey hs ⟨_, out, -, -, -, hlookup⟩
    cases heq
    obtain ⟨htest, hsome⟩ := Bool.and_eq_true_iff.mp h
    rw [hlookup] at hsome
    obtain ⟨old, hold⟩ := Option.isSome_iff_exists.mp hsome
    rw [hs, Option.all_some, hlookup, hold, Option.all_some] at htest
    simp only [Bool.and_eq_true, Bool.or_eq_true, decide_eq_true_eq] at htest
    obtain ⟨⟨⟨holdkey, hmodules⟩, hfirst⟩, hon⟩ := htest
    refine ⟨hfirst, ⟨old, hlookup ▸ hold, sameParts_of_modules holdkey hmodules fun _ => rfl⟩,
      fun _ _ _ _ _ => subset_rfl, fun o _ => ?_⟩
    rcases hon with hcr | hbefore
    · exact .inl ⟨hcr, trivial⟩
    · obtain ⟨before, hrecorded, hbefore⟩ := (Option.any_eq_true ..).mp hbefore
      exact .inr ⟨before, hrecorded, hbefore, trivial⟩

theorem RecordedSteps.spawn {ps : Threads} (h : OneWorker ps (.spawn ent)) :
    RecordedSteps rt manifest key ps (.spawn ent) :=
  ⟨h, (fun _ heq => nomatch heq), (fun _ _ _ heq => nomatch heq), fun _ _ _ _ heq => nomatch heq⟩

theorem RecordedSteps.drift {ps : Threads} (h : ps.world.crs key = none → w.crs key = none) :
    RecordedSteps rt manifest key ps (.drift w) := by
  refine ⟨trivial, fun w' heq => ?_, (fun _ _ _ heq => nomatch heq), fun _ _ _ _ heq => nomatch heq⟩
  cases heq
  exact h

/-- Replication is installed. -/
def replicatedInstalled : Threads :=
  startAndRun isilonKinds switchedRuntime recordsSoundly (.reconcile isilonCR.key) (smooth 60)
    (Pool.empty replicatedWorld)

/-- It is turned off, and the sync is about to be completed. -/
def replicatedOff : Threads :=
  startAndRun isilonKinds switchedRuntime recordsSoundly (.reconcile isilonCR.key) (smooth 28)
    { replicatedInstalled with
      world := replicatedInstalled.world.edit isilonCR.key (replicatedSpec false) }

theorem nothingRecorded_replicatedWorld : NothingRecorded isilonCR.key replicatedWorld := by
  refine ⟨World.keyStored_storing _ _, fun s hs => ?_⟩
  have hnone : ((replicatedWorld.crs isilonCR.key).all fun s => s.lookup previouslyApplied = none) = true := by
    decide +kernel
  rw [hs] at hnone
  exact of_decide_eq_true hnone

theorem reach_replicatedInstalled :
    Pool.Reach (environment isilonKinds) (Entry.program switchedRuntime)
      (RecordedSteps switchedRuntime anyObjects isilonCR.key) (Pool.empty replicatedWorld)
      replicatedInstalled :=
  reach_startAndRun .refl (.spawn (not_reconciling rfl _)) fun _ _ _ => recordsSoundly_sound

theorem reach_replicatedOff :
    Pool.Reach (environment isilonKinds) (Entry.program switchedRuntime)
      (RecordedSteps switchedRuntime anyObjects isilonCR.key) (Pool.empty replicatedWorld)
      replicatedOff := by
  have hstored : ((replicatedInstalled.world.crs isilonCR.key).all
      fun cr => cr.key = isilonCR.key ∧ cr.name ≠ "") = true := by decide +kernel
  refine reach_startAndRun (reach_edit reach_replicatedInstalled (World.bounded_storing (by decide))
    (fun cr hcr => ?_) (.drift fun hnone => ?_)) (.spawn (not_reconciling ?_ _))
    fun _ _ _ => recordsSoundly_sound
  · rw [hcr, Option.all_some, decide_eq_true_eq] at hstored
    exact ⟨hstored.1, hstored.2, rfl⟩
  · rw [World.edit, World.change_crs_self, hnone]
    rfl
  · decide +kernel

/-- The Deployment of the replication controller. -/
def replicationManager : ModulePart × ObjectRef :=
  (.replicationController, ⟨.deployment, ⟨"dell-replication-controller", "dell-replication-controller-manager"⟩⟩)

/-- The call installs the replication controller for the CR. -/
def installsReplication : Event Api → Bool
  | ⟨.action (.replicationManagerController false) cr, _⟩ => cr.key = isilonCR.key
  | _ => false

theorem of_installsReplication {e : Event Api} (h : installsReplication e = true) :
    ∃ cr r, e = ⟨.action (.replicationManagerController false) cr, r⟩ ∧ cr.key = isilonCR.key := by
  unfold installsReplication at h
  split at h
  next cr r => exact ⟨cr, r, rfl, of_decide_eq_true h⟩
  next => cases h

/-- The call removes no replication controller. -/
def keepsReplication : Event Api → Bool
  | ⟨.action (.replicationManagerController true) _, _⟩ => false
  | _ => true

theorem replicationManager_mem (hinstalls : (log.any fun x => installsReplication x.2) = true)
    (hkeeps : (log.all fun x => keepsReplication x.2) = true) :
    replicationManager ∈ inventory anyObjects isilonCR.key log := by
  obtain ⟨⟨j, e⟩, hmem, hinstalls⟩ := List.any_eq_true.mp hinstalls
  obtain ⟨cr, r, rfl, hkey⟩ := of_installsReplication hinstalls
  refine mem_inventory_of_created hmem hkey ⟨rfl, trivial⟩ fun j a cr r h hremoves => ?_
  have hkept := List.all_eq_true.mp hkeeps _ h
  cases a with
  | replicationManagerController isDeleting =>
      cases isDeleting with
      | true => cases hkept
      | false => exact hremoves
  | reconcileObservability isDeleting components =>
      cases isDeleting with
      | true =>
          obtain ⟨_, hpart, -⟩ := hremoves
          cases hpart
      | false => exact hremoves
  | _ => first | exact hremoves | cases hremoves

theorem replicationManager_installed :
    replicationManager ∈ inventory anyObjects isilonCR.key replicatedInstalled.log :=
  replicationManager_mem (by decide +kernel) (by decide +kernel)

end CsmOperator
