import CsmOperator.OperatorUtils.ApplyObject
import CsmOperator.Resources.Sync
import Mathlib.Data.List.Nodup

/-!
# What the functions of `pkg/resources` come to

The operator reconciles several CRs at once, its requests fail or are answered late, and other clients write the
same objects. Here the calls of `Sync` run in any number of threads over a store of versioned objects. Each of them
takes effect in one step or not at all: no write that came in between is undone by one that was based on the
state before it.
-/

namespace CsmOperator.Resources

open Go Interaction Journal

/-! ## What each call stands for -/

/-- The manifest is put in the place of what is there. -/
def replaces (o : ObjectId) (obj : Json) : Transaction ObjectId Json := ⟨o, fun _ => some obj⟩

def Call.transaction : Call → Transaction ObjectId Json
  | applyObject o obj => ⟨o, fun live => some (live.elim obj obj.onto)⟩
  | deleteObject o => ⟨o, fun _ => none⟩
  | syncServiceAccount key sa => ⟨⟨"ServiceAccount", key⟩, fun live => some (live.getD sa)⟩
  | applyCTRLObject o obj => replaces o obj
  | syncClusterRole key clusterRole => replaces ⟨"ClusterRole", key⟩ clusterRole
  | syncClusterRoleBindings key rb => replaces ⟨"ClusterRoleBinding", key⟩ rb
  | syncRole key role => replaces ⟨"Role", key⟩ role
  | syncRoleBindings key rb => replaces ⟨"RoleBinding", key⟩ rb
  | syncCSIDriver name csi => replaces ⟨"CSIDriver", ⟨"", name⟩⟩ csi
  | syncConfigMap key configMap => replaces ⟨"ConfigMap", key⟩ configMap

/-- The transactions of a thread. -/
def transactions (cs : List Call) (t : Transaction ObjectId Json) : Prop := ∃ c ∈ cs, c.transaction = t

/-- Alone, with nothing in its way, `applyObject` does what its transaction says, and that is the outcome which
`OperatorUtils.ApplyObject` has for it. -/
theorem exec_applyObject {same : Json → Json → Bool} (hsame : ∀ u v, same u v = true → u = v)
    (j : Journal ObjectId Json) (o : ObjectId) (obj : Json) (c : StoreChoice ApiStatus) (hlag : c.lag = 0)
    (hfault : c.fault = .none) :
    ∃ j', (applyObject o obj).exec (fun j q => respond same j q c) j = some (none, j') ∧
      content j' o = (Call.applyObject o obj).transaction.effect (content j o) ∧
      CsmOperator.applyObject {} obj (content j o) = ⟨content j' o, none⟩ := by
  have hattempt (j' : Journal ObjectId Json) : c.attempt none j j' = (none, j') := by
    rw [StoreChoice.attempt, StoreChoice.served, hfault]
    rfl
  cases hcell : cell j o with
  | none =>
      have hcontent : content j o = none := by rw [content, hcell, Option.map_none]
      have hget : serveGet j c o = .error (c.fail .notFound) := by
        rw [serveGet, if_pos hfault, hlag, List.drop_zero, hcell]
      have hcreate : serveCreate j c o obj = (none, (o, some obj) :: j) := by
        rw [serveCreate, hcell]
        exact hattempt _
      refine ⟨(o, some obj) :: j, ?_, ?_, ?_⟩
      · show Prog.exec _ (afterLookup _ _ (serveGet j c o)) j = _
        rw [hget]
        show some ((serveCreate j c o obj).1.map toGoError, (serveCreate j c o obj).2) = _
        rw [hcreate]
        rfl
      · rw [content_cons, Function.update_self, hcontent]
        rfl
      · rw [content_cons, Function.update_self, hcontent]
        rfl
  | some x =>
      obtain ⟨live, n⟩ := x
      have hcontent := content_of_cell hcell
      have hget : serveGet j c o = .ok (live, n) := by
        rw [serveGet, if_pos hfault, hlag, List.drop_zero, hcell]
      have hupdate : ∃ j', serveUpdate same j c o (obj.onto live) (some n) = (none, j') ∧
          content j' o = some (obj.onto live) := by
        have hobstacle : updateObstacle j o (some n) = none := by
          rw [updateObstacle, hcell]
          exact if_pos rfl
        rw [serveUpdate, hobstacle, hattempt, hcontent, Option.any_some]
        split
        next heq => exact ⟨j, rfl, hcontent.trans (congrArg some (hsame _ _ heq))⟩
        next => exact ⟨_, rfl, by rw [content_cons, Function.update_self]⟩
      obtain ⟨j', hupdate, hafter⟩ := hupdate
      refine ⟨j', ?_, ?_, ?_⟩
      · show Prog.exec _ (afterLookup _ _ (serveGet j c o)) j = _
        rw [hget]
        refine (Prog.exec_call _ _ _).trans ?_
        show Option.bind (some (serveUpdate same j c o (obj.onto live) (some n))) _ = _
        rw [hupdate]
        rfl
      · rw [hafter, hcontent]
        rfl
      · rw [hafter, hcontent]
        rfl

/-! ## Each write is for the transaction -/

section Obeys

variable {α β : Type} {l : Transacting ObjectId Json} {t : Transaction ObjectId Json} {o : ObjectId} {obj : Json}
  {Q : α → Transacting ObjectId Json → Prop}

/-- The monitor at the answers of the API server. -/
abbrev watch : Monitor ResourceApi (Transacting ObjectId Json) := transacting

theorem obeys_get {f : Except (Failure ApiStatus) (Json × Nat) → ResourceOp α}
    (hfound : ∀ x, watch.Obeys (f (.ok x)) { l with read := Function.update l.read o (some x) } Q)
    (herror : ∀ e, watch.Obeys (f (.error e)) l Q) : watch.Obeys (get o >>= f) l Q := by
  refine Monitor.Obeys.call_iff.mpr ⟨nofun, fun r _ => ?_⟩
  match r with
  | .ok x => exact hfound x
  | .error e => exact herror e

theorem obeys_lookup {Q : Option GoError → Transacting ObjectId Json → Prop} {missing : ResourceOp (Option GoError)}
    {found : Json × Nat → ResourceOp (Option GoError)} (hmissing : watch.Obeys missing l Q)
    (hfound : ∀ x, watch.Obeys (found x) { l with read := Function.update l.read o (some x) } Q)
    (herror : ∀ e, Q (some e) l) : watch.Obeys (lookup o missing found) l Q := by
  refine obeys_get hfound fun e => ?_
  show watch.Obeys (if e.reason = .notFound then missing else pure (some (toGoError e))) l Q
  split
  · exact hmissing
  · exact Monitor.Obeys.pure_iff.mpr (herror _)

section Writes

variable {f : Option (Failure ApiStatus) → ResourceOp α} (ht : l.allowed t) (hf : ∀ r, watch.Obeys (f r) l Q)
include ht hf

theorem obeys_create (heffect : t.effect none = some obj) : watch.Obeys (create t.key obj >>= f) l Q :=
  Monitor.Obeys.call_iff.mpr ⟨fun _ => ⟨t, ht, .create heffect⟩, fun r _ => hf r⟩

theorem obeys_update {live : Json} {n : Nat} (hread : l.read t.key = some (live, n))
    (heffect : t.effect (some live) = some obj) : watch.Obeys (update t.key obj (some n) >>= f) l Q :=
  Monitor.Obeys.call_iff.mpr ⟨fun _ => ⟨t, ht, .update hread heffect⟩, fun r _ => hf r⟩

theorem obeys_overwrite (heffect : ∀ live, t.effect (some live) = some obj) :
    watch.Obeys (update t.key obj none >>= f) l Q :=
  Monitor.Obeys.call_iff.mpr ⟨fun _ => ⟨t, ht, .overwrite heffect⟩, fun r _ => hf r⟩

theorem obeys_delete (heffect : ∀ live, t.effect (some live) = none) : watch.Obeys (delete t.key >>= f) l Q :=
  Monitor.Obeys.call_iff.mpr ⟨fun _ => ⟨t, ht, .delete heffect⟩, fun r _ => hf r⟩

end Writes

/-- The thread goes on with the same transactions. -/
def Goes (l : Transacting ObjectId Json) (_ : Option GoError) (l' : Transacting ObjectId Json) : Prop :=
  l'.allowed = l.allowed

theorem obeys_pure (err : Option GoError) (l : Transacting ObjectId Json) : watch.Obeys (pure err) l (Goes l) :=
  Monitor.Obeys.pure_iff.mpr rfl

/-- A lookup that does one thing for an object that is missing and another for one that is there. -/
theorem obeys_lookup_goes {missing : ResourceOp (Option GoError)}
    {found : Json × Nat → ResourceOp (Option GoError)} (hmissing : watch.Obeys missing l (Goes l))
    (hfound : ∀ x l', l'.allowed = l.allowed → l'.read o = some x → watch.Obeys (found x) l' (Goes l')) :
    watch.Obeys (lookup o missing found) l (Goes l) :=
  obeys_lookup hmissing (fun x => hfound x _ rfl (Function.update_self ..)) fun _ => rfl

theorem obeys_syncAny (ht : l.allowed (replaces o obj)) : watch.Obeys (syncAny o obj) l (Goes l) := by
  refine obeys_lookup_goes (obeys_create ht (fun _ => obeys_pure _ _) rfl) fun _ l' hl' _ => ?_
  exact obeys_overwrite (hl' ▸ ht) (fun _ => obeys_pure _ _) fun _ => rfl

theorem obeys_syncVersion {creating updating : String} (ht : l.allowed (replaces o obj)) :
    watch.Obeys (syncVersion o obj creating updating) l (Goes l) := by
  refine obeys_lookup_goes (obeys_create ht (fun _ => obeys_pure _ _) rfl) fun _ l' hl' hread => ?_
  exact obeys_update (hl' ▸ ht) (fun _ => obeys_pure _ _) hread rfl

theorem obeys_syncRoles (ht : l.allowed (replaces o obj)) :
    watch.Obeys (lookup o (createRole o obj) fun _ => returnError (update o obj none)) l (Goes l) := by
  refine obeys_lookup_goes (obeys_create ht (fun r => ?_) rfl) fun _ l' hl' _ => ?_
  · cases r with
    | some e => exact obeys_pure _ _
    | none => exact obeys_get (fun _ => Monitor.Obeys.pure_iff.mpr rfl) fun _ => obeys_pure _ _
  · exact obeys_overwrite (hl' ▸ ht) (fun _ => obeys_pure _ _) fun _ => rfl

/-- A call makes no write but for its transaction. -/
theorem obeys_call (c : Call) (ht : l.allowed c.transaction) : watch.Obeys c.prog l (Goes l) := by
  cases c with
  | applyObject o obj =>
      refine obeys_lookup_goes (obeys_create ht (fun _ => obeys_pure _ _) rfl) fun _ l' hl' hread => ?_
      refine obeys_update (hl' ▸ ht) (fun r => ?_) hread rfl
      cases r <;> exact obeys_pure _ _
  | deleteObject o =>
      refine obeys_lookup_goes (obeys_pure _ _) fun _ l' hl' _ => ?_
      refine obeys_delete (hl' ▸ ht) (fun r => ?_) fun _ => rfl
      cases r <;> exact obeys_pure _ _
  | syncServiceAccount key sa =>
      exact obeys_lookup_goes (obeys_create ht (fun _ => obeys_pure _ _) rfl) fun _ l' _ _ => obeys_pure _ _
  | applyCTRLObject o obj => exact obeys_syncAny ht
  | syncClusterRoleBindings key rb => exact obeys_syncAny ht
  | syncRoleBindings key rb =>
      show watch.Obeys (if key.name = "" then pure none else syncAny ⟨"RoleBinding", key⟩ rb) l (Goes l)
      split
      · exact obeys_pure _ _
      · exact obeys_syncAny ht
  | syncClusterRole key clusterRole => exact obeys_syncRoles ht
  | syncRole key role =>
      show watch.Obeys (if key.name = "" then pure none else _) l (Goes l)
      split
      · exact obeys_pure _ _
      · exact obeys_syncRoles ht
  | syncCSIDriver name csi => exact obeys_syncVersion ht
  | syncConfigMap key configMap => exact obeys_syncVersion ht

theorem obeys_eachCall {cs : List Call} (ht : ∀ c ∈ cs, l.allowed c.transaction) :
    watch.Obeys (eachCall cs) l fun _ _ => True := by
  induction cs generalizing l with
  | nil => exact Monitor.Obeys.pure_iff.mpr trivial
  | cons c cs ih =>
      obtain ⟨hc, hcs⟩ := List.forall_mem_cons.mp ht
      refine Monitor.Obeys.bind (obeys_call c hc) fun err l' hl' => ?_
      cases err with
      | some e => exact Monitor.Obeys.pure_iff.mpr trivial
      | none => exact ih fun c' hc' => (show l'.allowed = l.allowed from hl') ▸ hcs c' hc'

theorem obeys_thread (cs : List Call) :
    watch.Obeys (thread cs) ⟨transactions cs, fun _ => none⟩ fun _ _ => True := by
  refine Monitor.Obeys.bind (obeys_eachCall fun c hc => ⟨c, hc, rfl⟩) fun err l' _ => ?_
  exact Monitor.Obeys.call_iff.mpr ⟨nofun, fun _ _ => Monitor.Obeys.ret_iff.mpr trivial⟩

end Obeys

/-! ## Calls that return nil -/

/-- The call has nothing to do, or is refused and lets it go. -/
inductive Call.Excused : Call → List (Event ResourceApi) → Prop
  /-- `ApplyObject` logs an update that is forbidden or invalid -/
  | refused {o : ObjectId} {obj sent : Json} {n : Nat} {e : Failure ApiStatus} {tr : List (Event ResourceApi)} :
      ⟨.update o sent (some n), some e⟩ ∈ tr → e.detail.refusal.isSome = true → Excused (.applyObject o obj) tr
  /-- the object to delete is not there, says the cache or the server -/
  | uncached {o : ObjectId} {e : Failure ApiStatus} {tr : List (Event ResourceApi)} :
      ⟨.get o, .error e⟩ ∈ tr → e.reason = .notFound → Excused (.deleteObject o) tr
  | gone {o : ObjectId} {e : Failure ApiStatus} {tr : List (Event ResourceApi)} :
      ⟨.delete o, some e⟩ ∈ tr → e.reason = .notFound → Excused (.deleteObject o) tr
  /-- there is a ServiceAccount -/
  | present {key : NamespacedName} {sa : Json} {x : Json × Nat} {tr : List (Event ResourceApi)} :
      ⟨.get ⟨"ServiceAccount", key⟩, .ok x⟩ ∈ tr → Excused (.syncServiceAccount key sa) tr
  /-- a driver without such a role -/
  | noRole {key : NamespacedName} {role : Json} {tr : List (Event ResourceApi)} :
      key.name = "" → Excused (.syncRole key role) tr
  | noRoleBinding {key : NamespacedName} {rb : Json} {tr : List (Event ResourceApi)} :
      key.name = "" → Excused (.syncRoleBindings key rb) tr

/-- A write to the object was confirmed. -/
def Confirmed (o : ObjectId) (tr : List (Event ResourceApi)) : Prop :=
  ∃ e ∈ tr, confirmed e = true ∧ e.req.written? = some o

section Runs

variable {o : ObjectId} {obj : Json} {tr tr' : List (Event ResourceApi)} {c : Call}

theorem Call.Excused.mono (h : c.Excused tr) (htr : tr ⊆ tr') : c.Excused tr' := by
  cases h with
  | refused hmem hrefusal => exact .refused (htr hmem) hrefusal
  | uncached hmem hreason => exact .uncached (htr hmem) hreason
  | gone hmem hreason => exact .gone (htr hmem) hreason
  | present hmem => exact .present (htr hmem)
  | noRole hname => exact .noRole hname
  | noRoleBinding hname => exact .noRoleBinding hname

theorem Confirmed.mono (h : Confirmed o tr) (htr : tr ⊆ tr') : Confirmed o tr' := by
  obtain ⟨e, he, hconfirmed⟩ := h
  exact ⟨e, htr he, hconfirmed⟩

/-- A lookup that returns nil has gone one way or the other. -/
theorem run_lookup_none {missing : ResourceOp (Option GoError)} {found : Json × Nat → ResourceOp (Option GoError)}
    (h : Run (lookup o missing found) tr none) :
    ∃ e u, tr = e :: u ∧ ((∃ x, e = ⟨.get o, .ok x⟩ ∧ Run (found x) u none) ∨
      ∃ f, e = ⟨.get o, .error f⟩ ∧ f.reason = .notFound ∧ Run missing u none) := by
  obtain ⟨r, u, rfl, hrun⟩ := Run.ask_bind_iff.mp h
  refine ⟨_, u, rfl, ?_⟩
  match r with
  | .ok x => exact .inl ⟨x, rfl, hrun⟩
  | .error f =>
      have hrun : Run (if f.reason = .notFound then missing else pure (some (toGoError f))) u none := hrun
      split at hrun
      next hreason => exact .inr ⟨f, rfl, hreason, hrun⟩
      next => cases hrun

/-- A write whose failure is not passed over was confirmed. -/
theorem confirmed_of_run {q : ResourceApi.Req} {f : ResourceApi.Resp q → ResourceOp (Option GoError)}
    (h : Run (Prog.ask (I := ResourceApi) q >>= f) tr none) (hq : q.written? = some o)
    (hf : ∀ r u, Run (f r) u none → confirmed ⟨q, r⟩ = true) : Confirmed o tr := by
  obtain ⟨r, u, rfl, hrun⟩ := Run.ask_bind_iff.mp h
  exact ⟨_, List.mem_cons_self, hf r u hrun, hq⟩

theorem succeeded_of_run {g : Failure ApiStatus → GoError} (r : Option (Failure ApiStatus))
    (u : List (Event ResourceApi)) (h : Run (pure (r.map g) : ResourceOp (Option GoError)) u none) :
    succeeded r = true := by
  cases r with
  | none => rfl
  | some e => cases h

theorem run_syncAny_none (h : Run (syncAny o obj) tr none) : Confirmed o tr := by
  obtain ⟨e, u, rfl, ⟨x, -, hrun⟩ | ⟨f, -, -, hrun⟩⟩ := run_lookup_none h
  · exact (confirmed_of_run hrun rfl succeeded_of_run).mono (List.subset_cons_self e u)
  · exact (confirmed_of_run hrun rfl succeeded_of_run).mono (List.subset_cons_self e u)

theorem run_syncVersion_none {creating updating : String} (h : Run (syncVersion o obj creating updating) tr none) :
    Confirmed o tr := by
  obtain ⟨e, u, rfl, ⟨x, -, hrun⟩ | ⟨f, -, -, hrun⟩⟩ := run_lookup_none h
  · exact (confirmed_of_run hrun rfl succeeded_of_run).mono (List.subset_cons_self e u)
  · exact (confirmed_of_run hrun rfl succeeded_of_run).mono (List.subset_cons_self e u)

theorem run_syncRoles_none
    (h : Run (lookup o (createRole o obj) fun _ => returnError (update o obj none)) tr none) : Confirmed o tr := by
  obtain ⟨e, u, rfl, ⟨x, -, hrun⟩ | ⟨f, -, -, hrun⟩⟩ := run_lookup_none h
  · exact (confirmed_of_run hrun rfl succeeded_of_run).mono (List.subset_cons_self e u)
  · refine (confirmed_of_run hrun rfl fun r v hrun => ?_).mono (List.subset_cons_self e u)
    cases r with
    | none => rfl
    | some e => cases hrun

/-- A call that returns nil has written, or had its reasons not to. -/
theorem run_call_none (c : Call) (h : Run c.prog tr none) : Confirmed c.transaction.key tr ∨ c.Excused tr := by
  cases c with
  | applyObject o obj =>
      obtain ⟨e, u, rfl, ⟨x, -, hrun⟩ | ⟨f, -, -, hrun⟩⟩ := run_lookup_none h
      · obtain ⟨r, v, rfl, hrest⟩ := Run.ask_bind_iff.mp hrun
        cases r with
        | none => exact .inl ⟨_, List.mem_cons_of_mem _ List.mem_cons_self, rfl, rfl⟩
        | some f =>
            have hrest : Run (pure (if f.detail.refusal.isSome then none else some (toGoError f))) v none := hrest
            split at hrest
            next hrefusal => exact .inr (.refused (List.mem_cons_of_mem _ List.mem_cons_self) hrefusal)
            next => cases hrest
      · exact .inl ((confirmed_of_run hrun rfl succeeded_of_run).mono (List.subset_cons_self e u))
  | deleteObject o =>
      obtain ⟨e, u, rfl, ⟨x, -, hrun⟩ | ⟨f, rfl, hreason, -⟩⟩ := run_lookup_none h
      · obtain ⟨r, v, rfl, hrest⟩ := Run.ask_bind_iff.mp hrun
        cases r with
        | none => exact .inl ⟨_, List.mem_cons_of_mem _ List.mem_cons_self, rfl, rfl⟩
        | some f =>
            have hrest : Run (pure (if f.reason = .notFound then none else some (toGoError f))) v none := hrest
            split at hrest
            next hreason => exact .inr (.gone (List.mem_cons_of_mem _ List.mem_cons_self) hreason)
            next => cases hrest
      · exact .inr (.uncached List.mem_cons_self hreason)
  | syncServiceAccount key sa =>
      obtain ⟨e, u, rfl, ⟨x, rfl, -⟩ | ⟨f, -, -, hrun⟩⟩ := run_lookup_none h
      · exact .inr (.present List.mem_cons_self)
      · exact .inl ((confirmed_of_run hrun rfl succeeded_of_run).mono (List.subset_cons_self e u))
  | applyCTRLObject o obj => exact .inl (run_syncAny_none h)
  | syncClusterRoleBindings key rb => exact .inl (run_syncAny_none h)
  | syncRoleBindings key rb =>
      have h : Run (if key.name = "" then pure none else syncAny ⟨"RoleBinding", key⟩ rb) tr none := h
      split at h
      next hname => exact .inr (.noRoleBinding hname)
      next => exact .inl (run_syncAny_none h)
  | syncClusterRole key clusterRole => exact .inl (run_syncRoles_none h)
  | syncRole key role =>
      have h : Run (if key.name = "" then pure none else
        lookup ⟨"Role", key⟩ (createRole ⟨"Role", key⟩ role) fun _ =>
          returnError (update ⟨"Role", key⟩ role none)) tr none := h
      split at h
      next hname => exact .inr (.noRole hname)
      next => exact .inl (run_syncRoles_none h)
  | syncCSIDriver name csi => exact .inl (run_syncVersion_none h)
  | syncConfigMap key configMap => exact .inl (run_syncVersion_none h)

theorem run_eachCall_none {cs : List Call} (h : Run (eachCall cs) tr none) {c : Call} (hc : c ∈ cs) :
    Confirmed c.transaction.key tr ∨ c.Excused tr := by
  induction cs generalizing tr with
  | nil => cases hc
  | cons c' cs ih =>
      obtain ⟨tr₁, tr₂, err, rfl, hcall, hrest⟩ := Run.bind_iff.mp h
      cases err with
      | some e => cases hrest
      | none =>
          rcases List.mem_cons.mp hc with rfl | hc
          · exact (run_call_none c hcall).imp (·.mono (List.subset_append_left ..))
              (·.mono (List.subset_append_left ..))
          · exact (ih hrest hc).imp (·.mono (List.subset_append_right ..)) (·.mono (List.subset_append_right ..))

/-- The last thing that was heard is a return of nil. -/
def ReturnedNil (tr : List (Event ResourceApi)) : Prop := tr.getLast? = some ⟨.report none, ()⟩

theorem run_thread_none {cs : List Call} {a : Unit} (h : Run (thread cs) tr a) (hnil : ReturnedNil tr) {c : Call}
    (hc : c ∈ cs) : Confirmed c.transaction.key tr ∨ c.Excused tr := by
  obtain ⟨tr₁, tr₂, err, rfl, hcalls, hreport⟩ := Run.bind_iff.mp h
  obtain ⟨r, u, rfl, hrest⟩ := Run.call_iff.mp hreport
  cases hrest
  obtain rfl : err = none := by
    rw [ReturnedNil, List.getLast?_append_cons, List.getLast?_singleton] at hnil
    injection hnil with hnil
    injection hnil with hreq
    injection hreq
  exact (run_eachCall_none hcalls hc).imp (·.mono (List.subset_append_left ..)) (·.mono (List.subset_append_left ..))

end Runs

/-! ## Any number of reconciles -/

section Scenario

/-- A ConfigMap with the log level of a driver. -/
def paramsId : ObjectId := ⟨"ConfigMap", ⟨"dell", "driver-config-params"⟩⟩

def params (level : String) : Json := .struct [("data", .map [("CSI_LOG_LEVEL", .scalar level)])]

def debugParams : Call := .applyObject paramsId (params "debug")

/-- A server that takes every update for a change. -/
def neverSame (_ _ : Json) : Bool := false

theorem eq_of_neverSame (u v : Json) (h : neverSame u v = true) : u = v := nomatch h

def infoJournal : Journal ObjectId Json := [(paramsId, some (params "info"))]

/-- Two reconciles overlap: the update of the first is served and the answer is lost, that of the second comes too
late. A third one goes through. -/
def retried : Pool ResourceApi (Journal ObjectId Json) (List Call) :=
  let start (ps : Pool ResourceApi (Journal ObjectId Json) (List Call)) :=
    ps.afterSpawn [debugParams] (thread [debugParams])
  let fine : StoreChoice ApiStatus := { detail := ⟨"the object has been modified", none⟩ }
  let lost : StoreChoice ApiStatus := { fault := .lost, detail := ⟨"context deadline exceeded", none⟩ }
  (start (start (start (Pool.empty infoJournal)))).play (storeEnv neverSame) (fun _ _ _ => true)
    [(0, fine), (1, fine), (0, lost), (1, fine), (0, fine), (1, fine), (2, fine), (2, fine), (2, fine)]

theorem reach_retried {Ok : Pool ResourceApi (Journal ObjectId Json) (List Call) →
      Move ResourceApi (Journal ObjectId Json) (List Call) → Prop}
    (hspawn : ∀ ps, Ok ps (.spawn [debugParams])) (hact : ∀ ps i e, Ok ps (.act i e)) :
    Pool.Reach (storeEnv neverSame) thread Ok (Pool.empty infoJournal) retried :=
  Pool.Reach.play (fun ps i e _ => hact ps i e) _
    (((Pool.Reach.refl.tail (hspawn _) (.spawn _)).tail (hspawn _) (.spawn _)).tail (hspawn _) (.spawn _))

theorem retried_finished : retried.threads[2]? = some ([debugParams], .ret ()) := rfl

theorem retried_nil : ReturnedNil (Pool.trace retried.log 2) := rfl

theorem retried_not_excused : ¬debugParams.Excused (Pool.trace retried.log 2) := by
  intro h
  cases h with
  | refused hmem _ => nomatch hmem

end Scenario

section Threads

variable {same : Json → Json → Bool} {j₀ : Journal ObjectId Json}
  {ps : Pool ResourceApi (Journal ObjectId Json) (List Call)}

/-- The calls have distinct objects. -/
def Distinct (cs : List Call) : Prop := (cs.map (·.transaction.key)).Nodup

theorem eq_of_distinct {cs : List Call} (h : Distinct cs) {c c' : Call} (hc : c ∈ cs) (hc' : c' ∈ cs)
    (hkey : c'.transaction.key = c.transaction.key) : c' = c :=
  List.inj_on_of_nodup_map h hc' hc hkey

end Threads

/-! ## Retries -/

/-- The objects agree at every path. -/
def SameAt (x y : Option Json) : Prop := ∀ path, x.bind (·.nodeAt path) = y.bind (·.nodeAt path)

/-- What `ApplyObject` leaves at a path. -/
theorem nodeAt_applied (o : ObjectId) (obj : Json) (live : Option Json) (path : List Json.Step) :
    (((Call.applyObject o obj).transaction.effect live).bind (·.nodeAt path)) =
      (obj.nodeAt path).or (if obj.drops path then none else live.bind (·.nodeAt path)) := by
  cases live with
  | none =>
      show obj.nodeAt path = _
      cases obj.nodeAt path <;> simp
  | some live => exact Json.nodeAt_onto obj live path

/-- Every call may be repeated. -/
theorem repeatable (c : Call) : c.transaction.Repeatable SameAt := by
  have hrefl (x : Option Json) : SameAt x x := fun _ => rfl
  have htrans (x y z : Option Json) (hxy : SameAt x y) (hyz : SameAt y z) : SameAt x z :=
    fun path => (hxy path).trans (hyz path)
  cases c with
  | applyObject o obj =>
      refine ⟨hrefl, htrans, fun x y hxy path => ?_, fun x path => ?_⟩
      · rw [nodeAt_applied, nodeAt_applied, hxy path]
      · rw [nodeAt_applied, nodeAt_applied]
        cases obj.nodeAt path with
        | some node => rfl
        | none => cases obj.drops path <;> rfl
  | syncServiceAccount key sa =>
      refine ⟨hrefl, htrans, fun x y hxy => ?_, fun x => hrefl _⟩
      cases x with
      | none =>
          cases y with
          | none => exact hrefl _
          | some y => exact absurd (hxy []) nofun
      | some x =>
          cases y with
          | none => exact absurd (hxy []) nofun
          | some y => exact hxy
  | _ => exact ⟨hrefl, htrans, fun _ _ _ => hrefl _, fun _ => hrefl _⟩

section Retries

variable {same : Json → Json → Bool} {j₀ : Journal ObjectId Json}
  {ps : Pool ResourceApi (Journal ObjectId Json) (List Call)}

/-- **Retries come to one.** While nobody but the operator writes an object, and the operator only for one manifest:
however many reconciles have made the call, at once or one after the other, and however many of them have failed or
do not know, once one has returned nil the object is what a single call makes of the first state. -/
theorem retries_as_one (hsame : ∀ u v, same u v = true → u = v) {c : Call}
    (h : Pool.Reach (storeEnv same) thread (OnlyFor transactions c.transaction) (Pool.empty j₀) ps) {i : Nat}
    {cs : List Call} (hthread : ps.threads[i]? = some (cs, .ret ())) (hnil : ReturnedNil (Pool.trace ps.log i))
    (hc : c ∈ cs) :
    SameAt (content ps.world c.transaction.key) (c.transaction.effect (content j₀ c.transaction.key)) ∨
      c.Excused (Pool.trace ps.log i) := by
  rcases run_thread_none (h.run hthread) hnil hc with ⟨e, he, hconfirmed, hwritten⟩ | hexcused
  · rcases h.as_one hsame obeys_thread (repeatable c) with ⟨-, hnone⟩ | hone
    · exact absurd hwritten (hnone _ (Pool.mem_of_mem_trace he) hconfirmed)
    · exact .inl hone
  · exact .inr hexcused

/-- The lost update, the late one and the retry have left what one update makes of the first state. -/
theorem retries_as_one_retried :
    SameAt (content retried.world paramsId) (some ((params "debug").onto (params "info"))) := by
  have hreach : Pool.Reach (storeEnv neverSame) thread (OnlyFor transactions debugParams.transaction)
      (Pool.empty infoJournal) retried := by
    refine reach_retried (fun _ => ?_) fun _ _ _ => trivial
    rintro t ⟨c, hc, rfl⟩ -
    rw [List.mem_singleton.mp hc]
  exact (retries_as_one eq_of_neverSame hreach retried_finished retried_nil
    (List.mem_singleton_self _)).resolve_right retried_not_excused

end Retries

end CsmOperator.Resources
