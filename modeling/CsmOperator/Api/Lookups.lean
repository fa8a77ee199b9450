import CsmOperator.Api.Apply
import CsmOperator.Api.Cluster

/-!
# What prechecks and renderers ask

The functions of `pkg/drivers` and `pkg/modules` that come before anything is applied look at the
operator's configuration directory and at Secrets and ConfigMaps of the cluster. A read of an object is
answered with the error it returned; what the object contains is looked at only for the arrays of
PowerFlex. The precheck of the reverse proxy also sets a variable of its package.

A nil pointer that is followed and an index beyond the end of a slice end the run: `panic` has no
answer.
-/

namespace CsmOperator

open Interaction

inductive LookupRequest where
  /-- `os.Stat`: does `os.IsNotExist` hold of its error? -/
  | stat (path : String)
  | getSecret (key : NamespacedName)
  | getConfigMap (key : NamespacedName)
  /-- a read of a Secret for the text under `config` -/
  | readSecret (key : NamespacedName)
  /-- `deployAsSidecar = das` -/
  | setDeployAsSidecar (das : Bool)
  /-- `ResolveVersionFromConfigMap`: the images for a version, from the ConfigMap `csm-images`. Its error
  is logged, and what it returned is used all the same. -/
  | resolveVersion (version : String)
  | panic

def LookupRequest.Answer : LookupRequest → Type
  | stat _ => Bool
  | getSecret _ => Option GoError
  | getConfigMap _ => Option GoError
  | readSecret _ => Except GoError String
  | setDeployAsSidecar _ => Unit
  | resolveVersion _ => VersionSpec
  | panic => Empty

abbrev Lookups : Interface := ⟨LookupRequest, LookupRequest.Answer⟩

abbrev LookupOp (α : Type) := Prog Lookups α

def isNotExist (path : String) : LookupOp Bool := Prog.ask (I := Lookups) (.stat path)

def getSecret (key : NamespacedName) : LookupOp (Option GoError) :=
  Prog.ask (I := Lookups) (.getSecret key)

def getConfigMap (key : NamespacedName) : LookupOp (Option GoError) :=
  Prog.ask (I := Lookups) (.getConfigMap key)

def readSecret (key : NamespacedName) : LookupOp (Except GoError String) :=
  Prog.ask (I := Lookups) (.readSecret key)

def setDeployAsSidecar (das : Bool) : LookupOp Unit := Prog.ask (I := Lookups) (.setDeployAsSidecar das)

def resolveVersion (version : String) : LookupOp VersionSpec :=
  Prog.ask (I := Lookups) (.resolveVersion version)

/-- Go on with a value, unless there is none. -/
def orPanic {α : Type} : Option α → LookupOp α
  | some a => pure a
  | none => .call .panic nofun

theorem run_orPanic_bind {α β : Type} {x : Option α} {f : α → LookupOp β} {tr : List (Event Lookups)}
    {b : β} (h : Run (orPanic x >>= f) tr b) : ∃ a, x = some a ∧ Run (f a) tr b := by
  cases x with
  | some a => exact ⟨a, rfl, h⟩
  | none =>
      obtain ⟨r, -, -, -⟩ := Run.call_iff.mp h
      exact r.elim

theorem pending_orPanic_bind {α β : Type} {x : Option α} {f : α → LookupOp β}
    {tr : List (Event Lookups)} {q : LookupRequest} (h : Pending (orPanic x >>= f) tr q) :
    q = .panic ∨ ∃ a, x = some a ∧ Pending (f a) tr q := by
  cases x with
  | some a => exact .inr ⟨a, rfl, h⟩
  | none =>
      obtain ⟨-, rfl⟩ | ⟨r, -, -, -⟩ := Pending.call_iff.mp h
      · exact .inl rfl
      · exact r.elim

/-- The error `GetSecret` makes of that of the read: only a Secret that is not there has one. -/
def secretError : Option GoError → Option GoError
  | some e =>
    if e.kind = .notFound then some (errorf ("no secrets found or error: " ++ e.text)) else none
  | none => none

/-- `GetSecret` -/
def getSecretOf (name namesp : String) : LookupOp (Option GoError) := do
  let err ← getSecret ⟨namesp, name⟩
  pure (secretError err)

/-- What `GetSecret` leaves of a read for the text: after any other error the Secret is taken to be
empty. -/
def secretText : Except GoError String → Except GoError String
  | .ok text => .ok text
  | .error e =>
    if e.kind = .notFound then .error (errorf ("no secrets found or error: " ++ e.text)) else .ok ""

/-- The Secrets that were read, in order. -/
def secretReads (tr : List (Event Lookups)) : List NamespacedName :=
  tr.filterMap fun e => match e.req with
    | .getSecret key => some key
    | _ => none

/-- The answers when everything is there. -/
def allFound : (q : LookupRequest) → Option q.Answer
  | .stat _ => some false
  | .getSecret _ => some none
  | .getConfigMap _ => some none
  | .readSecret _ => some (.ok "")
  | .setDeployAsSidecar _ => some ()
  | .resolveVersion _ => some {}
  | .panic => none

end CsmOperator
