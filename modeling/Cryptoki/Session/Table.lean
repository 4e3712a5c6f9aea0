import Cryptoki.Assoc
import Cryptoki.Session.User

/-!
The sessions a module has opened, and who is logged in to each slot.

A login belongs to the token and not to one session: the table keeps it per slot and derives the
state of each session from it. When the last session of a slot is forgotten, so is the login.
-/

namespace Cryptoki

/-- What is known of an open session. -/
structure Tracked where
  slot : SlotId
  readWrite : Bool
  deriving DecidableEq, Repr

structure SessionInfo where
  session : SessionId
  slot : SlotId
  readWrite : Bool
  state : SessionState
  deriving DecidableEq, Repr

structure Sessions where
  tracked : Assoc SessionId Tracked
  logins : Assoc SlotId User
  deriving DecidableEq, Repr

namespace Sessions

def empty : Sessions := ⟨[], []⟩

/-- The state of every session of a slot. -/
def stateOf (t : Sessions) (slot : SlotId) : SessionState :=
  match t.logins.get? slot with
  | some u => .authenticated u
  | none => .unauthenticated

def describe (t : Sessions) (session : SessionId) (k : Tracked) : SessionInfo :=
  ⟨session, k.slot, k.readWrite, t.stateOf k.slot⟩

/-- The session, if it is tracked for this very slot. -/
def find (t : Sessions) (slot : SlotId) (session : SessionId) : Option SessionInfo :=
  match t.tracked.get? session with
  | some k => if k.slot = slot then some (t.describe session k) else none
  | none => none

def track (t : Sessions) (session : SessionId) (slot : SlotId) (readWrite : Bool) : Sessions :=
  { t with tracked := t.tracked.put session ⟨slot, readWrite⟩ }

/-- Stops tracking a session of the slot, and says whether there was one. -/
def forget (t : Sessions) (slot : SlotId) (session : SessionId) : Bool × Sessions :=
  match t.find slot session with
  | none => (false, t)
  | some _ =>
    let rest := t.tracked.erase session
    let logins := if rest.any (fun e => e.2.slot = slot) then t.logins else t.logins.erase slot
    (true, ⟨rest, logins⟩)

/-- Records a login, unless it was for a single operation only. -/
def logIn (t : Sessions) (slot : SlotId) (user : User) : Sessions :=
  if user = .contextSpecific then t else { t with logins := t.logins.put slot user }

def logOut (t : Sessions) (slot : SlotId) : Sessions :=
  { t with logins := t.logins.erase slot }

def size (t : Sessions) : Nat := t.tracked.length

/-- Puts a session in front of the first with no smaller number. -/
def place (i : SessionInfo) : List SessionInfo → List SessionInfo
  | [] => [i]
  | j :: js => if i.session ≤ j.session then i :: j :: js else j :: place i js

/-- All tracked sessions in the order of their numbers. -/
def list (t : Sessions) : List SessionInfo :=
  (t.tracked.map fun e => t.describe e.1 e.2).foldr place []

/-- The accesses that operations make to a table. Each happens as a whole. -/
inductive Access where
  | track (session : SessionId) (slot : SlotId) (readWrite : Bool)
  | find (slot : SlotId) (session : SessionId)
  | forget (slot : SlotId) (session : SessionId)
  | logIn (slot : SlotId) (user : User)
  | logOut (slot : SlotId)
  | list
  | size
  deriving DecidableEq, Repr

@[reducible] def Access.Answer : Access → Type
  | .track .. | .logIn .. | .logOut _ => Unit
  | .find .. => Option SessionInfo
  | .forget .. => Bool
  | .list => List SessionInfo
  | .size => Nat

def Access.apply (t : Sessions) : (a : Access) → a.Answer × Sessions
  | .track session slot readWrite => ((), t.track session slot readWrite)
  | .find slot session => (t.find slot session, t)
  | .forget slot session => t.forget slot session
  | .logIn slot user => ((), t.logIn slot user)
  | .logOut slot => ((), t.logOut slot)
  | .list => (t.list, t)
  | .size => (t.size, t)

end Sessions

end Cryptoki
