import Cryptoki.Assoc
import Cryptoki.Environment

/-!
A library that follows a script, and writes down every request it gets.

It checks nothing and remembers nothing. For each function the script has a queue of codes; for
what is written there are queues and records of their own, which are used up whatever the code.
-/

namespace Cryptoki

namespace Call

def flag (set : Bool) : String := if set then "set" else "null"

def argsText : Option InitArgs → String
  | none => "null"
  | some a => "create=" ++ flag a.create ++ " destroy=" ++ flag a.destroy ++ " lock="
      ++ flag a.lock ++ " unlock=" ++ flag a.unlock ++ " flags=" ++ toString a.flags
      ++ " reserved=" ++ flag a.reserved

/-- The arguments of a call as they stand in a trace. -/
def arguments : Call → List String
  | .getFunctionList _ | .getInfo _ => []
  | .init args => [argsText args]
  | .finalize reserved => ["reserved=" ++ flag reserved]
  | .getSlotList tokenPresent list count =>
    [s!"present={tokenPresent}",
      "list=" ++ (if list then toString (count.getD 0) else "null")]
  | .getSlotInfo slot _ | .getTokenInfo slot _ => [toString slot]
  | .waitForSlotEvent flags _ => [s!"flags={flags}", "reserved=null"]
  | .openSession slot flags application notify _ =>
    [s!"slot={slot}", s!"flags={flags}", "application=" ++ flag application,
      "notify=" ++ flag notify]
  | .closeSession session | .logout session => [toString session]
  | .login session user pin pinLength =>
    [toString session, s!"user={user}",
      "pin=" ++ (match pin with
        | some bytes => bytes.hex
        | none => "null"),
      s!"len={pinLength}"]

/-- A call as it stands in a trace. -/
def text (c : Call) : String := " ".intercalate (c.function.name :: c.arguments)

end Call

/-- A request as it stands in a trace. -/
def Request.text : Request → String
  | .openLibrary _ _ path => "open " ++ path
  | .lookUp _ symbol => "symbol " ++ symbol
  | .call _ c => c.text
  | .closeLibrary _ => "close"
  | .sleep => "sleep 1000ms"

namespace Scripted

structure State where
  /-- Why the library cannot be opened, if it cannot. -/
  openFault : Option String
  /-- Why the entry point cannot be found, if it cannot. -/
  lookUpFault : Option String
  functions : Option FunctionList
  codes : Assoc Function (List Code)
  info : Record.Library
  slots : Assoc SlotId Record.Slot
  tokens : Assoc SlotId Record.Token
  /-- The slots that are listed and the count that is set. The last one stays. -/
  listings : List SlotListing
  sessions : List SessionId
  events : List SlotId
  /-- Every request so far, the latest first. -/
  trace : List String

/-- The next code of a function; success when its queue is empty. -/
def takeCode (f : Function) (s : State) : Code × State :=
  match s.codes.get? f with
  | some (c :: rest) => (c, { s with codes := s.codes.put f rest })
  | _ => (.ok, s)

/-- The next listing. -/
def takeListing (s : State) : Option SlotListing × State :=
  match s.listings with
  | [] => (none, s)
  | [l] => (some l, s)
  | l :: rest => (some l, { s with listings := rest })

/-- What is written for a listing: the slots that find room, and the count. -/
def written (list : Bool) (count : Option Word) (l : SlotListing) : Option SlotListing :=
  count.map fun room => ⟨if list then l.slots.take room.toNat else [], l.count⟩

/-- The reply of a function that tells about one thing, which may not be known. -/
def lookedUp {α : Type} (code unknown : Code) (record : Option α) : Reply α :=
  if code = .ok ∧ record.isNone then ⟨unknown, none⟩ else ⟨code, record⟩

/-- Serves a call whose code has been taken. -/
def reply (code : Code) (s : State) : (c : Call) → c.Answer × State
  | .getFunctionList _ => (⟨code, s.functions⟩, s)
  | .getInfo _ => (⟨code, some s.info⟩, s)
  | .getSlotList _ list count =>
    let (l, s) := takeListing s
    (⟨code, l.bind (written list count)⟩, s)
  | .getSlotInfo slot _ => (lookedUp code .slotIdInvalid (s.slots.get? slot), s)
  | .getTokenInfo slot _ => (lookedUp code .tokenNotPresent (s.tokens.get? slot), s)
  | .waitForSlotEvent .. => (⟨code, s.events.head?⟩, { s with events := s.events.tail })
  | .openSession .. => (⟨code, s.sessions.head?⟩, { s with sessions := s.sessions.tail })
  | .init _ | .finalize _ | .closeSession _ | .login .. | .logout _ => (code, s)

def serve (c : Call) (s : State) : c.Answer × State :=
  let (code, s) := takeCode c.function s
  reply code s c

def failing (fault : Option String) : Except String Unit :=
  match fault with
  | some reason => .error reason
  | none => .ok ()

def respond : (r : Request) → State → r.Answer × State
  | .openLibrary .., s => (failing s.openFault, s)
  | .lookUp .., s => (failing s.lookUpFault, s)
  | .call _ c, s => serve c s
  | .closeLibrary _, s | .sleep, s => ((), s)

/-- All modules follow the one script. -/
def environment : Environment State :=
  ⟨fun r s => respond r { s with trace := r.text :: s.trace }⟩

/-- How many looks at the slots the script can answer in different ways. -/
def horizon (s : State) : Nat :=
  s.listings.length + ((s.codes.get? .getSlotList).getD []).length + 2

end Scripted

end Cryptoki
