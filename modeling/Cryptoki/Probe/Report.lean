import Cryptoki.CommandLine.Options
import Cryptoki.Host

/-!
The commands of the probe, and what they report.

Each command works on a module that is already loaded. A report is a list of lines; a command
that fails has none.
-/

namespace Cryptoki.Probe

open Program

/-- Why a command failed. -/
inductive Failure where
  | fault (f : Fault)
  | other (message : String)
  deriving DecidableEq, Repr

def Failure.text : Failure → String
  | .fault f => f.message
  | .other message => message

abbrev Report := List String

/-- The lines of a report, each with its end. -/
def Report.text (r : Report) : String := String.join (r.map (· ++ "\n"))

/-- Runs an operation of the host, and goes on with its result. -/
def attempt {α β : Type} (p : Program (Except Fault α))
    (next : α → Program (Except Failure β)) : Program (Except Failure β) := do
  match ← p with
  | .error f => return .error (.fault f)
  | .ok a => next a

def infoLines (i : LibraryInfo) : Report :=
  ["Cryptoki version: " ++ i.cryptoki.text,
   "Manufacturer:     " ++ i.manufacturer,
   "Description:      " ++ i.description,
   "Library version:  " ++ i.library.text]

def info (module : Handle) : Program (Except Failure Report) :=
  attempt (Host.moduleInfo module) fun i => return .ok (infoLines i)

def slotLine (i : SlotInfo) : String :=
  s!"Slot {i.id}: {i.description} ({i.manufacturer}), hardware {i.hardware.text}, " ++
    "firmware " ++ i.firmware.text

def tokenLine (i : TokenInfo) : String :=
  "  Token '" ++ i.label ++ "': " ++ i.manufacturer ++ " " ++ i.model ++ ", serial " ++ i.serial

/-- What there is to say of the token in a slot. -/
def tokenOf (module slot : Handle) (i : SlotInfo) : Program (Except Failure String) :=
  if i.tokenPresent then
    attempt (Host.tokenInfo module slot) fun t => return .ok (tokenLine t)
  else return .ok "  No token"

def describeSlot (module : Handle) (id : SlotId) : Program (Except Failure Report) :=
  attempt (Host.openSlot module id) fun slot =>
  attempt (Host.slotInfo module slot) fun i => do
    match ← tokenOf module slot i with
    | .error f => return .error f
    | .ok token =>
      attempt (Host.closeSlot module slot) fun _ => return .ok [slotLine i, token]

def describeSlots (module : Handle) : List SlotId → Program (Except Failure Report)
  | [] => return .ok []
  | id :: rest => do
    match ← describeSlot module id with
    | .error f => return .error f
    | .ok lines =>
      match ← describeSlots module rest with
      | .error f => return .error f
      | .ok more => return .ok (lines ++ more)

def slots (module : Handle) (tokenPresent : Bool) : Program (Except Failure Report) :=
  attempt (Host.slotList module tokenPresent) (describeSlots module)

/-- What there is to say of a slot with an event. -/
def describeEvent (module slot : Handle) : Program (Except Failure Report) :=
  attempt (Host.slotInfo module slot) fun i => do
    let head := s!"Slot event in slot {i.id}: {i.description}"
    let close (lines : Report) : Program (Except Failure Report) :=
      attempt (Host.closeSlot module slot) fun _ => return .ok lines
    if i.tokenPresent then
      attempt (Host.tokenInfo module slot) fun t =>
        close [head, "  Token '" ++ t.label ++ "'"]
    else close [head]

/-- Waits for a slot event. There is no result while the wait goes on. -/
def wait (module : Handle) (patience : Nat) : Program (Option (Except Failure Report)) := do
  match ← Host.waitForSlot module patience with
  | .error f => return some (.error (.fault f))
  | .ok none => return none
  | .ok (some slot) => return some (← describeEvent module slot)

/-- A handle for the slot that is selected. -/
def selectSlot (module : Handle) : Option SlotSelector → Program (Except Failure Handle)
  | some (.id id) => attempt (Host.openSlot module id) fun slot => return .ok slot
  | some (.label label) => attempt (Host.openSlotByLabel module label) fun slot => return .ok slot
  | none =>
    attempt (Host.slotList module true) fun
      | [] => return .error (.other "no slot holds a token")
      | id :: _ => attempt (Host.openSlot module id) fun slot => return .ok slot

/-- Logs in and out again. A session that cannot be logged in to is closed. -/
def logInAndOut (module slot : Handle) (session : SessionId) (pin : Option String) :
    Program (Except Failure Report) := do
  match ← Host.login module slot session .normal (pin.map Text.utf8) with
  | .error f =>
    attempt (Host.closeSession module slot session) fun _ => return .error (.fault f)
  | .ok () =>
    attempt (Host.sessionState module slot session) fun state =>
    attempt (Host.logout module slot session) fun _ =>
      return .ok ["Session state: " ++ state.text, "Logged out"]

def session (module : Handle) (s : Settings) (readWrite noLogin : Bool) :
    Program (Except Failure Report) := do
  match ← selectSlot module s.slot with
  | .error f => return .error f
  | .ok slot =>
    let readWrite := readWrite || s.readWrite
    attempt (Host.openSession module slot readWrite) fun session => do
      let first := s!"Opened {Module.accessName readWrite} session {session}"
      let close (lines : Report) : Program (Except Failure Report) :=
        attempt (Host.closeSession module slot session) fun _ =>
          return .ok (first :: lines ++ ["Closed session"])
      if s.login && !noLogin then
        match ← logInAndOut module slot session s.userPin with
        | .error f => return .error f
        | .ok lines => close lines
      else close []

/-- Runs a command on a loaded module. -/
def command (module : Handle) (s : Settings) (patience : Nat) :
    CommandLine.Command → Program (Option (Except Failure Report))
  | .info => some <$> info module
  | .slots tokenPresent => some <$> slots module tokenPresent
  | .wait => wait module patience
  | .session readWrite noLogin => some <$> session module s readWrite noLogin

/-- Unloads the module after a command. That it cannot be unloaded is only logged. -/
def cleanUp (module : Handle) : Program Unit := do
  match ← Host.unload module with
  | .error f => say .warn .probe f.message
  | .ok () => return ()

/-- Loads the module, runs the command and unloads the module, whatever comes of the command.
There is no result as long as the command waits. -/
def run (loader : Loader) (s : Settings) (c : CommandLine.Command) (patience : Nat) :
    Program (Option (Except Failure Report)) := do
  match ← Host.load loader s.libraryPath with
  | .error f => return some (.error (.fault f))
  | .ok module =>
    match ← command module s patience c with
    | none => return none
    | some r =>
      cleanUp module
      return some r

end Cryptoki.Probe
