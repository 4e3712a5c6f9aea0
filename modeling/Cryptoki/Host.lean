import Cryptoki.Module.Sessions
import Cryptoki.Module.Slots

/-!
The operations offered to a host.

A host refers to modules and slots by handles, and to sessions by the numbers the library gave
them. Every operation resolves the handles it is given before anything else happens: the module
first, then the slot, then that the slot belongs to the module.
-/

namespace Cryptoki.Host

open Program

/-- Finds a module and takes a reference to it, which the caller has to give back. -/
def hold (handle : Handle) : Program (Except Fault Module) := touch (.resolveModule handle)

/-- Runs an operation on a module, with a reference for as long as it takes. -/
def withModule {α : Type} (handle : Handle) (body : Module → Program (Except Fault α)) :
    Program (Except Fault α) := do
  match ← hold handle with
  | .error f => return .error f
  | .ok m =>
    let r ← body m
    m.release
    return r

/-- The slot under a handle, if it is one of the module under the other. -/
def slotOf (module slot : Handle) : Program (Except Fault SlotId) := do
  match ← touch (.resolveSlot slot) with
  | .error f => return .error f
  | .ok s =>
    if s.module = module then return .ok s.id else return .error (.staleHandle "slot" slot)

/-- Runs an operation on a slot of a module. -/
def withSlot {α : Type} (module slot : Handle)
    (body : Module → SlotId → Program (Except Fault α)) : Program (Except Fault α) :=
  withModule module fun m => do
    match ← slotOf module slot with
    | .error f => return .error f
    | .ok id => body m id

/-! ### Modules -/

/-- Loads the library at a path and registers it. -/
def load (loader : Loader) (path : String) : Program (Except Fault Handle) := do
  if path.isEmpty then
    return .error (.invalidArgument "no PKCS#11 module path given")
  match ← Module.load loader path with
  | .error f => return .error f
  | .ok m =>
    let handle : Handle ← touch (.insertModule m)
    say .debug .host ("Registered PKCS#11 module " ++ path ++ " as " ++ handle.hex)
    return .ok handle

/-- Makes a module and all its slots unknown to the host. The library is left alone for as long
as some operation or holder still refers to the module. -/
def unload (module : Handle) : Program (Except Fault Unit) := do
  match ← touch (.removeModule module) with
  | .error f => return .error f
  | .ok m =>
    let slots : Nat ← touch (.removeSlotsOf module)
    say .debug .host s!"Unregistered PKCS#11 module {m.name} and {slots} slot(s)"
    m.release
    return .ok ()

def moduleInfo (module : Handle) : Program (Except Fault LibraryInfo) :=
  withModule module fun m => return .ok m.info

def moduleName (module : Handle) : Program (Except Fault String) :=
  withModule module fun m => return .ok m.name

/-! ### Slots -/

def slotList (module : Handle) (tokenPresent : Bool) : Program (Except Fault (List SlotId)) :=
  withModule module (·.slotList tokenPresent)

/-- Registers a slot of a module. -/
def register (module : Handle) (id : SlotId) : Program Handle := touch (.insertSlot ⟨id, module⟩)

/-- A handle for a slot that the library knows. -/
def openSlot (module : Handle) (id : SlotId) : Program (Except Fault Handle) := do
  match ← withModule module (·.slotInfo id) with
  | .error f => return .error f
  | .ok _ => return .ok (← register module id)

/-- A handle for the first slot whose token bears the label. -/
def openSlotByLabel (module : Handle) (label : String) : Program (Except Fault Handle) :=
  withModule module fun m => do
    match ← m.findSlot label with
    | .error f => return .error f
    | .ok none =>
      return .error (.invalidArgument ("no PKCS#11 token with label '" ++ label ++ "'"))
    | .ok (some id) => return .ok (← register module id)

/-- Waits for a slot event and makes a handle for the slot. There is none while the wait goes
on. -/
def waitForSlot (module : Handle) (patience : Nat) : Program (Except Fault (Option Handle)) := do
  match ← withModule module (·.waitForSlot patience) with
  | .error f => return .error f
  | .ok none => return .ok none
  | .ok (some id) => return .ok (some (← register module id))

/-- Makes the handle of a slot stale. -/
def closeSlot (module slot : Handle) : Program (Except Fault Unit) := do
  match ← withSlot module slot fun _ _ => return .ok () with
  | .error f => return .error f
  | .ok () =>
    match ← touch (.removeSlot slot) with
    | .error f => return .error f
    | .ok _ => return .ok ()

/-- Opens a slot and closes it, so many times, and tells the last handle. An attempt that fails is
the last. -/
def slotRounds (module : Handle) (id : SlotId) :
    (rounds : Nat) → (last : Handle) → Program (Except Fault Handle)
  | 0, last => return .ok last
  | rounds + 1, _ => do
    match ← openSlot module id with
    | .error f => return .error f
    | .ok slot =>
      match ← closeSlot module slot with
      | .error f => return .error f
      | .ok () => slotRounds module id rounds slot

def slotInfo (module slot : Handle) : Program (Except Fault SlotInfo) :=
  withSlot module slot fun m id => m.slotInfo id

def tokenInfo (module slot : Handle) : Program (Except Fault TokenInfo) :=
  withSlot module slot fun m id => m.tokenInfo id

/-! ### Sessions -/

def openSession (module slot : Handle) (readWrite : Bool) : Program (Except Fault SessionId) :=
  withSlot module slot fun m id => m.openSession id readWrite

/-- Closes a session. Only stale handles are reported. -/
def closeSession (module slot : Handle) (session : SessionId) : Program (Except Fault Unit) :=
  withSlot module slot fun m id => do
    m.closeSession id session
    return .ok ()

def login (module slot : Handle) (session : SessionId) (user : User) (secret : Option Bytes) :
    Program (Except Fault Unit) :=
  withSlot module slot fun m id => m.login id session user secret

/-- Logs out. Only stale handles are reported. -/
def logout (module slot : Handle) (session : SessionId) : Program (Except Fault Unit) :=
  withSlot module slot fun m id => do
    m.logout id session
    return .ok ()

def sessionState (module slot : Handle) (session : SessionId) :
    Program (Except Fault SessionState) :=
  withSlot module slot fun m id => do
    match ← m.sessionState id session with
    | some s => return .ok s
    | none => return .error (.invalidHandle s!"session {session} for slot {id}")

def openSessions (module : Handle) : Program (Except Fault (List SessionInfo)) :=
  withModule module fun m => return .ok (← m.openSessions)

/-! ### Threads -/

/-- Opens a read-only session, logs in and out and closes it, so many times. A round that fails
is the last. -/
def sessionRounds (module slot : Handle) (secret : Bytes) :
    Nat → Program (Except Fault (List SessionId))
  | 0 => return .ok []
  | rounds + 1 => do
    match ← openSession module slot false with
    | .error f => return .error f
    | .ok session =>
      match ← login module slot session .normal (some secret) with
      | .error f => return .error f
      | .ok () =>
        match ← logout module slot session with
        | .error f => return .error f
        | .ok () =>
          match ← closeSession module slot session with
          | .error f => return .error f
          | .ok () =>
            match ← sessionRounds module slot secret rounds with
            | .error f => return .error f
            | .ok sessions => return .ok (session :: sessions)

end Cryptoki.Host
