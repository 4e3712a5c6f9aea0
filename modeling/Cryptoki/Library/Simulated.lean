import Cryptoki.Assoc
import Cryptoki.Environment

/-!
A library that exists only in memory and keeps account of its calls.

How it behaves is laid down in advance and may change while nobody is looking. All modules made
of it share one state, as all users of a library in one process do. It protects that state with a
mutex of its own if it is given all four callbacks; a call is served as a whole, so the mutex is
free between calls.
-/

namespace Cryptoki.Simulated

/-- A slot, and the label of its token if it holds one. -/
structure Place where
  id : SlotId
  label : Option String
  deriving DecidableEq, Repr

/-- How the library behaves. A function writes its result only if its code is success. -/
structure Behaviour where
  openable : Bool
  exportsEntryPoint : Bool
  /-- The function list lacks the login. -/
  incomplete : Bool
  /-- It may be initialized again before it is finalized, and is then finalized as often. -/
  reinitializable : Bool
  listingCode : Code
  initCode : Code
  finalizeCode : Code
  infoCode : Code
  openSessionCode : Code
  closeSessionCode : Code
  loginCode : Code
  logoutCode : Code
  eventCode : Code
  /-- The slot of which an event is reported. -/
  eventSlot : SlotId
  cryptoki : Version
  manufacturer : String
  description : String
  places : List Place
  /-- The number of the first session. Later ones count up. -/
  firstSession : SessionId
  /-- There is memory for a mutex when the callbacks are to make one. -/
  memory : Bool := true
  deriving DecidableEq, Repr

def Behaviour.standard : Behaviour :=
  { openable := true
    exportsEntryPoint := true
    incomplete := false
    reinitializable := false
    listingCode := .ok
    initCode := .ok
    finalizeCode := .ok
    infoCode := .ok
    openSessionCode := .ok
    closeSessionCode := .ok
    loginCode := .ok
    logoutCode := .ok
    eventCode := .ok
    eventSlot := 0
    cryptoki := ⟨2, 20⟩
    manufacturer := "TestCA"
    description := "MockToken"
    places := [⟨0, some "mock"⟩]
    firstSession := 0x5e55
    memory := true }

structure OpenSessionCall where
  slot : SlotId
  flags : Flags
  application : Bool
  notify : Bool
  deriving DecidableEq, Repr

structure LoginCall where
  session : SessionId
  user : Word
  pin : Option Bytes
  pinLength : Word
  deriving DecidableEq, Repr

/-- What the library has seen. Lists have the latest call first. -/
structure Calls where
  opened : Nat
  closed : Nat
  init : Nat
  finalize : Nat
  getInfo : Nat
  getSlotList : Nat
  mutexesCreated : Nat
  mutexesDestroyed : Nat
  /-- The flags it was last initialized with, if it was given any arguments. -/
  initFlags : Option Flags
  /-- The arguments it was last initialized with had all four callbacks. -/
  callbacks : Bool
  openSession : List OpenSessionCall
  closeSession : List SessionId
  login : List LoginCall
  logout : List SessionId
  waitForSlotEvent : List Flags
  deriving DecidableEq, Repr

def Calls.none : Calls :=
  { opened := 0, closed := 0, init := 0, finalize := 0, getInfo := 0, getSlotList := 0
    mutexesCreated := 0, mutexesDestroyed := 0
    initFlags := .none, callbacks := false
    openSession := [], closeSession := [], login := [], logout := [], waitForSlotEvent := [] }

structure State where
  behaviour : Behaviour
  calls : Calls
  /-- How often it was initialized without having been finalized. -/
  instances : Nat
  /-- It has a mutex made by the callbacks. -/
  mutex : Bool
  sessions : List SessionId
  nextSession : SessionId
  /-- Whether the entry point was exported when a module opened the library. -/
  exporting : Assoc ModuleId Bool
  deriving DecidableEq, Repr

namespace State

/-- A library that nobody has used yet. -/
def fresh (b : Behaviour) : State :=
  { behaviour := b, calls := .none, instances := 0, mutex := false
    sessions := [], nextSession := b.firstSession, exporting := [] }

def running (s : State) : Bool := s.instances > 0

def place? (s : State) (slot : SlotId) : Option Place :=
  s.behaviour.places.find? fun p => p.id = slot

end State

/-! ### Opening and closing -/

def openLibrary (module : ModuleId) (path : String) (s : State) : Except String Unit × State :=
  if s.behaviour.openable then
    (.ok (), { s with
      calls.opened := s.calls.opened + 1
      exporting := s.exporting.put module s.behaviour.exportsEntryPoint })
  else (.error (path ++ ": cannot open shared object file: No such file or directory"), s)

def lookUp (module : ModuleId) (symbol : String) (s : State) : Except String Unit :=
  if (s.exporting.get? module).getD false ∧ symbol = Function.entryPoint.name then .ok ()
  else .error ("undefined symbol: " ++ symbol)

def closeLibrary (s : State) : State := { s with calls.closed := s.calls.closed + 1 }

/-! ### Functions -/

def functionList (b : Behaviour) : FunctionList :=
  ⟨⟨2, 20⟩,
    [.init, .finalize, .getInfo, .getFunctionList, .getSlotList, .getSlotInfo, .getTokenInfo,
      .waitForSlotEvent, .openSession, .closeSession]
      ++ (if b.incomplete then [] else [.login]) ++ [.logout]⟩

def getFunctionList (place : Bool) (s : State) : Reply FunctionList :=
  if !place then ⟨.argumentsBad, none⟩
  else if s.behaviour.listingCode ≠ .ok then ⟨s.behaviour.listingCode, none⟩
  else ⟨.ok, some (functionList s.behaviour)⟩

/-- What making the mutex returns. Without the callbacks there is nothing to be made. -/
def mutexCode (s : State) : Code :=
  if s.calls.callbacks then (Mutex.create true s.behaviour.memory).1 else .ok

/-- The mutex that was made is kept, and the library counts as initialized. -/
def start (s : State) : State :=
  if s.calls.callbacks then
    { s with instances := 1, mutex := true, calls.mutexesCreated := s.calls.mutexesCreated + 1 }
  else { s with instances := 1 }

/-- Starts the library unless it is to fail, or there is no mutex to be had. -/
def launch (s : State) : Code × State :=
  if s.behaviour.initCode ≠ .ok then (s.behaviour.initCode, s)
  else if mutexCode s ≠ .ok then (mutexCode s, s)
  else (.ok, start s)

def init (args : Option InitArgs) (s : State) : Code × State :=
  let s := { s with calls.init := s.calls.init + 1 }
  if s.running then
    if s.behaviour.reinitializable then (.ok, { s with instances := s.instances + 1 })
    else (.alreadyInitialized, s)
  else
    launch { s with
      calls.initFlags := match args with
        | some a => some a.flags
        | none => s.calls.initFlags
      calls.callbacks := args.any InitArgs.complete }

/-- The last finalization ends all sessions and gives the mutex up. It is destroyed through the
callbacks it was made by. -/
def stop (s : State) : State :=
  let s := if s.calls.callbacks && s.mutex then
      { s with calls.mutexesDestroyed := s.calls.mutexesDestroyed + 1 }
    else s
  { s with mutex := false, sessions := [] }

theorem stop_of_mutex {s : State} (hcallbacks : s.calls.callbacks = true) (hmutex : s.mutex = true) :
    stop s = { s with
      calls.mutexesDestroyed := s.calls.mutexesDestroyed + 1, mutex := false, sessions := [] } := by
  simp only [stop, hcallbacks, hmutex, Bool.and_self, if_true]

theorem stop_of_no_mutex {s : State} (hmutex : s.mutex = false) :
    stop s = { s with mutex := false, sessions := [] } := by
  simp only [stop, hmutex, Bool.and_false, Bool.false_eq_true, if_false]

/-- Finalizes, whatever code it is to return. -/
def finalize (reserved : Bool) (s : State) : Code × State :=
  let s := { s with calls.finalize := s.calls.finalize + 1 }
  if reserved then (.argumentsBad, s)
  else match s.instances with
    | 0 => (.notInitialized, s)
    | n + 1 =>
      let s := { s with instances := n }
      (s.behaviour.finalizeCode, if n = 0 then stop s else s)

def libraryRecord (b : Behaviour) : Record.Library :=
  { cryptoki := b.cryptoki
    manufacturer := Text.Padded.fill Record.manufacturerSize b.manufacturer
    flags := 0
    description := Text.Padded.fill Record.libraryDescriptionSize b.description
    library := ⟨1, 0⟩ }

def getInfo (place : Bool) (s : State) : Reply Record.Library × State :=
  let reply :=
    if !s.running then ⟨.notInitialized, none⟩
    else if s.behaviour.infoCode ≠ .ok then ⟨s.behaviour.infoCode, none⟩
    else if !place then ⟨.argumentsBad, none⟩
    else ⟨.ok, some (libraryRecord s.behaviour)⟩
  (reply, { s with calls.getInfo := s.calls.getInfo + 1 })

/-- The slots that are listed: all of them, or those that hold a token. -/
def listedSlots (b : Behaviour) (tokenPresent : UInt8) : List SlotId :=
  (b.places.filter fun p => tokenPresent = 0 ∨ p.label.isSome).map (·.id)

def getSlotList (tokenPresent : UInt8) (list : Bool) (count : Option Word) (s : State) :
    Reply SlotListing × State :=
  let ids := listedSlots s.behaviour tokenPresent
  let length := UInt64.ofNat ids.length
  let reply :=
    if !s.running then ⟨.notInitialized, none⟩
    else match count with
      | none => ⟨.argumentsBad, none⟩
      | some room =>
        if !list then ⟨.ok, some ⟨[], length⟩⟩
        else if room.toNat < ids.length then ⟨.bufferTooSmall, some ⟨[], length⟩⟩
        else ⟨.ok, some ⟨ids, length⟩⟩
  (reply, { s with calls.getSlotList := s.calls.getSlotList + 1 })

def slotRecord (b : Behaviour) (p : Place) : Record.Slot :=
  { description := Text.Padded.fill Record.slotDescriptionSize s!"Mock slot {p.id}"
    manufacturer := Text.Padded.fill Record.manufacturerSize b.manufacturer
    flags :=
      if p.label.isSome then Record.hardwareSlot ||| Record.tokenPresent else Record.hardwareSlot
    hardware := ⟨1, 0⟩
    firmware := ⟨2, 5⟩ }

def getSlotInfo (slot : SlotId) (place : Bool) (s : State) : Reply Record.Slot :=
  if !s.running then ⟨.notInitialized, none⟩
  else match s.place? slot with
    | none => ⟨.slotIdInvalid, none⟩
    | some p => if place then ⟨.ok, some (slotRecord s.behaviour p)⟩ else ⟨.argumentsBad, none⟩

/-- The serial number of a token: the number of its slot with 16 digits at least. -/
def serial (slot : SlotId) : String :=
  let digits := toString slot
  String.ofList (List.replicate (16 - digits.length) '0') ++ digits

def tokenRecord (b : Behaviour) (slot : SlotId) (label : String) : Record.Token :=
  { label := Text.Padded.fill Record.labelSize label
    manufacturer := Text.Padded.fill Record.manufacturerSize b.manufacturer
    model := Text.Padded.fill Record.modelSize "MockModel"
    serial := Text.Padded.fill Record.serialSize (serial slot)
    flags := Record.loginRequired ||| Record.userPinInitialized ||| Record.tokenInitialized }

def getTokenInfo (slot : SlotId) (place : Bool) (s : State) : Reply Record.Token :=
  if !s.running then ⟨.notInitialized, none⟩
  else match s.place? slot with
    | none => ⟨.slotIdInvalid, none⟩
    | some ⟨_, none⟩ => ⟨.tokenNotPresent, none⟩
    | some ⟨id, some label⟩ =>
      if place then ⟨.ok, some (tokenRecord s.behaviour id label)⟩ else ⟨.argumentsBad, none⟩

def waitForSlotEvent (flags : Flags) (place : Bool) (s : State) : Reply SlotId × State :=
  let reply :=
    if !s.running then ⟨.notInitialized, none⟩
    else if s.behaviour.eventCode ≠ .ok then ⟨s.behaviour.eventCode, none⟩
    else if !place then ⟨.argumentsBad, none⟩
    else ⟨.ok, some s.behaviour.eventSlot⟩
  (reply, { s with calls.waitForSlotEvent := flags :: s.calls.waitForSlotEvent })

def openSession (slot : SlotId) (flags : Flags) (application notify place : Bool) (s : State) :
    Reply SessionId × State :=
  if !s.running then (⟨.notInitialized, none⟩, s)
  else
    let s := { s with
      calls.openSession := ⟨slot, flags, application, notify⟩ :: s.calls.openSession }
    if (s.place? slot).isNone then (⟨.slotIdInvalid, none⟩, s)
    else if !Flags.has flags serialSession then (⟨.sessionParallelNotSupported, none⟩, s)
    else if s.behaviour.openSessionCode ≠ .ok then (⟨s.behaviour.openSessionCode, none⟩, s)
    else if !place then (⟨.argumentsBad, none⟩, s)
    else (⟨.ok, some s.nextSession⟩, { s with
      nextSession := s.nextSession + 1
      sessions := s.sessions ++ [s.nextSession] })

def closeSession (session : SessionId) (s : State) : Code × State :=
  let s := { s with calls.closeSession := session :: s.calls.closeSession }
  if s.behaviour.closeSessionCode ≠ .ok then (s.behaviour.closeSessionCode, s)
  else if s.sessions.contains session then
    (.ok, { s with sessions := s.sessions.erase session })
  else (.sessionHandleInvalid, s)

def login (session : SessionId) (user : Word) (pin : Option Bytes) (pinLength : Word)
    (s : State) : Code × State :=
  (if s.sessions.contains session then s.behaviour.loginCode else .sessionHandleInvalid,
    { s with calls.login := ⟨session, user, pin, pinLength⟩ :: s.calls.login })

def logout (session : SessionId) (s : State) : Code × State :=
  (s.behaviour.logoutCode, { s with calls.logout := session :: s.calls.logout })

def serve : (c : Call) → State → c.Answer × State
  | .getFunctionList place, s => (getFunctionList place s, s)
  | .init args, s => init args s
  | .finalize reserved, s => finalize reserved s
  | .getInfo place, s => getInfo place s
  | .getSlotList tokenPresent list count, s => getSlotList tokenPresent list count s
  | .getSlotInfo slot place, s => (getSlotInfo slot place s, s)
  | .getTokenInfo slot place, s => (getTokenInfo slot place s, s)
  | .waitForSlotEvent flags place, s => waitForSlotEvent flags place s
  | .openSession slot flags application notify place, s =>
    openSession slot flags application notify place s
  | .closeSession session, s => closeSession session s
  | .login session user pin pinLength, s => login session user pin pinLength s
  | .logout session, s => logout session s

/-- Finalizes until the library is not initialized any more. -/
def finalizeAll (s : State) : State := Nat.repeat (fun s => (finalize false s).2) s.instances s

/-! ### The library over time -/

/-- The library together with the changes of its behaviour to come, one for each sleep. -/
structure Timeline where
  library : State
  changes : List (Behaviour → Behaviour)
  /-- How often anybody has slept. -/
  slept : Nat

namespace Timeline

def start (b : Behaviour) : Timeline := ⟨.fresh b, [], 0⟩

/-- Changes the behaviour now. -/
def change (t : Timeline) (f : Behaviour → Behaviour) : Timeline :=
  { t with library.behaviour := f t.library.behaviour }

def sleep (t : Timeline) : Timeline :=
  match t.changes with
  | [] => { t with slept := t.slept + 1 }
  | f :: rest => { t.change f with changes := rest, slept := t.slept + 1 }

end Timeline

def answer : (r : Request) → Timeline → r.Answer × Timeline
  | .openLibrary _ module path, t =>
    let (r, s) := openLibrary module path t.library
    (r, { t with library := s })
  | .lookUp module symbol, t => (lookUp module symbol t.library, t)
  | .call _ c, t =>
    let (r, s) := serve c t.library
    (r, { t with library := s })
  | .closeLibrary _, t => ((), { t with library := closeLibrary t.library })
  | .sleep, t => ((), t.sleep)

/-- All modules are made of the one library. -/
def environment : Environment Timeline := ⟨answer⟩

end Cryptoki.Simulated
