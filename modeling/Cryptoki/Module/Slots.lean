import Cryptoki.Module.Load

/-!
The slots of a module and the tokens in them.
-/

namespace Cryptoki.Module

open Program

/-- The library lacks a function that only some operations need. -/
def notProvided (m : Module) (f : Function) : Fault :=
  .pkcs11 .functionNotSupported ("PKCS#11 module " ++ m.name ++ " does not provide " ++ f.name)

/-- How often the slots are listed when their number grows while they are fetched. -/
def listAttempts : Nat := 3

/-- What a list with room for `room` slots holds in the end. Places that were not written to
hold zero, and the count says how many places are meant. -/
def listed (room : Word) (written : Option SlotListing) : List SlotId :=
  let l := written.getD ⟨[], room⟩
  let kept := min room.toNat l.count.toNat
  l.slots.take kept ++ List.replicate (kept - l.slots.length) 0

/-- Asks for the number of slots and then for the slots, again if their number has grown. -/
def fetchSlots (m : Module) (flag : UInt8) : Nat → Program (Except Fault (List SlotId))
  | 0 => return .error (failed m.name .getSlotList .bufferTooSmall)
  | attempts + 1 => do
    let counted : Reply SlotListing ← call m.id (.getSlotList flag false (some 0))
    if counted.code ≠ .ok then
      return .error (failed m.name .getSlotList counted.code)
    let room := (counted.written.getD ⟨[], 0⟩).count
    let filled : Reply SlotListing ← call m.id (.getSlotList flag true (some room))
    if filled.code = .ok then
      return .ok (listed room filled.written)
    if filled.code = .bufferTooSmall then
      say .debug .slot ("Slot list of PKCS#11 module " ++ m.name ++ " grew, fetching it again")
      fetchSlots m flag attempts
    else
      return .error (failed m.name .getSlotList filled.code)

/-- The slots of a module, on demand only those that hold a token. -/
def slotList (m : Module) (tokenPresent : Bool) : Program (Except Fault (List SlotId)) :=
  if m.functions.provides .getSlotList then
    m.fetchSlots (if tokenPresent then 1 else 0) listAttempts
  else return .error (m.notProvided .getSlotList)

def slotInfo (m : Module) (id : SlotId) : Program (Except Fault SlotInfo) := do
  if m.functions.provides .getSlotInfo then
    let told : Reply Record.Slot ← call m.id (.getSlotInfo id true)
    if told.code ≠ .ok then
      return .error (.pkcs11 told.code s!"C_GetSlotInfo for PKCS#11 slot {id} failed")
    return .ok (.ofRecord id (told.written.getD .blank))
  else return .error (m.notProvided .getSlotInfo)

def tokenInfo (m : Module) (id : SlotId) : Program (Except Fault TokenInfo) := do
  if m.functions.provides .getTokenInfo then
    let told : Reply Record.Token ← call m.id (.getTokenInfo id true)
    if told.code ≠ .ok then
      return .error (.pkcs11 told.code s!"C_GetTokenInfo for PKCS#11 slot {id} failed")
    return .ok (.ofRecord (told.written.getD .blank))
  else return .error (m.notProvided .getTokenInfo)

/-- The first of the slots whose token bears the label. A token may be gone by now. -/
def firstLabelled (m : Module) (label : String) :
    List SlotId → Program (Except Fault (Option SlotId))
  | [] => return .ok none
  | id :: rest => do
    match ← m.tokenInfo id with
    | .ok info => if info.label = label then return .ok (some id) else firstLabelled m label rest
    | .error f =>
      if f.code = some .tokenNotPresent then firstLabelled m label rest else return .error f

def findSlot (m : Module) (label : String) : Program (Except Fault (Option SlotId)) := do
  match ← m.slotList true with
  | .error f => return .error f
  | .ok slots => m.firstLabelled label slots

/-- Looks for a token after each wait, as often as patience lasts. -/
def poll (m : Module) : (patience : Nat) → Program (Except Fault (Option SlotId))
  | 0 => return .ok none
  | patience + 1 => do
    ask .sleep
    match ← m.slotList true with
    | .error f => return .error f
    | .ok [] => poll m patience
    | .ok (id :: _) =>
      say .debug .slot s!"Found token in PKCS#11 slot {id} of {m.name}"
      return .ok (some id)

/-- Polls because the library cannot report slot events. -/
def pollInstead (m : Module) (patience : Nat) : Program (Except Fault (Option SlotId)) := do
  say .info .slot
    ("PKCS#11 module " ++ m.name ++ " cannot report slot events, polling for a token")
  m.poll patience

/-- Waits for a slot event. A library that cannot report any is asked for its slots again and
again, until one holds a token. The result is `none` while the wait goes on. -/
def waitForSlot (m : Module) (patience : Nat) : Program (Except Fault (Option SlotId)) := do
  if m.functions.provides .waitForSlotEvent then
    let event : Reply SlotId ← call m.id (.waitForSlotEvent 0 true)
    if event.code = .ok then
      let id := event.written.getD 0
      say .debug .slot s!"Slot event in PKCS#11 slot {id} of {m.name}"
      return .ok (some id)
    if event.code = .functionNotSupported then
      m.pollInstead patience
    else
      return .error (failed m.name .waitForSlotEvent event.code)
  else
    m.pollInstead patience

end Cryptoki.Module
