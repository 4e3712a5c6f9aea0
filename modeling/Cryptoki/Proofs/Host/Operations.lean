import Cryptoki.Proofs.Module.Bounds
import Cryptoki.Proofs.Process.Accounting

/-!
The operations of a host, and what each does once its handles are found good.

An operation names a module, or a module and one of its slots, by handles. Its effect is written
for the module and the slot themselves, with no handle to look up and no reference to take. The
two cannot be told apart when the handles are good, and an operation on bad handles cannot be told
apart from one that only answers a fault.
-/

namespace Cryptoki.Host

open Process Program

/-! ### Operations on a module -/

inductive ModuleOp where
  | info
  | unload
  | slotList (tokenPresent : Bool)
  | openSlot (id : SlotId)
  | openSlotByLabel (label : String)
  | waitForSlot (patience : ℕ)
  | openSessions
  deriving DecidableEq, Repr

namespace ModuleOp

@[reducible] def Answer : ModuleOp → Type
  | .info => LibraryInfo
  | .unload => Unit
  | .slotList _ => List SlotId
  | .openSlot _ | .openSlotByLabel _ => Handle
  | .waitForSlot _ => Option Handle
  | .openSessions => List SessionInfo

def program (h : Handle) : (o : ModuleOp) → Program (Except Fault o.Answer)
  | .info => moduleInfo h
  | .unload => Host.unload h
  | .slotList tokenPresent => Host.slotList h tokenPresent
  | .openSlot id => Host.openSlot h id
  | .openSlotByLabel label => Host.openSlotByLabel h label
  | .waitForSlot patience => Host.waitForSlot h patience
  | .openSessions => Host.openSessions h

/-- What the operation does on the module `m` registered under `h`. -/
def effect (h : Handle) (m : Module) : (o : ModuleOp) → Program (Except Fault o.Answer)
  | .info => return .ok m.info
  | .unload => do
    let _ : Except Fault Module ← touch (.removeModule h)
    let slots : ℕ ← touch (.removeSlotsOf h)
    say .debug .host s!"Unregistered PKCS#11 module {m.name} and {slots} slot(s)"
    m.release
    return .ok ()
  | .slotList tokenPresent => m.slotList tokenPresent
  | .openSlot id => do
    match ← m.slotInfo id with
    | .error f => return .error f
    | .ok _ => return .ok (← register h id)
  | .openSlotByLabel label => do
    match ← m.findSlot label with
    | .error f => return .error f
    | .ok none =>
      return .error (.invalidArgument ("no PKCS#11 token with label '" ++ label ++ "'"))
    | .ok (some id) => return .ok (← register h id)
  | .waitForSlot patience => do
    match ← m.waitForSlot patience with
    | .error f => return .error f
    | .ok none => return .ok none
    | .ok (some id) => return .ok (some (← register h id))
  | .openSessions => return .ok (← m.openSessions)

end ModuleOp

/-! ### Operations on a slot -/

inductive SlotOp where
  | close
  | slotInfo
  | tokenInfo
  | openSession (readWrite : Bool)
  | closeSession (session : SessionId)
  | login (session : SessionId) (user : User) (secret : Option Bytes)
  | logout (session : SessionId)
  | sessionState (session : SessionId)
  deriving DecidableEq, Repr

namespace SlotOp

@[reducible] def Answer : SlotOp → Type
  | .close | .closeSession _ | .login .. | .logout _ => Unit
  | .slotInfo => SlotInfo
  | .tokenInfo => TokenInfo
  | .openSession _ => SessionId
  | .sessionState _ => SessionState

def program (h s : Handle) : (o : SlotOp) → Program (Except Fault o.Answer)
  | .close => closeSlot h s
  | .slotInfo => Host.slotInfo h s
  | .tokenInfo => Host.tokenInfo h s
  | .openSession readWrite => Host.openSession h s readWrite
  | .closeSession session => Host.closeSession h s session
  | .login session user secret => Host.login h s session user secret
  | .logout session => Host.logout h s session
  | .sessionState session => Host.sessionState h s session

/-- What the operation does on the slot `id`, registered under `s`, of the module `m`. -/
def effect (s : Handle) (m : Module) (id : SlotId) :
    (o : SlotOp) → Program (Except Fault o.Answer)
  | .close => do
    let _ : Except Fault Slot ← touch (.removeSlot s)
    return .ok ()
  | .slotInfo => m.slotInfo id
  | .tokenInfo => m.tokenInfo id
  | .openSession readWrite => m.openSession id readWrite
  | .closeSession session => do
    m.closeSession id session
    return .ok ()
  | .login session user secret => m.login id session user secret
  | .logout session => do
    m.logout id session
    return .ok ()
  | .sessionState session => do
    match ← m.sessionState id session with
    | some state => return .ok state
    | none => return .error (.invalidHandle s!"session {session} for slot {id}")

end SlotOp

/-! ### All operations -/

inductive Operation where
  | load (loader : Loader) (path : String)
  | onModule (h : Handle) (o : ModuleOp)
  | onSlot (h s : Handle) (o : SlotOp)
  deriving DecidableEq, Repr

@[reducible] def Operation.Answer : Operation → Type
  | .load .. => Handle
  | .onModule _ o => o.Answer
  | .onSlot _ _ o => o.Answer

def Operation.program : (o : Operation) → Program (Except Fault o.Answer)
  | .load loader path => Host.load loader path
  | .onModule h o => o.program h
  | .onSlot h s o => o.program h s

/-! ### What effects reach -/

lemma reaches_register (m : Module) (h : Handle) (id : SlotId) : m.Reaches (register h id) :=
  within_touch.mpr trivial

lemma ModuleOp.reaches_effect (h : Handle) (m : Module) (o : ModuleOp) (ho : o ≠ .unload) :
    m.Reaches (o.effect h m) := by
  cases o with
  | info => exact within_pure _
  | unload => exact absurd rfl ho
  | slotList tokenPresent => exact (m.owns_slotList tokenPresent).reaches
  | openSlot id =>
    refine within_bind (m.owns_slotInfo id).reaches fun told => ?_
    rcases told with f | info
    · exact within_pure _
    · exact within_bind (reaches_register m h id) fun _ => within_pure _
  | openSlotByLabel label =>
    refine within_bind (m.owns_findSlot label).reaches fun found => ?_
    rcases found with f | _ | id
    · exact within_pure _
    · exact within_pure _
    · exact within_bind (reaches_register m h id) fun _ => within_pure _
  | waitForSlot patience =>
    refine within_bind (m.owns_waitForSlot patience).reaches fun event => ?_
    rcases event with f | _ | id
    · exact within_pure _
    · exact within_pure _
    · exact within_bind (reaches_register m h id) fun _ => within_pure _
  | openSessions => exact within_bind m.owns_openSessions.reaches fun _ => within_pure _

lemma SlotOp.reaches_effect (s : Handle) (m : Module) (id : SlotId) (o : SlotOp) :
    m.Reaches (o.effect s m id) := by
  cases o with
  | close => exact within_bind (within_touch.mpr trivial) fun _ => within_pure _
  | slotInfo => exact (m.owns_slotInfo id).reaches
  | tokenInfo => exact (m.owns_tokenInfo id).reaches
  | openSession readWrite => exact (m.owns_openSession id readWrite).reaches
  | closeSession session =>
    exact within_bind (m.owns_closeSession id session).reaches fun _ => within_pure _
  | login session user secret => exact (m.owns_login id session user secret).reaches
  | logout session => exact within_bind (m.owns_logout id session).reaches fun _ => within_pure _
  | sessionState session =>
    refine within_bind (m.owns_sessionState id session).reaches fun state => ?_
    rcases state with _ | state
    · exact within_pure _
    · exact within_pure _

lemma neutral_register (h : Handle) (id : SlotId) : (register h id).Neutral :=
  within_touch.mpr trivial

lemma ModuleOp.neutral_effect (h : Handle) (m : Module) (o : ModuleOp) (ho : o ≠ .unload) :
    (o.effect h m).Neutral := (o.reaches_effect h m ho).neutral

lemma SlotOp.neutral_effect (s : Handle) (m : Module) (id : SlotId) (o : SlotOp) :
    (o.effect s m id).Neutral := (o.reaches_effect s m id).neutral

end Cryptoki.Host
