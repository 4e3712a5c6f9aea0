import Cryptoki.Mutex.Callbacks
import Cryptoki.Record

/-!
The functions of a library, the calls made of them and what they leave behind.

A call has places for its results, which may be missing. The reply is a code and what was written
to the places, nothing if the library left them alone.
-/

namespace Cryptoki

/-- The functions a function list may provide. -/
inductive Function where
  | init | finalize | getInfo | getFunctionList
  | getSlotList | getSlotInfo | getTokenInfo | waitForSlotEvent
  | initToken
  | openSession | closeSession | login | logout
  deriving DecidableEq, Repr

namespace Function

def name : Function → String
  | .init => "C_Initialize"
  | .finalize => "C_Finalize"
  | .getInfo => "C_GetInfo"
  | .getFunctionList => "C_GetFunctionList"
  | .getSlotList => "C_GetSlotList"
  | .getSlotInfo => "C_GetSlotInfo"
  | .getTokenInfo => "C_GetTokenInfo"
  | .waitForSlotEvent => "C_WaitForSlotEvent"
  | .initToken => "C_InitToken"
  | .openSession => "C_OpenSession"
  | .closeSession => "C_CloseSession"
  | .login => "C_Login"
  | .logout => "C_Logout"

/-- The functions no library may lack, in the order in which they are looked for. -/
def mandatory : List Function :=
  [.init, .finalize, .getInfo, .openSession, .closeSession, .login, .logout]

/-- The one function a library exports by name. -/
def entryPoint : Function := .getFunctionList

end Function

structure FunctionList where
  version : Version
  provided : List Function
  deriving DecidableEq, Repr

namespace FunctionList

def provides (l : FunctionList) (f : Function) : Bool := l.provided.contains f

/-- The first mandatory function that is not provided. -/
def missing? (l : FunctionList) : Option Function :=
  Function.mandatory.find? fun f => !l.provides f

end FunctionList

/-- Flag bits of a session to be opened. -/
def serialSession : Flags := 0x4
def readWriteSession : Flags := 0x2

/-- A call with its arguments. A `place` that is `false` is a missing one for the result. -/
inductive Call where
  | getFunctionList (place : Bool)
  | init (args : Option InitArgs)
  | finalize (reserved : Bool)
  | getInfo (place : Bool)
  /-- `count` is the place of the count with the room it announces; `list` says whether there is
  a list to write to. -/
  | getSlotList (tokenPresent : UInt8) (list : Bool) (count : Option Word)
  | getSlotInfo (slot : SlotId) (place : Bool)
  | getTokenInfo (slot : SlotId) (place : Bool)
  | waitForSlotEvent (flags : Flags) (place : Bool)
  | openSession (slot : SlotId) (flags : Flags) (application notify place : Bool)
  | closeSession (session : SessionId)
  /-- `pin` is missing where none is passed. -/
  | login (session : SessionId) (user : Word) (pin : Option Bytes) (pinLength : Word)
  | logout (session : SessionId)
  deriving DecidableEq, Repr

structure Reply (α : Type) where
  code : Code
  written : Option α
  deriving DecidableEq, Repr

/-- What is written where slots are listed: the slots, if there is a list, and the count. -/
structure SlotListing where
  slots : List SlotId
  count : Word
  deriving DecidableEq, Repr

namespace Call

@[reducible] def Answer : Call → Type
  | .getFunctionList _ => Reply FunctionList
  | .getInfo _ => Reply Record.Library
  | .getSlotList .. => Reply SlotListing
  | .getSlotInfo .. => Reply Record.Slot
  | .getTokenInfo .. => Reply Record.Token
  | .waitForSlotEvent .. => Reply SlotId
  | .openSession .. => Reply SessionId
  | .init _ | .finalize _ | .closeSession _ | .login .. | .logout _ => Code

def function : Call → Function
  | .getFunctionList _ => .getFunctionList
  | .init _ => .init
  | .finalize _ => .finalize
  | .getInfo _ => .getInfo
  | .getSlotList .. => .getSlotList
  | .getSlotInfo .. => .getSlotInfo
  | .getTokenInfo .. => .getTokenInfo
  | .waitForSlotEvent .. => .waitForSlotEvent
  | .openSession .. => .openSession
  | .closeSession _ => .closeSession
  | .login .. => .login
  | .logout _ => .logout

end Call

end Cryptoki
