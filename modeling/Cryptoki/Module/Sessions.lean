import Cryptoki.Module.Load

/-!
Sessions of a module: opening, closing, logging in and out.

Closing and logging out never fail. What the library reports is logged, and the table is brought
up to date all the same.
-/

namespace Cryptoki.Module

open Program

def accessName (readWrite : Bool) : String := if readWrite then "read-write" else "read-only"

/-- A session seen on a slot of a module, as it stands in log lines. -/
def onSlot (m : Module) (slot : SlotId) (session : SessionId) : String :=
  s!"session {session} on PKCS#11 slot {slot} of {m.name}"

/-- Opens a serial session without a callback. -/
def openSession (m : Module) (slot : SlotId) (readWrite : Bool) :
    Program (Except Fault SessionId) := do
  let flags := if readWrite then serialSession ||| readWriteSession else serialSession
  let opened : Reply SessionId ← call m.id (.openSession slot flags false false true)
  if opened.code ≠ .ok then
    return .error (.pkcs11 opened.code s!"C_OpenSession for PKCS#11 slot {slot} failed")
  let session := opened.written.getD 0
  if session = 0 then
    return .error
      (.pkcs11 .generalError s!"C_OpenSession for PKCS#11 slot {slot} returned no session")
  touch (.sessions m.id (.track session slot readWrite))
  say .debug .session ("Opened " ++ accessName readWrite ++ " " ++ m.onSlot slot session)
  return .ok session

/-- Closes a session of the slot. It is forgotten before the library is asked. -/
def closeSession (m : Module) (slot : SlotId) (session : SessionId) : Program Unit := do
  let known : Bool ← touch (.sessions m.id (.forget slot session))
  if known then
    let code : Code ← call m.id (.closeSession session)
    if code ≠ .ok then
      say .warn .session
        (s!"C_CloseSession for PKCS#11 slot {slot} of {m.name} failed: " ++ code.name)
    else
      say .debug .session ("Closed " ++ m.onSlot slot session)
  else
    say .warn .session ("Ignoring close of unknown " ++ m.onSlot slot session)

/-- The bytes handed to the library: nothing where there is no secret or an empty one. -/
def pinOf : Option Bytes → Option Bytes
  | none => none
  | some secret => if secret.isEmpty then none else some secret

/-- Logs a user in. Without a secret the library is to use its protected authentication path. -/
def login (m : Module) (slot : SlotId) (session : SessionId) (user : User)
    (secret : Option Bytes) : Program (Except Fault Unit) := do
  let known : Option SessionInfo ← touch (.sessions m.id (.find slot session))
  if known.isNone then
    return .error (.invalidHandle s!"session {session} for slot {slot} of {m.name}")
  let pin := pinOf secret
  let length := UInt64.ofNat (pin.getD []).length
  let code : Code ← call m.id (.login session user.code pin length)
  if code ≠ .ok then
    return .error (.pkcs11 code s!"C_Login for PKCS#11 slot {slot} failed")
  touch (.sessions m.id (.logIn slot user))
  say .debug .session ("Logged in as " ++ user.text ++ " on " ++ m.onSlot slot session)
  return .ok ()

/-- Logs out of the token of a slot through one of its sessions. -/
def logout (m : Module) (slot : SlotId) (session : SessionId) : Program Unit := do
  let known : Option SessionInfo ← touch (.sessions m.id (.find slot session))
  if known.isNone then
    say .warn .session ("Ignoring logout of unknown " ++ m.onSlot slot session)
  else
    let code : Code ← call m.id (.logout session)
    if code ≠ .ok then
      say .warn .session
        (s!"C_Logout for PKCS#11 slot {slot} of {m.name} failed: " ++ code.name)
    touch (.sessions m.id (.logOut slot))

/-- The state of a session, if it is tracked for this slot. -/
def sessionState (m : Module) (slot : SlotId) (session : SessionId) :
    Program (Option SessionState) := do
  let known : Option SessionInfo ← touch (.sessions m.id (.find slot session))
  return known.map (·.state)

/-- All tracked sessions in the order of their numbers. -/
def openSessions (m : Module) : Program (List SessionInfo) := touch (.sessions m.id .list)

end Cryptoki.Module
