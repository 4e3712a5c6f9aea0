import Cryptoki.Fault

/-!
Kinds of user that log in to a token, and the state of a session.
-/

namespace Cryptoki

inductive User where
  | securityOfficer
  | normal
  /-- Authenticates again for a single operation, which leaves the login of the token as it is. -/
  | contextSpecific
  deriving DecidableEq, Repr

namespace User

def code : User → Word
  | .securityOfficer => 0
  | .normal => 1
  | .contextSpecific => 2

def text : User → String
  | .securityOfficer => "security officer"
  | .normal => "user"
  | .contextSpecific => "context specific user"

def ofCode (w : Word) : Except Fault User :=
  if w = 0 then .ok .securityOfficer
  else if w = 1 then .ok .normal
  else if w = 2 then .ok .contextSpecific
  else .error (.pkcs11 .userTypeInvalid s!"unknown PKCS#11 user type {w}")

theorem ofCode_code (u : User) : ofCode u.code = .ok u := by cases u <;> rfl

end User

/-- Whether somebody is logged in to the token of a session. -/
inductive SessionState where
  | unauthenticated
  | authenticated (user : User)
  deriving DecidableEq, Repr

def SessionState.text : SessionState → String
  | .unauthenticated => "open"
  | .authenticated u => "authenticated as " ++ u.text

end Cryptoki
