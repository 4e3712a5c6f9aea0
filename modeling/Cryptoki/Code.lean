import Cryptoki.Word

/-!
Result codes of library functions and their symbolic names.
-/

namespace Cryptoki

/-- What a library function returns. Every word is a possible result. -/
structure Code where
  value : Word
  deriving DecidableEq, Repr, Inhabited

namespace Code

def ok : Code := ⟨0x0⟩
def hostMemory : Code := ⟨0x2⟩
def slotIdInvalid : Code := ⟨0x3⟩
def generalError : Code := ⟨0x5⟩
def argumentsBad : Code := ⟨0x7⟩
def functionNotSupported : Code := ⟨0x54⟩
def sessionHandleInvalid : Code := ⟨0xB3⟩
def sessionParallelNotSupported : Code := ⟨0xB4⟩
def tokenNotPresent : Code := ⟨0xE0⟩
def userTypeInvalid : Code := ⟨0x103⟩
def bufferTooSmall : Code := ⟨0x150⟩
def notInitialized : Code := ⟨0x190⟩
def alreadyInitialized : Code := ⟨0x191⟩
def mutexNotLocked : Code := ⟨0x1A1⟩

/-- Codes from here on belong to the vendors of libraries. -/
def firstVendor : Word := 0x80000000

/-- The codes that have a name of their own. -/
def named : List (Word × String) :=
  [(0x0, "CKR_OK"), (0x1, "CKR_CANCEL"), (0x2, "CKR_HOST_MEMORY"), (0x3, "CKR_SLOT_ID_INVALID"),
   (0x5, "CKR_GENERAL_ERROR"), (0x6, "CKR_FUNCTION_FAILED"), (0x7, "CKR_ARGUMENTS_BAD"),
   (0x8, "CKR_NO_EVENT"), (0x9, "CKR_NEED_TO_CREATE_THREADS"), (0xA, "CKR_CANT_LOCK"),
   (0x30, "CKR_DEVICE_ERROR"), (0x31, "CKR_DEVICE_MEMORY"), (0x32, "CKR_DEVICE_REMOVED"),
   (0x50, "CKR_FUNCTION_CANCELED"), (0x51, "CKR_FUNCTION_NOT_PARALLEL"),
   (0x54, "CKR_FUNCTION_NOT_SUPPORTED"), (0x90, "CKR_OPERATION_ACTIVE"),
   (0x91, "CKR_OPERATION_NOT_INITIALIZED"), (0xA0, "CKR_PIN_INCORRECT"),
   (0xA1, "CKR_PIN_INVALID"), (0xA2, "CKR_PIN_LEN_RANGE"), (0xA3, "CKR_PIN_EXPIRED"),
   (0xA4, "CKR_PIN_LOCKED"), (0xB0, "CKR_SESSION_CLOSED"), (0xB1, "CKR_SESSION_COUNT"),
   (0xB3, "CKR_SESSION_HANDLE_INVALID"), (0xB4, "CKR_SESSION_PARALLEL_NOT_SUPPORTED"),
   (0xB5, "CKR_SESSION_READ_ONLY"), (0xB6, "CKR_SESSION_EXISTS"),
   (0xB7, "CKR_SESSION_READ_ONLY_EXISTS"), (0xB8, "CKR_SESSION_READ_WRITE_SO_EXISTS"),
   (0xE0, "CKR_TOKEN_NOT_PRESENT"), (0xE1, "CKR_TOKEN_NOT_RECOGNIZED"),
   (0xE2, "CKR_TOKEN_WRITE_PROTECTED"), (0x100, "CKR_USER_ALREADY_LOGGED_IN"),
   (0x101, "CKR_USER_NOT_LOGGED_IN"), (0x102, "CKR_USER_PIN_NOT_INITIALIZED"),
   (0x103, "CKR_USER_TYPE_INVALID"), (0x104, "CKR_USER_ANOTHER_ALREADY_LOGGED_IN"),
   (0x105, "CKR_USER_TOO_MANY_TYPES"), (0x150, "CKR_BUFFER_TOO_SMALL"),
   (0x190, "CKR_CRYPTOKI_NOT_INITIALIZED"), (0x191, "CKR_CRYPTOKI_ALREADY_INITIALIZED"),
   (0x1A0, "CKR_MUTEX_BAD"), (0x1A1, "CKR_MUTEX_NOT_LOCKED")]

/-- The symbolic name of a code. -/
def name (c : Code) : String :=
  match named.lookup c.value with
  | some s => s
  | none => if firstVendor ≤ c.value then "CKR_VENDOR_DEFINED" else "CKR_UNKNOWN"

end Code

end Cryptoki
