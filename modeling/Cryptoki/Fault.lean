import Cryptoki.Code

/-!
Why an operation failed, in the form a host is told.

Only a fault that comes from a library function carries a code.
-/

namespace Cryptoki

inductive Fault where
  /-- A required argument was missing or names nothing. -/
  | invalidArgument (message : String)
  | hostMemory (message : String)
  /-- The library could not be opened, or is no cryptoki library. -/
  | moduleLoad (module reason : String)
  | missingEntryPoint (module symbol : String)
  /-- A library function returned this code. -/
  | pkcs11 (code : Code) (message : String)
  /-- A handle or session number names no live object. -/
  | invalidHandle (object : String)
  | general (message : String)
  deriving DecidableEq, Repr

namespace Fault

/-- The category of a fault, which a host maps to exceptions of its own. -/
inductive Kind where
  | invalidArgument | hostMemory | moduleLoad | pkcs11 | invalidHandle | general
  deriving DecidableEq, Repr

def Kind.text : Kind → String
  | .invalidArgument => "invalid argument"
  | .hostMemory => "out of memory"
  | .moduleLoad => "module load failure"
  | .pkcs11 => "PKCS#11 failure"
  | .invalidHandle => "invalid handle"
  | .general => "general failure"

def kind : Fault → Kind
  | .invalidArgument _ => .invalidArgument
  | .hostMemory _ => .hostMemory
  | .moduleLoad _ _ | .missingEntryPoint _ _ => .moduleLoad
  | .pkcs11 _ _ => .pkcs11
  | .invalidHandle _ => .invalidHandle
  | .general _ => .general

def code : Fault → Option Code
  | .pkcs11 c _ => some c
  | _ => none

def message : Fault → String
  | .invalidArgument m => "Invalid argument: " ++ m
  | .hostMemory m => "Out of memory: " ++ m
  | .moduleLoad module reason =>
    if module.isEmpty then "Cannot open PKCS#11 module: " ++ reason
    else s!"Cannot open PKCS#11 module {module}: {reason}"
  | .missingEntryPoint module symbol => s!"Cannot find function {symbol} in PKCS#11 module {module}"
  | .pkcs11 c m => m ++ " (" ++ c.name ++ ", " ++ c.value.hex ++ ")"
  | .invalidHandle object => "Invalid PKCS#11 " ++ object
  | .general m => "General failure: " ++ m

/-- A fault of the given kind without further detail. A failure of a library function that is
reported without its code counts as a general error of the library. -/
def ofKind (k : Kind) (message : String) : Fault :=
  match k with
  | .invalidArgument => .invalidArgument message
  | .hostMemory => .hostMemory message
  | .moduleLoad => .moduleLoad "" message
  | .pkcs11 => .pkcs11 .generalError message
  | .invalidHandle => .invalidHandle message
  | .general => .general message

/-- A fault of the given kind, with the code where the kind has one. -/
def ofCode (k : Kind) (c : Code) (message : String) : Fault :=
  match k with
  | .pkcs11 => .pkcs11 c message
  | k => ofKind k message

/-- A handle that names no live object of its kind. -/
def staleHandle (kind : String) (handle : Word) : Fault :=
  .invalidHandle (kind ++ " handle " ++ handle.hex)

end Fault

end Cryptoki
