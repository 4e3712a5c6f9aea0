import Cryptoki.Log
import Cryptoki.Text.Excerpt
import Cryptoki.Text.Lossy
import Cryptoki.Text.Numeral

/-!
The settings of a module and how to use it.
-/

namespace Cryptoki

/-- Selects a slot by its number, or by the label of the token in it. -/
inductive SlotSelector where
  | id (slot : SlotId)
  | label (s : String)
  deriving DecidableEq, Repr

namespace SlotSelector

/-- Numbers of slots are taken as such, and anything else as a label. -/
def ofText (s : String) : SlotSelector :=
  match Text.Numeral.word? s with
  | some w => .id w
  | none => .label s

def text : SlotSelector → String
  | .id slot => s!"slot {slot}"
  | .label s => "token '" ++ s ++ "'"

end SlotSelector

/-- Where to log to. -/
inductive LogKind where
  | stderr | file | syslog
  deriving DecidableEq, Repr

namespace LogKind

def name : LogKind → String
  | .stderr => "stderr"
  | .file => "file"
  | .syslog => "syslog"

def ofName (s : String) : Except String LogKind :=
  if s = "stderr" then .ok .stderr
  else if s = "file" then .ok .file
  else if s = "syslog" then .ok .syslog
  else .error ("expected \"stderr\", \"file\" or \"syslog\", found: \"" ++ s ++ "\"")

theorem ofName_name (k : LogKind) : ofName k.name = .ok k := by cases k <;> rfl

end LogKind

structure Settings where
  libraryPath : String
  /-- Without it the first slot that holds a token is used. -/
  slot : Option SlotSelector
  userPin : Option String
  login : Bool
  readWrite : Bool
  verbosity : Log.Verbosity
  logKind : LogKind
  logFile : String
  syslogFacility : String
  deriving DecidableEq, Repr

namespace Settings

/-- Why there are no settings to be used. -/
inductive Problem where
  /-- A file cannot be read. -/
  | unreadable (message : String)
  | invalidSyntax
  /-- The file is well formed, but what stands at some place is not what is expected. -/
  | unfit (place : Text.Excerpt) (message : String)
  | other (message : String)
  deriving DecidableEq, Repr

/-- The title of problems with the text of a file. -/
def parseError : String := "TOML parse error"

/-- Where a place is, the line there, and what is wrong with it, each line with its end. -/
def pointAt (place : Text.Excerpt) (message : String) : String :=
  let title := s!"{parseError} at line {place.line + 1}, column {place.column + 1}"
  "".intercalate ((title :: place.lines ++ [message]).map (· ++ "\n"))

def Problem.text : Problem → String
  | .unreadable message | .other message => message
  | .unfit place message => pointAt place message
  | .invalidSyntax => parseError

/-- The bytes a label may have, as many as its field has. -/
def labelLimit : Nat := 32

def verifySlot : Option SlotSelector → Except Problem Unit
  | some (.label label) =>
    if label.isEmpty then .error (.other "slot label must not be empty")
    else if (Text.utf8 label).length > labelLimit then
      .error (.other "slot label must not exceed 32 characters")
    else .ok ()
  | _ => .ok ()

def verify (s : Settings) : Except Problem Unit :=
  if s.libraryPath.isEmpty then .error (.other "lib_path must not be empty")
  else verifySlot s.slot

end Settings

end Cryptoki
