import Cryptoki.Settings.Defaults
import Cryptoki.Text.Quoted
import Cryptoki.Toml.Document

/-!
Reading settings from a file.

The keys of a file are looked at in their order; the first value that does not fit ends it. Keys
that mean nothing to us are passed over.
-/

namespace Cryptoki.Settings

open Toml (Value Entries)

/-- A value as it stands in a message. -/
def describe : Value → String
  | .string s => "string " ++ Text.quoted s
  | .integer n => s!"integer `{n}`"
  | .float x => "floating point `" ++ x.text ++ "`"
  | .boolean b => s!"boolean `{b}`"
  | .datetime _ | .table _ _ => "map"
  | .array _ | .tables _ _ => "sequence"

def mismatch (v : Value) (expected : String) : String :=
  "invalid type: " ++ describe v ++ ", expected " ++ expected

def stringOf (expected : String) : Value → Except String String
  | .string s => .ok s
  | v => .error (mismatch v expected)

def booleanOf : Value → Except String Bool
  | .boolean b => .ok b
  | v => .error (mismatch v "a boolean")

def selectorOf : Value → Except String SlotSelector
  | .integer n =>
    if 0 ≤ n ∧ n < UInt64.size then .ok (.id (UInt64.ofNat n.toNat)) else .error noSelector
  | .string s => .ok (.label s)
  | _ => .error noSelector
where
  noSelector : String := "data did not match any variant of untagged enum SlotIdOrLabel"

def verbosityOf (s : String) : Except String Log.Verbosity :=
  match Log.Verbosity.ofName? s with
  | some v => .ok v
  | none => .error Log.Verbosity.unknownName

/-- Takes the value of a key. -/
def take (g : Given) (key : String) (v : Value) : Except String Given :=
  match key with
  | "lib_path" => do return { g with libraryPath := ← stringOf "path string" v }
  | "slot" => do return { g with slot := ← selectorOf v }
  | "user_pin" => do return { g with userPin := ← stringOf "a string" v }
  | "login" => do return { g with login := ← booleanOf v }
  | "read_write" => do return { g with readWrite := ← booleanOf v }
  | "log_level" => do return { g with verbosity := ← verbosityOf (← stringOf "a string" v) }
  | "log_type" => do return { g with logKind := ← LogKind.ofName (← stringOf "a string" v) }
  | "log_file" => do return { g with logFile := ← stringOf "path string" v }
  | "syslog_facility" => do return { g with syslogFacility := ← stringOf "a string" v }
  | _ => return g

/-- A value that does not fit. -/
structure Misfit where
  key : String
  message : String
  deriving DecidableEq, Repr

def given (entries : Entries) : Except Misfit Given :=
  entries.foldlM (fun g e => (take g e.1 e.2).mapError (Misfit.mk e.1)) .nothing

/-- Settings from what a file gives. -/
def ofGiven (v : Variables) (g : Given) (path : String) : Outcome :=
  let s := complete v g path
  ⟨if g.verbosity.isNone then v.warnings else [],
    do s.verify; return s⟩

/-- Settings from a document. A library path has no default. -/
def ofDocument (v : Variables) (d : Toml.Document) : Outcome :=
  match given d.entries with
  | .error m => ⟨[], .error (.unfit (d.excerptOf m.key) m.message)⟩
  | .ok g =>
    match g.libraryPath with
    | none => ⟨[], .error (.unfit d.excerpt "missing field `lib_path`")⟩
    | some path => ofGiven v g path

/-- Settings from the text of a file, with any reader of documents. -/
def ofText (v : Variables) (text : String)
    (parse : String → Option Toml.Document := Toml.parse) : Outcome :=
  match parse text with
  | none => ⟨[], .error .invalidSyntax⟩
  | some d => ofDocument v d

/-- The text that some bytes stand for, unless they are ill formed. -/
def decode (bytes : Bytes) : Except String String :=
  match String.fromUTF8? ⟨bytes.toArray⟩ with
  | some s => .ok s
  | none => .error "stream did not contain valid UTF-8"

/-- Settings from a file. A file that cannot be read is known by the reason. -/
def ofFile (v : Variables) (path : String) (content : Except String Bytes)
    (parse : String → Option Toml.Document := Toml.parse) : Outcome :=
  match content >>= decode with
  | .error reason =>
    ⟨[], .error (.unreadable ("Cannot read config file '" ++ path ++ "': " ++ reason))⟩
  | .ok text => ofText v text parse

/-- The file that is read unless another one is named. -/
def defaultFile : String := "/etc/p11bridge.conf"

end Cryptoki.Settings
