import Cryptoki.Settings.File

/-!
The options and commands of the probe.
-/

namespace Cryptoki.CommandLine

/-- What to do with the module. -/
inductive Command where
  | info
  | slots (tokenPresent : Bool)
  | wait
  | session (readWrite noLogin : Bool)
  deriving DecidableEq, Repr

/-- Options that hold whatever the command. Each of them has precedence over the settings. -/
structure General where
  configFile : Option String
  libraryPath : Option String
  slot : Option SlotSelector
  verbosity : Option Log.Verbosity
  logKind : Option LogKind
  /-- Debug lines are wanted, unless a verbosity is given. -/
  verbose : Bool
  deriving DecidableEq, Repr

structure Options where
  general : General
  command : Command
  deriving DecidableEq, Repr

namespace General

/-- The file that settings are read from. None is read when only a library is named. -/
def settingsFile (g : General) : Option String :=
  match g.configFile, g.libraryPath with
  | some file, _ => some file
  | none, some _ => none
  | none, none => some Settings.defaultFile

/-- The settings before any option changes them. -/
def base (g : General) (v : Settings.Variables) (read : String → Except String Bytes)
    (parse : String → Option Toml.Document := Toml.parse) : Settings.Outcome :=
  match g.configFile, g.libraryPath with
  | some file, _ => Settings.ofFile v file (read file) parse
  | none, some path => ⟨v.warnings, .ok (Settings.forLibrary v path)⟩
  | none, none => Settings.ofFile v Settings.defaultFile (read Settings.defaultFile) parse

def chosenVerbosity (g : General) : Option Log.Verbosity :=
  match g.verbosity with
  | some v => some v
  | none => if g.verbose then some (.upTo .debug) else none

/-- Lets the options that are given have their way. -/
def override (g : General) (s : Settings) : Settings :=
  { s with
    libraryPath := g.libraryPath.getD s.libraryPath
    slot := g.slot <|> s.slot
    verbosity := g.chosenVerbosity.getD s.verbosity
    logKind := g.logKind.getD s.logKind }

/-- The settings that a run is to use. -/
def settings (g : General) (v : Settings.Variables) (read : String → Except String Bytes)
    (parse : String → Option Toml.Document := Toml.parse) : Settings.Outcome :=
  let b := g.base v read parse
  ⟨b.said, do
    let s ← b.result
    let s := g.override s
    s.verify
    return s⟩

end General

end Cryptoki.CommandLine
