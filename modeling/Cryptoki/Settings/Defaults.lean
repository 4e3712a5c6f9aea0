import Cryptoki.Settings.Basic

/-!
What holds where nothing is set. The environment of the process has a say in it.
-/

namespace Cryptoki.Settings

/-- The environment variables that are looked at. -/
structure Variables where
  logLevel : Option String
  userPin : Option String
  deriving DecidableEq, Repr

namespace Variables

def logLevelName : String := "P11BRIDGE_LOG_LEVEL"

def userPinName : String := "P11BRIDGE_USER_PIN"

/-- The default verbosity. -/
def verbosity (v : Variables) : Log.Verbosity :=
  (v.logLevel.bind Log.Verbosity.ofName?).getD (.upTo .info)

/-- What is said when the default verbosity is made use of. -/
def warnings (v : Variables) : List String :=
  match v.logLevel with
  | some s =>
    if (Log.Verbosity.ofName? s).isNone then
      ["Unrecognized value for log level in env var " ++ logLevelName ++ ", using info"]
    else []
  | none => []

end Variables

/-- What a file gives; each value may be missing. -/
structure Given where
  libraryPath : Option String
  slot : Option SlotSelector
  userPin : Option String
  login : Option Bool
  readWrite : Option Bool
  verbosity : Option Log.Verbosity
  logKind : Option LogKind
  logFile : Option String
  syslogFacility : Option String
  deriving DecidableEq, Repr

def Given.nothing : Given := ⟨none, none, none, none, none, none, none, none, none⟩

/-- Fills in the defaults for a library. -/
def complete (v : Variables) (g : Given) (libraryPath : String) : Settings :=
  { libraryPath
    slot := g.slot
    userPin := g.userPin <|> v.userPin
    login := g.login.getD true
    readWrite := g.readWrite.getD false
    verbosity := g.verbosity.getD v.verbosity
    logKind := g.logKind.getD .stderr
    logFile := g.logFile.getD "./p11bridge.log"
    syslogFacility := g.syslogFacility.getD "user" }

/-- Settings for a library with all the defaults. -/
def forLibrary (v : Variables) (libraryPath : String) : Settings :=
  complete v .nothing libraryPath

/-- Settings, or why there are none, and what was said on the way. -/
structure Outcome where
  said : List String
  result : Except Problem Settings

end Cryptoki.Settings
