/-!
What is logged: levels, how much of it is wanted, and the form of a line.
-/

namespace Cryptoki.Log

/-- How serious a line is, the most serious first. -/
inductive Level where
  | error | warn | info | debug | trace
  deriving DecidableEq, Repr

namespace Level

def rank : Level → Nat
  | .error => 1
  | .warn => 2
  | .info => 3
  | .debug => 4
  | .trace => 5

def name : Level → String
  | .error => "ERROR"
  | .warn => "WARN"
  | .info => "INFO"
  | .debug => "DEBUG"
  | .trace => "TRACE"

end Level

/-- Nothing, or all lines down to a level. -/
inductive Verbosity where
  | off
  | upTo (level : Level)
  deriving DecidableEq, Repr

namespace Verbosity

def rank : Verbosity → Nat
  | .off => 0
  | .upTo l => l.rank

def admits (v : Verbosity) (l : Level) : Bool := l.rank ≤ v.rank

def name : Verbosity → String
  | .off => "OFF"
  | .upTo l => l.name

def all : List Verbosity :=
  [.off, .upTo .error, .upTo .warn, .upTo .info, .upTo .debug, .upTo .trace]

/-- Names are read without regard to the case of ASCII letters. -/
def ofName? (s : String) : Option Verbosity :=
  all.find? fun v => v.name.toList = s.toList.map Char.toUpper

/-- Why a text is no verbosity. -/
def unknownName : String :=
  "attempted to convert a string that doesn't match an existing log level"

theorem ofName?_name (v : Verbosity) : ofName? v.name = some v := by
  cases v with
  | off => decide
  | upTo l => cases l <;> decide

end Verbosity

/-- The part of the program that a line comes from. -/
inductive Source where
  | host | library | module | slot | session | probe
  deriving DecidableEq, Repr

/-- The name of a part as it is shown in a line. -/
def Source.target : Source → String
  | .host => "p11bridge::api"
  | .library => "p11bridge::pkcs11::library"
  | .module => "p11bridge::pkcs11::module"
  | .slot => "p11bridge::pkcs11::slot"
  | .session => "p11bridge::pkcs11::session"
  | .probe => "p11bridge::cli"

structure Line where
  level : Level
  source : Source
  message : String
  deriving DecidableEq, Repr

/-- A line without its time. Where it comes from is of interest only to those who debug. -/
def Line.render (v : Verbosity) (l : Line) : String :=
  if v.rank < Level.debug.rank then "[" ++ l.level.name ++ "] " ++ l.message
  else "[" ++ l.level.name ++ "] [" ++ l.source.target ++ "] " ++ l.message

end Cryptoki.Log
