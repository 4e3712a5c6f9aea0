import Cryptoki.CommandLine.Options

/-!
Reading the arguments of the probe.

Arguments are read from left to right. An option that is still without its value takes the next
argument that is no option itself; the value is checked only when another option comes or the
arguments end. General options stand before the command, those of a command after it.

What is said of settings and commands is said of any options, so it does not matter there how they
are read.
-/

namespace Cryptoki.CommandLine

/-- Why there are no options to be used. -/
inductive Usage where
  | helpWanted
  | versionWanted
  /-- Nothing at all is given. -/
  | nothingGiven
  | missingCommand
  | unknownCommand
  | unknownArgument
  /-- An option has no value, or an empty one where there must be something. -/
  | noValue
  /-- A flag has a value. -/
  | valueForFlag
  | invalidValue
  /-- An option is given twice. -/
  | repeated
  deriving DecidableEq, Repr

namespace Usage

/-- How the probe is called. -/
def help : List String :=
  ["Loads a PKCS#11 module and checks that it can be used.",
   "",
   "Usage: p11probe [OPTIONS] <COMMAND>",
   "",
   "Commands:",
   "  info     Show what the library reports about itself",
   "  slots    List the slots and the tokens in them (--token-present: only these)",
   "  wait     Wait until a token is inserted and show its slot",
   "  session  Open a session, log in and out, and close it again (--read-write, --no-login)",
   "  help     Show this text",
   "",
   "Options:",
   "  -c, --config <path>       Read the config from this file",
   "  -l, --lib-path <path>     Path to the PKCS#11 library, overriding the config",
   "  -s, --slot <id or label>  Slot id or token label, overriding the config",
   "      --log-level <level>   The log level, overriding the config",
   "      --log-type <target>   Where to log to: stderr, file or syslog",
   "  -v, --verbose             Log at debug level unless a log level is given",
   "  -h, --help                Show this text",
   "  -V, --version             Show the version"]

/-- What is wrong, in words. -/
def message : Usage → String
  | .helpWanted | .versionWanted | .nothingGiven => ""
  | .missingCommand => "error: a command is missing"
  | .unknownCommand => "error: there is no such command"
  | .unknownArgument => "error: there is no such option, or an argument too many"
  | .noValue => "error: an option has no value"
  | .valueForFlag => "error: a flag has a value"
  | .invalidValue => "error: an option has an invalid value"
  | .repeated => "error: an option is given twice"

end Usage

inductive OptionName where
  | configFile | libraryPath | slot | logLevel | logType | verbose
  | tokenPresent
  | readWrite | noLogin
  | help | version
  deriving DecidableEq, Repr

namespace OptionName

def long : OptionName → String
  | .configFile => "config"
  | .libraryPath => "lib-path"
  | .slot => "slot"
  | .logLevel => "log-level"
  | .logType => "log-type"
  | .verbose => "verbose"
  | .tokenPresent => "token-present"
  | .readWrite => "read-write"
  | .noLogin => "no-login"
  | .help => "help"
  | .version => "version"

def short? : OptionName → Option Char
  | .configFile => some 'c'
  | .libraryPath => some 'l'
  | .slot => some 's'
  | .verbose => some 'v'
  | .help => some 'h'
  | .version => some 'V'
  | _ => none

def takesValue : OptionName → Bool
  | .configFile | .libraryPath | .slot | .logLevel | .logType => true
  | _ => false

/-- Whether an option may have the value. -/
def check (o : OptionName) (value : String) : Except Usage Unit :=
  match o with
  | .configFile | .libraryPath => if value.isEmpty then .error .noValue else .ok ()
  | .logLevel => if (Log.Verbosity.ofName? value).isSome then .ok () else .error .invalidValue
  | .logType => if (LogKind.ofName value).toOption.isSome then .ok () else .error .invalidValue
  | .help => .error .helpWanted
  | .version => .error .versionWanted
  | _ => .ok ()

end OptionName

/-- The words that follow the general options. -/
inductive Keyword where
  | info | slots | wait | session | help
  deriving DecidableEq, Repr

def Keyword.text : Keyword → String
  | .info => "info"
  | .slots => "slots"
  | .wait => "wait"
  | .session => "session"
  | .help => "help"

def Keyword.all : List Keyword := [.info, .slots, .wait, .session, .help]

def keyword? (arg : String) : Option Keyword := Keyword.all.find? fun w => w.text = arg

/-- What may be given at some place: options, and keywords if it is before the command. -/
structure Scope where
  options : List OptionName
  keywords : Bool

def general : Scope :=
  ⟨[.configFile, .libraryPath, .slot, .logLevel, .logType, .verbose, .help, .version], true⟩

def Keyword.scope : Keyword → Scope
  | .slots => ⟨[.tokenPresent, .help], false⟩
  | .session => ⟨[.readWrite, .noLogin, .help], false⟩
  | _ => ⟨[.help], false⟩

/-- The options given so far, and the one whose value is still awaited or unchecked. -/
structure Reading where
  given : List (OptionName × String)
  pending : Option (OptionName × Option String)
  deriving DecidableEq, Repr

namespace Reading

def start : Reading := ⟨[], none⟩

def awaitsValue (r : Reading) : Bool :=
  match r.pending with
  | some (_, none) => true
  | _ => false

/-- Takes an option with its value. -/
def accept (r : Reading) (o : OptionName) (value : String) : Except Usage Reading :=
  if (r.given.lookup o).isSome then .error .repeated
  else do
    o.check value
    return { r with given := r.given ++ [(o, value)] }

/-- Takes the option that is pending, if there is one. -/
def settle (r : Reading) : Except Usage Reading :=
  match r.pending with
  | none => .ok r
  | some (_, none) => .error .noValue
  | some (o, some value) => accept { r with pending := none } o value

/-- Takes an option whose value is known. -/
def add (r : Reading) (o : OptionName) (value : String) : Except Usage Reading := do
  let r ← r.settle
  r.accept o value

/-- Takes an option whose value is in the argument to come. -/
def await (r : Reading) (o : OptionName) : Except Usage Reading := do
  let r ← r.settle
  return { r with pending := some (o, none) }

/-- Takes the argument that is awaited. -/
def fill (r : Reading) (value : String) : Reading :=
  { r with pending := r.pending.map fun (o, _) => (o, some value) }

end Reading

/-- An option by its name, with the value that is attached to it. -/
def readLong (s : Scope) (r : Reading) (name : String) (attached : Option String) :
    Except Usage Reading :=
  match s.options.find? fun o => o.long = name with
  | none => .error .unknownArgument
  | some o =>
    if o.takesValue then
      match attached with
      | some value => r.add o value
      | none => r.await o
    else if attached.isSome then .error .valueForFlag
    else r.add o ""

/-- Flags by their letters. A letter that takes a value takes all that follows it. -/
def readShort (s : Scope) (r : Reading) : List Char → Except Usage Reading
  | [] => .ok r
  | c :: cs =>
    match s.options.find? fun o => o.short? = some c with
    | none => .error .unknownArgument
    | some o =>
      if o.takesValue then
        match cs with
        | [] => r.await o
        | '=' :: value => r.add o (String.ofList value)
        | value => r.add o (String.ofList value)
      else do
        let r ← r.add o ""
        readShort s r cs

/-- Splits an argument at the first equals sign. -/
def splitValue (cs : List Char) : String × Option String :=
  match cs.span (· ≠ '=') with
  | (name, _ :: value) => (String.ofList name, some (String.ofList value))
  | (name, []) => (String.ofList name, none)

/-- An argument that is no option and no value. -/
def stray (s : Scope) : Usage := if s.keywords then .unknownCommand else .unknownArgument

/-- The first argument after two dashes. No option and no keyword is looked for there. -/
def afterDashes (s : Scope) (arg : String) : Usage :=
  if s.keywords ∧ (keyword? arg).isNone then .unknownCommand else .unknownArgument

/-- Reads arguments up to a keyword, if one comes. -/
def read (s : Scope) (r : Reading) :
    List String → Except Usage (Reading × Option (Keyword × List String))
  | [] => .ok (r, none)
  | arg :: rest =>
    let w := if s.keywords ∧ !r.awaitsValue then keyword? arg else none
    match w, arg.toList with
    | some w, _ => .ok (r, some (w, rest))
    | none, ['-', '-'] =>
      match rest with
      | [] => .ok (r, none)
      | next :: _ => .error (afterDashes s next)
    | none, '-' :: '-' :: cs => do
      let r ← readLong s r (splitValue cs).1 (splitValue cs).2
      read s r rest
    | none, '-' :: c :: cs => do
      let r ← readShort s r (c :: cs)
      read s r rest
    | none, _ => if r.awaitsValue then read s (r.fill arg) rest else .error (stray s)

/-- Help is to be had for the whole and for each command. -/
def readHelp : List String → Usage
  | [] => .helpWanted
  | [arg] => if (keyword? arg).isSome then .helpWanted else .unknownCommand
  | _ => .unknownCommand

def generalOf (r : Reading) : General :=
  { configFile := r.given.lookup .configFile
    libraryPath := r.given.lookup .libraryPath
    slot := (r.given.lookup .slot).map SlotSelector.ofText
    verbosity := (r.given.lookup .logLevel).bind Log.Verbosity.ofName?
    logKind := (r.given.lookup .logType).bind fun s => (LogKind.ofName s).toOption
    verbose := (r.given.lookup .verbose).isSome }

def commandOf (w : Keyword) (r : Reading) : Command :=
  match w with
  | .slots => .slots (r.given.lookup .tokenPresent).isSome
  | .wait => .wait
  | .session =>
    .session (r.given.lookup .readWrite).isSome (r.given.lookup .noLogin).isSome
  | _ => .info

/-- The options that some arguments give. What is wrong with those of the command comes first. -/
def parse (args : List String) : Except Usage Options := do
  match ← read general .start args with
  | (r, none) =>
    let r ← r.settle
    throw (if r.given.isEmpty then .nothingGiven else .missingCommand)
  | (_, some (.help, rest)) => throw (readHelp rest)
  | (r, some (w, rest)) =>
    let (inner, _) ← read w.scope .start rest
    let inner ← inner.settle
    let r ← r.settle
    return ⟨generalOf r, commandOf w inner⟩

end Cryptoki.CommandLine
