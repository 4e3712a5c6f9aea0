import Cryptoki.Files
import Cryptoki.Settings.Basic

/-!
Setting up the log that the settings ask for. A process sets up its log only once.
-/

namespace Cryptoki

/-- The parts of a system that the system log tells apart. -/
def facilities : List String :=
  ["kern", "user", "mail", "daemon", "auth", "syslog", "lpr", "news", "uucp", "cron", "authpriv",
   "ftp", "ntp", "audit", "alert", "clock_daemon", "local0", "local1", "local2", "local3", "local4",
   "local5", "local6", "local7"]

/-- The letter of lower case; among the letters outside ASCII, the sign for kelvin has one that
is in ASCII. -/
def lowerCase (c : Char) : Char := if c = '\u212A' then 'k' else c.toLower

/-- A facility by its name in upper or lower case, with or without a prefix. -/
def facility? (s : String) : Option String :=
  facilities.find? fun name =>
    let t := s.toList.map lowerCase
    t = name.toList || t = "log_".toList ++ name.toList

/-- The ways to the system log, in the order in which they are tried. -/
inductive SystemLog where
  | unix | tcp | udp
  deriving DecidableEq, Repr

namespace SystemLog

def cannotConnect (reason : String) : Settings.Problem :=
  .other ("Cannot connect to syslog: " ++ reason)

/-- Goes the first way that opens when knocked at. If none does, what is in the way of the last one
is told. -/
def connect {m : Type → Type} [Monad m] (knock : SystemLog → m (Except String Unit)) :
    m (Except Settings.Problem Unit) := do
  if let .ok () ← knock .unix then return .ok ()
  if let .ok () ← knock .tcp then return .ok ()
  match ← knock .udp with
  | .ok () => return .ok ()
  | .error reason => return .error (cannotConnect reason)

end SystemLog

inductive LogTarget where
  | stderr
  | file (path : String)
  | syslog (facility : String)
  deriving DecidableEq, Repr

namespace LogTarget

def alreadySet : String :=
  "attempted to set a logger after the logging system was already initialized"

def cannotOpen (path reason : String) : Settings.Problem :=
  .other ("Failed to open log file '" ++ path ++ "': " ++ reason)

/-- What comes of setting up a log once its target is open. -/
def install (t : LogTarget) (taken : Bool) : Except Settings.Problem Unit :=
  if taken then
    let goal := match t with
      | .stderr => "stderr logging"
      | .file _ => "file logging"
      | .syslog _ => "syslog"
    .error (.other ("Failed to init " ++ goal ++ ": " ++ alreadySet))
  else .ok ()

/-- Sets up a log in a process that may have one already. Even if that fails, the file may have
been made. -/
def start (t : LogTarget) (taken : Bool) (fs : Files)
    (knock : SystemLog → Except String Unit := fun _ => .ok ()) :
    Except Settings.Problem Unit × Files :=
  match t with
  | .stderr => (t.install taken, fs)
  | .file path =>
    match fs.append path [] with
    | .error trouble => (.error (cannotOpen path trouble.text), fs)
    | .ok fs => (t.install taken, fs)
  | .syslog _ =>
    match Id.run (SystemLog.connect fun way => pure (knock way)) with
    | .error p => (.error p, fs)
    | .ok () => (t.install taken, fs)

end LogTarget

def Settings.logTarget (s : Settings) : Except Settings.Problem LogTarget :=
  match s.logKind with
  | .stderr => .ok .stderr
  | .file => .ok (.file s.logFile)
  | .syslog =>
    match facility? s.syslogFacility with
    | some name => .ok (.syslog name)
    | none => .error (.other "Invalid syslog_facility")

end Cryptoki
