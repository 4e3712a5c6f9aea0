import Cryptoki.CommandLine.Parse
import Cryptoki.Library.Installed
import Cryptoki.Probe.Report
import Cryptoki.Settings.Logging

/-!
A whole run of the probe: from the arguments to the exit code and what is written.

A run reads at most one file, opens at most one log and looks for one library. What these are is
for the caller to provide, so that the same run can be had in any world.
-/

namespace Cryptoki.Probe

/-- The name under which the probe reports failures. -/
def title : String := "PKCS#11 Module Probe"

def versionText : String := "p11bridge 0.1.0-dev"

structure Exit where
  code : UInt8
  stdout : List String
  stderr : List String
  /-- The log other than the standard error that lines went to, and these lines. -/
  log : Option (LogTarget × List String)
  deriving DecidableEq, Repr

namespace Exit

/-- A run that ended before a command was run. -/
def refused (said : List String) (message : String) : Exit := ⟨1, [], said ++ [message], none⟩

/-- Help and version are told on request; all other usage is an error. -/
def ofUsage : CommandLine.Usage → Exit
  | .helpWanted => ⟨0, CommandLine.Usage.help, [], none⟩
  | .versionWanted => ⟨0, [versionText], [], none⟩
  | .nothingGiven => ⟨2, [], CommandLine.Usage.help, none⟩
  | u => ⟨2, [], [u.message], none⟩

end Exit

/-- The lines of a log that the verbosity admits, in the order in which they were written. -/
def visible (v : Log.Verbosity) (journal : List Log.Line) : List String :=
  (journal.reverse.filter fun l => v.admits l.level).map (·.render v)

/-- What is written in the end. -/
def conclude (said : List String) (s : Settings) (target : LogTarget)
    (result : Except Failure Report) (journal : List Log.Line) : Exit :=
  let lines := visible s.verbosity journal
  let (shown, log) := match target with
    | .stderr => (lines, none)
    | t => ([], some (t, lines))
  match result with
  | .ok report => ⟨0, report, said ++ shown, log⟩
  | .error f => ⟨1, [], said ++ shown ++ [title ++ ": " ++ f.text], log⟩

/-- A world in which nobody supplies libraries. -/
def nobody : Environment Unit := ⟨fun r s => (none r, s)⟩
where
  none : (r : Request) → r.Answer
    | .openLibrary _ _ path => .error (path ++ ": cannot open shared object file")
    | .lookUp _ symbol => .error (Installed.undefinedSymbol "" symbol)
    | .call _ c => unsupported c
    | .closeLibrary _ | .sleep => ()
  unsupported : (c : Call) → c.Answer
    | .getFunctionList _ | .getInfo _ | .getSlotList .. | .getSlotInfo .. | .getTokenInfo ..
    | .waitForSlotEvent .. | .openSession .. => ⟨.functionNotSupported, .none⟩
    | .init _ | .finalize _ | .closeSession _ | .login .. | .logout _ => .functionNotSupported

/-- Runs a command in a new process that finds only the installed libraries. None of them can be
loaded, so no command comes to wait. -/
def execute (host : Files) (s : Settings) (c : CommandLine.Command) :
    Except Failure Report × List Log.Line :=
  let (r, w) := (run .system s c 0).run (Installed.beside nobody) (World.initial ⟨(), [], host⟩)
  (r.getD (.error (.other "still waiting")), w.journal)

/-- Opens a log. -/
def openLog {m : Type → Type} [Monad m] (openFile : String → m (Except String Unit))
    (knock : SystemLog → m (Except String Unit)) : LogTarget → m (Except Settings.Problem Unit)
  | .stderr => return .ok ()
  | .file path => do
    match ← openFile path with
    | .ok () => return .ok ()
    | .error reason => return .error (LogTarget.cannotOpen path reason)
  | .syslog _ => SystemLog.connect knock

/-- Runs the probe with arguments. The host is where libraries are looked for, and knocking is how a
way to the system log is found. -/
def performWith {m : Type → Type} [Monad m] (readFile : String → m (Except String Bytes))
    (openFile : String → m (Except String Unit)) (knock : SystemLog → m (Except String Unit))
    (host : m Files) (v : Settings.Variables) (args : List String) : m Exit := do
  match CommandLine.parse args with
  | .error u => return .ofUsage u
  | .ok o =>
    let content ← match o.general.settingsFile with
      | some file => readFile file
      | none => pure (.ok [])
    let outcome := o.general.settings v fun _ => content
    let target := do
      let s ← outcome.result
      return (s, ← s.logTarget)
    match target with
    | .error p => return .refused outcome.said p.text
    | .ok (s, target) =>
      match ← openLog openFile knock target with
      | .error p => return .refused outcome.said p.text
      | .ok () =>
        let (result, journal) := execute (← host) s o.command
        return conclude outcome.said s target result journal

/-- Runs the probe where all ways to the system log are open. -/
def perform {m : Type → Type} [Monad m] (readFile : String → m (Except String Bytes))
    (openFile : String → m (Except String Unit)) (host : m Files) (v : Settings.Variables)
    (args : List String) : m Exit :=
  performWith readFile openFile (fun _ => return .ok ()) host v args

end Cryptoki.Probe
