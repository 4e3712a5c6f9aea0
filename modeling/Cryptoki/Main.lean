import Cryptoki.Probe.Exit

/-!
The probe as a program.

All that happens here is reading and writing; what is to be read and written is decided
elsewhere. No way leads from here to the system log, so lines that are meant for it are lost.
-/

namespace Cryptoki.Main

/-- What the operating system says, with the number of the error, which may come with its sign
changed. -/
def numbered (details : String) (number : UInt32) : String :=
  let n := if number < 0x80000000 then number else 0 - number
  s!"{details.capitalize} (os error {n})"

/-- The reason for which a file cannot be used. -/
def reason : IO.Error → String
  | .noFileOrDirectory _ number details => numbered details number
  | .permissionDenied _ number details => numbered details number
  | .inappropriateType _ number details => numbered details number
  | .invalidArgument _ number details => numbered details number
  | .resourceExhausted _ number details => numbered details number
  | .alreadyExists _ number details => numbered details number
  | .otherError number details => numbered details number
  | e => e.toString

def readFile (path : String) : IO (Except String Bytes) := do
  try
    let bytes ← IO.FS.readBinFile path
    return .ok bytes.toList
  catch e => return .error (reason e)

def openFile (path : String) : IO (Except String Unit) := do
  try
    let _ ← IO.FS.Handle.mk path .append
    return .ok ()
  catch e => return .error (reason e)

def writeLog (target : LogTarget) (lines : List String) : IO Unit :=
  match target with
  | .file path => do
    let h ← IO.FS.Handle.mk path .append
    lines.forM fun l => h.putStrLn l
  | _ => return ()

def fromProcess : IO Settings.Variables := do
  return ⟨← IO.getEnv Settings.Variables.logLevelName, ← IO.getEnv Settings.Variables.userPinName⟩

end Cryptoki.Main

/-- Runs the probe with the arguments of the process. -/
def main (args : List String) : IO UInt32 := do
  let v ← Cryptoki.Main.fromProcess
  let host := pure (Cryptoki.Files.standard [])
  let e ← Cryptoki.Probe.perform Cryptoki.Main.readFile Cryptoki.Main.openFile host v args
  if let some (target, lines) := e.log then
    Cryptoki.Main.writeLog target lines
  e.stderr.forM fun l => IO.eprintln l
  e.stdout.forM fun l => IO.println l
  return e.code.toUInt32
