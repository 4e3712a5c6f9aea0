import Cryptoki.Assoc
import Cryptoki.Environment
import Cryptoki.Files

/-!
The libraries that are installed, as the loader of the operating system finds them.

None of them is a cryptoki library: they can be opened, but have no entry point. Libraries that
the caller supplies go on beside them in an environment of their own.

Nothing that is said of modules and hosts rests on which libraries these are, or on why another one
is refused: only that none has an entry point counts.
-/

namespace Cryptoki.Installed

/-- The names that can be opened, each with the file it stands for. The empty name stands for the
running program. -/
def files : Assoc String String := [("libc.so.6", "/lib/x86_64-linux-gnu/libc.so.6"), ("", "")]

/-- The text that the loader is given for a path. A zero character ends it, so a path may have one
at its own end, and no other. -/
def handedOn (path : String) : Except String String :=
  let cs := path.toList
  let ended : Bool := cs.getLast? = some '\x00'
  let text := if ended then cs.dropLast else cs
  if text.contains '\x00' then
    .error ("could not create a C string from bytes" ++ if ended then " with trailing null" else "")
  else .ok (String.ofList text)

/-- The bytes that the header of a library takes. -/
def headerSize : Nat := 64

/-- Why something that is not installed cannot be opened. A path that is a name alone is looked
for among the installed libraries only. -/
def refusal (fs : Files) (path : String) : String :=
  let found : Except Files.Trouble Entry :=
    if path.toList.contains '/' then fs.find path
    else if Files.nameLimit < path.utf8ByteSize then .error .nameTooLong
    else .error .notFound
  match found with
  | .error t => "cannot open shared object file: " ++ t.description
  | .ok .directory => "cannot read file data: " ++ Files.Trouble.description .isADirectory
  | .ok (.file bytes) =>
    if bytes.length < headerSize then "file too short" else "invalid ELF header"

def openLibrary (fs : Files) (path : String) : Except String String := do
  let path ← handedOn path
  match files.get? path with
  | some file => return file
  | none => throw (path ++ ": " ++ refusal fs path)

def undefinedSymbol (file symbol : String) : String :=
  (if file.isEmpty then "" else file ++ ": ") ++ "undefined symbol: " ++ symbol

/-- What the caller supplies, and the installed libraries that are open, on a host. -/
structure Beside (σ : Type) where
  supplied : σ
  opened : Assoc ModuleId String
  host : Files

variable {σ : Type}

/-- Lets the supplied environment answer. -/
def defer (env : Environment σ) (r : Request) (s : Beside σ) : r.Answer × Beside σ :=
  let (x, supplied) := env.answer r s.supplied
  (x, { s with supplied })

def respond (env : Environment σ) : (r : Request) → Beside σ → r.Answer × Beside σ
  | .openLibrary .system module path, s =>
    match openLibrary s.host path with
    | .ok file => (.ok (), { s with opened := s.opened.put module file })
    | .error reason => (.error reason, s)
  | .lookUp module symbol, s =>
    match s.opened.get? module with
    | some file => (.error (undefinedSymbol file symbol), s)
    | none => defer env (.lookUp module symbol) s
  | .closeLibrary module, s =>
    match s.opened.get? module with
    | some _ => ((), { s with opened := s.opened.erase module })
    | none => defer env (.closeLibrary module) s
  | .openLibrary .supplied module path, s => defer env (.openLibrary .supplied module path) s
  | .call module c, s => defer env (.call module c) s
  | .sleep, s => defer env .sleep s

/-- The environment in which both loaders work. -/
def beside (env : Environment σ) : Environment (Beside σ) := ⟨respond env⟩

end Cryptoki.Installed
