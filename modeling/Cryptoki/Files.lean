import Cryptoki.Assoc
import Cryptoki.Word

/-!
A file system, as far as a program that reads and appends to files can tell.

Every operation walks from the root, or from the current directory, along the names in a path. A
name can be looked up in a directory only, also when it stands for the directory itself or for
the one around it.
-/

namespace Cryptoki

/-- The names on the way from the root. -/
abbrev Place := List String

inductive Entry where
  | directory
  | file (bytes : Bytes)
  deriving DecidableEq, Repr

structure Files where
  entries : Assoc Place Entry
  current : Place
  deriving DecidableEq, Repr

namespace Files

/-- Why a file cannot be read or written. -/
inductive Trouble where
  | notFound | notADirectory | isADirectory | nameTooLong | zeroInName
  deriving DecidableEq, Repr

namespace Trouble

def description : Trouble → String
  | .notFound => "No such file or directory"
  | .notADirectory => "Not a directory"
  | .isADirectory => "Is a directory"
  | .nameTooLong => "File name too long"
  | .zeroInName => "file name contained an unexpected NUL byte"

/-- What the operating system calls it. A path with a zero character never gets there. -/
def number? : Trouble → Option Nat
  | .notFound => some 2
  | .notADirectory => some 20
  | .isADirectory => some 21
  | .nameTooLong => some 36
  | .zeroInName => none

def text (t : Trouble) : String :=
  match t.number? with
  | some n => s!"{t.description} (os error {n})"
  | none => t.description

end Trouble

/-! ### Paths -/

/-- Limits to the bytes of a name and of a path. -/
def nameLimit : Nat := 255
def pathLimit : Nat := 4095

/-- What stands between slashes. -/
def pieces : List Char → List (List Char)
  | [] => [[]]
  | c :: cs =>
    if c = '/' then [] :: pieces cs
    else match pieces cs with
      | [] => [[c]]
      | p :: ps => (c :: p) :: ps

def names (path : String) : List String :=
  ((pieces path.toList).filter (· ≠ [])).map String.ofList

/-- A path with a slash at its end leads to a directory or nowhere. -/
def asksDirectory (path : String) : Bool := path.toList.getLast? = some '/'

/-- The name stands for a directory that is known already. -/
def isDots (name : String) : Bool := name = "." || name = ".."

/-! ### Walks -/

variable (fs : Files)

def requireDirectory (place : Place) : Except Trouble Unit :=
  match fs.entries.get? place with
  | some .directory => .ok ()
  | some (.file _) => .error .notADirectory
  | none => .error .notFound

/-- One step of a walk. Nothing need be at the place where it ends. -/
def enter (place : Place) (name : String) : Except Trouble Place := do
  fs.requireDirectory place
  if name = "." then return place
  else if name = ".." then return place.dropLast
  else if nameLimit < name.utf8ByteSize then throw .nameTooLong
  else return place ++ [name]

/-- Where the walk along a path begins. -/
def origin (path : String) : Except Trouble Place :=
  if path.toList.contains '\x00' then .error .zeroInName
  else if path.isEmpty then .error .notFound
  else if pathLimit < path.utf8ByteSize then .error .nameTooLong
  else .ok (if path.toList.head? = some '/' then [] else fs.current)

/-- What a path leads to. -/
def find (path : String) : Except Trouble Entry := do
  let place ← (names path).foldlM fs.enter (← fs.origin path)
  match fs.entries.get? place with
  | none => throw .notFound
  | some .directory => return .directory
  | some (.file bytes) =>
    if asksDirectory path then throw .notADirectory else return .file bytes

def contains (path : String) : Bool := (fs.find path).isOk

def read (path : String) : Except Trouble Bytes := do
  match ← fs.find path with
  | .directory => throw .isADirectory
  | .file bytes => return bytes

/-- Appends to a file, which is made if there is none. What cannot be the name of a file is not
even looked up. -/
def append (path : String) (bytes : Bytes) : Except Trouble Files := do
  let start ← fs.origin path
  let ns := names path
  if asksDirectory path && ns.getLast?.any (!isDots ·) then
    fs.requireDirectory (← ns.dropLast.foldlM fs.enter start)
    throw .isADirectory
  else
    let place ← ns.foldlM fs.enter start
    let write (whole : Bytes) : Files := { fs with entries := fs.entries.put place (.file whole) }
    match fs.entries.get? place with
    | none => return write bytes
    | some .directory => throw .isADirectory
    | some (.file before) => return write (before ++ bytes)

/-! ### Hosts -/

/-- A directory together with those it lies in. -/
def withDirectory (place : Place) : Files :=
  let parents := (List.range (place.length + 1)).map place.take
  { fs with entries := parents.foldl (fun es p => es.put p .directory) fs.entries }

def withFile (place : Place) (bytes : Bytes) : Files :=
  let fs := fs.withDirectory place.dropLast
  { fs with entries := fs.entries.put place (.file bytes) }

/-- A host without files of ours. -/
def standard (current : Place) : Files :=
  let directories : List Place :=
    [["dev"], ["etc"], ["home"], ["proc"], ["root"], ["tmp"], ["usr", "lib"], ["var", "log"], current]
  let fs := directories.foldl withDirectory ⟨[], current⟩
  fs.withFile ["dev", "null"] []

end Files

end Cryptoki
