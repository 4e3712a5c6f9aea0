import Cryptoki.Program.Basic

/-!
How a module comes to life and how it ends.

A load opens the library, finds its entry point, fetches and checks its function list,
initializes it and asks what it is. The first step that fails ends the load, and everything done
up to then is undone. A module ends when its last reference is given back: the library is
finalized and closed, and the loading subsystem released.
-/

namespace Cryptoki

namespace Loading

def acquire : Program Unit := do
  if ← Program.touch .acquireLoading then
    Program.say .debug .library "Initializing dynamic library loading"

def release : Program Unit := do
  if ← Program.touch .releaseLoading then
    Program.say .debug .library "Shutting down dynamic library loading"

end Loading

namespace Module

open Program

/-- A function of the module under this name has returned another code than success. -/
def failed (name : String) (f : Function) (code : Code) : Fault :=
  .pkcs11 code (f.name ++ " in PKCS#11 module " ++ name ++ " failed")

/-- The function list of a library, unless there is none or it lacks what none may lack. -/
def checkFunctions (name : String) : Option FunctionList → Except Fault FunctionList
  | none =>
    .error (.moduleLoad name (Function.entryPoint.name ++ " returned no function list"))
  | some l =>
    match l.missing? with
    | some f => .error (.moduleLoad name ("function " ++ f.name ++ " is not provided"))
    | none => .ok l

/-- Initializes an open library whose functions are known, and asks what it is. A library that
was initialized and then fails to tell is finalized again. -/
def begin (id : ModuleId) (name : String) (functions : FunctionList) :
    Program (Except Fault Module) := do
  let started : Code ← call id (.init (some .standard))
  if started ≠ .ok then
    return .error (failed name .init started)
  let told : Reply Record.Library ← call id (.getInfo true)
  if told.code ≠ .ok then
    let _ : Code ← call id (.finalize false)
    return .error (failed name .getInfo told.code)
  let info := LibraryInfo.ofRecord (told.written.getD .blank)
  say .info .module ("Loaded PKCS#11 module " ++ name ++ ": " ++ info.text)
  touch (.adopt id)
  return .ok ⟨id, name, functions, info⟩

/-- Makes a module of an open library. -/
def ofLibrary (id : ModuleId) (name : String) : Program (Except Fault Module) := do
  let entry := Function.entryPoint.name
  match ← ask (.lookUp id entry) with
  | .error reason =>
    say .error .module ("Cannot find " ++ entry ++ " in PKCS#11 module " ++ name ++ ": " ++ reason)
    return .error (.missingEntryPoint name entry)
  | .ok () =>
    let listed : Reply FunctionList ← call id (.getFunctionList true)
    if listed.code ≠ .ok then
      return .error (failed name .getFunctionList listed.code)
    match checkFunctions name listed.written with
    | .error f => return .error f
    | .ok functions => begin id name functions

/-- Loads the library at a path. The module begins with one reference, the caller's. -/
def load (loader : Loader) (path : String) : Program (Except Fault Module) := do
  Loading.acquire
  let id : ModuleId ← touch .newModule
  match ← ask (.openLibrary loader id path) with
  | .error reason =>
    say .error .module ("Cannot open PKCS#11 module " ++ path ++ ": " ++ reason)
    Loading.release
    return .error (.moduleLoad path reason)
  | .ok () =>
    match ← ofLibrary id path with
    | .ok m => return .ok m
    | .error f =>
      ask (.closeLibrary id)
      Loading.release
      return .error f

/-- Ends a module that nobody refers to any more. -/
def tearDown (m : Module) : Program Unit := do
  let left : Nat ← touch (.sessions m.id .size)
  if left > 0 then
    say .debug .module s!"Unloading PKCS#11 module {m.name} with {left} open session(s)"
  let code : Code ← call m.id (.finalize false)
  if code ≠ .ok then
    say .warn .module ("C_Finalize in PKCS#11 module " ++ m.name ++ " failed: " ++ code.name)
  say .info .module ("Unloaded PKCS#11 module " ++ m.name)
  touch (.discard m.id)
  ask (.closeLibrary m.id)
  Loading.release

/-- Gives a reference back. The last one ends the module. -/
def release (m : Module) : Program Unit := do
  if ← touch (.release m.id) then
    m.tearDown

end Module

end Cryptoki
