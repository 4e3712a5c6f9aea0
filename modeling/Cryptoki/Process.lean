import Cryptoki.Environment
import Cryptoki.Handle.Table
import Cryptoki.Session.Table

/-!
What the process keeps: two registries of handles, and the modules that are alive.

A module lives for as long as somebody refers to it: the registry, an operation under way, or a
host that holds it. Operations reach this state only through the accesses below, each of which
happens as a whole.
-/

namespace Cryptoki

/-- A module as its users see it. Nothing in it changes for as long as the module lives. -/
structure Module where
  id : ModuleId
  /-- The path it was loaded from. -/
  name : String
  functions : FunctionList
  info : LibraryInfo
  deriving DecidableEq, Repr

/-- A slot of the module registered under a handle. -/
structure Slot where
  id : SlotId
  module : Handle
  deriving DecidableEq, Repr

/-- What users of a live module share. -/
structure Share where
  references : Nat
  sessions : Sessions
  deriving DecidableEq, Repr

structure Process where
  modules : Handle.Table Module
  slots : Handle.Table Slot
  /-- The live modules. -/
  shares : Assoc ModuleId Share
  /-- How often a load has been tried. -/
  attempts : Nat
  /-- References to the subsystem that loads libraries. -/
  loading : Nat

namespace Process

def moduleTag : UInt16 := 0x4d31

def slotTag : UInt16 := 0x5331

def initial : Process :=
  { modules := .empty moduleTag "module" (by decide)
    slots := .empty slotTag "slot" (by decide)
    shares := []
    attempts := 0
    loading := 0 }

inductive Access where
  /-- Numbers a load attempt. -/
  | newModule
  /-- Brings a loaded module to life, with one reference to it. -/
  | adopt (module : ModuleId)
  /-- Registers a module, which hands one reference over to the registry. -/
  | insertModule (module : Module)
  /-- Finds a module and takes a reference to it. -/
  | resolveModule (handle : Handle)
  /-- Takes a module out of the registry together with the reference the registry had. -/
  | removeModule (handle : Handle)
  /-- Gives one reference back, and says whether it was the last. -/
  | release (module : ModuleId)
  /-- Ends the life of a module. -/
  | discard (module : ModuleId)
  | insertSlot (slot : Slot)
  | resolveSlot (handle : Handle)
  | removeSlot (handle : Handle)
  /-- Takes out all slots of the module under a handle, and counts them. -/
  | removeSlotsOf (module : Handle)
  | sessions (module : ModuleId) (access : Sessions.Access)
  /-- Takes a reference to the loading subsystem, and says whether it is the first. -/
  | acquireLoading
  /-- Gives a reference to the loading subsystem back, and says whether none is left. -/
  | releaseLoading
  deriving DecidableEq, Repr

namespace Access

@[reducible] def Answer : Access → Type
  | .newModule => ModuleId
  | .adopt _ | .discard _ => Unit
  | .insertModule _ | .insertSlot _ => Handle
  | .resolveModule _ | .removeModule _ => Except Fault Module
  | .release _ | .acquireLoading | .releaseLoading => Bool
  | .resolveSlot _ | .removeSlot _ => Except Fault Slot
  | .removeSlotsOf _ => Nat
  | .sessions _ a => a.Answer

/-- What users of a module share; a module that is not alive has no sessions. -/
def share (p : Process) (m : ModuleId) : Share := (p.shares.get? m).getD ⟨0, .empty⟩

def retain (p : Process) (m : ModuleId) : Process :=
  let s := share p m
  { p with shares := p.shares.put m { s with references := s.references + 1 } }

def apply (p : Process) : (a : Access) → a.Answer × Process
  | .newModule => (p.attempts, { p with attempts := p.attempts + 1 })
  | .adopt m => ((), { p with shares := p.shares.put m ⟨1, .empty⟩ })
  | .insertModule m =>
    let (h, t) := p.modules.insert m
    (h, { p with modules := t })
  | .resolveModule h =>
    match p.modules.resolve h with
    | .ok m => (.ok m, retain p m.id)
    | .error f => (.error f, p)
  | .removeModule h =>
    let (r, t) := p.modules.remove h
    (r, { p with modules := t })
  | .release m =>
    let s := share p m
    let left := s.references - 1
    (left == 0, { p with shares := p.shares.put m { s with references := left } })
  | .discard m => ((), { p with shares := p.shares.erase m })
  | .insertSlot s =>
    let (h, t) := p.slots.insert s
    (h, { p with slots := t })
  | .resolveSlot h => (p.slots.resolve h, p)
  | .removeSlot h =>
    let (r, t) := p.slots.remove h
    (r, { p with slots := t })
  | .removeSlotsOf h =>
    let (gone, t) := p.slots.removeWhere fun s => s.module == h
    (gone.length, { p with slots := t })
  | .sessions m a =>
    let s := share p m
    let (r, t) := a.apply s.sessions
    (r, { p with shares := p.shares.put m { s with sessions := t } })
  | .acquireLoading => (p.loading == 0, { p with loading := p.loading + 1 })
  | .releaseLoading =>
    let left := p.loading - 1
    (left == 0, { p with loading := left })

end Access

end Process

end Cryptoki
