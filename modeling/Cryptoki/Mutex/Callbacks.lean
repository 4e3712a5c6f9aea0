import Cryptoki.Code

/-!
The mutex callbacks offered to a library.

A library protects its own state with mutexes that it creates, locks, unlocks and destroys
through four callbacks. A reference that names no mutex is refused, and so is unlocking a mutex
that nobody holds.
-/

namespace Cryptoki

inductive Mutex where
  | free | held
  deriving DecidableEq, Repr

namespace Mutex

/-- Makes a free mutex, if there is a place to put it and memory for it. Otherwise nothing is put
there. -/
def create (place : Bool) (memory : Bool := true) : Code × Option Mutex :=
  if !place then (.argumentsBad, none)
  else if !memory then (.hostMemory, none)
  else (.ok, some .free)

def destroy : Option Mutex → Code
  | some _ => .ok
  | none => .argumentsBad

/-- Locks a mutex. `none` stands for waiting: the mutex is held. -/
def lock : Option Mutex → Option (Code × Option Mutex)
  | some .free => some (.ok, some .held)
  | some .held => none
  | none => some (.argumentsBad, none)

def unlock : Option Mutex → Code × Option Mutex
  | some .held => (.ok, some .free)
  | some .free => (.mutexNotLocked, some .free)
  | none => (.argumentsBad, none)

end Mutex

/-- What a library is given when it is initialized: which of the callbacks, and flags. -/
structure InitArgs where
  create : Bool
  destroy : Bool
  lock : Bool
  unlock : Bool
  flags : Flags
  /-- The reserved argument is set. -/
  reserved : Bool
  deriving DecidableEq, Repr

namespace InitArgs

/-- The library may use the locking of the operating system instead. -/
def osLocking : Flags := 0x2

/-- All four callbacks, and the choice of native locking. -/
def standard : InitArgs := ⟨true, true, true, true, osLocking, false⟩

/-- Callbacks are of use only if all four are there. -/
def complete (a : InitArgs) : Bool := a.create && a.destroy && a.lock && a.unlock

end InitArgs

end Cryptoki
