import Cryptoki.Library.Call

/-!
What lies outside: loaders, the libraries they open, and the clock.

Everything the program cannot know is the answer to a request. An environment answers requests
from a state of its own, so that the same operation can be run against any library.
-/

namespace Cryptoki

/-- The number of a load attempt. The library opened in it and the module made of it bear the
same number. -/
abbrev ModuleId := Nat

/-- Who opens a library: the operating system, or a loader that the caller supplies. -/
inductive Loader where
  | system | supplied
  deriving DecidableEq, Repr

inductive Request where
  | openLibrary (loader : Loader) (module : ModuleId) (path : String)
  | lookUp (module : ModuleId) (symbol : String)
  | call (module : ModuleId) (call : Call)
  | closeLibrary (module : ModuleId)
  /-- Waits for the time between two looks at the slots. -/
  | sleep
  deriving DecidableEq, Repr

namespace Request

/-- A loader refuses with a diagnostic of its own. -/
@[reducible] def Answer : Request → Type
  | .openLibrary .. | .lookUp .. => Except String Unit
  | .call _ c => c.Answer
  | .closeLibrary _ | .sleep => Unit

end Request

structure Environment (σ : Type) where
  answer : (r : Request) → σ → r.Answer × σ

end Cryptoki
