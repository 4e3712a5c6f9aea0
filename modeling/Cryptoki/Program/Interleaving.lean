import Cryptoki.Program.Basic

/-!
Threads that run at the same time.

Each thread is a program. A schedule names, step after step, the thread that goes on; a thread
that is done stays as it is.
-/

namespace Cryptoki

structure Threads (σ α : Type) where
  programs : List (Program α)
  world : World σ

namespace Threads

variable {σ α : Type}

/-- One step of thread `i`. -/
def step (env : Environment σ) (t : Threads σ α) (i : Nat) : Threads σ α :=
  match t.programs[i]? with
  | none => t
  | some p =>
    let (p, w) := p.step env t.world
    ⟨t.programs.set i p, w⟩

def run (env : Environment σ) (t : Threads σ α) (schedule : List Nat) : Threads σ α :=
  schedule.foldl (step env) t

/-- The result of a thread that is done. -/
def result? : Program α → Option α
  | .done a => some a
  | _ => none

/-- The results of all threads, once all are done. -/
def results? (t : Threads σ α) : Option (List α) := t.programs.mapM result?

/-- Runs each program to its end before the next one begins, which is one of the schedules. -/
def inTurn (env : Environment σ) : List (Program α) → World σ → List α × World σ
  | [], w => ([], w)
  | p :: ps, w =>
    let (a, w) := p.run env w
    let (as, w) := inTurn env ps w
    (a :: as, w)

end Threads

end Cryptoki
