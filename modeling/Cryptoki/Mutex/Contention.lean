import Cryptoki.Mutex.Callbacks

/-!
Threads that count together under one mutex.

Each thread goes through its rounds: lock the mutex, read the counter, write back one more,
unlock. Each of the four is one step, and a thread whose lock would have to wait cannot step.
-/

namespace Cryptoki.Mutex

/-- Where a thread stands in its round. -/
inductive Stage where
  | outside
  | reading
  | writing (seen : Nat)
  | leaving
  deriving DecidableEq, Repr

structure Counting where
  rounds : Nat
  stage : Stage
  deriving DecidableEq, Repr

structure Contention where
  mutex : Mutex
  counter : Nat
  threads : List Counting
  /-- What unlocking returned, the latest first. -/
  unlocked : List Code
  deriving DecidableEq, Repr

namespace Contention

def start (threads rounds : Nat) : Contention :=
  ⟨.free, 0, List.replicate threads ⟨rounds, .outside⟩, []⟩

/-- One step of thread `i`, if it has one to make now. -/
def step (c : Contention) (i : Nat) : Option Contention :=
  match c.threads[i]? with
  | none => none
  | some t =>
    match t.stage with
    | .outside =>
      match t.rounds, lock (some c.mutex) with
      | n + 1, some (_, some m) =>
        some { c with mutex := m, threads := c.threads.set i ⟨n, .reading⟩ }
      | _, _ => none
    | .reading => some { c with threads := c.threads.set i { t with stage := .writing c.counter } }
    | .writing seen =>
      some { c with counter := seen + 1, threads := c.threads.set i { t with stage := .leaving } }
    | .leaving =>
      match unlock (some c.mutex) with
      | (code, m) =>
        some { c with
          mutex := m.getD c.mutex
          threads := c.threads.set i { t with stage := .outside }
          unlocked := code :: c.unlocked }

/-- Steps in the order of a schedule; what cannot be done is skipped. -/
def run (c : Contention) (schedule : List Nat) : Contention :=
  schedule.foldl (fun c i => (c.step i).getD c) c

/-- Every thread has done its rounds. -/
def finished (c : Contention) : Bool := c.threads.all fun t => t = ⟨0, .outside⟩

/-- Each thread takes all its steps before the next one begins. -/
def inTurn (threads rounds : Nat) : List Nat :=
  (List.range threads).flatMap fun i => List.replicate (4 * rounds) i

end Contention

end Cryptoki.Mutex
