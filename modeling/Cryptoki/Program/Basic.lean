import Cryptoki.Log
import Cryptoki.Process

/-!
Operations as programs of small steps.

A program asks the environment, accesses the process, writes a line to the log, or is done. It is
plain data, so that one definition can be run on its own, run against any environment, or be
interleaved step by step with others.
-/

namespace Cryptoki

inductive Program (α : Type) where
  | done (a : α)
  | request (r : Request) (next : r.Answer → Program α)
  | access (a : Process.Access) (next : a.Answer → Program α)
  | log (line : Log.Line) (next : Program α)

/-- The process, what lies outside it, and the log, the latest line first. -/
structure World (σ : Type) where
  process : Process
  outside : σ
  journal : List Log.Line

def World.initial {σ : Type} (outside : σ) : World σ := ⟨.initial, outside, []⟩

namespace Program

variable {α β σ : Type}

def bind : Program α → (α → Program β) → Program β
  | .done a, f => f a
  | .request r next, f => .request r fun x => (next x).bind f
  | .access a next, f => .access a fun x => (next x).bind f
  | .log l next, f => .log l (next.bind f)

instance : Monad Program where
  pure := .done
  bind := bind

def ask (r : Request) : Program r.Answer := .request r .done

def touch (a : Process.Access) : Program a.Answer := .access a .done

/-- Calls a function of a library. -/
def call (m : ModuleId) (c : Call) : Program c.Answer := ask (.call m c)

def say (level : Log.Level) (source : Log.Source) (message : String) : Program Unit :=
  .log ⟨level, source, message⟩ (.done ())

/-- Makes the first step of a program. -/
def step (env : Environment σ) : Program α → World σ → Program α × World σ
  | .done a, w => (.done a, w)
  | .request r next, w =>
    let (x, outside) := env.answer r w.outside
    (next x, { w with outside })
  | .access a next, w =>
    let (x, process) := a.apply w.process
    (next x, { w with process })
  | .log l next, w => (next, { w with journal := l :: w.journal })

/-- Runs a program to its end. -/
def run (env : Environment σ) : Program α → World σ → α × World σ
  | .done a, w => (a, w)
  | .request r next, w =>
    let (x, outside) := env.answer r w.outside
    (next x).run env { w with outside }
  | .access a next, w =>
    let (x, process) := a.apply w.process
    (next x).run env { w with process }
  | .log l next, w => next.run env { w with journal := l :: w.journal }

@[simp] theorem run_done (env : Environment σ) (a : α) (w : World σ) :
    (Program.done a).run env w = (a, w) := rfl

@[simp] theorem run_pure (env : Environment σ) (a : α) (w : World σ) :
    (pure a : Program α).run env w = (a, w) := rfl

@[simp] theorem run_bind (env : Environment σ) (p : Program α) (f : α → Program β)
    (w : World σ) : (p >>= f).run env w = (f (p.run env w).1).run env (p.run env w).2 := by
  show (p.bind f).run env w = _
  induction p generalizing w with
  | done a => rfl
  | request r next ih => exact ih _ _
  | access a next ih => exact ih _ _
  | log l next ih => exact ih _

/-- A step does not change where a run ends. -/
theorem run_step (env : Environment σ) (p : Program α) (w : World σ) :
    (p.step env w).1.run env (p.step env w).2 = p.run env w := by
  cases p <;> rfl

end Program

end Cryptoki
