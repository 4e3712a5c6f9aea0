import Cryptoki.Program.Basic
import Mathlib.Tactic

/-!
What a run of a program shows of itself: its answer, the requests it makes and the world it leaves.

Two runs are compared from outside: they agree when they answer the same, ask the same of the
libraries, write the same lines and leave processes that are related. A program whose accesses are
all of one kind keeps whatever each access of that kind keeps.
-/

namespace Cryptoki

namespace Program

variable {α β σ : Type}

/-! ### Runs of single steps -/

@[simp] lemma run_touch (env : Environment σ) (a : Process.Access) (w : World σ) :
    (touch a).run env w = ((a.apply w.process).1, { w with process := (a.apply w.process).2 }) :=
  rfl

@[simp] lemma run_ask (env : Environment σ) (r : Request) (w : World σ) :
    (ask r).run env w =
      ((env.answer r w.outside).1, { w with outside := (env.answer r w.outside).2 }) := rfl

@[simp] lemma run_call (env : Environment σ) (m : ModuleId) (c : Call) (w : World σ) :
    (call m c).run env w = ((env.answer (.call m c) w.outside).1,
      { w with outside := (env.answer (.call m c) w.outside).2 }) := rfl

@[simp] lemma run_say (env : Environment σ) (l : Log.Level) (s : Log.Source) (t : String)
    (w : World σ) :
    (say l s t).run env w = ((), { w with journal := ⟨l, s, t⟩ :: w.journal }) := rfl

/-! ### Requests -/

/-- The requests a run makes, in their order. -/
def requests (env : Environment σ) : Program α → World σ → List Request
  | .done _, _ => []
  | .request r next, w =>
    let (x, outside) := env.answer r w.outside
    r :: (next x).requests env { w with outside }
  | .access a next, w =>
    let (x, process) := a.apply w.process
    (next x).requests env { w with process }
  | .log l next, w => next.requests env { w with journal := l :: w.journal }

@[simp] lemma requests_pure (env : Environment σ) (a : α) (w : World σ) :
    (pure a : Program α).requests env w = [] := rfl

@[simp] lemma requests_touch (env : Environment σ) (a : Process.Access) (w : World σ) :
    (touch a).requests env w = [] := rfl

@[simp] lemma requests_ask (env : Environment σ) (r : Request) (w : World σ) :
    (ask r).requests env w = [r] := rfl

@[simp] lemma requests_call (env : Environment σ) (m : ModuleId) (c : Call) (w : World σ) :
    (call m c).requests env w = [.call m c] := rfl

@[simp] lemma requests_say (env : Environment σ) (l : Log.Level) (s : Log.Source) (t : String)
    (w : World σ) : (say l s t).requests env w = [] := rfl

@[simp] lemma requests_bind (env : Environment σ) (p : Program α) (f : α → Program β)
    (w : World σ) :
    (p >>= f).requests env w =
      p.requests env w ++ (f (p.run env w).1).requests env (p.run env w).2 := by
  show (p.bind f).requests env w = _
  induction p generalizing w with
  | done a => rfl
  | request r next ih => exact congrArg (r :: ·) (ih _ _)
  | access a next ih => exact ih _ _
  | log l next ih => exact ih _

/-! ### Programs within bounds -/

/-- Every access the program may make is one of `A` and every request one of `R`, whatever it is
answered. -/
def Within (A : Process.Access → Prop) (R : Request → Prop) : Program α → Prop
  | .done _ => True
  | .request r next => R r ∧ ∀ x, (next x).Within A R
  | .access a next => A a ∧ ∀ x, (next x).Within A R
  | .log _ next => next.Within A R

variable {A B : Process.Access → Prop} {R S : Request → Prop}

@[simp] lemma within_pure (a : α) : (pure a : Program α).Within A R := trivial

@[simp] lemma within_touch {a : Process.Access} : (touch a).Within A R ↔ A a :=
  ⟨fun h => h.1, fun h => ⟨h, fun _ => trivial⟩⟩

@[simp] lemma within_ask {r : Request} : (ask r).Within A R ↔ R r :=
  ⟨fun h => h.1, fun h => ⟨h, fun _ => trivial⟩⟩

@[simp] lemma within_call {m : ModuleId} {c : Call} : (call m c).Within A R ↔ R (.call m c) :=
  within_ask

@[simp] lemma within_say (l : Log.Level) (s : Log.Source) (t : String) :
    (say l s t).Within A R := trivial

lemma within_bind {p : Program α} {f : α → Program β} (hp : p.Within A R)
    (hf : ∀ a, (f a).Within A R) : (p >>= f).Within A R := by
  show (p.bind f).Within A R
  induction p with
  | done a => exact hf a
  | request r next ih => exact ⟨hp.1, fun x => ih x (hp.2 x)⟩
  | access a next ih => exact ⟨hp.1, fun x => ih x (hp.2 x)⟩
  | log l next ih => exact ih hp

lemma Within.mono {p : Program α} (hp : p.Within A R) (hA : ∀ a, A a → B a)
    (hR : ∀ r, R r → S r) : p.Within B S := by
  induction p with
  | done a => trivial
  | request r next ih => exact ⟨hR r hp.1, fun x => ih x (hp.2 x)⟩
  | access a next ih => exact ⟨hA a hp.1, fun x => ih x (hp.2 x)⟩
  | log l next ih => exact ih hp

/-- What every access of the program keeps true of the process, its run keeps true. -/
lemma Within.run_keeps {P : Process → Prop} (env : Environment σ) {p : Program α}
    (hp : p.Within A R) (hkeep : ∀ a q, A a → P q → P (a.apply q).2) (w : World σ)
    (hw : P w.process) : P (p.run env w).2.process := by
  induction p generalizing w with
  | done a => exact hw
  | request r next ih => exact ih _ (hp.2 _) _ hw
  | access a next ih => exact ih _ (hp.2 _) _ (hkeep a _ hp.1 hw)
  | log l next ih => exact ih hp _ hw

end Program

/-! ### Comparing runs -/

variable {α β σ : Type}

/-- The same outside and the same log, with processes that are related. -/
structure World.Related (R : Process → Process → Prop) (v w : World σ) : Prop where
  outside : v.outside = w.outside
  journal : v.journal = w.journal
  process : R v.process w.process

/-- Two programs that cannot be told apart from outside, begun in two worlds, and that leave
related processes. -/
structure Program.Agree (env : Environment σ) (R : Process → Process → Prop) (p q : Program α)
    (v w : World σ) : Prop where
  answer : (p.run env v).1 = (q.run env w).1
  requests : p.requests env v = q.requests env w
  world : (p.run env v).2.Related R (q.run env w).2

namespace Program

variable {A : Process.Access → Prop} {T : Request → Prop} {R S : Process → Process → Prop}
  {v w : World σ}

lemma Agree.bind {env : Environment σ} {p q : Program α} {f g : α → Program β}
    (hp : p.Agree env R q v w)
    (hf : ∀ a v w, v.Related R w → (f a).Agree env S (g a) v w) :
    (p >>= f).Agree env S (q >>= g) v w := by
  have hnext := hf (p.run env v).1 _ _ hp.world
  rw [hp.answer] at hnext
  refine ⟨?_, ?_, ?_⟩
  · rw [run_bind, run_bind, hp.answer, hnext.answer]
  · rw [requests_bind, requests_bind, hp.requests, hp.answer, hnext.requests]
  · rw [run_bind, run_bind, hp.answer]
    exact hnext.world

/-- A program cannot tell two worlds apart if none of its accesses can. -/
lemma Within.agree (env : Environment σ) {p : Program α} (hp : p.Within A T)
    (hkeep : ∀ a q r, A a → R q r → (a.apply q).1 = (a.apply r).1 ∧ R (a.apply q).2 (a.apply r).2)
    (hw : v.Related R w) : p.Agree env R p v w := by
  induction p generalizing v w with
  | done a => exact ⟨rfl, rfl, hw⟩
  | request r next ih =>
    obtain ⟨pv, ov, jv⟩ := v
    obtain ⟨pw, ow, jw⟩ := w
    obtain ⟨rfl, rfl, hproc⟩ := hw
    have hnext := ih (env.answer r ov).1 (hp.2 _)
      (v := ⟨pv, (env.answer r ov).2, jv⟩) (w := ⟨pw, (env.answer r ov).2, jv⟩) ⟨rfl, rfl, hproc⟩
    exact ⟨hnext.answer, congrArg (r :: ·) hnext.requests, hnext.world⟩
  | access a next ih =>
    obtain ⟨pv, ov, jv⟩ := v
    obtain ⟨pw, ow, jw⟩ := w
    obtain ⟨rfl, rfl, hproc⟩ := hw
    obtain ⟨hsame, hrel⟩ := hkeep a _ _ hp.1 hproc
    have hnext := ih (a.apply pv).1 (hp.2 _)
      (v := ⟨(a.apply pv).2, ov, jv⟩) (w := ⟨(a.apply pw).2, ov, jv⟩) ⟨rfl, rfl, hrel⟩
    refine ⟨?_, ?_, ?_⟩
    · exact hnext.answer.trans (by rw [hsame]; rfl)
    · exact hnext.requests.trans (by rw [hsame]; rfl)
    · have hworld := hnext.world
      rw [hsame] at hworld
      simpa [run, hsame] using hworld
  | log l next ih =>
    have hnext := ih hp (v := { v with journal := l :: v.journal })
      (w := { w with journal := l :: w.journal })
      ⟨hw.outside, congrArg (l :: ·) hw.journal, hw.process⟩
    exact ⟨hnext.answer, hnext.requests, hnext.world⟩

end Program

end Cryptoki
