import Cryptoki.Proofs.Program.Runs

/-!
Programs that differ in the secrets they pass on and in nothing else.

Twins make the same requests, except that a login may pass another pin. Where no answer depends on
a pin, two twins cannot be told apart by what they answer, by what they log or by what they leave
of the process.
-/

namespace Cryptoki

variable {α β σ : Type}

/-- The programs are the same but for the pins of their logins. -/
inductive Program.Twins {α : Type} : Program α → Program α → Prop
  | done (a : α) : Twins (.done a) (.done a)
  | request (r : Request) {f g : r.Answer → Program α} (h : ∀ x, Twins (f x) (g x)) :
      Twins (.request r f) (.request r g)
  | login (j : ModuleId) (session : SessionId) (user : Word) (pin other : Option Bytes)
      (length count : Word) {f g : Code → Program α} (h : ∀ x, Twins (f x) (g x)) :
      Twins (.request (.call j (.login session user pin length)) f)
        (.request (.call j (.login session user other count)) g)
  | access (a : Process.Access) {f g : a.Answer → Program α} (h : ∀ x, Twins (f x) (g x)) :
      Twins (.access a f) (.access a g)
  | log (line : Log.Line) {p q : Program α} (h : Twins p q) : Twins (.log line p) (.log line q)

/-- The request passes no pin: it is anything but a login. -/
def Request.Withholds : Request → Prop
  | .call _ c => c.function ≠ .login
  | _ => True

/-- From outsides that are related everything is answered alike, whatever pins are passed, and the
outsides stay related. -/
structure Environment.Discreet (env : Environment σ) (S : σ → σ → Prop) : Prop where
  answer : ∀ r, r.Withholds → ∀ s t, S s t → (env.answer r s).1 = (env.answer r t).1 ∧
    S (env.answer r s).2 (env.answer r t).2
  login : ∀ j session user pin other length count s t, S s t →
    (env.answer (.call j (.login session user pin length)) s).1 =
        (env.answer (.call j (.login session user other count)) t).1 ∧
      S (env.answer (.call j (.login session user pin length)) s).2
        (env.answer (.call j (.login session user other count)) t).2

lemma Environment.Discreet.same {env : Environment σ} {S : σ → σ → Prop} (h : env.Discreet S)
    (r : Request) {s t : σ} (hst : S s t) :
    (env.answer r s).1 = (env.answer r t).1 ∧ S (env.answer r s).2 (env.answer r t).2 := by
  by_cases hr : r.Withholds
  · exact h.answer r hr s t hst
  · cases r with
    | call j c =>
      cases c with
      | login session user pin length =>
        exact h.login j session user pin pin length length s t hst
      | _ => exact absurd (fun heq => by cases heq) hr
    | _ => exact absurd trivial hr

/-- The same process and the same log, with outsides that are related. -/
structure World.Twins (S : σ → σ → Prop) (v w : World σ) : Prop where
  process : v.process = w.process
  journal : v.journal = w.journal
  outside : S v.outside w.outside

namespace Program.Twins

variable {p q : Program α}

lemma refl (p : Program α) : p.Twins p := by
  induction p with
  | done a => exact .done a
  | request r next ih => exact .request r ih
  | access a next ih => exact .access a ih
  | log l next ih => exact .log l ih

lemma bind (hp : p.Twins q) {f g : α → Program β} (hf : ∀ a, (f a).Twins (g a)) :
    (p >>= f).Twins (q >>= g) := by
  show (p.bind f).Twins (q.bind g)
  induction hp with
  | done a => exact hf a
  | request r h ih => exact .request r ih
  | login j session user pin other length count h ih =>
    exact .login j session user pin other length count ih
  | access a h ih => exact .access a ih
  | log line h ih => exact .log line ih

/-- **Twins cannot be told apart** where no answer depends on a pin. -/
theorem run {env : Environment σ} {S : σ → σ → Prop} (henv : env.Discreet S) (hp : p.Twins q)
    {v w : World σ} (hw : v.Twins S w) :
    (p.run env v).1 = (q.run env w).1 ∧ (p.run env v).2.Twins S (q.run env w).2 := by
  induction hp generalizing v w with
  | done a => exact ⟨rfl, hw⟩
  | request r h ih =>
    obtain ⟨hanswer, hnext⟩ := henv.same r hw.outside
    have hlater := ih (env.answer r v.outside).1
      (v := { v with outside := (env.answer r v.outside).2 })
      (w := { w with outside := (env.answer r w.outside).2 }) ⟨hw.process, hw.journal, hnext⟩
    simp only [Program.run, ← hanswer]
    exact hlater
  | login j session user pin other length count h ih =>
    obtain ⟨hanswer, hnext⟩ := henv.login j session user pin other length count _ _ hw.outside
    set passed := Request.call j (.login session user pin length)
    set instead := Request.call j (.login session user other count)
    have hlater := ih (env.answer passed v.outside).1
      (v := { v with outside := (env.answer passed v.outside).2 })
      (w := { w with outside := (env.answer instead w.outside).2 }) ⟨hw.process, hw.journal, hnext⟩
    simp only [Program.run, ← hanswer]
    exact hlater
  | access a h ih =>
    have hlater := ih (a.apply v.process).1 (v := { v with process := (a.apply v.process).2 })
      (w := { w with process := (a.apply v.process).2 }) ⟨rfl, hw.journal, hw.outside⟩
    simp only [Program.run, ← hw.process]
    exact hlater
  | log line h ih =>
    exact ih (v := { v with journal := line :: v.journal })
      (w := { w with journal := line :: w.journal })
      ⟨hw.process, congrArg (line :: ·) hw.journal, hw.outside⟩

end Program.Twins

end Cryptoki
