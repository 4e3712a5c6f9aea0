import Cryptoki.Library.Installed
import Cryptoki.Library.Simulated
import Cryptoki.Proofs.Program.Twins

/-!
The library in memory records pins and never looks at them.

A veil over its state hides the pins of the logins on record, and nothing else. Whatever the
library is asked, it answers a state and its veiled copy alike, and what it makes of them stays the
same under the veil.
-/

namespace Cryptoki

namespace Simulated

/-- A library with another record of logins. -/
def State.withLogins (s : State) (l : List LoginCall) : State := { s with calls.login := l }

def LoginCall.veil (c : LoginCall) : LoginCall := { c with pin := none, pinLength := 0 }

/-- The library as it is, except that no login on record shows its pin. -/
def State.veil (s : State) : State := s.withLogins (s.calls.login.map LoginCall.veil)

/-! ### The record of logins -/

section WithLogins

variable (s : State) (l : List LoginCall)

lemma start_withLogins : start (s.withLogins l) = (start s).withLogins l := by
  by_cases hcallbacks : s.calls.callbacks
  · simp [start, State.withLogins, hcallbacks]
  · simp [start, State.withLogins, hcallbacks]

lemma stop_withLogins : stop (s.withLogins l) = (stop s).withLogins l := by
  by_cases hmade : (s.calls.callbacks && s.mutex) = true
  · simp [stop, State.withLogins, hmade]
  · simp [stop, State.withLogins, hmade]

lemma launch_withLogins :
    launch (s.withLogins l) = ((launch s).1, (launch s).2.withLogins l) := by
  have hmutex : mutexCode (s.withLogins l) = mutexCode s := rfl
  have hbehaviour : (s.withLogins l).behaviour = s.behaviour := rfl
  rw [launch, launch, hmutex, hbehaviour, start_withLogins]
  split_ifs <;> rfl

lemma init_withLogins (args : Option InitArgs) :
    init args (s.withLogins l) = ((init args s).1, (init args s).2.withLogins l) := by
  rcases hinstances : s.instances with _ | n
  · have hlaunch := fun flags => launch_withLogins { s with
      calls.init := s.calls.init + 1
      calls.initFlags := flags
      calls.callbacks := args.any InitArgs.complete
      instances := 0 } l
    simpa [init, State.withLogins, State.running, hinstances] using hlaunch _
  · by_cases hagain : s.behaviour.reinitializable
    · simp [init, State.withLogins, State.running, hinstances, hagain]
    · simp [init, State.withLogins, State.running, hinstances, hagain]

lemma finalize_withLogins (reserved : Bool) :
    finalize reserved (s.withLogins l) =
      ((finalize reserved s).1, (finalize reserved s).2.withLogins l) := by
  cases reserved with
  | true => rfl
  | false =>
    rcases hinstances : s.instances with _ | n
    · simp [finalize, State.withLogins, hinstances]
    · have hstop := stop_withLogins { s with
        calls.finalize := s.calls.finalize + 1
        instances := n } l
      by_cases hlast : n = 0
      · simpa [finalize, State.withLogins, hinstances, hlast] using hstop
      · simp [finalize, State.withLogins, hinstances, hlast]

lemma openSession_withLogins (slot : SlotId) (flags : Flags) (application notify place : Bool) :
    openSession slot flags application notify place (s.withLogins l) =
      ((openSession slot flags application notify place s).1,
        (openSession slot flags application notify place s).2.withLogins l) := by
  by_cases hstopped : s.instances = 0
  · simp [openSession, State.withLogins, State.running, hstopped]
  rcases hplace : s.behaviour.places.find? fun p => p.id = slot with _ | p
  · simp [openSession, State.withLogins, State.running, State.place?, hstopped, hplace]
  by_cases hserial : Flags.has flags serialSession
  · by_cases hcode : s.behaviour.openSessionCode = .ok
    · cases place with
      | true =>
        simp [openSession, State.withLogins, State.running, State.place?, hstopped, hplace,
          hserial, hcode]
      | false =>
        simp [openSession, State.withLogins, State.running, State.place?, hstopped, hplace,
          hserial, hcode]
    · simp [openSession, State.withLogins, State.running, State.place?, hstopped, hplace, hserial,
        hcode]
  · simp [openSession, State.withLogins, State.running, State.place?, hstopped, hplace, hserial]

lemma closeSession_withLogins (session : SessionId) :
    closeSession session (s.withLogins l) =
      ((closeSession session s).1, (closeSession session s).2.withLogins l) := by
  by_cases hcode : s.behaviour.closeSessionCode = .ok
  · by_cases hknown : session ∈ s.sessions
    · simp [closeSession, State.withLogins, hcode, hknown]
    · simp [closeSession, State.withLogins, hcode, hknown]
  · simp [closeSession, State.withLogins, hcode]

/-- No call but a login has to do with the record of logins. -/
lemma serve_withLogins (c : Call) (hc : c.function ≠ .login) :
    serve c (s.withLogins l) = ((serve c s).1, (serve c s).2.withLogins l) := by
  cases c with
  | init args => exact init_withLogins s l args
  | finalize reserved => exact finalize_withLogins s l reserved
  | openSession slot flags application notify place =>
    exact openSession_withLogins s l slot flags application notify place
  | closeSession session => exact closeSession_withLogins s l session
  | login session user pin length => exact absurd rfl hc
  | _ => rfl

end WithLogins

lemma logins_serve (c : Call) (hc : c.function ≠ .login) (s : State) :
    (serve c s).2.calls.login = s.calls.login :=
  congrArg (fun r => r.2.calls.login) (serve_withLogins s s.calls.login c hc)

/-! ### The veil -/

lemma serve_veil (c : Call) (hc : c.function ≠ .login) (s : State) :
    serve c s.veil = ((serve c s).1, (serve c s).2.veil) := by
  rw [State.veil, serve_withLogins _ _ c hc, State.veil, logins_serve c hc]

lemma openLibrary_veil (module : ModuleId) (path : String) (s : State) :
    openLibrary module path s.veil =
      ((openLibrary module path s).1, (openLibrary module path s).2.veil) := by
  by_cases hopenable : s.behaviour.openable
  · simp [openLibrary, State.veil, State.withLogins, hopenable]
  · simp [openLibrary, State.veil, State.withLogins, hopenable]

def Timeline.veil (t : Timeline) : Timeline := { t with library := t.library.veil }

lemma Timeline.sleep_veil (t : Timeline) : t.veil.sleep = t.sleep.veil := by
  obtain ⟨library, changes, slept⟩ := t
  cases changes with
  | nil => rfl
  | cons f rest => rfl

lemma answer_veil (r : Request) (hr : r.Withholds) (t : Timeline) :
    answer r t.veil = ((answer r t).1, (answer r t).2.veil) := by
  cases r with
  | openLibrary loader module path =>
    exact congrArg (fun o => (o.1, { t with library := o.2 }))
      (openLibrary_veil module path t.library)
  | lookUp module symbol => rfl
  | call module c =>
    exact congrArg (fun o => (o.1, { t with library := o.2 })) (serve_veil c hr t.library)
  | closeLibrary module => rfl
  | sleep => exact congrArg ((), ·) t.sleep_veil

/-- A login leaves under the veil what one without a pin leaves. -/
lemma answer_login_veil (j : ModuleId) (session : SessionId) (user : Word) (pin : Option Bytes)
    (length : Word) (t : Timeline) :
    answer (.call j (.login session user none 0)) t.veil =
      ((answer (.call j (.login session user pin length)) t).1,
        (answer (.call j (.login session user pin length)) t).2.veil) := rfl

/-- **Under the veil all pins are one.** States that are equal under the veil answer alike and stay
equal under it. -/
theorem discreet_environment : environment.Discreet fun s t => s.veil = t.veil where
  answer r hr s t h := by
    have hanswer := answer_veil r hr s
    rw [h, answer_veil r hr t] at hanswer
    exact Prod.mk.inj hanswer.symm
  login j session user pin other length count s t h := by
    have hanswer := answer_login_veil j session user pin length s
    rw [h, answer_login_veil j session user other count t] at hanswer
    exact Prod.mk.inj hanswer.symm

end Simulated

/-! ### Beside the installed libraries -/

namespace Installed

variable {σ : Type} {env : Environment σ} {S : σ → σ → Prop}

/-- The same installed libraries, beside supplied ones that are related. -/
structure Beside.Alike (S : σ → σ → Prop) (s t : Beside σ) : Prop where
  supplied : S s.supplied t.supplied
  opened : s.opened = t.opened
  host : s.host = t.host

lemma discreet_beside (henv : env.Discreet S) : (beside env).Discreet (Beside.Alike S) where
  answer r hr s t h := by
    obtain ⟨supplied, opened, host⟩ := s
    obtain ⟨other, _, _⟩ := t
    obtain ⟨hsupplied, rfl, rfl⟩ := h
    obtain ⟨hanswer, hnext⟩ := henv.answer r hr supplied other hsupplied
    cases r with
    | openLibrary loader module path =>
      cases loader with
      | system =>
        simp only [beside, respond]
        rcases openLibrary host path with reason | file
        · exact ⟨rfl, hsupplied, rfl, rfl⟩
        · exact ⟨rfl, hsupplied, rfl, rfl⟩
      | supplied => exact ⟨hanswer, hnext, rfl, rfl⟩
    | lookUp module symbol =>
      simp only [beside, respond]
      rcases opened.get? module with _ | file
      · exact ⟨hanswer, hnext, rfl, rfl⟩
      · exact ⟨rfl, hsupplied, rfl, rfl⟩
    | call module c => exact ⟨hanswer, hnext, rfl, rfl⟩
    | closeLibrary module =>
      simp only [beside, respond]
      rcases opened.get? module with _ | file
      · exact ⟨trivial, hnext, rfl, rfl⟩
      · exact ⟨trivial, hsupplied, rfl, rfl⟩
    | sleep => exact ⟨hanswer, hnext, rfl, rfl⟩
  login j session user pin other length count s t h := by
    obtain ⟨hanswer, hnext⟩ := henv.login j session user pin other length count _ _ h.supplied
    exact ⟨hanswer, hnext, h.opened, h.host⟩

end Installed

end Cryptoki
