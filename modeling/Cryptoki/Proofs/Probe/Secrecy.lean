import Cryptoki.Proofs.Host.Balance
import Cryptoki.Proofs.Host.Secrecy
import Cryptoki.Proofs.Library.Veil
import Cryptoki.Proofs.Probe.Commands

/-!
Secrets stay secret, in the probe as in any host.

The probe is given one secret, the pin in its settings, and its runs with another pin are twins of
those with the one. Together with what holds of hosts and of the library in memory this tells where
a secret goes: to the logins it is meant for, and nowhere else.
-/

namespace Cryptoki

open Installed Program

namespace Probe

variable {α β σ : Type} {h s : Handle} {P : Call → Prop}

/-! ### What is passed -/

/-- The logins with the pin of the settings. -/
def PassesPin (settings : Settings) (c : Call) : Prop :=
  ∃ session, c = passing session .normal (settings.userPin.map Text.utf8)

lemma passes_permitted {settings : Settings} {o : Host.Operation}
    (ho : Permitted h (settings.userPin.map Text.utf8) o) :
    o.program.Passes (PassesPin settings) := by
  refine o.passes.mono (fun _ ha => ha) fun r hr j c heq hlogin => ?_
  have hpasses := hr j c heq hlogin
  cases o with
  | load loader path => exact hpasses.elim
  | onModule k o => exact hpasses.elim
  | onSlot k slot o =>
    cases o with
    | login session user secret =>
      obtain ⟨rfl, rfl⟩ := ho.2 session user secret rfl
      exact ⟨session, hpasses⟩
    | _ => exact hpasses.elim

/-- Every login of the probe passes the pin of the settings. -/
lemma passes_run (loader : Loader) (settings : Settings) (c : CommandLine.Command)
    (patience : ℕ) : (run loader settings c patience).Passes (PassesPin settings) := by
  refine within_bind (Host.passes_load loader _) fun loaded => ?_
  rcases loaded with f | module
  · exact within_pure _
  refine within_bind ((calls_command module settings patience c).within
    fun o ho => passes_permitted ho) fun r => ?_
  rcases r with _ | r
  · exact within_pure _
  refine within_bind (within_bind (Host.ModuleOp.unload.passes module) fun unloaded => ?_)
    fun _ => within_pure _
  rcases unloaded with f | _
  · exact within_say _ _ _
  · exact within_pure _

/-! ### Runs with another pin -/

lemma twins_attempt {p q : Program (Except Fault α)}
    {next other : α → Program (Except Failure β)} (hp : p.Twins q)
    (hnext : ∀ a, (next a).Twins (other a)) : (attempt p next).Twins (attempt q other) := by
  refine Program.Twins.bind hp fun r => ?_
  rcases r with f | a
  · exact .refl _
  · exact hnext a

lemma twins_logInAndOut (session : SessionId) (pin other : Option String) :
    (logInAndOut h s session pin).Twins (logInAndOut h s session other) :=
  Program.Twins.bind (Host.twins_login h s session .normal _ _) fun _ => .refl _

lemma twins_session (settings : Settings) (pin : Option String) (readWrite noLogin : Bool) :
    (session h settings readWrite noLogin).Twins
      (session h { settings with userPin := pin } readWrite noLogin) := by
  refine Program.Twins.bind (.refl _) fun selected => ?_
  rcases selected with f | slot
  · exact .refl _
  refine twins_attempt (.refl _) fun opened => ?_
  dsimp only
  split_ifs
  · exact Program.Twins.bind (twins_logInAndOut opened _ _) fun _ => .refl _
  · exact .refl _

lemma twins_command (settings : Settings) (pin : Option String) (patience : ℕ)
    (c : CommandLine.Command) : (command h settings patience c).Twins
      (command h { settings with userPin := pin } patience c) := by
  cases c with
  | session readWrite noLogin =>
    exact (twins_session settings pin readWrite noLogin).bind fun _ => .refl _
  | _ => exact .refl _

lemma twins_run (loader : Loader) (settings : Settings) (pin : Option String)
    (c : CommandLine.Command) (patience : ℕ) : (run loader settings c patience).Twins
      (run loader { settings with userPin := pin } c patience) := by
  refine Program.Twins.bind (.refl _) fun loaded => ?_
  rcases loaded with f | module
  · exact .refl _
  · exact (twins_command settings pin patience c).bind fun _ => .refl _

end Probe

/-! ### Where secrets go -/

/-- Beside the same installed libraries the library in memory is the same, but for the pins of the
logins it has on record. -/
abbrev Installed.Veiled : Beside Simulated.Timeline → Beside Simulated.Timeline → Prop :=
  Beside.Alike fun s t => s.veil = t.veil

/-- **A secret goes to the login it was given for and nowhere else.** Every login a step of a host
makes passes the secret of the step, and every login of the probe the pin of the settings: these
bytes and their number, or nothing if there are none. And runs on the library in memory that differ
in their secrets, of a host or of the probe, cannot be told apart by what is answered or reported,
by what is logged, or by what is left of the process and, under the veil, of the library. -/
theorem secret_passed_only_in_login :
    (∀ {σ : Type} (env : Environment σ) (s : Host.Site σ) (st : Host.Step σ),
      ∀ r ∈ s.requests env st, r.Passes st.Passes) ∧
    (∀ {σ : Type} (env : Environment σ) (loader : Loader) (settings : Settings)
      (c : CommandLine.Command) (patience : ℕ) (w : World σ),
      ∀ r ∈ (Probe.run loader settings c patience).requests env w,
        r.Passes (Probe.PassesPin settings)) ∧
    (∀ (s t : Host.Site (Beside Simulated.Timeline))
      (steps others : List (Host.Step (Beside Simulated.Timeline))),
      s.Twins Veiled t → List.Forall₂ (Host.Step.Twins Veiled) steps others →
        s.answers Host.Site.mock steps = t.answers Host.Site.mock others ∧
          (s.after Host.Site.mock steps).Twins Veiled (t.after Host.Site.mock others)) ∧
    ∀ (loader : Loader) (settings : Settings) (pin : Option String)
      (c : CommandLine.Command) (patience : ℕ) (v w : World (Beside Simulated.Timeline)),
      v.Twins Veiled w →
        let one := (Probe.run loader settings c patience).run Host.Site.mock v
        let other :=
          (Probe.run loader { settings with userPin := pin } c patience).run Host.Site.mock w
        one.1 = other.1 ∧ one.2.Twins Veiled other.2 := by
  have hmock : Host.Site.mock.Discreet Veiled :=
    discreet_beside Simulated.discreet_environment
  refine ⟨fun env s st => s.passes_step env st, ?_, ?_, ?_⟩
  · intro σ env loader settings c patience w
    rw [requests_eq]
    exact (Probe.passes_run loader settings c patience).requests env w
  · intro s t steps others hst hsteps
    exact Host.Site.twins_after hmock hsteps hst
  · intro loader settings pin c patience v w hvw
    exact (Probe.twins_run loader settings pin c patience).run hmock hvw

/-! ### A pin and none -/

/-- A change of how the library behaves, which has nothing to do with pins. -/
def changing (f : Simulated.Behaviour → Simulated.Behaviour) :
    Host.Step (Beside Simulated.Timeline) :=
  .change fun u => { u with supplied := u.supplied.change f }

lemma respects_changing (f : Simulated.Behaviour → Simulated.Behaviour) :
    (changing f).Respects Veiled := by
  rintro s t ⟨hsupplied, hopened, hhost⟩
  exact ⟨congrArg (Simulated.Timeline.change · f) hsupplied, hopened, hhost⟩

/-- A session is opened, and the user logged in twice, the second time where logins fail. -/
def loggingIn (secret : Option Bytes) : List (Host.Step (Beside Simulated.Timeline)) :=
  [.call (.load .supplied "libmock.so"), .call (.onModule Host.firstHandle (.openSlot 0)),
    .call (.onSlot Host.firstHandle (.pack Process.slotTag 1 0) (.openSession true)),
    .call (.onSlot Host.firstHandle (.pack Process.slotTag 1 0) (.login 0x5e55 .normal secret)),
    changing fun b => { b with loginCode := ⟨0xa0⟩ }, .hold Host.firstHandle,
    .use 0 (.login 0 0x5e55 .normal secret)]

lemma twins_loggingIn (secret other : Option Bytes) :
    List.Forall₂ (Host.Step.Twins Veiled) (loggingIn secret) (loggingIn other) := by
  refine .cons (.same _ trivial) (.cons (.same _ trivial) (.cons (.same _ trivial) ?_))
  refine .cons (.login _ _ _ _ _ _) (.cons (.same _ (respects_changing _)) ?_)
  exact .cons (.same _ trivial) (.cons (.use _ _ _ _ _ _) .nil)

/-- The answers are the same with a pin and with none, and so is what is left but for the two
logins on record. -/
theorem secret_passed_of_pin_and_none :
    let pin : Bytes := [0x31, 0x32, 0x00, 0x34]
    let one := Host.unused.after Host.Site.mock (loggingIn (some pin))
    let other := Host.unused.after Host.Site.mock (loggingIn none)
    Host.unused.answers Host.Site.mock (loggingIn (some pin)) =
        Host.unused.answers Host.Site.mock (loggingIn none) ∧
      one.Twins Veiled other ∧
      one.world.outside.supplied.library.calls.login =
        [⟨0x5e55, 1, some pin, 4⟩, ⟨0x5e55, 1, some pin, 4⟩] ∧
      other.world.outside.supplied.library.calls.login =
        [⟨0x5e55, 1, none, 0⟩, ⟨0x5e55, 1, none, 0⟩] := by
  intro pin one other
  have hsame : Host.unused.Twins Veiled Host.unused := ⟨⟨rfl, rfl, rfl, rfl, rfl⟩, rfl, rfl⟩
  obtain ⟨hanswers, hafter⟩ := secret_passed_only_in_login.2.2.1 Host.unused Host.unused
    (loggingIn (some pin)) (loggingIn none) hsame (twins_loggingIn _ _)
  exact ⟨hanswers, hafter, rfl, rfl⟩

end Cryptoki
