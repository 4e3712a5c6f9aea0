import Cryptoki.Probe.Report
import Cryptoki.Proofs.Host.Operations
import Cryptoki.Proofs.Program.Deeds

/-!
The commands of the probe are made of operations of a host.

A command calls operations one after the other and does nothing else. All of them are addressed to
the module it was given, none of them unloads it, and a login is made with the pin of the settings.
So what such operations keep true, a command keeps true wherever it ends.
-/

namespace Cryptoki

namespace Program

variable {α β γ : Type}

lemma bind_assoc (p : Program α) (f : α → Program β) (g : β → Program γ) :
    p >>= f >>= g = p >>= fun a => f a >>= g := by
  show (p.bind f).bind g = p.bind fun a => (f a).bind g
  induction p with
  | done a => rfl
  | request r next ih => exact congrArg _ (funext ih)
  | access a next ih => exact congrArg _ (funext ih)
  | log l next ih => exact congrArg _ ih

lemma bind_pure (p : Program α) : p >>= pure = p := by
  show p.bind .done = p
  induction p with
  | done a => rfl
  | request r next ih => exact congrArg _ (funext ih)
  | access a next ih => exact congrArg _ (funext ih)
  | log l next ih => exact congrArg _ ih

end Program

namespace Host

open Process Program

variable {α β σ : Type} {P Q : Operation → Prop}

/-- The program calls operations that satisfy `P`, whatever they answer, and does nothing else. -/
inductive Calls (P : Operation → Prop) {α : Type} : Program α → Prop
  | done (a : α) : Calls P (pure a)
  | call (o : Operation) (ho : P o) {k : Except Fault o.Answer → Program α}
      (hk : ∀ r, Calls P (k r)) : Calls P (o.program >>= k)

namespace Calls

variable {p : Program α}

lemma bind {f : α → Program β} (hp : Calls P p) (hf : ∀ a, Calls P (f a)) :
    Calls P (p >>= f) := by
  induction hp with
  | done a => exact hf a
  | call o ho hk ih =>
    rw [bind_assoc]
    exact .call o ho ih

lemma map (f : α → β) (hp : Calls P p) : Calls P (f <$> p) := hp.bind fun a => .done (f a)

lemma operation (o : Operation) (ho : P o) : Calls P o.program := by
  rw [← bind_pure o.program]
  exact .call o ho .done

/-- What every operation keeps true, the program keeps true. -/
lemma run_keeps {I : World σ → Prop} (env : Environment σ) (hp : Calls P p)
    (hkeep : ∀ o w, P o → I w → I (o.program.run env w).2) {w : World σ} (hw : I w) :
    I (p.run env w).2 := by
  induction hp generalizing w with
  | done a => exact hw
  | call o ho hk ih =>
    rw [run_bind]
    exact ih _ (hkeep o w ho hw)

/-- What every operation does where something holds that it keeps true, the program does. -/
lemma deeds {I : World σ → Prop} {D : Deed → Prop} (env : Environment σ) (hp : Calls P p)
    (hkeep : ∀ o w, P o → I w → I (o.program.run env w).2 ∧ ∀ d ∈ o.program.deeds env w, D d)
    {w : World σ} (hw : I w) : ∀ d ∈ p.deeds env w, D d := by
  induction hp generalizing w with
  | done a => exact fun d hd => absurd hd List.not_mem_nil
  | call o ho hk ih =>
    obtain ⟨hnext, hdeeds⟩ := hkeep o w ho hw
    rw [deeds_bind]
    exact List.forall_mem_append.mpr ⟨hdeeds, ih _ hnext⟩

/-- The program stays within what bounds every operation. -/
lemma within {A : Access → Prop} {R : Request → Prop} (hp : Calls P p)
    (hwithin : ∀ o, P o → o.program.Within A R) : p.Within A R := by
  induction hp with
  | done a => exact within_pure a
  | call o ho hk ih => exact within_bind (hwithin o ho) ih

end Calls

end Host

/-! ### Commands -/

namespace Probe

open Host

variable {α β : Type} {P : Operation → Prop} {h s : Handle} {secret : Option Bytes}

/-- An operation on the module under a handle that does not unload it, and that logs the user in
with no other secret than this. -/
def Permitted (h : Handle) (secret : Option Bytes) : Operation → Prop
  | .load .. => False
  | .onModule k o => k = h ∧ o ≠ .unload
  | .onSlot k _ o => k = h ∧
    ∀ session user given, o = .login session user given → user = .normal ∧ given = secret

lemma calls_attempt {p : Program (Except Fault α)} {next : α → Program (Except Failure β)}
    (hp : Calls P p) (hnext : ∀ a, Calls P (next a)) : Calls P (attempt p next) := by
  refine hp.bind fun r => ?_
  rcases r with f | a
  · exact .done _
  · exact hnext a

/-- Goes on after a part of a command that may have failed. -/
lemma calls_then {p : Program (Except Failure α)}
    {k : Except Failure α → Program (Except Failure β)} (hp : Calls P p)
    (herror : ∀ f, k (.error f) = pure (.error f)) (hok : ∀ a, Calls P (k (.ok a))) :
    Calls P (p >>= k) := by
  refine hp.bind fun r => ?_
  rcases r with f | a
  · rw [herror]
    exact .done _
  · exact hok a

lemma permitted_onModule (o : ModuleOp) (ho : o ≠ .unload) : Permitted h secret (.onModule h o) :=
  ⟨rfl, ho⟩

lemma permitted_onSlot (o : SlotOp) (ho : ∀ session user given, o ≠ .login session user given) :
    Permitted h secret (.onSlot h s o) :=
  ⟨rfl, fun session user given hlogin => absurd hlogin (ho session user given)⟩

lemma calls_onModule (o : ModuleOp) (ho : o ≠ .unload) :
    Calls (Permitted h secret) (o.program h) :=
  .operation (.onModule h o) (permitted_onModule o ho)

lemma calls_onSlot (o : SlotOp) (ho : ∀ session user given, o ≠ .login session user given) :
    Calls (Permitted h secret) (o.program h s) :=
  .operation (.onSlot h s o) (permitted_onSlot o ho)

lemma calls_info : Calls (Permitted h secret) (info h) :=
  calls_attempt (calls_onModule .info (by simp)) fun _ => .done _

lemma calls_closeSlot {lines : β} : Calls (Permitted h secret)
    (attempt (Host.closeSlot h s) fun _ => (pure (.ok lines) : Program (Except Failure β))) :=
  calls_attempt (calls_onSlot .close (by simp)) fun _ => .done _

lemma calls_describeSlot (id : SlotId) : Calls (Permitted h secret) (describeSlot h id) := by
  refine calls_attempt (calls_onModule (.openSlot id) (by simp)) fun slot => ?_
  refine calls_attempt (calls_onSlot .slotInfo (by simp)) fun i => ?_
  refine calls_then ?_ (fun _ => rfl) fun token => calls_closeSlot
  unfold tokenOf
  split_ifs
  · exact calls_attempt (calls_onSlot .tokenInfo (by simp)) fun t => .done _
  · exact .done _

lemma calls_describeSlots (ids : List SlotId) :
    Calls (Permitted h secret) (describeSlots h ids) := by
  induction ids with
  | nil => exact .done _
  | cons id rest ih =>
    exact calls_then (calls_describeSlot id) (fun _ => rfl) fun lines =>
      calls_then ih (fun _ => rfl) fun more => .done _

lemma calls_slots (tokenPresent : Bool) : Calls (Permitted h secret) (slots h tokenPresent) :=
  calls_attempt (calls_onModule (.slotList tokenPresent) (by simp)) calls_describeSlots

lemma calls_describeEvent : Calls (Permitted h secret) (describeEvent h s) := by
  refine calls_attempt (calls_onSlot .slotInfo (by simp)) fun i => ?_
  dsimp only
  split_ifs
  · exact calls_attempt (calls_onSlot .tokenInfo (by simp)) fun t => calls_closeSlot
  · exact calls_closeSlot

lemma calls_wait (patience : ℕ) : Calls (Permitted h secret) (wait h patience) := by
  refine Calls.bind (calls_onModule (.waitForSlot patience) (by simp)) fun event => ?_
  rcases event with f | _ | slot
  · exact .done _
  · exact .done _
  · exact calls_describeEvent.map some

lemma calls_selectSlot (selector : Option SlotSelector) :
    Calls (Permitted h secret) (selectSlot h selector) := by
  have hopen : ∀ id, Calls (Permitted h secret)
      (attempt (Host.openSlot h id) fun slot =>
        (pure (.ok slot) : Program (Except Failure Handle))) :=
    fun id => calls_attempt (calls_onModule (.openSlot id) (by simp)) fun slot => .done _
  rcases selector with _ | id | label
  · refine calls_attempt (calls_onModule (.slotList true) (by simp)) fun ids => ?_
    rcases ids with _ | ⟨id, rest⟩
    · exact .done _
    · exact hopen id
  · exact hopen id
  · exact calls_attempt (calls_onModule (.openSlotByLabel label) (by simp)) fun slot => .done _

lemma calls_logInAndOut (session : SessionId) (pin : Option String) :
    Calls (Permitted h (pin.map Text.utf8)) (logInAndOut h s session pin) := by
  have hlogin : Permitted h (pin.map Text.utf8)
      (.onSlot h s (.login session .normal (pin.map Text.utf8))) := by
    refine ⟨rfl, fun session user given heq => ?_⟩
    cases heq
    exact ⟨rfl, rfl⟩
  refine Calls.bind (.operation _ hlogin) fun r => ?_
  rcases r with f | _
  · exact calls_attempt (calls_onSlot (.closeSession session) (by simp)) fun _ => .done _
  · exact calls_attempt (calls_onSlot (.sessionState session) (by simp)) fun state =>
      calls_attempt (calls_onSlot (.logout session) (by simp)) fun _ => .done _

lemma calls_session (settings : Settings) (readWrite noLogin : Bool) :
    Calls (Permitted h (settings.userPin.map Text.utf8))
      (session h settings readWrite noLogin) := by
  refine calls_then (calls_selectSlot settings.slot) (fun _ => rfl) fun slot => ?_
  refine calls_attempt (calls_onSlot (.openSession _) (by simp)) fun session => ?_
  have hclose : ∀ lines : Report, Calls (Permitted h (settings.userPin.map Text.utf8))
      (attempt (Host.closeSession h slot session) fun _ => pure (.ok lines)) :=
    fun lines => calls_attempt (calls_onSlot (.closeSession session) (by simp)) fun _ => .done _
  dsimp only
  split_ifs
  · exact calls_then (calls_logInAndOut session settings.userPin) (fun _ => rfl) fun lines =>
      hclose _
  · exact hclose _

/-- **Commands are made of permitted operations.** -/
theorem calls_command (h : Handle) (settings : Settings) (patience : ℕ)
    (c : CommandLine.Command) : Calls (Permitted h (settings.userPin.map Text.utf8))
      (command h settings patience c) := by
  cases c with
  | info => exact calls_info.map some
  | slots tokenPresent => exact (calls_slots tokenPresent).map some
  | wait => exact calls_wait patience
  | session readWrite noLogin => exact (calls_session settings readWrite noLogin).map some

end Probe

end Cryptoki
