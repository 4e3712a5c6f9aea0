import Cryptoki.Proofs.Host.Conduct

/-!
What a host finds after an operation that a library has failed.

It is told the code of the call that failed, and finds everything as it was before. Operations look
at a library before they change anything, so there is nothing to take back but what a load did.
-/

namespace Cryptoki

open Process Program

/-- The same registries with all their entries, the same sessions, logins and references of every
module, and as many references to the loading subsystem. -/
structure Process.Intact (p q : Process) : Prop where
  modules : q.modules = p.modules
  slots : q.slots = p.slots
  shares : ∀ j, Access.share q j = Access.share p j
  loading : q.loading = p.loading

lemma Process.Same.intact {p q : Process} (h : Same p q) : Intact p q :=
  ⟨h.modules, h.slots, fun j => h.share j, h.loading⟩

namespace Host

open Cryptoki.Module

variable {α β σ : Type} {env : Environment σ} {w : World σ} {held : List Module} {m : Module}

/-! ### No traces -/

lemma intact_load (env : Environment σ) (loader : Loader) (path : String) (w : World σ) {f : Fault}
    (hf : ((Host.load loader path).run env w).1 = .error f) :
    Intact w.process ((Host.load loader path).run env w).2.process := by
  rw [Host.load] at hf ⊢
  split_ifs at hf ⊢
  · exact ⟨rfl, rfl, fun _ => rfl, rfl⟩
  rw [run_bind] at hf ⊢
  have hprocess := Module.process_load env loader path w
  generalize (Module.load loader path).run env w = r at hprocess hf ⊢
  obtain ⟨g | m, v⟩ := r
  · have hv : v.process = { w.process with attempts := w.process.attempts + 1 } := hprocess
    rw [run_pure, hv]
    exact ⟨rfl, rfl, fun _ => rfl, rfl⟩
  · cases hf

/-- A program that answers a fault leaves the process as it was. -/
def Traceless (env : Environment σ) (w : World σ) (p : Program (Except Fault α)) : Prop :=
  ∀ f, (p.run env w).1 = .error f → w.process.Same (p.run env w).2.process

lemma traceless_of_ok {p : Program (Except Fault α)} {a : α} (hp : (p.run env w).1 = .ok a) :
    Traceless env w p := fun f hf => by cases hp.symm.trans hf

lemma traceless_of_looks {p : Program (Except Fault α)} (hp : m.Looks p) : Traceless env w p :=
  fun f hf => by
    rw [hp.run_process env w]
    exact Same.refl _

lemma Traceless.andThen {p : Program (Except Fault α)}
    {k : Except Fault α → Program (Except Fault β)} (hp : m.Looks p)
    (hk : ∀ f, k (.error f) = pure (.error f)) (hok : ∀ a v, Traceless env v (k (.ok a))) :
    Traceless env w (p >>= k) := by
  intro f hf
  rw [run_bind] at hf ⊢
  have hprocess := hp.run_process env w
  generalize p.run env w = r at hprocess hf ⊢
  obtain ⟨g | a, v⟩ := r
  · rw [hk, run_pure, hprocess]
    exact Same.refl _
  · rw [← hprocess]
    exact hok a v f hf

lemma ModuleOp.traceless_effect (h : Handle) (m : Module) (o : ModuleOp) :
    Traceless env w (o.effect h m) := by
  cases o with
  | info => exact traceless_of_ok rfl
  | unload =>
    refine traceless_of_ok (a := ()) ?_
    rw [effect, run_bind, run_bind, run_bind, run_bind, run_pure]
  | slotList tokenPresent => exact traceless_of_looks (looks_slotList m tokenPresent)
  | openSlot id =>
    exact Traceless.andThen (looks_slotInfo m id) (fun _ => rfl) fun info v => traceless_of_ok rfl
  | openSlotByLabel label =>
    refine Traceless.andThen (looks_findSlot m label) (fun _ => rfl) ?_
    rintro (_ | id) v
    · exact fun _ _ => Same.refl _
    · exact traceless_of_ok rfl
  | waitForSlot patience =>
    refine Traceless.andThen (looks_waitForSlot m patience) (fun _ => rfl) ?_
    rintro (_ | id) v
    · exact traceless_of_ok rfl
    · exact traceless_of_ok rfl
  | openSessions => exact traceless_of_ok rfl

lemma SlotOp.traceless_effect (s : Handle) (m : Module) (id : SlotId) (o : SlotOp) :
    Traceless env w (o.effect s m id) := by
  cases o with
  | close => exact traceless_of_ok rfl
  | slotInfo => exact traceless_of_looks (looks_slotInfo m id)
  | tokenInfo => exact traceless_of_looks (looks_tokenInfo m id)
  | openSession readWrite =>
    intro f hf
    obtain ⟨opened, -, hanswer, hprocess⟩ := asked_openSession env m id w readWrite
    rw [effect, hprocess f (hanswer.symm.trans hf)]
    exact Same.refl _
  | closeSession session =>
    refine traceless_of_ok (a := ()) ?_
    rw [effect, run_bind, run_pure]
  | login session user secret =>
    obtain ⟨code, -, -, hsame⟩ := asked_login env m id session w user secret
    exact hsame
  | logout session =>
    refine traceless_of_ok (a := ()) ?_
    rw [effect, run_bind, run_pure]
  | sessionState session =>
    have hsame : w.process.Same ((m.sessionState id session).run env w).2.process :=
      w.process.same_find m.id id session
    intro f hf
    rw [effect, run_bind] at hf ⊢
    generalize (m.sessionState id session).run env w = r at hsame hf ⊢
    obtain ⟨_ | state, v⟩ := r
    · exact hsame
    · cases hf

lemma Agree.intact {p q : Program (Except Fault α)} {f : Fault} (h : p.Agree env Same q w w)
    (hq : Traceless env w q) (hf : (p.run env w).1 = .error f) :
    Intact w.process (p.run env w).2.process :=
  Same.intact ((hq f (h.answer.symm.trans hf)).trans h.world.process.symm)

/-- **Failures are atomic.** An operation that answers a fault leaves no trace in the process. -/
lemma Operation.intact (hw : Accounted w.process held) (o : Operation) {f : Fault}
    (hf : (o.program.run env w).1 = .error f) :
    Intact w.process (o.program.run env w).2.process := by
  cases o with
  | load loader path => exact intact_load env loader path w hf
  | onModule h o =>
    obtain ⟨m, -, hagree⟩ | ⟨kind, hrefuses⟩ := o.agree_or_refuses env hw h
    · exact Agree.intact hagree (o.traceless_effect h m) hf
    · exact Agree.intact hrefuses (fun _ _ => Same.refl _) hf
  | onSlot h s o =>
    obtain ⟨m, id, -, -, hagree⟩ | ⟨kind, k, hrefuses⟩ := o.agree_or_refuses env hw h s
    · exact Agree.intact hagree (o.traceless_effect s m id) hf
    · exact Agree.intact hrefuses (fun _ _ => Same.refl _) hf

/-! ### Every operation of every run -/

/-- What a host can rely on when an operation answers a fault: it finds everything as it was, the
failure of a call comes to it as it is, and there is such a failure behind every fault with a code
unless the library lacks a function. -/
structure Dependable (env : Environment σ) (w : World σ) (o : Operation) : Prop where
  atomic : ∀ f, (o.program.run env w).1 = .error f →
    Intact w.process (o.program.run env w).2.process
  verbatim : ∀ before x after c code, o.program.asked env w = before ++ x :: after →
    x.failure? = some (c, code) → Excused o c code after ∨
      (∀ y ∈ after, y.Undoes) ∧ ∃ message, (o.program.run env w).1 = .error (.pkcs11 code message)
  numberless : ∀ j slot flags application notify place (opened : Reply SessionId),
    .asked (.call j (.openSession slot flags application notify place)) opened ∈
      o.program.asked env w → opened.code = .ok → opened.written.getD 0 = 0 →
    ∃ message, (o.program.run env w).1 = .error (.pkcs11 .generalError message)
  caused : ∀ f, (o.program.run env w).1 = .error f → Homemade f ∨
    ∃ before x after c code message, o.program.asked env w = before ++ x :: after ∧
      x.failure? = some (c, code) ∧ ¬ Excused o c code after ∧ f = .pkcs11 code message

lemma Operation.dependable (hw : Accounted w.process held) (o : Operation) :
    Dependable env w o where
  atomic f hf := o.intact hw hf
  verbatim before x after c code hd hx := (o.conduct hw).verbatim hd hx
  numberless j slot flags application notify place opened hmem hcode hzero := by
    obtain ⟨before, after, hd⟩ := List.append_of_mem hmem
    have hfailed : (Call.openSession slot flags application notify place).failure opened =
        some .generalError := (if_neg (not_not.mpr hcode)).trans (if_pos hzero)
    obtain hexcused | ⟨-, hanswer⟩ := (o.conduct hw).verbatim hd (failure_of_call hfailed)
    · cases hexcused
    · exact hanswer
  caused f hf := (o.conduct hw).caused hf

/-- **Failures are atomic, verbatim, and excused only where it is promised.** After any run, and
whatever the libraries answer, an operation that answers a fault leaves no trace, and answers the
failure of a call as it is. Closing a session, logging out and unloading succeed on valid
handles. -/
theorem dependable_after (env : Environment σ) (start : σ) (steps : List (Step σ)) :
    let w := ((Site.initial start).after env steps).world
    (∀ o, Dependable env w o) ∧
      (∀ h f, ((hold h).run env w).1 = .error f → ((hold h).run env w).2 = w) ∧
      ∀ h m, w.process.modules.find? h = some m → ((unload h).run env w).1 = .ok () ∧
        ∀ s id, w.process.slots.find? s = some ⟨id, h⟩ → ∀ session,
          ((closeSession h s session).run env w).1 = .ok () ∧
            ((logout h s session).run env w).1 = .ok () := by
  intro w
  have hw := Site.accounted_after env (s := .initial start) accounted_initial steps
  refine ⟨fun o => o.dependable hw, fun h f hf => ?_, fun h m hm => ⟨?_, fun s id hs session => ?_⟩⟩
  · rcases hm : w.process.modules.find? h with _ | m
    · rw [run_hold_stale hm]
    · rw [run_hold hm] at hf
      cases hf
  · refine (ModuleOp.unload.agree hm (hw.alive hm)).answer.trans ?_
    rw [ModuleOp.effect, run_bind, run_bind, run_bind, run_bind, run_pure]
  · have halive := hw.alive hm
    constructor
    · refine ((SlotOp.closeSession session).agree hm halive hs).answer.trans ?_
      rw [SlotOp.effect, run_bind, run_pure]
    · refine ((SlotOp.logout session).agree hm halive hs).answer.trans ?_
      rw [SlotOp.effect, run_bind, run_pure]

end Host

end Cryptoki
