import Cryptoki.Proofs.Host.Registries
import Cryptoki.Proofs.Module.Callers

/-!
Slots that are registered after their module was unloaded.

An operation that makes a slot handle finds the module, asks its library, and registers the slot
last. An unload takes the module out of its registry and then sweeps the slots. When operations run
at the same time, a slot may be registered after the sweep of its module, and then nothing takes it
out again. Every other slot that is left behind for a while is caught by a sweep that is still to
come.
-/

namespace Cryptoki

open Process Program

variable {α β σ : Type}

/-! ### Programs that sweep -/

/-- Every access but those that register a module or take one out. -/
def Process.Access.Keeping : Access → Prop
  | .insertModule _ | .removeModule _ => False
  | _ => True

namespace Program

/-- The slot that the first step registers. -/
def toRegister? : Program α → Option Slot
  | .access (.insertSlot k) _ => some k
  | _ => none

/-- The handle of the module whose slots the first step takes out. -/
def toSweep? : Program α → Option Handle
  | .access (.removeSlotsOf h) _ => some h
  | _ => none

/-- The program registers no module, and once it has taken one out, it takes out the slots of the
module in the next step. -/
def Sweeps : Program α → Prop
  | .done _ => True
  | .request _ next => ∀ x, (next x).Sweeps
  | .access (.removeModule h) next =>
    (∀ m, (next (.ok m)).toSweep? = some h) ∧ ∀ x, (next x).Sweeps
  | .access a next => a.Keeping ∧ ∀ x, (next x).Sweeps
  | .log _ next => next.Sweeps

lemma Sweeps.of_access {a : Access} {next : a.Answer → Program α} (hp : (access a next).Sweeps) :
    (∀ m, a ≠ .insertModule m) ∧ ∀ x, (next x).Sweeps := by
  cases a with
  | removeModule h => exact ⟨by simp, hp.2⟩
  | insertModule m => exact hp.1.elim
  | _ => exact ⟨by simp, hp.2⟩

lemma sweeps_of_within {R : Request → Prop} {p : Program α} (hp : p.Within Access.Keeping R) :
    p.Sweeps := by
  induction p with
  | done a => trivial
  | request r next ih => exact fun x => ih x (hp.2 x)
  | access a next ih =>
    have hnext := fun x => ih x (hp.2 x)
    cases a with
    | removeModule h => exact hp.1.elim
    | _ => exact ⟨hp.1, hnext⟩
  | log l next ih => exact ih hp

lemma toSweep?_bind {p : Program α} {f : α → Program β} {h : Handle}
    (hp : p.toSweep? = some h) : (p >>= f).toSweep? = some h := by
  cases p with
  | access a next => cases a <;> exact hp
  | _ => cases hp

lemma sweeps_bind {p : Program α} {f : α → Program β} (hp : p.Sweeps) (hf : ∀ a, (f a).Sweeps) :
    (p >>= f).Sweeps := by
  show (p.bind f).Sweeps
  induction p with
  | done a => exact hf a
  | request r next ih => exact fun x => ih x (hp x)
  | access a next ih =>
    have hnext := fun x => ih x (hp.of_access.2 x)
    cases a with
    | removeModule h => exact ⟨fun m => toSweep?_bind (hp.1 m), hnext⟩
    | _ => exact ⟨hp.1, hnext⟩
  | log l next ih => exact ih hp

lemma toSweep?_of_quiet {p : Program α} (hp : p.quiet = true) : p.toSweep? = none := by
  cases p with
  | access a next => cases hp
  | _ => rfl

end Program

namespace Host

variable {env : Environment σ} {h s : Handle}

/-! ### Operations sweep -/

lemma keeping_reaches {m : Module} {p : Program α} (hp : m.Reaches p) :
    p.Within Access.Keeping fun _ => True :=
  hp.mono (fun a ha => by cases a <;> trivial) fun _ _ => trivial

lemma keeping_release (m : Module) : m.release.Within Access.Keeping fun _ => True := by
  refine within_bind (within_touch.mpr trivial) fun last => ?_
  split_ifs
  · refine (Module.ends_tearDown m).mono ?_ fun _ _ => trivial
    rintro a (rfl | rfl | rfl)
    · trivial
    · trivial
    · trivial
  · exact within_pure _

lemma keeping_withModule {body : Module → Program (Except Fault α)}
    (hbody : ∀ m : Module, m.Reaches (body m)) :
    (withModule h body).Within Access.Keeping fun _ => True := by
  refine within_bind (within_touch.mpr trivial) fun found => ?_
  rcases found with f | m
  · exact within_pure _
  · exact within_bind (keeping_reaches (hbody m)) fun r =>
      within_bind (keeping_release m) fun _ => within_pure _

lemma keeping_withSlot {body : Module → SlotId → Program (Except Fault α)}
    (hbody : ∀ (m : Module) id, m.Reaches (body m id)) :
    (withSlot h s body).Within Access.Keeping fun _ => True :=
  keeping_withModule fun m => within_inSlot (hbody m)

lemma sweeps_unload : (Host.unload h).Sweeps := by
  have hrest (m : Module) : (do
      let slots : ℕ ← touch (.removeSlotsOf h)
      say .debug .host s!"Unregistered PKCS#11 module {m.name} and {slots} slot(s)"
      m.release
      return .ok () : Program (Except Fault Unit)).Within Access.Keeping fun _ => True :=
    within_bind (within_touch.mpr trivial) fun _ => within_bind (within_say _ _ _) fun _ =>
      within_bind (keeping_release m) fun _ => within_pure _
  refine ⟨fun m => rfl, fun r => ?_⟩
  rcases r with f | m
  · trivial
  · exact sweeps_of_within (hrest m)

lemma ModuleOp.sweeps (o : ModuleOp) : (o.program h).Sweeps := by
  have hregister : ∀ id, (register h id).Within Access.Keeping fun _ => True :=
    fun id => within_touch.mpr trivial
  cases o with
  | unload => exact sweeps_unload
  | openSlot id =>
    refine sweeps_of_within
      (within_bind (keeping_withModule fun m => (m.owns_slotInfo id).reaches) fun told => ?_)
    rcases told with f | info
    · exact within_pure _
    · exact within_bind (hregister id) fun _ => within_pure _
  | waitForSlot patience =>
    refine sweeps_of_within
      (within_bind (keeping_withModule fun m => (m.owns_waitForSlot patience).reaches)
        fun event => ?_)
    rcases event with f | _ | id
    · exact within_pure _
    · exact within_pure _
    · exact within_bind (hregister id) fun _ => within_pure _
  | info => exact sweeps_of_within (keeping_withModule fun m => within_pure _)
  | slotList tokenPresent =>
    exact sweeps_of_within (keeping_withModule fun m => (m.owns_slotList tokenPresent).reaches)
  | openSlotByLabel label =>
    exact sweeps_of_within
      (keeping_withModule fun m => reaches_effect h m (.openSlotByLabel label) (by simp))
  | openSessions =>
    exact sweeps_of_within (keeping_withModule fun m => reaches_effect h m .openSessions (by simp))

lemma SlotOp.sweeps (o : SlotOp) : (o.program h s).Sweeps := by
  by_cases ho : o = .close
  · subst ho
    refine sweeps_of_within (within_bind (keeping_withSlot fun _ _ => within_pure _) fun r => ?_)
    rcases r with f | _
    · exact within_pure _
    refine within_bind (within_touch.mpr trivial) fun gone => ?_
    rcases gone with f | slot
    · exact within_pure _
    · exact within_pure _
  · rw [o.program_eq ho]
    exact sweeps_of_within (keeping_withSlot fun m id => reaches_effect s m id o)

/-- Makes calls one after the other, whatever they answer. -/
def perform : List Operation → Program Unit
  | [] => return ()
  | o :: os => do
    let _ : Except Fault o.Answer ← o.program
    perform os

lemma sweeps_perform {os : List Operation} (hos : ∀ o ∈ os, o.target ≠ none) :
    (perform os).Sweeps := by
  induction os with
  | nil => trivial
  | cons o os ih =>
    obtain ⟨ho, hrest⟩ := List.forall_mem_cons.mp hos
    refine sweeps_bind ?_ fun _ => ih hrest
    cases o with
    | load loader path => exact absurd rfl ho
    | onModule h o => exact o.sweeps
    | onSlot h s o => exact o.sweeps

end Host

/-! ### Single accesses -/

namespace Process

variable {p : Process} {a : Access} {h : Handle}

lemma sound_slots_apply (hp : p.slots.Sound) (a : Access) : (a.apply p).2.slots.Sound := by
  cases a with
  | insertSlot k => exact hp.insert k
  | removeSlot h => exact hp.remove h
  | removeSlotsOf h => exact hp.removeWhere _
  | resolveModule h =>
    rw [Access.apply]
    split
    · exact hp
    · exact hp
  | _ => exact hp

/-- What is found in the registry of slots after an access was there before, or it is the slot that
was registered. -/
lemma find?_slots_apply (hp : p.slots.Sound) {s : Handle} {k : Slot}
    (hf : (a.apply p).2.slots.find? s = some k) :
    a = .insertSlot k ∨ p.slots.find? s = some k ∧ a ≠ .removeSlotsOf k.module := by
  cases a with
  | insertSlot k' =>
    obtain hold | ⟨-, rfl⟩ := hp.find?_of_insert hf
    · exact .inr ⟨hold, by simp⟩
    · exact .inl rfl
  | removeSlot s' =>
    rw [Access.apply, Handle.Table.find?_remove] at hf
    split_ifs at hf
    exact .inr ⟨hf, by simp⟩
  | removeSlotsOf h =>
    rw [Access.apply, Handle.Table.find?_removeWhere, Option.filter_eq_some_iff] at hf
    refine .inr ⟨hf.1, ?_⟩
    rintro heq
    cases heq
    simp at hf
  | resolveModule h =>
    rw [Access.apply] at hf
    refine .inr ⟨?_, by simp⟩
    split at hf
    · exact hf
    · exact hf
  | _ => exact .inr ⟨hf, by simp⟩

/-- Unless a module is registered, the registry of modules loses the one that is taken out and
nothing else. -/
lemma find?_modules_apply (ha : ∀ m, a ≠ .insertModule m) :
    (a.apply p).2.modules.find? h =
      if a = .removeModule h then none else p.modules.find? h := by
  cases a with
  | insertModule m => exact absurd rfl (ha m)
  | removeModule k =>
    rw [Access.apply, Handle.Table.find?_remove]
    by_cases hk : h = k
    · simp [hk]
    · simp [hk, Ne.symm hk]
  | resolveModule k =>
    rw [Access.apply]
    split
    · rfl
    · rfl
  | _ => rfl

end Process

/-! ### Threads -/

/-- What a step makes of the registries. A slot that is found afterwards was found before and not
swept, or the step registered it. A module that is not found is never found again, and one that goes
is swept next. -/
structure Program.Swept (p q : Program α) (before after : Process) : Prop where
  sweeps : q.Sweeps
  sound : after.slots.Sound
  slots : ∀ s k, after.slots.find? s = some k →
    p.toRegister? = some k ∨ before.slots.find? s = some k ∧ p.toSweep? ≠ some k.module
  gone : ∀ h, before.modules.find? h = none → after.modules.find? h = none
  goes : ∀ h, after.modules.find? h = none →
    before.modules.find? h = none ∨ q.toSweep? = some h

lemma Program.Sweeps.swept_access {a : Process.Access} {next : a.Answer → Program α} {p : Process}
    (hp : (access a next).Sweeps) (hsound : p.slots.Sound) :
    Swept (access a next) (next (a.apply p).1) p (a.apply p).2 where
  sweeps := hp.of_access.2 _
  sound := sound_slots_apply hsound a
  slots s k hf := by
    obtain rfl | ⟨hold, hother⟩ := find?_slots_apply hsound hf
    · exact .inl rfl
    · refine .inr ⟨hold, fun hsweep => ?_⟩
      cases a with
      | removeSlotsOf h =>
        cases hsweep
        exact hother rfl
      | _ => cases hsweep
  gone h hnone := by
    rw [find?_modules_apply hp.of_access.1]
    split_ifs
    · rfl
    · exact hnone
  goes h hnone := by
    rw [find?_modules_apply hp.of_access.1] at hnone
    split_ifs at hnone with hremove
    · subst hremove
      -- If there was a module to take out, the program goes on with its slots.
      rcases hf : p.modules.find? h with _ | m
      · exact .inl rfl
      · refine .inr ?_
        have hanswer : (Access.apply p (.removeModule h)).1 = .ok m := by
          rw [Access.apply, Handle.Table.remove, hf]
        rw [hanswer]
        exact hp.1 m
    · exact .inl hnone

/-- A step that is no access leaves the registries as they are. -/
lemma Program.swept_of_idle {p q : Program α} {before : Process} (hq : q.Sweeps)
    (hsweep : p.toSweep? = none) (hsound : before.slots.Sound) : Swept p q before before where
  sweeps := hq
  sound := hsound
  slots s k hf := .inr ⟨hf, by simp [hsweep]⟩
  gone _ hnone := hnone
  goes _ hnone := .inl hnone

/-- **One step** of a program that sweeps. -/
lemma Program.Sweeps.swept {p : Program α} (hp : p.Sweeps) (env : Environment σ) {w : World σ}
    (hsound : w.process.slots.Sound) :
    p.Swept (p.step env w).1 w.process (p.step env w).2.process := by
  cases p with
  | access a next => exact hp.swept_access hsound
  | done a => exact swept_of_idle trivial rfl hsound
  | request r next => exact swept_of_idle (hp _) rfl hsound
  | log l next => exact swept_of_idle hp rfl hsound

namespace Threads

/-- At some moment a thread was about to register the slot, and the module of the slot was not
registered any more. -/
def RegisteredLate (env : Environment σ) (t : Threads σ α) (schedule : List ℕ) (k : Slot) : Prop :=
  ∃ before i later p, schedule = before ++ i :: later ∧
    (t.run env before).programs[i]? = some p ∧ p.toRegister? = some k ∧
    (t.run env before).world.process.modules.find? k.module = none

/-- A slot that is found has its module, or it is about to be swept, or it was registered late. And
what was registered late has no module. -/
structure Watched (env : Environment σ) (t : Threads σ α) (schedule : List ℕ) : Prop where
  sweeps : ∀ p ∈ (t.run env schedule).programs, p.Sweeps
  sound : (t.run env schedule).world.process.slots.Sound
  slots : ∀ s k, (t.run env schedule).world.process.slots.find? s = some k →
    (t.run env schedule).world.process.modules.find? k.module ≠ none ∨
      (∃ (i : ℕ) (p : Program α),
        (t.run env schedule).programs[i]? = some p ∧ p.toSweep? = some k.module) ∨
      t.RegisteredLate env schedule k
  late : ∀ k, t.RegisteredLate env schedule k →
    (t.run env schedule).world.process.modules.find? k.module = none

variable {env : Environment σ} {t : Threads σ α} {schedule : List ℕ} {i : ℕ}

lemma run_append_singleton (env : Environment σ) (t : Threads σ α) (schedule : List ℕ) (i : ℕ) :
    t.run env (schedule ++ [i]) = (t.run env schedule).step env i := by
  rw [run, List.foldl_append]
  rfl

lemma registeredLate_append {k : Slot} : t.RegisteredLate env (schedule ++ [i]) k ↔
    t.RegisteredLate env schedule k ∨ ∃ p, (t.run env schedule).programs[i]? = some p ∧
      p.toRegister? = some k ∧ (t.run env schedule).world.process.modules.find? k.module = none := by
  constructor
  · rintro ⟨before, j, later, p, heq, hp, hk, hnone⟩
    rcases List.eq_nil_or_concat later with rfl | ⟨later, l, rfl⟩
    · obtain ⟨rfl, hij⟩ := List.append_inj' heq rfl
      cases hij
      exact .inr ⟨p, hp, hk, hnone⟩
    · rw [List.concat_eq_append] at heq
      have hsplit : schedule ++ [i] = (before ++ j :: later) ++ [l] := by simpa using heq
      exact .inl ⟨before, j, later, p, (List.append_inj' hsplit rfl).1, hp, hk, hnone⟩
  · rintro (⟨before, j, later, p, rfl, hp, hk, hnone⟩ | ⟨p, hp, hk, hnone⟩)
    · exact ⟨before, j, later ++ [i], p, by simp, hp, hk, hnone⟩
    · exact ⟨schedule, i, [], p, rfl, hp, hk, hnone⟩

lemma Watched.start (env : Environment σ) (hsweeps : ∀ p ∈ t.programs, p.Sweeps)
    (hsound : t.world.process.slots.Sound) (hanchored : Host.Anchored t.world.process) :
    t.Watched env [] where
  sweeps := hsweeps
  sound := hsound
  slots s k hf := by
    obtain ⟨m, hm⟩ := hanchored.owned s k hf
    exact .inl fun hnone => absurd (hnone.symm.trans hm) (by simp)
  late k hlate := by
    obtain ⟨before, j, later, p, heq, -⟩ := hlate
    simp at heq

lemma Watched.step (hw : t.Watched env schedule) (i : ℕ) : t.Watched env (schedule ++ [i]) := by
  rcases hi : (t.run env schedule).programs[i]? with _ | p
  · have hsame : t.run env (schedule ++ [i]) = t.run env schedule := by
      rw [run_append_singleton, Threads.step, hi]
    have hlate (k : Slot) :
        t.RegisteredLate env (schedule ++ [i]) k ↔ t.RegisteredLate env schedule k := by
      simp [registeredLate_append, hi]
    refine ⟨hsame ▸ hw.sweeps, hsame ▸ hw.sound, ?_, ?_⟩
    · simpa only [hsame, hlate] using hw.slots
    · simpa only [hsame, hlate] using hw.late
  have hrun : t.run env (schedule ++ [i]) = ⟨(t.run env schedule).programs.set i
      (p.step env (t.run env schedule).world).1, (p.step env (t.run env schedule).world).2⟩ := by
    rw [run_append_singleton, Threads.step, hi]
  have hstep := (hw.sweeps p (List.mem_of_getElem? hi)).swept env hw.sound
  have hself : (t.run env (schedule ++ [i])).programs[i]? =
      some (p.step env (t.run env schedule).world).1 := by
    rw [hrun, List.getElem?_set_self (List.getElem?_eq_some_iff.mp hi).1]
  generalize (p.step env (t.run env schedule).world).1 = q at hrun hstep hself
  generalize (p.step env (t.run env schedule).world).2 = v at hrun hstep
  refine ⟨?_, by rw [hrun]; exact hstep.sound, fun s k hf => ?_, fun k hk => ?_⟩
  · rw [hrun]
    intro r hr
    obtain hold | rfl := List.mem_or_eq_of_mem_set hr
    · exact hw.sweeps r hold
    · exact hstep.sweeps
  · rw [hrun] at hf
    -- A module that is taken out leaves its slots to the next step of the same thread.
    have hstays (hfound : (t.run env schedule).world.process.modules.find? k.module ≠ none) :
        (t.run env (schedule ++ [i])).world.process.modules.find? k.module ≠ none ∨
          (∃ (j : ℕ) (r : Program α), (t.run env (schedule ++ [i])).programs[j]? = some r ∧
            r.toSweep? = some k.module) ∨ t.RegisteredLate env (schedule ++ [i]) k := by
      rw [or_iff_not_imp_left, not_not]
      intro hnone
      rw [hrun] at hnone
      exact .inl ⟨i, q, hself, (hstep.goes _ hnone).resolve_left hfound⟩
    obtain hregister | ⟨hold, hother⟩ := hstep.slots s k hf
    · by_cases hnone : (t.run env schedule).world.process.modules.find? k.module = none
      · exact .inr (.inr (registeredLate_append.mpr (.inr ⟨p, hi, hregister, hnone⟩)))
      · exact hstays hnone
    · obtain hfound | ⟨j, r, hr, hsweep⟩ | hlate := hw.slots s k hold
      · exact hstays hfound
      · have hj : i ≠ j := by
          rintro rfl
          rw [hi] at hr
          cases hr
          exact hother hsweep
        exact .inr (.inl ⟨j, r, by rw [hrun, List.getElem?_set_ne hj, hr], hsweep⟩)
      · exact .inr (.inr (registeredLate_append.mpr (.inl hlate)))
  · rw [hrun]
    obtain hold | ⟨-, -, -, hnone⟩ := registeredLate_append.mp hk
    · exact hstep.gone _ (hw.late k hold)
    · exact hstep.gone _ hnone

lemma Watched.run (hw : t.Watched env []) (schedule : List ℕ) : t.Watched env schedule := by
  induction schedule using List.reverseRecOn with
  | nil => exact hw
  | append_singleton schedule i ih => exact ih.step i

end Threads

namespace Host

/-- Threads that begin where a site is, each of which makes one call after the other. -/
def Site.employ (s : Site σ) (work : List (List Operation)) : Threads σ Unit :=
  ⟨work.map perform, s.world⟩

/-- **A slot is left behind exactly if it was registered late.** After any run, threads make calls
on modules and slots at the same time and go on in any order. When all calls are over, the module of
a slot that is found is not registered exactly if it was not registered any more when the slot
was. -/
theorem stray_iff_registered_late (env : Environment σ) (start : σ) (steps : List (Step σ))
    (work : List (List Operation)) (hwork : ∀ os ∈ work, ∀ o ∈ os, o.target ≠ none)
    (schedule : List ℕ) :
    let t := ((Site.initial start).after env steps).employ work
    let w := (t.run env schedule).world
    (∀ p ∈ (t.run env schedule).programs, p.quiet = true) →
      ∀ s k, w.process.slots.find? s = some k →
        (w.process.modules.find? k.module = none ↔ t.RegisteredLate env schedule k) := by
  intro t w hover s k hfound
  have hwatched : t.Watched env schedule := by
    refine Threads.Watched.run (.start env (fun p hp => ?_) ?_ ?_) schedule
    · obtain ⟨os, hos, rfl⟩ := List.mem_map.mp hp
      exact sweeps_perform (hwork os hos)
    · exact (Site.accounted_after env (s := .initial start) accounted_initial steps).slots.sound
    · exact Site.anchored_after env (s := .initial start) accounted_initial anchored_initial steps
  refine ⟨fun hnone => ?_, hwatched.late k⟩
  obtain hmodule | ⟨i, p, hi, hsweep⟩ | hlate := hwatched.slots s k hfound
  · exact absurd hnone hmodule
  · rw [toSweep?_of_quiet (hover p (List.mem_of_getElem? hi))] at hsweep
    cases hsweep
  · exact hlate

/-! ### A slot that is registered late -/

/-- The handle of the first module of a process. -/
def firstModule : Handle := .pack moduleTag 1 0

/-- A module is loaded. Then one thread opens a slot of it while the other one unloads it. -/
def openAndUnload : Threads Simulated.Timeline Unit :=
  ((Site.initial (Simulated.Timeline.start .standard)).after Simulated.environment
    [.call (.load .supplied "libmock.so")]).employ
    [[.onModule firstModule (.openSlot 0)], [.onModule firstModule .unload]]

/-- The unload begins and ends between the answer of the library and the registration. -/
def unloadFirst : List ℕ := [0, 0] ++ List.replicate 4 1 ++ List.replicate 9 0

/-- All calls are over, the module is unloaded, and the registry still has a slot of it. -/
lemma run_unloadFirst :
    (∀ p ∈ (openAndUnload.run Simulated.environment unloadFirst).programs, p.quiet = true) ∧
      (openAndUnload.run Simulated.environment unloadFirst).world.process.slots.find?
        (.pack slotTag 1 0) = some ⟨0, firstModule⟩ ∧
      (openAndUnload.run Simulated.environment unloadFirst).world.process.modules.find?
        firstModule = none := by
  decide +kernel

/-- The hypotheses hold when a module is unloaded while a slot of it is opened. -/
theorem stray_iff_registered_late_of_unload :
    (∀ p ∈ (openAndUnload.run Simulated.environment unloadFirst).programs, p.quiet = true) ∧
      openAndUnload.RegisteredLate Simulated.environment unloadFirst ⟨0, firstModule⟩ := by
  obtain ⟨hover, hfound, hnone⟩ := run_unloadFirst
  have hwork : ∀ os ∈ [[Operation.onModule firstModule (.openSlot 0)],
      [.onModule firstModule .unload]], ∀ o ∈ os, o.target ≠ none := by
    simp [Operation.target]
  have hiff := stray_iff_registered_late Simulated.environment (.start .standard)
    [.call (.load .supplied "libmock.so")] _ hwork unloadFirst
  change (∀ p ∈ (openAndUnload.run Simulated.environment unloadFirst).programs,
    p.quiet = true) → _ at hiff
  exact ⟨hover, (hiff hover _ _ hfound).mp hnone⟩

/-- When all calls are over, not every slot that is found is one of a module that is found. -/
theorem slot_outlives_module :
    let t := openAndUnload.run Simulated.environment unloadFirst
    (∀ p ∈ t.programs, p.quiet = true) ∧
      ¬ ∀ s k, t.world.process.slots.find? s = some k →
        t.world.process.modules.find? k.module ≠ none := by
  obtain ⟨hover, hfound, hnone⟩ := run_unloadFirst
  exact ⟨hover, fun howned => howned _ _ hfound hnone⟩

end Host

end Cryptoki
