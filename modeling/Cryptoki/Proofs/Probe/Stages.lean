import Cryptoki.Proofs.Host.Registries
import Cryptoki.Proofs.Probe.Commands

/-!
The parts of a run of the probe: a load, a command, and an unload.

A load that succeeds adds one module to the process, under a handle of its own and with no reference
but that of the handle. No command changes that. So the unload finds the module and gives back the
last reference to it, which ends it.
-/

namespace Cryptoki

open Process Program

namespace Host

variable {σ : Type} {env : Environment σ} {w : World σ} {held : List Module} {h : Handle}
  {m : Module}

/-- The process has one module more, under a handle of its own. -/
structure Joined (p q : Process) (h : Handle) (m : Module) : Prop where
  id : m.id = p.attempts
  handle : h = (p.modules.insert m).1
  modules : q.modules = (p.modules.insert m).2
  slots : q.slots = p.slots
  attempts : q.attempts = p.attempts + 1
  loading : q.loading = p.loading + 1
  references : ∀ j, q.references j = p.references j + one m.id j
  sessions : q.sessionsOf m.id = .empty

/-- The process is without the module under a handle, and without its slots. -/
structure Parted (p q : Process) (h : Handle) (m : Module) : Prop where
  modules : q.modules = (p.modules.remove h).2
  slots : q.slots = (p.slots.removeWhere fun k => k.module == h).2
  attempts : q.attempts = p.attempts
  loading : q.loading = p.loading - 1
  references : ∀ j, q.references j = p.references j - one m.id j

lemma joined_load (loader : Loader) (path : String) (hw : Accounted w.process held)
    (hloaded : ((load loader path).run env w).1 = .ok h) :
    ∃ m, ((Module.load loader path).run env w).1 = .ok m ∧
      Joined w.process ((load loader path).run env w).2.process h m := by
  rw [load] at hloaded ⊢
  split_ifs at hloaded ⊢
  · cases hloaded
  rw [run_bind] at hloaded ⊢
  have hnum := Module.numbered_load env loader path w
  have hprocess := Module.process_load env loader path w
  generalize (Module.load loader path).run env w = r at hnum hprocess hloaded ⊢
  obtain ⟨f | m, v⟩ := r
  · cases hloaded
  have hid : m.id = w.process.attempts := hnum.id m rfl
  have hhandle : (v.process.modules.insert m).1 = h := Except.ok.inj hloaded
  refine ⟨m, rfl, hid, ?_, ?_, hnum.slots, hnum.attempts, ?_, fun j => ?_, hnum.sessions m rfl⟩
  · rw [← hhandle, hnum.modules]
  · rw [← hnum.modules]
    rfl
  · show v.process.loading = _
    rw [hprocess]
    rfl
  · show v.process.references j = _
    rw [hnum.references, hid, one]
    by_cases hj : j = w.process.attempts
    · rw [if_pos ⟨rfl, hj⟩, if_pos hj, hw.fresh j hj.ge]
    · rw [if_neg fun hc => hj hc.2, if_neg hj]
      rfl

/-- To register a module nothing is asked. -/
lemma asked_load (env : Environment σ) (loader : Loader) {path : String} (hpath : path ≠ "")
    (w : World σ) : (load loader path).asked env w = (Module.load loader path).asked env w := by
  rw [load, if_neg (by simpa using hpath), asked_bind]
  rcases ((Module.load loader path).run env w).1 with f | m
  · rw [asked_pure, List.append_nil]
  · rw [asked_bind, asked_bind, asked_touch, asked_say, asked_pure]
    exact List.append_nil _

/-- A module with no reference but that of its handle ends when it is unloaded. -/
lemma unload_last (env : Environment σ) (hf : w.process.modules.find? h = some m)
    (hone : w.process.references m.id = 1) :
    ((unload h).run env w).1 = .ok () ∧
      Parted w.process ((unload h).run env w).2.process h m ∧
      ∃ code, (unload h).asked env w =
        [.asked (.call m.id (.finalize false)) code, .asked (.closeLibrary m.id) ()] := by
  obtain ⟨before, v, hbefore, -, hv, hdeeds, hrun⟩ := unload_found env hf
  have hlast : v.process.references m.id = 1 := by
    rw [hv]
    exact hone
  obtain ⟨hmore, -⟩ | ⟨-, left, code, last, hrelease⟩ :=
    Module.deeds_release env (w := v) (m := m) (by rw [hlast]; exact Nat.one_pos)
  · omega
  refine ⟨?_, ?_, code, ?_⟩
  · have hremove : (Access.apply w.process (.removeModule h)).1 = .ok m := by
      simp [Access.apply, Handle.Table.remove, hf]
    rw [unload, run_bind, run_touch, hremove]
    dsimp only
    rw [run_bind, run_bind, run_bind, run_pure]
  · have hbooks := Module.books_release env m v
    have hprocess := run_process env m.release v
    rw [hrelease] at hprocess
    rw [hv] at hbooks hprocess
    rw [hrun]
    refine ⟨hbooks.modules, hbooks.slots, hbooks.attempts, ?_, fun j => ?_⟩
    · rw [hprocess]
      rfl
    · rw [hbooks.references, references_release]
      rfl
  · have hnone : before.filter Deed.isAsked = [] := by
      refine List.filter_eq_nil_iff.mpr fun x hx => ?_
      have hwithin := hbefore x hx
      cases x with
      | asked r x => exact hwithin.elim
      | accessed a x => exact Bool.false_ne_true
    rw [asked, hdeeds, hrelease, List.filter_append, hnone]
    rfl

/-- The new handle finds the new module, as long as there is room for it. -/
lemma Joined.find {p q : Process} (hj : Joined p q h m) (hp : Accounted p held)
    (hroom : p.modules.entries.size < Handle.Table.capacity) : q.modules.find? h = some m := by
  rw [hj.modules, hj.handle,
    hp.modules.sound.find?_insert m (Handle.Table.fits_insert hroom m), if_pos rfl]

lemma Joined.references_self {p q : Process} (hj : Joined p q h m) (hp : Accounted p held) :
    q.references m.id = 1 := by
  rw [hj.references, hp.fresh m.id hj.id.ge, one, if_pos rfl]

end Host

namespace Probe

open Host

variable {σ : Type} {env : Environment σ} {w : World σ} {held : List Module} {h : Handle}
  {loader : Loader} {settings : Settings} {c : CommandLine.Command} {patience : ℕ}

lemma Permitted.steady {secret : Option Bytes} {o : Operation} (ho : Permitted h secret o)
    (hw : Accounted w.process held) :
    w.process.Steady (o.program.run env w).2.process := by
  cases o with
  | load loader path => exact ho.elim
  | onModule k o => exact o.steady hw ho.2
  | onSlot k s o => exact o.steady hw

/-- A command leaves all modules and all references to them as they are. -/
lemma steady_command (env : Environment σ) (h : Handle) (settings : Settings) (patience : ℕ)
    (c : CommandLine.Command) (hw : Accounted w.process held) :
    Accounted ((command h settings patience c).run env w).2.process held ∧
      w.process.Steady ((command h settings patience c).run env w).2.process := by
  refine (calls_command h settings patience c).run_keeps
    (I := fun u => Accounted u.process held ∧ w.process.Steady u.process) env ?_
    ⟨hw, Steady.refl _⟩
  rintro o u ho ⟨hu, hsteady⟩
  exact ⟨accounted_operation o hu, hsteady.trans (ho.steady hu)⟩

/-- How a run of the probe goes. The load is refused, or a module joins the process; the command
still waits, or it comes to an end and the module parts from the process again. -/
inductive Went (env : Environment σ) (loader : Loader) (settings : Settings)
    (c : CommandLine.Command) (patience : ℕ) (w : World σ) :
    Option (Except Failure Report) × World σ → List Deed → Prop
  | refused {f : Fault} {v : World σ}
      (hload : (load loader settings.libraryPath).run env w = (.error f, v)) :
      Went env loader settings c patience w (some (.error (.fault f)), v)
        ((load loader settings.libraryPath).asked env w)
  | waiting {h : Handle} {v u : World σ}
      (hload : (load loader settings.libraryPath).run env w = (.ok h, v))
      (hcommand : (command h settings patience c).run env v = (none, u)) :
      Went env loader settings c patience w (none, u)
        ((load loader settings.libraryPath).asked env w ++
          (command h settings patience c).asked env v)
  | done {h : Handle} {m : Module} {v u t : World σ} {r : Except Failure Report} (code : Code)
      (hload : (load loader settings.libraryPath).run env w = (.ok h, v))
      (hmade : ((Module.load loader settings.libraryPath).run env w).1 = .ok m)
      (hjoined : Joined w.process v.process h m)
      (hcommand : (command h settings patience c).run env v = (some r, u))
      (hsteady : v.process.Steady u.process)
      (hunload : (Host.unload h).run env u = (.ok (), t))
      (hparted : Parted u.process t.process h m) :
      Went env loader settings c patience w (some r, t)
        ((load loader settings.libraryPath).asked env w ++
          ((command h settings patience c).asked env v ++
            [.asked (.call m.id (.finalize false)) code, .asked (.closeLibrary m.id) ()]))

/-- **Every run goes so.** -/
theorem went_run (env : Environment σ) (loader : Loader) (settings : Settings)
    (c : CommandLine.Command) (patience : ℕ) (hw : Accounted w.process held)
    (hroom : w.process.modules.entries.size < Handle.Table.capacity) :
    Went env loader settings c patience w ((run loader settings c patience).run env w)
      ((run loader settings c patience).asked env w) := by
  rw [run, run_bind, asked_bind]
  rcases hload : (load loader settings.libraryPath).run env w with ⟨f | h, v⟩
  · rw [run_pure, asked_pure, List.append_nil]
    exact .refused hload
  have hloaded : ((load loader settings.libraryPath).run env w).1 = .ok h := by rw [hload]
  obtain ⟨m, hmade, hjoined⟩ := joined_load loader settings.libraryPath hw hloaded
  have hv : Accounted ((load loader settings.libraryPath).run env w).2.process held :=
    accounted_load loader settings.libraryPath hw
  rw [hload] at hjoined hv
  dsimp only at hjoined hv ⊢
  obtain ⟨hu, hsteady⟩ := steady_command env h settings patience c hv
  rw [run_bind, asked_bind]
  rcases hcommand : (command h settings patience c).run env v with ⟨_ | r, u⟩
  · rw [run_pure, asked_pure, List.append_nil]
    exact .waiting hload hcommand
  rw [hcommand] at hu hsteady
  have hfind : u.process.modules.find? h = some m := by
    rw [hsteady.modules]
    exact hjoined.find hw hroom
  have hone : u.process.references m.id = 1 := by
    rw [hsteady.references]
    exact hjoined.references_self hw
  obtain ⟨hanswer, hparted, code, hasked⟩ := unload_last env hfind hone
  have hunload : (Host.unload h).run env u = (.ok (), ((Host.unload h).run env u).2) :=
    Prod.ext hanswer rfl
  have hclean : (cleanUp h).run env u = ((), ((Host.unload h).run env u).2) := by
    rw [cleanUp, run_bind, hunload]
    rfl
  have hcleaned : (cleanUp h).asked env u = (Host.unload h).asked env u := by
    rw [cleanUp, asked_bind, hunload]
    exact List.append_nil _
  dsimp only
  rw [run_bind, hclean, run_pure, asked_bind, hcleaned, hasked, asked_pure, List.append_nil]
  exact .done code hload hmade hjoined hcommand hsteady hunload hparted

end Probe

end Cryptoki
