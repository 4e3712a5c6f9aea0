import Cryptoki.Proofs.Host.Agreement

/-!
Runs of a host, step after step, and what every step keeps true.

A host calls operations, holds on to modules and lets them go, and uses what it holds. It also
keeps the loading subsystem alive as it pleases. Between two steps anything may happen outside.
-/

namespace Cryptoki.Host

open Process Program

variable {σ : Type}

/-- A host and all that it works on. -/
structure Site (σ : Type) where
  world : World σ
  /-- The modules the host holds on to, the latest first. -/
  held : List Module
  /-- The references to the loading subsystem that the host took itself. -/
  acquired : ℕ

inductive Step (σ : Type) where
  | call (o : Operation)
  /-- Finds a module and holds on to it. -/
  | hold (h : Handle)
  /-- Uses a module it holds, the one held last being number zero. -/
  | use (k : ℕ) (o : Module.Method)
  | letGo (k : ℕ)
  | acquire
  | giveBack
  /-- Something happens outside. -/
  | change (f : σ → σ)

namespace Site

def initial (outside : σ) : Site σ := ⟨.initial outside, [], 0⟩

def step (env : Environment σ) (s : Site σ) : Step σ → Site σ
  | .call o => { s with world := (o.program.run env s.world).2 }
  | .hold h =>
    let (found, world) := (Host.hold h).run env s.world
    match found with
    | .ok m => { s with world, held := m :: s.held }
    | .error _ => { s with world }
  | .use k o =>
    match s.held[k]? with
    | some m => { s with world := ((o.program m).run env s.world).2 }
    | none => s
  | .letGo k =>
    match s.held[k]? with
    | some m => { s with world := (m.release.run env s.world).2, held := s.held.eraseIdx k }
    | none => s
  | .acquire =>
    { s with world := (Loading.acquire.run env s.world).2, acquired := s.acquired + 1 }
  | .giveBack =>
    if s.acquired = 0 then s
    else { s with world := (Loading.release.run env s.world).2, acquired := s.acquired - 1 }
  | .change f => { s with world := { s.world with outside := f s.world.outside } }

/-- The site after a run of steps. -/
def after (env : Environment σ) (s : Site σ) (steps : List (Step σ)) : Site σ :=
  steps.foldl (step env) s

@[simp] lemma after_nil (env : Environment σ) (s : Site σ) : s.after env [] = s := rfl

@[simp] lemma after_cons (env : Environment σ) (s : Site σ) (st : Step σ)
    (steps : List (Step σ)) : s.after env (st :: steps) = (s.step env st).after env steps := rfl

lemma after_append (env : Environment σ) (s : Site σ) (steps more : List (Step σ)) :
    s.after env (steps ++ more) = (s.after env steps).after env more := List.foldl_append

end Site

/-! ### The books -/

variable {env : Environment σ} {w : World σ} {held : List Module}

lemma accounted_load (loader : Loader) (path : String) (hw : Accounted w.process held) :
    Accounted ((Host.load loader path).run env w).2.process held := by
  rw [Host.load]
  split_ifs
  · exact hw
  rw [run_bind]
  have hnum := Module.numbered_load env loader path w
  generalize (Module.load loader path).run env w = r at hnum ⊢
  obtain ⟨f | m, v⟩ := r
  · exact hnum.accounted_refused hw
  · exact (hnum.accounted_loaded hw).insertModule

lemma accounted_moduleOp (h : Handle) (o : ModuleOp) (hw : Accounted w.process held) :
    Accounted ((o.program h).run env w).2.process held := by
  obtain ⟨m, hf, hagree⟩ | ⟨kind, hrefuses⟩ := o.agree_or_refuses env hw h
  swap
  · exact hw.books hrefuses.world.process.symm.books
  refine Accounted.books ?_ hagree.world.process.symm.books
  by_cases ho : o = .unload
  · -- The reference of the registry becomes the caller's, who gives it back last.
    subst ho
    rw [ModuleOp.effect, run_bind, run_touch, run_bind, run_touch, run_bind, run_say, run_bind,
      run_pure]
    exact Module.accounted_release env
      ((hw.removeModule hf).neutral (a := .removeSlotsOf h) trivial)
  · exact (ModuleOp.neutral_effect h m o ho).accounted env hw

lemma accounted_slotOp (h s : Handle) (o : SlotOp) (hw : Accounted w.process held) :
    Accounted ((o.program h s).run env w).2.process held := by
  obtain ⟨m, id, -, -, hagree⟩ | ⟨kind, k, hrefuses⟩ := o.agree_or_refuses env hw h s
  · exact ((SlotOp.neutral_effect s m id o).accounted env hw).books
      hagree.world.process.symm.books
  · exact hw.books hrefuses.world.process.symm.books

lemma accounted_operation (o : Operation) (hw : Accounted w.process held) :
    Accounted (o.program.run env w).2.process held := by
  cases o with
  | load loader path => exact accounted_load loader path hw
  | onModule h o => exact accounted_moduleOp h o hw
  | onSlot h s o => exact accounted_slotOp h s o hw

lemma perm_eraseIdx {l : List Module} {k : ℕ} {m : Module} (hk : l[k]? = some m) :
    l.Perm (m :: l.eraseIdx k) := by
  obtain ⟨hlt, rfl⟩ := List.getElem?_eq_some_iff.mp hk
  exact (List.getElem_cons_eraseIdx_perm hlt).symm

lemma Site.accounted_step (env : Environment σ) {s : Site σ}
    (hs : Accounted s.world.process s.held) (st : Step σ) :
    Accounted (s.step env st).world.process (s.step env st).held := by
  cases st with
  | call o => exact accounted_operation o hs
  | hold h =>
    rcases hf : s.world.process.modules.find? h with _ | m
    · rw [step, run_hold_stale hf]
      exact hs
    · rw [step, run_hold hf]
      exact hs.retain (hs.id_lt hf)
  | use k o =>
    rcases hk : s.held[k]? with _ | m
    · simpa only [step, hk] using hs
    · simpa only [step, hk] using (m.owns_method o).neutral.accounted env hs
  | letGo k =>
    rcases hk : s.held[k]? with _ | m
    · simpa only [step, hk] using hs
    · simpa only [step, hk] using Module.accounted_release env (hs.perm (perm_eraseIdx hk))
  | acquire => exact hs.books (Module.books_acquire env s.world)
  | giveBack =>
    rw [step]
    split_ifs
    · exact hs
    · exact hs.books (Module.books_giveBack env s.world)
  | change f => exact hs

/-- **The books are in order after every run.** -/
theorem Site.accounted_after (env : Environment σ) {s : Site σ}
    (hs : Accounted s.world.process s.held) (steps : List (Step σ)) :
    Accounted (s.after env steps).world.process (s.after env steps).held := by
  induction steps generalizing s with
  | nil => exact hs
  | cons st steps ih => exact ih (accounted_step env hs st)

end Cryptoki.Host
