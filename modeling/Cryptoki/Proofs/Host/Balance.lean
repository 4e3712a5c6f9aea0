import Cryptoki.Proofs.Host.Steps
import Cryptoki.Proofs.Library.Tally

/-!
Everything that was taken is given back.

The count of references to the loading subsystem, the library in memory and its mutex are three
components that know nothing of each other. What they have in common is the number of modules that
are alive: it is what each of them counts. A load takes all three up together or leaves them as
they were, and the end of a module takes them down together, in whichever step it comes.
-/

namespace Cryptoki

open Process Program

/-! ### The loading subsystem -/

namespace Deed

/-- Where these deeds begin in this process, none of them gives a reference to the loading subsystem
back when there is none. -/
def Paid (p : Process) (d : List Deed) : Prop :=
  ∀ before last after, d = before ++ .accessed .releaseLoading last :: after →
    0 < (before.foldl leave p).loading

variable {p : Process} {d e : List Deed}

lemma paid_of_none (h : ∀ x ∈ d, ∀ last, x ≠ .accessed .releaseLoading last) : Paid p d := by
  rintro before last after rfl
  exact absurd rfl (h _ (List.mem_append_right _ List.mem_cons_self) last)

lemma Paid.append (hd : Paid p d) (he : Paid (d.foldl leave p) e) : Paid p (d ++ e) := by
  intro before last after heq
  rcases List.append_eq_append_iff.mp heq with ⟨rest, rfl, hrest⟩ | ⟨rest, hbefore, hrest⟩
  · rw [List.foldl_append]
    exact he rest last after hrest
  · rcases rest with _ | ⟨x, rest⟩
    · have hstart : e = [] ++ .accessed .releaseLoading last :: after := by simpa using hrest.symm
      rw [List.append_nil] at hbefore
      rw [← hbefore]
      exact he [] last after hstart
    · obtain ⟨rfl, -⟩ := List.cons.inj hrest
      exact hd before last rest hbefore

lemma paid_release (hp : 0 < p.loading) (last : Bool) :
    Paid p [.accessed .releaseLoading last] := by
  intro before other after heq
  obtain rfl : before = [] := by
    rcases before with _ | ⟨x, before⟩
    · rfl
    · have hlength := congrArg List.length heq
      simp at hlength
  exact hp

/-- Plain accesses, and requests, do not touch the loading subsystem. -/
lemma loading_foldl {R : Request → Prop} (h : ∀ x ∈ d, x.Within Access.Plain R) :
    (d.foldl leave p).loading = p.loading := by
  induction d generalizing p with
  | nil => rfl
  | cons x d ih =>
    obtain ⟨hx, hrest⟩ := List.forall_mem_cons.mp h
    refine (ih hrest).trans ?_
    cases x with
    | asked r x => rfl
    | accessed a x =>
      cases a with
      | acquireLoading => exact hx.elim
      | releaseLoading => exact hx.elim
      | resolveModule h =>
        simp only [leave, Access.apply]
        split
        · rfl
        · rfl
      | _ => rfl

lemma paid_of_plain {R : Request → Prop} (h : ∀ x ∈ d, x.Within Access.Plain R) : Paid p d :=
  paid_of_none fun x hx last heq => by
    have hplain := h x hx
    rw [heq] at hplain
    exact hplain

/-- A load takes one reference before anything else. -/
lemma loading_of_load (h : ∀ x ∈ d, x.isAsked) (first : Bool) (id : ModuleId) :
    ((.accessed .acquireLoading first :: .accessed .newModule id :: d).foldl leave p).loading =
        p.loading + 1 ∧
      Paid p (.accessed .acquireLoading first :: .accessed .newModule id :: d) := by
  constructor
  · rw [List.foldl_cons, List.foldl_cons, foldl_leave_of_asked h]
    rfl
  · refine paid_of_none (List.forall_mem_cons.mpr ⟨fun _ => by simp, List.forall_mem_cons.mpr
      ⟨fun _ => by simp, fun x hx last heq => ?_⟩⟩)
    have hasked := h x hx
    rw [heq] at hasked
    cases hasked

/-- The end of a module gives one reference back after everything else. -/
lemma paid_ending (hp : 0 < p.loading) (j : ModuleId) (left : ℕ) (code : Code) (last : Bool) :
    Paid p (Module.ending j left code last) :=
  have hlast : 0 < (((Module.ending j left code last).take 4).foldl leave p).loading := hp
  Paid.append (paid_of_none (by simp [Module.ending])) (paid_release hlast last)

end Deed

namespace Host

open Installed Cryptoki.Module

namespace Site

variable {σ : Type} {s t : Site σ} {d : List Deed}

/-- How many modules are alive. -/
noncomputable def population (s : Site σ) : ℕ := {j | s.Live j}.ncard

lemma finite_live (hs : Accounted s.world.process s.held) : {j | s.Live j}.Finite :=
  (Set.finite_lt_nat s.world.process.attempts).subset fun _ h => h.lt hs

lemma population_pos (hs : Accounted s.world.process s.held) {j : ModuleId} (hj : s.Live j) :
    0 < s.population := (Set.ncard_pos (finite_live hs)).mpr ⟨j, hj⟩

lemma Has.population_eq {n m : ℕ} (h : t.Has s.Live n m) : t.population = s.population :=
  congrArg Set.ncard (Set.ext h.live)

lemma Has.population_succ (hs : Accounted s.world.process s.held) {n m : ℕ}
    (h : t.Has (fun j => s.Live j ∨ j = s.world.process.attempts) n m) :
    t.population = s.population + 1 := by
  have hset : {j | t.Live j} = insert s.world.process.attempts {j | s.Live j} := by
    ext j
    simp [h.live, or_comm]
  have hnew : s.world.process.attempts ∉ {j | s.Live j} := fun hlive =>
    absurd (Live.lt hs hlive) (lt_irrefl _)
  rw [population, hset, Set.ncard_insert_of_notMem hnew (finite_live hs), population]

lemma Has.population_pred (hs : Accounted s.world.process s.held) {n m : ℕ} {j : ModuleId}
    (hj : s.Live j) (h : t.Has (fun k => s.Live k ∧ k ≠ j) n m) :
    t.population + 1 = s.population := by
  have hset : {k | t.Live k} = {k | s.Live k} \ {j} := by
    ext k
    simp [h.live]
  rw [population, hset]
  exact Set.ncard_sdiff_singleton_add_one hj (finite_live hs)

/-- What a step does to the count of references to the loading subsystem. -/
lemma Did.loading (h : Did s t d) (hs : Accounted s.world.process s.held)
    (hprocess : t.world.process = d.foldl Deed.leave s.world.process)
    (hloading : s.world.process.loading = s.population + s.acquired) :
    t.world.process.loading = t.population + t.acquired ∧ Deed.Paid s.world.process d := by
  cases h with
  | worked hd hhas =>
    refine ⟨?_, Deed.paid_of_plain hd⟩
    rw [hprocess, Deed.loading_foldl hd, hloading, hhas.population_eq, hhas.acquired]
  | @refused loader path d stage f first last hcourse hhas =>
    obtain ⟨hcount, hpaid⟩ := Deed.loading_of_load (p := s.world.process) hcourse.asked first
      s.world.process.attempts
    rw [← List.cons_append, ← List.cons_append] at hprocess ⊢
    constructor
    · rw [hprocess, List.foldl_append, hhas.population_eq, hhas.acquired, ← hloading]
      exact congrArg (· - 1) hcount
    · exact hpaid.append (Deed.paid_release (by rw [hcount]; exact Nat.succ_pos _) last)
  | @loaded loader path d first m handle hcourse hhas =>
    obtain ⟨hcount, hpaid⟩ := Deed.loading_of_load (p := s.world.process) hcourse.asked first
      s.world.process.attempts
    rw [← List.cons_append, ← List.cons_append] at hprocess ⊢
    constructor
    · rw [hprocess, List.foldl_append, hhas.population_succ hs, hhas.acquired,
        Nat.add_right_comm, ← hloading]
      exact hcount
    · exact hpaid.append (Deed.paid_of_none (by simp))
  | @ended j before left code last hlive hbefore hhas =>
    have hpopulation := hhas.population_pred hs hlive
    have hcount := Deed.loading_foldl (p := s.world.process) hbefore
    constructor
    · have hend : t.world.process.loading = s.world.process.loading - 1 := by
        rw [hprocess, List.foldl_append]
        exact congrArg (· - 1) hcount
      rw [hend, hhas.acquired]
      omega
    · exact (Deed.paid_of_plain hbefore).append
        (Deed.paid_ending (by rw [hcount, hloading]; omega) j left code last)
  | acquired first hhas =>
    refine ⟨?_, Deed.paid_of_none (by simp)⟩
    rw [hprocess, hhas.population_eq, hhas.acquired, ← Nat.add_assoc, ← hloading]
    rfl
  | gaveBack last hacquired hhas =>
    refine ⟨?_, Deed.paid_release (by omega) last⟩
    rw [hprocess, hhas.population_eq, hhas.acquired, ← Nat.add_sub_assoc hacquired, ← hloading]
    rfl

/-! ### The library in memory -/

/-- The environment of a host that supplies the library in memory. -/
abbrev mock : Environment (Beside Simulated.Timeline) := beside Simulated.environment

variable {s t : Site (Beside Simulated.Timeline)}

/-- What a step does to the library in memory. -/
lemma Did.standing (h : Did s t d) (hs : Accounted s.world.process s.held)
    (hd : Answered mock s.world.outside d t.world.outside)
    (hstanding : Standing s.population (0, 0) s.world.outside) :
    Standing t.population (0, 0) t.world.outside := by
  cases h with
  | worked hworks hhas =>
    rw [hhas.population_eq]
    exact hd.keeps (fun r u ⟨j, _, hr⟩ hu => hu.calls hr) hworks hstanding
  | @refused loader path d stage f first last hcourse hhas =>
    rw [hhas.population_eq]
    obtain ⟨u, hu, hrest⟩ := answered_append.mp hd
    cases hrest
    cases loader with
    | supplied => exact hstanding.course hcourse (List.suffix_refl _) hu
    | system => exact (hstanding.installed hcourse hu).2
  | @loaded loader path d first m handle hcourse hhas =>
    obtain ⟨u, hu, hrest⟩ := answered_append.mp hd
    cases hrest
    cases loader with
    | supplied =>
      have hafter := hstanding.course hcourse (List.suffix_refl _) hu
      rw [hhas.population_succ hs]
      exact ⟨hafter.tally, hafter.closed⟩
    | system => exact absurd (hstanding.installed hcourse hu).1 (by simp)
  | @ended j before left code last hlive hbefore hhas =>
    have hrequests : (before ++ ending j left code last).filterMap Deed.request? =
        Stage.telling.undoing j := by
      rw [List.filterMap_append, List.filterMap_eq_nil_iff.mpr fun x hx => ?_]
      · rfl
      · cases x with
        | asked r x => exact (hbefore _ hx).elim
        | accessed a x => rfl
    rw [← hhas.population_pred hs hlive] at hstanding
    have hbegun : Standing t.population Stage.telling.before s.world.outside :=
      ⟨hstanding.tally, hstanding.closed⟩
    rw [hd.outside_eq, hrequests]
    exact hbegun.undone Stage.telling
  | acquired first hhas =>
    have hsame : t.world.outside = s.world.outside := hd
    rw [hhas.population_eq, hsame]
    exact hstanding
  | gaveBack last hacquired hhas =>
    have hsame : t.world.outside = s.world.outside := hd
    rw [hhas.population_eq, hsame]
    exact hstanding

end Site

/-! ### Whole runs -/

/-- Between two steps nothing changes but how the library behaves, now and later, and which files
there are. -/
def Step.Fair : Step (Beside Simulated.Timeline) → Prop
  | .change f => ∀ u, (f u).opened = u.opened ∧
      ∃ b, (f u).supplied.library = { u.supplied.library with behaviour := b }
  | _ => True

/-- Every component counts the modules that are alive. -/
structure Balanced (s : Site (Beside Simulated.Timeline)) : Prop where
  references : s.world.process.loading = s.population + s.acquired
  opened : s.world.outside.supplied.library.calls.opened =
    s.world.outside.supplied.library.calls.closed + s.population
  instances : s.world.outside.supplied.library.instances = s.population
  mutexes : s.world.outside.supplied.library.calls.mutexesCreated =
    s.world.outside.supplied.library.calls.mutexesDestroyed +
      if s.population = 0 then 0 else 1

/-- Nothing is left of what the modules took. -/
structure Cleared (s : Site (Beside Simulated.Timeline)) : Prop where
  references : s.world.process.loading = s.acquired
  opened : s.world.outside.supplied.library.calls.opened =
    s.world.outside.supplied.library.calls.closed
  running : s.world.outside.supplied.library.running = false
  mutexes : s.world.outside.supplied.library.calls.mutexesCreated =
    s.world.outside.supplied.library.calls.mutexesDestroyed

namespace Site

variable {s : Site (Beside Simulated.Timeline)}

/-- The invariant behind the balance. -/
structure Counted (s : Site (Beside Simulated.Timeline)) : Prop where
  accounted : Accounted s.world.process s.held
  loading : s.world.process.loading = s.population + s.acquired
  standing : Standing s.population (0, 0) s.world.outside

lemma population_initial {σ : Type} (outside : σ) : (initial outside).population = 0 := by
  have hnone : {j | (initial outside).Live j} = ∅ :=
    Set.eq_empty_iff_forall_notMem.mpr fun j hlive =>
      absurd (Live.lt (s := initial outside) accounted_initial hlive) (Nat.not_lt_zero j)
  rw [population, hnone, Set.ncard_empty]

lemma counted_initial (b : Simulated.Behaviour)
    (changes : List (Simulated.Behaviour → Simulated.Behaviour)) (host : Files) :
    Counted (initial ⟨⟨.fresh b, changes, 0⟩, [], host⟩) where
  accounted := accounted_initial
  loading := by rw [population_initial]; rfl
  standing := by
    rw [population_initial]
    exact ⟨Simulated.tally_fresh b, fun _ => rfl⟩

lemma Counted.step (h : s.Counted) {st : Step (Beside Simulated.Timeline)} (hst : st.Fair) :
    (s.step mock st).Counted ∧ Deed.Paid s.world.process (s.deeds mock st) := by
  have hdid := did_step mock h.accounted st
  obtain ⟨hloading, hpaid⟩ := hdid.loading h.accounted (process_step mock s st) h.loading
  refine ⟨⟨accounted_step mock h.accounted st, hloading, ?_⟩, hpaid⟩
  by_cases hchange : ∃ f, st = .change f
  · obtain ⟨f, rfl⟩ := hchange
    obtain ⟨hopened, b, hlibrary⟩ := hst s.world.outside
    refine ⟨?_, fun j => ?_⟩
    · show Simulated.Tally _ _ (f s.world.outside).supplied.library
      rw [hlibrary]
      exact h.standing.tally.change b
    · show (f s.world.outside).opened.get? j = none
      rw [hopened]
      exact h.standing.closed j
  · exact hdid.standing h.accounted (outside_step mock s fun f hf => hchange ⟨f, hf⟩) h.standing

lemma Counted.after (h : s.Counted) {steps : List (Step (Beside Simulated.Timeline))}
    (hsteps : ∀ st ∈ steps, st.Fair) :
    (s.after mock steps).Counted ∧ Deed.Paid s.world.process (s.trace mock steps) := by
  induction steps generalizing s with
  | nil => exact ⟨h, Deed.paid_of_none fun x hx => absurd hx List.not_mem_nil⟩
  | cons st steps ih =>
    obtain ⟨hst, hrest⟩ := List.forall_mem_cons.mp hsteps
    obtain ⟨hnext, hpaid⟩ := h.step hst
    obtain ⟨hafter, hlater⟩ := ih hnext hrest
    rw [process_step] at hlater
    exact ⟨hafter, hpaid.append hlater⟩

lemma Counted.balanced (h : s.Counted) : Balanced s :=
  ⟨h.loading, h.standing.tally.opened, h.standing.tally.instances, h.standing.tally.mutexes⟩

end Site

lemma Balanced.cleared {s : Site (Beside Simulated.Timeline)} (h : Balanced s)
    (hnone : ∀ j, ¬ s.Live j) : Cleared s := by
  have hpopulation : s.population = 0 := by
    have hempty : {j | s.Live j} = ∅ := Set.eq_empty_iff_forall_notMem.mpr hnone
    rw [Site.population, hempty, Set.ncard_empty]
  obtain ⟨hreferences, hopened, hinstances, hmutexes⟩ := h
  rw [hpopulation] at hreferences hopened hinstances hmutexes
  exact ⟨by rw [hreferences, Nat.zero_add], hopened, by simp [Simulated.State.running, hinstances],
    hmutexes⟩

/-- **Everything is accounted for.** However the library behaves and is made to behave on the way,
after every run the references to the loading subsystem, the open and initialized instances of the
library and its mutex are as many as there are modules alive; if there are none, nothing is left. On
the way no reference is given back that was not taken. -/
theorem balanced_after (b : Simulated.Behaviour)
    (changes : List (Simulated.Behaviour → Simulated.Behaviour)) (host : Files)
    (steps : List (Step (Beside Simulated.Timeline))) (hsteps : ∀ st ∈ steps, st.Fair) :
    let start := Site.initial ⟨⟨.fresh b, changes, 0⟩, [], host⟩
    let s := start.after Site.mock steps
    Balanced s ∧ ((∀ j, ¬ s.Live j) → Cleared s) ∧
      Deed.Paid .initial (start.trace Site.mock steps) := by
  intro start s
  obtain ⟨hcounted, hpaid⟩ := (Site.counted_initial b changes host).after hsteps
  exact ⟨hcounted.balanced, hcounted.balanced.cleared, hpaid⟩

/-! ### Two modules and a failing finalization -/

/-- The handle of the first module. -/
def firstHandle : Handle := Handle.pack moduleTag 1 0

/-- The handle of the second module, while the first has one. -/
def secondHandle : Handle := Handle.pack moduleTag 1 1

/-- Two modules are loaded of a library that begins to fail to finalize meanwhile, and one is
unloaded while it is held. -/
def coming : List (Step (Beside Simulated.Timeline)) :=
  [.call (.load .supplied "libmock.so"), .hold firstHandle,
    .change fun u => { u with supplied := u.supplied.change fun b =>
      { b with reinitializable := true, finalizeCode := ⟨0x30⟩ } },
    .call (.load .supplied "libmock.so"), .acquire, .call (.onModule firstHandle .unload)]

/-- The holder lets go, and the other module is unloaded. -/
def leaving : List (Step (Beside Simulated.Timeline)) :=
  [.letGo 0, .call (.onModule secondHandle .unload), .giveBack]

def unused : Site (Beside Simulated.Timeline) :=
  .initial ⟨⟨.fresh .standard, [], 0⟩, [], ⟨[], []⟩⟩

lemma fair_coming_and_leaving : ∀ st ∈ coming ++ leaving, st.Fair := by
  have hchange : ∀ u : Beside Simulated.Timeline, ∃ b, (u.supplied.change fun b =>
      { b with reinitializable := true, finalizeCode := ⟨0x30⟩ }).library =
        { u.supplied.library with behaviour := b } := fun u => ⟨_, rfl⟩
  simpa [coming, leaving, Step.Fair] using hchange

/-- Both modules count while one is only held, and nothing is left in the end, though no
finalization succeeds. -/
theorem balanced_after_coming_and_leaving :
    (∀ st ∈ coming ++ leaving, st.Fair) ∧ (unused.after Site.mock coming).population = 2 ∧
      (unused.after Site.mock coming).world.process.loading = 3 ∧
      Cleared (unused.after Site.mock (coming ++ leaving)) := by
  have hfair := fair_coming_and_leaving
  have hcoming : Balanced (unused.after Site.mock coming) :=
    (balanced_after .standard [] ⟨[], []⟩ coming
      fun st hst => hfair st (List.mem_append_left _ hst)).1
  have htwo : (unused.after Site.mock coming).population = 2 := hcoming.instances.symm.trans rfl
  obtain ⟨hleft, hcleared, -⟩ := balanced_after .standard [] ⟨[], []⟩ (coming ++ leaving) hfair
  have hnone : (unused.after Site.mock (coming ++ leaving)).population = 0 :=
    hleft.instances.symm.trans rfl
  have haccounted := Site.accounted_after Site.mock (s := unused) accounted_initial
    (coming ++ leaving)
  refine ⟨hfair, htwo, ?_, hcleared fun j hlive => ?_⟩
  · rw [hcoming.references, htwo]
    rfl
  · exact absurd (Site.population_pos haccounted hlive) (by rw [hnone]; exact lt_irrefl 0)

end Host

end Cryptoki
