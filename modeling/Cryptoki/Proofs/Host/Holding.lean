import Cryptoki.Proofs.Host.Steps

/-!
Unloading a module that somebody holds.

A holder never looks at the registries, so it cannot tell whether the module it holds is still
registered. Two sites are compared: one in which a module was unloaded, and one in which it was
not. They differ in one reference to the module, and in the registries. As long as the module is
held in both, a reference that is given back is the last in both or in neither, and whatever the
holder does has the same results.
-/

namespace Cryptoki

open Process Program

namespace Process

variable {p q : Process} {m : ModuleId}

/-- The first process has one more reference to a module. The modules that are alive and their
sessions are the same apart from that, and so is the count of references to the loading subsystem.
The registries may differ in any way. -/
structure Apart (m : ModuleId) (p q : Process) : Prop where
  loading : p.loading = q.loading
  share : ∀ j, Access.share p j =
    { Access.share q j with references := (Access.share q j).references + one m j }

/-- Accesses of a holder, but for those that give back a reference to this module. -/
def Access.Spares (m : ModuleId) : Access → Prop
  | .sessions .. | .acquireLoading | .releaseLoading => True
  | .release j | .discard j => j ≠ m
  | _ => False

lemma Apart.share_of_ne (h : Apart m p q) {j : ModuleId} (hj : j ≠ m) :
    Access.share p j = Access.share q j := by
  rw [h.share, one, if_neg hj]
  rfl

lemma Apart.apply (a : Access) (ha : a.Spares m) (h : Apart m p q) :
    (a.apply p).1 = (a.apply q).1 ∧ Apart m (a.apply p).2 (a.apply q).2 := by
  cases a with
  | sessions k a =>
    have hsame : (Access.share p k).sessions = (Access.share q k).sessions := by rw [h.share]
    refine ⟨by simp [Access.apply, hsame], h.loading, fun j => ?_⟩
    rw [Access.apply, Access.apply, share_put, share_put, hsame]
    split_ifs with hj
    · subst hj
      simp [h.share]
    · exact h.share j
  | release k =>
    have hsame := h.share_of_ne ha
    refine ⟨by simp [Access.apply, hsame], h.loading, fun j => ?_⟩
    rw [Access.apply, Access.apply, share_put, share_put, hsame]
    split_ifs with hj
    · rw [hj, one, if_neg ha]
      rfl
    · exact h.share j
  | discard k =>
    refine ⟨rfl, h.loading, fun j => ?_⟩
    rw [Access.apply, Access.apply, share_erase, share_erase]
    split_ifs with hj
    · rw [hj, one, if_neg ha]
    · exact h.share j
  | acquireLoading =>
    refine ⟨?_, congrArg (· + 1) h.loading, h.share⟩
    simp [Access.apply, h.loading]
  | releaseLoading =>
    refine ⟨?_, congrArg (· - 1) h.loading, h.share⟩
    simp [Access.apply, h.loading]
  | _ => exact absurd ha (by simp [Access.Spares])

/-- A reference to the module itself, of which there are more. -/
lemma Apart.release (h : Apart m p q) (hmore : 1 < q.references m) :
    Apart m (Access.apply p (.release m)).2 (Access.apply q (.release m)).2 := by
  refine ⟨h.loading, fun j => ?_⟩
  rw [Access.apply, Access.apply, share_put, share_put]
  split_ifs with hj
  · subst hj
    have hmore : 1 < (Access.share q j).references := hmore
    simp only [h.share, one, if_true]
    congr 1
    omega
  · exact h.share j

end Process

namespace Module

variable {σ : Type} {m : ModuleId}

lemma spares_owns {α : Type} {n : Module} {p : Program α} (hp : n.Owns p) :
    p.Within (Access.Spares m) fun _ => True := by
  refine hp.mono (fun a ha => ?_) fun _ _ => trivial
  cases a with
  | sessions k a => trivial
  | _ => exact ha.elim

/-- What is done with a module depends on its own sessions and on what lies outside, and on nothing
else. -/
lemma owns_blind (env : Environment σ) {α : Type} {n : Module} {p : Program α} (hp : n.Owns p)
    {v w : World σ} (hout : v.outside = w.outside)
    (hsessions : v.process.sessionsOf n.id = w.process.sessionsOf n.id) :
    (p.run env v).1 = (p.run env w).1 ∧ p.deeds env v = p.deeds env w := by
  have hkeep : ∀ (a : Access) (q r : Process), a.SessionsOf n.id →
      q.sessionsOf n.id = r.sessionsOf n.id → (a.apply q).1 = (a.apply r).1 ∧
        (a.apply q).2.sessionsOf n.id = (a.apply r).2.sessionsOf n.id := by
    intro a q r ha hsame
    cases a with
    | sessions k a =>
      obtain rfl : k = n.id := ha
      have hshare : (Access.share q n.id).sessions = (Access.share r n.id).sessions := hsame
      constructor
      · simp only [Access.apply, hshare]
      · simp only [sessionsOf, Access.apply, share_put, if_true, hshare]
    | _ => exact ha.elim
  obtain ⟨hanswer, hdeeds, -⟩ := hp.deeds_eq env hkeep hout hsessions
  exact ⟨hanswer, hdeeds⟩

lemma spares_release {n : Module} (hn : n.id ≠ m) :
    n.release.Within (Access.Spares m) fun _ => True := by
  refine within_bind (within_touch.mpr hn) fun last => ?_
  split_ifs
  · refine (ends_tearDown n).mono ?_ fun _ _ => trivial
    rintro a (rfl | rfl | rfl)
    · trivial
    · exact hn
    · trivial
  · exact within_pure _

end Module

namespace Host

variable {σ : Type}

/-- What somebody does who holds modules and uses no handles, and what happens outside. -/
def Step.ByHolder : Step σ → Prop
  | .use .. | .letGo _ | .acquire | .giveBack | .change _ => True
  | .call _ | .hold _ => False

namespace Site

variable {s t : Site σ} {m : ModuleId}

/-- The second site is the first, except that a module was unloaded there. -/
structure Apart (m : ModuleId) (s t : Site σ) : Prop where
  outside : s.world.outside = t.world.outside
  process : Process.Apart m s.world.process t.world.process
  held : s.held = t.held
  acquired : s.acquired = t.acquired

/-- What a program of the holder does is the same in both. -/
lemma Apart.run {α : Type} (env : Environment σ) {p : Program α} (h : Apart m s t)
    (hp : p.Within (Access.Spares m) fun _ => True) :
    (p.run env s.world).1 = (p.run env t.world).1 ∧
      p.deeds env s.world = p.deeds env t.world ∧
      (p.run env s.world).2.outside = (p.run env t.world).2.outside ∧
      Process.Apart m (p.run env s.world).2.process (p.run env t.world).2.process :=
  hp.deeds_eq env (fun a _ _ ha h => h.apply a ha) h.outside h.process

lemma Apart.letGo (env : Environment σ) (h : Apart m s t)
    (ht : Accounted t.world.process t.held) {k : ℕ} {n : Module} (hk : t.held[k]? = some n)
    (hkept : ∃ n ∈ t.held.eraseIdx k, n.id = m) :
    (n.release.run env s.world).2.outside = (n.release.run env t.world).2.outside ∧
      Process.Apart m (n.release.run env s.world).2.process
        (n.release.run env t.world).2.process := by
  by_cases hn : n.id = m
  · subst hn
    -- One holder lets go and another stays, so the reference is the last in neither.
    have hothers : 0 < holdings (t.held.eraseIdx k) n.id := by
      simpa [holdings, List.countP_pos_iff] using hkept
    have hmore : 1 < t.world.process.references n.id := by
      rw [(ht.perm (perm_eraseIdx hk)).references, holdings_cons, one, if_pos rfl]
      omega
    have hfirst : 1 < s.world.process.references n.id := by
      rw [references, h.process.share]
      exact Nat.lt_add_right _ hmore
    rw [(Module.run_release_kept env hmore).1, (Module.run_release_kept env hfirst).1]
    exact ⟨h.outside, h.process.release hmore⟩
  · exact (h.run env (Module.spares_release hn)).2.2

/-- **One step of the holder.** The sites go on to differ in nothing else. -/
lemma Apart.step (env : Environment σ) (h : Apart m s t) (ht : Accounted t.world.process t.held)
    {st : Step σ} (hst : st.ByHolder) (hkept : ∃ n ∈ (t.step env st).held, n.id = m) :
    Apart m (s.step env st) (t.step env st) := by
  cases st with
  | use k o =>
    rcases hk : t.held[k]? with _ | n
    · simpa only [Site.step, h.held, hk] using h
    · simp only [Site.step, h.held, hk]
      obtain ⟨-, -, hout, hproc⟩ := h.run env (Module.spares_owns (n.owns_method o))
      exact ⟨hout, hproc, rfl, h.acquired⟩
  | letGo k =>
    rcases hk : t.held[k]? with _ | n
    · simpa only [Site.step, h.held, hk] using h
    · simp only [Site.step, hk] at hkept
      simp only [Site.step, h.held, hk]
      obtain ⟨hout, hproc⟩ := h.letGo env ht hk hkept
      exact ⟨hout, hproc, rfl, h.acquired⟩
  | acquire =>
    have hp : Loading.acquire.Within (Access.Spares m) fun _ => True := by
      refine within_bind (within_touch.mpr trivial) fun first => ?_
      split_ifs
      · exact within_say _ _ _
      · exact within_pure _
    obtain ⟨-, -, hout, hproc⟩ := h.run env hp
    exact ⟨hout, hproc, h.held, congrArg (· + 1) h.acquired⟩
  | giveBack =>
    have hp : Loading.release.Within (Access.Spares m) fun _ => True := by
      refine within_bind (within_touch.mpr trivial) fun last => ?_
      split_ifs
      · exact within_say _ _ _
      · exact within_pure _
    by_cases hnone : t.acquired = 0
    · simpa only [Site.step, h.acquired, if_pos hnone] using h
    · simp only [Site.step, h.acquired, if_neg hnone]
      obtain ⟨-, -, hout, hproc⟩ := h.run env hp
      exact ⟨hout, hproc, h.held, rfl⟩
  | change f => exact ⟨congrArg f h.outside, h.process, h.held, h.acquired⟩
  | call o => exact hst.elim
  | hold h => exact hst.elim

/-- A holder gets hold of nothing new without a handle. -/
lemma held_step_sublist (env : Environment σ) (s : Site σ) {st : Step σ} (hst : st.ByHolder) :
    (s.step env st).held.Sublist s.held := by
  cases st with
  | use k o =>
    rcases hk : s.held[k]? with _ | n <;> simp only [step, hk] <;> exact List.Sublist.refl _
  | letGo k =>
    rcases hk : s.held[k]? with _ | n
    · simp only [step, hk]
      exact List.Sublist.refl _
    · simp only [step, hk]
      exact List.eraseIdx_sublist _ _
  | giveBack =>
    rw [step]
    split_ifs
    · exact List.Sublist.refl _
    · exact List.Sublist.refl _
  | call o => exact hst.elim
  | hold h => exact hst.elim
  | _ => exact List.Sublist.refl _

lemma held_after_sublist (env : Environment σ) (s : Site σ) {more : List (Step σ)}
    (hmore : ∀ st ∈ more, st.ByHolder) : (s.after env more).held.Sublist s.held := by
  induction more generalizing s with
  | nil => exact List.Sublist.refl _
  | cons st more ih =>
    obtain ⟨hst, hrest⟩ := List.forall_mem_cons.mp hmore
    exact (ih _ hrest).trans (held_step_sublist env s hst)

/-- **All steps of the holder.** The sites differ in nothing else as long as the module is held. -/
lemma Apart.after (env : Environment σ) (h : Apart m s t) (ht : Accounted t.world.process t.held)
    {more : List (Step σ)} (hmore : ∀ st ∈ more, st.ByHolder)
    (hkept : ∃ n ∈ (t.after env more).held, n.id = m) :
    Apart m (s.after env more) (t.after env more) := by
  induction more generalizing s t with
  | nil => exact h
  | cons st more ih =>
    obtain ⟨hst, hrest⟩ := List.forall_mem_cons.mp hmore
    obtain ⟨n, hn, hid⟩ := hkept
    have hstill : n ∈ (t.step env st).held := (held_after_sublist env _ hrest).subset hn
    exact ih (h.step env ht hst ⟨n, hstill, hid⟩) (accounted_step env ht st) hrest ⟨n, hn, hid⟩

/-! ### The unload -/

lemma share_without (p : Process) (h : Handle) (j : ModuleId) :
    Access.share (without p h) j = Access.share p j := rfl

/-- **Unloading a module that is held.** No library hears of it. -/
lemma apart_unload (env : Environment σ) (hs : Accounted s.world.process s.held) {h : Handle}
    {n : Module} (hf : s.world.process.modules.find? h = some n)
    (hheld : ∃ k ∈ s.held, k.id = n.id) :
    s.requests env (.call (.onModule h .unload)) = [] ∧
      Apart n.id s (s.step env (.call (.onModule h .unload))) := by
  have hregistered : 0 < s.world.process.registered n.id :=
    Handle.Table.count_pos_of_find? hf (by simp)
  have hholdings : 0 < holdings s.held n.id := by
    simpa [holdings, List.countP_pos_iff] using hheld
  have hmore : 1 < s.world.process.references n.id := by
    have href := hs.references n.id
    omega
  obtain ⟨before, v, hbefore, hout, hprocess, hdeeds, hrun⟩ := unload_found env hf
  have hstill : 1 < v.process.references n.id := by
    rw [hprocess]
    exact hmore
  have hkept := (Module.run_release_kept env hstill).1
  constructor
  · obtain ⟨-, hrelease⟩ | ⟨hone, -⟩ := Module.deeds_release env (Nat.lt_of_succ_lt hstill)
    · show ((Host.unload h).deeds env s.world).filterMap Deed.request? = []
      rw [hdeeds, hrelease, List.filterMap_append]
      refine List.append_eq_nil_iff.mpr ⟨List.filterMap_eq_nil_iff.mpr fun d hd => ?_, rfl⟩
      cases d with
      | asked r x => exact (hbefore _ hd).elim
      | accessed a x => rfl
    · omega
  · have hworld : (s.step env (.call (.onModule h .unload))).world =
        { v with process := (Access.apply v.process (.release n.id)).2 } :=
      hrun.trans (congrArg Prod.snd hkept)
    refine ⟨?_, ?_, rfl, rfl⟩
    · rw [hworld, hout]
    · rw [hworld, hprocess]
      refine ⟨rfl, fun j => ?_⟩
      rw [Access.apply, share_put, one]
      split_ifs with hj
      · subst hj
        have hpos : 1 < (Access.share s.world.process n.id).references := hmore
        simp only [share_without]
        rw [Nat.sub_add_cancel (Nat.le_of_lt hpos)]
      · rfl

end Site

end Host

end Cryptoki
