import Cryptoki.Proofs.Host.Holding

/-!
The life of a module, as the deeds of a run tell it.

A load that was not tried yet has left no trace. One that was refused has left its stages and
nothing after them. One that succeeded is followed by calls that have to do with slots and
sessions, for as long as the module is registered or held, and then by the deeds that end it. There
is nothing before the load and nothing after the end.
-/

namespace Cryptoki

open Process Program Cryptoki.Module

/-! ### Requests that concern a module -/

/-- The module whose library a request concerns. -/
def Request.module? : Request → Option ModuleId
  | .openLibrary _ j _ | .lookUp j _ | .call j _ | .closeLibrary j => some j
  | .sleep => none

namespace Deed

/-- It is a request that concerns the library of this module. -/
def concerns (j : ModuleId) (d : Deed) : Bool := d.request?.any fun r => r.module? = some j

/-- It is a call of the library of this module that has to do with slots or sessions. -/
def Ordinary (j : ModuleId) (d : Deed) : Prop :=
  ∃ c x, d = .asked (.call j c) x ∧ c.Ordinary

/-- The deeds that concern the library of a module, in their order. -/
def about (j : ModuleId) (d : List Deed) : List Deed := d.filter (concerns j)

variable {j : ModuleId} {p : Process} {d e : List Deed}

@[simp] lemma about_nil (j : ModuleId) : about j [] = [] := rfl

@[simp] lemma about_append (j : ModuleId) (d e : List Deed) :
    about j (d ++ e) = about j d ++ about j e := List.filter_append _ _

@[simp] lemma about_accessed (j : ModuleId) (a : Access) (x : a.Answer) (d : List Deed) :
    about j (.accessed a x :: d) = about j d := rfl

lemma about_eq_nil (h : ∀ x ∈ d, x.concerns j = false) : about j d = [] :=
  List.filter_eq_nil_iff.mpr fun x hx => by simp [h x hx]

/-- What is done without a request concerns nobody. -/
lemma about_silent {A : Access → Prop} (h : ∀ x ∈ d, x.Within A fun _ => False) :
    about j d = [] := by
  refine about_eq_nil fun x hx => ?_
  cases x with
  | asked r x => exact (h _ hx).elim
  | accessed a x => rfl

/-- Work concerns a module only by calls of its library, while it is alive. -/
lemma about_works (h : ∀ x ∈ d, x.Works p) :
    ∀ x ∈ about j d, 0 < p.references j ∧ x.Ordinary j := by
  intro x hx
  obtain ⟨hmem, hconcerns⟩ := List.mem_filter.mp hx
  cases x with
  | accessed a x => cases hconcerns
  | asked r x =>
    obtain ⟨k, halive, hcalls⟩ := h _ hmem
    cases r with
    | call i c =>
      obtain ⟨rfl, hc⟩ := hcalls
      obtain rfl : i = j := by simpa [concerns, request?, Request.module?] using hconcerns
      exact ⟨halive, c, x, rfl, hc⟩
    | sleep => cases hconcerns
    | _ => exact hcalls.elim

end Deed

namespace Module

variable {loader : Loader} {id : ModuleId} {path : String} {stages : List Stage} {d : List Deed}
  {last : Option (Stage × Fault)}

lemma Stage.module?_request (s : Stage) : (s.request loader id path).module? = some id := by
  cases s <;> rfl

lemma Stage.module?_undoing {s : Stage} {r : Request} (hr : r ∈ s.undoing id) :
    r.module? = some id := by
  cases s with
  | opening => cases hr
  | telling =>
    obtain rfl | hclose := List.mem_cons.mp hr
    · rfl
    · obtain rfl := List.mem_singleton.mp hclose
      rfl
  | _ =>
    obtain rfl := List.mem_singleton.mp hr
    rfl

/-- A load concerns the module to be, and no other. -/
lemma Course.about_eq (h : Course loader id path (Stage.undoing id) stages d last) (j : ModuleId) :
    Deed.about j d = if j = id then d else [] := by
  have hall : ∀ x ∈ d, x.concerns j = decide (j = id) := by
    induction h with
    | through => exact fun x hx => absurd hx List.not_mem_nil
    | passed s x hpass hrest ih =>
      refine List.forall_mem_cons.mpr ⟨?_, ih⟩
      simp [Deed.concerns, Deed.request?, s.module?_request, eq_comm]
    | @refused s stages x f undone hrefused hundone =>
      refine List.forall_mem_cons.mpr ⟨?_, fun y hy => ?_⟩
      · simp [Deed.concerns, Deed.request?, s.module?_request, eq_comm]
      · have hmem : y.request? ∈ (s.undoing id).map some := hundone ▸ List.mem_map_of_mem hy
        obtain ⟨r, hr, hrequest⟩ := List.mem_map.mp hmem
        simp [Deed.concerns, ← hrequest, Stage.module?_undoing hr, eq_comm]
  split_ifs with hj
  · exact List.filter_eq_self.mpr fun x hx => (hall x hx).trans (by simp [hj])
  · exact Deed.about_eq_nil fun x hx => by simp [hall x hx, hj]

lemma about_ending (j k : ModuleId) (left : ℕ) (code : Code) (last : Bool) (hk : k ≠ j) :
    Deed.about k (ending j left code last) = [] := by
  refine Deed.about_eq_nil fun x hx => ?_
  simp only [ending, List.mem_cons, List.not_mem_nil, or_false] at hx
  rcases hx with rfl | rfl | rfl | rfl | rfl <;>
    simp [Deed.concerns, Deed.request?, Request.module?, Ne.symm hk]

end Module

namespace Host

namespace Site

variable {σ : Type} {s t : Site σ} {d e : List Deed} {j : ModuleId}

/-! ### One step -/

/-- What became of a module in a step. -/
inductive Fate (s t : Site σ) (j : ModuleId) (e : List Deed) : Prop
  | untouched (hnone : Deed.about j e = []) (hlive : t.Live j ↔ s.Live j)
      (htried : j < t.world.process.attempts ↔ j < s.world.process.attempts)
  | served (hlive : s.Live j) (hstill : t.Live j) (hcalls : ∀ x ∈ Deed.about j e, x.Ordinary j)
  | refused {loader : Loader} {path : String} {d : List Deed} {stage : Stage} {f : Fault}
      (hj : j = s.world.process.attempts) (htried : j < t.world.process.attempts)
      (hnot : ¬ t.Live j) (habout : Deed.about j e = d)
      (hcourse : Course loader j path (Stage.undoing j) Stage.all d (some (stage, f)))
  | loaded {loader : Loader} {path : String} {d : List Deed} (hj : j = s.world.process.attempts)
      (hlive : t.Live j) (habout : Deed.about j e = d)
      (hcourse : Course loader j path (Stage.undoing j) Stage.all d none)
  | ended {before : List Deed} (left : ℕ) (code : Code) (last : Bool) (hlive : s.Live j)
      (htried : j < t.world.process.attempts) (hnot : ¬ t.Live j)
      (hbefore : Deed.about j before = [])
      (he : e = before ++ ending j left code last)

lemma lt_succ_iff_of_ne {m n : ℕ} (h : m ≠ n) : m < n + 1 ↔ m < n := by omega

lemma Did.fate (hs : Accounted s.world.process s.held) (h : Did s t e) (j : ModuleId) :
    Fate s t j e := by
  have hfresh : ¬ s.Live s.world.process.attempts := fun hlive => absurd (hlive.lt hs) (lt_irrefl _)
  cases h with
  | worked hd hhas =>
    have hcalls := Deed.about_works (j := j) hd
    by_cases hlive : s.Live j
    · exact .served hlive ((hhas.live j).mpr hlive) fun x hx => (hcalls x hx).2
    · refine .untouched (List.eq_nil_iff_forall_not_mem.mpr fun x hx => ?_) (hhas.live j)
        (by rw [hhas.attempts])
      exact hlive ((live_iff hs j).mpr (hcalls x hx).1)
  | @refused loader path d stage f first last hcourse hhas =>
    have habout := hcourse.about_eq j
    by_cases hj : j = s.world.process.attempts
    · subst hj
      refine .refused rfl (by rw [hhas.attempts]; exact Nat.lt_succ_self _)
        (fun hlive => hfresh ((hhas.live _).mp hlive)) ?_ hcourse
      simp [habout]
    · refine .untouched (by simp [habout, hj]) (hhas.live j) ?_
      rw [hhas.attempts]
      exact lt_succ_iff_of_ne hj
  | @loaded loader path d first m handle hcourse hhas =>
    have habout := hcourse.about_eq j
    by_cases hj : j = s.world.process.attempts
    · subst hj
      refine .loaded rfl ((hhas.live _).mpr (.inr rfl)) ?_ hcourse
      simp [habout]
    · refine .untouched (by simp [habout, hj]) ((hhas.live j).trans (by simp [hj])) ?_
      rw [hhas.attempts]
      exact lt_succ_iff_of_ne hj
  | @ended k before left code last hlive hbefore hhas =>
    by_cases hj : j = k
    · subst hj
      exact .ended left code last hlive (by rw [hhas.attempts]; exact hlive.lt hs)
        (fun hlive => ((hhas.live j).mp hlive).2 rfl) (Deed.about_silent hbefore) rfl
    · refine .untouched ?_ ((hhas.live j).trans (by simp [hj])) (by rw [hhas.attempts])
      simp [Deed.about_silent hbefore, about_ending k j left code last hj]
  | acquired first hhas => exact .untouched rfl (hhas.live j) (by rw [hhas.attempts])
  | gaveBack last hacquired hhas => exact .untouched rfl (hhas.live j) (by rw [hhas.attempts])

/-! ### A whole run -/

/-- What concerns a module from the load that made it on: the stages of the load, none of which was
refused, and then calls that have to do with slots and sessions. -/
def InUse (j : ModuleId) (d : List Deed) : Prop :=
  ∃ loader path opening calls, Course loader j path (Stage.undoing j) Stage.all opening none ∧
    d = opening ++ calls ∧ ∀ x ∈ calls, x.Ordinary j

/-- How far the life of a module has come after these deeds. -/
inductive Life (s : Site σ) (j : ModuleId) (d : List Deed) : Prop
  | untried (huntried : s.world.process.attempts ≤ j) (hnone : Deed.about j d = [])
  | failed {loader : Loader} {path : String} {stage : Stage} {f : Fault}
      (htried : j < s.world.process.attempts) (hnot : ¬ s.Live j)
      (hcourse : Course loader j path (Stage.undoing j) Stage.all (Deed.about j d)
        (some (stage, f)))
  | alive (hlive : s.Live j) (huse : InUse j (Deed.about j d))
  | gone (before after : List Deed) (left : ℕ) (code : Code) (last : Bool)
      (htried : j < s.world.process.attempts) (hnot : ¬ s.Live j)
      (huse : InUse j (Deed.about j before)) (hafter : Deed.about j after = [])
      (hd : d = before ++ ending j left code last ++ after)

lemma InUse.append {calls : List Deed} (h : InUse j d) (hcalls : ∀ x ∈ calls, x.Ordinary j) :
    InUse j (d ++ calls) := by
  obtain ⟨loader, path, opening, earlier, hcourse, rfl, hearlier⟩ := h
  exact ⟨loader, path, opening, earlier ++ calls, hcourse, List.append_assoc _ _ _,
    List.forall_mem_append.mpr ⟨hearlier, hcalls⟩⟩

lemma Life.fresh (h : Life s j d) (hs : Accounted s.world.process s.held)
    (hj : j = s.world.process.attempts) : Deed.about j d = [] := by
  cases h with
  | untried huntried hnone => exact hnone
  | failed htried hnot hcourse => exact absurd htried (by rw [hj]; exact lt_irrefl _)
  | alive hlive huse => exact absurd (hlive.lt hs) (by rw [hj]; exact lt_irrefl _)
  | gone before after left code last htried hnot huse hafter hd =>
    exact absurd htried (by rw [hj]; exact lt_irrefl _)

lemma Life.inUse (h : Life s j d) (hs : Accounted s.world.process s.held) (hlive : s.Live j) :
    InUse j (Deed.about j d) := by
  cases h with
  | untried huntried hnone => exact absurd (hlive.lt hs) (not_lt.mpr huntried)
  | failed htried hnot hcourse => exact absurd hlive hnot
  | alive hlive huse => exact huse
  | gone before after left code last htried hnot huse hafter hd => exact absurd hlive hnot

/-- **One step.** The life of a module goes on. -/
lemma Life.step (h : Life s j d) (hs : Accounted s.world.process s.held) (hfate : Fate s t j e) :
    Life t j (d ++ e) := by
  cases hfate with
  | untouched hnone hlive htried =>
    have habout : Deed.about j (d ++ e) = Deed.about j d := by simp [hnone]
    cases h with
    | untried huntried hd =>
      refine .untried (not_lt.mp fun hlt => ?_) (habout.trans hd)
      exact absurd (htried.mp hlt) (not_lt.mpr huntried)
    | failed hlt hnot hcourse =>
      exact .failed (htried.mpr hlt) (fun h => hnot (hlive.mp h)) (habout ▸ hcourse)
    | alive hwas huse => exact .alive (hlive.mpr hwas) (habout ▸ huse)
    | gone before after left code last hlt hnot huse hafter hd =>
      refine .gone before (after ++ e) left code last (htried.mpr hlt)
        (fun h => hnot (hlive.mp h)) huse ?_ (by rw [hd, List.append_assoc])
      simp [hafter, hnone]
  | served hlive hstill hcalls =>
    refine .alive hstill ?_
    rw [Deed.about_append]
    exact (h.inUse hs hlive).append hcalls
  | refused hj htried hnot habout hcourse =>
    rw [← List.nil_append (Deed.about j e), ← h.fresh hs hj, ← Deed.about_append] at habout
    exact .failed htried hnot (habout.symm ▸ hcourse)
  | loaded hj hlive habout hcourse =>
    refine .alive hlive ?_
    rw [Deed.about_append, h.fresh hs hj, habout]
    exact ⟨_, _, _, [], hcourse, (List.append_nil _).symm, fun x hx => absurd hx List.not_mem_nil⟩
  | @ended before left code last hlive htried hnot hbefore he =>
    refine .gone (d ++ before) [] left code last htried hnot ?_ rfl
      (by rw [he, List.append_nil, List.append_assoc])
    simpa [hbefore] using h.inUse hs hlive

lemma Life.after (env : Environment σ) (h : Life s j d) (hs : Accounted s.world.process s.held)
    (steps : List (Step σ)) : Life (s.after env steps) j (d ++ s.trace env steps) := by
  induction steps generalizing s d with
  | nil => simpa [trace] using h
  | cons st steps ih =>
    rw [trace, ← List.append_assoc]
    exact ih (h.step hs ((did_step env hs st).fate hs j)) (accounted_step env hs st)

/-! ### The end -/

lemma Fate.finalized (hs : Accounted s.world.process s.held) (h : Fate s t j e)
    (hlive : s.Live j) :
    Request.call j (.finalize false) ∈ e.filterMap Deed.request? ↔ ¬ t.Live j := by
  have hmem : Request.call j (.finalize false) ∈ e.filterMap Deed.request? →
      ∃ x ∈ Deed.about j e, x.request? = some (.call j (.finalize false)) := by
    intro hr
    obtain ⟨x, hx, hrequest⟩ := List.mem_filterMap.mp hr
    refine ⟨x, List.mem_filter.mpr ⟨hx, ?_⟩, hrequest⟩
    simp [Deed.concerns, hrequest, Request.module?]
  have hfresh : j ≠ s.world.process.attempts := fun hj => absurd (hlive.lt hs) (hj ▸ lt_irrefl _)
  cases h with
  | untouched hnone hsame htried =>
    refine iff_of_false (fun hr => ?_) (not_not.mpr (hsame.mpr hlive))
    obtain ⟨x, hx, -⟩ := hmem hr
    simp [hnone] at hx
  | served hwas hstill hcalls =>
    refine iff_of_false (fun hr => ?_) (not_not.mpr hstill)
    obtain ⟨x, hx, hrequest⟩ := hmem hr
    obtain ⟨c, y, rfl, hc⟩ := hcalls x hx
    cases hrequest
    exact hc
  | refused hj htried hnot habout hcourse => exact absurd hj hfresh
  | loaded hj hnow habout hcourse => exact absurd hj hfresh
  | ended left code last hwas htried hnot hbefore he =>
    refine iff_of_true ?_ hnot
    rw [he, List.filterMap_append]
    exact List.mem_append_right _ List.mem_cons_self

lemma Fate.rests (h : Fate s t j e) (htried : j < s.world.process.attempts) (hnot : ¬ s.Live j) :
    ¬ t.Live j ∧ Deed.about j e = [] := by
  cases h with
  | untouched hnone hsame _ => exact ⟨fun hlive => hnot (hsame.mp hlive), hnone⟩
  | served hwas _ _ => exact absurd hwas hnot
  | refused hj _ _ _ _ => exact absurd htried (by rw [hj]; exact lt_irrefl _)
  | loaded hj _ _ _ => exact absurd htried (by rw [hj]; exact lt_irrefl _)
  | ended _ _ _ hwas _ _ _ _ => exact absurd hwas hnot

end Site

variable {σ : Type}

/-- A module lives once: its life has come so far, its library is finalized in the very step after
which nobody refers to it any more, and from then on nothing concerns it. -/
structure LivesOnce (env : Environment σ) (s : Site σ) (d : List Deed) (j : ModuleId) : Prop where
  life : s.Life j d
  ends : ∀ st, s.Live j →
    (.call j (.finalize false) ∈ s.requests env st ↔ ¬ (s.step env st).Live j)
  rests : ∀ st, j < s.world.process.attempts → ¬ s.Live j →
    ¬ (s.step env st).Live j ∧ Deed.about j (s.deeds env st) = []

/-- A module outlives its unload: no library hears of it, and as long as somebody holds the module,
whatever a holder does has the results that it would have had without the unload. -/
structure Outlives (env : Environment σ) (s : Site σ) (h : Handle) (m : Module) : Prop where
  silent : s.requests env (.call (.onModule h .unload)) = []
  same : ∀ more : List (Step σ), (∀ st ∈ more, st.ByHolder) →
    let t := s.after env more
    let u := s.after env (.call (.onModule h .unload) :: more)
    (∃ n ∈ u.held, n.id = m.id) → t.held = u.held ∧ ∀ n ∈ u.held, ∀ o : Module.Method,
      ((o.program n).run env u.world).1 = ((o.program n).run env t.world).1 ∧
        (o.program n).requests env u.world = (o.program n).requests env t.world

/-- What is done with a module has the same results whatever is registered: all that counts is the
sessions of the module and what lies outside. -/
def Blind (env : Environment σ) (w : World σ) (n : Module) : Prop :=
  ∀ (o : Module.Method) (v : World σ), v.outside = w.outside →
    v.process.sessionsOf n.id = w.process.sessionsOf n.id →
    ((o.program n).run env v).1 = ((o.program n).run env w).1 ∧
      (o.program n).requests env v = (o.program n).requests env w

lemma outlives (env : Environment σ) {s : Site σ} (hs : Accounted s.world.process s.held)
    {h : Handle} {m : Module} (hf : s.world.process.modules.find? h = some m)
    (hheld : ∃ n ∈ s.held, n.id = m.id) : Outlives env s h m := by
  obtain ⟨hsilent, hapart⟩ := Site.apart_unload env hs hf hheld
  refine ⟨hsilent, fun more hmore => ?_⟩
  intro t u hkept
  have hafter : Site.Apart m.id t u :=
    hapart.after env (Site.accounted_step env hs _) hmore hkept
  refine ⟨hafter.held, fun n _ o => ?_⟩
  obtain ⟨hanswer, hdeeds, -⟩ := hafter.run env (Module.spares_owns (n.owns_method o))
  rw [requests_eq, requests_eq, hdeeds]
  exact ⟨hanswer.symm, rfl⟩

/-- **The life cycle of modules.** After any run, whatever the libraries answered, every module has
lived once at most: its load, the calls of its slots and sessions, and its end follow each other
and leave nothing before, between or after them. Its library is finalized in the step after which
it is neither registered nor held for the first time. Until then its holders do not notice that it
was unloaded. -/
theorem life_cycle (env : Environment σ) (start : σ) (steps : List (Step σ)) :
    let s := (Site.initial start).after env steps
    (∀ j, LivesOnce env s ((Site.initial start).trace env steps) j) ∧
      (∀ h m, s.world.process.modules.find? h = some m → (∃ n ∈ s.held, n.id = m.id) →
        Outlives env s h m) ∧
      ∀ n ∈ s.held, Blind env s.world n := by
  intro s
  have hs : Accounted s.world.process s.held :=
    Site.accounted_after env (s := .initial start) accounted_initial steps
  refine ⟨fun j => ⟨?_, fun st hlive => ?_, fun st htried hnot => ?_⟩, ?_, ?_⟩
  · have hlife : (Site.initial start).Life j [] := .untried (Nat.zero_le j) rfl
    exact hlife.after env accounted_initial steps
  · exact ((Site.did_step env hs st).fate hs j).finalized hs hlive
  · exact ((Site.did_step env hs st).fate hs j).rests htried hnot
  · exact fun h m hf hheld => outlives env hs hf hheld
  · intro n _ o v hout hsessions
    obtain ⟨hanswer, hdeeds⟩ := Module.owns_blind env (n.owns_method o) hout hsessions
    rw [requests_eq, requests_eq, hdeeds]
    exact ⟨hanswer, rfl⟩

end Host

end Cryptoki
