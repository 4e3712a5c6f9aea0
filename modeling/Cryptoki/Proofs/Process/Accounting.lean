import Cryptoki.Proofs.Handle.Invariant
import Cryptoki.Proofs.Process.References

/-!
Every reference to a module is accounted for.

The references to a module that are out are those of the registry, one for each handle, and those
of the holders. Loads and the ends of modules are the only operations that touch anything else
than sessions and slots, and this file says what becomes of the books in each.
-/

namespace Cryptoki

namespace Process

/-- How many handles of the registry name the module with this number. -/
def registered (p : Process) (j : ModuleId) : ℕ := p.modules.count fun m => m.id = j

/-- How many times the module with this number is held. -/
def holdings (held : List Module) (j : ModuleId) : ℕ := held.countP fun m => m.id = j

lemma one_eq (m j : ModuleId) : one m j = if m = j then 1 else 0 := by simp only [one, eq_comm]

lemma holdings_cons (m : Module) (held : List Module) (j : ModuleId) :
    holdings (m :: held) j = holdings held j + one m.id j := by
  rw [holdings, List.countP_cons, one_eq]
  simp only [holdings, decide_eq_true_eq]

/-- The registries are sound, and the references to a module are those of the registry and those
of the holders. Numbers of loads that were not tried yet have none. -/
structure Accounted (p : Process) (held : List Module) : Prop where
  modules : p.modules.Registry moduleTag "module"
  slots : p.slots.Registry slotTag "slot"
  references : ∀ j, p.references j = p.registered j + holdings held j
  fresh : ∀ j, p.attempts ≤ j → p.references j = 0

lemma accounted_initial : Accounted .initial [] where
  modules := Handle.Table.registry_empty _ _ (by decide)
  slots := Handle.Table.registry_empty _ _ (by decide)
  references j := by
    rw [registered, initial, Handle.Table.count_empty]
    rfl
  fresh _ _ := rfl

/-- Two processes with the same registries, the same loads tried and the same references. -/
structure SameBooks (p q : Process) : Prop where
  modules : q.modules = p.modules
  slots : q.slots = p.slots
  attempts : q.attempts = p.attempts
  references : ∀ j, q.references j = p.references j

lemma SameBooks.refl (p : Process) : SameBooks p p := ⟨rfl, rfl, rfl, fun _ => rfl⟩

lemma SameBooks.trans {p q r : Process} (h : SameBooks p q) (k : SameBooks q r) :
    SameBooks p r :=
  ⟨k.modules.trans h.modules, k.slots.trans h.slots, k.attempts.trans h.attempts,
    fun j => (k.references j).trans (h.references j)⟩

lemma Same.books {p q : Process} (h : Same p q) : SameBooks p q :=
  ⟨h.modules, h.slots, h.attempts, h.references⟩

lemma references_release (p : Process) (m j : ModuleId) :
    (Access.apply p (.release m)).2.references j = p.references j - one m j := by
  rw [references, Access.apply, share_put, one]
  split_ifs with hj
  · rw [hj, references]
  · rfl

lemma references_adopt (p : Process) (m j : ModuleId) :
    (Access.apply p (.adopt m)).2.references j = if j = m then 1 else p.references j := by
  rw [references, Access.apply, share_put]
  split_ifs with hj
  · rfl
  · rfl

lemma sessionsOf_adopt (p : Process) (m : ModuleId) :
    (Access.apply p (.adopt m)).2.sessionsOf m = .empty := by
  rw [sessionsOf, Access.apply, share_put, if_pos rfl]

lemma sessionsOf_sessions_of_ne (p : Process) (a : Sessions.Access) {i j : ModuleId}
    (hi : i ≠ j) :
    (Access.apply p (.sessions j a)).2.sessionsOf i = p.sessionsOf i := by
  rw [sessionsOf, Access.apply, share_put, if_neg hi]
  rfl

lemma sessionsOf_adopt_of_ne (p : Process) {i j : ModuleId} (hi : i ≠ j) :
    (Access.apply p (.adopt j)).2.sessionsOf i = p.sessionsOf i := by
  rw [sessionsOf, Access.apply, share_put, if_neg hi]
  rfl

lemma SameBooks.newModule {p q : Process} (h : SameBooks p q) :
    SameBooks (Access.apply p .newModule).2 (Access.apply q .newModule).2 :=
  ⟨h.modules, h.slots, congrArg (· + 1) h.attempts, h.references⟩

lemma SameBooks.adopt {p q : Process} (h : SameBooks p q) (m : ModuleId) :
    SameBooks (Access.apply p (.adopt m)).2 (Access.apply q (.adopt m)).2 :=
  ⟨h.modules, h.slots, h.attempts, fun j => by
    rw [references_adopt, references_adopt, h.references]⟩

variable {p q : Process} {held : List Module}

lemma Accounted.books (hp : Accounted p held) (h : SameBooks p q) : Accounted q held where
  modules := h.modules ▸ hp.modules
  slots := h.slots ▸ hp.slots
  references j := by rw [h.references, hp.references, registered, registered, h.modules]
  fresh j hj := by rw [h.references, hp.fresh j (h.attempts ▸ hj)]

/-- Neutral accesses change no books but the registry of slots. -/
lemma Accounted.neutral (hp : Accounted p held) {a : Access} (ha : a.Neutral) :
    Accounted (a.apply p).2 held := by
  have hsteady := steady_apply p a ha
  have hslots : (a.apply p).2.slots.Registry slotTag "slot" := by
    cases a with
    | sessions m a => exact hp.slots
    | insertSlot s => exact hp.slots.insert s
    | resolveSlot k => exact hp.slots
    | removeSlot k => exact hp.slots.remove k
    | removeSlotsOf k => exact hp.slots.removeWhere _
    | _ => exact absurd ha (by simp [Access.Neutral])
  exact
    { modules := hsteady.modules ▸ hp.modules
      slots := hslots
      references := fun j => by
        rw [hsteady.references, hp.references, registered, registered, hsteady.modules]
      fresh := fun j hj => by rw [hsteady.references, hp.fresh j (hsteady.attempts ▸ hj)] }

/-- Whoever finds a module in the registry finds it alive. -/
lemma Accounted.alive (hp : Accounted p held) {h : Handle} {m : Module}
    (hf : p.modules.find? h = some m) : 1 ≤ p.references m.id := by
  have hpos : 0 < p.registered m.id := Handle.Table.count_pos_of_find? hf (by simp)
  have := hp.references m.id
  omega

/-- A module in the registry is of a load that was tried. -/
lemma Accounted.id_lt (hp : Accounted p held) {h : Handle} {m : Module}
    (hf : p.modules.find? h = some m) : m.id < p.attempts := by
  by_contra hc
  have := hp.fresh m.id (not_lt.mp hc)
  have := hp.alive hf
  omega

lemma Accounted.perm (hp : Accounted p held) {other : List Module} (h : held.Perm other) :
    Accounted p other :=
  { hp with references := fun j => by rw [hp.references, holdings, holdings, h.countP_eq] }

/-- The reference of a new handle is the one that the caller had. -/
lemma Accounted.insertModule {m : Module} (hp : Accounted p (m :: held)) :
    Accounted (Access.apply p (.insertModule m)).2 held :=
  { hp with
    modules := hp.modules.insert m
    references := fun j => by
      have hcount : (Access.apply p (.insertModule m)).2.registered j =
          p.registered j + one m.id j := by
        rw [one_eq]
        simp only [registered, Access.apply, hp.modules.sound.count_insert, decide_eq_true_eq]
      rw [hcount]
      have href := hp.references j
      rw [holdings_cons] at href
      exact href.trans (by omega) }

/-- The reference of a handle that is taken out is the caller's. -/
lemma Accounted.removeModule {h : Handle} {m : Module} (hp : Accounted p held)
    (hf : p.modules.find? h = some m) :
    Accounted (Access.apply p (.removeModule h)).2 (m :: held) :=
  { hp with
    modules := hp.modules.remove h
    references := fun j => by
      have hcount : (Access.apply p (.removeModule h)).2.registered j + one m.id j =
          p.registered j := by
        rw [one_eq]
        simp only [registered, Access.apply, ← Handle.Table.count_remove hf, decide_eq_true_eq]
      rw [holdings_cons]
      exact (hp.references j).trans (by omega) }

lemma references_retain (p : Process) (m j : ModuleId) :
    (Access.retain p m).references j = p.references j + one m j :=
  congrArg Share.references ((lends_retain p m).share j)

lemma Accounted.retain {m : Module} (hp : Accounted p held) (hm : m.id < p.attempts) :
    Accounted (Access.retain p m.id) (m :: held) :=
  { hp with
    references := fun j => by
      rw [references_retain, hp.references, holdings_cons, Nat.add_assoc]
      rfl
    fresh := fun j hj => by
      have hne : j ≠ m.id := fun h => absurd hm (not_lt.mpr (h ▸ hj))
      rw [references_retain, hp.fresh j hj, one, if_neg hne] }

lemma Accounted.release {m : Module} (hp : Accounted p (m :: held)) :
    Accounted (Access.apply p (.release m.id)).2 held :=
  { hp with
    references := fun j => by
      rw [references_release, hp.references, holdings_cons, ← Nat.add_assoc, Nat.add_sub_cancel]
      rfl
    fresh := fun j hj => by rw [references_release, hp.fresh j hj, Nat.zero_sub] }

end Process

open Process Program

variable {α σ : Type} {held : List Module} {w : World σ}

lemma Program.Neutral.accounted (env : Environment σ) {p : Program α} (hp : p.Neutral)
    (hw : Accounted w.process held) : Accounted (p.run env w).2.process held :=
  hp.run_keeps (P := fun q => Accounted q held) env (fun _ _ ha hq => hq.neutral ha) w hw

/-! ### The end of a module -/

namespace Module

/-- What the end of a module reaches: its own entry, its own library and the loading subsystem. -/
abbrev Ends (m : Module) (p : Program α) : Prop :=
  p.Within (fun a => a = .sessions m.id .size ∨ a = .discard m.id ∨ a = .releaseLoading)
    fun r => r = .call m.id (.finalize false) ∨ r = .closeLibrary m.id

lemma ends_release (m : Module) : m.Ends Loading.release := by
  refine within_bind (within_touch.mpr (.inr (.inr rfl))) fun last => ?_
  split_ifs
  · exact within_say _ _ _
  · exact within_pure _

lemma ends_tearDown (m : Module) : m.Ends m.tearDown := by
  refine within_bind (within_touch.mpr (.inl rfl)) fun left => ?_
  split_ifs
  on_goal 1 => refine within_bind (within_say _ _ _) fun _ => ?_
  all_goals
    refine within_bind (within_call.mpr (.inl rfl)) fun code => ?_
    split_ifs
    on_goal 1 => refine within_bind (within_say _ _ _) fun _ => ?_
    all_goals
      refine within_bind (within_say _ _ _) fun _ => ?_
      refine within_bind (within_touch.mpr (.inr (.inl rfl))) fun _ => ?_
      exact within_bind (within_ask.mpr (.inr rfl)) fun _ => ends_release m

/-- Who gives a reference back asks nothing of the library but to end. -/
lemma within_release (m : Module) : m.release.Within (fun _ => True)
    fun r => r = .call m.id (.finalize false) ∨ r = .closeLibrary m.id := by
  refine within_bind (within_touch.mpr trivial) fun last => ?_
  split_ifs
  · exact (ends_tearDown m).mono (fun _ _ => trivial) fun _ hr => hr
  · exact within_pure _

/-- A module that nobody refers to ends without a change to the books. -/
lemma books_tearDown (env : Environment σ) (m : Module) (hw : w.process.references m.id = 0) :
    SameBooks w.process (m.tearDown.run env w).2.process := by
  refine (ends_tearDown m).run_keeps (P := fun q => SameBooks w.process q) env ?_ w
    (SameBooks.refl _)
  rintro a q (rfl | rfl | rfl) hq
  · exact hq.trans ⟨rfl, rfl, rfl, (steady_apply q (.sessions m.id .size) trivial).references⟩
  · refine hq.trans ⟨rfl, rfl, rfl, fun j => ?_⟩
    rw [references, Access.apply, share_erase]
    split_ifs with hj
    · rw [hj, hq.references, hw]
    · rfl
  · exact hq.trans ⟨rfl, rfl, rfl, fun _ => rfl⟩

/-- A reference that is not the last is given back, and that is all. -/
lemma run_release_kept (env : Environment σ) {m : Module} (hmore : 1 < w.process.references m.id) :
    m.release.run env w =
        ((), { w with process := (Access.apply w.process (.release m.id)).2 }) ∧
      m.release.requests env w = [] := by
  have hlast : (Access.apply w.process (.release m.id)).1 = false := by
    show (w.process.references m.id - 1 == 0) = false
    rw [beq_eq_false_iff_ne]
    omega
  rw [release, run_bind, requests_bind, run_touch, hlast]
  exact ⟨rfl, rfl⟩

/-- Giving a reference back takes one off, whether or not the module ends by that. -/
lemma books_release (env : Environment σ) (m : Module) (w : World σ) :
    SameBooks (Access.apply w.process (.release m.id)).2 (m.release.run env w).2.process := by
  rw [release, run_bind, run_touch]
  split_ifs with hlast
  · refine books_tearDown env m
      (w := { w with process := (Access.apply w.process (.release m.id)).2 }) ?_
    rw [references, Access.apply, share_put, if_pos rfl]
    simpa [Access.apply] using hlast
  · exact SameBooks.refl _

end Module

/-! ### Loads -/

namespace Module

/-- How a load leaves the books: nothing is adopted unless there is a module to show for it. -/
def Begun (id : ModuleId) (w : World σ) (r : Except Fault Module × World σ) : Prop :=
  match r.1 with
  | .ok m => m.id = id ∧ r.2.process = (Access.apply w.process (.adopt id)).2
  | .error _ => r.2.process = w.process

lemma begun_begin (env : Environment σ) (id : ModuleId) (name : String) (fs : FunctionList)
    (w : World σ) : Begun id w ((begin id name fs).run env w) := by
  rw [begin, run_bind, run_call]
  split_ifs
  · rfl
  rw [run_bind, run_call]
  split_ifs
  · rfl
  · exact ⟨rfl, rfl⟩

lemma begun_ofLibrary (env : Environment σ) (id : ModuleId) (name : String) (w : World σ) :
    Begun id w ((ofLibrary id name).run env w) := by
  rw [ofLibrary, run_bind, run_ask]
  rcases (env.answer (.lookUp id Function.entryPoint.name) w.outside).1 with reason | _
  · rfl
  dsimp only
  rw [run_bind, run_call]
  split_ifs
  · rfl
  split
  · rfl
  · exact begun_begin env id name _ _

lemma books_acquire (env : Environment σ) (w : World σ) :
    SameBooks w.process (Loading.acquire.run env w).2.process := by
  rw [Loading.acquire, run_bind, run_touch]
  split_ifs
  · exact ⟨rfl, rfl, rfl, fun _ => rfl⟩
  · exact ⟨rfl, rfl, rfl, fun _ => rfl⟩

lemma books_giveBack (env : Environment σ) (w : World σ) :
    SameBooks w.process (Loading.release.run env w).2.process := by
  rw [Loading.release, run_bind, run_touch]
  split_ifs
  · exact ⟨rfl, rfl, rfl, fun _ => rfl⟩
  · exact ⟨rfl, rfl, rfl, fun _ => rfl⟩

/-- A load is numbered, and one that succeeds leaves one reference to the new module, which has no
sessions. -/
structure Numbered (p : Process) (r : Except Fault Module) (q : Process) : Prop where
  modules : q.modules = p.modules
  slots : q.slots = p.slots
  attempts : q.attempts = p.attempts + 1
  id : ∀ m, r = .ok m → m.id = p.attempts
  references : ∀ j, q.references j =
    if r.toBool = true ∧ j = p.attempts then 1 else p.references j
  sessions : ∀ m, r = .ok m → q.sessionsOf m.id = .empty

lemma Numbered.refused {p q : Process} {f : Fault}
    (h : SameBooks (Access.apply p .newModule).2 q) : Numbered p (.error f) q where
  modules := h.modules
  slots := h.slots
  attempts := h.attempts
  id m hm := by cases hm
  references j := by rw [h.references, if_neg (by simp [Except.toBool])]; rfl
  sessions m hm := by cases hm

lemma Numbered.loaded {p q : Process} {m : Module} (hm : m.id = p.attempts)
    (hnew : q.sessionsOf m.id = .empty)
    (h : SameBooks (Access.apply (Access.apply p .newModule).2 (.adopt p.attempts)).2 q) :
    Numbered p (.ok m) q where
  modules := h.modules
  slots := h.slots
  attempts := h.attempts
  id n hn := by cases hn; exact hm
  references j := by
    rw [h.references, references_adopt]
    simp only [Except.toBool, true_and]
    rfl
  sessions n hn := by cases hn; exact hnew

lemma numbered_load (env : Environment σ) (loader : Loader) (path : String) (w : World σ) :
    Numbered w.process ((load loader path).run env w).1
      ((load loader path).run env w).2.process := by
  rw [load, run_bind]
  have hbooks := books_acquire env w
  generalize (Loading.acquire.run env w).2 = v at hbooks ⊢
  rw [run_bind, run_touch, run_bind, run_ask]
  dsimp only
  rcases (env.answer (.openLibrary loader (Access.apply v.process .newModule).1 path) v.outside).1
    with reason | _
  · rw [run_bind, run_say, run_bind, run_pure]
    exact .refused (hbooks.newModule.trans (books_giveBack env ⟨_, _, _⟩))
  · rw [run_bind]
    have hbegun := begun_ofLibrary env (Access.apply v.process .newModule).1 path
      { v with
        process := (Access.apply v.process .newModule).2
        outside := (env.answer
          (.openLibrary loader (Access.apply v.process .newModule).1 path) v.outside).2 }
    generalize (ofLibrary (Access.apply v.process .newModule).1 path).run env _ = r at hbegun ⊢
    obtain ⟨f | m, u⟩ := r
    · have hu : u.process = (Access.apply v.process .newModule).2 := hbegun
      dsimp only
      rw [run_bind, run_ask, run_bind, run_pure]
      refine .refused (hbooks.newModule.trans ?_)
      rw [← hu]
      exact books_giveBack env
        { u with outside := (env.answer (.closeLibrary v.process.attempts) u.outside).2 }
    · obtain ⟨hid, hu⟩ : m.id = v.process.attempts ∧ u.process =
        (Access.apply (Access.apply v.process .newModule).2 (.adopt v.process.attempts)).2 := hbegun
      rw [hbooks.attempts] at hid hu
      have hnew : u.process.sessionsOf m.id = .empty := by
        rw [hid, hu]
        exact sessionsOf_adopt _ _
      refine .loaded hid hnew ((hbooks.newModule.adopt _).trans ?_)
      rw [← hu]
      exact SameBooks.refl _

lemma Numbered.accounted_refused {p q : Process} {f : Fault} (h : Numbered p (.error f) q)
    (hp : Accounted p held) : Accounted q held where
  modules := h.modules ▸ hp.modules
  slots := h.slots ▸ hp.slots
  references j := by
    rw [h.references, if_neg (by simp [Except.toBool]), hp.references, registered, registered,
      h.modules]
  fresh j hj := by
    rw [h.attempts] at hj
    rw [h.references, if_neg (by simp [Except.toBool])]
    exact hp.fresh j (Nat.le_of_succ_le hj)

/-- A load hands its caller the only reference to the new module. -/
lemma Numbered.accounted_loaded {p q : Process} {m : Module} (h : Numbered p (.ok m) q)
    (hp : Accounted p held) : Accounted q (m :: held) where
  modules := h.modules ▸ hp.modules
  slots := h.slots ▸ hp.slots
  references j := by
    have hregistered : q.registered j = p.registered j := by
      rw [registered, registered, h.modules]
    have href := hp.references j
    rw [h.references, holdings_cons, hregistered, h.id m rfl, one]
    by_cases hj : j = p.attempts
    · have hzero := hp.fresh j hj.ge
      rw [if_pos ⟨rfl, hj⟩, if_pos hj]
      omega
    · rw [if_neg fun hc => hj hc.2, if_neg hj]
      exact href
  fresh j hj := by
    rw [h.attempts] at hj
    rw [h.references, if_neg fun hc => absurd hj (by rw [hc.2]; exact Nat.not_succ_le_self _)]
    exact hp.fresh j (Nat.le_of_succ_le hj)

lemma accounted_release (env : Environment σ) {m : Module}
    (hw : Accounted w.process (m :: held)) :
    Accounted (m.release.run env w).2.process held :=
  hw.release.books (books_release env m w)

end Module

end Cryptoki
