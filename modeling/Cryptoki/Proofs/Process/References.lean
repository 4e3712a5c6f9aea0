import Cryptoki.Host
import Cryptoki.Proofs.Program.Runs

/-!
References to modules, and the accesses that have nothing to do with them.

Two processes that differ only in how many references to a module are out cannot be told apart by
neutral accesses, which are those to sessions and to slots. So an operation on a module that holds
a reference meanwhile does what it would do without one, as long as the reference it gives back
is not the last.
-/

namespace Cryptoki.Process

/-! ### Shares -/

/-- The references to a module that are out. -/
def references (p : Process) (m : ModuleId) : ℕ := (Access.share p m).references

/-- The sessions of a module. -/
def sessionsOf (p : Process) (m : ModuleId) : Sessions := (Access.share p m).sessions

lemma share_put (p : Process) (m : ModuleId) (s : Share) (j : ModuleId) :
    Access.share { p with shares := p.shares.put m s } j =
      if j = m then s else Access.share p j := by
  unfold Access.share
  split_ifs with hj
  · subst hj; simp [Assoc.get?_put_self]
  · rw [Assoc.get?_put_of_ne _ _ hj]

lemma share_erase (p : Process) (m j : ModuleId) :
    Access.share { p with shares := p.shares.erase m } j =
      if j = m then ⟨0, .empty⟩ else Access.share p j := by
  unfold Access.share
  split_ifs with hj
  · subst hj; simp [Assoc.get?_erase_self]
  · rw [Assoc.get?_erase_of_ne _ hj]

/-! ### Processes that differ in references only -/

/-- The second process is the first with `d m` more references to each module `m`. -/
structure Lends (d : ModuleId → ℕ) (p q : Process) : Prop where
  modules : q.modules = p.modules
  slots : q.slots = p.slots
  attempts : q.attempts = p.attempts
  loading : q.loading = p.loading
  share : ∀ m, Access.share q m =
    { Access.share p m with references := (Access.share p m).references + d m }

/-- The same registries, the same sessions and references of every module, and the same count of
references to the loading subsystem. -/
def Same (p q : Process) : Prop := Lends (fun _ => 0) p q

lemma same_iff {p q : Process} :
    Same p q ↔ q.modules = p.modules ∧ q.slots = p.slots ∧ q.attempts = p.attempts ∧
      q.loading = p.loading ∧ ∀ m, Access.share q m = Access.share p m :=
  ⟨fun h => ⟨h.modules, h.slots, h.attempts, h.loading, h.share⟩,
    fun ⟨hm, hs, ha, hl, h⟩ => ⟨hm, hs, ha, hl, h⟩⟩

lemma Same.refl (p : Process) : Same p p := ⟨rfl, rfl, rfl, rfl, fun _ => rfl⟩

lemma Same.symm {p q : Process} (h : Same p q) : Same q p := by
  obtain ⟨hm, hs, ha, hl, hsh⟩ := same_iff.mp h
  exact same_iff.mpr ⟨hm.symm, hs.symm, ha.symm, hl.symm, fun m => (hsh m).symm⟩

lemma Same.trans {p q r : Process} (h : Same p q) (k : Same q r) : Same p r := by
  obtain ⟨hm, hs, ha, hl, hsh⟩ := same_iff.mp h
  obtain ⟨km, ks, ka, kl, ksh⟩ := same_iff.mp k
  exact same_iff.mpr ⟨km.trans hm, ks.trans hs, ka.trans ha, kl.trans hl,
    fun m => (ksh m).trans (hsh m)⟩

lemma Same.references {p q : Process} (h : Same p q) (m : ModuleId) :
    q.references m = p.references m := congrArg Share.references (h.share m)

/-- One reference to a module, and none to any other. -/
def one (m : ModuleId) : ModuleId → ℕ := fun j => if j = m then 1 else 0

lemma lends_retain (p : Process) (m : ModuleId) : Lends (one m) p (Access.retain p m) := by
  refine ⟨rfl, rfl, rfl, rfl, fun j => ?_⟩
  rw [Access.retain, share_put, one]
  split_ifs with hj
  · rw [hj]
  · rfl

lemma sessionsOf_retain (p : Process) (m j : ModuleId) :
    (Access.retain p m).sessionsOf j = p.sessionsOf j := by
  have hsessions := congrArg Share.sessions ((lends_retain p m).share j)
  exact hsessions

lemma sessionsOf_apply_release (p : Process) (m j : ModuleId) :
    (Access.apply p (.release m)).2.sessionsOf j = p.sessionsOf j := by
  rw [sessionsOf, Access.apply, share_put]
  split_ifs with hj
  · rw [hj, sessionsOf]
  · rfl

/-- Giving back what was lent. -/
lemma Lends.release {p q : Process} {m : ModuleId} (h : Lends (one m) p q) :
    Same p (Access.apply q (.release m)).2 := by
  refine same_iff.mpr ⟨h.modules, h.slots, h.attempts, h.loading, fun j => ?_⟩
  rw [Access.apply, share_put]
  split_ifs with hj
  · subst hj; simp [h.share, one]
  · simp [h.share, one, hj]

/-! ### Neutral accesses -/

/-- Accesses to the sessions of a module and to the registry of slots. -/
def Access.Neutral : Access → Prop
  | .sessions .. | .insertSlot _ | .resolveSlot _ | .removeSlot _ | .removeSlotsOf _ => True
  | _ => False

/-- A neutral access is blind to references. -/
lemma Lends.apply {d : ModuleId → ℕ} {p q : Process} (a : Access) (ha : a.Neutral)
    (h : Lends d p q) : (a.apply p).1 = (a.apply q).1 ∧ Lends d (a.apply p).2 (a.apply q).2 := by
  cases a with
  | sessions m a =>
    have hsame : (Access.share q m).sessions = (Access.share p m).sessions := by rw [h.share]
    refine ⟨?_, h.modules, h.slots, h.attempts, h.loading, fun j => ?_⟩
    · simp [Access.apply, hsame]
    · rw [Access.apply, Access.apply, share_put, share_put, hsame]
      split_ifs with hj
      · subst hj; simp [h.share]
      · exact h.share j
  | insertSlot s =>
    have hs := h.slots
    simp only [Access.apply, hs]
    exact ⟨trivial, h.modules, rfl, h.attempts, h.loading, h.share⟩
  | resolveSlot k =>
    simp only [Access.apply, h.slots]
    exact ⟨trivial, h⟩
  | removeSlot k =>
    have hs := h.slots
    simp only [Access.apply, hs]
    exact ⟨trivial, h.modules, rfl, h.attempts, h.loading, h.share⟩
  | removeSlotsOf k =>
    have hs := h.slots
    simp only [Access.apply, hs]
    exact ⟨trivial, h.modules, rfl, h.attempts, h.loading, h.share⟩
  | _ => exact absurd ha (by simp [Access.Neutral])

/-- What neutral accesses leave alone. -/
structure Steady (p q : Process) : Prop where
  modules : q.modules = p.modules
  attempts : q.attempts = p.attempts
  loading : q.loading = p.loading
  references : ∀ m, q.references m = p.references m

lemma Steady.refl (p : Process) : Steady p p := ⟨rfl, rfl, rfl, fun _ => rfl⟩

lemma Steady.trans {p q r : Process} (h : Steady p q) (k : Steady q r) : Steady p r :=
  ⟨k.modules.trans h.modules, k.attempts.trans h.attempts, k.loading.trans h.loading,
    fun m => (k.references m).trans (h.references m)⟩

lemma Same.steady {p q : Process} (h : Same p q) : Steady p q :=
  ⟨h.modules, h.attempts, h.loading, h.references⟩

lemma steady_apply (p : Process) (a : Access) (ha : a.Neutral) : Steady p (a.apply p).2 := by
  cases a with
  | sessions m a =>
    refine ⟨rfl, rfl, rfl, fun j => ?_⟩
    rw [Process.references, Access.apply, share_put]
    split_ifs with hj
    · rw [hj]; rfl
    · rfl
  | insertSlot s => exact ⟨rfl, rfl, rfl, fun _ => rfl⟩
  | resolveSlot k => exact Steady.refl p
  | removeSlot k => exact ⟨rfl, rfl, rfl, fun _ => rfl⟩
  | removeSlotsOf k => exact ⟨rfl, rfl, rfl, fun _ => rfl⟩
  | _ => exact absurd ha (by simp [Access.Neutral])

end Process

namespace Program

variable {α β σ : Type} {p q : Program α} {w : World σ}

/-- No access of the program takes or gives back a reference to a module. -/
abbrev Neutral (p : Program α) : Prop := p.Within Process.Access.Neutral fun _ => True

lemma Neutral.steady (env : Environment σ) (hp : p.Neutral) (w : World σ) :
    w.process.Steady (p.run env w).2.process :=
  hp.run_keeps (P := fun q => w.process.Steady q) env
    (fun a q ha h => h.trans (Process.steady_apply q a ha)) w (Process.Steady.refl _)

lemma Neutral.agree (env : Environment σ) (hp : p.Neutral) {d : ModuleId → ℕ} {v : World σ}
    (hw : v.Related (Process.Lends d) w) : p.Agree env (Process.Lends d) p v w :=
  Within.agree env hp (fun a _ _ ha h => h.apply a ha) hw

lemma Agree.bind_neutral {env : Environment σ} {d : ModuleId → ℕ} {f : α → Program β}
    {v : World σ} (h : p.Agree env (Process.Lends d) q v w) (hf : ∀ a, (f a).Neutral) :
    (p >>= f).Agree env (Process.Lends d) (q >>= f) v w :=
  h.bind fun a _ _ hw => (hf a).agree env hw

lemma Related.refl (w : World σ) : w.Related Process.Same w := ⟨rfl, rfl, Process.Same.refl _⟩

lemma Agree.trans {env : Environment σ} {r : Program α} (h : p.Agree env Process.Same q w w)
    (k : q.Agree env Process.Same r w w) : p.Agree env Process.Same r w w :=
  ⟨h.answer.trans k.answer, h.requests.trans k.requests, h.world.outside.trans k.world.outside,
    h.world.journal.trans k.world.journal, h.world.process.trans k.world.process⟩

end Program

end Cryptoki
