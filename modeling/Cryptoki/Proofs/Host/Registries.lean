import Cryptoki.Proofs.Handle.Refinement
import Cryptoki.Proofs.Host.Steps

/-!
What an operation makes of the registries and of the sessions.

An operation on good handles serves one module: it changes the sessions of that module and may
register slots of it. Closing a slot takes one record out, an unload takes out a module and all its
slots, and a load adds a module under a number that no module had before. It follows that every
slot a host can find is one of a module it can find, and that no module has two handles.
-/

namespace Cryptoki

open Process Program

namespace Process

variable {p q r : Process} {h : Handle} {j : ModuleId}

/-- The same registries, and the same sessions of every module. -/
structure Alike (p q : Process) : Prop where
  modules : q.modules = p.modules
  slots : q.slots = p.slots
  sessions : ∀ j, q.sessionsOf j = p.sessionsOf j

lemma Alike.trans (h : Alike p q) (k : Alike q r) : Alike p r :=
  ⟨k.modules.trans h.modules, k.slots.trans h.slots,
    fun j => (k.sessions j).trans (h.sessions j)⟩

lemma Same.alike (h : Same p q) : Alike p q :=
  ⟨h.modules, h.slots, fun j => congrArg Share.sessions (h.share j)⟩

/-! ### Serving a module -/

/-- Accesses on behalf of a module under a handle: to its sessions, and to register a slot of it. -/
def Access.Serves (h : Handle) (j : ModuleId) : Access → Prop
  | .sessions i _ => i = j
  | .insertSlot k => k.module = h
  | _ => False

lemma Access.Serves.neutral {a : Access} (ha : a.Serves h j) : a.Neutral := by
  cases a <;> trivial

lemma Access.SessionsOf.serves {a : Access} (ha : a.SessionsOf j) : a.Serves h j := by
  cases a with
  | sessions i a => exact ha
  | _ => exact ha.elim

/-- What such accesses make of a process: slots of the module are added to those there are, and
other modules keep their sessions. -/
structure Served (h : Handle) (j : ModuleId) (p q : Process) : Prop where
  modules : q.modules = p.modules
  others : ∀ f : Slot → Bool, (∀ id, f ⟨id, h⟩ = false) → q.slots.count f = p.slots.count f
  kept : ∀ s k, p.slots.find? s = some k → q.slots.find? s = some k
  added : ∀ s k, q.slots.find? s = some k → p.slots.find? s = some k ∨ k.module = h
  sessions : ∀ i, i ≠ j → q.sessionsOf i = p.sessionsOf i

lemma Served.refl (h : Handle) (j : ModuleId) (p : Process) : Served h j p p :=
  ⟨rfl, fun _ _ => rfl, fun _ _ hf => hf, fun _ _ hf => .inl hf, fun _ _ => rfl⟩

lemma Served.alike (hs : Served h j p q) (k : Alike q r) : Served h j p r where
  modules := k.modules.trans hs.modules
  others f hf := by rw [k.slots]; exact hs.others f hf
  kept s a hf := by rw [k.slots]; exact hs.kept s a hf
  added s a hf := hs.added s a (by rwa [k.slots] at hf)
  sessions i hi := (k.sessions i).trans (hs.sessions i hi)

lemma Served.apply (hs : Served h j p q) (hq : q.slots.Sound) {a : Access} (ha : a.Serves h j) :
    Served h j p (a.apply q).2 := by
  cases a with
  | sessions i a =>
    obtain rfl : i = j := ha
    exact { hs with
      sessions := fun k hk => (sessionsOf_sessions_of_ne q a hk).trans (hs.sessions k hk) }
  | insertSlot k =>
    obtain rfl : k.module = h := ha
    refine ⟨hs.modules, fun f hf => ?_,
      fun s a hf => hq.find?_insert_of_find? k (hs.kept s a hf), fun s a hf => ?_, hs.sessions⟩
    · rw [Access.apply, hq.count_insert, hf k.id, hs.others f hf]
      rfl
    · obtain hold | ⟨-, rfl⟩ := hq.find?_of_insert hf
      · exact hs.added s a hold
      · exact .inr rfl
  | _ => exact ha.elim

end Process

variable {α σ : Type} {env : Environment σ} {w : World σ} {held : List Module} {h s : Handle}
  {m : Module}

lemma Program.served_run (env : Environment σ) {p : Program α} {j : ModuleId} {R : Request → Prop}
    (hp : p.Within (Access.Serves h j) R) (hw : Accounted w.process held) :
    Served h j w.process (p.run env w).2.process := by
  have hkeeps := hp.run_keeps (P := fun q => Accounted q held ∧ Served h j w.process q) env
    (fun a q ha hq => ⟨hq.1.neutral ha.neutral, hq.2.apply hq.1.slots.sound ha⟩) w
    ⟨hw, .refl _ _ _⟩
  exact hkeeps.2

/-! ### Modules that end and modules that begin -/

namespace Module

/-- No module but the one that is given back notices. -/
lemma sessionsOf_release (env : Environment σ) (m : Module) (w : World σ) {j : ModuleId}
    (hj : j ≠ m.id) :
    (m.release.run env w).2.process.sessionsOf j = w.process.sessionsOf j := by
  have hp : m.release.Within (fun a => a = .release m.id ∨ a = .sessions m.id .size ∨
      a = .discard m.id ∨ a = .releaseLoading) fun _ => True := by
    refine within_bind (within_touch.mpr (.inl rfl)) fun last => ?_
    split_ifs
    · exact (ends_tearDown m).mono (fun _ ha => .inr ha) fun _ _ => trivial
    · exact within_pure _
  refine hp.run_keeps (P := fun q => q.sessionsOf j = w.process.sessionsOf j) env ?_ w rfl
  rintro a q (rfl | rfl | rfl | rfl) hq
  · rw [sessionsOf, Access.apply, share_put, if_neg hj]
    exact hq
  · exact (sessionsOf_sessions_of_ne q .size hj).trans hq
  · rw [sessionsOf, Access.apply, share_erase, if_neg hj]
    exact hq
  · exact hq

/-- What a load leaves of the process, whether or not there is a module to show for it. -/
lemma process_load (env : Environment σ) (loader : Loader) (path : String) (w : World σ) :
    ((load loader path).run env w).2.process =
      match ((load loader path).run env w).1 with
      | .ok _ => (Access.apply (Access.apply (Access.apply w.process .acquireLoading).2
          .newModule).2 (.adopt w.process.attempts)).2
      | .error _ => { w.process with attempts := w.process.attempts + 1 } := by
  obtain ⟨d, last, released, hcourse, hanswer, hdeeds⟩ := deeds_load env loader path w
  rw [run_process, hdeeds, List.foldl_cons, List.foldl_cons, List.foldl_append,
    Deed.foldl_leave_of_asked hcourse.asked]
  rcases hr : ((load loader path).run env w).1 with f | m
  · rw [hr] at hanswer
    rcases last with _ | last
    · cases hanswer
    · rfl
  · rw [hr] at hanswer
    rcases last with _ | last
    · rfl
    · cases hanswer

end Module

namespace Host

/-! ### What operations leave -/

/-- What an operation addressed to a module, or to none, makes of the registries and of the
sessions. -/
inductive Outcome (p q : Process) : Option Handle → Prop
  | refused {target : Option Handle} (hsame : Alike p q) : Outcome p q target
  | served {h : Handle} {m : Module} (hf : p.modules.find? h = some m)
      (hserved : Served h m.id p q) : Outcome p q (some h)
  | closed {h s : Handle} {id : SlotId} (hs : p.slots.find? s = some ⟨id, h⟩)
      (hclosed : Alike (Access.apply p (.removeSlot s)).2 q) : Outcome p q (some h)
  | unloaded {h : Handle} {m : Module} (hf : p.modules.find? h = some m)
      (hmodules : q.modules = (without p h).modules) (hslots : q.slots = (without p h).slots)
      (hsessions : ∀ j, j ≠ m.id → q.sessionsOf j = p.sessionsOf j) : Outcome p q (some h)
  | loaded {m : Module} (hid : m.id = p.attempts) (hmodules : q.modules = (p.modules.insert m).2)
      (hslots : q.slots = p.slots)
      (hsessions : ∀ j, j ≠ m.id → q.sessionsOf j = p.sessionsOf j) : Outcome p q none

/-- The handle of the module that an operation is addressed to. -/
def Operation.target : Operation → Option Handle
  | .load .. => none
  | .onModule h _ | .onSlot h _ _ => some h

lemma ModuleOp.serves_effect (h : Handle) (m : Module) (o : ModuleOp) (ho : o ≠ .unload) :
    (o.effect h m).Within (Access.Serves h m.id) fun _ => True := by
  have howned : ∀ {β : Type} {p : Program β}, m.Owns p →
      p.Within (Access.Serves h m.id) fun _ => True :=
    fun hp => hp.mono (fun _ ha => ha.serves) fun _ _ => trivial
  have hregister : ∀ id, (register h id).Within (Access.Serves h m.id) fun _ => True :=
    fun id => within_touch.mpr rfl
  cases o with
  | info => exact within_pure _
  | unload => exact absurd rfl ho
  | slotList tokenPresent => exact howned (m.owns_slotList tokenPresent)
  | openSlot id =>
    refine within_bind (howned (m.owns_slotInfo id)) fun told => ?_
    rcases told with f | info
    · exact within_pure _
    · exact within_bind (hregister id) fun _ => within_pure _
  | openSlotByLabel label =>
    refine within_bind (howned (m.owns_findSlot label)) fun found => ?_
    rcases found with f | _ | id
    · exact within_pure _
    · exact within_pure _
    · exact within_bind (hregister id) fun _ => within_pure _
  | waitForSlot patience =>
    refine within_bind (howned (m.owns_waitForSlot patience)) fun event => ?_
    rcases event with f | _ | id
    · exact within_pure _
    · exact within_pure _
    · exact within_bind (hregister id) fun _ => within_pure _
  | openSessions => exact within_bind (howned m.owns_openSessions) fun _ => within_pure _

lemma SlotOp.owns_effect (s : Handle) (m : Module) (id : SlotId) (o : SlotOp) (ho : o ≠ .close) :
    m.Owns (o.effect s m id) := by
  cases o with
  | close => exact absurd rfl ho
  | slotInfo => exact m.owns_slotInfo id
  | tokenInfo => exact m.owns_tokenInfo id
  | openSession readWrite => exact m.owns_openSession id readWrite
  | closeSession session =>
    exact within_bind (m.owns_closeSession id session) fun _ => within_pure _
  | login session user secret => exact m.owns_login id session user secret
  | logout session => exact within_bind (m.owns_logout id session) fun _ => within_pure _
  | sessionState session =>
    refine within_bind (m.owns_sessionState id session) fun state => ?_
    rcases state with _ | state
    · exact within_pure _
    · exact within_pure _

lemma outcome_unload (env : Environment σ) (hf : w.process.modules.find? h = some m) :
    Outcome w.process ((Host.unload h).run env w).2.process (some h) := by
  obtain ⟨-, v, -, -, hprocess, -, hrun⟩ := unload_found env hf
  have hbooks := Module.books_release env m v
  rw [hprocess] at hbooks
  rw [hrun]
  refine .unloaded hf hbooks.modules hbooks.slots fun j hj => ?_
  rw [Module.sessionsOf_release env m v hj, hprocess]
  rfl

lemma ModuleOp.outcome (hw : Accounted w.process held) (o : ModuleOp) :
    Outcome w.process ((o.program h).run env w).2.process (some h) := by
  obtain ⟨m, hf, hagree⟩ | ⟨kind, hrefuses⟩ := o.agree_or_refuses env hw h
  · by_cases ho : o = .unload
    · subst ho
      exact outcome_unload env hf
    · exact .served hf ((served_run env (o.serves_effect h m ho) hw).alike
        hagree.world.process.symm.alike)
  · exact .refused hrefuses.world.process.symm.alike

lemma SlotOp.outcome (hw : Accounted w.process held) (o : SlotOp) :
    Outcome w.process ((o.program h s).run env w).2.process (some h) := by
  obtain ⟨m, id, hf, hs, hagree⟩ | ⟨kind, k, hrefuses⟩ := o.agree_or_refuses env hw h s
  · have hagree := hagree.world.process.symm.alike
    by_cases ho : o = .close
    · subst ho
      exact .closed hs hagree
    · have hserves := (o.owns_effect s m id ho).mono (B := Access.Serves h m.id)
        (S := fun _ => True) (fun _ ha => ha.serves) fun _ _ => trivial
      exact .served hf ((served_run env hserves hw).alike hagree)
  · exact .refused hrefuses.world.process.symm.alike

lemma outcome_load (env : Environment σ) (loader : Loader) (path : String) (w : World σ) :
    Outcome w.process ((Host.load loader path).run env w).2.process none := by
  rw [Host.load]
  split_ifs
  · exact .refused ⟨rfl, rfl, fun _ => rfl⟩
  rw [run_bind]
  have hnum := Module.numbered_load env loader path w
  have hprocess := Module.process_load env loader path w
  generalize (Module.load loader path).run env w = r at hnum hprocess ⊢
  obtain ⟨f | m, v⟩ := r
  · have hv : v.process = { w.process with attempts := w.process.attempts + 1 } := hprocess
    refine .refused ?_
    rw [run_pure, hv]
    exact ⟨rfl, rfl, fun _ => rfl⟩
  · have hid := hnum.id m rfl
    refine .loaded hid ?_ hnum.slots fun j hj => ?_
    · rw [← hnum.modules]
      rfl
    · have hv : v.process = (Access.apply (Access.apply (Access.apply w.process .acquireLoading).2
          .newModule).2 (.adopt w.process.attempts)).2 := hprocess
      show v.process.sessionsOf j = _
      rw [hv, sessionsOf_adopt_of_ne _ (hid ▸ hj)]
      rfl

/-- **What an operation does.** -/
theorem Operation.outcome (hw : Accounted w.process held) (o : Operation) :
    Outcome w.process (o.program.run env w).2.process o.target := by
  cases o with
  | load loader path => exact outcome_load env loader path w
  | onModule h o => exact o.outcome hw
  | onSlot h s o => exact o.outcome hw

/-! ### What every host can rely on -/

/-- Every slot that is found is one of a module that is found, and no module has two handles. -/
structure Anchored (p : Process) : Prop where
  owned : ∀ s k, p.slots.find? s = some k → ∃ m, p.modules.find? k.module = some m
  once : ∀ j, p.registered j ≤ 1

variable {p q : Process} {target : Option Handle}

lemma anchored_initial : Anchored .initial where
  owned s k hf := by simp [Process.initial, Handle.Table.find?_empty] at hf
  once j := by
    rw [registered, Process.initial, Handle.Table.count_empty]
    exact Nat.zero_le 1

lemma Anchored.registries (hp : Anchored p) (hmodules : q.modules = p.modules)
    (hslots : q.slots = p.slots) : Anchored q where
  owned s k hf := by
    rw [hslots] at hf
    rw [hmodules]
    exact hp.owned s k hf
  once j := by
    rw [registered, hmodules]
    exact hp.once j

/-- Two handles of one module would have been counted twice. -/
lemma Anchored.handle_eq (hp : Anchored p) {k : Handle} {n : Module}
    (hf : p.modules.find? h = some m) (hk : p.modules.find? k = some n) (hid : n.id = m.id) :
    k = h := by
  by_contra hne
  have hstill : (p.modules.remove h).2.find? k = some n := by
    rw [Handle.Table.find?_remove, if_neg hne, hk]
  have hother : 0 < (p.modules.remove h).2.count fun a => a.id = m.id :=
    Handle.Table.count_pos_of_find? hstill (by simpa using hid)
  have hcount := Handle.Table.count_remove hf fun a => a.id = m.id
  have honce := hp.once m.id
  simp only [registered] at honce
  simp only [decide_true, if_true] at hcount
  omega

/-- **One operation.** Slots stay with their modules, and modules with their handles. -/
lemma Anchored.outcome (hp : Anchored p) (hbooks : Accounted p held)
    (houtcome : Outcome p q target) : Anchored q := by
  cases houtcome with
  | refused hsame => exact hp.registries hsame.modules hsame.slots
  | @served h m hf hserved =>
    refine ⟨fun s k hs => ?_, fun j => ?_⟩
    · rw [hserved.modules]
      obtain hold | hnew := hserved.added s k hs
      · exact hp.owned s k hold
      · exact ⟨m, hnew ▸ hf⟩
    · rw [registered, hserved.modules]
      exact hp.once j
  | @closed h s id hs hclosed =>
    refine ⟨fun t k ht => ?_, fun j => ?_⟩
    · rw [hclosed.slots, Access.apply, Handle.Table.find?_remove] at ht
      split_ifs at ht
      rw [hclosed.modules]
      exact hp.owned t k ht
    · rw [registered, hclosed.modules]
      exact hp.once j
  | @unloaded h m hf hmodules hslots hsessions =>
    refine ⟨fun s k hs => ?_, fun j => ?_⟩
    · rw [hslots] at hs
      obtain ⟨hold, hother⟩ : p.slots.find? s = some k ∧ k.module ≠ h := by
        simpa [without, Access.apply, Handle.Table.find?_removeWhere, Option.filter_eq_some_iff]
          using hs
      rw [hmodules]
      simpa [without, Access.apply, Handle.Table.find?_remove, hother] using hp.owned s k hold
    · have hcount := Handle.Table.count_remove hf fun a => a.id = j
      have honce := hp.once j
      rw [registered] at honce ⊢
      rw [hmodules]
      exact le_trans (Nat.le_of_add_right_le hcount.le) honce
  | @loaded m hid hmodules hslots hsessions =>
    refine ⟨fun s k hs => ?_, fun j => ?_⟩
    · rw [hslots] at hs
      obtain ⟨n, hn⟩ := hp.owned s k hs
      rw [hmodules]
      exact ⟨n, hbooks.modules.sound.find?_insert_of_find? m hn⟩
    · rw [registered, hmodules, hbooks.modules.sound.count_insert]
      have honce := hp.once j
      rw [registered] at honce
      split_ifs with hj
      · -- The number is new, so nothing was registered under it.
        have hfresh := hbooks.fresh p.attempts (le_refl _)
        have hnone := hbooks.references p.attempts
        rw [registered] at hnone
        obtain rfl : p.attempts = j := by rw [← hid]; simpa using hj
        omega
      · exact honce

/-! ### Slots of no module -/

/-- A handle without a module has no slots, not even among those that no handle finds. -/
def Moored (p : Process) : Prop :=
  ∀ k, p.modules.find? k = none → p.slots.count (fun s => s.module = k) = 0

lemma moored_initial : Moored .initial := fun _ _ => Handle.Table.count_empty _ _ _ _

lemma Moored.registries (hp : Moored p) (hmodules : q.modules = p.modules)
    (hslots : q.slots = p.slots) : Moored q := by
  intro k hk
  rw [hmodules] at hk
  rw [hslots]
  exact hp k hk

/-- What an operation does to the slots of a module that it is addressed to is done to no others. -/
lemma Outcome.others {h : Handle} (houtcome : Outcome p q (some h))
    (hstays : q.modules = p.modules) (f : Slot → Bool) (hf : ∀ id, f ⟨id, h⟩ = false) :
    q.slots.count f = p.slots.count f := by
  cases houtcome with
  | refused hsame => rw [hsame.slots]
  | served hfound hserved => exact hserved.others f hf
  | @closed _ s id hs hclosed =>
    have hcount := Handle.Table.count_remove hs f
    rw [hf id] at hcount
    rw [hclosed.slots]
    exact hcount
  | unloaded hfound hmodules hslots hsessions =>
    have hgone := Handle.Table.find?_remove p.modules h h
    have hsame : (p.modules.remove h).2 = p.modules := hmodules.symm.trans hstays
    rw [hsame, hfound, if_pos rfl] at hgone
    cases hgone

/-- An unload takes all slots of the module along. -/
lemma Moored.unloaded (hp : Moored p) {h : Handle}
    (hmodules : q.modules = (without p h).modules) (hslots : q.slots = (without p h).slots) :
    Moored q := by
  intro k hk
  rw [hmodules] at hk
  have hfind : (if k = h then none else p.modules.find? k) = none := by
    rw [← Handle.Table.find?_remove]
    exact hk
  have hcount : q.slots.count (fun s => s.module = k) =
      p.slots.count fun s => decide (s.module = k) && !(s.module == h) := by
    rw [hslots]
    exact Handle.Table.count_removeWhere _ _ _
  rw [hcount]
  by_cases hkh : k = h
  · subst hkh
    have hnone : (fun s : Slot => decide (s.module = k) && !(s.module == k)) = fun _ => false := by
      funext s
      by_cases hs : s.module = k <;> simp [hs]
    rw [hnone]
    simp [Handle.Table.count, Handle.Table.holding_eq]
  · have hall : (fun s : Slot => decide (s.module = k) && !(s.module == h)) =
        fun s => decide (s.module = k) := by
      funext s
      by_cases hs : s.module = k <;> simp [hs, hkh]
    rw [hall]
    exact hp k (by rwa [if_neg hkh] at hfind)

lemma Moored.outcome (hp : Moored p) (hbooks : Accounted p held) (houtcome : Outcome p q target) :
    Moored q := by
  cases houtcome with
  | refused hsame => exact hp.registries hsame.modules hsame.slots
  | @served h m hf hserved =>
    intro k hk
    rw [hserved.modules] at hk
    have hkh : h ≠ k := fun heq => by
      rw [← heq, hf] at hk
      cases hk
    rw [hserved.others _ fun id => decide_eq_false hkh]
    exact hp k hk
  | closed hs hclosed =>
    intro k hk
    rw [hclosed.modules] at hk
    have hcount := Handle.Table.count_remove hs fun s => s.module = k
    rw [hp k hk] at hcount
    rw [hclosed.slots]
    exact (Nat.add_eq_zero_iff.mp hcount).1
  | unloaded hf hmodules hslots hsessions => exact hp.unloaded hmodules hslots
  | @loaded m hid hmodules hslots hsessions =>
    intro k hk
    rw [hslots]
    refine hp k ?_
    rcases hold : p.modules.find? k with _ | n
    · rfl
    · rw [hmodules, hbooks.modules.sound.find?_insert_of_find? m hold] at hk
      cases hk

namespace Site

lemma registries_owns (env : Environment σ) {p : Program α} (hp : m.Owns p) (w : World σ) :
    (p.run env w).2.process.modules = w.process.modules ∧
      (p.run env w).2.process.slots = w.process.slots := by
  refine hp.run_keeps (P := fun q => q.modules = w.process.modules ∧ q.slots = w.process.slots) env
    (fun a q ha hq => ?_) w ⟨rfl, rfl⟩
  cases a with
  | sessions j a => exact hq
  | _ => exact ha.elim

/-- Only calls have to do with the registries. -/
lemma registries_step (env : Environment σ) (s : Site σ) {st : Step σ} (hst : ∀ o, st ≠ .call o) :
    (s.step env st).world.process.modules = s.world.process.modules ∧
      (s.step env st).world.process.slots = s.world.process.slots := by
  cases st with
  | call o => exact absurd rfl (hst o)
  | hold h =>
    rcases hf : s.world.process.modules.find? h with _ | m
    · rw [step, run_hold_stale hf]
      exact ⟨rfl, rfl⟩
    · rw [step, run_hold hf]
      exact ⟨rfl, rfl⟩
  | use k o =>
    rcases hk : s.held[k]? with _ | m
    · simp only [step, hk, and_self]
    · simpa only [step, hk] using registries_owns env (m.owns_method o) s.world
  | letGo k =>
    rcases hk : s.held[k]? with _ | m
    · simp only [step, hk, and_self]
    · have hbooks := Module.books_release env m s.world
      simpa only [step, hk] using ⟨hbooks.modules, hbooks.slots⟩
  | acquire =>
    have hbooks := Module.books_acquire env s.world
    exact ⟨hbooks.modules, hbooks.slots⟩
  | giveBack =>
    rw [step]
    split_ifs
    · exact ⟨rfl, rfl⟩
    · have hbooks := Module.books_giveBack env s.world
      exact ⟨hbooks.modules, hbooks.slots⟩
  | change f => exact ⟨rfl, rfl⟩

lemma anchored_step (env : Environment σ) {s : Site σ} (hs : Accounted s.world.process s.held)
    (hp : Anchored s.world.process) (st : Step σ) : Anchored (s.step env st).world.process := by
  by_cases hcall : ∃ o, st = .call o
  · obtain ⟨o, rfl⟩ := hcall
    exact hp.outcome hs (o.outcome hs)
  · obtain ⟨hmodules, hslots⟩ := registries_step env s fun o ho => hcall ⟨o, ho⟩
    exact hp.registries hmodules hslots

/-- **After every run** slots are with their modules, and modules with their handles. -/
theorem anchored_after (env : Environment σ) {s : Site σ} (hs : Accounted s.world.process s.held)
    (hp : Anchored s.world.process) (steps : List (Step σ)) :
    Anchored (s.after env steps).world.process := by
  induction steps generalizing s with
  | nil => exact hp
  | cons st steps ih => exact ih (accounted_step env hs st) (anchored_step env hs hp st)

/-- **After every run** the handles without a module have no slots. -/
theorem moored_after (env : Environment σ) {s : Site σ} (hs : Accounted s.world.process s.held)
    (hp : Moored s.world.process) (steps : List (Step σ)) :
    Moored (s.after env steps).world.process := by
  induction steps generalizing s with
  | nil => exact hp
  | cons st steps ih =>
    refine ih (accounted_step env hs st) ?_
    by_cases hcall : ∃ o, st = .call o
    · obtain ⟨o, rfl⟩ := hcall
      exact hp.outcome hs (o.outcome hs)
    · obtain ⟨hmodules, hslots⟩ := registries_step env s fun o ho => hcall ⟨o, ho⟩
      exact hp.registries hmodules hslots

end Site

end Host

end Cryptoki
