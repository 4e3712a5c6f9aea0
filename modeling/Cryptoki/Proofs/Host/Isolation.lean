import Cryptoki.Proofs.Host.Registries

/-!
Modules do not get in each other's way.

Modules may share a library and slots may bear the same numbers, and still nothing that a host asks
of one module changes what it sees of another: a module is looked up by its handle, a slot has to be
one of that module, and sessions are looked for among those of that module alone. An unload takes
away the module and its slots and nothing else, and what a module says of itself is what its
library told when it was loaded.
-/

namespace Cryptoki

open Process Program

variable {σ : Type} {env : Environment σ} {w v : World σ} {held : List Module} {h k : Handle}
  {m n : Module} {loader : Loader} {path : String}

namespace Host

/-! ### What a host sees of a module -/

/-- A host sees the same of the module under a handle: the module itself, what it says of itself,
its slots, its sessions and the state of each. -/
structure Untouched (env : Environment σ) (w v : World σ) (h : Handle) : Prop where
  object : v.process.modules.find? h = w.process.modules.find? h
  info : ((moduleInfo h).run env v).1 = ((moduleInfo h).run env w).1
  slots : ∀ s id, v.process.slots.find? s = some ⟨id, h⟩ ↔ w.process.slots.find? s = some ⟨id, h⟩
  sessions : ((openSessions h).run env v).1 = ((openSessions h).run env w).1
  states : ∀ s session, ((sessionState h s session).run env v).1 =
    ((sessionState h s session).run env w).1

/-- The module under a handle, its slots and its sessions are still there and are the same. -/
structure Kept (h : Handle) (m : Module) (p q : Process) : Prop where
  object : q.modules.find? h = some m
  slots : ∀ s id, q.slots.find? s = some ⟨id, h⟩ ↔ p.slots.find? s = some ⟨id, h⟩
  sessions : q.sessionsOf m.id = p.sessionsOf m.id

lemma run_moduleInfo (hw : Accounted w.process held) (hf : w.process.modules.find? h = some m) :
    ((moduleInfo h).run env w).1 = .ok m.info :=
  (ModuleOp.info.agree hf (hw.alive hf)).answer

lemma run_openSessions (hw : Accounted w.process held) (hf : w.process.modules.find? h = some m) :
    ((openSessions h).run env w).1 = .ok (w.process.sessionsOf m.id).list :=
  (ModuleOp.openSessions.agree hf (hw.alive hf)).answer

/-- The state of a session depends on the sessions of its module alone. -/
lemma run_effect_sessionState (s : Handle) (id : SlotId) (session : SessionId)
    (hsame : v.process.sessionsOf m.id = w.process.sessionsOf m.id) :
    (((SlotOp.sessionState session).effect s m id).run env v).1 =
      (((SlotOp.sessionState session).effect s m id).run env w).1 := by
  have hstate : ((m.sessionState id session).run env v).1 =
      ((m.sessionState id session).run env w).1 :=
    congrArg (fun t => (t.find id session).map SessionInfo.state) hsame
  rw [SlotOp.effect, run_bind, run_bind, hstate]
  rcases ((m.sessionState id session).run env w).1 with _ | state <;> rfl

lemma Kept.untouched (env : Environment σ) (hkept : Kept h m w.process v.process)
    (hw : Accounted w.process held) (hv : Accounted v.process held)
    (hf : w.process.modules.find? h = some m) : Untouched env w v h where
  object := hkept.object.trans hf.symm
  info := by rw [run_moduleInfo hv hkept.object, run_moduleInfo hw hf]
  slots := hkept.slots
  sessions := by rw [run_openSessions hv hkept.object, run_openSessions hw hf, hkept.sessions]
  states s session := by
    have halive := hw.alive hf
    have hstill := hv.alive hkept.object
    show (((SlotOp.sessionState session).program h s).run env v).1 =
      (((SlotOp.sessionState session).program h s).run env w).1
    by_cases hs : ∃ id, w.process.slots.find? s = some ⟨id, h⟩
    · obtain ⟨id, hs⟩ := hs
      rw [(SlotOp.agree _ hf halive hs).answer,
        (SlotOp.agree _ hkept.object hstill ((hkept.slots s id).mpr hs)).answer]
      exact run_effect_sessionState s id session hkept.sessions
    · have hnot : ∀ id, w.process.slots.find? s ≠ some ⟨id, h⟩ := fun id hid => hs ⟨id, hid⟩
      rw [(SlotOp.refuses_slot _ hf halive hw.slots.kind_eq hnot).answer,
        (SlotOp.refuses_slot _ hkept.object hstill hv.slots.kind_eq fun id hid =>
          hnot id ((hkept.slots s id).mp hid)).answer]
      rfl

/-! ### Operations addressed to another module -/

/-- **One operation.** A module that it is not addressed to is kept. -/
lemma Outcome.kept {p q : Process} {target : Option Handle} (houtcome : Outcome p q target)
    (hbooks : Accounted p held) (hp : Anchored p) (hf : p.modules.find? k = some n)
    (hother : target ≠ some k) : Kept k n p q := by
  have hapart : ∀ {h m}, p.modules.find? h = some m → k ≠ h → n.id ≠ m.id :=
    fun hm hne hid => hne (hp.handle_eq hm hf hid)
  cases houtcome with
  | refused hsame =>
    exact ⟨by rw [hsame.modules, hf], fun s id => by rw [hsame.slots], hsame.sessions n.id⟩
  | @served h m hm hserved =>
    have hne : k ≠ h := fun hk => hother (congrArg some hk.symm)
    refine ⟨by rw [hserved.modules, hf], fun s id => ⟨fun hs => ?_, hserved.kept s _⟩,
      hserved.sessions n.id (hapart hm hne)⟩
    exact (hserved.added s _ hs).resolve_right hne
  | @closed h s id hs hclosed =>
    have hne : k ≠ h := fun hk => hother (congrArg some hk.symm)
    refine ⟨by rw [hclosed.modules]; exact hf, fun t i => ?_, hclosed.sessions n.id⟩
    rw [hclosed.slots, Access.apply, Handle.Table.find?_remove]
    split_ifs with ht
    · subst ht
      simp [hs, Ne.symm hne]
    · rfl
  | @unloaded h m hm hmodules hslots hsessions =>
    have hne : k ≠ h := fun hk => hother (congrArg some hk.symm)
    refine ⟨?_, fun t i => ?_, hsessions n.id (hapart hm hne)⟩
    · simpa [hmodules, without, Access.apply, Handle.Table.find?_remove, hne] using hf
    · rw [hslots]
      simp [without, Access.apply, Handle.Table.find?_removeWhere, Option.filter_eq_some_iff, hne]
  | @loaded m hid hmodules hslots hsessions =>
    have hlt : n.id < m.id := hid ▸ hbooks.id_lt hf
    refine ⟨?_, fun t i => by rw [hslots], hsessions n.id (Nat.ne_of_lt hlt)⟩
    rw [hmodules]
    exact hbooks.modules.sound.find?_insert_of_find? m hf

/-! ### Unloads -/

/-- A module and its slots were forgotten, and nothing else that had a handle. -/
structure Forgotten (p q : Process) (h : Handle) : Prop where
  modules : ∀ k, q.modules.find? k = if k = h then none else p.modules.find? k
  slots : ∀ s, q.slots.find? s = (p.slots.find? s).filter fun a => a.module ≠ h

lemma forgotten_unload (hdone : ((unload h).run env w).1 = .ok ()) :
    Forgotten w.process ((unload h).run env w).2.process h := by
  rcases hf : w.process.modules.find? h with _ | m
  · have hrefused : ((unload h).run env w).1 = _ := (ModuleOp.unload.refuses hf).answer
    rw [hrefused] at hdone
    cases hdone
  obtain ⟨-, v, -, -, hprocess, -, hrun⟩ := unload_found env hf
  have hbooks := Module.books_release env m v
  rw [hprocess] at hbooks
  rw [hrun]
  refine ⟨fun a => ?_, fun s => ?_⟩
  · rw [hbooks.modules]
    exact Handle.Table.find?_remove _ _ _
  · rw [hbooks.slots]
    refine (Handle.Table.find?_removeWhere _ _ _).trans ?_
    congr 1
    funext a
    rw [Bool.eq_iff_iff]
    simp

/-! ### From the load on -/

/-- A load gave the module this handle, after its library had told what the module says of
itself. -/
structure Begins (env : Environment σ) (w : World σ) (loader : Loader) (path : String) (h : Handle)
    (m : Module) : Prop where
  answer : ((Host.load loader path).run env w).1 = .ok h
  told : m.ToldIn ((Host.load loader path).deeds env w)

/-- The module was loaded in the run, and ever since it has been found under its handle and has
said of itself what its library told then. -/
def Remembered (env : Environment σ) (start : Site σ) (steps : List (Step σ)) (h : Handle)
    (m : Module) : Prop :=
  ∃ before loader path later, steps = before ++ .call (.load loader path) :: later ∧
    Begins env (start.after env before).world loader path h m ∧
    ∀ now, now <+: later →
      let t := start.after env (before ++ .call (.load loader path) :: now)
      t.world.process.modules.find? h = some m ∧ ((moduleInfo h).run env t.world).1 = .ok m.info

lemma begins_load (hw : Accounted w.process held)
    (hf : ((Host.load loader path).run env w).2.process.modules.find? h = some m) :
    w.process.modules.find? h = some m ∨ Begins env w loader path h m := by
  by_cases hpath : path.isEmpty
  · rw [Host.load, if_pos hpath] at hf
    exact .inl hf
  have hnum := Module.numbered_load env loader path w
  rw [Host.load, if_neg hpath, run_bind] at hf
  rcases hr : (Module.load loader path).run env w with ⟨f | n, v⟩
  · rw [hr] at hnum hf
    have hsame : v.process.modules.find? h = some m := hf
    rw [hnum.modules] at hsame
    exact .inl hsame
  · have htold := (Module.madeIn_load env loader path w (congrArg Prod.fst hr)).told
    rw [hr] at hnum hf
    have hmodules : v.process.modules = w.process.modules := hnum.modules
    have hinserted : (v.process.modules.insert n).2.find? h = some m := hf
    rw [hmodules] at hinserted
    obtain hold | ⟨rfl, rfl⟩ := hw.modules.sound.find?_of_insert hinserted
    · exact .inl hold
    refine .inr ⟨?_, ?_⟩
    · rw [Host.load, if_neg hpath, run_bind, hr, ← hmodules]
      rfl
    · rw [Host.load, if_neg hpath, deeds_bind]
      exact htold.mono fun x hx => List.mem_append_left _ hx

/-- What a host finds after a step it found before, or the step loaded it. -/
lemma begins_step {s : Site σ} (hs : Accounted s.world.process s.held) {st : Step σ}
    (hf : (s.step env st).world.process.modules.find? h = some m) :
    s.world.process.modules.find? h = some m ∨
      ∃ loader path, st = .call (.load loader path) ∧ Begins env s.world loader path h m := by
  by_cases hcall : ∃ o, st = .call o
  · obtain ⟨o, rfl⟩ := hcall
    have houtcome : Outcome s.world.process (o.program.run env s.world).2.process o.target :=
      o.outcome hs
    have hf : (o.program.run env s.world).2.process.modules.find? h = some m := hf
    rcases o with ⟨loader, path⟩ | ⟨k, o⟩ | ⟨k, l, o⟩
    · obtain hold | hbegins := begins_load hs hf
      · exact .inl hold
      · exact .inr ⟨loader, path, rfl, hbegins⟩
    all_goals
      refine .inl ?_
      generalize htarget : Operation.target _ = target at houtcome
      cases houtcome with
      | refused hsame => rwa [hsame.modules] at hf
      | served hm hserved => rwa [hserved.modules] at hf
      | closed hm hclosed =>
        rw [hclosed.modules] at hf
        exact hf
      | unloaded hm hmodules hslots hsessions =>
        rw [hmodules, without, Access.apply, Access.apply, Handle.Table.find?_remove] at hf
        split_ifs at hf
        exact hf
      | loaded hid hmodules hslots hsessions => cases htarget
  · rw [(Site.registries_step env s fun o ho => hcall ⟨o, ho⟩).1] at hf
    exact .inl hf

lemma remembered_after (env : Environment σ) {start : Site σ}
    (hstart : Accounted start.world.process start.held)
    (hnone : ∀ h, start.world.process.modules.find? h = none) (steps : List (Step σ)) :
    ∀ h m, (start.after env steps).world.process.modules.find? h = some m →
      Remembered env start steps h m := by
  induction steps using List.reverseRecOn with
  | nil =>
    intro h m hf
    rw [Site.after_nil, hnone] at hf
    cases hf
  | append_singleton steps st ih =>
    intro h m hf
    have hs := Site.accounted_after env hstart steps
    have hnow : ((moduleInfo h).run env (start.after env (steps ++ [st])).world).1 = .ok m.info :=
      run_moduleInfo (Site.accounted_after env hstart (steps ++ [st])) hf
    obtain hold | ⟨loader, path, rfl, hbegins⟩ := begins_step hs
      (by rwa [Site.after_append] at hf)
    · obtain ⟨before, loader, path, later, rfl, hbegins, hsince⟩ := ih h m hold
      refine ⟨before, loader, path, later ++ [st], by simp, hbegins, fun now hprefix => ?_⟩
      obtain rfl | hearlier := List.prefix_concat_iff.mp hprefix
      · have hlast : before ++ Step.call (.load loader path) :: (later ++ [st]) =
            before ++ Step.call (.load loader path) :: later ++ [st] := by simp
        rw [hlast]
        exact ⟨hf, hnow⟩
      · exact hsince now hearlier
    · refine ⟨steps, loader, path, [], rfl, hbegins, fun now hprefix => ?_⟩
      obtain rfl := List.prefix_nil.mp hprefix
      exact ⟨hf, hnow⟩

/-- **Modules are isolated.** After any run, every slot is one of a module that is there; an unload
that succeeds makes the handles of the module and of its slots stale, and no others; an operation
leaves alone every module it is not addressed to; and a module says of itself what its library told
during the load, for as long as it has its handle. -/
theorem isolated_after (env : Environment σ) (start : σ) (steps : List (Step σ)) :
    let s := (Site.initial start).after env steps
    (∀ k slot, s.world.process.slots.find? k = some slot →
        ∃ m, s.world.process.modules.find? slot.module = some m) ∧
      (∀ h, ((unload h).run env s.world).1 = .ok () →
        Forgotten s.world.process ((unload h).run env s.world).2.process h) ∧
      (∀ (o : Operation) h m, o.target ≠ some h → s.world.process.modules.find? h = some m →
        Untouched env s.world (o.program.run env s.world).2 h) ∧
      ∀ h m, s.world.process.modules.find? h = some m →
        Remembered env (.initial start) steps h m := by
  intro s
  have hs := Site.accounted_after env (s := .initial start) accounted_initial steps
  have hanchored := Site.anchored_after env (s := .initial start) accounted_initial
    anchored_initial steps
  refine ⟨hanchored.owned, fun h => forgotten_unload, fun o h m hother hf => ?_, ?_⟩
  · have houtcome : Outcome s.world.process (o.program.run env s.world).2.process o.target :=
      o.outcome hs
    have hkept := houtcome.kept hs hanchored hf hother
    exact hkept.untouched env hs (accounted_operation o hs) hf
  · exact remembered_after env accounted_initial
      (fun h => by simp [Site.initial, World.initial, Process.initial, Handle.Table.find?_empty])
      steps

end Host

end Cryptoki
