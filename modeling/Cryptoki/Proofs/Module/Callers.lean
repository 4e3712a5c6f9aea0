import Cryptoki.Program.Interleaving
import Cryptoki.Proofs.Module.Custody
import Mathlib.Order.CompletePartialOrder

/-!
Calls to a module that are under way at the same time.

Each call is a program that goes on by one step at a time, while others begin, go on and end. It
does not matter which thread makes a call, so there is no bound on the threads. All that callers
must see to is that calls on the same session do not overlap. The library may hand out the number of
a closed session again as soon as it has served the call that closes it.
-/

namespace Cryptoki

open Demand

variable {σ : Type}

namespace Program

variable {α : Type}

/-- There is nothing left to do but to write lines. -/
def quiet : Program α → Bool
  | .done _ => true
  | .log _ next => next.quiet
  | .request .. | .access .. => false

/-- The deed of the first step. -/
def deed? (env : Environment σ) : Program α → World σ → Option Deed
  | .request r _, w => some (.asked r (env.answer r w.outside).1)
  | .access a _, w => some (.accessed a (a.apply w.process).1)
  | .done _, _ | .log .., _ => none

/-- The session that the first step has the module track. -/
def toTrack? (m : ModuleId) : Program α → Option SessionId
  | .access (.sessions n (.track session _ _)) _ => if n = m then some session else none
  | _ => none

/-- The session that the first step asks the library to close. -/
def toClose? (m : ModuleId) : Program α → Option SessionId
  | .request (.call n (.closeSession session)) _ => if n = m then some session else none
  | _ => none

end Program

/-- The calls to a module up to a moment, each with what is left of it. -/
structure Callers (σ : Type) where
  calls : List (Demand × Program Event)
  world : World σ
  /-- What has been done, in its order. -/
  trace : List Deed

namespace Callers

inductive Move where
  /-- A call begins. -/
  | call (demand : Demand)
  /-- The call with this index goes on by a step. -/
  | resume (index : ℕ)

/-- All calls on the session of a demand are over but for lines they may have to write. -/
def Free (s : Callers σ) (d : Demand) : Prop :=
  ∀ c ∈ s.calls, c.2.quiet = false → ¬ c.1.SameSession d

instance (s : Callers σ) (d : Demand) : Decidable (s.Free d) :=
  inferInstanceAs (Decidable (∀ c ∈ s.calls, c.2.quiet = false → ¬ c.1.SameSession d))

/-- One move. A call that would overlap with another one on the same session does not begin. -/
def step (env : Environment σ) (m : Module) (s : Callers σ) : Move → Callers σ
  | .call d => if s.Free d then { s with calls := s.calls ++ [(d, d.program m)] } else s
  | .resume i =>
    match s.calls[i]? with
    | none => s
    | some (d, p) =>
      { calls := s.calls.set i (d, (p.step env s.world).1)
        world := (p.step env s.world).2
        trace := s.trace ++ (p.deed? env s.world).toList }

/-- The calls after some moves, the first of which finds no call under way. -/
def after (env : Environment σ) (m : Module) (w : World σ) (moves : List Move) : Callers σ :=
  moves.foldl (step env m) ⟨[], w, []⟩

/-- The calls as threads. -/
def threads (s : Callers σ) : Threads σ Event := ⟨s.calls.map Prod.snd, s.world⟩

variable (env : Environment σ) (m : Module) (s : Callers σ)

lemma threads_resume (i : ℕ) :
    (s.step env m (.resume i)).threads = s.threads.step env i := by
  rw [Threads.step, threads, threads, List.getElem?_map, step]
  rcases s.calls[i]? with _ | ⟨d, p⟩
  · rfl
  · simp

/-- **Calls go on as threads do.** As long as no call begins, moves are a schedule. -/
theorem threads_run (schedule : List ℕ) :
    ((schedule.map Move.resume).foldl (step env m) s).threads = s.threads.run env schedule := by
  induction schedule generalizing s with
  | nil => rfl
  | cons i schedule ih =>
    rw [List.map_cons, List.foldl_cons, ih, threads_resume]
    rfl

/-! ### Where sessions are -/

/-- The table of sessions. -/
def table : Sessions := s.world.process.sessionsOf m.id

def tracked : Set SessionId := {h | ∃ k, (s.table m).tracked.get? h = some k}

/-- The sessions that were opened and are about to be tracked. -/
def toTrack : Set SessionId := {h | ∃ c ∈ s.calls, c.2.toTrack? m.id = some h}

/-- The sessions that were forgotten and are about to be closed. -/
def toClose : Set SessionId := {h | ∃ c ∈ s.calls, c.2.toClose? m.id = some h}

/-- The session in the hands of a call. -/
def hand? (i : ℕ) : Option SessionId :=
  s.calls[i]?.bind fun c => (c.2.toTrack? m.id).or (c.2.toClose? m.id)

end Callers

/-! ### What is left of a call -/

variable {env : Environment σ} {m : ModuleId} {opened : σ → Set SessionId}
  {stand : ℕ → Demand × Phase} {i : ℕ} {d : Demand} {phase after : Phase}

lemma Demand.Obeys.over_of_quiet {p : Program Event} (hp : d.Obeys m phase p)
    (hquiet : p.quiet = true) : phase = .over := by
  induction p with
  | done e => exact hp
  | request r next ih => cases hquiet
  | access a next ih => cases hquiet
  | log l next ih => exact ih hp.2 hquiet

/-- Every request has an answer. -/
lemma Request.exists_answer (r : Request) : Nonempty r.Answer :=
  ⟨(Simulated.environment.answer r (.start .standard)).1⟩

/-- What a call has in hand can be read off its first step. -/
lemma Demand.Obeys.hands {p : Program Event} (hp : d.Obeys m phase p) (h : SessionId) :
    (p.toTrack? m = some h ↔ phase = .toTrack h) ∧
      (p.toClose? m = some h ↔ phase = .toClose h) := by
  cases p with
  | done e =>
    have hover : phase = .over := hp
    simp [hover, Program.toTrack?, Program.toClose?]
  | request r next =>
    obtain ⟨x⟩ := r.exists_answer
    obtain ⟨_, hturn, -⟩ := hp x
    cases hturn <;> simp [Program.toTrack?, Program.toClose?]
  | access a next =>
    obtain ⟨_, hturn, -⟩ := hp (a.apply .initial).1
    generalize (a.apply .initial).1 = x at hturn
    cases hturn <;> simp [Program.toTrack?, Program.toClose?]
  | log l next =>
    have hnone : phase.hand? = none := hp.1
    cases phase <;> simp_all [Program.toTrack?, Program.toClose?, Phase.hand?]

/-- One step of a call that is under way. -/
lemma Custody.goes {w : World σ} {trace : List Deed}
    (c : Custody stand (w.process.sessionsOf m) (opened w.outside) (unclosed m trace))
    (hlib : Lawful env m opened) (hi : stand i = (d, phase)) {p : Program Event}
    (hp : d.Obeys m phase p) :
    ∃ after, d.Obeys m after (p.step env w).1 ∧
      Custody (Function.update stand i (d, after)) ((p.step env w).2.process.sessionsOf m)
        (opened (p.step env w).2.outside) (unclosed m (trace ++ (p.deed? env w).toList)) := by
  cases p with
  | done e =>
    refine ⟨phase, hp, ?_⟩
    rw [← hi, Function.update_eq_self]
    exact c.mono (unclosed_append trace _)
  | request r next =>
    obtain ⟨after, hturn, hnext⟩ := hp (env.answer r w.outside).1
    exact ⟨after, hnext, c.asked hlib hi rfl hturn⟩
  | access a next =>
    obtain ⟨after, hturn, hnext⟩ := hp (a.apply w.process).1
    exact ⟨after, hnext, (c.accessed hi rfl hturn).mono (unclosed_append trace _)⟩
  | log l next =>
    refine ⟨phase, hp.2, ?_⟩
    rw [← hi, Function.update_eq_self]
    exact c.mono (unclosed_append trace _)

/-! ### All calls -/

namespace Callers

/-- What is at an index and what is left of it. -/
def At (m : ModuleId) : Option (Demand × Program Event) → Demand × Phase → Prop
  | some (d, p), (e, phase) => e = d ∧ d.Obeys m phase p
  | none, (_, phase) => phase = .over

/-- The calls stand at these phases, and the sessions are where these phases say. -/
structure Sound (m : Module) (opened : σ → Set SessionId) (s : Callers σ)
    (stand : ℕ → Demand × Phase) : Prop where
  stands : ∀ i, At m.id s.calls[i]? (stand i)
  custody : Custody stand (s.table m) (opened s.world.outside) (unclosed m.id s.trace)

variable {m : Module} {s : Callers σ}

lemma Sound.obeys (hs : s.Sound m opened stand) {p : Program Event}
    (hi : s.calls[i]? = some (d, p)) :
    stand i = (d, (stand i).2) ∧ d.Obeys m.id (stand i).2 p := by
  obtain ⟨hd, hp⟩ : (stand i).1 = d ∧ d.Obeys m.id (stand i).2 p := by
    have hat := hs.stands i
    rwa [hi] at hat
  exact ⟨Prod.ext hd rfl, hp⟩

lemma Sound.over (hs : s.Sound m opened stand) (hi : s.calls[i]? = none) :
    (stand i).2 = .over := by
  have hat := hs.stands i
  rwa [hi] at hat

lemma Sound.call (hs : s.Sound m opened stand) (hfree : s.Free d) :
    Sound m opened { s with calls := s.calls ++ [(d, d.program m)] }
      (Function.update stand s.calls.length (d, .fresh)) where
  stands i := by
    rcases lt_trichotomy i s.calls.length with hlt | rfl | hgt
    · rw [List.getElem?_append_left hlt, Function.update_of_ne hlt.ne]
      exact hs.stands i
    · rw [List.getElem?_concat_length, Function.update_self]
      exact ⟨rfl, obeys_program m d⟩
    · rw [List.getElem?_eq_none (by simpa using hgt), Function.update_of_ne hgt.ne']
      exact hs.over (List.getElem?_eq_none hgt.le)
  custody := by
    have hlast : (stand s.calls.length).2 = .over := hs.over (List.getElem?_eq_none le_rfl)
    refine hs.custody.moves (by rw [hlast]; rfl) rfl (fun j _ hj => ?_) (.of_idle rfl (by simp))
    -- A call with something left to do is one that has to be free of the new one.
    rcases hcall : s.calls[j]? with _ | ⟨e, p⟩
    · exact absurd (hs.over hcall) hj
    · obtain ⟨he, hp⟩ := hs.obeys hcall
      rw [he]
      refine hfree (e, p) (List.mem_of_getElem? hcall) ?_
      rw [← Bool.not_eq_true]
      exact fun hquiet => hj (hp.over_of_quiet hquiet)

lemma Sound.resume (hs : s.Sound m opened stand) (hlib : Lawful env m.id opened) (i : ℕ) :
    ∃ stand, (s.step env m (.resume i)).Sound m opened stand := by
  rw [step]
  rcases hcall : s.calls[i]? with _ | ⟨d, p⟩
  · exact ⟨stand, hs⟩
  obtain ⟨hi, hp⟩ := hs.obeys hcall
  obtain ⟨after, hnext, hcustody⟩ := hs.custody.goes hlib hi hp
  refine ⟨_, fun j => ?_, hcustody⟩
  by_cases hj : j = i
  · subst hj
    have hlt := (List.getElem?_eq_some_iff.mp hcall).1
    rw [List.getElem?_set_self hlt, Function.update_self]
    exact ⟨rfl, hnext⟩
  · rw [List.getElem?_set_ne (Ne.symm hj), Function.update_of_ne hj]
    exact hs.stands j

lemma Sound.step (hs : s.Sound m opened stand) (hlib : Lawful env m.id opened) (move : Move) :
    ∃ stand, (s.step env m move).Sound m opened stand := by
  cases move with
  | call d =>
    rw [Callers.step]
    split_ifs with hfree
    · exact ⟨_, hs.call hfree⟩
    · exact ⟨stand, hs⟩
  | resume i => exact hs.resume hlib i

lemma sound_after (hlib : Lawful env m.id opened) {w : World σ}
    (htable : w.process.sessionsOf m.id = .empty) (hopened : opened w.outside = ∅)
    (moves : List Move) : ∃ stand, (Callers.after env m w moves).Sound m opened stand := by
  have hrun (s : Callers σ) (hs : ∃ stand, s.Sound m opened stand) :
      ∃ stand, (moves.foldl (Callers.step env m) s).Sound m opened stand := by
    induction moves generalizing s with
    | nil => exact hs
    | cons move moves ih =>
      obtain ⟨stand, hsound⟩ := hs
      exact ih _ (hsound.step hlib move)
  refine hrun ⟨[], w, []⟩ ⟨fun _ => (.openSession 0 false, .over), fun _ => rfl, ?_⟩
  rw [table, htable, hopened]
  exact .start _ _

/-! ### What holds at every moment -/

/-- No session is lost and none is wrongly forgotten. -/
structure Safe (env : Environment σ) (m : Module) (opened : σ → Set SessionId) (s : Callers σ) :
    Prop where
  tracked_toTrack : Disjoint (s.tracked m) (s.toTrack m)
  tracked_toClose : Disjoint (s.tracked m) (s.toClose m)
  toTrack_toClose : Disjoint (s.toTrack m) (s.toClose m)
  /-- No two calls have the same session in hand. -/
  sole : ∀ i j h, s.hand? m i = some h → s.hand? m j = some h → i = j
  isOpen : s.tracked m ∪ s.toTrack m ∪ s.toClose m ⊆ opened s.world.outside
  accounted : opened s.world.outside ⊆
    s.tracked m ∪ s.toTrack m ∪ s.toClose m ∪ unclosed m.id s.trace
  /-- When no call is in progress and no closing has failed, the table has what the library has. -/
  settled : (∀ c ∈ s.calls, c.2.quiet = true) → unclosed m.id s.trace = ∅ →
    s.tracked m = opened s.world.outside
  /-- What is tracked is neither overwritten nor forgotten but by a call that closes it. -/
  keeps : ∀ move h k, (s.table m).tracked.get? h = some k →
    ((s.step env m move).table m).tracked.get? h = some k ∨
      ∃ i p, move = .resume i ∧ s.calls[i]? = some (.closeSession k.slot h, p)
  /-- Nobody is logged in to a slot without a tracked session. -/
  logins : ∀ slot user, (s.table m).logins.get? slot = some user →
    ∃ h, ((s.table m).find slot h).isSome

lemma Sound.exists_call_iff (hs : s.Sound m opened stand) {f : Program Event → Option SessionId}
    {h : SessionId} (hf : ∀ d phase p, Demand.Obeys d m.id phase p → (f p = some h ↔ phase = after))
    (hafter : after ≠ .over) :
    (∃ c ∈ s.calls, f c.2 = some h) ↔ ∃ i, (stand i).2 = after := by
  constructor
  · rintro ⟨c, hmem, hc⟩
    obtain ⟨i, hi⟩ := List.mem_iff_getElem?.mp hmem
    exact ⟨i, (hf _ _ _ (hs.obeys hi).2).mp hc⟩
  · rintro ⟨i, hi⟩
    rcases hcall : s.calls[i]? with _ | ⟨d, p⟩
    · exact absurd (hi.symm.trans (hs.over hcall)) hafter
    · exact ⟨(d, p), List.mem_of_getElem? hcall, (hf _ _ _ (hs.obeys hcall).2).mpr hi⟩

lemma Sound.mem_toTrack (hs : s.Sound m opened stand) {h : SessionId} :
    h ∈ s.toTrack m ↔ ∃ i, (stand i).2 = .toTrack h :=
  hs.exists_call_iff (fun _ _ _ hp => (hp.hands h).1) (by simp)

lemma Sound.mem_toClose (hs : s.Sound m opened stand) {h : SessionId} :
    h ∈ s.toClose m ↔ ∃ i, (stand i).2 = .toClose h :=
  hs.exists_call_iff (fun _ _ _ hp => (hp.hands h).2) (by simp)

lemma hand?_eq_some {h : SessionId} :
    phase.hand? = some h ↔ phase = .toTrack h ∨ phase = .toClose h := by
  cases phase <;> simp [Phase.hand?]

lemma Sound.hand? (hs : s.Sound m opened stand) {h : SessionId} (hi : s.hand? m i = some h) :
    (stand i).2.hand? = some h := by
  obtain ⟨⟨d, p⟩, hcall, hhand⟩ := Option.bind_eq_some_iff.mp hi
  have hp := (hs.obeys hcall).2.hands h
  rw [hand?_eq_some, ← hp.1, ← hp.2]
  exact (Option.or_eq_some_iff.mp hhand).imp_right And.right

/-- What is in hand is not tracked. -/
lemma Sound.not_tracked (hs : s.Sound m opened stand) {h : SessionId}
    (hhand : (stand i).2.hand? = some h) : h ∉ s.tracked m := by
  rintro ⟨k, hget⟩
  rw [((hs.custody.stands i).hand h hhand).2] at hget
  cases hget

lemma Sound.eq_of_hand (hs : s.Sound m opened stand) {j : ℕ} {h : SessionId}
    (hi : (stand i).2.hand? = some h) (hj : (stand j).2.hand? = some h) : i = j :=
  by_contra fun hne => (hs.custody.clear hne).hand h hi hj

lemma Sound.accounted (hs : s.Sound m opened stand) : opened s.world.outside ⊆
    s.tracked m ∪ s.toTrack m ∪ s.toClose m ∪ unclosed m.id s.trace := by
  intro h hh
  rcases hs.custody.kept h hh with hget | ⟨i, hi⟩ | hfailed
  · exact .inl (.inl (.inl hget))
  · rcases hand?_eq_some.mp hi with hphase | hphase
    · exact .inl (.inl (.inr (hs.mem_toTrack.mpr ⟨i, hphase⟩)))
    · exact .inl (.inr (hs.mem_toClose.mpr ⟨i, hphase⟩))
  · exact .inr hfailed

lemma Sound.isOpen (hs : s.Sound m opened stand) :
    s.tracked m ∪ s.toTrack m ∪ s.toClose m ⊆ opened s.world.outside := by
  rintro h ((⟨k, hget⟩ | htrack) | hclose)
  · exact hs.custody.tracked h k hget
  · obtain ⟨i, hi⟩ := hs.mem_toTrack.mp htrack
    exact ((hs.custody.stands i).hand h (by rw [hi]; rfl)).1
  · obtain ⟨i, hi⟩ := hs.mem_toClose.mp hclose
    exact ((hs.custody.stands i).hand h (by rw [hi]; rfl)).1

lemma Sound.over_of_settled (hs : s.Sound m opened stand)
    (hquiet : ∀ c ∈ s.calls, c.2.quiet = true) (i : ℕ) : (stand i).2 = .over := by
  rcases hcall : s.calls[i]? with _ | ⟨d, p⟩
  · exact hs.over hcall
  · exact (hs.obeys hcall).2.over_of_quiet (hquiet _ (List.mem_of_getElem? hcall))

lemma Sound.settled (hs : s.Sound m opened stand) (hquiet : ∀ c ∈ s.calls, c.2.quiet = true)
    (hclosed : unclosed m.id s.trace = ∅) : s.tracked m = opened s.world.outside := by
  have hover := hs.over_of_settled hquiet
  have htrack : s.toTrack m = ∅ := by
    refine Set.eq_empty_of_forall_notMem fun h hh => ?_
    obtain ⟨i, hi⟩ := hs.mem_toTrack.mp hh
    cases hi.symm.trans (hover i)
  have hclose : s.toClose m = ∅ := by
    refine Set.eq_empty_of_forall_notMem fun h hh => ?_
    obtain ⟨i, hi⟩ := hs.mem_toClose.mp hh
    cases hi.symm.trans (hover i)
  have hless := hs.isOpen
  have hall := hs.accounted
  rw [htrack, hclose, Set.union_empty, Set.union_empty] at hless hall
  rw [hclosed, Set.union_empty] at hall
  exact hless.antisymm hall

lemma Sound.keeps (hs : s.Sound m opened stand) (move : Move) {h : SessionId} {k : Tracked}
    (hget : (s.table m).tracked.get? h = some k) :
    ((s.step env m move).table m).tracked.get? h = some k ∨
      ∃ i p, move = .resume i ∧ s.calls[i]? = some (.closeSession k.slot h, p) := by
  cases move with
  | call d =>
    left
    rw [Callers.step]
    split_ifs
    · exact hget
    · exact hget
  | resume i =>
    rw [Callers.step]
    rcases hcall : s.calls[i]? with _ | ⟨d, p⟩
    · exact .inl hget
    obtain ⟨hi, hp⟩ := hs.obeys hcall
    cases p with
    | done e => exact .inl hget
    | request r next => exact .inl hget
    | log l next => exact .inl hget
    | access a next =>
      obtain ⟨after, hturn, -⟩ := hp (a.apply s.world.process).1
      rcases hs.custody.keeps hi hturn hget with hsame | rfl
      · exact .inl hsame
      · exact .inr ⟨i, _, rfl, hcall⟩

lemma Sound.safe (hs : s.Sound m opened stand) : s.Safe env m opened where
  tracked_toTrack := by
    refine Set.disjoint_right.mpr fun h hh => ?_
    obtain ⟨i, hi⟩ := hs.mem_toTrack.mp hh
    exact hs.not_tracked (hand?_eq_some.mpr (.inl hi))
  tracked_toClose := by
    refine Set.disjoint_right.mpr fun h hh => ?_
    obtain ⟨i, hi⟩ := hs.mem_toClose.mp hh
    exact hs.not_tracked (hand?_eq_some.mpr (.inr hi))
  toTrack_toClose := by
    refine Set.disjoint_left.mpr fun h hh hclose => ?_
    obtain ⟨i, hi⟩ := hs.mem_toTrack.mp hh
    obtain ⟨j, hj⟩ := hs.mem_toClose.mp hclose
    have hij := hs.eq_of_hand (hand?_eq_some.mpr (.inl hi)) (hand?_eq_some.mpr (.inr hj))
    rw [← hij, hi] at hj
    cases hj
  sole i j h hi hj := hs.eq_of_hand (hs.hand? hi) (hs.hand? hj)
  isOpen := hs.isOpen
  accounted := hs.accounted
  settled := hs.settled
  keeps move h k hget := hs.keeps move hget
  logins := hs.custody.logins

/-- **Concurrent sessions are neither lost nor wrongly forgotten.** Calls to a module begin, go on
and end in any order, and all that is seen to is that calls on the same session do not overlap. The
library may hand out a number again as soon as it has closed the session. At every moment the
sessions that are tracked, those opened and not tracked yet, and those forgotten and not closed yet
are apart from each other and all open, so that nothing tracked is overwritten; when no call is in
progress and no closing has failed, the sessions tracked are those that are open; and nobody is
logged in to a slot without a tracked session. -/
theorem safe_after (env : Environment σ) (m : Module) (opened : σ → Set SessionId) (w : World σ)
    (hlib : Lawful env m.id opened) (htable : w.process.sessionsOf m.id = .empty)
    (hopened : opened w.outside = ∅) (moves : List Move) :
    (Callers.after env m w moves).Safe env m opened := by
  obtain ⟨stand, hs⟩ := sound_after hlib htable hopened moves
  exact hs.safe

/-! ### A number that comes again -/

/-- The first of a few numbers that is not in use. -/
def free? (inUse : List SessionId) : Option SessionId := [1, 2, 3].find? (· ∉ inUse)

lemma free?_spec {inUse : List SessionId} {h : SessionId} (hfree : free? inUse = some h) :
    h ≠ 0 ∧ h ∉ inUse := by
  have hmem := List.mem_of_find?_eq_some hfree
  have hnew := List.find?_some hfree
  refine ⟨?_, by simpa using hnew⟩
  rintro rfl
  revert hmem
  decide

/-- A library that hands out the number of a closed session as soon as it can. -/
def reissuing : Environment (List SessionId) where
  answer
    | .call _ (.openSession ..), inUse =>
      match free? inUse with
      | some session => (⟨.ok, some session⟩, session :: inUse)
      | none => (⟨.hostMemory, none⟩, inUse)
    | .call _ (.closeSession session), inUse =>
      if session ∈ inUse then (.ok, inUse.filter (· ≠ session)) else (.sessionHandleInvalid, inUse)
    | .call _ (.login ..), inUse | .call _ (.logout _), inUse => (.ok, inUse)
    | r, inUse => ((Simulated.environment.answer r (.start .standard)).1, inUse)

def inUse (s : List SessionId) : Set SessionId := {h | h ∈ s}

lemma lawful_reissuing (m : ModuleId) : Lawful reissuing m inUse where
  opens slot flags application notify place s := by
    simp only [reissuing]
    rcases hfree : free? s with _ | session
    · have hcode : Code.hostMemory ≠ .ok := by decide
      exact fun h => absurd h hcode
    · refine fun _ => ⟨(free?_spec hfree).1, (free?_spec hfree).2, ?_⟩
      ext h
      simp [inUse]
  refuses slot flags application notify place s := by
    simp only [reissuing]
    rcases free? s with _ | session
    · exact fun _ => rfl
    · exact fun hcode => absurd rfl hcode
  closes session s := by
    simp only [reissuing]
    split_ifs with hmem
    · refine ⟨fun h hh => (List.mem_filter.mp hh).1, fun h hh => ?_, fun _ hh => ?_⟩
      · exact List.mem_filter.mpr ⟨hh.1, by simpa using hh.2⟩
      · simpa using (List.mem_filter.mp hh).2
    · exact ⟨subset_rfl, Set.sdiff_subset, fun _ => hmem⟩
  logsIn _ _ _ _ _ := rfl
  logsOut _ _ := rfl

/-- Two sessions are opened at the same time, and the number of the first comes again while the call
that closed it and a login are still under way. -/
def overlapping : List Move :=
  [.call (.openSession 0 false), .resume 0, .call (.openSession 0 true), .resume 1, .resume 0,
    .call (.closeSession 0 1), .resume 2, .resume 1, .call (.login 0 2 .normal none), .resume 3,
    .resume 2, .call (.openSession 0 false), .resume 4, .resume 3, .resume 4, .resume 3]

/-- The hypotheses hold of a library that reissues numbers at once. -/
theorem safe_after_of_reissue :
    let s := Callers.after reissuing simulated (.initial []) overlapping
    Lawful reissuing simulated.id inUse ∧
      (World.initial ([] : List SessionId)).process.sessionsOf simulated.id = .empty ∧
      inUse (World.initial []).outside = ∅ ∧ s.Safe reissuing simulated inUse ∧
      s.world.outside = [1, 2] ∧
      s.table simulated = ⟨[(1, ⟨0, false⟩), (2, ⟨0, true⟩)], [(0, .normal)]⟩ := by
  have hnone : inUse (World.initial []).outside = ∅ := by
    ext h
    simp [inUse, World.initial]
  have hsafe := safe_after reissuing simulated inUse (.initial []) (lawful_reissuing _) rfl hnone
    overlapping
  exact ⟨lawful_reissuing _, rfl, hnone, hsafe, rfl, rfl⟩

end Callers

end Cryptoki
