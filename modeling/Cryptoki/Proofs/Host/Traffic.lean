import Cryptoki.Proofs.Host.Balance
import Cryptoki.Proofs.Host.Tracking
import Cryptoki.Proofs.Library.Ledger
import Cryptoki.Proofs.Module.Callers

/-!
Everything that a host may have under way at the same time, and the numbers of sessions.

Actions begin at any moment and go on step by step, in any order, and between two steps anything may
happen outside. At every moment each tracked session is one that the library has given its number,
and with the library in memory, which counts up, the number is below the next one.
-/

namespace Cryptoki

open Process Program

variable {α σ : Type}

/-! ### What is tracked -/

lemma Sessions.tracked_apply {t : Sessions} {a : Sessions.Access} {x : SessionId} {k : Tracked}
    (hx : (a.apply t).2.tracked.get? x = some k) :
    t.tracked.get? x = some k ∨ a = .track x k.slot k.readWrite := by
  cases a with
  | track session slot readWrite =>
    rw [Access.apply, get?_track] at hx
    split_ifs at hx with hsession
    · obtain rfl := Option.some.inj hx
      exact .inr (by rw [hsession])
    · exact .inl hx
  | forget slot session =>
    rw [Access.apply] at hx
    rcases hfind : (t.find slot session).isSome with _ | _
    · rw [forget_of_isNone hfind] at hx
      exact .inl hx
    · rw [get?_forget hfind] at hx
      split_ifs at hx
      exact .inl hx
  | logIn slot user =>
    rw [Access.apply, tracked_logIn] at hx
    exact .inl hx
  | find slot session | logOut slot | list | size => exact .inl hx

namespace Process

/-- What an access makes of the sessions of a module: nothing, unless it is one to them or the
module comes to life or ends. -/
lemma sessionsOf_apply (p : Process) (a : Access) (j : ModuleId) :
    (a.apply p).2.sessionsOf j = p.sessionsOf j ∨ (a.apply p).2.sessionsOf j = .empty ∨
      ∃ b, a = .sessions j b ∧ (a.apply p).2.sessionsOf j = (b.apply (p.sessionsOf j)).2 := by
  cases a with
  | adopt m =>
    by_cases hj : j = m
    · exact .inr (.inl (hj ▸ sessionsOf_adopt p j))
    · exact .inl (sessionsOf_adopt_of_ne p hj)
  | sessions m b =>
    by_cases hj : j = m
    · subst hj
      exact .inr (.inr ⟨b, rfl, sessionsOf_touch p j b⟩)
    · exact .inl (sessionsOf_sessions_of_ne p b hj)
  | resolveModule h =>
    rw [Access.apply]
    split
    · exact .inl (sessionsOf_retain p _ j)
    · exact .inl rfl
  | release m => exact .inl (sessionsOf_apply_release p m j)
  | discard m =>
    rw [sessionsOf, Access.apply, share_erase]
    split_ifs
    · exact .inr (.inl rfl)
    · exact .inl rfl
  | _ => exact .inl rfl

/-- The sessions that are tracked, of whichever module. -/
def tracked (p : Process) : Set SessionId := {x | ∃ j k, (p.sessionsOf j).tracked.get? x = some k}

lemma tracked_apply (p : Process) (a : Access) :
    (a.apply p).2.tracked ⊆ p.tracked ∪ {x | a.tracks? = some x} := by
  rintro x ⟨j, k, hx⟩
  obtain hsame | hempty | ⟨b, rfl, hafter⟩ := sessionsOf_apply p a j
  · rw [hsame] at hx
    exact .inl ⟨j, k, hx⟩
  · rw [hempty] at hx
    cases hx
  · rw [hafter] at hx
    obtain hold | rfl := Sessions.tracked_apply hx
    · exact .inl ⟨j, k, hold⟩
    · exact .inr rfl

end Process

/-! ### Traffic -/

namespace Host

/-- What can be under way: an operation, what a holder of modules does, or a request made by someone
else. -/
inductive Action where
  | call (o : Operation)
  /-- Finds a module to hold on to it. -/
  | hold (h : Handle)
  | use (m : Module) (o : Module.Method)
  | letGo (m : Module)
  | acquire
  | giveBack
  | ask (r : Request)

def Action.program : Action → Program Unit
  | .call o => do
    let _ ← o.program
    return ()
  | .hold h => do
    let _ ← Host.hold h
    return ()
  | .use m o => do
    let _ ← o.program m
    return ()
  | .letGo m => m.release
  | .acquire => Loading.acquire
  | .giveBack => Loading.release
  | .ask r => do
    let _ ← Program.ask r
    return ()

lemma Action.tracks (a : Action) : a.program.Tracks ∅ := by
  cases a with
  | call o => exact tracks_bind o.tracks fun _ => trivial
  | hold h => exact Untracking.tracks (within_bind (within_touch.mpr rfl) fun _ => within_pure _)
  | use m o => exact tracks_bind (o.tracks m) fun _ => trivial
  | letGo m => exact m.untracking_release.tracks
  | acquire => exact Loading.untracking_acquire.tracks
  | giveBack => exact Loading.untracking_release.tracks
  | ask r => exact Untracking.tracks (within_bind (within_ask.mpr trivial) fun _ => within_pure _)

end Host

/-- Everything that is under way up to a moment. -/
structure Traffic (σ : Type) where
  programs : List (Program Unit)
  world : World σ
  /-- What has been done, in its order. -/
  trace : List Deed

namespace Traffic

inductive Move (σ : Type) where
  | start (a : Host.Action)
  /-- The action with this index goes on by a step. -/
  | resume (i : ℕ)
  /-- Something happens outside. -/
  | change (f : σ → σ)

def step (env : Environment σ) (s : Traffic σ) : Move σ → Traffic σ
  | .start a => { s with programs := s.programs ++ [a.program] }
  | .resume i =>
    match s.programs[i]? with
    | none => s
    | some p =>
      { programs := s.programs.set i (p.step env s.world).1
        world := (p.step env s.world).2
        trace := s.trace ++ (p.deed? env s.world).toList }
  | .change f => { s with world.outside := f s.world.outside }

/-- Everything that is under way after some moves, before the first of which there is nothing. -/
def after (env : Environment σ) (outside : σ) (moves : List (Move σ)) : Traffic σ :=
  moves.foldl (step env) ⟨[], .initial outside, []⟩

/-- The numbers that sessions were given. -/
def numbers (s : Traffic σ) : Set SessionId := {x | ∃ d ∈ s.trace, d.issues? = some x}

/-- How many sessions have been opened. -/
def issued (s : Traffic σ) : ℕ := s.trace.countP fun d => d.issues?.isSome

/-- No session is tracked, or about to be, that was not given its number by the library. -/
structure Sourced (s : Traffic σ) : Prop where
  programs : ∀ p ∈ s.programs, p.Tracks s.numbers
  tracked : s.world.process.tracked ⊆ s.numbers

end Traffic

/-- **One step of a program** leaves tracked only what the library had given its number. -/
lemma Program.Tracks.step {env : Environment σ} {p : Program α} {w : World σ} {S T : Set SessionId}
    (hp : p.Tracks S) (hw : w.process.tracked ⊆ S) (hT : S ⊆ T)
    (hnew : ∀ d ∈ p.deed? env w, ∀ x, d.issues? = some x → x ∈ T) :
    (p.step env w).1.Tracks T ∧ (p.step env w).2.process.tracked ⊆ T := by
  have hbefore : w.process.tracked ⊆ T := hw.trans hT
  cases p with
  | done a => exact ⟨trivial, hbefore⟩
  | request r next =>
    have hknown : S ∪ {x | (Deed.asked r (env.answer r w.outside).1).issues? = some x} ⊆ T :=
      Set.union_subset hT fun x hx => hnew _ rfl x hx
    exact ⟨Tracks.mono (hp _) hknown, hbefore⟩
  | access a next =>
    have hknown : {x | a.tracks? = some x} ⊆ T := fun x hx => hT (hp.1 x hx)
    exact ⟨Tracks.mono (hp.2 _) hT, (tracked_apply _ a).trans (Set.union_subset hbefore hknown)⟩
  | log l next => exact ⟨Tracks.mono hp hT, hbefore⟩

namespace Traffic

variable {env : Environment σ} {s : Traffic σ}

lemma numbers_mono {s t : Traffic σ} (h : s.trace ⊆ t.trace) : s.numbers ⊆ t.numbers :=
  fun _ ⟨d, hd, hx⟩ => ⟨d, h hd, hx⟩

lemma Sourced.step (hs : s.Sourced) (move : Move σ) : (s.step env move).Sourced := by
  cases move with
  | change f => exact ⟨hs.programs, hs.tracked⟩
  | start a =>
    refine ⟨?_, hs.tracked⟩
    show ∀ p ∈ s.programs ++ [a.program], p.Tracks s.numbers
    simp only [List.forall_mem_append, List.forall_mem_singleton]
    exact ⟨hs.programs, a.tracks.mono (Set.empty_subset _)⟩
  | resume i =>
    rw [Traffic.step]
    rcases hi : s.programs[i]? with _ | p
    · exact hs
    dsimp only
    set t : Traffic σ := ⟨s.programs.set i (p.step env s.world).1, (p.step env s.world).2,
      s.trace ++ (p.deed? env s.world).toList⟩
    have hgrow : s.numbers ⊆ t.numbers := numbers_mono (List.subset_append_left _ _)
    have hnew : ∀ d ∈ p.deed? env s.world, ∀ x, d.issues? = some x → x ∈ t.numbers :=
      fun d hd x hx => ⟨d, List.mem_append_right _ (Option.mem_toList.mpr hd), hx⟩
    obtain ⟨hprogram, htracked⟩ :=
      (hs.programs p (List.mem_of_getElem? hi)).step hs.tracked hgrow hnew
    refine ⟨fun q hq => ?_, htracked⟩
    obtain hold | rfl := List.mem_or_eq_of_mem_set hq
    · exact (hs.programs q hold).mono hgrow
    · exact hprogram

lemma tracked_initial : Process.initial.tracked = ∅ :=
  Set.eq_empty_iff_forall_notMem.mpr fun _ ⟨_, _, hx⟩ => by cases hx

/-- **Whatever is tracked was given its number by the library**, whatever is under way. -/
theorem sourced_after (env : Environment σ) (outside : σ) (moves : List (Move σ)) :
    (after env outside moves).Sourced := by
  have hrun (s : Traffic σ) (hs : s.Sourced) : (moves.foldl (step env) s).Sourced := by
    induction moves generalizing s with
    | nil => exact hs
    | cons move moves ih => exact ih _ (hs.step move)
  refine hrun _ ⟨by simp, ?_⟩
  show Process.initial.tracked ⊆ _
  simp [tracked_initial]

end Traffic

/-! ### The numbers that the library in memory gives -/

namespace Simulated

lemma Inits.nextSession {s t : State} {args : Option InitArgs} {code : Code}
    (ht : Inits s args code t) : t.nextSession = s.nextSession := by
  cases ht with
  | starts c idle same took =>
    unfold start
    split_ifs <;> rfl
  | fails | repeats | refused => rfl

lemma Finalizes.nextSession {s t : State} {reserved : Bool} (ht : Finalizes s reserved t) :
    t.nextSession = s.nextSession := by
  cases ht with
  | refused | leaves => rfl
  | stops c instances same kept =>
    unfold stop
    dsimp only
    split_ifs <;> rfl

/-- Opening a session takes a number, and no other call does. -/
inductive Numbers (s t : State) : Option SessionId → Prop where
  | none (same : t.nextSession = s.nextSession) : Numbers s t .none
  | next (counted : t.nextSession = s.nextSession + 1) : Numbers s t (some s.nextSession)

lemma numbers_serve (m : ModuleId) (c : Call) (s : State) :
    Numbers s (serve c s).2 (Deed.asked (.call m c) (serve c s).1).issues? := by
  cases c with
  | openSession slot flags application notify place =>
    have hopens := opensSession s slot flags application notify place
    show Numbers s (openSession slot flags application notify place s).2
      (if (openSession slot flags application notify place s).1.code = .ok then
        some ((openSession slot flags application notify place s).1.written.getD 0) else none)
    generalize openSession slot flags application notify place s = r at hopens
    obtain ⟨r, t⟩ := r
    cases hopens with
    | refused c code same kept failed =>
      rw [if_neg failed]
      exact .none rfl
    | opened c running same kept => exact .next rfl
  | init args => exact .none (inits s args).nextSession
  | finalize reserved => exact .none (finalizes s reserved).nextSession
  | closeSession session =>
    refine .none ?_
    rw [serve, closeSession]
    dsimp only
    split_ifs <;> rfl
  | _ => exact .none rfl

end Simulated

namespace Host

open Installed

lemma numbers_mock (r : Request) (u : Beside Simulated.Timeline) :
    Simulated.Numbers u.supplied.library (Site.mock.answer r u).2.supplied.library
      (Deed.asked r (Site.mock.answer r u).1).issues? := by
  cases r with
  | call m c => exact Simulated.numbers_serve m c u.supplied.library
  | sleep =>
    refine .none ?_
    obtain ⟨⟨library, _ | ⟨f, changes⟩, slept⟩, opened, host⟩ := u <;> rfl
  | openLibrary loader m path =>
    refine .none ?_
    cases loader with
    | supplied =>
      show (Simulated.openLibrary m path u.supplied.library).2.nextSession = _
      unfold Simulated.openLibrary
      split_ifs <;> rfl
    | system =>
      simp only [beside, respond]
      split <;> rfl
  | lookUp m symbol =>
    refine .none ?_
    simp only [beside, respond]
    split <;> rfl
  | closeLibrary m =>
    refine .none ?_
    simp only [beside, respond]
    split <;> rfl

end Host

namespace Traffic

open Installed Host

variable {s : Traffic (Beside Simulated.Timeline)} {first : SessionId}

/-- Between two steps nothing changes but how the library behaves, now and later, and which files
there are. -/
def Move.Fair : Move (Beside Simulated.Timeline) → Prop
  | .change f => (Host.Step.change f).Fair
  | _ => True

/-- The numbers count up from the first. -/
structure Numbered (first : SessionId) (s : Traffic (Beside Simulated.Timeline)) : Prop where
  next : s.world.outside.supplied.library.nextSession = first + UInt64.ofNat s.issued
  numbers : first.toNat + s.issued ≤ 2 ^ 64 → ∀ x ∈ s.numbers, x.toNat < first.toNat + s.issued

lemma Numbered.toNat_next (hs : s.Numbered first) (hroom : first.toNat + s.issued < 2 ^ 64) :
    s.world.outside.supplied.library.nextSession.toNat = first.toNat + s.issued := by
  rw [hs.next, UInt64.toNat_add, UInt64.toNat_ofNat']
  omega

/-- Had all numbers been given out, the next one would be zero. -/
lemma Numbered.issued_lt (hs : s.Numbered first) (hroom : first.toNat + s.issued ≤ 2 ^ 64)
    (hnonzero : s.world.outside.supplied.library.nextSession ≠ 0) :
    first.toNat + s.issued < 2 ^ 64 := by
  by_contra hfull
  have hzero : (first + UInt64.ofNat s.issued).toNat = 0 := by
    rw [UInt64.toNat_add, UInt64.toNat_ofNat']
    omega
  rw [← hs.next] at hzero
  exact hnonzero (UInt64.toNat_inj.mp hzero)

/-- A deed takes the next number or none. -/
lemma Numbered.goes (hs : s.Numbered first) {t : Traffic (Beside Simulated.Timeline)}
    {d : Option Deed} (htrace : t.trace = s.trace ++ d.toList)
    (hnumbers : Simulated.Numbers s.world.outside.supplied.library
      t.world.outside.supplied.library (d.bind Deed.issues?)) : t.Numbered first := by
  have hissued : t.issued = s.issued + if (d.bind Deed.issues?).isSome then 1 else 0 := by
    rw [issued, htrace, List.countP_append, issued]
    rcases d with _ | d <;> simp [List.countP_cons]
  have hmem (x : SessionId) (hx : x ∈ t.numbers) :
      x ∈ s.numbers ∨ d.bind Deed.issues? = some x := by
    obtain ⟨e, he, hx⟩ := hx
    rw [htrace, List.mem_append, Option.mem_toList] at he
    obtain he | rfl := he
    · exact .inl ⟨e, he, hx⟩
    · exact .inr hx
  generalize d.bind Deed.issues? = issue at hnumbers hissued hmem
  cases hnumbers with
  | none same =>
    have hsame : t.issued = s.issued := hissued
    refine ⟨by rw [same, hs.next, hsame], fun hroom x hx => ?_⟩
    rw [hsame] at hroom ⊢
    exact hs.numbers hroom x ((hmem x hx).resolve_right (by simp))
  | next counted =>
    have hmore : t.issued = s.issued + 1 := hissued
    constructor
    · rw [counted, hs.next, hmore, UInt64.ofNat_add, UInt64.add_assoc]
      rfl
    · intro hroom x hx
      obtain hold | hnew := hmem x hx
      · have := hs.numbers (by omega) x hold
        omega
      · obtain rfl := Option.some.inj hnew
        have := hs.toNat_next (by omega)
        omega

lemma Numbered.step (hs : s.Numbered first) {move : Move (Beside Simulated.Timeline)}
    (hmove : move.Fair) : (s.step Site.mock move).Numbered first := by
  cases move with
  | start a => exact ⟨hs.next, hs.numbers⟩
  | change f =>
    obtain ⟨-, b, hlibrary⟩ := hmove s.world.outside
    refine ⟨?_, hs.numbers⟩
    show (f s.world.outside).supplied.library.nextSession = first + UInt64.ofNat s.issued
    rw [hlibrary]
    exact hs.next
  | resume i =>
    rw [Traffic.step]
    rcases hi : s.programs[i]? with _ | p
    · exact hs
    refine hs.goes (d := p.deed? Site.mock s.world) rfl ?_
    cases p with
    | request r next => exact numbers_mock r s.world.outside
    | done a | access a next | log l next => exact .none rfl

/-- **Every session has a number of its own.** -/
theorem numbered_after (b : Simulated.Behaviour)
    (changes : List (Simulated.Behaviour → Simulated.Behaviour)) (host : Files)
    {moves : List (Move (Beside Simulated.Timeline))} (hmoves : ∀ move ∈ moves, move.Fair) :
    (after Site.mock ⟨⟨.fresh b, changes, 0⟩, [], host⟩ moves).Numbered b.firstSession := by
  have hrun (s : Traffic (Beside Simulated.Timeline)) (hs : s.Numbered b.firstSession) :
      (moves.foldl (step Site.mock) s).Numbered b.firstSession := by
    induction moves generalizing s with
    | nil => exact hs
    | cons move moves ih =>
      obtain ⟨hmove, hrest⟩ := List.forall_mem_cons.mp hmoves
      exact ih hrest _ (hs.step hmove)
  refine hrun _ ⟨(UInt64.add_zero _).symm, fun _ x hx => ?_⟩
  obtain ⟨d, hd, -⟩ := hx
  cases hd

/-- Every tracked session has a number below the next one, as long as the numbers last. -/
lemma Numbered.tracked_lt (hnumbered : s.Numbered first) (hs : s.Sourced)
    (hroom : first.toNat + s.issued < 2 ^ 64) {x : SessionId}
    (hx : x ∈ s.world.process.tracked) :
    x.toNat < s.world.outside.supplied.library.nextSession.toNat := by
  rw [hnumbered.toNat_next hroom]
  exact hnumbered.numbers hroom.le x (hs.tracked hx)

end Traffic

end Cryptoki
