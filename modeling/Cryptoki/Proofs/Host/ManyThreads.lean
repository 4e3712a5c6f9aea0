import Cryptoki.Proofs.Host.Crowd
import Cryptoki.Proofs.Host.Stragglers
import Cryptoki.Proofs.Host.Traffic

/-!
Many threads on one slot.

The threads go on in any order, each by one access or request at a time. Whatever was done before
and whatever else is under way when they begin, they do not get in each other's way: every call
succeeds, every session gets a number of its own, and nothing is left of them in the end.
-/

namespace Cryptoki

open Process Program Host Installed

variable {α σ : Type}

/-- All threads are done, with these results. -/
lemma Threads.results?_eq_some {t : Threads σ α} {results : List α} :
    t.results? = some results ↔ t.programs = results.map Program.done := by
  have hresult (p : Program α) (a : α) : result? p = some a ↔ p = .done a := by
    cases p <;> simp [result?]
  obtain ⟨programs, w⟩ := t
  show programs.mapM result? = some results ↔ programs = _
  induction programs generalizing results with
  | nil => cases results <;> simp
  | cons p programs ih =>
    cases results with
    | nil => simp [Option.bind_eq_some_iff]
    | cons a results => simp [Option.bind_eq_some_iff, hresult, ih]

lemma Threads.length_run (env : Environment σ) (t : Threads σ α) (schedule : List ℕ) :
    (t.run env schedule).programs.length = t.programs.length := by
  induction schedule generalizing t with
  | nil => rfl
  | cons i schedule ih =>
    have hstep : (t.step env i).programs.length = t.programs.length := by
      rw [step]
      rcases t.programs[i]? with _ | p
      · rfl
      · exact List.length_set
    exact (ih (t.step env i)).trans hstep

namespace Host.Crowd

variable {c : Spot} {limit first n : ℕ} {start : Sessions} {e : Errand} {crew rest : List Errand}
  {w : World (Beside Simulated.Timeline)} {ending : α → Errand → Prop}

/-- **One step of a thread.** -/
lemma Working.goes {p : Program α} (h : Working c limit first start (e :: rest) w)
    (hp : e.Goes c limit n p ending) :
    ∃ after lines, Errand.Goes c limit (n - 1) after (p.step Site.mock w).1 ending ∧
      Working c limit first start (after :: rest) (p.step Site.mock w).2 ∧
      (p.step Site.mock w).2.journal = lines ++ w.journal ∧ ∀ l ∈ lines, l.level = .debug := by
  cases p with
  | done a =>
    obtain ⟨rfl, hending⟩ := hp
    exact ⟨e, [], ⟨rfl, hending⟩, h, rfl, by simp⟩
  | log line next =>
    obtain ⟨k, rfl, hlevel, hnext⟩ := hp
    exact ⟨e, [line], hnext, ⟨h.posted, h.served, h.kept⟩, rfl, by simpa using hlevel⟩
  | access a next =>
    obtain ⟨k, rfl, ⟨x, after, hturn⟩, hnext⟩ := hp
    obtain ⟨after, hturn, hworking⟩ := h.accessed hturn
    exact ⟨after, [], hnext _ _ hturn, hworking, rfl, by simp⟩
  | request r next =>
    obtain ⟨k, rfl, ⟨x, after, hturn⟩, hnext⟩ := hp
    obtain ⟨after, hturn, hworking⟩ := h.asked hturn
    exact ⟨after, [], hnext _ _ hturn, hworking, rfl, by simp⟩

/-- The threads are on their errands. Thread `i` is to make `due i` steps more. -/
structure Manned (c : Spot) (limit first : ℕ) (start : World (Beside Simulated.Timeline))
    (ending : α → Errand → Prop) (due : ℕ → ℕ) (t : Threads (Beside Simulated.Timeline) α)
    (crew : List Errand) : Prop where
  length : t.programs.length = crew.length
  goes : ∀ i p e, t.programs[i]? = some p → crew[i]? = some e →
    Errand.Goes c limit (due i) e p ending
  working : Working c limit first (start.process.sessionsOf c.m.id) crew t.world
  journal : ∃ lines, t.world.journal = lines ++ start.journal ∧ ∀ l ∈ lines, l.level = .debug

variable {begun : World (Beside Simulated.Timeline)} {due : ℕ → ℕ}
  {t : Threads (Beside Simulated.Timeline) α}

lemma Manned.step (h : Manned c limit first begun ending due t crew) (i : ℕ) :
    ∃ crew, Manned c limit first begun ending (fun j => due j - if j = i then 1 else 0)
      (t.step Site.mock i) crew := by
  rw [Threads.step]
  rcases hi : t.programs[i]? with _ | p
  · refine ⟨crew, h.length, fun j p e hj he => ?_, h.working, h.journal⟩
    have hne : j ≠ i := by
      rintro rfl
      rw [hi] at hj
      cases hj
    rw [if_neg hne]
    exact h.goes j p e hj he
  obtain ⟨hlt, -⟩ := List.getElem?_eq_some_iff.mp hi
  have hlt' : i < crew.length := h.length ▸ hlt
  -- The invariant does not depend on the order of the crew, so thread `i` may stand at its head.
  have hperm := (List.getElem_cons_eraseIdx_perm hlt').symm
  obtain ⟨after, lines, hgoes, hworking, hlines, hdebug⟩ :=
    (h.working.perm hperm).goes (h.goes i p _ hi (List.getElem?_eq_getElem hlt'))
  obtain ⟨earlier, hjournal, hearlier⟩ := h.journal
  refine ⟨crew.set i after, by simpa using h.length, fun j q f hj hf => ?_, ?_, lines ++ earlier,
    ?_, ?_⟩
  · dsimp only at hj ⊢
    by_cases hji : j = i
    · subst hji
      rw [List.getElem?_set_self hlt] at hj
      rw [List.getElem?_set_self hlt'] at hf
      obtain rfl := Option.some.inj hj
      obtain rfl := Option.some.inj hf
      rw [if_pos rfl]
      exact hgoes
    · rw [List.getElem?_set_ne (Ne.symm hji)] at hj hf
      rw [if_neg hji]
      exact h.goes j q f hj hf
  · exact hworking.perm (List.set_perm_cons_eraseIdx hlt' after).symm
  · rw [List.append_assoc, ← hjournal]
    exact hlines
  · exact fun l hl => (List.mem_append.mp hl).elim (hdebug l) (hearlier l)

/-- **A run of the threads**, whatever the schedule. -/
lemma Manned.run (h : Manned c limit first begun ending due t crew) (schedule : List ℕ) :
    ∃ crew, Manned c limit first begun ending (fun j => due j - schedule.count j)
      (t.run Site.mock schedule) crew := by
  induction schedule generalizing t due crew with
  | nil => exact ⟨crew, h⟩
  | cons i schedule ih =>
    obtain ⟨crew, hstep⟩ := h.step i
    obtain ⟨crew, hrun⟩ := ih hstep
    refine ⟨crew, ?_⟩
    have hdue : (fun j => due j - (i :: schedule).count j) =
        fun j => (due j - if j = i then 1 else 0) - schedule.count j := by
      funext j
      rw [List.count_cons]
      by_cases hj : j = i
      · simp [hj]; omega
      · simp [hj, Ne.symm hj]
    rw [hdue]
    exact hrun

/-! ### From the start to the end -/

/-- What a thread answers that is through with its rounds, and what it has come to. -/
def Through (rounds : ℕ) (r : Except Fault (List SessionId)) (e : Errand) : Prop :=
  ∃ sessions, r = .ok sessions ∧ sessions.length = rounds ∧
    e = ⟨sessions, false, .idle, decide (0 < rounds)⟩

end Host.Crowd

namespace Host

/-- Threads that each run so many rounds on a slot, with secrets of their own. -/
def Spot.employ (c : Spot) (secrets : List Bytes) (rounds : ℕ) (w : World σ) :
    Threads σ (Except Fault (List SessionId)) :=
  ⟨secrets.map fun secret => sessionRounds c.module c.slot secret rounds, w⟩

end Host

namespace Host.Crowd

variable {c : Spot} {limit first rounds : ℕ} {secrets : List Bytes} {e : Errand}
  {crew : List Errand} {w : World (Beside Simulated.Timeline)} {ending : α → Errand → Prop}

/-- What a thread is to do that has done nothing yet. -/
lemma goes_through (c : Spot) (secret : Bytes) (rounds : ℕ) :
    Errand.fresh.Goes c rounds (25 * rounds) (sessionRounds c.module c.slot secret rounds)
      (Through rounds) := by
  have hgoes : Errand.fresh.Goes c rounds (25 * rounds)
      (sessionRounds c.module c.slot secret rounds) fun r after =>
      ∃ sessions, r = .ok sessions ∧ sessions.length = rounds ∧
        after = ⟨[] ++ sessions, false, .idle, false || decide (0 < rounds)⟩ :=
    Errand.goes_sessionRounds secret rounds (by simp)
  simp only [List.nil_append, Bool.false_or] at hgoes
  exact hgoes

lemma manned_employ (hlive : c.Live w.process)
    (hserves : w.outside.supplied.library.Serves c.id)
    (hnext : w.outside.supplied.library.nextSession ≠ 0)
    (hroom : w.outside.supplied.library.nextSession.toNat + secrets.length * rounds ≤ 2 ^ 64)
    (hold : ∀ x ∈ w.process.tracked, x.toNat < w.outside.supplied.library.nextSession.toNat) :
    Manned c rounds w.outside.supplied.library.nextSession.toNat w (Through rounds)
      (fun _ => 25 * rounds) (c.employ secrets rounds w)
      (List.replicate secrets.length .fresh) where
  length := by simp [Spot.employ]
  goes i p e hp he := by
    obtain rfl := List.eq_of_mem_replicate (List.mem_of_getElem? he)
    obtain ⟨secret, -, rfl⟩ := List.mem_map.mp (List.mem_of_getElem? hp)
    exact goes_through c secret rounds
  working :=
    { posted := .init hlive _
      served := .init hserves hnext hroom
      kept := .init (fun x k hx => hold x ⟨c.m.id, k, hx⟩) _ }
  journal := ⟨[], rfl, by simp⟩

/-- Threads that are all through have opened the sessions they tell, and stand idle. -/
lemma exists_sessions {results : List (Except Fault (List SessionId))}
    (hlength : results.length = crew.length)
    (hthrough : ∀ (i : ℕ) r e, results[i]? = some r → crew[i]? = some e → Through rounds r e) :
    ∃ sessions : List (List SessionId), results = sessions.map .ok ∧
      (∀ l ∈ sessions, l.length = rounds) ∧
      crew = sessions.map fun l => ⟨l, false, .idle, decide (0 < rounds)⟩ := by
  induction results generalizing crew with
  | nil =>
    obtain rfl := List.length_eq_zero_iff.mp hlength.symm
    exact ⟨[], rfl, by simp, rfl⟩
  | cons r results ih =>
    rcases crew with _ | ⟨e, crew⟩
    · cases hlength
    obtain ⟨l, rfl, hl, rfl⟩ := hthrough 0 r e rfl rfl
    obtain ⟨sessions, rfl, hall, rfl⟩ := ih (Nat.succ.inj hlength) fun i r e hr he =>
      hthrough (i + 1) r e hr he
    exact ⟨l :: sessions, rfl, List.forall_mem_cons.mpr ⟨hl, hall⟩, rfl⟩

/-- A thread with nothing left to do is done. -/
lemma exists_done {p : Program α} (hp : e.Goes c limit 0 p ending) : ∃ a, p = .done a := by
  cases p with
  | done a => exact ⟨a, rfl⟩
  | request r next | access a next | log line next =>
    obtain ⟨k, hk, -⟩ := hp
    omega

variable {start : World (Beside Simulated.Timeline)} {due : ℕ → ℕ}
  {t : Threads (Beside Simulated.Timeline) α}

/-- Threads that have made all their steps have results. -/
lemma Manned.finished (h : Manned c limit first start ending due t crew)
    (hdue : ∀ i < t.programs.length, due i = 0) : t.results?.isSome := by
  have hdone : ∀ p ∈ t.programs, ∃ a, Program.done a = p := by
    intro p hp
    obtain ⟨i, hlt, rfl⟩ := List.getElem_of_mem hp
    have hgoes := h.goes i _ _ (List.getElem?_eq_getElem hlt)
      (List.getElem?_eq_getElem (h.length ▸ hlt))
    rw [hdue i hlt] at hgoes
    obtain ⟨a, ha⟩ := exists_done hgoes
    exact ⟨a, ha.symm⟩
  have hmap : t.programs ∈ Set.range (List.map Program.done) := by
    rw [Set.range_list_map]
    exact hdone
  obtain ⟨results, hresults⟩ := hmap
  exact Option.isSome_iff_exists.mpr ⟨results, Threads.results?_eq_some.mpr hresults.symm⟩

/-- Threads that have results are all through. -/
lemma Manned.through {t : Threads (Beside Simulated.Timeline) (Except Fault (List SessionId))}
    (h : Manned c limit first start (Through rounds) due t crew)
    {results : List (Except Fault (List SessionId))} (hresults : t.results? = some results) :
    ∃ sessions : List (List SessionId), results = sessions.map .ok ∧
      (∀ l ∈ sessions, l.length = rounds) ∧
      crew = sessions.map fun l => ⟨l, false, .idle, decide (0 < rounds)⟩ := by
  have hprograms := Threads.results?_eq_some.mp hresults
  refine exists_sessions ?_ fun i r e hr he => ?_
  · rw [← h.length, hprograms, List.length_map]
  · have hdone : t.programs[i]? = some (.done r) := by
      rw [hprograms, List.getElem?_map, hr]
      rfl
    exact (h.goes i _ e hdone he).2

/-- Once threads that are through have made a round, nobody is logged in. -/
lemma stateOf_of_through {slot : SlotId} {before now : Sessions}
    {sessions : List (List SessionId)} (h : Kept slot first before
      (sessions.map fun l => ⟨l, false, .idle, decide (0 < rounds)⟩) now)
    (hsome : 0 < sessions.length * rounds) : now.stateOf slot = .unauthenticated := by
  rw [Sessions.stateOf_eq_unauthenticated]
  intro u hlogin
  have hout : ∃ e ∈ sessions.map fun l => (⟨l, false, .idle, decide (0 < rounds)⟩ : Errand),
      e.loggedOut = true := by
    obtain ⟨l, hl⟩ := List.exists_mem_of_length_pos (Nat.pos_of_mul_pos_right hsome)
    exact ⟨_, List.mem_map_of_mem hl, decide_eq_true (Nat.pos_of_mul_pos_left hsome)⟩
  obtain ⟨e, he, hin⟩ := h.logins hout (by rw [hlogin]; rfl)
  obtain ⟨l, -, rfl⟩ := List.mem_map.mp he
  cases hin

lemma given_map (sessions : List (List SessionId)) (out : Bool) :
    given (sessions.map fun l => ⟨l, false, .idle, out⟩) = sessions.flatten := by
  induction sessions with
  | nil => rfl
  | cons l sessions ih => rw [List.map_cons, given_cons, ih, List.flatten_cons]

lemma length_flatten {sessions : List (List SessionId)} (h : ∀ l ∈ sessions, l.length = rounds) :
    sessions.flatten.length = sessions.length * rounds := by
  induction sessions with
  | nil => simp
  | cons l sessions ih =>
    obtain ⟨hl, hrest⟩ := List.forall_mem_cons.mp h
    rw [List.flatten_cons, List.length_append, ih hrest, hl, List.length_cons, Nat.succ_mul,
      Nat.add_comm]

end Host.Crowd

namespace Host

/-- **Threads share a slot without getting in each other's way.** Whatever has been done and is
under way, let the handles be those of a live module and a slot of it, and the library one that
serves the slot and has numbers left for all sessions. However threads that run their rounds on the
slot are interleaved, they come to their ends and no warning is written. At the end every call has
succeeded, each session has one of the next numbers to itself, the module tracks what it tracked
before, and nobody is logged in. -/
theorem threads_share_a_slot (b : Simulated.Behaviour)
    (changes : List (Simulated.Behaviour → Simulated.Behaviour)) (host : Files)
    (moves : List (Traffic.Move (Beside Simulated.Timeline))) (hmoves : ∀ move ∈ moves, move.Fair)
    (c : Spot) (secrets : List Bytes) (rounds : ℕ) (schedule : List ℕ) :
    let s := Traffic.after Site.mock ⟨⟨.fresh b, changes, 0⟩, [], host⟩ moves
    let library := s.world.outside.supplied.library
    let after := (c.employ secrets rounds s.world).run Site.mock schedule
    c.Live s.world.process → library.Serves c.id → library.nextSession ≠ 0 →
    b.firstSession.toNat + s.issued + secrets.length * rounds ≤ 2 ^ 64 →
      ((∀ i < secrets.length, 25 * rounds ≤ schedule.count i) → after.results?.isSome) ∧
      (∃ lines, after.world.journal = lines ++ s.world.journal ∧ ∀ l ∈ lines, l.level = .debug) ∧
      ∀ results, after.results? = some results →
        ∃ sessions : List (List SessionId), results = sessions.map .ok ∧
          (∀ l ∈ sessions, l.length = rounds) ∧ sessions.flatten.Nodup ∧
          (sessions.flatten.map UInt64.toNat).insertionSort (· ≤ ·) =
            List.range' library.nextSession.toNat (secrets.length * rounds) ∧
          (∀ x, (after.world.process.sessionsOf c.m.id).tracked.get? x =
            (s.world.process.sessionsOf c.m.id).tracked.get? x) ∧
          (0 < secrets.length * rounds →
            (after.world.process.sessionsOf c.m.id).stateOf c.id = .unauthenticated) := by
  intro s library after hlive hserves hnonzero hroom
  have hnumbered : s.Numbered b.firstSession := Traffic.numbered_after b changes host hmoves
  have hsourced : s.Sourced := Traffic.sourced_after _ _ moves
  have hissued : b.firstSession.toNat + s.issued < 2 ^ 64 :=
    hnumbered.issued_lt (by omega) hnonzero
  have hnext : library.nextSession.toNat = b.firstSession.toNat + s.issued :=
    hnumbered.toNat_next hissued
  have hspace : library.nextSession.toNat + secrets.length * rounds ≤ 2 ^ 64 := by omega
  have hold : ∀ x ∈ s.world.process.tracked, x.toNat < library.nextSession.toNat :=
    fun x hx => hnumbered.tracked_lt hsourced hissued hx
  obtain ⟨crew, hmanned⟩ :=
    (Crowd.manned_employ hlive hserves hnonzero hspace hold).run schedule
  have hlength : after.programs.length = secrets.length := by
    rw [Threads.length_run, Spot.employ, List.length_map]
  refine ⟨fun hcount => hmanned.finished fun i hi => ?_, hmanned.journal,
    fun results hresults => ?_⟩
  · have hsteps := hcount i (hlength ▸ hi)
    omega
  obtain ⟨sessions, rfl, hrounds, rfl⟩ := hmanned.through hresults
  have hthreads : sessions.length = secrets.length := by
    rw [← hlength, hmanned.length, List.length_map]
  obtain ⟨-, hserved, hkept⟩ := hmanned.working
  have hnodup := hserved.nodup
  have hnumbers := hserved.numbers
  rw [Crowd.given_map] at hnodup hnumbers
  rw [Crowd.length_flatten hrounds, hthreads] at hnumbers
  refine ⟨sessions, rfl, hrounds, hnodup, ?_, fun x => ?_, fun hsome => ?_⟩
  · exact List.Perm.eq_of_sortedLE List.sortedLE_insertionSort (List.sortedLE_range' _ _ _)
      ((List.perm_insertionSort _ _).trans hnumbers)
  · refine hkept.others x fun e he => ?_
    obtain ⟨l, -, rfl⟩ := List.mem_map.mp he
    simp [Errand.Stage.noted?]
  · exact Crowd.stateOf_of_through hkept (hthreads ▸ hsome)

/-- A module of the library in memory, which is all that its first slot needs. -/
def mockSpot : Spot :=
  { module := firstHandle
    slot := .pack slotTag 1 0
    m := ⟨0, "libmock.so", Simulated.functionList .standard,
      .ofRecord (Simulated.libraryRecord .standard)⟩
    id := 0 }

/-- The actions are begun and done one after the other. -/
def oneByOne (actions : List Action) : List (Traffic.Move (Beside Simulated.Timeline)) :=
  (actions.zipIdx.map fun (a, i) => .start a :: List.replicate 16 (.resume i)).flatten

/-- A module is loaded, and a user logs in to a slot of it. -/
def settingUp : List (Traffic.Move (Beside Simulated.Timeline)) :=
  oneByOne [.call (.load .supplied "libmock.so"), .call (.onModule mockSpot.module (.openSlot 0)),
    .call (.onSlot mockSpot.module mockSpot.slot (.openSession true)),
    .call (.onSlot mockSpot.module mockSpot.slot (.login 0x5e55 .normal none))]

def setUp : Traffic (Beside Simulated.Timeline) :=
  Traffic.after Site.mock ⟨⟨.fresh .standard, [], 0⟩, [], ⟨[], []⟩⟩ settingUp

/-- Two threads take turns. -/
def alternating : List ℕ := (List.replicate 50 [0, 1]).flatten

lemma live_setUp : mockSpot.Live setUp.world.process := by
  constructor <;> decide +kernel

lemma serves_setUp : setUp.world.outside.supplied.library.Serves mockSpot.id := by
  constructor <;> decide +kernel

lemma fair_settingUp : ∀ move ∈ settingUp, move.Fair := by
  simp only [settingUp, oneByOne, List.mem_flatten, List.mem_map]
  rintro move ⟨moves, ⟨⟨a, i⟩, -, rfl⟩, hmove⟩
  obtain rfl | hmove := List.mem_cons.mp hmove
  · trivial
  · obtain rfl := List.eq_of_mem_replicate hmove
    trivial

/-- Two threads run two rounds each while a user is logged in, who is not afterwards. -/
theorem threads_share_a_slot_of_two_threads :
    let after := (mockSpot.employ [[0x31], [0x32]] 2 setUp.world).run Site.mock alternating
    (setUp.world.process.sessionsOf mockSpot.m.id).stateOf mockSpot.id =
        .authenticated .normal ∧
      ∃ sessions : List (List SessionId), after.results? = some (sessions.map .ok) ∧
        (sessions.flatten.map UInt64.toNat).insertionSort (· ≤ ·) = List.range' 0x5e56 4 ∧
        (after.world.process.sessionsOf mockSpot.m.id).stateOf mockSpot.id =
          .unauthenticated := by
  dsimp only
  have hnext : setUp.world.outside.supplied.library.nextSession = 0x5e56 := by decide +kernel
  have hroom : Simulated.Behaviour.standard.firstSession.toNat + setUp.issued +
      ([[0x31], [0x32]] : List Bytes).length * 2 ≤ 2 ^ 64 := by decide +kernel
  have hmain := threads_share_a_slot .standard [] ⟨[], []⟩ settingUp fair_settingUp mockSpot
    [[0x31], [0x32]] 2 alternating
  have hsetUp : Traffic.after Site.mock ⟨⟨.fresh .standard, [], 0⟩, [], ⟨[], []⟩⟩ settingUp =
    setUp := rfl
  dsimp only at hmain
  rw [hsetUp, hnext] at hmain
  obtain ⟨hfinished, -, hall⟩ := hmain live_setUp serves_setUp (by decide) hroom
  have hturns : ∀ i < ([[0x31], [0x32]] : List Bytes).length, 25 * 2 ≤ alternating.count i := by
    decide +kernel
  obtain ⟨results, hresults⟩ := Option.isSome_iff_exists.mp (hfinished hturns)
  obtain ⟨sessions, rfl, -, -, hsorted, -, hout⟩ := hall results hresults
  have hlogin : (setUp.world.process.sessionsOf mockSpot.m.id).stateOf mockSpot.id =
      .authenticated .normal := by decide +kernel
  have hnobody := hout (by decide)
  exact ⟨hlogin, sessions, hresults, hsorted, hnobody⟩

end Host

end Cryptoki
