import Cryptoki.Library.Simulated
import Mathlib.Data.List.Induction
import Mathlib.Data.List.Nodup
import Mathlib.Tactic

/-!
What the library in memory has to show for any calls, in any order.

Four things are updated by different calls and have to stay in step: how often the library is
initialized, the callbacks it took, the mutex it made of them and the sessions that are open. The
initializations that succeeded and the finalizations that found it initialized tell the first; the
others follow it.
-/

namespace Cryptoki.Simulated

variable {s : State}

/-- What can happen to the library: a call, or a change of how it behaves. -/
inductive Event where
  | call (c : Call)
  | change (f : Behaviour → Behaviour)

namespace State

def step (s : State) : Event → State
  | .call c => (serve c s).2
  | .change f => { s with behaviour := f s.behaviour }

/-- The library after a history. -/
def after (s : State) (history : List Event) : State := history.foldl step s

@[simp] lemma after_nil (s : State) : s.after [] = s := rfl
@[simp] lemma after_cons (s : State) (e : Event) (history : List Event) :
    s.after (e :: history) = (s.step e).after history := rfl
lemma after_append (s : State) (as bs : List Event) :
    s.after (as ++ bs) = (s.after as).after bs := by
  simp [after, List.foldl_append]

/-- How many events are of a sort, which may depend on the state each happens in. -/
def occurrences (sort : State → Event → Bool) (s : State) : List Event → ℕ
  | [] => 0
  | e :: history => (if sort s e then 1 else 0) + (s.step e).occurrences sort history

/-- An initialization that succeeds. -/
def begins (s : State) : Event → Bool
  | .call (.init args) => (init args s).1 = .ok
  | _ => false

/-- A finalization of an initialized library, whatever it returns. -/
def ends (s : State) : Event → Bool
  | .call (.finalize reserved) => !reserved && s.running
  | _ => false

/-- A session that is opened. -/
def opens (s : State) : Event → Bool
  | .call (.openSession slot flags application notify place) =>
    (openSession slot flags application notify place s).1.code = .ok
  | _ => false

/-- The last initialization to find the library not initialized had these arguments, and the
library has been initialized ever since. -/
def Began (s : State) (history : List Event) (args : Option InitArgs) : Prop :=
  ∃ before later, history = before ++ .call (.init args) :: later ∧
    (s.after before).running = false ∧
    ∀ part, part <+: later → (s.after (before ++ .call (.init args) :: part)).running = true

lemma running_eq_false_iff : s.running = false ↔ s.instances = 0 := by
  simp [running]

end State

open State

/-! ### What the calls do -/

/-- The record of the calls may go on, but no mutex was made or destroyed. -/
structure SameMutexes (c d : Calls) : Prop where
  created : c.mutexesCreated = d.mutexesCreated
  destroyed : c.mutexesDestroyed = d.mutexesDestroyed

/-- An initialization takes over the callbacks before it can fail, unless the library is
initialized already. -/
inductive Inits (s : State) (args : Option InitArgs) : Code → State → Prop where
  | starts (c : Calls) (idle : s.running = false) (same : SameMutexes c s.calls)
      (took : c.callbacks = args.any InitArgs.complete) :
    Inits s args .ok (start { s with calls := c })
  | fails (c : Calls) (code : Code) (idle : s.running = false) (same : SameMutexes c s.calls)
      (failed : code ≠ .ok) :
    Inits s args code { s with calls := c }
  | repeats (c : Calls) (running : s.running = true) (same : SameMutexes c s.calls)
      (kept : c.callbacks = s.calls.callbacks) :
    Inits s args .ok { s with calls := c, instances := s.instances + 1 }
  | refused (c : Calls) (code : Code) (running : s.running = true) (same : SameMutexes c s.calls)
      (kept : c.callbacks = s.calls.callbacks) (failed : code ≠ .ok) :
    Inits s args code { s with calls := c }

lemma inits (s : State) (args : Option InitArgs) : Inits s args (init args s).1 (init args s).2 := by
  unfold init launch
  dsimp only
  split_ifs with hrun hagain hcode hmade
  · exact .repeats _ hrun ⟨rfl, rfl⟩ rfl
  · exact .refused _ .alreadyInitialized hrun ⟨rfl, rfl⟩ rfl (by decide)
  · exact .fails _ _ (Bool.eq_false_iff.mpr hrun) ⟨rfl, rfl⟩ hcode
  · exact .fails _ _ (Bool.eq_false_iff.mpr hrun) ⟨rfl, rfl⟩ hmade
  · exact .starts _ (Bool.eq_false_iff.mpr hrun) ⟨rfl, rfl⟩ rfl

/-- A finalization takes back one initialization, and the last one stops the library. -/
inductive Finalizes (s : State) : Bool → State → Prop where
  | refused (c : Calls) (reserved : Bool) (same : SameMutexes c s.calls)
      (kept : c.callbacks = s.calls.callbacks) (cause : (!reserved && s.running) = false) :
    Finalizes s reserved { s with calls := c }
  | leaves (c : Calls) (n : ℕ) (instances : s.instances = n + 2) (same : SameMutexes c s.calls)
      (kept : c.callbacks = s.calls.callbacks) :
    Finalizes s false { s with calls := c, instances := n + 1 }
  | stops (c : Calls) (instances : s.instances = 1) (same : SameMutexes c s.calls)
      (kept : c.callbacks = s.calls.callbacks) :
    Finalizes s false (stop { s with calls := c, instances := 0 })

lemma finalizes (s : State) (reserved : Bool) : Finalizes s reserved (finalize reserved s).2 := by
  unfold finalize
  dsimp only
  split_ifs with hreserved
  · exact .refused _ _ ⟨rfl, rfl⟩ rfl (by simp [hreserved])
  · obtain rfl : reserved = false := Bool.eq_false_iff.mpr hreserved
    split
    case h_1 hs => exact .refused _ _ ⟨rfl, rfl⟩ rfl (by simp [running, hs])
    case h_2 n hs =>
      split_ifs with hlast
      · subst hlast
        exact .stops _ hs ⟨rfl, rfl⟩ rfl
      · obtain ⟨n, rfl⟩ := Nat.exists_eq_succ_of_ne_zero hlast
        exact .leaves _ n hs ⟨rfl, rfl⟩ rfl

/-- A session that is opened gets the next number. -/
inductive Opens (s : State) : Reply SessionId → State → Prop where
  | refused (c : Calls) (code : Code) (same : SameMutexes c s.calls)
      (kept : c.callbacks = s.calls.callbacks) (failed : code ≠ .ok) :
    Opens s ⟨code, none⟩ { s with calls := c }
  | opened (c : Calls) (running : s.running = true) (same : SameMutexes c s.calls)
      (kept : c.callbacks = s.calls.callbacks) :
    Opens s ⟨.ok, some s.nextSession⟩ { s with
      calls := c, nextSession := s.nextSession + 1, sessions := s.sessions ++ [s.nextSession] }

lemma opensSession (s : State) (slot : SlotId) (flags : Flags) (application notify place : Bool) :
    Opens s (openSession slot flags application notify place s).1
      (openSession slot flags application notify place s).2 := by
  unfold openSession
  dsimp only
  split_ifs with hrun hplace hserial hcode hroom
  · exact .refused _ _ ⟨rfl, rfl⟩ rfl (by decide)
  · exact .refused _ _ ⟨rfl, rfl⟩ rfl (by decide)
  · exact .refused _ _ ⟨rfl, rfl⟩ rfl (by decide)
  · exact .refused _ _ ⟨rfl, rfl⟩ rfl hcode
  · exact .refused _ _ ⟨rfl, rfl⟩ rfl (by decide)
  · exact .opened _ (by simpa using hrun) ⟨rfl, rfl⟩ rfl

/-! ### What becomes of the callbacks -/

lemma Inits.keeps {args : Option InitArgs} {code : Code} {t : State} (ht : Inits s args code t)
    (hrun : s.running = true) : t.calls.callbacks = s.calls.callbacks := by
  cases ht with
  | starts c idle | fails c code idle => exact absurd (hrun.symm.trans idle) (by decide)
  | repeats c running same kept | refused c code running same kept => exact kept

lemma Inits.takes {args : Option InitArgs} {code : Code} {t : State} (ht : Inits s args code t)
    (hidle : s.running = false) (hrun : t.running = true) :
    t.calls.callbacks = args.any InitArgs.complete := by
  cases ht with
  | starts c idle same took =>
    unfold start
    split_ifs <;> exact took
  | fails c code idle => exact absurd (hrun.symm.trans hidle) (by decide)
  | repeats c running | refused c code running =>
    exact absurd (running.symm.trans hidle) (by decide)

lemma Finalizes.keeps {reserved : Bool} {t : State} (ht : Finalizes s reserved t) :
    t.calls.callbacks = s.calls.callbacks := by
  cases ht with
  | refused c reserved same kept | leaves c n instances same kept => exact kept
  | stops c instances same kept =>
    unfold stop
    dsimp only
    split_ifs <;> exact kept

lemma Opens.keeps {r : Reply SessionId} {t : State} (ht : Opens s r t) :
    t.calls.callbacks = s.calls.callbacks := by
  cases ht with
  | refused c code same kept | opened c running same kept => exact kept

/-- The callbacks stay as they are while the library is initialized. -/
lemma step_callbacks (hrun : s.running = true) (e : Event) :
    (s.step e).calls.callbacks = s.calls.callbacks := by
  cases e with
  | change f => rfl
  | call c =>
    cases c with
    | init args => exact (inits s args).keeps hrun
    | finalize reserved => exact (finalizes s reserved).keeps
    | openSession slot flags application notify place =>
      exact (opensSession s slot flags application notify place).keeps
    | closeSession x =>
      show (closeSession x s).2.calls.callbacks = s.calls.callbacks
      unfold closeSession
      dsimp only
      split_ifs <;> rfl
    | _ => rfl

lemma after_callbacks {later : List Event}
    (hrun : ∀ part, part <+: later → (s.after part).running = true) :
    (s.after later).calls.callbacks = s.calls.callbacks := by
  induction later generalizing s with
  | nil => rfl
  | cons e later ih =>
    have hrest : ∀ part, part <+: later → ((s.step e).after part).running = true := by
      intro part hpart
      exact hrun (e :: part) ((List.prefix_cons_inj e).mpr hpart)
    have hs : s.running = true := hrun [] List.nil_prefix
    rw [after_cons, ih hrest, step_callbacks hs]

/-- The library has the callbacks of the initialization that began it. -/
lemma State.Began.callbacks {history : List Event} {args : Option InitArgs}
    (h : s.Began history args) :
    (s.after history).running = true ∧
      (s.after history).calls.callbacks = args.any InitArgs.complete := by
  obtain ⟨before, later, rfl, hidle, hrun⟩ := h
  have hsplit : ∀ part, s.after (before ++ .call (.init args) :: part) =
      ((s.after before).step (.call (.init args))).after part := by
    intro part
    rw [after_append, after_cons]
  simp only [hsplit] at hrun ⊢
  have htook := (inits (s.after before) args).takes hidle (hrun [] List.nil_prefix)
  exact ⟨hrun later (List.prefix_refl later), (after_callbacks hrun).trans htook⟩

/-! ### One call -/

/-- The books of a library whose sessions are numbered from `first` on, after so many beginnings,
ends and openings. -/
structure Ledger (first begun ended opened : ℕ) (s : State) : Prop where
  instances : s.instances + ended = begun
  mutex : s.mutex = (s.running && s.calls.callbacks)
  mutexes : s.calls.mutexesCreated = s.calls.mutexesDestroyed + if s.mutex then 1 else 0
  idle : s.running = false → s.sessions = []
  next : s.nextSession = UInt64.ofNat (first + opened)
  sessions : first + opened ≤ 2 ^ 64 → s.sessions.Nodup ∧
    ∀ x ∈ s.sessions, first ≤ x.toNat ∧ x.toNat < first + opened

namespace Ledger

variable {first begun ended opened : ℕ} {c : Calls}

lemma fresh (b : Behaviour) : Ledger b.firstSession.toNat 0 0 0 (.fresh b) where
  instances := rfl
  mutex := rfl
  mutexes := rfl
  idle _ := rfl
  next := by simp [State.fresh]
  sessions _ := by simp [State.fresh]

/-- The record of the calls goes on. While the library is not initialized it may take over other
callbacks. -/
lemma recorded (h : Ledger first begun ended opened s) (same : SameMutexes c s.calls)
    (hkept : s.running = false ∨ c.callbacks = s.calls.callbacks) :
    Ledger first begun ended opened { s with calls := c } where
  instances := h.instances
  mutex := by
    show s.mutex = (s.running && c.callbacks)
    rcases hkept with hidle | hkept
    · rw [h.mutex, hidle, Bool.false_and, Bool.false_and]
    · rw [h.mutex, hkept]
  mutexes := by
    show c.mutexesCreated = c.mutexesDestroyed + if s.mutex then 1 else 0
    rw [same.created, same.destroyed, h.mutexes]
  idle := h.idle
  next := h.next
  sessions := h.sessions

/-- The first initialization makes a mutex if it has all four callbacks. -/
lemma start (h : Ledger first begun ended opened s) (hidle : s.running = false) :
    Ledger first (begun + 1) ended opened (Simulated.start s) := by
  have hinstances : 0 + ended = begun := running_eq_false_iff.mp hidle ▸ h.instances
  have hnone : s.mutex = false := by rw [h.mutex, hidle, Bool.false_and]
  have hmutexes := h.mutexes
  rw [hnone] at hmutexes
  unfold Simulated.start
  split_ifs with hcallbacks
  · refine ⟨by simp only; omega, ?_, ?_, fun _ => h.idle hidle, h.next, h.sessions⟩
    · simp [running, hcallbacks]
    · simpa using hmutexes
  · refine ⟨by simp only; omega, ?_, ?_, fun _ => h.idle hidle, h.next, h.sessions⟩
    · simp [hnone, hcallbacks]
    · simpa [hnone] using hmutexes

/-- A further initialization keeps the mutex. -/
lemma again (h : Ledger first begun ended opened s) (hrun : s.running = true) :
    Ledger first (begun + 1) ended opened { s with instances := s.instances + 1 } where
  instances := by
    have hinstances := h.instances
    simp only
    omega
  mutex := by
    rw [h.mutex, hrun]
    simp [running]
  mutexes := h.mutexes
  idle hidle := absurd hidle (by simp [running])
  next := h.next
  sessions := h.sessions

lemma init (h : Ledger first begun ended opened s) {args : Option InitArgs} {code : Code}
    {t : State} (ht : Inits s args code t) :
    Ledger first (begun + if code = .ok then 1 else 0) ended opened t := by
  cases ht with
  | starts c idle same took => exact (h.recorded same (.inl idle)).start idle
  | fails c code idle same failed =>
    rw [if_neg failed]
    exact h.recorded same (.inl idle)
  | repeats c running same kept => exact (h.recorded same (.inr kept)).again running
  | refused c code running same kept failed =>
    rw [if_neg failed]
    exact h.recorded same (.inr kept)

/-- A finalization that is not the last keeps the mutex. -/
lemma leave (h : Ledger first begun ended opened s) {n : ℕ} (hinstances : s.instances = n + 2) :
    Ledger first begun (ended + 1) opened { s with instances := n + 1 } where
  instances := by
    have hall := h.instances
    simp only
    omega
  mutex := by
    rw [h.mutex]
    simp [running, hinstances]
  mutexes := h.mutexes
  idle hidle := absurd hidle (by simp [running])
  next := h.next
  sessions := h.sessions

/-- The last finalization destroys the mutex, if there is one: the callbacks it was made by are still
known. -/
lemma stop (h : Ledger first begun ended opened s) (hinstances : s.instances = 1) :
    Ledger first begun (ended + 1) opened (Simulated.stop { s with instances := 0 }) := by
  have hall := h.instances
  have hmutexes := h.mutexes
  have hrun : s.running = true := by simp [running, hinstances]
  have hmutex : s.mutex = s.calls.callbacks := by rw [h.mutex, hrun, Bool.true_and]
  rcases hcallbacks : s.calls.callbacks with - | -
  · rw [hcallbacks] at hmutex
    rw [hmutex] at hmutexes
    rw [stop_of_no_mutex (s := { s with instances := 0 }) hmutex]
    exact ⟨by simp only; omega, by simp [running], hmutexes, fun _ => rfl, h.next,
      fun _ => by simp⟩
  · rw [hcallbacks] at hmutex
    rw [hmutex] at hmutexes
    rw [stop_of_mutex (s := { s with instances := 0 }) hcallbacks hmutex]
    exact ⟨by simp only; omega, by simp [running], by simpa using hmutexes, fun _ => rfl, h.next,
      fun _ => by simp⟩

lemma finalize (h : Ledger first begun ended opened s) {reserved : Bool} {t : State}
    (ht : Finalizes s reserved t) :
    Ledger first begun (ended + if !reserved && s.running then 1 else 0) opened t := by
  cases ht with
  | refused c reserved same kept cause =>
    rw [cause]
    exact h.recorded same (.inr kept)
  | leaves c n instances same kept =>
    have hrun : s.running = true := by simp [running, instances]
    rw [hrun]
    exact (h.recorded same (.inr kept)).leave instances
  | stops c instances same kept =>
    have hrun : s.running = true := by simp [running, instances]
    rw [hrun]
    exact (h.recorded same (.inr kept)).stop instances

/-- A session that is opened has a number no session had before. -/
lemma openSession (h : Ledger first begun ended opened s) {r : Reply SessionId} {t : State}
    (ht : Opens s r t) :
    Ledger first begun ended (opened + if r.code = .ok then 1 else 0) t := by
  cases ht with
  | refused c code same kept failed =>
    rw [if_neg failed]
    exact h.recorded same (.inr kept)
  | opened c running same kept =>
    rw [if_pos rfl]
    obtain ⟨hinstances, hmutex, hmutexes, -, hnext, hsessions⟩ := h.recorded same (.inr kept)
    refine ⟨hinstances, hmutex, hmutexes, fun hidle => ?_, ?_, fun room => ?_⟩
    · exact absurd (running.symm.trans hidle) (by decide)
    · show s.nextSession + 1 = UInt64.ofNat (first + opened + 1)
      rw [h.next]
      exact (UInt64.ofNat_add _ _).symm
    · have hnumber : s.nextSession.toNat = first + opened := by
        rw [h.next, UInt64.toNat_ofNat']
        omega
      obtain ⟨hnodup, hbounds⟩ := hsessions (by omega)
      refine ⟨?_, fun x hx => ?_⟩
      · refine List.nodup_append.mpr ⟨hnodup, List.nodup_singleton _, ?_⟩
        intro x hx y hy hxy
        have hbound := (hbounds x hx).2
        rw [hxy, List.mem_singleton.mp hy, hnumber] at hbound
        omega
      · rcases List.mem_append.mp hx with hx | hx
        · have hbound := hbounds x hx
          omega
        · obtain rfl := List.mem_singleton.mp hx
          omega

lemma closeSession (h : Ledger first begun ended opened s) (x : SessionId) :
    Ledger first begun ended opened (Simulated.closeSession x s).2 := by
  unfold Simulated.closeSession
  dsimp only
  have hrecorded : Ledger first begun ended opened
    { s with calls.closeSession := x :: s.calls.closeSession } :=
    h.recorded ⟨rfl, rfl⟩ (.inr rfl)
  split_ifs
  · exact hrecorded
  · obtain ⟨hinstances, hmutex, hmutexes, hidle, hnext, hsessions⟩ := hrecorded
    refine ⟨hinstances, hmutex, hmutexes, fun hrun => ?_, hnext, fun room => ?_⟩
    · show s.sessions.erase x = []
      rw [h.idle hrun, List.erase_nil]
    · obtain ⟨hnodup, hbounds⟩ := hsessions room
      exact ⟨hnodup.erase x, fun y hy => hbounds y (List.mem_of_mem_erase hy)⟩
  · exact hrecorded

lemma step (h : Ledger first begun ended opened s) (e : Event) :
    Ledger first (begun + if s.begins e then 1 else 0) (ended + if s.ends e then 1 else 0)
      (opened + if s.opens e then 1 else 0) (s.step e) := by
  cases e with
  | change f => exact ⟨h.instances, h.mutex, h.mutexes, h.idle, h.next, h.sessions⟩
  | call c =>
    cases c with
    | init args =>
      have hinit := h.init (inits s args)
      simp only [begins, decide_eq_true_eq]
      exact hinit
    | finalize reserved => exact h.finalize (finalizes s reserved)
    | openSession slot flags application notify place =>
      have hopen := h.openSession (opensSession s slot flags application notify place)
      simp only [opens, decide_eq_true_eq]
      exact hopen
    | closeSession x => exact h.closeSession x
    | getFunctionList _ | getSlotInfo _ _ | getTokenInfo _ _ => exact h
    | getInfo _ | getSlotList _ _ _ | waitForSlotEvent _ _ | login _ _ _ _ | logout _ =>
      exact h.recorded ⟨rfl, rfl⟩ (.inr rfl)

lemma after (h : Ledger first begun ended opened s) (history : List Event) :
    Ledger first (begun + s.occurrences begins history) (ended + s.occurrences ends history)
      (opened + s.occurrences opens history) (s.after history) := by
  induction history generalizing s begun ended opened with
  | nil => exact h
  | cons e history ih =>
    have hrest := ih (h.step e)
    simp only [Nat.add_assoc] at hrest
    exact hrest

end Ledger

/-! ### How the library came to be initialized -/

/-- Only an initialization makes a library initialized. -/
lemma Ledger.init_of_running {first begun ended opened : ℕ} (h : Ledger first begun ended opened s)
    (hidle : s.running = false) {e : Event} (hrun : (s.step e).running = true) :
    ∃ args, e = .call (.init args) := by
  by_contra hother
  have hbegins : s.begins e = false := by
    unfold begins
    split
    · exact absurd ⟨_, rfl⟩ hother
    · rfl
  have hnow := (h.step e).instances
  have hthen := h.instances
  rw [hbegins] at hnow
  rw [running_eq_false_iff.mp hidle] at hthen
  have hstill : (s.step e).running = false := by
    rw [running_eq_false_iff]
    simp only [Bool.false_eq_true, if_false] at hnow
    omega
  exact absurd (hrun.symm.trans hstill) (by decide)

lemma Ledger.began_of_running {first begun ended opened : ℕ}
    (h : Ledger first begun ended opened s) (hidle : s.running = false) {history : List Event}
    (hrun : (s.after history).running = true) : ∃ args, s.Began history args := by
  induction history using List.reverseRecOn with
  | nil => exact absurd (hrun.symm.trans hidle) (by decide)
  | append_singleton history e ih =>
    rcases hbefore : (s.after history).running with - | -
    · rw [after_append] at hrun
      obtain ⟨args, rfl⟩ := (h.after history).init_of_running hbefore hrun
      refine ⟨args, history, [], rfl, hbefore, fun part hpart => ?_⟩
      rw [List.prefix_nil.mp hpart, after_append]
      exact hrun
    · obtain ⟨args, before, later, rfl, hidle, hsince⟩ := ih hbefore
      refine ⟨args, before, later ++ [e], by simp, hidle, fun part hpart => ?_⟩
      rcases List.prefix_concat_iff.mp hpart with rfl | hpart
      · simpa using hrun
      · exact hsince part hpart

/-! ### To the end -/

lemma instances_finalize (s : State) : (finalize false s).2.instances = s.instances - 1 := by
  have hfinalizes := finalizes s false
  generalize (finalize false s).2 = t at hfinalizes
  cases hfinalizes with
  | refused c reserved same kept cause =>
    have hnone : s.instances = 0 := running_eq_false_iff.mp (by simpa using cause)
    simp [hnone]
  | leaves c n instances => simp [instances]
  | stops c instances =>
    unfold stop
    dsimp only
    split_ifs <;> simp [instances]

/-- As many finalizations, one after the other. -/
def finalizations (n : ℕ) : List Event := List.replicate n (.call (.finalize false))

lemma instances_after_finalizations (s : State) (n : ℕ) :
    (s.after (finalizations n)).instances = s.instances - n := by
  induction n generalizing s with
  | zero => rfl
  | succ n ih =>
    have hfirst : (s.step (.call (.finalize false))).instances = s.instances - 1 :=
      instances_finalize s
    rw [finalizations, List.replicate_succ, after_cons, ← finalizations, ih, hfirst]
    omega

lemma after_finalizations (s : State) (n : ℕ) :
    s.after (finalizations n) = Nat.repeat (fun s => (finalize false s).2) n s := by
  induction n with
  | zero => rfl
  | succ n ih =>
    rw [finalizations, List.replicate_succ', after_append, ← finalizations, ih]
    rfl

/-- **The books of the library in memory.** Whatever is called of it, and however its behaviour
changes meanwhile: it is initialized if and only if more initializations have succeeded than
finalizations have found it so. It has a mutex, the only one not destroyed yet, exactly while it
is initialized and was begun with all four callbacks. Its sessions have different numbers, from
the first one up to the next one, and it has none if it is not initialized. As many finalizations
as it has instances bring it to an end with nothing left. -/
theorem books_balance (b : Behaviour) (history : List Event)
    (room : b.firstSession.toNat + (fresh b).occurrences opens history < 2 ^ 64) :
    let s := (fresh b).after history
    let done := s.after (finalizations s.instances)
    (s.running = true ↔
        (fresh b).occurrences ends history < (fresh b).occurrences begins history) ∧
      (s.running = true ↔ ∃ args, (fresh b).Began history args) ∧
      (∀ args, (fresh b).Began history args → args.any InitArgs.complete = true →
        s.calls.mutexesCreated = s.calls.mutexesDestroyed + 1) ∧
      ((¬ ∃ args, (fresh b).Began history args ∧ args.any InitArgs.complete = true) →
        s.calls.mutexesCreated = s.calls.mutexesDestroyed) ∧
      s.sessions.Nodup ∧ (∀ x ∈ s.sessions, b.firstSession ≤ x ∧ x < s.nextSession) ∧
      (s.running = false → s.sessions = []) ∧
      (∀ n < s.instances, (s.after (finalizations n)).running = true) ∧
      done = finalizeAll s ∧ done.running = false ∧
      done.calls.mutexesCreated = done.calls.mutexesDestroyed ∧ done.sessions = [] := by
  intro s done
  have hbooks : Ledger b.firstSession.toNat ((fresh b).occurrences begins history)
      ((fresh b).occurrences ends history) ((fresh b).occurrences opens history) s := by
    simpa only [Nat.zero_add] using (Ledger.fresh b).after history
  have hbegan : s.running = true ↔ ∃ args, (fresh b).Began history args :=
    ⟨(Ledger.fresh b).began_of_running rfl, fun ⟨_, h⟩ => h.callbacks.1⟩
  obtain ⟨hdistinct, hbounds⟩ := hbooks.sessions (Nat.le_of_lt room)
  have hnext : s.nextSession.toNat =
      b.firstSession.toNat + (fresh b).occurrences opens history := by
    rw [hbooks.next, UInt64.toNat_ofNat']
    omega
  have hdone : Ledger _ _ _ _ done := hbooks.after (finalizations s.instances)
  have hend : done.running = false := by
    rw [running_eq_false_iff, instances_after_finalizations, Nat.sub_self]
  refine ⟨?_, hbegan, fun args h hall => ?_, fun hnone => ?_, hdistinct, fun x hx => ?_,
    hbooks.idle, fun n hn => ?_, after_finalizations s _, hend, ?_, hdone.idle hend⟩
  · have hcount := hbooks.instances
    simp only [running, decide_eq_true_eq]
    omega
  · have hmutex : s.mutex = true := by rw [hbooks.mutex, h.callbacks.1, h.callbacks.2, hall]; rfl
    simpa [hmutex] using hbooks.mutexes
  · have hmutex : s.mutex = false := by
      rw [hbooks.mutex, Bool.and_eq_false_iff]
      rcases hrun : s.running with - | -
      · exact .inl rfl
      · obtain ⟨args, h⟩ := hbegan.mp hrun
        refine .inr ?_
        rw [h.callbacks.2]
        exact Bool.eq_false_iff.mpr fun hall => hnone ⟨args, h, hall⟩
    simpa [hmutex] using hbooks.mutexes
  · have hbound := hbounds x hx
    rw [UInt64.le_iff_toNat_le, UInt64.lt_iff_toNat_lt, hnext]
    exact hbound
  · have hleft := instances_after_finalizations s n
    simp only [running, decide_eq_true_eq]
    omega
  · have hmutex : done.mutex = false := by rw [hdone.mutex, hend, Bool.false_and]
    simpa [hmutex] using hdone.mutexes

theorem books_balance_of_begun_without_callbacks :
    let b : Behaviour :=
      { Behaviour.standard with initCode := .generalError, reinitializable := true }
    let history : List Event :=
      [.call (.init (some .standard)), .change fun b => { b with initCode := .ok },
        .call (.init none), .call (.init (some .standard)),
        .call (.openSession 0 serialSession false false true),
        .call (.openSession 0 serialSession false false true),
        .call (.closeSession 0x5e55), .call (.finalize true), .call (.finalize false)]
    let s := (fresh b).after history
    b.firstSession.toNat + (fresh b).occurrences opens history < 2 ^ 64 ∧
      (fresh b).occurrences begins history = 2 ∧ (fresh b).occurrences ends history = 1 ∧
      s.running = true ∧ s.calls.callbacks = false ∧ s.sessions = [0x5e56] ∧
      (∃ args, (fresh b).Began history args) ∧
      (finalizeAll s).running = false ∧ (finalizeAll s).sessions = [] := by
  intro b history s
  have room : b.firstSession.toNat + (fresh b).occurrences opens history < 2 ^ 64 := by decide
  obtain ⟨hrun, hbegan, -, -, -, -, -, -, hend, hidle, -, hnone⟩ := books_balance b history room
  have hbegins : (fresh b).occurrences begins history = 2 := by decide
  have hends : (fresh b).occurrences ends history = 1 := by decide
  have hnow : s.running = true := hrun.mpr (by rw [hbegins, hends]; decide)
  exact ⟨room, hbegins, hends, hnow, rfl, rfl, hbegan.mp hnow, hend ▸ hidle, hend ▸ hnone⟩

end Cryptoki.Simulated
