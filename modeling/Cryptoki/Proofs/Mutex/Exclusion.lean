import Cryptoki.Mutex.Contention
import Mathlib.Algebra.BigOperators.Group.List.Basic
import Mathlib.Algebra.GroupWithZero.Nat
import Mathlib.Data.List.Perm.Basic

/-!
Mutual exclusion.

However the steps of the threads are mixed, at most one of them is between its lock and its
unlock. What it read is then still the counter when it writes, so that no count is lost, and it is
the one who holds the mutex when it unlocks. The invariant counts: as many threads are inside as
the mutex has holders, and the counter falls short of the whole by what the threads have still to
write.

Nobody waits forever for want of a step that could be made: as long as a thread has not done its
rounds somebody can step, and each step leaves one less to be made. So from wherever the threads
have come to they can all finish, and it takes them just the steps that are left.
-/

namespace Cryptoki.Mutex

/-- Between its lock and its unlock. -/
def Counting.inside (t : Counting) : Bool := t.stage ≠ .outside

/-- How often the thread has still to write the counter. -/
def Counting.pending (t : Counting) : ℕ :=
  match t.stage with
  | .outside | .leaving => t.rounds
  | .reading | .writing _ => t.rounds + 1

/-- How many steps the thread has still to make, of which there are four in a round. -/
def Counting.left (t : Counting) : ℕ :=
  4 * t.rounds +
    match t.stage with
    | .outside => 0
    | .reading => 3
    | .writing _ => 2
    | .leaving => 1

lemma Counting.left_eq_zero_iff {t : Counting} : t.left = 0 ↔ t = ⟨0, .outside⟩ := by
  obtain ⟨n, stage⟩ := t
  cases stage <;> simp [Counting.left]

namespace Contention

/-- How many steps all the threads have still to make. -/
def left (c : Contention) : ℕ := (c.threads.map Counting.left).sum

/-! ### What a step can be -/

/-- The four steps of a round. -/
inductive Moves (c : Contention) (i : ℕ) : Contention → Prop where
  | locks (n : ℕ) (here : c.threads[i]? = some ⟨n + 1, .outside⟩) (free : c.mutex = .free) :
    Moves c i { c with mutex := .held, threads := c.threads.set i ⟨n, .reading⟩ }
  | reads (n : ℕ) (here : c.threads[i]? = some ⟨n, .reading⟩) :
    Moves c i { c with threads := c.threads.set i ⟨n, .writing c.counter⟩ }
  | writes (n seen : ℕ) (here : c.threads[i]? = some ⟨n, .writing seen⟩) :
    Moves c i { c with counter := seen + 1, threads := c.threads.set i ⟨n, .leaving⟩ }
  | unlocks (n : ℕ) (here : c.threads[i]? = some ⟨n, .leaving⟩) :
    Moves c i { c with
      mutex := .free
      threads := c.threads.set i ⟨n, .outside⟩
      unlocked := (unlock (some c.mutex)).1 :: c.unlocked }

lemma step_eq_some_iff {c c' : Contention} {i : ℕ} : c.step i = some c' ↔ Moves c i c' := by
  constructor
  · intro h
    unfold step at h
    rcases here : c.threads[i]? with _ | ⟨n, stage⟩
    · simp [here] at h
    · rw [here] at h
      cases stage with
      | outside =>
        rcases n with _ | n
        · simp at h
        · rcases hm : c.mutex with _ | _
          · obtain rfl : _ = c' := by simpa [hm, lock] using h
            exact .locks n here hm
          · simp [hm, lock] at h
      | reading =>
        obtain rfl := Option.some.inj h
        exact .reads n here
      | writing seen =>
        obtain rfl := Option.some.inj h
        exact .writes n seen here
      | leaving =>
        have hfree : (unlock (some c.mutex)).2.getD c.mutex = .free := by
          rcases c.mutex with _ | _ <;> rfl
        have hc' : { c with
            mutex := (unlock (some c.mutex)).2.getD c.mutex
            threads := c.threads.set i ⟨n, .outside⟩
            unlocked := (unlock (some c.mutex)).1 :: c.unlocked } = c' := Option.some.inj h
        rw [hfree] at hc'
        exact hc' ▸ .unlocks n here
  · intro h
    cases h with
    | locks n here free => simp [step, here, free, lock]
    | reads n here | writes n seen here => simp [step, here]
    | unlocks n here => rcases hm : c.mutex with _ | _ <;> simp [step, here, hm, unlock]

/-! ### The invariant -/

/-- The mutex is held by the one thread that is inside, what a thread has read is still the
counter, and the counter and what is still to be written make up the whole. -/
structure Orderly (total : ℕ) (c : Contention) : Prop where
  inside : c.threads.countP Counting.inside = if c.mutex = .held then 1 else 0
  current : ∀ t ∈ c.threads, ∀ seen, t.stage = .writing seen → seen = c.counter
  owed : c.counter + (c.threads.map Counting.pending).sum = total
  codes : ∀ code ∈ c.unlocked, code = .ok

variable {total : ℕ} {c : Contention} {i : ℕ}

lemma orderly_start (threads rounds : ℕ) : Orderly (threads * rounds) (start threads rounds) where
  inside := by simp [start, List.countP_replicate, Counting.inside]
  current t ht seen hstage := by
    obtain ⟨-, rfl⟩ := List.mem_replicate.mp ht
    cases hstage
  owed := by simp [start, Counting.pending]
  codes := by simp [start]

/-- The thread that steps, and all the others. -/
lemma exists_others {t : Counting} (here : c.threads[i]? = some t) :
    ∃ others, c.threads.Perm (t :: others) ∧ ∀ t', (c.threads.set i t').Perm (t' :: others) := by
  obtain ⟨hi, rfl⟩ := List.getElem?_eq_some_iff.mp here
  exact ⟨c.threads.eraseIdx i, (List.getElem_cons_eraseIdx_perm hi).symm,
    fun t' => List.set_perm_cons_eraseIdx hi t'⟩

/-- The invariant, with one thread set apart from the others. -/
lemma orderly_iff {t : Counting} {others : List Counting}
    (hperm : c.threads.Perm (t :: others)) :
    Orderly total c ↔
      (t :: others).countP Counting.inside = (if c.mutex = .held then 1 else 0) ∧
        (∀ u ∈ t :: others, ∀ seen, u.stage = .writing seen → seen = c.counter) ∧
        c.counter + ((t :: others).map Counting.pending).sum = total ∧
        ∀ code ∈ c.unlocked, code = .ok := by
  simp only [← hperm.countP_eq, ← hperm.mem_iff, ← (hperm.map _).sum_eq]
  exact ⟨fun ⟨h₁, h₂, h₃, h₄⟩ => ⟨h₁, h₂, h₃, h₄⟩, fun ⟨h₁, h₂, h₃, h₄⟩ => ⟨h₁, h₂, h₃, h₄⟩⟩

namespace Orderly

/-- While one thread is inside, the mutex is held and all the others are outside. -/
lemma alone (hc : Orderly total c) {t : Counting} {others : List Counting}
    (hperm : c.threads.Perm (t :: others)) (ht : t.inside = true) :
    c.mutex = .held ∧ ∀ u ∈ others, u.inside ≠ true := by
  have hcount := hc.inside
  rw [hperm.countP_eq, List.countP_cons_of_pos ht] at hcount
  split_ifs at hcount with hm
  · exact ⟨hm, List.countP_eq_zero.mp (by omega)⟩

lemma moves (hc : Orderly total c) {c' : Contention} (h : Moves c i c') : Orderly total c' := by
  cases h with
  | locks n here free =>
    obtain ⟨others, hold, hnew⟩ := exists_others here
    obtain ⟨hcount, hcurrent, howed, hcodes⟩ := (orderly_iff hold).mp hc
    refine (orderly_iff (hnew _)).mpr ⟨?_, ?_, ?_, hcodes⟩
    · simpa [Counting.inside, free] using hcount
    · simpa using (List.forall_mem_cons.mp hcurrent).2
    · exact howed
  | reads n here =>
    obtain ⟨others, hold, hnew⟩ := exists_others here
    obtain ⟨hcount, hcurrent, howed, hcodes⟩ := (orderly_iff hold).mp hc
    refine (orderly_iff (hnew _)).mpr ⟨?_, ?_, ?_, hcodes⟩
    · exact hcount
    · refine List.forall_mem_cons.mpr ⟨?_, (List.forall_mem_cons.mp hcurrent).2⟩
      rintro seen ⟨⟩
      rfl
    · exact howed
  | writes n seen here =>
    obtain ⟨others, hold, hnew⟩ := exists_others here
    obtain ⟨hcount, hcurrent, howed, hcodes⟩ := (orderly_iff hold).mp hc
    have hseen : seen = c.counter := hcurrent _ (.head _) seen rfl
    refine (orderly_iff (hnew _)).mpr ⟨?_, ?_, ?_, hcodes⟩
    · exact hcount
    · -- nobody else can have read the counter
      refine List.forall_mem_cons.mpr ⟨by simp, fun u hu seen' hstage => ?_⟩
      have houtside := (hc.alone hold rfl).2 u hu
      simp [Counting.inside, hstage] at houtside
    · simp only [hseen, List.map_cons, List.sum_cons, Counting.pending] at howed ⊢
      omega
  | unlocks n here =>
    obtain ⟨others, hold, hnew⟩ := exists_others here
    obtain ⟨hheld, houtside⟩ := hc.alone hold rfl
    obtain ⟨-, hcurrent, howed, hcodes⟩ := (orderly_iff hold).mp hc
    refine (orderly_iff (hnew _)).mpr ⟨?_, ?_, ?_, ?_⟩
    · simpa [Counting.inside] using houtside
    · simpa using (List.forall_mem_cons.mp hcurrent).2
    · exact howed
    · simpa [hheld, unlock] using hcodes

lemma run (hc : Orderly total c) (schedule : List ℕ) : Orderly total (c.run schedule) := by
  induction schedule generalizing c with
  | nil => exact hc
  | cons i schedule ih =>
    have hstep : Orderly total ((c.step i).getD c) := by
      rcases hs : c.step i with _ | c'
      · exact hc
      · exact hc.moves (step_eq_some_iff.mp hs)
    exact ih hstep

/-! ### What follows -/

lemma sole (hc : Orderly total c) {j : ℕ} {t u : Counting} (ht : c.threads[i]? = some t)
    (hu : c.threads[j]? = some u) (hti : t.inside = true) (hui : u.inside = true) : i = j := by
  by_contra hne
  obtain ⟨hi, rfl⟩ := List.getElem?_eq_some_iff.mp ht
  have hothers := (hc.alone (List.getElem_cons_eraseIdx_perm hi).symm hti).2
  have hmem : u ∈ c.threads.eraseIdx i := List.mem_eraseIdx_iff_getElem?.mpr ⟨j, Ne.symm hne, hu⟩
  exact hothers u hmem hui

lemma counter_of_finished (hc : Orderly total c) (hdone : c.finished = true) :
    c.mutex = .free ∧ c.counter = total := by
  have hall : ∀ t ∈ c.threads, t = ⟨0, .outside⟩ := by simpa [finished] using hdone
  have hcount : c.threads.countP Counting.inside = 0 :=
    List.countP_eq_zero.mpr fun t ht => by simp [hall t ht, Counting.inside]
  have hsum : (c.threads.map Counting.pending).sum = 0 := by
    refine List.sum_eq_zero fun n hn => ?_
    obtain ⟨t, ht, rfl⟩ := List.mem_map.mp hn
    rw [hall t ht]
    rfl
  have hinside := hc.inside
  have howed := hc.owed
  rw [hcount] at hinside
  split_ifs at hinside with hm
  · refine ⟨?_, by omega⟩
    rcases hmutex : c.mutex with _ | _
    · rfl
    · exact absurd hmutex hm

/-- As long as some thread has not done its rounds, some thread has a step to make. -/
lemma progress (hc : Orderly total c) (hdone : c.finished = false) : ∃ i c', c.step i = some c' := by
  obtain ⟨⟨n, stage⟩, ht, hne⟩ : ∃ t ∈ c.threads, t ≠ ⟨0, .outside⟩ := by
    simpa [finished] using hdone
  by_cases hin : ∃ t ∈ c.threads, t.inside = true
  · obtain ⟨⟨n, stage⟩, ht, hin⟩ := hin
    obtain ⟨i, here⟩ := List.mem_iff_getElem?.mp ht
    refine ⟨i, ?_⟩
    cases stage with
    | outside => simp [Counting.inside] at hin
    | reading => exact ⟨_, step_eq_some_iff.mpr (.reads n here)⟩
    | writing seen => exact ⟨_, step_eq_some_iff.mpr (.writes n seen here)⟩
    | leaving => exact ⟨_, step_eq_some_iff.mpr (.unlocks n here)⟩
  · have hcount := hc.inside
    rw [List.countP_eq_zero.mpr fun t ht hi => hin ⟨t, ht, hi⟩] at hcount
    have hfree : c.mutex = .free := by
      rcases hmutex : c.mutex with _ | _
      · rfl
      · simp [hmutex] at hcount
    have hout : stage = .outside := by
      by_contra hs
      exact hin ⟨_, ht, by simpa [Counting.inside] using hs⟩
    subst hout
    rcases n with _ | n
    · exact absurd rfl hne
    · obtain ⟨i, here⟩ := List.mem_iff_getElem?.mp ht
      exact ⟨i, _, step_eq_some_iff.mpr (.locks n here hfree)⟩

end Orderly

/-! ### All can finish -/

lemma finished_iff : c.finished = true ↔ c.left = 0 := by
  have hall : c.left = 0 ↔ ∀ t ∈ c.threads, t.left = 0 := by
    rw [left, List.sum_eq_zero_iff_forall_eq_nat, List.forall_mem_map]
  simp only [hall, Counting.left_eq_zero_iff, finished, List.all_eq_true, decide_eq_true_eq]

/-- Each step leaves one less to be made. -/
lemma Moves.left_eq {c' : Contention} (h : Moves c i c') : c.left = c'.left + 1 := by
  have hset {t t' : Counting} (here : c.threads[i]? = some t) (ht : t.left = t'.left + 1) :
      c.left = ((c.threads.set i t').map Counting.left).sum + 1 := by
    obtain ⟨others, hold, hnew⟩ := exists_others here
    rw [left, (hold.map _).sum_eq, ((hnew t').map _).sum_eq, List.map_cons, List.map_cons,
      List.sum_cons, List.sum_cons, ht]
    omega
  cases h with
  | locks n here free => exact hset here (by simp only [Counting.left]; omega)
  | reads n here | writes n seen here | unlocks n here => exact hset here rfl

/-- However far the threads have come, they can all finish, in just the steps that are left. -/
theorem Orderly.exists_finishing (hc : Orderly total c) :
    ∃ rest, rest.length = c.left ∧ (c.run rest).finished = true := by
  induction hleft : c.left generalizing c with
  | zero => exact ⟨[], rfl, finished_iff.mpr hleft⟩
  | succ n ih =>
    have hdone : c.finished = false := by
      rw [← Bool.not_eq_true, finished_iff, hleft]
      exact Nat.succ_ne_zero n
    obtain ⟨i, c', hstep⟩ := hc.progress hdone
    have hmoves : Moves c i c' := step_eq_some_iff.mp hstep
    have hleft' : c'.left = n := Nat.succ.inj (hmoves.left_eq.symm.trans hleft)
    obtain ⟨rest, hlength, hfinished⟩ := ih (hc.moves hmoves) hleft'
    refine ⟨i :: rest, by rw [List.length_cons, hlength], ?_⟩
    rw [Contention.run, List.foldl_cons, hstep]
    exact hfinished

/-- **Mutual exclusion.** Threads that count in rounds under one mutex, as it is created, however
their steps are mixed: no two are between their lock and their unlock at a time, the one that
unlocks is told so and leaves the mutex free, and somebody can go on until all have done their
rounds, as they can from wherever they have come to. Then the counter shows every round of every
thread. -/
theorem one_inside_at_a_time (threads rounds : ℕ) (schedule : List ℕ) :
    let c := (start threads rounds).run schedule
    create true = (.ok, some (start threads rounds).mutex) ∧
      (∀ (i j : ℕ) (t u : Counting), c.threads[i]? = some t → c.threads[j]? = some u →
        t.stage ≠ .outside → u.stage ≠ .outside → i = j) ∧
      (∀ (i : ℕ) (t : Counting), c.threads[i]? = some t → t.stage = .leaving →
        unlock (some c.mutex) = (.ok, some .free) ∧
          ∃ c', c.step i = some c' ∧ c'.mutex = .free ∧ c'.unlocked = .ok :: c.unlocked) ∧
      (∀ code ∈ c.unlocked, code = .ok) ∧
      (c.finished = false → ∃ i c', c.step i = some c') ∧
      (∃ rest, (c.run rest).finished = true) ∧
      (c.finished = true → c.mutex = .free ∧ c.counter = threads * rounds) := by
  intro c
  have hc : Orderly (threads * rounds) c := (orderly_start threads rounds).run schedule
  have hfinishing : ∃ rest, (c.run rest).finished = true := by
    obtain ⟨rest, -, hfinished⟩ := hc.exists_finishing
    exact ⟨rest, hfinished⟩
  refine ⟨rfl, fun i j t u ht hu hti hui => ?_, fun i t ht hleaving => ?_, hc.codes, hc.progress,
    hfinishing, hc.counter_of_finished⟩
  · exact hc.sole ht hu (by simpa [Counting.inside] using hti) (by simpa [Counting.inside] using hui)
  · obtain ⟨n, stage⟩ := t
    subst hleaving
    obtain ⟨others, hperm, -⟩ := exists_others ht
    have hheld := (hc.alone hperm rfl).1
    have hunlock : unlock (some c.mutex) = (.ok, some .free) := by rw [hheld]; rfl
    refine ⟨hunlock, _, step_eq_some_iff.mpr (.unlocks n ht), rfl, ?_⟩
    rw [hunlock]

/-- One thread after the other is a schedule that finishes. -/
example :
    let c := (start 3 2).run (inTurn 3 2)
    c.finished = true ∧ c.counter = 6 := by decide

end Contention

end Cryptoki.Mutex
