import Cryptoki.Proofs.Module.Listing

/-!
Waiting for a slot.

A library that can report slot events is asked once and its word is taken. Any other is looked at
again and again, each time after a sleep, in which anything may happen to it. The first look that
shows a slot with a token ends the wait, and so does one that fails; until then it goes on.
-/

namespace Cryptoki

open Program

namespace Module

variable {σ : Type} (env : Environment σ) (m : Module)

/-! ### Slot events -/

/-- Asking for a slot event. -/
abbrev awaiting (m : Module) : Request := .call m.id (.waitForSlotEvent 0 true)

/-- What the library reports of slot events, if it can be asked. -/
def event? (w : World σ) : Option (Reply SlotId) :=
  if m.functions.provides .waitForSlotEvent then some (env.answer m.awaiting w.outside).1 else none

/-- What is asked before any polling. -/
def awaited : List Request :=
  if m.functions.provides .waitForSlotEvent then [m.awaiting] else []

/-- The world in which polling begins. -/
def alerted (w : World σ) : World σ where
  process := w.process
  outside :=
    if m.functions.provides .waitForSlotEvent then (env.answer m.awaiting w.outside).2
    else w.outside
  journal := ⟨.info, .slot,
    "PKCS#11 module " ++ m.name ++ " cannot report slot events, polling for a token"⟩ :: w.journal

/-! ### Looking again and again -/

/-- The world after a sleep. -/
def slept (w : World σ) : World σ := { w with outside := (env.answer .sleep w.outside).2 }

/-- The world after so many looks at the slots, each after a sleep. -/
def looked (w : World σ) : ℕ → World σ
  | 0 => w
  | k + 1 => ((m.slotList true).run env (slept env (looked w k))).2

/-- The slots with a token that are seen after so many looks and one more sleep. -/
def sight (w : World σ) (k : ℕ) : Except Fault (List SlotId) :=
  ((m.slotList true).run env (slept env (m.looked env w k))).1

/-- What is asked in so many looks. -/
def glances (w : World σ) (n : ℕ) : List Request :=
  (List.range n).flatMap fun k =>
    .sleep :: (m.slotList true).requests env (slept env (m.looked env w k))

/-- In so many looks there was no slot with a token. -/
def InVain (w : World σ) (n : ℕ) : Prop := ∀ k < n, m.sight env w k = .ok []

variable {env m} {w : World σ} {n : ℕ}

lemma glances_succ (n : ℕ) : m.glances env w (n + 1) = m.glances env w n ++
    .sleep :: (m.slotList true).requests env (slept env (m.looked env w n)) := by
  rw [glances, List.range_succ, List.flatMap_append, List.flatMap_singleton]
  rfl

lemma run_sleep : (ask .sleep : Program Unit).run env w = ((), slept env w) := rfl

lemma requests_sleep : (ask .sleep : Program Unit).requests env w = [.sleep] := rfl

/-- A look that shows no slot leaves the rest of the wait to be done. -/
lemma poll_of_empty (hsight : m.sight env w n = .ok []) (patience : ℕ) :
    (m.poll (patience + 1)).run env (m.looked env w n) =
        (m.poll patience).run env (m.looked env w (n + 1)) ∧
      (m.poll (patience + 1)).requests env (m.looked env w n) =
        .sleep :: (m.slotList true).requests env (slept env (m.looked env w n)) ++
          (m.poll patience).requests env (m.looked env w (n + 1)) := by
  rw [sight] at hsight
  rw [poll, looked, run_bind, requests_bind, run_sleep, requests_sleep, run_bind, requests_bind,
    hsight]
  exact ⟨rfl, rfl⟩

/-- Any other look ends the wait. -/
lemma poll_of_not_empty (hsight : m.sight env w n ≠ .ok []) (patience : ℕ) :
    ((m.poll (patience + 1)).run env (m.looked env w n)).1 =
        (m.sight env w n).map List.head? ∧
      (m.poll (patience + 1)).requests env (m.looked env w n) =
        .sleep :: (m.slotList true).requests env (slept env (m.looked env w n)) := by
  rw [poll, run_bind, requests_bind, run_sleep, requests_sleep, run_bind, requests_bind]
  rw [sight] at hsight ⊢
  generalize (m.slotList true).run env (slept env (m.looked env w n)) = r at hsight ⊢
  obtain ⟨f | _ | ⟨id, rest⟩, v⟩ := r
  · exact ⟨rfl, congrArg (Request.sleep :: ·) (List.append_nil _)⟩
  · exact absurd rfl hsight
  · exact ⟨rfl, congrArg (Request.sleep :: ·) (List.append_nil _)⟩

/-- After looks in vain the rest of the patience is left. -/
lemma poll_of_inVain (h : m.InVain env w n) (patience : ℕ) :
    (m.poll (n + patience)).run env w = (m.poll patience).run env (m.looked env w n) ∧
      (m.poll (n + patience)).requests env w =
        m.glances env w n ++ (m.poll patience).requests env (m.looked env w n) := by
  -- The looks are taken from the end: the last one takes one more of the patience that is left.
  induction n generalizing patience with
  | zero => simp [looked, glances]
  | succ n ih =>
    obtain ⟨hrun, hrequests⟩ := ih (fun k hk => h k (Nat.lt_succ_of_lt hk)) (patience + 1)
    obtain ⟨hnext, hmore⟩ := poll_of_empty (h n (Nat.lt_succ_self n)) patience
    have hsum : n + 1 + patience = n + (patience + 1) := by omega
    rw [hsum, hrun, hrequests, hnext, hmore, glances_succ, List.append_assoc]
    exact ⟨rfl, rfl⟩

/-- Polling that is in vain goes on. -/
lemma poll_goes_on (h : m.InVain env w n) : ((m.poll n).run env w).1 = .ok none ∧
    (m.poll n).requests env w = m.glances env w n := by
  obtain ⟨hrun, hrequests⟩ := poll_of_inVain h 0
  rw [Nat.add_zero] at hrun hrequests
  rw [hrun, hrequests]
  exact ⟨rfl, List.append_nil _⟩

/-- Polling ends with the first look that is not in vain, however much patience is left. -/
lemma poll_ends (h : m.InVain env w n) (hsight : m.sight env w n ≠ .ok []) {patience : ℕ}
    (hpatience : n < patience) :
    ((m.poll patience).run env w).1 = (m.sight env w n).map List.head? ∧
      (m.poll patience).requests env w = m.glances env w (n + 1) := by
  obtain ⟨rest, rfl⟩ := Nat.exists_eq_add_of_lt hpatience
  obtain ⟨hrun, hrequests⟩ := poll_of_inVain h (rest + 1)
  obtain ⟨hanswer, hlook⟩ := poll_of_not_empty hsight rest
  rw [Nat.add_assoc, hrun, hrequests, hanswer, hlook, glances_succ]
  exact ⟨rfl, rfl⟩

/-! ### How often there is a sleep -/

lemma sleep_not_mem_fetched {flag : UInt8} {attempts : ℕ} {d : List Deed}
    {r : Except Fault (List SlotId)} (h : Fetched m flag attempts d r) :
    Request.sleep ∉ d.filterMap Deed.request? := by
  induction h with
  | grown counted filled hcounted hfilled hrest ih => simpa [Deed.request?] using ih
  | _ => simp [Deed.request?]

lemma count_sleep_slotList (tokenPresent : Bool) (w : World σ) :
    ((m.slotList tokenPresent).requests env w).count .sleep = 0 := by
  rw [requests_eq_asked, List.count_eq_zero]
  obtain ⟨-, hasked, -⟩ | hfetched := listed_slotList env m tokenPresent w
  · rw [hasked]
    exact List.not_mem_nil
  · exact sleep_not_mem_fetched hfetched

lemma count_sleep_awaited : m.awaited.count .sleep = 0 := by
  rw [awaited]
  split_ifs <;> rfl

/-- There is one sleep to a look. -/
lemma count_sleep_glances (n : ℕ) : (m.glances env w n).count .sleep = n := by
  induction n with
  | zero => rfl
  | succ n ih =>
    rw [glances_succ, List.count_append, ih, List.count_cons_self, count_sleep_slotList]

/-! ### The wait -/

/-- An event that is reported ends the wait. -/
lemma waitForSlot_of_reported {e : Reply SlotId} (he : m.event? env w = some e)
    (hcode : e.code = .ok) (patience : ℕ) :
    ((m.waitForSlot patience).run env w).1 = .ok (some (e.written.getD 0)) ∧
      (m.waitForSlot patience).requests env w = [m.awaiting] := by
  rw [event?] at he
  split_ifs at he with hprovided
  obtain rfl := Option.some.inj he
  rw [waitForSlot, if_pos hprovided, run_bind, requests_bind, run_call, requests_call]
  dsimp only
  rw [if_pos hcode]
  exact ⟨rfl, rfl⟩

/-- So does a failure, unless it is that events cannot be reported. -/
lemma waitForSlot_of_failed {e : Reply SlotId} (he : m.event? env w = some e) (hcode : e.code ≠ .ok)
    (hevents : e.code ≠ .functionNotSupported) (patience : ℕ) :
    ((m.waitForSlot patience).run env w).1 = .error (failed m.name .waitForSlotEvent e.code) ∧
      (m.waitForSlot patience).requests env w = [m.awaiting] := by
  rw [event?] at he
  split_ifs at he with hprovided
  obtain rfl := Option.some.inj he
  rw [waitForSlot, if_pos hprovided, run_bind, requests_bind, run_call, requests_call]
  dsimp only
  rw [if_neg hcode, if_neg hevents]
  exact ⟨rfl, rfl⟩

/-- Where events cannot be reported, the slots are polled. -/
lemma waitForSlot_of_eventless (h : ∀ e, m.event? env w = some e → e.code = .functionNotSupported)
    (patience : ℕ) :
    ((m.waitForSlot patience).run env w).1 = ((m.poll patience).run env (m.alerted env w)).1 ∧
      (m.waitForSlot patience).requests env w =
        m.awaited ++ (m.poll patience).requests env (m.alerted env w) := by
  rw [waitForSlot, awaited, alerted]
  split_ifs with hprovided
  · have hcode := h _ (if_pos hprovided)
    rw [run_bind, requests_bind, run_call, requests_call]
    dsimp only
    rw [if_neg (by rw [hcode]; decide), if_pos hcode]
    exact ⟨rfl, rfl⟩
  · exact ⟨rfl, rfl⟩

end Module

end Cryptoki
