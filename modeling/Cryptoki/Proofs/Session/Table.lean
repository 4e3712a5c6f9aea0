import Cryptoki.Session.Table
import Mathlib.Data.List.Sort
import Mathlib.Tactic

/-!
What a table of sessions holds, and how it is listed.

A table is read through two lookups: the session under a number, and the user logged in to a slot.
As long as no number occurs twice, everything else follows from them: whether a slot has any
session, and which sessions are listed.
-/

namespace Cryptoki

namespace Assoc

variable {κ α : Type} [DecidableEq κ]

/-- No key occurs twice. -/
def Distinct (m : Assoc κ α) : Prop := (m.map Prod.fst).Nodup

lemma keys_erase (m : Assoc κ α) (k : κ) :
    (m.erase k).map Prod.fst = (m.map Prod.fst).filter (· ≠ k) := by
  induction m with
  | nil => rfl
  | cons e m ih =>
    obtain ⟨l, a⟩ := e
    by_cases hl : l = k
    · simp [erase, hl, ih]
    · simp [erase, hl, ih]

lemma Distinct.erase {m : Assoc κ α} (hm : m.Distinct) (k : κ) : (m.erase k).Distinct := by
  rw [Distinct, keys_erase]
  exact List.Nodup.filter _ hm

lemma Distinct.put {m : Assoc κ α} (hm : m.Distinct) (k : κ) (a : α) : (m.put k a).Distinct := by
  refine List.nodup_cons.mpr ⟨?_, hm.erase k⟩
  rw [keys_erase]
  simp

lemma mem_of_get? {m : Assoc κ α} {k : κ} {a : α} (h : m.get? k = some a) : (k, a) ∈ m := by
  induction m with
  | nil => cases h
  | cons e m ih =>
    obtain ⟨l, b⟩ := e
    rw [get?] at h
    split_ifs at h with hl
    · cases h
      rw [hl]
      exact List.mem_cons_self
    · exact List.mem_cons_of_mem _ (ih h)

/-- With distinct keys the entries are what the lookup finds. -/
lemma Distinct.mem_iff {m : Assoc κ α} (hm : m.Distinct) {k : κ} {a : α} :
    (k, a) ∈ m ↔ m.get? k = some a := by
  refine ⟨fun h => ?_, mem_of_get?⟩
  induction m with
  | nil => cases h
  | cons e m ih =>
    obtain ⟨l, b⟩ := e
    obtain ⟨hnew, hrest⟩ := List.nodup_cons.mp hm
    rw [get?]
    rcases List.mem_cons.mp h with heq | hmem
    · cases heq
      rw [if_pos rfl]
    · have hl : l ≠ k := by
        rintro rfl
        exact hnew (List.mem_map.mpr ⟨_, hmem, rfl⟩)
      rw [if_neg hl]
      exact ih hrest hmem

end Assoc

namespace Sessions

variable {t : Sessions} {slot other : SlotId} {session h : SessionId}

/-! ### Lookups after each change -/

lemma find_eq (t : Sessions) (slot : SlotId) (session : SessionId) :
    t.find slot session = ((t.tracked.get? session).filter fun k => k.slot = slot).map
      (t.describe session) := by
  unfold find
  rcases t.tracked.get? session with _ | k
  · rfl
  · by_cases hk : k.slot = slot <;> simp [hk, Option.filter]

lemma find_isSome : (t.find slot session).isSome ↔
    ∃ readWrite, t.tracked.get? session = some ⟨slot, readWrite⟩ := by
  rw [find_eq]
  rcases t.tracked.get? session with _ | ⟨k, b⟩
  · simp
  · by_cases hk : k = slot <;> simp [hk, Option.filter]

lemma stateOf_eq_authenticated {u : User} :
    t.stateOf slot = .authenticated u ↔ t.logins.get? slot = some u := by
  unfold stateOf
  rcases t.logins.get? slot with _ | v <;> simp

lemma stateOf_eq_unauthenticated :
    t.stateOf slot = .unauthenticated ↔ ∀ u, t.logins.get? slot ≠ some u := by
  unfold stateOf
  rcases t.logins.get? slot with _ | v <;> simp

lemma get?_track (t : Sessions) (session : SessionId) (slot : SlotId) (readWrite : Bool)
    (h : SessionId) : (t.track session slot readWrite).tracked.get? h =
      if h = session then some ⟨slot, readWrite⟩ else t.tracked.get? h := by
  unfold track
  split_ifs with hh
  · rw [hh, Assoc.get?_put_self]
  · exact Assoc.get?_put_of_ne _ _ hh

@[simp] lemma logins_track (t : Sessions) (session : SessionId) (slot : SlotId)
    (readWrite : Bool) : (t.track session slot readWrite).logins = t.logins := rfl

/-- A session that is not one of the slot is not forgotten. -/
lemma forget_of_isNone (hf : (t.find slot session).isSome = false) :
    t.forget slot session = (false, t) := by
  unfold forget
  rcases hfind : t.find slot session with _ | i
  · rfl
  · rw [hfind] at hf
    cases hf

lemma forget_fst (t : Sessions) (slot : SlotId) (session : SessionId) :
    (t.forget slot session).1 = (t.find slot session).isSome := by
  unfold forget
  rcases t.find slot session with _ | i <;> rfl

lemma get?_forget (hf : (t.find slot session).isSome) (h : SessionId) :
    (t.forget slot session).2.tracked.get? h =
      if h = session then none else t.tracked.get? h := by
  obtain ⟨i, hi⟩ := Option.isSome_iff_exists.mp hf
  have htracked : (t.forget slot session).2.tracked = t.tracked.erase session := by
    simp only [forget, hi]
  rw [htracked]
  split_ifs with hh
  · rw [hh, Assoc.get?_erase_self]
  · exact Assoc.get?_erase_of_ne _ hh

lemma distinct_forget (ht : t.tracked.Distinct) (slot : SlotId) (session : SessionId) :
    (t.forget slot session).2.tracked.Distinct := by
  unfold forget
  rcases t.find slot session with _ | i
  · exact ht
  · exact ht.erase session

/-- The login of a slot goes with the last of its sessions. -/
lemma logins_forget (ht : t.tracked.Distinct) (hf : (t.find slot session).isSome)
    (other : SlotId) (u : User) : (t.forget slot session).2.logins.get? other = some u ↔
      t.logins.get? other = some u ∧
        ¬ (other = slot ∧ ∀ h, (t.find slot h).isSome → h = session) := by
  obtain ⟨i, hi⟩ := Option.isSome_iff_exists.mp hf
  have hany : (t.tracked.erase session).any (fun e => e.2.slot = slot) = true ↔
      ∃ h, (t.find slot h).isSome ∧ h ≠ session := by
    rw [List.any_eq_true]
    constructor
    · rintro ⟨⟨h, k, b⟩, hmem, hk⟩
      have hget := (ht.erase session).mem_iff.mp hmem
      have hne : h ≠ session := by
        rintro rfl
        rw [Assoc.get?_erase_self] at hget
        cases hget
      rw [Assoc.get?_erase_of_ne _ hne] at hget
      have hslot : k = slot := by simpa using hk
      exact ⟨h, find_isSome.mpr ⟨b, hslot ▸ hget⟩, hne⟩
    · rintro ⟨h, hsome, hne⟩
      obtain ⟨b, hget⟩ := find_isSome.mp hsome
      rw [← Assoc.get?_erase_of_ne _ hne] at hget
      exact ⟨_, Assoc.mem_of_get? hget, by simp⟩
  have hlogins : (t.forget slot session).2.logins =
      if (t.tracked.erase session).any (fun e => e.2.slot = slot) then t.logins
      else t.logins.erase slot := by
    simp only [forget, hi]
  rw [hlogins]
  split_ifs with hrest
  · obtain ⟨h, hsome, hne⟩ := hany.mp hrest
    exact ⟨fun hu => ⟨hu, fun hc => hne (hc.2 h hsome)⟩, fun hc => hc.1⟩
  · have hall : ∀ h, (t.find slot h).isSome → h = session := by
      intro h hsome
      by_contra hne
      exact hrest (hany.mpr ⟨h, hsome, hne⟩)
    by_cases ho : other = slot
    · subst ho
      rw [Assoc.get?_erase_self]
      constructor
      · intro hc
        cases hc
      · rintro ⟨-, hnot⟩
        exact absurd ⟨rfl, hall⟩ hnot
    · rw [Assoc.get?_erase_of_ne _ ho]
      simp [ho]

lemma logins_logIn (t : Sessions) (slot : SlotId) (user : User) (other : SlotId) :
    (t.logIn slot user).logins.get? other =
      if other = slot ∧ user ≠ .contextSpecific then some user else t.logins.get? other := by
  unfold logIn
  by_cases hu : user = .contextSpecific
  · simp [hu]
  · by_cases ho : other = slot
    · simp [hu, ho, Assoc.get?_put_self]
    · simp [hu, ho, Assoc.get?_put_of_ne]

@[simp] lemma tracked_logIn (t : Sessions) (slot : SlotId) (user : User) :
    (t.logIn slot user).tracked = t.tracked := by
  unfold logIn
  split_ifs <;> rfl

@[simp] lemma tracked_logOut (t : Sessions) (slot : SlotId) :
    (t.logOut slot).tracked = t.tracked := rfl

lemma logins_logOut (t : Sessions) (slot other : SlotId) :
    (t.logOut slot).logins.get? other = if other = slot then none else t.logins.get? other := by
  unfold logOut
  split_ifs with ho
  · rw [ho, Assoc.get?_erase_self]
  · exact Assoc.get?_erase_of_ne _ ho

/-! ### Found sessions -/

lemma exists_get?_of_find (hf : (t.find slot session).isSome) :
    ∃ k, t.tracked.get? session = some k := by
  obtain ⟨readWrite, hget⟩ := find_isSome.mp hf
  exact ⟨_, hget⟩

/-- A session is of one slot only. -/
lemma slot_eq_of_find (hf : (t.find slot session).isSome)
    (hother : (t.find other session).isSome) : other = slot := by
  obtain ⟨readWrite, hget⟩ := find_isSome.mp hf
  obtain ⟨mode, hmode⟩ := find_isSome.mp hother
  rw [hget] at hmode
  cases hmode
  rfl

/-- Logins make no difference to which sessions there are. -/
lemma find_of_tracked {u : Sessions} (htracked : u.tracked = t.tracked) (slot : SlotId)
    (session : SessionId) : (u.find slot session).isSome ↔ (t.find slot session).isSome := by
  rw [find_isSome, find_isSome, htracked]

lemma find_track (readWrite : Bool) (hne : h ≠ session) :
    ((t.track session slot readWrite).find other h).isSome ↔ (t.find other h).isSome := by
  rw [find_isSome, find_isSome, get?_track, if_neg hne]

lemma find_forget (hf : (t.find slot session).isSome) (hne : h ≠ session) :
    ((t.forget slot session).2.find other h).isSome ↔ (t.find other h).isSome := by
  rw [find_isSome, find_isSome, get?_forget hf, if_neg hne]

/-- Every session of a slot is in the state of the slot. -/
lemma state_of_find (hf : (t.find slot session).isSome) :
    (t.find slot session).map SessionInfo.state = some (t.stateOf slot) := by
  obtain ⟨readWrite, hget⟩ := find_isSome.mp hf
  simp [find_eq, hget, Option.filter, describe]

/-! ### Listing -/

/-- The order of a listing. -/
abbrev Before (i j : SessionInfo) : Prop := i.session ≤ j.session

lemma list_eq (t : Sessions) :
    t.list = (t.tracked.map fun e => t.describe e.1 e.2).insertionSort Before := by
  have hplace : place = List.orderedInsert Before := by
    funext i l
    induction l with
    | nil => rfl
    | cons j l ih => rw [place, List.orderedInsert, ih]
  rw [list, hplace]
  rfl

/-- What is listed are the sessions that are found. -/
lemma mem_list (ht : t.tracked.Distinct) {i : SessionInfo} :
    i ∈ t.list ↔ t.tracked.get? i.session = some ⟨i.slot, i.readWrite⟩ ∧
      i.state = t.stateOf i.slot := by
  rw [list_eq, List.mem_insertionSort, List.mem_map]
  constructor
  · rintro ⟨⟨h, k⟩, hmem, rfl⟩
    exact ⟨ht.mem_iff.mp hmem, rfl⟩
  · rintro ⟨hget, hstate⟩
    refine ⟨(i.session, ⟨i.slot, i.readWrite⟩), ht.mem_iff.mpr hget, ?_⟩
    obtain ⟨session, slot, readWrite, state⟩ := i
    simp only at hstate
    rw [hstate]
    rfl

/-- A listing is in the order of the numbers, and no number comes twice. -/
lemma pairwise_list (ht : t.tracked.Distinct) :
    t.list.Pairwise fun i j => i.session < j.session := by
  have htotal : Std.Total Before := ⟨fun i j => UInt64.le_total i.session j.session⟩
  have htrans : IsTrans SessionInfo Before := ⟨fun _ _ _ => UInt64.le_trans⟩
  have hsorted : t.list.Pairwise Before := by
    rw [list_eq]
    exact List.pairwise_insertionSort Before _
  have hnodup : (t.list.map SessionInfo.session).Nodup := by
    rw [list_eq, ((List.perm_insertionSort Before _).map SessionInfo.session).nodup_iff,
      List.map_map]
    exact ht
  have hne : t.list.Pairwise fun i j => i.session ≠ j.session := List.pairwise_map.mp hnodup
  exact hsorted.imp₂ (fun _ _ hle hne => UInt64.lt_of_le_of_ne hle hne) hne

end Sessions

end Cryptoki
