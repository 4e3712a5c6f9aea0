import Cryptoki.Proofs.Module.Requests
import Cryptoki.Proofs.Module.Stranding

/-!
Listing the slots of a library that changes meanwhile.

A list is fetched by two calls, of which the first asks for the number of slots and the second for
the slots themselves. What the library has to list may be another matter at each call. The first
attempt in which the list has not grown between the two settles it, and then it is listed as it was
at the second call.
-/

namespace Cryptoki

open Program

/-- What a library makes of a call for its slots: these are there to be listed, or it fails with a
code. -/
abbrev Roster := Except Code (List SlotId)

namespace Roster

/-- The number that is told of the slots. -/
def number : Roster → Word
  | .ok ids => UInt64.ofNat ids.length
  | .error _ => 0

/-- There are more slots than were counted. -/
def Outgrows (found counted : Roster) : Prop :=
  ∃ ids more, counted = .ok ids ∧ found = .ok more ∧ ids.length < more.length

end Roster

/-- What the convention of two calls has a library answer: without a list it tells the number of its
slots, and into a list it writes them all, unless there is no room for them. It says that there is
no room in no other case. -/
def Call.Conventional : Roster → (c : Call) → c.Answer → Prop
  | .ok ids, .getSlotList _ false _, told =>
    ids.length < UInt64.size ∧ told = ⟨.ok, some ⟨[], UInt64.ofNat ids.length⟩⟩
  | .ok ids, .getSlotList _ true (some room), told =>
    ids.length < UInt64.size ∧
      if room.toNat < ids.length then told.code = .bufferTooSmall
      else told = ⟨.ok, some ⟨ids, UInt64.ofNat ids.length⟩⟩
  | .error code, .getSlotList _ list _, told =>
    told.code = code ∧ code ≠ .ok ∧ (list = true → code ≠ .bufferTooSmall)
  | _, _, _ => True

/-- The deed is a call that was answered by the convention. -/
def Deed.Conventional (roster : Roster) : Deed → Prop
  | .asked (.call _ c) told => c.Conventional roster told
  | _ => True

namespace Module

variable {σ : Type} {m : Module} {flag : UInt8} {attempts : ℕ} {L : ℕ → Roster}

/-- The k-th call of a listing: each count is followed by a call with room for as many slots. -/
def listing (m : Module) (flag : UInt8) (L : ℕ → Roster) (k : ℕ) : Request :=
  .call m.id (if k % 2 = 0 then .getSlotList flag false (some 0)
    else .getSlotList flag true (some (L (k - 1)).number))

/-- In the first so many attempts the list has grown. -/
def Outgrown (L : ℕ → Roster) (attempts : ℕ) : Prop :=
  ∀ a < attempts, (L (2 * a + 1)).Outgrows (L (2 * a))

/-- The number of calls and the answer of a listing in so many attempts, by a library that has `L k`
to list at the k-th call. -/
inductive Settled (m : Module) (L : ℕ → Roster) (attempts : ℕ) :
    ℕ → Except Fault (List SlotId) → Prop
  | listed {a : ℕ} {counted ids : List SlotId} (ha : a < attempts) (hgrown : Outgrown L a)
      (hcounted : L (2 * a) = .ok counted) (hids : L (2 * a + 1) = .ok ids)
      (hfits : ids.length ≤ counted.length) : Settled m L attempts (2 * a + 2) (.ok ids)
  | uncounted {a : ℕ} {code : Code} (ha : a < attempts) (hgrown : Outgrown L a)
      (hcode : L (2 * a) = .error code) :
      Settled m L attempts (2 * a + 1) (.error (failed m.name .getSlotList code))
  | unlisted {a : ℕ} {counted : List SlotId} {code : Code} (ha : a < attempts)
      (hgrown : Outgrown L a) (hcounted : L (2 * a) = .ok counted)
      (hcode : L (2 * a + 1) = .error code) :
      Settled m L attempts (2 * a + 2) (.error (failed m.name .getSlotList code))
  | outgrown (hgrown : Outgrown L attempts) : Settled m L attempts (2 * attempts)
      (.error (failed m.name .getSlotList .bufferTooSmall))

/-! ### One attempt -/

lemma listed_of_fits {room : Word} {ids : List SlotId} (hlt : ids.length < UInt64.size)
    (hfits : ids.length ≤ room.toNat) :
    listed room (some ⟨ids, UInt64.ofNat ids.length⟩) = ids := by
  have hcount : (UInt64.ofNat ids.length).toNat = ids.length := UInt64.toNat_ofNat_of_lt' hlt
  have hkept : min room.toNat ids.length = ids.length := Nat.min_eq_right hfits
  simp only [listed, Option.getD_some, hcount, hkept, List.take_length, Nat.sub_self,
    List.replicate_zero, List.append_nil]

/-- A count that succeeds tells the number of the slots. -/
lemma counted_of_conventional {roster : Roster} {counted : Reply SlotListing}
    (h : (m.counting flag counted).Conventional roster) (hcode : counted.code = .ok) :
    ∃ ids, roster = .ok ids ∧ room counted = roster.number ∧ roster.number.toNat = ids.length := by
  rcases roster with code | ids
  · obtain ⟨rfl, hne, -⟩ := h
    exact absurd hcode hne
  · obtain ⟨hlt, rfl⟩ := h
    exact ⟨ids, rfl, rfl, UInt64.toNat_ofNat_of_lt' hlt⟩

/-- A count that fails is a failure of the library. -/
lemma uncounted_of_conventional {roster : Roster} {counted : Reply SlotListing}
    (h : (m.counting flag counted).Conventional roster) (hcode : counted.code ≠ .ok) :
    roster = .error counted.code := by
  rcases roster with code | ids
  · obtain ⟨rfl, -⟩ := h
    rfl
  · obtain ⟨hlt, rfl⟩ := h
    exact absurd rfl hcode

/-- A list that was written in full is what is listed. -/
lemma listed_of_conventional {roster : Roster} {room : Word} {filled : Reply SlotListing}
    (h : (m.filling flag room filled).Conventional roster) (hcode : filled.code = .ok) :
    ∃ ids, roster = .ok ids ∧ ids.length ≤ room.toNat ∧
      Module.listed room filled.written = ids := by
  rcases roster with code | ids
  · obtain ⟨rfl, hne, -⟩ := h
    exact absurd hcode hne
  · obtain ⟨hlt, htold⟩ := h
    split_ifs at htold with hsmall
    · rw [hcode] at htold
      cases htold
    · have hfits : ids.length ≤ room.toNat := not_lt.mp hsmall
      subst htold
      exact ⟨ids, rfl, hfits, listed_of_fits hlt hfits⟩

/-- There is no room only for more slots. -/
lemma outgrown_of_conventional {roster : Roster} {room : Word} {filled : Reply SlotListing}
    (h : (m.filling flag room filled).Conventional roster) (hcode : filled.code = .bufferTooSmall) :
    ∃ ids, roster = .ok ids ∧ room.toNat < ids.length := by
  rcases roster with code | ids
  · obtain ⟨rfl, -, hne⟩ := h
    exact absurd hcode (hne rfl)
  · obtain ⟨hlt, htold⟩ := h
    split_ifs at htold with hsmall
    · exact ⟨ids, rfl, hsmall⟩
    · subst htold
      cases hcode

/-- Any other failure is one of the library. -/
lemma unlisted_of_conventional {roster : Roster} {room : Word} {filled : Reply SlotListing}
    (h : (m.filling flag room filled).Conventional roster) (hcode : filled.code ≠ .ok)
    (hroom : filled.code ≠ .bufferTooSmall) : roster = .error filled.code := by
  rcases roster with code | ids
  · obtain ⟨rfl, -⟩ := h
    rfl
  · obtain ⟨hlt, htold⟩ := h
    split_ifs at htold
    · exact absurd htold hroom
    · subst htold
      exact absurd rfl hcode

/-! ### All attempts -/

lemma outgrown_zero (L : ℕ → Roster) : Outgrown L 0 := fun a ha => absurd ha (Nat.not_lt_zero a)

lemma outgrown_succ (hfirst : (L 1).Outgrows (L 0)) {a : ℕ}
    (hrest : Outgrown (fun k => L (k + 2)) a) : Outgrown L (a + 1) := by
  intro b hb
  rcases b with _ | b
  · exact hfirst
  · exact hrest b (by omega)

/-- An attempt in which the list has grown comes before the others. -/
lemma Settled.grown {n : ℕ} {r : Except Fault (List SlotId)} (hfirst : (L 1).Outgrows (L 0))
    (h : Settled m (fun k => L (k + 2)) attempts n r) : Settled m L (attempts + 1) (n + 2) r := by
  cases h with
  | listed ha hgrown hcounted hids hfits =>
    exact .listed (Nat.succ_lt_succ ha) (outgrown_succ hfirst hgrown) hcounted hids hfits
  | uncounted ha hgrown hcode =>
    exact .uncounted (Nat.succ_lt_succ ha) (outgrown_succ hfirst hgrown) hcode
  | unlisted ha hgrown hcounted hcode =>
    exact .unlisted (Nat.succ_lt_succ ha) (outgrown_succ hfirst hgrown) hcounted hcode
  | outgrown hgrown => exact .outgrown (outgrown_succ hfirst hgrown)

lemma listing_add_two (k : ℕ) :
    m.listing flag L (k + 2) = m.listing flag (fun k => L (k + 2)) k := by
  rw [listing, listing, Nat.add_mod_right]
  split_ifs with heven
  · rfl
  · have hodd : k + 2 - 1 = k - 1 + 2 := by omega
    rw [hodd]

lemma listings_add_two (n : ℕ) : (List.range (n + 2)).map (m.listing flag L) =
    m.listing flag L 0 :: m.listing flag L 1 ::
      (List.range n).map (m.listing flag fun k => L (k + 2)) := by
  rw [List.range_succ_eq_map, List.range_succ_eq_map]
  simp only [List.map_cons, List.map_map]
  congr 3
  funext k
  exact listing_add_two k

/-- **A list that is fetched by the convention** is settled by what the library had to list. -/
lemma Fetched.settled {d : List Deed} {r : Except Fault (List SlotId)}
    (h : Fetched m flag attempts d r)
    (hlib : ∀ k (x : Deed), d[k]? = some x → x.Conventional (L k)) :
    ∃ n, d.map Deed.request? = ((List.range n).map (m.listing flag L)).map some ∧
      Settled m L attempts n r := by
  -- The library goes on from what it has to list two calls later, so the induction is over all of
  -- its futures.
  induction h generalizing L with
  | exhausted => exact ⟨0, rfl, .outgrown (outgrown_zero L)⟩
  | uncounted attempts counted hcounted =>
    have hcount : (m.counting flag counted).Conventional (L 0) := hlib 0 _ rfl
    exact ⟨1, rfl, .uncounted (Nat.succ_pos _) (outgrown_zero L)
      (uncounted_of_conventional hcount hcounted)⟩
  | filled attempts counted filled hcounted hfilled =>
    have hcount : (m.counting flag counted).Conventional (L 0) := hlib 0 _ rfl
    have hfill : (m.filling flag (room counted) filled).Conventional (L 1) := hlib 1 _ rfl
    obtain ⟨before, hbefore, hroom, hnumber⟩ := counted_of_conventional hcount hcounted
    obtain ⟨ids, hids, hfits, hlisted⟩ := listed_of_conventional hfill hfilled
    rw [hroom] at hfits hlisted ⊢
    rw [hlisted]
    exact ⟨2, rfl, .listed (Nat.succ_pos _) (outgrown_zero L) hbefore hids (hnumber ▸ hfits)⟩
  | grown counted filled hcounted hfilled hrest ih =>
    have hcount : (m.counting flag counted).Conventional (L 0) := hlib 0 _ rfl
    have hfill : (m.filling flag (room counted) filled).Conventional (L 1) := hlib 1 _ rfl
    obtain ⟨before, hbefore, hroom, hnumber⟩ := counted_of_conventional hcount hcounted
    obtain ⟨ids, hids, hmore⟩ := outgrown_of_conventional hfill hfilled
    rw [hroom, hnumber] at hmore
    obtain ⟨n, hcalls, hsettled⟩ := ih (L := fun k => L (k + 2)) fun k x hx => hlib (k + 2) x hx
    refine ⟨n + 2, ?_, hsettled.grown ⟨before, ids, hbefore, hids, hmore⟩⟩
    rw [listings_add_two, List.map_cons, List.map_cons, List.map_cons, List.map_cons, hcalls,
      hroom]
    rfl
  | unfilled attempts counted filled hcounted hfilled hgrown =>
    have hcount : (m.counting flag counted).Conventional (L 0) := hlib 0 _ rfl
    have hfill : (m.filling flag (room counted) filled).Conventional (L 1) := hlib 1 _ rfl
    obtain ⟨before, hbefore, hroom, hnumber⟩ := counted_of_conventional hcount hcounted
    rw [hroom]
    exact ⟨2, rfl, .unlisted (Nat.succ_pos _) (outgrown_zero L) hbefore
      (unlisted_of_conventional hfill hfilled hgrown)⟩

end Module

/-! ### The library in memory -/

namespace Simulated

/-- The library after it was asked for its slots. -/
def Timeline.noteListing (t : Timeline) : Timeline :=
  { t with library.calls.getSlotList := t.library.calls.getSlotList + 1 }

@[simp] lemma Timeline.behaviour_noteListing (t : Timeline) :
    t.noteListing.library.behaviour = t.library.behaviour := rfl

@[simp] lemma Timeline.running_noteListing (t : Timeline) :
    t.noteListing.library.running = t.library.running := rfl

variable {t : Timeline} (j : ModuleId) (flag : UInt8)

lemma answer_count (hrunning : t.library.running) :
    environment.answer (.call j (.getSlotList flag false (some 0))) t =
      (⟨.ok, some ⟨[], UInt64.ofNat (listedSlots t.library.behaviour flag).length⟩⟩,
        t.noteListing) := by
  show ((getSlotList flag false (some 0) t.library).1, t.noteListing) = _
  simp [getSlotList, hrunning]

lemma answer_fill {room : Word} (hrunning : t.library.running)
    (hroom : room.toNat = (listedSlots t.library.behaviour flag).length) :
    environment.answer (.call j (.getSlotList flag true (some room))) t =
      (⟨.ok, some ⟨listedSlots t.library.behaviour flag,
        UInt64.ofNat (listedSlots t.library.behaviour flag).length⟩⟩, t.noteListing) := by
  show ((getSlotList flag true (some room) t.library).1, t.noteListing) = _
  simp [getSlotList, hrunning, hroom]

lemma listedSlots_eq (b : Behaviour) (tokenPresent : Bool) :
    listedSlots b (if tokenPresent then 1 else 0) =
      (b.places.filter fun p => !tokenPresent || p.label.isSome).map Place.id := by
  cases tokenPresent <;> simp [listedSlots]

lemma length_listedSlots_le (b : Behaviour) : (listedSlots b flag).length ≤ b.places.length := by
  rw [listedSlots, List.length_map]
  exact List.length_filter_le _ _

end Simulated

namespace Module

open Simulated in
/-- The library in memory lists its slots in their order. -/
lemma run_slotList_simulated (m : Module) (tokenPresent : Bool) {w : World Timeline}
    (hprovided : m.functions.provides .getSlotList) (hrunning : w.outside.library.running)
    (hfits : w.outside.library.behaviour.places.length < UInt64.size) :
    (m.slotList tokenPresent).run environment w =
      (.ok ((w.outside.library.behaviour.places.filter fun p =>
          !tokenPresent || p.label.isSome).map Place.id),
        { w with outside := w.outside.noteListing.noteListing }) := by
  have hlt : (listedSlots w.outside.library.behaviour
      (if tokenPresent then 1 else 0)).length < UInt64.size :=
    (length_listedSlots_le _ _).trans_lt hfits
  have hroom := UInt64.toNat_ofNat_of_lt' hlt
  rw [slotList, if_pos hprovided, ← listedSlots_eq]
  generalize (if tokenPresent then 1 else 0 : UInt8) = flag at hlt hroom ⊢
  rw [listAttempts, fetchSlots, run_bind, run_call, answer_count m.id flag hrunning]
  dsimp only
  rw [if_neg (not_not.mpr rfl), run_bind, run_call, Option.getD_some,
    answer_fill m.id flag ((Timeline.running_noteListing _).trans hrunning) hroom]
  dsimp only
  rw [if_pos rfl, run_pure, Timeline.behaviour_noteListing, listed_of_fits hlt hroom.ge]

/-- **Slots are listed as they are** at the first attempt in which there are no more of them than
were counted, whatever the library has to list at each call: in full, in order and with nothing in
the places that are left over. The attempts are given up after the third in which the list has
grown, and any failure of the library ends them at once. The library in memory has its slots listed
in their order, on demand only those with a token, if a word can count them. -/
theorem slotList_settled :
    (∀ {σ : Type} (env : Environment σ) (m : Module) (tokenPresent : Bool) (w : World σ)
        (L : ℕ → Roster), m.functions.provides .getSlotList →
      (∀ (k : ℕ) (d : Deed), ((m.slotList tokenPresent).asked env w)[k]? = some d →
        d.Conventional (L k)) →
        ∃ calls, (m.slotList tokenPresent).requests env w =
            (List.range calls).map (m.listing (if tokenPresent then 1 else 0) L) ∧
          Settled m L 3 calls ((m.slotList tokenPresent).run env w).1) ∧
    ∀ (m : Module) (tokenPresent : Bool) (w : World Simulated.Timeline),
      m.functions.provides .getSlotList → w.outside.library.running →
        w.outside.library.behaviour.places.length < UInt64.size →
          ((m.slotList tokenPresent).run Simulated.environment w).1 =
            .ok ((w.outside.library.behaviour.places.filter fun p =>
              !tokenPresent || p.label.isSome).map Simulated.Place.id) := by
  refine ⟨fun env m tokenPresent w L hprovided hlib => ?_,
    fun m tokenPresent w hprovided hrunning hfits => ?_⟩
  · obtain ⟨hlacks, -⟩ | hfetched := listed_slotList env m tokenPresent w
    · rw [hprovided] at hlacks
      cases hlacks
    · obtain ⟨calls, hcalls, hsettled⟩ := hfetched.settled hlib
      refine ⟨calls, ?_, hsettled⟩
      rw [requests_eq_asked]
      exact Deed.requests_of_map hcalls
  · rw [run_slotList_simulated m tokenPresent hprovided hrunning hfits]

/-! ### A list that grows and then shrinks -/

/-- A second slot is there after the first count, and the first slot is gone after the second. -/
def fickle : ℕ → Roster
  | 0 => .ok [1]
  | 1 | 2 => .ok [1, 2]
  | _ => .ok [2]

/-- The script of a library with these slots. -/
def fickleScript : Scripted.State :=
  { issuing [] with
    codes := [(.getSlotList, [.ok, .bufferTooSmall])]
    listings := [⟨[1], 1⟩, ⟨[1, 2], 2⟩, ⟨[1, 2], 2⟩, ⟨[2], 1⟩] }

lemma conventional_fickle (k : ℕ) (d : Deed)
    (hd : ((simulated.slotList true).asked Scripted.environment (.initial fickleScript))[k]? =
      some d) : d.Conventional (fickle k) := by
  have hasked : (simulated.slotList true).asked Scripted.environment (.initial fickleScript) =
      [simulated.counting 1 ⟨.ok, some ⟨[], 1⟩⟩,
        simulated.filling 1 1 ⟨.bufferTooSmall, some ⟨[1], 2⟩⟩,
        simulated.counting 1 ⟨.ok, some ⟨[], 2⟩⟩,
        simulated.filling 1 2 ⟨.ok, some ⟨[2], 1⟩⟩] := rfl
  rw [hasked] at hd
  rcases k with _ | _ | _ | _ | k
  · cases hd
    exact ⟨by decide, rfl⟩
  · cases hd
    exact ⟨by decide, rfl⟩
  · cases hd
    exact ⟨by decide, rfl⟩
  · cases hd
    exact ⟨by decide, rfl⟩
  · cases hd

/-- The hypotheses hold of a list that grows during the first attempt and shrinks during the second,
and of the library in memory after a load. -/
theorem slotList_settled_of_growing_and_shrinking :
    simulated.functions.provides .getSlotList ∧
      (∀ (k : ℕ) (d : Deed), ((simulated.slotList true).asked Scripted.environment
        (.initial fickleScript))[k]? = some d → d.Conventional (fickle k)) ∧
      ((simulated.slotList true).requests Scripted.environment
        (.initial fickleScript)).length = 4 ∧
      Settled simulated fickle 3 4 (.ok [2]) ∧
      loaded.2.outside.library.running ∧
      loaded.2.outside.library.behaviour.places.length < UInt64.size ∧
      ((simulated.slotList true).run Simulated.environment loaded.2).1 = .ok [0] := by
  obtain ⟨calls, hcalls, hsettled⟩ := slotList_settled.1 Scripted.environment simulated true
    (.initial fickleScript) fickle rfl conventional_fickle
  have hlength := congrArg List.length hcalls
  rw [List.length_map, List.length_range] at hlength
  obtain rfl : 4 = calls := hlength
  exact ⟨rfl, conventional_fickle, rfl, hsettled, rfl, by decide,
    slotList_settled.2 simulated true loaded.2 rfl rfl (by decide)⟩

end Module

end Cryptoki
