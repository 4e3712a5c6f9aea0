import Cryptoki.Proofs.Module.Listing
import Cryptoki.Proofs.Text.Fields

/-!
Looking a slot up by the label of its token.

The tokens of the slots that are listed are asked for in turn. A token that bears the label ends the
search, and so does a failure, unless it is that the token has gone by then. The library in memory
writes the label of a token into a field of fixed size, so what is looked for is what can be read
back from there.
-/

namespace Cryptoki

open Program

namespace Module

variable {σ : Type} {m : Module} {label : String} {id : SlotId}

/-- The label of a token as a library tells it. -/
def labelOf (told : Reply Record.Token) : String :=
  (TokenInfo.ofRecord (told.written.getD .blank)).label

/-- What was told of a token does not end the search: the token bears another label, or it has gone
by now. -/
def PassesOver (label : String) (told : Reply Record.Token) : Prop :=
  (told.code = .ok ∧ labelOf told ≠ label) ∨ told.code = .tokenNotPresent

/-- The token in each of the slots was asked for, in this order, and none ended the search. -/
inductive Passed (m : Module) (label : String) : List SlotId → List Deed → Prop
  | nil : Passed m label [] []
  | cons {id : SlotId} {ids : List SlotId} {told : Reply Record.Token} {d : List Deed}
      (hpasses : PassesOver label told) (hrest : Passed m label ids d) :
      Passed m label (id :: ids) (m.inspecting id told :: d)

/-- The search ended at the slot: its token bears the label, or could not be asked for. -/
inductive Stops (m : Module) (label : String) (id : SlotId) :
    List Deed → Except Fault (Option SlotId) → Prop
  | bears (told : Reply Record.Token) (hcode : told.code = .ok) (hlabel : labelOf told = label) :
      Stops m label id [m.inspecting id told] (.ok (some id))
  | fails (told : Reply Record.Token) (hcode : told.code ≠ .ok)
      (hgone : told.code ≠ .tokenNotPresent) :
      Stops m label id [m.inspecting id told]
        (.error (.pkcs11 told.code s!"C_GetTokenInfo for PKCS#11 slot {id} failed"))
  | lacks (hlacks : m.functions.provides .getTokenInfo = false) :
      Stops m label id [] (.error (m.notProvided .getTokenInfo))

/-- The search went past all of the slots, or past some to one at which it ended. -/
def Scanned (m : Module) (label : String) (ids : List SlotId) (d : List Deed)
    (r : Except Fault (Option SlotId)) : Prop :=
  (Passed m label ids d ∧ r = .ok none) ∨
    ∃ before id after e last, ids = before ++ id :: after ∧ d = e ++ last ∧
      Passed m label before e ∧ Stops m label id last r

lemma Stops.ne_none {d : List Deed} {r : Except Fault (Option SlotId)}
    (h : Stops m label id d r) : r ≠ .ok none := by
  cases h <;> simp

/-- Slots that were passed over come before the others. -/
lemma Scanned.passed {ids : List SlotId} {d : List Deed} {r : Except Fault (Option SlotId)}
    {told : Reply Record.Token} (hpasses : PassesOver label told) (h : Scanned m label ids d r) :
    Scanned m label (id :: ids) (m.inspecting id told :: d) r := by
  obtain ⟨hpassed, hnone⟩ | ⟨before, last, after, e, d, rfl, rfl, hpassed, hstops⟩ := h
  · exact .inl ⟨.cons hpasses hpassed, hnone⟩
  · exact .inr ⟨id :: before, last, after, _ :: e, d, rfl, rfl, .cons hpasses hpassed, hstops⟩

/-- The search ended at the first slot. -/
lemma Stops.scanned {d : List Deed} {r : Except Fault (Option SlotId)} (h : Stops m label id d r)
    (after : List SlotId) : Scanned m label (id :: after) d r :=
  .inr ⟨[], id, after, [], d, rfl, rfl, .nil, h⟩

lemma Searched.scanned {ids : List SlotId} {d : List Deed} {r : Except Fault (Option SlotId)}
    (h : Searched m label ids d r) : Scanned m label ids d r := by
  induction h with
  | nowhere => exact .inl ⟨.nil, rfl⟩
  | unprovided id rest hlacks => exact (Stops.lacks hlacks).scanned rest
  | found id rest told hcode hlabel => exact (Stops.bears told hcode hlabel).scanned rest
  | other id told hcode hlabel hrest ih => exact ih.passed (.inl ⟨hcode, hlabel⟩)
  | gone id told hcode hrest ih => exact ih.passed (.inr hcode)
  | failed id rest told hcode hgone => exact (Stops.fails told hcode hgone).scanned rest

/-! ### The end of the list -/

/-- What was asked after the first slots was asked about the others. -/
lemma Passed.drop {before after : List SlotId} {e d : List Deed} (hbefore : Passed m label before e)
    (h : Passed m label (before ++ after) (e ++ d)) : Passed m label after d := by
  induction hbefore with
  | nil => exact h
  | cons hpasses hrest ih =>
    cases h with
    | cons _ hrest' => exact ih hrest'

/-- Where the search ended, it did not go on. -/
lemma Stops.not_passed {after : List SlotId} {d : List Deed} {r : Except Fault (Option SlotId)}
    (h : Stops m label id d r) : ¬ Passed m label (id :: after) d := by
  intro hpassed
  cases hpassed with
  | cons hpasses hrest =>
    cases h with
    | bears told hcode hlabel =>
      rcases hpasses with ⟨-, hother⟩ | hgone
      · exact hother hlabel
      · rw [hcode] at hgone
        cases hgone
    | fails told hcode hgone =>
      rcases hpasses with ⟨hok, -⟩ | hpresent
      · exact hcode hok
      · exact hgone hpresent

/-- No slot is found exactly if the search came to its end. -/
lemma Scanned.eq_none_iff {ids : List SlotId} {d : List Deed} {r : Except Fault (Option SlotId)}
    (h : Scanned m label ids d r) : r = .ok none ↔ Passed m label ids d := by
  obtain ⟨hpassed, hnone⟩ | ⟨before, id, after, e, last, rfl, rfl, hpassed, hstops⟩ := h
  · exact ⟨fun _ => hpassed, fun _ => hnone⟩
  · -- Had every slot been passed over, so would have been the one that stopped the search.
    exact ⟨fun hnone => absurd hnone hstops.ne_none,
      fun hall => absurd (hpassed.drop hall) hstops.not_passed⟩

/-- What was asked after the slots were listed, and what came of it. -/
lemma scanned_findSlot (env : Environment σ) (m : Module) (label : String) (w : World σ) :
    ∃ e, (m.findSlot label).asked env w = (m.slotList true).asked env w ++ e ∧
      match ((m.slotList true).run env w).1 with
      | .error f => e = [] ∧ ((m.findSlot label).run env w).1 = .error f
      | .ok ids => Scanned m label ids e ((m.findSlot label).run env w).1 := by
  rw [findSlot, run_bind, asked_bind]
  generalize (m.slotList true).run env w = r
  obtain ⟨f | ids, v⟩ := r
  · exact ⟨[], rfl, rfl, rfl⟩
  · exact ⟨_, rfl, (searched_firstLabelled env m label ids v).scanned⟩

end Module

/-! ### The library in memory -/

namespace Simulated

variable {b : Behaviour} {p : Place} {s : State}

/-- The label of a token as it is told: what can be read back from its field. -/
def Place.told (p : Place) : Option String :=
  p.label.map fun label => Text.Padded.read (Text.Padded.fill Record.labelSize label)

/-- A label that fits into its field, has no zero character and no blank at its end is told as it
is. -/
lemma Place.told_eq {label : String} (hp : p.label = some label)
    (hfits : (Text.utf8 label).length ≤ 32) (hzero : '\x00' ∉ label.toList)
    (hblank : label.toList.getLast? ≠ some ' ') : p.told = some label := by
  rw [Place.told, hp, Option.map_some]
  exact congrArg some (Text.Padded.read_fill hfits hzero hblank)

/-- A slot whose token is told to bear a label holds a token, so it is among those listed. -/
lemma find?_told_filter (places : List Place) (label : String) :
    (places.filter fun p => !true || p.label.isSome).find? (fun p => p.told = some label) =
      places.find? fun p => p.told = some label := by
  rw [List.find?_filter]
  congr 1
  funext p
  rcases hp : p.label with _ | l
  · simp [Place.told, hp]
  · simp

/-- The first slot whose token is told to bear the label comes after others that are not. -/
lemma find?_told_append {before after : List Place} {label : String} (hp : p.told = some label)
    (hearlier : ∀ q ∈ before, q.told ≠ some label) :
    (before ++ p :: after).find? (fun q => q.told = some label) = some p := by
  rw [List.find?_append, List.find?_eq_none.mpr (by simpa using hearlier), Option.none_or]
  exact List.find?_cons_of_pos (decide_eq_true hp)

/-- Where no two slots have the same number, each is found by its own. -/
lemma State.place?_eq (hids : (s.behaviour.places.map Place.id).Nodup)
    (hp : p ∈ s.behaviour.places) : s.place? p.id = some p := by
  rw [State.place?]
  have hfound : (s.behaviour.places.find? fun q => q.id = p.id).isSome :=
    List.find?_isSome.mpr ⟨p, hp, decide_eq_true rfl⟩
  obtain ⟨q, hq⟩ := Option.isSome_iff_exists.mp hfound
  have hid : q.id = p.id := by simpa using List.find?_some hq
  rw [hq, List.inj_on_of_nodup_map hids (List.mem_of_find?_eq_some hq) hp hid]

end Simulated

namespace Module

open Simulated

variable {m : Module} {w : World Timeline} {p : Simulated.Place}

lemma run_tokenInfo_simulated (hprovided : m.functions.provides .getTokenInfo)
    (hrunning : w.outside.library.running) {label : String} (hp : p.label = some label)
    (hplace : w.outside.library.place? p.id = some p) :
    (m.tokenInfo p.id).run environment w =
      (.ok (.ofRecord (tokenRecord w.outside.library.behaviour p.id label)), w) := by
  have htold : environment.answer (.call m.id (.getTokenInfo p.id true)) w.outside =
      (⟨.ok, some (tokenRecord w.outside.library.behaviour p.id label)⟩, w.outside) := by
    show (getTokenInfo p.id true w.outside.library, w.outside) = _
    obtain ⟨id, found⟩ := p
    simp only at hp
    subst hp
    simp only [getTokenInfo, hrunning, hplace]
    rfl
  rw [tokenInfo, if_pos hprovided, run_bind, run_call, htold]
  rfl

/-- Among slots that hold tokens the first is found whose token is told to bear the label. -/
lemma run_firstLabelled_simulated (hprovided : m.functions.provides .getTokenInfo)
    (hrunning : w.outside.library.running) (label : String) {places : List Simulated.Place}
    (hplaces : ∀ p ∈ places, p.label.isSome ∧ w.outside.library.place? p.id = some p) :
    (m.firstLabelled label (places.map Simulated.Place.id)).run environment w =
      (.ok ((places.find? fun p => p.told = some label).map Simulated.Place.id), w) := by
  -- The library is left as it is by each look at a token, so the induction stays in one world.
  induction places with
  | nil => rfl
  | cons p places ih =>
    obtain ⟨⟨htoken, hplace⟩, hrest⟩ := List.forall_mem_cons.mp hplaces
    obtain ⟨told, hp⟩ := Option.isSome_iff_exists.mp htoken
    have htold : p.told =
        some (TokenInfo.ofRecord (tokenRecord w.outside.library.behaviour p.id told)).label := by
      rw [Simulated.Place.told, hp]
      rfl
    rw [List.map_cons, firstLabelled, run_bind,
      run_tokenInfo_simulated hprovided hrunning hp hplace, List.find?_cons, htold]
    dsimp only
    by_cases hlabel :
        (TokenInfo.ofRecord (tokenRecord w.outside.library.behaviour p.id told)).label = label
    · rw [if_pos hlabel, hlabel]
      simp
    · rw [if_neg hlabel, ih hrest]
      simp [hlabel]

/-- In the library in memory the first slot is found whose token is told to bear the label. -/
lemma run_findSlot_simulated (hlists : m.functions.provides .getSlotList)
    (hprovided : m.functions.provides .getTokenInfo) (hrunning : w.outside.library.running)
    (hids : (w.outside.library.behaviour.places.map Simulated.Place.id).Nodup)
    (hfits : w.outside.library.behaviour.places.length < UInt64.size) (label : String) :
    ((m.findSlot label).run environment w).1 =
      .ok ((w.outside.library.behaviour.places.find? fun p => p.told = some label).map
        Simulated.Place.id) := by
  have hlisted : ({ w with outside := w.outside.noteListing.noteListing } :
    World Timeline).outside.library.running := hrunning
  rw [findSlot, run_bind, run_slotList_simulated m true hlists hrunning hfits]
  dsimp only
  rw [run_firstLabelled_simulated hprovided hlisted label, find?_told_filter]
  intro p hp
  obtain ⟨hp, htoken⟩ := List.mem_filter.mp hp
  exact ⟨by simpa using htoken, State.place?_eq hids hp⟩

end Module
end Cryptoki
