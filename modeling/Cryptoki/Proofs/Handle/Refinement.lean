import Cryptoki.Proofs.Handle.Run
import Mathlib.Data.Set.Card

/-!
A table of handles is a partial map from handles to objects.

Every run of a table is a run of such a map, operation by operation: storing an object adds one
new key, taking objects out deletes exactly their keys, and any number at all can be looked up.
The map is what the table finds.
-/

namespace Cryptoki.Handle.Table

variable {α : Type}

/-! ### Handles of live objects -/

/-- The handle of the object at an index. -/
def handleAt (t : Table α) (i : ℕ) : Handle := pack t.tag (t.generationAt i) i

lemma find?_handleAt (t : Table α) {i : ℕ} (hi : i < capacity) :
    t.find? (t.handleAt i) = t.objectAt i := by
  rw [capacity_eq] at hi
  simp [find?_eq, handleAt, hi]

lemma eq_handleAt {t : Table α} {h : Handle} {a : α} (hf : t.find? h = some a) :
    h = t.handleAt h.index := by
  rw [find?_eq] at hf
  split_ifs at hf with hc
  rw [handleAt, hc.2, ← hc.1, pack_parts]

lemma handleAt_injective (t : Table α) {i j : ℕ} (hi : i < capacity) (hj : j < capacity)
    (h : t.handleAt i = t.handleAt j) : i = j := by
  rw [capacity_eq] at hi hj
  have hx := congrArg index h
  simpa [handleAt, hi, hj] using hx

lemma insert_fst (t : Table α) (a : α) : (t.insert a).1 = t.handleAt t.place := insert_handle t a

/-! ### What each operation does to the map -/

lemma Sound.find?_insert {t : Table α} (ht : Sound t) (a : α)
    (room : (t.insert a).2.entries.size ≤ capacity) (h : Handle) :
    (t.insert a).2.find? h = if h = (t.insert a).1 then some a else t.find? h := by
  have hplace : t.place < capacity := lt_of_lt_of_le (place_lt_insert ht a) room
  rw [find?_eq, insert_tag, generationAt_insert, ht.objectAt_insert, insert_fst]
  by_cases hh : h = t.handleAt t.place
  · have hidx : h.index = t.place := by
      rw [capacity_eq] at hplace
      simp [hh, handleAt, hplace]
    rw [if_pos hh, if_pos hidx, if_pos]
    rw [hidx, hh]
    simp [handleAt]
  · rw [if_neg hh, find?_eq]
    by_cases hidx : h.index = t.place
    · rw [hidx, ht.objectAt_place, if_pos rfl, ite_self, if_neg]
      rintro ⟨htag, hgen⟩
      apply hh
      rw [handleAt, ← hidx, ← htag, hidx, hgen, ← hidx, pack_parts]
    · rw [if_neg hidx]

lemma Sound.find?_insert_fst {t : Table α} (ht : Sound t) (a : α)
    (room : (t.insert a).2.entries.size ≤ capacity) : t.find? (t.insert a).1 = none := by
  have hplace : t.place < capacity := lt_of_lt_of_le (place_lt_insert ht a) room
  rw [insert_fst, find?_handleAt t hplace, ht.objectAt_place]

/-- What is stored stays where it is when something else is. -/
lemma Sound.find?_insert_of_find? {t : Table α} (ht : Sound t) (a : α) {h : Handle} {b : α}
    (hf : t.find? h = some b) : (t.insert a).2.find? h = some b := by
  have hidx : h.index ≠ t.place := by
    intro hidx
    have hobj := objectAt_of_find? hf
    rw [hidx, ht.objectAt_place] at hobj
    cases hobj
  rw [find?_eq, insert_tag, generationAt_insert, ht.objectAt_insert, if_neg hidx, ← find?_eq, hf]

/-- What is found once something has been stored was there before, or it is what was stored. -/
lemma Sound.find?_of_insert {t : Table α} (ht : Sound t) {a : α} {h : Handle} {b : α}
    (hf : (t.insert a).2.find? h = some b) :
    t.find? h = some b ∨ h = (t.insert a).1 ∧ b = a := by
  have hobj := objectAt_of_find? hf
  rw [ht.objectAt_insert] at hobj
  split_ifs at hobj with hidx
  · obtain rfl : a = b := Option.some.inj hobj
    refine .inr ⟨?_, rfl⟩
    rw [eq_handleAt hf, handleAt, insert_tag, generationAt_insert, hidx, insert_handle]
  · rw [find?_eq, insert_tag, generationAt_insert, ht.objectAt_insert, if_neg hidx,
      ← find?_eq] at hf
    exact .inl hf

lemma find?_remove (t : Table α) (h k : Handle) :
    (t.remove h).2.find? k = if k = h then none else t.find? k := by
  rcases hf : t.find? h with _ | a
  · rw [remove_of_find?_none hf]
    split_ifs with hk
    · rw [hk, hf]
    · rfl
  · rw [find?_eq, remove_tag, generationAt_remove hf, objectAt_remove hf]
    by_cases hi : k.index = h.index
    · rw [if_pos hi, if_pos hi, ite_self]
      split_ifs with hk
      · rfl
      · symm
        rcases hfk : t.find? k with _ | b
        · rfl
        · exact absurd (by rw [eq_handleAt hfk, eq_handleAt hf, hi]) hk
    · have hk : k ≠ h := fun hk => hi (by rw [hk])
      rw [if_neg hi, if_neg hi, if_neg hk, find?_eq]

lemma find?_removeWhere (t : Table α) (p : α → Bool) (h : Handle) :
    (t.removeWhere p).2.find? h = (t.find? h).filter fun a => !p a := by
  rw [find?_eq, find?_eq, removeWhere_tag, generationAt_removeWhere, objectAt_removeWhere]
  rcases ho : t.objectAt h.index with _ | a
  · simp
  · by_cases hp : p a
    · simp only [Option.filter, hp, Bool.not_true, Bool.false_eq_true, if_false, ite_self]
      split_ifs <;> simp [hp]
    · simp only [Option.any_some, hp, Bool.false_eq_true, if_false, Option.filter, Bool.not_false,
        if_true]
      split_ifs <;> simp [hp]

/-! ### The map -/

/-- A partial map from handles to objects. -/
abbrev Objects (α : Type) := Handle → Option α

namespace Objects

def keys (M : Objects α) : Set Handle := {h | (M h).isSome}

/-- What looking up a number is told. -/
def resolve (M : Objects α) (kind : String) (h : Handle) : Except Fault α :=
  match M h with
  | some a => .ok a
  | none => .error (.staleHandle kind h)

/-- What an operation may answer and which map it leaves, for a table with this tag whose objects
are called `kind`. -/
def Meets (tag : UInt16) (kind : String) (M : Objects α) : (o : Op α) → o.Answer → Objects α → Prop
  | .insert a, h, M' =>
    h ≠ 0 ∧ h.toNat / 2 ^ 48 = tag.toNat ∧ M h = none ∧ M' = Function.update M h (some a)
  | .resolve h, r, M' => r = M.resolve kind h ∧ M' = M
  | .remove h, r, M' => r = M.resolve kind h ∧ M' = Function.update M h none
  | .removeWhere p, as, M' =>
    (∃ hs : List Handle, hs.Nodup ∧ (∀ h, h ∈ hs ↔ (M h).any p) ∧ as.map some = hs.map M) ∧
      M' = fun h => (M h).filter fun a => !p a
  | .size, n, M' => n = M.keys.ncard ∧ M' = M
  | .isEmpty, b, M' => (b = true ↔ M.keys.ncard = 0) ∧ M' = M

end Objects

/-- From here on every answer of the table is one that the map may give. -/
def Follows (t : Table α) (M : Objects α) : List (Op α) → Prop
  | [] => True
  | o :: ops =>
    ∃ M' : Objects α, M.Meets t.tag t.kind o (o.apply t).1 M' ∧ Follows (o.apply t).2 M' ops

/-- The keys are the handles at the indexes with an object. -/
lemma ncard_keys {t : Table α} (ht : Sound t) (room : t.entries.size ≤ capacity) :
    (Objects.keys t.find?).ncard = t.size := by
  set live := (List.range t.entries.size).filter fun i => (t.objectAt i).isSome with hlive
  have hlt : ∀ i ∈ live, i < capacity := fun i hi =>
    lt_of_lt_of_le (List.mem_range.mp (List.mem_filter.mp hi).1) room
  have hnodup : (live.map t.handleAt).Nodup :=
    (List.nodup_range.filter _).map_on fun i hi j hj h =>
      handleAt_injective t (hlt i hi) (hlt j hj) h
  have hkeys : Objects.keys t.find? = ↑(live.map t.handleAt).toFinset := by
    ext h
    simp only [Objects.keys, Set.mem_ofPred_eq, List.coe_toFinset, List.mem_map]
    constructor
    · intro hh
      obtain ⟨a, ha⟩ := Option.isSome_iff_exists.mp hh
      have hobj := objectAt_of_find? ha
      refine ⟨h.index, ?_, (eq_handleAt ha).symm⟩
      exact List.mem_filter.mpr ⟨List.mem_range.mpr (lt_of_objectAt hobj), by simp [hobj]⟩
    · rintro ⟨i, hi, rfl⟩
      rw [find?_handleAt t (hlt i hi)]
      exact (List.mem_filter.mp hi).2
  rw [hkeys, Set.ncard_coe_finset, List.toFinset_card_of_nodup hnodup, List.length_map, hlive,
    ht.size_eq]

lemma find?_empty (tag : UInt16) (kind : String) (h : tag ≠ 0) :
    (empty tag kind h : Table α).find? = fun _ => none := by
  funext k
  rw [find?_eq, objectAt_empty, ite_self]

lemma insert_meets {t : Table α} (ht : Sound t) (a : α)
    (room : (t.insert a).2.entries.size ≤ capacity) :
    Objects.Meets t.tag t.kind t.find? (.insert a) (t.insert a).1 (t.insert a).2.find? := by
  refine ⟨?_, ?_, ht.find?_insert_fst a room, funext fun h => ?_⟩
  · rw [insert_handle]; exact pack_ne_zero t.tag_ne_zero _ _
  · rw [insert_handle]; exact toNat_pack_div _ _ _
  · rw [ht.find?_insert a room, Function.update_apply]

lemma remove_meets (t : Table α) (h : Handle) :
    Objects.Meets t.tag t.kind t.find? (.remove h) (t.remove h).1 (t.remove h).2.find? := by
  refine ⟨remove_fst t h, funext fun k => ?_⟩
  rw [find?_remove, Function.update_apply]

lemma removeWhere_meets (t : Table α) (p : α → Bool) (room : t.entries.size ≤ capacity) :
    Objects.Meets t.tag t.kind t.find? (.removeWhere p) (t.removeWhere p).1
      (t.removeWhere p).2.find? := by
  have hlt : ∀ i ∈ t.holding p, i < capacity := fun i hi =>
    lt_of_lt_of_le (List.mem_range.mp (List.mem_filter.mp hi).1) room
  refine ⟨⟨(t.holding p).map t.handleAt, ?_, fun h => ?_, ?_⟩, funext fun h => ?_⟩
  · exact (nodup_holding t p).map_on fun i hi j hj h =>
      handleAt_injective t (hlt i hi) (hlt j hj) h
  · rw [List.mem_map]
    constructor
    · rintro ⟨i, hi, rfl⟩
      rw [find?_handleAt t (hlt i hi)]
      exact mem_holding.mp hi
    · intro hany
      rcases hf : t.find? h with _ | a
      · simp [hf] at hany
      · refine ⟨h.index, mem_holding.mpr ?_, (eq_handleAt hf).symm⟩
        rw [objectAt_of_find? hf, ← hf]
        exact hany
  · rw [map_some_removeWhere, List.map_map]
    exact List.map_congr_left fun i hi => by
      rw [Function.comp_apply, find?_handleAt t (hlt i hi)]
  · rw [find?_removeWhere]

/-- One step of a table is one step of the map of what it finds. -/
lemma step_meets {t : Table α} (ht : Sound t) (o : Op α)
    (room : (o.apply t).2.entries.size ≤ capacity) :
    Objects.Meets t.tag t.kind t.find? o (o.apply t).1 (o.apply t).2.find? := by
  cases o with
  | insert a => exact insert_meets ht a room
  | resolve h => exact ⟨rfl, rfl⟩
  | remove h => exact remove_meets t h
  | removeWhere p =>
    exact removeWhere_meets t p ((entries_le_apply t (.removeWhere p)).trans room)
  | size => exact ⟨(ncard_keys ht room).symm, rfl⟩
  | isEmpty =>
    refine ⟨?_, rfl⟩
    rw [ncard_keys ht room]
    simp [Op.apply, isEmpty]

lemma follows_of_sound {t : Table α} (ht : Sound t) (ops : List (Op α))
    (room : (t.after ops).entries.size ≤ capacity) : t.Follows t.find? ops := by
  induction ops generalizing t with
  | nil => trivial
  | cons o ops ih =>
    rw [after_cons] at room
    exact ⟨_, step_meets ht o ((entries_le_after _ ops).trans room), ih (ht.apply o) room⟩

/-- **A table refines a partial map.** Whatever is asked of a table that began empty, in whatever
order and however often, its answers are those of a partial map that began empty, for as long as
there are indexes for its entries. -/
theorem refines_partial_map (tag : UInt16) (kind : String) (h : tag ≠ 0) (ops : List (Op α))
    (room : ((empty tag kind h).after ops).entries.size ≤ capacity) :
    (empty tag kind h).Follows (fun _ => none) ops := by
  rw [← find?_empty tag kind h]
  exact follows_of_sound (sound_empty tag kind h) ops room

theorem refines_partial_map_of_reuse :
    let ops : List (Op ℕ) :=
      [.insert 7, .insert 8, .remove (pack 0x7e57 1 0), .insert 9, .resolve (pack 0x7e57 2 0),
        .removeWhere fun n => n < 9, .size]
    ((empty 0x7e57 "test" (by decide)).after ops).entries.size ≤ capacity ∧
      (empty 0x7e57 "test" (by decide)).Follows (fun _ => none) ops := by
  intro ops
  have room : ((empty 0x7e57 "test" (by decide)).after ops).entries.size ≤ capacity :=
    (entries_after_le _ ops).trans (by decide)
  exact ⟨room, refines_partial_map 0x7e57 "test" (by decide) ops room⟩

end Cryptoki.Handle.Table
