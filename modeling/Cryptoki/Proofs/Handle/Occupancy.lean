import Cryptoki.Proofs.Handle.Staleness
import Mathlib.Order.Bounds.Basic

/-!
How many entries a table has.

A new entry is made only if an object is stored while no entry is vacant, and then all the entries
hold objects. So a table never has more entries than it once had objects, and as entries are not
given back, it has as many as it had objects at its fullest.
-/

namespace Cryptoki.Handle.Table

variable {α : Type}

/-- The objects that are stored, in the order of their entries. -/
def objects (t : Table α) : List α := t.entries.toList.filterMap Entry.value

/-- How many objects the table has held at the moments of a run. -/
def held (t : Table α) (ops : List (Op α)) : Set ℕ :=
  {n | ∃ past, past <+: ops ∧ (t.after past).objects.length = n}

lemma length_objects (t : Table α) : t.objects.length = t.count fun _ => true := by
  have hall : t.objects = (t.removeWhere fun _ => true).1 := by
    rw [objects, removeWhere]
    congr 1
    funext e
    cases e.value <;> rfl
  rw [hall, ← List.length_map some, map_some_removeWhere, List.length_map, count]

lemma length_objects_le (t : Table α) : t.objects.length ≤ t.entries.size :=
  List.length_filterMap_le _ _

/-! ### Vacant entries -/

lemma Sound.length_vacant_le {t : Table α} (ht : Sound t) :
    t.vacant.length ≤ t.entries.size := by
  have hsub : t.vacant ⊆ List.range t.entries.size := fun i hi =>
    List.mem_range.mpr ((ht.vacant_iff i).mp hi).1
  simpa using (ht.distinct.subperm hsub).length_le

lemma Sound.size_eq_length {t : Table α} (ht : Sound t) : t.size = t.objects.length := by
  rw [ht.size_eq_count, length_objects]

/-- Where no entry is vacant, there are as many objects as entries. -/
lemma Sound.length_objects_of_full {t : Table α} (ht : Sound t) (hfull : t.vacant = []) :
    t.objects.length = t.entries.size := by
  rw [← ht.size_eq_length, size, hfull, List.length_nil, Nat.sub_zero]

/-- Only a vacant index gets an object when one is stored. -/
lemma Sound.insert_fills {t : Table α} (ht : Sound t) (a : α)
    (room : (t.insert a).2.entries.size ≤ capacity) :
    t.objectAt (t.insert a).1.index = none ∧
      (t.insert a).2.objectAt = Function.update t.objectAt (t.insert a).1.index (some a) := by
  rw [ht.index_insert a room]
  refine ⟨ht.objectAt_place, funext fun i => ?_⟩
  rw [ht.objectAt_insert, Function.update_apply]

/-! ### A step and a run -/

/-- An operation makes a new entry only if there are more objects than ever after it. -/
lemma Sound.size_entries_apply {t : Table α} (ht : Sound t) (o : Op α) :
    (o.apply t).2.entries.size = max (o.apply t).2.objects.length t.entries.size := by
  have hle := length_objects_le (o.apply t).2
  cases o with
  | insert a =>
    rw [Op.apply, size_entries_insert] at hle ⊢
    split_ifs at hle ⊢ with hfull
    · have hcount := ht.count_insert a fun _ => true
      rw [← length_objects, ← length_objects, ht.length_objects_of_full hfull, if_pos rfl] at hcount
      omega
    · omega
  | remove h =>
    rw [Op.apply, size_entries_remove] at hle ⊢
    omega
  | removeWhere p =>
    rw [Op.apply, size_entries_removeWhere] at hle ⊢
    omega
  | resolve _ | size | isEmpty => exact (max_eq_right hle).symm

/-- The moments of a longer run are those of the shorter one and its end. -/
lemma held_append_singleton (t : Table α) (ops : List (Op α)) (o : Op α) :
    t.held (ops ++ [o]) =
      Insert.insert (t.after (ops ++ [o])).objects.length (t.held ops) := by
  ext n
  simp only [held, List.prefix_concat_iff, or_and_right, exists_or, exists_eq_left,
    Set.mem_ofPred_eq, Set.mem_insert_iff, eq_comm]

/-- From a table without vacant entries on, there are as many entries as objects at the fullest. -/
lemma Sound.isGreatest_held {t : Table α} (ht : Sound t) (hfull : t.vacant = [])
    (ops : List (Op α)) : IsGreatest (t.held ops) (t.after ops).entries.size := by
  induction ops using List.reverseRecOn with
  | nil =>
    have hstart : t.held [] = {t.entries.size} := by
      ext n
      simp [held, ht.length_objects_of_full hfull, eq_comm]
    rw [hstart]
    exact isGreatest_singleton
  | append_singleton ops o ih =>
    have hstep := (ht.after ops).size_entries_apply o
    have hlast : t.after (ops ++ [o]) = (o.apply (t.after ops)).2 := after_append t ops [o]
    rw [held_append_singleton, hlast, hstep]
    exact ih.insert _

/-- **No entry is lost.** At every moment of a run of a table that began empty the list of vacant
entries is exact: each entry without an object stands there once and nothing else does, so there are
never more vacant entries than entries, and the size is the number of objects. An object is always
stored at an index that has none, and no other index is touched. The table has as many entries as it
had objects at its fullest, however many have come and gone. -/
theorem entries_eq_fullest (tag : UInt16) (kind : String) (h : tag ≠ 0) (ops : List (Op α))
    (room : ((empty tag kind h).after ops).entries.size ≤ capacity) :
    let start : Table α := empty tag kind h
    (∀ past, past <+: ops →
      let t := start.after past
      t.vacant.Nodup ∧ (∀ i, i ∈ t.vacant ↔ i < t.entries.size ∧ t.objectAt i = none) ∧
        t.vacant.length ≤ t.entries.size ∧ t.size = t.objects.length) ∧
    (∀ past a, past ++ [.insert a] <+: ops →
      let t := start.after past
      t.objectAt (t.insert a).1.index = none ∧
        (t.insert a).2.objectAt = Function.update t.objectAt (t.insert a).1.index (some a)) ∧
    IsGreatest (start.held ops) (start.after ops).entries.size := by
  intro start
  have hstart : Sound start := sound_empty tag kind h
  refine ⟨fun past _ => ?_, fun past a hpast => ?_, hstart.isGreatest_held rfl ops⟩
  · have ht := hstart.after past
    exact ⟨ht.distinct, ht.vacant_iff, ht.length_vacant_le, ht.size_eq_length⟩
  · obtain ⟨rest, rfl⟩ := hpast
    rw [after_append, after_append] at room
    exact (hstart.after past).insert_fills a ((entries_le_after _ rest).trans room)

/-- Four objects come and go, but there are two at most at a time. The third one is stored where
there is none any more. -/
theorem entries_eq_fullest_of_reuse :
    let start : Table ℕ := empty 0x7e57 "test" (by decide)
    let past : List (Op ℕ) := [.insert 7, .insert 8, .remove (pack 0x7e57 1 0)]
    let ops : List (Op ℕ) :=
      past ++ [.insert 9] ++ [.removeWhere fun n => n < 9, .insert 10, .removeWhere fun _ => true]
    (start.after ops).entries.size ≤ capacity ∧ (start.after ops).objects = [] ∧
      (start.after ops).vacant = [1, 0] ∧ past ++ [.insert 9] <+: ops ∧
      (start.after past).objectAt ((start.after past).insert 9).1.index = none ∧
      IsGreatest (start.held ops) 2 := by
  intro start past ops
  have room : (start.after ops).entries.size ≤ capacity := (entries_after_le _ ops).trans (by decide)
  have hsize : (start.after ops).entries.size = 2 := by decide +kernel
  have hpast : past ++ [.insert 9] <+: ops := List.prefix_append _ _
  obtain ⟨-, hstored, hgreatest⟩ := entries_eq_fullest 0x7e57 "test" (by decide) ops room
  change IsGreatest _ (start.after ops).entries.size at hgreatest
  rw [hsize] at hgreatest
  exact ⟨room, by decide +kernel, by decide +kernel, hpast, (hstored past 9 hpast).1, hgreatest⟩

end Cryptoki.Handle.Table
