import Cryptoki.Proofs.Handle.Packing

/-!
What a table looks like from outside, and what every operation keeps true of it.

Two views say all there is to know of a table: the object at an index and the generation at an
index. Each operation has one equation for each of them. A table is sound when its list of vacant
entries is exact, so that an object is only ever put where there is none.
-/

namespace Cryptoki.Handle.Table

variable {α : Type}

/-! ### Views -/

/-- The object stored at an index. -/
def objectAt (t : Table α) (i : ℕ) : Option α := t.entries[i]?.bind Entry.value

/-- Where the next object goes. -/
def place (t : Table α) : ℕ := t.vacant.head?.getD t.entries.size

lemma generationAt_eq (t : Table α) (i : ℕ) :
    t.generationAt i = (t.entries[i]?.map Entry.generation).getD 1 := by
  unfold generationAt
  rcases t.entries[i]? with _ | e <;> rfl

lemma find?_eq (t : Table α) (h : Handle) :
    t.find? h =
      if h.tag = t.tag ∧ t.generationAt h.index = h.generation then t.objectAt h.index
      else none := by
  unfold find? generationAt objectAt
  by_cases ht : h.tag = t.tag
  · rcases he : t.entries[h.index]? with _ | e
    · simp
    · simp [ht]
  · simp [ht]

lemma objectAt_of_find? {t : Table α} {h : Handle} {a : α} (hf : t.find? h = some a) :
    t.objectAt h.index = some a := by
  rw [find?_eq] at hf
  split_ifs at hf
  exact hf

lemma objectAt_of_le (t : Table α) {i : ℕ} (hi : t.entries.size ≤ i) : t.objectAt i = none := by
  simp [objectAt, Array.getElem?_eq_none hi]

lemma generationAt_of_le (t : Table α) {i : ℕ} (hi : t.entries.size ≤ i) :
    t.generationAt i = 1 := by
  simp [generationAt, Array.getElem?_eq_none hi]

lemma lt_of_objectAt {t : Table α} {i : ℕ} {a : α} (h : t.objectAt i = some a) :
    i < t.entries.size := by
  by_contra hc
  rw [objectAt_of_le t (by omega)] at h
  cases h

/-- The list of vacant entries is exact, and no generation is zero. -/
structure Sound (t : Table α) : Prop where
  distinct : t.vacant.Nodup
  vacant_iff : ∀ i, i ∈ t.vacant ↔ i < t.entries.size ∧ t.objectAt i = none
  started : ∀ i, t.generationAt i ≠ 0

lemma sound_empty (tag : UInt16) (kind : String) (h : tag ≠ 0) :
    Sound (empty tag kind h : Table α) where
  distinct := List.nodup_nil
  vacant_iff i := by simp [empty]
  started i := by simp [generationAt, empty]

lemma objectAt_empty (tag : UInt16) (kind : String) (h : tag ≠ 0) (i : ℕ) :
    (empty tag kind h : Table α).objectAt i = none := by
  simp [objectAt, empty]

/-! ### Storing -/

lemma Sound.objectAt_place {t : Table α} (ht : Sound t) : t.objectAt t.place = none := by
  unfold place
  rcases hv : t.vacant with _ | ⟨i, rest⟩
  · exact objectAt_of_le t (le_refl _)
  · exact ((ht.vacant_iff i).mp (by simp [hv])).2

@[simp] lemma insert_tag (t : Table α) (a : α) : (t.insert a).2.tag = t.tag := by
  unfold insert; split <;> rfl

@[simp] lemma insert_kind (t : Table α) (a : α) : (t.insert a).2.kind = t.kind := by
  unfold insert; split <;> rfl

lemma insert_handle (t : Table α) (a : α) :
    (t.insert a).1 = pack t.tag (t.generationAt t.place) t.place := by
  unfold insert place
  rcases t.vacant with _ | ⟨i, rest⟩
  · simp [generationAt_of_le t (le_refl _)]
  · rfl

lemma generationAt_insert (t : Table α) (a : α) (i : ℕ) :
    (t.insert a).2.generationAt i = t.generationAt i := by
  unfold insert generationAt
  rcases t.vacant with _ | ⟨j, rest⟩
  · simp only [Array.getElem?_push]
    split_ifs with hi
    · simp [hi]
    · rfl
  · simp only [Array.getElem?_modify]
    split_ifs
    · rcases t.entries[i]? with _ | e <;> rfl
    · rfl

lemma Sound.objectAt_insert {t : Table α} (ht : Sound t) (a : α) (i : ℕ) :
    (t.insert a).2.objectAt i = if i = t.place then some a else t.objectAt i := by
  unfold insert objectAt place
  rcases hv : t.vacant with _ | ⟨j, rest⟩
  · simp only [Array.getElem?_push, List.head?_nil, Option.getD_none]
    by_cases hi : i = t.entries.size <;> simp [hi]
  · have hj : j < t.entries.size := ((ht.vacant_iff j).mp (by simp [hv])).1
    simp only [Array.getElem?_modify, List.head?_cons, Option.getD_some]
    by_cases hi : i = j
    · subst hi; simp [hj, Entry.occupy]
    · simp [hi, Ne.symm hi]

lemma size_entries_insert (t : Table α) (a : α) :
    (t.insert a).2.entries.size = t.entries.size + if t.vacant = [] then 1 else 0 := by
  unfold insert
  rcases t.vacant with _ | ⟨j, rest⟩ <;> simp

lemma place_lt_insert {t : Table α} (ht : Sound t) (a : α) :
    t.place < (t.insert a).2.entries.size := by
  apply lt_of_objectAt (a := a)
  rw [ht.objectAt_insert, if_pos rfl]

lemma Sound.insert {t : Table α} (ht : Sound t) (a : α) : Sound (t.insert a).2 where
  distinct := by
    unfold Table.insert
    rcases hv : t.vacant with _ | ⟨j, rest⟩
    · simp
    · exact (List.nodup_cons.mp (hv ▸ ht.distinct)).2
  vacant_iff i := by
    rw [ht.objectAt_insert, size_entries_insert]
    have hi := ht.vacant_iff i
    rcases hv : t.vacant with _ | ⟨j, rest⟩
    · have hvac : (t.insert a).2.vacant = [] := by simp [Table.insert, hv]
      have hplace : t.place = t.entries.size := by simp [place, hv]
      simp only [hv, List.not_mem_nil, false_iff, not_and] at hi
      rw [hvac, hplace, if_pos rfl]
      simp only [List.not_mem_nil, false_iff]
      rintro ⟨hlt, hnone⟩
      split_ifs at hnone with heq
      exact hi (by omega) hnone
    · have hvac : (t.insert a).2.vacant = rest := by simp [Table.insert, hv]
      have hplace : t.place = j := by simp [place, hv]
      have hd := List.nodup_cons.mp (hv ▸ ht.distinct)
      rw [hv] at hi
      rw [hvac, hplace]
      by_cases heq : i = j
      · subst heq; simp [hd.1]
      · simpa [heq] using hi
  started i := by rw [generationAt_insert]; exact ht.started i

/-! ### Taking out -/

lemma remove_of_find?_none {t : Table α} {h : Handle} (hf : t.find? h = none) :
    t.remove h = (.error (t.stale h), t) := by
  simp [remove, hf]

lemma remove_fst (t : Table α) (h : Handle) : (t.remove h).1 = t.resolve h := by
  unfold remove resolve
  rcases t.find? h with _ | a <;> rfl

@[simp] lemma remove_tag (t : Table α) (h : Handle) : (t.remove h).2.tag = t.tag := by
  unfold remove; split <;> rfl

@[simp] lemma remove_kind (t : Table α) (h : Handle) : (t.remove h).2.kind = t.kind := by
  unfold remove; split <;> rfl

@[simp] lemma size_entries_remove (t : Table α) (h : Handle) :
    (t.remove h).2.entries.size = t.entries.size := by
  unfold remove; split <;> simp

lemma generationAt_remove {t : Table α} {h : Handle} {a : α} (hf : t.find? h = some a) (i : ℕ) :
    (t.remove h).2.generationAt i =
      if i = h.index then Entry.next (t.generationAt i) else t.generationAt i := by
  have hlt := lt_of_objectAt (objectAt_of_find? hf)
  simp only [remove, hf, generationAt, Array.getElem?_modify]
  by_cases hi : i = h.index
  · subst hi; simp [hlt, Entry.vacate]
  · simp [hi, Ne.symm hi]

lemma objectAt_remove {t : Table α} {h : Handle} {a : α} (hf : t.find? h = some a) (i : ℕ) :
    (t.remove h).2.objectAt i = if i = h.index then none else t.objectAt i := by
  simp only [remove, hf, objectAt, Array.getElem?_modify]
  by_cases hi : i = h.index
  · subst hi
    rcases t.entries[h.index]? with _ | e <;> simp [Entry.vacate]
  · simp [hi, Ne.symm hi]

lemma Sound.remove {t : Table α} (ht : Sound t) (h : Handle) : Sound (t.remove h).2 := by
  rcases hf : t.find? h with _ | a
  · rw [remove_of_find?_none hf]; exact ht
  · have hobj := objectAt_of_find? hf
    have hv : (t.remove h).2.vacant = h.index :: t.vacant := by simp [Table.remove, hf]
    refine ⟨?_, fun i => ?_, fun i => ?_⟩
    · rw [hv, List.nodup_cons, ht.vacant_iff]
      exact ⟨by simp [hobj], ht.distinct⟩
    · rw [hv, List.mem_cons, ht.vacant_iff, objectAt_remove hf, size_entries_remove]
      by_cases hi : i = h.index
      · subst hi; simp [lt_of_objectAt hobj]
      · simp [hi]
    · rw [generationAt_remove hf]
      split_ifs
      · exact Entry.next_ne_zero _
      · exact ht.started i

/-! ### Taking out all that satisfy a condition -/

@[simp] lemma removeWhere_tag (t : Table α) (p : α → Bool) :
    (t.removeWhere p).2.tag = t.tag := rfl

@[simp] lemma removeWhere_kind (t : Table α) (p : α → Bool) :
    (t.removeWhere p).2.kind = t.kind := rfl

@[simp] lemma size_entries_removeWhere (t : Table α) (p : α → Bool) :
    (t.removeWhere p).2.entries.size = t.entries.size := by
  simp [removeWhere]

lemma generationAt_removeWhere (t : Table α) (p : α → Bool) (i : ℕ) :
    (t.removeWhere p).2.generationAt i =
      if (t.objectAt i).any p then Entry.next (t.generationAt i) else t.generationAt i := by
  have he : (t.removeWhere p).2.entries[i]? =
      t.entries[i]?.map fun e => if e.holds p then e.vacate else e := by simp [removeWhere]
  rw [generationAt_eq, generationAt_eq, he]
  unfold objectAt
  rcases t.entries[i]? with _ | e
  · simp
  · by_cases hp : e.value.any p <;> simp [Entry.holds, Entry.vacate, hp]

lemma objectAt_removeWhere (t : Table α) (p : α → Bool) (i : ℕ) :
    (t.removeWhere p).2.objectAt i = (t.objectAt i).filter (fun a => !p a) := by
  simp only [removeWhere, objectAt, Array.getElem?_map]
  rcases t.entries[i]? with _ | ⟨g, _ | a⟩
  · rfl
  · simp [Entry.holds]
  · by_cases hp : p a <;> simp [Entry.holds, Entry.vacate, Option.filter, hp]

lemma mem_holding {t : Table α} {p : α → Bool} {i : ℕ} :
    i ∈ t.holding p ↔ (t.objectAt i).any p = true := by
  have hlt : (t.objectAt i).any p = true → i < t.entries.size := by
    intro h
    rcases ho : t.objectAt i with _ | a
    · simp [ho] at h
    · exact lt_of_objectAt ho
  have hany : (t.entries[i]?).any (Entry.holds p) = (t.objectAt i).any p := by
    rcases he : t.entries[i]? with _ | e <;> simp [objectAt, Entry.holds, he]
  rw [holding, List.mem_filter, List.mem_range, hany]
  exact ⟨fun h => h.2, fun h => ⟨hlt h, h⟩⟩

lemma nodup_holding (t : Table α) (p : α → Bool) : (t.holding p).Nodup :=
  List.nodup_range.filter _

lemma Sound.removeWhere {t : Table α} (ht : Sound t) (p : α → Bool) :
    Sound (t.removeWhere p).2 := by
  have hv : (t.removeWhere p).2.vacant = (t.holding p).reverse ++ t.vacant := rfl
  refine ⟨?_, fun i => ?_, fun i => ?_⟩
  · rw [hv, List.nodup_append]
    refine ⟨List.nodup_reverse.mpr (nodup_holding t p), ht.distinct, ?_⟩
    rintro i hi j hj rfl
    have hnone := ((ht.vacant_iff i).mp hj).2
    rw [List.mem_reverse, mem_holding, hnone] at hi
    simp at hi
  · rw [hv, List.mem_append, List.mem_reverse, mem_holding, ht.vacant_iff,
      objectAt_removeWhere, size_entries_removeWhere]
    rcases ho : t.objectAt i with _ | a
    · simp
    · have := lt_of_objectAt ho
      simp [this]
  · rw [generationAt_removeWhere]
    split_ifs
    · exact Entry.next_ne_zero _
    · exact ht.started i

/-- What is taken out are the objects at the indexes that are vacated, in their order. -/
lemma map_some_removeWhere (t : Table α) (p : α → Bool) :
    (t.removeWhere p).1.map some = (t.holding p).map t.objectAt := by
  have key : ∀ l : List (Entry α),
      (l.filterMap fun e => e.value.filter p).map some =
        ((List.range l.length).filter fun i => (l[i]?).any (Entry.holds p)).map
          fun i => l[i]?.bind Entry.value := by
    intro l
    induction l using List.reverseRecOn with
    | nil => rfl
    | append_singleton l e ih =>
      have hlow : ∀ i ∈ List.range l.length, (l ++ [e])[i]? = l[i]? := fun i hi =>
        List.getElem?_append_left (List.mem_range.mp hi)
      rw [List.filterMap_append, List.map_append, ih, List.length_append, List.length_singleton,
        List.range_succ, List.filter_append, List.map_append]
      congr 1
      · have hsame : (List.range l.length).filter (fun i => ((l ++ [e])[i]?).any (Entry.holds p)) =
            (List.range l.length).filter fun i => (l[i]?).any (Entry.holds p) :=
          List.filter_congr fun i hi => by rw [hlow i hi]
        rw [hsame]
        exact List.map_congr_left fun i hi => by rw [hlow i (List.mem_filter.mp hi).1]
      · rcases hv : e.value with _ | a
        · simp [Entry.holds, hv]
        · by_cases hp : p a <;> simp [Entry.holds, Option.filter, hv, hp]
  have hlist := key t.entries.toList
  simp only [Array.length_toList, Array.getElem?_toList] at hlist
  exact hlist

/-! ### Registries -/

/-- A sound table with this tag and this name for its objects. -/
structure Registry (t : Table α) (tag : UInt16) (kind : String) : Prop where
  sound : Sound t
  tag_eq : t.tag = tag
  kind_eq : t.kind = kind

lemma registry_empty (tag : UInt16) (kind : String) (h : tag ≠ 0) :
    Registry (empty tag kind h : Table α) tag kind := ⟨sound_empty tag kind h, rfl, rfl⟩

section Registry

variable {t : Table α} {tag : UInt16} {kind : String}

lemma Registry.insert (ht : Registry t tag kind) (a : α) : Registry (t.insert a).2 tag kind :=
  ⟨ht.sound.insert a, (insert_tag t a).trans ht.tag_eq, (insert_kind t a).trans ht.kind_eq⟩

lemma Registry.remove (ht : Registry t tag kind) (h : Handle) :
    Registry (t.remove h).2 tag kind :=
  ⟨ht.sound.remove h, (remove_tag t h).trans ht.tag_eq, (remove_kind t h).trans ht.kind_eq⟩

lemma Registry.removeWhere (ht : Registry t tag kind) (p : α → Bool) :
    Registry (t.removeWhere p).2 tag kind :=
  ⟨ht.sound.removeWhere p, ht.tag_eq, ht.kind_eq⟩

/-- Handles of another kind are never found. -/
lemma Registry.find?_of_tag_ne (ht : Registry t tag kind) {h : Handle} (hne : h.tag ≠ tag) :
    t.find? h = none := by
  rw [find?_eq, if_neg fun hc => hne (hc.1.trans ht.tag_eq)]

lemma Registry.tag_insert (ht : Registry t tag kind) (a : α) : (t.insert a).1.tag = tag := by
  rw [insert_handle, Handle.tag_pack, ht.tag_eq]

end Registry

/-! ### Counting -/

/-- The number of objects is the number of indexes with an object. -/
lemma Sound.size_eq {t : Table α} (ht : Sound t) :
    t.size = ((List.range t.entries.size).filter fun i => (t.objectAt i).isSome).length := by
  have hperm : t.vacant.Perm
      ((List.range t.entries.size).filter fun i => !(t.objectAt i).isSome) := by
    refine (List.perm_ext_iff_of_nodup ht.distinct (List.nodup_range.filter _)).mpr fun i => ?_
    rw [ht.vacant_iff, List.mem_filter, List.mem_range]
    simp
  have hsum := List.length_eq_length_filter_add (l := List.range t.entries.size)
    (fun i => (t.objectAt i).isSome)
  have hlen := hperm.length_eq
  rw [List.length_range] at hsum
  unfold size
  omega

/-- The number of objects that satisfy a condition. -/
def count (t : Table α) (p : α → Bool) : ℕ := (t.holding p).length

lemma count_empty (tag : UInt16) (kind : String) (h : tag ≠ 0) (p : α → Bool) :
    (empty tag kind h : Table α).count p = 0 := by
  simp [count, holding, empty]

lemma Sound.count_insert {t : Table α} (ht : Sound t) (a : α) (p : α → Bool) :
    (t.insert a).2.count p = t.count p + if p a then 1 else 0 := by
  have hplace : t.place ∉ t.holding p := by simp [mem_holding, ht.objectAt_place]
  have hperm : ((t.insert a).2.holding p).Perm
      (if p a then t.place :: t.holding p else t.holding p) := by
    refine (List.perm_ext_iff_of_nodup (nodup_holding _ p) ?_).mpr fun i => ?_
    · split_ifs
      · exact List.nodup_cons.mpr ⟨hplace, nodup_holding t p⟩
      · exact nodup_holding t p
    · rw [mem_holding, ht.objectAt_insert]
      by_cases hi : i = t.place
      · subst hi
        by_cases hp : p a <;> simp [hp, hplace]
      · by_cases hp : p a <;> simp [hp, hi, mem_holding]
  have hlen := hperm.length_eq
  unfold count
  split_ifs at hlen ⊢ <;> simpa using hlen

lemma count_remove {t : Table α} {h : Handle} {a : α} (hf : t.find? h = some a)
    (p : α → Bool) : (t.remove h).2.count p + (if p a then 1 else 0) = t.count p := by
  have hobj := objectAt_of_find? hf
  have hgone : h.index ∉ (t.remove h).2.holding p := by simp [mem_holding, objectAt_remove hf]
  have hperm : (t.holding p).Perm
      (if p a then h.index :: (t.remove h).2.holding p else (t.remove h).2.holding p) := by
    refine (List.perm_ext_iff_of_nodup (nodup_holding t p) ?_).mpr fun i => ?_
    · split_ifs
      · exact List.nodup_cons.mpr ⟨hgone, nodup_holding _ p⟩
      · exact nodup_holding _ p
    · rw [mem_holding]
      by_cases hi : i = h.index
      · subst hi
        by_cases hp : p a <;> simp [hp, hobj, hgone]
      · by_cases hp : p a <;> simp [hp, hi, mem_holding, objectAt_remove hf]
  have hlen := hperm.length_eq
  unfold count
  split_ifs at hlen ⊢ <;> simpa using hlen.symm

lemma holding_eq (t : Table α) (p : α → Bool) :
    t.holding p = (List.range t.entries.size).filter fun i => (t.objectAt i).any p := by
  refine List.filter_congr fun i _ => ?_
  rcases he : t.entries[i]? with _ | e <;> simp [objectAt, Entry.holds, he]

lemma Sound.size_eq_count {t : Table α} (ht : Sound t) : t.size = t.count fun _ => true := by
  rw [ht.size_eq, count, holding_eq]
  congr 2

/-- An object satisfies a condition or does not. -/
lemma count_add_count_not (t : Table α) (p : α → Bool) :
    t.count p + t.count (fun a => !p a) = t.count fun _ => true := by
  have hsplit := List.length_eq_length_filter_add (l := t.holding fun _ => true)
    (fun i => (t.objectAt i).any p)
  rw [count, count, count, hsplit, holding_eq, holding_eq, holding_eq, List.filter_filter,
    List.filter_filter]
  congr 3
  · funext i
    rcases t.objectAt i with _ | a <;> simp
  · funext i
    rcases t.objectAt i with _ | a <;> simp

lemma count_removeWhere (t : Table α) (p f : α → Bool) :
    (t.removeWhere p).2.count f = t.count fun a => f a && !p a := by
  rw [count, count, holding_eq, holding_eq, size_entries_removeWhere]
  congr 2
  funext i
  rw [objectAt_removeWhere]
  rcases t.objectAt i with _ | a
  · rfl
  · by_cases hp : p a <;> simp [Option.filter, hp]

lemma count_pos_of_find? {t : Table α} {h : Handle} {a : α} (hf : t.find? h = some a)
    {p : α → Bool} (hp : p a = true) : 0 < t.count p := by
  have hmem : h.index ∈ t.holding p := by simp [mem_holding, objectAt_of_find? hf, hp]
  exact List.length_pos_of_mem hmem

end Cryptoki.Handle.Table
