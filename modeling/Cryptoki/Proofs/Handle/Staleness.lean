import Cryptoki.Proofs.Handle.Refinement

/-!
How long the handle of an object that was taken out stays stale.

Taking an object out moves its entry on to the next generation, and there are 65535 of them. A
handle is refused from then on until its entry has been vacated 65535 times since the handle was
issued. If the entry is in use again at that moment, the handle resolves to what is there now.
-/

namespace Cryptoki.Handle.Table

variable {α : Type}

lemma Sound.index_insert {t : Table α} (ht : Sound t) (a : α)
    (room : (t.insert a).2.entries.size ≤ capacity) : (t.insert a).1.index = t.place := by
  have hplace : t.place < generationUnit :=
    capacity_eq ▸ lt_of_lt_of_le (place_lt_insert ht a) room
  rw [insert_handle, index_pack_of_lt _ _ hplace]

/-- What a handle finds at any time after it was issued. -/
lemma Sound.find?_insert_after {t : Table α} (ht : Sound t) (a : α) (ops : List (Op α))
    (room : ((t.insert a).2.after ops).entries.size ≤ capacity) :
    ((t.insert a).2.after ops).find? (t.insert a).1 =
      if Entry.generations ∣ (t.insert a).2.vacations ops (t.insert a).1.index then
        ((t.insert a).2.after ops).objectAt (t.insert a).1.index
      else none := by
  have hidx := ht.index_insert a ((entries_le_after _ ops).trans room)
  have hgen : generation (t.insert a).1 = (t.insert a).2.generationAt t.place := by
    rw [insert_handle, generation_pack, generationAt_insert]
  have htag : Handle.tag (t.insert a).1 = ((t.insert a).2.after ops).tag := by
    rw [insert_handle, tag_pack, after_tag, insert_tag]
  have hback := Entry.iterate_next_eq_iff ((ht.insert a).started t.place)
    ((t.insert a).2.vacations ops t.place)
  rw [find?_eq, hidx, (ht.insert a).generationAt_after, hgen]
  simp only [htag, true_and, hback]

/-- An operation after which a handle no longer finds its object has vacated the entry. -/
lemma Sound.vacates_of_gone {t : Table α} (ht : Sound t) {o : Op α} {h : Handle}
    (live : t.find? h ≠ none) (gone : (o.apply t).2.find? h = none) :
    t.vacates o h.index = true := by
  by_contra hc
  exact ht.find?_apply_of_keep live (by simpa using hc) gone

lemma refused_iff (t : Table α) (h : Handle) :
    (t.resolve h = .error (.staleHandle t.kind h) ∧
        t.remove h = (.error (.staleHandle t.kind h), t)) ↔ t.find? h = none := by
  constructor
  · rintro ⟨hr, -⟩
    rcases hf : t.find? h with _ | a
    · rfl
    · simp [resolve, hf] at hr
  · intro hf
    exact ⟨by simp [resolve, hf, stale], remove_of_find?_none hf⟩

/-- **When a handle stays stale.** The handle of an object that was taken out is refused, to be
resolved and to be taken out again, for exactly as long as its entry is vacant or has not been
vacated a multiple of 65535 times since the handle was issued. -/
theorem refused_iff_of_removed {t : Table α} (reached : t.Reached) (a : α)
    (mid rest : List (Op α)) (o : Op α)
    (room : ((t.insert a).2.after (mid ++ o :: rest)).entries.size ≤ capacity)
    (live : ((t.insert a).2.after mid).find? (t.insert a).1 ≠ none)
    (gone : ((t.insert a).2.after (mid ++ [o])).find? (t.insert a).1 = none) :
    let h := (t.insert a).1
    let now := (t.insert a).2.after (mid ++ o :: rest)
    let vacated := (t.insert a).2.vacations (mid ++ o :: rest) h.index
    0 < vacated ∧
      ((now.resolve h = .error (.staleHandle t.kind h) ∧
          now.remove h = (.error (.staleHandle t.kind h), now)) ↔
        now.objectAt h.index = none ∨ ¬ Entry.generations ∣ vacated) := by
  intro h now vacated
  have ht := reached.sound
  constructor
  · have hv : ((t.insert a).2.after mid).vacates o h.index = true :=
      ((ht.insert a).after mid).vacates_of_gone live (by rw [after_append] at gone; exact gone)
    simp [vacated, vacations_append, vacations, hv]
  · have hkind : now.kind = t.kind := by rw [after_kind, insert_kind]
    have hfound : now.find? h =
        if Entry.generations ∣ vacated then now.objectAt h.index else none :=
      ht.find?_insert_after a _ room
    rw [← hkind, refused_iff, hfound]
    split_ifs with hd <;> simp [hd]

theorem refused_iff_of_removed_once :
    let t : Table String := empty 0x7e57 "test" (by decide)
    let h := (t.insert "old").1
    let issued := (t.insert "old").2
    let now := issued.after ([] ++ .remove h :: [.insert "new"])
    now.entries.size ≤ capacity ∧ (issued.after []).find? h ≠ none ∧
      (issued.after ([] ++ [.remove h])).find? h = none ∧
      now.resolve h = .error (.staleHandle "test" h) ∧
      now.remove h = (.error (.staleHandle "test" h), now) := by
  intro t h issued now
  have hsize : issued.entries.size = 1 := rfl
  have room : now.entries.size ≤ capacity :=
    (entries_after_le issued _).trans (by rw [hsize]; decide)
  have live : (issued.after []).find? h ≠ none := by decide
  have gone : (issued.after ([] ++ [.remove h])).find? h = none := by
    rw [List.nil_append, after_cons, after_nil, Op.apply, find?_remove, if_pos rfl]
  have hiff := (refused_iff_of_removed (t := t) ⟨_, _, _, [], rfl⟩ "old" [] [.insert "new"]
    (.remove h) room live gone).2
  have hone : issued.vacations ([] ++ .remove h :: [.insert "new"]) h.index = 1 := by
    unfold issued h t
    rfl
  exact ⟨room, live, gone, hiff.mpr (.inr (by rw [hone]; decide))⟩

/-! ### What an entry keeps -/

/-- An object stays at its index until the index is vacated. -/
lemma Sound.objectAt_apply_of_keep {t : Table α} (ht : Sound t) {o : Op α} {i : ℕ} {a : α}
    (stored : t.objectAt i = some a) (keep : t.vacates o i = false) :
    (o.apply t).2.objectAt i = some a := by
  have occupied : (o.apply t).2.objectAt i ≠ none := by
    intro hnone
    simp [vacates, stored, hnone] at keep
  cases o with
  | insert b =>
    have hi : i ≠ t.place := by
      rintro rfl
      simp [ht.objectAt_place] at stored
    rw [Op.apply, ht.objectAt_insert, if_neg hi, stored]
  | remove h =>
    rcases hf : t.find? h with _ | b
    · rw [Op.apply, remove_of_find?_none hf, stored]
    · rw [Op.apply, objectAt_remove hf] at occupied ⊢
      split_ifs at occupied ⊢ with hi
      · exact absurd rfl occupied
      · exact stored
  | removeWhere p =>
    rw [Op.apply, objectAt_removeWhere, stored] at occupied ⊢
    rcases hp : p a with - | -
    · simp [Option.filter, hp]
    · simp [Option.filter, hp] at occupied
  | resolve _ | size | isEmpty => exact stored

lemma Sound.objectAt_after_of_keep {t : Table α} (ht : Sound t) {ops : List (Op α)} {i : ℕ}
    {a : α} (stored : t.objectAt i = some a) (keep : t.vacations ops i = 0) :
    (t.after ops).objectAt i = some a := by
  induction ops generalizing t with
  | nil => exact stored
  | cons o ops ih =>
    rw [vacations, Nat.add_eq_zero_iff] at keep
    have hstep : t.vacates o i = false := by simpa using keep.1
    exact ih (ht.apply o) (ht.objectAt_apply_of_keep stored hstep) keep.2

lemma Sound.generation_ne_zero {t : Table α} (ht : Sound t) {e : Entry α} (he : e ∈ t.entries) :
    e.generation ≠ 0 := by
  obtain ⟨i, hi, rfl⟩ := Array.mem_iff_getElem.mp he
  have hstarted := ht.started i
  rwa [generationAt_eq, Array.getElem?_eq_getElem hi] at hstarted

lemma resolve_eq_ok_iff (t : Table α) (h : Handle) (a : α) :
    t.resolve h = .ok a ↔ t.find? h = some a := by
  rcases hf : t.find? h with _ | b <;> simp [resolve, hf]

/-! ### When a handle comes back -/

/-- The table with one entry, which is vacant. -/
def oneVacant (g : UInt16) : Table String := ⟨0x7e57, "test", #[⟨g, none⟩], [0], by decide⟩

/-- Objects stored and taken out, one after the other. -/
def rounds (n : ℕ) : List (Op String) :=
  (List.replicate n [.insert "", .removeWhere fun _ => true]).flatten

lemma rounds_succ (n : ℕ) :
    rounds (n + 1) = [.insert "", .removeWhere fun _ => true] ++ rounds n := by
  simp [rounds, List.replicate_succ]

lemma oneVacant_after_round (g : UInt16) :
    (oneVacant g).after [.insert "", .removeWhere fun _ => true] = oneVacant (Entry.next g) := by
  simp [oneVacant, Op.apply, insert, removeWhere, holding, generationAt, Entry.occupy,
    Entry.holds, Entry.vacate]

lemma oneVacant_after_rounds (n : ℕ) (g : UInt16) :
    (oneVacant g).after (rounds n) = oneVacant (Entry.next^[n] g) := by
  induction n generalizing g with
  | zero => rfl
  | succ n ih =>
    rw [rounds_succ, after_append, oneVacant_after_round, ih, Function.iterate_succ_apply]

lemma oneVacant_vacations_rounds (n : ℕ) (g : UInt16) :
    (oneVacant g).vacations (rounds n) 0 = n := by
  induction n generalizing g with
  | zero => rfl
  | succ n ih =>
    have hround : (oneVacant g).vacations [.insert "", .removeWhere fun _ => true] 0 = 1 := by
      simp [oneVacant, vacations, vacates, objectAt, Op.apply, insert, removeWhere, holding,
        generationAt, Entry.occupy, Entry.holds, Entry.vacate]
    rw [rounds_succ, vacations_append, hround, oneVacant_after_round, ih, Nat.add_comm]

/-- A handle that was taken out finds another object after 65535 vacations of its entry. -/
theorem removed_handle_finds_another :
    let issued := (empty 0x7e57 "test" (by decide) : Table String).insert "old"
    let removed := issued.2.remove issued.1
    removed.1 = .ok "old" ∧
      (removed.2.after (rounds 65534 ++ [.insert "new"])).resolve issued.1 = .ok "new" := by
  intro issued removed
  have hh : issued.1 = pack 0x7e57 1 0 := rfl
  have hremoved : removed = (.ok "old", oneVacant (Entry.next 1)) := by
    simp only [removed, hh]
    rfl
  have hback : Entry.next^[65534] (Entry.next 1) = 1 := by
    rw [← Function.iterate_succ_apply]
    exact (Entry.iterate_next_eq_iff (by decide) 65535).mpr (dvd_refl _)
  rw [hremoved, hh, after_append, oneVacant_after_rounds, hback]
  exact ⟨rfl, rfl⟩

/-- **The window in which a handle comes back.** At any time after an object was stored, its handle
resolves exactly to what its entry holds then, if the entry was vacated a multiple of 65535 times
in between. So it finds its own object until the first vacation, and is refused from then on until
the 65535th. No entry ever has the generation zero. -/
theorem resolves_iff_vacated_multiple {t : Table α} (reached : t.Reached) (a : α)
    (ops : List (Op α)) (room : ((t.insert a).2.after ops).entries.size ≤ capacity) :
    let h := (t.insert a).1
    let now := (t.insert a).2.after ops
    let vacated := (t.insert a).2.vacations ops h.index
    (t.insert a).2.objectAt h.index = some a ∧
      (∀ b, now.resolve h = .ok b ↔ now.objectAt h.index = some b ∧ 65535 ∣ vacated) ∧
      (vacated = 0 → now.resolve h = .ok a) ∧
      (0 < vacated → vacated < 65535 → now.resolve h = .error (.staleHandle t.kind h)) ∧
      ∀ e ∈ now.entries, e.generation ≠ 0 := by
  intro h now vacated
  have ht := reached.sound
  have hfound : now.find? h = if 65535 ∣ vacated then now.objectAt h.index else none :=
    ht.find?_insert_after a ops room
  have stored : (t.insert a).2.objectAt h.index = some a := by
    rw [ht.index_insert a ((entries_le_after _ ops).trans room), ht.objectAt_insert, if_pos rfl]
  have resolves : ∀ b, now.resolve h = .ok b ↔ now.objectAt h.index = some b ∧ 65535 ∣ vacated := by
    intro b
    rw [resolve_eq_ok_iff, hfound]
    split_ifs with hd <;> simp [hd]
  refine ⟨stored, resolves, fun hzero => ?_, fun hpos hlt => ?_, fun e he => ?_⟩
  · have kept : now.objectAt h.index = some a := (ht.insert a).objectAt_after_of_keep stored hzero
    exact (resolves a).mpr ⟨kept, hzero ▸ dvd_zero _⟩
  · have hkind : now.kind = t.kind := by rw [after_kind, insert_kind]
    have hnone : now.find? h = none := by rw [hfound, if_neg (Nat.not_dvd_of_pos_of_lt hpos hlt)]
    rw [← hkind]
    exact ((refused_iff now h).mpr hnone).1
  · exact ((ht.insert a).after ops).generation_ne_zero he

theorem resolves_after_65535_vacations :
    let t : Table String := empty 0x7e57 "test" (by decide)
    let h := (t.insert "old").1
    let issued := (t.insert "old").2
    let ops := .remove h :: (rounds 65534 ++ [.insert "new"])
    t.Reached ∧ (issued.after ops).entries.size ≤ capacity ∧
      issued.vacations ops h.index = 65535 ∧ (issued.after ops).objectAt h.index = some "new" ∧
      (issued.after ops).resolve h = .ok "new" := by
  intro t h issued ops
  have reached : t.Reached := ⟨_, _, _, [], rfl⟩
  have hremoved : (issued.remove h).2 = oneVacant (Entry.next 1) := by
    unfold issued h t
    rfl
  have hfirst : issued.vacates (.remove h) 0 = true := by
    unfold issued h t
    rfl
  have hnow : issued.after ops = ((oneVacant (Entry.next^[65535] 1)).insert "new").2 := by
    rw [after_cons, Op.apply, hremoved, after_append, oneVacant_after_rounds,
      ← Function.iterate_succ_apply]
    rfl
  have room : (issued.after ops).entries.size ≤ capacity := by
    have hsize : (issued.after ops).entries.size = 1 := by rw [hnow]; rfl
    rw [hsize]
    decide
  have hindex : h.index = 0 := index_pack_of_lt 0x7e57 1 (by decide)
  have vacated : issued.vacations ops h.index = 65535 := by
    rw [hindex, vacations, hfirst, Op.apply, hremoved, vacations_append,
      oneVacant_vacations_rounds, oneVacant_after_rounds]
    rfl
  have stored : (issued.after ops).objectAt h.index = some "new" := by
    rw [hindex, hnow]
    rfl
  have hwindow := (resolves_iff_vacated_multiple reached "old" ops room).2.1 "new"
  exact ⟨reached, room, vacated, stored, hwindow.mpr ⟨stored, vacated.symm.dvd⟩⟩

end Cryptoki.Handle.Table
