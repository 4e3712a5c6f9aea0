import Cryptoki.Proofs.Handle.Invariant

/-!
Runs of a table: any number of operations, in any order.

A run keeps a table sound. The generation at an index tells how often the index was vacated in
the run, and nothing else does: it moves on exactly when an object goes.
-/

namespace Cryptoki.Handle.Table

variable {α : Type}

/-- What can be asked of a table. -/
inductive Op (α : Type) where
  | insert (a : α)
  | resolve (h : Handle)
  | remove (h : Handle)
  | removeWhere (p : α → Bool)
  | size
  | isEmpty

namespace Op

@[reducible] def Answer : Op α → Type
  | .insert _ => Handle
  | .resolve _ | .remove _ => Except Fault α
  | .removeWhere _ => List α
  | .size => ℕ
  | .isEmpty => Bool

def apply (t : Table α) : (o : Op α) → o.Answer × Table α
  | .insert a => t.insert a
  | .resolve h => (t.resolve h, t)
  | .remove h => t.remove h
  | .removeWhere p => t.removeWhere p
  | .size => (t.size, t)
  | .isEmpty => (t.isEmpty, t)

end Op

/-- The table after a run. -/
def after (t : Table α) (ops : List (Op α)) : Table α := ops.foldl (fun t o => (o.apply t).2) t

@[simp] lemma after_nil (t : Table α) : t.after [] = t := rfl
@[simp] lemma after_cons (t : Table α) (o : Op α) (ops : List (Op α)) :
    t.after (o :: ops) = (o.apply t).2.after ops := rfl
lemma after_append (t : Table α) (as bs : List (Op α)) :
    t.after (as ++ bs) = (t.after as).after bs := by
  simp [after, List.foldl_append]

/-- The table has come about by some run from an empty one. -/
def Reached (t : Table α) : Prop :=
  ∃ (tag : UInt16) (kind : String) (h : tag ≠ 0) (ops : List (Op α)),
    t = (empty tag kind h).after ops

/-- How many entries there can be: as many as there are indexes in a handle. Beyond that the index
wraps round, and `insert` no longer says where an object is stored; results about new handles
have room in the table as a hypothesis. -/
def capacity : ℕ := 2 ^ 32

lemma capacity_eq : capacity = generationUnit := by decide

/-- A table in which not all handles are taken has room for another object. -/
lemma fits_insert {t : Table α} (hroom : t.entries.size < capacity) (a : α) :
    (t.insert a).2.entries.size ≤ capacity := by
  rw [size_entries_insert]
  split_ifs
  · exact hroom
  · exact hroom.le

/-! ### What a step and a run keep -/

lemma Sound.apply {t : Table α} (ht : Sound t) (o : Op α) : Sound (o.apply t).2 := by
  cases o with
  | insert a => exact ht.insert a
  | remove h => exact ht.remove h
  | removeWhere p => exact ht.removeWhere p
  | resolve _ | size | isEmpty => exact ht

lemma Sound.after {t : Table α} (ht : Sound t) (ops : List (Op α)) : Sound (t.after ops) := by
  induction ops generalizing t with
  | nil => exact ht
  | cons o ops ih => exact ih (ht.apply o)

lemma Reached.sound {t : Table α} (reached : t.Reached) : Sound t := by
  obtain ⟨tag, kind, h, ops, rfl⟩ := reached
  exact (sound_empty tag kind h).after ops

lemma apply_tag (t : Table α) (o : Op α) : (o.apply t).2.tag = t.tag := by
  cases o <;> simp [Op.apply]

lemma apply_kind (t : Table α) (o : Op α) : (o.apply t).2.kind = t.kind := by
  cases o <;> simp [Op.apply]

lemma after_tag (t : Table α) (ops : List (Op α)) : (t.after ops).tag = t.tag := by
  induction ops generalizing t with
  | nil => rfl
  | cons o ops ih => rw [after_cons, ih, apply_tag]

lemma after_kind (t : Table α) (ops : List (Op α)) : (t.after ops).kind = t.kind := by
  induction ops generalizing t with
  | nil => rfl
  | cons o ops ih => rw [after_cons, ih, apply_kind]

/-- Entries are never given back. -/
lemma entries_le_apply (t : Table α) (o : Op α) :
    t.entries.size ≤ (o.apply t).2.entries.size := by
  cases o <;> simp [Op.apply, size_entries_insert]

lemma entries_le_after (t : Table α) (ops : List (Op α)) :
    t.entries.size ≤ (t.after ops).entries.size := by
  induction ops generalizing t with
  | nil => exact le_refl _
  | cons o ops ih => exact (entries_le_apply t o).trans (ih _)

/-- An operation needs at most one new entry. -/
lemma entries_after_le (t : Table α) (ops : List (Op α)) :
    (t.after ops).entries.size ≤ t.entries.size + ops.length := by
  induction ops generalizing t with
  | nil => simp
  | cons o ops ih =>
    have hstep : (o.apply t).2.entries.size ≤ t.entries.size + 1 := by
      cases o <;> simp [Op.apply, size_entries_insert]
      split_ifs <;> omega
    have hrest := ih (o.apply t).2
    rw [after_cons, List.length_cons]
    omega

/-! ### Vacated indexes -/

/-- The operation takes out the object at an index. -/
def vacates (t : Table α) (o : Op α) (i : ℕ) : Bool :=
  (t.objectAt i).isSome && ((o.apply t).2.objectAt i).isNone

/-- How often an index is vacated in a run. -/
def vacations (t : Table α) : List (Op α) → ℕ → ℕ
  | [], _ => 0
  | o :: ops, i => (if t.vacates o i then 1 else 0) + vacations (o.apply t).2 ops i

lemma vacations_append (t : Table α) (as bs : List (Op α)) (i : ℕ) :
    t.vacations (as ++ bs) i = t.vacations as i + (t.after as).vacations bs i := by
  induction as generalizing t with
  | nil => simp [vacations]
  | cons o as ih => rw [List.cons_append, vacations, vacations, ih, after_cons, Nat.add_assoc]

lemma vacates_of_keep {t : Table α} {o : Op α} {i : ℕ}
    (h : (o.apply t).2.objectAt i = t.objectAt i) : t.vacates o i = false := by
  rw [vacates, h]
  rcases t.objectAt i with _ | a <;> rfl

/-- An index moves on to its next generation when it is vacated, and only then. -/
lemma Sound.generationAt_apply {t : Table α} (ht : Sound t) (o : Op α) (i : ℕ) :
    (o.apply t).2.generationAt i =
      if t.vacates o i then Entry.next (t.generationAt i) else t.generationAt i := by
  cases o with
  | insert a =>
    have hkeep : t.vacates (.insert a) i = false := by
      by_cases hi : i = t.place
      · simp [vacates, Op.apply, ht.objectAt_insert, hi]
      · exact vacates_of_keep (by rw [Op.apply, ht.objectAt_insert, if_neg hi])
    simp [hkeep, Op.apply, generationAt_insert]
  | remove h =>
    rcases hf : t.find? h with _ | a
    · have hkeep : t.vacates (.remove h) i = false :=
        vacates_of_keep (by rw [Op.apply, remove_of_find?_none hf])
      simp [hkeep, Op.apply, remove_of_find?_none hf]
    · have hobj := objectAt_of_find? hf
      have hgone : t.vacates (.remove h) i = decide (i = h.index) := by
        simp only [vacates, Op.apply, objectAt_remove hf]
        by_cases hi : i = h.index
        · subst hi; simp [hobj]
        · rcases t.objectAt i with _ | b <;> simp [hi]
      simp [hgone, Op.apply, generationAt_remove hf]
  | removeWhere p =>
    have hgone : t.vacates (.removeWhere p) i = (t.objectAt i).any p := by
      simp only [vacates, Op.apply, objectAt_removeWhere]
      rcases t.objectAt i with _ | b
      · rfl
      · by_cases hp : p b <;> simp [Option.filter, hp]
    rw [hgone]
    exact generationAt_removeWhere t p i
  | resolve _ | size | isEmpty =>
    rw [vacates_of_keep rfl, if_neg (by decide)]
    rfl

lemma Sound.find?_apply_of_keep {t : Table α} (ht : Sound t) {o : Op α} {h : Handle}
    (live : t.find? h ≠ none) (keep : t.vacates o h.index = false) :
    (o.apply t).2.find? h ≠ none := by
  have hgen : (o.apply t).2.generationAt h.index = t.generationAt h.index := by
    rw [ht.generationAt_apply, keep]
    rfl
  rw [find?_eq] at live
  rw [find?_eq, apply_tag, hgen]
  split_ifs at live ⊢
  · intro hnone
    rw [vacates, hnone, Option.isNone_none, Bool.and_true] at keep
    exact live (by simpa using keep)
  · exact live

lemma Sound.generationAt_after {t : Table α} (ht : Sound t) (ops : List (Op α)) (i : ℕ) :
    (t.after ops).generationAt i = Entry.next^[t.vacations ops i] (t.generationAt i) := by
  induction ops generalizing t with
  | nil => rfl
  | cons o ops ih =>
    rw [after_cons, ih (ht.apply o), ht.generationAt_apply, vacations]
    split_ifs
    · rw [Nat.add_comm, Function.iterate_succ_apply]
    · rw [Nat.zero_add]

end Cryptoki.Handle.Table
