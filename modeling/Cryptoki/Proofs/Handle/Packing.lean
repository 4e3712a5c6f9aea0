import Cryptoki.Handle.Table
import Mathlib.Logic.Function.Iterate
import Mathlib.Tactic

/-!
The three parts of a handle.

Tag, generation and index can be read off a handle that was packed of them, and no other handle
has the same three parts. Generations run through all of 1 to 65535 before one comes back.
-/

namespace Cryptoki.Handle

/-! ### Packing -/

lemma toNat_pack (t g : UInt16) (i : ℕ) :
    (pack t g i).toNat = t.toNat * tagUnit + g.toNat * generationUnit + i % generationUnit := by
  have ht := t.toNat_lt
  have hg := g.toNat_lt
  have hi : i % generationUnit < generationUnit := Nat.mod_lt _ (by decide)
  unfold pack
  rw [UInt64.toNat_ofNat']
  unfold tagUnit generationUnit at *
  omega

@[simp] lemma tag_pack (t g : UInt16) (i : ℕ) : tag (pack t g i) = t := by
  have hg := g.toNat_lt
  have hi : i % generationUnit < generationUnit := Nat.mod_lt _ (by decide)
  apply UInt16.toNat_inj.mp
  have ht := t.toNat_lt
  rw [tag, UInt16.toNat_ofNat', toNat_pack]
  unfold tagUnit generationUnit at *
  omega

@[simp] lemma generation_pack (t g : UInt16) (i : ℕ) : generation (pack t g i) = g := by
  have hi : i % generationUnit < generationUnit := Nat.mod_lt _ (by decide)
  apply UInt16.toNat_inj.mp
  have hg := g.toNat_lt
  rw [generation, UInt16.toNat_ofNat', toNat_pack]
  unfold tagUnit generationUnit at *
  omega

lemma index_pack (t g : UInt16) (i : ℕ) : index (pack t g i) = i % generationUnit := by
  rw [index, toNat_pack]
  unfold tagUnit generationUnit
  omega

@[simp] lemma index_pack_of_lt (t g : UInt16) {i : ℕ} (hi : i < generationUnit) :
    index (pack t g i) = i := by
  rw [index_pack, Nat.mod_eq_of_lt hi]

/-- A handle is made of its parts and of nothing else. -/
lemma pack_parts (h : Handle) : pack (tag h) (generation h) (index h) = h := by
  apply UInt64.toNat_inj.mp
  have hh := h.toNat_lt
  rw [toNat_pack, tag, generation, index, UInt16.toNat_ofNat', UInt16.toNat_ofNat']
  unfold tagUnit generationUnit
  omega

/-- The tag stands in the upper 16 bits. -/
lemma toNat_pack_div (t g : UInt16) (i : ℕ) : (pack t g i).toNat / 2 ^ 48 = t.toNat := by
  have hg := g.toNat_lt
  have hi : i % generationUnit < generationUnit := Nat.mod_lt _ (by decide)
  rw [toNat_pack]
  unfold tagUnit generationUnit at *
  omega

lemma pack_ne_zero {t : UInt16} (ht : t ≠ 0) (g : UInt16) (i : ℕ) : pack t g i ≠ 0 := by
  intro h
  have h0 : tag (pack t g i) = tag 0 := by rw [h]
  rw [tag_pack] at h0
  exact ht (h0.trans (by decide))

/-! ### Generations -/

namespace Entry

/-- How many generations there are. -/
def generations : ℕ := 65535

lemma next_ne_zero (g : UInt16) : next g ≠ 0 := by
  unfold next
  split
  · decide
  · assumption

lemma iterate_next_ne_zero {g : UInt16} (hg : g ≠ 0) (n : ℕ) : next^[n] g ≠ 0 := by
  cases n with
  | zero => exact hg
  | succ n => rw [Function.iterate_succ_apply']; exact next_ne_zero _

lemma toNat_pos {g : UInt16} (hg : g ≠ 0) : 0 < g.toNat := by
  rw [Nat.pos_iff_ne_zero]
  intro h
  exact hg (UInt16.toNat_inj.mp h)

/-- Counted from zero, the next generation is one more, and zero after the last. -/
lemma toNat_next {g : UInt16} (hg : g ≠ 0) :
    (next g).toNat = g.toNat % generations + 1 := by
  have hlt := g.toNat_lt
  have hpos := toNat_pos hg
  have hadd : (g + 1).toNat = (g.toNat + 1) % 65536 := by simp [UInt16.toNat_add]
  unfold next generations
  split
  · next h =>
    have h0 : (g + 1).toNat = 0 := by rw [h]; rfl
    have h1 : (1 : UInt16).toNat = 1 := rfl
    omega
  · next h =>
    have h0 : (g + 1).toNat ≠ 0 := fun h0 => h (UInt16.toNat_inj.mp h0)
    omega

lemma toNat_iterate_next {g : UInt16} (hg : g ≠ 0) (n : ℕ) :
    (next^[n] g).toNat = (g.toNat - 1 + n) % generations + 1 := by
  have hlt := g.toNat_lt
  have hpos := toNat_pos hg
  induction n with
  | zero => unfold generations; simp only [Function.iterate_zero, id]; omega
  | succ n ih =>
    rw [Function.iterate_succ_apply', toNat_next (iterate_next_ne_zero hg n), ih]
    unfold generations
    omega

/-- A generation comes back after 65535 steps, and no sooner. -/
lemma iterate_next_eq_iff {g : UInt16} (hg : g ≠ 0) (n : ℕ) :
    next^[n] g = g ↔ generations ∣ n := by
  have hlt := g.toNat_lt
  have hpos := toNat_pos hg
  rw [← UInt16.toNat_inj, toNat_iterate_next hg]
  unfold generations
  omega

end Entry

end Cryptoki.Handle
