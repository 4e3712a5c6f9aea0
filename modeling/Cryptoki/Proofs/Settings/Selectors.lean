import Cryptoki.Proofs.Text.Numerals
import Cryptoki.Settings.Basic

/-!
What a text selects.

A text that is a numeral for a word selects a slot by this number, and any other text is a label,
just as it stands. So a text is never refused, and it depends on its digits alone which of the two
it is.
-/

namespace Cryptoki.SlotSelector

open Text.Numeral

lemma ofText_eq_id_iff {s : String} {n : SlotId} :
    ofText s = .id n ↔ Denotes s.toList n.toNat := by
  rw [← word?_eq_some_iff, ofText]
  cases word? s <;> simp

lemma ofText_eq_label_iff {s t : String} :
    ofText s = .label t ↔ t = s ∧ ∀ n, Denotes s.toList n → 2 ^ 64 ≤ n := by
  rw [← word?_eq_none_iff, ofText]
  cases word? s <;> simp [eq_comm]

/-- Nothing but digits and plus signs stands in a numeral, and not only plus signs do. -/
lemma not_denotes {cs : List Char} {n : ℕ}
    (hcs : (∃ c ∈ cs, ¬ c.isDigit ∧ c ≠ '+') ∨ ∀ c ∈ cs, c = '+') : ¬ Denotes cs n := by
  intro h
  obtain ⟨ds, hne, hdigits, hsub, hmem⟩ : ∃ ds : List Char, ds ≠ [] ∧ (∀ c ∈ ds, c.isDigit) ∧
      (∀ c ∈ ds, c ∈ cs) ∧ ∀ c ∈ cs, c ∈ ds ∨ c = '+' := by
    cases h with
    | plain hne hdigits => exact ⟨_, hne, hdigits, fun _ hc => hc, fun _ hc => .inl hc⟩
    | signed hne hdigits =>
      exact ⟨_, hne, hdigits, fun _ hc => List.mem_cons_of_mem _ hc,
        fun _ hc => (List.mem_cons.mp hc).symm⟩
  rcases hcs with ⟨c, hc, hdigit, hplus⟩ | hplus
  · rcases hmem c hc with hc | hc
    · exact hdigit (hdigits c hc)
    · exact hplus hc
  · obtain ⟨d, hd⟩ := List.exists_mem_of_ne_nil ds hne
    exact absurd (hdigits d hd) (by rw [hplus d (hsub d hd)]; decide)

/-- **Numbers and labels.** A text selects the slot with a number exactly if it is a numeral for it:
one digit or more, behind one plus sign at most, with any leading zeros. It is a label exactly if it
is no numeral, or one for a number from `2 ^ 64` on, and the label is the text itself. Nothing else
can come of a text. In particular a text is a label if it has a character that is neither a digit of
ASCII nor a plus sign, or if it has no digit; and the decimal text of a word selects that word. -/
theorem ofText_selects :
    (∀ (s : String) (n : SlotId), ofText s = .id n ↔ Denotes s.toList n.toNat) ∧
      (∀ s t : String, ofText s = .label t ↔
        t = s ∧ ∀ n, Denotes s.toList n → 2 ^ 64 ≤ n) ∧
      (∀ s : String, (∃ c ∈ s.toList, ¬ c.isDigit ∧ c ≠ '+') ∨ (∀ c ∈ s.toList, c = '+') →
        ofText s = .label s) ∧
      ∀ n : SlotId, ofText (toString n) = .id n := by
  refine ⟨fun s n => ofText_eq_id_iff, fun s t => ofText_eq_label_iff, fun s hs => ?_, fun n => ?_⟩
  · exact ofText_eq_label_iff.mpr ⟨rfl, fun n hn => absurd hn (not_denotes hs)⟩
  · exact ofText_eq_id_iff.mpr (denotes_toString n)

/-- The hypothesis holds of texts without digits and of texts with other characters; the largest
word is told from the number after it, whatever zeros stand before. -/
theorem ofText_selects_of_largest :
    ofText "+00018446744073709551615" = .id 18446744073709551615 ∧
      ofText "18446744073709551616" = .label "18446744073709551616" ∧
      (∃ c ∈ "-1".toList, ¬ c.isDigit ∧ c ≠ '+') ∧ ofText "-1" = .label "-1" ∧
      (∃ c ∈ "١٢".toList, ¬ c.isDigit ∧ c ≠ '+') ∧ ofText "١٢" = .label "١٢" ∧
      (∀ c ∈ "+".toList, c = '+') ∧ ofText "+" = .label "+" := by
  obtain ⟨hid, hlabel, hnone, -⟩ := ofText_selects
  have hsign : ∃ c ∈ "-1".toList, ¬ c.isDigit ∧ c ≠ '+' :=
    ⟨'-', by decide, by decide, by decide⟩
  have harabic : ∃ c ∈ "١٢".toList, ¬ c.isDigit ∧ c ≠ '+' :=
    ⟨'١', by decide, by decide, by decide⟩
  have hplus : ∀ c ∈ "+".toList, c = '+' := List.forall_mem_singleton.mpr rfl
  refine ⟨?_, ?_, hsign, hnone _ (.inl hsign), harabic, hnone _ (.inl harabic), hplus,
    hnone _ (.inr hplus)⟩
  · exact (hid _ _).mpr (@Denotes.signed "00018446744073709551615".toList (by decide)
      (List.all_eq_true.mp (by decide)))
  · refine (hlabel _ _).mpr ⟨rfl, fun n hn => ?_⟩
    cases hn with
    | plain hne hdigits => decide

end Cryptoki.SlotSelector
