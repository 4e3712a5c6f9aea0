import Cryptoki.Text.Numeral
import Mathlib.Data.Nat.Digits.Lemmas
import Mathlib.Tactic

/-!
What numerals mean.

The reader works with words, digit by digit, and gives up as soon as a number gets too large. As a
digit never makes a number smaller, this comes to the same as taking the number that all the digits
stand for and asking whether it is a word. Leading zeros are digits like others: they make nothing
larger, however many they are.
-/

namespace Cryptoki.Text.Numeral

/-! ### Numbers in decimal -/

def digitValue (c : Char) : ℕ := c.toNat - '0'.toNat

/-- The number that some digits stand for: the last one counts ones, the one before it tens, and so
on. -/
def value (cs : List Char) : ℕ := Nat.ofDigits 10 (cs.reverse.map digitValue)

/-- The characters are a numeral for the number. -/
inductive Denotes : List Char → ℕ → Prop
  | plain {cs : List Char} (hne : cs ≠ []) (hdigits : ∀ c ∈ cs, c.isDigit) : Denotes cs (value cs)
  | signed {cs : List Char} (hne : cs ≠ []) (hdigits : ∀ c ∈ cs, c.isDigit) :
      Denotes ('+' :: cs) (value cs)

lemma digitValue_lt {c : Char} (hc : c.isDigit) : digitValue c < 10 := by
  have hlast : c.toNat ≤ 57 := (Char.isDigit_iff_toNat.mp hc).2
  have hzero : '0'.toNat = 48 := rfl
  rw [digitValue, hzero]
  omega

@[simp] lemma value_nil : value [] = 0 := rfl

lemma value_cons (c : Char) (cs : List Char) :
    value (c :: cs) = digitValue c * 10 ^ cs.length + value cs := by
  rw [value, List.reverse_cons, List.map_append, Nat.ofDigits_append, List.length_map,
    List.length_reverse, List.map_singleton, Nat.ofDigits_singleton, value, Nat.add_comm,
    Nat.mul_comm]

/-- The digits of a number in decimal stand for that number. -/
lemma value_toDigits (n : ℕ) : value (Nat.toDigits 10 n) = n := by
  have hvalue : ∀ cs, Nat.ofDigitChars 10 cs 0 = value cs := by
    intro cs
    induction cs with
    | nil => rfl
    | cons c cs ih =>
      rw [Nat.ofDigitChars_cons, Nat.ofDigitChars_eq_ofDigitChars_zero, ih, value_cons, digitValue]
      ring
  rw [← hvalue, Nat.ofDigitChars_ten_toDigits]

lemma denotes_toString (n : Word) : Denotes (toString n).toList n.toNat := by
  have hdigits : (toString n).toList = Nat.toDigits 10 n.toNat := Nat.toList_repr
  have hplain : Denotes (Nat.toDigits 10 n.toNat) (value (Nat.toDigits 10 n.toNat)) :=
    .plain Nat.toDigits_ne_nil fun _ hc => Nat.isDigit_of_mem_toDigits (by decide) (by decide) hc
  rwa [value_toDigits, ← hdigits] at hplain

/-! ### One digit -/

lemma digit?_eq_some_iff {c : Char} {d : Word} :
    digit? c = some d ↔ c.isDigit ∧ d.toNat = digitValue c := by
  rw [digit?, ← digitValue]
  split_ifs with hc
  · have hsmall : digitValue c < UInt64.size := (digitValue_lt hc).trans (by decide)
    rw [Option.some_inj, ← UInt64.toNat_inj, UInt64.toNat_ofNat_of_lt' hsmall, eq_comm]
    simp [hc]
  · simp [hc]

/-- What is computed modulo the size of a word and checked to be smaller is the result itself. -/
lemma checked_eq_some_iff {w k : Word} {n : ℕ} (hw : w.toNat = n % UInt64.size) :
    (if n < UInt64.size then some w else none) = some k ↔ k.toNat = n := by
  have hk : k.toNat < UInt64.size := k.toNat_lt
  split_ifs with h
  · rw [Option.some_inj, ← UInt64.toNat_inj, hw, Nat.mod_eq_of_lt h, eq_comm]
  · constructor
    · intro hnone
      cases hnone
    · omega

lemma mul?_eq_some_iff {m n k : Word} : mul? m n = some k ↔ k.toNat = m.toNat * n.toNat :=
  checked_eq_some_iff (UInt64.toNat_mul m n)

lemma add?_eq_some_iff {m n k : Word} : add? m n = some k ↔ k.toNat = m.toNat + n.toNat :=
  checked_eq_some_iff (UInt64.toNat_add m n)

/-- A digit makes the number ten times as large and adds its own value, or the result is no word. -/
lemma push?_eq_some_iff {n k : Word} {c : Char} :
    push? n c = some k ↔ c.isDigit ∧ k.toNat = n.toNat * 10 + digitValue c := by
  have hten : (10 : Word).toNat = 10 := rfl
  have hk : k.toNat < UInt64.size := k.toNat_lt
  simp only [push?, Option.bind_eq_bind, Option.bind_eq_some_iff, mul?_eq_some_iff,
    digit?_eq_some_iff, add?_eq_some_iff, hten]
  constructor
  · rintro ⟨tens, htens, d, ⟨hc, hd⟩, hsum⟩
    exact ⟨hc, by rw [hsum, htens, hd]⟩
  · rintro ⟨hc, hsum⟩
    have htens : (UInt64.ofNat (n.toNat * 10)).toNat = n.toNat * 10 :=
      UInt64.toNat_ofNat_of_lt' (by omega)
    have hdigit : (UInt64.ofNat (digitValue c)).toNat = digitValue c :=
      UInt64.toNat_ofNat_of_lt' (by omega)
    exact ⟨_, htens, _, ⟨hc, hdigit⟩, by rw [htens, hdigit, hsum]⟩

/-- Where there is room for any digit, it need not be checked. -/
lemma pushSmall?_eq {n : Word} (hroom : (n.toNat + 1) * 10 ≤ 2 ^ 64) (c : Char) :
    pushSmall? n c = push? n c := by
  have hten : (10 : Word).toNat = 10 := rfl
  rw [pushSmall?, push?]
  rcases hd : digit? c with _ | d
  · simp
  · obtain ⟨hc, hvalue⟩ := digit?_eq_some_iff.mp hd
    have hlt := digitValue_lt hc
    have htens : (n * 10).toNat = n.toNat * 10 := by
      rw [UInt64.toNat_mul, hten, Nat.mod_eq_of_lt (by omega)]
    have hmul : mul? n 10 = some (n * 10) := mul?_eq_some_iff.mpr (by rw [htens, hten])
    have hadd : add? (n * 10) d = some (n * 10 + d) :=
      add?_eq_some_iff.mpr (by rw [UInt64.toNat_add, htens, Nat.mod_eq_of_lt (by omega)])
    simp [hmul, hadd]

/-! ### All digits -/

/-- A number that got too large stays too large, so the checks along the way come to one check in
the end. -/
lemma foldlM_push?_eq_some_iff {n k : Word} {cs : List Char} :
    cs.foldlM push? n = some k ↔
      (∀ c ∈ cs, c.isDigit) ∧ k.toNat = n.toNat * 10 ^ cs.length + value cs := by
  induction cs generalizing n with
  | nil =>
    rw [List.foldlM_nil, Option.pure_def, Option.some_inj, ← UInt64.toNat_inj, eq_comm]
    simp
  | cons c cs ih =>
    have hk : k.toNat < UInt64.size := k.toNat_lt
    simp only [List.foldlM_cons, Option.bind_eq_bind, Option.bind_eq_some_iff, push?_eq_some_iff,
      ih, List.forall_mem_cons, value_cons, List.length_cons]
    have hvalue : n.toNat * 10 ^ (cs.length + 1) + (digitValue c * 10 ^ cs.length + value cs) =
        (n.toNat * 10 + digitValue c) * 10 ^ cs.length + value cs := by ring
    rw [hvalue]
    constructor
    · rintro ⟨next, ⟨hc, hnext⟩, hcs, hsum⟩
      exact ⟨⟨hc, hcs⟩, by rw [hsum, hnext]⟩
    · rintro ⟨⟨hc, hcs⟩, hsum⟩
      have hle : n.toNat * 10 + digitValue c ≤ k.toNat := by
        rw [hsum]
        exact (Nat.le_mul_of_pos_right _ (by positivity)).trans (Nat.le_add_right _ _)
      have hnext : (UInt64.ofNat (n.toNat * 10 + digitValue c)).toNat =
          n.toNat * 10 + digitValue c := UInt64.toNat_ofNat_of_lt' (by omega)
      exact ⟨_, ⟨hc, hnext⟩, hcs, by rw [hsum, hnext]⟩

/-- As long as there is room for all the digits to come, none has to be checked. -/
lemma foldlM_pushSmall?_eq {n : Word} {cs : List Char}
    (hroom : (n.toNat + 1) * 10 ^ cs.length ≤ 2 ^ 64) :
    cs.foldlM pushSmall? n = cs.foldlM push? n := by
  induction cs generalizing n with
  | nil => rfl
  | cons c cs ih =>
    have hpow : 10 ≤ 10 ^ (cs.length + 1) := Nat.le_self_pow (by omega) 10
    have hfirst : (n.toNat + 1) * 10 ≤ 2 ^ 64 := (Nat.mul_le_mul_left _ hpow).trans hroom
    rw [List.foldlM_cons, List.foldlM_cons, pushSmall?_eq hfirst]
    rcases hpush : push? n c with _ | next
    · rfl
    · obtain ⟨hc, hnext⟩ := push?_eq_some_iff.mp hpush
      have hlt := digitValue_lt hc
      refine ih (le_trans ?_ hroom)
      calc (next.toNat + 1) * 10 ^ cs.length ≤ (n.toNat + 1) * 10 * 10 ^ cs.length :=
            Nat.mul_le_mul_right _ (by omega)
        _ = (n.toNat + 1) * 10 ^ (cs.length + 1) := by ring

/-- Short or long, digits are read as the number that they stand for. -/
lemma digits?_eq_some_iff {cs : List Char} {w : Word} :
    digits? cs = some w ↔ cs ≠ [] ∧ (∀ c ∈ cs, c.isDigit) ∧ w.toNat = value cs := by
  have hread : ∀ k, cs.foldlM push? 0 = some k ↔ (∀ c ∈ cs, c.isDigit) ∧ k.toNat = value cs := by
    intro k
    rw [foldlM_push?_eq_some_iff]
    simp
  rw [digits?]
  split_ifs with hnil hshort
  · simp [hnil]
  · have hroom : ((0 : Word).toNat + 1) * 10 ^ cs.length ≤ 2 ^ 64 := by
      have hpow : 10 ^ cs.length ≤ 10 ^ smallLength := Nat.pow_le_pow_right (by omega) hshort
      exact le_trans (by simpa using hpow) (by decide)
    rw [foldlM_pushSmall?_eq hroom, hread]
    simp [hnil]
  · rw [hread]
    simp [hnil]

/-- **A text is read as a word exactly if it is a numeral for it.** -/
lemma word?_eq_some_iff {s : String} {w : Word} : word? s = some w ↔ Denotes s.toList w.toNat := by
  rw [word?]
  generalize s.toList = cs
  constructor
  · intro h
    split at h
    · obtain ⟨hne, hdigits, hvalue⟩ := digits?_eq_some_iff.mp h
      rw [hvalue]
      exact .signed hne hdigits
    · obtain ⟨hne, hdigits, hvalue⟩ := digits?_eq_some_iff.mp h
      rw [hvalue]
      exact .plain hne hdigits
  · intro h
    generalize hn : w.toNat = n at h
    cases h with
    | plain hne hdigits =>
      split
      · exact absurd (hdigits '+' List.mem_cons_self) (by decide)
      · exact digits?_eq_some_iff.mpr ⟨hne, hdigits, hn⟩
    | signed hne hdigits => exact digits?_eq_some_iff.mpr ⟨hne, hdigits, hn⟩

lemma word?_eq_none_iff {s : String} :
    word? s = none ↔ ∀ n, Denotes s.toList n → 2 ^ 64 ≤ n := by
  constructor
  · intro hnone n hn
    by_contra hlt
    have hword : (UInt64.ofNat n).toNat = n := UInt64.toNat_ofNat_of_lt' (not_le.mp hlt)
    rw [word?_eq_some_iff.mpr (hword.symm ▸ hn)] at hnone
    cases hnone
  · intro hlarge
    rcases hs : word? s with _ | w
    · rfl
    · exact absurd (hlarge _ (word?_eq_some_iff.mp hs)) (by have := w.toNat_lt; omega)

end Cryptoki.Text.Numeral
