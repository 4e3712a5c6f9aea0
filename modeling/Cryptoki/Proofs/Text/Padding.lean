import Cryptoki.Proofs.Text.Fields

/-!
All kinds of padding are alike, and what is read from a field is in normal form.

A field may hold any bytes at all, also a character that is not finished where the padding begins.
The reader then stands inside a character, and it matters that neither a blank nor the end of the
field can be taken for the rest of it. That is so because of the bounds for the bytes to come, and
these bounds see to it as well that only a zero byte makes a zero character.
-/

namespace Cryptoki.Text

namespace Lossy

/-! ### Unfinished characters -/

namespace Pending

/-- The least number that the character can have. -/
def least (p : Pending) : ℕ := (p.value * 64 + p.low.toNat % 64) * 64 ^ p.missing

/-- The number after the greatest one that the character can have. -/
def bound (p : Pending) : ℕ := (p.value * 64 + p.high.toNat % 64 + 1) * 64 ^ p.missing

/-- The character goes on with bytes above those of ASCII, and whichever they are, it will be one
of Unicode that is not of ASCII. -/
structure Sound (p : Pending) : Prop where
  few : p.missing ≤ 2
  low : 0x80 ≤ p.low.toNat
  high : p.high.toNat ≤ 0xBF
  least : 0x80 ≤ p.least
  scalar : p.bound ≤ 0xD800 ∨ 0xDFFF < p.least ∧ p.bound ≤ 0x110000

end Pending

/-- A character that the reader stands in, if any, is sound. -/
def Sound (s : State) : Prop := ∀ p, s = some p → p.Sound

lemma sound_none : Sound none := fun _ hp => absurd hp (by simp)

lemma sound_some {p : Pending} (hp : p.Sound) : Sound (some p) := by
  rintro _ ⟨⟩
  exact hp

/-- The character of a number that is not zero is not zero. -/
lemma ofNat_ne_zero {n : ℕ} (hpos : n ≠ 0) (hvalid : n < 0xD800 ∨ 0xDFFF < n ∧ n < 0x110000) :
    '\x00' ≠ Char.ofNat n := by
  intro h
  have hn : (Char.ofNat n).toNat = n := by
    rw [Char.ofNat, dif_pos hvalid]
    rfl
  rw [← h] at hn
  exact hpos hn.symm

/-- A lead byte leaves a sound character unfinished, and only a zero byte is a zero character. -/
lemma sound_lead (b : UInt8) : Sound (lead b).2 ∧ (b ≠ 0 → '\x00' ∉ (lead b).1) := by
  have hb := b.toNat_lt
  rw [← UInt8.ofNat_toNat (x := b)]
  generalize b.toNat = n at hb ⊢
  rw [lead_ofNat hb]
  by_cases hone : n < 128
  · rw [if_pos hone]
    refine ⟨sound_none, fun hzero => ?_⟩
    have hpos : n ≠ 0 := fun h => hzero (by rw [h]; rfl)
    exact fun h => ofNat_ne_zero hpos (.inl (by omega)) (List.mem_singleton.mp h)
  rw [if_neg hone]
  by_cases hnone : n < 194
  · rw [if_pos hnone]
    exact ⟨sound_none, fun _ => by decide⟩
  rw [if_neg hnone]
  by_cases htwo : n < 224
  · rw [if_pos htwo]
    refine ⟨sound_some ⟨by simp, by simp, by simp, ?_, .inl ?_⟩, fun _ => List.not_mem_nil⟩
    · simp [Pending.least]
      omega
    · simp [Pending.bound]
      omega
  rw [if_neg htwo]
  by_cases hthree : n < 240
  · rw [if_pos hthree]
    refine ⟨sound_some ?_, fun _ => List.not_mem_nil⟩
    rcases eq_or_ne n 224 with rfl | hfirst
    · exact ⟨by decide, by decide, by decide, by decide, .inl (by decide)⟩
    rcases eq_or_ne n 237 with rfl | hsurrogates
    · exact ⟨by decide, by decide, by decide, by decide, .inl (by decide)⟩
    rw [if_neg hfirst, if_neg hsurrogates]
    refine ⟨by simp, by simp, by simp, ?_, ?_⟩
    · simp [Pending.least]
      omega
    · simp [Pending.least, Pending.bound]
      omega
  rw [if_neg hthree]
  by_cases hfour : n < 245
  · rw [if_pos hfour]
    refine ⟨sound_some ?_, fun _ => List.not_mem_nil⟩
    rcases eq_or_ne n 240 with rfl | hfirst
    · exact ⟨by decide, by decide, by decide, by decide, .inr (by decide)⟩
    rcases eq_or_ne n 244 with rfl | hlast
    · exact ⟨by decide, by decide, by decide, by decide, .inr (by decide)⟩
    rw [if_neg hfirst, if_neg hlast]
    refine ⟨by simp, by simp, by simp, ?_, .inr ?_⟩
    · simp [Pending.least]
      omega
    · simp [Pending.least, Pending.bound]
      omega
  · rw [if_neg hfour]
    exact ⟨sound_none, fun _ => by decide⟩

/-- Another byte of a sound character completes it or leaves it sound. -/
lemma Pending.Sound.step {p : Pending} (hp : p.Sound) {b : UInt8} (hlow : p.low ≤ b)
    (hhigh : b ≤ p.high) :
    Lossy.Sound (step (some p) b).2 ∧ '\x00' ∉ (step (some p) b).1 := by
  obtain ⟨hfew, hplow, hphigh, hleast, hscalar⟩ := hp
  obtain ⟨missing, value, low, high⟩ := p
  simp only [Pending.least, Pending.bound] at *
  rw [Lossy.step, if_pos ⟨hlow, hhigh⟩]
  rw [UInt8.le_iff_toNat_le] at hlow hhigh
  -- The bits of the byte lie between those of the two bounds.
  have hleastbits : value * 64 + low.toNat % 64 ≤ value * 64 + b.toNat % 64 := by omega
  have hboundbits : value * 64 + b.toNat % 64 + 1 ≤ value * 64 + high.toNat % 64 + 1 := by omega
  generalize value * 64 + low.toNat % 64 = l at hleast hscalar hleastbits
  generalize value * 64 + high.toNat % 64 + 1 = u at hscalar hboundbits
  generalize value * 64 + b.toNat % 64 = v at hleastbits hboundbits ⊢
  obtain rfl | rfl | rfl : missing = 0 ∨ missing = 1 ∨ missing = 2 := by omega
  · simp only [pow_zero, mul_one] at hleast hscalar
    exact ⟨sound_none, fun h =>
      ofNat_ne_zero (n := v) (by omega) (by omega) (List.mem_singleton.mp h)⟩
  · refine ⟨sound_some ⟨by simp, by simp, by simp, ?_, ?_⟩, List.not_mem_nil⟩
    · simp [Pending.least]
      omega
    · simp [Pending.least, Pending.bound]
      omega
  · refine ⟨sound_some ⟨by simp, by simp, by simp, ?_, ?_⟩, List.not_mem_nil⟩
    · simp [Pending.least]
      omega
    · simp [Pending.least, Pending.bound]
      omega

/-- A byte keeps the reader in a sound state, and only a zero byte makes a zero character. -/
lemma Sound.step {s : State} (hs : Sound s) (b : UInt8) :
    Sound (step s b).2 ∧ (b ≠ 0 → '\x00' ∉ (step s b).1) := by
  obtain ⟨hlead, hzero⟩ := sound_lead b
  rcases s with _ | p
  · exact ⟨hlead, hzero⟩
  by_cases hb : p.low ≤ b ∧ b ≤ p.high
  · obtain ⟨hsound, hnone⟩ := (hs p rfl).step hb.1 hb.2
    exact ⟨hsound, fun _ => hnone⟩
  · rw [Lossy.step, if_neg hb]
    refine ⟨hlead, fun hne hmem => ?_⟩
    rcases List.mem_cons.mp hmem with h | h
    · exact absurd h (by decide)
    · exact hzero hne h

/-- Bytes that are not zero make no zero character. -/
lemma Sound.zero_notMem_run {s : State} (hs : Sound s) {bs : Bytes} (hbs : 0 ∉ bs) :
    '\x00' ∉ run s bs := by
  induction bs generalizing s with
  | nil =>
    rcases s with _ | p
    · exact List.not_mem_nil
    · exact fun h => absurd (List.mem_singleton.mp h) (by decide)
  | cons b bs ih =>
    obtain ⟨hb, hrest⟩ := not_or.mp (mt List.mem_cons.mpr hbs)
    obtain ⟨hnext, hzero⟩ := hs.step b
    rw [run_cons, List.mem_append, not_or]
    exact ⟨hzero (Ne.symm hb), ih hnext hrest⟩

/-! ### Blanks after a character -/

/-- Blanks do not go on with an unfinished character. -/
lemma Sound.run_blanks {s : State} (hs : Sound s) (k : ℕ) :
    run s (List.replicate k 0x20) = flush s ++ List.replicate k ' ' := by
  rcases s with _ | p
  · exact Lossy.run_blanks k
  rcases k with _ | k
  · exact (List.append_nil _).symm
  have hlow : ¬ (p.low ≤ 0x20 ∧ 0x20 ≤ p.high) := by
    rintro ⟨hle, -⟩
    have hbound := (hs p rfl).low
    rw [UInt8.le_iff_toNat_le] at hle
    exact absurd (hbound.trans hle) (by decide)
  have hstep : Lossy.step (some p) 0x20 = ([replacement, ' '], none) := by
    rw [Lossy.step, if_neg hlow]
    rfl
  rw [List.replicate_succ, run_cons, hstep, Lossy.run_blanks, List.replicate_succ]
  rfl

/-- Blanks at the end are read as they are, whatever comes before them. -/
lemma Sound.run_append_blanks {s : State} (hs : Sound s) (bs : Bytes) (k : ℕ) :
    run s (bs ++ List.replicate k 0x20) = run s bs ++ List.replicate k ' ' := by
  induction bs generalizing s with
  | nil => exact hs.run_blanks k
  | cons b bs ih => rw [List.cons_append, run_cons, run_cons, ih (hs.step b).1, List.append_assoc]

end Lossy

namespace Padded

/-! ### Blanks at the end -/

lemma trimEnd_append_blanks (cs : List Char) (k : ℕ) :
    trimEnd (cs ++ List.replicate k ' ') = trimEnd cs := by
  change (cs ++ List.replicate k ' ').rdropWhile (· = ' ') = cs.rdropWhile (· = ' ')
  induction k with
  | zero => rw [List.replicate_zero, List.append_nil]
  | succ k ih =>
    rw [List.replicate_succ', ← List.append_assoc, List.rdropWhile_concat_pos _ _ _ (by simp), ih]

lemma getLast?_trimEnd (cs : List Char) : (trimEnd cs).getLast? ≠ some ' ' := by
  intro h
  have hne : cs.rdropWhile (· = ' ') ≠ [] := by
    intro hnil
    rw [trimEnd, ← List.rdropWhile, hnil] at h
    cases h
  have hlast := List.rdropWhile_last_not (fun c : Char => decide (c = ' ')) cs hne
  rw [trimEnd, ← List.rdropWhile, List.getLast?_eq_some_getLast hne] at h
  exact hlast (decide_eq_true (Option.some.inj h))

lemma mem_of_mem_trimEnd {cs : List Char} {c : Char} (h : c ∈ trimEnd cs) : c ∈ cs :=
  (List.rdropWhile_prefix _ _).subset h

/-! ### Fields -/

/-- Up to the first zero byte there is none. -/
lemma zero_notMem_takeWhile (field : Bytes) : 0 ∉ field.takeWhile (· ≠ 0) := by
  intro h
  simpa using List.mem_takeWhile_imp h

/-- A zero byte ends the text of a field. -/
lemma takeWhile_append_zero {field : Bytes} (hzero : 0 ∉ field) (rest : Bytes) :
    (field ++ 0 :: rest).takeWhile (· ≠ 0) = field := by
  have hall : ∀ b ∈ field, decide (b ≠ 0) = true := fun b hb =>
    decide_eq_true fun h => hzero (h ▸ hb)
  rw [List.takeWhile_append_of_pos hall]
  simp

lemma takeWhile_of_notMem {field : Bytes} (hzero : 0 ∉ field) :
    field.takeWhile (· ≠ 0) = field :=
  List.takeWhile_eq_self_iff.mpr fun _ hb => decide_eq_true fun h => hzero (h ▸ hb)

lemma zero_notMem_append_blanks {field : Bytes} (hzero : 0 ∉ field) (k : ℕ) :
    0 ∉ field ++ List.replicate k 0x20 := by
  rw [List.mem_append, not_or]
  exact ⟨hzero, fun h => absurd (List.eq_of_mem_replicate h) (by decide)⟩

/-- What follows a zero byte is not read. -/
lemma read_append_zero {field : Bytes} (hzero : 0 ∉ field) (rest : Bytes) :
    read (field ++ 0 :: rest) = read field := by
  rw [read, read, takeWhile_append_zero hzero, takeWhile_of_notMem hzero]

/-- Blanks at the end are not read. -/
lemma read_append_blanks {field : Bytes} (hzero : 0 ∉ field) (k : ℕ) :
    read (field ++ List.replicate k 0x20) = read field := by
  rw [read, read, takeWhile_of_notMem (zero_notMem_append_blanks hzero k),
    takeWhile_of_notMem hzero, lossy, Lossy.sound_none.run_append_blanks, trimEnd_append_blanks]
  rfl

lemma zero_notMem_read (field : Bytes) : '\x00' ∉ (read field).toList := by
  rw [read, String.toList_ofList]
  exact fun h => Lossy.sound_none.zero_notMem_run (zero_notMem_takeWhile field)
    (mem_of_mem_trimEnd h)

lemma getLast?_read (field : Bytes) : (read field).toList.getLast? ≠ some ' ' := by
  rw [read, String.toList_ofList]
  exact getLast?_trimEnd _

/-- A text fills a field of its own size without padding. -/
lemma fill_self (s : String) : fill (utf8 s).length s = utf8 s := by
  rw [fill, List.take_length, Nat.sub_self, List.replicate_zero, List.append_nil]

/-- **Reading a field yields a normal form**, whatever bytes it holds: a text without a zero
character and without a blank at its end, the bytes of which are read as that text again. Padding
with blanks, ending the text with a zero byte and doing both are all the same to the reader, even
right after a character that is not finished. -/
theorem read_normalizes (field : Bytes) :
    '\x00' ∉ (read field).toList ∧ (read field).toList.getLast? ≠ some ' ' ∧
      read (utf8 (read field)) = read field ∧
      (0 ∉ field → ∀ (k : ℕ) (rest : Bytes),
        read (field ++ List.replicate k 0x20) = read field ∧
          read (field ++ 0 :: rest) = read field ∧
          read (field ++ List.replicate k 0x20 ++ 0 :: rest) = read field) := by
  refine ⟨zero_notMem_read field, getLast?_read field, ?_, fun hzero k rest => ⟨?_, ?_, ?_⟩⟩
  · rw [← fill_self (read field)]
    exact read_fill le_rfl (zero_notMem_read field) (getLast?_read field)
  · exact read_append_blanks hzero k
  · exact read_append_zero hzero rest
  · rw [read_append_zero (zero_notMem_append_blanks hzero k), read_append_blanks hzero]

/-- The hypothesis holds of a field that ends within the sign for the euro. -/
theorem read_normalizes_of_unfinished :
    0 ∉ ([0x61, 0xE2, 0x82] : Bytes) ∧ read [0x61, 0xE2, 0x82] = "a\uFFFD" ∧
      read [0x61, 0xE2, 0x82, 0x20, 0x20, 0x20, 0x00, 0xAC] = "a\uFFFD" ∧
      read [0x61, 0xEF, 0xBF, 0xBD] = "a\uFFFD" := by
  have hzero : 0 ∉ ([0x61, 0xE2, 0x82] : Bytes) := by decide
  have htext : read [0x61, 0xE2, 0x82] = "a\uFFFD" := by decide
  obtain ⟨-, -, hagain, hpadded⟩ := read_normalizes [0x61, 0xE2, 0x82]
  have hboth := (hpadded hzero 3 [0xAC]).2.2
  rw [htext] at hagain hboth
  exact ⟨hzero, htext, hboth, hagain⟩

end Padded

end Cryptoki.Text
