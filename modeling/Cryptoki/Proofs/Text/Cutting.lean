import Cryptoki.Proofs.Text.Padding

/-!
What is left of a text in a field that may be too small for it.

A field cuts a text after some number of bytes, and that may be within a character. Character by
character it comes to this: what fits as a whole is read back, and a character that was cut apart is
read as one replacement character, whatever part of it is there. The reader says something for each
byte it has taken or else stands inside a character, so a part of a character is never passed over
in silence.
-/

namespace Cryptoki.Text

namespace Lossy

/-! ### Parts of a character -/

/-- The characters that some bytes complete, and the state after them. -/
def feed (s : State) : Bytes → List Char × State
  | [] => ([], s)
  | b :: bs => ((step s b).1 ++ (feed (step s b).2 bs).1, (feed (step s b).2 bs).2)

lemma run_append (s : State) (xs ys : Bytes) :
    run s (xs ++ ys) = (feed s xs).1 ++ run (feed s xs).2 ys := by
  induction xs generalizing s with
  | nil => rfl
  | cons x xs ih => rw [List.cons_append, run_cons, ih, feed, List.append_assoc]

/-- A lead byte is a character, or is read as a replacement, or begins a character. -/
lemma lead_ne (b : UInt8) : lead b ≠ ([], none) := by
  unfold lead
  split_ifs <;> simp

lemma step_ne (s : State) (b : UInt8) : step s b ≠ ([], none) := by
  rcases s with _ | p
  · exact lead_ne b
  rw [step]
  split_ifs
  · rcases p.missing with _ | n <;> simp
  · simp

/-- Bytes are never read as nothing. -/
lemma run_ne_nil (s : State) {bs : Bytes} (hbs : bs ≠ []) : run s bs ≠ [] := by
  induction bs generalizing s with
  | nil => exact absurd rfl hbs
  | cons b bs ih =>
    rw [run_cons]
    intro h
    obtain ⟨hstep, hrest⟩ := List.append_eq_nil_iff.mp h
    rcases bs with _ | ⟨x, bs⟩
    · rcases hstate : (step s b).2 with _ | p
      · exact step_ne s b (Prod.ext hstep hstate)
      · rw [hstate] at hrest
        cases hrest
    · exact ih _ (List.cons_ne_nil x bs) hrest

/-- The beginning of a character without its end is read as a replacement. -/
lemma run_of_cut {xs ys : Bytes} {c : Char} (hxs : xs ≠ []) (hys : ys ≠ [])
    (h : run none (xs ++ ys) = [c]) : run none xs = [replacement] := by
  rw [run_append] at h
  have hbegin : run none xs = (feed none xs).1 ++ flush (feed none xs).2 := by
    rw [← run_nil, ← run_append, List.append_nil]
  obtain ⟨hnone, -⟩ | ⟨-, hrest⟩ := List.append_eq_singleton_iff.mp h
  · have hsome := run_ne_nil none hxs
    rw [hbegin, hnone, List.nil_append] at hsome ⊢
    generalize (feed none xs).2 = s at hsome ⊢
    rcases s with _ | p
    · exact absurd rfl hsome
    · rfl
  · exact absurd hrest (run_ne_nil _ hys)

end Lossy

namespace Padded

/-- The bytes of some characters. -/
abbrev encoded (cs : List Char) : Bytes := cs.flatMap String.utf8EncodeChar

/-- The beginning of a text is the longest of whole characters that fits in so many bytes. -/
structure Longest (size : ℕ) (cs p : List Char) : Prop where
  begins : p <+: cs
  fits : (encoded p).length ≤ size
  longest : ∀ q, q <+: cs → (encoded q).length ≤ size → q <+: p

/-- A cut after so many bytes falls inside one of the characters. -/
def Split (size : ℕ) (cs : List Char) : Prop :=
  ∃ before c after, cs = before ++ c :: after ∧ (encoded before).length < size ∧
    size < (encoded (before ++ [c])).length

/-- The characters that fit in so many bytes, up to the first one that does not. -/
def whole : ℕ → List Char → List Char
  | _, [] => []
  | size, c :: cs => if c.utf8Size ≤ size then c :: whole (size - c.utf8Size) cs else []

lemma length_encoded_cons (c : Char) (cs : List Char) :
    (encoded (c :: cs)).length = c.utf8Size + (encoded cs).length := by
  rw [encoded, List.flatMap_cons, List.length_append, String.length_utf8EncodeChar]

lemma longest_whole (size : ℕ) (cs : List Char) : Longest size cs (whole size cs) := by
  induction cs generalizing size with
  | nil => exact ⟨List.prefix_rfl, Nat.zero_le _, fun q hq _ => hq⟩
  | cons c cs ih =>
    rw [whole]
    split_ifs with hc
    · have hrest := ih (size - c.utf8Size)
      refine ⟨(List.prefix_cons_inj c).mpr hrest.begins, ?_, fun q hq hfits => ?_⟩
      · have := hrest.fits
        rw [length_encoded_cons]
        omega
      · rcases q with _ | ⟨d, q⟩
        · exact List.nil_prefix
        obtain ⟨rfl, hbegins⟩ := List.cons_prefix_cons.mp hq
        rw [length_encoded_cons] at hfits
        exact (List.prefix_cons_inj d).mpr (hrest.longest q hbegins (by omega))
    · refine ⟨List.nil_prefix, Nat.zero_le _, fun q hq hfits => ?_⟩
      rcases q with _ | ⟨d, q⟩
      · exact List.nil_prefix
      obtain ⟨rfl, -⟩ := List.cons_prefix_cons.mp hq
      rw [length_encoded_cons] at hfits
      omega

/-! ### The character that is cut -/

lemma not_split_nil (size : ℕ) : ¬ Split size [] := by
  rintro ⟨before, c, after, h, -, -⟩
  simp at h

/-- A cut behind the first character falls inside another one if it does so in the rest. -/
lemma split_cons_of_le {size : ℕ} {c : Char} (cs : List Char) (hc : c.utf8Size ≤ size) :
    Split size (c :: cs) ↔ Split (size - c.utf8Size) cs := by
  constructor
  · rintro ⟨_ | ⟨d, before⟩, e, after, heq, hbefore, hafter⟩
    · obtain ⟨rfl, -⟩ := List.cons_eq_cons.mp heq
      simp at hafter
      omega
    · obtain ⟨rfl, hrest⟩ := List.cons_eq_cons.mp heq
      rw [length_encoded_cons] at hbefore
      rw [List.cons_append, length_encoded_cons] at hafter
      exact ⟨before, e, after, hrest, by omega, by omega⟩
  · rintro ⟨before, e, after, rfl, hbefore, hafter⟩
    refine ⟨c :: before, e, after, rfl, ?_, ?_⟩
    · rw [length_encoded_cons]
      omega
    · rw [List.cons_append, length_encoded_cons]
      omega

/-- A cut before the end of the first character falls inside it unless it falls before it. -/
lemma split_cons_of_lt {size : ℕ} {c : Char} (cs : List Char) (hc : size < c.utf8Size) :
    Split size (c :: cs) ↔ 0 < size := by
  constructor
  · rintro ⟨before, e, after, -, hbefore, -⟩
    omega
  · intro hpos
    exact ⟨[], c, cs, rfl, hpos, by simpa using hc⟩

instance decidableSplit (size : ℕ) : (cs : List Char) → Decidable (Split size cs)
  | [] => isFalse (not_split_nil size)
  | c :: cs =>
    if hc : c.utf8Size ≤ size then
      @decidable_of_iff _ _ (split_cons_of_le cs hc).symm (decidableSplit _ cs)
    else decidable_of_iff _ (split_cons_of_lt cs (not_le.mp hc)).symm

/-- What a cut leaves of the character it falls inside is read as one replacement character. -/
lemma take_encoded (size : ℕ) (cs : List Char) : ∃ part,
    (encoded cs).take size = encoded (whole size cs) ++ part ∧ 0 ∉ part ∧
      Lossy.run none part = if Split size cs then [replacement] else [] := by
  induction cs generalizing size with
  | nil => exact ⟨[], by simp [whole], List.not_mem_nil, by rw [if_neg (not_split_nil size)]; rfl⟩
  | cons c cs ih =>
    by_cases hc : c.utf8Size ≤ size
    · obtain ⟨part, htake, hzero, hrun⟩ := ih (size - c.utf8Size)
      refine ⟨part, ?_, hzero, ?_⟩
      · rw [whole, if_pos hc, encoded, encoded, List.flatMap_cons, List.flatMap_cons,
          List.take_append, List.take_of_length_le (by rwa [String.length_utf8EncodeChar]),
          String.length_utf8EncodeChar, htake, List.append_assoc]
      · rw [hrun]
        simp only [split_cons_of_le cs hc]
    · have hlt := not_le.mp hc
      have hlength : size < (String.utf8EncodeChar c).length := by
        rwa [String.length_utf8EncodeChar]
      refine ⟨(String.utf8EncodeChar c).take size, ?_, fun hzero => ?_, ?_⟩
      · rw [whole, if_neg hc, encoded, List.flatMap_cons,
          List.take_append_of_le_length hlength.le]
        rfl
      · -- The zero character has one byte, so nothing is left of it by a cut.
        rcases eq_or_ne c '\x00' with rfl | hne
        · obtain rfl : size = 0 := Nat.lt_one_iff.mp hlt
          exact List.not_mem_nil hzero
        · exact ne_zero_of_mem_utf8EncodeChar hne 0 (List.mem_of_mem_take hzero) rfl
      · simp only [split_cons_of_lt cs hlt]
        split_ifs with hpos
        · have hwhole : Lossy.run none ((String.utf8EncodeChar c).take size ++
              (String.utf8EncodeChar c).drop size) = [c] := by
            rw [List.take_append_drop, ← List.append_nil (String.utf8EncodeChar c),
              Lossy.run_utf8EncodeChar]
            rfl
          refine Lossy.run_of_cut ?_ ?_ hwhole
          · exact List.ne_nil_of_length_pos (by rw [List.length_take]; omega)
          · exact List.ne_nil_of_length_pos (by rw [List.length_drop]; omega)
        · obtain rfl : size = 0 := by omega
          rfl

/-! ### The first zero -/

/-- The first zero byte is that of the first zero character. -/
lemma takeWhile_encoded (cs : List Char) (rest : Bytes) :
    (encoded cs ++ rest).takeWhile (· ≠ 0) = encoded (cs.takeWhile (· ≠ '\x00')) ++
      if '\x00' ∈ cs then [] else rest.takeWhile (· ≠ 0) := by
  induction cs with
  | nil => rfl
  | cons c cs ih =>
    rcases eq_or_ne c '\x00' with rfl | hne
    · rw [if_pos List.mem_cons_self]
      rfl
    · have hnone : ∀ b ∈ String.utf8EncodeChar c, decide (b ≠ 0) = true := fun b hb =>
        decide_eq_true (ne_zero_of_mem_utf8EncodeChar hne b hb)
      rw [encoded, List.flatMap_cons, List.append_assoc, List.takeWhile_append_of_pos hnone, ih]
      simp [hne, hne.symm]

/-- The characters up to the first zero in two parts. -/
lemma takeWhile_append_ne_zero (cs rest : List Char) :
    (cs ++ rest).takeWhile (· ≠ '\x00') = cs.takeWhile (· ≠ '\x00') ++
      if '\x00' ∈ cs then [] else rest.takeWhile (· ≠ '\x00') := by
  induction cs with
  | nil => rfl
  | cons c cs ih =>
    rcases eq_or_ne c '\x00' with rfl | hne
    · simp
    · rw [List.cons_append, List.takeWhile_cons_of_pos (by simpa using hne), ih]
      simp [hne, hne.symm]

/-- What a field of so many bytes keeps of a text: the characters that fit as a whole, a replacement
for one that is cut apart, all of it up to the first zero and without the blanks at the end. -/
def kept (size : ℕ) (cs : List Char) : List Char :=
  trimEnd ((whole size cs ++ if Split size cs then [replacement] else []).takeWhile (· ≠ '\x00'))

lemma read_fill_eq (size : ℕ) (s : String) :
    read (fill size s) = String.ofList (kept size s.toList) := by
  obtain ⟨part, htake, hzero, hrun⟩ := take_encoded size s.toList
  have hmark : '\x00' ∉ if Split size s.toList then [replacement] else [] := by
    split_ifs
    · decide
    · exact List.not_mem_nil
  rw [read, fill, utf8, htake, List.append_assoc, takeWhile_encoded, lossy, Lossy.run_utf8, kept,
    takeWhile_append_ne_zero]
  generalize whole size s.toList = p
  generalize (if Split size s.toList then [replacement] else []) = mark at hrun hmark ⊢
  generalize size - _ = k
  split_ifs with hp
  · rfl
  · -- The text has no zero, so it is read up to the end of the field.
    have hall : mark.takeWhile (· ≠ '\x00') = mark :=
      List.takeWhile_eq_self_iff.mpr fun c hc => decide_eq_true fun h => hmark (h ▸ hc)
    rw [takeWhile_of_notMem (zero_notMem_append_blanks hzero k),
      Lossy.sound_none.run_append_blanks, hrun, ← List.append_assoc, trimEnd_append_blanks, hall]

/-- **What survives in a field** of any size, for every text: the longest beginning of whole
characters that fits, one replacement if the cut falls inside a character, all of it up to the first
zero and without the blanks at the end. So a text that fits is read back if it has no zero and no
blank at its end. -/
theorem read_fill_keeps (size : ℕ) (s : String) :
    Longest size s.toList (whole size s.toList) ∧
      read (fill size s) = String.ofList (kept size s.toList) ∧
      ((utf8 s).length ≤ size → '\x00' ∉ s.toList → s.toList.getLast? ≠ some ' ' →
        read (fill size s) = s) :=
  ⟨longest_whole size s.toList, read_fill_eq size s,
    fun hfits hzero hblank => read_fill hfits hzero hblank⟩

/-- A text of characters of all sizes that has no place for its last two bytes, and the same text in
a field of its size. -/
theorem read_fill_keeps_of_cut :
    (utf8 "aé€𝄞").length ≤ 10 ∧ '\x00' ∉ "aé€𝄞".toList ∧ "aé€𝄞".toList.getLast? ≠ some ' ' ∧
      read (fill 10 "aé€𝄞") = "aé€𝄞" ∧ read (fill 8 "aé€𝄞") = "aé€\uFFFD" ∧
      read (fill 6 "aé€𝄞") = "aé€" := by
  have hfits : (utf8 "aé€𝄞").length ≤ 10 := by decide
  have hzero : '\x00' ∉ "aé€𝄞".toList := by decide
  have hblank : "aé€𝄞".toList.getLast? ≠ some ' ' := by decide
  refine ⟨hfits, hzero, hblank, (read_fill_keeps 10 "aé€𝄞").2.2 hfits hzero hblank, ?_, ?_⟩
  · rw [(read_fill_keeps 8 "aé€𝄞").2.1]
    decide
  · rw [(read_fill_keeps 6 "aé€𝄞").2.1]
    decide

end Padded

end Cryptoki.Text
