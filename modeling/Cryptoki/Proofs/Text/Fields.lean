import Cryptoki.Record
import Mathlib.Data.List.DropRight
import Mathlib.Data.List.TakeWhile
import Mathlib.Tactic

/-!
Text that was written to a padded field is read back.

The reader of bytes is a machine, so a character is followed through it byte by byte, once for each
length that its encoding can have. After a character the machine stands between two characters
again, whatever comes next, and so a text is read from its bytes one character after the other.
-/

namespace Cryptoki.Text

namespace Lossy

/-! ### Single bytes -/

/-- What a lead byte says, by its number. -/
lemma lead_ofNat {n : ℕ} (hn : n < 256) : lead (UInt8.ofNat n) =
    if n < 128 then ([Char.ofNat n], none)
    else if n < 194 then ([replacement], none)
    else if n < 224 then ([], some ⟨0, n % 32, 0x80, 0xBF⟩)
    else if n < 240 then
      ([], some ⟨1, n % 16, if n = 224 then 0xA0 else 0x80, if n = 237 then 0x9F else 0xBF⟩)
    else if n < 245 then
      ([], some ⟨2, n % 8, if n = 240 then 0x90 else 0x80, if n = 244 then 0x8F else 0xBF⟩)
    else ([replacement], none) := by
  have hb : (UInt8.ofNat n).toNat = n := by rw [UInt8.toNat_ofNat', Nat.mod_eq_of_lt hn]
  simp only [lead, UInt8.lt_iff_toNat_lt, ← UInt8.toNat_inj, hb, UInt8.reduceToNat]

/-- A byte that carries six bits of a character. -/
abbrev tail (v : ℕ) : UInt8 := UInt8.ofNat (v % 64 + 128)

lemma toNat_tail (v : ℕ) : (tail v).toNat = v % 64 + 128 := by
  rw [UInt8.toNat_ofNat', Nat.mod_eq_of_lt (by omega)]

/-- A byte within the bounds carries a character on. -/
lemma step_tail {missing value v : ℕ} {low high : UInt8} (hlow : low.toNat ≤ v % 64 + 128)
    (hhigh : v % 64 + 128 ≤ high.toNat) : step (some ⟨missing, value, low, high⟩) (tail v) =
      match missing with
      | 0 => ([Char.ofNat (value * 64 + v % 64)], none)
      | n + 1 => ([], some ⟨n, value * 64 + v % 64, 0x80, 0xBF⟩) := by
  have hbits : (v % 64 + 128) % 64 = v % 64 := by omega
  have hwithin : low ≤ tail v ∧ tail v ≤ high := by
    rw [UInt8.le_iff_toNat_le, UInt8.le_iff_toNat_le, toNat_tail]
    exact ⟨hlow, hhigh⟩
  rcases missing with _ | n
  · simp only [step, hwithin, and_self, if_true, toNat_tail, hbits]
  · simp only [step, hwithin, and_self, if_true, toNat_tail, hbits]

/-! ### Characters -/

lemma run_of_two_bytes {v : ℕ} (hlow : 0x80 ≤ v) (hhigh : v < 0x800) (bs : Bytes) :
    run none (UInt8.ofNat (v / 64 % 32 + 192) :: tail v :: bs) = Char.ofNat v :: run none bs := by
  have hlead : lead (UInt8.ofNat (v / 64 % 32 + 192)) = ([], some ⟨0, v / 64, 0x80, 0xBF⟩) := by
    rw [lead_ofNat (by omega), if_neg (by omega), if_neg (by omega), if_pos (by omega)]
    congr 3
    omega
  have hvalue : v / 64 * 64 + v % 64 = v := by omega
  rw [run_cons, step, hlead, run_cons, step_tail (by simp) (by simp; omega)]
  simp only [hvalue, List.nil_append, List.singleton_append]

/-- The bounds after the lead byte leave out the shorter forms and the surrogates. -/
lemma run_of_three_bytes {v : ℕ} (hlow : 0x800 ≤ v) (hhigh : v < 0x10000)
    (hscalar : v < 0xD800 ∨ 0xDFFF < v) (bs : Bytes) :
    run none (UInt8.ofNat (v / 4096 % 16 + 224) :: tail (v / 64) :: tail v :: bs) =
      Char.ofNat v :: run none bs := by
  have hlead : lead (UInt8.ofNat (v / 4096 % 16 + 224)) =
      ([], some ⟨1, v / 4096, if v / 4096 = 0 then 0xA0 else 0x80,
        if v / 4096 = 13 then 0x9F else 0xBF⟩) := by
    rw [lead_ofNat (by omega), if_neg (by omega), if_neg (by omega), if_neg (by omega),
      if_pos (by omega)]
    have hvalue : (v / 4096 % 16 + 224) % 16 = v / 4096 := by omega
    have hfirst : v / 4096 % 16 + 224 = 224 ↔ v / 4096 = 0 := by omega
    have hsurrogates : v / 4096 % 16 + 224 = 237 ↔ v / 4096 = 13 := by omega
    simp only [hvalue, hfirst, hsurrogates]
  have hvalue : (v / 4096 * 64 + v / 64 % 64) * 64 + v % 64 = v := by omega
  rw [run_cons, step, hlead, run_cons, step_tail, run_cons, step_tail (by simp) (by simp; omega)]
  · simp only [hvalue, List.nil_append, List.singleton_append]
  · split_ifs with hfirst
    · simp only [UInt8.reduceToNat]
      omega
    · simp
  · split_ifs with hsurrogates
    · simp only [UInt8.reduceToNat]
      omega
    · simp only [UInt8.reduceToNat]
      omega

/-- The bounds after the lead byte leave out the shorter forms and what is above the last
character. -/
lemma run_of_four_bytes {v : ℕ} (hlow : 0x10000 ≤ v) (hhigh : v < 0x110000) (bs : Bytes) :
    run none (UInt8.ofNat (v / 262144 % 8 + 240) :: tail (v / 4096) :: tail (v / 64) :: tail v ::
      bs) = Char.ofNat v :: run none bs := by
  have hlead : lead (UInt8.ofNat (v / 262144 % 8 + 240)) =
      ([], some ⟨2, v / 262144, if v / 262144 = 0 then 0x90 else 0x80,
        if v / 262144 = 4 then 0x8F else 0xBF⟩) := by
    rw [lead_ofNat (by omega), if_neg (by omega), if_neg (by omega), if_neg (by omega),
      if_neg (by omega), if_pos (by omega)]
    have hvalue : (v / 262144 % 8 + 240) % 8 = v / 262144 := by omega
    have hfirst : v / 262144 % 8 + 240 = 240 ↔ v / 262144 = 0 := by omega
    have hlast : v / 262144 % 8 + 240 = 244 ↔ v / 262144 = 4 := by omega
    simp only [hvalue, hfirst, hlast]
  have hvalue : ((v / 262144 * 64 + v / 4096 % 64) * 64 + v / 64 % 64) * 64 + v % 64 = v := by
    omega
  rw [run_cons, step, hlead, run_cons, step_tail, run_cons, step_tail (by simp) (by simp; omega),
    run_cons, step_tail (by simp) (by simp; omega)]
  · simp only [hvalue, List.nil_append, List.singleton_append]
  · split_ifs with hfirst
    · simp only [UInt8.reduceToNat]
      omega
    · simp
  · split_ifs with hlast
    · simp only [UInt8.reduceToNat]
      omega
    · simp only [UInt8.reduceToNat]
      omega

/-- **A character is read from its bytes**, whatever follows them. -/
lemma run_utf8EncodeChar (c : Char) (bs : Bytes) :
    run none (String.utf8EncodeChar c ++ bs) = c :: run none bs := by
  have hc : Char.ofNat c.val.toNat = c := Char.ofNat_toNat c
  have hvalid : c.val.toNat.isValidChar := c.valid
  simp only [String.utf8EncodeChar]
  generalize c.val.toNat = v at hc hvalid ⊢
  rw [← hc]
  split_ifs with hone htwo hthree
  · have hlead : lead (UInt8.ofNat v) = ([Char.ofNat v], none) := by
      rw [lead_ofNat (by omega), if_pos (by omega)]
    rw [List.singleton_append, run_cons, step, hlead, List.singleton_append]
  · exact run_of_two_bytes (by omega) (by omega) bs
  · refine run_of_three_bytes (by omega) (by omega) ?_ bs
    rcases hvalid with hlow | hhigh
    · exact .inl hlow
    · exact .inr hhigh.1
  · refine run_of_four_bytes (by omega) ?_ bs
    rcases hvalid with hlow | hhigh
    · omega
    · exact hhigh.2

/-! ### Texts -/

/-- **A text is read from its bytes**, whatever follows them. -/
lemma run_utf8 (cs : List Char) (bs : Bytes) :
    run none (cs.flatMap String.utf8EncodeChar ++ bs) = cs ++ run none bs := by
  induction cs with
  | nil => rfl
  | cons c cs ih =>
    rw [List.flatMap_cons, List.append_assoc, run_utf8EncodeChar, ih, List.cons_append]

/-- Blanks are read as they are. -/
lemma run_blanks (n : ℕ) : run none (List.replicate n 0x20) = List.replicate n ' ' := by
  induction n with
  | zero => rfl
  | succ n ih =>
    rw [List.replicate_succ, run_cons, List.replicate_succ]
    exact congrArg (' ' :: ·) ih

end Lossy

/-- No byte of a character is zero, unless the character is. -/
lemma ne_zero_of_mem_utf8EncodeChar {c : Char} (hc : c ≠ '\x00') :
    ∀ b ∈ String.utf8EncodeChar c, b ≠ 0 := by
  have hv : c.val.toNat ≠ 0 := fun h => hc (Char.ext (UInt32.toNat_inj.mp h))
  have hbyte (n : ℕ) (hpos : 0 < n) (hn : n < 256) : UInt8.ofNat n ≠ 0 := by
    rw [Ne, ← UInt8.toNat_inj, UInt8.toNat_ofNat', Nat.mod_eq_of_lt hn]
    exact hpos.ne'
  simp only [String.utf8EncodeChar]
  generalize c.val.toNat = v at hv ⊢
  split_ifs with hone htwo hthree
  · simpa using hbyte v (by omega) (by omega)
  · simp only [List.forall_mem_cons, List.not_mem_nil, false_implies, implies_true, and_true]
    exact ⟨hbyte _ (by omega) (by omega), hbyte _ (by omega) (by omega)⟩
  · simp only [List.forall_mem_cons, List.not_mem_nil, false_implies, implies_true, and_true]
    exact ⟨hbyte _ (by omega) (by omega), hbyte _ (by omega) (by omega),
      hbyte _ (by omega) (by omega)⟩
  · simp only [List.forall_mem_cons, List.not_mem_nil, false_implies, implies_true, and_true]
    exact ⟨hbyte _ (by omega) (by omega), hbyte _ (by omega) (by omega),
      hbyte _ (by omega) (by omega), hbyte _ (by omega) (by omega)⟩

namespace Padded

/-- Blanks at the end are dropped, up to the last character that is none. -/
lemma trimEnd_append {cs : List Char} (n : ℕ) (hcs : cs.getLast? ≠ some ' ') :
    trimEnd (cs ++ List.replicate n ' ') = cs := by
  change (cs ++ List.replicate n ' ').rdropWhile (· = ' ') = cs
  induction n with
  | zero =>
    rw [List.replicate_zero, List.append_nil, List.rdropWhile_eq_self_iff]
    intro hne hlast
    exact hcs (by rw [List.getLast?_eq_some_getLast hne, of_decide_eq_true hlast])
  | succ n ih =>
    rw [List.replicate_succ', ← List.append_assoc, List.rdropWhile_concat_pos _ _ _ (by simp)]
    exact ih

/-- **What fits is read back**, if it has no zero character and no blank at its end. -/
theorem read_fill {size : ℕ} {s : String} (hfits : (utf8 s).length ≤ size)
    (hzero : '\x00' ∉ s.toList) (hblank : s.toList.getLast? ≠ some ' ') :
    read (fill size s) = s := by
  have hnone : ∀ b ∈ fill size s, decide (b ≠ 0) = true := by
    intro b hb
    rw [fill, List.take_of_length_le hfits] at hb
    rcases List.mem_append.mp hb with hb | hb
    · obtain ⟨c, hc, hbyte⟩ := List.mem_flatMap.mp hb
      exact decide_eq_true (ne_zero_of_mem_utf8EncodeChar (fun h => hzero (h ▸ hc)) b hbyte)
    · rw [List.eq_of_mem_replicate hb]
      decide
  rw [read, List.takeWhile_eq_self_iff.mpr hnone, fill, List.take_of_length_le hfits, lossy, utf8,
    Lossy.run_utf8, Lossy.run_blanks, trimEnd_append _ hblank, String.ofList_toList]

end Padded

end Cryptoki.Text
