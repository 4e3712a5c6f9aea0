import Cryptoki.Word

/-!
Reading bytes as UTF-8 text without ever failing.

The reader is a machine that takes one byte at a time. It stands between characters, or inside a
character whose lead byte it has seen. Each longest run of bytes that starts a character but is
not continued, and each byte that can start none, becomes one replacement character.
-/

namespace Cryptoki.Text

/-- What stands for bytes that are no text. -/
def replacement : Char := '\uFFFD'

/-- The UTF-8 bytes of a text. -/
def utf8 (s : String) : Bytes := s.toList.flatMap String.utf8EncodeChar

namespace Lossy

/-- An unfinished character: `missing + 1` more bytes are needed, the next one from `low` to `high`. -/
structure Pending where
  missing : Nat
  value : Nat
  low : UInt8
  high : UInt8
  deriving DecidableEq, Repr

/-- The reader stands between two characters or inside one. -/
abbrev State := Option Pending

/-- The bytes that may follow a lead byte are narrowed where a shorter form, a surrogate or a
value above the last character would begin. -/
def lead (b : UInt8) : List Char × State :=
  if b < 0x80 then ([Char.ofNat b.toNat], none)
  else if b < 0xC2 then ([replacement], none)
  else if b < 0xE0 then ([], some ⟨0, b.toNat % 32, 0x80, 0xBF⟩)
  else if b < 0xF0 then
    ([], some ⟨1, b.toNat % 16, if b = 0xE0 then 0xA0 else 0x80, if b = 0xED then 0x9F else 0xBF⟩)
  else if b < 0xF5 then
    ([], some ⟨2, b.toNat % 8, if b = 0xF0 then 0x90 else 0x80, if b = 0xF4 then 0x8F else 0xBF⟩)
  else ([replacement], none)

/-- Takes one byte: the characters it completes and the new state. -/
def step (s : State) (b : UInt8) : List Char × State :=
  match s with
  | none => lead b
  | some p =>
    if p.low ≤ b ∧ b ≤ p.high then
      let value := p.value * 64 + b.toNat % 64
      match p.missing with
      | 0 => ([Char.ofNat value], none)
      | n + 1 => ([], some ⟨n, value, 0x80, 0xBF⟩)
    else (replacement :: (lead b).1, (lead b).2)

/-- What is left to say when the bytes end. -/
def flush : State → List Char
  | none => []
  | some _ => [replacement]

def run (s : State) : Bytes → List Char
  | [] => flush s
  | b :: bs => (step s b).1 ++ run (step s b).2 bs

@[simp] theorem run_nil (s : State) : run s [] = flush s := rfl

@[simp] theorem run_cons (s : State) (b : UInt8) (bs : Bytes) :
    run s (b :: bs) = (step s b).1 ++ run (step s b).2 bs := rfl

end Lossy

/-- The text of some bytes, with one replacement character for each maximal ill formed part. -/
def lossy (bytes : Bytes) : List Char := Lossy.run none bytes

end Cryptoki.Text
