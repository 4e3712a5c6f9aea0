/-!
Machine words of the cryptoki interface and the bytes of its character fields.

Codes, flags, slot numbers and session numbers are all 64 bit words. They are shown in decimal,
handles in hexadecimal.
-/

namespace Cryptoki

/-- The unsigned long of the interface. -/
abbrev Word := UInt64

/-- The number a library gives to one of its slots. -/
abbrev SlotId := Word

/-- The number a library gives to a session. Zero never names a session. -/
abbrev SessionId := Word

/-- An opaque number that stands for an object of ours. -/
abbrev Handle := Word

/-- A set of flag bits. -/
abbrev Flags := Word

abbrev Bytes := List UInt8

/-- Digits of `n` in lower case, least significant last, without leading zeros. -/
def hexDigits (n : Nat) : String := String.ofList (Nat.toDigits 16 n)

/-- Hexadecimal text of a word, marked by `0x`. -/
def Word.hex (w : Word) : String := "0x" ++ hexDigits w.toNat

/-- Two hexadecimal digits for each byte. -/
def Bytes.hex (bytes : Bytes) : String :=
  String.join (bytes.map fun b => (if b < 16 then "0" else "") ++ hexDigits b.toNat)

/-- Every bit of `flag` is set in `flags`. -/
def Flags.has (flags flag : Flags) : Bool := flags &&& flag == flag

end Cryptoki
