import Cryptoki.Text.Lossy

/-!
The records a library fills in, and what they say once decoded.

Texts of a record are character fields of fixed size, padded with blanks. A field has no
terminator, although some libraries end its text with a zero byte all the same. Reading a field
therefore stops at the first zero byte and drops trailing blanks; filling one cuts the text at the
size of the field, wherever in a character that falls.
-/

namespace Cryptoki

/-! ### Fields -/

namespace Text.Padded

/-- Drops the blanks at the end. -/
def trimEnd (cs : List Char) : List Char := (cs.reverse.dropWhile (· = ' ')).reverse

/-- The text of a field. -/
def read (field : Bytes) : String :=
  String.ofList (trimEnd (lossy (field.takeWhile (· ≠ 0))))

/-- A field of `size` bytes holding as many bytes of the text as fit. -/
def fill (size : Nat) (s : String) : Bytes :=
  (utf8 s).take size ++ List.replicate (size - (utf8 s).length) 0x20

theorem fill_length (size : Nat) (s : String) : (fill size s).length = size := by
  simp only [fill, List.length_append, List.length_take, List.length_replicate]
  omega

end Text.Padded

/-! ### Records -/

structure Version where
  major : UInt8
  minor : UInt8
  deriving DecidableEq, Repr

/-- The minor number has two digits at least. -/
def Version.text (v : Version) : String :=
  let minor := toString v.minor.toNat
  toString v.major.toNat ++ "." ++ (if minor.length < 2 then "0" ++ minor else minor)

namespace Record

/-- What a library says about itself. -/
structure Library where
  cryptoki : Version
  manufacturer : Bytes
  flags : Flags
  description : Bytes
  library : Version
  deriving DecidableEq, Repr

structure Slot where
  description : Bytes
  manufacturer : Bytes
  flags : Flags
  hardware : Version
  firmware : Version
  deriving DecidableEq, Repr

structure Token where
  label : Bytes
  manufacturer : Bytes
  model : Bytes
  serial : Bytes
  flags : Flags
  deriving DecidableEq, Repr

/-- Sizes of the character fields. -/
def labelSize : Nat := 32
def manufacturerSize : Nat := 32
def libraryDescriptionSize : Nat := 32
def slotDescriptionSize : Nat := 64
def modelSize : Nat := 16
def serialSize : Nat := 16

def zeros (n : Nat) : Bytes := List.replicate n 0

/-- A record before a library has written to it. -/
def Library.blank : Library :=
  ⟨⟨0, 0⟩, zeros manufacturerSize, 0, zeros libraryDescriptionSize, ⟨0, 0⟩⟩

def Slot.blank : Slot :=
  ⟨zeros slotDescriptionSize, zeros manufacturerSize, 0, ⟨0, 0⟩, ⟨0, 0⟩⟩

def Token.blank : Token :=
  ⟨zeros labelSize, zeros manufacturerSize, zeros modelSize, zeros serialSize, 0⟩

/-- Flag bits of slots. -/
def tokenPresent : Flags := 0x1
def removableDevice : Flags := 0x2
def hardwareSlot : Flags := 0x4

/-- Flag bits of tokens. -/
def loginRequired : Flags := 0x4
def userPinInitialized : Flags := 0x8
def protectedAuthenticationPath : Flags := 0x100
def tokenInitialized : Flags := 0x400

end Record

structure LibraryInfo where
  cryptoki : Version
  manufacturer : String
  flags : Flags
  description : String
  library : Version
  deriving DecidableEq, Repr

namespace LibraryInfo

def ofRecord (r : Record.Library) : LibraryInfo :=
  { cryptoki := r.cryptoki
    manufacturer := Text.Padded.read r.manufacturer
    flags := r.flags
    description := Text.Padded.read r.description
    library := r.library }

def text (i : LibraryInfo) : String :=
  "cryptoki " ++ i.cryptoki.text ++ ", manufacturer '" ++ i.manufacturer ++ "', description '"
    ++ i.description ++ "', library version " ++ i.library.text

end LibraryInfo

structure SlotInfo where
  id : SlotId
  description : String
  manufacturer : String
  tokenPresent : Bool
  removableDevice : Bool
  hardwareSlot : Bool
  hardware : Version
  firmware : Version
  deriving DecidableEq, Repr

def SlotInfo.ofRecord (id : SlotId) (r : Record.Slot) : SlotInfo :=
  { id
    description := Text.Padded.read r.description
    manufacturer := Text.Padded.read r.manufacturer
    tokenPresent := Flags.has r.flags Record.tokenPresent
    removableDevice := Flags.has r.flags Record.removableDevice
    hardwareSlot := Flags.has r.flags Record.hardwareSlot
    hardware := r.hardware
    firmware := r.firmware }

structure TokenInfo where
  label : String
  manufacturer : String
  model : String
  serial : String
  loginRequired : Bool
  protectedAuthenticationPath : Bool
  tokenInitialized : Bool
  deriving DecidableEq, Repr

def TokenInfo.ofRecord (r : Record.Token) : TokenInfo :=
  { label := Text.Padded.read r.label
    manufacturer := Text.Padded.read r.manufacturer
    model := Text.Padded.read r.model
    serial := Text.Padded.read r.serial
    loginRequired := Flags.has r.flags Record.loginRequired
    protectedAuthenticationPath := Flags.has r.flags Record.protectedAuthenticationPath
    tokenInitialized := Flags.has r.flags Record.tokenInitialized }

end Cryptoki
