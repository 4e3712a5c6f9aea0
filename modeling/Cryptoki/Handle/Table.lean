import Cryptoki.Fault

/-!
Objects behind opaque handles.

A host can keep no reference to an object of ours, only a number, and may hand back any number at
all. A table stores the objects in numbered entries; the handle of an object is made of the tag
of the table, the generation of its entry and the number of the entry. An entry that is vacated
moves on to its next generation, so that handles to what it held before are told apart from
handles to what it holds next.
-/

namespace Cryptoki

namespace Handle

/-- Where the generation begins in a handle: above 32 bits. -/
def generationUnit : Nat := 0x100000000

/-- Where the tag begins in a handle: above 48 bits. -/
def tagUnit : Nat := 0x1000000000000

/-- The tag of a table in the upper 16 bits, then the generation of an entry in 16 bits, then the
number of the entry in 32 bits. -/
def pack (tag generation : UInt16) (index : Nat) : Handle :=
  UInt64.ofNat
    (tag.toNat * tagUnit + generation.toNat * generationUnit + index % generationUnit)

def tag (h : Handle) : UInt16 := UInt16.ofNat (h.toNat / tagUnit)

def generation (h : Handle) : UInt16 := UInt16.ofNat (h.toNat / generationUnit)

def index (h : Handle) : Nat := h.toNat % generationUnit

/-- One place of a table. -/
structure Entry (α : Type) where
  generation : UInt16
  value : Option α

namespace Entry

/-- Generations start at one and skip zero when they wrap. -/
def next (g : UInt16) : UInt16 := if g + 1 = 0 then 1 else g + 1

variable {α : Type}

def vacate (e : Entry α) : Entry α := ⟨next e.generation, none⟩

def occupy (a : α) (e : Entry α) : Entry α := { e with value := some a }

def holds (p : α → Bool) (e : Entry α) : Bool := e.value.any p

end Entry

/-- A table of objects of one kind. Its tag is not zero, so neither is any of its handles. -/
structure Table (α : Type) where
  tag : UInt16
  /-- What the objects are called in faults. -/
  kind : String
  entries : Array (Entry α)
  /-- Entries without an object, the one vacated last first. -/
  vacant : List Nat
  tag_ne_zero : tag ≠ 0

namespace Table

variable {α : Type}

/-- Why no table has the tag zero. -/
def zeroTag : String := "handle magic must not be zero"

def empty (tag : UInt16) (kind : String) (h : tag ≠ 0) : Table α := ⟨tag, kind, #[], [], h⟩

/-- An empty table, unless the tag is zero. -/
def create (tag : UInt16) (kind : String) : Except String (Table α) :=
  if h : tag ≠ 0 then .ok (empty tag kind h) else .error zeroTag

def stale (t : Table α) (h : Handle) : Fault := .staleHandle t.kind h

/-- The generation of an entry; one for an entry that does not exist yet. -/
def generationAt (t : Table α) (i : Nat) : UInt16 :=
  match t.entries[i]? with
  | some e => e.generation
  | none => 1

/-- Stores an object in the entry vacated last, or else in a new one.

There are 32 bits in a handle for the number of an entry, so this describes tables of up to
2 ^ 32 entries. The handle of one entry more would have the number of the first entry, and where
entries are found by these bits the object would be put into that one, over what it holds. -/
def insert (t : Table α) (a : α) : Handle × Table α :=
  match t.vacant with
  | i :: rest =>
    (pack t.tag (t.generationAt i) i,
      { t with entries := t.entries.modify i (Entry.occupy a), vacant := rest })
  | [] => (pack t.tag 1 t.entries.size, { t with entries := t.entries.push ⟨1, some a⟩ })

def find? (t : Table α) (h : Handle) : Option α :=
  if h.tag = t.tag then
    match t.entries[h.index]? with
    | some e => if e.generation = h.generation then e.value else none
    | none => none
  else none

def resolve (t : Table α) (h : Handle) : Except Fault α :=
  match t.find? h with
  | some a => .ok a
  | none => .error (t.stale h)

/-- Takes an object out, which makes its handle stale. -/
def remove (t : Table α) (h : Handle) : Except Fault α × Table α :=
  match t.find? h with
  | some a =>
    (.ok a, { t with
      entries := t.entries.modify h.index Entry.vacate
      vacant := h.index :: t.vacant })
  | none => (.error (t.stale h), t)

/-- The entries whose object satisfies `p`, in ascending order. -/
def holding (t : Table α) (p : α → Bool) : List Nat :=
  (List.range t.entries.size).filter fun i => (t.entries[i]?).any (Entry.holds p)

/-- Takes out every object that satisfies `p`, in the order of the entries. -/
def removeWhere (t : Table α) (p : α → Bool) : List α × Table α :=
  (t.entries.toList.filterMap fun e => e.value.filter p,
    { t with
      entries := t.entries.map fun e => if e.holds p then e.vacate else e
      vacant := (t.holding p).reverse ++ t.vacant })

/-- The number of objects. -/
def size (t : Table α) : Nat := t.entries.size - t.vacant.length

def isEmpty (t : Table α) : Bool := t.size = 0

end Table

end Handle

end Cryptoki
