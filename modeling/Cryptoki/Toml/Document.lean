import Cryptoki.Text.Excerpt
import Cryptoki.Toml.Scalars
import Cryptoki.Toml.Tables

/-!
Reading a whole document.

First the text is read as a list of statements, headers and assignments. Then the tables are put
together: the assignments before the first header belong to the document itself, those after a
header to its table.

Settings are read from documents by way of any reader, and this is the one that is used. All that
is ever asked of a reader is that no key occurs twice in what it reads.
-/

namespace Cryptoki.Toml

open Text Reader

def array (element : Reader Value) : Reader Value := do
  char '['
  blankLines
  let elements ← sepBy (do let v ← element; blankLines; return v) (do char ','; blankLines)
  if !elements.isEmpty then
    let _ ← optional (do char ','; blankLines)
  char ']'
  return .array elements

def assignment (value : Reader Value) : Reader Assignment := do
  let k ← key
  char '='
  blanks
  let (v, span) ← spanned value
  return ⟨k, v, span⟩

def inlineTable (value : Reader Value) : Reader Value := do
  char '{'
  blanks
  let as ← sepBy (do let a ← assignment value; blanks; return a) (char ',')
  char '}'
  match Entries.assignAll as [] with
  | some es => return .table .inline es
  | none => failure

/-- A value that contains at most so many others inside each other. -/
def value : (depth : Nat) → Reader Value
  | 0 => scalar
  | depth + 1 => scalar <|> array (value depth) <|> inlineTable (value depth)

inductive Statement where
  | assignment (a : Assignment)
  | header (h : Header)

/-- A key between brackets. -/
def header (repeated : Bool) (opening closing : String) : Reader Header := do
  let (k, span) ← spanned (text opening *> key <* text closing)
  return ⟨repeated, k, span⟩

def statement : Reader Statement :=
  Statement.header <$> header true "[[" "]]" <|> Statement.header <$> header false "[" "]"
    <|> Statement.assignment <$> assignment (value (tooDeep - 1))

/-- What stands in one line, or in several where a value goes on. -/
def line : Reader (Option Statement) := do
  blanks
  let s ← optional statement
  blanks
  let _ ← optional comment
  return s

def byteOrderMark : Char := '\uFEFF'

def lines : Reader (List (Option Statement)) := do
  let _ ← optional (char byteOrderMark)
  let all ← many (do let l ← line; newline; return l)
  return all ++ [← line]

/-- The assignments before the first header, and the sections that the headers begin. -/
def sections : List Statement → List Assignment × List Section
  | [] => ([], [])
  | .assignment a :: rest => (a :: (sections rest).1, (sections rest).2)
  | .header h :: rest => ([], ⟨h, (sections rest).1⟩ :: (sections rest).2)

structure Document where
  characters : List Char
  /-- The assignments before the first header. -/
  top : List Assignment
  sections : List Section
  entries : Entries

def build (top : List Assignment) (sections : List Section) : Option Entries := do
  sections.foldlM Entries.addSection (← Entries.assignAll top [])

/-- The document that a text is, if it is one. -/
def parse (s : String) : Option Document := do
  let ls ← readAll lines s
  let (top, sections) := sections (ls.filterMap id)
  return ⟨s.toList, top, sections, ← build top sections⟩

namespace Document

variable (d : Document)

/-- From the begin of the text to the last value before the first header. -/
def span : Span :=
  let n := d.characters.length
  ⟨n, match d.top.getLast? with
    | some a => a.span.rest
    | none => n⟩

/-- Where the tables with the header of a key stand, from the first of them to the last. -/
def tablesSpan? (key : String) : Option Span := do
  let own := d.sections.filter fun s => s.header.key.path = [] ∧ s.header.key.last = key
  return { (← own.head?).span with rest := (← own.getLast?).span.rest }

/-- Where a value stands that is assigned to a key. -/
def valueSpan? (key : String) : Option Span :=
  (d.top.find? fun a => a.key.path = [] ∧ a.key.last = key).map (·.span)

/-- Where a key stands first. -/
def keySpan? (key : String) : Option Span :=
  let keys := d.top.map (·.key) ++ d.sections.map (·.header.key)
  (keys.find? fun k => k.head = key).map (·.start)

/-- Where an entry stands. A table that is only implied stands nowhere but for its key. -/
def spanOf (key : String) : Span :=
  (d.valueSpan? key <|> d.tablesSpan? key <|> d.keySpan? key).getD d.span

/-- The line in which an entry begins. -/
def excerptOf (key : String) : Excerpt := .ofSpan d.characters (d.spanOf key)

/-- The line in which the document begins. -/
def excerpt : Excerpt := .ofSpan d.characters d.span

end Document

end Cryptoki.Toml
