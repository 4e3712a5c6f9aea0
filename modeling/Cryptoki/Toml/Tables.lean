import Cryptoki.Toml.Strings
import Cryptoki.Toml.Value

/-!
Putting values into tables.

A key is never given twice. A table is added to as long as its form allows: by dotted keys if
dotted keys made it, and by a header once, if so far it was only implied. The last of several
tables with the same header stands for all of them.
-/

namespace Cryptoki.Toml

/-- A value for a key. -/
structure Assignment where
  key : Key
  value : Value
  /-- Where the value stands. -/
  span : Text.Span

structure Header where
  /-- The header adds one more table to those that have the same. -/
  repeated : Bool
  key : Key
  span : Text.Span

structure Section where
  header : Header
  assignments : List Assignment

/-- From the header to the last value. -/
def Section.span (s : Section) : Text.Span :=
  match s.assignments.getLast? with
  | some a => { s.header.span with rest := a.span.rest }
  | none => s.header.span

namespace Entries

def replace (key : String) (v : Value) (es : Entries) : Entries :=
  es.map fun e => if e.1 = key then (key, v) else e

def erase (key : String) (es : Entries) : Entries := es.filter fun e => e.1 ≠ key

/-- Assigns a value by a dotted key. -/
def assign : (path : List String) → String → Value → Entries → Option Entries
  | [], key, v, es => if (es.lookup key).isSome then none else some (es ++ [(key, v)])
  | p :: ps, key, v, es =>
    match es.lookup p with
    | none => (assign ps key v []).map fun inner => es ++ [(p, .table .dotted inner)]
    | some (.table form inner) =>
      if form = .dotted ∨ (form = .implied ∧ ps ≠ []) then
        (assign ps key v inner).map fun inner => replace p (.table form inner) es
      else none
    | some (.tables earlier last) =>
      if ps ≠ [] then
        (assign ps key v last).map fun last => replace p (.tables earlier last) es
      else none
    | some _ => none

def assignAll (as : List Assignment) (es : Entries) : Option Entries :=
  as.foldlM (fun es a => assign a.key.path a.key.last a.value es) es

/-- Changes the table to which the path of a header leads. -/
def within (f : Entries → Option Entries) : (path : List String) → Entries → Option Entries
  | [], es => f es
  | p :: ps, es =>
    match es.lookup p with
    | none => (within f ps []).map fun inner => es ++ [(p, .table .implied inner)]
    | some (.table .inline _) => none
    | some (.table form inner) =>
      (within f ps inner).map fun inner => replace p (.table form inner) es
    | some (.tables earlier last) =>
      (within f ps last).map fun last => replace p (.tables earlier last) es
    | some _ => none

/-- Defines a table. One that was implied keeps its entries but moves to the end. -/
def define (key : String) (as : List Assignment) (es : Entries) : Option Entries :=
  match es.lookup key with
  | none => (assignAll as []).map fun inner => es ++ [(key, .table .defined inner)]
  | some (.table .implied inner) =>
    (assignAll as inner).map fun inner => erase key es ++ [(key, .table .defined inner)]
  | some _ => none

/-- Adds a table to those with the same header. -/
def extend (key : String) (as : List Assignment) (es : Entries) : Option Entries :=
  match es.lookup key with
  | none => (assignAll as []).map fun last => es ++ [(key, .tables [] last)]
  | some (.tables earlier last) => (assignAll as []).map fun next =>
      replace key (.tables (earlier ++ [.table .defined last]) next) es
  | some _ => none

def addSection (es : Entries) (s : Section) : Option Entries :=
  let change := if s.header.repeated then extend else define
  within (change s.header.key.last s.assignments) s.header.key.path es

end Entries

end Cryptoki.Toml
