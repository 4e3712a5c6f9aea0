import Cryptoki.Text.Reader

/-!
A line of a text with a mark under what is meant.

Columns count characters, but a mark is as wide as the bytes of what it marks. It ends with the
line, and there is always some of it.
-/

namespace Cryptoki.Text

structure Excerpt where
  /-- Lines and columns are counted from zero. -/
  line : Nat
  column : Nat
  content : String
  width : Nat
  deriving DecidableEq, Repr

namespace Excerpt

def byteCount (cs : List Char) : Nat := cs.foldl (fun n c => n + c.utf8Size) 0

/-- The line in which a stretch of a text begins. -/
def ofSpan (cs : List Char) (s : Span) : Excerpt :=
  let before := cs.take (cs.length - s.first)
  let after := cs.drop (cs.length - s.first)
  let margin := (before.reverse.takeWhile (· ≠ '\n')).reverse
  let content := margin ++ after.takeWhile (· ≠ '\n')
  let marked := byteCount (after.take (s.first - s.rest))
  { line := before.count '\n'
    column := margin.length
    content := String.ofList content
    width := max 1 (min marked (byteCount content - margin.length)) }

def repeated (n : Nat) (c : Char) : String := String.ofList (List.replicate n c)

/-- The line with its number to the left and the mark below it. -/
def lines (e : Excerpt) : List String :=
  let number := toString (e.line + 1)
  let margin := repeated (number.length + 1) ' ' ++ "|"
  [margin, number ++ " | " ++ e.content,
   margin ++ repeated (e.column + 1) ' ' ++ repeated e.width '^']

end Excerpt

end Cryptoki.Text
