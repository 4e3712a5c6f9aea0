import Cryptoki.Text.Reader

/-!
Strings, keys and the blanks between them.

The four kinds of string are told apart by their quotes. Control characters are nowhere allowed
but for the tabulator, and line ends only where lines may end.
-/

namespace Cryptoki.Toml

open Text Reader

/-- A character that may stand in a comment, and in a string unless it has a meaning there. -/
def isPlain (c : Char) : Bool := c = '\t' || (' ' ≤ c && c ≠ '\x7f')

def isBlank (c : Char) : Bool := c = ' ' || c = '\t'

def blanks : Reader Unit := do let _ ← spanWhile isBlank

def newline : Reader Unit := text "\n" <|> text "\r\n"

def comment : Reader Unit := do
  char '#'
  let _ ← spanWhile isPlain

/-- Blanks, comments and line ends. -/
def blankLines : Reader Unit := do
  let _ ← many ((do let _ ← spanWhile1 isBlank) <|> newline <|> (do comment; newline))

/-- The character with the number that so many hexadecimal digits give. -/
def numbered (digits : Nat) : Reader Char := do
  let ds ← (List.replicate digits ()).mapM fun _ => satisfy (isDigitOf 16)
  let n := numeral 16 ds
  if n.isValidChar then return Char.ofNat n else failure

def escape : Reader (List Char) := do
  char '\\'
  match ← satisfy fun _ => true with
  | 'b' => return ['\x08']
  | 't' => return ['\t']
  | 'n' => return ['\n']
  | 'f' => return ['\x0c']
  | 'r' => return ['\r']
  | '"' => return ['"']
  | '\\' => return ['\\']
  | 'u' => return [← numbered 4]
  | 'U' => return [← numbered 8]
  | _ => failure

/-- A line end that is not part of the string, nor are the blanks that follow it. -/
def escapedNewline : Reader (List Char) := do
  char '\\'
  blanks
  newline
  let _ ← many ((do let _ ← spanWhile1 isBlank) <|> newline)
  return []

def joined (piece : Reader (List Char)) : Reader (List Char) := List.flatten <$> many piece

def basicRun : Reader (List Char) := spanWhile1 fun c => isPlain c && c ≠ '"' && c ≠ '\\'

def literalRun : Reader (List Char) := spanWhile1 fun c => isPlain c && c ≠ '\''

def basic : Reader (List Char) := do
  char '"'
  let s ← joined (basicRun <|> escape)
  char '"'
  return s

def literal : Reader (List Char) := do
  char '\''
  let s ← spanWhile fun c => isPlain c && c ≠ '\''
  char '\''
  return s

/-- Fewer quotes than would end a string of many lines. -/
def fewQuotes (quote : Char) : Reader (List Char) := do
  let qs ← spanWhile1 (· = quote)
  if qs.length ≤ 2 then return qs else failure

/-- The quotes at the end of a string of many lines. Up to two of them are part of it. -/
def closing (quote : Char) : Reader (List Char) := do
  let qs ← spanWhile1 (· = quote)
  if 3 ≤ qs.length ∧ qs.length ≤ 5 then return qs.drop 3 else failure

/-- A string of many lines. A line end right at its begin is not part of it. -/
def multiline (quote : Char) (piece : Reader (List Char)) : Reader (List Char) := do
  char quote; char quote; char quote
  let _ ← optional newline
  let s ← joined (piece <|> (do newline; return ['\n']) <|> fewQuotes quote)
  return s ++ (← closing quote)

def string : Reader String :=
  String.ofList <$> (multiline '"' (basicRun <|> escapedNewline <|> escape) <|> basic
    <|> multiline '\'' literalRun <|> literal)

def isBare (c : Char) : Bool := c.isAlphanum || c = '_' || c = '-'

def simpleKey : Reader String := String.ofList <$> (spanWhile1 isBare <|> basic <|> literal)

/-- How many parts of a key, or values inside each other, are too many. -/
def tooDeep : Nat := 80

/-- The parts of a key that dots separate. There is at least one. -/
def keyParts : Reader (List (String × Span)) := do
  let parts ← sepBy1 (do blanks; let k ← spanned simpleKey; blanks; return k) (char '.')
  if parts.length < tooDeep then return parts else failure

/-- A dotted key, which leads through some tables to the last one. -/
structure Key where
  path : List String
  last : String
  /-- Where the first part stands. -/
  start : Span
  deriving DecidableEq, Repr

/-- The first part. -/
def Key.head (k : Key) : String := k.path.headD k.last

def key : Reader Key := do
  let parts ← keyParts
  match parts.head?, (parts.map Prod.fst).getLast? with
  | some (_, start), some last => return ⟨(parts.map Prod.fst).dropLast, last, start⟩
  | _, _ => failure

end Cryptoki.Toml
