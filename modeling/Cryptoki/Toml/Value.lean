import Cryptoki.Text.Binary64

/-!
What a TOML document says: keys with values, in the order of the document.
-/

namespace Cryptoki.Toml

/-- How a table came about, on which it depends what may still be added to it. -/
inductive Form where
  /-- Written between braces. It is complete. -/
  | inline
  /-- Has a header of its own. -/
  | defined
  /-- Is only implied by the headers of tables inside it. -/
  | implied
  /-- Is only implied by dotted keys. -/
  | dotted
  deriving DecidableEq, Repr

inductive Value where
  | string (s : String)
  | integer (n : Int)
  | float (x : Text.Binary64)
  | boolean (b : Bool)
  /-- A date, a time or both, as it is written. -/
  | datetime (written : String)
  | array (elements : List Value)
  | table (form : Form) (entries : List (String × Value))
  /-- Tables with the same header: the earlier ones, and the entries of the last one. -/
  | tables (earlier : List Value) (last : List (String × Value))
  deriving Repr

/-- Keys and values in the order in which they were added. A key occurs once. -/
abbrev Entries := List (String × Value)

end Cryptoki.Toml
