import PageLayout.Decimal.Spelling
import PageLayout.Text.Quoted

/-!
# TOML values

A TOML text is a table. Every value and every key remembers which part of the text it comes from,
so that what is wrong with a value can be shown in the text; tables remember how they came about,
which decides whether the text may still add to them.
-/

namespace PageLayout.Toml

/-- A part of a text, measured from the end of the text. -/
structure Extent where
  /-- How many characters are left from the beginning of the part. -/
  start : Nat
  /-- How many characters are left after the part. -/
  stop : Nat
deriving DecidableEq, Repr, Inhabited

/-- The part between two ends. -/
def Extent.between (start stop : List Char) : Extent :=
  ⟨start.length, stop.length⟩

/-- The part from the beginning of one part to the end of another. -/
def Extent.join (first last : Extent) : Extent :=
  ⟨first.start, last.stop⟩

/-- The first character of a text, or nothing at the end. -/
def Extent.front (text : List Char) : Extent :=
  ⟨text.length, text.length - 1⟩

/-- A key as it is written. -/
structure Key where
  name : String
  extent : Extent
deriving DecidableEq, Repr, Inhabited

/-- A value without parts. -/
inductive Scalar where
  | string (s : String)
  | integer (n : Int)
  | real (x : Float)
  | boolean (b : Bool)
  /-- A date, a time of day or both. -/
  | datetime
deriving DecidableEq, Repr, Inhabited

/-- How a table came about. -/
inductive Origin where
  /-- Through its own header, or as the whole text. -/
  | header
  /-- As part of the name in a header. -/
  | implied
  /-- As part of a dotted key. -/
  | dotted
deriving DecidableEq, Repr, Inhabited

/-- A value. -/
inductive Node where
  | scalar (extent : Extent) (value : Scalar)
  | array (extent : Extent) (items : List Node)
  /-- A table in braces, to which nothing can be added. -/
  | inlineTable (extent : Extent) (entries : List (Key × Node))
  | table (extent : Option Extent) (origin : Origin) (entries : List (Key × Node))
  /-- The tables of a header in double brackets. -/
  | tables (extent : Option Extent) (items : List Node)
deriving Repr, Inhabited

/-- The keys of a table and their values, in the order of the text. -/
abbrev Entries := List (Key × Node)

/-- Where a value stands; tables that no part of the text writes as a whole stand nowhere. -/
def Node.extent? : Node → Option Extent
  | .scalar extent _ | .array extent _ | .inlineTable extent _ => some extent
  | .table extent _ _ | .tables extent _ => extent

/-- The kind of a value, in words. -/
def Node.kindName : Node → String
  | .scalar _ (.string _) => "string"
  | .scalar _ (.integer _) => "integer"
  | .scalar _ (.real _) => "float"
  | .scalar _ (.boolean _) => "boolean"
  | .scalar _ .datetime => "datetime"
  | .array .. => "array"
  | .inlineTable .. => "inline table"
  | .table .. => "table"
  | .tables .. => "array of tables"

/-- What is said of a value that has the wrong type. -/
def Node.found : Node → String
  | .scalar _ (.string s) => "string " ++ Text.quoted s
  | .scalar _ (.integer n) => "integer `" ++ Decimal.intText n ++ "`"
  | .scalar _ (.real x) => "floating point `" ++ Decimal.Spelling.pointed.text x ++ "`"
  | .scalar _ (.boolean b) => if b then "boolean `true`" else "boolean `false`"
  | .array .. | .tables .. => "sequence"
  | _ => "map"

end PageLayout.Toml
