import PageLayout.Decimal.Bounded
import PageLayout.Decimal.Spelling

/-!
# JSON values

A number is an integer or a double, and the two never compare equal: `1` and `1.0` are different
values. The members of an object stand in ascending order of their keys, one for each key.
-/

namespace PageLayout.Json

/-- A JSON number. -/
inductive Number where
  /-- A number written without a point and an exponent. -/
  | whole (n : Int)
  /-- Any other number. -/
  | real (x : Float)
deriving DecidableEq, Repr, Inhabited

/-- A JSON value. -/
inductive Value where
  | null
  | boolean (b : Bool)
  | number (n : Number)
  | string (s : String)
  | array (items : List Value)
  | object (members : List (String × Value))
deriving Repr, Inhabited

namespace Number

/-- The number in running text and in style values. -/
def text : Number → String
  | .whole n => Decimal.intText n
  | .real x => Decimal.Spelling.plain.text x

/-- The double that stands for the number where a double is asked for. -/
def toFloat : Number → Float
  | .whole n => Float.ofInt n
  | .real x => x

/-- The natural number that the number equals, if it equals one. -/
def nat? : Number → Option Nat
  | .whole n => if 0 ≤ n then some n.toNat else none
  | .real x => (Decimal.Binary.ofFloat x).nat?

/-- The number in 64 bits, if it is an integer without a sign that fits. -/
def uint64? : Number → Option UInt64
  | .whole n => if 0 ≤ n then Decimal.bounded? n.toNat else none
  | .real _ => none

end Number

namespace Value

/-- Whether a value is `null`, which everywhere counts as an absent value. -/
def isNull : Value → Bool
  | .null => true
  | _ => false

/-- The text of a string value. -/
def string? : Value → Option String
  | .string s => some s
  | _ => none

/-- The members of an object after `key` is given `value`, in ascending order of the keys. A
later value for a key takes the place of an earlier one. -/
def insertMember (key : String) (value : Value) : List (String × Value) → List (String × Value)
  | [] => [(key, value)]
  | member :: members =>
    if key < member.1 then (key, value) :: member :: members
    else if key = member.1 then (key, value) :: members
    else member :: insertMember key value members

end Value

end PageLayout.Json
