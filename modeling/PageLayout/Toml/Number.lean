import PageLayout.Decimal.Nearest
import PageLayout.Toml.Text

/-!
# Numbers, dates and times in TOML

What begins with a digit or a sign is read as a date or a time if it begins like one, then as a
number with a fraction or an exponent, and otherwise as an integer. Only the form of dates and
times matters here, and that there are such days; no use is made of them.
-/

namespace PageLayout.Toml

/-! ## Digits -/

/-- Reads digits of some kind, which may have single underscores between them, as long as they go
on. The underscores are left out. The second argument says whether a digit comes right before. -/
def digitsOf (isDigit : Char → Bool) : Bool → List Char → List Char × List Char
  | _, [] => ([], [])
  | afterDigit, c :: cs =>
    if isDigit c then
      let (digits, rest) := digitsOf isDigit true cs
      (c :: digits, rest)
    else if afterDigit && c == '_' && cs.head?.any isDigit then digitsOf isDigit false cs
    else ([], c :: cs)

/-- Reads digits of some kind, of which there must be one, or else what is said in place of it. An
underscore must stand between two digits. -/
def readDigits (instead : List String) (isDigit : Char → Bool) : Reader (List Char) := fun cs =>
  match digitsOf isDigit false cs with
  | ([], _) => failExpecting instead cs
  | (_, '_' :: rest) => failExpecting ("digit" :: instead) rest
  | (digits, rest) => .ok (digits, rest)

/-! ## Integers -/

/-- An integer that fits into 64 bits, read from `start`. -/
def inRange (start : List Char) (n : Int) : Reader Scalar := fun rest =>
  if n < -(Nat.pow 2 63 : Nat) then failWith .tooSmall start
  else if (Nat.pow 2 63 : Nat) ≤ n then failWith .tooLarge start
  else .ok (.integer n, rest)

/-- Reads the digits of an integer to some base. -/
def readBase (name : String) (base : Nat) (start : List Char) : Reader Scalar := fun cs => do
  let isDigit (c : Char) : Bool := (Text.hexValue? c).any (· < base)
  let (digits, rest) ← within (name ++ " integer") (readDigits [] isDigit cs)
  let n := digits.foldl (fun n c => base * n + (Text.hexValue? c).getD 0) 0
  inRange start n rest

/-- Reads the digits of a decimal number after its sign: a zero alone, or digits that begin with
no zero. -/
def readDecimal : Reader (List Char)
  | '0' :: rest => .ok (['0'], rest)
  | cs => within "integer" (readDigits [] Char.isDigit cs)

/-- Separates the sign of a number from the rest. -/
def splitSign : List Char → Bool × List Char
  | '-' :: rest => (true, rest)
  | '+' :: rest => (false, rest)
  | rest => (false, rest)

/-- Reads an integer. -/
def readInteger : Reader Scalar := fun cs =>
  match cs with
  | '0' :: 'x' :: rest => readBase "hexadecimal" 16 cs rest
  | '0' :: 'o' :: rest => readBase "octal" 8 cs rest
  | '0' :: 'b' :: rest => readBase "binary" 2 cs rest
  | _ => do
    let (negative, unsigned) := splitSign cs
    let (digits, rest) ← readDecimal unsigned
    let n : Int := Decimal.ofDigits digits
    inRange cs (if negative then -n else n) rest

/-! ## Numbers with a fraction or an exponent -/

/-- Reads the exponent of a number, if there is one. -/
def readExponent : Reader Int := fun cs =>
  match cs with
  | 'e' :: rest | 'E' :: rest => do
    let (negative, unsigned) := splitSign rest
    let (digits, rest) ← readDigits [] Char.isDigit unsigned
    let n : Int := Decimal.ofDigits digits
    return (if negative then -n else n, rest)
  | rest => .ok (0, rest)

/-- Reads what makes a number more than an integer: a fraction, an exponent or both; the digits
of the fraction, and the exponent. There is none if the text goes on otherwise. -/
def readTail? (cs : List Char) : Option (Except Failure ((List Char × Int) × List Char)) :=
  match cs with
  | '.' :: rest => some do
    let (fraction, rest) ← readDigits ["digit"] Char.isDigit rest
    let (exponent, rest) ← readExponent rest
    return ((fraction, exponent), rest)
  | 'e' :: _ | 'E' :: _ => some do
    let (exponent, rest) ← readExponent cs
    return (([], exponent), rest)
  | _ => none

/-- Reads a number that is no integer, if the text begins with one. A number too large for a
double is refused, though not below zero. -/
def readReal? (cs : List Char) : Option (Except Failure (Scalar × List Char)) :=
  let (negative, unsigned) := splitSign cs
  let signed (x : Float) : Scalar := .real (if negative then -x else x)
  match unsigned with
  | 'i' :: 'n' :: 'f' :: rest => some (.ok (signed (1.0 / 0.0), rest))
  | 'n' :: 'a' :: 'n' :: rest => some (.ok (signed (0.0 / 0.0), rest))
  | unsigned =>
    match readDecimal unsigned with
    | .error _ => none
    | .ok (whole, rest) =>
      (readTail? rest).map fun tail => within "floating-point number" do
        let ((fraction, exponent), rest) ← tail
        let x := Decimal.nearest negative (Decimal.ofDigits (whole ++ fraction))
          (exponent - fraction.length)
        if x.isInf && !negative then failExpecting [] cs
        else return (.real x, rest)

/-! ## Dates and times -/

/-- Reads a number of exactly so many digits. -/
def twoOrFour? (count : Nat) (cs : List Char) : Option (Nat × List Char) :=
  let digits := cs.take count
  if digits.length = count ∧ digits.all Char.isDigit then
    some (Decimal.ofDigits digits, cs.drop count)
  else none

/-- Reads a number of two digits that must lie between two bounds. -/
def readTwo (least greatest : Nat) : Reader Nat := fun cs =>
  match twoOrFour? 2 cs with
  | some (n, rest) =>
    if least ≤ n ∧ n ≤ greatest then .ok (n, rest) else failWith .outOfRange cs
  | none => failExpecting [] cs

/-- Reads one character that must come next. -/
def readMark (mark : Char) (cs : List Char) : Except Failure (List Char) :=
  match cs with
  | [] => failExpecting [] []
  | c :: rest => if c = mark then .ok rest else failExpecting [] cs

/-- The number of days of a month. -/
def daysOf (year month : Nat) : Nat :=
  if month = 2 then
    if year % 4 = 0 ∧ (year % 100 ≠ 0 ∨ year % 400 = 0) then 29 else 28
  else if month = 4 ∨ month = 6 ∨ month = 9 ∨ month = 11 then 30
  else 31

/-- Reads a date, if the text begins with a year and a dash. -/
def readDate? (cs : List Char) : Option (Except Failure (List Char)) :=
  match twoOrFour? 4 cs with
  | some (year, '-' :: rest) => some do
    let (month, rest) ← readTwo 1 12 rest
    let days ← readMark '-' rest
    let (day, rest) ← readTwo 1 31 days
    if daysOf year month < day then failWith .outOfRange days else return rest
  | _ => none

/-- Reads a time of day, if the text begins with an hour and a colon. -/
def readTime? (cs : List Char) : Option (Except Failure (List Char)) :=
  match twoOrFour? 2 cs with
  | some (hour, ':' :: rest) =>
    if 23 < hour then none
    else some do
      let (_, rest) ← readTwo 0 59 rest
      let rest ← readMark ':' rest
      let (_, rest) ← readTwo 0 60 rest
      match rest with
      | '.' :: fraction =>
        -- A point without digits does not belong to the time.
        if (fraction.takeWhile Char.isDigit).isEmpty then return rest
        else return fraction.dropWhile Char.isDigit
      | rest => return rest
  | _ => none

/-- Reads the offset of a time, if there is one. -/
def readOffset (cs : List Char) : Except Failure (List Char) :=
  match cs with
  | 'Z' :: rest | 'z' :: rest => .ok rest
  | '+' :: rest | '-' :: rest => within "time offset" do
    let (_, rest) ← readTwo 0 23 rest
    let (_, rest) ← readTwo 0 59 (← readMark ':' rest)
    return rest
  | rest => .ok rest

/-- Reads a date, a time or both, if the text begins with one. A time after a date is optional,
even if it is announced. -/
def readDatetime? (cs : List Char) : Option (Except Failure (Scalar × List Char)) :=
  match readDate? cs with
  | some date => some <| within "date-time" do
    let rest ← date
    let time := match rest with
      | 'T' :: time | 't' :: time | ' ' :: time => readTime? time
      | _ => none
    match time with
    | some time => return (.datetime, ← readOffset (← time))
    -- The letter or the blank after the date belongs to what follows.
    | none => return (.datetime, rest)
  | none => (readTime? cs).map fun time => within "time" do return (.datetime, ← time)

/-- Reads what begins with a digit or a sign. -/
def readNumber : Reader Scalar := fun cs =>
  match readDatetime? cs with
  | some result => result
  | none =>
    match readReal? cs with
    | some result => result
    | none => readInteger cs

end PageLayout.Toml
