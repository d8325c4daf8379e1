import EnvSeed.Toml.Text

/-!
# TOML numbers, booleans, dates and times

Integers have to fit 64 bits with a sign. A float may be too small or too far below zero to
represent, but not too large. Dates are those of the calendar, and a minute has up to 61 seconds.
-/

namespace EnvSeed.Toml

/-- Read digits with single underscores between them; `done` is what was read, last digit first. -/
def digitsFrom (isDigit : Char → Bool) : List Char → List Char → List Char × List Char
  | done, '_' :: c :: rest => if isDigit c then digitsFrom isDigit (c :: done) rest else (done.reverse, '_' :: c :: rest)
  | done, c :: rest => if isDigit c then digitsFrom isDigit (c :: done) rest else (done.reverse, c :: rest)
  | done, [] => (done.reverse, [])

/-- Read one digit, and then more. -/
def digits? (isDigit : Char → Bool) : List Char → Option (List Char × List Char)
  | c :: rest => if isDigit c then some (digitsFrom isDigit [c] rest) else none
  | [] => none

/-- Read one more digit of a number. -/
def shiftIn (base value : Nat) (c : Char) : Nat :=
  base * value + (hexDigit? c).getD 0

/-- The number that digits of a base spell. -/
def numeral (base : Nat) (digits : List Char) : Nat :=
  digits.foldl (shiftIn base) 0

/-- The number that digits spell, where a digit only counts while the number before it is below
`limit`. It is below the limit exactly if the number of all the digits is. -/
def limitedNumeral (limit base : Nat) (digits : List Char) : Nat :=
  digits.foldl (fun value c => if value < limit then shiftIn base value c else value) 0

/-- The digits spell a number below a limit. -/
def isBelow (limit base : Nat) (digits : List Char) : Bool :=
  limitedNumeral limit base digits < limit

/-- A digit of a base up to 16. -/
def isDigitOf (base : Nat) (c : Char) : Bool :=
  (hexDigit? c).any (· < base)

/-- Read a sign; `true` is the minus sign. -/
def sign : List Char → Bool × List Char
  | '-' :: rest => (true, rest)
  | '+' :: rest => (false, rest)
  | text => (false, text)

/-- Read a decimal integer without its sign: a single zero, or digits that do not begin with one. -/
def decimal? : List Char → Option (List Char × List Char)
  | '0' :: rest => some (['0'], rest)
  | text => digits? Char.isDigit text

/-- Read an integer of another base and check that it fits. -/
def radix? (base : Nat) (text : List Char) : Option (List Char) :=
  match digits? (isDigitOf base) text with
  | none => none
  | some (digits, rest) => if isBelow (Nat.pow 2 63) base digits then some rest else none

/-- Read an integer; what is left after it. -/
def integer? : List Char → Option (List Char)
  | '0' :: 'x' :: rest => radix? 16 rest
  | '0' :: 'o' :: rest => radix? 8 rest
  | '0' :: 'b' :: rest => radix? 2 rest
  | text =>
    let (negative, unsigned) := sign text
    match decimal? unsigned with
    | none => none
    | some (digits, rest) =>
      if isBelow (Nat.pow 2 63 + negative.toNat) 10 digits then some rest else none

/-- The least number that is too large for a double, halfway from the largest one to `2 ^ 1024`. -/
def doubleLimit : Nat := Nat.pow 2 1024 - Nat.pow 2 970

/-- The number of digits of `doubleLimit`. -/
def doubleOrder : Nat := 309

/-- The number `digits · 10 ^ exponent` rounds to a finite double. The limit is whole, so of a number
as long as the limit only the whole part has to be compared with it. -/
def isFinite (digits : List Char) (exponent : Int) : Bool :=
  let digits := digits.dropWhile (· = '0')
  let order := (digits.length : Int) + exponent
  if digits.isEmpty || order < doubleOrder then true
  else if doubleOrder < order then false
  else
    let whole := digits.take doubleOrder
    numeral 10 whole * Nat.pow 10 (doubleOrder - whole.length) < doubleLimit

/-- Read a dot and digits. -/
def fraction? : List Char → Option (List Char × List Char)
  | '.' :: rest => digits? Char.isDigit rest
  | _ => none

/-- Digits of an exponent count while the number before them is below this limit. -/
def exponentLimit : Nat := Nat.pow 2 16

/-- Read the exponent of a float. -/
def exponent? : List Char → Option (Int × List Char)
  | c :: rest =>
    if c = 'e' || c = 'E' then
      let (negative, unsigned) := sign rest
      (digits? Char.isDigit unsigned).map fun (digits, rest) =>
        let size : Int := limitedNumeral exponentLimit 10 digits
        (if negative then -size else size, rest)
    else none
  | [] => none

/-- Read what makes a number a float: a fraction, an exponent, or both. -/
def floatTail? (whole rest : List Char) : Option (List Char × Int × List Char) :=
  match fraction? rest with
  | some (digits, rest) =>
    let (exponent, rest) := (exponent? rest).getD (0, rest)
    some (whole ++ digits, exponent - digits.length, rest)
  | none => (exponent? rest).map fun (exponent, rest) => (whole, exponent, rest)

/-- Read a float, also one that is infinite or no number by its name; what is left after it. -/
def float? (text : List Char) : Option (List Char) :=
  let (negative, unsigned) := sign text
  match unsigned with
  | 'i' :: 'n' :: 'f' :: rest => some rest
  | 'n' :: 'a' :: 'n' :: rest => some rest
  | _ =>
    match decimal? unsigned with
    | none => none
    | some (whole, rest) =>
      match floatTail? whole rest with
      | none => none
      | some (digits, exponent, rest) =>
        if negative || isFinite digits exponent then some rest else none

/-- Read exactly `count` digits. -/
def field? (count : Nat) (text : List Char) : Option (Nat × List Char) :=
  let digits := text.take count
  if digits.length = count && digits.all Char.isDigit then some (numeral 10 digits, text.drop count) else none

/-- Read two digits whose value is in a range. -/
def fieldIn? (low high : Nat) (text : List Char) : Option (Nat × List Char) :=
  (field? 2 text).bind fun (value, rest) =>
    if low ≤ value && value ≤ high then some (value, rest) else none

/-- Pass over a character. -/
def skip? (c : Char) : List Char → Option (List Char)
  | first :: rest => if first = c then some rest else none
  | [] => none

/-- The number of days of a month. -/
def daysIn (year month : Nat) : Nat :=
  if month = 2 then
    if year % 4 = 0 && (year % 100 ≠ 0 || year % 400 = 0) then 29 else 28
  else if month = 4 || month = 6 || month = 9 || month = 11 then 30
  else 31

/-- Read a date of the calendar; what is left after it. -/
def date? (text : List Char) : Option (List Char) := do
  let (year, text) ← field? 4 text
  let (month, text) ← fieldIn? 1 12 (← skip? '-' text)
  let (_, text) ← fieldIn? 1 (daysIn year month) (← skip? '-' text)
  return text

/-- Pass over a fraction of a second. -/
def skipFraction : List Char → List Char
  | '.' :: c :: rest => if c.isDigit then rest.dropWhile Char.isDigit else '.' :: c :: rest
  | text => text

/-- Read a time of day; what is left after it. -/
def time? (text : List Char) : Option (List Char) := do
  let (_, text) ← fieldIn? 0 23 text
  let (_, text) ← fieldIn? 0 59 (← skip? ':' text)
  let (_, text) ← fieldIn? 0 60 (← skip? ':' text)
  return skipFraction text

/-- Pass over the distance from universal time, if there is one. -/
def skipOffset (text : List Char) : List Char :=
  match text with
  | [] => text
  | c :: rest =>
    if c = 'Z' || c = 'z' then rest
    else if c = '+' || c = '-' then
      let offset := do
        let (_, text) ← fieldIn? 0 23 rest
        let (_, text) ← fieldIn? 0 59 (← skip? ':' text)
        return text
      offset.getD text
    else text

/-- Read a date, a time, or both; what is left after it. A time after a date follows a letter T or a
single space. -/
def dateTime? (text : List Char) : Option (List Char) :=
  match date? text with
  | none => time? text
  | some rest =>
    match rest with
    | c :: after =>
      if c = 'T' || c = 't' || c = ' ' then some ((time? after).elim rest skipOffset) else some rest
    | [] => some rest

end EnvSeed.Toml
