import WifiNames.Text.Decimal

namespace WifiNames.Yaml

/-!
# Scalars — what plain text stands for

Plain text may be read as null, as a boolean, as a number or as text.

* `isNull`, `bool?`, `natural?` — the spellings of null, booleans and natural numbers.
* `isInteger`, `isFloat` — whether plain text reads as a number.
* `isText` — whether plain text reads as nothing but text.
-/

/-- Whether plain text reads as null. -/
def isNull (t : Text) : Bool :=
  t.isEmpty || ["~", "null", "Null", "NULL"].any (·.toList == t)

/-- The boolean that plain text reads as. -/
def bool? (t : Text) : Option Bool :=
  if ["true", "True", "TRUE"].any (·.toList == t) then some true
  else if ["false", "False", "FALSE"].any (·.toList == t) then some false
  else none

/-- Text without one leading sign. -/
def dropSign : Text → Text
  | '+' :: rest => rest
  | '-' :: rest => rest
  | t => t

/-- Whether text consists of digits with a superfluous zero before them.  It is no number. -/
def hasLeadingZero (t : Text) : Bool :=
  match dropSign t with
  | '0' :: d :: rest => (d :: rest).all Char.isDigit
  | _ => false

/-- The value of digits in the base that a letter after a zero gives. -/
def radix? : Text → Option Nat
  | '0' :: 'x' :: digits => Decimal.digits? 16 digits
  | '0' :: 'o' :: digits => Decimal.digits? 8 digits
  | '0' :: 'b' :: digits => Decimal.digits? 2 digits
  | _ => none

/-- The natural number that plain text reads as. -/
def natural? (t : Text) : Option Nat :=
  let unsigned := Decimal.dropPlus t
  match radix? unsigned with
  | some n => some n
  | none => if hasLeadingZero t then none else Decimal.digits? 10 unsigned

/-- The magnitude of the negative number that plain text reads as. -/
def negative? : Text → Option Nat
  | '-' :: rest =>
    match radix? rest with
    | some n => some n
    | none => if hasLeadingZero rest then none else Decimal.digits? 10 rest
  | _ => none

/-- Whether plain text reads as an integer of at most 128 bits. -/
def isInteger (t : Text) : Bool :=
  (natural? t).any (· < Nat.pow 2 128) || (negative? t).any (· ≤ Nat.pow 2 127)

/-! ### Floating-point numbers -/

/-- From this number on, decimals are too large for a floating-point number of 64 bits. -/
def floatLimit : Nat :=
  Nat.pow 2 1024 - Nat.pow 2 970

/-- Whether `digits · 10 ^ exponent`, with a number that has `width` digits, stays within the
    range of floating-point numbers. -/
def isFinite (digits width : Nat) (exponent : Int) : Bool :=
  if digits = 0 then true
  else if (width : Int) + exponent < 300 then true
  else if 400 < (width : Int) + exponent then false
  else if 0 ≤ exponent then digits * Nat.pow 10 exponent.toNat < floatLimit
  else digits < floatLimit * Nat.pow 10 (-exponent).toNat

/-- The exponent that text after a mantissa gives; `none` if it is malformed. -/
def exponent? : Text → Option Int
  | [] => some 0
  | e :: rest =>
    if e = 'e' ∨ e = 'E' then
      match rest with
      | '-' :: digits => (Decimal.digits? 10 digits).map fun n => -(n : Int)
      | rest => (Decimal.digits? 10 (Decimal.dropPlus rest)).map fun n => (n : Int)
    else
      none

/-- Whether text without a sign reads as a decimal in the range of floating-point numbers. -/
def isDecimal (t : Text) : Bool :=
  let whole := t.takeWhile Char.isDigit
  let (fraction, rest) :=
    match t.dropWhile Char.isDigit with
    | '.' :: rest => (rest.takeWhile Char.isDigit, rest.dropWhile Char.isDigit)
    | rest => ([], rest)
  let digits := (whole ++ fraction).dropWhile (· == '0')
  match exponent? rest with
  | some exponent =>
    !(whole ++ fraction).isEmpty
      && isFinite ((Decimal.digits? 10 digits).getD 0) digits.length
        (exponent - (fraction.length : Int))
  | none => false

/-- Whether plain text reads as infinity or as no number. -/
def isSpecialFloat (t : Text) : Bool :=
  [".inf", ".Inf", ".INF"].any (·.toList == dropSign t)
    || [".nan", ".NaN", ".NAN"].any (·.toList == t)

/-- Whether plain text reads as a floating-point number. -/
def isFloat (t : Text) : Bool :=
  isSpecialFloat t || isDecimal (dropSign t)

/-- Whether plain text reads as nothing but text. -/
def isText (t : Text) : Bool :=
  !(isNull t || (bool? t).isSome || isInteger t || hasLeadingZero t || isFloat t)

end WifiNames.Yaml
