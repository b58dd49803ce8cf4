import TaskSpace.Decimal.Double
import TaskSpace.Toml.Strings

namespace TaskSpace.Toml

-- Digits, with single underscores between them.
def digits? (isDigit : Char → Bool) : List Char → Option (List Char)
  | [] => none
  | [c] => if isDigit c then some [c] else none
  | c :: '_' :: rest => if isDigit c then (digits? isDigit rest).map (c :: ·) else none
  | c :: rest => if isDigit c then (digits? isDigit rest).map (c :: ·) else none

-- A whole number in tens begins with zero only if it is zero.
def wholeDigits? (text : List Char) : Option (List Char) := do
  let digits ← digits? Char.isDigit text
  if digits.length = 1 || digits.head? ≠ some '0' then some digits else none

-- Whether there is a minus, and what follows the sign.
def splitSign : List Char → Bool × List Char
  | '+' :: rest => (false, rest)
  | '-' :: rest => (true, rest)
  | text => (false, text)

private def inRange (number : Int) : Option Int :=
  if -9223372036854775808 ≤ number ∧ number ≤ 9223372036854775807 then some number else none

private def isDigitBelow (base : Nat) (c : Char) : Bool := isHexDigit c && digitValue c < base

private def based? (base : Nat) (text : List Char) : Option Int := do
  let digits ← digits? (isDigitBelow base) text
  inRange (ofDigits base digits)

-- Whole numbers have 64 bits with a sign. Only those in tens are written with one.
def integer? : List Char → Option Int
  | '0' :: 'x' :: text => based? 16 text
  | '0' :: 'o' :: text => based? 8 text
  | '0' :: 'b' :: text => based? 2 text
  | text => do
    let (negative, unsigned) := splitSign text
    let magnitude : Nat := ofDigits 10 (← wholeDigits? unsigned)
    inRange (if negative then -magnitude else magnitude)

private def exponent? (text : List Char) : Option Int := do
  let (negative, unsigned) := splitSign text
  let magnitude : Nat := ofDigits 10 (← digits? Char.isDigit unsigned)
  return if negative then -magnitude else magnitude

private def isExponentMark (c : Char) : Bool := c == 'e' || c == 'E'

-- A fraction, an exponent, or both have to follow the whole part.
private def magnitude? (text : List Char) : Option Float := do
  let mantissa := text.takeWhile (!isExponentMark ·)
  let whole ← wholeDigits? (mantissa.takeWhile (· != '.'))
  let fraction ← match mantissa.dropWhile (· != '.') with
    | [] => some []
    | _ :: digits => digits? Char.isDigit digits
  let exponent ← match text.dropWhile (!isExponentMark ·) with
    | [] => if fraction.isEmpty then none else some 0
    | _ :: digits => exponent? digits
  return Decimal.nearest (ofDigits 10 (whole ++ fraction)) (exponent - fraction.length)

-- A number beyond the largest double is refused, one below the smallest is minus infinity.
def float? (text : List Char) : Option Float := do
  let (negative, unsigned) := splitSign text
  let signed (number : Float) : Float := if negative then -number else number
  if unsigned == ['i', 'n', 'f'] then return signed (1.0 / 0.0)
  if unsigned == ['n', 'a', 'n'] then return signed (0.0 / 0.0)
  let number := signed (← magnitude? unsigned)
  if number == 1.0 / 0.0 then none else some number

end TaskSpace.Toml
