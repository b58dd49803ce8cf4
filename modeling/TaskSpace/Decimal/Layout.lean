import TaskSpace.Decimal.Shortest

namespace TaskSpace.Decimal

-- How the digits of a number are set out. Without limits it is always written with positions,
-- else only for leading powers of ten from the smallest to the largest one.
structure Layout where
  keepPoint : Bool
  positions : Option (Int × Int)

-- Never an exponent, and no point in a whole number.
def plainLayout : Layout := ⟨false, none⟩

-- Reads as a decimal fraction: a whole number keeps its point, and numbers below 10 ^ -4 or from
-- 10 ^ 16 on have an exponent.
def fractionLayout : Layout := ⟨true, some (-4, 15)⟩

private def zeros (count : Nat) : List Char := List.replicate count '0'

private def trimZeros (digits : List Char) : List Char :=
  (digits.reverse.dropWhile (· == '0')).reverse

namespace Layout

def fraction (layout : Layout) (digits : List Char) : List Char :=
  match digits with
  | [] => if layout.keepPoint then ['.', '0'] else []
  | _ => '.' :: digits

-- The point stands behind the digit of the power zero.
def positional (layout : Layout) (digits : List Char) (leading : Int) : List Char :=
  if leading < 0 then
    '0' :: layout.fraction (zeros (-leading - 1).toNat ++ digits)
  else
    let whole := leading.toNat + 1
    digits.take whole ++ zeros (whole - digits.length) ++ layout.fraction (digits.drop whole)

def scientific (digits : List Char) (leading : Int) : List Char :=
  let rest := digits.drop 1
  digits.take 1 ++ (if rest.isEmpty then [] else '.' :: rest) ++ 'e' :: (toString leading).toList

def digits (layout : Layout) (significand : Nat) (exponent : Int) : List Char :=
  if significand = 0 then '0' :: layout.fraction []
  else
    let (number, power) := shortest significand exponent
    let written := Nat.toDigits 10 number
    let leading := power + (written.length - 1 : Nat)
    match layout.positions with
    | none => layout.positional (trimZeros written) leading
    | some (smallest, largest) =>
      if smallest ≤ leading ∧ leading ≤ largest then layout.positional (trimZeros written) leading
      else scientific (trimZeros written) leading

def write (layout : Layout) (value : Float) : String :=
  let signed (negative : Bool) (text : List Char) : String :=
    String.ofList (if negative then '-' :: text else text)
  match Double.ofFloat value with
  | .nan => "NaN"
  | .infinite negative => signed negative ['i', 'n', 'f']
  | .finite negative significand exponent => signed negative (layout.digits significand exponent)

end Layout

def plain (value : Float) : String := plainLayout.write value

def fraction (value : Float) : String := fractionLayout.write value

end TaskSpace.Decimal
