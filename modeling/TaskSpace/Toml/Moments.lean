import TaskSpace.Toml.Numbers
import TaskSpace.Toml.Value

namespace TaskSpace.Toml

-- Two digits as a number within the limits.
private def pair? (tens ones : Char) (low high : Nat) : Option Nat :=
  if tens.isDigit && ones.isDigit then
    let number := ofDigits 10 [tens, ones]
    if low ≤ number ∧ number ≤ high then some number else none
  else none

private def isLeapYear (year : Nat) : Bool :=
  year % 4 = 0 && (year % 100 ≠ 0 || year % 400 = 0)

def daysInMonth (year month : Nat) : Nat :=
  if month = 2 then if isLeapYear year then 29 else 28
  else if [4, 6, 9, 11].contains month then 30
  else 31

-- A date at the front of the text, and what follows it.
private def datePart? : List Char → Option (Date × List Char)
  | a :: b :: c :: d :: '-' :: e :: f :: '-' :: g :: h :: rest => do
    if !([a, b, c, d].all Char.isDigit) then none
    let year := ofDigits 10 [a, b, c, d]
    let month ← pair? e f 1 12
    let day ← pair? g h 1 (daysInMonth year month)
    return (⟨year, month, day⟩, rest)
  | _ => none

-- A time at the front of the text, and what follows it. The second 60 is that of a leap second.
private def timePart? : List Char → Option (Time × List Char)
  | a :: b :: ':' :: c :: d :: ':' :: e :: f :: rest => do
    let hour ← pair? a b 0 23
    let minute ← pair? c d 0 59
    let second ← pair? e f 0 60
    match rest with
    | '.' :: rest =>
      let fraction := rest.takeWhile Char.isDigit
      if fraction.isEmpty then none
      return (⟨hour, minute, second, fraction⟩, rest.drop fraction.length)
    | _ => return (⟨hour, minute, second, []⟩, rest)
  | _ => none

private def offset? : List Char → Option (Option Offset)
  | [] => some none
  | ['Z'] | ['z'] => some (some .zulu)
  | [sign, a, b, ':', c, d] => do
    if sign ≠ '+' && sign ≠ '-' then none
    let hours ← pair? a b 0 23
    let minutes ← pair? c d 0 59
    let count : Int := hours * 60 + minutes
    return some (.minutes (if sign == '-' then -count else count))
  | _ => none

-- A date, a time, or a date and a time with a t or a blank between them.
def dateTime? (text : List Char) : Option DateTime :=
  match datePart? text with
  | some (date, []) => some (.onDate date)
  | some (date, mark :: rest) => do
    if !([' ', 'T', 't'].contains mark) then none
    let (time, rest) ← timePart? rest
    return .both date time (← offset? rest)
  | none =>
    match timePart? text with
    | some (time, []) => some (.atTime time)
    | _ => none

end TaskSpace.Toml
