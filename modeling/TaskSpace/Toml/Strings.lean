import TaskSpace.Toml.Space

namespace TaskSpace.Toml

open Reader

def isHexDigit (c : Char) : Bool :=
  c.isDigit || ('a' ≤ c && c ≤ 'f') || ('A' ≤ c && c ≤ 'F')

def digitValue (c : Char) : Nat :=
  if c.isDigit then c.toNat - '0'.toNat
  else if 'a' ≤ c then c.toNat - 'a'.toNat + 10
  else c.toNat - 'A'.toNat + 10

def ofDigits (base : Nat) (digits : List Char) : Nat :=
  digits.foldl (fun number c => number * base + digitValue c) 0

-- The character with a number of so many hexadecimal digits.
private def numbered (count : Nat) : Reader Char := do
  let digits := (← get).take count
  if digits.length ≠ count || !digits.all isHexDigit then failure
  set ((← get).drop count)
  let number := ofDigits 16 digits
  if number.isValidChar then return Char.ofNat number else failure

-- What stands behind a backslash.
private def escaped : Reader Char := do
  match ← get with
  | 'b' :: rest => set rest; return '\x08'
  | 'f' :: rest => set rest; return '\x0c'
  | 'n' :: rest => set rest; return '\n'
  | 'r' :: rest => set rest; return '\r'
  | 't' :: rest => set rest; return '\t'
  | '"' :: rest => set rest; return '"'
  | '\\' :: rest => set rest; return '\\'
  | 'u' :: rest => set rest; numbered 4
  | 'U' :: rest => set rest; numbered 8
  | _ => failure

private def writable : Reader Char := do
  match ← get with
  | c :: rest => if isWritable c then set rest; return c else failure
  | [] => failure

private def finish (reversed : List Char) : String := String.ofList reversed.reverse

-- The rest of a string on one line, with escapes.
private def basicRest : Reader String :=
  iterate (fun read => do
    if ← skip? ['"'] then return .inr (finish read)
    if ← skip? ['\\'] then return .inl ((← escaped) :: read)
    return .inl ((← writable) :: read)) []

-- The rest of a string on one line, taken as it stands.
private def literalRest : Reader String :=
  iterate (fun read => do
    if ← skip? ['\''] then return .inr (finish read)
    return .inl ((← writable) :: read)) []

-- A backslash at the end of a line takes all blanks and line breaks up to the next character.
private def lineContinuation? : Reader Bool := do
  let start ← get
  blanks
  if ← newline? then
    iterate (fun _ => do
      blanks
      if ← newline? then return .inl () else return .inr ()) ()
    return true
  set start
  return false

-- The rest of a string between threefold quotes. One or two quotes may stand in it, also right before
-- the closing ones. Every line break is a line feed.
private def multilineRest (quote : Char) (escapes : Bool) : Reader String := do
  let _ ← newline?
  iterate (fun read => do
    let quotes := (← get).takeWhile (· == quote)
    if !quotes.isEmpty then
      set ((← get).drop quotes.length)
      if quotes.length < 3 then return .inl (quotes ++ read)
      if quotes.length ≤ 5 then return .inr (finish (quotes.drop 3 ++ read))
      failure
    if escapes then
      if ← skip? ['\\'] then
        if ← lineContinuation? then return .inl read
        return .inl ((← escaped) :: read)
    if ← newline? then return .inl ('\n' :: read)
    return .inl ((← writable) :: read)) []

-- A string on one line, if one begins here.
def lineString? : Reader (Option String) := do
  if ← skip? ['"'] then return some (← basicRest)
  if ← skip? ['\''] then return some (← literalRest)
  return none

def string? : Reader (Option String) := do
  if ← skip? ['"', '"', '"'] then return some (← multilineRest '"' true)
  if ← skip? ['\'', '\'', '\''] then return some (← multilineRest '\'' false)
  lineString?

end TaskSpace.Toml
