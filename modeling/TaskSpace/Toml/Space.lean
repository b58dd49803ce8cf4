import TaskSpace.Toml.Reader

namespace TaskSpace.Toml

open Reader

def isBlank (c : Char) : Bool := c == ' ' || c == '\t'

-- No control character but the tab may be written. Outside of ASCII all characters may.
def isWritable (c : Char) : Bool := c == '\t' || (32 ≤ c.toNat && c.toNat ≠ 127)

def blanks : Reader Unit := do let _ ← takeWhile isBlank

def newline? : Reader Bool := do
  if ← skip? ['\n'] then return true
  skip? ['\r', '\n']

def comment? : Reader Bool := do
  if ← skip? ['#'] then
    let _ ← takeWhile isWritable
    return true
  return false

-- Blanks and a comment may follow, then the line ends.
def lineEnd : Reader Unit := do
  blanks
  let _ ← comment?
  if !(← newline?) && !(← atEnd) then failure

-- Blanks, line breaks and comments between the items of an array. A comment ends with its line.
def emptyLines : Reader Unit :=
  iterate (fun _ => do
    blanks
    if ← comment? then
      if ← newline? then return .inl () else failure
    if ← newline? then return .inl () else return .inr ()) ()

end TaskSpace.Toml
