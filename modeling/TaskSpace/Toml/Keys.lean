import TaskSpace.Toml.Strings

namespace TaskSpace.Toml

open Reader

-- The number of nested arrays and tables, and of the parts of a key, stays below this.
def depthLimit : Nat := 80

private def isBareKey (c : Char) : Bool := c.isAlphanum || c == '_' || c == '-'

private def keyPart : Reader String := do
  blanks
  let part ← match ← lineString? with
    | some part => pure part
    | none => do
      let bare ← takeWhile isBareKey
      if bare.isEmpty then failure
      pure (String.ofList bare)
  blanks
  return part

-- The parts of a key, with points between them.
def key : Reader (List String) := do
  let parts ← iterate (fun read => do
    let read := (← keyPart) :: read
    if ← skip? ['.'] then return .inl read else return .inr read.reverse) []
  if parts.length < depthLimit then return parts else failure

end TaskSpace.Toml
