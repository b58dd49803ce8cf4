import TaskSpace.Toml.Keys
import TaskSpace.Toml.Moments
import TaskSpace.Toml.Tables

namespace TaskSpace.Toml

open Reader

private def isWordCharacter (c : Char) : Bool :=
  c.isAlphanum || ['_', '+', '-', '.', ':'].contains c

private def isDate (word : List Char) : Bool :=
  match dateTime? word with
  | some (.onDate _) => true
  | _ => false

-- A time that follows a date behind one blank belongs to it.
private def word : Reader (List Char) := do
  let first ← takeWhile isWordCharacter
  let rest ← get
  match rest with
  | ' ' :: following =>
    let joined := first ++ ' ' :: following.takeWhile isWordCharacter
    if isDate first && (dateTime? joined).isSome then
      set (following.dropWhile isWordCharacter)
      return joined
    return first
  | _ => return first

private def wordValue? (word : List Char) : Option Value :=
  if word == ['t', 'r', 'u', 'e'] then some (.boolean true)
  else if word == ['f', 'a', 'l', 's', 'e'] then some (.boolean false)
  else
    ((dateTime? word).map Value.dateTime).or
      (((float? word).map Value.float).or ((integer? word).map Value.integer))

private def simpleValue : Reader Value := do
  match ← string? with
  | some text => return .string text
  | none => understood (wordValue? (← word))

-- The rest of an array behind its bracket. A comma may stand behind the last item.
private def arrayRest (item : Reader Value) : Reader Value :=
  iterate (fun read => do
    emptyLines
    if ← skip? [']'] then return .inr (.array read.reverse)
    let read := (← item) :: read
    emptyLines
    if ← skip? [','] then return .inl read
    expect [']']
    return .inr (.array read.reverse)) []

-- A key with its value; the value may not begin on another line.
private def assignment (item : Reader Value) : Reader Assignment := do
  let parts ← key
  expect ['=']
  blanks
  let value ← item
  return ⟨parts.dropLast, ← understood parts.getLast?, value⟩

-- The rest of a table on one line, behind its brace.
private def tableRest (item : Reader Value) : Reader Value := do
  blanks
  if ← skip? ['\x7d'] then return .table []
  iterate (fun entries => do
    let entries ← understood (Entries.assign entries (← assignment item))
    blanks
    if ← skip? [','] then return .inl entries
    expect ['\x7d']
    return .inr (.table (Entries.toValues entries))) []

-- A value in which arrays and tables are nested at most so deep.
private def value : Nat → Reader Value
  | 0 => simpleValue
  | depth + 1 => do
    if ← skip? ['['] then arrayRest (value depth)
    else if ← skip? ['\x7b'] then tableRest (value depth)
    else simpleValue

private def header (parts : List String) (repeated : Bool) : Reader Header := do
  return ⟨parts.dropLast, ← understood parts.getLast?, repeated⟩

-- The blocks read so far, the last one first and its assignments in reverse.
private structure Progress where
  finished : List Block
  header : Option Header
  reversed : List Assignment

private def Progress.blocks (progress : Progress) : List Block :=
  ⟨progress.header, progress.reversed.reverse⟩ :: progress.finished

private def statement (progress : Progress) : Reader Progress := do
  if ← skip? ['[', '['] then
    let parts ← key
    expect [']', ']']
    lineEnd
    return ⟨progress.blocks, some (← header parts true), []⟩
  if ← skip? ['['] then
    let parts ← key
    expect [']']
    lineEnd
    return ⟨progress.blocks, some (← header parts false), []⟩
  let assignment ← assignment (value (depthLimit - 1))
  lineEnd
  return { progress with reversed := assignment :: progress.reversed }

private def blocks : Reader (List Block) := do
  let _ ← skip? ['\ufeff']
  iterate (fun progress => do
    blanks
    if ← atEnd then return .inr progress.blocks.reverse
    if ← comment? then
      lineEnd
      return .inl progress
    if ← newline? then return .inl progress
    return .inl (← statement progress)) ⟨[], none, []⟩

-- The table that a text describes.
def Value.ofText? (text : String) : Option Value := do
  let (blocks, _) ← blocks text.toList
  tableOfBlocks? blocks

end TaskSpace.Toml
