namespace TaskSpace.Toml

structure Date where
  year : Nat
  month : Nat
  day : Nat
deriving DecidableEq

-- The digits of the fraction of a second are kept as written.
structure Time where
  hour : Nat
  minute : Nat
  second : Nat
  fraction : List Char
deriving DecidableEq

-- Minutes to the east of Greenwich.
inductive Offset
  | zulu
  | minutes (count : Int)
deriving DecidableEq

inductive DateTime
  | onDate (date : Date)
  | atTime (time : Time)
  | both (date : Date) (time : Time) (offset : Option Offset)
deriving DecidableEq

-- The keys of a table are distinct, in the order of their first mention.
inductive Value
  | string (text : String)
  | integer (number : Int)
  | float (number : Float)
  | boolean (flag : Bool)
  | dateTime (moment : DateTime)
  | array (items : List Value)
  | table (entries : List (String × Value))

namespace Value

def text? : Value → Option String
  | .string text => some text
  | _ => none

-- Whole numbers are numbers.
def number? : Value → Option Float
  | .float number => some number
  | .integer number => some (Float.ofInt number)
  | _ => none

def flag? : Value → Option Bool
  | .boolean flag => some flag
  | _ => none

def items? : Value → Option (List Value)
  | .array items => some items
  | _ => none

-- Every item of an array, read in the same way.
def list? {β : Type} (read : Value → Option β) (value : Value) : Option (List β) :=
  value.items?.bind (·.mapM read)

-- A record with these fields: a table by name, where other keys do not count, or an array by position.
-- A moment is a record with none of the fields.
def fields? (names : List String) : Value → Option (String → Option Value)
  | .table entries => some fun name => entries.lookup name
  | .array items => some fun name => (names.zip items).lookup name
  | .dateTime _ => some fun _ => none
  | _ => none

end Value

-- The field of a record that has to be there.
def required {β : Type} (fields : String → Option Value) (name : String) (read : Value → Option β) :
    Option β :=
  (fields name).bind read

-- The field of a record that may be left out.
def optional {β : Type} (fields : String → Option Value) (name : String) (default : β)
    (read : Value → Option β) : Option β :=
  match fields name with
  | some value => read value
  | none => some default

end TaskSpace.Toml
