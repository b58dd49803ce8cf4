namespace TaskSpace.Toml

-- Takes something off the front of a text, or refuses the text.
abbrev Reader := StateT (List Char) Option

namespace Reader

variable {β σ : Type}

def takeWhile (holds : Char → Bool) : Reader (List Char) :=
  fun text => some (text.takeWhile holds, text.dropWhile holds)

-- Takes these characters if the text begins with them, and says so.
def skip? (characters : List Char) : Reader Bool :=
  fun text =>
    if characters.isPrefixOf text then some (true, text.drop characters.length)
    else some (false, text)

def expect (characters : List Char) : Reader Unit := do
  if !(← skip? characters) then failure

-- What follows has to be understood as a whole.
def understood (result : Option β) : Reader β := fun text => result.map (·, text)

def atEnd : Reader Bool := do return (← get).isEmpty

private def loop (step : σ → Reader (σ ⊕ β)) : Nat → σ → Reader β
  | 0, _ => failure
  | rounds + 1, state => do
    match ← step state with
    | .inl next => loop step rounds next
    | .inr result => return result

-- Repeats a step until it has a result. Every step but the last takes a character, so the length of
-- the text bounds their number.
def iterate (step : σ → Reader (σ ⊕ β)) (start : σ) : Reader β := do
  loop step ((← get).length + 1) start

end Reader

end TaskSpace.Toml
