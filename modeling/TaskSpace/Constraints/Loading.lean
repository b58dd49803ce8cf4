import TaskSpace.Constraints.Encoding
import TaskSpace.Toml.Document

namespace TaskSpace.Constraints

private def read {β : Type} (decode? : Toml.Value → Option β) (text : String) :
    Except (ConfigError Float) β :=
  match (Toml.Value.ofText? text).bind decode? with
  | some result => .ok result
  | none => .error .malformed

-- The text of a file, if there is one and it is text.
private def readBytes {β : Type} (ofText : String → Except (ConfigError Float) β)
    (bytes : Option ByteArray) : Except (ConfigError Float) β :=
  match bytes.bind String.fromUTF8? with
  | some text => ofText text
  | none => .error .unreadable

def Description.ofText (text : String) : Except (ConfigError Float) (Description Float) :=
  read decode? text

def Description.ofBytes : Option ByteArray → Except (ConfigError Float) (Description Float) :=
  readBytes ofText

-- Settings that are read have to be valid.
def Settings.ofText (text : String) : Except (ConfigError Float) (Settings Float) := do
  let settings ← read decode? text
  settings.validate
  return settings

def Settings.ofBytes : Option ByteArray → Except (ConfigError Float) (Settings Float) :=
  readBytes ofText

end TaskSpace.Constraints
