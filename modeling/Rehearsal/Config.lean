import Rehearsal.Error
import Rehearsal.Text.Blank

/-!
# Configuration

What the environment says: where resources are, how long a message is waited for, and what is
logged.
-/

namespace Rehearsal

structure Config where
  /-- The directory that relative paths of resources are taken from. -/
  resourceDir : Option String := none
  /-- How many milliseconds an endpoint waits that does not say so itself. -/
  defaultTimeout : Nat := 5000
  logFilter : String := "info"
  deriving DecidableEq, Repr

namespace Config

def resourceDirVariable : String := "COURIER_RESOURCE_DIR"

def timeoutVariable : String := "COURIER_DEFAULT_TIMEOUT_MS"

def logVariable : String := "COURIER_LOG"

/-- The configuration of an environment. An empty directory is none. -/
def ofEnvironment (value? : String → Option String) : Except Error Config :=
  let config : Config :=
    { resourceDir := (value? resourceDirVariable).filter (· ≠ "")
      logFilter := (value? logVariable).getD "info" }
  match value? timeoutVariable with
  | none => .ok config
  | some raw =>
    match Text.readNatural (Text.trim raw.toList) with
    | .ok n => .ok { config with defaultTimeout := n }
    | .error fault => .error (.config (.timeout timeoutVariable fault))

end Config
end Rehearsal
