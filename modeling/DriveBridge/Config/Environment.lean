import DriveBridge.Text.LowerCase
import DriveBridge.Text.Utf8
import DriveBridge.Value.Display

namespace DriveBridge

def ownMark : Text := "RP_"

structure Variable where
  name : Text
  owned : ownMark.isPrefixOf name

inductive VariableError
  | foreign (name : Text)
  | unencodable (cause : Unencodable)

def VariableError.message : VariableError → Text
  | foreign name => Text.ofString "Only RP_* env vars are allowed, got: " ++ name
  | unencodable cause => cause.message

namespace Variable

def ofText (name : Text) : Except VariableError Variable :=
  if owned : ownMark.isPrefixOf name then
    match SystemName.unencodable? name with
    | some cause => .error (.unencodable cause)
    | none => .ok ⟨name, owned⟩
  else .error (.foreign name)

def lengthUnit : Variable := ⟨"RP_LENGTH_UNIT", by decide⟩
def warnUnrestricted : Variable := ⟨"RP_WARN_UNRESTRICTED", by decide⟩
def logDirectory : Variable := ⟨"RP_LOG_DIR", by decide⟩
def logConsole : Variable := ⟨"RP_LOG_CONSOLE", by decide⟩
def logFullPaths : Variable := ⟨"RP_LOG_FULL_PATHS", by decide⟩
def logMaxMegabytes : Variable := ⟨"RP_LOG_MAX_SIZE_MB", by decide⟩
def logMaxFiles : Variable := ⟨"RP_LOG_MAX_FILES", by decide⟩

end Variable

structure Environment where
  values : List (Text × Text)

namespace Environment

def get? (env : Environment) (v : Variable) : Option Text := env.values.lookup v.name

def text (env : Environment) (v : Variable) (default : Text) : Text := (env.get? v).getD default

def affirmations : List Text := ["1", "true", "yes", "on"]

def isAffirmative (t : Text) : Bool := Text.lower (Text.trim t) ∈ affirmations

def value (env : Environment) (v : Variable) (default : Value) : Value :=
  (env.get? v).elim default .text

def flag (env : Environment) (v : Variable) (default : Value) : Bool :=
  isAffirmative (env.text v default.display)

def integer? (env : Environment) (v : Variable) : Option Int := (env.get? v).bind Integer.ofText?

def integer (env : Environment) (v : Variable) (default : Value) : Value :=
  (Integer.ofText? (env.text v default.display)).elim default .int

def choice (env : Environment) (v : Variable) (default : Text) (choices : List Text) : Text :=
  let word := Text.lower (Text.trim (env.text v default))
  if word ∈ choices then word else default

/-- As `choice`, with any value for a default. One that has no letter case is refused where it is
needed; octets have, but are no choice. -/
def choiceOr? (env : Environment) (v : Variable) (default : Value) (choices : List Text) :
    Option Value :=
  match env.get? v, default with
  | _, .text t => some (.text (env.choice v t choices))
  | none, .octets bs => some (.octets bs)
  | none, _ => none
  | some raw, default =>
    let word := Text.lower (Text.trim raw)
    some (if word ∈ choices then .text word else default)

end Environment

end DriveBridge
