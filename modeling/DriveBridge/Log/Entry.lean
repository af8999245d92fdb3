import DriveBridge.Calendar
import DriveBridge.JsonText
import DriveBridge.Redaction
import DriveBridge.Value.Equality

/-!
Log entries. Every entry has seven base members in a fixed order; the context of a call comes
after them, except that a key of a base member takes its place.
-/

namespace DriveBridge

inductive Level
  | debug
  | info
  | warning
  | error
  deriving DecidableEq

namespace Level

def label : Level → Text
  | debug => "debug"
  | info => "info"
  | warning => "warning"
  | error => "error"

end Level

inductive EntryError
  | badKey
  | namelessKey
  | beyondCalendar
  | unwritableKey
  deriving DecidableEq

namespace Entry

def reserved : List Text := ["message", "self", "level"]

def isContextKey : Value → Bool
  | .text t => t ∉ reserved
  | _ => false

def elapsed (started now : Int) : Binary64 := (Binary64.ofQuarters now).sub (.ofQuarters started)

def base (level : Level) (component session : Text) (started now : Int) (message : Value) :
    List (Value × Value) :=
  [(.text "timestamp", .float (.ofQuarters now)),
    (.text "iso_timestamp", .text (Calendar.stamp (now / 4))),
    (.text "level", .text level.label),
    (.text "component", .text component),
    (.text "session_id", .text session),
    (.text "session_time", .float (elapsed started now)),
    (.text "message", message)]

def extend (entry context : List (Value × Value)) : List (Value × Value) :=
  context.foldl (fun entry (k, v) => Value.put k v entry) entry

end Entry

end DriveBridge
