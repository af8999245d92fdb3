import DriveBridge.Text.LowerCase
import DriveBridge.Value.Display

namespace DriveBridge

open CodePoint

structure Redactor where
  enabled : Value
  names : List Text
  octetNames : List (List UInt8)

namespace Redactor

def defaultNames : List Text :=
  ["password", "token", "secret", "key", "auth", "credential", "api_key", "access_token",
    "session_key"]

def make (enabled : Value) (names : List Text) : Redactor :=
  ⟨enabled, defaultNames ++ names.map Text.lower, []⟩

def lowerOctet (b : UInt8) : UInt8 := if 0x41 ≤ b ∧ b ≤ 0x5A then b + 0x20 else b

def add (r : Redactor) : Value → Option Redactor
  | .text t => some { r with names := r.names ++ [Text.lower t] }
  | .octets bs => some { r with octetNames := r.octetNames ++ [bs.map lowerOctet] }
  | _ => none

def isSensitive? (r : Redactor) : Value → Option Bool
  | .text t => some (Text.lower t ∈ r.names)
  | .octets bs => some (bs.map lowerOctet ∈ r.octetNames)
  | _ => none

def mark : Text := "[REDACTED]"

def redactPath (r : Redactor) (t : Text) : Text :=
  if r.enabled.isTrue && t.any isSeparator then
    mark ++ slash :: Text.takeBackWhile (!isSeparator ·) t
  else t

mutual

def redactValue (r : Redactor) : Value → Option Value
  | .table es => (redactEntries r es).map .table
  | .list items => (redactItems r items).map .list
  | .text t => some (.text (r.redactPath t))
  | .location p => some (.text (r.redactPath p.text))
  | v => some v

/-- Items of a list: inner lists are left alone, as are paths that are no texts. -/
def redactItems (r : Redactor) : List Value → Option (List Value)
  | [] => some []
  | .table es :: rest => do return .table (← redactEntries r es) :: (← redactItems r rest)
  | .text t :: rest => (redactItems r rest).map (.text (r.redactPath t) :: ·)
  | v :: rest => (redactItems r rest).map (v :: ·)

/-- Fails on a key that is neither text nor octets. -/
def redactEntries (r : Redactor) : List (Value × Value) → Option (List (Value × Value))
  | [] => some []
  | (k, v) :: rest => do
    let sensitive ← r.isSensitive? k
    let shown ← if sensitive then some (.text mark) else redactValue r v
    return (k, shown) :: (← redactEntries r rest)

end

def sortedNames? (r : Redactor) : Option (List Text) :=
  if r.octetNames = [] then some (r.names.eraseDups.mergeSort Text.isUpTo) else none

end Redactor

end DriveBridge
