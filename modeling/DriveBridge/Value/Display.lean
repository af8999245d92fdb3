import DriveBridge.Numeral.Shortest
import DriveBridge.Text.Quoted
import DriveBridge.Value.Basic

namespace DriveBridge.Value

def boolText (b : Bool) : Text := if b then "True" else "False"

def commaSeparated : List Text → Text
  | [] => []
  | [t] => t
  | t :: ts => t ++ Text.ofString ", " ++ commaSeparated ts

def call (name argument : Text) : Text :=
  name ++ Text.ofString "(" ++ argument ++ Text.ofString ")"

mutual

def literal : Value → Text
  | null => "None"
  | bool b => boolText b
  | int n => Integer.toText n
  | float x => x.toText
  | text t => Quoted.ofText t
  | octets bs => Quoted.ofOctets bs
  | list items => Text.ofString "[" ++ commaSeparated (literals items) ++ Text.ofString "]"
  | tuple items =>
    let comma : Text := if items.length = 1 then "," else []
    Text.ofString "(" ++ commaSeparated (literals items) ++ comma ++ Text.ofString ")"
  | table es => Text.ofString "\x7b" ++ commaSeparated (entryLiterals es) ++ Text.ofString "\x7d"
  | location p => call p.kind (Quoted.ofText p.slashed)
  | client p => call "SourcePath" (Text.ofString "text=" ++ Quoted.ofText p.text)
  | host p => call "TargetPath" (Text.ofString "text=" ++ Quoted.ofText p.text)
  | unit u =>
    Text.ofString "<LengthUnit." ++ u.name ++ Text.ofString ": " ++ Quoted.ofText u.label ++
      Text.ofString ">"

def literals : List Value → List Text
  | [] => []
  | v :: vs => literal v :: literals vs

def entryLiterals : List (Value × Value) → List Text
  | [] => []
  | (k, v) :: es => (literal k ++ Text.ofString ": " ++ literal v) :: entryLiterals es

end

def display : Value → Text
  | text t => t
  | location p => p.text
  | client p => p.text
  | host p => p.text
  | unit u => Text.ofString "LengthUnit." ++ u.name
  | v => literal v

end DriveBridge.Value
