import DriveBridge.Config.Environment

namespace DriveBridge

structure Settings where
  lengthUnit : Value
  warnUnrestricted : Value

structure Configuration where
  lengthUnit : Text
  warnUnrestricted : Bool
  logDirectory : Option Text
  console : Bool
  fullPaths : Bool
  maxMegabytes : Option Int
  maxFiles : Value

namespace Configuration

def read (env : Environment) : Configuration where
  lengthUnit := env.choice .lengthUnit LengthUnit.utf8.label LengthUnit.labels
  warnUnrestricted := env.flag .warnUnrestricted (.bool true)
  logDirectory :=
    let directory := env.text .logDirectory []
    if directory = [] then none else some directory
  console := env.flag .logConsole (.bool false)
  fullPaths := env.flag .logFullPaths (.bool false)
  maxMegabytes := env.integer? .logMaxMegabytes
  maxFiles := env.integer .logMaxFiles (.int 5)

def settings (c : Configuration) : Settings := ⟨.text c.lengthUnit, .bool c.warnUnrestricted⟩

end Configuration

namespace Settings

def unitOr (s : Settings) : Value → Value
  | .null => s.lengthUnit
  | v => v

def warningsOr (s : Settings) : Value → Value
  | .null => s.warnUnrestricted
  | v => v

end Settings

end DriveBridge
