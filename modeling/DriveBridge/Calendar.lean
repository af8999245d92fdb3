import DriveBridge.Numeral.Integer

/-!
Instants of the Gregorian calendar in UTC. Years are counted from March, so that the leap day is
the last of its year and a month starts a fixed number of days into the year.
-/

namespace DriveBridge.Calendar

structure Date where
  year : Int
  month : Nat
  day : Nat
  deriving DecidableEq

abbrev cycle : Nat := 146097

abbrev epoch : Int := 719468

def yearOfCycle (day : Nat) : Nat := (day - day / 1460 + day / 36524 - day / 146096) / 365

def yearStart (year : Nat) : Nat := 365 * year + year / 4 - year / 100

def monthStart (month : Nat) : Nat := (153 * month + 2) / 5

def Date.ofDays (days : Int) : Date :=
  let shifted := days + epoch
  let dayOfCycle := (shifted % cycle).toNat
  let year := yearOfCycle dayOfCycle
  let dayOfYear := dayOfCycle - yearStart year
  let month := (5 * dayOfYear + 2) / 153
  let sinceCycles := shifted / cycle * 400 + year
  let day := dayOfYear - monthStart month + 1
  if month < 10 then ⟨sinceCycles, month + 3, day⟩ else ⟨sinceCycles + 1, month - 9, day⟩

def isLeap (year : Int) : Bool := year % 4 = 0 && (year % 100 != 0 || year % 400 = 0)

def monthLengths (year : Int) : List Nat :=
  [31, if isLeap year then 29 else 28, 31, 30, 31, 30, 31, 31, 30, 31, 30, 31]

def Date.isValid (d : Date) : Bool :=
  1 ≤ d.month && 1 ≤ d.day && (monthLengths d.year)[d.month - 1]?.any (d.day ≤ ·)

def daysBefore (year : Int) : Int :=
  let past := year - 1
  365 * past + past / 4 - past / 100 + past / 400

def Date.toDays (d : Date) : Int :=
  let inYear : Nat := ((monthLengths d.year).take (d.month - 1)).foldl (· + ·) 0
  daysBefore d.year - daysBefore 1970 + inYear + (d.day - 1)

/-- Years are counted from 1900 in 32 bits; beyond them an instant has no stamp. -/
def hasStamp (seconds : Int) : Bool :=
  let year := (Date.ofDays (seconds / 86400)).year - 1900
  year < 0x80000000 && -0x80000000 ≤ year

def padTwo (n : Nat) : Text := if n < 10 then 0x30 :: Integer.digits n else Integer.digits n

def stamp (seconds : Int) : Text :=
  let date := Date.ofDays (seconds / 86400)
  let second := (seconds % 86400).toNat
  Integer.toText date.year ++ Text.ofString "-" ++ padTwo date.month ++ Text.ofString "-" ++
    padTwo date.day ++ Text.ofString "T" ++ padTwo (second / 3600) ++ Text.ofString ":" ++
    padTwo (second / 60 % 60) ++ Text.ofString ":" ++ padTwo (second % 60) ++ Text.ofString "Z"

end DriveBridge.Calendar
