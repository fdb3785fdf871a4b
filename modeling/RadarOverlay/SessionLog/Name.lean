import RadarOverlay.Text.Number

/-!
Names of session log files: a fixed beginning, the moment the session began, and a
fixed ending.
-/
namespace RadarOverlay.SessionLog

/-- What the name of every session log begins with. -/
def namePrefix : String := "bars-plugin-"

/-- What the name of every session log ends with. -/
def nameSuffix : String := ".log"

/-- Whether a name begins and ends as the name of a session log does. -/
def isLogName (name : String) : Bool :=
  namePrefix.toList.isPrefixOf name.toList && nameSuffix.toList.isSuffixOf name.toList

/-- A moment of the calendar, in universal time. -/
structure Moment where
  year : Nat
  month : Nat
  day : Nat
  hour : Nat
  minute : Nat
  second : Nat
  millisecond : Nat
  deriving DecidableEq, Repr

/-- A number with zeros in front up to a width. -/
def padded (width n : Nat) : String :=
  let digits := Text.natDigits n
  String.ofList (List.replicate (width - digits.length) '0' ++ digits)

/-- A moment as file names show it. -/
def Moment.text (m : Moment) : String :=
  padded 4 m.year ++ padded 2 m.month ++ padded 2 m.day ++ "T" ++ padded 2 m.hour
    ++ padded 2 m.minute ++ padded 2 m.second ++ "." ++ padded 3 m.millisecond ++ "Z"

/-- The name of the log of a session that begins at a moment. -/
def logName (m : Moment) : String := namePrefix ++ m.text ++ nameSuffix

end RadarOverlay.SessionLog
