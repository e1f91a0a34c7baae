namespace QueryLayout

structure Date where
  year : Nat
  month : Nat
  day : Nat
deriving DecidableEq, Repr

structure Time where
  hour : Nat
  minute : Nat
  second : Nat
  micros : Nat := 0
deriving DecidableEq, Repr

/-- A moment on a clock, with the distance of the clock from universal time
in minutes if it is known. -/
structure DateTime where
  date : Date
  time : Time
  offset : Option Int := none
deriving DecidableEq, Repr

def isLeapYear (year : Nat) : Bool :=
  (year % 4 == 0 && year % 100 != 0) || year % 400 == 0

def daysInMonth (year month : Nat) : Nat :=
  if month = 2 then (if isLeapYear year then 29 else 28)
  else if month = 4 ∨ month = 6 ∨ month = 9 ∨ month = 11 then 30
  else 31

/-- A day that exists, in a year from 1 on. -/
def Date.isValid (date : Date) : Bool :=
  0 < date.year && 0 < date.month && date.month ≤ 12 && 0 < date.day &&
    date.day ≤ daysInMonth date.year date.month

/-- A number with zeros in front up to the given width. -/
def padNumber (width n : Nat) : String :=
  let digits := Nat.toDigits 10 n
  String.ofList (List.replicate (width - digits.length) '0' ++ digits)

def Date.text (date : Date) : String :=
  padNumber 4 date.year ++ "-" ++ padNumber 2 date.month ++ "-" ++ padNumber 2 date.day

def Time.text (time : Time) : String :=
  padNumber 2 time.hour ++ ":" ++ padNumber 2 time.minute ++ ":" ++ padNumber 2 time.second ++
    (if time.micros = 0 then "" else "." ++ padNumber 6 time.micros)

def offsetText (minutes : Int) : String :=
  (if minutes < 0 then "-" else "+") ++ padNumber 2 (minutes.natAbs / 60) ++ ":" ++
    padNumber 2 (minutes.natAbs % 60)

def DateTime.text (moment : DateTime) : String :=
  moment.date.text ++ " " ++ moment.time.text ++
    (match moment.offset with
      | some minutes => offsetText minutes
      | none => "")

def callText (name : String) (arguments : List String) : String :=
  name ++ "(" ++ ", ".intercalate arguments ++ ")"

def numberTexts (numbers : List Nat) : List String :=
  numbers.map toString

def Date.display (date : Date) : String :=
  callText "datetime.date" (numberTexts [date.year, date.month, date.day])

/-- The parts of a time of day. Seconds and microseconds are left out when
nothing after the minutes is set. -/
def Time.parts (time : Time) : List Nat :=
  [time.hour, time.minute] ++
    (if time.micros ≠ 0 then [time.second, time.micros]
      else if time.second ≠ 0 then [time.second]
      else [])

def Time.display (time : Time) : String :=
  callText "datetime.time" (numberTexts time.parts)

/-- A time zone by its distance in minutes. A negative one is counted from
the day before. -/
def zoneDisplay (minutes : Int) : String :=
  if minutes = 0 then "datetime.timezone.utc"
  else
    let span :=
      if minutes < 0 then
        callText "datetime.timedelta" ["days=-1", "seconds=" ++ toString (86400 + minutes * 60)]
      else callText "datetime.timedelta" ["seconds=" ++ toString (minutes * 60)]
    callText "datetime.timezone" [span]

def DateTime.display (moment : DateTime) : String :=
  let parts := [moment.date.year, moment.date.month, moment.date.day] ++ moment.time.parts
  let zone :=
    match moment.offset with
    | some minutes => ["tzinfo=" ++ zoneDisplay minutes]
    | none => []
  callText "datetime.datetime" (numberTexts parts ++ zone)

end QueryLayout
