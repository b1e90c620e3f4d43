import AgentGraft.Text.Numeral
import AgentGraft.Yaml.Cursor

/-!
# Points in time

The written form of a date, or of a date with a time of day and perhaps an offset, and whether there
is such a date. What is read of it is its parts; nothing in this library needs more of a point in
time than that it is one.
-/

namespace AgentGraft.Yaml

open Text

/-- The offset of a time of day. -/
structure Offset where
  negative : Bool
  hours : Nat
  minutes : Nat
  deriving DecidableEq

/-- The seconds of an offset. -/
def Offset.seconds (o : Offset) : Int :=
  let n : Int := (o.hours * 60 + o.minutes) * 60
  if o.negative then -n else n

/-- A time of day. -/
structure DayTime where
  hour : Nat
  minute : Nat
  second : Nat
  /-- The offset, when it is written in hours. -/
  offset : Option Offset
  deriving DecidableEq

/-- A point in time as it is written. -/
structure Moment where
  year : Nat
  month : Nat
  day : Nat
  /-- Month and day have two digits each. -/
  full : Bool
  time : Option DayTime
  deriving DecidableEq

namespace Moment

/-! ### Form -/

/-- A number of at least `least` and at most `most` digits at the start, as many as there are. -/
def digits? (least most : Nat) (cs : List Char) : Option (List Char × List Char) :=
  let ds := (cs.take most).takeWhile isDigit
  if least ≤ ds.length then some (ds, cs.drop ds.length) else none

/-- The text after a character at its start. -/
def char? (c : Char) : List Char → Option (List Char)
  | d :: cs => if d = c then some cs else none
  | [] => none

/-- The blank between parts of a point in time. -/
def isGap (c : Char) : Bool := c = ' ' || c = '\t'

/-- The minutes of an offset up to the end of the text. -/
def offsetMinutes? : List Char → Option Nat
  | [] => some 0
  | cs => do
    let cs ← char? ':' cs
    let (minutes, rest) ← digits? 2 2 cs
    if rest.isEmpty then some (ofDigits 10 minutes) else none

/-- The offset up to the end of the text; none inside when it is absent or the letter Z. -/
def offset? (cs : List Char) : Option (Option Offset) :=
  match cs, cs.dropWhile isGap with
  | [], _ => some none
  | _, ['Z'] => some none
  | _, sign :: more =>
    if sign = '-' ∨ sign = '+' then do
      let (hours, rest) ← digits? 1 2 more
      let minutes ← offsetMinutes? rest
      some (some ⟨sign = '-', ofDigits 10 hours, minutes⟩)
    else none
  | _, [] => none

/-- The text after the fraction of a second. -/
def dropFraction : List Char → List Char
  | '.' :: cs => cs.dropWhile isDigit
  | cs => cs

/-- The time of day up to the end of the text, after what sets it off from the date. -/
def time? (cs : List Char) : Option DayTime := do
  let (hour, cs) ← digits? 1 2 cs
  let cs ← char? ':' cs
  let (minute, cs) ← digits? 2 2 cs
  let cs ← char? ':' cs
  let (second, cs) ← digits? 2 2 cs
  let offset ← offset? (dropFraction cs)
  some ⟨ofDigits 10 hour, ofDigits 10 minute, ofDigits 10 second, offset⟩

/-- What follows the date: nothing, or a time of day after a T or blanks. -/
def rest? : List Char → Option (Option DayTime)
  | [] => some none
  | c :: cs =>
    if c = 'T' ∨ c = 't' then (time? cs).map some
    else if isGap c then (time? (cs.dropWhile isGap)).map some
    else none

/-- The parts of a point in time. A line end behind it does not count. -/
def ofChars? (cs : List Char) : Option Moment := do
  let cs := if cs.getLast? = some '\n' then cs.dropLast else cs
  let (year, cs) ← digits? 4 4 cs
  let cs ← char? '-' cs
  let (month, cs) ← digits? 1 2 cs
  let cs ← char? '-' cs
  let (day, cs) ← digits? 1 2 cs
  let time ← rest? cs
  some ⟨ofDigits 10 year, ofDigits 10 month, ofDigits 10 day,
    month.length = 2 ∧ day.length = 2, time⟩

/-- The form of a point in time that is recognized without a tag: a date alone has all its
digits. -/
def isRecognized (cs : List Char) : Bool :=
  (ofChars? cs).any fun m => m.full || m.time.isSome

/-! ### Validity -/

/-- The days of a month. -/
def daysOf (year month : Nat) : Nat :=
  if month = 2 then
    if year % 4 = 0 ∧ (year % 100 ≠ 0 ∨ year % 400 = 0) then 29 else 28
  else if [4, 6, 9, 11].contains month then 30
  else 31

/-- A length of time in messages: whole days and the seconds above them. -/
def durationText (seconds : Int) : String :=
  let days := seconds.fdiv 86400
  let rest := seconds.fmod 86400
  let parts := (if days = 0 then [] else ["days=" ++ toString days]) ++
    (if rest = 0 then [] else ["seconds=" ++ toString rest])
  "datetime.timedelta(" ++ (if parts.isEmpty then "0" else ", ".intercalate parts) ++ ")"

/-- Why an offset is none, if it is not. -/
def offsetFault? (o : Offset) : Option String :=
  if o.seconds.natAbs < 86400 then none
  else some ("offset must be a timedelta strictly between -timedelta(hours=24) and " ++
    "timedelta(hours=24), not " ++ durationText o.seconds ++ ".")

/-- Why a date is none, if it is not. -/
def dateFault? (m : Moment) : Option String :=
  if m.year = 0 then some "year 0 is out of range"
  else if m.month = 0 ∨ 12 < m.month then some "month must be in 1..12"
  else if m.day = 0 ∨ daysOf m.year m.month < m.day then some "day is out of range for month"
  else none

/-- Why a time of day is none, if it is not. -/
def timeFault? (t : DayTime) : Option String :=
  if 23 < t.hour then some "hour must be in 0..23"
  else if 59 < t.minute then some "minute must be in 0..59"
  else if 59 < t.second then some "second must be in 0..59"
  else none

/-- Why there is no such point in time: the offset is looked at first, then the date, then the time
of day. -/
def fault? (m : Moment) : Option String :=
  ((m.time.bind (·.offset)).bind offsetFault?).or
    ((dateFault? m).or (m.time.bind timeFault?))

end Moment

/-- A scalar that is tagged as a point in time. -/
def Moment.check (cs : List Char) : Except Fault Unit :=
  match Moment.ofChars? cs with
  | none => .error .notMoment
  | some m =>
    match m.fault? with
    | some message => .error (.unreadable message)
    | none => .ok ()

end AgentGraft.Yaml
