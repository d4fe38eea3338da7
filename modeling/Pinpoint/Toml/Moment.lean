import Pinpoint.Text

/-!
# Dates and times

A document may hold a date, a time of day, or both together with an offset from universal time.
Each is read from fixed fields of digits, and written in two ways: in the form in which it is read,
and as a call that makes it.
-/

namespace Pinpoint.Toml

/-- A day of the calendar. -/
structure Date where
  year : Nat
  month : Nat
  day : Nat
  deriving DecidableEq, Repr

/-- A time of day, with microseconds. -/
structure Time where
  hour : Nat
  minute : Nat
  second : Nat
  micro : Nat
  deriving DecidableEq, Repr

/-- A day and a time, and an offset in minutes if the place matters. -/
structure DateTime where
  date : Date
  time : Time
  offset : Option Int
  deriving DecidableEq, Repr

/-! ## Calendar -/

/-- A year with 29 days in February. -/
def isLeapYear (year : Nat) : Bool := year % 4 = 0 && (year % 100 ≠ 0 || year % 400 = 0)

/-- The days of a month. -/
def daysInMonth (year month : Nat) : Nat :=
  if month = 2 then if isLeapYear year then 29 else 28
  else if month = 4 ∨ month = 6 ∨ month = 9 ∨ month = 11 then 30
  else 31

/-- The day is in the calendar, which starts with the year 1. -/
def Date.isValid (d : Date) : Bool := 1 ≤ d.year && d.day ≤ daysInMonth d.year d.month

/-! ## Reading -/

/-- The number that `count` digits at the start of a text spell. -/
def takeDigits? : (count : Nat) → Text → Option (Nat × Text)
  | 0, t => some (0, t)
  | _ + 1, [] => none
  | count + 1, c :: t =>
    if c.isDigit then do
      let (n, rest) ← takeDigits? count t
      return ((c.toNat - '0'.toNat) * Nat.pow 10 count + n, rest)
    else none

/-- A number of two digits between bounds. -/
def takeTwo? (lo hi : Nat) (t : Text) : Option (Nat × Text) := do
  let (n, rest) ← takeDigits? 2 t
  guard (lo ≤ n ∧ n ≤ hi)
  return (n, rest)

/-- A character at the start of a text. -/
def takeChar? (ok : Char → Bool) : Text → Option (Char × Text)
  | c :: rest => if ok c then some (c, rest) else none
  | [] => none

/-- The microseconds after a point: six digits count, more are read over, fewer are filled up. -/
def takeMicros (t : Text) : Nat × Text :=
  match t with
  | '.' :: rest =>
    let ds := rest.takeWhile Char.isDigit
    if ds = [] then (0, t)
    else
      let six := Text.padRight 6 '0' (ds.take 6)
      (six.foldl (fun n c => 10 * n + (c.toNat - '0'.toNat)) 0, rest.dropWhile Char.isDigit)
  | _ => (0, t)

/-- A time of day at the start of a text. -/
def takeTime? (t : Text) : Option (Time × Text) := do
  let (hour, t) ← takeTwo? 0 23 t
  let (_, t) ← takeChar? (· = ':') t
  let (minute, t) ← takeTwo? 0 59 t
  let (_, t) ← takeChar? (· = ':') t
  let (second, t) ← takeTwo? 0 59 t
  let (micro, t) := takeMicros t
  return (⟨hour, minute, second, micro⟩, t)

/-- An offset from universal time at the start of a text, in minutes. -/
def takeOffset? (t : Text) : Option (Int × Text) :=
  match t with
  | c :: rest =>
    if c = 'Z' ∨ c = 'z' then some (0, rest)
    else if c = '+' ∨ c = '-' then do
      let (hours, rest) ← takeTwo? 0 23 rest
      let (_, rest) ← takeChar? (· = ':') rest
      let (minutes, rest) ← takeTwo? 0 59 rest
      let total : Int := (60 * hours + minutes : Nat)
      return (if c = '-' then -total else total, rest)
    else none
  | [] => none

/-- The fields of a date at the start of a text. -/
def takeDate? (t : Text) : Option (Date × Text) := do
  let (year, t) ← takeDigits? 4 t
  let (_, t) ← takeChar? (· = '-') t
  let (month, t) ← takeTwo? 1 12 t
  let (_, t) ← takeChar? (· = '-') t
  let (day, t) ← takeTwo? 1 31 t
  return (⟨year, month, day⟩, t)

/-- The time of day after a date. -/
def takeTimeOfDate? (t : Text) : Option (Time × Option Int × Text) := do
  let (_, t) ← takeChar? (fun c => c = 'T' ∨ c = 't' ∨ c = ' ') t
  let (time, t) ← takeTime? t
  match takeOffset? t with
  | some (offset, t) => return (time, some offset, t)
  | none => return (time, none, t)

/-! ## Writing -/

/-- A number with zeros in front. -/
def padded (width n : Nat) : Text := Text.padLeft width '0' (Text.ofNat n)

/-- A date as it is read. -/
def Date.render (d : Date) : Text :=
  padded 4 d.year ++ '-' :: padded 2 d.month ++ '-' :: padded 2 d.day

/-- A time as it is read; microseconds only if there are some. -/
def Time.render (t : Time) : Text :=
  padded 2 t.hour ++ ':' :: padded 2 t.minute ++ ':' :: padded 2 t.second ++
    if t.micro = 0 then [] else '.' :: padded 6 t.micro

/-- An offset as it is read, with a sign. -/
def renderOffset (minutes : Int) : Text :=
  (if minutes < 0 then '-' else '+') ::
    (padded 2 (minutes.natAbs / 60) ++ ':' :: padded 2 (minutes.natAbs % 60))

/-- A date with its time, and a character between them. -/
def DateTime.render (sep : Char) (d : DateTime) : Text :=
  d.date.render ++ sep :: d.time.render ++
    match d.offset with
    | none => []
    | some minutes => renderOffset minutes

/-- Arguments of a call. -/
def call (name : Text) (args : List Text) : Text :=
  "datetime." ++ name ++ "(" ++ Text.join ", ".toList args ++ ")"

/-- The call that makes a date. -/
def Date.call (d : Date) : Text := Toml.call "date" ([d.year, d.month, d.day].map Text.ofNat)

/-- The arguments of a time; seconds and microseconds only as far as they are not zero. -/
def Time.args (t : Time) : List Text :=
  ([t.hour, t.minute] ++
    if t.micro ≠ 0 then [t.second, t.micro] else if t.second ≠ 0 then [t.second] else []).map
    Text.ofNat

/-- The call that makes a time. -/
def Time.call (t : Time) : Text := Toml.call "time" t.args

/-- The call that makes an offset; one below zero counts forward from the day before. -/
def offsetCall (minutes : Int) : Text :=
  if minutes = 0 then "datetime.timezone.utc"
  else
    let seconds := Int.natAbs ((minutes * 60) % 86400)
    let delta :=
      (if minutes < 0 then ["days=-1".toList] else []) ++ ["seconds=" ++ Text.ofNat seconds]
    call "timezone" [call "timedelta" delta]

/-- The call that makes a date with its time. -/
def DateTime.call (d : DateTime) : Text :=
  Toml.call "datetime" ([d.date.year, d.date.month, d.date.day].map Text.ofNat ++ d.time.args ++
    d.offset.toList.map fun minutes => "tzinfo=" ++ offsetCall minutes)

end Pinpoint.Toml
