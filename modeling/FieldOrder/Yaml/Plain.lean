import FieldOrder.Number.Read
import FieldOrder.Schema.Value
import FieldOrder.Text.Blank
import FieldOrder.Text.Quoted
import FieldOrder.Yaml.Place

namespace FieldOrder.Yaml

inductive ScalarKind where
  | null
  | truth
  | whole
  | float
  | date
  /-- A key whose value is merged into its mapping. -/
  | merge
  /-- The key of a default value. -/
  | default
  | text
  deriving Repr, DecidableEq

def isWholeForm (cs : List Char) : Bool :=
  let digits (test : Char → Bool) (ds : List Char) : Bool :=
    !ds.isEmpty && ds.all fun c => c == '_' || test c
  let octal (c : Char) : Bool := '0' ≤ c && c ≤ '7'
  let hexadecimal (c : Char) : Bool :=
    c.isDigit || ('a' ≤ c && c ≤ 'f') || ('A' ≤ c && c ≤ 'F')
  cs.head? != some '_' &&
    match (Number.splitSign cs).2 with
    | '0' :: 'b' :: ds => digits (fun c => c == '0' || c == '1') ds
    | '0' :: 'o' :: ds => digits octal ds
    | '0' :: 'x' :: ds => digits hexadecimal ds
    | ds => digits Char.isDigit ds

def isExponentForm (signed : Bool) : List Char → Bool
  | [] => true
  | e :: rest =>
    (e == 'e' || e == 'E') && (!signed || rest.head?.any fun c => c == '+' || c == '-') &&
      !(Number.splitSign rest).2.isEmpty && (Number.splitSign rest).2.all Char.isDigit

def isFloatForm (cs : List Char) : Bool :=
  let isPlace (c : Char) : Bool := c == '_' || c.isDigit
  let unsigned := (Number.splitSign cs).2
  match unsigned with
  | '.' :: rest =>
    let places := rest.takeWhile isPlace
    [".inf", ".Inf", ".INF"].contains (.ofList unsigned) ||
      [".nan", ".NaN", ".NAN"].contains (.ofList cs) ||
      (!places.isEmpty && isExponentForm true (rest.dropWhile isPlace))
  | c :: _ =>
    c.isDigit &&
      match unsigned.dropWhile isPlace with
      | '.' :: rest => isExponentForm false (rest.dropWhile isPlace)
      | [] => false
      | rest => isExponentForm false rest
  | [] => false

/-- Distance of a zone from the zero meridian, as it is written and in minutes. -/
structure Zone where
  text : String
  minutes : Int

structure TimeOfDay where
  hour : Nat
  minute : Nat
  second : Nat
  /-- Millionths of a second; a fraction that rounds up to a whole second has a million. -/
  millionths : Nat
  zone : Option Zone

structure Date where
  year : Nat
  month : Nat
  day : Nat
  time : Option TimeOfDay := none

def leading (least most : Nat) (cs : List Char) : Option (Nat × List Char) :=
  let digits := (cs.take most).takeWhile Char.isDigit
  if least ≤ digits.length then some (Number.digitsValue digits, cs.drop digits.length) else none

def literal (c : Char) : List Char → Option (List Char)
  | [] => none
  | d :: rest => if c = d then some rest else none

def zone? (cs : List Char) : Option (Option Zone) :=
  let written := cs.dropWhile isSpace
  let zone (sign : Char) (hours minutes : Nat) : Option Zone :=
    let n : Int := 60 * hours + minutes
    some ⟨.ofList written, if sign = '-' then -n else n⟩
  match written with
  | ['Z'] => some (some ⟨"Z", 0⟩)
  | c :: rest =>
    if c == '+' || c == '-' then
      match leading 1 2 rest with
      | some (hours, []) => some (zone c hours 0)
      | some (hours, ':' :: rest) =>
        match leading 2 2 rest with
        | some (minutes, []) => some (zone c hours minutes)
        | _ => none
      | _ => none
    else none
  | [] => if cs.isEmpty then some none else none

def time? (cs : List Char) : Option TimeOfDay := do
  let (hour, cs) ← leading 1 2 cs
  let (minute, cs) ← leading 2 2 (← literal ':' cs)
  let (second, cs) ← leading 2 2 (← literal ':' cs)
  let (fraction, cs) := match cs with
    | '.' :: rest => (rest.takeWhile Char.isDigit, rest.dropWhile Char.isDigit)
    | rest => ([], rest)
  let zone ← zone? cs
  let six := (fraction ++ List.replicate 6 '0').take 6
  let up := if fraction[6]?.any ('5' ≤ ·) then 1 else 0
  return { hour, minute, second, millionths := Number.digitsValue six + up, zone }

def date? (cs : List Char) : Option Date := do
  let (year, cs) ← leading 4 4 cs
  let (month, rest) ← leading 1 2 (← literal '-' cs)
  let (day, rest) ← leading 1 2 (← literal '-' rest)
  match rest with
  | [] => if cs.length = 6 then return { year, month, day } else none
  | c :: after =>
    let after ← if c = 'T' || c = 't' then some after
      else if isSpace c then some (after.dropWhile isSpace)
      else none
    return { year, month, day, time := some (← time? after) }

def daysIn (year month : Nat) : Nat :=
  if month = 2 then
    if year % 4 = 0 && (year % 100 != 0 || year % 400 = 0) then 29 else 28
  else if [4, 6, 9, 11].contains month then 30
  else 31

/-- A distance in minutes as whole days, which may be less than none, and seconds of a day. -/
def distanceShown (minutes : Int) : String :=
  let days := minutes.fdiv 1440
  let seconds := 60 * minutes.fmod 1440
  let parts := (if days = 0 then [] else ["days=" ++ toString days]) ++
    (if seconds = 0 then [] else ["seconds=" ++ toString seconds])
  "datetime.timedelta(" ++ (if parts.isEmpty then "0" else ", ".intercalate parts) ++ ")"

def Zone.shown (z : Zone) : String :=
  "datetime.timezone(" ++ distanceShown z.minutes ++ ", " ++ Text.quoted z.text ++ ")"

def Zone.fault? (z : Zone) : Option String :=
  if z.minutes.natAbs < 1440 then none
  else some ("offset must be a timedelta strictly between -timedelta(hours=24) and " ++
    "timedelta(hours=24), not " ++ distanceShown z.minutes ++ ".")

def TimeOfDay.fault? (t : TimeOfDay) : Option String :=
  [("hour", 23, t.hour), ("minute", 59, t.minute), ("second", 59, t.second)].findSome?
    fun (name, most, n) =>
      if most < n then some (name ++ " must be in 0.." ++ toString most) else none

def Date.fault? (d : Date) : Option String :=
  (d.time.bind (·.zone)).bind Zone.fault? <|>
    if d.year = 0 then some "year 0 is out of range"
    else if d.month = 0 || 12 < d.month then some "month must be in 1..12"
    else if d.day = 0 || daysIn d.year d.month < d.day then some "day is out of range for month"
    else d.time.bind TimeOfDay.fault?

def Date.nextDay (d : Date) : Date :=
  if d.day < daysIn d.year d.month then { d with day := d.day + 1 }
  else if d.month < 12 then { d with month := d.month + 1, day := 1 }
  else { d with year := d.year + 1, month := 1, day := 1 }

/-- The date with a million millionths counted as a second. -/
def Date.carried (d : Date) : Date :=
  match d.time with
  | none => d
  | some t =>
    if t.millionths < 1000000 then d
    else
      let seconds := 3600 * t.hour + 60 * t.minute + t.second + 1
      let time := { t with
        hour := seconds / 3600 % 24, minute := seconds / 60 % 60, second := seconds % 60
        millionths := 0 }
      { (if seconds = 86400 then d.nextDay else d) with time := some time }

def Date.shown (d : Date) : String :=
  let parts (ps : List String) : String := "(" ++ ", ".intercalate ps ++ ")"
  let day := [d.year, d.month, d.day].map toString
  match d.time with
  | none => "datetime.date" ++ parts day
  | some t =>
    let small := if t.millionths = 0 then (if t.second = 0 then [] else [t.second])
      else [t.second, t.millionths]
    let zone := (t.zone.map fun z => "tzinfo=" ++ z.shown).toList
    "datetime.datetime" ++ parts (day ++ (t.hour :: t.minute :: small).map toString ++ zone)

/-- Days from the first one of the calendar on. -/
def Date.dayNumber (d : Date) : Nat :=
  let years := d.year - 1
  let months := (List.range (d.month - 1)).map fun m => daysIn d.year (m + 1)
  365 * years + years / 4 - years / 100 + years / 400 + months.foldl Nat.add 0 + d.day

/-- Dates are compared with dates, and moments with moments, as long as both have a zone or neither
does. -/
def Date.rank (d : Date) : String × List Int :=
  let day : List Int := [d.year, d.month, d.day]
  match d.time with
  | none => ("date", day)
  | some t =>
    match t.zone with
    | none => ("datetime", day ++ [(t.hour : Int), t.minute, t.second, t.millionths])
    | some z =>
      let minutes : Int := 1440 * d.dayNumber + 60 * t.hour + t.minute - z.minutes
      ("instant", [minutes, t.second, t.millionths])

def Date.toValue (d : Date) : Value := .other {
  kind := if d.time.isSome then "datetime" else "date"
  kind_not_plain := by split <;> decide
  shown := d.shown
  rank? := some d.rank }

def readDate (s : String) : Except Fault Value :=
  match date? s.toList with
  | none => .error .malformed
  | some d =>
    match d.fault? with
    | some cause => .error (.noDate cause)
    | none => .ok d.carried.toValue

/-- The kind that a plain scalar has by its form. -/
def plainKind (s : String) : ScalarKind :=
  let cs := s.toList
  if ["true", "True", "TRUE", "false", "False", "FALSE"].contains s then .truth
  else if isFloatForm cs then .float
  else if isWholeForm cs then .whole
  else if s = "<<" then .merge
  else if ["", "~", "null", "Null", "NULL"].contains s then .null
  else if (date? cs).isSome then .date
  else if s = "=" then .default
  else .text

def ungrouped (s : String) : List Char := s.toList.filter (· != '_')

def truthWords : List (String × Bool) :=
  [("yes", true), ("no", false), ("y", true), ("n", false), ("true", true), ("false", false),
    ("on", true), ("off", false)]

def readBase (base : Nat) (cs : List Char) : Except Fault Int :=
  let (negative, digits) := Number.splitSign (Text.trim (.ofList cs)).toList
  let value? (c : Char) : Option Nat :=
    let n := if c.isDigit then c.toNat - 48 else c.toLower.toNat - 87
    if c.isAlphanum && n < base then some n else none
  let values := digits.filterMap value?
  if digits.isEmpty || values.length ≠ digits.length then .error (.notWhole base (.ofList cs))
  else if base = 10 && Value.digitLimit < digits.length then .error (.tooLong digits.length)
  else
    let n := values.foldl (fun n d => base * n + d) 0
    .ok (if negative then -(n : Int) else n)

def readWhole (s : String) : Except Fault Value := do
  let cs := ungrouped s
  if cs.isEmpty then throw .emptyNumber
  let (negative, cs) := Number.splitSign cs
  let n ← match cs with
    | '0' :: 'b' :: ds => readBase 2 ds
    | '0' :: 'x' :: ds => readBase 16 ds
    | '0' :: 'o' :: ds => readBase 8 ds
    | ds => readBase 10 ds
  return .int (if negative then -n else n)

def readFloat (s : String) : Except Fault Value := do
  let cs := (ungrouped s).map Char.toLower
  if cs.isEmpty then throw .emptyNumber
  let (negative, cs) := Number.splitSign cs
  let (inner, digits) := Number.splitSign (Text.trim (.ofList cs)).toList
  let x ← match String.ofList digits with
    | ".inf" | "inf" | "infinity" => pure (1.0 / 0.0)
    | ".nan" | "nan" => pure (0.0 / 0.0)
    | _ =>
      match Number.decimal? digits with
      | some d => pure d.toFloat
      | none => throw (.notFloat (.ofList cs))
  return .float (if negative != inner then -x else x)

/-- The value of a scalar of a kind. Keys of the two special kinds are no values. -/
def ScalarKind.read (s : String) : ScalarKind → Except Fault Value
  | null => .ok .null
  | truth =>
    match truthWords.lookup (s.map Char.toLower) with
    | some b => .ok (.bool b)
    | none => .error .notTruth
  | whole => readWhole s
  | float => readFloat s
  | date => readDate s
  | merge => .error .malformed
  | default => .error .malformed
  | text => .ok (.str s)

def ScalarKind.ofTag? (tag : String) : Option ScalarKind :=
  [("null", null), ("bool", truth), ("int", whole), ("float", float), ("timestamp", date),
    ("merge", merge), ("value", default), ("str", text)].findSome? fun (name, kind) =>
      if tag = "tag:yaml.org,2002:" ++ name then some kind else none

end FieldOrder.Yaml
