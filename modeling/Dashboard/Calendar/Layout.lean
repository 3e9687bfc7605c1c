import Dashboard.Calendar.Timestamp
import Dashboard.Decimal.Basic
import Dashboard.Text.Blank

/-!
# Calendar.Layout · written forms of dates

A layout is a list of items. Each item reads a part of a text; a layout accepts a text if its items
read all of it and the parts make an existing day and time.

* White space may stand before every number, and a blank of a layout takes any white space, also
  none.
* A year has up to four digits, or any number of them after a sign; the other numbers have one or
  two digits.
* Names of months are read without regard to case.
-/

namespace Dashboard

namespace Calendar

/-- A part of a layout. -/
inductive Item where
  /-- A character that stands for itself. -/
  | mark (c : Char)
  /-- Any white space. -/
  | blank
  | year
  | month
  | day
  | hour
  | minute
  | second
  /-- A point and digits of a second, if there is a point. -/
  | fraction
  /-- A name of a month, in full or its first three letters. -/
  | monthName
  /-- The first three letters of a name of a month. -/
  | monthAbbreviation
deriving DecidableEq, Repr

/-- The parts of a date that have been read. -/
structure Parts where
  year : Int := 0
  month : Nat := 0
  day : Nat := 0
  hour : Nat := 0
  minute : Nat := 0
  second : Nat := 0
  nanosecond : Nat := 0
deriving DecidableEq, Repr

/-! ## Scanning -/

/-- Reads at least `least` and at most `most` digits. -/
def scanNumber? (least most : Nat) (s : List Char) : Option (Nat × List Char) :=
  let digits := (s.take most).takeWhile Char.isDigit
  if digits.length < least ∨ digits.isEmpty then none
  else some (Decimal.ofDigits digits, s.drop digits.length)

/-- Reads one or two digits after white space. -/
def scanShortNumber? (s : List Char) : Option (Nat × List Char) :=
  scanNumber? 1 2 (Text.trimStart s)

/-- Reads a year after white space. -/
def scanYear? (s : List Char) : Option (Int × List Char) :=
  match Text.trimStart s with
  | '-' :: r => (scanNumber? 1 r.length r).map fun (n, rest) => (-(n : Int), rest)
  | '+' :: r => (scanNumber? 1 r.length r).map fun (n, rest) => ((n : Int), rest)
  | r => (scanNumber? 1 4 r).map fun (n, rest) => ((n : Int), rest)

/-- Reads the digits after the point of a second as nanoseconds; from the tenth on they are
ignored. -/
def scanNanosecond? (s : List Char) : Option (Nat × List Char) :=
  let (digits, rest) := Decimal.scanDigits s
  if digits.isEmpty then none
  else
    let kept := digits.take 9
    some (Decimal.ofDigits kept * 10 ^ (9 - kept.length), rest)

/-- Reads a point and digits of a second, if there is a point. -/
def scanFraction? (s : List Char) : Option (Nat × List Char) :=
  match s with
  | '.' :: r => scanNanosecond? r
  | _ => some (0, s)

/-- Splits off a text without regard to the case of ASCII letters. -/
def dropWord? : List Char → List Char → Option (List Char)
  | [], s => some s
  | w :: word, c :: s => if w.toLower = c.toLower then dropWord? word s else none
  | _ :: _, [] => none

/-- Reads the first three letters of a name of a month; gives the number of the month. -/
def scanMonthAbbreviation? (s : List Char) : Option (Nat × List Char) :=
  (List.range 12).findSome? fun i =>
    (dropWord? ((monthNames.getD i "").toList.take 3) s).map fun rest => (i + 1, rest)

/-- Reads a name of a month, in full if it is there in full; gives the number of the month. -/
def scanMonthName? (s : List Char) : Option (Nat × List Char) := do
  let (month, rest) ← scanMonthAbbreviation? s
  match dropWord? ((monthNames.getD (month - 1) "").toList.drop 3) rest with
  | some rest => some (month, rest)
  | none => some (month, rest)

/-! ## Layouts -/

/-- Reads one item. -/
def scanItem? (item : Item) (parts : Parts) (s : List Char) : Option (Parts × List Char) :=
  match item with
  | .mark c =>
    match s with
    | d :: rest => if c = d then some (parts, rest) else none
    | [] => none
  | .blank => some (parts, Text.trimStart s)
  | .year => (scanYear? s).map fun (n, rest) => ({ parts with year := n }, rest)
  | .month => (scanShortNumber? s).map fun (n, rest) => ({ parts with month := n }, rest)
  | .day => (scanShortNumber? s).map fun (n, rest) => ({ parts with day := n }, rest)
  | .hour => (scanShortNumber? s).map fun (n, rest) => ({ parts with hour := n }, rest)
  | .minute => (scanShortNumber? s).map fun (n, rest) => ({ parts with minute := n }, rest)
  | .second => (scanShortNumber? s).map fun (n, rest) => ({ parts with second := n }, rest)
  | .fraction => (scanFraction? s).map fun (n, rest) => ({ parts with nanosecond := n }, rest)
  | .monthName => (scanMonthName? s).map fun (n, rest) => ({ parts with month := n }, rest)
  | .monthAbbreviation =>
    (scanMonthAbbreviation? s).map fun (n, rest) => ({ parts with month := n }, rest)

/-- Reads the items of a layout one after the other. -/
def scanLayout? : List Item → Parts → List Char → Option (Parts × List Char)
  | [], parts, s => some (parts, s)
  | item :: layout, parts, s => do
    let (parts, s) ← scanItem? item parts s
    scanLayout? layout parts s

/-- The time that parts make, if the day and the time exist. Second 60 is a leap second. -/
def Parts.timestamp? (p : Parts) : Option Timestamp :=
  if isDate p.year p.month p.day && p.hour ≤ 23 && p.minute ≤ 59 && p.second ≤ 60 then
    if p.second = 60 then
      some ⟨p.year, p.month, p.day, p.hour, p.minute, 59, 1000000000 + p.nanosecond⟩
    else some ⟨p.year, p.month, p.day, p.hour, p.minute, p.second, p.nanosecond⟩
  else none

/-- The time that a whole text writes in a layout. -/
def readLayout? (layout : List Item) (s : List Char) : Option Timestamp :=
  match scanLayout? layout {} s with
  | some (parts, []) => parts.timestamp?
  | _ => none

/-- Layouts are written in short: a letter for each part, every other character for itself. -/
def layoutOf (pattern : String) : List Item :=
  pattern.toList.map fun
    | 'Y' => .year
    | 'M' => .month
    | 'D' => .day
    | 'h' => .hour
    | 'm' => .minute
    | 's' => .second
    | 'f' => .fraction
    | 'N' => .monthName
    | 'A' => .monthAbbreviation
    | ' ' => .blank
    | c => .mark c

/-- The layouts of a day with a time. -/
def dateTimeLayouts : List (List Item) :=
  ["Y-M-DTh:m:sf", "Y-M-DTh:m:s", "Y-M-DTh:m", "Y-M-D h:m:sf", "Y-M-D h:m:s", "Y-M-D h:m",
    "Y/M/D h:m:s", "M/D/Y h:m:s", "M/D/Y h:m"].map layoutOf

/-- The layouts of a day. -/
def dateLayouts : List (List Item) :=
  ["Y-M-D", "Y/M/D", "M/D/Y", "N D, Y", "A D, Y", "D N Y", "D A Y"].map layoutOf

/-! ## Internet timestamps -/

/-- Reads exactly `count` digits. -/
def scanFixed? (count : Nat) (s : List Char) : Option (Nat × List Char) :=
  scanNumber? count count s

/-- Splits off a character. -/
def dropMark? (c : Char) : List Char → Option (List Char)
  | d :: rest => if c = d then some rest else none
  | [] => none

/-- Splits off an offset from universal time: `Z`, or a sign, two digits of hours up to 23, a colon
and two digits of minutes up to 59. The sign may be the typographic minus. -/
def dropOffset? (s : List Char) : Option (List Char) :=
  match s with
  | 'Z' :: rest | 'z' :: rest => some rest
  | c :: rest =>
    if c = '+' ∨ c = '-' ∨ c = '−' then do
      let (hours, rest) ← scanFixed? 2 rest
      let rest ← dropMark? ':' rest
      let (minutes, rest) ← scanFixed? 2 rest
      if hours ≤ 23 ∧ minutes ≤ 59 then some rest else none
    else none
  | [] => none

/-- The wall-clock time of a text such as `2024-01-31T12:30:00.5+02:00`. Every number has its full
width, a time with seconds and an offset must follow the day, and the offset is dropped. -/
def readInternet? (s : List Char) : Option Timestamp := do
  let (year, s) ← scanFixed? 4 s
  let s ← dropMark? '-' s
  let (month, s) ← scanFixed? 2 s
  let s ← dropMark? '-' s
  let (day, s) ← scanFixed? 2 s
  let s ← match s with
    | 'T' :: rest | 't' :: rest | ' ' :: rest => some rest
    | _ => none
  let (hour, s) ← scanFixed? 2 s
  let s ← dropMark? ':' s
  let (minute, s) ← scanFixed? 2 s
  let s ← dropMark? ':' s
  let (second, s) ← scanFixed? 2 s
  let (nanosecond, s) ← scanFraction? s
  let s ← dropOffset? s
  if s.isEmpty then
    Parts.timestamp? ⟨year, month, day, hour, minute, second, nanosecond⟩
  else none

/-! ## Reading a text -/

/-- The time that a trimmed text writes: as an internet timestamp, or in the first layout that
accepts it. -/
def readTrimmed? (s : List Char) : Option Timestamp :=
  match readInternet? s with
  | some t => some t
  | none =>
    match dateTimeLayouts.findSome? (readLayout? · s) with
    | some t => some t
    | none => dateLayouts.findSome? (readLayout? · s)

/-- The time that a text writes, white space at its ends ignored. -/
def read? (s : String) : Option Timestamp :=
  let t := Text.trim s.toList
  if t.isEmpty then none else readTrimmed? t

end Calendar

end Dashboard
