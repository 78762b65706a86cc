/-
  Dates and times of day.

  A date is written year, month, day with hyphens; a moment adds the time of
  day after a blank, microseconds only if there are any, and the offset from
  universal time if it is known (`Date.text`, `Moment.text`).  For a reader the
  same data are written as the arguments of a call (`Date.shown`,
  `Moment.shown`).
-/
import SqlWeave.Numeral.Shortest

namespace SqlWeave.Calendar

open Numeral (padZeros)

/-- `n` with at least `width` digits. -/
def padded (width n : Nat) : List Char := padZeros width (Nat.toDigits 10 n)

/-- A day of the calendar. -/
structure Date where
  year : Nat
  /-- The month, from 1. -/
  month : Nat
  /-- The day of the month, from 1. -/
  day : Nat
  deriving DecidableEq, Repr, Inhabited

/-- A day and a time of day, perhaps with its offset from universal time. -/
structure Moment where
  date : Date
  /-- The hour, below 24. -/
  hour : Nat
  /-- The minute, below 60. -/
  minute : Nat
  /-- The second, below 60. -/
  second : Nat
  /-- The microsecond, below a million. -/
  micro : Nat
  /-- Seconds ahead of universal time, if known. -/
  offset : Option Int
  deriving DecidableEq, Repr, Inhabited

namespace Date

/-- A date as its numbers with hyphens. -/
def text (d : Date) : List Char :=
  padded 4 d.year ++ '-' :: padded 2 d.month ++ '-' :: padded 2 d.day

/-- The numbers of a date. -/
def fields (d : Date) : List Nat := [d.year, d.month, d.day]

/-- Numbers as the arguments of the call `name`, before its closing bracket. -/
def call (name : String) (args : List (List Char)) : List Char :=
  name.toList ++ '(' :: [',', ' '].intercalate args

/-- A date for a reader. -/
def shown (d : Date) : List Char :=
  call "datetime.date" (d.fields.map (Nat.toDigits 10)) ++ [')']

/-- The number of days from the first day of the year zero to this one. -/
def dayNumber (d : Date) : Int :=
  let y : Int := if d.month ≤ 2 then d.year - 1 else d.year
  let m : Int := if d.month ≤ 2 then d.month + 9 else d.month - 3
  365 * y + y / 4 - y / 100 + y / 400 + (153 * m + 2) / 5 + d.day

end Date

namespace Moment

/-- An offset as sign, hours, minutes and, if there are any, seconds. -/
def offsetText (seconds : Int) : List Char :=
  let n := seconds.natAbs
  (if seconds < 0 then '-' else '+') :: padded 2 (n / 3600) ++ ':' :: padded 2 (n / 60 % 60) ++
    (if n % 60 = 0 then [] else ':' :: padded 2 (n % 60))

/-- A moment as its numbers, the time of day after a blank. -/
def text (t : Moment) : List Char :=
  t.date.text ++ ' ' :: padded 2 t.hour ++ ':' :: padded 2 t.minute ++ ':' :: padded 2 t.second ++
    (if t.micro = 0 then [] else '.' :: padded 6 t.micro) ++ (t.offset.elim [] offsetText)

/-- An offset for a reader. -/
def offsetShown (seconds : Int) : List Char :=
  if seconds = 0 then "datetime.timezone.utc".toList
  else
    let days := seconds / 86400
    let rest := seconds % 86400
    let parts := (if days = 0 then [] else ["days=".toList ++ (toString days).toList]) ++
      (if rest = 0 then [] else ["seconds=".toList ++ (toString rest).toList])
    Date.call "datetime.timezone(datetime.timedelta" parts ++ [')', ')']

/-- A moment for a reader; seconds and microseconds only if there are any. -/
def shown (t : Moment) : List Char :=
  let clock := if t.micro ≠ 0 then [t.hour, t.minute, t.second, t.micro]
    else if t.second ≠ 0 then [t.hour, t.minute, t.second]
    else [t.hour, t.minute]
  let zone := t.offset.elim [] fun s => ["tzinfo=".toList ++ offsetShown s]
  Date.call "datetime.datetime" ((t.date.fields ++ clock).map (Nat.toDigits 10) ++ zone) ++ [')']

/-- Microseconds since the first day of the year zero, in universal time if the offset is known. -/
def instant (t : Moment) : Int :=
  (((t.date.dayNumber * 24 + t.hour) * 60 + t.minute) * 60 + t.second - t.offset.getD 0) * 1000000 +
    t.micro

/-- Whether two moments are the same: the same instant, either both or neither with an offset. -/
def same (a b : Moment) : Bool := a.offset.isSome == b.offset.isSome && a.instant == b.instant

end Moment

/-! ## Reading -/

/-- Numbers at fixed places: the pattern lists how many digits each has and what follows it. -/
def readFields : List (Nat × Option Char) → List Char → Option (List Nat × List Char)
  | [], cs => some ([], cs)
  | (width, stop) :: pattern, cs => do
    let ds := cs.take width
    guard (ds.length = width ∧ ds.all Char.isDigit)
    let n := ds.foldl (fun n c => 10 * n + (c.toNat - 0x30)) 0
    let rest ← match stop with
      | none => some (cs.drop width)
      | some c => if (cs.drop width).head? = some c then some (cs.drop (width + 1)) else none
    let (ns, rest) ← readFields pattern rest
    return (n :: ns, rest)

/-- The date at the start of a text. -/
def readDate (cs : List Char) : Option (Date × List Char) :=
  match readFields [(4, some '-'), (2, some '-'), (2, none)] cs with
  | some ([y, m, d], rest) => some (⟨y, m, d⟩, rest)
  | _ => none

/-- The date with the given text. -/
def Date.ofChars? (cs : List Char) : Option Date :=
  match readDate cs with
  | some (d, []) => some d
  | _ => none

/-- The offset with the given text; no text means no offset. -/
def readOffset : List Char → Option (Option Int)
  | [] => some none
  | ['Z'] => some (some 0)
  | c :: cs =>
    let signed := fun (n : Nat) => if c = '-' then -(n : Int) else n
    if c ≠ '+' ∧ c ≠ '-' then none
    else match readFields [(2, some ':'), (2, none)] cs with
      | some ([h, m], []) => some (some (signed (h * 3600 + m * 60)))
      | some ([h, m], ':' :: cs) =>
        match readFields [(2, none)] cs with
        | some ([s], []) => some (some (signed (h * 3600 + m * 60 + s)))
        | _ => none
      | _ => none

/-- The moment with the given text, date and time parted by a `T` or a blank. -/
def Moment.ofChars? (cs : List Char) : Option Moment := do
  let (date, rest) ← readDate cs
  match rest with
  | [] => return ⟨date, 0, 0, 0, 0, none⟩
  | _ :: rest =>
    match readFields [(2, some ':'), (2, some ':'), (2, none)] rest with
    | some ([h, m, s], '.' :: rest) =>
      match readFields [(6, none)] rest with
      | some ([u], rest) => return ⟨date, h, m, s, u, ← readOffset rest⟩
      | _ => none
    | some ([h, m, s], rest) => return ⟨date, h, m, s, 0, ← readOffset rest⟩
    | _ => none

end SqlWeave.Calendar
