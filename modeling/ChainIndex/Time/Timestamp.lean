import ChainIndex.Text.Blank
import ChainIndex.Time.Moment

/-!
# Reading timestamps

A timestamp has a date, a time of day, and how far its clock is ahead of universal time. White space may
stand between the parts, and leading zeros may be left out. A sixtieth second is a leap second.

Days are those of the calendar that counts leap years by the rule of four, a hundred and four hundred, before its
beginning too. Years that end in February make every leap day the last of its year. The years that can be told end at
both sides, and the point in time has to be in one of them as well as the date that is written down.
-/

namespace ChainIndex.Calendar

def isLeap (year : Int) : Bool := year % 4 = 0 ∧ (year % 100 ≠ 0 ∨ year % 400 = 0)

def daysIn (year : Int) (month : Nat) : Nat :=
  if month = 2 then (if isLeap year then 29 else 28)
  else if [4, 6, 9, 11].contains month then 30
  else 31

/-- The number of days from the first day of 1970 to a day. -/
def dayNumber (year : Int) (month day : Nat) : Int :=
  let y : Int := if month ≤ 2 then year - 1 else year
  let m : Nat := if month ≤ 2 then month + 9 else month - 3
  365 * y + y / 4 - y / 100 + y / 400 + ((153 * m + 2) / 5 : Nat) + day - 719469

def firstYear : Int := -262143

def lastYear : Int := 262142

/-- Whether a year can be told. -/
def inRange (year : Int) : Bool := firstYear ≤ year ∧ year ≤ lastYear

/-- Whether a second of universal time is in a year that can be told. -/
def tells (secs : Int) : Bool :=
  dayNumber firstYear 1 1 * 86400 ≤ secs ∧ secs < (dayNumber lastYear 12 31 + 1) * 86400

end ChainIndex.Calendar

namespace ChainIndex.Timestamp

/-- A reader of the start of a text, which gives what follows. -/
abbrev Reader (α : Type) := List Char → Option (α × List Char)

def skipBlanks (cs : List Char) : List Char := cs.dropWhile Text.isBlank

/-- Digits at the start of a text: one at least, and no more than `most`. -/
def digits (most : Nat) : Reader Nat := fun cs =>
  match (cs.take most).takeWhile Char.isDigit with
  | [] => none
  | ds => some (ds.foldl (fun n c => n * 10 + (c.toNat - 48)) 0, cs.drop ds.length)

/-- A number of up to two digits within bounds. -/
def number (least most : Nat) : Reader Nat := fun cs => do
  let (n, rest) ← digits 2 (skipBlanks cs)
  if least ≤ n ∧ n ≤ most then some (n, rest) else none

/-- A year: four digits at most, or any number of them after a sign. -/
def year : Reader Int := fun cs =>
  match skipBlanks cs with
  | '-' :: rest => (digits rest.length rest).map fun (n, rest) => (-(n : Int), rest)
  | '+' :: rest => (digits rest.length rest).map fun (n, rest) => ((n : Int), rest)
  | cs => (digits 4 cs).map fun (n, rest) => ((n : Int), rest)

/-- Drops a mark, with white space before it. -/
def mark (c : Char) (cs : List Char) : Option (List Char) :=
  match skipBlanks cs with
  | d :: rest => if c = d then some rest else none
  | [] => none

/-- Nanoseconds after a point, if there is one. Digits beyond the ninth count for nothing. -/
def fraction : Reader Nat
  | '.' :: rest =>
    match rest.takeWhile Char.isDigit with
    | [] => none
    | ds =>
      let kept := ds.take 9
      let n := kept.foldl (fun n c => n * 10 + (c.toNat - 48)) 0
      some (n * Nat.pow 10 (9 - kept.length), rest.drop ds.length)
  | cs => some (0, cs)

/-- Hours and minutes that a clock is ahead, as seconds. -/
def clockOffset : Reader Nat := fun cs => do
  match cs with
  | a :: b :: rest =>
    if a.isDigit ∧ b.isDigit then
      let rest := rest.dropWhile fun c => c = ':' || Text.isBlank c
      match rest with
      | m :: n :: rest =>
        if m.isDigit ∧ n.isDigit ∧ m.toNat < 54 then
          let hours := (a.toNat - 48) * 10 + (b.toNat - 48)
          let minutes := (m.toNat - 48) * 10 + (n.toNat - 48)
          if hours < 24 then some (hours * 3600 + minutes * 60, rest) else none
        else none
      | _ => none
    else none
  | _ => none

/-- How far a clock is ahead of universal time, in seconds. -/
def zone : Reader Int := fun cs =>
  match skipBlanks cs with
  | 'Z' :: rest | 'z' :: rest => some (0, rest)
  | '+' :: rest => (clockOffset rest).map fun (n, rest) => ((n : Int), rest)
  | '-' :: rest | '−' :: rest => (clockOffset rest).map fun (n, rest) => (-(n : Int), rest)
  | u :: t :: c :: rest =>
    if [u, t, c].map Char.toUpper = ['U', 'T', 'C'] then some (0, rest) else none
  | _ => none

/-- A date that exists, as a number of days. -/
def date : Reader Int := fun cs => do
  let (y, cs) ← year cs
  let cs ← mark '-' cs
  let (m, cs) ← number 1 12 cs
  let cs ← mark '-' cs
  let (d, cs) ← number 1 31 cs
  if Calendar.inRange y ∧ d ≤ Calendar.daysIn y m then some (Calendar.dayNumber y m d, cs) else none

/-- A time of day, as seconds and nanoseconds. -/
def timeOfDay : Reader (Nat × Nat) := fun cs => do
  let (h, cs) ← number 0 23 cs
  let cs ← mark ':' cs
  let (m, cs) ← number 0 59 cs
  let cs ← mark ':' cs
  let (s, cs) ← number 0 60 cs
  let (nanos, cs) ← fraction cs
  let leap := if s = 60 then 1000000000 else 0
  some ((h * 3600 + m * 60 + min s 59, nanos + leap), cs)

/-- Reads a timestamp. -/
def parse? (text : String) : Option Moment := do
  let (day, cs) ← date text.toList
  match cs with
  | sep :: cs =>
    if sep = 'T' ∨ sep = 't' ∨ sep = ' ' then
      let ((secs, nanos), cs) ← timeOfDay cs
      let (ahead, cs) ← zone cs
      let secs := day * 86400 + secs - ahead
      if skipBlanks cs = [] ∧ Calendar.tells secs then some ⟨secs, nanos.toUInt32⟩ else none
    else none
  | [] => none

/-- The first second that can be told. An hour earlier there is nothing, whatever date the clock shows. -/
example : parse? "-262143-01-01T01:00:00+01:00" = some ⟨-8334601228800, 0⟩ ∧
    parse? "-262143-01-01T00:59:59+01:00" = none := by decide +kernel

end ChainIndex.Timestamp
