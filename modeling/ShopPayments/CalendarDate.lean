import ShopPayments.Json.Codec
import ShopPayments.Text

/-!
# Calendar dates

Days of the Gregorian calendar, extended to all years in a fixed range. A date is
written as year, month and day with dashes; years beyond four digits carry a
sign. Reading is lenient about leading zeros and about blanks around the parts.
-/

namespace ShopPayments

/-- Whether a year has a 29th of February. -/
def isLeapYear (year : Int) : Bool :=
  year % 4 = 0 && (year % 100 != 0 || year % 400 = 0)

/-- Number of days of a month. -/
def daysInMonth (year : Int) (month : Nat) : Nat :=
  if month = 2 then if isLeapYear year then 29 else 28
  else if month = 4 || month = 6 || month = 9 || month = 11 then 30
  else 31

/-- A day of a month of a year. -/
structure CalendarDate where
  year : Int
  month : Nat
  day : Nat
  deriving DecidableEq, Repr

namespace CalendarDate

/-- The years that dates may have. -/
def firstYear : Int := -262143

def lastYear : Int := 262142

/-- The date with the given parts, where there is one. -/
def ofParts? (year : Int) (month day : Nat) : Option CalendarDate :=
  if firstYear ≤ year ∧ year ≤ lastYear ∧ 1 ≤ month ∧ month ≤ 12 ∧ 1 ≤ day
      ∧ day ≤ daysInMonth year month then
    some ⟨year, month, day⟩
  else none

/-- A number with zeros in front up to a width. -/
def padded (n width : Nat) : List Char := Decimal.paddedDigits n width

/-- The year: four digits, or a sign and at least four digits. -/
def yearText (year : Int) : List Char :=
  if 0 ≤ year ∧ year ≤ 9999 then padded year.natAbs 4
  else (if year < 0 then '-' else '+') :: padded year.natAbs 4

/-- The date as text. -/
def text (d : CalendarDate) : String :=
  String.ofList (yearText d.year ++ '-' :: padded d.month 2 ++ '-' :: padded d.day 2)

/-- The text behind leading white space. -/
def skipSpace (cs : List Char) : List Char := cs.dropWhile Text.isSpace

/-- Reads at least one and at most so many digits, if there is a limit. -/
def digits? (limit : Option Nat) (cs : List Char) : Option (Nat × List Char) :=
  let all := cs.takeWhile Char.isDigit
  let digits := (limit.map all.take).getD all
  if digits.isEmpty then none else some (Json.digitsValue digits, cs.drop digits.length)

/-- Reads a year: any digits behind a sign, else at most four. -/
def year? (cs : List Char) : Option (Int × List Char) :=
  match cs with
  | '-' :: rest => (digits? none rest).map fun r => (-(r.1 : Int), r.2)
  | '+' :: rest => (digits? none rest).map fun r => ((r.1 : Int), r.2)
  | _ => (digits? (some 4) cs).map fun r => ((r.1 : Int), r.2)

/-- Reads a dash with white space around it. -/
def dash? (cs : List Char) : Option (List Char) :=
  match skipSpace cs with
  | '-' :: rest => some (skipSpace rest)
  | _ => none

/-- Reads a date. -/
def ofText? (s : String) : Option CalendarDate := do
  let (year, rest) ← year? (skipSpace s.toList)
  let (month, rest) ← digits? (some 2) (← dash? rest)
  let (day, rest) ← digits? (some 2) (← dash? rest)
  if (skipSpace rest).isEmpty then ofParts? year month day else none

instance : Encode CalendarDate := ⟨fun d => .string d.text⟩

instance : Decode CalendarDate where
  decode draft := do
    let s : String ← decode draft
    match ofText? s with
    | some d => .ok d
    | none => .error .misfit

end CalendarDate
end ShopPayments
