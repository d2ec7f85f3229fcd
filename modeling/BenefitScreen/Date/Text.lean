import BenefitScreen.Member
import BenefitScreen.Text.Blank

/-!
Dates as they are written: year, month and day with hyphens between them.

Blanks may stand around the numbers, and a number needs no zeros in front. A year with a sign has
any number of digits, one without a sign at most four.
-/

namespace BenefitScreen.Date

def isLeapYear (year : Int) : Bool := year % 4 == 0 && (year % 100 != 0 || year % 400 == 0)

def daysInMonth (year : Int) (month : Nat) : Nat :=
  if month = 2 then if isLeapYear year then 29 else 28
  else if month = 4 || month = 6 || month = 9 || month = 11 then 30
  else 31

def yearRange : Int × Int := (-262143, 262142)

/-- The number in the digits at the head, at most `width` of them and at least one, and the
characters after it. -/
def readNumber? (width : Nat) (cs : List Char) : Option (Nat × List Char) :=
  let digits := (cs.take width).takeWhile Char.isDigit
  if digits.isEmpty then none
  else some (digits.foldl (fun n c => n * 10 + (c.toNat - '0'.toNat)) 0, cs.drop digits.length)

def readYear? (cs : List Char) : Option (Int × List Char) :=
  match cs with
  | '-' :: cs => (readNumber? cs.length cs).map fun (n, cs) => (-n, cs)
  | '+' :: cs => (readNumber? cs.length cs).map fun (n, cs) => (n, cs)
  | cs => (readNumber? 4 cs).map fun (n, cs) => (n, cs)

def skipBlanks (cs : List Char) : List Char := cs.dropWhile Text.isBlank

/-- A hyphen, perhaps after blanks. -/
def readHyphen? (cs : List Char) : Option (List Char) :=
  match skipBlanks cs with
  | '-' :: cs => some cs
  | _ => none

def parse? (s : String) : Option Date := do
  let (year, cs) ← readYear? (skipBlanks s.toList)
  let (month, cs) ← readNumber? 2 (skipBlanks (← readHyphen? cs))
  let (day, cs) ← readNumber? 2 (skipBlanks (← readHyphen? cs))
  if (skipBlanks cs).isEmpty && yearRange.1 ≤ year && year ≤ yearRange.2 && 1 ≤ month
      && month ≤ 12 && 1 ≤ day && day ≤ daysInMonth year month then
    some ⟨.ofInt year, .ofNat month, .ofNat day⟩
  else none

end BenefitScreen.Date
