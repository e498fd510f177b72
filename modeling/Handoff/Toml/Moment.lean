/-!
Dates and times of day, which are written without quotes. A moment is a date, a time of day, or a
date and a time with a capital or small letter T or a space between them; and such a time may tell
its offset.
-/
namespace Handoff.Toml

/-- A number of two digits at the start, and what follows it. -/
def twoDigits? : List Char → Option (Nat × List Char)
  | tens :: ones :: rest =>
    if tens.isDigit && ones.isDigit then
      some ((tens.toNat - '0'.toNat) * 10 + (ones.toNat - '0'.toNat), rest)
    else none
  | _ => none

/-- A number of two digits after a mark, and what follows it. -/
def twoDigitsAfter? (mark : Char) : List Char → Option (Nat × List Char)
  | c :: rest => if c = mark then twoDigits? rest else none
  | [] => none

def isLeapYear (year : Nat) : Bool :=
  year % 4 == 0 && (year % 100 != 0 || year % 400 == 0)

def daysOf (year month : Nat) : Nat :=
  if month = 2 then (if isLeapYear year then 29 else 28)
  else if [4, 6, 9, 11].contains month then 30
  else 31

def afterDate? (chars : List Char) : Option (List Char) := do
  let (century, rest) ← twoDigits? chars
  let (year, rest) ← twoDigits? rest
  let (month, rest) ← twoDigitsAfter? '-' rest
  let (day, rest) ← twoDigitsAfter? '-' rest
  if 1 ≤ month ∧ month ≤ 12 ∧ 1 ≤ day ∧ day ≤ daysOf (century * 100 + year) month then some rest
  else none

def afterMinute? (chars : List Char) : Option (List Char) := do
  let (hour, rest) ← twoDigits? chars
  let (minute, rest) ← twoDigitsAfter? ':' rest
  if hour < 24 ∧ minute < 60 then some rest else none

/-- What follows the seconds of a time, if it has any. They may have a fraction, and one may be a
leap second. -/
def afterSecond? (chars : List Char) : Option (List Char) :=
  match chars with
  | ':' :: rest => do
    let (second, rest) ← twoDigits? rest
    if 60 < second then none
    match rest with
    | '.' :: fraction =>
      if (fraction.takeWhile Char.isDigit).isEmpty then none
      else some (fraction.dropWhile Char.isDigit)
    | rest => some rest
  | rest => some rest

def afterTime? (chars : List Char) : Option (List Char) := (afterMinute? chars).bind afterSecond?

/-- Whether a text is the end of a moment: nothing, or an offset. -/
def isOffset : List Char → Bool
  | [] => true
  | sign :: rest =>
    (['Z', 'z'].contains sign && rest.isEmpty)
      || (['+', '-'].contains sign && afterMinute? rest == some [])

def isMoment (chars : List Char) : Bool :=
  match afterDate? chars with
  | some [] => true
  | some (mark :: rest) => ['T', 't', ' '].contains mark && (afterTime? rest).any isOffset
  | none => afterTime? chars == some []

end Handoff.Toml
