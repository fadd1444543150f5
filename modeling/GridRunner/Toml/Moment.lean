/-!
# Dates and times of TOML

A date, a time of day, or both with the offset from universal time.  A moment is
kept in its standard form: a `T` parts the date from the time, seconds are always
there, and a fraction of a second has neither more than nine digits nor zeros at
its end.
-/

namespace GridRunner.Toml

/-- The number that exactly the given count of digits spells. -/
def fixed? (count : Nat) (chars : List Char) : Option Nat :=
  if chars.length == count && chars.all Char.isDigit then some (Nat.ofDigitChars 10 chars 0)
  else none

def isLeapYear (year : Nat) : Bool := year % 4 == 0 && (year % 100 != 0 || year % 400 == 0)

def daysIn (year month : Nat) : Nat :=
  if month == 2 then (if isLeapYear year then 29 else 28)
  else if [4, 6, 9, 11].contains month then 30
  else 31

/-- A date such as `1979-05-27`. -/
def isDate (chars : List Char) : Bool :=
  match fixed? 4 (chars.take 4), chars.drop 4 with
  | some year, '-' :: m :: n :: '-' :: day =>
      match fixed? 2 [m, n], fixed? 2 day with
      | some month, some day =>
          1 ≤ month && month ≤ 12 && 1 ≤ day && day ≤ daysIn year month
      | _, _ => false
  | _, _ => false

/-- Hours and minutes such as `07:32`. -/
def isHourMinute (chars : List Char) : Bool :=
  match chars with
  | [h, i, ':', m, n] =>
      (fixed? 2 [h, i]).any (· ≤ 23) && (fixed? 2 [m, n]).any (· ≤ 59)
  | _ => false

/-- A time such as `07:32`, `07:32:00` or `07:32:00.5`. -/
def isTime (chars : List Char) : Bool :=
  isHourMinute (chars.take 5) &&
    match chars.drop 5 with
    | [] => true
    | ':' :: s :: t :: rest =>
        (fixed? 2 [s, t]).any (· ≤ 60) &&
          match rest with
          | [] => true
          | '.' :: fraction => !fraction.isEmpty && fraction.all Char.isDigit
          | _ => false
    | _ => false

/-- A time in standard form: seconds are there, and a fraction has at most nine digits and ends in
none that is zero. -/
def time? (chars : List Char) : Option (List Char) :=
  if isTime chars then
    let seconds := if chars.length == 5 then [':', '0', '0'] else (chars.drop 5).take 3
    let fraction := (((chars.drop 9).take 9).reverse.dropWhile (· == '0')).reverse
    some (chars.take 5 ++ seconds ++ (if fraction.isEmpty then [] else '.' :: fraction))
  else none

/-- An offset from universal time in standard form; an offset of nothing is positive. -/
def offset? : List Char → Option (List Char)
  | [] => some []
  | ['Z'] => some ['Z']
  | ['z'] => some ['Z']
  | sign :: rest =>
      if (sign == '+' || sign == '-') && isHourMinute rest then
        some ((if rest == ['0', '0', ':', '0', '0'] then '+' else sign) :: rest)
      else none

/-- A time and perhaps its offset from universal time, in standard form. -/
def zonedTime? (chars : List Char) : Option (List Char) := do
  let isOffset := fun c => c == 'Z' || c == 'z' || c == '+' || c == '-'
  some ((← time? (chars.takeWhile (!isOffset ·))) ++ (← offset? (chars.dropWhile (!isOffset ·))))

/-- A date, a time, or both with a `T` between them, in standard form. -/
def moment? (chars : List Char) : Option (List Char) :=
  if isDate chars then some chars
  else if isDate (chars.take 10) then
    match chars.drop 10 with
    | c :: time =>
        if c == 'T' || c == 't' || c == ' ' then
          (zonedTime? time).map (chars.take 10 ++ 'T' :: ·)
        else none
    | [] => none
  else time? chars

end GridRunner.Toml
