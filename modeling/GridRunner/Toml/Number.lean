import GridRunner.Text.Reader

/-!
# Numbers of TOML

Integers in four bases and decimal fractions.  Single underscores may stand between
digits, and a fraction must not be too large for a binary fraction of 64 bits.
-/

namespace GridRunner.Toml

/-- The digits of a run in which single underscores stand only between digits. -/
def ungrouped? (isDigit : Char → Bool) : List Char → Option (List Char)
  | [] => none
  | [c] => if isDigit c then some [c] else none
  | c :: '_' :: rest =>
      if isDigit c then (ungrouped? isDigit rest).map (c :: ·) else none
  | c :: rest => if isDigit c then (ungrouped? isDigit rest).map (c :: ·) else none

/-- Decimal digits without a leading zero. -/
def decimal? (chars : List Char) : Option (List Char) := do
  let digits ← ungrouped? Char.isDigit chars
  if digits.head? == some '0' && digits.length > 1 then none else some digits

def signed : List Char → Bool × List Char
  | '-' :: rest => (true, rest)
  | '+' :: rest => (false, rest)
  | chars => (false, chars)

/-- An integer: signed if decimal, or unsigned after the mark of its base. -/
def integer? (chars : List Char) : Option Int :=
  let based := fun (base : Nat) (digits : List Char) => do
    let digits ← ungrouped? (fun c => (hexDigit? c).isSome) digits
    let value ← digitsValue? base digits
    some (value : Int)
  match chars with
  | '0' :: 'x' :: digits => based 16 digits
  | '0' :: 'o' :: digits => based 8 digits
  | '0' :: 'b' :: digits => based 2 digits
  | chars => do
      let (negative, chars) := signed chars
      let value ← digitsValue? 10 (← decimal? chars)
      some (if negative then -value else value)

/-- The digits of a decimal fraction without its point, and the power of ten that they are
multiplied by. -/
def fraction? (chars : List Char) : Option (List Char × Int) := do
  let isExponent := fun c => c == 'e' || c == 'E'
  let mantissa := chars.takeWhile (!isExponent ·)
  let tail := chars.dropWhile (!isExponent ·)
  let point := mantissa.dropWhile (· != '.')
  if point.isEmpty && tail.isEmpty then none
  let whole ← decimal? (mantissa.takeWhile (· != '.'))
  let parts ← if point.isEmpty then some [] else ungrouped? Char.isDigit (point.drop 1)
  let (negative, power) := signed (tail.drop 1)
  let power ← if tail.isEmpty then some [] else ungrouped? Char.isDigit power
  let power : Int := Nat.ofDigitChars 10 power 0
  some (whole ++ parts, (if negative then -power else power) - parts.length)

/-- The least number too large for a binary fraction of 64 bits: half a unit above the greatest. -/
def overflow : Nat := Nat.pow 2 1024 - Nat.pow 2 970

/-- Whether digits times a power of ten are within the binary fractions of 64 bits.  A number of
309 digits before the point is the only kind that has to be looked at closely. -/
def fitsFraction (digits : List Char) (power : Int) : Bool :=
  let significant := digits.dropWhile (· == '0')
  let size := significant.length + power
  let value := Nat.ofDigitChars 10 significant 0
  significant.isEmpty || size ≤ 308 ||
    (size == 309 && value * Nat.pow 10 power.toNat < overflow * Nat.pow 10 (-power).toNat)

def isFloat (chars : List Char) : Bool :=
  let (_, chars) := signed chars
  chars == ['i', 'n', 'f'] || chars == ['n', 'a', 'n'] ||
    (fraction? chars).any fun (digits, power) => fitsFraction digits power

/-- The integers that some integer type of up to 128 bits holds. -/
def isRepresentable (value : Int) : Bool :=
  -170141183460469231731687303715884105728 ≤ value &&
    value ≤ 340282366920938463463374607431768211455

end GridRunner.Toml
