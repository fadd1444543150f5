import GridRunner.Toml.Moment
import GridRunner.Toml.Number
import GridRunner.Toml.Value

/-!
# Scalars of TOML

Strings in their four forms, and bare words.  A bare word is cut out first and then
classified, since a number, a date and a truth value end at the same characters.
-/

namespace GridRunner.Toml

def isBlank (c : Char) : Bool := c == ' ' || c == '\t'

/-- A control character that may stand neither in a comment nor in a string. -/
def isControl (c : Char) : Bool := (c.toNat < 32 && c != '\t') || c.toNat == 127

def acceptNewline : Reader Bool := do
  if ← Reader.accept ['\n'] then pure true else Reader.accept ['\x0d', '\n']

/-! ## Strings -/

def hexDigits (count : Nat) : Reader Nat := fun text =>
  let digits := text.take count
  if digits.length < count then none
  else (digitsValue? 16 digits).map fun value => (value, text.drop count)

def escape : Reader Char := do
  match ← Reader.next with
  | 'b' => pure '\x08'
  | 't' => pure '\t'
  | 'n' => pure '\n'
  | 'f' => pure '\x0c'
  | 'r' => pure '\x0d'
  | 'e' => pure '\x1b'
  | '"' => pure '"'
  | '\\' => pure '\\'
  | 'x' => scalar? (← hexDigits 2)
  | 'u' => scalar? (← hexDigits 4)
  | 'U' => scalar? (← hexDigits 8)
  | _ => failure

def lineString (quote : Char) : Reader String := do
  let reversed ← Reader.iterate (fun taken => do
    let c ← Reader.next
    if c == quote then pure (taken, false)
    else if c == '\\' && quote == '"' then pure ((← escape) :: taken, true)
    else if isControl c then failure
    else pure (c :: taken, true)) []
  pure (.ofList reversed.reverse)

/-- Blanks and line breaks after a backslash that ends a line. -/
def continuation : Reader Unit := do
  let _ ← Reader.takeWhile isBlank
  if ← acceptNewline then
    Reader.iterate (fun _ => do
      let _ ← Reader.takeWhile isBlank
      pure ((), ← acceptNewline)) ()
  else failure

/-- The rest of a string of several lines, its opening quotes taken.  A line break right after
them does not count, all others are kept as they are, and up to two quotes may stand before the
closing three. -/
def blockString (quote : Char) : Reader String := do
  let _ ← acceptNewline
  let close := [quote, quote, quote]
  let reversed ← Reader.iterate (fun taken => do
    if ← Reader.accept close then
      let extra ← (do
        if ← Reader.accept [quote, quote] then pure [quote, quote]
        else if ← Reader.accept [quote] then pure [quote]
        else pure [])
      pure (extra ++ taken, false)
    else if ← Reader.accept ['\n'] then pure ('\n' :: taken, true)
    else if ← Reader.accept ['\x0d', '\n'] then pure ('\n' :: '\x0d' :: taken, true)
    else
      let c ← Reader.next
      if c == '\\' && quote == '"' then
        match ← Reader.peek? with
        | some d =>
            if isBlank d || d == '\n' || d == '\x0d' then
              continuation
              pure (taken, true)
            else pure ((← escape) :: taken, true)
        | none => failure
      else if isControl c then failure
      else pure (c :: taken, true)) []
  pure (.ofList reversed.reverse)

def lineQuoted : Reader String := do
  match ← Reader.next with
  | '"' => lineString '"'
  | '\'' => lineString '\''
  | _ => failure

def quoted : Reader String := do
  if ← Reader.accept ['"', '"', '"'] then blockString '"'
  else if ← Reader.accept ['\'', '\'', '\''] then blockString '\''
  else lineQuoted

/-! ## Bare words -/

def isWordChar (c : Char) : Bool :=
  c.isAlphanum || c == '_' || c == '-' || c == '+' || c == '.' || c == ':'

def ofWord? (chars : List Char) : Option Value :=
  if chars == ['t', 'r', 'u', 'e'] then some (.bool true)
  else if chars == ['f', 'a', 'l', 's', 'e'] then some (.bool false)
  else
    match integer? chars with
    | some value => if isRepresentable value then some (.integer value) else none
    | none =>
        if isFloat chars then some .other
        else (moment? chars).map fun text => .moment (.ofList text)

/-- A bare word.  A blank parts the date from the time of day if both are there. -/
def bareWord : Reader Value := do
  let chars ← Reader.takeWhile isWordChar
  let timed ← (if isDate chars then
      Reader.optional do
        Reader.require [' ']
        match ← Reader.peek? with
        | some c => if c.isDigit then Reader.takeWhile isWordChar else failure
        | none => failure
    else pure none)
  let chars := match timed with
    | some time => chars ++ ' ' :: time
    | none => chars
  ofWord? chars

end GridRunner.Toml
