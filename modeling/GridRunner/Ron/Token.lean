import GridRunner.Letter.Identifier
import GridRunner.Text.Reader

/-!
# Tokens of RON

RON writes records as `(field: value)`, lists in square brackets and comments as
`//` or nested `/* */`.  This module takes blanks, identifiers, strings and
numbers off a text.
-/

namespace GridRunner.Ron

def isBlank (c : Char) : Bool :=
  ('\t' ≤ c && c ≤ '\x0d') || c == ' ' || c == '\u0085' || c == '\u200e' || c == '\u200f' ||
    c == '\u2028' || c == '\u2029'

/-- What follows a block comment that is open `depth` times beyond the first. -/
def blockEnd : Nat → List Char → Option (List Char)
  | depth, '/' :: '*' :: rest => blockEnd (depth + 1) rest
  | 0, '*' :: '/' :: rest => some rest
  | depth + 1, '*' :: '/' :: rest => blockEnd depth rest
  | depth, _ :: rest => blockEnd depth rest
  | _, [] => none

/-- Blanks and comments.  A slash that opens no comment is an error. -/
def blank : Reader Unit :=
  Reader.iterate (fun _ => do
    let _ ← Reader.takeWhile isBlank
    if ← Reader.accept ['/', '/'] then
      let _ ← Reader.takeWhile (· != '\n')
      pure ((), true)
    else if ← Reader.accept ['/', '*'] then
      fun text => (blockEnd 0 text).map (((), true), ·)
    else if ← Reader.ahead ['/'] then failure
    else pure ((), false)) ()

def isIdentStart (c : Char) : Bool := c == '_' || Letter.isIdentifierStart c

def isIdentRest (c : Char) : Bool := Letter.isIdentifierPart c

/-- A character of a raw identifier, one written after `r#`. -/
def isRawIdent (c : Char) : Bool := isIdentRest c || c == '.' || c == '+' || c == '-'

/-- Beginnings of string literals, which no identifier shares. -/
def literalStarts : List (List Char) :=
  [['r', '"'], ['r', '#', '"'], ['r', '#', '#'], ['b', '"'], ['b', '\''], ['b', 'r', '"'],
    ['b', 'r', '#', '"'], ['b', 'r', '#', '#']]

/-- An identifier.  One that goes on with characters of raw identifiers alone has to be
written as such. -/
def identifier : Reader String := fun text =>
  match text with
  | [] => none
  | first :: _ =>
      if !isIdentStart first || literalStarts.any (·.isPrefixOf text) then none
      else if ['r', '#'].isPrefixOf text then
        let rest := text.drop 2
        match rest.takeWhile isRawIdent with
        | [] => none
        | name => some (.ofList name, rest.dropWhile isRawIdent)
      else
        let name := text.takeWhile isIdentRest
        if (text.takeWhile isRawIdent).length > name.length then none
        else some (.ofList name, text.drop name.length)

def word (w : List Char) : Reader Bool := fun text =>
  let rest := text.drop w.length
  if w.isPrefixOf text && !(rest.head?.any isIdentRest) then some (true, rest)
  else some (false, text)

/-! ## Strings -/

inductive Content where
  | text
  | character
  | bytes
  deriving DecidableEq, Repr

def hexByte : Reader Nat := do
  let high ← hexDigit? (← Reader.next)
  let low ← hexDigit? (← Reader.next)
  pure (16 * high + low)

/-- The one character that bytes encode in UTF-8, if they encode one. -/
def utf8Char? (bytes : List Nat) : Option Char :=
  match String.fromUTF8? ⟨(bytes.map Nat.toUInt8).toArray⟩ with
  | some s =>
      match s.toList with
      | [c] => some c
      | _ => none
  | none => none

def furtherBytes : Nat → List Nat → Reader Char
  | 0, _ => failure
  | missing + 1, bytes => do
      Reader.require ['\\', 'x']
      let bytes := bytes ++ [← hexByte]
      match utf8Char? bytes with
      | some c => pure c
      | none => furtherBytes missing bytes

def braced : Reader Nat := do
  let digits ← Reader.takeWhile (fun c => (hexDigit? c).isSome)
  Reader.require [Char.ofNat 0x7d]
  if digits.isEmpty || digits.length > 6 then failure else digitsValue? 16 digits

/-- The character that an escape spells by its first byte.  A byte of 128 or more begins a longer
spelling in a text, stands for itself among bytes, and is no character alone. -/
def byteEscape (content : Content) : Reader Char := do
  let byte ← hexByte
  if byte < 128 then pure (Char.ofNat byte)
  else
    match content with
    | .text => furtherBytes 3 [byte]
    | .character => failure
    | .bytes => pure (Char.ofNat byte)

def escape (content : Content) : Reader Char := do
  match ← Reader.next with
  | '\'' => pure '\''
  | '"' => pure '"'
  | '\\' => pure '\\'
  | 'n' => pure '\n'
  | 'r' => pure '\x0d'
  | 't' => pure '\t'
  | '0' => pure '\x00'
  | 'x' => byteEscape content
  | 'u' =>
      Reader.require [Char.ofNat 0x7b]
      scalar? (← braced)
  | _ => failure

def quoted (content : Content) : Reader String := do
  let reversed ← Reader.iterate (fun taken => do
    match ← Reader.next with
    | '"' => pure (taken, false)
    | '\\' => pure ((← escape content) :: taken, true)
    | c => pure (c :: taken, true)) []
  pure (.ofList reversed.reverse)

/-- The part of a text before the first place where the ending stands, and what follows it. -/
def splitAtEnding (ending : List Char) : List Char → Option (List Char × List Char)
  | [] => none
  | c :: rest =>
      if ending.isPrefixOf (c :: rest) then some ([], (c :: rest).drop ending.length)
      else (splitAtEnding ending rest).map fun (before, after) => (c :: before, after)

/-- The rest of a raw string whose `r` is taken: hashes, a quote, and the text up to a quote
with as many hashes. -/
def rawQuoted : Reader String := do
  let hashes ← Reader.takeWhile (· == '#')
  Reader.require ['"']
  fun text => (splitAtEnding ('"' :: hashes) text).map fun (body, rest) => (.ofList body, rest)

def character : Reader Char := do
  let c ← (do
    match ← Reader.next with
    | '\\' => escape .character
    | c => pure c)
  Reader.require ['\'']
  pure c

/-- The rest of a byte literal whose quote is taken: an ASCII character or an escape that names
no code point. -/
def byte : Reader Char := do
  let c ← (do
    match ← Reader.next with
    | '\\' => if ← Reader.ahead ['u'] then failure else escape .bytes
    | c => if c.toNat < 128 then pure c else failure)
  Reader.require ['\'']
  pure c

/-! ## Numbers -/

def isIntChar (c : Char) : Bool := (hexDigit? c).isSome || c == '_'

def isFloatChar (c : Char) : Bool :=
  c.isDigit || c == 'e' || c == 'E' || c == '.' || c == '+' || c == '-' || c == '_'

/-- Digits in a base that its mark announces, underscores between them. -/
def magnitude : Reader Nat := do
  let base ←
    if ← Reader.accept ['0', 'b'] then pure 2
    else if ← Reader.accept ['0', 'o'] then pure 8
    else if ← Reader.accept ['0', 'x'] then pure 16
    else pure 10
  let digits ← Reader.takeWhile isIntChar
  if digits.isEmpty || digits.head? == some '_' then failure
  else digitsValue? base (digits.filter (· != '_'))

/-- The integers of 64 bits, with sign or without. -/
def fitsWord (value : Int) : Bool :=
  -9223372036854775808 ≤ value && value ≤ 18446744073709551615

/-- The integer types that may be named after a number, with their ranges. -/
def suffixes : List (String × Int × Int) :=
  [("i8", -128, 127), ("i16", -32768, 32767), ("i32", -2147483648, 2147483647),
    ("i64", -9223372036854775808, 9223372036854775807), ("u8", 0, 255), ("u16", 0, 65535),
    ("u32", 0, 4294967295), ("u64", 0, 18446744073709551615)]

/-- A signed integer of at most 64 bits.  A type may be named after a decimal or a binary one. -/
def wholeNumber : Reader (Int × Option String) := do
  let negative ← Reader.accept ['-']
  if !negative then
    let _ ← Reader.accept ['+']
  let suffixed := !((← Reader.ahead ['0', 'x']) || (← Reader.ahead ['0', 'o']))
  let value : Int := ← magnitude
  let value := if negative then -value else value
  if suffixed then
    for (suffix, least, greatest) in suffixes do
      if ← word suffix.toList then
        if least ≤ value && value ≤ greatest then return (value, some suffix) else failure
  if fitsWord value then pure (value, none) else failure

/-- Whether the characters spell a decimal fraction: digits with a point among or beside
them, and perhaps an exponent. -/
def isDecimal (chars : List Char) : Bool :=
  let unsigned := match chars with
    | '+' :: rest | '-' :: rest => rest
    | chars => chars
  let whole := unsigned.takeWhile Char.isDigit
  let afterWhole := unsigned.dropWhile Char.isDigit
  let (fraction, tail) := match afterWhole with
    | '.' :: rest => (rest.takeWhile Char.isDigit, rest.dropWhile Char.isDigit)
    | rest => ([], rest)
  let exponent := match tail with
    | [] => true
    | e :: rest =>
        let digits := match rest with
          | '+' :: rest | '-' :: rest => rest
          | rest => rest
        (e == 'e' || e == 'E') && !digits.isEmpty && digits.all Char.isDigit
  (!whole.isEmpty || !fraction.isEmpty) && exponent

/-- Whether each underscore follows a digit or another underscore after one. -/
def underscoresFit : Bool → List Char → Bool
  | _, [] => true
  | allowed, c :: rest =>
      if c == '_' then allowed && underscoresFit allowed rest
      else if c.isDigit || c == 'e' || c == 'E' then underscoresFit true rest
      else underscoresFit (allowed && c != '.') rest

def fraction : Reader Unit := do
  let chars ← Reader.takeWhile isFloatChar
  if !underscoresFit false chars || !isDecimal (chars.filter (· != '_')) then failure
  let _ ← word ['f', '3', '2']
  let _ ← word ['f', '6', '4']

/-- An infinity or no number at all. -/
def unbounded : Reader Unit := do
  if !(← Reader.accept ['+']) then
    let _ ← Reader.accept ['-']
  for name in ["inf", "inff32", "inff64", "NaN", "NaNf32", "NaNf64"] do
    if ← word name.toList then return
  failure

end GridRunner.Ron
