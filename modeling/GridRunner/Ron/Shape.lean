import GridRunner.Ron.Token

/-!
# The shape of what an option holds

Where a record or a tuple in an option needs no parentheses of its own, its shape
has to be known before it is read.  A text is skimmed for that: bracket by bracket
up to the end of the option or its first comma, past blanks, comments and literals.

Blanks and comments are only passed over before a literal.  A comment right behind
one is skimmed like any other text, and so is a literal that is not well-formed.
-/

namespace GridRunner.Ron

inductive Shape where
  /-- Named fields. -/
  | fields
  | single
  | several
  deriving DecidableEq, Repr

namespace Shape

/-- How an attempt to take a literal ends. -/
inductive Attempt where
  | taken (rest : List Char)
  /-- There is no literal, or one that is not well-formed. -/
  | broken
  /-- The text ends before the literal does. -/
  | endless

namespace Attempt

/-- The text to go on with after an attempt at the given text. -/
def resume (text : List Char) : Attempt → Option (List Char)
  | taken rest => some rest
  | broken => some text
  | endless => none

/-- The rest of a string whose opening quote is taken; the fuel bounds its escapes. -/
def quoted (content : Content) : Nat → List Char → Attempt
  | 0, _ => endless
  | fuel + 1, text =>
      if !text.contains '"' then endless
      else
        match text.dropWhile fun c => c != '"' && c != '\\' with
        | '"' :: rest => taken rest
        | '\\' :: rest =>
            match (escape content).run rest with
            | some (_, rest) => quoted content fuel rest
            | none => broken
        | _ => endless

/-- The rest of a raw string whose `r` is taken. -/
def raw (text : List Char) : Attempt :=
  match text.dropWhile (· == '#') with
  | '"' :: body =>
      match splitAtEnding ('"' :: text.takeWhile (· == '#')) body with
      | some (_, rest) => taken rest
      | none => endless
  | _ => broken

def string : List Char → Attempt
  | '"' :: rest => quoted .text (rest.length + 1) rest
  | 'r' :: rest => raw rest
  | _ => broken

def byteString : List Char → Attempt
  | 'b' :: '"' :: rest => quoted .bytes (rest.length + 1) rest
  | 'b' :: 'r' :: rest => raw rest
  | _ => broken

/-- A character never ends the skimming. -/
def character : List Char → Attempt
  | '\'' :: rest =>
      match Ron.character.run rest with
      | some (_, rest) => taken rest
      | none => broken
  | _ => broken

end Attempt

/-- What follows the literals that are next: a character, a string, and bytes. -/
def passLiterals (text : List Char) : Option (List Char) := do
  let text ← (Attempt.character text).resume text
  let text ← (Attempt.string text).resume text
  (Attempt.byteString text).resume text

/-- Whether one value or more come with a comma after the first one. -/
def afterComma : Reader Shape := do
  blank
  pure (if ← Reader.ahead [')'] then single else several)

def isOpening (c : Char) : Bool := c == '(' || c == '[' || c == Char.ofNat 0x7b

def isClosing (c : Char) : Bool := c == ')' || c == ']' || c == Char.ofNat 0x7d

/-- Skims a text with the given number of brackets open inside the option; the fuel bounds the
characters passed over. -/
def skim : Nat → Nat → Reader Shape
  | 0, _ => failure
  | fuel + 1, depth => do
      blank
      fun text => (passLiterals text).map fun rest => ((), rest)
      let c ← Reader.next
      if isOpening c then skim fuel (depth + 1)
      else if isClosing c then
        match depth with
        | 0 => pure single
        | depth + 1 => skim fuel depth
      else if c == ',' && depth == 0 then afterComma
      else skim fuel depth

def passIdentifier? (text : List Char) : Option (List Char) :=
  if literalStarts.any (·.isPrefixOf text) then none
  else if ['r', '#'].isPrefixOf text then
    match (text.drop 2).takeWhile isRawIdent with
    | [] => none
    | name => some (text.drop (2 + name.length))
  else
    match text with
    | first :: rest => if isIdentStart first then some (rest.dropWhile isIdentRest) else none
    | [] => none

/-- The shape of what follows the opening parenthesis of an option; nothing is taken. -/
def ahead : Reader Shape := fun text =>
  let shape : Reader Shape := do
    blank
    let named ← (fun text =>
      match passIdentifier? text with
      | some rest => some (true, rest)
      | none => some (false, text))
    if named then
      blank
      if ← Reader.ahead [':'] then return fields
      if ← Reader.accept [','] then return ← afterComma
      if ← Reader.ahead [')'] then return single
    skim (text.length + 1) 0
  (shape.run text).map fun (shape, _) => (shape, text)

end Shape
end GridRunner.Ron
