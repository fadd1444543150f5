/-!
# Readers

A reader takes what it recognises off the front of a text, or fails.  The readers
here are shared by the notations of level lists and of settings.
-/

namespace GridRunner

/-- Takes a value off the front of a text. -/
abbrev Reader (α : Type) := StateT (List Char) Option α

namespace Reader

/-- Reads a text that holds nothing but what the reader takes. -/
def readAll {α : Type} (reader : Reader α) (text : List Char) : Option α :=
  match reader.run text with
  | some (value, []) => some value
  | _ => none

/-- The next character, which stays. -/
def peek? : Reader (Option Char) := fun text => some (text.head?, text)

def next : Reader Char
  | [] => none
  | c :: rest => some (c, rest)

/-- Whether the text goes on with the given characters, which are taken if it does. -/
def accept (expected : List Char) : Reader Bool := fun text =>
  if expected.isPrefixOf text then some (true, text.drop expected.length) else some (false, text)

def require (expected : List Char) : Reader Unit := do
  if ← accept expected then pure () else failure

/-- Whether the text goes on with the given characters, which stay. -/
def ahead (expected : List Char) : Reader Bool := fun text =>
  some (expected.isPrefixOf text, text)

def takeWhile (p : Char → Bool) : Reader (List Char) := fun text =>
  some (text.takeWhile p, text.dropWhile p)

/-- What a reader takes, or nothing where it fails. -/
def optional {α : Type} (reader : Reader α) : Reader (Option α) := fun text =>
  match reader.run text with
  | some (value, rest) => some (some value, rest)
  | none => some (none, text)

/-- Whether a reader would succeed here; nothing is taken. -/
def lookahead {α : Type} (reader : Reader α) : Reader Bool := fun text =>
  some ((reader.run text).isSome, text)

/-- Runs a step for as long as it says so, at most as often as the text is long. -/
def iterate {σ : Type} (step : σ → Reader (σ × Bool)) (start : σ) : Reader σ := fun text =>
  let rec go : Nat → σ → Reader σ
    | 0, _ => failure
    | fuel + 1, state => do
        let (state, more) ← step state
        if more then go fuel state else pure state
  go (text.length + 1) start text

/-- Items parted by commas up to a closing character; a last comma may stand before it.
`blank` takes what may stand around the items. -/
def items {α : Type} (blank : Reader Unit) (close : Char) (item : Reader α) : Reader (List α) := do
  let reversed ← iterate (fun taken => do
    blank
    if ← accept [close] then pure (taken, false)
    else
      let value ← item
      blank
      if ← accept [','] then pure (value :: taken, true)
      else
        require [close]
        pure (value :: taken, false)) []
  pure reversed.reverse

end Reader

def hexDigit? (c : Char) : Option Nat :=
  if c.isDigit then some (c.toNat - '0'.toNat)
  else if 'a' ≤ c && c ≤ 'f' then some (c.toNat - 'a'.toNat + 10)
  else if 'A' ≤ c && c ≤ 'F' then some (c.toNat - 'A'.toNat + 10)
  else none

def digitsValue? (base : Nat) (digits : List Char) : Option Nat :=
  digits.foldlM (fun n c => do
    let d ← hexDigit? c
    if d < base then some (base * n + d) else none) 0

def scalar? (code : Nat) : Option Char :=
  if code.isValidChar then some (Char.ofNat code) else none

end GridRunner
