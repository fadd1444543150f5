import GridRunner.Rules
import GridRunner.Score.Book

/-!
# The text of a score book

A book is written as one flat JSON object from quoted level numbers to
keystrokes, in increasing order of the numbers and without blanks.  Reading takes
blanks between the tokens and keys in any order; numbers are written without
sign, fraction or leading zeros.
-/

namespace GridRunner.ScoreBook

def decimal (n : Nat) : List Char := Nat.toDigits 10 n

def entryText (entry : Nat × Nat) : List Char :=
  ['"'] ++ decimal entry.1 ++ ['"', ':'] ++ decimal entry.2

def text (book : ScoreBook) : List Char :=
  ['{'] ++ [','].intercalate (book.entries.map entryText) ++ ['}']

/-- The bytes of a text, which is ASCII. -/
def bytes (book : ScoreBook) : List UInt8 := book.text.map fun c => c.toNat.toUInt8

namespace Reader

def isBlank (c : Char) : Bool := c == ' ' || c == '\n' || c == '\t' || c == '\x0d'

def skipBlanks (text : List Char) : List Char := text.dropWhile isBlank

/-- A number in 32 bits at the front of a text, and what follows its digits. -/
def number? (text : List Char) : Option (Nat × List Char) :=
  let digits := text.takeWhile Char.isDigit
  let value := Nat.ofDigitChars 10 digits 0
  if digits.isEmpty || (digits.head? == some '0' && digits.length > 1) || value > countLimit then
    none
  else some (value, text.dropWhile Char.isDigit)

/-- A quoted level, a colon and its keystrokes. -/
def entry? (text : List Char) : Option ((Nat × Nat) × List Char) := do
  let '"' :: text := text | none
  let (level, '"' :: text) ← number? text | none
  let ':' :: text := skipBlanks text | none
  let (strokes, text) ← number? (skipBlanks text)
  some ((level, strokes), text)

/-- Entries parted by commas up to the closing brace; the fuel bounds their number. -/
def entries? : Nat → List Char → Option (List (Nat × Nat) × List Char)
  | 0, _ => none
  | fuel + 1, text => do
      let (entry, text) ← entry? text
      match skipBlanks text with
      | ',' :: text =>
          let (rest, text) ← entries? fuel (skipBlanks text)
          some (entry :: rest, text)
      | '}' :: text => some ([entry], text)
      | _ => none

def object? (text : List Char) : Option (List (Nat × Nat)) := do
  let '{' :: body := skipBlanks text | none
  let (entries, rest) ←
    match skipBlanks body with
    | '}' :: rest => some ([], rest)
    | body => entries? body.length body
  if (skipBlanks rest).isEmpty then some entries else none

end Reader

/-- Reads a book; of two entries with one level the later one counts. -/
def ofText (text : List Char) : Except ScoreError ScoreBook :=
  match Reader.object? text with
  | none => .error .malformed
  | some entries =>
      let book : ScoreBook := Table.ofList entries
      match book.zeroLevel? with
      | some level => .error (.zeroStrokes level)
      | none => .ok book

/-- Reads a book from bytes; only ASCII bytes can be part of one. -/
def ofBytes (bytes : List UInt8) : Except ScoreError ScoreBook :=
  ofText (bytes.map fun byte => Char.ofNat byte.toNat)

end GridRunner.ScoreBook
