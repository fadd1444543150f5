import GridRunner.Toml.Scalar

/-!
# Documents of TOML

A document is a run of lines: blank ones, comments, headers, and keys with their
values.  A value belongs to the table of the last header before it.
-/

namespace GridRunner.Toml

def comment : Reader Unit := do
  let text ← Reader.takeWhile fun c => c != '\n' && c != '\x0d'
  if text.any isControl then failure

def blanks : Reader Unit := do
  let _ ← Reader.takeWhile isBlank

def blankLines : Reader Unit :=
  Reader.iterate (fun _ => do
    blanks
    if ← Reader.ahead ['#'] then
      comment
      pure ((), true)
    else pure ((), ← acceptNewline)) ()

def isBareKey (c : Char) : Bool := c.isAlphanum || c == '_' || c == '-'

def simpleKey : Reader String := do
  match ← Reader.peek? with
  | some '"' => lineQuoted
  | some '\'' => lineQuoted
  | _ =>
      let chars ← Reader.takeWhile isBareKey
      if chars.isEmpty then failure else pure (.ofList chars)

/-- Keys have at most this many parts, and values at most this many brackets around them. -/
def depthLimit : Nat := 80

def dottedKey : Reader (List String) := do
  let reversed ← Reader.iterate (fun taken => do
    blanks
    let key ← simpleKey
    blanks
    pure (key :: taken, ← Reader.accept ['.'])) []
  if reversed.length ≤ depthLimit then pure reversed.reverse else failure

def assignment (gap : Reader Unit) (value : Reader Value) : Reader (List String × Value) := do
  let key ← dottedKey
  gap
  Reader.require ['=']
  gap
  pure (key, ← value)

/-- The table that assignments make, each key a new one. -/
def collect (assignments : List (List String × Value)) : Option Entries :=
  assignments.foldlM (fun entries (key, value) => Entries.assign value key entries) []

def scalar : Reader Value := do
  match ← Reader.peek? with
  | some '"' => .text <$> quoted
  | some '\'' => .text <$> quoted
  | _ => bareWord

def valueOf (inner : Reader Value) : Reader Value := do
  if ← Reader.accept ['['] then .array <$> Reader.items blankLines ']' inner
  else if ← Reader.accept [Char.ofNat 0x7b] then
    let assignments ← Reader.items blankLines (Char.ofNat 0x7d) (assignment blankLines inner)
    .table .inlined <$> collect assignments
  else scalar

/-- A value with at most the given number of brackets around its innermost one. -/
def nested : Nat → Reader Value
  | 0 => scalar
  | brackets + 1 => valueOf (nested brackets)

/-- The document read so far: its table, and the path of the last header. -/
structure Draft where
  root : Entries := []
  header : List String := []

def Draft.add (draft : Draft) (key : List String) (value : Value) : Option Draft := do
  some { draft with root := ← draft.root.underHeader (Entries.assign value key) draft.header }

/-- Opens the table, or one more of the tables, of a header. -/
def Draft.openHeader (draft : Draft) (path : List String) (double : Bool) : Option Draft :=
  match path.getLast? with
  | none => none
  | some key => do
      let change := if double then Entries.openNext key else Entries.openTable key
      some ⟨← draft.root.underHeader change path.dropLast, path⟩

def expression (draft : Draft) : Reader Draft := do
  if ← Reader.accept ['[', '['] then
    let path ← dottedKey
    Reader.require [']', ']']
    draft.openHeader path true
  else if ← Reader.accept ['['] then
    let path ← dottedKey
    Reader.require [']']
    draft.openHeader path false
  else
    let (key, value) ← assignment blanks (nested depthLimit)
    draft.add key value

def lineEnd : Reader Unit := do
  blanks
  if ← Reader.ahead ['#'] then comment
  if (← Reader.peek?).isNone then pure ()
  else if ← acceptNewline then pure ()
  else failure

def document : Reader Entries := do
  let _ ← Reader.accept ['\ufeff']
  let draft ← Reader.iterate (fun draft => do
    blankLines
    if (← Reader.peek?).isNone then pure (draft, false)
    else
      let draft ← expression draft
      lineEnd
      pure (draft, true)) ({} : Draft)
  pure draft.root

def ofText? (text : String) : Option Entries := Reader.readAll document text.toList

end GridRunner.Toml
