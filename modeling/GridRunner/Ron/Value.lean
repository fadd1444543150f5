import GridRunner.Ron.Shape

/-!
# Values of RON

Texts, integers, lists and records are kept as they are; of the other values that
hold values their parts are kept, and every other well-formed value is `other`.  A
text may begin with attributes such as `#![enable(implicit_some)]`, each of which
names extensions of the notation.
-/

namespace GridRunner.Ron

inductive Extension where
  /-- The parentheses of a named type around one value may be left out. -/
  | unwrapNewtypes
  /-- The parentheses of an option may be left out. -/
  | implicitSome
  /-- A record or a tuple in an option needs no parentheses of its own. -/
  | unwrapVariantNewtypes
  /-- A record bears its name. -/
  | explicitStructNames
  deriving DecidableEq, Repr

namespace Extension

def ofName? : String → Option Extension
  | "unwrap_newtypes" => some .unwrapNewtypes
  | "implicit_some" => some .implicitSome
  | "unwrap_variant_newtypes" => some .unwrapVariantNewtypes
  | "explicit_struct_names" => some .explicitStructNames
  | _ => none

def marks : List (List Char) → Reader Unit
  | [] => pure ()
  | mark :: rest => do
      Reader.require mark
      blank
      marks rest

def enabling : Reader (List Extension) := do
  marks [['#'], ['!'], ['['], ['e', 'n', 'a', 'b', 'l', 'e'], ['(']]
  let names ← Reader.items blank ')' identifier
  blank
  marks [[']']]
  if names.isEmpty then failure else names.mapM fun name => ofName? name

/-- The extensions that the attributes at the start of a text name. -/
def attributes : Reader (List Extension) :=
  Reader.iterate (fun enabled => do
    if ← Reader.ahead ['#'] then pure (enabled ++ (← enabling), true)
    else pure (enabled, false)) []

end Extension

inductive Value where
  /-- An integer, and the type that is named after it. -/
  | integer (value : Int) (suffix : Option String)
  | text (text : String)
  | list (items : List Value)
  /-- Named fields in parentheses, perhaps after a name. -/
  | record (name : Option String) (fields : List (String × Value))
  /-- Values in parentheses, perhaps after a name. -/
  | tuple (items : List Value)
  | map (entries : List (Value × Value))
  /-- The value of an option. -/
  | present (value : Value)
  | other
  deriving Inhabited

namespace Value

/-- The depth of a bracket, given the depths of what it holds. -/
def bracketDepth (inside : List Nat) : Nat := (inside.max?.map (· + 2)).getD 1

theorem sizeOf_fst_lt {α β : Type} [SizeOf α] [SizeOf β] {pair : α × β} {pairs : List (α × β)}
    (h : pair ∈ pairs) : sizeOf pair.1 < sizeOf pairs := by
  have hlt := List.sizeOf_lt_of_mem h
  obtain ⟨a, b⟩ := pair
  rw [Prod.mk.sizeOf_spec] at hlt
  show sizeOf a < sizeOf pairs
  omega

theorem sizeOf_snd_lt {α β : Type} [SizeOf α] [SizeOf β] {pair : α × β} {pairs : List (α × β)}
    (h : pair ∈ pairs) : sizeOf pair.2 < sizeOf pairs := by
  have hlt := List.sizeOf_lt_of_mem h
  obtain ⟨a, b⟩ := pair
  rw [Prod.mk.sizeOf_spec] at hlt
  show sizeOf b < sizeOf pairs
  omega

/-- How deep a value nests: an option counts one level, an empty bracket one, and a bracket that
holds values two. -/
def depth : Value → Nat
  | .list items => bracketDepth (items.map depth)
  | .tuple items => bracketDepth (items.map depth)
  | .record _ fields => bracketDepth (fields.map fun field => depth field.2)
  | .map entries => bracketDepth (entries.map fun entry => max (depth entry.1) (depth entry.2))
  | .present value => depth value + 1
  | .integer _ _ => 0
  | .text _ => 0
  | .other => 0
decreasing_by
  · have := List.sizeOf_lt_of_mem ‹_›; simp only [Value.list.sizeOf_spec]; omega
  · have := List.sizeOf_lt_of_mem ‹_›; simp only [Value.tuple.sizeOf_spec]; omega
  · have := sizeOf_snd_lt ‹_›; simp only [Value.record.sizeOf_spec]; omega
  · have := sizeOf_fst_lt ‹_›; simp only [Value.map.sizeOf_spec]; omega
  · have := sizeOf_snd_lt ‹_›; simp only [Value.map.sizeOf_spec]; omega
  · simp only [Value.present.sizeOf_spec]; omega

def depthLimit : Nat := 128

/-- An integer that no fraction follows. -/
def ofWholeNumber : Reader Value := do
  let (value, suffix) ← wholeNumber
  if (← Reader.peek?).any isFloatChar then failure else pure (.integer value suffix)

def number : Reader Value := do
  if let some value ← Reader.optional ofWholeNumber then return value
  if let some () ← Reader.optional fraction then return .other
  unbounded
  pure .other

def fieldName : Reader String := do
  let name ← identifier
  blank
  Reader.require [':']
  blank
  pure name

def recordBody (value : Reader Value) (name : Option String) : Reader Value :=
  .record name <$> Reader.items blank ')' do
    let field ← fieldName
    pure (field, ← value)

/-- What the parentheses of a record or a tuple hold, the opening one taken. -/
def parenthesised (value : Reader Value) (name : Option String) : Reader Value := do
  blank
  if ← Reader.lookahead fieldName then recordBody value name
  else .tuple <$> Reader.items blank ')' value

/-- The one value that the parentheses of an option hold, the opening one taken. -/
def single (value : Reader Value) : Reader Value := do
  match ← Reader.items blank ')' value with
  | [content] => pure content
  | _ => failure

/-- What the parentheses of an option hold if those of a record, a tuple or a unit in it may be
left out. -/
def unwrapped (value : Reader Value) : Reader Value := do
  blank
  if ← Reader.accept [')'] then return .other
  match ← Shape.ahead with
  | .fields => recordBody value none
  | .single => single value
  | .several => .tuple <$> Reader.items blank ')' value

def optionBody (enabled : List Extension) (value : Reader Value) : Reader Value := do
  blank
  if ← Reader.accept ['('] then
    .present <$> (if enabled.contains .unwrapVariantNewtypes then unwrapped value else single value)
  else if enabled.contains .implicitSome then .present <$> value
  else failure

def valueOf (enabled : List Extension) (inner : Reader Value) : Reader Value := do
  for name in ["true", "false", "None", "inf", "inff32", "inff64", "NaN", "NaNf32", "NaNf64"] do
    if ← word name.toList then return .other
  if ← word ['S', 'o', 'm', 'e'] then return ← optionBody enabled inner
  if ← Reader.accept ['(', ')'] then return .other
  if let some name ← Reader.optional identifier then
    blank
    if ← Reader.accept ['('] then return ← parenthesised inner name
    return .other
  match ← Reader.peek? with
  | some '(' =>
      Reader.require ['(']
      parenthesised inner none
  | some '[' =>
      Reader.require ['[']
      .list <$> Reader.items blank ']' inner
  | some '"' =>
      Reader.require ['"']
      .text <$> quoted .text
  | some 'r' =>
      Reader.require ['r']
      .text <$> rawQuoted
  | some '\'' =>
      Reader.require ['\'']
      let _ ← character
      pure .other
  | some 'b' =>
      Reader.require ['b']
      if ← Reader.accept ['\''] then let _ ← byte
      else if ← Reader.accept ['r'] then let _ ← rawQuoted
      else
        Reader.require ['"']
        let _ ← quoted .bytes
      pure .other
  | some c =>
      if c == Char.ofNat 0x7b then
        Reader.require [c]
        .map <$> Reader.items blank (Char.ofNat 0x7d) do
          let key ← inner
          blank
          Reader.require [':']
          blank
          pure (key, ← inner)
      else number
  | none => failure

/-- A value with fewer values around its innermost one than the given number. -/
def nested (enabled : List Extension) : Nat → Reader Value
  | 0 => failure
  | levels + 1 => valueOf enabled (nested enabled levels)

def reader (enabled : List Extension) : Reader Value := do
  let value ← nested enabled (depthLimit + 1)
  if value.depth ≤ depthLimit then pure value else failure

end Value

/-! ## Documents

A document is one value, after attributes that enable extensions. -/

structure Document where
  extensions : List Extension
  value : Value

namespace Document

def ofText? (text : String) : Option Document :=
  Reader.readAll (do
    blank
    let extensions ← Extension.attributes
    let value ← Value.reader extensions
    blank
    pure { extensions, value }) text.toList

end Document
end GridRunner.Ron
