import GridRunner.Table

/-!
# Keys, modes and registers

A key is the same whatever device it came from; what it does depends on the mode.  A register,
named by one more key, carries the letter of a key from a yank to a later put; it stays there until
another yank into the same register.
-/

namespace GridRunner

inductive Key where
  | char (c : Char)
  | enter
  | backspace
  | escape
  deriving DecidableEq, Repr

namespace Key

/-- The key a character of typed text stands for: line breaks, backspace and escape have
keys of their own. -/
def ofTyped (c : Char) : Key :=
  if c = '\n' ∨ c = '\x0d' then .enter
  else if c = '\x08' then .backspace
  else if c = '\x1b' then .escape
  else .char c

end Key

inductive Mode where
  | normal
  | insert
  | visual
  | visualLine
  | command
  deriving DecidableEq, Repr, Inhabited

namespace Mode

def all : List Mode := [normal, insert, visual, visualLine, command]

def name : Mode → String
  | normal => "NORMAL"
  | insert => "INSERT"
  | visual => "VISUAL"
  | visualLine => "VISUAL_LINE"
  | command => "COMMAND"

/-- The mode of a name, whatever the case of its ASCII letters. -/
def ofName? (text : String) : Option Mode :=
  all.find? fun mode => mode.name.toList == text.toList.map Char.toUpper

end Mode

abbrev Registers := Table Char Char

namespace Registers

/-- The register of a command that names none. -/
def unnamed : Char := '"'

end Registers
end GridRunner
