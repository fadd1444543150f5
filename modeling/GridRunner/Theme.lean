import GridRunner.Keyboard

/-!
# Styles and themes

A theme gives each thing on the screen a colour.  Map glyphs are coloured by
their ASCII class, messages by the tag they begin with.
-/

namespace GridRunner

inductive Color where
  /-- Whatever the terminal writes in. -/
  | reset
  | white
  | gray
  | darkGray
  | rgb (red green blue : UInt8)
  deriving DecidableEq, Repr, Inhabited

structure Style where
  color : Color := .reset
  bold : Bool := false
  reversed : Bool := false
  deriving DecidableEq, Repr, Inhabited

namespace Style

def plain (color : Color) : Style := { color }

def strong (color : Color) : Style := { color, bold := true }

end Style

structure Theme where
  foreground : Color
  muted : Color
  accent : Color
  border : Color
  wall : Color
  floor : Color
  player : Color
  aura : Color
  enemy : Color
  boss : Color
  exit : Color
  rubble : Color
  key : Color
  lock : Color
  success : Color
  failure : Color
  attack : Color
  deriving DecidableEq, Repr

namespace Theme

/-- The standard theme, bluish on a dark ground. -/
def tokyoNight : Theme where
  foreground := .rgb 0xc0 0xca 0xf5
  muted := .rgb 0x56 0x5f 0x89
  accent := .rgb 0x7a 0xa2 0xf7
  border := .rgb 0x41 0x48 0x68
  wall := .rgb 0x41 0x48 0x68
  floor := .rgb 0x24 0x28 0x3b
  player := .rgb 0xe0 0xaf 0x68
  aura := .rgb 0x7d 0xcf 0xff
  enemy := .rgb 0xf7 0x76 0x8e
  boss := .rgb 0xdb 0x4b 0x4b
  exit := .rgb 0x9e 0xce 0x6a
  rubble := .rgb 0x73 0x7a 0xa2
  key := .rgb 0xbb 0x9a 0xf7
  lock := .rgb 0xff 0x9e 0x64
  success := .rgb 0x9e 0xce 0x6a
  failure := .rgb 0xf7 0x76 0x8e
  attack := .rgb 0xbb 0x9a 0xf7

def mono : Theme where
  foreground := .white
  muted := .darkGray
  accent := .white
  border := .gray
  wall := .gray
  floor := .darkGray
  player := .white
  aura := .white
  enemy := .white
  boss := .white
  exit := .white
  rubble := .gray
  key := .white
  lock := .white
  success := .white
  failure := .white
  attack := .white

/-- The theme of a name, whatever the case of its ASCII letters; unknown names mean the
standard theme. -/
def ofName (name : String) : Theme :=
  if ["mono", "monochrome"].contains (String.ofList (name.toList.map Char.toLower)) then mono
  else tokyoNight

def glyph (t : Theme) (c : Char) : Style :=
  match c with
  | '@' => .plain t.player
  | 'G' => .plain t.enemy
  | 'B' => .strong t.boss
  | '>' => .plain t.exit
  | 'R' => .plain t.rubble
  | '.' => .plain t.floor
  | c => if c.isLower then .plain t.key else if c.isUpper then .plain t.lock else .plain t.wall

def auraStyle (t : Theme) : Style := { color := t.aura, bold := true, reversed := true }

def mode (t : Theme) : Mode → Style
  | .normal => .strong t.accent
  | .insert => .strong t.success
  | .visual | .visualLine => .strong t.key
  | .command => .strong t.lock

def successTags : List String := ["Success", "Access Granted", "THREAT NEUTRALIZED", "ERASED"]

def failureTags : List String := ["Error", "Failure", "Invalid syntax", "Path blocked"]

def attackTags : List String := ["SYSTEM PURGE", "LINK DAMAGE"]

def message (t : Theme) (text : String) : Style :=
  let tagged := fun tags : List String => tags.any fun tag => tag.toList.isPrefixOf text.toList
  if tagged successTags then .plain t.success
  else if tagged failureTags then .plain t.failure
  else if tagged attackTags then .plain t.attack
  else .plain t.foreground

def title (t : Theme) : Style := .strong t.accent

def borderStyle (t : Theme) : Style := .plain t.border

end Theme
end GridRunner
