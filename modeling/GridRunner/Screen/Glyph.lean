import GridRunner.Letter.Columns
import GridRunner.Theme

/-!
# Glyphs

A text is shown glyph by glyph.  A glyph is a character together with the marks
on it, and takes no, one or two columns.
-/

namespace GridRunner

namespace Text

/-- Whether the next character belongs to the cluster before it, given last character first. -/
def joins : List Char → Char → Bool
  | [], _ => true
  | last :: before, next =>
      if last = '\x0d' ∧ next = '\n' then true
      else if Letter.within Letter.controls last || Letter.within Letter.controls next then false
      else
        Letter.isMark next || Letter.within Letter.prepended last ||
          ((Letter.Hangul.ofChar? last).any fun part =>
            (Letter.Hangul.ofChar? next).any part.goesOn) ||
          (Letter.isFlagHalf last && Letter.isFlagHalf next &&
            !before.head?.any Letter.isFlagHalf) ||
          (last = '\u200d' && Letter.within Letter.pictures next &&
            (before.dropWhile Letter.isModifier).head?.any (Letter.within Letter.pictures))

/-- The clusters of a text of which one is begun, last character first. -/
def clustersFrom (begun : List Char) : List Char → List (List Char)
  | [] => if begun.isEmpty then [] else [begun.reverse]
  | next :: rest =>
      if joins begun next then clustersFrom (next :: begun) rest
      else begun.reverse :: clustersFrom [next] rest

/-- The characters of a text, those together that are shown in one place. -/
def clusters (text : List Char) : List (List Char) := clustersFrom [] text

def isEmoji : List Char → Bool
  | [] => false
  | base :: rest =>
      (Letter.within Letter.pictures base &&
        rest.any fun c => c = '\ufe0f' || Letter.isTone c || Letter.within Letter.pictures c) ||
      ("#*0123456789".toList.contains base && rest.head? = some '\ufe0f')

def columns (cluster : List Char) : Nat :=
  if cluster = ['\x0d', '\n'] then 1
  else if isEmoji cluster then 2
  else cluster.foldl (fun columns c => columns + Letter.columns c) 0

end Text

/-- What is shown in one place, and how it is written. -/
structure Glyph where
  symbol : String
  width : Nat
  style : Style
  deriving DecidableEq, Repr

namespace Glyph

def ofCluster (style : Style) (cluster : List Char) : Glyph :=
  ⟨String.ofList cluster, Text.columns cluster, style⟩

/-- The glyphs of characters in one style; a line feed is not shown. -/
def ofChars (chars : List Char) (style : Style) : List Glyph :=
  ((Text.clusters chars).filter (· ≠ ['\n'])).map (ofCluster style)

def ofText (text : String) (style : Style) : List Glyph := ofChars text.toList style

/-- Whether a line may be broken here. -/
def isBlank (g : Glyph) : Bool :=
  g.symbol = "\u200b" || g.symbol ≠ "\u00a0" && g.symbol.toList.all Letter.isWhiteSpace

/-- The columns that glyphs take beside one another. -/
def total : List Glyph → Nat
  | [] => 0
  | g :: rest => g.width + total rest

/-- As many glyphs, from the first on, as fit into a width. -/
def fitting (room : Nat) : List Glyph → List Glyph
  | [] => []
  | g :: rest => if g.width ≤ room then g :: fitting (room - g.width) rest else []

/-- What is shown of a line that is not wrapped; a glyph wider than the line is passed over. -/
def cut (room : Nat) (glyphs : List Glyph) : List Glyph :=
  fitting room (glyphs.filter (·.width ≤ room))

end Glyph
end GridRunner
