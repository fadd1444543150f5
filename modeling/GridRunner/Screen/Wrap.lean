import GridRunner.Screen.Canvas

/-!
# Lines of text

A text is cut into lines at its line breaks, `\n` or `\r\n`.  A break at the end opens no further
line, and an empty text is one empty line.  A line that is too wide is wrapped at blanks.  As many
blanks as fill up the line before a break are dropped there, and a word that is wider than a line is
cut.
-/

namespace GridRunner.Text

/-- The lines of a text of which `line` is the part already read, last character first. -/
def linesFrom (line : List Char) : List Char → List (List Char)
  | [] => if line.isEmpty then [] else [line.reverse]
  | '\n' :: rest => line.reverse :: linesFrom [] rest
  | '\x0d' :: '\n' :: rest => line.reverse :: linesFrom [] rest
  | c :: rest => linesFrom (c :: line) rest

def lines (text : String) : List (List Char) :=
  if text.isEmpty then [[]] else linesFrom [] text.toList

end GridRunner.Text

namespace GridRunner

/-- What wrapping has made of the glyphs read. -/
structure Wrap where
  done : List (List Glyph) := []
  /-- The line that is being filled. -/
  line : List Glyph := []
  /-- Blanks after the line. -/
  gap : List Glyph := []
  /-- The word after these blanks. -/
  word : List Glyph := []
  inWord : Bool := false

namespace Wrap

/-- Blanks are dropped at the beginning of a line if it is trimmed. -/
def settled (trim : Bool) (w : Wrap) : List Glyph :=
  (if w.line.isEmpty && trim then [] else w.line ++ w.gap) ++ w.word

def settle (trim : Bool) (w : Wrap) : Wrap :=
  { w with line := w.settled trim, gap := [], word := [] }

/-- Whether the word goes into the line before the next glyph is read: it has ended, or the line is
empty and would not take the glyph too. -/
def settles (trim : Bool) (width : Nat) (w : Wrap) (g : Glyph) : Bool :=
  (w.inWord && g.isBlank) ||
    (w.line.isEmpty &&
      if trim then
        width < Glyph.total w.word + g.width || width < Glyph.total w.gap + g.width
      else width < Glyph.total w.word + Glyph.total w.gap + g.width)

def overflows (width : Nat) (w : Wrap) (g : Glyph) : Bool :=
  width ≤ Glyph.total w.line ||
    (g.width ≠ 0 && width ≤ Glyph.total w.line + Glyph.total w.gap + Glyph.total w.word)

def breakLine (width : Nat) (w : Wrap) : Wrap :=
  let filled := Glyph.fitting (width - Glyph.total w.line) w.gap
  { w with done := w.done ++ [w.line], line := [], gap := w.gap.drop filled.length }

def push (w : Wrap) (g : Glyph) : Wrap :=
  if g.isBlank then { w with gap := w.gap ++ [g], inWord := false }
  else { w with word := w.word ++ [g], inWord := true }

/-- Reads a glyph; one that is wider than a line is passed over. -/
def step (trim : Bool) (width : Nat) (w : Wrap) (g : Glyph) : Wrap :=
  if width < g.width then w
  else
    let w := if w.settles trim width g then w.settle trim else w
    if w.overflows width g then
      let w := w.breakLine width
      -- The blank at which the line is broken does not count for the next one.
      if g.isBlank && w.gap.isEmpty then w else w.push g
    else w.push g

def finish (trim : Bool) (w : Wrap) : List (List Glyph) :=
  let blank : List (List Glyph) :=
    if w.line.isEmpty && w.word.isEmpty && !w.gap.isEmpty then [[]] else []
  let last := w.settled trim
  let lines := w.done ++ blank ++ (if last.isEmpty then [] else [last])
  if lines.isEmpty then [[]] else lines

def lines (trim : Bool) (width : Nat) (glyphs : List Glyph) : List (List Glyph) :=
  (glyphs.foldl (step trim width) {}).finish trim

end Wrap
end GridRunner
