import GridRunner.Display
import GridRunner.Game
import GridRunner.Screen.Wrap
import GridRunner.Theme

/-!
# Panes

What the screen shows of the game: the map, the figures of the player, the log
and the command bar.  Each pane has a frame, and shows what fits into it.  Over
them stand the popups.
-/

namespace GridRunner.Screen

def drawFrame (theme : Theme) (title : String) (area : Area) (c : Canvas) : Canvas :=
  c.frame area theme.borderStyle (Glyph.ofText title theme.title)

/-- A line in the middle of an area: where it starts, and its cells. -/
def centre (area : Area) (line : List Glyph) : Nat × List Cell :=
  (area.centred (Glyph.total line), Glyph.cells line)

/-! ## The map -/

def mapGlyph (theme : Theme) (w : World) (x y : Nat) (glyph : Char) : Glyph :=
  if w.player.position = ⟨x, y⟩ ∧ w.aura then .ofCluster theme.auraStyle [glyph]
  else .ofCluster (theme.glyph glyph) [glyph]

/-- The rows of the map.  No glyph of it joins its neighbour, and a line feed is not shown. -/
def mapRows (theme : Theme) (w : World) : List (List Glyph) :=
  w.picture.zipIdx.map fun (row, y) =>
    (row.zipIdx.filter (·.1 != '\n')).map fun (glyph, x) => mapGlyph theme w x y glyph

def drawMap (theme : Theme) (game : Game) (area : Area) (c : Canvas) : Canvas :=
  let title := (game.level.map fun level => " " ++ level.name ++ " ").getD ""
  (drawFrame theme title area c).writeRows area.inner
    ((mapRows theme game.world).map fun row => centre area.inner (Glyph.cut area.inner.width row))

/-! ## The figures -/

def registersText (registers : Registers) : String :=
  if registers.isEmpty then "empty"
  else
    " ".intercalate (registers.entries.map fun (register, letter) =>
      String.ofList ['"', register, '=', letter])

def summaryText (s : Summary) : String :=
  s!"L{s.level} {s.rating.label} ({s.keystrokes}/{s.par})"

def statLines (theme : Theme) (game : Game) (last : Option Summary) : List (List Glyph) :=
  let w := game.world
  let line := fun (label value : String) (style : Style) =>
    Glyph.ofText label (.plain theme.muted) ++ Glyph.ofText value style
  let value : Style := .plain theme.foreground
  [line "Level: " ((game.level.map fun level => toString level.number).getD "-") value,
   line "HP: " s!"{w.player.hp}/{w.player.maxHp}" value,
   line "Keys: " s!"{w.keystrokes} / par {game.par}" value,
   line "Mode: " w.mode.name (theme.mode w.mode),
   line "Registers: " (registersText w.registers) (.plain theme.key)] ++
  (last.map fun s => line "Last: " (summaryText s) (.plain theme.success)).toList

def drawStats (theme : Theme) (game : Game) (last : Option Summary) (area : Area) (c : Canvas) :
    Canvas :=
  let rows := (statLines theme game last).flatMap (Wrap.lines true area.inner.width)
  (drawFrame theme " Stats " area c).writeRows area.inner (rows.map fun row => (0, Glyph.cells row))

/-! ## The log -/

/-- A message on rows of its own, coloured to their ends. -/
def messageRows (theme : Theme) (width : Nat) (message : String) : List (List Cell) :=
  let style := theme.message message
  (Text.lines message).map fun line =>
    let shown := Glyph.joined width (Glyph.ofChars line style)
    shown ++ List.replicate (width - shown.length) ⟨" ", style⟩

/-- As many of the blocks, from the first on, as together have at most the given height. -/
def fitting {α : Type} (height : Nat) : List (List α) → List (List α)
  | [] => []
  | block :: rest =>
      if block.length ≤ height then block :: fitting (height - block.length) rest else []

/-- The newest message stands on the lowest rows; a message is shown whole or not at all, and rows
without a message are above. -/
def drawLog (theme : Theme) (log : MessageLog) (area : Area) (c : Canvas) : Canvas :=
  let inner := area.inner
  let blocks := (log.recent inner.height).map (messageRows theme inner.width)
  let rows := (fitting inner.height blocks).reverse.flatten
  let blank := List.replicate (inner.height - rows.length) []
  (drawFrame theme " Log " area c).writeRows inner ((blank ++ rows).map (0, ·))

/-! ## The command bar -/

/-- The mode and the chord; the instructions of the level while no chord is begun. -/
def barLine (theme : Theme) (game : Game) (echo : String) : List Glyph :=
  let mode := game.world.mode
  let instructions := (game.level.map Level.instructions).getD ""
  Glyph.ofText ("-- " ++ mode.name ++ " -- ") (theme.mode mode) ++
    (if echo.isEmpty then Glyph.ofText instructions (.plain theme.muted)
     else Glyph.ofText echo (.plain theme.foreground))

def drawBar (theme : Theme) (game : Game) (echo : String) (area : Area) (c : Canvas) : Canvas :=
  let shown := Glyph.cut area.inner.width (barLine theme game echo)
  (drawFrame theme "" area c).writeRows area.inner [(0, Glyph.cells shown)]

/-! ## Popups

The word for a sound and the scenes of the story are drawn over the panes.  Both clear the cells
they cover.
-/

def bubbleWidth : Nat := 9

def bubbleHeight : Nat := 3

/-- The place of the sound bubble, one cell in from the upper right corner of the map; a small
map has no room for it. -/
def bubbleArea? (map : Area) : Option Area :=
  if map.width < bubbleWidth + 2 ∨ map.height < bubbleHeight + 2 then none
  else some ⟨map.x + map.width - bubbleWidth - 1, map.y + 1, bubbleWidth, bubbleHeight⟩

def drawSound (theme : Theme) (label : String) (map : Area) (c : Canvas) : Canvas :=
  match bubbleArea? map with
  | none => c
  | some area =>
      let style : Style := .strong theme.lock
      let shown := Glyph.cut area.inner.width (Glyph.ofText label style)
      ((c.fill area ⟨" ", style⟩).frame area (.strong theme.border) []).writeRows area.inner
        [centre area.inner shown]

def hint : String := "[ press any key ]"

def sceneText (theme : Theme) (scene : Scene) : List (List Glyph) :=
  [Glyph.ofText scene.title (.strong theme.accent), []] ++
    scene.lines.map (fun line => Glyph.ofText line (.plain theme.foreground)) ++
    [[], Glyph.ofText hint (.plain theme.muted)]

def drawScene (theme : Theme) (scene : Scene) (area : Area) (c : Canvas) : Canvas :=
  let rows := (sceneText theme scene).flatMap (Wrap.lines false area.inner.width)
  (drawFrame theme "" area (c.fill area {})).writeRows area.inner (rows.map (centre area.inner))

end GridRunner.Screen
