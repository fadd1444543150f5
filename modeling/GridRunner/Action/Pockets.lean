import GridRunner.Action
import GridRunner.World

/-!
# Keys, locks and registers

A yank stores the letter of the first key in reach.  A put tries the letter of a
register on the locks in reach, front to back, and opens the first that takes it;
the register keeps its letter.
-/

namespace GridRunner

namespace Entity

def keyInReach? (origin : Position) (e : Entity) : Option (Char × String) :=
  match e.kind with
  | .key letter => if origin.reaches e.position then some (letter, e.name) else none
  | _ => none

/-- The letter and the glyph of a lock in reach of a cell. -/
def lockInReach? (origin : Position) (e : Entity) : Option (Char × Char) :=
  match e.kind with
  | .lock letter => if origin.reaches e.position then some (letter, e.symbol) else none
  | _ => none

def opensTo (origin : Position) (held : Char) (e : Entity) : Bool :=
  match e.lockInReach? origin with
  | some (letter, _) => letter == held
  | none => false

end Entity

namespace World

def yank (register : Char) (w : World) : Yanked × World :=
  let inReach := fun e : Entity => e.keyInReach? w.player.position
  match w.fixtures.findSome? inReach with
  | some (letter, name) =>
      (.stored letter,
        { w with
          fixtures := w.fixtures.eraseP fun e => (inReach e).isSome
          registers := w.registers.insert register letter }.note
          s!"Success: {name} extracted into register '{register}'")
  | none => (.nothingInRange, w.note "Nothing here to yank.")

def locksInReach (w : World) : List (Char × Char) :=
  w.fixtures.filterMap (·.lockInReach? w.player.position)

def refusal (register held glyph : Char) : String :=
  s!"Failure: Register '{register}' holds '{held}', Lock {glyph} rejects it."

def put (register : Char) (w : World) : Put × World :=
  match w.registers.get? register with
  | none => (.emptyRegister, w.note s!"Error: Register '{register}' is currently empty.")
  | some held =>
      let tried := w.locksInReach
      let refused := tried.takeWhile (·.1 != held)
      let told := refused.foldl (fun w lock => w.note (refusal register held lock.2)) w
      match tried.dropWhile (·.1 != held) with
      | (letter, glyph) :: _ =>
          (.unlocked letter,
            { told with fixtures := w.fixtures.eraseP (·.opensTo w.player.position held) }.note
              s!"Access Granted: Lock {glyph} disengaged!")
      | [] =>
          match refused.getLast? with
          | some (required, _) => (.mismatch held required, told)
          | none => (.nothingInRange, told)

end World
end GridRunner
