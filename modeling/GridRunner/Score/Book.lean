import GridRunner.Table

/-!
# Best scores

The fewest keystrokes recorded for each level number.  A record replaces the
stored value only if it is strictly below it.
-/

namespace GridRunner

/-- Fewest keystrokes by level number. -/
abbrev ScoreBook := Table Nat Nat

inductive ScoreError where
  | io
  | malformed
  /-- The level is stored with zero keystrokes, which no run can reach. -/
  | zeroStrokes (level : Nat)
  deriving DecidableEq, Repr

/-- A store of best scores.  Either call may fail, and may change the store. -/
class ScoreStore (σ : Type) where
  record : Nat → Nat → σ → Except ScoreError Bool × σ
  best : Nat → σ → Except ScoreError (Option Nat) × σ

/-- A store that also tells everything it holds. -/
class ScoreListing (σ : Type) extends ScoreStore σ where
  all : σ → Except ScoreError ScoreBook × σ

namespace ScoreBook

def improves (best : Option Nat) (strokes : Nat) : Bool :=
  match best with
  | none => true
  | some best => decide (strokes < best)

/-- Records a run; the answer tells whether it became the best. -/
def record (level strokes : Nat) (book : ScoreBook) : Bool × ScoreBook :=
  if improves (book.get? level) strokes then (true, book.insert level strokes) else (false, book)

/-- Gives a level back what it held before a record, if it held anything. -/
def restore (level : Nat) (held : Option Nat) (book : ScoreBook) : ScoreBook :=
  match held with
  | some best => book.insert level best
  | none => book.erase level

/-- The first level that is stored with zero keystrokes. -/
def zeroLevel? (book : ScoreBook) : Option Nat := (book.entries.find? (·.2 = 0)).map (·.1)

/-- A book in memory never fails. -/
instance : ScoreStore ScoreBook where
  record level strokes book :=
    let (improved, book) := book.record level strokes
    (.ok improved, book)
  best level book := (.ok (book.get? level), book)

instance : ScoreListing ScoreBook where
  all book := (.ok book, book)

end ScoreBook

namespace ScoreError

def message : ScoreError → String
  | io => "I/O error"
  | malformed => "JSON error"
  | zeroStrokes level => s!"corrupted data: level {level} records zero keystrokes"

end ScoreError

/-! ## Calls

A store takes records and tells bests, one level at a time or all at once.
-/

namespace ScoreStore

inductive Call where
  | record (level strokes : Nat)
  | best (level : Nat)
  | all
  deriving DecidableEq, Repr

inductive Reply where
  | recorded (improved : Bool)
  | best (strokes : Option Nat)
  | all (book : ScoreBook)
  | failed (error : ScoreError)
  deriving DecidableEq

variable {σ α : Type}

def Reply.of (reply : α → Reply) (answered : Except ScoreError α × σ) : Reply × σ :=
  match answered with
  | (.ok answer, store) => (reply answer, store)
  | (.error error, store) => (.failed error, store)

variable [ScoreListing σ]

def answer (call : Call) (store : σ) : Reply × σ :=
  match call with
  | .record level strokes => Reply.of .recorded (record level strokes store)
  | .best level => Reply.of .best (best level store)
  | .all => Reply.of .all (ScoreListing.all store)

def serve (store : σ) : List Call → List Reply × σ
  | [] => ([], store)
  | call :: rest =>
      let (reply, store) := answer call store
      let (replies, store) := serve store rest
      (reply :: replies, store)

end ScoreStore
end GridRunner
