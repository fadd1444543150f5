import GridRunner.Score.Text

/-!
# Best scores in a file

The book is kept in memory and saved as a whole whenever a record improves it:
the folder is made, a draft is written beside the file, and the draft takes
the file's place in one move.  If a step fails the book is as it was before the
record, and so is the file.
-/

namespace GridRunner

inductive PathState where
  | absent
  | file (bytes : List UInt8)
  | folder
  deriving DecidableEq, Repr

inductive FolderState where
  /-- It can be made, with its own parents. -/
  | missing
  | present
  /-- A file stands in the way. -/
  | obstructed
  deriving DecidableEq, Repr

structure Disk where
  folder : FolderState := .present
  /-- The score file. -/
  scores : PathState := .absent
  /-- The draft of its next content. -/
  draft : PathState := .absent
  deriving DecidableEq, Repr

namespace Disk

/-- A step of saving that fails for a reason outside this disk. -/
inductive Fault where
  | makeFolder
  /-- The draft could not be written to its end; what stands there is left behind. -/
  | writeDraft (left : PathState)
  | moveDraft
  deriving DecidableEq, Repr

def makeFolder (disk : Disk) : Option Disk :=
  match disk.folder with
  | .missing => some { disk with folder := .present }
  | .present => some disk
  | .obstructed => none

def writeDraft (bytes : List UInt8) (disk : Disk) : Option Disk :=
  match disk.draft with
  | .folder => none
  | _ => some { disk with draft := .file bytes }

/-- Moves the draft over the score file; a folder of that name stays. -/
def moveDraft (disk : Disk) : Option Disk :=
  match disk.scores with
  | .folder => none
  | _ => some { disk with scores := disk.draft, draft := .absent }

/-- Saves new content of the score file, step by step, up to the first that fails.  The answer
tells whether all of them succeeded. -/
def save (fault : Option Fault) (bytes : List UInt8) (disk : Disk) : Bool × Disk :=
  if fault = some .makeFolder then (false, disk)
  else
    match disk.makeFolder with
    | none => (false, disk)
    | some disk =>
        match fault with
        | some (.writeDraft left) => (false, { disk with draft := left })
        | _ =>
            match disk.writeDraft bytes with
            | none => (false, disk)
            | some disk =>
                if fault = some .moveDraft then (false, disk)
                else
                  match disk.moveDraft with
                  | none => (false, disk)
                  | some disk => (true, disk)

end Disk

/-- A score book with the disk it is kept on. -/
structure ScoreFile where
  book : ScoreBook := Table.empty
  disk : Disk
  deriving DecidableEq

namespace ScoreFile

/-- Reads the score file; there are no scores if there is no file. -/
def ofDisk (disk : Disk) : Except ScoreError ScoreFile :=
  match disk.scores with
  | .absent => .ok { disk }
  | .folder => .error .io
  | .file bytes => (ScoreBook.ofBytes bytes).map ({ book := ·, disk })

/-- Starts without scores, whatever the file holds. -/
def fresh (disk : Disk) : ScoreFile := { disk }

def recordWith (fault : Option Disk.Fault) (level strokes : Nat) (f : ScoreFile) :
    Except ScoreError Bool × ScoreFile :=
  match f.book.record level strokes with
  | (false, _) => (.ok false, f)
  | (true, book) =>
      match f.disk.save fault book.bytes with
      | (true, disk) => (.ok true, ⟨book, disk⟩)
      -- The book has the run already, so the record is taken back.
      | (false, disk) => (.error .io, ⟨book.restore level (f.book.get? level), disk⟩)

def record (level strokes : Nat) (f : ScoreFile) : Except ScoreError Bool × ScoreFile :=
  f.recordWith none level strokes

instance : ScoreStore ScoreFile where
  record := record
  best level f := (.ok (f.book.get? level), f)

instance : ScoreListing ScoreFile where
  all f := (.ok f.book, f)

end ScoreFile
end GridRunner
