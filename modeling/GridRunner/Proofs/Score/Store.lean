import GridRunner.Proofs.Score.Text
import GridRunner.Score.File

/-! # What a store keeps

A record lowers the best of its level and touches no other (`get?_record`).  Saving either succeeds
as a whole or leaves the score file alone (`save_cases`), so memory and disk never part: at any time
the score file can be opened, and holds what the store holds (`Saved.recordWith`).
-/

namespace GridRunner

namespace ScoreBook

/-- The least of some numbers need not be told apart from the numbers themselves. -/
theorem min?_toList_append (xs ys : List Nat) : (xs.min?.toList ++ ys).min? = (xs ++ ys).min? := by
  cases xs with
  | nil => rfl
  | cons x xs =>
    rw [List.min?_cons', Option.toList_some, List.singleton_append, List.min?_cons',
      List.cons_append, List.min?_cons', List.foldl_append]

theorem record_fst (book : ScoreBook) (level strokes : Nat) :
    (book.record level strokes).1 = improves (book.get? level) strokes := by
  unfold record
  split
  · rename_i better
    exact better.symm
  · rename_i worse
    exact (Bool.not_eq_true _ ▸ worse).symm

theorem eq_of_record {book kept : ScoreBook} {level strokes : Nat}
    (h : book.record level strokes = (false, kept)) : kept = book := by
  unfold record at h
  split at h
  · cases h
  · cases h
    rfl

theorem improves_iff {best : Option Nat} {strokes : Nat} :
    improves best strokes = true ↔ ∀ held, best = some held → strokes < held := by
  cases best <;> simp [improves]

/-- A record keeps the fewer keystrokes at its level, and what every other level has. -/
theorem get?_record (book : ScoreBook) (level strokes n : Nat) :
    (book.record level strokes).2.get? n =
      if n = level then ((book.get? level).toList ++ [strokes]).min? else book.get? n := by
  unfold record
  by_cases better : improves (book.get? level) strokes = true
  · rw [if_pos better, Table.get?_insert]
    have lower := improves_iff.mp better
    cases held : book.get? level with
    | none => rfl
    | some best =>
      have less : strokes < best := lower best held
      simp [Nat.min_eq_right (Nat.le_of_lt less)]
  · rw [if_neg better]
    by_cases same : n = level
    · subst same
      cases held : book.get? n with
      | none => simp [improves, held] at better
      | some best =>
        have least : best ≤ strokes := by simpa [improves, held] using better
        simp [Nat.min_eq_left least]
    · rw [if_neg same]

/-- A record that is taken back leaves no trace. -/
theorem restore_record (book : ScoreBook) (level strokes : Nat) :
    restore level (book.get? level) (book.record level strokes).2 = book := by
  ext n : 1
  unfold restore
  cases held : book.get? level with
  | none =>
    dsimp only
    rw [Table.get?_erase, get?_record]
    by_cases same : n = level <;> simp [same, held]
  | some best =>
    dsimp only
    rw [Table.get?_insert, get?_record]
    by_cases same : n = level <;> simp [same, held]

theorem Storable.record {book : ScoreBook} (h : book.Storable) {level strokes : Nat}
    (small : level ≤ countLimit) (positive : 0 < strokes) (few : strokes ≤ countLimit) :
    Storable (book.record level strokes).2 := by
  unfold ScoreBook.record
  split
  · exact h.insert small positive few
  · exact h

end ScoreBook

/-! ## Stores that answer -/

/-- While a store is sound, each of its calls succeeds and answers as a book does, and leaves it
sound. -/
structure ScoreStore.Faithful (σ : Type) [ScoreStore σ] (book : σ → ScoreBook)
    (sound : σ → Prop) : Prop where
  record_ok : ∀ level strokes store, sound store →
    (ScoreStore.record level strokes store).1 = .ok ((book store).record level strokes).1
  record_book : ∀ level strokes store, sound store →
    book (ScoreStore.record level strokes store).2 = ((book store).record level strokes).2
  record_sound : ∀ level strokes store, sound store →
    sound (ScoreStore.record level strokes store).2
  best : ∀ level store, sound store →
    ScoreStore.best level store = (.ok ((book store).get? level), store)

theorem ScoreBook.faithful : ScoreStore.Faithful ScoreBook id fun _ => True where
  record_ok _ _ _ _ := rfl
  record_book _ _ _ _ := rfl
  record_sound _ _ _ _ := trivial
  best _ _ _ := rfl

/-! ## Saving -/

namespace Disk

structure Writable (disk : Disk) : Prop where
  folder : disk.folder ≠ .obstructed
  scores : disk.scores ≠ .folder
  draft : disk.draft ≠ .folder

def saved (bytes : List UInt8) : Disk := { folder := .present, scores := .file bytes }

theorem makeFolder_cases (disk : Disk) :
    (disk.folder = .obstructed ∧ disk.makeFolder = none) ∨
      (disk.folder ≠ .obstructed ∧ disk.makeFolder = some { disk with folder := .present }) := by
  obtain ⟨folder, scores, draft⟩ := disk
  cases folder with
  | missing => exact Or.inr ⟨FolderState.noConfusion, rfl⟩
  | present => exact Or.inr ⟨FolderState.noConfusion, rfl⟩
  | obstructed => exact Or.inl ⟨rfl, rfl⟩

theorem writeDraft_cases (bytes : List UInt8) (disk : Disk) :
    (disk.draft = .folder ∧ disk.writeDraft bytes = none) ∨
      (disk.draft ≠ .folder ∧ disk.writeDraft bytes = some { disk with draft := .file bytes }) := by
  obtain ⟨folder, scores, draft⟩ := disk
  cases draft with
  | absent => exact Or.inr ⟨PathState.noConfusion, rfl⟩
  | file old => exact Or.inr ⟨PathState.noConfusion, rfl⟩
  | folder => exact Or.inl ⟨rfl, rfl⟩

theorem moveDraft_cases (disk : Disk) :
    (disk.scores = .folder ∧ disk.moveDraft = none) ∨
      (disk.scores ≠ .folder ∧
        disk.moveDraft = some { disk with scores := disk.draft, draft := .absent }) := by
  obtain ⟨folder, scores, draft⟩ := disk
  cases scores with
  | absent => exact Or.inr ⟨PathState.noConfusion, rfl⟩
  | file old => exact Or.inr ⟨PathState.noConfusion, rfl⟩
  | folder => exact Or.inl ⟨rfl, rfl⟩

def Unhindered (fault : Option Fault) (disk : Disk) : Prop := fault = none ∧ disk.Writable

/-- What saving can come to, and the disk after it. -/
inductive Saves (fault : Option Fault) (bytes : List UInt8) (disk : Disk) : Bool × Disk → Prop
  | shut : fault = some .makeFolder ∨ disk.folder = .obstructed →
      Saves fault bytes disk (false, disk)
  | cut {left : PathState} : disk.folder ≠ .obstructed → fault = some (.writeDraft left) →
      Saves fault bytes disk (false, { disk with folder := .present, draft := left })
  | unwritten : disk.folder ≠ .obstructed → disk.draft = .folder →
      Saves fault bytes disk (false, { disk with folder := .present })
  | unmoved : disk.folder ≠ .obstructed → disk.draft ≠ .folder →
      fault = some .moveDraft ∨ (fault = none ∧ disk.scores = .folder) →
      Saves fault bytes disk (false, { disk with folder := .present, draft := .file bytes })
  | moved : Unhindered fault disk → Saves fault bytes disk (true, saved bytes)

theorem save_saves (fault : Option Fault) (bytes : List UInt8) (disk : Disk) :
    Saves fault bytes disk (disk.save fault bytes) := by
  -- One case for each step that can be the first to fail.
  unfold save
  split
  · rename_i faulted
    exact .shut (.inl faulted)
  rename_i makes
  rcases disk.makeFolder_cases with ⟨stuck, made⟩ | ⟨folder, made⟩
  · rw [made]
    exact .shut (.inr stuck)
  rw [made]
  dsimp only
  split
  · exact .cut folder rfl
  rename_i writes
  rcases writeDraft_cases bytes { disk with folder := .present } with
    ⟨stuck, written⟩ | ⟨draft, written⟩
  · rw [written]
    exact .unwritten folder stuck
  rw [written]
  dsimp only
  split
  · rename_i faulted
    exact .unmoved folder draft (.inl faulted)
  rename_i moves
  have unfaulted : fault = none := by
    cases fault with
    | none => rfl
    | some fault =>
      cases fault with
      | makeFolder => exact absurd rfl makes
      | writeDraft left => exact absurd rfl (writes left)
      | moveDraft => exact absurd rfl moves
  rcases moveDraft_cases { disk with folder := .present, draft := .file bytes } with
    ⟨stuck, moved⟩ | ⟨scores, moved⟩
  · rw [moved]
    exact .unmoved folder draft (.inr ⟨unfaulted, stuck⟩)
  · rw [moved]
    exact .moved ⟨unfaulted, folder, scores, draft⟩

/-- Saving succeeds as a whole, or the score file is as it was. -/
theorem save_cases (fault : Option Fault) (bytes : List UInt8) (disk : Disk) :
    (Unhindered fault disk ∧ disk.save fault bytes = (true, saved bytes)) ∨
      (¬ Unhindered fault disk ∧ (disk.save fault bytes).1 = false ∧
        (disk.save fault bytes).2.scores = disk.scores) := by
  have saves := disk.save_saves fault bytes
  generalize disk.save fault bytes = result at saves
  cases saves with
  | shut shut =>
    refine .inr ⟨fun free => ?_, rfl, rfl⟩
    rcases shut with faulted | obstructed
    · cases free.1.symm.trans faulted
    · exact free.2.folder obstructed
  | cut folder faulted => exact .inr ⟨fun free => (by cases free.1.symm.trans faulted), rfl, rfl⟩
  | unwritten folder draft => exact .inr ⟨fun free => free.2.draft draft, rfl, rfl⟩
  | unmoved folder draft stuck =>
    refine .inr ⟨fun free => ?_, rfl, rfl⟩
    rcases stuck with faulted | ⟨-, scores⟩
    · cases free.1.symm.trans faulted
    · exact free.2.scores scores
  | moved unhindered => exact .inl ⟨unhindered, rfl⟩

theorem save_of_writable {disk : Disk} (h : disk.Writable) (bytes : List UInt8) :
    disk.save none bytes = (true, saved bytes) := by
  obtain ⟨-, done⟩ | ⟨hindered, -⟩ := save_cases none bytes disk
  · exact done
  · exact absurd ⟨rfl, h⟩ hindered

theorem writable_saved (bytes : List UInt8) : (saved bytes).Writable :=
  ⟨by simp [saved], by simp [saved], by simp [saved]⟩

end Disk

namespace ScoreFile

open ScoreBook (Storable)

theorem record_of_writable {f : ScoreFile} (writable : f.disk.Writable) (level strokes : Nat) :
    (f.record level strokes).1 = .ok (f.book.record level strokes).1 ∧
      (f.record level strokes).2.book = (f.book.record level strokes).2 ∧
      (f.record level strokes).2.disk.Writable := by
  unfold record recordWith
  split
  · rename_i kept unimproved
    rw [unimproved, ScoreBook.eq_of_record unimproved]
    exact ⟨rfl, rfl, writable⟩
  · rename_i book improved
    rw [improved, Disk.save_of_writable writable]
    exact ⟨rfl, rfl, Disk.writable_saved _⟩

/-- While nothing stands in the way of saving, a file keeps scores as a book does. -/
theorem faithful : ScoreStore.Faithful ScoreFile book (·.disk.Writable) where
  record_ok level strokes _ writable := (record_of_writable writable level strokes).1
  record_book level strokes _ writable := (record_of_writable writable level strokes).2.1
  record_sound level strokes _ writable := (record_of_writable writable level strokes).2.2
  best _ _ _ := rfl

/-! ## Memory and disk -/

/-- The disk holds what is in memory: opening the file gives it back. -/
def Saved (f : ScoreFile) : Prop := ofDisk f.disk = .ok f

theorem saved_iff {f : ScoreFile} :
    f.Saved ↔ (f.disk.scores = .absent ∧ f.book = Table.empty) ∨
      ∃ bytes, f.disk.scores = .file bytes ∧ ScoreBook.ofBytes bytes = .ok f.book := by
  obtain ⟨book, disk⟩ := f
  unfold Saved ofDisk
  dsimp only
  cases found : disk.scores with
  | absent => simp [eq_comm]
  | folder => simp
  | file bytes => cases read : ScoreBook.ofBytes bytes <;> simp [Except.map, read]

theorem disk_of_ofDisk {disk : Disk} {f : ScoreFile} (h : ofDisk disk = .ok f) : f.disk = disk := by
  unfold ofDisk at h
  split at h
  · cases h
    rfl
  · cases h
  · rename_i bytes found
    cases read : ScoreBook.ofBytes bytes with
    | error fault =>
      rw [read] at h
      cases h
    | ok book =>
      rw [read] at h
      cases h
      rfl

theorem saved_of_ofDisk {disk : Disk} {f : ScoreFile} (h : ofDisk disk = .ok f) : f.Saved := by
  rw [Saved, disk_of_ofDisk h, h]

theorem Saved.storable {f : ScoreFile} (h : f.Saved) : f.book.Storable := by
  rcases saved_iff.mp h with ⟨-, empty⟩ | ⟨bytes, -, read⟩
  · rw [empty]
    exact ScoreBook.storable_empty
  · exact ScoreBook.storable_of_ofBytes read

theorem Saved.of_scores {f f' : ScoreFile} (h : f.Saved) (disk : f'.disk.scores = f.disk.scores)
    (book : f'.book = f.book) : f'.Saved := by
  rw [saved_iff, disk, book]
  exact saved_iff.mp h

/-- Whether a record is saved, fails or is no better, memory and disk still agree. -/
theorem Saved.recordWith {f : ScoreFile} (h : f.Saved) (fault : Option Disk.Fault)
    {level strokes : Nat} (small : level ≤ countLimit) (positive : 0 < strokes)
    (few : strokes ≤ countLimit) : (f.recordWith fault level strokes).2.Saved := by
  unfold ScoreFile.recordWith
  split
  · exact h
  · rename_i book improved
    have storable := h.storable.record small positive few
    rw [improved] at storable
    rcases f.disk.save_cases fault book.bytes with ⟨-, saved⟩ | ⟨-, failed, same⟩
    · rw [saved]
      exact saved_iff.mpr (.inr ⟨book.bytes, rfl, ScoreBook.ofBytes_bytes storable⟩)
    · have back := ScoreBook.restore_record f.book level strokes
      rw [improved] at back
      split
      · rename_i done
        rw [done] at failed
        cases failed
      · rename_i done
        rw [done] at same
        exact h.of_scores same back

end ScoreFile
end GridRunner
