import GridRunner.Proofs.Score.Store

/-! # Memory and disk

Whichever step of a save fails, the object in the score file is what is in memory, before and after
(`Agrees.attempt`).  It can be read again unless it tells of zero keystrokes, which a record does
not refuse and a reader does (`reopen_iff`).
-/

namespace GridRunner

namespace ScoreBook

/-- The object in some bytes, whether or not it tells of zero keystrokes. -/
def ofObject? (bytes : List UInt8) : Option ScoreBook :=
  (Reader.object? (bytes.map fun byte => Char.ofNat byte.toNat)).map Table.ofList

theorem ofBytes_eq (bytes : List UInt8) :
    ofBytes bytes =
      match ofObject? bytes with
      | none => .error .malformed
      | some book =>
        match book.zeroLevel? with
        | some level => .error (.zeroStrokes level)
        | none => .ok book := by
  unfold ofBytes ofText ofObject?
  cases Reader.object? (bytes.map fun byte => Char.ofNat byte.toNat) <;> rfl

def Fits (book : ScoreBook) : Prop := ∀ entry ∈ book.entries, Reader.Fits entry

theorem Fits.insert {book : ScoreBook} (h : book.Fits) {level strokes : Nat}
    (small : level ≤ countLimit) (few : strokes ≤ countLimit) :
    Fits (book.insert level strokes) := by
  intro entry member
  rcases Table.mem_insert member with rfl | old
  · exact ⟨small, few⟩
  · exact h entry old

theorem Storable.fits {book : ScoreBook} (h : book.Storable) : book.Fits := fun entry member =>
  ⟨(h entry member).1, (h entry member).2.2⟩

/-- What is written of a book is the object of that book. -/
theorem ofObject?_bytes {book : ScoreBook} (h : book.Fits) : ofObject? book.bytes = some book := by
  have read : Reader.object? book.text = some book.entries := Reader.object?_listing h
  rw [ofObject?, map_ofNat_bytes, read, Option.map_some, Table.ofList_entries]

/-- The level that is named is the least of those with zero keystrokes. -/
theorem least_of_zeroLevel? {book : ScoreBook} {level : Nat} (h : book.zeroLevel? = some level) :
    book.get? level = some 0 ∧ ∀ n, book.get? n = some 0 → level ≤ n := by
  obtain ⟨⟨level', strokes⟩, found, same⟩ := Option.map_eq_some_iff.mp h
  obtain ⟨zero, before, after, parts, earlier⟩ := List.find?_eq_some_iff_append.mp found
  simp only [decide_eq_true_eq] at zero
  subst zero same
  refine ⟨Table.get?_eq_some_iff.mpr (by simp [parts]), ?_⟩
  intro n stored
  have member := Table.get?_eq_some_iff.mp stored
  have sorted := book.sorted
  rw [parts] at member sorted
  rcases List.mem_append.mp member with front | back
  · exact absurd (earlier _ front) (by simp)
  · rcases List.mem_cons.mp back with same | later
    · cases same
      exact Nat.le_refl _
    · have above := List.pairwise_cons.mp (List.pairwise_append.mp sorted).2.1
      exact Nat.le_of_lt (above.1 _ later)

theorem zeroLevel?_eq_some_iff {book : ScoreBook} {level : Nat} :
    book.zeroLevel? = some level ↔
      book.get? level = some 0 ∧ ∀ n, book.get? n = some 0 → level ≤ n := by
  refine ⟨least_of_zeroLevel?, ?_⟩
  rintro ⟨stored, least⟩
  cases found : book.zeroLevel? with
  | none =>
    have member := Table.get?_eq_some_iff.mp stored
    exact absurd rfl (zeroLevel?_eq_none_iff.mp found _ member)
  | some level' =>
    obtain ⟨stored', least'⟩ := least_of_zeroLevel? found
    rw [Nat.le_antisymm (least level' stored') (least' level stored)]

theorem zeroLevel?_eq_none_iff_get? {book : ScoreBook} :
    book.zeroLevel? = none ↔ ∀ n, book.get? n ≠ some 0 := by
  rw [zeroLevel?_eq_none_iff]
  constructor
  · intro nonzero n stored
    exact nonzero _ (Table.get?_eq_some_iff.mp stored) rfl
  · rintro nonzero ⟨n, strokes⟩ member rfl
    exact nonzero n (Table.get?_eq_some_iff.mpr member)

theorem get?_record_eq_zero_iff {book : ScoreBook} {level strokes n : Nat} :
    (book.record level strokes).2.get? n = some 0 ↔
      book.get? n = some 0 ∨ (level = n ∧ strokes = 0) := by
  rw [get?_record]
  by_cases same : n = level
  · subst same
    rw [if_pos rfl, List.min?_eq_some_iff]
    cases book.get? n <;> simp [eq_comm]
  · have other : ¬ level = n := Ne.symm same
    simp [same, other]

end ScoreBook

/-- The object in the score file; a missing file stands for the empty one. -/
def Disk.object? (disk : Disk) : Option ScoreBook :=
  match disk.scores with
  | .absent => some Table.empty
  | .file bytes => ScoreBook.ofObject? bytes
  | .folder => none

namespace ScoreFile

/-- Memory and disk hold the same, in numbers of 32 bits. -/
structure Agrees (f : ScoreFile) : Prop where
  object : f.disk.object? = some f.book
  fits : f.book.Fits

/-- A file that agrees with memory is read again, or refused for the first level with zero
keystrokes. -/
theorem Agrees.ofDisk {f : ScoreFile} (h : f.Agrees) :
    ofDisk f.disk =
      match f.book.zeroLevel? with
      | some level => .error (.zeroStrokes level)
      | none => .ok f := by
  obtain ⟨book, disk⟩ := f
  have object := h.object
  unfold Disk.object? at object
  unfold ScoreFile.ofDisk
  dsimp only at object ⊢
  cases found : disk.scores with
  | absent =>
    rw [found] at object
    cases object
    rfl
  | folder =>
    rw [found] at object
    cases object
  | file bytes =>
    rw [found] at object
    dsimp only at object ⊢
    rw [ScoreBook.ofBytes_eq, object]
    cases zero : book.zeroLevel? <;> simp [Except.map, zero]

theorem agrees_of_ofDisk {disk : Disk} {f : ScoreFile} (h : ofDisk disk = .ok f) : f.Agrees := by
  have saved := saved_of_ofDisk h
  refine ⟨?_, saved.storable.fits⟩
  unfold Disk.object?
  rcases saved_iff.mp saved with ⟨absent, empty⟩ | ⟨bytes, found, read⟩
  · rw [absent, empty]
  · rw [found]
    dsimp only
    rw [ScoreBook.ofBytes_eq] at read
    split at read
    · cases read
    · rename_i book object
      split at read
      · cases read
      · cases read
        exact object

/-! ## Records that may fail -/

structure Attempt where
  level : Nat
  strokes : Nat
  fault : Option Disk.Fault := none

def Attempt.Fits (a : Attempt) : Prop := a.level ≤ countLimit ∧ a.strokes ≤ countLimit

def attempt (f : ScoreFile) (a : Attempt) : Except ScoreError Bool × ScoreFile :=
  f.recordWith a.fault a.level a.strokes

def attempts (f : ScoreFile) (run : List Attempt) : ScoreFile :=
  run.foldl (fun f a => (f.attempt a).2) f

/-- What a record can come to. -/
inductive Settles (f : ScoreFile) (a : Attempt) : Except ScoreError Bool × ScoreFile → Prop
  | unimproved : ScoreBook.improves (f.book.get? a.level) a.strokes = false →
      Settles f a (.ok false, f)
  | saved {after : ScoreFile} : ScoreBook.improves (f.book.get? a.level) a.strokes = true →
      Disk.Unhindered a.fault f.disk → after.book = f.book.insert a.level a.strokes →
      after.disk.scores = .file after.book.bytes → Settles f a (.ok true, after)
  | failed {after : ScoreFile} : ScoreBook.improves (f.book.get? a.level) a.strokes = true →
      ¬ Disk.Unhindered a.fault f.disk → after.book = f.book →
      after.disk.scores = f.disk.scores → Settles f a (.error .io, after)

theorem settles_attempt (f : ScoreFile) (a : Attempt) : Settles f a (f.attempt a) := by
  unfold attempt recordWith
  cases better : ScoreBook.improves (f.book.get? a.level) a.strokes with
  | false =>
    have kept : f.book.record a.level a.strokes = (false, f.book) := by
      simp [ScoreBook.record, better]
    rw [kept]
    exact .unimproved better
  | true =>
    have improved : f.book.record a.level a.strokes = (true, f.book.insert a.level a.strokes) := by
      simp [ScoreBook.record, better]
    have back := f.book.restore_record a.level a.strokes
    rw [improved] at back ⊢
    obtain ⟨unhindered, done⟩ | ⟨hindered, undone, same⟩ :=
      f.disk.save_cases a.fault (ScoreBook.bytes (f.book.insert a.level a.strokes))
    · dsimp only
      rw [done]
      exact .saved better unhindered rfl rfl
    · dsimp only
      split
      · rename_i saved
        rw [saved] at undone
        cases undone
      · rename_i failed
        rw [failed] at same
        exact .failed better hindered back same

theorem Agrees.attempt {f : ScoreFile} (h : f.Agrees) {a : Attempt} (fits : a.Fits) :
    (f.attempt a).2.Agrees := by
  have settles := settles_attempt f a
  generalize f.attempt a = result at settles
  cases settles with
  | unimproved => exact h
  | saved better unhindered memory file =>
    have fits' := h.fits.insert fits.1 fits.2
    rw [← memory] at fits'
    refine ⟨?_, fits'⟩
    rw [Disk.object?, file]
    exact ScoreBook.ofObject?_bytes fits'
  | failed better hindered memory file =>
    refine ⟨?_, memory ▸ h.fits⟩
    rw [Disk.object?, file, memory]
    exact h.object

theorem Agrees.attempts {f : ScoreFile} (h : f.Agrees) {run : List Attempt}
    (fits : ∀ a ∈ run, a.Fits) : (f.attempts run).Agrees := by
  induction run generalizing f with
  | nil => exact h
  | cons a rest ih =>
    obtain ⟨now, later⟩ := List.forall_mem_cons.mp fits
    exact ih (h.attempt now) later

/-- However records and failures alternate on a file that could be opened, the next record is saved
as a whole or leaves memory and file as they are, and the file always holds what is in memory. -/
theorem attempts_agree {disk : Disk} {f : ScoreFile} (opened : ofDisk disk = .ok f)
    {run : List Attempt} (fits : ∀ a ∈ run, a.Fits) :
    let now := f.attempts run
    ScoreListing.all now = (.ok now.book, now) ∧
    (∀ level, ScoreStore.best level now = (.ok (now.book.get? level), now)) ∧
    now.disk.object? = some now.book ∧
    ∀ next, Settles now next (now.attempt next) := by
  have agrees := (agrees_of_ofDisk opened).attempts fits
  exact ⟨rfl, fun _ => rfl, agrees.object, settles_attempt _⟩

/-- A draft that cannot be moved and one cut short, before a record of the first level succeeds. -/
theorem attempts_agree_after_failures :
    let disk : Disk := { scores := .file [0x7b, 0x22, 0x37, 0x22, 0x3a, 0x33, 0x7d] }
    let file : ScoreFile := { book := Table.empty.insert 7 3, disk }
    let run : List Attempt := [⟨7, 2, some .moveDraft⟩, ⟨8, 4, some (.writeDraft (.file [0x7b]))⟩,
      ⟨7, 3, none⟩, ⟨7, 0, none⟩]
    ofDisk disk = .ok file ∧ (∀ a ∈ run, a.level ≤ countLimit ∧ a.strokes ≤ countLimit) ∧
      (file.attempts run).book = Table.empty.insert 7 0 ∧
      (file.attempts run).disk.object? = some (file.attempts run).book ∧
      Settles (file.attempts run) ⟨9, 1, some .makeFolder⟩
        ((file.attempts run).attempt ⟨9, 1, some .makeFolder⟩) := by
  intro disk file run
  have opened : ofDisk disk = .ok file := by rfl
  have fits : ∀ a ∈ run, a.level ≤ countLimit ∧ a.strokes ≤ countLimit := by decide
  obtain ⟨-, -, object, next⟩ := attempts_agree opened fits
  exact ⟨opened, fits, by decide +kernel, object, next _⟩

/-! ## Opening the file again -/

/-- A level holds zero keystrokes if it did at first, or if such a run was recorded for it. -/
theorem attempts_zero_iff {f : ScoreFile} (writable : f.disk.Writable) {run : List Attempt}
    (calm : ∀ a ∈ run, a.fault = none) (n : Nat) :
    (f.attempts run).book.get? n = some 0 ↔
      f.book.get? n = some 0 ∨ ∃ a ∈ run, a.level = n ∧ a.strokes = 0 := by
  induction run generalizing f with
  | nil => simp [attempts]
  | cons a rest ih =>
    obtain ⟨now, later⟩ := List.forall_mem_cons.mp calm
    have recorded : f.attempt a = f.record a.level a.strokes := by rw [attempt, now, record]
    obtain ⟨-, book, writable'⟩ := record_of_writable writable a.level a.strokes
    rw [← recorded] at book writable'
    have rest' := ih writable' later
    rw [book, ScoreBook.get?_record_eq_zero_iff, or_assoc] at rest'
    simp only [List.mem_cons, or_and_right, exists_or, exists_eq_left]
    exact rest'

/-- Everything recorded is there when the file is opened again, exactly if no run was recorded with
zero keystrokes.  Otherwise the file is refused, for the first level with such a run. -/
theorem reopen_iff {disk : Disk} {f : ScoreFile} (opened : ofDisk disk = .ok f)
    (writable : disk.Writable) {run : List Attempt} (fits : ∀ a ∈ run, a.Fits)
    (calm : ∀ a ∈ run, a.fault = none) :
    (ofDisk (f.attempts run).disk = .ok (f.attempts run) ↔ ∀ a ∈ run, 0 < a.strokes) ∧
    ∀ level, ofDisk (f.attempts run).disk = .error (.zeroStrokes level) ↔
      (∃ a ∈ run, a.level = level ∧ a.strokes = 0) ∧
        ∀ a ∈ run, a.strokes = 0 → level ≤ a.level := by
  have agrees := (agrees_of_ofDisk opened).attempts fits
  have nonzero : ∀ n, f.book.get? n ≠ some 0 := by
    intro n stored
    have member := Table.get?_eq_some_iff.mp stored
    exact Nat.lt_irrefl 0 ((saved_of_ofDisk opened).storable _ member).2.1
  rw [← disk_of_ofDisk opened] at writable
  have zero : ∀ n, (f.attempts run).book.get? n = some 0 ↔
      ∃ a ∈ run, a.level = n ∧ a.strokes = 0 := by
    intro n
    rw [attempts_zero_iff writable calm n]
    simp [nonzero n]
  refine ⟨?_, ?_⟩
  · have kept : ofDisk (f.attempts run).disk = .ok (f.attempts run) ↔
        (f.attempts run).book.zeroLevel? = none := by
      rw [agrees.ofDisk]
      cases (f.attempts run).book.zeroLevel? <;> simp
    rw [kept, ScoreBook.zeroLevel?_eq_none_iff_get?]
    simp only [ne_eq, zero, not_exists, not_and, Nat.pos_iff_ne_zero]
    exact ⟨fun free a member => free _ a member rfl, fun free n a member _ => free a member⟩
  · intro level
    have refused : ofDisk (f.attempts run).disk = .error (.zeroStrokes level) ↔
        (f.attempts run).book.zeroLevel? = some level := by
      rw [agrees.ofDisk]
      cases (f.attempts run).book.zeroLevel? <;> simp
    rw [refused, ScoreBook.zeroLevel?_eq_some_iff, zero]
    simp only [zero]
    refine and_congr_right fun _ => ?_
    constructor
    · intro least a member free
      exact least _ ⟨a, member, rfl, free⟩
    · intro least n found
      obtain ⟨a, member, same, free⟩ := found
      rw [← same]
      exact least a member free

/-- Two levels with a run of zero keystrokes, the lower one recorded later. -/
theorem reopen_iff_two_zeros :
    let disk : Disk := { folder := .missing, draft := .file [] }
    let file : ScoreFile := { disk }
    let run : List Attempt := [{ level := 9, strokes := 0 }, { level := 3, strokes := 5 },
      { level := 4, strokes := 0 }]
    ofDisk disk = .ok file ∧ disk.Writable ∧
      (∀ a ∈ run, a.level ≤ countLimit ∧ a.strokes ≤ countLimit) ∧ (∀ a ∈ run, a.fault = none) ∧
      ofDisk (file.attempts run).disk = .error (.zeroStrokes 4) ∧
      ofDisk (file.attempts [{ level := 3, strokes := 5 }]).disk =
        .ok (file.attempts [{ level := 3, strokes := 5 }]) := by
  intro disk file run
  have opened : ofDisk disk = .ok file := rfl
  have writable : disk.Writable := ⟨by decide, by decide, by decide⟩
  have fits : ∀ a ∈ run, a.level ≤ countLimit ∧ a.strokes ≤ countLimit := by decide
  have calm : ∀ a ∈ run, a.fault = none := by decide
  refine ⟨opened, writable, fits, calm, ?_, ?_⟩
  · exact ((reopen_iff opened writable fits calm).2 4).mpr (by decide)
  · exact (reopen_iff opened writable (fun a member => fits a (by simp_all [run]))
      (fun a member => calm a (by simp_all [run]))).1.mpr (by decide)

/-- A store takes a run of zero keystrokes on an empty disk, and what it writes is refused. -/
theorem reopen_refused_of_zero :
    ∃ (f after : ScoreFile), ofDisk {} = .ok f ∧ f.disk.Writable ∧
      f.record 1 0 = (.ok true, after) ∧ ofDisk after.disk = .error (.zeroStrokes 1) := by
  refine ⟨{ disk := {} }, ({ disk := {} } : ScoreFile).attempts [{ level := 1, strokes := 0 }], rfl,
    ⟨by decide, by decide, by decide⟩, ?_, ?_⟩
  · rfl
  · rfl

end ScoreFile
end GridRunner
