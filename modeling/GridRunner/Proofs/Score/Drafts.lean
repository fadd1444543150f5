import GridRunner.Proofs.Score.Agreement
import Mathlib.Data.List.Induction

/-! # Drafts left behind

A record that fails takes its run back from memory and nothing from the disk.  So it leaves a draft
exactly if the draft is written and then not moved (`draft_attempt_iff`), as it is wherever a folder
bears the name of the score file, and at no other place (`draft_attempts_iff`).
-/

namespace GridRunner

namespace ScoreFile

/-! ## One record -/

/-- The record writes its draft, at least in part, and does not move it. -/
structure Strands (f : ScoreFile) (a : Attempt) : Prop where
  improves : ScoreBook.improves (f.book.get? a.level) a.strokes = true
  folder : f.disk.folder ≠ .obstructed
  stuck : (∃ left, left ≠ .absent ∧ a.fault = some (.writeDraft left)) ∨
    a.fault = some .moveDraft ∨ (a.fault = none ∧ f.disk.scores = .folder)

section Attempt

variable {f : ScoreFile} {a : Attempt}

/-- Only a record that improves its level touches the disk. -/
theorem disk_attempt (f : ScoreFile) (a : Attempt) :
    (f.attempt a).2.disk =
      if ScoreBook.improves (f.book.get? a.level) a.strokes then
        (f.disk.save a.fault (ScoreBook.bytes (f.book.insert a.level a.strokes))).2
      else f.disk := by
  unfold attempt recordWith ScoreBook.record
  cases ScoreBook.improves (f.book.get? a.level) a.strokes with
  | false => rfl
  | true =>
    simp only [if_true]
    split
    · rename_i disk saved
      rw [saved]
    · rename_i disk failed
      rw [failed]

theorem draft_attempt_iff (clean : f.disk.draft = .absent) :
    (f.attempt a).2.disk.draft = .absent ↔ ¬ f.Strands a := by
  rw [disk_attempt]
  by_cases better : ScoreBook.improves (f.book.get? a.level) a.strokes = true
  · rw [if_pos better]
    have saves := f.disk.save_saves a.fault (ScoreBook.bytes (f.book.insert a.level a.strokes))
    generalize f.disk.save a.fault _ = result at saves
    cases saves with
    | shut shut =>
      refine iff_of_true clean fun strands => ?_
      rcases shut with faulted | obstructed
      · have stuck := strands.stuck
        simp [faulted] at stuck
      · exact strands.folder obstructed
    | @cut left folder faulted =>
      constructor
      · intro gone strands
        have stuck := strands.stuck
        simp only [faulted, Option.some.injEq, Disk.Fault.writeDraft.injEq, reduceCtorEq, false_and,
          or_false, exists_eq_right'] at stuck
        exact stuck gone
      · intro neat
        exact Decidable.of_not_not fun remains =>
          neat ⟨better, folder, .inl ⟨left, remains, faulted⟩⟩
    | unwritten folder draft =>
      rw [clean] at draft
      cases draft
    | unmoved folder draft stuck =>
      exact iff_of_false PathState.noConfusion fun neat => neat ⟨better, folder, .inr stuck⟩
    | moved unhindered =>
      refine iff_of_true rfl fun strands => ?_
      have stuck := strands.stuck
      simp [unhindered.1, unhindered.2.scores] at stuck
  · rw [if_neg better]
    exact iff_of_true clean fun strands => better strands.improves

/-- A file in the way of the folder keeps every record off the disk. -/
theorem disk_attempt_of_obstructed (obstructed : f.disk.folder = .obstructed) :
    (f.attempt a).2.disk = f.disk := by
  rw [disk_attempt]
  split
  · have saves := f.disk.save_saves a.fault (ScoreBook.bytes (f.book.insert a.level a.strokes))
    generalize f.disk.save a.fault _ = result at saves
    cases saves with
    | shut => rfl
    | cut folder => exact absurd obstructed folder
    | unwritten folder => exact absurd obstructed folder
    | unmoved folder => exact absurd obstructed folder
    | moved unhindered => exact absurd obstructed unhindered.2.folder
  · rfl

theorem scores_attempt_ne_folder (scores : f.disk.scores ≠ .folder) :
    (f.attempt a).2.disk.scores ≠ .folder := by
  have settles := settles_attempt f a
  generalize f.attempt a = result at settles
  cases settles with
  | unimproved => exact scores
  | saved better unhindered memory file =>
    rw [file]
    exact PathState.noConfusion
  | failed better hindered memory file =>
    rw [file]
    exact scores

end Attempt

/-! ## Runs of records -/

theorem attempts_concat (f : ScoreFile) (run : List Attempt) (a : Attempt) :
    f.attempts (run ++ [a]) = ((f.attempts run).attempt a).2 := by
  rw [attempts, List.foldl_append]
  rfl

/-- No record of a run leaves a draft exactly if none of them strands one. -/
theorem attempts_clean_iff {f : ScoreFile} (clean : f.disk.draft = .absent) (run : List Attempt) :
    (∀ earlier, earlier <+: run → (f.attempts earlier).disk.draft = .absent) ↔
      ∀ earlier a, earlier ++ [a] <+: run → ¬ (f.attempts earlier).Strands a := by
  constructor
  · intro neat earlier a within
    have now := neat earlier ((List.prefix_append earlier [a]).trans within)
    have next := neat (earlier ++ [a]) within
    rw [attempts_concat] at next
    exact (draft_attempt_iff now).mp next
  · intro neat earlier
    induction earlier using List.reverseRecOn with
    | nil => exact fun _ => clean
    | append_singleton earlier a ih =>
      intro within
      have now := ih ((List.prefix_append earlier [a]).trans within)
      rw [attempts_concat]
      exact (draft_attempt_iff now).mpr (neat earlier a within)

/-- A place at which no draft is stranded as long as nothing fails for a reason of its own. -/
def Sheltered (f : ScoreFile) : Prop := f.disk.folder = .obstructed ∨ f.disk.scores ≠ .folder

theorem Sheltered.attempt {f : ScoreFile} (h : f.Sheltered) (a : Attempt) :
    (f.attempt a).2.Sheltered := by
  rcases h with obstructed | scores
  · exact .inl (by rw [disk_attempt_of_obstructed obstructed, obstructed])
  · exact .inr (scores_attempt_ne_folder scores)

theorem Sheltered.not_strands {f : ScoreFile} (h : f.Sheltered) {a : Attempt}
    (calm : a.fault = none) : ¬ f.Strands a := by
  intro strands
  rcases h with obstructed | scores
  · exact strands.folder obstructed
  · have stuck := strands.stuck
    simp [calm, scores] at stuck

theorem Sheltered.attempts {f : ScoreFile} (h : f.Sheltered) (clean : f.disk.draft = .absent)
    {run : List Attempt} (calm : ∀ a ∈ run, a.fault = none) :
    (f.attempts run).disk.draft = .absent := by
  induction run generalizing f with
  | nil => exact clean
  | cons a rest ih =>
    obtain ⟨now, later⟩ := List.forall_mem_cons.mp calm
    exact ih (h.attempt a) ((draft_attempt_iff clean).mpr (h.not_strands now)) later

/-- An empty store whose score file is a folder. -/
structure Barred (f : ScoreFile) : Prop where
  book : f.book = Table.empty
  folder : f.disk.folder ≠ .obstructed
  scores : f.disk.scores = .folder
  draft : f.disk.draft ≠ .folder

/-- Each record of such a store is an improvement, and leaves its draft. -/
theorem Barred.attempt {f : ScoreFile} (h : f.Barred) {a : Attempt} (calm : a.fault = none) :
    (f.attempt a).2.Barred ∧ (f.attempt a).2.disk.draft ≠ .absent := by
  have better : ScoreBook.improves (f.book.get? a.level) a.strokes = true := by
    rw [h.book]
    rfl
  have memory : (f.attempt a).2.book = f.book := by
    have settles := settles_attempt f a
    generalize f.attempt a = result at settles
    cases settles with
    | unimproved => rfl
    | saved better unhindered => exact absurd h.scores unhindered.2.scores
    | failed better hindered memory => exact memory
  have place := disk_attempt f a
  rw [if_pos better] at place
  have saves := f.disk.save_saves a.fault (ScoreBook.bytes (f.book.insert a.level a.strokes))
  generalize f.disk.save a.fault _ = result at saves place
  cases saves with
  | shut shut =>
    rcases shut with faulted | obstructed
    · cases calm.symm.trans faulted
    · exact absurd obstructed h.folder
  | cut folder faulted => cases calm.symm.trans faulted
  | unwritten folder draft => exact absurd draft h.draft
  | unmoved folder draft stuck =>
    refine ⟨⟨memory.trans h.book, ?_, ?_, ?_⟩, ?_⟩
    · rw [place]
      exact FolderState.noConfusion
    · rw [place]
      exact h.scores
    · rw [place]
      exact PathState.noConfusion
    · rw [place]
      exact PathState.noConfusion
  | moved unhindered => exact absurd h.scores unhindered.2.scores

theorem Barred.attempts {f : ScoreFile} (h : f.Barred) {run : List Attempt} (nonempty : run ≠ [])
    (calm : ∀ a ∈ run, a.fault = none) : (f.attempts run).disk.draft ≠ .absent := by
  have barred (earlier : List Attempt) (calm : ∀ a ∈ earlier, a.fault = none) :
      (f.attempts earlier).Barred := by
    induction earlier using List.reverseRecOn with
    | nil => exact h
    | append_singleton earlier a ih =>
      rw [attempts_concat]
      exact ((ih fun b member => calm b (by simp [member])).attempt (calm a (by simp))).1
  rcases run.eq_nil_or_concat with rfl | ⟨earlier, last, rfl⟩
  · exact absurd rfl nonempty
  rw [List.concat_eq_append] at calm ⊢
  rw [attempts_concat]
  exact ((barred earlier fun b member => calm b (by simp [member])).attempt
    (calm last (by simp))).2

/-! ## What a whole run leaves -/

/-- A store that begins without a draft keeps to that exactly as long as no record writes its draft
without moving it.  Where nothing fails for a reason of its own, that is up to the place alone: any
record leaves a draft if a folder bears the name of the score file, and none does elsewhere. -/
theorem draft_attempts_iff {disk : Disk} {f : ScoreFile}
    (begun : ofDisk disk = .ok f ∨ f = fresh disk) (clean : disk.draft = .absent)
    (run : List Attempt) :
    ((∀ earlier, earlier <+: run → (f.attempts earlier).disk.draft = .absent) ↔
      ∀ earlier a, earlier ++ [a] <+: run → ¬ (f.attempts earlier).Strands a) ∧
    (run ≠ [] → (∀ a ∈ run, a.fault = none) →
      ((f.attempts run).disk.draft = .absent ↔
        disk.folder = .obstructed ∨ disk.scores ≠ .folder)) := by
  have own : f.disk = disk := by
    rcases begun with opened | rfl
    · exact disk_of_ofDisk opened
    · rfl
  refine ⟨attempts_clean_iff (own ▸ clean) run,
    fun nonempty calm => ⟨fun gone => ?_, fun free => ?_⟩⟩
  · by_contra place
    obtain ⟨folder, scores⟩ := not_or.mp place
    have scores : disk.scores = .folder := Decidable.of_not_not scores
    have book : f.book = Table.empty := by
      rcases begun with opened | rfl
      · rw [ofDisk, scores] at opened
        cases opened
      · rfl
    have barred : f.Barred :=
      ⟨book, own ▸ folder, own ▸ scores, by rw [own, clean]; exact PathState.noConfusion⟩
    exact barred.attempts nonempty calm gone
  · have sheltered : f.Sheltered := by rwa [Sheltered, own]
    exact sheltered.attempts (own ▸ clean) calm

/-- Two records where the folder has to be made first, and two where a folder bears the name of the
score file. -/
theorem draft_attempts_iff_nested_and_folder :
    let run : List Attempt := [{ level := 2, strokes := 5 }, { level := 2, strokes := 3 }]
    let nested : Disk := { folder := .missing }
    let taken : Disk := { scores := .folder }
    (ofDisk nested = .ok (fresh nested) ∧ nested.draft = .absent ∧ run ≠ [] ∧
      (∀ a ∈ run, a.fault = none) ∧ ((fresh nested).attempts run).disk.draft = .absent) ∧
    (taken.draft = .absent ∧ ((fresh taken).attempts run).disk.draft ≠ .absent ∧
      ¬ ∀ earlier a, earlier ++ [a] <+: run → ¬ ((fresh taken).attempts earlier).Strands a) := by
  intro run nested taken
  have opened : ofDisk nested = .ok (fresh nested) := rfl
  have calm : ∀ a ∈ run, a.fault = none := by decide
  obtain ⟨-, elsewhere⟩ := draft_attempts_iff (.inl opened) rfl run
  have begun : ofDisk taken = .ok (fresh taken) ∨ fresh taken = fresh taken := .inr rfl
  obtain ⟨each, here⟩ := draft_attempts_iff begun rfl run
  have left : ((fresh taken).attempts run).disk.draft ≠ .absent := fun gone =>
    absurd ((here (by decide) calm).mp gone) (by decide)
  exact ⟨⟨opened, rfl, by decide, calm, (elsewhere (by decide) calm).mpr (by decide)⟩, rfl, left,
    fun neat => left (each.mpr neat run (List.prefix_refl run))⟩

/-- The folder that bears the name of the score file refuses the draft, which stays beside it. -/
theorem draft_left_by_refused_move :
    let taken : Disk := { scores := .folder }
    let after := ((fresh taken).record 1 5).2
    taken.draft = .absent ∧ ((fresh taken).record 1 5).1 = .error .io ∧
      after.book = Table.empty ∧ after.disk.draft ≠ .absent := by
  decide +kernel

end ScoreFile
end GridRunner
