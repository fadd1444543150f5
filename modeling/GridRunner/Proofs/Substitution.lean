import GridRunner.Substitution
import Mathlib.Data.List.Basic

/-! # Reading substitutions

A text is read as a substitution exactly if the pattern matches it, and its parts are the groups
that the pattern captures (`ofCommand?_eq_some_iff_matches`).  So it is read exactly if it is
spelled like a substitution, and no text spells two (`read_iff_spelled`).
-/

namespace GridRunner

namespace Pattern

variable {c : Char} {p q : Pattern} {text : List Char} {groups : List (List Char)}

theorem matches_char_iff : (char c).Matches text groups ↔ text = [c] ∧ groups = [] := by
  constructor
  · rintro ⟨⟩
    exact ⟨rfl, rfl⟩
  · rintro ⟨rfl, rfl⟩
    exact .char c

theorem matches_except_iff :
    (except c).Matches text groups ↔ (∃ d, d ≠ c ∧ text = [d]) ∧ groups = [] := by
  constructor
  · intro h
    cases h with
    | except other => exact ⟨⟨_, other, rfl⟩, rfl⟩
  · rintro ⟨⟨d, other, rfl⟩, rfl⟩
    exact .except other

theorem matches_seq_iff :
    (seq p q).Matches text groups ↔ ∃ first rest captured later, p.Matches first captured ∧
      q.Matches rest later ∧ text = first ++ rest ∧ groups = captured ++ later := by
  constructor
  · intro h
    cases h with
    | seq first rest => exact ⟨_, _, _, _, first, rest, rfl, rfl⟩
  · rintro ⟨first, rest, captured, later, h, h', rfl, rfl⟩
    exact .seq h h'

theorem matches_char_seq_iff :
    (seq (char c) q).Matches text groups ↔ ∃ rest, q.Matches rest groups ∧ text = c :: rest := by
  simp only [matches_seq_iff, matches_char_iff]
  constructor
  · rintro ⟨_, rest, _, later, ⟨rfl, rfl⟩, h, rfl, rfl⟩
    exact ⟨rest, h, rfl⟩
  · rintro ⟨rest, h, rfl⟩
    exact ⟨[c], rest, [], groups, ⟨rfl, rfl⟩, h, rfl, rfl⟩

theorem matches_group_iff :
    (group p).Matches text groups ↔ ∃ inner, p.Matches text inner ∧ groups = text :: inner := by
  constructor
  · intro h
    cases h with
    | group inside => exact ⟨_, inside, rfl⟩
  · rintro ⟨inner, inside, rfl⟩
    exact .group inside

theorem of_matches_many_except (h : (many (except c)).Matches text groups) :
    text ≠ [] ∧ c ∉ text ∧ groups = [] := by
  generalize repeated : many (except c) = r at h
  induction h with
  | char | except | seq | group => cases repeated
  | once one =>
    cases repeated
    obtain ⟨⟨d, other, rfl⟩, rfl⟩ := matches_except_iff.mp one
    exact ⟨by simp, by simpa using other.symm, rfl⟩
  | more one _ _ later =>
    cases repeated
    obtain ⟨⟨d, other, rfl⟩, rfl⟩ := matches_except_iff.mp one
    obtain ⟨-, free, rfl⟩ := later rfl
    exact ⟨by simp, by simpa using ⟨other.symm, free⟩, rfl⟩

theorem matches_many_except_iff :
    (many (except c)).Matches text groups ↔ text ≠ [] ∧ c ∉ text ∧ groups = [] := by
  refine ⟨of_matches_many_except, ?_⟩
  rintro ⟨nonempty, free, rfl⟩
  induction text with
  | nil => exact absurd rfl nonempty
  | cons d rest ih =>
    obtain ⟨other, free⟩ := not_or.mp (mt List.mem_cons.mpr free)
    have one : (except c).Matches [d] [] := .except (Ne.symm other)
    cases rest with
    | nil => exact .once one
    | cons e rest => exact .more one (ih (by simp) free)

end Pattern

namespace Substitution

/-- A text that can stand between two slashes. -/
def IsField (text : String) : Prop := text ≠ "" ∧ '/' ∉ text.toList

instance : DecidablePred IsField := fun text =>
  inferInstanceAs (Decidable (text ≠ "" ∧ '/' ∉ text.toList))

def WellFormed (s : Substitution) : Prop := IsField s.target ∧ IsField s.replacement

/-! ## Fields -/

theorem isField_iff {text : String} : IsField text ↔ text.toList ≠ [] ∧ '/' ∉ text.toList := by
  rw [IsField, ne_eq, ne_eq, ← String.toList_inj, String.toList_empty]

theorem bne_slash {field : List Char} (free : '/' ∉ field) : ∀ c ∈ field, (c != '/') = true :=
  fun _ member => bne_iff_ne.mpr (ne_of_mem_of_not_mem member free)

theorem takeWhile_slash {field rest : List Char} (free : '/' ∉ field) :
    (field ++ '/' :: rest).takeWhile (· != '/') = field := by
  rw [List.takeWhile_append_of_pos (bne_slash free)]
  simp

theorem dropWhile_slash {field rest : List Char} (free : '/' ∉ field) :
    (field ++ '/' :: rest).dropWhile (· != '/') = '/' :: rest := by
  rw [List.dropWhile_append_of_pos (bne_slash free)]
  simp

theorem not_mem_takeWhile_slash (text : List Char) : '/' ∉ text.takeWhile (· != '/') := by
  intro member
  have passed := List.all_eq_true.mp (List.all_takeWhile (p := (· != '/')) (l := text)) _ member
  simp at passed

theorem field?_eq_some_iff {text field rest : List Char} :
    field? text = some (field, rest) ↔
      text = field ++ '/' :: rest ∧ field ≠ [] ∧ '/' ∉ field := by
  unfold field?
  constructor
  · intro read
    have whole := List.takeWhile_append_dropWhile (p := (· != '/')) (l := text)
    have free := not_mem_takeWhile_slash text
    split at read
    · cases read
    · rename_i front back taken dropped nonempty
      cases read
      rw [dropped] at whole
      exact ⟨whole.symm, nonempty, free⟩
    · cases read
  · rintro ⟨rfl, nonempty, free⟩
    rw [takeWhile_slash free, dropWhile_slash free]
    cases field with
    | nil => exact absurd rfl nonempty
    | cons c more => rfl

/-! ## Whole commands -/

theorem toList_command (s : Substitution) :
    s.command.toList =
      's' :: '/' :: (s.target.toList ++ '/' :: (s.replacement.toList ++ ['/', 'g'])) := by
  simp [command]

theorem matches_field_iff {text : List Char} {groups : List (List Char)} :
    field.Matches text groups ↔ (text ≠ [] ∧ '/' ∉ text) ∧ groups = [text] := by
  rw [field, Pattern.matches_group_iff]
  simp only [Pattern.matches_many_except_iff]
  constructor
  · rintro ⟨inner, ⟨nonempty, free, rfl⟩, rfl⟩
    exact ⟨⟨nonempty, free⟩, rfl⟩
  · rintro ⟨⟨nonempty, free⟩, rfl⟩
    exact ⟨[], ⟨nonempty, free, rfl⟩, rfl⟩

theorem matches_field_seq_iff {q : Pattern} {text : List Char} {groups : List (List Char)} :
    (Pattern.seq field q).Matches text groups ↔ ∃ value rest later,
      (value ≠ [] ∧ '/' ∉ value) ∧ q.Matches rest later ∧ text = value ++ rest ∧
        groups = value :: later := by
  simp only [Pattern.matches_seq_iff, matches_field_iff]
  constructor
  · rintro ⟨value, rest, _, later, ⟨h, rfl⟩, h', rfl, rfl⟩
    exact ⟨value, rest, later, h, h', rfl, rfl⟩
  · rintro ⟨value, rest, later, h, h', rfl, rfl⟩
    exact ⟨value, rest, [value], later, ⟨h, rfl⟩, h', rfl, rfl⟩

/-- What the pattern matches, and the two groups that it captures. -/
theorem matches_pattern_iff {text : List Char} {groups : List (List Char)} :
    pattern.Matches text groups ↔ ∃ target replacement,
      (target ≠ [] ∧ '/' ∉ target) ∧ (replacement ≠ [] ∧ '/' ∉ replacement) ∧
        groups = [target, replacement] ∧
        text = 's' :: '/' :: (target ++ '/' :: (replacement ++ ['/', 'g'])) := by
  simp only [pattern, Pattern.matches_char_seq_iff, matches_field_seq_iff,
    Pattern.matches_char_iff]
  constructor
  · rintro ⟨_, ⟨_, ⟨target, _, _, first, ⟨_, ⟨replacement, _, _, second, ⟨_, ⟨rfl, rfl⟩, rfl⟩,
      rfl, rfl⟩, rfl⟩, rfl, rfl⟩, rfl⟩, rfl⟩
    exact ⟨target, replacement, first, second, rfl, rfl⟩
  · rintro ⟨target, replacement, first, second, rfl, rfl⟩
    exact ⟨_, ⟨_, ⟨target, _, _, first, ⟨_, ⟨replacement, _, _, second, ⟨_, ⟨rfl, rfl⟩, rfl⟩,
      rfl, rfl⟩, rfl⟩, rfl, rfl⟩, rfl⟩, rfl⟩

/-- A text is read as the two groups that the pattern captures, and as nothing if it does not
match. -/
theorem ofCommand?_eq_some_iff_matches {text : String} {s : Substitution} :
    ofCommand? text = some s ↔
      pattern.Matches text.toList [s.target.toList, s.replacement.toList] := by
  rw [matches_pattern_iff]
  constructor
  · intro read
    unfold ofCommand? at read
    split at read
    · rename_i body spelled
      split at read
      · rename_i target rest first
        split at read
        · rename_i replacement second
          cases read
          obtain ⟨rfl, target_field⟩ := field?_eq_some_iff.mp first
          obtain ⟨rfl, replacement_field⟩ := field?_eq_some_iff.mp second
          exact ⟨target, replacement, target_field, replacement_field, by simp, spelled⟩
        · cases read
      · cases read
    · cases read
  · rintro ⟨target, replacement, target_field, replacement_field, groups, spelled⟩
    obtain ⟨rfl, rfl⟩ : s.target.toList = target ∧ s.replacement.toList = replacement := by
      simpa using groups
    have first : field? (s.target.toList ++ '/' :: (s.replacement.toList ++ ['/', 'g'])) =
        some (s.target.toList, s.replacement.toList ++ ['/', 'g']) :=
      field?_eq_some_iff.mpr ⟨rfl, target_field⟩
    have second : field? (s.replacement.toList ++ ['/', 'g']) =
        some (s.replacement.toList, ['g']) :=
      field?_eq_some_iff.mpr ⟨rfl, replacement_field⟩
    unfold ofCommand?
    rw [spelled]
    simp [first, second]

theorem ofCommand?_eq_some_iff {text : String} {s : Substitution} :
    ofCommand? text = some s ↔ s.WellFormed ∧ s.command = text := by
  rw [ofCommand?_eq_some_iff_matches, matches_pattern_iff, WellFormed, isField_iff, isField_iff,
    ← String.toList_inj, toList_command]
  constructor
  · rintro ⟨target, replacement, target_field, replacement_field, groups, spelled⟩
    obtain ⟨rfl, rfl⟩ : s.target.toList = target ∧ s.replacement.toList = replacement := by
      simpa using groups
    exact ⟨⟨target_field, replacement_field⟩, spelled.symm⟩
  · rintro ⟨⟨target, replacement⟩, spelled⟩
    exact ⟨_, _, target, replacement, rfl, spelled.symm⟩

theorem ofCommand?_eq_none_iff {text : String} :
    ofCommand? text = none ↔ ∀ s : Substitution, s.WellFormed → s.command ≠ text := by
  rw [Option.eq_none_iff_forall_not_mem]
  simp only [Option.mem_def, ofCommand?_eq_some_iff, not_and, ne_eq]

/-- One text spells one substitution. -/
theorem WellFormed.eq_of_command {s s' : Substitution} (h : s.WellFormed) (h' : s'.WellFormed)
    (same : s.command = s'.command) : s = s' := by
  have read : ofCommand? s'.command = some s := ofCommand?_eq_some_iff.mpr ⟨h, same⟩
  rw [ofCommand?_eq_some_iff.mpr ⟨h', rfl⟩] at read
  exact (Option.some.inj read).symm

/-! ## What is read -/

/-- A text is read as a substitution if and only if it spells that substitution with fields that
are not empty and hold no slash, and as nothing if it is no such spelling.  So what is read spells
the text again, and no text is the spelling of two. -/
theorem read_iff_spelled (text : String) :
    (∀ target replacement : String, ofCommand? text = some ⟨target, replacement⟩ ↔
      IsField target ∧ IsField replacement ∧
        text = "s/" ++ target ++ "/" ++ replacement ++ "/g") ∧
    (ofCommand? text = none ↔ ∀ target replacement : String,
      IsField target → IsField replacement →
        text ≠ "s/" ++ target ++ "/" ++ replacement ++ "/g") ∧
    (∀ s, ofCommand? text = some s → s.command = text) ∧
    ∀ s s' : Substitution, s.WellFormed → s'.WellFormed → s.command = s'.command → s = s' := by
  refine ⟨fun target replacement => ?_, ?_, fun s read => ?_, fun s s' => WellFormed.eq_of_command⟩
  · rw [ofCommand?_eq_some_iff, WellFormed, and_assoc, eq_comm]
    rfl
  · rw [ofCommand?_eq_none_iff]
    constructor
    · intro none target replacement h h' spelled
      exact none ⟨target, replacement⟩ ⟨h, h'⟩ spelled.symm
    · intro none s wellFormed spelled
      exact none s.target s.replacement wellFormed.1 wellFormed.2 spelled.symm
  · exact (ofCommand?_eq_some_iff.mp read).2

/-- Fields may hold line breaks and any letter, but nothing may follow the last one. -/
theorem read_iff_spelled_line_breaks :
    let s : Substitution := ⟨"é\n", "gλ"⟩
    s.WellFormed ∧ ofCommand? "s/é\n/gλ/g" = some s ∧ s.command = "s/é\n/gλ/g" ∧
      ofCommand? "s/é\n/gλ/gx" = none ∧ ofCommand? "s/é\n/gλ/g\n" = none ∧
      ofCommand? "s/é/\n/gλ/g" = none := by
  intro s
  have wellFormed : s.WellFormed := ⟨by decide +kernel, by decide +kernel⟩
  obtain ⟨reads, -, spelled, -⟩ := read_iff_spelled "s/é\n/gλ/g"
  have read := (reads "é\n" "gλ").mpr ⟨wellFormed.1, wellFormed.2, by decide +kernel⟩
  exact ⟨wellFormed, read, spelled s read, by decide +kernel, by decide +kernel, by decide +kernel⟩

end Substitution
end GridRunner
