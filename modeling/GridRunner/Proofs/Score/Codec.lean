import GridRunner.Proofs.Score.Agreement
import Mathlib.Data.List.Induction
import Mathlib.Data.List.TakeWhile
import Mathlib.Order.Bounds.Basic

/-! # What the reader of score files takes

A score file is a sequence of tokens with blanks or nothing in front of each (`Spaced`), and a
reader takes exactly the files whose tokens are those of a list of entries (`object?_eq_some_iff`).
The book is made of the last entry of every level, so rewriting a file that somebody edited by hand
loses nothing of it.
-/

namespace GridRunner.ScoreBook

/-! ## Numerals -/

theorem digitChar_sub_of_isDigit {c : Char} (digit : c.isDigit = true) :
    Nat.digitChar (c.toNat - '0'.toNat) = c := by
  obtain ⟨lower, upper⟩ := Char.isDigit_iff_toNat.mp digit
  have zero : '0'.toNat = 48 := rfl
  have nine : '9'.toNat = 57 := rfl
  apply Char.toNat_inj.mp
  rw [Nat.toNat_digitChar_of_lt_ten (by omega)]
  omega

/-- Digits without a leading zero are those of the number that they make. -/
theorem decimal_ofDigitChars {digits : List Char} (numeral : ∀ d ∈ digits, d.isDigit = true)
    (nonempty : digits ≠ []) (canonical : digits.head? = some '0' → digits.length = 1) :
    decimal (Nat.ofDigitChars 10 digits 0) = digits := by
  induction digits using List.reverseRecOn with
  | nil => exact absurd rfl nonempty
  | append_singleton front d ih =>
    obtain ⟨numeral, digit⟩ := List.forall_mem_append.mp numeral
    have last := digitChar_sub_of_isDigit (digit d (List.mem_singleton_self d))
    have small : d.toNat - '0'.toNat < 10 := by
      obtain ⟨-, upper⟩ := Char.isDigit_iff_toNat.mp (digit d (List.mem_singleton_self d))
      have zero : '0'.toNat = 48 := rfl
      have nine : '9'.toNat = 57 := rfl
      omega
    rw [Nat.ofDigitChars_append, Nat.ofDigitChars_cons, Nat.ofDigitChars_nil]
    by_cases alone : front = []
    · subst alone
      rw [Nat.ofDigitChars_nil, Nat.mul_zero, Nat.zero_add, decimal_of_lt_ten small, last]
      rfl
    · -- Further digits follow the first, so it is no zero and the number of those in front is none.
      have leads : front.head? ≠ some '0' := by
        intro zero
        have one := canonical (by rw [List.head?_append, zero]; rfl)
        rw [List.length_append, List.length_singleton] at one
        exact alone (List.length_eq_zero_iff.mp (Nat.succ.inj one))
      have shorter := ih numeral alone (fun zero => absurd zero leads)
      have positive : 0 < Nat.ofDigitChars 10 front 0 := by
        refine Nat.pos_of_ne_zero fun zero => leads ?_
        rw [← shorter, zero]
        rfl
      rw [decimal_of_ten_le (by omega), Nat.mul_add_div (by decide), Nat.mul_add_mod,
        Nat.div_eq_of_lt small, Nat.mod_eq_of_lt small, Nat.add_zero, shorter, last]

namespace Reader

theorem number?_eq_some {text rest : List Char} {n : Nat} (h : number? text = some (n, rest)) :
    text = decimal n ++ rest := by
  unfold number? at h
  dsimp only at h
  split at h
  · cases h
  · rename_i accepted
    cases h
    simp only [Bool.or_eq_true, Bool.and_eq_true, beq_iff_eq, decide_eq_true_eq,
      List.isEmpty_iff, not_or, not_and] at accepted
    obtain ⟨⟨nonempty, canonical⟩, -⟩ := accepted
    have digits : ∀ d ∈ text.takeWhile Char.isDigit, d.isDigit = true :=
      fun d member => List.mem_takeWhile_imp member
    rw [decimal_ofDigitChars digits nonempty, List.takeWhile_append_dropWhile]
    intro zero
    have some := List.length_pos_iff.mpr nonempty
    have := canonical zero
    omega

/-! ## Tokens -/

def Blanks (text : List Char) : Prop := ∀ c ∈ text, isBlank c = true

/-- The text is made of the tokens, with blanks or nothing in front of each, and of the rest. -/
inductive Spaced : List (List Char) → List Char → List Char → Prop
  | nil (rest : List Char) : Spaced [] rest rest
  | cons {blanks token : List Char} {tokens : List (List Char)} {text rest : List Char} :
      Blanks blanks → Spaced tokens text rest →
        Spaced (token :: tokens) (blanks ++ (token ++ text)) rest

def entryTokens (entry : Nat × Nat) : List (List Char) :=
  [['"'] ++ decimal entry.1 ++ ['"'], [':'], decimal entry.2]

def bodyTokens : List (Nat × Nat) → List (List Char)
  | [] => [['}']]
  | [entry] => entryTokens entry ++ [['}']]
  | entry :: next :: others => entryTokens entry ++ [','] :: bodyTokens (next :: others)

/-- The text is an object with the entries, which fit, blanks being allowed around its tokens. -/
def Spells (text : List Char) (entries : List (Nat × Nat)) : Prop :=
  (∀ entry ∈ entries, Fits entry) ∧
    ∃ rest, Spaced (['{'] :: bodyTokens entries) text rest ∧ Blanks rest

variable {tokens others : List (List Char)} {token text mid rest : List Char}

theorem skipBlanks_spec (text : List Char) :
    ∃ blanks, Blanks blanks ∧ text = blanks ++ skipBlanks text :=
  ⟨text.takeWhile isBlank, fun _ member => List.mem_takeWhile_imp member,
    List.takeWhile_append_dropWhile.symm⟩

theorem skipBlanks_append {blanks : List Char} (h : Blanks blanks) (text : List Char) :
    skipBlanks (blanks ++ text) = skipBlanks text := List.dropWhile_append_of_pos h

theorem skipBlanks_isEmpty_iff : (skipBlanks text).isEmpty = true ↔ Blanks text := by
  rw [List.isEmpty_iff]
  exact List.dropWhile_eq_nil_iff

namespace Spaced

theorem append (h : Spaced tokens text mid) (h' : Spaced others mid rest) :
    Spaced (tokens ++ others) text rest := by
  induction h with
  | nil => exact h'
  | cons blanks _ ih => exact .cons blanks (ih h')

/-- A token that stands behind blanks. -/
theorem of_skipBlanks (here : skipBlanks text = token ++ mid) (h : Spaced tokens mid rest) :
    Spaced (token :: tokens) text rest := by
  obtain ⟨blanks, blank, split⟩ := skipBlanks_spec text
  rw [split, here]
  exact .cons blank h

/-- Further blanks in front of the first token change nothing. -/
theorem skipped (h : Spaced tokens (skipBlanks text) rest) (some : tokens ≠ []) :
    Spaced tokens text rest := by
  obtain ⟨blanks, blank, split⟩ := skipBlanks_spec text
  generalize skipBlanks text = solid at h split
  subst split
  cases h with
  | nil => exact absurd rfl some
  | cons blank' h =>
    rw [← List.append_assoc]
    exact .cons (List.forall_mem_append.mpr ⟨blank, blank'⟩) h

end Spaced

/-! ## What is read is spelled -/

theorem bodyTokens_cons (entry : Nat × Nat) {later : List (Nat × Nat)} (some : later ≠ []) :
    bodyTokens (entry :: later) = entryTokens entry ++ [','] :: bodyTokens later := by
  cases later with
  | nil => exact absurd rfl some
  | cons next others => rfl

theorem bodyTokens_ne_nil (entries : List (Nat × Nat)) : bodyTokens entries ≠ [] := by
  cases entries with
  | nil => simp [bodyTokens]
  | cons entry later => cases later <;> simp [bodyTokens]

theorem entry?_spaced {entry : Nat × Nat} (h : entry? text = some (entry, rest)) :
    Spaced (entryTokens entry) text rest := by
  unfold entry? at h
  split at h
  · obtain ⟨⟨level, behind⟩, readLevel, h⟩ := Option.bind_eq_some_iff.mp h
    dsimp only at h
    split at h
    · rename_i quoted
      cases quoted
      split at h
      · rename_i colon
        obtain ⟨⟨strokes, rest⟩, readStrokes, h⟩ := Option.bind_eq_some_iff.mp h
        cases h
        refine .of_skipBlanks ?_ (.of_skipBlanks colon (.of_skipBlanks (number?_eq_some readStrokes)
          (.nil rest)))
        rw [number?_eq_some readLevel]
        simp [skipBlanks, isBlank]
      · cases h
    · cases h
  · cases h

theorem entries?_spaced {fuel : Nat} {entries : List (Nat × Nat)}
    (h : entries? fuel text = some (entries, rest)) :
    entries ≠ [] ∧ Spaced (bodyTokens entries) text rest := by
  induction fuel generalizing text entries rest with
  | zero => cases h
  | succ fuel ih =>
    unfold entries? at h
    obtain ⟨⟨entry, behind⟩, read, h⟩ := Option.bind_eq_some_iff.mp h
    have first := entry?_spaced read
    dsimp only at h
    split at h
    · rename_i comma
      obtain ⟨⟨later, behind⟩, readLater, h⟩ := Option.bind_eq_some_iff.mp h
      cases h
      obtain ⟨some, body⟩ := ih readLater
      refine ⟨List.cons_ne_nil entry later, ?_⟩
      rw [bodyTokens_cons entry some]
      exact first.append (.of_skipBlanks comma (body.skipped (bodyTokens_ne_nil later)))
    · rename_i brace
      cases h
      exact ⟨List.cons_ne_nil _ _, first.append (.of_skipBlanks brace (.nil _))⟩
    · cases h

theorem object?_spells {entries : List (Nat × Nat)} (h : object? text = some entries) :
    Spells text entries := by
  refine ⟨object?_fits h, ?_⟩
  unfold object? at h
  split at h
  · rename_i body opened
    have closed {found : List (Nat × Nat) × List Char}
        (h : (if (skipBlanks found.2).isEmpty then some found.1 else none) = some entries)
        (body : Spaced (bodyTokens found.1) body found.2) :
        ∃ rest, Spaced (['{'] :: bodyTokens entries) text rest ∧ Blanks rest := by
      rw [Option.ite_none_right_eq_some, Option.some.injEq] at h
      obtain ⟨ended, rfl⟩ := h
      exact ⟨found.2, .of_skipBlanks opened body, skipBlanks_isEmpty_iff.mp ended⟩
    dsimp only at h
    split at h
    · rename_i brace
      obtain ⟨found, read, h⟩ := Option.bind_eq_some_iff.mp h
      cases read
      exact closed h (.of_skipBlanks brace (.nil _))
    · obtain ⟨found, read, h⟩ := Option.bind_eq_some_iff.mp h
      exact closed h ((entries?_spaced read).2.skipped (bodyTokens_ne_nil _))
  · cases h

/-! ## What is spelled is read -/

def Solid (token : List Char) : Prop := ∃ c behind, token = c :: behind ∧ isBlank c = false

theorem solid_decimal (n : Nat) : Solid (decimal n) := by
  obtain ⟨c, behind, digits⟩ := List.exists_cons_of_ne_nil (decimal_ne_nil n)
  have digit : c.isDigit = true := isDigit_of_mem_decimal (digits ▸ List.mem_cons_self)
  exact ⟨c, behind, digits, isBlank_of_isDigit digit⟩

theorem Spaced.skipBlanks (h : Spaced (token :: tokens) text rest) (solid : Solid token) :
    ∃ mid, Reader.skipBlanks text = token ++ mid ∧ Spaced tokens mid rest := by
  obtain ⟨c, behind, rfl, visible⟩ := solid
  cases h with
  | @cons _ _ _ mid _ blank h =>
    refine ⟨mid, ?_, h⟩
    rw [skipBlanks_append blank]
    exact skipBlanks_of_head fun d leads => by
      cases leads
      exact visible

/-- A number ends in front of a token that begins with no digit. -/
theorem Spaced.endsNumber {c : Char} (h : Spaced ((c :: token) :: tokens) text rest)
    (other : c.isDigit = false) : EndsNumber text := by
  cases h with
  | @cons blanks _ _ mid _ blank h =>
    intro d leads
    cases blanks with
    | nil =>
      cases leads
      exact other
    | cons b blanks =>
      cases leads
      by_contra digit
      rw [Bool.not_eq_false] at digit
      have visible := isBlank_of_isDigit digit
      rw [blank d List.mem_cons_self] at visible
      cases visible

theorem entry?_of_spaced {entry : Nat × Nat} (fits : Fits entry)
    (h : Spaced (entryTokens entry ++ tokens) text rest)
    (ends : ∀ mid, Spaced tokens mid rest → EndsNumber mid) :
    ∃ mid, entry? (skipBlanks text) = some (entry, mid) ∧ Spaced tokens mid rest := by
  obtain ⟨afterLevel, quote, h⟩ := h.skipBlanks ⟨'"', _, rfl, rfl⟩
  obtain ⟨afterColon, colon, h⟩ := h.skipBlanks ⟨':', _, rfl, rfl⟩
  obtain ⟨mid, strokes, h⟩ := h.skipBlanks (solid_decimal entry.2)
  refine ⟨mid, ?_, h⟩
  have quoted : EndsNumber ('"' :: afterLevel) := by
    rintro c leads
    cases leads
    decide
  have level : skipBlanks text = '"' :: (decimal entry.1 ++ '"' :: afterLevel) := by
    rw [quote]
    simp
  have readLevel := number?_decimal fits.1 quoted
  have readStrokes := number?_decimal fits.2 (ends mid h)
  rw [List.singleton_append] at colon
  rw [level]
  unfold entry?
  simp only [readLevel, Option.bind_eq_bind, Option.bind_some, colon, strokes, readStrokes]

theorem entries?_of_spaced {entry : Nat × Nat} {later : List (Nat × Nat)}
    (fits : ∀ e ∈ entry :: later, Fits e)
    (h : Spaced (bodyTokens (entry :: later)) text rest) {fuel : Nat}
    (enough : later.length < fuel) :
    entries? fuel (skipBlanks text) = some (entry :: later, rest) := by
  induction later generalizing entry text fuel with
  | nil =>
    obtain ⟨fuel, rfl⟩ := Nat.exists_eq_add_one_of_ne_zero (Nat.ne_of_gt enough)
    obtain ⟨mid, read, h⟩ := entry?_of_spaced (fits entry List.mem_cons_self) h
      fun mid h => h.endsNumber (by decide)
    obtain ⟨mid, brace, h⟩ := h.skipBlanks ⟨'}', _, rfl, rfl⟩
    cases h
    rw [List.singleton_append] at brace
    simp only [entries?, read, Option.bind_eq_bind, Option.bind_some, brace]
  | cons next others ih =>
    obtain ⟨fuel, rfl⟩ := Nat.exists_eq_add_one_of_ne_zero (Nat.ne_of_gt (by omega : 0 < fuel))
    obtain ⟨fitsFirst, fitsLater⟩ := List.forall_mem_cons.mp fits
    rw [List.length_cons] at enough
    obtain ⟨mid, read, h⟩ := entry?_of_spaced fitsFirst h fun mid h => h.endsNumber (by decide)
    obtain ⟨body, comma, h⟩ := h.skipBlanks ⟨',', _, rfl, rfl⟩
    have further := ih fitsLater h (by omega : others.length < fuel)
    rw [List.singleton_append] at comma
    simp only [entries?, read, Option.bind_eq_bind, Option.bind_some, comma, further]

theorem solid_of_mem_bodyTokens {entries : List (Nat × Nat)} :
    ∀ token ∈ bodyTokens entries, Solid token := by
  have entry (e : Nat × Nat) : ∀ token ∈ entryTokens e, Solid token := by
    simp only [entryTokens, List.forall_mem_cons]
    exact ⟨⟨'"', _, rfl, rfl⟩, ⟨':', _, rfl, rfl⟩, solid_decimal e.2, by simp⟩
  have brace : ∀ token ∈ [['}']], Solid token := by
    rw [List.forall_mem_singleton]
    exact ⟨'}', _, rfl, rfl⟩
  induction entries with
  | nil => exact brace
  | cons first later ih =>
    cases later with
    | nil => exact List.forall_mem_append.mpr ⟨entry first, brace⟩
    | cons next others =>
      refine List.forall_mem_append.mpr ⟨entry first, List.forall_mem_cons.mpr ⟨?_, ih⟩⟩
      exact ⟨',', _, rfl, rfl⟩

theorem length_le_length_bodyTokens (entries : List (Nat × Nat)) :
    entries.length ≤ (bodyTokens entries).length := by
  induction entries with
  | nil => exact Nat.zero_le _
  | cons first later ih =>
    cases later with
    | nil => exact Nat.le_add_left 1 3
    | cons next others =>
      rw [bodyTokens, List.length_append, List.length_cons, List.length_cons]
      exact Nat.le_trans (Nat.succ_le_succ ih) (Nat.le_add_left _ _)

/-- Every token takes up text. -/
theorem Spaced.length_le (h : Spaced tokens text rest) (solid : ∀ token ∈ tokens, Solid token) :
    tokens.length ≤ (Reader.skipBlanks text).length := by
  induction h with
  | nil => exact Nat.zero_le _
  | @cons blanks token _ text _ blank h ih =>
    obtain ⟨⟨c, behind, rfl, visible⟩, later⟩ := List.forall_mem_cons.mp solid
    have shorter := ih later
    have dropped : (Reader.skipBlanks text).length ≤ text.length :=
      (List.dropWhile_suffix isBlank).length_le
    have skipped : Reader.skipBlanks (c :: behind ++ text) = c :: behind ++ text :=
      skipBlanks_of_head fun d leads => by
        cases leads
        exact visible
    rw [skipBlanks_append blank, skipped, List.length_append, List.length_cons, List.length_cons]
    omega

theorem object?_of_spells {entries : List (Nat × Nat)} (h : Spells text entries) :
    object? text = some entries := by
  obtain ⟨fits, rest, h, blank⟩ := h
  obtain ⟨body, opened, h⟩ := h.skipBlanks ⟨'{', _, rfl, rfl⟩
  rw [List.singleton_append] at opened
  have ended := skipBlanks_isEmpty_iff.mpr blank
  unfold object?
  simp only [opened, Option.bind_eq_bind, Option.bind_some]
  cases entries with
  | nil =>
    obtain ⟨mid, brace, h⟩ := h.skipBlanks ⟨'}', _, rfl, rfl⟩
    cases h
    rw [List.singleton_append] at brace
    simp only [brace, ended]
    rfl
  | cons first later =>
    have enough : later.length < (skipBlanks body).length := by
      have tokens := h.length_le solid_of_mem_bodyTokens
      have entries := length_le_length_bodyTokens (first :: later)
      rw [List.length_cons] at entries
      omega
    have read := entries?_of_spaced fits h enough
    -- The body begins with a quote and not with a brace, so entries are read.
    have quote : ∃ behind, skipBlanks body = '"' :: behind := by
      cases later with
      | nil =>
        obtain ⟨mid, quote, -⟩ := h.skipBlanks ⟨'"', _, rfl, rfl⟩
        exact ⟨_, quote⟩
      | cons next others =>
        obtain ⟨mid, quote, -⟩ := h.skipBlanks ⟨'"', _, rfl, rfl⟩
        exact ⟨_, quote⟩
    obtain ⟨behind, quote⟩ := quote
    rw [quote] at read ⊢
    change (entries? _ _).bind _ = _
    rw [read, Option.bind_some, if_pos ended]

/-- The reader takes the objects that are spelled with numbers that fit, and no other text. -/
theorem object?_eq_some_iff {entries : List (Nat × Nat)} :
    object? text = some entries ↔ Spells text entries :=
  ⟨object?_spells, object?_of_spells⟩

end Reader

/-! ## Whole books -/

def IsLast (pairs : List (Nat × Nat)) (key value : Nat) : Prop :=
  ∃ before after, pairs = before ++ (key, value) :: after ∧ ∀ pair ∈ after, pair.1 ≠ key

theorem isLast_append_singleton {front : List (Nat × Nat)} {pair : Nat × Nat} {key value : Nat} :
    IsLast (front ++ [pair]) key value ↔
      (pair = (key, value)) ∨ (pair.1 ≠ key ∧ IsLast front key value) := by
  constructor
  · rintro ⟨before, after, parts, others⟩
    rcases List.eq_nil_or_concat after with rfl | ⟨after, last, rfl⟩
    · exact .inl (List.append_inj' parts rfl |>.2 |> List.singleton_inj.mp)
    · rw [List.concat_eq_append, ← List.cons_append, ← List.append_assoc] at parts
      obtain ⟨rfl, same⟩ := List.append_inj' parts rfl
      cases same
      rw [List.concat_eq_append, List.forall_mem_append, List.forall_mem_singleton] at others
      exact .inr ⟨others.2, before, after, rfl, others.1⟩
  · rintro (rfl | ⟨other, before, after, rfl, others⟩)
    · exact ⟨front, [], rfl, by simp⟩
    · refine ⟨before, after ++ [pair], by simp, ?_⟩
      exact List.forall_mem_append.mpr ⟨others, by simpa using other⟩

/-- A later pair takes the place of an earlier one of the same key. -/
theorem get?_ofList_eq_some_iff {pairs : List (Nat × Nat)} {key value : Nat} :
    (Table.ofList pairs).get? key = some value ↔ IsLast pairs key value := by
  induction pairs using List.reverseRecOn with
  | nil => simp [Table.ofList, IsLast]
  | append_singleton front pair ih =>
    have inserted : (Table.ofList (front ++ [pair])) =
        (Table.ofList front).insert pair.1 pair.2 := by
      rw [Table.ofList, List.foldl_append]
      rfl
    rw [inserted, Table.get?_insert, isLast_append_singleton, ← ih]
    obtain ⟨key', value'⟩ := pair
    by_cases same : key = key'
    · simp [same]
    · simp [same, Ne.symm same]

def characters (bytes : List UInt8) : List Char := bytes.map fun byte => Char.ofNat byte.toNat

/-- The object in some bytes has the last entry of every level spelled there. -/
theorem ofObject?_eq_some_iff {bytes : List UInt8} {book : ScoreBook} :
    ofObject? bytes = some book ↔
      ∃ entries, Reader.Spells (characters bytes) entries ∧
        ∀ level strokes, book.get? level = some strokes ↔ IsLast entries level strokes := by
  rw [ofObject?, Option.map_eq_some_iff]
  refine exists_congr fun entries => ?_
  rw [characters, Reader.object?_eq_some_iff]
  refine and_congr_right fun _ => ⟨?_, fun last => ?_⟩
  · rintro rfl level strokes
    exact get?_ofList_eq_some_iff
  · refine Table.ext_get? fun level => Option.ext fun strokes => ?_
    rw [get?_ofList_eq_some_iff, last]

theorem ofBytes_eq_ok_iff {bytes : List UInt8} {book : ScoreBook} :
    ofBytes bytes = .ok book ↔
      ofObject? bytes = some book ∧ ∀ level, book.get? level ≠ some 0 := by
  rw [← zeroLevel?_eq_none_iff_get?, ofBytes_eq]
  cases ofObject? bytes with
  | none => simp
  | some found =>
    rw [Option.some.injEq]
    dsimp only
    cases zero : found.zeroLevel? with
    | none =>
      rw [Except.ok.injEq, and_iff_left_of_imp]
      rintro rfl
      exact zero
    | some level =>
      have refused : ¬(found = book ∧ book.zeroLevel? = none) := by
        rintro ⟨rfl, nonzero⟩
        rw [zero] at nonzero
        cases nonzero
      exact iff_of_false (by simp) refused

theorem ofBytes_bytes_eq_zeroStrokes_iff {book : ScoreBook} (fits : book.Fits) {level : Nat} :
    ofBytes book.bytes = .error (.zeroStrokes level) ↔
      IsLeast {n | book.get? n = some 0} level := by
  have least : IsLeast {n | book.get? n = some 0} level ↔ book.zeroLevel? = some level :=
    zeroLevel?_eq_some_iff.symm
  rw [least, ofBytes_eq, ofObject?_bytes fits]
  dsimp only
  cases book.zeroLevel? <;> simp

/-- A book whose numbers fit is read back from its bytes, or refused for the least level with zero
keystrokes, and the bytes tell its levels in increasing order.  What can be read at all are the
objects with entries that fit, spaced in any way and in any order; the last entry of a level counts,
and the book can be written and read again. -/
theorem ofBytes_exact :
    (∀ book : ScoreBook, book.Fits →
      (ofBytes book.bytes = .ok book ↔ ∀ level, book.get? level ≠ some 0) ∧
      (∀ level, ofBytes book.bytes = .error (.zeroStrokes level) ↔
        IsLeast {n | book.get? n = some 0} level) ∧
      Reader.Spells (characters book.bytes) book.entries ∧
      (book.entries.map Prod.fst).Pairwise (· < ·)) ∧
    ∀ (bytes : List UInt8) (book : ScoreBook),
      (ofBytes bytes = .ok book ↔
        (∃ entries, Reader.Spells (characters bytes) entries ∧
          ∀ level strokes, book.get? level = some strokes ↔ IsLast entries level strokes) ∧
        ∀ level, book.get? level ≠ some 0) ∧
      (ofBytes bytes = .ok book → ofBytes book.bytes = .ok book) := by
  refine ⟨fun book fits => ⟨?_, fun level => ofBytes_bytes_eq_zeroStrokes_iff fits, ?_, ?_⟩,
    fun bytes book => ⟨?_, fun read => ofBytes_bytes (storable_of_ofBytes read)⟩⟩
  · rw [ofBytes_eq_ok_iff, ofObject?_bytes fits, and_iff_right rfl]
  · rw [characters, map_ofNat_bytes]
    exact Reader.object?_spells (Reader.object?_listing fits)
  · exact List.pairwise_map.mpr book.sorted
  · rw [ofBytes_eq_ok_iff, ofObject?_eq_some_iff]

/-- An object with blanks in it, its levels out of order and one of them told twice. -/
theorem ofBytes_exact_edited :
    let book : ScoreBook := Table.ofList [(10, 3), (2, 5)]
    let zeros : ScoreBook := Table.ofList [(9, 0), (3, 5), (4, 0)]
    let edited := "\x7b \"10\" : 9,\"2\":5,\n\"10\":3 \x7d".toList.map fun c => c.toNat.toUInt8
    book.Fits ∧ zeros.Fits ∧
      book.bytes = "\x7b\"2\":5,\"10\":3\x7d".toList.map (fun c => c.toNat.toUInt8) ∧
      ofBytes edited = .ok book ∧ ofBytes book.bytes = .ok book ∧
      ofBytes zeros.bytes = .error (.zeroStrokes 4) ∧
      ∃ entries, Reader.Spells (characters edited) entries ∧ IsLast entries 10 3 := by
  intro book zeros edited
  have fits : ∀ entry ∈ book.entries, entry.1 ≤ countLimit ∧ entry.2 ≤ countLimit := by decide
  have zerosFit : ∀ entry ∈ zeros.entries, entry.1 ≤ countLimit ∧ entry.2 ≤ countLimit := by decide
  have read : ofBytes edited = .ok book := by decide +kernel
  have least : IsLeast {n | zeros.get? n = some 0} 4 :=
    zeroLevel?_eq_some_iff.mp (by decide)
  obtain ⟨written, decoded⟩ := ofBytes_exact
  obtain ⟨⟨entries, spelled, last⟩, -⟩ := (decoded edited book).1.mp read
  exact ⟨fits, zerosFit, by decide +kernel, read, (decoded edited book).2 read,
    ((written zeros zerosFit).2.1 4).mpr least, entries, spelled, (last 10 3).mp (by decide)⟩

end GridRunner.ScoreBook
