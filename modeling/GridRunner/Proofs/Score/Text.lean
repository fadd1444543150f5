import GridRunner.Score.Text

/-! # Reading a book back

A reader takes from the front of a text what was written there and leaves what follows, token by
token: a number, an entry, a run of entries.  So the text of a book is read as that book, provided
that its numbers fit and no level is stored with zero keystrokes (`ofBytes_bytes`); and no other
book is ever read from a text (`storable_of_ofBytes`).
-/

namespace GridRunner.ScoreBook

/-! ## Digits -/

theorem isDigit_of_mem_decimal {n : Nat} {c : Char} (h : c ∈ decimal n) : c.isDigit = true :=
  Nat.isDigit_of_mem_toDigits (by decide) (by decide) h

theorem digitChar_ne_zero : ∀ d < 10, 0 < d → Nat.digitChar d ≠ '0' := by decide

theorem decimal_of_ten_le {n : Nat} (h : 10 ≤ n) :
    decimal n = decimal (n / 10) ++ [Nat.digitChar (n % 10)] :=
  Nat.toDigits_of_base_le (by decide) h

theorem decimal_of_lt_ten {n : Nat} (h : n < 10) : decimal n = [Nat.digitChar n] :=
  Nat.toDigits_of_lt_base h

theorem decimal_ne_nil (n : Nat) : decimal n ≠ [] := Nat.toDigits_ne_nil

theorem head?_decimal_append (n : Nat) (rest : List Char) :
    (decimal n ++ rest).head? = (decimal n).head? := by
  rw [List.head?_append, Option.or_of_isSome]
  exact List.isSome_head?.mpr (decimal_ne_nil n)

/-- No zero leads the digits of a positive number. -/
theorem head?_decimal {n : Nat} (positive : 0 < n) : (decimal n).head? ≠ some '0' := by
  induction n using Nat.strongRecOn with
  | ind n ih =>
    by_cases small : n < 10
    · rw [decimal_of_lt_ten small]
      simpa using digitChar_ne_zero n small positive
    · have shorter := ih (n / 10) (by omega) (by omega)
      rw [decimal_of_ten_le (by omega), head?_decimal_append]
      exact shorter

namespace Reader

/-! ## Tokens -/

def EndsNumber (rest : List Char) : Prop := ∀ c ∈ rest.head?, c.isDigit = false

theorem number?_decimal {n : Nat} (fits : n ≤ countLimit) {rest : List Char}
    (ends : EndsNumber rest) : number? (decimal n ++ rest) = some (n, rest) := by
  have digits : ∀ c ∈ decimal n, c.isDigit = true := fun c => isDigit_of_mem_decimal
  have stops : rest.takeWhile Char.isDigit = [] ∧ rest.dropWhile Char.isDigit = rest := by
    cases rest with
    | nil => exact ⟨rfl, rfl⟩
    | cons c rest =>
      have other : ¬ c.isDigit = true := by simp [ends c rfl]
      exact ⟨List.takeWhile_cons_of_neg other, List.dropWhile_cons_of_neg other⟩
  have value : Nat.ofDigitChars 10 (decimal n) 0 = n := Nat.ofDigitChars_ten_toDigits
  have canonical : ¬((decimal n).head? = some '0' ∧ 1 < (decimal n).length) := by
    rintro ⟨leads, long⟩
    by_cases zero : n = 0
    · subst zero
      exact absurd long (by decide)
    · exact head?_decimal (Nat.pos_of_ne_zero zero) leads
  have first : (decimal n ++ rest).takeWhile Char.isDigit = decimal n := by
    rw [List.takeWhile_append_of_pos digits, stops.1, List.append_nil]
  have behind : (decimal n ++ rest).dropWhile Char.isDigit = rest := by
    rw [List.dropWhile_append_of_pos digits, stops.2]
  unfold number?
  simp only [first, behind, value]
  rw [if_neg]
  simp only [Bool.or_eq_true, Bool.and_eq_true, beq_iff_eq, decide_eq_true_eq,
    List.isEmpty_iff, not_or]
  exact ⟨⟨decimal_ne_nil n, canonical⟩, by omega⟩

theorem skipBlanks_of_head {text : List Char} (solid : ∀ c ∈ text.head?, isBlank c = false) :
    skipBlanks text = text := by
  cases text with
  | nil => rfl
  | cons c rest => exact List.dropWhile_cons_of_neg (by simp [solid c rfl])

theorem isBlank_of_isDigit {c : Char} (digit : c.isDigit = true) : isBlank c = false := by
  unfold isBlank
  simp only [Bool.or_eq_false_iff, beq_eq_false_iff_ne]
  refine ⟨⟨⟨?_, ?_⟩, ?_⟩, ?_⟩
  all_goals
    rintro rfl
    exact absurd digit (by decide)

theorem skipBlanks_decimal (n : Nat) (rest : List Char) :
    skipBlanks (decimal n ++ rest) = decimal n ++ rest := by
  apply skipBlanks_of_head
  intro c leads
  rw [head?_decimal_append] at leads
  exact isBlank_of_isDigit (isDigit_of_mem_decimal (List.mem_of_mem_head? leads))

/-! ## Entries -/

theorem entryText_append (entry : Nat × Nat) (rest : List Char) :
    entryText entry ++ rest =
      '"' :: (decimal entry.1 ++ '"' :: ':' :: (decimal entry.2 ++ rest)) := by
  simp [entryText]

/-- The numbers of an entry fit 32 bits. -/
def Fits (entry : Nat × Nat) : Prop := entry.1 ≤ countLimit ∧ entry.2 ≤ countLimit

theorem entry?_entryText {entry : Nat × Nat} (fits : Fits entry) {rest : List Char}
    (ends : EndsNumber rest) : entry? (entryText entry ++ rest) = some (entry, rest) := by
  have quoted : EndsNumber ('"' :: ':' :: (decimal entry.2 ++ rest)) := by
    rintro c leads
    cases leads
    decide
  have colon : skipBlanks (':' :: (decimal entry.2 ++ rest)) =
      ':' :: (decimal entry.2 ++ rest) := rfl
  rw [entryText_append]
  unfold entry?
  simp only [number?_decimal fits.1 quoted, Option.bind_eq_bind, Option.bind_some, colon,
    skipBlanks_decimal, number?_decimal fits.2 ends]

def listing (entries : List (Nat × Nat)) : List Char := [','].intercalate (entries.map entryText)

theorem listing_singleton (entry : Nat × Nat) : listing [entry] = entryText entry :=
  List.intercalate_singleton

theorem listing_cons_cons (first second : Nat × Nat) (others : List (Nat × Nat)) :
    listing (first :: second :: others) = entryText first ++ ',' :: listing (second :: others) := by
  simp only [listing, List.map_cons, List.intercalate_cons_cons, List.append_assoc,
    List.singleton_append]

theorem exists_listing_eq_cons (first : Nat × Nat) (others : List (Nat × Nat)) :
    ∃ text, listing (first :: others) = '"' :: text := by
  cases others with
  | nil => exact ⟨_, listing_singleton first⟩
  | cons second others => exact ⟨_, listing_cons_cons first second others⟩

theorem skipBlanks_listing (first : Nat × Nat) (others : List (Nat × Nat)) (rest : List Char) :
    skipBlanks (listing (first :: others) ++ rest) = listing (first :: others) ++ rest := by
  obtain ⟨text, starts⟩ := exists_listing_eq_cons first others
  rw [starts]
  rfl

/-- Every entry takes up text, so the length of the text is fuel enough. -/
theorem length_le_length_listing (entries : List (Nat × Nat)) :
    entries.length ≤ (listing entries).length := by
  induction entries with
  | nil => exact Nat.zero_le _
  | cons first others ih =>
    cases others with
    | nil => simp [listing_singleton, entryText]
    | cons second others =>
      rw [listing_cons_cons]
      simp only [List.length_append, List.length_cons] at ih ⊢
      omega

theorem entries?_listing {first : Nat × Nat} {others : List (Nat × Nat)}
    (fits : ∀ entry ∈ first :: others, Fits entry) {fuel : Nat} (enough : others.length < fuel)
    (rest : List Char) :
    entries? fuel (listing (first :: others) ++ '}' :: rest) = some (first :: others, rest) := by
  induction others generalizing first fuel with
  | nil =>
    obtain ⟨fuel, rfl⟩ := Nat.exists_eq_add_one_of_ne_zero (Nat.ne_of_gt enough)
    have ends : EndsNumber ('}' :: rest) := by
      rintro c leads
      cases leads
      decide
    have brace : skipBlanks ('}' :: rest) = '}' :: rest := rfl
    have read := entry?_entryText (fits first List.mem_cons_self) ends
    simp only [entries?, listing_singleton, read, Option.bind_eq_bind, Option.bind_some, brace]
  | cons second others ih =>
    obtain ⟨fuel, rfl⟩ := Nat.exists_eq_add_one_of_ne_zero (Nat.ne_of_gt (by omega : 0 < fuel))
    obtain ⟨fitsFirst, fitsLater⟩ := List.forall_mem_cons.mp fits
    rw [List.length_cons] at enough
    have later := ih fitsLater (by omega : others.length < fuel)
    have ends : EndsNumber (',' :: (listing (second :: others) ++ '}' :: rest)) := by
      rintro c leads
      cases leads
      decide
    have comma : skipBlanks (',' :: (listing (second :: others) ++ '}' :: rest)) =
        ',' :: (listing (second :: others) ++ '}' :: rest) := rfl
    have read := entry?_entryText fitsFirst ends
    rw [listing_cons_cons, List.append_assoc, List.cons_append]
    simp only [entries?, read, Option.bind_eq_bind, Option.bind_some, comma, skipBlanks_listing,
      later]

theorem object?_listing {entries : List (Nat × Nat)} (fits : ∀ entry ∈ entries, Fits entry) :
    object? ('{' :: (listing entries ++ ['}'])) = some entries := by
  have opened : skipBlanks ('{' :: (listing entries ++ ['}'])) =
      '{' :: (listing entries ++ ['}']) := rfl
  unfold object?
  cases entries with
  | nil => rfl
  | cons first others =>
    have enough : others.length < (listing (first :: others) ++ ['}']).length := by
      have := length_le_length_listing (first :: others)
      simp only [List.length_append, List.length_cons] at this ⊢
      omega
    have read := entries?_listing fits enough []
    have solid := skipBlanks_listing first others ['}']
    obtain ⟨text, starts⟩ := exists_listing_eq_cons first others
    -- The body begins with a quote and not with a brace, so entries are read.
    rw [starts, List.cons_append] at read solid opened ⊢
    simp only [opened, solid, Option.bind_eq_bind, Option.bind_some]
    change (entries? _ _).bind _ = _
    rw [read]
    rfl

/-! ## What a reader takes fits -/

theorem number?_le {text rest : List Char} {n : Nat} (h : number? text = some (n, rest)) :
    n ≤ countLimit := by
  unfold number? at h
  dsimp only at h
  split at h
  · cases h
  · rename_i refused
    cases h
    simp only [Bool.or_eq_true, decide_eq_true_eq, not_or] at refused
    omega

theorem entry?_fits {text rest : List Char} {entry : Nat × Nat}
    (h : entry? text = some (entry, rest)) : Fits entry := by
  unfold entry? at h
  split at h
  · obtain ⟨⟨level, behind⟩, readLevel, h⟩ := Option.bind_eq_some_iff.mp h
    dsimp only at h
    split at h
    · rename_i quoted
      cases quoted
      split at h
      · obtain ⟨⟨strokes, rest⟩, readStrokes, h⟩ := Option.bind_eq_some_iff.mp h
        cases h
        exact ⟨number?_le readLevel, number?_le readStrokes⟩
      · cases h
    · cases h
  · cases h

theorem entries?_fits {fuel : Nat} {text rest : List Char} {entries : List (Nat × Nat)}
    (h : entries? fuel text = some (entries, rest)) : ∀ entry ∈ entries, Fits entry := by
  induction fuel generalizing text entries rest with
  | zero => cases h
  | succ fuel ih =>
    unfold entries? at h
    obtain ⟨⟨entry, behind⟩, read, h⟩ := Option.bind_eq_some_iff.mp h
    dsimp only at h
    split at h
    · obtain ⟨⟨later, behind⟩, readLater, h⟩ := Option.bind_eq_some_iff.mp h
      cases h
      exact List.forall_mem_cons.mpr ⟨entry?_fits read, ih readLater⟩
    · cases h
      simpa using entry?_fits read
    · cases h

theorem object?_fits {text : List Char} {entries : List (Nat × Nat)}
    (h : object? text = some entries) : ∀ entry ∈ entries, Fits entry := by
  have taken : ∀ {found : List (Nat × Nat) × List Char},
      (if (skipBlanks found.2).isEmpty then some found.1 else none) = some entries →
        found.1 = entries := by
    intro found h
    split at h
    · exact Option.some.inj h
    · cases h
  unfold object? at h
  split at h
  · dsimp only at h
    split at h
    · obtain ⟨found, read, h⟩ := Option.bind_eq_some_iff.mp h
      cases read
      rw [← taken h]
      simp
    · obtain ⟨found, read, h⟩ := Option.bind_eq_some_iff.mp h
      rw [← taken h]
      exact entries?_fits read
  · cases h

end Reader

/-! ## Whole books -/

/-- A book that can be saved and read again: its numbers fit 32 bits, and no level is stored with
zero keystrokes. -/
def Storable (book : ScoreBook) : Prop :=
  ∀ entry ∈ book.entries, entry.1 ≤ countLimit ∧ 0 < entry.2 ∧ entry.2 ≤ countLimit

theorem storable_empty : Storable Table.empty := by
  intro entry member
  cases member

theorem Storable.insert {book : ScoreBook} (h : book.Storable) {level strokes : Nat}
    (small : level ≤ countLimit) (positive : 0 < strokes) (few : strokes ≤ countLimit) :
    Storable (book.insert level strokes) := by
  intro entry member
  rcases Table.mem_insert member with rfl | old
  · exact ⟨small, positive, few⟩
  · exact h entry old

theorem zeroLevel?_eq_none_iff {book : ScoreBook} :
    book.zeroLevel? = none ↔ ∀ entry ∈ book.entries, entry.2 ≠ 0 := by
  simp [zeroLevel?]

/-- What is written of a book whose numbers fit is read as that book, or refused for the first
level that is stored with zero keystrokes. -/
theorem ofText_text {book : ScoreBook} (fits : ∀ entry ∈ book.entries, Reader.Fits entry) :
    ofText book.text =
      match book.zeroLevel? with
      | some level => .error (.zeroStrokes level)
      | none => .ok book := by
  have read : Reader.object? book.text = some book.entries := Reader.object?_listing fits
  unfold ofText
  rw [read]
  dsimp only
  cases stored : book.zeroLevel? <;> simp only [Table.ofList_entries, stored]

theorem storable_of_ofText {text : List Char} {book : ScoreBook} (h : ofText text = .ok book) :
    book.Storable := by
  unfold ofText at h
  split at h
  · cases h
  · rename_i entries read
    dsimp only at h
    split at h
    · cases h
    · rename_i nonzero
      cases h
      intro entry member
      have fits := Reader.object?_fits read entry (Table.mem_ofList member)
      have positive := zeroLevel?_eq_none_iff.mp nonzero entry member
      exact ⟨fits.1, Nat.pos_of_ne_zero positive, fits.2⟩

/-! ## Bytes -/

theorem lt_of_isDigit {c : Char} (digit : c.isDigit = true) : c.toNat < 256 := by
  simp only [Char.isDigit, ge_iff_le, Bool.and_eq_true, decide_eq_true_eq] at digit
  have upper : c.toNat ≤ 57 := UInt32.le_iff_toNat_le.mp digit.2
  omega

theorem lt_of_mem_entryText {entry : Nat × Nat} {c : Char} (h : c ∈ entryText entry) :
    c.toNat < 256 := by
  simp only [entryText, List.mem_append, List.mem_cons, List.not_mem_nil, or_false] at h
  rcases h with ((rfl | level) | (rfl | rfl)) | strokes
  · decide
  · exact lt_of_isDigit (isDigit_of_mem_decimal level)
  · decide
  · decide
  · exact lt_of_isDigit (isDigit_of_mem_decimal strokes)

theorem lt_of_mem_listing {entries : List (Nat × Nat)} {c : Char}
    (h : c ∈ Reader.listing entries) : c.toNat < 256 := by
  induction entries with
  | nil => cases h
  | cons first others ih =>
    cases others with
    | nil =>
      rw [Reader.listing_singleton] at h
      exact lt_of_mem_entryText h
    | cons second others =>
      rw [Reader.listing_cons_cons] at h
      rcases List.mem_append.mp h with entry | later
      · exact lt_of_mem_entryText entry
      · rcases List.mem_cons.mp later with rfl | later
        · decide
        · exact ih later

/-- No character of a text is lost in its bytes. -/
theorem map_ofNat_bytes (book : ScoreBook) :
    book.bytes.map (fun byte => Char.ofNat byte.toNat) = book.text := by
  have kept : ∀ c ∈ book.text, Char.ofNat c.toNat.toUInt8.toNat = c := by
    intro c member
    have small : c.toNat < 256 := by
      rcases List.mem_append.mp member with front | last
      · rcases List.mem_append.mp front with first | inner
        · rw [List.mem_singleton.mp first]
          decide
        · exact lt_of_mem_listing inner
      · rw [List.mem_singleton.mp last]
        decide
    rw [Nat.toUInt8, UInt8.toNat_ofNat', Nat.mod_eq_of_lt small, Char.ofNat_toNat]
  rw [bytes, List.map_map]
  exact List.map_congr_left kept |>.trans (List.map_id _)

theorem ofBytes_bytes {book : ScoreBook} (h : book.Storable) : ofBytes book.bytes = .ok book := by
  have nonzero : book.zeroLevel? = none :=
    zeroLevel?_eq_none_iff.mpr fun entry member => Nat.ne_of_gt (h entry member).2.1
  have fits : ∀ entry ∈ book.entries, Reader.Fits entry := fun entry member =>
    ⟨(h entry member).1, (h entry member).2.2⟩
  rw [ofBytes, map_ofNat_bytes, ofText_text fits, nonzero]

theorem storable_of_ofBytes {bytes : List UInt8} {book : ScoreBook}
    (h : ofBytes bytes = .ok book) : book.Storable := storable_of_ofText h

end GridRunner.ScoreBook
