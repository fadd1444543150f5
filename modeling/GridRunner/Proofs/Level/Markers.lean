import GridRunner.Proofs.Level.Glyphs

/-! # Which glyphs are markers

Five glyphs are reserved.  Of the others the lowercase ones are keys and the uppercase ones locks,
and no glyph is both (`not_isUpper_of_isLower`).  So the glyphs of a map tell what its marks place
(`mem_hostiles_iff`, `mem_fixtures_iff`).
-/

namespace GridRunner

/-! ## Case -/

namespace Letter

/-- The code points of the run are all even or all odd. -/
def Run.alternates (r : Run) : Bool := r.step == 2 || r.first == r.last

theorem Run.parity_of_mem {r : Run} (alternates : r.alternates = true) {n : Nat}
    (h : r.mem n = true) : n % 2 = r.first % 2 := by
  simp only [mem, Bool.and_eq_true, decide_eq_true_eq, beq_iff_eq] at h
  rw [Run.alternates, Bool.or_eq_true, beq_iff_eq, beq_iff_eq] at alternates
  rcases alternates with two | single
  · rw [two] at h
    omega
  · omega

/-- The runs overlap, and not only because one is even and the other odd. -/
def Run.crosses (a b : Run) : Bool :=
  Nat.ble a.first b.last &&
    (Nat.ble b.first a.last &&
      !(a.alternates && (b.alternates && a.first % 2 != b.first % 2)))

theorem Run.crosses_of_mem {a b : Run} {n : Nat} (h : a.mem n = true) (h' : b.mem n = true) :
    a.crosses b = true := by
  have inside := h
  have inside' := h'
  simp only [mem, Bool.and_eq_true, decide_eq_true_eq] at inside inside'
  simp only [crosses, Bool.and_eq_true, Nat.ble_eq, Bool.not_eq_true', Bool.and_eq_false_imp]
  refine ⟨by omega, by omega, fun alternates alternates' => ?_⟩
  rw [bne_eq_false_iff_eq]
  exact (parity_of_mem alternates h).symm.trans (parity_of_mem alternates' h')

theorem lowercase_crosses_no_uppercase :
    (lowercase.any fun a => uppercase.any a.crosses) = false := by
  -- Of most pairs the first comparison or the second fails, so the tables are short enough.
  decide +kernel

/-- No character is both lowercase and uppercase. -/
theorem not_isUpper_of_isLower {c : Char} (lower : isLower c = true) : isUpper c = false := by
  rw [Bool.eq_false_iff]
  intro upper
  obtain ⟨a, listed, member⟩ := List.any_eq_true.mp lower
  obtain ⟨b, listed', member'⟩ := List.any_eq_true.mp upper
  have crossed : (lowercase.any fun a => uppercase.any a.crosses) = true :=
    List.any_eq_true.mpr
      ⟨a, listed, List.any_eq_true.mpr ⟨b, listed', Run.crosses_of_mem member member'⟩⟩
  rw [lowercase_crosses_no_uppercase] at crossed
  cases crossed

/-- Of a table whose other runs lie beyond ASCII only the first counts there. -/
theorem any_mem_of_ascii {first : Run} {rest : List Run}
    (beyond : (rest.all fun r => Nat.ble 128 r.first) = true) {n : Nat} (ascii : n < 128) :
    (first :: rest).any (·.mem n) = first.mem n := by
  have none : rest.any (·.mem n) = false := by
    rw [List.any_eq_false]
    intro r listed
    have later := List.all_eq_true.mp beyond r listed
    rw [Nat.ble_eq] at later
    simp only [Run.mem, Bool.and_eq_true, decide_eq_true_eq, beq_iff_eq]
    omega
  rw [List.any_cons, none, Bool.or_false]

theorem ascii_isLower_iff {c : Char} :
    c.isLower = true ↔ 0x61 ≤ c.toNat ∧ c.toNat ≤ 0x7a := by
  change (decide ('a'.val ≤ c.val) && decide (c.val ≤ 'z'.val)) = true ↔ _
  rw [Bool.and_eq_true, decide_eq_true_iff, decide_eq_true_iff]
  exact Iff.rfl

theorem ascii_isUpper_iff {c : Char} :
    c.isUpper = true ↔ 0x41 ≤ c.toNat ∧ c.toNat ≤ 0x5a := by
  change decide ('A'.val ≤ c.val ∧ c.val ≤ 'Z'.val) = true ↔ _
  rw [decide_eq_true_iff]
  exact Iff.rfl

theorem isLower_of_ascii {c : Char} (ascii : c.toNat < 128) : isLower c = c.isLower := by
  have first : isLower c = Run.mem ⟨0x61, 0x7a, 1⟩ c.toNat :=
    any_mem_of_ascii (by decide +kernel) ascii
  rw [first, Bool.eq_iff_iff, ascii_isLower_iff, Run.mem, Nat.mod_one]
  simp

theorem isUpper_of_ascii {c : Char} (ascii : c.toNat < 128) : isUpper c = c.isUpper := by
  have first : isUpper c = Run.mem ⟨0x41, 0x5a, 1⟩ c.toNat :=
    any_mem_of_ascii (by decide +kernel) ascii
  rw [first, Bool.eq_iff_iff, ascii_isUpper_iff, Run.mem, Nat.mod_one]
  simp

end Letter

/-! ## Markers -/

namespace Marker

def reserved : List Char := ['@', 'G', 'B', '>', 'R']

theorem ofGlyph?_eq_of_not_reserved {c : Char} (h : c ∉ reserved) :
    ofGlyph? c =
      if Letter.isLower c then some (.key c)
      else if Letter.isUpper c then some (.lock c) else none := by
  simp only [reserved, List.mem_cons, List.not_mem_nil, or_false, not_or] at h
  unfold ofGlyph?
  split <;> simp_all

theorem ofGlyph?_eq_some_iff_of_fixed {c : Char} {m : Marker}
    (fixed : ofGlyph? m.glyph = some m) : ofGlyph? c = some m ↔ c = m.glyph := by
  constructor
  · intro marker
    exact (glyph_of_ofGlyph? marker).symm
  · rintro rfl
    exact fixed

theorem not_isLower_of_reserved {c : Char} (listed : c ∈ reserved) : Letter.isLower c = false := by
  simp only [reserved, List.mem_cons, List.not_mem_nil, or_false] at listed
  rcases listed with rfl | rfl | rfl | rfl | rfl <;> exact Letter.isLower_of_ascii (by decide)

theorem exists_ofGlyph?_of_reserved {c : Char} (listed : c ∈ reserved) :
    ∃ m, ofGlyph? c = some m ∧ (∀ letter, m ≠ .key letter) ∧ ∀ glyph, m ≠ .lock glyph := by
  simp only [reserved, List.mem_cons, List.not_mem_nil, or_false] at listed
  rcases listed with rfl | rfl | rfl | rfl | rfl <;> exact ⟨_, rfl, by simp, by simp⟩

theorem ofGlyph?_eq_key_iff {c letter : Char} :
    ofGlyph? c = some (.key letter) ↔ Letter.isLower c = true ∧ letter = c := by
  by_cases listed : c ∈ reserved
  · obtain ⟨m, marker, notKey, -⟩ := exists_ofGlyph?_of_reserved listed
    simp [marker, notKey letter, not_isLower_of_reserved listed]
  · rw [ofGlyph?_eq_of_not_reserved listed]
    cases lower : Letter.isLower c with
    | true => simp [eq_comm]
    | false => cases upper : Letter.isUpper c <;> simp

theorem ofGlyph?_eq_lock_iff {c glyph : Char} :
    ofGlyph? c = some (.lock glyph) ↔ Letter.isUpper c = true ∧ c ∉ reserved ∧ glyph = c := by
  by_cases listed : c ∈ reserved
  · obtain ⟨m, marker, -, notLock⟩ := exists_ofGlyph?_of_reserved listed
    simp [marker, notLock glyph, listed]
  · rw [ofGlyph?_eq_of_not_reserved listed]
    cases lower : Letter.isLower c with
    | true => simp [Letter.not_isUpper_of_isLower lower]
    | false => cases upper : Letter.isUpper c <;> simp [listed, eq_comm]

/-- The glyphs that place something and leave floor behind. -/
theorem isSome_ofGlyph?_iff {c : Char} :
    (ofGlyph? c).isSome = true ↔
      c ∈ reserved ∨ Letter.isLower c = true ∨ Letter.isUpper c = true := by
  by_cases listed : c ∈ reserved
  · obtain ⟨m, marker, -⟩ := exists_ofGlyph?_of_reserved listed
    simp [listed, marker]
  · rw [ofGlyph?_eq_of_not_reserved listed]
    cases lower : Letter.isLower c with
    | true => simp
    | false => cases upper : Letter.isUpper c <;> simp [listed]

/-! ## What the markers place -/

theorem hostile?_eq_some_iff {rules : Rules} {p : Position} {m : Marker} {e : Entity} :
    m.hostile? rules p = some e ↔
      (m = .enemy ∧ e = .enemy p rules.enemyHp) ∨ (m = .boss ∧ e = .boss p rules.bossHp) := by
  cases m <;> simp [hostile?, eq_comm]

theorem fixture?_eq_some_iff {p : Position} {m : Marker} {e : Entity} :
    m.fixture? p = some e ↔
      (m = .exit ∧ e = .exit p) ∨ (m = .rubble ∧ e = .rubble p) ∨
        (∃ letter, m = .key letter ∧ e = .key p letter) ∨
        ∃ glyph, m = .lock glyph ∧ e = .lock p glyph := by
  cases m <;> simp [fixture?, eq_comm]

end Marker

namespace Grid

variable {g : Grid} {p : Position}

theorem mem_marks_iff_glyph? {m : Marker} :
    (p, m) ∈ g.marks ↔ ∃ c, g.glyph? p = some c ∧ Marker.ofGlyph? c = some m := by
  simp only [mem_marks_iff, mem_cells_iff_glyph?]

theorem mem_marks_iff_of_fixed {m : Marker} (fixed : Marker.ofGlyph? m.glyph = some m) :
    (p, m) ∈ g.marks ↔ g.glyph? p = some m.glyph := by
  simp only [mem_marks_iff_glyph?, Marker.ofGlyph?_eq_some_iff_of_fixed fixed, exists_eq_right]

theorem mem_marks_key_iff {letter : Char} :
    (p, .key letter) ∈ g.marks ↔ g.glyph? p = some letter ∧ Letter.isLower letter = true := by
  rw [mem_marks_iff_glyph?]
  constructor
  · rintro ⟨c, cell, marker⟩
    obtain ⟨lower, rfl⟩ := Marker.ofGlyph?_eq_key_iff.mp marker
    exact ⟨cell, lower⟩
  · rintro ⟨cell, lower⟩
    exact ⟨letter, cell, Marker.ofGlyph?_eq_key_iff.mpr ⟨lower, rfl⟩⟩

theorem mem_marks_lock_iff {glyph : Char} :
    (p, .lock glyph) ∈ g.marks ↔
      g.glyph? p = some glyph ∧ Letter.isUpper glyph = true ∧ glyph ∉ Marker.reserved := by
  rw [mem_marks_iff_glyph?]
  constructor
  · rintro ⟨c, cell, marker⟩
    obtain ⟨upper, unlisted, rfl⟩ := Marker.ofGlyph?_eq_lock_iff.mp marker
    exact ⟨cell, upper, unlisted⟩
  · rintro ⟨cell, upper, unlisted⟩
    exact ⟨glyph, cell, Marker.ofGlyph?_eq_lock_iff.mpr ⟨upper, unlisted, rfl⟩⟩

/-- What marks place on their own cells stands in reading order. -/
theorem placed_pairwise (g : Grid) {place : Position × Marker → Option Entity}
    (own : ∀ mark e, place mark = some e → e.position = mark.1) :
    (g.marks.filterMap place).Pairwise fun a b => a.position.Before b.position := by
  rw [List.pairwise_filterMap]
  refine g.marks_pairwise.imp ?_
  intro m n before a placed b placed'
  rwa [own m a placed, own n b placed']

theorem mem_hostiles_iff {rules : Rules} {e : Entity} :
    e ∈ (g.marks.filterMap fun (p, m) => m.hostile? rules p) ↔ ∃ p,
      (g.glyph? p = some 'G' ∧ e = .enemy p rules.enemyHp) ∨
        (g.glyph? p = some 'B' ∧ e = .boss p rules.bossHp) := by
  have enemy (p : Position) : (p, .enemy) ∈ g.marks ↔ g.glyph? p = some 'G' :=
    mem_marks_iff_of_fixed rfl
  have boss (p : Position) : (p, .boss) ∈ g.marks ↔ g.glyph? p = some 'B' :=
    mem_marks_iff_of_fixed rfl
  simp only [List.mem_filterMap, Prod.exists, Marker.hostile?_eq_some_iff]
  constructor
  · rintro ⟨p, m, mark, ⟨rfl, rfl⟩ | ⟨rfl, rfl⟩⟩
    · exact ⟨p, .inl ⟨(enemy p).mp mark, rfl⟩⟩
    · exact ⟨p, .inr ⟨(boss p).mp mark, rfl⟩⟩
  · rintro ⟨p, ⟨cell, rfl⟩ | ⟨cell, rfl⟩⟩
    · exact ⟨p, .enemy, (enemy p).mpr cell, .inl ⟨rfl, rfl⟩⟩
    · exact ⟨p, .boss, (boss p).mpr cell, .inr ⟨rfl, rfl⟩⟩

theorem mem_fixtures_iff {e : Entity} :
    e ∈ (g.marks.filterMap fun (p, m) => m.fixture? p) ↔ ∃ p c, g.glyph? p = some c ∧
      ((c = '>' ∧ e = .exit p) ∨ (c = 'R' ∧ e = .rubble p) ∨
        (Letter.isLower c = true ∧ e = .key p c) ∨
        (Letter.isUpper c = true ∧ c ∉ Marker.reserved ∧ e = .lock p c)) := by
  have exit (p : Position) : (p, .exit) ∈ g.marks ↔ g.glyph? p = some '>' :=
    mem_marks_iff_of_fixed rfl
  have rubble (p : Position) : (p, .rubble) ∈ g.marks ↔ g.glyph? p = some 'R' :=
    mem_marks_iff_of_fixed rfl
  simp only [List.mem_filterMap, Prod.exists, Marker.fixture?_eq_some_iff]
  constructor
  · rintro ⟨p, m, mark, ⟨rfl, rfl⟩ | ⟨rfl, rfl⟩ | ⟨c, rfl, rfl⟩ | ⟨c, rfl, rfl⟩⟩
    · exact ⟨p, '>', (exit p).mp mark, .inl ⟨rfl, rfl⟩⟩
    · exact ⟨p, 'R', (rubble p).mp mark, .inr (.inl ⟨rfl, rfl⟩)⟩
    · obtain ⟨cell, lower⟩ := mem_marks_key_iff.mp mark
      exact ⟨p, c, cell, .inr (.inr (.inl ⟨lower, rfl⟩))⟩
    · obtain ⟨cell, upper, unlisted⟩ := mem_marks_lock_iff.mp mark
      exact ⟨p, c, cell, .inr (.inr (.inr ⟨upper, unlisted, rfl⟩))⟩
  · rintro ⟨p, c, cell, ⟨rfl, rfl⟩ | ⟨rfl, rfl⟩ | ⟨lower, rfl⟩ | ⟨upper, unlisted, rfl⟩⟩
    · exact ⟨p, .exit, (exit p).mpr cell, .inl ⟨rfl, rfl⟩⟩
    · exact ⟨p, .rubble, (rubble p).mpr cell, .inr (.inl ⟨rfl, rfl⟩)⟩
    · exact ⟨p, .key c, mem_marks_key_iff.mpr ⟨cell, lower⟩, .inr (.inr (.inl ⟨c, rfl, rfl⟩))⟩
    · exact ⟨p, .lock c, mem_marks_lock_iff.mpr ⟨cell, upper, unlisted⟩,
        .inr (.inr (.inr ⟨c, rfl, rfl⟩))⟩

end Grid
end GridRunner
