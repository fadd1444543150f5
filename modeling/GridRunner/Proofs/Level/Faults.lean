import GridRunner.Proofs.Level.Glyphs

/-! # Why a map is refused

Each fault says something of its own about a map.  Of the faults that a map has the first is
reported, in the order of their ranks, and a map without one is accepted (`layout_eq_error_iff`).
-/

namespace GridRunner

namespace Position

structure IsFirst (P : Position → Prop) (p : Position) : Prop where
  holds : P p
  first : ∀ r, P r → r = p ∨ p.Before r

theorem IsFirst.unique {P : Position → Prop} {p q : Position} (hp : IsFirst P p)
    (hq : IsFirst P q) : p = q := by
  rcases hp.first q hq.holds with same | before
  · exact same.symm
  · rcases hq.first p hp.holds with same | before'
    · exact same
    · unfold Before at before before'
      omega

theorem isFirst_of_pairwise {P : Position → Prop} {p : Position} {rest : List Position}
    (ordered : (p :: rest).Pairwise Before) (listed : ∀ r, P r ↔ r ∈ p :: rest) :
    IsFirst P p := by
  refine ⟨(listed p).mpr (by simp), fun r hr => ?_⟩
  rcases List.mem_cons.mp ((listed r).mp hr) with same | later
  · exact .inl same
  · exact .inr (List.rel_of_pairwise_cons ordered later)

end Position

namespace Grid

theorem spawns_pairwise (g : Grid) : g.spawns.Pairwise Position.Before := by
  rw [spawns_eq, List.pairwise_map]
  exact g.cells_pairwise.filter _

theorem width_eq_zero_iff {g : Grid} : g.width = 0 ↔ ∀ row, g.head? = some row → row = [] := by
  cases g with
  | nil => simp [width]
  | cons row rest => simp [width]

end Grid

namespace Level

/-- The row that is reported is the topmost one of another length. -/
theorem ragged?_eq_some_iff {width y : Nat} {g : Grid} {row : List Char} :
    ragged? width g = some (row, y) ↔
      g[y]? = some row ∧ row.length ≠ width ∧
        ∀ above < y, ∀ even, g[above]? = some even → even.length = width := by
  rw [ragged?, List.find?_eq_some_iff_getElem]
  simp only [bne_iff_ne, ne_eq, List.getElem_zipIdx, Nat.zero_add, Prod.mk.injEq,
    List.length_zipIdx, Bool.not_eq_eq_eq_not, Bool.not_true, bne_eq_false_iff_eq]
  constructor
  · rintro ⟨odd, y', inside, ⟨here, rfl⟩, even⟩
    refine ⟨List.getElem?_eq_some_iff.mpr ⟨inside, here⟩, odd, fun above before row' here' => ?_⟩
    obtain ⟨-, rfl⟩ := List.getElem?_eq_some_iff.mp here'
    exact even above before
  · rintro ⟨here, odd, even⟩
    obtain ⟨inside, here⟩ := List.getElem?_eq_some_iff.mp here
    refine ⟨odd, y, inside, ⟨here, rfl⟩, fun above before => ?_⟩
    exact even above before _ (List.getElem?_eq_getElem (Nat.lt_trans before inside))

namespace Fault

/-- What a fault says of a map. -/
inductive Blames (g : Grid) : Fault → Prop
  | emptyMap : (∀ row, g.head? = some row → row = []) → Blames g .emptyMap
  | tooLarge : Rules.maxExtent < g.width ∨ Rules.maxExtent < g.height →
      Blames g (.tooLarge g.width g.height)
  | raggedRow {y : Nat} {row : List Char} : g[y]? = some row → row.length ≠ g.width →
      (∀ above < y, ∀ even, g[above]? = some even → even.length = g.width) →
      Blames g (.raggedRow y g.width row.length)
  | duplicatePlayer {p q : Position} :
      Position.IsFirst (fun r => g.glyph? r = some '@') p →
      Position.IsFirst (fun r => g.glyph? r = some '@' ∧ r ≠ p) q →
      Blames g (.duplicatePlayer p q)
  | missingPlayer : (∀ p, g.glyph? p ≠ some '@') → Blames g .missingPlayer

def rank : Fault → Nat
  | emptyMap => 0
  | tooLarge .. => 1
  | raggedRow .. => 2
  | duplicatePlayer .. => 3
  | missingPlayer => 4

/-- The first of the faults that a map has. -/
structure First (g : Grid) (fault : Fault) : Prop where
  blames : fault.Blames g
  least : ∀ other : Fault, other.Blames g → fault.rank ≤ other.rank

variable {g : Grid}

/-- A map has at most one fault of each rank. -/
theorem Blames.eq_of_rank {a b : Fault} (ha : a.Blames g) (hb : b.Blames g)
    (same : a.rank = b.rank) : a = b := by
  cases ha <;> cases hb <;> simp only [rank, reduceCtorEq, Nat.reduceEqDiff] at same
  case emptyMap.emptyMap => rfl
  case tooLarge.tooLarge => rfl
  case raggedRow.raggedRow here odd even _ _ here' odd' even' =>
    have found := ragged?_eq_some_iff.mpr ⟨here, odd, even⟩
    rw [ragged?_eq_some_iff.mpr ⟨here', odd', even'⟩] at found
    cases found
    rfl
  case duplicatePlayer.duplicatePlayer first second _ _ first' second' =>
    obtain rfl := first.unique first'
    obtain rfl := second.unique second'
    rfl
  case missingPlayer.missingPlayer => rfl

theorem First.unique {a b : Fault} (ha : a.First g) (hb : b.First g) : a = b :=
  ha.blames.eq_of_rank hb.blames
    (Nat.le_antisymm (ha.least b hb.blames) (hb.least a ha.blames))

/-- What a map fails when it has a fault of some rank. -/
theorem Blames.of_rank {fault : Fault} (h : fault.Blames g) :
    (fault.rank = 0 ∧ g.width = 0) ∨
      (fault.rank = 1 ∧ (Rules.maxExtent < g.width ∨ Rules.maxExtent < g.height)) ∨
      (fault.rank = 2 ∧ ragged? g.width g ≠ none) ∨
      (fault.rank = 3 ∧ 1 < g.spawns.length) ∨ (fault.rank = 4 ∧ g.spawns = []) := by
  cases h with
  | emptyMap rows => exact .inl ⟨rfl, Grid.width_eq_zero_iff.mpr rows⟩
  | tooLarge extent => exact .inr (.inl ⟨rfl, extent⟩)
  | raggedRow here odd even =>
    have found := ragged?_eq_some_iff.mpr ⟨here, odd, even⟩
    exact .inr (.inr (.inl ⟨rfl, by simp [found]⟩))
  | duplicatePlayer first second =>
    have listed := Grid.mem_spawns_iff_glyph?.mpr first.holds
    have listed' := Grid.mem_spawns_iff_glyph?.mpr second.holds.1
    have more : 1 < g.spawns.length := by
      by_contra few
      obtain ⟨p, single⟩ := List.length_eq_one_iff.mp
        (Nat.le_antisymm (Nat.le_of_not_lt few) (List.length_pos_of_mem listed))
      rw [single, List.mem_singleton] at listed listed'
      exact second.holds.2 (listed'.trans listed.symm)
    exact .inr (.inr (.inr (.inl ⟨rfl, more⟩)))
  | missingPlayer absent =>
    have none : g.spawns = [] := List.eq_nil_iff_forall_not_mem.mpr fun p listed =>
      absent p (Grid.mem_spawns_iff_glyph?.mp listed)
    exact .inr (.inr (.inr (.inr ⟨rfl, none⟩)))

theorem blames_duplicatePlayer {p q : Position} {rest : List Position}
    (spawns : g.spawns = p :: q :: rest) : (duplicatePlayer p q).Blames g := by
  have ordered := g.spawns_pairwise
  rw [spawns] at ordered
  have listed (r : Position) : g.glyph? r = some '@' ↔ r ∈ p :: q :: rest := by
    rw [← Grid.mem_spawns_iff_glyph?, spawns]
  refine .duplicatePlayer (Position.isFirst_of_pairwise ordered listed)
    (Position.isFirst_of_pairwise ordered.of_cons fun r => ?_)
  have once : p ∉ q :: rest := fun again =>
    (List.rel_of_pairwise_cons ordered again).ne rfl
  rw [listed, List.mem_cons]
  constructor
  · rintro ⟨same | later, other⟩
    · exact absurd same other
    · exact later
  · intro later
    exact ⟨.inr later, fun same => once (same ▸ later)⟩

end Fault

/-- The fault that is reported is the first that the map has. -/
theorem first_of_layout {rules : Rules} {level : Level} {fault : Fault}
    (h : level.layout rules = .error fault) : fault.First level.map := by
  -- Every test that a map passes rules the faults of one rank out.
  simp only [Level.layout] at h
  split at h
  · rename_i empty
    cases h
    exact ⟨.emptyMap (Grid.width_eq_zero_iff.mp empty), fun other _ => Nat.zero_le _⟩
  · rename_i filled
    split at h
    · rename_i large
      cases h
      refine ⟨.tooLarge large, fun other blames => ?_⟩
      have reason := blames.of_rank
      simp only [filled, and_false, false_or] at reason
      exact show 1 ≤ other.rank by omega
    · rename_i fits
      split at h
      · rename_i row y ragged
        cases h
        obtain ⟨here, odd, even⟩ := ragged?_eq_some_iff.mp ragged
        refine ⟨.raggedRow here odd even, fun other blames => ?_⟩
        have reason := blames.of_rank
        simp only [filled, fits, and_false, false_or] at reason
        exact show 2 ≤ other.rank by omega
      · rename_i even
        split at h
        · rename_i spawns
          cases h
          refine ⟨.missingPlayer fun p here => ?_, fun other blames => ?_⟩
          · have listed := Grid.mem_spawns_iff_glyph?.mpr here
            simp [spawns] at listed
          · have reason := blames.of_rank
            simp only [filled, fits, even, spawns, List.length_nil, Nat.not_lt_zero, ne_eq,
              not_true_eq_false, and_false, false_or] at reason
            exact show 4 ≤ other.rank by omega
        · rename_i first second rest spawns
          cases h
          refine ⟨Fault.blames_duplicatePlayer spawns, fun other blames => ?_⟩
          have reason := blames.of_rank
          simp only [filled, fits, even, ne_eq, not_true_eq_false, and_false, false_or] at reason
          exact show 3 ≤ other.rank by omega
        · cases h

/-- A map that can be played has no fault. -/
theorem not_blames_of_playable {map : Grid} (playable : map.Playable) (fault : Fault) :
    ¬ fault.Blames map := by
  intro blames
  have one : map.spawns.length = 1 := map.length_spawns.trans playable.one_player
  have even := ragged?_eq_none_iff.mpr playable.rectangular
  have narrow := playable.width_le
  have low := playable.height_le
  have filled := playable.width_pos
  rcases blames.of_rank with ⟨-, empty⟩ | ⟨-, large⟩ | ⟨-, ragged⟩ | ⟨-, more⟩ | ⟨-, none⟩
  · omega
  · omega
  · exact ragged even
  · omega
  · rw [none] at one
    cases one

/-- A level is refused for the first fault of its map. -/
theorem layout_eq_error_iff {rules : Rules} {level : Level} {fault : Fault} :
    level.layout rules = .error fault ↔ fault.First level.map := by
  refine ⟨first_of_layout, fun first => ?_⟩
  cases read : level.layout rules with
  | error other => rw [(first_of_layout read).unique first]
  | ok layout =>
    have playable := (layout_eq_ok_iff.mp read).1
    exact absurd first.blames (not_blames_of_playable playable fault)

end Level
end GridRunner
