import GridRunner.Proofs.Chord.Commands

/-! # Motions and their counts

A key makes a move if it is a motion in a mode that takes chords, unless it names a register, goes
into the count or completes a delete (`motion?`).  Motions to either end of a line take no count.
-/

namespace GridRunner

def Action.move? : Action → Option Move
  | .move m => some m
  | _ => none

namespace Motion

/-- The motions of the keys `h`, `j`, `k`, `l`, `w` and `b`. -/
def TakesCount (m : Motion) : Prop :=
  m ∈ [left, down, up, right, wordForward, wordBackward]

instance : DecidablePred TakesCount := fun m =>
  inferInstanceAs (Decidable (m ∈ [left, down, up, right, wordForward, wordBackward]))

def moveOf (jump : Int32) (typed : Motion × Nat) : Move := typed.1.walk typed.2 jump

theorem one_lt_count_moveOf_iff {m : Motion} {count : Nat} {jump : Int32} :
    1 < (moveOf jump (m, count)).count ↔ m.TakesCount ∧ 1 < count := by
  cases m <;> simp [moveOf, walk, Move.counted, Move.sweep, TakesCount]

/-- No digit but zero is a motion. -/
theorem ofChar?_of_isDigit {key : Char} (digit : key.isDigit = true) (other : key ≠ '0') :
    ofChar? key = none := by
  rw [← Option.not_isSome_iff_eq_none, isSome_ofChar?_iff]
  intro listed
  have letter : key ∈ ['y', 'p', 'h', 'j', 'k', 'l', 'w', 'b', '$'] := by
    simp only [List.mem_cons, List.not_mem_nil, or_false] at listed ⊢
    grind
  rw [Chord.letters_not_digits key letter] at digit
  cases digit

end Motion

namespace Chord

/-- The motion that a key makes, and the count it was typed with. -/
def motion? (m : Mode) (c : Chord) : Key → Option (Motion × Nat)
  | .char key =>
      if m.TakesChords ∧ c.armed = false ∧ c.deleting = false ∧ (key = '0' → c.digits = []) then
        (Motion.ofChar? key).map fun motion => (motion, c.count)
      else none
  | .enter | .backspace | .escape => none

def Response.moves (r : Response) : List Move := r.actions.filterMap Action.move?

section Press

variable (jump : Int32) (c : Chord)

theorem moves_commandKey (key : Char) :
    (c.commandKey jump key).moves =
      ((if c.deleting = false then Motion.ofChar? key else none).map
        fun motion => Motion.moveOf jump (motion, c.count)).toList := by
  unfold commandKey
  split
  case h_7 =>
    by_cases delete : key = 'd'
    · subst delete
      cases c.deleting <;> rfl
    rw [operator?_of_ne delete]
    cases found : Motion.ofChar? key with
    | none => cases c.deleting <;> rfl
    | some motion =>
      dsimp only
      unfold Chord.motion
      cases c.deleting <;> rfl
  all_goals cases c.deleting <;> rfl

theorem moves_normalChar {m : Mode} (takes : m.TakesChords) (key : Char) :
    (c.normalChar jump key).moves =
      ((c.motion? m (.char key)).map (Motion.moveOf jump)).toList := by
  -- The key is tried as the name of a register, a quote, a digit and a command, in this order.
  unfold normalChar
  split
  · rename_i awaited
    have armed : c.armed = true := decide_eq_true awaited
    have none : c.motion? m (.char key) = none := by simp [motion?, armed]
    rw [none]
    rfl
  · rename_i settled
    have unarmed : c.armed = false := decide_eq_false settled
    split
    · rename_i quote
      have none : c.motion? m (.char key) = none := by simp [motion?, quote.1, Motion.ofChar?]
      rw [none]
      rfl
    · split
      · rename_i digit
        have none : c.motion? m (.char key) = none := by
          by_cases zero : key = '0'
          · have typed : c.digits ≠ [] := by simpa [zero] using digit.2
            simp [motion?, zero, typed]
          · simp [motion?, Motion.ofChar?_of_isDigit digit.1 zero]
        rw [none]
        rfl
      · rename_i typed
        have zero : key = '0' → c.digits = [] := by
          rintro rfl
          simpa using typed
        rw [moves_commandKey]
        cases deleting : c.deleting with
        | true => simp [motion?, deleting]
        | false =>
          have motion : c.motion? m (.char key) =
              (Motion.ofChar? key).map fun motion => (motion, c.count) :=
            if_pos ⟨takes, unarmed, deleting, zero⟩
          rw [motion, if_pos rfl, Option.map_map]
          rfl

theorem moves_press (m : Mode) (key : Key) :
    (c.press jump m key).moves =
      ((c.motion? m key).map (Motion.moveOf jump)).toList := by
  cases key with
  | escape => rfl
  | enter => cases m <;> rfl
  | backspace => cases m <;> rfl
  | char key =>
    cases m with
    | command => rfl
    | insert => rfl
    | normal => exact moves_normalChar jump c (.inl rfl) key
    | visual => exact moves_normalChar jump c (.inr (.inl rfl)) key
    | visualLine => exact moves_normalChar jump c (.inr (.inr rfl)) key

end Press

end Chord
end GridRunner
