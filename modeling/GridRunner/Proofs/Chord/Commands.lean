import GridRunner.Proofs.Chord.Modes
import Mathlib.Data.List.Induction

/-! # The keys that complete a command

Of the keys of a run only some complete a command (`Commands`), and each of those tells the game
one action (`length_told_concat`).  Openings, changes of mode, ignored keys and the text of the
command line tell it none, and what escape drops was never told.
-/

namespace GridRunner

instance : DecidablePred Mode.TakesChords := fun m =>
  inferInstanceAs (Decidable (m = .normal ∨ m = .visual ∨ m = .visualLine))

theorem Motion.isSome_ofChar?_iff (key : Char) :
    (ofChar? key).isSome = true ↔ key ∈ ['h', 'j', 'k', 'l', 'w', 'b', '$', '0'] := by
  unfold ofChar?
  split <;> simp_all

namespace Chord

/-- The keys that complete a command.  On the command line it is enter.  In the modes that take
chords it is a yank, a put, a motion or the second half of a delete, unless the key is taken for
the name of a register or, a zero, for a digit of the count. -/
def Commands (m : Mode) (c : Chord) : Key → Prop
  | .enter => m = .command
  | .char key => m.TakesChords ∧ c.armed = false ∧
      (key ∈ ['y', 'p', 'h', 'j', 'k', 'l', 'w', 'b', '$'] ∨ (key = 'd' ∧ c.deleting = true) ∨
        (key = '0' ∧ c.digits = []))
  | .backspace | .escape => False

instance (m : Mode) (c : Chord) : DecidablePred (c.Commands m)
  | .enter => inferInstanceAs (Decidable (m = .command))
  | .char _ => inferInstanceAs (Decidable (_ ∧ _ ∧ _))
  | .backspace | .escape => inferInstanceAs (Decidable False)

/-! ## One key -/

theorem actions_pending (c : Chord) : c.pending.actions = [] := rfl

theorem letters_not_digits :
    ∀ key ∈ ['y', 'p', 'h', 'j', 'k', 'l', 'w', 'b', '$'], key.isDigit = false := by
  simp [Char.isDigit]

section Press

variable (jump : Int32) (c : Chord)

theorem length_actions_motion (m : Motion) : (c.motion jump m).actions.length = 1 := by
  obtain ⟨action, resolved⟩ := exists_motion_eq_resolve jump c m
  rw [resolved]
  rfl

theorem length_actions_commandKey (key : Char) :
    (c.commandKey jump key).actions.length =
      if key ∈ ['y', 'p', 'h', 'j', 'k', 'l', 'w', 'b', '$', '0'] ∨ (key = 'd' ∧ c.deleting = true)
        then 1 else 0 := by
  have motions := Motion.isSome_ofChar?_iff key
  unfold commandKey
  split
  · rfl
  · rfl
  · rfl
  · rfl
  · rfl
  · rfl
  · rename_i notY notP _ _ _ _
    by_cases delete : key = 'd'
    · subst delete
      cases c.deleting <;> rfl
    rw [operator?_of_ne delete]
    simp only [List.mem_cons, List.not_mem_nil, or_false] at motions ⊢
    cases found : Motion.ofChar? key with
    | some m =>
      have listed := motions.mp (by rw [found]; rfl)
      dsimp only
      rw [length_actions_motion, if_pos]
      grind
    | none =>
      have unlisted := mt motions.mpr (by simp [found])
      dsimp only
      rw [actions_pending, if_neg]
      · rfl
      · grind

theorem length_actions_normalChar {m : Mode} (takes : m.TakesChords) (key : Char) :
    (c.normalChar jump key).actions.length = if c.Commands m (.char key) then 1 else 0 := by
  -- The key is tried as the name of a register, a quote, a digit and a command, in this order.
  unfold normalChar
  split
  · rename_i awaited
    have armed : c.armed = true := decide_eq_true awaited
    rw [actions_pending, if_neg (by simp [Commands, armed])]
    rfl
  · rename_i settled
    have unarmed : c.armed = false := decide_eq_false settled
    split
    · rename_i quote
      rw [actions_pending, if_neg]
      · rfl
      · simp [Commands, quote.1]
    · split
      · rename_i digit
        rw [actions_pending, if_neg]
        · rfl
        · rintro ⟨-, -, listed | ⟨rfl, -⟩ | ⟨rfl, empty⟩⟩
          · exact absurd digit.1 (by simp [letters_not_digits key listed])
          · exact absurd digit.1 (by decide)
          · exact digit.2 ⟨rfl, List.isEmpty_iff.mpr empty⟩
      · rename_i typed
        have zero : key = '0' → c.digits = [] := by
          rintro rfl
          simpa using typed
        have same : (key ∈ ['y', 'p', 'h', 'j', 'k', 'l', 'w', 'b', '$', '0'] ∨
            (key = 'd' ∧ c.deleting = true)) ↔ c.Commands m (.char key) := by
          simp only [Commands, unarmed, takes, true_and, List.mem_cons, List.not_mem_nil, or_false]
          grind
        rw [length_actions_commandKey]
        simp only [same]

theorem length_actions_press (m : Mode) (key : Key) :
    (c.press jump m key).actions.length = if c.Commands m key then 1 else 0 := by
  cases key with
  | escape => rfl
  | enter => cases m <;> rfl
  | backspace => cases m <;> rfl
  | char key =>
    cases m with
    | command => rfl
    | insert => rfl
    | normal => exact length_actions_normalChar jump c (.inl rfl) key
    | visual => exact length_actions_normalChar jump c (.inr (.inl rfl)) key
    | visualLine => exact length_actions_normalChar jump c (.inr (.inr rfl)) key

end Press

/-! ## Runs of keys -/

/-- The actions told by a run of keys, typed to a new chord in normal mode. -/
def told (jump : Int32) (keys : List Key) : List Action :=
  (feed jump .normal idle keys).1.filterMap Signal.action?

theorem told_concat (jump : Int32) (keys : List Key) (key : Key) :
    told jump (keys ++ [key]) = told jump keys ++ (reply jump keys key).actions := by
  rw [told, feed_concat, List.filterMap_append]
  rfl

/-- One more key tells one more action if it completes a command, and none if it does not. -/
theorem length_told_concat (jump : Int32) (keys : List Key) (key : Key) :
    (told jump (keys ++ [key])).length =
      (told jump keys).length +
        if (reached jump keys).2.Commands (reached jump keys).1 key then 1 else 0 := by
  rw [told_concat, List.length_append, reply, length_actions_press]

theorem length_told_le (jump : Int32) (keys : List Key) :
    (told jump keys).length ≤ keys.length := by
  induction keys using List.reverseRecOn with
  | nil => exact Nat.le_refl 0
  | append_singleton keys key ih =>
    rw [told_concat, List.length_append, List.length_append, List.length_singleton]
    have one := (reply_reacts jump keys key).length_actions_le
    omega

end Chord
end GridRunner
