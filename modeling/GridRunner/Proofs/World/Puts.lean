import GridRunner.Proofs.World.Removal
import Mathlib.Data.List.TakeWhile

/-! # Locks tried front to back

A put tries the letter it holds on one lock in reach after the other.  Each lock that does not take
it says so, and the first that does is opened and ends the trial (`Tries`).  Nothing else about the
locks matters: not their cells, not what stands between them, and not whether two are alike.
-/

namespace GridRunner

namespace World

def nearLock (w : World) (e : Entity) : Bool :=
  e.kind.isLock && decide (w.player.position.distance e.position ≤ 1)

def nearLocks (w : World) : List Entity := w.fixtures.filter w.nearLock

/-- What comes of a letter that is tried on the locks in reach. -/
inductive Tries (w : World) (register held : Char) : Put × World → Prop
  /-- The first lock that takes the letter is the one entity removed. -/
  | opened {front back : List Entity} {lock : Entity} :
      w.fixtures = front ++ lock :: back → w.nearLock lock = true → lock.kind = .lock held →
      (∀ e ∈ front, w.nearLock e = true → e.kind ≠ .lock held) →
      Tries w register held
        (.unlocked held,
          { w with
            fixtures := front ++ back
            log := ((front.filter w.nearLock).map (fun e =>
                s!"Failure: Register '{register}' holds '{held}', Lock {e.symbol} rejects it.") ++
              [s!"Access Granted: Lock {lock.symbol} disengaged!"]).foldl MessageLog.push w.log })
  /-- Every lock refuses, and the letter of the last is reported. -/
  | refused {before : List Entity} {last : Entity} {required : Char} :
      w.nearLocks = before ++ [last] → last.kind = .lock required →
      (∀ e ∈ w.nearLocks, e.kind ≠ .lock held) →
      Tries w register held
        (.mismatch held required,
          { w with
            log := (w.nearLocks.map fun e =>
              s!"Failure: Register '{register}' holds '{held}', Lock {e.symbol} rejects it.").foldl
                MessageLog.push w.log })
  | nothing : w.nearLocks = [] → Tries w register held (.nothingInRange, w)

section Trial

variable {w : World} {held : Char}

/-! ## The locks that are tried -/

theorem exists_lockInReach? {e : Entity} (near : w.nearLock e = true) :
    ∃ letter, e.kind = .lock letter ∧
      e.lockInReach? w.player.position = some (letter, e.symbol) := by
  rw [nearLock, Bool.and_eq_true] at near
  obtain ⟨lock, close⟩ := near
  cases kind : e.kind with
  | lock letter => exact ⟨letter, rfl, by simp only [Entity.lockInReach?, kind]; exact if_pos close⟩
  | _ =>
    rw [kind] at lock
    cases lock

theorem lockInReach?_of_far {e : Entity} (far : w.nearLock e = false) :
    e.lockInReach? w.player.position = none := by
  unfold Entity.lockInReach?
  cases kind : e.kind with
  | lock letter =>
    rw [nearLock, kind] at far
    exact if_neg (Bool.eq_false_iff.mp far)
  | _ => rfl

theorem filterMap_lockInReach? (w : World) (es : List Entity) :
    es.filterMap (·.lockInReach? w.player.position) =
      (es.filter w.nearLock).filterMap (·.lockInReach? w.player.position) := by
  rw [List.filterMap_filter]
  refine List.filterMap_congr fun e _ => ?_
  cases near : w.nearLock e with
  | true => rfl
  | false => exact lockInReach?_of_far near

/-- The locks in reach are told by their glyphs. -/
theorem map_refusal (w : World) (register held : Char) (es : List Entity) :
    (es.filterMap (·.lockInReach? w.player.position)).map
        (fun lock => refusal register held lock.2) =
      (es.filter w.nearLock).map fun e => refusal register held e.symbol := by
  rw [filterMap_lockInReach?, List.map_filterMap, ← List.filterMap_eq_map]
  refine List.filterMap_congr fun e member => ?_
  obtain ⟨letter, -, reach⟩ := exists_lockInReach? (List.mem_filter.mp member).2
  simp [reach]

theorem refuses_of_ne {es : List Entity}
    (others : ∀ e ∈ es, w.nearLock e = true → e.kind ≠ .lock held) :
    ∀ lock ∈ es.filterMap (·.lockInReach? w.player.position), (lock.1 != held) = true := by
  rintro ⟨letter, glyph⟩ member
  obtain ⟨e, among, reach⟩ := List.mem_filterMap.mp member
  have near : w.nearLock e = true := by
    by_contra far
    rw [lockInReach?_of_far (Bool.eq_false_iff.mpr far)] at reach
    cases reach
  refine bne_iff_ne.mpr fun same => others e among near ?_
  exact (same : letter = held) ▸ Entity.kind_of_lockInReach? reach

theorem not_opensTo_of_ne {e : Entity} (other : w.nearLock e = true → e.kind ≠ .lock held) :
    ¬ e.opensTo w.player.position held = true := by
  intro opens
  cases near : w.nearLock e with
  | true => exact other near (Entity.kind_of_opensTo opens)
  | false => simp [Entity.opensTo, lockInReach?_of_far near] at opens

/-! ## The trial -/

variable {register : Char}

theorem put_of_opened (holds : w.registers.get? register = some held) {front back : List Entity}
    {lock : Entity} (split : w.fixtures = front ++ lock :: back) (near : w.nearLock lock = true)
    (takes : lock.kind = .lock held)
    (others : ∀ e ∈ front, w.nearLock e = true → e.kind ≠ .lock held) :
    w.put register =
      (.unlocked held,
        { w with
          fixtures := front ++ back
          log := ((front.filter w.nearLock).map (fun e => refusal register held e.symbol) ++
            [s!"Access Granted: Lock {lock.symbol} disengaged!"]).foldl
              MessageLog.push w.log }) := by
  obtain ⟨letter, kind, reach⟩ := exists_lockInReach? near
  obtain rfl : held = letter := Entity.Kind.lock.inj (takes.symm.trans kind)
  have refuse := refuses_of_ne others
  have tried : w.locksInReach = front.filterMap (·.lockInReach? w.player.position) ++
      (held, lock.symbol) :: back.filterMap (·.lockInReach? w.player.position) := by
    rw [locksInReach, split, List.filterMap_append, List.filterMap_cons_some reach]
  have refused : w.locksInReach.takeWhile (·.1 != held) =
      front.filterMap (·.lockInReach? w.player.position) := by
    rw [tried, List.takeWhile_append_of_pos refuse, List.takeWhile_cons_of_neg (by simp),
      List.append_nil]
  have opened : w.locksInReach.dropWhile (·.1 != held) =
      (held, lock.symbol) :: back.filterMap (·.lockInReach? w.player.position) := by
    rw [tried, List.dropWhile_append_of_pos refuse, List.dropWhile_cons_of_neg (by simp)]
  have left : w.fixtures.eraseP (·.opensTo w.player.position held) = front ++ back := by
    rw [split, List.eraseP_append_right _ fun e member => not_opensTo_of_ne (others e member),
      List.eraseP_cons_of_pos (Entity.opensTo_of_lockInReach? reach)]
  unfold put
  simp only [holds, refused, opened, left,
    foldl_note (fun lock : Char × Char => refusal register held lock.2), map_refusal]
  rw [note, List.foldl_append]
  rfl

theorem put_of_refused (holds : w.registers.get? register = some held)
    (others : ∀ e ∈ w.nearLocks, e.kind ≠ .lock held) :
    w.put register =
      (match w.locksInReach.getLast? with
        | some (required, _) => .mismatch held required
        | none => .nothingInRange,
        { w with
          log := (w.nearLocks.map fun e => refusal register held e.symbol).foldl
            MessageLog.push w.log }) := by
  have refuse : ∀ lock ∈ w.locksInReach, (lock.1 != held) = true :=
    refuses_of_ne fun e member near => others e (List.mem_filter.mpr ⟨member, near⟩)
  have refused : w.locksInReach.takeWhile (·.1 != held) = w.locksInReach :=
    List.takeWhile_eq_self_iff.mpr refuse
  have opened : w.locksInReach.dropWhile (·.1 != held) = [] :=
    List.dropWhile_eq_nil_iff.mpr refuse
  have told : w.locksInReach.map (fun lock => refusal register held lock.2) =
      w.nearLocks.map fun e => refusal register held e.symbol :=
    map_refusal w register held w.fixtures
  unfold put
  simp only [holds, refused, opened, told,
    foldl_note (fun lock : Char × Char => refusal register held lock.2)]
  cases w.locksInReach.getLast? with
  | none => rfl
  | some last => rfl

theorem getLast?_locksInReach {before : List Entity} {last : Entity} {required : Char}
    (near : w.nearLocks = before ++ [last]) (kind : last.kind = .lock required) :
    w.locksInReach.getLast? = some (required, last.symbol) := by
  have member : last ∈ w.nearLocks := by simp [near]
  obtain ⟨letter, kind', reach⟩ := exists_lockInReach? (List.mem_filter.mp member).2
  obtain rfl : required = letter := Entity.Kind.lock.inj (kind.symm.trans kind')
  rw [locksInReach, filterMap_lockInReach?, ← nearLocks, near, List.filterMap_append,
    List.filterMap_cons_some reach, List.getLast?_append]
  rfl

theorem locksInReach_eq_nil (none : w.nearLocks = []) : w.locksInReach = [] := by
  rw [locksInReach, filterMap_lockInReach?, ← nearLocks, none]
  rfl

theorem Tries.put_eq {answer : Put × World} (tries : Tries w register held answer)
    (holds : w.registers.get? register = some held) : w.put register = answer := by
  cases tries with
  | opened split near takes others => exact put_of_opened holds split near takes others
  | refused near kind others =>
    rw [put_of_refused holds others, getLast?_locksInReach near kind]
    rfl
  | nothing none =>
    rw [put_of_refused holds (by simp [none]), locksInReach_eq_nil none, none]
    rfl

/-- Some lock in reach takes the letter, all of them refuse, or there is none. -/
theorem exists_tries (w : World) (register held : Char) :
    ∃ answer, Tries w register held answer := by
  by_cases refused : ∀ e ∈ w.nearLocks, e.kind ≠ .lock held
  · rcases List.eq_nil_or_concat w.nearLocks with none | ⟨before, last, near⟩
    · exact ⟨_, .nothing none⟩
    · have member : last ∈ w.nearLocks := by simp [near]
      obtain ⟨letter, kind, -⟩ := exists_lockInReach? (List.mem_filter.mp member).2
      exact ⟨_, .refused (near.trans List.concat_eq_append) kind refused⟩
  · push Not at refused
    obtain ⟨lock, member, takes⟩ := refused
    obtain ⟨among, near⟩ := List.mem_filter.mp member
    let opens : Entity → Bool := fun e => w.nearLock e && e.kind == .lock held
    have some_opens : opens lock = true := by simp [opens, near, takes]
    obtain ⟨first, front, back, passed, found, split, -⟩ := List.exists_of_eraseP among some_opens
    simp only [opens, Bool.and_eq_true, beq_iff_eq] at passed found
    refine ⟨_, .opened split found.1 found.2 fun e member near' kind => ?_⟩
    exact passed e member ⟨near', kind⟩

end Trial

/-- A put from an empty register only says so.  One that holds a letter does what trying the letter
on the locks in reach comes to, and nothing else. -/
theorem put_exact (register : Char) (w : World) :
    (w.registers.get? register = none →
      w.put register =
        (.emptyRegister,
          { w with log := w.log.push s!"Error: Register '{register}' is currently empty." })) ∧
    ∀ held, w.registers.get? register = some held →
      ∀ answer, w.put register = answer ↔ Tries w register held answer := by
  refine ⟨fun empty => ?_, fun held holds answer => ⟨?_, fun tries => tries.put_eq holds⟩⟩
  · rw [put, empty]
    rfl
  · rintro rfl
    obtain ⟨answer, tries⟩ := exists_tries w register held
    rw [tries.put_eq holds]
    exact tries

/-- Of two locks on one cell the first refuses and the second opens; a like lock out of reach, a key
between them and a like lock behind them stay. -/
theorem put_exact_crowded :
    let w : World :=
      { World.empty {} with
        fixtures := [.lock ⟨5, 0⟩ 'A', .lock ⟨1, 0⟩ 'C', .key ⟨0, 1⟩ 'a', .lock ⟨1, 0⟩ 'A',
          .lock ⟨0, 1⟩ 'A']
        registers := Table.empty.insert 'x' 'a' }
    w.registers.get? 'x' = some 'a' ∧ w.registers.get? 'y' = none ∧
      w.put 'x' =
        (.unlocked 'a',
          { w with
            fixtures :=
              [.lock ⟨5, 0⟩ 'A', .lock ⟨1, 0⟩ 'C', .key ⟨0, 1⟩ 'a', .lock ⟨0, 1⟩ 'A']
            log := ["Failure: Register 'x' holds 'a', Lock C rejects it.",
              "Access Granted: Lock A disengaged!"].foldl MessageLog.push w.log }) ∧
      w.put 'y' =
        (.emptyRegister,
          { w with log := w.log.push "Error: Register 'y' is currently empty." }) := by
  intro w
  have holds : w.registers.get? 'x' = some 'a' := by decide
  have empty : w.registers.get? 'y' = none := by decide
  have tries := @Tries.opened w 'x' 'a' [.lock ⟨5, 0⟩ 'A', .lock ⟨1, 0⟩ 'C', .key ⟨0, 1⟩ 'a']
    [.lock ⟨0, 1⟩ 'A'] (.lock ⟨1, 0⟩ 'A') rfl (by decide +kernel) (by decide +kernel)
    (by decide +kernel)
  exact ⟨holds, empty, ((put_exact 'x' w).2 'a' holds _).mpr tries, (put_exact 'y' w).1 empty⟩

end World
end GridRunner
