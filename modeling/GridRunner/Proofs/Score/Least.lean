import GridRunner.Proofs.Score.Store

/-! # The least of all runs

A book holds for each level the least of what it held at first and of the runs recorded since
(`get?_serve`).  So neither the order of the records nor their repetition matters.  A store that is
faithful to a book answers a run of calls as the book does, call by call (`serve_faithful`).
-/

namespace GridRunner
namespace ScoreStore

def Call.strokesAt? (n : Nat) : Call → Option Nat
  | .record level strokes => if level = n then some strokes else none
  | _ => none

/-- What a store holds for a level at first, and every run recorded for it since. -/
def runsAt (seed : ScoreBook) (calls : List Call) (n : Nat) : List Nat :=
  (seed.get? n).toList ++ calls.filterMap (Call.strokesAt? n)

theorem mem_strokesAt?_iff {n strokes : Nat} {calls : List Call} :
    strokes ∈ calls.filterMap (Call.strokesAt? n) ↔ .record n strokes ∈ calls := by
  rw [List.mem_filterMap]
  constructor
  · rintro ⟨call, member, told⟩
    cases call with
    | record level strokes' =>
      by_cases same : level = n
      · simp only [Call.strokesAt?, same, if_true, Option.some.injEq] at told
        rw [← same, ← told]
        exact member
      · simp [Call.strokesAt?, same] at told
    | best level => cases told
    | all => cases told
  · intro member
    exact ⟨.record n strokes, member, by simp [Call.strokesAt?]⟩

theorem filterMap_strokesAt?_cons (n : Nat) (call : Call) (rest : List Call) :
    (call :: rest).filterMap (Call.strokesAt? n) =
      (call.strokesAt? n).toList ++ rest.filterMap (Call.strokesAt? n) := by
  rw [List.filterMap_cons]
  cases call.strokesAt? n <;> rfl

theorem serve_cons {σ : Type} [ScoreListing σ] (store : σ) (call : Call) (rest : List Call) :
    serve store (call :: rest) =
      ((answer call store).1 :: (serve (answer call store).2 rest).1,
        (serve (answer call store).2 rest).2) := rfl

/-- Being below the least is being below all. -/
theorem lt_min?_iff {xs : List Nat} {n : Nat} :
    (∀ least, xs.min? = some least → n < least) ↔ ∀ x ∈ xs, n < x := by
  cases least : xs.min? with
  | none =>
    rw [List.min?_eq_none_iff] at least
    simp [least]
  | some least' =>
    obtain ⟨member, below⟩ := List.min?_eq_some_iff.mp least
    constructor
    · intro lt x hx
      exact Nat.lt_of_lt_of_le (lt least' rfl) (below x hx)
    · intro lt held same
      cases same
      exact lt least' member

theorem min?_congr {xs ys : List Nat} (same : ∀ n, n ∈ xs ↔ n ∈ ys) : xs.min? = ys.min? := by
  ext least
  simp only [List.min?_eq_some_iff, same]

/-! ## Calls of a book -/

section Book

variable (book : ScoreBook)

theorem answer_record (level strokes : Nat) :
    answer (.record level strokes) book =
      (.recorded (book.record level strokes).1, (book.record level strokes).2) := rfl

theorem get?_answer (call : Call) (n : Nat) :
    (answer call book).2.get? n =
      ((book.get? n).toList ++ (call.strokesAt? n).toList).min? := by
  cases call with
  | record level strokes =>
    have held := book.get?_record level strokes n
    refine held.trans ?_
    by_cases same : level = n
    · subst same
      simp [Call.strokesAt?]
    · have other : ¬ n = level := Ne.symm same
      rw [if_neg other]
      cases book.get? n <;> simp [Call.strokesAt?, same]
  | best level => cases held : book.get? n <;> simp [answer, Reply.of, best, Call.strokesAt?, held]
  | all =>
      cases held : book.get? n <;>
        simp [answer, Reply.of, ScoreListing.all, Call.strokesAt?, held]

theorem get?_serve (calls : List Call) (n : Nat) :
    (serve book calls).2.get? n = (runsAt book calls n).min? := by
  induction calls generalizing book with
  | nil =>
    show book.get? n = _
    cases held : book.get? n <;> simp [runsAt, held]
  | cons call rest ih =>
    -- The least so far stands for all the runs that it is the least of.
    rw [serve_cons, ih, runsAt, runsAt, get?_answer, ScoreBook.min?_toList_append,
      filterMap_strokesAt?_cons,
      List.append_assoc]

/-- What a store of the least runs replies, given what it held at first and the calls so far. -/
inductive Keeps (seed : ScoreBook) (calls : List Call) : Call → Reply → Prop
  | record {level strokes : Nat} {improved : Bool} :
      (improved = true ↔ ∀ run ∈ runsAt seed calls level, strokes < run) →
      Keeps seed calls (.record level strokes) (.recorded improved)
  | best {level : Nat} : Keeps seed calls (.best level) (.best (runsAt seed calls level).min?)
  | all {book : ScoreBook} : (∀ n, book.get? n = (runsAt seed calls n).min?) →
      Keeps seed calls .all (.all book)

theorem keeps_answer (calls : List Call) (call : Call) :
    Keeps book calls call (answer call (serve book calls).2).1 := by
  cases call with
  | record level strokes =>
    rw [answer_record]
    refine .record ?_
    rw [ScoreBook.record_fst, get?_serve, ScoreBook.improves_iff]
    exact lt_min?_iff
  | best level =>
    have told : (answer (.best level) (serve book calls).2).1 =
        .best ((serve book calls).2.get? level) := rfl
    rw [told, get?_serve]
    exact .best
  | all => exact .all (get?_serve book calls)

/-- Books that took the same records hold the same, however the records came. -/
theorem serve_congr {calls calls' : List Call}
    (same : ∀ level strokes, .record level strokes ∈ calls' ↔ .record level strokes ∈ calls) :
    (serve book calls').2 = (serve book calls).2 := by
  ext n : 1
  rw [get?_serve, get?_serve]
  apply min?_congr
  intro strokes
  simp only [runsAt, List.mem_append, mem_strokesAt?_iff, same]

theorem record_repeated {calls : List Call} {level strokes : Nat}
    (member : .record level strokes ∈ calls) :
    ((serve book calls).2.record level strokes).1 = false := by
  rw [ScoreBook.record_fst, get?_serve, Bool.eq_false_iff, ne_eq, ScoreBook.improves_iff,
    lt_min?_iff]
  intro below
  have run : strokes ∈ runsAt book calls level :=
    List.mem_append_right _ (mem_strokesAt?_iff.mpr member)
  exact Nat.lt_irrefl strokes (below strokes run)

end Book

end ScoreStore

/-! ## Stores like a book -/

/-- A store that answers every call as a book does while it is sound, and is not touched by a record
that is no better. -/
structure ScoreListing.Faithful (σ : Type) [ScoreListing σ] (book : σ → ScoreBook)
    (sound : σ → Prop) : Prop extends ScoreStore.Faithful σ book sound where
  all : ∀ store, sound store → ScoreListing.all store = (.ok (book store), store)
  unimproved : ∀ level strokes store, sound store →
    ((book store).record level strokes).1 = false →
    (ScoreStore.record level strokes store).2 = store

theorem ScoreBook.listing_faithful : ScoreListing.Faithful ScoreBook id fun _ => True where
  toFaithful := ScoreBook.faithful
  all _ _ := rfl
  unimproved _ _ _ _ worse := ScoreBook.eq_of_record (Prod.ext worse rfl)

theorem ScoreFile.record_of_unimproved {f : ScoreFile} {level strokes : Nat}
    (worse : (f.book.record level strokes).1 = false) :
    f.record level strokes = (.ok false, f) := by
  unfold record recordWith
  split
  · rfl
  · rename_i book improved
    rw [improved] at worse
    cases worse

theorem ScoreFile.listing_faithful : ScoreListing.Faithful ScoreFile book (·.disk.Writable) where
  toFaithful := ScoreFile.faithful
  all _ _ := rfl
  unimproved _ _ _ _ worse := congrArg Prod.snd (ScoreFile.record_of_unimproved worse)

namespace ScoreStore

section Faithful

variable {σ α : Type} [ScoreListing σ] {book : σ → ScoreBook} {sound : σ → Prop}

omit [ScoreListing σ] in
theorem Reply.of_eq {answered : Except ScoreError α × σ} {a : α} (reply : α → Reply)
    (ok : answered.1 = .ok a) : Reply.of reply answered = (reply a, answered.2) := by
  obtain ⟨answer, store⟩ := answered
  cases ok
  rfl

variable (faithful : ScoreListing.Faithful σ book sound)

include faithful

theorem answer_faithful {store : σ} (h : sound store) (call : Call) :
    (answer call store).1 = (answer call (book store)).1 ∧
      book (answer call store).2 = (answer call (book store)).2 ∧
      sound (answer call store).2 := by
  cases call with
  | record level strokes =>
    have told := Reply.of_eq .recorded (faithful.record_ok level strokes store h)
    refine ⟨congrArg Prod.fst told, ?_, ?_⟩
    · exact (congrArg (book ·.2) told).trans (faithful.record_book level strokes store h)
    · exact (congrArg (sound ·.2) told).mpr (faithful.record_sound level strokes store h)
  | best level =>
    have told : answer (.best level) store = (.best ((book store).get? level), store) :=
      congrArg (Reply.of .best) (faithful.best level store h)
    rw [told]
    exact ⟨rfl, rfl, h⟩
  | all =>
    have told : answer .all store = (.all (book store), store) :=
      congrArg (Reply.of .all) (faithful.all store h)
    rw [told]
    exact ⟨rfl, rfl, h⟩

theorem serve_faithful {store : σ} (h : sound store) (calls : List Call) :
    (serve store calls).1 = (serve (book store) calls).1 ∧
      book (serve store calls).2 = (serve (book store) calls).2 ∧
      sound (serve store calls).2 := by
  induction calls generalizing store with
  | nil => exact ⟨rfl, rfl, h⟩
  | cons call rest ih =>
    obtain ⟨reply, after, sound'⟩ := answer_faithful faithful h call
    obtain ⟨replies, last, sound''⟩ := ih sound'
    rw [after] at replies last
    rw [serve_cons, serve_cons, reply, replies]
    exact ⟨rfl, last, sound''⟩

/-- A call that was made before changes nothing when it is made again. -/
theorem answer_repeated {store : σ} (h : sound store) {calls : List Call} {call : Call}
    (member : call ∈ calls) :
    (answer call (serve store calls).2).2 = (serve store calls).2 := by
  obtain ⟨-, last, sound'⟩ := serve_faithful faithful h calls
  cases call with
  | record level strokes =>
    have told := Reply.of_eq .recorded (faithful.record_ok level strokes _ sound')
    have worse := record_repeated (book store) member
    rw [← last] at worse
    exact (congrArg Prod.snd told).trans (faithful.unimproved level strokes _ sound' worse)
  | best level => exact congrArg (Prod.snd ∘ Reply.of .best) (faithful.best level _ sound')
  | all => exact congrArg (Prod.snd ∘ Reply.of .all) (faithful.all _ sound')

end Faithful

/-- A book in memory and a file that can be written, with the same scores to begin with, answer
every call alike: a record by whether it is below everything so far, the others by the least of all
that.  The same records, in whatever order and however often they come, leave the same scores. -/
theorem serve_keeps_least (seed : ScoreBook) {disk : Disk} (writable : disk.Writable)
    (calls : List Call) :
    let file : ScoreFile := ⟨seed, disk⟩
    (serve file calls).1 = (serve seed calls).1 ∧
    (serve file calls).2.book = (serve seed calls).2 ∧
    (∀ call, Keeps seed calls call (answer call (serve seed calls).2).1 ∧
      (answer call (serve file calls).2).1 = (answer call (serve seed calls).2).1) ∧
    (∀ call ∈ calls, (answer call (serve seed calls).2).2 = (serve seed calls).2 ∧
      (answer call (serve file calls).2).2 = (serve file calls).2) ∧
    ∀ calls', (∀ level strokes, .record level strokes ∈ calls' ↔ .record level strokes ∈ calls) →
      (serve seed calls').2 = (serve seed calls).2 ∧
      (serve file calls').2.book = (serve file calls).2.book := by
  intro file
  have sound : file.disk.Writable := writable
  obtain ⟨replies, last, sound'⟩ := serve_faithful ScoreFile.listing_faithful sound calls
  refine ⟨replies, last, ?_, ?_, ?_⟩
  · intro call
    have told := (answer_faithful ScoreFile.listing_faithful sound' call).1
    rw [last] at told
    exact ⟨keeps_answer seed calls call, told⟩
  · intro call member
    exact ⟨answer_repeated ScoreBook.listing_faithful trivial member,
      answer_repeated ScoreFile.listing_faithful sound member⟩
  · intro calls' same
    have memory := serve_congr seed same
    have other := (serve_faithful ScoreFile.listing_faithful sound calls').2.1
    exact ⟨memory, other.trans (memory.trans last.symm)⟩

/-- A tie, a level without a score and a repeated record, and the same records in another order. -/
theorem serve_keeps_least_tie :
    let seed : ScoreBook := Table.empty.insert 7 3
    let disk : Disk := { folder := .missing }
    let file : ScoreFile := ⟨seed, disk⟩
    let calls : List Call := [.record 7 3, .record 7 2, .best 7, .record 8 0, .record 7 2, .all]
    let calls' : List Call := [.record 8 0, .record 7 2, .best 9, .record 7 3]
    disk.Writable ∧
      (∀ level strokes, .record level strokes ∈ calls' ↔ .record level strokes ∈ calls) ∧
      (serve file calls).1 = [.recorded false, .recorded true, .best (some 2), .recorded true,
        .recorded false, .all ((Table.empty.insert 7 2).insert 8 0)] ∧
      Keeps seed calls (.record 7 2) (answer (.record 7 2) (serve seed calls).2).1 ∧
      (answer (.record 7 2) (serve file calls).2).2 = (serve file calls).2 ∧
      (serve file calls').2.book = (serve file calls).2.book := by
  intro seed disk file calls calls'
  have writable : disk.Writable := ⟨by decide, by decide, by decide⟩
  have same : ∀ level strokes, .record level strokes ∈ calls' ↔ .record level strokes ∈ calls := by
    intro level strokes
    simp only [calls, calls', List.mem_cons, Call.record.injEq, List.not_mem_nil, or_false,
      reduceCtorEq, false_or]
    omega
  obtain ⟨replies, -, next, again, reordered⟩ := serve_keeps_least seed writable calls
  refine ⟨writable, same, replies.trans (by decide +kernel), (next _).1, ?_,
    (reordered calls' same).2⟩
  exact (again (.record 7 2) (by decide)).2

end ScoreStore
end GridRunner
