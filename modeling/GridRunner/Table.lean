/-!
# Ordered tables

A table holds at most one value per key and lists its keys in increasing order.
Writing a key answers later reads of that key and of no other, and two tables
that answer every read alike are equal.
-/

namespace GridRunner

/-- Pairs of a key and its value, keys strictly increasing. -/
structure Table (κ ν : Type) [LT κ] where
  entries : List (κ × ν) := []
  sorted : entries.Pairwise (fun a b => a.1 < b.1) := by simp

namespace Table

variable {κ ν : Type} [LT κ]

theorem ext_entries {a b : Table κ ν} (h : a.entries = b.entries) : a = b := by
  cases a
  cases b
  simp_all

instance [DecidableEq κ] [DecidableEq ν] : DecidableEq (Table κ ν) := fun a b =>
  if h : a.entries = b.entries then .isTrue (ext_entries h)
  else .isFalse (fun same => h (same ▸ rfl))

def empty : Table κ ν := {}

instance : Inhabited (Table κ ν) := ⟨empty⟩

def size (t : Table κ ν) : Nat := t.entries.length

def isEmpty (t : Table κ ν) : Bool := t.entries.isEmpty

def find? [DecidableEq κ] (k : κ) : List (κ × ν) → Option ν
  | [] => none
  | (k', v) :: rest => if k = k' then some v else find? k rest

def get? [DecidableEq κ] (t : Table κ ν) (k : κ) : Option ν := find? k t.entries

@[simp] theorem get?_empty [DecidableEq κ] (k : κ) : (empty : Table κ ν).get? k = none := rfl

/-- A key below every key of a list is not found in it. -/
theorem find?_eq_none [DecidableEq κ] [Std.Irrefl (α := κ) (· < ·)] {k : κ}
    {es : List (κ × ν)} (below : ∀ e ∈ es, k < e.1) : find? k es = none := by
  induction es with
  | nil => rfl
  | cons first rest ih =>
      obtain ⟨k', v'⟩ := first
      have lt : k < k' := below (k', v') (by simp)
      have differs : k ≠ k' := fun e => Std.Irrefl.irrefl (r := (· < ·)) k (e ▸ lt)
      simp [find?, differs, ih (fun e mem => below e (List.mem_cons_of_mem _ mem))]

/-- A pair of an increasing list is the one found under its key. -/
theorem find?_eq_some_iff [DecidableEq κ] [Std.Irrefl (α := κ) (· < ·)] {k : κ} {v : ν}
    {es : List (κ × ν)} (sorted : es.Pairwise (fun a b => a.1 < b.1)) :
    find? k es = some v ↔ (k, v) ∈ es := by
  induction es with
  | nil => simp [find?]
  | cons first rest ih =>
      obtain ⟨k', v'⟩ := first
      obtain ⟨below, tail⟩ := List.pairwise_cons.mp sorted
      by_cases same : k = k'
      · subst same
        have absent : (k, v) ∉ rest := fun mem => Std.Irrefl.irrefl (r := (· < ·)) k (below _ mem)
        simp [find?, absent, eq_comm]
      · simp [find?, same, ih tail]

theorem get?_eq_some_iff [DecidableEq κ] [Std.Irrefl (α := κ) (· < ·)] {t : Table κ ν} {k : κ}
    {v : ν} : t.get? k = some v ↔ (k, v) ∈ t.entries :=
  find?_eq_some_iff t.sorted

def erase [DecidableEq κ] (t : Table κ ν) (k : κ) : Table κ ν :=
  ⟨t.entries.filter (·.1 ≠ k), t.sorted.filter _⟩

omit [LT κ] in
theorem find?_filter_ne [DecidableEq κ] (k : κ) (es : List (κ × ν)) (key : κ) :
    find? key (es.filter (·.1 ≠ k)) = if key = k then none else find? key es := by
  induction es with
  | nil => simp [find?]
  | cons first rest ih =>
      obtain ⟨k', v'⟩ := first
      by_cases same : k' = k
      · subst same
        rw [List.filter_cons_of_neg (by simp), ih]
        by_cases h : key = k' <;> simp [find?, h]
      · rw [List.filter_cons_of_pos (by simpa using same), find?, ih, find?]
        by_cases h : key = k'
        · subst h
          simp [same]
        · simp [h]

@[simp] theorem get?_erase [DecidableEq κ] (t : Table κ ν) (k key : κ) :
    (t.erase k).get? key = if key = k then none else t.get? key :=
  find?_filter_ne k t.entries key

/-- Puts a pair in its place in an increasing list, over a pair of the same key. -/
def place [DecidableLT κ] (k : κ) (v : ν) : List (κ × ν) → List (κ × ν)
  | [] => [(k, v)]
  | (k', v') :: rest =>
      if k < k' then (k, v) :: (k', v') :: rest
      else if k' < k then (k', v') :: place k v rest
      else (k, v) :: rest

theorem mem_place [DecidableLT κ] {k : κ} {v : ν} {e : κ × ν} {es : List (κ × ν)}
    (h : e ∈ place k v es) : e = (k, v) ∨ e ∈ es := by
  induction es with
  | nil => simpa [place] using h
  | cons first rest ih =>
      unfold place at h
      split at h
      · simpa using h
      · split at h
        · rcases List.mem_cons.mp h with h | h
          · simp [h]
          · rcases ih h with h | h <;> simp [h]
        · rcases List.mem_cons.mp h with h | h <;> simp [h]

/-- A key above every key of a list goes to its end. -/
theorem place_eq_append [DecidableLT κ] [Std.Asymm (α := κ) (· < ·)] {k : κ} {v : ν}
    {es : List (κ × ν)} (above : ∀ e ∈ es, e.1 < k) : place k v es = es ++ [(k, v)] := by
  induction es with
  | nil => rfl
  | cons first rest ih =>
      obtain ⟨k', v'⟩ := first
      obtain ⟨lt, later⟩ := List.forall_mem_cons.mp above
      rw [place, if_neg (Std.Asymm.asymm k' k lt), if_pos lt, ih later, List.cons_append]

variable [DecidableLT κ] [Std.Trichotomous (α := κ) (· < ·)]

theorem find?_place [DecidableEq κ] [Std.Irrefl (α := κ) (· < ·)] (k : κ) (v : ν)
    (es : List (κ × ν)) (key : κ) :
    find? key (place k v es) = if key = k then some v else find? key es := by
  induction es with
  | nil => rfl
  | cons first rest ih =>
      obtain ⟨k', v'⟩ := first
      unfold place
      split
      · rfl
      next notLt =>
        split
        next gt =>
          simp only [find?, ih]
          by_cases h : key = k'
          · subst h
            have differs : key ≠ k := fun e => Std.Irrefl.irrefl (r := (· < ·)) k (e ▸ gt)
            simp [differs]
          · simp [h]
        next notGt =>
          have same : k = k' := Std.Trichotomous.trichotomous k k' notLt notGt
          subst same
          by_cases h : key = k <;> simp [find?, h]

variable [Trans (α := κ) (β := κ) (γ := κ) (· < ·) (· < ·) (· < ·)]

theorem place_sorted (k : κ) (v : ν) {es : List (κ × ν)}
    (h : es.Pairwise (fun a b => a.1 < b.1)) :
    (place k v es).Pairwise (fun a b => a.1 < b.1) := by
  induction es with
  | nil => simp [place]
  | cons first rest ih =>
      obtain ⟨k', v'⟩ := first
      obtain ⟨below, tail⟩ := List.pairwise_cons.mp h
      unfold place
      split
      next lt =>
        refine List.pairwise_cons.mpr ⟨fun e mem => ?_, h⟩
        rcases List.mem_cons.mp mem with rfl | mem
        · exact lt
        · exact Trans.trans lt (below e mem)
      next notLt =>
        split
        next gt =>
          refine List.pairwise_cons.mpr ⟨fun e mem => ?_, ih tail⟩
          rcases mem_place mem with rfl | mem
          · exact gt
          · exact below e mem
        next notGt =>
          have same : k = k' := Std.Trichotomous.trichotomous k k' notLt notGt
          exact List.pairwise_cons.mpr ⟨fun e mem => same ▸ below e mem, tail⟩

def insert (t : Table κ ν) (k : κ) (v : ν) : Table κ ν :=
  ⟨place k v t.entries, place_sorted k v t.sorted⟩

/-- The table of a list of pairs; of two pairs with one key the later one counts. -/
def ofList (pairs : List (κ × ν)) : Table κ ν :=
  pairs.foldl (fun t pair => t.insert pair.1 pair.2) empty

@[simp] theorem get?_insert [DecidableEq κ] [Std.Irrefl (α := κ) (· < ·)] (t : Table κ ν)
    (k : κ) (v : ν) (key : κ) :
    (t.insert k v).get? key = if key = k then some v else t.get? key :=
  find?_place k v t.entries key

theorem mem_insert {t : Table κ ν} {k : κ} {v : ν} {e : κ × ν}
    (h : e ∈ (t.insert k v).entries) : e = (k, v) ∨ e ∈ t.entries := mem_place h

theorem mem_foldl_insert {t : Table κ ν} {pairs : List (κ × ν)} {e : κ × ν}
    (h : e ∈ (pairs.foldl (fun t pair => t.insert pair.1 pair.2) t).entries) :
    e ∈ t.entries ∨ e ∈ pairs := by
  induction pairs generalizing t with
  | nil => exact Or.inl h
  | cons first rest ih =>
      rcases ih h with early | late
      · rcases mem_insert early with rfl | old
        · exact Or.inr List.mem_cons_self
        · exact Or.inl old
      · exact Or.inr (List.mem_cons_of_mem _ late)

theorem mem_ofList {pairs : List (κ × ν)} {e : κ × ν} (h : e ∈ (ofList pairs).entries) :
    e ∈ pairs := by
  simpa [empty] using mem_foldl_insert h

/-- Pairs that stand above a table, in increasing order, are appended to it. -/
theorem foldl_insert_entries [Std.Asymm (α := κ) (· < ·)] (t : Table κ ν) {es : List (κ × ν)}
    (sorted : (t.entries ++ es).Pairwise (fun a b => a.1 < b.1)) :
    (es.foldl (fun t pair => t.insert pair.1 pair.2) t).entries = t.entries ++ es := by
  induction es generalizing t with
  | nil => simp
  | cons first rest ih =>
      have above : ∀ e ∈ t.entries, e.1 < first.1 := fun e mem =>
        (List.pairwise_append.mp sorted).2.2 e mem first List.mem_cons_self
      have placed : (t.insert first.1 first.2).entries = t.entries ++ [first] :=
        place_eq_append above
      rw [List.foldl_cons, ih]
      · rw [placed, List.append_assoc, List.singleton_append]
      · rw [placed, List.append_assoc, List.singleton_append]
        exact sorted

theorem ofList_entries [Std.Asymm (α := κ) (· < ·)] (t : Table κ ν) : ofList t.entries = t :=
  ext_entries (foldl_insert_entries empty (by simpa [empty] using t.sorted))

omit [DecidableLT κ] in
/-- Increasing lists that answer every read alike are equal. -/
theorem eq_of_find?_eq [DecidableEq κ] [Std.Irrefl (α := κ) (· < ·)] {as bs : List (κ × ν)}
    (ha : as.Pairwise (fun a b => a.1 < b.1)) (hb : bs.Pairwise (fun a b => a.1 < b.1))
    (same : ∀ k, find? k as = find? k bs) : as = bs := by
  induction as generalizing bs with
  | nil =>
      cases bs with
      | nil => rfl
      | cons b _ => simpa [find?] using same b.1
  | cons a restA ih =>
      obtain ⟨ka, va⟩ := a
      obtain ⟨belowA, tailA⟩ := List.pairwise_cons.mp ha
      cases bs with
      | nil => simpa [find?] using same ka
      | cons b restB =>
          obtain ⟨kb, vb⟩ := b
          obtain ⟨belowB, tailB⟩ := List.pairwise_cons.mp hb
          have keys : ka = kb := by
            refine Std.Trichotomous.trichotomous (r := (· < ·)) ka kb (fun lt => ?_) (fun gt => ?_)
            · have missing : find? ka ((kb, vb) :: restB) = none := find?_eq_none (by
                intro e mem
                rcases List.mem_cons.mp mem with rfl | mem
                · exact lt
                · exact Trans.trans lt (belowB e mem))
              have found := same ka
              rw [missing] at found
              simp [find?] at found
            · have missing : find? kb ((ka, va) :: restA) = none := find?_eq_none (by
                intro e mem
                rcases List.mem_cons.mp mem with rfl | mem
                · exact gt
                · exact Trans.trans gt (belowA e mem))
              have found := same kb
              rw [missing] at found
              simp [find?] at found
          subst keys
          have values : va = vb := by simpa [find?] using same ka
          subst values
          refine congrArg _ (ih tailA tailB (fun k => ?_))
          by_cases h : k = ka
          · subst h
            rw [find?_eq_none belowA, find?_eq_none belowB]
          · simpa [find?, h] using same k

omit [DecidableLT κ] in
@[ext] theorem ext_get? [DecidableEq κ] [Std.Irrefl (α := κ) (· < ·)] {s t : Table κ ν}
    (same : ∀ k, s.get? k = t.get? k) : s = t :=
  ext_entries (eq_of_find?_eq s.sorted t.sorted same)

/-! Texts can be keys. -/

instance : Std.Trichotomous (α := String) (· < ·) :=
  ⟨fun _ _ notLt notGt => String.le_antisymm notGt notLt⟩

instance : Trans (α := String) (β := String) (γ := String) (· < ·) (· < ·) (· < ·) :=
  ⟨String.lt_trans⟩

end Table
end GridRunner
