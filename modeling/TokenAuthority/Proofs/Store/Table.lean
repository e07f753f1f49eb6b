import TokenAuthority.Store.Table

/-!
Look-ups in tables of deadlines.

Erasing a key hides it and nothing else, and setting a key gives it its deadline and leaves the
other keys alone.  Both keep the keys of a table distinct.
-/

namespace TokenAuthority.Table

variable {δ : Type}

@[simp]
theorem find?_nil (key : Text) : find? ([] : Table δ) key = none := rfl

theorem find?_cons (entry : Text × δ) (rest : Table δ) (key : Text) :
    find? (entry :: rest) key = if entry.1 = key then some entry.2 else find? rest key := rfl

@[simp]
theorem find?_erase (table : Table δ) (erased key : Text) :
    (table.erase erased).find? key = if key = erased then none else table.find? key := by
  induction table with
  | nil => simp [erase]
  | cons entry rest inductionHypothesis =>
      unfold erase at inductionHypothesis ⊢
      by_cases atErased : entry.1 = erased
      · rw [List.filter_cons_of_neg (by simpa using atErased), inductionHypothesis, find?_cons]
        by_cases same : key = erased
        · simp [same]
        · have differs : entry.1 ≠ key := fun equal => same (equal ▸ atErased)
          simp [same, differs]
      · rw [List.filter_cons_of_pos (by simpa using atErased), find?_cons, find?_cons,
          inductionHypothesis]
        by_cases here : entry.1 = key
        · have differs : key ≠ erased := fun equal => atErased (here.trans equal)
          simp [here, differs]
        · simp [here]

@[simp]
theorem find?_set (table : Table δ) (written key : Text) (deadline : δ) :
    (table.set written deadline).find? key =
      if key = written then some deadline else table.find? key := by
  unfold set
  rw [find?_cons, find?_erase]
  by_cases same : key = written
  · simp [same]
  · simp [same, Ne.symm same]

/-- Erasing several keys hides all of them and nothing else. -/
theorem find?_foldl_erase (erased : List Text) (table : Table δ) (key : Text) :
    find? (erased.foldl erase table) key = if key ∈ erased then none else table.find? key := by
  induction erased generalizing table with
  | nil => simp
  | cons first rest inductionHypothesis =>
      rw [List.foldl_cons, inductionHypothesis, find?_erase]
      by_cases inRest : key ∈ rest <;> by_cases atFirst : key = first <;> simp [inRest, atFirst]

theorem mem_keys_iff (table : Table δ) (key : Text) :
    key ∈ table.keys ↔ ∃ deadline, table.find? key = some deadline := by
  induction table with
  | nil => simp [keys]
  | cons entry rest inductionHypothesis =>
      unfold keys at inductionHypothesis ⊢
      rw [List.map_cons, List.mem_cons, inductionHypothesis, find?_cons]
      by_cases here : entry.1 = key
      · simp [here]
      · simp [here, Ne.symm here]

/-- Erasing a key that a table does not have leaves the table as it is. -/
theorem erase_of_find?_eq_none {table : Table δ} {erased : Text}
    (absent : table.find? erased = none) : table.erase erased = table := by
  refine List.filter_eq_self.mpr fun entry membership => ?_
  have present : ∀ deadline, table.find? erased ≠ some deadline := by simp [absent]
  have differs : entry.1 ≠ erased := fun equal => by
    obtain ⟨deadline, found⟩ := (mem_keys_iff table erased).mp
      (List.mem_map.mpr ⟨entry, membership, equal⟩)
    exact present deadline found
  simpa using differs

@[simp]
theorem erase_erase (table : Table δ) (erased : Text) :
    (table.erase erased).erase erased = table.erase erased :=
  erase_of_find?_eq_none (by simp)

theorem mem_of_find? {table : Table δ} {key : Text} {deadline : δ}
    (found : table.find? key = some deadline) : (key, deadline) ∈ table := by
  induction table with
  | nil => simp at found
  | cons entry rest inductionHypothesis =>
      rw [find?_cons] at found
      by_cases here : entry.1 = key
      · rw [if_pos here, Option.some.injEq] at found
        rw [← here, ← found]
        exact List.mem_cons_self
      · rw [if_neg here] at found
        exact List.mem_cons_of_mem entry (inductionHypothesis found)

/-- In a table of distinct keys every entry is found. -/
theorem find?_eq_some_iff {table : Table δ} (distinct : table.keys.Nodup) (key : Text)
    (deadline : δ) : table.find? key = some deadline ↔ (key, deadline) ∈ table := by
  refine ⟨mem_of_find?, fun membership => ?_⟩
  induction table with
  | nil => simp at membership
  | cons entry rest inductionHypothesis =>
      unfold keys at inductionHypothesis distinct
      rw [List.map_cons, List.nodup_cons] at distinct
      rw [find?_cons]
      rcases List.mem_cons.mp membership with rfl | inRest
      · simp
      · have differs : entry.1 ≠ key := fun equal =>
          distinct.1 (List.mem_map.mpr ⟨_, inRest, equal.symm⟩)
        rw [if_neg differs]
        exact inductionHypothesis distinct.2 inRest

theorem keys_erase (table : Table δ) (erased : Text) :
    (table.erase erased).keys = table.keys.filter (· ≠ erased) := by
  unfold keys erase
  rw [List.filter_map]
  rfl

theorem mem_keys_set {table : Table δ} {written key : Text} {deadline : δ}
    (membership : key ∈ (table.set written deadline).keys) : key = written ∨ key ∈ table.keys := by
  rcases List.mem_cons.mp membership with atWritten | kept
  · exact .inl atWritten
  · rw [← keys, keys_erase] at kept
    exact .inr (List.mem_filter.mp kept).1

theorem nodup_keys_erase {table : Table δ} (distinct : table.keys.Nodup) (erased : Text) :
    (table.erase erased).keys.Nodup := by
  rw [keys_erase]
  exact distinct.filter _

theorem nodup_keys_set {table : Table δ} (distinct : table.keys.Nodup) (written : Text)
    (deadline : δ) : (table.set written deadline).keys.Nodup := by
  have erased := nodup_keys_erase distinct written
  rw [keys_erase] at erased
  unfold set
  rw [keys, List.map_cons, List.nodup_cons]
  rw [show List.map Prod.fst (table.erase written) = (table.erase written).keys from rfl,
    keys_erase]
  exact ⟨by simp, erased⟩

theorem nodup_keys_foldl_erase {table : Table δ} (distinct : table.keys.Nodup)
    (erased : List Text) : (keys (erased.foldl erase table)).Nodup := by
  induction erased generalizing table with
  | nil => exact distinct
  | cons first rest inductionHypothesis =>
      exact inductionHypothesis (nodup_keys_erase distinct first)

end TokenAuthority.Table
