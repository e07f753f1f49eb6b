import Mathlib.Data.List.Nodup
import TokenAuthority.Proofs.Number.Binary64
import TokenAuthority.Proofs.Store.Key
import TokenAuthority.Proofs.Store.Table
import TokenAuthority.Store.Memory

/-!
What the operations of the memory store do to the entries that count.

Entries that no longer count are removed when an operation comes across them, so a statement about
the store after an operation is made for an instant that is not before the operation's own: at every
such instant the purged entries are the ones that would not count anyway.
-/

namespace TokenAuthority.MemoryStore

theorem liveDeadline?_eq_some_iff (store : MemoryStore) (now : Binary64) (key : Text)
    (deadline : Binary64) :
    store.liveDeadline? now key = some deadline ↔
      store.entries.find? key = some deadline ∧ deadline.atMost now = false := by
  simp [liveDeadline?, Option.filter_eq_some_iff]

/-- Stores with the same deadline for a key count it alike at every instant. -/
theorem liveDeadline?_congr {store other : MemoryStore} {key : Text}
    (same : store.entries.find? key = other.entries.find? key) (now : Binary64) :
    store.liveDeadline? now key = other.liveDeadline? now key := by
  unfold liveDeadline?
  rw [same]

theorem liveDeadline?_eq_none_of_le {store : MemoryStore} {now later : Binary64} {key : Text}
    (order : now.Precedes later) (dead : store.liveDeadline? now key = none) :
    store.liveDeadline? later key = none := by
  refine Option.eq_none_iff_forall_ne_some.mpr fun deadline live => ?_
  obtain ⟨found, ahead⟩ := (liveDeadline?_eq_some_iff _ _ _ _).mp live
  have earlier := (liveDeadline?_eq_some_iff _ _ _ _).mpr ⟨found, order.atMost_eq_false ahead⟩
  rw [dead] at earlier
  exact absurd earlier (by simp)

/-! ### Checking a key -/

theorem check_fst (store : MemoryStore) (now : Binary64) (key : Text) :
    (store.check now key).1 = (store.liveDeadline? now key).isSome := by
  unfold check liveDeadline?
  cases found : store.entries.find? key with
  | none => rfl
  | some deadline =>
      cases past : deadline.atMost now <;> simp [past]

/-- Only the checked key can be removed, and only when its entry does not count. -/
theorem find?_check (store : MemoryStore) (now : Binary64) (key other : Text) :
    (store.check now key).2.entries.find? other =
      if other = key ∧ store.liveDeadline? now key = none then none
      else store.entries.find? other := by
  unfold check liveDeadline?
  cases found : store.entries.find? key with
  | none =>
      by_cases same : other = key
      · simp [same, found]
      · simp [same]
  | some deadline =>
      cases past : deadline.atMost now <;> simp [past]

theorem liveDeadline?_check (store : MemoryStore) {now later : Binary64}
    (order : now.Precedes later)
    (key other : Text) :
    (store.check now key).2.liveDeadline? later other = store.liveDeadline? later other := by
  by_cases purged : other = key ∧ store.liveDeadline? now key = none
  · obtain ⟨rfl, dead⟩ := purged
    rw [liveDeadline?_eq_none_of_le order dead]
    unfold liveDeadline?
    rw [find?_check, if_pos ⟨rfl, dead⟩]
    rfl
  · exact liveDeadline?_congr (by rw [find?_check, if_neg purged]) later

theorem nodup_keys_check {store : MemoryStore} (distinct : store.entries.keys.Nodup)
    (now : Binary64)
    (key : Text) : (store.check now key).2.entries.keys.Nodup := by
  unfold check
  split
  · exact distinct
  · split
    · exact Table.nodup_keys_erase distinct key
    · exact distinct

/-- Whatever a check of a key removes, erasing the key afterwards leaves the same table. -/
theorem erase_entries_check (store : MemoryStore) (now : Binary64) (key : Text) :
    (store.check now key).2.entries.erase key = store.entries.erase key := by
  unfold check
  split
  · rfl
  · split
    · exact Table.erase_erase _ _
    · rfl

/-! ### Checking several keys -/

theorem countLive_cons (now : Binary64) (store : MemoryStore) (key : Text) (rest : List Text) :
    countLive now store (key :: rest) =
      (if (store.check now key).1 then (countLive now (store.check now key).2 rest).1 + 1
        else (countLive now (store.check now key).2 rest).1,
        (countLive now (store.check now key).2 rest).2) := rfl

theorem countLive_fst (now : Binary64) (keys : List Text) (store : MemoryStore) :
    (countLive now store keys).1 = keys.countP fun key => (store.liveDeadline? now key).isSome := by
  induction keys generalizing store with
  | nil => rfl
  | cons key rest inductionHypothesis =>
      have unchanged : (fun other => ((store.check now key).2.liveDeadline? now other).isSome) =
          fun other => (store.liveDeadline? now other).isSome := by
        funext other
        rw [liveDeadline?_check store (.refl now)]
      rw [countLive_cons, inductionHypothesis, unchanged, check_fst, List.countP_cons]
      split <;> rfl

theorem find?_countLive_of_notMem (now : Binary64) {keys : List Text} {other : Text}
    (outside : other ∉ keys) (store : MemoryStore) :
    (countLive now store keys).2.entries.find? other = store.entries.find? other := by
  induction keys generalizing store with
  | nil => rfl
  | cons key rest inductionHypothesis =>
      rw [List.mem_cons, not_or] at outside
      rw [countLive_cons, inductionHypothesis outside.2, find?_check,
        if_neg fun purged => outside.1 purged.1]

theorem nodup_keys_countLive (now : Binary64) (keys : List Text) {store : MemoryStore}
    (distinct : store.entries.keys.Nodup) : (countLive now store keys).2.entries.keys.Nodup := by
  induction keys generalizing store with
  | nil => exact distinct
  | cons key rest inductionHypothesis =>
      exact inductionHypothesis (nodup_keys_check distinct now key)

/-! ### The operations -/

variable {store : MemoryStore} {user token : Text}

theorem put_eq (userPart : StoreKey.isPart user = true) (tokenPart : StoreKey.isPart token = true)
    (now : Binary64) (lifetime : Int) :
    store.put now user token lifetime = .ok ⟨store.entries.set (StoreKey.join user token)
      (deadlineAfter now lifetime)⟩ := by
  unfold put
  rw [StoreKey.make_of_isPart userPart tokenPart]
  rfl

/-- A removal takes the key away whether or not its entry counted, and counts it if it did. -/
theorem delete_eq (userPart : StoreKey.isPart user = true)
    (tokenPart : StoreKey.isPart token = true) (now : Binary64) :
    store.delete now user token = .ok
      (if (store.liveDeadline? now (StoreKey.join user token)).isSome then 1 else 0,
        ⟨store.entries.erase (StoreKey.join user token)⟩) := by
  have checked : store.delete now user token = .ok
      (if (store.check now (StoreKey.join user token)).1 then
        (1, ⟨(store.check now (StoreKey.join user token)).2.entries.erase
          (StoreKey.join user token)⟩)
        else (0, (store.check now (StoreKey.join user token)).2)) := by
    unfold delete
    rw [StoreKey.make_of_isPart userPart tokenPart]
    rfl
  rw [checked, check_fst, erase_entries_check]
  cases live : store.liveDeadline? now (StoreKey.join user token) with
  | some deadline => rfl
  | none =>
      have removed : (store.check now (StoreKey.join user token)).2.entries.find?
          (StoreKey.join user token) = none := by
        rw [find?_check, if_pos ⟨rfl, live⟩]
      have entries := erase_entries_check store now (StoreKey.join user token)
      rw [Table.erase_of_find?_eq_none removed] at entries
      simp [← entries]

theorem contains_eq (userPart : StoreKey.isPart user = true)
    (tokenPart : StoreKey.isPart token = true) (now : Binary64) :
    store.contains now user token = .ok
      ((store.liveDeadline? now (StoreKey.join user token)).isSome,
        (store.check now (StoreKey.join user token)).2) := by
  unfold contains
  rw [StoreKey.make_of_isPart userPart tokenPart, ← check_fst]
  rfl

theorem mem_keysFrom_iff (store : MemoryStore) (start key : Text) :
    key ∈ store.keysFrom start ↔ key ∈ store.entries.keys ∧ start <+: key := by
  simp [keysFrom]

/-- The store without the keys that begin with a text, after they have been checked. -/
def cleared (store : MemoryStore) (now : Binary64) (start : Text) : MemoryStore :=
  ⟨(store.keysFrom start).foldl Table.erase (countLive now store (store.keysFrom start)).2.entries⟩

theorem deleteAll_eq (userPart : StoreKey.isPart user = true) (now : Binary64) :
    store.deleteAll now user = .ok
      ((store.keysFrom (StoreKey.userStart user)).countP
          fun key => (store.liveDeadline? now key).isSome,
        store.cleared now (StoreKey.userStart user)) := by
  unfold deleteAll
  rw [StoreKey.start_of_isPart userPart, ← countLive_fst]
  rfl

theorem find?_cleared (store : MemoryStore) (now : Binary64) (start key : Text) :
    (store.cleared now start).entries.find? key =
      if start <+: key then none else store.entries.find? key := by
  unfold cleared
  rw [Table.find?_foldl_erase]
  by_cases listed : key ∈ store.keysFrom start
  · rw [if_pos listed, if_pos ((mem_keysFrom_iff store start key).mp listed).2]
  · rw [if_neg listed, find?_countLive_of_notMem now listed]
    by_cases begins : start <+: key
    · have absent : key ∉ store.entries.keys := fun present =>
        listed ((mem_keysFrom_iff store start key).mpr ⟨present, begins⟩)
      rw [if_pos begins]
      refine Option.eq_none_iff_forall_ne_some.mpr fun deadline found => ?_
      exact absent ((Table.mem_keys_iff _ _).mpr ⟨deadline, found⟩)
    · rw [if_neg begins]

theorem liveDeadline?_cleared (store : MemoryStore) (now later : Binary64) (start key : Text) :
    (store.cleared now start).liveDeadline? later key =
      if start <+: key then none else store.liveDeadline? later key := by
  unfold liveDeadline?
  rw [find?_cleared]
  split <;> rfl

theorem nodup_keys_cleared (distinct : store.entries.keys.Nodup) (now : Binary64) (start : Text) :
    (store.cleared now start).entries.keys.Nodup :=
  Table.nodup_keys_foldl_erase (nodup_keys_countLive now _ distinct) _

/-- The keys shown as left are those that count, with the time until their deadline. -/
theorem mem_remaining_iff (distinct : store.entries.keys.Nodup) (now : Binary64) (key : Text)
    (left : Int) :
    (key, left) ∈ store.remaining now ↔
      ∃ deadline, store.liveDeadline? now key = some deadline ∧
        millisecondsLeft now deadline = left := by
  unfold remaining
  rw [List.mem_map]
  constructor
  · rintro ⟨⟨other, deadline⟩, membership, equal⟩
    obtain ⟨present, ahead⟩ := List.mem_filter.mp membership
    obtain ⟨rfl, rfl⟩ := Prod.mk.inj equal
    refine ⟨deadline, ?_, rfl⟩
    rw [liveDeadline?_eq_some_iff, Table.find?_eq_some_iff distinct]
    exact ⟨present, by simpa using ahead⟩
  · rintro ⟨deadline, live, rfl⟩
    obtain ⟨found, ahead⟩ := (liveDeadline?_eq_some_iff _ _ _ _).mp live
    exact ⟨(key, deadline), List.mem_filter.mpr ⟨Table.mem_of_find? found, by simpa using ahead⟩,
      rfl⟩

theorem nodup_remaining (distinct : store.entries.keys.Nodup) (now : Binary64) :
    (store.remaining now).Nodup := by
  refine List.Nodup.of_map Prod.fst ?_
  unfold remaining
  rw [List.map_map]
  exact distinct.sublist (List.filter_sublist.map Prod.fst)

end TokenAuthority.MemoryStore
