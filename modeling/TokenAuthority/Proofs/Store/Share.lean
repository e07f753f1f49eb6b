import TokenAuthority.Proofs.Store.Memory
import TokenAuthority.Proofs.Store.Remote

/-!
The share of a start in a table: the entries whose keys begin with a text.

Every operation on a key outside of a share leaves the share as it is, entries that no longer count
included, and every operation on a key within it does to the share what it does to the table.  What
an operation on such a key tells can be told from the share alone.
-/

namespace TokenAuthority

namespace Table

variable {δ : Type}

/-- The entries whose keys begin with a text. -/
def share (start : Text) (table : Table δ) : Table δ :=
  table.filter fun entry => start.isPrefixOf entry.1

variable {start key : Text}

theorem find?_share (begins : start <+: key) (table : Table δ) :
    (table.share start).find? key = table.find? key := by
  induction table with
  | nil => rfl
  | cons entry rest inductionHypothesis =>
      unfold share at inductionHypothesis ⊢
      rw [List.filter_cons]
      split
      · rw [find?_cons, find?_cons, inductionHypothesis]
      · next notInShare =>
          have differs : entry.1 ≠ key := by
            intro same
            rw [same, List.isPrefixOf_iff_prefix.mpr begins] at notInShare
            exact notInShare rfl
          rw [inductionHypothesis, find?_cons, if_neg differs]

theorem find?_share_eq_none (outside : ¬start <+: key) (table : Table δ) :
    (table.share start).find? key = none := by
  apply Option.eq_none_iff_forall_ne_some.mpr
  intro deadline found
  have inShare := (List.mem_filter.mp (mem_of_find? found)).2
  exact outside (List.isPrefixOf_iff_prefix.mp inShare)

@[simp]
theorem share_share (start : Text) (table : Table δ) :
    (table.share start).share start = table.share start := by
  simp [share, List.filter_filter]

theorem share_erase (start erased : Text) (table : Table δ) :
    (table.erase erased).share start = (table.share start).erase erased := by
  unfold share erase
  rw [List.filter_filter, List.filter_filter]
  apply List.filter_congr
  intro entry _
  exact Bool.and_comm _ _

theorem share_erase_of_outside (outside : ¬start <+: key) (table : Table δ) :
    (table.erase key).share start = table.share start := by
  rw [share_erase, erase_of_find?_eq_none (find?_share_eq_none outside table)]

theorem share_set (begins : start <+: key) (table : Table δ) (deadline : δ) :
    (table.set key deadline).share start = (table.share start).set key deadline := by
  have inShare : start.isPrefixOf key = true := List.isPrefixOf_iff_prefix.mpr begins
  unfold set
  rw [← share_erase]
  exact List.filter_cons_of_pos inShare

theorem share_set_of_outside (outside : ¬start <+: key) (table : Table δ)
    (deadline : δ) : (table.set key deadline).share start = table.share start := by
  have notInShare : ¬start.isPrefixOf key = true :=
    fun inShare => outside (List.isPrefixOf_iff_prefix.mp inShare)
  rw [← share_erase_of_outside outside table]
  exact List.filter_cons_of_neg notInShare

theorem share_foldl_erase (start : Text) (erased : List Text) (table : Table δ) :
    share start (erased.foldl erase table) = erased.foldl erase (table.share start) := by
  induction erased generalizing table with
  | nil => rfl
  | cons first rest inductionHypothesis =>
      rw [List.foldl_cons, List.foldl_cons, inductionHypothesis, share_erase]

theorem share_foldl_erase_of_outside {erased : List Text}
    (outside : ∀ key ∈ erased, ¬start <+: key) (table : Table δ) :
    share start (erased.foldl erase table) = table.share start := by
  induction erased generalizing table with
  | nil => rfl
  | cons first rest inductionHypothesis =>
      rw [List.foldl_cons,
        inductionHypothesis fun key membership =>
          outside key (List.mem_cons_of_mem first membership),
        share_erase_of_outside (outside first List.mem_cons_self)]

/-- A table in which no key that begins with the text is found has no share. -/
theorem share_eq_nil {table : Table δ}
    (absent : ∀ key, start <+: key → table.find? key = none) :
    table.share start = [] := by
  apply List.filter_eq_nil_iff.mpr
  intro entry membership inShare
  obtain ⟨deadline, found⟩ :=
    (mem_keys_iff table entry.1).mp (List.mem_map.mpr ⟨entry, membership, rfl⟩)
  rw [absent entry.1 (List.isPrefixOf_iff_prefix.mp inShare)] at found
  cases found

end Table

namespace MemoryStore

def share (start : Text) (store : MemoryStore) : MemoryStore :=
  ⟨store.entries.share start⟩

variable {start key : Text} (store : MemoryStore)

theorem liveDeadline?_share (begins : start <+: key) (now : Binary64) :
    (store.share start).liveDeadline? now key = store.liveDeadline? now key :=
  liveDeadline?_congr (Table.find?_share begins store.entries) now

theorem share_check (begins : start <+: key) (now : Binary64) :
    (store.check now key).2.share start = ((store.share start).check now key).2 := by
  have sameEntry : (store.share start).entries.find? key = store.entries.find? key :=
    Table.find?_share begins store.entries
  unfold check
  rw [sameEntry]
  split
  · rfl
  · split
    · exact congrArg mk (Table.share_erase start key store.entries)
    · rfl

theorem share_check_of_outside (outside : ¬start <+: key) (now : Binary64) :
    (store.check now key).2.share start = store.share start := by
  unfold check
  split
  · rfl
  · split
    · exact congrArg mk (Table.share_erase_of_outside outside store.entries)
    · rfl

theorem share_countLive_of_outside {keys : List Text}
    (outside : ∀ key ∈ keys, ¬start <+: key) (now : Binary64) (store : MemoryStore) :
    (countLive now store keys).2.share start = store.share start := by
  induction keys generalizing store with
  | nil => rfl
  | cons key rest inductionHypothesis =>
      rw [countLive_cons,
        inductionHypothesis fun other membership =>
          outside other (List.mem_cons_of_mem key membership),
        share_check_of_outside store (outside key List.mem_cons_self)]

theorem keysFrom_share (start : Text) :
    (store.share start).keysFrom start = store.keysFrom start := by
  simp only [keysFrom, share, Table.share, Table.keys, List.filter_map, List.filter_filter]
  congr 1
  apply List.filter_congr
  intro entry _
  exact Bool.and_self _

/-- A clearing leaves no share of its own start, and the shares of unrelated starts alone. -/
theorem share_cleared (now : Binary64) (start : Text) :
    (store.cleared now start).share start = ⟨[]⟩ := by
  refine congrArg mk (Table.share_eq_nil fun key begins => ?_)
  rw [find?_cleared, if_pos begins]

theorem share_cleared_of_outside {cleared : Text}
    (apart : ∀ key : Text, cleared <+: key → ¬start <+: key)
    (now : Binary64) : (store.cleared now cleared).share start = store.share start := by
  have outside : ∀ key ∈ store.keysFrom cleared, ¬start <+: key :=
    fun key membership => apart key ((mem_keysFrom_iff store cleared key).mp membership).2
  rw [← store.share_countLive_of_outside outside now]
  exact congrArg mk (Table.share_foldl_erase_of_outside outside _)

end MemoryStore

namespace KeyServer

def share (start : Text) (server : KeyServer) : KeyServer :=
  ⟨server.entries.share start⟩

variable {start key : Text} (server : KeyServer)

theorem liveDeadline?_share (begins : start <+: key) (now : Int) :
    (server.share start).liveDeadline? now key = server.liveDeadline? now key :=
  liveDeadline?_congr (Table.find?_share begins server.entries) now

theorem scan_share (now : Int) (start : Text) :
    (server.share start).scan now (Pattern.startingWith start) =
      server.scan now (Pattern.startingWith start) := by
  simp only [scan, share, Table.share, Pattern.matchesKey_startingWith, List.filter_filter]
  congr 1
  apply List.filter_congr
  intro entry _
  cases start.isPrefixOf entry.1 <;> simp

theorem entries_sweep (now : Int) (keys : List Text) (server : KeyServer) :
    (sweep (fun _ => false) now server keys).server.entries =
      keys.foldl Table.erase server.entries := by
  induction keys generalizing server with
  | nil => rfl
  | cons key rest inductionHypothesis =>
      rw [List.foldl_cons]
      exact inductionHypothesis (server.delete now key).2

theorem share_sweep (now : Int) (keys : List Text) :
    (sweep (fun _ => false) now server keys).server.share start =
      (sweep (fun _ => false) now (server.share start) keys).server := by
  unfold share
  rw [entries_sweep, Table.share_foldl_erase, ← entries_sweep now keys ⟨_⟩]

/-- What a sweep of keys of a share counts is told by the share. -/
theorem removed_sweep_share {keys : List Text}
    (begin : ∀ key ∈ keys, start <+: key) (now : Int) (server : KeyServer) :
    (sweep (fun _ => false) now (server.share start) keys).removed =
      (sweep (fun _ => false) now server keys).removed := by
  induction keys generalizing server with
  | nil => rfl
  | cons key rest inductionHypothesis =>
      have sameCount : ((server.share start).delete now key).1 = (server.delete now key).1 := by
        unfold delete
        rw [liveDeadline?_share server (begin key List.mem_cons_self)]
      have sameServer : ((server.share start).delete now key).2 =
          (server.delete now key).2.share start :=
        congrArg mk (Table.share_erase start key server.entries).symm
      have sameRest := inductionHypothesis
        (fun other membership => begin other (List.mem_cons_of_mem key membership))
        (server.delete now key).2
      rw [← sameServer] at sameRest
      rw [sweep, sweep, if_neg Bool.false_ne_true, if_neg Bool.false_ne_true]
      simp only [sameRest, sameCount]

theorem begins_of_mem_scan {now : Int}
    (membership : key ∈ server.scan now (Pattern.startingWith start)) :
    start <+: key := by
  have fits := matchesKey_of_mem_scan membership
  rw [Pattern.matchesKey_startingWith] at fits
  exact List.isPrefixOf_iff_prefix.mp fits

theorem share_cleared (now : Int) (start : Text) :
    (server.cleared now start).server.share start =
      ((server.share start).cleared now start).server := by
  unfold cleared
  rw [share_sweep, scan_share]

theorem removed_cleared_share (now : Int) (start : Text) :
    ((server.share start).cleared now start).removed = (server.cleared now start).removed := by
  unfold cleared
  rw [scan_share]
  exact removed_sweep_share (fun _ membership => begins_of_mem_scan server membership) now server

theorem share_cleared_of_outside {cleared : Text}
    (apart : ∀ key : Text, cleared <+: key → ¬start <+: key)
    (now : Int) : (server.cleared now cleared).server.share start = server.share start := by
  have outside : ∀ key ∈ server.scan now (Pattern.startingWith cleared),
      ¬start <+: key :=
    fun key membership => apart key (begins_of_mem_scan server membership)
  unfold share KeyServer.cleared
  rw [entries_sweep, Table.share_foldl_erase_of_outside outside]

end KeyServer

end TokenAuthority
