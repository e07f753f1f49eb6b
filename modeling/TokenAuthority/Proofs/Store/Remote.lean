import Mathlib.Data.List.Nodup
import TokenAuthority.Proofs.Store.Key
import TokenAuthority.Proofs.Store.Pattern
import TokenAuthority.Proofs.Store.Table
import TokenAuthority.Store.Remote

/-!
What the commands of the key server do to its keys.

A sweep removes the keys that it attempts except those whose removal fails; when they are distinct,
it counts the ones that were there.  It attempts every key that it is given unless one can be
neither removed nor decoded, which is then the last one.  A scan for the keys of a user finds
exactly those.
-/

namespace TokenAuthority.KeyServer

theorem liveDeadline?_eq_some_iff (server : KeyServer) (now : Int) (key : Text)
    (deadline : Int) :
    server.liveDeadline? now key = some deadline ↔
      server.entries.find? key = some deadline ∧ now ≤ deadline := by
  simp [liveDeadline?, Option.filter_eq_some_iff]

/-- Servers with the same deadline for a key have it alike at every instant. -/
theorem liveDeadline?_congr {server other : KeyServer} {key : Text}
    (same : server.entries.find? key = other.entries.find? key) (now : Int) :
    server.liveDeadline? now key = other.liveDeadline? now key := by
  unfold liveDeadline?
  rw [same]

theorem liveDeadline?_eq_none_of_le {server : KeyServer} {now later : Int} {key : Text}
    (order : now ≤ later) (dead : server.liveDeadline? now key = none) :
    server.liveDeadline? later key = none := by
  refine Option.eq_none_iff_forall_ne_some.mpr fun deadline live => ?_
  obtain ⟨found, ahead⟩ := (liveDeadline?_eq_some_iff _ _ _ _).mp live
  have earlier := (liveDeadline?_eq_some_iff _ _ _ _).mpr ⟨found, Int.le_trans order ahead⟩
  rw [dead] at earlier
  exact absurd earlier (by simp)

theorem liveDeadline?_delete_of_ne (server : KeyServer) (now later : Int) {key other : Text}
    (differs : other ≠ key) :
    (server.delete now key).2.liveDeadline? later other = server.liveDeadline? later other :=
  liveDeadline?_congr (by simp [delete, differs]) later

/-! ### Scans -/

/-- A key that is there and fits is found, whatever else the server holds. -/
theorem mem_scan_of_live {server : KeyServer} {now deadline : Int} {pattern key : Text}
    (live : server.liveDeadline? now key = some deadline)
    (fits : Pattern.matchesKey pattern key = true) : key ∈ server.scan now pattern := by
  obtain ⟨found, ahead⟩ := (liveDeadline?_eq_some_iff _ _ _ _).mp live
  refine List.mem_map.mpr ⟨(key, deadline), List.mem_filter.mpr ⟨Table.mem_of_find? found, ?_⟩, rfl⟩
  simp [ahead, fits]

theorem matchesKey_of_mem_scan {server : KeyServer} {now : Int} {pattern key : Text}
    (membership : key ∈ server.scan now pattern) : Pattern.matchesKey pattern key = true := by
  obtain ⟨⟨found, deadline⟩, inServer, rfl⟩ := List.mem_map.mp membership
  have checked := (List.mem_filter.mp inServer).2
  rw [Bool.and_eq_true] at checked
  exact checked.2

theorem mem_scan_iff {server : KeyServer} (distinct : server.entries.keys.Nodup) (now : Int)
    (pattern key : Text) :
    key ∈ server.scan now pattern ↔
      (server.liveDeadline? now key).isSome = true ∧ Pattern.matchesKey pattern key = true := by
  unfold scan Table.keys
  rw [List.mem_map, Option.isSome_iff_exists]
  constructor
  · rintro ⟨⟨found, deadline⟩, membership, rfl⟩
    obtain ⟨present, checked⟩ := List.mem_filter.mp membership
    rw [Bool.and_eq_true, decide_eq_true_eq] at checked
    refine ⟨⟨deadline, ?_⟩, checked.2⟩
    rw [liveDeadline?_eq_some_iff, Table.find?_eq_some_iff distinct]
    exact ⟨present, checked.1⟩
  · rintro ⟨⟨deadline, live⟩, fits⟩
    exact List.mem_map.mp (mem_scan_of_live live fits)

theorem nodup_scan {server : KeyServer} (distinct : server.entries.keys.Nodup) (now : Int)
    (pattern : Text) : (server.scan now pattern).Nodup :=
  distinct.sublist (List.filter_sublist.map Prod.fst)

/-! ### Sweeps -/

/-- The server without the keys that begin with a text, as far as a scan finds them. -/
def cleared (server : KeyServer) (now : Int) (start : Text) : Sweep :=
  server.sweep (fun _ => false) now (server.scan now (Pattern.startingWith start))

/-- Whether a sweep breaks off at a key, which can be neither removed nor decoded. -/
def breaksOff (fails : Text → Bool) (key : Text) : Bool :=
  fails key && !key.isEncodable

/-- The keys that a sweep attempts, the one at which it breaks off among them. -/
def attempted (fails : Text → Bool) : List Text → List Text
  | [] => []
  | key :: rest => if breaksOff fails key then [key] else key :: attempted fails rest

theorem attempted_isPrefix (fails : Text → Bool) (keys : List Text) :
    attempted fails keys <+: keys := by
  induction keys with
  | nil => exact List.prefix_rfl
  | cons key rest inductionHypothesis =>
      rw [attempted]
      split
      · exact (List.prefix_cons_inj key).mpr List.nil_prefix
      · exact (List.prefix_cons_inj key).mpr inductionHypothesis

/-- Where every key can be removed or decoded, each one is attempted. -/
theorem attempted_eq_self {fails : Text → Bool} {keys : List Text}
    (goesOn : ∀ key ∈ keys, breaksOff fails key = false) : attempted fails keys = keys := by
  induction keys with
  | nil => rfl
  | cons key rest inductionHypothesis =>
      obtain ⟨here, later⟩ := List.forall_mem_cons.mp goesOn
      rw [attempted, here, if_neg Bool.false_ne_true, inductionHypothesis later]

/-- A sweep that breaks off does so at the last key that it attempts, and at no earlier one. -/
theorem exists_attempted_eq {fails : Text → Bool} {keys : List Text}
    (breaks : keys.any (breaksOff fails) = true) :
    ∃ front last, attempted fails keys = front ++ [last] ∧
      (∀ key ∈ front, breaksOff fails key = false) ∧ breaksOff fails last = true := by
  induction keys with
  | nil => cases breaks
  | cons key rest inductionHypothesis =>
      rw [attempted]
      cases here : breaksOff fails key with
      | true => exact ⟨[], key, rfl, List.forall_mem_nil _, here⟩
      | false =>
          rw [List.any_cons, here, Bool.false_or] at breaks
          obtain ⟨front, last, isAttempted, goesOn, breaksThere⟩ := inductionHypothesis breaks
          refine ⟨key :: front, last, ?_, List.forall_mem_cons.mpr ⟨here, goesOn⟩, breaksThere⟩
          rw [if_neg Bool.false_ne_true, isAttempted, List.cons_append]

/-- The sweep of a key and of further ones, in the three ways in which the first one may go. -/
theorem sweep_cons_of_breaksOff {fails : Text → Bool} {key : Text}
    (breaks : breaksOff fails key = true) (now : Int) (rest : List Text) (server : KeyServer) :
    sweep fails now server (key :: rest) = ⟨0, 1, true, server⟩ := by
  unfold breaksOff at breaks
  rw [Bool.and_eq_true, Bool.not_eq_true'] at breaks
  rw [sweep, if_pos breaks.1, if_neg (by simp [breaks.2])]

theorem sweep_cons_of_fails {fails : Text → Bool} {key : Text} (failed : fails key = true)
    (goesOn : breaksOff fails key = false) (now : Int) (rest : List Text) (server : KeyServer) :
    sweep fails now server (key :: rest) =
      { sweep fails now server rest with failed := (sweep fails now server rest).failed + 1 } := by
  unfold breaksOff at goesOn
  rw [failed, Bool.true_and, Bool.not_eq_false'] at goesOn
  rw [sweep, if_pos failed, if_pos goesOn]

theorem sweep_cons_of_removed {fails : Text → Bool} {key : Text} (removed : fails key = false)
    (now : Int) (rest : List Text) (server : KeyServer) :
    sweep fails now server (key :: rest) =
      { sweep fails now (server.delete now key).2 rest with
        removed := (sweep fails now (server.delete now key).2 rest).removed +
          (server.delete now key).1 } := by
  rw [sweep, if_neg (by simp [removed])]

theorem breaksOff_of_removed {fails : Text → Bool} {key : Text} (removed : fails key = false) :
    breaksOff fails key = false := by
  unfold breaksOff
  rw [removed, Bool.false_and]

/-- A sweep takes exactly the keys away that it attempts and whose removal does not fail. -/
theorem find?_sweep (fails : Text → Bool) (now : Int) (keys : List Text) (server : KeyServer)
    (key : Text) :
    (sweep fails now server keys).server.entries.find? key =
      if key ∈ attempted fails keys ∧ fails key = false then none
      else server.entries.find? key := by
  induction keys generalizing server with
  | nil => simp [sweep, attempted]
  | cons first rest inductionHypothesis =>
      rw [attempted]
      cases breaks : breaksOff fails first with
      | true =>
          have failed := (Bool.and_eq_true_iff.mp breaks).1
          rw [sweep_cons_of_breaksOff breaks]
          by_cases atFirst : key = first
          · simp [atFirst, failed]
          · simp [atFirst]
      | false =>
          rw [if_neg Bool.false_ne_true]
          cases failed : fails first with
          | true =>
              rw [sweep_cons_of_fails failed breaks]
              refine (inductionHypothesis server).trans ?_
              by_cases atFirst : key = first
              · simp [atFirst, failed]
              · simp [atFirst]
          | false =>
              rw [sweep_cons_of_removed failed]
              refine (inductionHypothesis (server.delete now first).2).trans ?_
              by_cases atFirst : key = first
              · simp [atFirst, failed, delete]
              · simp [atFirst, delete]

theorem brokenOff_sweep (fails : Text → Bool) (now : Int) (keys : List Text)
    (server : KeyServer) :
    (sweep fails now server keys).brokenOff = keys.any (breaksOff fails) := by
  induction keys generalizing server with
  | nil => rfl
  | cons first rest inductionHypothesis =>
      rw [List.any_cons]
      cases breaks : breaksOff fails first with
      | true => rw [sweep_cons_of_breaksOff breaks, Bool.true_or]
      | false =>
          rw [Bool.false_or]
          cases failed : fails first with
          | true => rw [sweep_cons_of_fails failed breaks, inductionHypothesis]
          | false => rw [sweep_cons_of_removed failed, inductionHypothesis]

theorem failed_sweep (fails : Text → Bool) (now : Int) (keys : List Text)
    (server : KeyServer) :
    (sweep fails now server keys).failed = (attempted fails keys).countP fails := by
  induction keys generalizing server with
  | nil => rfl
  | cons first rest inductionHypothesis =>
      rw [attempted]
      cases breaks : breaksOff fails first with
      | true =>
          have failed := (Bool.and_eq_true_iff.mp breaks).1
          rw [sweep_cons_of_breaksOff breaks, if_pos rfl, List.countP_singleton, if_pos failed]
      | false =>
          rw [if_neg Bool.false_ne_true]
          cases failed : fails first with
          | true =>
              rw [sweep_cons_of_fails failed breaks, List.countP_cons_of_pos failed,
                ← inductionHypothesis server]
          | false =>
              rw [sweep_cons_of_removed failed, List.countP_cons_of_neg (by simp [failed]),
                ← inductionHypothesis (server.delete now first).2]

/-- Of distinct keys a sweep counts those that it attempts, that were there and whose removal does
not fail. -/
theorem removed_sweep (fails : Text → Bool) (now : Int) {keys : List Text}
    (distinct : keys.Nodup) (server : KeyServer) :
    (sweep fails now server keys).removed =
      (attempted fails keys).countP fun key =>
        !fails key && (server.liveDeadline? now key).isSome := by
  induction keys generalizing server with
  | nil => rfl
  | cons first rest inductionHypothesis =>
      obtain ⟨outside, restDistinct⟩ := List.nodup_cons.mp distinct
      rw [attempted]
      cases failed : fails first with
      | true =>
          cases breaks : breaksOff fails first with
          | true =>
              rw [sweep_cons_of_breaksOff breaks, if_pos rfl, List.countP_singleton, failed]
              rfl
          | false =>
              rw [sweep_cons_of_fails failed breaks, if_neg Bool.false_ne_true,
                List.countP_cons_of_neg (by simp [failed]),
                ← inductionHypothesis restDistinct server]
      | false =>
          have unchanged : (attempted fails rest).countP (fun key =>
                !fails key && ((server.delete now first).2.liveDeadline? now key).isSome) =
              (attempted fails rest).countP fun key =>
                !fails key && (server.liveDeadline? now key).isSome := by
            refine List.countP_congr fun key membership => ?_
            have differs : key ≠ first := fun equal =>
              outside (equal ▸ (attempted_isPrefix fails rest).subset membership)
            rw [liveDeadline?_delete_of_ne server now now differs]
          rw [sweep_cons_of_removed failed, breaksOff_of_removed failed,
            if_neg Bool.false_ne_true, List.countP_cons, ← unchanged,
            ← inductionHypothesis restDistinct]
          simp [failed, delete]

theorem nodup_keys_sweep (fails : Text → Bool) (now : Int) (keys : List Text)
    {server : KeyServer} (distinct : server.entries.keys.Nodup) :
    (sweep fails now server keys).server.entries.keys.Nodup := by
  induction keys generalizing server with
  | nil => exact distinct
  | cons first rest inductionHypothesis =>
      cases failed : fails first with
      | true =>
          cases breaks : breaksOff fails first with
          | true => rwa [sweep_cons_of_breaksOff breaks]
          | false =>
              rw [sweep_cons_of_fails failed breaks]
              exact inductionHypothesis distinct
      | false =>
          rw [sweep_cons_of_removed failed]
          exact inductionHypothesis (Table.nodup_keys_erase distinct first)

theorem attempted_never (keys : List Text) : attempted (fun _ => false) keys = keys :=
  attempted_eq_self fun _ _ => rfl

/-- Of the keys that begin with the text none is there afterwards, and no other key is touched. -/
theorem liveDeadline?_cleared (server : KeyServer) {now later : Int} (order : now ≤ later)
    (start key : Text) :
    (server.cleared now start).server.liveDeadline? later key =
      if start <+: key then none else server.liveDeadline? later key := by
  have fits_iff := Pattern.matchesKey_startingWith start key
  by_cases found : key ∈ server.scan now (Pattern.startingWith start)
  · rw [matchesKey_of_mem_scan found] at fits_iff
    rw [if_pos (List.isPrefixOf_iff_prefix.mp fits_iff.symm)]
    unfold liveDeadline? cleared
    rw [find?_sweep, attempted_never, if_pos ⟨found, rfl⟩]
    rfl
  · have kept : (server.cleared now start).server.liveDeadline? later key =
        server.liveDeadline? later key :=
      liveDeadline?_congr
        (by rw [cleared, find?_sweep, attempted_never, if_neg fun swept => found swept.1]) later
    rw [kept]
    split
    · next begins =>
        refine liveDeadline?_eq_none_of_le order (Option.eq_none_iff_forall_ne_some.mpr ?_)
        intro deadline live
        rw [List.isPrefixOf_iff_prefix.mpr begins] at fits_iff
        exact found (mem_scan_of_live live fits_iff)
    · rfl

theorem failed_cleared (server : KeyServer) (now : Int) (start : Text) :
    (server.cleared now start).failed = 0 := by
  rw [cleared, failed_sweep]
  simp

theorem brokenOff_cleared (server : KeyServer) (now : Int) (start : Text) :
    (server.cleared now start).brokenOff = false := by
  rw [cleared, brokenOff_sweep]
  exact List.any_eq_false.mpr fun _ _ => Bool.false_ne_true

/-- The keys shown as left are those that are there, with the time until their deadline. -/
theorem mem_remaining_iff {server : KeyServer} (distinct : server.entries.keys.Nodup) (now : Int)
    (key : Text) (left : Int) :
    (key, left) ∈ server.remaining now ↔
      ∃ deadline, server.liveDeadline? now key = some deadline ∧
        (deadline - now) / 1000 = left := by
  unfold remaining
  rw [List.mem_map]
  constructor
  · rintro ⟨⟨other, deadline⟩, membership, equal⟩
    obtain ⟨present, ahead⟩ := List.mem_filter.mp membership
    obtain ⟨rfl, rfl⟩ := Prod.mk.inj equal
    refine ⟨deadline, ?_, rfl⟩
    rw [liveDeadline?_eq_some_iff, Table.find?_eq_some_iff distinct]
    exact ⟨present, by simpa using ahead⟩
  · rintro ⟨deadline, live, rfl⟩
    obtain ⟨found, ahead⟩ := (liveDeadline?_eq_some_iff _ _ _ _).mp live
    exact ⟨(key, deadline), List.mem_filter.mpr ⟨Table.mem_of_find? found, by simpa using ahead⟩,
      rfl⟩

theorem nodup_remaining {server : KeyServer} (distinct : server.entries.keys.Nodup) (now : Int) :
    (server.remaining now).Nodup := by
  refine List.Nodup.of_map Prod.fst ?_
  unfold remaining
  rw [List.map_map]
  exact distinct.sublist (List.filter_sublist.map Prod.fst)

end TokenAuthority.KeyServer
