import Mathlib.Data.List.Perm.Basic
import TokenAuthority.Proofs.Store.Remote

/-!
Scans that come in pages.

A key server does not tell the keys of a scan at once but page by page, in an order of its own, and
a sweep removes the keys of one page before it asks for the next one.  Whatever the pages are, the
sweep comes to the same as one that is given all keys that the scan finds in the beginning, in some
order: of two sweeps one may go after the other, and the keys that are left to be found are those
that no page has held.  The order makes no difference unless the sweep breaks off.
-/

namespace TokenAuthority

theorem Table.erase_comm {δ : Type} (table : Table δ) (first second : Text) :
    (table.erase first).erase second = (table.erase second).erase first := by
  unfold erase
  rw [List.filter_filter, List.filter_filter]
  apply List.filter_congr
  intro entry _
  rw [Bool.and_comm]

namespace KeyServer

/-! ### Sweeps one after the other -/

/-- One sweep and then another one, unless the first one breaks off. -/
def Sweep.then (first second : Sweep) : Sweep :=
  if first.brokenOff then first
  else ⟨first.removed + second.removed, first.failed + second.failed, second.brokenOff,
    second.server⟩

theorem Sweep.then_of_brokenOff {first : Sweep} (breaks : first.brokenOff = true)
    (second : Sweep) : first.then second = first :=
  if_pos breaks

theorem Sweep.then_of_not_brokenOff {first : Sweep} (goesOn : first.brokenOff = false)
    (second : Sweep) :
    first.then second = ⟨first.removed + second.removed, first.failed + second.failed,
      second.brokenOff, second.server⟩ :=
  if_neg (by simp [goesOn])

theorem Sweep.then_assoc (first second third : Sweep) :
    (first.then second).then third = first.then (second.then third) := by
  unfold Sweep.then
  cases firstBroken : first.brokenOff <;> cases secondBroken : second.brokenOff <;>
    simp [firstBroken, secondBroken, Nat.add_assoc]

variable {fails : Text → Bool} {now : Int} {pattern : Text}

/-- The sweep of a single key. -/
def attempt (fails : Text → Bool) (now : Int) (server : KeyServer) (key : Text) : Sweep :=
  sweep fails now server [key]

theorem attempt_of_fails {key : Text} (failed : fails key = true) (server : KeyServer) :
    attempt fails now server key = ⟨0, 1, breaksOff fails key, server⟩ := by
  unfold attempt
  cases breaks : breaksOff fails key with
  | true => exact sweep_cons_of_breaksOff breaks now [] server
  | false => exact sweep_cons_of_fails failed breaks now [] server

theorem attempt_of_removed {key : Text} (removed : fails key = false) (server : KeyServer) :
    attempt fails now server key =
      ⟨(server.delete now key).1, 0, false, (server.delete now key).2⟩ := by
  unfold attempt
  rw [sweep_cons_of_removed removed]
  simp [sweep]

theorem sweep_cons (server : KeyServer) (key : Text) (rest : List Text) :
    sweep fails now server (key :: rest) =
      (attempt fails now server key).then
        (sweep fails now (attempt fails now server key).server rest) := by
  cases failed : fails key with
  | true =>
      rw [attempt_of_fails failed]
      cases breaks : breaksOff fails key with
      | true => rw [sweep_cons_of_breaksOff breaks, Sweep.then_of_brokenOff rfl]
      | false =>
          rw [sweep_cons_of_fails failed breaks, Sweep.then_of_not_brokenOff rfl, Nat.add_comm,
            Nat.zero_add]
  | false =>
      rw [attempt_of_removed failed, sweep_cons_of_removed failed,
        Sweep.then_of_not_brokenOff rfl, Nat.add_comm, Nat.zero_add]

theorem sweep_append (server : KeyServer) (first second : List Text) :
    sweep fails now server (first ++ second) =
      (sweep fails now server first).then
        (sweep fails now (sweep fails now server first).server second) := by
  induction first generalizing server with
  | nil => simp [sweep, Sweep.then]
  | cons key rest inductionHypothesis =>
      rw [List.cons_append, sweep_cons, inductionHypothesis, ← Sweep.then_assoc, ← sweep_cons]
      cases breaks : (attempt fails now server key).brokenOff with
      | true =>
          rw [sweep_cons, Sweep.then_of_brokenOff breaks, Sweep.then_of_brokenOff breaks,
            Sweep.then_of_brokenOff breaks]
      | false =>
          rw [sweep_cons server key rest, Sweep.then_of_not_brokenOff breaks]

/-- Two keys may be attempted in either order, unless a sweep breaks off at one of them. -/
theorem attempt_comm (server : KeyServer) {first second : Text}
    (firstGoesOn : breaksOff fails first = false)
    (secondGoesOn : breaksOff fails second = false) :
    (attempt fails now server first).then
        (attempt fails now (attempt fails now server first).server second) =
      (attempt fails now server second).then
        (attempt fails now (attempt fails now server second).server first) := by
  by_cases same : first = second
  · rw [same]
  · have firstKept := liveDeadline?_delete_of_ne server now now (Ne.symm same)
    have secondKept := liveDeadline?_delete_of_ne server now now same
    have bothErased : ((server.delete now first).2.delete now second).2 =
        ((server.delete now second).2.delete now first).2 :=
      congrArg KeyServer.mk (Table.erase_comm server.entries first second)
    have bothCounted :
        (server.delete now first).1 + ((server.delete now first).2.delete now second).1 =
          (server.delete now second).1 + ((server.delete now second).2.delete now first).1 := by
      show _ + (if _ then 1 else 0) = _ + (if _ then 1 else 0)
      rw [firstKept, secondKept]
      exact Nat.add_comm _ _
    cases firstFails : fails first <;> cases secondFails : fails second <;>
      simp [attempt_of_fails, attempt_of_removed, firstFails, secondFails, firstGoesOn,
        secondGoesOn, Sweep.then_of_not_brokenOff, bothErased, bothCounted]

/-- The order of the keys makes no difference to a sweep that does not break off. -/
theorem sweep_perm {keys others : List Text} (sameKeys : keys.Perm others)
    (goesOn : ∀ key ∈ keys, breaksOff fails key = false) (server : KeyServer) :
    sweep fails now server keys = sweep fails now server others := by
  induction sameKeys generalizing server with
  | nil => rfl
  | cons key _ inductionHypothesis =>
      rw [sweep_cons, sweep_cons, inductionHypothesis (List.forall_mem_cons.mp goesOn).2]
  | swap first second rest =>
      obtain ⟨secondGoesOn, goesOnAfter⟩ := List.forall_mem_cons.mp goesOn
      obtain ⟨firstGoesOn, _⟩ := List.forall_mem_cons.mp goesOnAfter
      have swapped := @attempt_comm fails now server second first secondGoesOn firstGoesOn
      have twoSwept := congrArg (fun swept : Sweep => swept.then
        (sweep fails now swept.server rest)) swapped
      rw [show second :: first :: rest = [second, first] ++ rest from rfl,
        show first :: second :: rest = [first, second] ++ rest from rfl, sweep_append,
        sweep_append, sweep_cons, sweep_cons server first]
      exact twoSwept
  | trans firstPerm _ firstHypothesis secondHypothesis =>
      rw [firstHypothesis goesOn,
        secondHypothesis fun key membership => goesOn key (firstPerm.mem_iff.mpr membership)]

/-! ### Pages -/

/-- Sweeps of a scan that comes in pages, after some keys were found.  A page holds some of the keys
that are there and were not found before, in any order; its keys are attempted before the next page
is asked for, and the scan ends when every key has been found or a sweep breaks off. -/
inductive SweepsPages (fails : Text → Bool) (now : Int) (pattern : Text) :
    KeyServer → List Text → Sweep → Prop where
  | ended {server : KeyServer} {found : List Text} :
      (∀ key ∈ server.scan now pattern, key ∈ found) →
      SweepsPages fails now pattern server found ⟨0, 0, false, server⟩
  | page {server : KeyServer} {found page : List Text} {later : Sweep} :
      page.Nodup →
      (∀ key ∈ page, key ∈ server.scan now pattern ∧ key ∉ found) →
      (server.sweep fails now page).brokenOff = false →
      SweepsPages fails now pattern (server.sweep fails now page).server (found ++ page) later →
      SweepsPages fails now pattern server found ((server.sweep fails now page).then later)
  | brokenOff {server : KeyServer} {found page : List Text} :
      page.Nodup →
      (∀ key ∈ page, key ∈ server.scan now pattern ∧ key ∉ found) →
      (server.sweep fails now page).brokenOff = true →
      SweepsPages fails now pattern server found (server.sweep fails now page)

theorem goesOn_of_not_brokenOff {server : KeyServer} {keys : List Text}
    (goesOn : (server.sweep fails now keys).brokenOff = false) :
    ∀ key ∈ keys, breaksOff fails key = false := by
  rw [brokenOff_sweep] at goesOn
  intro key membership
  exact Bool.eq_false_iff.mpr (List.any_eq_false.mp goesOn key membership)

/-- After a sweep that did not break off a scan still finds what the sweep was not given or failed
to remove. -/
theorem mem_scan_sweep_iff {server : KeyServer} (distinct : server.entries.keys.Nodup)
    {keys : List Text} (goesOn : (server.sweep fails now keys).brokenOff = false) (key : Text) :
    key ∈ (server.sweep fails now keys).server.scan now pattern ↔
      key ∈ server.scan now pattern ∧ ¬(key ∈ keys ∧ fails key = false) := by
  have allAttempted := attempted_eq_self (goesOn_of_not_brokenOff goesOn)
  rw [mem_scan_iff (nodup_keys_sweep fails now keys distinct), mem_scan_iff distinct]
  by_cases swept : key ∈ keys ∧ fails key = false
  · have gone : (server.sweep fails now keys).server.liveDeadline? now key = none := by
      unfold liveDeadline?
      rw [find?_sweep, allAttempted, if_pos swept]
      rfl
    simp [gone, swept]
  · have kept : (server.sweep fails now keys).server.liveDeadline? now key =
        server.liveDeadline? now key :=
      liveDeadline?_congr (by rw [find?_sweep, allAttempted, if_neg swept]) now
    rw [kept]
    exact ⟨fun there => ⟨there, swept⟩, And.left⟩

/-- Pages amount to one sweep of the keys still to be found, in an order that they tell. -/
theorem SweepsPages.exists_eq_sweep {server : KeyServer} {found : List Text} {swept : Sweep}
    (sweeps : SweepsPages fails now pattern server found swept)
    (distinct : server.entries.keys.Nodup) :
    ∃ keys : List Text, swept = server.sweep fails now keys ∧ keys.Nodup ∧
      ∀ key, key ∈ keys ↔ key ∈ server.scan now pattern ∧ key ∉ found := by
  induction sweeps with
  | @ended server found allFound =>
      refine ⟨[], rfl, List.nodup_nil, fun key => ?_⟩
      simp only [List.not_mem_nil, false_iff, not_and, not_not]
      exact allFound key
  | @page server found page later pageDistinct fresh goesOn _ inductionHypothesis =>
      obtain ⟨keys, rfl, keysDistinct, holds⟩ :=
        inductionHypothesis (nodup_keys_sweep fails now page distinct)
      have leftToFind : ∀ key, key ∈ keys ↔
          key ∈ server.scan now pattern ∧ key ∉ found ∧ key ∉ page := by
        intro key
        rw [holds, mem_scan_sweep_iff distinct goesOn, List.mem_append]
        tauto
      refine ⟨page ++ keys, (sweep_append server page keys).symm, ?_, ?_⟩
      · apply List.nodup_append'.mpr
        refine ⟨pageDistinct, keysDistinct, ?_⟩
        intro key onPage onLaterPage
        exact ((leftToFind key).mp onLaterPage).2.2 onPage
      · intro key
        rw [List.mem_append, leftToFind]
        have ofPage := fresh key
        tauto
  | @brokenOff server found page pageDistinct fresh breaks =>
      let unseen : List Text :=
        (server.scan now pattern).filter fun key => decide (key ∉ found ∧ key ∉ page)
      have unseen_iff : ∀ key, key ∈ unseen ↔
          key ∈ server.scan now pattern ∧ key ∉ found ∧ key ∉ page := by
        intro key
        rw [List.mem_filter, decide_eq_true_eq]
      refine ⟨page ++ unseen, ?_, ?_, ?_⟩
      · rw [sweep_append, Sweep.then_of_brokenOff breaks]
      · apply List.nodup_append'.mpr
        refine ⟨pageDistinct, (nodup_scan distinct now pattern).filter _, ?_⟩
        intro key onPage notSeen
        exact ((unseen_iff key).mp notSeen).2.2 onPage
      · intro key
        rw [List.mem_append, unseen_iff]
        have ofPage := fresh key
        tauto

/-- However a scan comes in pages, the sweep is one of all keys that the scan finds at first. -/
theorem SweepsPages.exists_perm {server : KeyServer} {swept : Sweep}
    (sweeps : SweepsPages fails now pattern server [] swept)
    (distinct : server.entries.keys.Nodup) :
    ∃ keys : List Text, keys.Perm (server.scan now pattern) ∧
      swept = server.sweep fails now keys := by
  obtain ⟨keys, rfl, keysDistinct, holds⟩ := sweeps.exists_eq_sweep distinct
  refine ⟨keys, ?_, rfl⟩
  apply (List.perm_ext_iff_of_nodup keysDistinct (nodup_scan distinct now pattern)).mpr
  intro key
  rw [holds]
  simp

/-- Any pages that hold the keys still to be found once, in whatever order, may come. -/
theorem sweepsPages_of_pages {server : KeyServer} (distinct : server.entries.keys.Nodup)
    {found : List Text} {pages : List (List Text)} (eachOnce : pages.flatten.Nodup)
    (allKeys : ∀ key, key ∈ pages.flatten ↔ key ∈ server.scan now pattern ∧ key ∉ found) :
    SweepsPages fails now pattern server found (server.sweep fails now pages.flatten) := by
  induction pages generalizing server found with
  | nil =>
      apply SweepsPages.ended
      intro key there
      by_contra notFound
      exact List.not_mem_nil ((allKeys key).mpr ⟨there, notFound⟩)
  | cons page rest inductionHypothesis =>
      rw [List.flatten_cons] at eachOnce allKeys ⊢
      obtain ⟨pageDistinct, restDistinct, disjoint⟩ := List.nodup_append'.mp eachOnce
      have fresh : ∀ key ∈ page, key ∈ server.scan now pattern ∧ key ∉ found :=
        fun key onPage => (allKeys key).mp (List.mem_append_left _ onPage)
      rw [sweep_append]
      cases breaks : (server.sweep fails now page).brokenOff with
      | true =>
          rw [Sweep.then_of_brokenOff breaks]
          exact .brokenOff pageDistinct fresh breaks
      | false =>
          apply SweepsPages.page pageDistinct fresh breaks
          apply inductionHypothesis (nodup_keys_sweep fails now page distinct) restDistinct
          intro key
          have all := allKeys key
          have apart : key ∈ page → key ∉ rest.flatten := fun onPage later => disjoint onPage later
          rw [mem_scan_sweep_iff distinct breaks, List.mem_append]
          rw [List.mem_append] at all
          tauto

end KeyServer

end TokenAuthority
