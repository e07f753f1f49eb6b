import Mathlib.Data.Finset.Card
import Mathlib.Data.Finset.Image
import TokenAuthority.Proofs.Service.Rotation
import TokenAuthority.Proofs.Service.StoreRun

/-!
The store in memory refines a map that never purges.

A `DeadlineMap` keeps the deadline of every pair of a user and a token until the pair is removed.
The store keeps keys instead of pairs and drops an entry that no longer counts whenever an
operation comes across it, so the two agree on the entries that count and on nothing else.  That is
enough: no operation looks at an entry that does not count, except `expire`, which gives it another
deadline that is not ahead.
-/

namespace TokenAuthority

namespace StoreAccess.Request

/-- The token that a request names besides its user. -/
def token? : Request → Option Text
  | .put token _ => some token
  | .delete token => some token
  | .deleteAll => none
  | .contains token => some token
  | .expire token => some token

/-- What a request is refused for: a user or a token that is no part of a key. -/
def refusal? (user : Text) (request : Request) : Option StoreKey.PartError :=
  if StoreKey.isPart user = false then some ⟨.user, .text user⟩
  else
    match request.token? with
    | some token => if StoreKey.isPart token = false then some ⟨.token, .text token⟩ else none
    | none => none

/-- The answer that refuses a request. -/
def refused (error : StoreKey.PartError) : Request → Receipt
  | .put _ _ => .done (.error (.keyPart error))
  | .delete _ => .count (.error (.keyPart error))
  | .deleteAll => .count (.error (.keyPart error))
  | .contains _ => .found (.error (.keyPart error))
  | .expire _ => .done (.error (.keyPart error))

end StoreAccess.Request

open StoreAccess

/-- Deadlines, in seconds of the ticking clock, of pairs of a user and a token. -/
structure DeadlineMap where
  pairs : Finset (Text × Text)
  deadline : Text × Text → Binary64

namespace DeadlineMap

def empty : DeadlineMap := ⟨∅, fun _ => .ofInt 0⟩

/-- The pairs that count, which are those with a deadline strictly ahead. -/
def counting (map : DeadlineMap) (now : Binary64) : Finset (Text × Text) :=
  map.pairs.filter fun pair => (map.deadline pair).atMost now = false

def set (map : DeadlineMap) (pair : Text × Text) (deadline : Binary64) : DeadlineMap :=
  ⟨insert pair map.pairs, Function.update map.deadline pair deadline⟩

def remove (map : DeadlineMap) (pair : Text × Text) : DeadlineMap :=
  ⟨map.pairs.erase pair, map.deadline⟩

def removeUser (map : DeadlineMap) (user : Text) : DeadlineMap :=
  ⟨map.pairs.filter fun pair => pair.1 ≠ user, map.deadline⟩

/-- The answer to a request at an instant.  One that names no parts of a key is refused and changes
nothing. -/
def answer (map : DeadlineMap) (now : Binary64) (user : Text) (request : Request) :
    Receipt × DeadlineMap :=
  match request.refusal? user with
  | some error => (request.refused error, map)
  | none =>
      match request with
      | .put token lifetime =>
          (.done (.ok ()),
            map.set (user, token) (now.add (.ofInt (Duration.storeSeconds lifetime))))
      | .delete token =>
          if (user, token) ∈ map.counting now then
            (.count (.ok 1), map.remove (user, token))
          else (.count (.ok 0), map)
      | .deleteAll =>
          (.count (.ok ((map.counting now).filter fun pair => pair.1 = user).card),
            map.removeUser user)
      | .contains token => (.found (.ok (decide ((user, token) ∈ map.counting now))), map)
      | .expire token =>
          (.done (.ok ()), if (user, token) ∈ map.pairs then map.set (user, token) now else map)

end DeadlineMap

namespace StoreAccess

/-- What happens to a store in memory: an event of a run, or its entries are counted. -/
inductive Action where
  | event (event : Event)
  | size

def operate (action : Action) (world : World) : Receipt × World :=
  match action with
  | .event event => perform event world
  | .size => (Call.runIn size world).map .count id

def worldThrough (start : World) (actions : List Action) : World :=
  actions.foldl (fun world action => (operate action world).2) start

/-- The answers of a run that starts in a world. -/
def answers : World → List Action → List Receipt
  | _, [] => []
  | world, action :: rest =>
      (operate action world).1 :: answers (operate action world).2 rest

end StoreAccess

namespace DeadlineMap

/-- What the map answers to an operation, and the clock and the map after it. -/
def operate (map : DeadlineMap) (clock : Clock) (action : Action) : Receipt × Clock × DeadlineMap :=
  match action with
  | .event (.request user request) =>
      ((map.answer clock.seconds user request).1, clock, (map.answer clock.seconds user request).2)
  | .event (.advance milliseconds) => (.done (.ok ()), clock.advance milliseconds, map)
  | .size => (.count (.ok (map.counting clock.seconds).card), clock, map)

def answers : DeadlineMap → Clock → List Action → List Receipt
  | _, _, [] => []
  | map, clock, action :: rest =>
      let (reply, later, after) := map.operate clock action
      reply :: answers after later rest

end DeadlineMap

/-! ### Refused requests -/

namespace StoreAccess.Request

variable {user token : Text} {request : Request}

theorem isPart_user_of_refusal? (allowed : request.refusal? user = none) :
    StoreKey.isPart user = true := by
  unfold refusal? at allowed
  split at allowed
  · cases allowed
  · next part => exact Bool.of_not_eq_false part

theorem isPart_token_of_refusal? (allowed : request.refusal? user = none)
    (names : request.token? = some token) : StoreKey.isPart token = true := by
  have userPart := isPart_user_of_refusal? allowed
  unfold refusal? at allowed
  rw [userPart, names] at allowed
  cases part : StoreKey.isPart token with
  | true => rfl
  | false => simp [part] at allowed

/-- A user and a token make no key exactly when a request that names them is refused. -/
theorem make_eq_error_of_refusal? {error : StoreKey.PartError}
    (wrong : request.refusal? user = some error) (names : request.token? = some token) :
    StoreKey.make user token = .error error := by
  unfold refusal? at wrong
  rw [names] at wrong
  rw [StoreKey.make_eq]
  split at wrong
  · next noPart => rw [if_pos noPart, Option.some.inj wrong]
  · next part =>
      rw [if_neg part]
      simp only at wrong
      split at wrong
      · next noPart => rw [if_pos noPart, Option.some.inj wrong]
      · cases wrong

end StoreAccess.Request

theorem Store.serve_of_refusal (store : MemoryStore) (clock : Clock) {user : Text}
    {request : Request} {error : StoreKey.PartError}
    (wrong : request.refusal? user = some error) :
    (Store.memory store).serve clock user request = (request.refused error, .memory store) := by
  cases request with
  | put token lifetime =>
      exact serveKey_of_refused (Request.make_eq_error_of_refusal? wrong rfl)
  | delete token =>
      exact serveKey_of_refused (Request.make_eq_error_of_refusal? wrong rfl)
  | contains token =>
      exact serveKey_of_refused (Request.make_eq_error_of_refusal? wrong rfl)
  | expire token =>
      exact serveKey_of_refused (Request.make_eq_error_of_refusal? wrong rfl)
  | deleteAll =>
      unfold Request.refusal? at wrong
      rw [serve, StoreKey.start_eq]
      split at wrong
      · next noPart =>
          rw [if_pos noPart, Option.some.inj wrong]
          rfl
      · cases wrong

/-! ### Counting -/

namespace DeadlineMap

/-- The deadline of a pair that counts. -/
def liveDeadline? (map : DeadlineMap) (now : Binary64) (pair : Text × Text) :
    Option Binary64 :=
  if pair ∈ map.counting now then some (map.deadline pair) else none

variable (map : DeadlineMap) (now : Binary64) (pair : Text × Text)

theorem isSome_liveDeadline? :
    (map.liveDeadline? now pair).isSome = decide (pair ∈ map.counting now) := by
  unfold liveDeadline?
  split <;> simp [*]

theorem mem_counting_iff :
    pair ∈ map.counting now ↔ pair ∈ map.pairs ∧ (map.deadline pair).atMost now = false :=
  Finset.mem_filter

theorem liveDeadline?_set (written : Text × Text) (deadline : Binary64) :
    (map.set written deadline).liveDeadline? now pair =
      if pair = written then (if deadline.atMost now = false then some deadline else none)
      else map.liveDeadline? now pair := by
  by_cases same : pair = written
  · simp [liveDeadline?, mem_counting_iff, set, same]
  · simp [liveDeadline?, mem_counting_iff, set, same]

theorem liveDeadline?_remove (removed : Text × Text) :
    (map.remove removed).liveDeadline? now pair =
      if pair = removed then none else map.liveDeadline? now pair := by
  by_cases same : pair = removed
  · simp [liveDeadline?, mem_counting_iff, remove, same]
  · simp [liveDeadline?, mem_counting_iff, remove, same]

theorem liveDeadline?_removeUser (user : Text) :
    (map.removeUser user).liveDeadline? now pair =
      if pair.1 = user then none else map.liveDeadline? now pair := by
  by_cases same : pair.1 = user
  · simp [liveDeadline?, mem_counting_iff, removeUser, same]
  · simp [liveDeadline?, mem_counting_iff, removeUser, same]

/-- A pair whose deadline is now does not count, whether it did before or not. -/
theorem liveDeadline?_ended (current : now.atMost now = true) (ended : Text × Text) :
    (if ended ∈ map.pairs then map.set ended now else map).liveDeadline? now pair =
      if pair = ended then none else map.liveDeadline? now pair := by
  split
  · rw [liveDeadline?_set, current, if_neg Bool.true_eq_false.mp]
  · next absent =>
      by_cases same : pair = ended
      · simp [liveDeadline?, mem_counting_iff, same, absent]
      · rw [if_neg same]

/-- As time passes, pairs end and nothing else happens. -/
theorem liveDeadline?_later {later : Binary64} (order : now.Precedes later) :
    map.liveDeadline? later pair =
      (map.liveDeadline? now pair).filter fun deadline => !deadline.atMost later := by
  unfold liveDeadline?
  simp only [mem_counting_iff]
  by_cases present : pair ∈ map.pairs
  · cases past : (map.deadline pair).atMost later with
    | true => by_cases (map.deadline pair).atMost now = false <;> simp [*, Option.filter_some]
    | false => simp [present, past, order.atMost_eq_false past, Option.filter_some]
  · simp [present]

end DeadlineMap

namespace MemoryStore

theorem liveDeadline?_later (store : MemoryStore) {now later : Binary64}
    (order : now.Precedes later) (key : Text) :
    store.liveDeadline? later key =
      (store.liveDeadline? now key).filter fun deadline => !deadline.atMost later := by
  unfold liveDeadline?
  rw [Option.filter_filter]
  congr 1
  funext deadline
  cases past : deadline.atMost later with
  | true => exact (Bool.and_false _).symm
  | false => simp [order.atMost_eq_false past]

/-- An entry whose deadline is now does not count, whether it did before or not. -/
theorem liveDeadline?_ended (store : MemoryStore) {now : Binary64} (current : now.atMost now = true)
    (ended key : Text) :
    (if (store.entries.find? ended).isSome then ⟨store.entries.set ended now⟩ else store
        : MemoryStore).liveDeadline? now key =
      if key = ended then none else store.liveDeadline? now key := by
  split
  · by_cases same : key = ended
    · simp [liveDeadline?, same, current]
    · simp [liveDeadline?, same]
  · next absent =>
      by_cases same : key = ended
      · rw [if_pos same, same]
        rw [Bool.not_eq_true, Option.isSome_eq_false_iff, Option.isNone_iff_eq_none] at absent
        simp [liveDeadline?, absent]
      · rw [if_neg same]

theorem liveDeadline?_countLive {now later : Binary64} (order : now.Precedes later)
    (keys : List Text)
    (key : Text) (store : MemoryStore) :
    (countLive now store keys).2.liveDeadline? later key = store.liveDeadline? later key := by
  induction keys generalizing store with
  | nil => rfl
  | cons checked rest inductionHypothesis =>
      rw [countLive_cons, inductionHypothesis, liveDeadline?_check store order]

/-- Checking keys adds no entry. -/
theorem find?_countLive_eq_some {now deadline : Binary64} {keys : List Text} {key : Text}
    {store : MemoryStore}
    (found : (countLive now store keys).2.entries.find? key = some deadline) :
    store.entries.find? key = some deadline := by
  induction keys generalizing store with
  | nil => exact found
  | cons checked rest inductionHypothesis =>
      rw [countLive_cons] at found
      have foundBefore := inductionHypothesis found
      rw [find?_check] at foundBefore
      split at foundBefore
      · cases foundBefore
      · exact foundBefore

end MemoryStore

/-! ### The relation -/

/-- Whether a store in memory and a map agree on what counts at an instant, and hold nothing but
keys and pairs made of parts. -/
structure Refines (now : Binary64) (store : MemoryStore) (map : DeadlineMap) : Prop where
  distinct : store.entries.keys.Nodup
  keysJoin : ∀ key ∈ store.entries.keys, ∃ user token,
    StoreKey.isPart user = true ∧ StoreKey.isPart token = true ∧ key = StoreKey.join user token
  parts : ∀ pair ∈ map.pairs, StoreKey.isPart pair.1 = true ∧ StoreKey.isPart pair.2 = true
  alike : ∀ user token, StoreKey.isPart user = true → StoreKey.isPart token = true →
    store.liveDeadline? now (StoreKey.join user token) = map.liveDeadline? now (user, token)

namespace Refines

variable {now : Binary64} {store : MemoryStore} {map : DeadlineMap}

theorem empty (now : Binary64) : Refines now .empty .empty where
  distinct := List.nodup_nil
  keysJoin := by
    intro key membership
    cases membership
  parts := by
    intro pair membership
    cases membership
  alike := by
    intro user token _ _
    rfl

theorem later (refines : Refines now store map) {later : Binary64} (order : now.Precedes later) :
    Refines later store map where
  distinct := refines.distinct
  keysJoin := refines.keysJoin
  parts := refines.parts
  alike := by
    intro user token userPart tokenPart
    rw [store.liveDeadline?_later order, map.liveDeadline?_later now _ order,
      refines.alike user token userPart tokenPart]

/-- A change at one pair, made on both sides, keeps the relation. -/
theorem changedAt (refines : Refines now store map) {user token : Text}
    (userPart : StoreKey.isPart user = true) (tokenPart : StoreKey.isPart token = true)
    {changed : MemoryStore} {changedMap : DeadlineMap} (distinct : changed.entries.keys.Nodup)
    (keys : ∀ key ∈ changed.entries.keys,
      key = StoreKey.join user token ∨ key ∈ store.entries.keys)
    (pairs : ∀ pair ∈ changedMap.pairs, pair = (user, token) ∨ pair ∈ map.pairs)
    (here : changed.liveDeadline? now (StoreKey.join user token) =
      changedMap.liveDeadline? now (user, token))
    (otherKeys : ∀ key, key ≠ StoreKey.join user token →
      changed.liveDeadline? now key = store.liveDeadline? now key)
    (otherPairs : ∀ pair, pair ≠ (user, token) →
      changedMap.liveDeadline? now pair = map.liveDeadline? now pair) :
    Refines now changed changedMap where
  distinct := distinct
  keysJoin := by
    intro key membership
    rcases keys key membership with rfl | before
    · exact ⟨user, token, userPart, tokenPart, rfl⟩
    · exact refines.keysJoin key before
  parts := by
    intro pair membership
    rcases pairs pair membership with rfl | before
    · exact ⟨userPart, tokenPart⟩
    · exact refines.parts pair before
  alike := by
    intro owner other ownerPart otherPart
    by_cases same : owner = user ∧ other = token
    · obtain ⟨rfl, rfl⟩ := same
      exact here
    · have otherKey : StoreKey.join owner other ≠ StoreKey.join user token := fun equal =>
        same ((StoreKey.join_eq_join_iff userPart tokenPart owner other).mp equal)
      have otherPair : (owner, other) ≠ (user, token) := fun equal => same (Prod.mk.inj equal)
      rw [otherKeys _ otherKey, otherPairs _ otherPair,
        refines.alike owner other ownerPart otherPart]

/-- Dropping entries that do not count keeps the relation. -/
theorem purged (refines : Refines now store map) {kept : MemoryStore}
    (distinct : kept.entries.keys.Nodup)
    (keys : ∀ key ∈ kept.entries.keys, key ∈ store.entries.keys)
    (same : ∀ key, kept.liveDeadline? now key = store.liveDeadline? now key) :
    Refines now kept map where
  distinct := distinct
  keysJoin := fun key membership => refines.keysJoin key (keys key membership)
  parts := refines.parts
  alike := by
    intro user token userPart tokenPart
    rw [same, refines.alike user token userPart tokenPart]

theorem isSome_iff (refines : Refines now store map) {user token : Text}
    (userPart : StoreKey.isPart user = true) (tokenPart : StoreKey.isPart token = true) :
    (store.liveDeadline? now (StoreKey.join user token)).isSome =
      decide ((user, token) ∈ map.counting now) := by
  rw [refines.alike user token userPart tokenPart, map.isSome_liveDeadline?]

/-! ### Single pairs -/

variable {user token : Text} (userPart : StoreKey.isPart user = true)
  (tokenPart : StoreKey.isPart token = true)

include userPart tokenPart

theorem set (refines : Refines now store map) (deadline : Binary64) :
    Refines now ⟨store.entries.set (StoreKey.join user token) deadline⟩
      (map.set (user, token) deadline) := by
  apply refines.changedAt userPart tokenPart
  · exact Table.nodup_keys_set refines.distinct _ _
  · exact fun key => Table.mem_keys_set
  · intro pair membership
    exact Finset.mem_insert.mp membership
  · rw [map.liveDeadline?_set, if_pos rfl]
    simp [MemoryStore.liveDeadline?, Option.filter_some]
  · intro key differs
    apply MemoryStore.liveDeadline?_congr
    rw [Table.find?_set, if_neg differs]
  · intro pair differs
    rw [map.liveDeadline?_set, if_neg differs]

theorem remove (refines : Refines now store map) :
    Refines now ⟨store.entries.erase (StoreKey.join user token)⟩
      (if (user, token) ∈ map.counting now then map.remove (user, token) else map) := by
  apply refines.changedAt userPart tokenPart
  · exact Table.nodup_keys_erase refines.distinct _
  · intro key membership
    rw [Table.keys_erase] at membership
    exact .inr (List.mem_filter.mp membership).1
  · intro pair membership
    split at membership
    · exact .inr (Finset.mem_of_mem_erase membership)
    · exact .inr membership
  · have gone : MemoryStore.liveDeadline? ⟨store.entries.erase (StoreKey.join user token)⟩ now
        (StoreKey.join user token) = none := by
      simp [MemoryStore.liveDeadline?]
    rw [gone]
    split
    · rw [map.liveDeadline?_remove, if_pos rfl]
    · next notCounting => exact (if_neg notCounting).symm
  · intro key differs
    apply MemoryStore.liveDeadline?_congr
    rw [Table.find?_erase, if_neg differs]
  · intro pair differs
    split
    · rw [map.liveDeadline?_remove, if_neg differs]
    · rfl

/-- Ending the entry of a pair, on the sides that still have one, keeps the relation: an entry that
only one side has does not count before and does not count after. -/
theorem expire (refines : Refines now store map) (current : now.atMost now = true) :
    Refines now
      (if (store.entries.find? (StoreKey.join user token)).isSome then
        ⟨store.entries.set (StoreKey.join user token) now⟩ else store)
      (if (user, token) ∈ map.pairs then map.set (user, token) now else map) := by
  apply refines.changedAt userPart tokenPart
  · split
    · exact Table.nodup_keys_set refines.distinct _ _
    · exact refines.distinct
  · intro key membership
    split at membership
    · exact Table.mem_keys_set membership
    · exact .inr membership
  · intro pair membership
    split at membership
    · exact Finset.mem_insert.mp membership
    · exact .inr membership
  · rw [store.liveDeadline?_ended current, if_pos rfl, map.liveDeadline?_ended _ _ current,
      if_pos rfl]
  · intro key differs
    rw [store.liveDeadline?_ended current, if_neg differs]
  · intro pair differs
    rw [map.liveDeadline?_ended _ _ current, if_neg differs]

omit userPart tokenPart

/-! ### Whole stores -/

/-- Checking entries drops some that do not count, which keeps the relation. -/
theorem countLive (refines : Refines now store map) (keys : List Text) :
    Refines now (MemoryStore.countLive now store keys).2 map := by
  apply refines.purged
  · exact MemoryStore.nodup_keys_countLive now keys refines.distinct
  · intro key membership
    obtain ⟨deadline, found⟩ := (Table.mem_keys_iff _ key).mp membership
    exact (Table.mem_keys_iff _ key).mpr ⟨deadline, MemoryStore.find?_countLive_eq_some found⟩
  · exact fun key => MemoryStore.liveDeadline?_countLive (.refl now) keys key store

theorem check (refines : Refines now store map) (key : Text) :
    Refines now (store.check now key).2 map :=
  refines.countLive [key]

theorem clear (refines : Refines now store map) {user : Text}
    (userPart : StoreKey.isPart user = true) :
    Refines now (store.cleared now (StoreKey.userStart user)) (map.removeUser user) where
  distinct := MemoryStore.nodup_keys_cleared refines.distinct now _
  keysJoin := by
    intro key membership
    obtain ⟨deadline, found⟩ := (Table.mem_keys_iff _ key).mp membership
    rw [MemoryStore.find?_cleared] at found
    split at found
    · cases found
    · exact refines.keysJoin key ((Table.mem_keys_iff _ key).mpr ⟨deadline, found⟩)
  parts := fun pair membership => refines.parts pair (Finset.mem_filter.mp membership).1
  alike := by
    intro owner token ownerPart tokenPart
    rw [store.liveDeadline?_cleared, map.liveDeadline?_removeUser,
      refines.alike owner token ownerPart tokenPart]
    simp only [StoreKey.userStart_isPrefix_join_iff userPart ownerPart, eq_comm]

/-- A listing of distinct keys counts as many of them as there are pairs that they belong to. -/
theorem countP_eq_card {keys : List Text} (distinct : keys.Nodup) {counts : Text → Bool}
    {pairs : Finset (Text × Text)}
    (parts : ∀ pair ∈ pairs, StoreKey.isPart pair.1 = true ∧ StoreKey.isPart pair.2 = true)
    (same : ∀ key, (key ∈ keys ∧ counts key = true) ↔
      ∃ pair ∈ pairs, StoreKey.join pair.1 pair.2 = key) :
    keys.countP counts = pairs.card := by
  have injective : Set.InjOn (fun pair : Text × Text => StoreKey.join pair.1 pair.2) pairs := by
    intro first _ second membership equal
    obtain ⟨userPart, tokenPart⟩ := parts second membership
    exact Prod.ext_iff.mpr ((StoreKey.join_eq_join_iff userPart tokenPart _ _).mp equal)
  have isImage : (keys.filter counts).toFinset =
      pairs.image fun pair => StoreKey.join pair.1 pair.2 := by
    ext key
    rw [List.mem_toFinset, List.mem_filter, Finset.mem_image, same key]
  rw [List.countP_eq_length_filter, ← List.toFinset_card_of_nodup (distinct.filter counts), isImage,
    Finset.card_image_of_injOn injective]

theorem parts_of_counting (refines : Refines now store map) {pair : Text × Text}
    (counting : pair ∈ map.counting now) :
    StoreKey.isPart pair.1 = true ∧ StoreKey.isPart pair.2 = true :=
  refines.parts pair ((map.mem_counting_iff now pair).mp counting).1

/-- The keys that count are the keys of the pairs that count. -/
theorem live_iff (refines : Refines now store map) (key : Text) :
    (key ∈ store.entries.keys ∧ (store.liveDeadline? now key).isSome = true) ↔
      ∃ pair ∈ map.counting now, StoreKey.join pair.1 pair.2 = key := by
  constructor
  · rintro ⟨membership, live⟩
    obtain ⟨user, token, userPart, tokenPart, rfl⟩ := refines.keysJoin key membership
    rw [refines.isSome_iff userPart tokenPart] at live
    exact ⟨(user, token), of_decide_eq_true live, rfl⟩
  · rintro ⟨pair, counting, rfl⟩
    obtain ⟨userPart, tokenPart⟩ := refines.parts_of_counting counting
    have live : (store.liveDeadline? now (StoreKey.join pair.1 pair.2)).isSome = true := by
      rw [refines.isSome_iff userPart tokenPart]
      exact decide_eq_true counting
    obtain ⟨deadline, isLive⟩ := Option.isSome_iff_exists.mp live
    have found := ((store.liveDeadline?_eq_some_iff now _ deadline).mp isLive).1
    exact ⟨(Table.mem_keys_iff _ _).mpr ⟨deadline, found⟩, live⟩

theorem countP_keys (refines : Refines now store map) :
    (store.entries.keys.countP fun key => (store.liveDeadline? now key).isSome) =
      (map.counting now).card :=
  countP_eq_card refines.distinct (fun _ => refines.parts_of_counting) refines.live_iff

theorem countP_keysFrom (refines : Refines now store map) {user : Text}
    (userPart : StoreKey.isPart user = true) :
    ((store.keysFrom (StoreKey.userStart user)).countP
        fun key => (store.liveDeadline? now key).isSome) =
      ((map.counting now).filter fun pair => pair.1 = user).card := by
  apply countP_eq_card
  · exact refines.distinct.filter _
  · intro pair membership
    exact refines.parts_of_counting (Finset.mem_filter.mp membership).1
  · intro key
    rw [MemoryStore.mem_keysFrom_iff, and_right_comm, refines.live_iff]
    constructor
    · rintro ⟨⟨pair, counting, rfl⟩, begins⟩
      have isUser := (StoreKey.userStart_isPrefix_join_iff userPart
        (refines.parts_of_counting counting).1 pair.2).mp begins
      exact ⟨pair, Finset.mem_filter.mpr ⟨counting, isUser.symm⟩, rfl⟩
    · rintro ⟨pair, membership, rfl⟩
      obtain ⟨counting, isUser⟩ := Finset.mem_filter.mp membership
      refine ⟨⟨pair, counting, rfl⟩, ?_⟩
      exact (StoreKey.userStart_isPrefix_join_iff userPart
        (refines.parts_of_counting counting).1 pair.2).mpr isUser.symm

/-! ### Requests -/

/-- Whether the store answers as the map does and the two still agree afterwards. -/
def Follows (now : Binary64) (served : Receipt × Store) (expected : Receipt × DeadlineMap) : Prop :=
  served.1 = expected.1 ∧ ∃ after, served.2 = .memory after ∧ Refines now after expected.2

/-- Every request is answered by the store as by the map. -/
theorem follows_serve {clock : Clock} (refines : Refines clock.seconds store map) (user : Text)
    (request : Request) :
    Follows clock.seconds ((Store.memory store).serve clock user request)
      (map.answer clock.seconds user request) := by
  unfold DeadlineMap.answer
  cases wrong : request.refusal? user with
  | some error =>
      rw [Store.serve_of_refusal store clock wrong]
      exact ⟨rfl, store, rfl, refines⟩
  | none =>
      have userPart := Request.isPart_user_of_refusal? wrong
      cases request with
      | put token lifetime =>
          have tokenPart := Request.isPart_token_of_refusal? wrong rfl
          rw [Store.serve, Store.serveKey_of_takes userPart tokenPart rfl]
          exact ⟨rfl, _, rfl, refines.set userPart tokenPart _⟩
      | delete token =>
          have tokenPart := Request.isPart_token_of_refusal? wrong rfl
          have live := refines.isSome_iff userPart tokenPart
          have removed := refines.remove userPart tokenPart
          rw [Store.serve, Store.serveKey_of_takes userPart tokenPart rfl]
          by_cases counting : (user, token) ∈ map.counting clock.seconds
          · simp only [if_pos counting] at removed ⊢
            exact ⟨by simp [Store.isSome_liveDeadline?_memory, live, counting], _, rfl, removed⟩
          · simp only [if_neg counting] at removed ⊢
            exact ⟨by simp [Store.isSome_liveDeadline?_memory, live, counting], _, rfl, removed⟩
      | contains token =>
          have tokenPart := Request.isPart_token_of_refusal? wrong rfl
          rw [Store.serve, Store.serveKey_of_takes userPart tokenPart rfl]
          have live := (Store.isSome_liveDeadline?_memory store clock _).trans
            (refines.isSome_iff userPart tokenPart)
          exact ⟨congrArg (fun found => Receipt.found (.ok found)) live, _, rfl,
            refines.check _⟩
      | expire token =>
          have tokenPart := Request.isPart_token_of_refusal? wrong rfl
          rw [Store.serve, Store.serveKey_of_takes userPart tokenPart rfl]
          refine ⟨rfl, _, ?_, refines.expire userPart tokenPart (clock.atMost_seconds_self)⟩
          show (Store.memory store).expire clock (StoreKey.join user token) = _
          rw [Store.expire_memory]
          split <;> rfl
      | deleteAll =>
          rw [Store.serve, StoreKey.start_of_isPart userPart]
          have sameCount := refines.countP_keysFrom userPart
          exact ⟨congrArg (fun count => Receipt.count (.ok count)) sameCount, _, rfl,
            refines.clear userPart⟩

end Refines

/-! ### Runs -/

/-- Whether a world without outages holds a store in memory that agrees with a map. -/
structure World.Follows (world : World) (map : DeadlineMap) : Prop where
  sound : world.faults = {}
  refines : ∃ store, world.store = .memory store ∧ Refines world.clock.seconds store map

namespace StoreAccess

open Call

theorem runIn_size {world : World} {store : MemoryStore} (kind : world.store = .memory store) :
    runIn size world = (.ok (store.size world.clock.seconds).1,
      { world with store := .memory (store.size world.clock.seconds).2 }) := by
  simp only [size, runIn_bind, runIn_get, kind]
  rfl

/-- An operation is answered as by the map, and leaves the store and the map in agreement. -/
theorem follows_operate {world : World} {map : DeadlineMap} (follows : world.Follows map)
    (action : Action) :
    (operate action world).1 = (map.operate world.clock action).1 ∧
      (operate action world).2.clock = (map.operate world.clock action).2.1 ∧
      (operate action world).2.Follows (map.operate world.clock action).2.2 := by
  obtain ⟨sound, store, kind, refines⟩ := follows
  cases action with
  | size =>
      have count : (store.size world.clock.seconds).1 = (map.counting world.clock.seconds).card :=
        (MemoryStore.countLive_fst ..).trans refines.countP_keys
      have ran := runIn_size kind
      rw [count] at ran
      unfold operate
      rw [ran]
      exact ⟨rfl, rfl, sound, _, rfl, refines.countLive _⟩
  | event event =>
      cases event with
      | advance milliseconds =>
          have order : world.clock.ticks ≤ (world.clock.advance milliseconds).ticks :=
            Int.le_add_of_nonneg_right (Int.natCast_nonneg milliseconds)
          exact ⟨rfl, rfl, sound, store, kind, refines.later (Clock.precedes_seconds order)⟩
      | request user request =>
          have serves := serves_ask sound user request
          obtain ⟨sameReply, after, isAfter, stillRefines⟩ := refines.follows_serve user request
          have served := serves.served
          rw [kind] at served
          rw [served] at sameReply isAfter
          refine ⟨sameReply, serves.clock, serves.faults.trans sound, after, isAfter, ?_⟩
          show Refines (ask user request world).2.clock.seconds after _
          rw [serves.clock]
          exact stillRefines

theorem answers_of_follows {world : World} {map : DeadlineMap} (follows : world.Follows map)
    (actions : List Action) :
    answers world actions = map.answers world.clock actions := by
  induction actions generalizing world map with
  | nil => rfl
  | cons action rest inductionHypothesis =>
      obtain ⟨sameReply, sameClock, stillFollows⟩ := follows_operate follows action
      rw [answers, inductionHypothesis stillFollows, sameReply, sameClock]
      rfl

/-- The map that a run leads to, which the store still agrees with. -/
theorem follows_worldThrough {world : World} {map : DeadlineMap} (follows : world.Follows map)
    (actions : List Action) :
    ∃ reached, (worldThrough world actions).Follows reached := by
  induction actions generalizing world map with
  | nil => exact ⟨map, follows⟩
  | cons action rest inductionHypothesis =>
      exact inductionHypothesis (follows_operate follows action).2.2

theorem ask_of_refusal {world : World} {map : DeadlineMap} (follows : world.Follows map)
    {user : Text} {request : Request} {error : StoreKey.PartError}
    (wrong : request.refusal? user = some error) :
    (ask user request world).1 = request.refused error ∧
      (ask user request world).2.store = world.store := by
  obtain ⟨sound, store, kind, -⟩ := follows
  have served := (serves_ask sound user request).served
  rw [kind, Store.serve_of_refusal store world.clock wrong] at served
  rw [kind]
  exact ⟨(congrArg Prod.fst served).symm, (congrArg Prod.snd served).symm⟩

/-- Refinement: from an empty store in memory, every run is answered as by the map that keeps all
deadlines, and a request that is refused on the way changes nothing. -/
theorem answers_eq_deadlineMap {start : World} (sound : start.faults = {})
    (empty : start.store = .memory .empty) (actions : List Action) :
    answers start actions = DeadlineMap.empty.answers start.clock actions ∧
      ∀ earlier, earlier <+: actions → ∀ user request error,
        Request.refusal? user request = some error →
          (ask user request (worldThrough start earlier)).1 = request.refused error ∧
            (ask user request (worldThrough start earlier)).2.store =
              (worldThrough start earlier).store := by
  have follows : start.Follows .empty :=
    ⟨sound, .empty, empty, Refines.empty start.clock.seconds⟩
  refine ⟨answers_of_follows follows actions, ?_⟩
  intro earlier _ user request error wrong
  obtain ⟨reached, stillFollows⟩ := follows_worldThrough follows earlier
  exact ask_of_refusal stillFollows wrong

/-- A run that comes across entries that no longer count, revives none of them, and is refused
twice. -/
def sampleActions : List Action :=
  [.event (.request "u" (.put "s" 1000000)), .event (.request "u" (.put "t" 5000000)),
    .event (.advance 1000), .event (.request "u" (.expire "s")), .size,
    .event (.request "u" (.delete "s")), .event (.request "u:v" (.contains "t")),
    .event (.request "u" (.contains "")), .event (.request "u" .deleteAll), .size]

theorem sample_answers_eq_deadlineMap :
    (World.sample.faults = {} ∧ World.sample.store = .memory .empty) ∧
      answers World.sample sampleActions =
        DeadlineMap.empty.answers World.sample.clock sampleActions ∧
      (ask "u:v" (.contains "t") (worldThrough World.sample sampleActions)).1 =
        .found (.error (.keyPart ⟨.user, .text "u:v"⟩)) := by
  have sound : World.sample.faults = {} := rfl
  have empty : World.sample.store = .memory .empty := rfl
  obtain ⟨sameAnswers, refusals⟩ := answers_eq_deadlineMap sound empty sampleActions
  have wrong : Request.refusal? "u:v" (.contains "t") = some ⟨.user, .text "u:v"⟩ := by
    have noPart : StoreKey.isPart "u:v" = false := by decide +kernel
    exact if_pos noPart
  exact ⟨⟨sound, empty⟩, sameAnswers,
    (refusals sampleActions (List.prefix_refl _) "u:v" (.contains "t") _ wrong).1⟩

end StoreAccess

end TokenAuthority
