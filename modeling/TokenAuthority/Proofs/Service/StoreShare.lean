import TokenAuthority.Proofs.Service.StoreRun
import TokenAuthority.Proofs.Store.Share

/-!
The share of a user in a store.

All users have their entries in one table, and the share of a user consists of the entries whose
keys begin like the user's own.  What a user's request is answered and does to the user's share is
told by that share, and a request leaves the shares of all other users as they are.
-/

namespace TokenAuthority

namespace StoreKey

/-- No key begins both like the keys of one user and like those of another. -/
theorem not_userStart_isPrefix {user owner : Text} (userPart : isPart user = true)
    (ownerPart : isPart owner = true) (differs : owner ≠ user) (key : Text)
    (begins : userStart owner <+: key) :
    ¬userStart user <+: key := by
  intro alsoBegins
  obtain ⟨rest, rfl⟩ := begins
  exact differs ((userStart_isPrefix_join_iff userPart ownerPart rest).mp alsoBegins).symm

theorem isPart_of_make {user token key : Text} (made : make user token = .ok key) :
    isPart user = true ∧ isPart token = true ∧ key = join user token := by
  rcases isPart_or_make_eq_error user token with ⟨userPart, tokenPart⟩ | ⟨error, refused⟩
  · rw [make_of_isPart userPart tokenPart, Except.ok.injEq] at made
    exact ⟨userPart, tokenPart, made.symm⟩
  · rw [refused] at made
    cases made

theorem isPart_of_start {user first : Text} (made : start user = .ok first) :
    isPart user = true ∧ first = userStart user := by
  rcases isPart_or_start_eq_error user with userPart | ⟨error, refused⟩
  · rw [start_of_isPart userPart, Except.ok.injEq] at made
    exact ⟨userPart, made.symm⟩
  · rw [refused] at made
    cases made

end StoreKey

namespace Store

open StoreAccess

/-- The store that holds only the entries whose keys begin with a text. -/
def share (start : Text) (store : Store) : Store :=
  match store with
  | .memory store => .memory (store.share start)
  | .remote server => .remote (server.share start)

theorem share_memory (start : Text) (store : MemoryStore) :
    (memory store).share start = memory ⟨store.entries.share start⟩ :=
  rfl

@[simp]
theorem takes_share (start : Text) (store : Store) (text : Text) :
    (store.share start).takes text = store.takes text := by
  cases store <;> rfl

variable {start key : Text} (store : Store) (clock : Clock)

theorem liveDeadline?_share (begins : start <+: key) :
    (store.share start).liveDeadline? clock key = store.liveDeadline? clock key := by
  cases store with
  | memory store =>
      rw [liveDeadline?_memory]
      exact (liveDeadline?_memory _ clock key).trans
        (congrArg _ (store.liveDeadline?_share begins clock.seconds))
  | remote server =>
      rw [liveDeadline?_remote]
      exact (liveDeadline?_remote _ clock key).trans
        (congrArg _ (server.liveDeadline?_share begins clock.wall))

/-! ### Operations within a share -/

theorem share_register (begins : start <+: key) (seconds : Int) :
    (store.register clock key seconds).share start =
      (store.share start).register clock key seconds := by
  cases store with
  | memory store => exact congrArg (memory ⟨·⟩) (Table.share_set begins store.entries _)
  | remote server => exact congrArg (remote ⟨·⟩) (Table.share_set begins server.entries _)

theorem share_remove (start key : Text) :
    (store.remove key).share start = (store.share start).remove key := by
  cases store with
  | memory store => exact congrArg (memory ⟨·⟩) (Table.share_erase start key store.entries)
  | remote server => exact congrArg (remote ⟨·⟩) (Table.share_erase start key server.entries)

theorem share_touch (begins : start <+: key) :
    (store.touch clock key).share start = (store.share start).touch clock key := by
  cases store with
  | memory store => exact congrArg memory (store.share_check begins clock.seconds)
  | remote server => rfl

theorem share_expire (begins : start <+: key) :
    (store.expire clock key).share start = (store.share start).expire clock key := by
  cases store with
  | remote server => rfl
  | memory store =>
      have sameEntry : (store.entries.share start).find? key = store.entries.find? key :=
        Table.find?_share begins store.entries
      rw [share_memory, expire_memory, expire_memory, sameEntry]
      cases store.entries.find? key with
      | none => rfl
      | some deadline => exact congrArg (memory ⟨·⟩) (Table.share_set begins store.entries _)

theorem share_clear (start : Text) :
    ((store.share start).clear clock start).share start =
      (store.clear clock start).share start := by
  cases store with
  | memory store =>
      exact congrArg memory (((store.share start).share_cleared clock.seconds start).trans
        (store.share_cleared clock.seconds start).symm)
  | remote server =>
      have onceMore : (server.share start).share start = server.share start :=
        congrArg KeyServer.mk (Table.share_share start server.entries)
      have sharesAlike := ((server.share start).share_cleared clock.wall start).trans
        ((congrArg (fun server => (KeyServer.cleared server clock.wall start).server)
          onceMore).trans (server.share_cleared clock.wall start).symm)
      exact congrArg remote sharesAlike

theorem countFrom_share (start : Text) :
    (store.share start).countFrom clock start = store.countFrom clock start := by
  cases store with
  | memory store =>
      show ((store.share start).keysFrom start).countP _ = (store.keysFrom start).countP _
      rw [store.keysFrom_share]
      apply List.countP_congr
      intro key membership
      have begins := ((MemoryStore.mem_keysFrom_iff store start key).mp membership).2
      have sameDeadline := store.liveDeadline?_share begins clock.seconds
      exact iff_of_eq
        (congrArg (fun deadline : Option Binary64 => deadline.isSome = true) sameDeadline)
  | remote server => exact server.removed_cleared_share clock.wall start

/-! ### Operations outside of a share -/

theorem share_register_of_outside (outside : ¬start <+: key) (seconds : Int) :
    (store.register clock key seconds).share start = store.share start := by
  cases store with
  | memory store =>
      exact congrArg (memory ⟨·⟩) (Table.share_set_of_outside outside store.entries _)
  | remote server =>
      exact congrArg (remote ⟨·⟩) (Table.share_set_of_outside outside server.entries _)

theorem share_remove_of_outside (outside : ¬start <+: key) :
    (store.remove key).share start = store.share start := by
  cases store with
  | memory store =>
      exact congrArg (memory ⟨·⟩) (Table.share_erase_of_outside outside store.entries)
  | remote server =>
      exact congrArg (remote ⟨·⟩) (Table.share_erase_of_outside outside server.entries)

theorem share_touch_of_outside (outside : ¬start <+: key) :
    (store.touch clock key).share start = store.share start := by
  cases store with
  | memory store => exact congrArg memory (store.share_check_of_outside outside clock.seconds)
  | remote server => rfl

theorem share_expire_of_outside (outside : ¬start <+: key) :
    (store.expire clock key).share start = store.share start := by
  cases store with
  | remote server => rfl
  | memory store =>
      rw [expire_memory]
      cases store.entries.find? key with
      | none => rfl
      | some deadline =>
          exact congrArg (memory ⟨·⟩) (Table.share_set_of_outside outside store.entries _)

theorem share_clear_of_outside {cleared : Text}
    (apart : ∀ key : Text, cleared <+: key → ¬start <+: key) :
    (store.clear clock cleared).share start = store.share start := by
  cases store with
  | memory store => exact congrArg memory (store.share_cleared_of_outside apart clock.seconds)
  | remote server => exact congrArg remote (server.share_cleared_of_outside apart clock.wall)

/-! ### Requests -/

@[simp]
theorem share_share (start : Text) : (store.share start).share start = store.share start := by
  cases store with
  | memory store => exact congrArg (memory ⟨·⟩) (Table.share_share start store.entries)
  | remote server => exact congrArg (remote ⟨·⟩) (Table.share_share start server.entries)

/-- A request on one token that treats a share like the store does so with the token's key. -/
theorem serveKey_share {α : Type} {user : Text} (reply : Except Failure α → Receipt)
    (token : Text) (found : Store → Text → α × Store)
    (alike : ∀ key : Text, StoreKey.userStart user <+: key →
      (found (store.share (StoreKey.userStart user)) key).1 = (found store key).1 ∧
        (found (store.share (StoreKey.userStart user)) key).2.share (StoreKey.userStart user) =
          (found store key).2.share (StoreKey.userStart user)) :
    ((store.share (StoreKey.userStart user)).serveKey reply user token
          (found (store.share (StoreKey.userStart user)))).1 =
        (store.serveKey reply user token (found store)).1 ∧
      ((store.share (StoreKey.userStart user)).serveKey reply user token
          (found (store.share (StoreKey.userStart user)))).2.share (StoreKey.userStart user) =
        (store.serveKey reply user token (found store)).2.share (StoreKey.userStart user) := by
  unfold serveKey
  cases made : StoreKey.make user token with
  | error error => exact ⟨rfl, store.share_share _⟩
  | ok key =>
      obtain ⟨-, -, isJoin⟩ := StoreKey.isPart_of_make made
      obtain ⟨sameAnswer, sameShare⟩ :=
        alike key (isJoin ▸ StoreKey.isPrefix_join user token)
      simp only [takes_share]
      split
      · exact ⟨congrArg (fun answer => reply (.ok answer)) sameAnswer, sameShare⟩
      · exact ⟨rfl, store.share_share _⟩

/-- A request on one token that leaves a share alone at each key of its own does so. -/
theorem share_serveKey_of_outside {α : Type} (reply : Except Failure α → Receipt)
    (owner token : Text) {found : Text → α × Store}
    (alone : ∀ key : Text, StoreKey.userStart owner <+: key →
      StoreKey.isPart owner = true → (found key).2.share start = store.share start) :
    (store.serveKey reply owner token found).2.share start = store.share start := by
  unfold serveKey
  cases made : StoreKey.make owner token with
  | error error => rfl
  | ok key =>
      obtain ⟨ownerPart, -, isJoin⟩ := StoreKey.isPart_of_make made
      simp only
      split
      · exact alone key (isJoin ▸ StoreKey.isPrefix_join owner token) ownerPart
      · rfl

/-- What a user's request is answered and does to the user's share is told by that share. -/
theorem serve_share (user : Text) (request : Request) :
    ((store.share (StoreKey.userStart user)).serve clock user request).1 =
        (store.serve clock user request).1 ∧
      ((store.share (StoreKey.userStart user)).serve clock user request).2.share
          (StoreKey.userStart user) =
        (store.serve clock user request).2.share (StoreKey.userStart user) := by
  cases request with
  | put token lifetime =>
      refine store.serveKey_share .done token
        (fun store key => ((), store.register clock key (Duration.storeSeconds lifetime)))
        fun key begins => ⟨rfl, ?_⟩
      rw [share_register _ clock begins, share_share, share_register _ clock begins]
  | delete token =>
      refine store.serveKey_share .count token (fun store key =>
        (if (store.liveDeadline? clock key).isSome then 1 else 0, store.remove key))
        fun key begins => ⟨?_, ?_⟩
      · simp only [liveDeadline?_share store clock begins]
      · simp only [share_remove, share_share]
  | contains token =>
      refine store.serveKey_share .found token (fun store key =>
        ((store.liveDeadline? clock key).isSome, store.touch clock key))
        fun key begins => ⟨?_, ?_⟩
      · simp only [liveDeadline?_share store clock begins]
      · simp only [share_touch _ clock begins, share_share]
  | expire token =>
      cases kind : store with
      | remote server => exact ⟨rfl, (remote server).share_share _⟩
      | memory memory =>
          refine (Store.memory memory).serveKey_share .done token
            (fun store key => ((), store.expire clock key)) fun key begins => ⟨rfl, ?_⟩
          rw [share_expire _ clock begins, share_share, share_expire _ clock begins]
  | deleteAll =>
      unfold serve
      cases made : StoreKey.start user with
      | error error => exact ⟨rfl, store.share_share _⟩
      | ok first =>
          obtain ⟨-, rfl⟩ := StoreKey.isPart_of_start made
          simp only [takes_share]
          split
          · refine ⟨?_, store.share_clear clock _⟩
            simp only [store.countFrom_share clock (StoreKey.userStart user)]
          · exact ⟨rfl, store.share_share _⟩

/-- A request of another user leaves the share of a user alone. -/
theorem share_serve_of_ne {user owner : Text} (userPart : StoreKey.isPart user = true)
    (differs : owner ≠ user) (request : Request) :
    (store.serve clock owner request).2.share (StoreKey.userStart user) =
      store.share (StoreKey.userStart user) := by
  have apart : ∀ key : Text, StoreKey.userStart owner <+: key →
      StoreKey.isPart owner = true → ¬StoreKey.userStart user <+: key :=
    fun key begins ownerPart =>
      StoreKey.not_userStart_isPrefix userPart ownerPart differs key begins
  cases request with
  | put token lifetime =>
      apply share_serveKey_of_outside
      intro key begins ownerPart
      exact store.share_register_of_outside clock (apart key begins ownerPart) _
  | delete token =>
      apply share_serveKey_of_outside
      intro key begins ownerPart
      exact store.share_remove_of_outside (apart key begins ownerPart)
  | contains token =>
      apply share_serveKey_of_outside
      intro key begins ownerPart
      exact store.share_touch_of_outside clock (apart key begins ownerPart)
  | expire token =>
      cases kind : store with
      | remote server => rfl
      | memory memory =>
          apply share_serveKey_of_outside
          intro key begins ownerPart
          exact (Store.memory memory).share_expire_of_outside clock (apart key begins ownerPart)
  | deleteAll =>
      unfold serve
      cases made : StoreKey.start owner with
      | error error => rfl
      | ok first =>
          obtain ⟨ownerPart, rfl⟩ := StoreKey.isPart_of_start made
          simp only
          split
          · exact store.share_clear_of_outside clock fun key begins => apart key begins ownerPart
          · rfl

theorem inMemory_serve (user : Text) (request : Request) :
    (store.serve clock user request).2.InMemory ↔ store.InMemory := by
  have ofKey : ∀ {α : Type} (reply : Except Failure α → Receipt) (token : Text)
      (found : Text → α × Store), (∀ key, (found key).2.InMemory ↔ store.InMemory) →
      ((store.serveKey reply user token found).2.InMemory ↔ store.InMemory) := by
    intro α reply token found same
    unfold serveKey
    cases StoreKey.make user token with
    | ok key =>
        simp only
        split
        · exact same key
        · exact Iff.rfl
    | error error => exact Iff.rfl
  cases request with
  | put token lifetime => exact ofKey .done token _ fun key => inMemory_register ..
  | delete token => exact ofKey .count token _ fun key => inMemory_remove ..
  | contains token => exact ofKey .found token _ fun key => by cases store <;> exact Iff.rfl
  | deleteAll =>
      unfold serve
      cases StoreKey.start user with
      | ok first =>
          simp only
          split
          · exact inMemory_clear ..
          · exact Iff.rfl
      | error error => exact Iff.rfl
  | expire token =>
      cases store with
      | remote server => exact Iff.rfl
      | memory store =>
          refine ofKey .done token _ fun key => ?_
          rw [expire_memory]
          split <;> exact Iff.rfl

/-- A user that is no part of a key is refused, whatever the store holds. -/
theorem serve_of_not_isPart {user : Text} (noPart : StoreKey.isPart user = false)
    (request : Request) :
    (store.serve clock user request).2 = store ∧
      ∀ other : Store, (other.InMemory ↔ store.InMemory) →
        (other.serve clock user request).1 = (store.serve clock user request).1 := by
  have refusedKey : ∀ token, StoreKey.make user token = .error ⟨.user, .text user⟩ := by
    intro token
    rw [StoreKey.make_eq, if_pos noPart]
  have refusedStart : StoreKey.start user = .error ⟨.user, .text user⟩ := by
    rw [StoreKey.start_eq, if_pos noPart]
  cases request with
  | put token lifetime => simp [serve, serveKey, refusedKey]
  | delete token => simp [serve, serveKey, refusedKey]
  | contains token => simp [serve, serveKey, refusedKey]
  | deleteAll => simp [serve, refusedStart]
  | expire token =>
      cases store with
      | memory store =>
          refine ⟨by simp [serve, serveKey, refusedKey], fun other sameKind => ?_⟩
          cases other with
          | memory other => simp [serve, serveKey, refusedKey]
          | remote other => exact absurd (sameKind.mpr trivial) id
      | remote server =>
          refine ⟨rfl, fun other sameKind => ?_⟩
          cases other with
          | memory other => exact absurd (sameKind.mp trivial) id
          | remote other => rfl

end Store

end TokenAuthority
