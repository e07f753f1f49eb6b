import TokenAuthority.Proofs.Store.PatternMeaning
import TokenAuthority.Proofs.Store.Remote
import TokenAuthority.Store.Memory

/-!
Which entries are a user's.

The memory store finds the keys of a user by what they begin with, the key server by a pattern.
Both select the same keys, and of the keys that are joined from two parts these are the user's own.
-/

namespace TokenAuthority

/-- The pattern for a text stands for what begins with the text. -/
theorem Pattern.denotes_startingWith_iff (start key : Text) :
    Denotes (startingWith start) key ↔ start <+: key := by
  rw [← matchesKey_iff_denotes, matchesKey_startingWith, List.isPrefixOf_iff_prefix]

/-- Of the keys that are there, a scan finds those that a look through the memory finds. -/
theorem KeyServer.scan_startingWith {server : KeyServer} {now : Int} {store : MemoryStore}
    (sameKeys : store.entries.keys =
      Table.keys (server.entries.filter fun entry => now ≤ entry.2)) (start : Text) :
    server.scan now (Pattern.startingWith start) = store.keysFrom start := by
  unfold scan MemoryStore.keysFrom
  rw [sameKeys]
  unfold Table.keys
  rw [List.filter_map, List.filter_filter]
  congr 1
  apply List.filter_congr
  intro entry _
  rw [Pattern.matchesKey_startingWith, Bool.and_comm]
  rfl

namespace StoreKey

/-- A key that is made of two parts is made of these alone. -/
theorem make_eq_ok_iff {user token key : Text} :
    make user token = .ok key ↔
      isPart user = true ∧ isPart token = true ∧ key = join user token := by
  rw [make_eq]
  cases isPart user <;> cases isPart token <;> simp [eq_comm]

/-- The pattern, the beginning and the layout of keys select the same entries for a user: the ones
whose keys are made of the user and a token.  A key tells what it is made of. -/
theorem selections_agree {user : Text} (userPart : isPart user = true) :
    ∃ start, StoreKey.start user = .ok start ∧
      (∀ key : Text, Pattern.Denotes (Pattern.startingWith start) key ↔
        start <+: key) ∧
      (∀ (server : KeyServer) (now : Int) (store : MemoryStore), store.entries.keys =
          Table.keys (server.entries.filter fun entry => now ≤ entry.2) →
        server.scan now (Pattern.startingWith start) = store.keysFrom start) ∧
      ∀ owner token, isPart owner = true → isPart token = true →
        ∃ key, make owner token = .ok key ∧
          (Pattern.Denotes (Pattern.startingWith start) key ↔ user = owner) ∧
          (start <+: key ↔ user = owner) ∧
          ∀ otherOwner otherToken, make otherOwner otherToken = .ok key →
            otherOwner = owner ∧ otherToken = token := by
  refine ⟨userStart user, start_of_isPart userPart, ?_, ?_, ?_⟩
  · exact Pattern.denotes_startingWith_iff (userStart user)
  · intro server now store sameKeys
    exact KeyServer.scan_startingWith sameKeys (userStart user)
  · intro owner token ownerPart tokenPart
    have own := userStart_isPrefix_join_iff userPart ownerPart token
    refine ⟨join owner token, make_of_isPart ownerPart tokenPart, ?_, own, ?_⟩
    · exact (Pattern.denotes_startingWith_iff _ _).trans own
    · intro otherOwner otherToken made
      obtain ⟨-, -, same⟩ := make_eq_ok_iff.mp made
      exact (join_eq_join_iff ownerPart tokenPart otherOwner otherToken).mp same.symm

/-- A user whose name is made of marks has keys that no other user's pattern stands for. -/
theorem markedUser_selections_agree :
    isPart "*[a-z]?\\" = true ∧ isPart "*a?\\" = true ∧ isPart "t" = true ∧
      ∃ start key, StoreKey.start "*[a-z]?\\" = .ok start ∧ make "*a?\\" "t" = .ok key ∧
        ¬Pattern.Denotes (Pattern.startingWith start) key ∧
        Pattern.Denotes (Pattern.startingWith start) (start ++ Text.ofString "t") := by
  have userPart : isPart "*[a-z]?\\" = true := by decide
  have otherPart : isPart "*a?\\" = true := by decide
  have tokenPart : isPart "t" = true := by decide
  obtain ⟨start, begins, denotes, -, keys⟩ := selections_agree userPart
  obtain ⟨key, made, denotesOther, -⟩ := keys "*a?\\" "t" otherPart tokenPart
  refine ⟨userPart, otherPart, tokenPart, start, key, begins, made, ?_, ?_⟩
  · intro selected
    exact absurd (denotesOther.mp selected) (by decide)
  · apply (denotes _).mpr
    exact List.prefix_append _ _

end StoreKey

end TokenAuthority
