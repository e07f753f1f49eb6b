import Mathlib.Data.List.Basic
import TokenAuthority.Proofs.Text.CodePoint
import TokenAuthority.Store.Key

/-!
Store keys and their parts.

A part holds no separator, so a key determines the parts that it joins, and it begins with what the
keys of a user begin with exactly when the user is its first part.  A key can be encoded exactly
when both of its parts can.
-/

namespace TokenAuthority.StoreKey

theorem isPart_iff (text : Text) : isPart text = true ↔ text ≠ [] ∧ separator ∉ text := by
  simp [isPart]

theorem separator_notMem_of_isPart {text : Text} (part : isPart text = true) : separator ∉ text :=
  ((isPart_iff text).mp part).2

/-- Joining surrogates makes no part of a key, and spoils none. -/
@[simp]
theorem isPart_join (text : Text) : isPart text.join = isPart text := by
  rw [Bool.eq_iff_iff, isPart_iff, isPart_iff, Ne, Text.join_eq_nil_iff, separator,
    Text.mem_join_iff (by decide)]

theorem join_eq (user token : Text) : join user token = user ++ separator :: token := by
  simp [join, userStart]

theorem isPrefix_join (user token : Text) : userStart user <+: join user token :=
  List.prefix_append _ _

/-- A key of two parts is joined from these alone, whatever texts are tried. -/
theorem join_eq_join_iff {user token : Text} (userPart : isPart user = true)
    (tokenPart : isPart token = true) (otherUser otherToken : Text) :
    join otherUser otherToken = join user token ↔ otherUser = user ∧ otherToken = token := by
  rw [join_eq, join_eq]
  constructor
  · intro equal
    have split := (List.append_cons_inj_of_notMem (separator_notMem_of_isPart userPart)
      (separator_notMem_of_isPart tokenPart)).mp equal.symm
    exact ⟨split.1.symm, split.2.2.symm⟩
  · rintro ⟨users, tokens⟩
    rw [users, tokens]

theorem takeWhile_of_separator_notMem {first : Text} (clear : separator ∉ first) (rest : Text) :
    (first ++ separator :: rest).takeWhile (· ≠ separator) = first := by
  rw [List.takeWhile_append_of_pos]
  · simp
  · intro code membership
    simpa using fun equal : code = separator => clear (equal ▸ membership)

/-- A key begins like the keys of a user only when that user is its own. -/
theorem userStart_isPrefix_join_iff {user owner : Text} (userPart : isPart user = true)
    (ownerPart : isPart owner = true) (token : Text) :
    userStart user <+: join owner token ↔ user = owner := by
  constructor
  · rintro ⟨rest, equal⟩
    rw [join_eq, userStart, List.append_assoc, List.singleton_append] at equal
    have firsts := congrArg (List.takeWhile (· ≠ separator)) equal
    rwa [takeWhile_of_separator_notMem (separator_notMem_of_isPart userPart),
      takeWhile_of_separator_notMem (separator_notMem_of_isPart ownerPart)] at firsts
  · rintro rfl
    exact isPrefix_join user token

/-- A key of two parts begins like the keys of its own user alone, whatever texts are tried. -/
theorem userStart_isPrefix_join_iff_of_isPart {owner token : Text}
    (ownerPart : isPart owner = true) (tokenPart : isPart token = true) (user : Text) :
    userStart user <+: join owner token ↔ user = owner := by
  constructor
  · rintro ⟨rest, equal⟩
    rw [join_eq, userStart, List.append_assoc, List.singleton_append] at equal
    exact ((List.append_cons_inj_of_notMem (separator_notMem_of_isPart ownerPart)
      (separator_notMem_of_isPart tokenPart)).mp equal.symm).1.symm
  · rintro rfl
    exact isPrefix_join user token

theorem isEncodable_userStart (user : Text) : (userStart user).isEncodable = user.isEncodable := by
  rw [userStart, Text.isEncodable_append]
  exact Bool.and_true _

theorem isEncodable_join (user token : Text) :
    (join user token).isEncodable = (user.isEncodable && token.isEncodable) := by
  rw [join, Text.isEncodable_append, isEncodable_userStart]

theorem requirePart_of_isPart {text : Text} (part : isPart text = true) (field : Field) :
    requirePart field (.text text) = .ok text := by
  simp [requirePart, part]

theorem requirePart_of_not_isPart {text : Text} (noPart : isPart text = false) (field : Field) :
    requirePart field (.text text) = .error ⟨field, .text text⟩ := by
  simp [requirePart, noPart]

/-- The first of the two texts that is no part is what a key is refused for. -/
theorem make_eq (user token : Text) :
    make user token =
      if isPart user = false then .error ⟨.user, .text user⟩
      else if isPart token = false then .error ⟨.token, .text token⟩
      else .ok (join user token) := by
  unfold make ofValues
  cases userPart : isPart user with
  | false => rw [requirePart_of_not_isPart userPart]; rfl
  | true =>
      rw [requirePart_of_isPart userPart]
      cases tokenPart : isPart token with
      | false => rw [requirePart_of_not_isPart tokenPart]; rfl
      | true => rw [requirePart_of_isPart tokenPart]; rfl

theorem make_of_isPart {user token : Text} (userPart : isPart user = true)
    (tokenPart : isPart token = true) : make user token = .ok (join user token) := by
  simp [make_eq, userPart, tokenPart]

/-- Two texts are parts of a key, or no key is made of them. -/
theorem isPart_or_make_eq_error (user token : Text) :
    (isPart user = true ∧ isPart token = true) ∨ ∃ error, make user token = .error error := by
  rw [make_eq]
  cases userPart : isPart user with
  | false => exact .inr ⟨_, if_pos rfl⟩
  | true =>
      rw [if_neg (by simp)]
      cases tokenPart : isPart token with
      | false => exact .inr ⟨_, if_pos rfl⟩
      | true => exact .inl ⟨rfl, rfl⟩

theorem start_eq (user : Text) :
    start user =
      if isPart user = false then .error ⟨.user, .text user⟩ else .ok (userStart user) := by
  unfold start startOfValue
  cases userPart : isPart user with
  | false => rw [requirePart_of_not_isPart userPart]; rfl
  | true => rw [requirePart_of_isPart userPart]; rfl

theorem isPart_or_start_eq_error (user : Text) :
    isPart user = true ∨ ∃ error, start user = .error error := by
  rw [start_eq]
  cases isPart user with
  | false => exact .inr ⟨_, if_pos rfl⟩
  | true => exact .inl rfl

theorem start_of_isPart {user : Text} (part : isPart user = true) :
    start user = .ok (userStart user) := by
  simp [start_eq, part]

end TokenAuthority.StoreKey
