import TokenAuthority.Proofs.Libraries
import TokenAuthority.Proofs.Service.Session

/-!
An identity token tells its user while it is current.

The payload of a token is read back as it was signed, with the user inside it.  So verification with
a matching key hands back all that was told about the user from the second of the issue on until the
second of the expiry, and refuses the token at every other instant.  Only a high surrogate right
before a low one is not handed back as it was told: the two become the character that they stand
for.
-/

namespace TokenAuthority.IdentityToken

open Claims

theorem isReadable_payload (user : UserSnapshot) {lifespan : Lifespan}
    (dated : lifespan.IsDated) : Json.IsReadable Compact.nestingLimit (payload user lifespan) := by
  unfold payload Compact.nestingLimit Machine.usual
  simp [Lifespan.claims, Json.IsReadable, Json.AllMembersReadable, Json.MemberReadable,
    Json.joinedNames,
    UserSnapshot.isReadable_dump, Lifespan.isShort_wholeSecondsOf dated.issued,
    Lifespan.isShort_wholeSecondsOf dated.expires]

/-- The claims of a token hold as long as its lifespan is current. -/
theorem check_members (user : UserSnapshot) (lifespan : Lifespan) (now : Int) :
    check requiredClaims now (("user", user.dump) :: lifespan.claims) =
      refuseUnless (lifespan.isCurrent now) :=
  tokenLibrary.lasts ⟨rfl, rfl, rfl, rfl, rfl, rfl, rfl⟩ now

theorem exists_trusted_of_verify {token : Text} {key : Rsa.PublicKey} {now : Int}
    {user : UserSnapshot} (verified : verify token key now = .ok user) :
    ∃ members, trusted (.rsa key) requiredClaims now token = .ok members := by
  obtain ⟨members, areTrusted, -⟩ := exists_of_bind_eq_ok verified
  exact ⟨members, areTrusted⟩

section Signed

variable {user : UserSnapshot} {key : Rsa.PrivateKey} {check : Rsa.PublicKey}
  (fits : Rsa.Matches key check) {signed : String} {lifespan : Lifespan}
  (isSigned : Compact.sign? (.rsa key) (payload user lifespan) = some signed)
  (dated : lifespan.IsDated)

include fits isSigned dated

theorem open?_of_sign? :
    Compact.open? (.rsa check) signed =
      some ((("user" : Text), user.joined.dump) :: lifespan.claims) := by
  rw [tokenLibrary.opens (.rsa fits) isSigned (isReadable_payload user dated)]
  simp [Lifespan.claims, UserSnapshot.joined_dump]

/-- A signed token is verified as its user while it is current. -/
theorem verify_of_sign? (named : user.id ≠ []) (now : Int) :
    verify signed check now =
      if lifespan.isCurrent now then .ok user.joined else .error .refused := by
  have alsoNamed : user.joined.id ≠ [] := Text.join_eq_nil_iff.not.mpr named
  unfold verify trusted
  simp only [open?_of_sign? fits isSigned dated, check_members]
  cases lifespan.isCurrent now with
  | false => rfl
  | true =>
      simp [refuseUnless, demand, Json.lookup?, UserSnapshot.load_dump alsoNamed]
      rfl

theorem verify?_of_sign? (named : user.id ≠ []) (now : Int) :
    verify? signed (some check) now =
      if lifespan.isCurrent now then some user.joined else none := by
  unfold verify?
  rw [Option.bind_some, verify_of_sign? fits isSigned dated named]
  cases lifespan.isCurrent now <;> rfl

end Signed

/-- What is issued begins now and is signed, and its dates lie in the calendar. -/
theorem of_issue {user : UserSnapshot} {key : Rsa.PrivateKey} {lifetime now : Int}
    {token : IdentityToken} (isIssued : issue user (some key) lifetime now = .ok token) :
    token.user = user ∧ token.lifespan = .beginning now lifetime ∧ token.lifespan.IsDated ∧
      Compact.sign? (.rsa key) (payload user token.lifespan) = some token.signed := by
  unfold issue at isIssued
  cases begins : Lifespan.starting? now lifetime with
  | none =>
      rw [begins] at isIssued
      cases isIssued
  | some lifespan =>
      obtain ⟨inCalendar, endsInCalendar, rfl⟩ := Lifespan.eq_beginning_of_starting? begins
      simp only [begins, Option.bind_some] at isIssued
      split at isIssued
      · next signed isSigned =>
          cases isIssued
          exact ⟨rfl, rfl, Lifespan.isDated_beginning inCalendar endsInCalendar, isSigned⟩
      · cases isIssued

/-- A token is verified at the instant of its issue, if its lifetime is not lost in rounding. -/
theorem verify?_at_issue {user : UserSnapshot} (named : user.id ≠ []) {key : Rsa.PrivateKey}
    {check : Rsa.PublicKey} (fits : Rsa.Matches key check) {lifetime now : Int}
    {token : IdentityToken} (isIssued : issue user (some key) lifetime now = .ok token)
    (inCalendar : Instant.isInRange now = true) (outlasts : Lifespan.Outlasts now lifetime) :
    verify? token.signed (some check) now = some user.joined := by
  obtain ⟨-, begins, dated, isSigned⟩ := of_issue isIssued
  rw [begins] at dated isSigned
  rw [verify?_of_sign? fits isSigned dated named,
    Lifespan.isCurrent_beginning inCalendar dated.expires outlasts, if_pos rfl]

/-- A token is issued by a key that signs it, if both dates are near. -/
theorem exists_issue {user : UserSnapshot} {key : Rsa.PrivateKey} {lifetime now : Int}
    (signs : (Compact.sign? (.rsa key) (payload user (.beginning now lifetime))).isSome = true)
    (near : IsNear now) (nearEnd : IsNear (Instant.floorToSecond now + lifetime)) :
    ∃ token, issue user (some key) lifetime now = .ok token := by
  obtain ⟨signed, isSigned⟩ := Option.isSome_iff_exists.mp signs
  unfold issue
  simp only [Lifespan.starting?_of_near near nearEnd, Option.bind_some, isSigned]
  exact ⟨_, rfl⟩

/-- A token is issued and verified as its user from the second of the issue on until the second of
the expiry.  At every other near instant it is refused.  The user is handed back exactly as told, if
no text about them holds a high surrogate right before a low one; such surrogates are joined. -/
theorem judged_of_issue {user : UserSnapshot} (named : user.id ≠ []) {key : Rsa.PrivateKey}
    {check : Rsa.PublicKey} (fits : Rsa.Matches key check) {lifetime issued now : Int}
    (signs : (Compact.sign? (.rsa key) (payload user (.beginning issued lifetime))).isSome = true)
    (near : IsNear issued) (nearEnd : IsNear (Instant.floorToSecond issued + lifetime))
    (nearNow : IsNear now) :
    let expiry := (Instant.floorToSecond issued + lifetime).tdiv microsecondsPerSecond *
      microsecondsPerSecond
    ∃ token, issue user (some key) lifetime issued = .ok token ∧
      let judgement := TokenService.judged .identity
        (.ofOption (verify? token.signed (some check) now))
      (Instant.floorToSecond issued ≤ now ∧ now < expiry →
        judgement = .ok user.joined ∧ (judgement = .ok user ↔ user.IsUnpaired)) ∧
      (¬(Instant.floorToSecond issued ≤ now ∧ now < expiry) →
        ∃ error : ServiceError, judgement = .error (.service error) ∧
          error.category = .authorization ∧ error.message = "invalid identity token") := by
  intro expiry
  obtain ⟨token, isIssued⟩ := exists_issue signs near nearEnd
  obtain ⟨-, begins, dated, isSigned⟩ := of_issue isIssued
  have current := Lifespan.isCurrent_beginning_iff near nearEnd nearNow
  rw [← begins] at current
  refine ⟨token, isIssued, ?_⟩
  simp only [verify?_of_sign? fits isSigned dated named now]
  constructor
  · intro within
    rw [if_pos (current.mpr within), ← UserSnapshot.joined_eq_self_iff]
    refine ⟨rfl, ?_⟩
    show Except.ok user.joined = Except.ok user ↔ user.joined = user
    rw [Except.ok.injEq]
  · intro outside
    rw [if_neg (mt current.mp outside)]
    exact ⟨.invalidToken .identity, rfl, rfl, by decide⟩

/-- The token is issued as of three seconds before 1970 and expires a second and a half later, which
is told as a second before that year. -/
theorem judged_of_issue_before_epoch :
    let user : UserSnapshot := { id := "ü\"\n", email := "\\", website := "𝒳" }
    (user.id ≠ [] ∧ user.IsUnpaired ∧ Rsa.Matches Rsa.mersenneKey Rsa.mersenneKey.publicKey ∧
      (Compact.sign? (.rsa Rsa.mersenneKey)
        (payload user (.beginning (-2500000) 1500000))).isSome = true ∧
      IsNear (-2500000) ∧ IsNear (Instant.floorToSecond (-2500000) + 1500000) ∧
      IsNear (-1000001)) ∧
    ∃ token, issue user (some Rsa.mersenneKey) 1500000 (-2500000) = .ok token ∧
      TokenService.judged .identity
        (.ofOption (verify? token.signed (some Rsa.mersenneKey.publicKey) (-1000001))) =
          .ok user := by
  intro user
  have named : user.id ≠ [] := by decide
  have unpaired : user.IsUnpaired := ⟨by decide, by decide, by decide, by decide, by decide⟩
  have signs : (Compact.sign? (.rsa Rsa.mersenneKey)
      (payload user (.beginning (-2500000) 1500000))).isSome = true := by
    rw [tokenLibrary.signs_rsa]
    decide +kernel
  have near : IsNear (-2500000) := by decide
  have nearEnd : IsNear (Instant.floorToSecond (-2500000) + 1500000) := by decide
  have nearNow : IsNear (-1000001) := by decide
  refine ⟨⟨named, unpaired, Rsa.matches_mersenneKey, signs, near, nearEnd, nearNow⟩, ?_⟩
  obtain ⟨token, isIssued, accepted, -⟩ :=
    judged_of_issue named Rsa.matches_mersenneKey signs near nearEnd nearNow
  exact ⟨token, isIssued, (accepted (by decide)).2.mpr unpaired⟩

/-- The two surrogates of a character come back as that character. -/
theorem judged_of_issue_paired :
    let user : UserSnapshot := { id := "u", email := [.high 0x3d, .low 0x200] }
    ∃ token, issue user (some Rsa.mersenneKey) 1500000 0 = .ok token ∧
      (Instant.floorToSecond 0 ≤ 0 ∧ (0 : Int) < 1000000) ∧
      TokenService.judged .identity
        (.ofOption (verify? token.signed (some Rsa.mersenneKey.publicKey) 0)) =
          .ok { id := "u", email := "😀" } ∧
      TokenService.judged .identity
        (.ofOption (verify? token.signed (some Rsa.mersenneKey.publicKey) 0)) ≠ .ok user := by
  intro user
  have named : user.id ≠ [] := by decide
  have signs : (Compact.sign? (.rsa Rsa.mersenneKey)
      (payload user (.beginning 0 1500000))).isSome = true := by
    rw [tokenLibrary.signs_rsa]
    decide +kernel
  have near : IsNear 0 := by decide
  have nearEnd : IsNear (Instant.floorToSecond 0 + 1500000) := by decide
  obtain ⟨token, isIssued⟩ := exists_issue signs near nearEnd
  have verified := verify?_at_issue named Rsa.matches_mersenneKey isIssued near.isInRange
    (by decide)
  have joined : user.joined = { id := "u", email := "😀" } := by decide +kernel
  rw [joined] at verified
  refine ⟨token, isIssued, by decide, ?_, ?_⟩
  · rw [verified]
    rfl
  · rw [verified]
    intro same
    cases congrArg UserSnapshot.email (Except.ok.inj same)

end TokenAuthority.IdentityToken
