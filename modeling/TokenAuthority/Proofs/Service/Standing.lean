import Mathlib.Data.List.Induction
import TokenAuthority.Proofs.Service.Atomicity
import TokenAuthority.Proofs.Service.Run

/-!
Standing tokens, told by the history of a run.

A token stands in a history when some call registered it and no later step consumed it or signed its
user out.  Since a minted identifier is never minted again, a token that was consumed or revoked
never stands again.
-/

namespace TokenAuthority

/-- A token that a call registered, with the deadline of its entry. -/
structure Registration where
  user : Text
  token : Text
  deadline : Deadline
deriving DecidableEq, Repr

/-- Whether a call for a pair that ended so has left its token registered. -/
def keepsToken : Except Failure TokenPair → Bool
  | .ok _ => true
  | .error (.service (.deadlinePassed step)) => step == "deleting previous refresh token"
  | .error _ => false

namespace Moment

/-- What a step registered for good. -/
def registration? (service : TokenService) (moment : Moment) : Option Registration :=
  match moment.step, moment.answer with
  | .newPair _ user _ _ _, .pair outcome =>
      if keepsToken outcome then do
        let id ← moment.minted?
        let lifespan ← Claims.Lifespan.starting? moment.before.clock.wall
          service.policy.refreshLifetime
        let seconds := Duration.storeSeconds (lifespan.expiresAt - moment.before.clock.wall)
        return ⟨user.id, id.text, .ticking (moment.before.clock.seconds.add (.ofInt seconds))⟩
      else none
  | _, _ => none

/-- The user and the previous token of a call that handed out a pair for it. -/
def consumed? (moment : Moment) : Option (Text × Text) :=
  match moment.step, moment.answer with
  | .newPair _ user previous _ _, .pair (.ok _) =>
      if previous = [] then none else some (user.id, previous)
  | _, _ => none

def signedOut? (moment : Moment) : Option Text :=
  match moment.step, moment.answer with
  | .signOut _ user, .signedOut (.ok _) => some user
  | _, _ => none

/-- Whether a step ends the standing of a token. -/
def Revokes (moment : Moment) (user token : Text) : Prop :=
  moment.consumed? = some (user, token) ∨ moment.signedOut? = some user

theorem not_revokes {moment : Moment} (consumesNone : moment.consumed? = none)
    (signsOutNone : moment.signedOut? = none) (user token : Text) :
    ¬moment.Revokes user token := by
  simp [Revokes, consumesNone, signsOutNone]

theorem exists_minted_of_registration {service : TokenService} {moment : Moment}
    {registration : Registration}
    (registered : moment.registration? service = some registration) :
    ∃ id, moment.minted? = some id ∧ id.text = registration.token := by
  unfold registration? at registered
  split at registered
  · split at registered
    · simp only [Option.pure_def, Option.bind_eq_bind, Option.bind_eq_some_iff,
        Option.some.injEq] at registered
      obtain ⟨id, minted, lifespan, -, rfl⟩ := registered
      exact ⟨id, minted, rfl⟩
    · exact absurd registered (by simp)
  · exact absurd registered (by simp)

/-- The deadline of what a step registers is the sum, in floating point, of the reading of the
ticking clock and the whole seconds that the token has left. -/
theorem deadline_of_registration {service : TokenService} {moment : Moment}
    {registration : Registration}
    (registered : moment.registration? service = some registration) :
    ∃ lifespan, Claims.Lifespan.starting? moment.before.clock.wall service.policy.refreshLifetime =
        some lifespan ∧
      registration.deadline = .ticking (moment.before.clock.seconds.add
        (.ofInt (Duration.storeSeconds (lifespan.expiresAt - moment.before.clock.wall)))) := by
  unfold registration? at registered
  split at registered
  · split at registered
    · simp only [Option.pure_def, Option.bind_eq_bind, Option.bind_eq_some_iff,
        Option.some.injEq] at registered
      obtain ⟨id, -, lifespan, begins, rfl⟩ := registered
      exact ⟨lifespan, begins, rfl⟩
    · exact absurd registered (by simp)
  · exact absurd registered (by simp)

end Moment

/-! ### Standing tokens -/

/-- Whether a history registers a token until a deadline and does not revoke it afterwards. -/
def Stands (service : TokenService) (history : List Moment) (user token : Text)
    (deadline : Deadline) : Prop :=
  ∃ earlier moment later, history = earlier ++ moment :: later ∧
    moment.registration? service = some ⟨user, token, deadline⟩ ∧
    ∀ next ∈ later, ¬next.Revokes user token

variable {service : TokenService} {history : List Moment} {moment : Moment} {user token : Text}
  {deadline : Deadline}

theorem not_stands_nil : ¬Stands service [] user token deadline := by
  rintro ⟨earlier, moment, later, split, -⟩
  simp at split

/-- What stands after one more step was registered in it or stood before and was not revoked. -/
theorem stands_append_singleton_iff :
    Stands service (history ++ [moment]) user token deadline ↔
      moment.registration? service = some ⟨user, token, deadline⟩ ∨
        Stands service history user token deadline ∧ ¬moment.Revokes user token := by
  constructor
  · rintro ⟨earlier, issue, later, split, registered, kept⟩
    rcases List.eq_nil_or_concat later with rfl | ⟨between, last, rfl⟩
    · obtain ⟨-, same⟩ := List.append_inj' split rfl
      exact .inl (List.singleton_inj.mp same ▸ registered)
    · rw [List.concat_eq_append, ← List.cons_append, ← List.append_assoc] at split
      obtain ⟨rfl, same⟩ := List.append_inj' split rfl
      rw [List.singleton_inj.mp same]
      simp only [List.concat_eq_append, List.mem_append, List.mem_singleton] at kept
      exact .inr ⟨⟨earlier, issue, between, rfl, registered, fun next inBetween =>
        kept next (.inl inBetween)⟩, kept last (.inr rfl)⟩
  · rintro (registered | ⟨⟨earlier, issue, later, rfl, registered, kept⟩, notRevoked⟩)
    · exact ⟨history, moment, [], rfl, registered, by simp⟩
    · refine ⟨earlier, issue, later ++ [moment], by simp, registered, fun next membership => ?_⟩
      rcases List.mem_append.mp membership with inLater | isLast
      · exact kept next inLater
      · rw [List.mem_singleton.mp isLast]
        exact notRevoked

theorem Stands.exists_minted (stands : Stands service history user token deadline) :
    ∃ id ∈ history.filterMap Moment.minted?, id.text = token := by
  obtain ⟨earlier, issue, later, rfl, registered, -⟩ := stands
  obtain ⟨id, minted, isToken⟩ := Moment.exists_minted_of_registration registered
  exact ⟨id, List.mem_filterMap.mpr ⟨issue, by simp, minted⟩, isToken⟩

/-- A standing token whose deadline is ahead had its deadline ahead before. -/
theorem Stands.isAhead_of_later (stands : Stands service history user token deadline)
    {clock later : Clock} (order : clock.ticks ≤ later.ticks)
    (ahead : deadline.isAhead later = true) : deadline.isAhead clock = true := by
  obtain ⟨earlier, issue, between, -, registered, -⟩ := stands
  obtain ⟨lifespan, -, isDeadline⟩ := Moment.deadline_of_registration registered
  simp only at isDeadline
  subst isDeadline
  exact Deadline.isAhead_ticking_of_later order ahead

/-- A step mints no identifier that the steps before it have minted. -/
theorem notMem_of_minted {id : TokenId}
    (distinct : ((history ++ [moment]).filterMap Moment.minted?).Nodup)
    (minted : moment.minted? = some id) : id ∉ history.filterMap Moment.minted? := by
  rw [List.filterMap_append, List.nodup_append] at distinct
  intro earlier
  exact distinct.2.2 id earlier id (by simp [minted]) rfl

theorem nodup_minted_of_append {later : List Moment}
    (distinct : ((history ++ later).filterMap Moment.minted?).Nodup) :
    (history.filterMap Moment.minted?).Nodup := by
  rw [List.filterMap_append] at distinct
  exact distinct.sublist (List.sublist_append_left _ _)

/-- The token that a step registers has not stood before. -/
theorem not_stands_of_registered {registration : Registration} {other : Text}
    {otherDeadline : Deadline}
    (distinct : ((history ++ [moment]).filterMap Moment.minted?).Nodup)
    (registered : moment.registration? service = some registration) :
    ¬Stands service history other registration.token otherDeadline := by
  intro stands
  obtain ⟨id, minted, isToken⟩ := Moment.exists_minted_of_registration registered
  obtain ⟨standing, inHistory, sameToken⟩ := stands.exists_minted
  rw [← isToken, TokenId.text_inj] at sameToken
  exact notMem_of_minted distinct minted (sameToken ▸ inHistory)

/-- A token stands for one user and until one deadline. -/
theorem Stands.unique {other : Text} {otherDeadline : Deadline}
    (distinct : (history.filterMap Moment.minted?).Nodup)
    (first : Stands service history user token deadline)
    (second : Stands service history other token otherDeadline) :
    user = other ∧ deadline = otherDeadline := by
  induction history using List.reverseRecOn with
  | nil => exact (not_stands_nil first).elim
  | append_singleton earlier last inductionHypothesis =>
      rcases stands_append_singleton_iff.mp first with registered | ⟨stood, -⟩ <;>
        rcases stands_append_singleton_iff.mp second with again | ⟨alsoStood, -⟩
      · rw [registered, Option.some.injEq, Registration.mk.injEq] at again
        exact ⟨again.1, again.2.2⟩
      · exact (not_stands_of_registered distinct registered alsoStood).elim
      · exact (not_stands_of_registered distinct again stood).elim
      · exact inductionHypothesis (nodup_minted_of_append distinct) stood alsoStood

/-- When no identifier is minted twice, nothing revokes a standing token after the step that has
registered it. -/
theorem Stands.of_registered {earlier later : List Moment} {issue : Moment} {owner : Text}
    {ended : Deadline} (registered : issue.registration? service = some ⟨owner, token, ended⟩)
    (distinct : ((earlier ++ issue :: later).filterMap Moment.minted?).Nodup)
    (stands : Stands service (earlier ++ issue :: later) user token deadline) :
    owner = user ∧ ended = deadline ∧ ∀ next ∈ later, ¬next.Revokes user token := by
  induction later using List.reverseRecOn with
  | nil =>
      rcases stands_append_singleton_iff.mp stands with again | ⟨stood, -⟩
      · rw [registered, Option.some.injEq, Registration.mk.injEq] at again
        exact ⟨again.1, again.2.2, by simp⟩
      · exact (not_stands_of_registered distinct registered stood).elim
  | append_singleton between last inductionHypothesis =>
      rw [← List.cons_append, ← List.append_assoc] at distinct stands
      rcases stands_append_singleton_iff.mp stands with again | ⟨stood, kept⟩
      · obtain ⟨id, minted, isToken⟩ := Moment.exists_minted_of_registration registered
        obtain ⟨lastId, lastMinted, isLast⟩ := Moment.exists_minted_of_registration again
        have same : lastId = id := TokenId.text_injective (isLast.trans isToken.symm)
        refine (notMem_of_minted distinct lastMinted (same ▸ ?_)).elim
        exact List.mem_filterMap.mpr ⟨issue, by simp, minted⟩
      · obtain ⟨isUser, isDeadline, keptBetween⟩ :=
          inductionHypothesis (nodup_minted_of_append distinct) stood
        refine ⟨isUser, isDeadline, fun next membership => ?_⟩
        rcases List.mem_append.mp membership with inBetween | isLast
        · exact keptBetween next inBetween
        · rw [List.mem_singleton.mp isLast]
          exact kept

end TokenAuthority
