import Mathlib.Logic.Function.Basic
import Mathlib.Logic.Relation
import TokenAuthority.Proofs.Service.Session

/-!
Calls that interleave.

Seen from the store, a call for a pair registers its new token, removes the previous one, and takes
the new one back when the previous one was missing.  Any number of calls take these steps in any
order.  Since the new token is registered first, the tokens of calls that are going to fail count
for a while; the invariant follows for each call how far it has come, and so which entries are its
own.  A call whose keys cannot be sent to the store fails at its first access, and changes nothing.
-/

namespace TokenAuthority

open Call

/-- A call for a pair, as far as it uses the store. -/
structure Rotation where
  user : Text
  previous : Text
  issued : RefreshToken
  userPart : StoreKey.isPart user = true
  previousPart : previous ≠ [] → StoreKey.isPart previous = true
  previousEncodable : previous ≠ [] → previous.isEncodable = true

/-- How far a call has come with its accesses to the store. -/
inductive Phase where
  | ready
  /-- The new token is registered and the previous one is to be removed. -/
  | registered
  /-- The previous token was missing and the new one is to be removed. -/
  | refused
  | returned
  | failed (failure : Failure)

namespace Phase

def Completed : Phase → Prop
  | .returned => True
  | .failed _ => True
  | _ => False

def HoldsToken : Phase → Prop
  | .registered => True
  | .refused => True
  | .returned => True
  | _ => False

/-- Whether the call has found its previous token missing. -/
def Loses : Phase → Prop
  | .refused => True
  | .failed failure => failure = .service (.invalidToken .refresh)
  | _ => False

/-- Whether the call is going to access the store another time. -/
def IsUnderway : Phase → Prop
  | .registered => True
  | .refused => True
  | _ => False

def outcome? : Phase → Option (Except Failure Unit)
  | .returned => some (.ok ())
  | .failed failure => some (.error failure)
  | _ => none

end Phase

namespace Rotation

def newKey (rotation : Rotation) : Text :=
  StoreKey.join rotation.user rotation.issued.id.text

/-- Whether the call is to consume the token of a key. -/
def Consumes (rotation : Rotation) (key : Text) : Prop :=
  rotation.previous ≠ [] ∧ StoreKey.join rotation.user rotation.previous = key

/-- Whether the call names a token of a user as the previous one. -/
structure Names (rotation : Rotation) (user token : Text) : Prop where
  user : rotation.user = user
  previous : rotation.previous = token
  nonempty : token ≠ []

theorem Names.consumes {rotation : Rotation} {user token : Text}
    (names : rotation.Names user token) : rotation.Consumes (StoreKey.join user token) := by
  obtain ⟨rfl, rfl, nonempty⟩ := names
  exact ⟨nonempty, rfl⟩

/-- Another call that is to consume the same key names the same token. -/
theorem Names.of_consumes {rotation other : Rotation} {user token : Text}
    (names : rotation.Names user token)
    (consumes : other.Consumes (StoreKey.join user token)) : other.Names user token := by
  obtain ⟨rfl, rfl, nonempty⟩ := names
  have parts := (StoreKey.join_eq_join_iff rotation.userPart (rotation.previousPart nonempty)
    _ _).mp consumes.2
  exact ⟨parts.1, parts.2, nonempty⟩

/-- Take the next access to the store, and tell how far the call has come then. -/
def advance (rotation : Rotation) (phase : Phase) (world : World) : Phase × World :=
  match phase with
  | .ready =>
      match runIn (StoreAccess.put rotation.user rotation.issued.id.text
        (rotation.issued.timeLeft world.clock.wall)) world with
      | (.ok _, after) => (if rotation.previous = [] then .returned else .registered, after)
      | (.error failure, after) => (.failed failure, after)
  | .registered =>
      match runIn (StoreAccess.delete rotation.user rotation.previous) world with
      | (.ok removed, after) => (if removed = 0 then .refused else .returned, after)
      | (.error failure, after) => (.failed failure, after)
  | .refused =>
      (.failed (.service (.invalidToken .refresh)),
        (runIn (StoreAccess.delete rotation.user rotation.issued.id.text) world).2)
  | .returned => (.returned, world)
  | .failed failure => (.failed failure, world)

variable {rotation : Rotation} {world : World}

theorem advance_ready_of_not_takes (sound : world.faults = {})
    (refuses : world.store.takes rotation.user = false) :
    ∃ reports, rotation.advance .ready world =
      (.failed .unencodable, world.withReports reports) := by
  have fails : world.registeringFailure? (StoreKey.join rotation.user rotation.issued.id.text) =
      some .unencodable := by
    rw [StoreAccess.registeringFailure?_of_no_faults sound, Store.takes_join_text, refuses,
      if_neg Bool.false_ne_true]
  obtain ⟨reports, ran⟩ := StoreAccess.runIn_put_of_fails rotation.userPart
    (TokenId.isPart_text rotation.issued.id) (rotation.issued.timeLeft world.clock.wall) fails
  refine ⟨reports, ?_⟩
  unfold advance
  simp only [ran]

section Taken

variable (sound : world.faults = {}) (taken : world.store.takes rotation.user = true)

include sound taken

theorem advance_ready :
    rotation.advance .ready world =
      (if rotation.previous = [] then .returned else .registered,
        rotation.issued.registeredIn rotation.user world) := by
  have ran := StoreAccess.runIn_put rotation.userPart (TokenId.isPart_text rotation.issued.id)
    (rotation.issued.timeLeft world.clock.wall)
    (StoreAccess.registeringFailure?_eq_none sound
      ((Store.takes_join_text world.store rotation.user rotation.issued.id).trans taken))
  unfold advance
  simp only [ran]
  rfl

theorem advance_registered (follows : rotation.previous ≠ []) :
    rotation.advance .registered world =
      (if world.IsLive rotation.user rotation.previous then .returned else .refused,
        world.removing rotation.user rotation.previous) := by
  have keyTaken : world.store.takes (StoreKey.join rotation.user rotation.previous) = true := by
    rw [Store.takes_join, taken,
      Store.takes_of_isEncodable (rotation.previousEncodable follows), Bool.and_true]
  have ran := StoreAccess.runIn_delete rotation.userPart (rotation.previousPart follows)
    (StoreAccess.removingFails_of_no_faults sound _) keyTaken
  unfold advance
  simp only [ran]
  by_cases live : world.IsLive rotation.user rotation.previous <;> simp [live]

theorem advance_refused :
    rotation.advance .refused world =
      (.failed (.service (.invalidToken .refresh)),
        world.removing rotation.user rotation.issued.id.text) := by
  have ran := StoreAccess.runIn_delete rotation.userPart (TokenId.isPart_text rotation.issued.id)
    (StoreAccess.removingFails_of_no_faults sound _)
    ((Store.takes_join_text world.store rotation.user rotation.issued.id).trans taken)
  unfold advance
  simp only [ran]

end Taken

end Rotation

/-! ### Systems of calls -/

/-- Calls that share a world, with how far each of them has come. -/
structure System (Index : Type) where
  world : World
  phase : Index → Phase

variable {Index : Type}

/-- What can happen next: some call accesses the store, or time passes in which no entry ends. -/
inductive Turn [DecidableEq Index] (calls : Index → Rotation) (system : System Index) :
    System Index → Prop where
  | access (index : Index) :
      Turn calls system
        ⟨((calls index).advance (system.phase index) system.world).2,
          Function.update system.phase index
            ((calls index).advance (system.phase index) system.world).1⟩
  | wait (milliseconds : Nat)
      (quiet : ∀ key, system.world.store.IsLive system.world.clock key →
        system.world.store.IsLive (system.world.clock.advance milliseconds) key) :
      Turn calls system { system with world := system.world.advance milliseconds }

/-- What can happen next when users sign out in between. -/
inductive TurnOrSignOut [DecidableEq Index] (service : TokenService)
    (calls : Index → Rotation) (system : System Index) : System Index → Prop where
  | turn {next : System Index} (happens : Turn calls system next) :
      TurnOrSignOut service calls system next
  | signOut (context : Option Context) (user : Text) :
      TurnOrSignOut service calls system
        { system with world := (runIn (service.signOut context user) system.world).2 }

/-- What is assumed of calls and of the world in which they begin. -/
structure Begins (calls : Index → Rotation) (start : System Index) : Prop where
  ready : ∀ index, start.phase index = .ready
  sound : start.world.faults = {}
  /-- Nothing happens while an entry is registered. -/
  calm : start.world.duringPut = {}
  distinct : ∀ first second, (calls first).issued.id = (calls second).issued.id → first = second
  notPrevious : ∀ first second, (calls first).previous ≠ (calls second).issued.id.text
  fresh : ∀ index, ¬start.world.IsLive (calls index).user (calls index).issued.id.text

namespace System

variable {calls : Index → Rotation} {start system next : System Index}

def Consumed (calls : Index → Rotation) (system : System Index) (key : Text) : Prop :=
  ∃ index, system.phase index = .returned ∧ (calls index).Consumes key

/-- What the calls that have returned leave behind: the tokens that they have consumed are gone, and
each was consumed by one call only. -/
structure Spending (calls : Index → Rotation) (system : System Index) : Prop where
  sound : system.world.faults = {}
  calm : system.world.duringPut = {}
  follows : ∀ index, system.phase index = .registered ∨ (system.phase index).Loses →
    (calls index).previous ≠ []
  failure : ∀ index failure, system.phase index = .failed failure →
    failure = .service (.invalidToken .refresh) ∨
      failure = .unencodable ∧ system.world.store.takes (calls index).user = false
  taken : ∀ index, (system.phase index).IsUnderway →
    system.world.store.takes (calls index).user = true
  consumed : ∀ key, system.Consumed calls key →
    ¬system.world.store.IsLive system.world.clock key
  once : ∀ first second key, system.phase first = .returned → system.phase second = .returned →
    (calls first).Consumes key → (calls second).Consumes key → first = second

/-- How the entries that count come from those in the beginning and from how far each call has
come. -/
structure Progress (calls : Index → Rotation) (start system : System Index) : Prop extends
    Spending calls system where
  takes : ∀ text, system.world.store.takes text = start.world.store.takes text
  own : ∀ index, system.world.store.IsLive system.world.clock (calls index).newKey ↔
    (system.phase index).HoldsToken
  kept : ∀ key, (∀ index, key ≠ (calls index).newKey) → ¬system.Consumed calls key →
    system.world.store.liveDeadline? system.world.clock key =
      start.world.store.liveDeadline? start.world.clock key
  loses : ∀ index key, (system.phase index).Loses → (calls index).Consumes key →
    start.world.store.IsLive start.world.clock key → system.Consumed calls key

theorem Progress.of_begins (begins : Begins calls start) : Progress calls start start where
  sound := begins.sound
  calm := begins.calm
  follows := by simp [begins.ready, Phase.Loses]
  failure := by simp [begins.ready]
  taken := by simp [begins.ready, Phase.IsUnderway]
  takes := fun _ => rfl
  consumed := by
    rintro key ⟨index, returned, -⟩
    rw [begins.ready] at returned
    cases returned
  once := by simp [begins.ready]
  own := by
    intro index
    rw [begins.ready]
    exact iff_of_false (begins.fresh index) id
  kept := fun _ _ _ => rfl
  loses := by simp [begins.ready, Phase.Loses]

theorem newKey_inj (begins : Begins calls start) {first second : Index}
    (same : (calls first).newKey = (calls second).newKey) : first = second := by
  have parts := (StoreKey.join_eq_join_iff (calls second).userPart
    (TokenId.isPart_text (calls second).issued.id) _ _).mp same
  exact begins.distinct first second (TokenId.text_injective parts.2)

/-- No call is to consume the new token of any call. -/
theorem ne_newKey_of_consumes (begins : Begins calls start) {index : Index} {key : Text}
    (consumes : (calls index).Consumes key) (other : Index) : key ≠ (calls other).newKey := by
  rintro rfl
  have parts := (StoreKey.join_eq_join_iff (calls other).userPart
    (TokenId.isPart_text (calls other).issued.id) _ _).mp consumes.2
  exact begins.notPrevious index other parts.2

/-! ### What the progress tells -/

/-- A call that has failed though its keys are taken has found its previous token missing. -/
theorem Progress.eq_invalidToken_of_failed (progress : Progress calls start system)
    {user token : Text} (taken : start.world.store.takes user = true) {index : Index}
    (names : (calls index).Names user token) {failure : Failure}
    (failed : system.phase index = .failed failure) :
    failure = .service (.invalidToken .refresh) := by
  rcases progress.failure index failure failed with invalid | ⟨-, refuses⟩
  · exact invalid
  · rw [names.user, progress.takes, taken] at refuses
    cases refuses

/-- Once a call has found its previous token missing though it counted in the beginning, exactly one
call has returned with it. -/
theorem Progress.existsUnique_returned (progress : Progress calls start system)
    {user token : Text}
    (stood : start.world.IsLive user token) (taken : start.world.store.takes user = true)
    {index : Index} (names : (calls index).Names user token)
    (completed : (system.phase index).Completed) :
    ∃! winner, (calls winner).Names user token ∧ system.phase winner = .returned := by
  have consumes := names.consumes
  obtain ⟨winner, returned, winnerConsumes⟩ :
      system.Consumed calls (StoreKey.join user token) := by
    cases phase : system.phase index with
    | returned => exact ⟨index, phase, consumes⟩
    | failed failure =>
        have invalid := progress.eq_invalidToken_of_failed taken names phase
        exact progress.loses index _ (by rw [phase]; exact invalid) consumes stood
    | _ => rw [phase] at completed; exact completed.elim
  refine ⟨winner, ⟨names.of_consumes winnerConsumes, returned⟩, ?_⟩
  rintro other ⟨otherNames, otherReturned⟩
  exact progress.once other winner _ otherReturned returned otherNames.consumes winnerConsumes

/-- When every call has ended, the entries that count are those of the beginning without the
consumed ones, and the new tokens of the calls that have returned. -/
theorem Progress.isLive_iff_of_completed (begins : Begins calls start)
    (progress : Progress calls start system)
    (completed : ∀ index, (system.phase index).Completed) (key : Text) :
    system.world.store.IsLive system.world.clock key ↔
      (start.world.store.IsLive start.world.clock key ∧ ¬system.Consumed calls key) ∨
        ∃ index, system.phase index = .returned ∧ key = (calls index).newKey := by
  by_cases isNew : ∃ index, key = (calls index).newKey
  · obtain ⟨index, rfl⟩ := isNew
    have holds_iff : (system.phase index).HoldsToken ↔ system.phase index = .returned := by
      have ended := completed index
      cases phase : system.phase index with
      | returned => exact iff_of_true trivial rfl
      | failed failure => exact iff_of_false id (by simp)
      | _ => rw [phase] at ended; exact ended.elim
    rw [progress.own index, holds_iff]
    constructor
    · exact fun returned => .inr ⟨index, returned, rfl⟩
    · rintro (⟨stood, -⟩ | ⟨other, returned, same⟩)
      · exact absurd stood (begins.fresh index)
      · rwa [newKey_inj begins same]
  · have notNew : ∀ index, key ≠ (calls index).newKey := fun index same => isNew ⟨index, same⟩
    by_cases consumed : system.Consumed calls key
    · refine iff_of_false (progress.consumed key consumed) ?_
      rintro (⟨-, notConsumed⟩ | ⟨index, -, same⟩)
      · exact notConsumed consumed
      · exact notNew index same
    · rw [Store.isLive_congr (progress.kept key notNew consumed)]
      constructor
      · exact fun stood => .inl ⟨stood, consumed⟩
      · rintro (⟨stood, -⟩ | ⟨index, -, same⟩)
        · exact stood
        · exact absurd same (notNew index)

/-! ### Single accesses -/

variable {index : Index} {phase : Phase} {world : World} {touched : Text}

/-- What an access of a call to the store comes to: it touches one key only, which is that of the
call's own token or the one that it is to consume, and its new phase tells what it found there. -/
structure Access (calls : Index → Rotation) (system : System Index) (index : Index)
    (touched : Text) (phase : Phase) (world : World) : Prop where
  sound : world.faults = {}
  calm : world.duringPut = {}
  follows : phase = .registered ∨ phase.Loses → (calls index).previous ≠ []
  failure : ∀ failure, phase = .failed failure →
    failure = .service (.invalidToken .refresh) ∨
      failure = .unencodable ∧ system.world.store.takes (calls index).user = false
  takes : ∀ text, world.store.takes text = system.world.store.takes text
  taken : phase.IsUnderway → system.world.store.takes (calls index).user = true
  others : ∀ key, key ≠ touched → world.store.liveDeadline? world.clock key =
    system.world.store.liveDeadline? system.world.clock key
  target : touched = (calls index).newKey ∨
    (calls index).Consumes touched ∧ ¬world.store.IsLive world.clock touched ∧
      (phase = .returned ∨ ¬system.world.store.IsLive system.world.clock touched)
  wins : phase = .returned → ∀ key, (calls index).Consumes key →
    touched = key ∧ system.world.store.IsLive system.world.clock key

/-- An access after which the call holds its token or not as its phase tells. -/
structure Fits (calls : Index → Rotation) (system : System Index) (index : Index)
    (touched : Text) (phase : Phase) (world : World) : Prop extends
    Access calls system index touched phase world where
  own : world.store.IsLive world.clock (calls index).newKey ↔ phase.HoldsToken
  loses : phase.Loses → (system.phase index).Loses ∨
    ∀ key, (calls index).Consumes key → ¬system.world.store.IsLive system.world.clock key

/-- A call whose keys are not taken fails at once. -/
theorem Spending.access_ready_of_not_takes (spending : Spending calls system)
    (refuses : system.world.store.takes (calls index).user = false) (reports : List Log.Event) :
    Access calls system index (calls index).newKey (.failed .unencodable)
      (system.world.withReports reports) := by
  refine ⟨spending.sound, spending.calm, ?_, ?_, fun _ => rfl, False.elim, fun _ _ => rfl,
    .inl rfl, ?_⟩
  · rintro (registered | loses)
    · cases registered
    · cases loses
  · rintro failure failed
    cases failed
    exact .inr ⟨rfl, refuses⟩
  · intro returned
    cases returned

theorem Progress.fits_ready_of_not_takes (progress : Progress calls start system)
    (ready : system.phase index = .ready)
    (refuses : system.world.store.takes (calls index).user = false) (reports : List Log.Event) :
    Fits calls system index (calls index).newKey (.failed .unencodable)
      (system.world.withReports reports) := by
  refine ⟨progress.access_ready_of_not_takes refuses reports, ?_, ?_⟩
  · refine iff_of_false (mt (progress.own index).mp ?_) id
    rw [ready]
    exact id
  · intro loses
    cases loses

theorem Spending.access_ready (spending : Spending calls system) (index : Index)
    (taken : system.world.store.takes (calls index).user = true) :
    Access calls system index (calls index).newKey
      (if (calls index).previous = [] then .returned else .registered)
      ((calls index).issued.registeredIn (calls index).user system.world) := by
  refine ⟨spending.sound, spending.calm, ?_, ?_, ?_, fun _ => taken, ?_, .inl rfl, ?_⟩
  · intro phases first
    simp [first, Phase.Loses] at phases
  · intro failure failed
    split at failed <;> cases failed
  · exact fun text => Store.takes_register _ _ _ _ _
  · intro key differs
    rw [RefreshToken.clock_registeredIn, spending.calm, Clock.advance_zero]
    exact system.world.store.liveDeadline?_register_of_ne _ _ differs _
  · intro returned key consumes
    rw [if_neg consumes.1] at returned
    cases returned

theorem Progress.fits_ready (progress : Progress calls start system) (index : Index)
    (taken : system.world.store.takes (calls index).user = true) :
    Fits calls system index (calls index).newKey
      (if (calls index).previous = [] then .returned else .registered)
      ((calls index).issued.registeredIn (calls index).user system.world) := by
  refine ⟨progress.access_ready index taken, ?_, ?_⟩
  · rw [RefreshToken.clock_registeredIn, progress.calm, Clock.advance_zero]
    refine iff_of_true (Store.isLive_register_self _ _ _ ?_) (by split <;> trivial)
    exact Int.lt_of_lt_of_le Int.zero_lt_one (Duration.one_le_storeSeconds _)
  · intro loses
    split at loses <;> exact loses.elim

theorem Spending.access_registered (spending : Spending calls system)
    (registered : system.phase index = .registered) :
    Access calls system index (StoreKey.join (calls index).user (calls index).previous)
      (if system.world.IsLive (calls index).user (calls index).previous then .returned
        else .refused)
      (system.world.removing (calls index).user (calls index).previous) := by
  have follows := spending.follows index (.inl registered)
  have removes := system.world.store.liveDeadline?_remove system.world.clock
    (StoreKey.join (calls index).user (calls index).previous)
  have taken := spending.taken index (by rw [registered]; trivial)
  refine ⟨spending.sound, spending.calm, fun _ => follows, ?_, fun _ => Store.takes_remove _ _ _,
    fun _ => taken, ?_, .inr ⟨⟨follows, rfl⟩, ?_, ?_⟩, ?_⟩
  · intro failure failed
    split at failed <;> cases failed
  · intro key differs
    exact (removes key).trans (if_neg differs)
  · exact (Store.not_isLive_iff _ _ _).mpr ((removes _).trans (if_pos rfl))
  · by_cases live : system.world.IsLive (calls index).user (calls index).previous
    · exact .inl (if_pos live)
    · exact .inr live
  · rintro returned key ⟨-, rfl⟩
    split at returned
    · next live => exact ⟨rfl, live⟩
    · cases returned

theorem Progress.fits_registered (begins : Begins calls start)
    (progress : Progress calls start system) (registered : system.phase index = .registered) :
    Fits calls system index (StoreKey.join (calls index).user (calls index).previous)
      (if system.world.IsLive (calls index).user (calls index).previous then .returned
        else .refused)
      (system.world.removing (calls index).user (calls index).previous) := by
  have access := progress.access_registered registered
  have differs := (ne_newKey_of_consumes begins
    ⟨progress.follows index (.inl registered), rfl⟩ index).symm
  refine ⟨access, ?_, ?_⟩
  · have held := (progress.own index).mpr (by rw [registered]; trivial)
    exact iff_of_true ((Store.isLive_congr (access.others _ differs)).mpr held)
      (by split <;> trivial)
  · intro loses
    split at loses
    · exact loses.elim
    · next absent =>
        refine .inr ?_
        rintro key ⟨-, rfl⟩ live
        exact absent live

theorem Spending.access_refused (spending : Spending calls system)
    (refused : system.phase index = .refused) :
    Access calls system index (calls index).newKey (.failed (.service (.invalidToken .refresh)))
      (system.world.removing (calls index).user (calls index).issued.id.text) := by
  have follows := spending.follows index (.inr (by rw [refused]; trivial))
  have removes := system.world.store.liveDeadline?_remove system.world.clock (calls index).newKey
  refine ⟨spending.sound, spending.calm, fun _ => follows, ?_, fun _ => Store.takes_remove _ _ _,
    False.elim, ?_, .inl rfl, ?_⟩
  · rintro failure failed
    cases failed
    exact .inl rfl
  · intro key differs
    exact (removes key).trans (if_neg differs)
  · intro returned
    cases returned

theorem Progress.fits_refused (progress : Progress calls start system)
    (refused : system.phase index = .refused) :
    Fits calls system index (calls index).newKey (.failed (.service (.invalidToken .refresh)))
      (system.world.removing (calls index).user (calls index).issued.id.text) := by
  refine ⟨progress.access_refused refused, ?_, fun _ => .inl (by rw [refused]; trivial)⟩
  have removes := system.world.store.liveDeadline?_remove system.world.clock (calls index).newKey
  exact iff_of_false ((Store.not_isLive_iff _ _ _).mpr ((removes _).trans (if_pos rfl))) id

theorem Spending.signOut (spending : Spending calls system) (service : TokenService)
    (context : Option Context) (user : Text) :
    Spending calls
      { system with world := (runIn (service.signOut context user) system.world).2 } := by
  cases refusal : service.signOutRefusal? context user system.world with
  | some error =>
      obtain ⟨reports, ran⟩ := TokenService.runIn_signOut_of_refused spending.sound refusal
      rw [ran]
      exact ⟨spending.sound, spending.calm, spending.follows, spending.failure, spending.taken,
        spending.consumed, spending.once⟩
  | none =>
      obtain ⟨reports, ran⟩ := TokenService.runIn_signOut spending.sound refusal
      rw [ran]
      refine ⟨spending.sound, spending.calm, spending.follows, ?_, ?_, ?_, spending.once⟩
      · intro index failure failed
        simp only [World.clearing, World.withReports, Store.takes_clear]
        exact spending.failure index failure failed
      · intro index underway
        simp only [World.clearing, World.withReports, Store.takes_clear]
        exact spending.taken index underway
      intro key consumed
      have dead := (Store.not_isLive_iff _ _ _).mp (spending.consumed key consumed)
      have clears := system.world.store.liveDeadline?_clear system.world.clock
        (StoreKey.userStart user) key
      rw [dead, ite_self] at clears
      exact (Store.not_isLive_iff _ _ _).mpr clears

/-! ### What accesses preserve -/

variable [DecidableEq Index]

/-- When a call that has not returned goes on, what is consumed is what was and what it consumes. -/
theorem consumed_update_iff (pending : system.phase index ≠ .returned) (key : Text) :
    Consumed calls ⟨world, Function.update system.phase index phase⟩ key ↔
      system.Consumed calls key ∨ phase = .returned ∧ (calls index).Consumes key := by
  constructor
  · rintro ⟨other, returned, consumes⟩
    by_cases same : other = index
    · subst same
      exact .inr ⟨by simpa using returned, consumes⟩
    · exact .inl ⟨other, by simpa [same] using returned, consumes⟩
  · rintro (⟨other, returned, consumes⟩ | ⟨returned, consumes⟩)
    · have differs : other ≠ index := fun same => pending (same ▸ returned)
      exact ⟨other, by simpa [differs] using returned, consumes⟩
    · exact ⟨index, by simpa using returned, consumes⟩

theorem Spending.update (begins : Begins calls start) (spending : Spending calls system)
    (pending : system.phase index ≠ .returned)
    (access : Access calls system index touched phase world) :
    Spending calls ⟨world, Function.update system.phase index phase⟩ where
  sound := access.sound
  calm := access.calm
  follows := by
    intro other
    by_cases same : other = index
    · subst same
      simpa using access.follows
    · simpa [same] using spending.follows other
  failure := by
    intro other
    by_cases same : other = index
    · subst same
      simpa [access.takes] using access.failure
    · simpa [same, access.takes] using spending.failure other
  taken := by
    intro other
    by_cases same : other = index
    · subst same
      simpa [access.takes] using access.taken
    · simpa [same, access.takes] using spending.taken other
  consumed := by
    intro key consumed
    have notNew : key ≠ (calls index).newKey := by
      obtain ⟨_, -, consumes⟩ := consumed
      exact ne_newKey_of_consumes begins consumes index
    by_cases isTouched : key = touched
    · rcases access.target with isNew | ⟨-, dead, -⟩
      · exact absurd (isTouched.trans isNew) notNew
      · exact isTouched ▸ dead
    · rcases (consumed_update_iff pending key).mp consumed with before | ⟨returned, consumes⟩
      · exact mt (Store.isLive_congr (access.others key isTouched)).mp
          (spending.consumed key before)
      · exact absurd (access.wins returned key consumes).1.symm isTouched
  once := by
    intro first second key firstReturned secondReturned firstConsumes secondConsumes
    have alone : ∀ other, phase = .returned → (calls index).Consumes key →
        system.phase other = .returned → ¬(calls other).Consumes key :=
      fun other returned consumes otherReturned otherConsumes =>
        spending.consumed key ⟨other, otherReturned, otherConsumes⟩
          (access.wins returned key consumes).2
    by_cases firstSame : first = index <;> by_cases secondSame : second = index
    · rw [firstSame, secondSame]
    · subst firstSame
      simp only [Function.update_self, Function.update_of_ne secondSame]
        at firstReturned secondReturned
      exact absurd secondConsumes (alone second firstReturned firstConsumes secondReturned)
    · subst secondSame
      simp only [Function.update_self, Function.update_of_ne firstSame]
        at firstReturned secondReturned
      exact absurd firstConsumes (alone first secondReturned secondConsumes firstReturned)
    · simp only [Function.update_of_ne firstSame, Function.update_of_ne secondSame]
        at firstReturned secondReturned
      exact spending.once first second key firstReturned secondReturned firstConsumes
        secondConsumes

theorem Progress.update (begins : Begins calls start) (progress : Progress calls start system)
    (pending : system.phase index ≠ .returned)
    (fits : Fits calls system index touched phase world) :
    Progress calls start ⟨world, Function.update system.phase index phase⟩ where
  toSpending := progress.toSpending.update begins pending fits.toAccess
  takes := fun text => (fits.takes text).trans (progress.takes text)
  own := by
    intro other
    by_cases same : other = index
    · subst same
      simpa using fits.own
    · have untouched : (calls other).newKey ≠ touched := by
        rcases fits.target with isNew | ⟨consumes, -⟩
        · rw [isNew]
          exact fun equal => same (newKey_inj begins equal)
        · exact (ne_newKey_of_consumes begins consumes other).symm
      have unchanged := Store.isLive_congr (fits.others _ untouched)
      simpa [same, unchanged] using progress.own other
  kept := by
    intro key notNew notConsumed
    rw [consumed_update_iff pending, not_or] at notConsumed
    have before := progress.kept key notNew notConsumed.1
    by_cases isTouched : key = touched
    · subst isTouched
      rcases fits.target with isNew | ⟨consumes, dead, returned | deadBefore⟩
      · exact absurd isNew (notNew index)
      · exact absurd ⟨returned, consumes⟩ notConsumed.2
      · rw [(Store.not_isLive_iff _ _ _).mp dead, ← before,
          (Store.not_isLive_iff _ _ _).mp deadBefore]
    · rw [← before]
      exact fits.others key isTouched
  loses := by
    intro other key loses consumes stood
    refine (consumed_update_iff pending key).mpr (.inl ?_)
    by_cases same : other = index
    · subst same
      simp only [Function.update_self] at loses
      rcases fits.loses loses with lost | absent
      · exact progress.loses other key lost consumes stood
      · by_contra notConsumed
        have unchanged := progress.kept key (ne_newKey_of_consumes begins consumes) notConsumed
        exact absent key consumes ((Store.isLive_congr unchanged).mpr stood)
    · simp only [Function.update_of_ne same] at loses
      exact progress.loses other key loses consumes stood

theorem access_of_completed (completed : (system.phase index).Completed) :
    (⟨((calls index).advance (system.phase index) system.world).2,
      Function.update system.phase index
        ((calls index).advance (system.phase index) system.world).1⟩ : System Index) = system := by
  have unchanged : (calls index).advance (system.phase index) system.world =
      (system.phase index, system.world) := by
    cases phase : system.phase index with
    | returned => rfl
    | failed failure => rfl
    | _ => rw [phase] at completed; exact completed.elim
  rw [unchanged, Function.update_eq_self]

theorem Spending.turn (begins : Begins calls start) (spending : Spending calls system)
    (happens : Turn calls system next) : Spending calls next := by
  cases happens with
  | access index =>
      cases phase : system.phase index with
      | ready =>
          cases taken : system.world.store.takes (calls index).user with
          | true =>
              rw [Rotation.advance_ready spending.sound taken]
              exact spending.update begins (by simp [phase]) (spending.access_ready index taken)
          | false =>
              obtain ⟨reports, fails⟩ :=
                Rotation.advance_ready_of_not_takes spending.sound taken
              rw [fails]
              exact spending.update begins (by simp [phase])
                (spending.access_ready_of_not_takes taken reports)
      | registered =>
          rw [Rotation.advance_registered spending.sound
            (spending.taken index (by rw [phase]; trivial)) (spending.follows index (.inl phase))]
          exact spending.update begins (by simp [phase]) (spending.access_registered phase)
      | refused =>
          rw [Rotation.advance_refused spending.sound
            (spending.taken index (by rw [phase]; trivial))]
          exact spending.update begins (by simp [phase]) (spending.access_refused phase)
      | _ => rwa [← phase, access_of_completed (by rw [phase]; trivial)]
  | wait milliseconds quiet =>
      refine ⟨spending.sound, spending.calm, spending.follows, spending.failure, spending.taken, ?_,
        spending.once⟩
      intro key consumed
      exact Store.not_isLive_advance (Int.natCast_nonneg _) (spending.consumed key consumed)

theorem Progress.turn (begins : Begins calls start) (progress : Progress calls start system)
    (happens : Turn calls system next) : Progress calls start next := by
  cases happens with
  | access index =>
      cases phase : system.phase index with
      | ready =>
          cases taken : system.world.store.takes (calls index).user with
          | true =>
              rw [Rotation.advance_ready progress.sound taken]
              exact progress.update begins (by simp [phase]) (progress.fits_ready index taken)
          | false =>
              obtain ⟨reports, fails⟩ :=
                Rotation.advance_ready_of_not_takes progress.sound taken
              rw [fails]
              exact progress.update begins (by simp [phase])
                (progress.fits_ready_of_not_takes phase taken reports)
      | registered =>
          rw [Rotation.advance_registered progress.sound
            (progress.taken index (by rw [phase]; trivial)) (progress.follows index (.inl phase))]
          exact progress.update begins (by simp [phase]) (progress.fits_registered begins phase)
      | refused =>
          rw [Rotation.advance_refused progress.sound
            (progress.taken index (by rw [phase]; trivial))]
          exact progress.update begins (by simp [phase]) (progress.fits_refused phase)
      | _ => rwa [← phase, access_of_completed (by rw [phase]; trivial)]
  | wait milliseconds quiet =>
      have same : ∀ key, system.world.store.liveDeadline?
          (system.world.clock.advance milliseconds) key =
            system.world.store.liveDeadline? system.world.clock key :=
        fun key => Store.liveDeadline?_advance_of_quiet (Int.natCast_nonneg _) (quiet key)
      exact {
        toSpending := progress.toSpending.turn begins (.wait milliseconds quiet)
        takes := progress.takes
        own := fun index => (Store.isLive_congr (same _)).trans (progress.own index)
        kept := fun key notNew notConsumed =>
          (same key).trans (progress.kept key notNew notConsumed)
        loses := progress.loses }

/-! ### All interleavings -/

theorem Progress.of_reaches (begins : Begins calls start)
    (reaches : Relation.ReflTransGen (Turn calls) start system) : Progress calls start system := by
  induction reaches with
  | refl => exact .of_begins begins
  | tail _ happens inductionHypothesis => exact Progress.turn begins inductionHypothesis happens

theorem Spending.of_reaches {service : TokenService} (begins : Begins calls start)
    (reaches : Relation.ReflTransGen (TurnOrSignOut service calls) start system) :
    Spending calls system := by
  induction reaches with
  | refl => exact (Progress.of_begins begins).toSpending
  | tail _ happens inductionHypothesis =>
      cases happens with
      | turn happens => exact Spending.turn begins inductionHypothesis happens
      | signOut context user => exact Spending.signOut inductionHypothesis service context user

/-- However calls interleave, of those that name one token which counted in the beginning exactly
one returns a pair and the others are refused, as soon as one of them has ended; and when all have
ended, just the consumed tokens are gone and just the returned ones have come.  With sign-outs in
between, still no token is consumed by two calls.  A store that does not take the keys of a user
holds no tokens of that user. -/
theorem returned_exactly_once (service : TokenService) (begins : Begins calls start) :
    (∀ system, Relation.ReflTransGen (Turn calls) start system →
      (∀ user token, start.world.store.takes user = true → start.world.IsLive user token →
        (∃ index, (calls index).Names user token ∧ (system.phase index).Completed) →
          (∃! index, (calls index).Names user token ∧ system.phase index = .returned) ∧
          ∀ index, (calls index).Names user token → (system.phase index).Completed →
            system.phase index ≠ .returned →
              system.phase index = .failed (.service (.invalidToken .refresh))) ∧
      ((∀ index, (system.phase index).Completed) → ∀ key,
        system.world.store.IsLive system.world.clock key ↔
          (start.world.store.IsLive start.world.clock key ∧ ¬system.Consumed calls key) ∨
            ∃ index, system.phase index = .returned ∧ key = (calls index).newKey)) ∧
    (∀ system, Relation.ReflTransGen (TurnOrSignOut service calls) start system →
      ∀ user token first second, (calls first).Names user token → (calls second).Names user token →
        system.phase first = .returned → system.phase second = .returned → first = second) := by
  refine ⟨fun system reaches => ?_, fun system reaches => ?_⟩
  · have progress := Progress.of_reaches begins reaches
    refine ⟨?_, progress.isLive_iff_of_completed begins⟩
    rintro user token taken stood ⟨index, names, completed⟩
    refine ⟨progress.existsUnique_returned stood taken names completed, ?_⟩
    intro other otherNames otherCompleted notReturned
    cases phase : system.phase other with
    | returned => exact absurd phase notReturned
    | failed failure => rw [progress.eq_invalidToken_of_failed taken otherNames phase]
    | _ => rw [phase] at otherCompleted; exact otherCompleted.elim
  · intro user token first second firstNames secondNames firstReturned secondReturned
    exact (Spending.of_reaches begins reaches).once first second _ firstReturned secondReturned
      firstNames.consumes secondNames.consumes

/-- Two calls that name one token. -/
def racing (index : Fin 2) : Rotation where
  user := "u"
  previous := (TokenId.numbered 9).text
  issued := ⟨"signed", TokenId.numbered (index + 1), "u", ⟨1700000000000000, 1703600000000000⟩⟩
  userPart := by decide
  previousPart := fun _ => TokenId.isPart_text _
  previousEncodable := fun _ => TokenId.isEncodable_text _

/-- The token that both calls name counts, and neither call has begun. -/
def beforeRace : System (Fin 2) where
  world :=
    { World.sample with
      store := .memory ⟨[(StoreKey.join "u" (TokenId.numbered 9).text, .ofInt 5)]⟩ }
  phase _ := .ready

/-- However two calls race for one token, exactly one of them returns. -/
theorem sample_race :
    Begins racing beforeRace ∧ ∀ system,
      Relation.ReflTransGen (Turn racing) beforeRace system →
        (system.phase 0).Completed → ∃! index, system.phase index = .returned := by
  have begins : Begins racing beforeRace :=
    { ready := fun _ => rfl
      sound := rfl
      calm := rfl
      distinct := by decide +kernel
      notPrevious := by decide +kernel
      fresh := by decide +kernel }
  have stood : beforeRace.world.IsLive "u" (TokenId.numbered 9).text := by decide +kernel
  have names : ∀ index, (racing index).Names "u" (TokenId.numbered 9).text :=
    fun _ => ⟨rfl, rfl, by decide +kernel⟩
  refine ⟨begins, fun system reaches completed => ?_⟩
  obtain ⟨index, ⟨-, returned⟩, only⟩ := ((returned_exactly_once .sample begins).1 system reaches).1
    "u" _ rfl stood ⟨0, names 0, completed⟩ |>.1
  exact ⟨index, returned, fun other alsoReturned => only other ⟨names other, alsoReturned⟩⟩

end System

end TokenAuthority
