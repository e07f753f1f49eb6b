import TokenAuthority.Proofs.Service.Session

/-!
Runs of the service.

A run is a list of steps that follow one another in a world: calls, time that passes and signals
that callers raise.  Its history keeps every step with its answer and the worlds around it.
-/

namespace TokenAuthority

inductive Answer where
  | pair (outcome : Except Failure TokenPair)
  | identity (outcome : Except Failure UserSnapshot)
  | refresh (outcome : Except Failure RefreshClaims)
  | signedOut (outcome : Except Failure Nat)
  | done

inductive Step where
  /-- A call for a pair, with the milliseconds that pass and the signals that are raised while it
  registers its token. -/
  | newPair (context : Option Context) (user : UserSnapshot) (previous : Text) (elapsed : Nat)
      (raised : List Signal)
  | validateIdentity (context : Option Context) (token : Text)
  | validateRefresh (context : Option Context) (token : Text)
  | signOut (context : Option Context) (user : Text)
  | advance (milliseconds : Nat)
  | raise (signals : List Signal)

def Step.previous? : Step → Option Text
  | .newPair _ _ previous _ _ => some previous
  | _ => none

/-- A step with its answer and the worlds before and after it. -/
structure Moment where
  before : World
  step : Step
  answer : Answer
  after : World

/-- The identifier that was drawn in a step. -/
def Moment.minted? (moment : Moment) : Option TokenId :=
  if moment.after.tokensDrawn = moment.before.tokensDrawn then none else some moment.before.nextId

/-- The world in which something happens while an entry is registered. -/
def World.disturbed (world : World) (elapsed : Nat) (raised : List Signal) : World :=
  { world with duringPut := ⟨elapsed, raised⟩ }

namespace TokenService

open Call

variable (service : TokenService)

def perform (step : Step) (world : World) : Answer × World :=
  match step with
  | .newPair context user previous elapsed raised =>
      (runIn (service.newPair context user previous) (world.disturbed elapsed raised)).map .pair id
  | .validateIdentity context token =>
      (runIn (service.validateIdentity context token) world).map .identity id
  | .validateRefresh context token =>
      (runIn (service.validateRefresh context token) world).map .refresh id
  | .signOut context user => (runIn (service.signOut context user) world).map .signedOut id
  | .advance milliseconds => (.done, world.advance milliseconds)
  | .raise signals => (.done, { world with raised := signals ++ world.raised })

def moment (step : Step) (world : World) : Moment :=
  ⟨world, step, (service.perform step world).1, (service.perform step world).2⟩

def worldAfter (start : World) (steps : List Step) : World :=
  steps.foldl (fun world step => (service.perform step world).2) start

def history : World → List Step → List Moment
  | _, [] => []
  | world, step :: rest =>
      service.moment step world :: history (service.perform step world).2 rest

@[simp]
theorem worldAfter_append_singleton (start : World) (steps : List Step) (step : Step) :
    service.worldAfter start (steps ++ [step]) =
      (service.perform step (service.worldAfter start steps)).2 := by
  unfold worldAfter
  rw [List.foldl_append]
  rfl

theorem history_append (start : World) (steps later : List Step) :
    service.history start (steps ++ later) =
      service.history start steps ++ service.history (service.worldAfter start steps) later := by
  induction steps generalizing start with
  | nil => rfl
  | cons first rest inductionHypothesis =>
      rw [List.cons_append, history, inductionHypothesis]
      rfl

@[simp]
theorem history_append_singleton (start : World) (steps : List Step) (step : Step) :
    service.history start (steps ++ [step]) =
      service.history start steps ++ [service.moment step (service.worldAfter start steps)] :=
  service.history_append start steps [step]

end TokenService

end TokenAuthority
