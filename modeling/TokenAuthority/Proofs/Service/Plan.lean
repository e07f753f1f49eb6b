import TokenAuthority.Proofs.Service.StoreAccess

/-!
Calls as plans of commands to the store.

A plan shows where a call turns to the store.  It is built from steps that leave the store alone
and from commands, in sequence and with handlers; what it does is the call that it runs, and its
trace lists the commands that it issues, each with the world in which it is issued.  A plan whose
trace is empty runs in the same way whatever the store holds, and leaves the store as it was.
-/

namespace TokenAuthority

/-- A relation between the worlds before and after a call that neither the store nor reports nor
drawn identifiers of tokens make a difference to. -/
structure World.IsKept (relation : World → World → Prop) : Prop where
  trans {first second third : World} (left : relation first second)
    (right : relation second third) : relation first third
  same (world : World) (store : Store) (reports : List Log.Event) (drawn : Nat) :
    relation world { world with store, reports, tokensDrawn := drawn }

theorem World.IsKept.refl {relation : World → World → Prop} (kept : World.IsKept relation)
    (world : World) : relation world world :=
  kept.same world world.store world.reports world.tokensDrawn

theorem World.IsKept.withReports {relation : World → World → Prop} (kept : World.IsKept relation)
    (world : World) (reports : List Log.Event) : relation world (world.withReports reports) :=
  kept.same world world.store reports world.tokensDrawn

namespace Call

variable {α β : Type}

/-! ### Calls that leave the store alone -/

/-- Whether a call leaves the store alone in a world: whatever the store holds, it has the same
outcome, and it changes nothing but the reports and the count of drawn identifiers. -/
def IsQuietIn (call : Call α) (world : World) : Prop :=
  ∃ outcome reports drawn, ∀ store, runIn call { world with store } =
    (outcome, { world with store, reports, tokensDrawn := drawn })

def IsQuiet (call : Call α) : Prop :=
  ∀ world, call.IsQuietIn world

theorem isQuiet_pure (value : α) : IsQuiet (pure value) :=
  fun world => ⟨.ok value, world.reports, world.tokensDrawn, fun _ => rfl⟩

theorem isQuiet_throw (failure : Failure) : IsQuiet (throw failure : Call α) :=
  fun world => ⟨.error failure, world.reports, world.tokensDrawn, fun _ => rfl⟩

theorem isQuiet_fail (error : ServiceError) : IsQuiet (fail error : Call α) :=
  isQuiet_throw (.service error)

theorem isQuiet_report (event : Log.Event) : IsQuiet (report event) :=
  fun world => ⟨.ok (), event :: world.reports, world.tokensDrawn, fun _ => rfl⟩

theorem isQuiet_drawTokenId : IsQuiet drawTokenId :=
  fun world => ⟨.ok (world.ids.token world.tokensDrawn), world.reports, world.tokensDrawn + 1,
    fun _ => rfl⟩

/-- A call may look at all of the world but the store. -/
theorem isQuiet_get_bind {next : World → Call α} (quiet : ∀ world, IsQuiet (next world))
    (blind : ∀ world store, next { world with store } = next world) :
    IsQuiet (get >>= next) := by
  intro world
  obtain ⟨outcome, reports, drawn, ran⟩ := quiet world world
  refine ⟨outcome, reports, drawn, ?_⟩
  intro store
  rw [runIn_bind_of_ok (runIn_get _), blind]
  exact ran store

theorem IsQuietIn.bind {call : Call α} {next : α → Call β} {world : World}
    (first : call.IsQuietIn world)
    (rest : ∀ value after, runIn call world = (.ok value, after) → (next value).IsQuietIn after) :
    (call >>= next).IsQuietIn world := by
  obtain ⟨outcome, reports, drawn, ran⟩ := first
  cases outcome with
  | error failure =>
      refine ⟨.error failure, reports, drawn, ?_⟩
      intro store
      rw [runIn_bind_of_error (ran store)]
  | ok value =>
      obtain ⟨result, later, laterDrawn, ranAfter⟩ := rest value _ (ran world.store)
      refine ⟨result, later, laterDrawn, ?_⟩
      intro store
      rw [runIn_bind_of_ok (ran store)]
      exact ranAfter store

theorem IsQuietIn.tryCatch {call : Call α} {handle : Failure → Call α} {world : World}
    (body : call.IsQuietIn world)
    (handler : ∀ failure after, runIn call world = (.error failure, after) →
      (handle failure).IsQuietIn after) :
    IsQuietIn (MonadExcept.tryCatch call handle) world := by
  obtain ⟨outcome, reports, drawn, ran⟩ := body
  cases outcome with
  | ok value =>
      refine ⟨.ok value, reports, drawn, ?_⟩
      intro store
      rw [runIn_tryCatch, ran store]
  | error failure =>
      obtain ⟨result, later, laterDrawn, ranAfter⟩ := handler failure _ (ran world.store)
      refine ⟨result, later, laterDrawn, ?_⟩
      intro store
      rw [runIn_tryCatch, ran store]
      exact ranAfter store

theorem IsQuiet.bind {call : Call α} {next : α → Call β} (first : call.IsQuiet)
    (rest : ∀ value, (next value).IsQuiet) : IsQuiet (call >>= next) :=
  fun world => (first world).bind fun value after _ => rest value after

theorem IsQuiet.tryCatch {call : Call α} {handle : Failure → Call α} (body : call.IsQuiet)
    (handler : ∀ failure, (handle failure).IsQuiet) :
    IsQuiet (MonadExcept.tryCatch call handle) :=
  fun world => (body world).tryCatch fun failure after _ => handler failure after

/-- What a call leaves behind that leaves the store alone. -/
theorem IsQuietIn.exists_eq {call : Call α} {world after : World} {outcome : Except Failure α}
    (quiet : call.IsQuietIn world) (ran : runIn call world = (outcome, after)) :
    ∃ reports drawn, after = { world with reports, tokensDrawn := drawn } := by
  obtain ⟨result, reports, drawn, leaves⟩ := quiet
  exact ⟨reports, drawn, congrArg Prod.snd (ran.symm.trans (leaves world.store))⟩

/-! ### What calls keep -/

/-- Whether a call always leaves a world behind that is in a relation with the one before. -/
def Keeps (relation : World → World → Prop) (call : Call α) : Prop :=
  ∀ world, relation world (runIn call world).2

section Keeping

variable {relation : World → World → Prop} (kept : World.IsKept relation)

include kept

theorem IsQuiet.keeps {call : Call α} (quiet : call.IsQuiet) : call.Keeps relation := by
  intro world
  cases ran : runIn call world with
  | mk outcome after =>
      obtain ⟨reports, drawn, rfl⟩ := (quiet world).exists_eq ran
      exact kept.same world world.store reports drawn

theorem keeps_get : Keeps relation get :=
  fun world => kept.refl world

theorem keeps_fail (error : ServiceError) : Keeps relation (fail error : Call α) :=
  (isQuiet_fail error).keeps kept

theorem keeps_ofKey (result : Except StoreKey.PartError α) : Keeps relation (ofKey result) := by
  cases result with
  | ok value => exact (isQuiet_pure value).keeps kept
  | error error => exact (isQuiet_throw _).keeps kept

theorem keeps_encode (text : Text) : Keeps relation (encode text) := by
  unfold encode
  split
  · exact (isQuiet_pure ()).keeps kept
  · exact (isQuiet_throw _).keeps kept

theorem Keeps.bind {call : Call α} {next : α → Call β} (first : call.Keeps relation)
    (rest : ∀ value, (next value).Keeps relation) : Keeps relation (call >>= next) := by
  intro world
  rw [runIn_bind]
  have reached := first world
  split
  · next value after ran =>
      rw [ran] at reached
      exact kept.trans reached (rest value after)
  · next failure after ran =>
      rw [ran] at reached
      exact reached

theorem Keeps.tryCatch {call : Call α} {handle : Failure → Call α} (body : call.Keeps relation)
    (handler : ∀ failure, (handle failure).Keeps relation) :
    Keeps relation (MonadExcept.tryCatch call handle) := by
  intro world
  rw [runIn_tryCatch]
  have reached := body world
  split
  · next value after ran =>
      rw [ran] at reached
      exact reached
  · next failure after ran =>
      rw [ran] at reached
      exact kept.trans reached (handler failure after)

omit kept in
theorem Keeps.ite {condition : Prop} [Decidable condition] {first second : Call α}
    (positive : first.Keeps relation) (negative : second.Keeps relation) :
    Keeps relation (if condition then first else second) := by
  split
  · exact positive
  · exact negative

end Keeping

end Call

namespace StoreAccess

open Call

theorem isQuiet_reportFailure (message : String) (about : List (Text × Json)) :
    IsQuiet (reportFailure message about) :=
  isQuiet_report _

theorem isQuiet_reportSweep (user : Text) (failed : Nat) : IsQuiet (reportSweep user failed) := by
  induction failed with
  | zero => exact isQuiet_pure ()
  | succ failed inductionHypothesis =>
      unfold reportSweep
      exact (isQuiet_reportFailure _ _).bind fun _ => inductionHypothesis

section Keeping

variable {relation : World → World → Prop} (kept : World.IsKept relation)

include kept

theorem keeps_setStore (store : Store) : Keeps relation (setStore store) :=
  fun world => kept.same world store world.reports world.tokensDrawn

/-- A fault is reported, and the access goes on. -/
theorem keeps_reportFailure_bind {α : Type} (message : String) (about : List (Text × Json))
    {next : Unit → Call α} (rest : (next ()).Keeps relation) :
    Keeps relation (reportFailure message about >>= next) :=
  ((isQuiet_reportFailure message about).keeps kept).bind kept fun _ => rest

/-- Registering keeps what is kept by what happens meanwhile. -/
theorem keeps_put (disturbs : Keeps relation (modify disturb)) (user token : Text)
    (lifetime : Int) : Keeps relation (put user token lifetime) := by
  unfold put
  apply (keeps_get kept).bind kept
  intro world
  cases world.store with
  | memory store =>
      apply Keeps.ite
      · exact (keeps_fail kept _).bind kept fun _ => disturbs
      · apply (keeps_ofKey kept _).bind kept
        intro registered
        exact (keeps_setStore kept _).bind kept fun _ => disturbs
  | remote server =>
      apply (keeps_ofKey kept _).bind kept
      intro key
      apply Keeps.ite
      · apply keeps_reportFailure_bind kept
        exact (keeps_fail kept _).bind kept fun _ => disturbs
      · apply (keeps_encode kept key).bind kept
        intro _
        exact (keeps_setStore kept _).bind kept fun _ => disturbs

theorem keeps_delete (user token : Text) : Keeps relation (delete user token) := by
  unfold delete
  apply (keeps_get kept).bind kept
  intro world
  cases world.store with
  | memory store =>
      apply Keeps.ite
      · exact keeps_fail kept _
      · apply (keeps_ofKey kept _).bind kept
        intro removed
        exact (keeps_setStore kept _).bind kept fun _ => (isQuiet_pure _).keeps kept
  | remote server =>
      apply (keeps_ofKey kept _).bind kept
      intro key
      apply Keeps.ite
      · apply keeps_reportFailure_bind kept
        exact keeps_fail kept _
      · apply (keeps_encode kept key).bind kept
        intro _
        exact (keeps_setStore kept _).bind kept fun _ => (isQuiet_pure _).keeps kept

theorem keeps_scanFailed {α : Type} (user : Text) (removed : Nat) :
    Keeps relation (scanFailed user removed : Call α) := by
  unfold scanFailed
  apply keeps_reportFailure_bind kept
  exact keeps_fail kept _

theorem keeps_sweepRemote (user pattern : Text) (server : KeyServer) :
    Keeps relation (sweepRemote user pattern server) := by
  unfold sweepRemote
  apply (keeps_get kept).bind kept
  intro world
  apply (keeps_encode kept pattern).bind kept
  intro _
  apply (keeps_setStore kept _).bind kept
  intro _
  apply ((isQuiet_reportSweep _ _).keeps kept).bind kept
  intro _
  apply Keeps.ite
  · exact (isQuiet_throw _).keeps kept
  · apply (keeps_scanFailed kept user _).ite
    exact ((isQuiet_pure _).keeps kept).ite (keeps_fail kept _)

theorem keeps_deleteAll (user : Text) : Keeps relation (deleteAll user) := by
  unfold deleteAll
  apply (keeps_get kept).bind kept
  intro world
  cases world.store with
  | memory store =>
      apply (keeps_ofKey kept _).bind kept
      intro removed
      exact (keeps_setStore kept _).bind kept fun _ => (isQuiet_pure _).keeps kept
  | remote server =>
      apply (keeps_ofKey kept _).bind kept
      intro start
      exact (keeps_scanFailed kept user 0).ite (keeps_sweepRemote kept user _ server)

end Keeping

end StoreAccess

/-! ### Plans -/

/-- A command to the store. -/
inductive StoreCommand where
  | put (user token : Text) (lifetime : Int)
  /-- The removal of a previous token. -/
  | consume (user token : Text)
  /-- The removal of a token that was registered in vain. -/
  | rollBack (user token : Text)
  | revokeAll (user : Text)
deriving DecidableEq, Repr

namespace StoreCommand

open Call

def Answer : StoreCommand → Type
  | .put .. => Unit
  | .consume .. | .rollBack .. | .revokeAll .. => Nat

def perform : (command : StoreCommand) → Call command.Answer
  | .put user token lifetime => StoreAccess.put user token lifetime
  | .consume user token => StoreAccess.delete user token
  | .rollBack user token => StoreAccess.delete user token
  | .revokeAll user => StoreAccess.deleteAll user

/-- Whether a command takes back what an earlier one of the same call did. -/
def isRollBack : StoreCommand → Bool
  | .rollBack .. => true
  | .put .. | .consume .. | .revokeAll .. => false

theorem keeps_perform {relation : World → World → Prop} (kept : World.IsKept relation)
    (disturbs : Keeps relation (modify StoreAccess.disturb)) (command : StoreCommand) :
    command.perform.Keeps relation := by
  cases command with
  | put user token lifetime => exact StoreAccess.keeps_put kept disturbs user token lifetime
  | consume user token => exact StoreAccess.keeps_delete kept user token
  | rollBack user token => exact StoreAccess.keeps_delete kept user token
  | revokeAll user => exact StoreAccess.keeps_deleteAll kept user

end StoreCommand

/-- A call, taken apart into the commands that it gives to the store and the steps between them. -/
inductive Plan : Type → Type 1 where
  | step {α : Type} (call : Call α) (quiet : call.IsQuiet) : Plan α
  | issue (command : StoreCommand) : Plan command.Answer
  | bind {α β : Type} (first : Plan α) (next : α → Plan β) : Plan β
  | handle {α : Type} (body : Plan α) (handler : Failure → Plan α) : Plan α

/-- A command with the world in which it is issued. -/
structure IssuedCommand where
  command : StoreCommand
  world : World

namespace Plan

open Call

variable {α β : Type}

instance : Monad Plan where
  pure value := .step (pure value) (isQuiet_pure value)
  bind := .bind

def run : {α : Type} → Plan α → Call α
  | _, .step call _ => call
  | _, .issue command => command.perform
  | _, .bind first next => first.run >>= fun value => (next value).run
  | _, .handle body handler => MonadExcept.tryCatch body.run fun failure => (handler failure).run

/-- What is issued after a part has succeeded. -/
def afterSuccess (ran : Except Failure α × World) (next : α → World → List IssuedCommand) :
    List IssuedCommand :=
  match ran with
  | (.ok value, after) => next value after
  | (.error _, _) => []

/-- What is issued after a part has failed. -/
def afterFailure (ran : Except Failure α × World) (next : Failure → World → List IssuedCommand) :
    List IssuedCommand :=
  match ran with
  | (.ok _, _) => []
  | (.error failure, after) => next failure after

/-- The commands that a plan issues in a world, in their order. -/
def trace : {α : Type} → Plan α → World → List IssuedCommand
  | _, .step _ _, _ => []
  | _, .issue command, world => [⟨command, world⟩]
  | _, .bind first next, world =>
      first.trace world ++ afterSuccess (runIn first.run world) fun value => (next value).trace
  | _, .handle body handler, world =>
      body.trace world ++
        afterFailure (runIn body.run world) fun failure => (handler failure).trace

@[simp]
theorem run_step (call : Call α) (quiet : call.IsQuiet) : (step call quiet).run = call := rfl

@[simp]
theorem run_bind (first : Plan α) (next : α → Plan β) :
    (first.bind next).run = first.run >>= fun value => (next value).run := rfl

@[simp]
theorem trace_step (call : Call α) (quiet : call.IsQuiet) (world : World) :
    (step call quiet).trace world = [] := rfl

theorem trace_bind (first : Plan α) (next : α → Plan β) (world : World) :
    (first.bind next).trace world =
      first.trace world ++ afterSuccess (runIn first.run world) fun value => (next value).trace :=
  rfl

theorem trace_handle (body : Plan α) (handler : Failure → Plan α) (world : World) :
    (body.handle handler).trace world =
      body.trace world ++
        afterFailure (runIn body.run world) fun failure => (handler failure).trace :=
  rfl

theorem mem_afterSuccess_iff {ran : Except Failure α × World}
    {next : α → World → List IssuedCommand} {issued : IssuedCommand} :
    issued ∈ afterSuccess ran next ↔
      ∃ value after, ran = (.ok value, after) ∧ issued ∈ next value after := by
  obtain ⟨outcome, after⟩ := ran
  cases outcome <;> simp [afterSuccess]

theorem mem_afterFailure_iff {ran : Except Failure α × World}
    {next : Failure → World → List IssuedCommand} {issued : IssuedCommand} :
    issued ∈ afterFailure ran next ↔
      ∃ failure after, ran = (.error failure, after) ∧ issued ∈ next failure after := by
  obtain ⟨outcome, after⟩ := ran
  cases outcome <;> simp [afterFailure]

theorem mem_trace_bind_iff {first : Plan α} {next : α → Plan β} {world : World}
    {issued : IssuedCommand} :
    issued ∈ (first.bind next).trace world ↔
      issued ∈ first.trace world ∨
        ∃ value after, runIn first.run world = (.ok value, after) ∧
          issued ∈ (next value).trace after := by
  rw [trace_bind, List.mem_append, mem_afterSuccess_iff]

theorem mem_trace_handle_iff {body : Plan α} {handler : Failure → Plan α} {world : World}
    {issued : IssuedCommand} :
    issued ∈ (body.handle handler).trace world ↔
      issued ∈ body.trace world ∨
        ∃ failure after, runIn body.run world = (.error failure, after) ∧
          issued ∈ (handler failure).trace after := by
  rw [trace_handle, List.mem_append, mem_afterFailure_iff]

/-- A plan that issues no command leaves the store alone. -/
theorem isQuietIn_of_trace_eq_nil {plan : Plan α} {world : World}
    (untouched : plan.trace world = []) : plan.run.IsQuietIn world := by
  induction plan generalizing world with
  | step call quiet => exact quiet world
  | issue command => cases untouched
  | bind first next firstHypothesis nextHypothesis =>
      rw [trace_bind] at untouched
      obtain ⟨noneFirst, noneNext⟩ := List.append_eq_nil_iff.mp untouched
      apply (firstHypothesis noneFirst).bind
      intro value after ran
      rw [ran] at noneNext
      exact nextHypothesis value noneNext
  | handle body handler bodyHypothesis handlerHypothesis =>
      rw [trace_handle] at untouched
      obtain ⟨noneBody, noneHandler⟩ := List.append_eq_nil_iff.mp untouched
      apply (bodyHypothesis noneBody).tryCatch
      intro failure after ran
      rw [ran] at noneHandler
      exact handlerHypothesis failure noneHandler

/-- A plan keeps what its commands keep. -/
theorem keeps_run {relation : World → World → Prop} (kept : World.IsKept relation)
    (disturbs : Keeps relation (modify StoreAccess.disturb)) (plan : Plan α) :
    plan.run.Keeps relation := by
  induction plan with
  | step call quiet => exact quiet.keeps kept
  | issue command => exact command.keeps_perform kept disturbs
  | bind first next firstHypothesis nextHypothesis =>
      exact firstHypothesis.bind kept nextHypothesis
  | handle body handler bodyHypothesis handlerHypothesis =>
      exact bodyHypothesis.tryCatch kept handlerHypothesis

/-! ### Guarded plans -/

/-- Whether a plan issues no command but to roll back while a context has expired. -/
def IsGuardedIn (plan : Plan α) (context : Context) (world : World) : Prop :=
  ∀ issued ∈ plan.trace world, issued.command.isRollBack = false →
    context.hasExpired issued.world.clock issued.world.raised = false

theorem isGuardedIn_step (call : Call α) (quiet : call.IsQuiet) (context : Context)
    (world : World) : (step call quiet).IsGuardedIn context world := by
  intro issued membership
  cases membership

theorem isGuardedIn_issue {context : Context} {world : World}
    (active : context.hasExpired world.clock world.raised = false) (command : StoreCommand) :
    (issue command).IsGuardedIn context world := by
  intro issued membership _
  cases List.mem_singleton.mp membership
  exact active

theorem isGuardedIn_issue_rollBack (user token : Text) (context : Context) (world : World) :
    (issue (.rollBack user token)).IsGuardedIn context world := by
  intro issued membership forward
  cases List.mem_singleton.mp membership
  cases forward

theorem IsGuardedIn.bind {first : Plan α} {next : α → Plan β} {context : Context} {world : World}
    (guarded : first.IsGuardedIn context world)
    (rest : ∀ value after, runIn first.run world = (.ok value, after) →
      (next value).IsGuardedIn context after) :
    (first.bind next).IsGuardedIn context world := by
  intro issued membership
  rcases mem_trace_bind_iff.mp membership with early | ⟨value, after, ran, late⟩
  · exact guarded issued early
  · exact rest value after ran issued late

theorem IsGuardedIn.handle {body : Plan α} {handler : Failure → Plan α} {context : Context}
    {world : World} (guarded : body.IsGuardedIn context world)
    (rest : ∀ failure after, runIn body.run world = (.error failure, after) →
      (handler failure).IsGuardedIn context after) :
    (body.handle handler).IsGuardedIn context world := by
  intro issued membership
  rcases mem_trace_handle_iff.mp membership with early | ⟨failure, after, ran, late⟩
  · exact guarded issued early
  · exact rest failure after ran issued late

/-! ### Plans that fail early -/

/-- Whether a plan fails before it issues a command. -/
def FailsIdle (plan : Plan α) (world : World) : Prop :=
  plan.trace world = [] ∧ ∃ failure, (runIn plan.run world).1 = .error failure

theorem failsIdle_step {call : Call α} (quiet : call.IsQuiet) {world after : World}
    {failure : Failure} (ran : runIn call world = (.error failure, after)) :
    (step call quiet).FailsIdle world :=
  ⟨rfl, failure, congrArg Prod.fst ran⟩

theorem FailsIdle.bind {first : Plan α} {world : World} (fails : first.FailsIdle world)
    (next : α → Plan β) : (first.bind next).FailsIdle world := by
  obtain ⟨untouched, failure, failed⟩ := fails
  cases ran : runIn first.run world with
  | mk outcome after =>
      rw [ran] at failed
      cases failed
      refine ⟨?_, failure, ?_⟩
      · rw [trace_bind, untouched, ran]
        rfl
      · rw [run_bind, runIn_bind_of_error ran]

/-- A plan that begins with a step fails with the step or after it. -/
theorem failsIdle_step_bind {call : Call α} (quiet : call.IsQuiet) {next : α → Plan β}
    {world : World}
    (rest : ∀ value after, runIn call world = (.ok value, after) → (next value).FailsIdle after) :
    ((step call quiet).bind next).FailsIdle world := by
  cases ran : runIn call world with
  | mk outcome after =>
      cases outcome with
      | error failure => exact (failsIdle_step quiet ran).bind next
      | ok value =>
          obtain ⟨untouched, failure, failed⟩ := rest value after ran
          refine ⟨?_, failure, ?_⟩
          · rw [trace_bind, trace_step, run_step, ran]
            exact untouched
          · rw [run_bind, run_step, runIn_bind_of_ok ran]
            exact failed

end Plan

end TokenAuthority
