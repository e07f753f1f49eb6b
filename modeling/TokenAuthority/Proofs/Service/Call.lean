import TokenAuthority.Service.World

/-!
Running calls.

`Call.runIn` tells the outcome of a call in a world together with the world that it leaves behind.
Its equations take a composed call apart step by step, so that what a call does is computed from
what its parts do.
-/

namespace TokenAuthority

/-! ### Steps that may fail -/

section Steps

variable {ε α β : Type} {first : Except ε α} {next : α → Except ε β}

@[simp]
theorem ok_bind (value : α) (next : α → Except ε β) : (Except.ok value >>= next) = next value := rfl

/-- What is computed by parts is computed only if its first part is. -/
theorem exists_of_bind_eq_ok {result : β} (computed : (first >>= next) = .ok result) :
    ∃ value, first = .ok value ∧ next value = .ok result := by
  cases first with
  | error failure => cases computed
  | ok value => exact ⟨value, rfl, computed⟩

/-- What is computed by parts fails with the first part or after it. -/
theorem of_bind_eq_error {failure : ε} (failed : (first >>= next) = .error failure) :
    first = .error failure ∨ ∃ value, first = .ok value ∧ next value = .error failure := by
  cases first with
  | error earlier =>
      cases failed
      exact .inl rfl
  | ok value => exact .inr ⟨value, rfl, failed⟩

theorem bind_eq_error_iff {failure : ε} :
    (first >>= next) = .error failure ↔
      first = .error failure ∨ ∃ value, first = .ok value ∧ next value = .error failure := by
  refine ⟨of_bind_eq_error, ?_⟩
  rintro (rfl | ⟨value, rfl, failed⟩)
  · rfl
  · exact failed

theorem exists_of_mapError_eq_error {δ : Type} {told : ε → δ} {failure : δ}
    (failed : first.mapError told = .error failure) :
    ∃ earlier, first = .error earlier ∧ failure = told earlier := by
  cases first with
  | error earlier => exact ⟨earlier, rfl, (Except.error.inj failed).symm⟩
  | ok value => cases failed

theorem of_mapError_eq_ok {δ : Type} {told : ε → δ} {value : α}
    (computed : first.mapError told = .ok value) : first = .ok value := by
  cases first with
  | error earlier => cases computed
  | ok other => exact congrArg Except.ok (Except.ok.inj computed)

theorem eq_ok_of_toOption {value : α} (computed : first.toOption = some value) :
    first = .ok value := by
  cases first with
  | error failure => cases computed
  | ok other => exact congrArg Except.ok (Option.some.inj computed)

end Steps

namespace World

def withReports (world : World) (reports : List Log.Event) : World :=
  { world with reports }

variable (world : World) (reports later : List Log.Event)

@[simp]
theorem withReports_reports : world.withReports world.reports = world := rfl

@[simp]
theorem withReports_withReports :
    (world.withReports reports).withReports later = world.withReports later := rfl

@[simp]
theorem clock_withReports : (world.withReports reports).clock = world.clock := rfl

@[simp]
theorem store_withReports : (world.withReports reports).store = world.store := rfl

end World

namespace Call

variable {α β : Type}

/-- The outcome of a call in a world, and the world that the call leaves behind. -/
def runIn (call : Call α) (world : World) : Except Failure α × World :=
  call.run.run world

@[simp]
theorem runIn_pure (value : α) (world : World) :
    runIn (pure value) world = (.ok value, world) := rfl

@[simp]
theorem runIn_throw (failure : Failure) (world : World) :
    runIn (throw failure : Call α) world = (.error failure, world) := rfl

@[simp]
theorem runIn_fail (error : ServiceError) (world : World) :
    runIn (fail error : Call α) world = (.error (.service error), world) := rfl

@[simp]
theorem runIn_get (world : World) : runIn get world = (.ok world, world) := rfl

@[simp]
theorem runIn_modify (change : World → World) (world : World) :
    runIn (modify change) world = (.ok (), change world) := rfl

@[simp]
theorem runIn_report (event : Log.Event) (world : World) :
    runIn (report event) world = (.ok (), world.report event) := rfl

@[simp]
theorem runIn_ofKey_ok (value : α) (world : World) :
    runIn (ofKey (.ok value)) world = (.ok value, world) := rfl

@[simp]
theorem runIn_ofKey_error (error : StoreKey.PartError) (world : World) :
    runIn (ofKey (.error error) : Call α) world = (.error (.keyPart error), world) := rfl

/-- A call goes on with the value of its first part, or ends where that part fails. -/
theorem runIn_bind (call : Call α) (next : α → Call β) (world : World) :
    runIn (call >>= next) world =
      match runIn call world with
      | (.ok value, after) => runIn (next value) after
      | (.error failure, after) => (.error failure, after) := by
  unfold runIn
  rw [ExceptT.run_bind, StateT.run_bind]
  cases call.run.run world with
  | mk outcome after => cases outcome <;> rfl

theorem runIn_bind_of_ok {call : Call α} {world after : World} {value : α}
    (ran : runIn call world = (.ok value, after)) (next : α → Call β) :
    runIn (call >>= next) world = runIn (next value) after := by
  rw [runIn_bind, ran]

theorem runIn_bind_of_error {call : Call α} {world after : World} {failure : Failure}
    (ran : runIn call world = (.error failure, after)) (next : α → Call β) :
    runIn (call >>= next) world = (.error failure, after) := by
  rw [runIn_bind, ran]

/-- A handler runs in the world that the failed call leaves behind. -/
theorem runIn_tryCatch (call : Call α) (handle : Failure → Call α) (world : World) :
    runIn (tryCatch call handle) world =
      match runIn call world with
      | (.ok value, after) => (.ok value, after)
      | (.error failure, after) => runIn (handle failure) after := by
  unfold runIn
  rw [ExceptT.run_tryCatch, StateT.run_bind]
  cases call.run.run world with
  | mk outcome after => cases outcome <;> rfl

end Call

end TokenAuthority
