import DiskServer.Library.Autocommit
import DiskServer.Library.Transaction

/-
This file gives transactions whose statements and commit may fail and the rules that relate them to
the all-or-nothing programs that they carry out.
-/

namespace DiskServer.Library

/-- What an open transaction has written, and whether one of its statements has failed. -/
structure Session (State : Type) where
  state : State
  broken : Bool
  issued : Nat

/-- A callback that stops returns the failure of a check, or an exception leaves it. -/
inductive Stop (Failure : Type) where
  | refused (failure : Failure)
  | exception
  deriving Repr, DecidableEq

/-- The callback of a transaction. The faults say which of the statements fail that it issues. -/
abbrev Callback (State Failure Value : Type) :=
  ReaderT (Nat → Bool) (ExceptT (Stop Failure) (StateM (Session State))) Value

namespace Callback

variable {State Failure Value Result Item : Type}

def outcome (callback : Callback State Failure Value) (faults : Nat → Bool) (session : Session State) :
    Except (Stop Failure) Value × Session State :=
  Autocommit.outcome (callback faults) session

/-- A statement that fails breaks the session, and a broken session executes nothing more. -/
def statement (effect : Transaction State Failure Value) : Callback State Failure Value :=
  fun faults => ExceptT.mk fun session =>
    let failed : Session State := ⟨session.state, true, session.issued + 1⟩
    if session.broken || faults session.issued then
      (.error .exception, failed)
    else
      match effect.run session.state with
      | .ok (value, state) => (.ok value, ⟨state, false, session.issued + 1⟩)
      | .error _ => (.error .exception, failed)

/-- A statement that only reads. -/
def query (read : State → Value) : Callback State Failure Value :=
  statement fun state => .ok (read state, state)

def refuse (failure : Failure) : Callback State Failure Value := throw (.refused failure)

def exception : Callback State Failure Value := throw .exception

/-- An exception becomes a value, and the caller learns nothing else of it. -/
def swallowing (fallback : Value) (callback : Callback State Failure Value) :
    Callback State Failure Value :=
  fun faults => ExceptT.mk fun session =>
    match outcome callback faults session with
    | (.error .exception, middle) => (.ok fallback, middle)
    | other => other

/-- An exception becomes the failure of a check. -/
def converting (failure : Failure) (callback : Callback State Failure Value) :
    Callback State Failure Value :=
  fun faults => ExceptT.mk fun session =>
    match outcome callback faults session with
    | (.error .exception, middle) => (.error (.refused failure), middle)
    | other => other

/-- How a commit ends: it succeeds, the database refuses it, or its answer is lost. -/
inductive CommitAnswer where
  | done
  | refused
  | lost
  deriving Repr, DecidableEq

/-- Everything outside the program that can go wrong with a transaction. -/
structure Weather where
  begins : Bool
  faults : Nat → Bool
  commit : CommitAnswer

/-- The result of a transaction, the state behind it and whether it has been committed. -/
structure Ended (State Failure Value : Type) where
  result : Except Failure Value
  state : State
  committed : Bool

/-- The commit of a broken session is a rollback, whatever it answers. -/
def commit (answer : CommitAnswer) (defaultError : Failure) (value : Value) (before : State)
    (session : Session State) : Ended State Failure Value :=
  if session.broken then
    ⟨if answer = .done then .ok value else .error defaultError, before, false⟩
  else
    match answer with
    | .done => ⟨.ok value, session.state, true⟩
    | .refused => ⟨.error defaultError, before, false⟩
    | .lost => ⟨.error defaultError, session.state, true⟩

/-- The runner rolls back when the callback stops, and it commits otherwise. -/
def run (weather : Weather) (defaultError : Failure) (callback : Callback State Failure Value)
    (before : State) : Ended State Failure Value :=
  if weather.begins then
    match outcome callback weather.faults ⟨before, false, 0⟩ with
    | (.error (.refused failure), _) => ⟨.error failure, before, false⟩
    | (.error .exception, _) => ⟨.error defaultError, before, false⟩
    | (.ok value, session) => commit weather.commit defaultError value before session
  else
    ⟨.error defaultError, before, false⟩

/-- A callback that ends without an error has done what the program does, and no statement failed on
the way. Otherwise a statement failed, or the program fails as well. -/
def Realizes (faults : Nat → Bool) (callback : Callback State Failure Value)
    (program : Transaction State Failure Value) (before : State) : Prop :=
  ∀ issued, match outcome callback faults ⟨before, false, issued⟩ with
    | (.ok value, session) => session.broken = false ∧ program.run before = .ok (value, session.state)
    | (.error _, _) => (∃ number, faults number = true) ∨ ∃ failure, program.run before = .error failure

section Outcomes

variable (faults : Nat → Bool) (session : Session State)

theorem outcome_statement (effect : Transaction State Failure Value) :
    outcome (statement effect) faults session =
      if session.broken || faults session.issued then
        (.error .exception, ⟨session.state, true, session.issued + 1⟩)
      else
        match effect.run session.state with
        | .ok (value, state) => (.ok value, ⟨state, false, session.issued + 1⟩)
        | .error _ => (.error .exception, ⟨session.state, true, session.issued + 1⟩) := rfl

theorem outcome_bind (callback : Callback State Failure Value)
    (next : Value → Callback State Failure Result) :
    outcome (callback >>= next) faults session =
      match outcome callback faults session with
      | (.ok value, middle) => outcome (next value) faults middle
      | (.error stop, middle) => (.error stop, middle) := by
  change Autocommit.outcome (callback faults >>= fun value => next value faults) session = _
  rw [Autocommit.outcome_bind]
  unfold outcome
  rcases Autocommit.outcome (callback faults) session with ⟨stop | value, middle⟩ <;> rfl

theorem outcome_swallowing (fallback : Value) (callback : Callback State Failure Value) :
    outcome (swallowing fallback callback) faults session =
      match outcome callback faults session with
      | (.error .exception, middle) => (.ok fallback, middle)
      | other => other := rfl

theorem outcome_converting (failure : Failure) (callback : Callback State Failure Value) :
    outcome (converting failure callback) faults session =
      match outcome callback faults session with
      | (.error .exception, middle) => (.error (.refused failure), middle)
      | other => other := rfl

end Outcomes

section Rules

variable {faults : Nat → Bool} {before : State}

theorem realizes_pure (value : Value) :
    Realizes faults (pure value : Callback State Failure Value) (pure value) before :=
  fun _ => ⟨rfl, rfl⟩

theorem realizes_refuse (failure other : Failure) :
    Realizes faults (refuse failure : Callback State Failure Value) (throw other) before :=
  fun _ => .inr ⟨other, rfl⟩

theorem realizes_exception (other : Failure) :
    Realizes faults (exception : Callback State Failure Value) (throw other) before :=
  fun _ => .inr ⟨other, rfl⟩

theorem realizes_statement (effect : Transaction State Failure Value) :
    Realizes faults (statement effect) effect before := by
  intro issued
  rw [outcome_statement]
  cases faulty : faults issued with
  | true => exact .inl ⟨issued, faulty⟩
  | false =>
      rcases ran : effect.run before with failure | ⟨value, state⟩
      · exact .inr ⟨failure, rfl⟩
      · exact ⟨rfl, rfl⟩

/-- The second callback runs from where the first program ends. -/
theorem realizes_bind {callback : Callback State Failure Value}
    {next : Value → Callback State Failure Result} {program : Transaction State Failure Value}
    {later : Value → Transaction State Failure Result}
    (first : Realizes faults callback program before)
    (second : ∀ value middle, program.run before = .ok (value, middle) →
      Realizes faults (next value) (later value) middle) :
    Realizes faults (callback >>= next) (program >>= later) before := by
  intro issued
  have one := first issued
  rw [outcome_bind, StateT.run_bind]
  rcases ended : outcome callback faults ⟨before, false, issued⟩ with
    ⟨stop | value, ⟨middle, broken, number⟩⟩ <;> rw [ended] at one
  · rcases one with faulty | ⟨failure, failed⟩
    · exact .inl faulty
    · rw [failed]
      exact .inr ⟨failure, rfl⟩
  · obtain ⟨rfl, ran⟩ := one
    rw [ran]
    exact second value middle ran number

/-- A program may be replaced by one that runs alike from the state. -/
theorem Realizes.of_run {callback : Callback State Failure Value}
    {program other : Transaction State Failure Value} (realizes : Realizes faults callback program before)
    (same : other.run before = program.run before) : Realizes faults callback other before := by
  intro issued
  have one := realizes issued
  rw [same]
  exact one

/-- A program may fail with another error, since a callback that stops promises no error. -/
theorem Realizes.of_successes {callback : Callback State Failure Value}
    {program other : Transaction State Failure Value} (realizes : Realizes faults callback program before)
    (same : ∀ value after, program.run before = .ok (value, after) ↔ other.run before = .ok (value, after)) :
    Realizes faults callback other before := by
  intro issued
  have one := realizes issued
  rcases ended : outcome callback faults ⟨before, false, issued⟩ with ⟨stop | value, session⟩ <;>
    rw [ended] at one
  · rcases one with faulty | ⟨failure, failed⟩
    · exact .inl faulty
    · rcases ran : other.run before with different | ⟨value, after⟩
      · exact .inr ⟨different, rfl⟩
      · rw [(same value after).mpr ran] at failed
        cases failed
  · exact ⟨one.1, (same value session.state).mp one.2⟩

/-- What a query has read may be put in its place. -/
theorem realizes_query {read : State → Value} {next : Value → Callback State Failure Result}
    {program : Transaction State Failure Result}
    (rest : Realizes faults (next (read before)) program before) :
    Realizes faults (query read >>= next) program before := by
  have same : program.run before = ((fun state => .ok (read state, state) : Transaction State Failure Value)
      >>= fun _ => program).run before := rfl
  refine Realizes.of_run ?_ same
  apply realizes_bind (realizes_statement _)
  rintro value middle ⟨⟩
  exact rest

/-- A query alone gives what the state holds. -/
theorem realizes_read (read : State → Value) :
    Realizes faults (query read : Callback State Failure Value) (pure (read before)) before :=
  (realizes_statement _).of_run rfl

/-- A program that reads the state first goes on with the state that it runs from. -/
theorem Realizes.of_get {callback : Callback State Failure Result}
    {program : State → Transaction State Failure Result}
    (rest : Realizes faults callback (program before) before) :
    Realizes faults callback (get >>= program) before :=
  rest.of_run rfl

theorem realizes_ite {condition : Prop} [Decidable condition] {one two : Callback State Failure Value}
    {first second : Transaction State Failure Value}
    (positive : condition → Realizes faults one first before)
    (negative : ¬ condition → Realizes faults two second before) :
    Realizes faults (if condition then one else two) (if condition then first else second) before := by
  split
  · rename_i holds
    exact positive holds
  · rename_i fails
    exact negative fails

/-- An exception that becomes the failure of a check still stops the callback. -/
theorem realizes_converting {callback : Callback State Failure Value} {failure : Failure}
    {program : Transaction State Failure Value} (realizes : Realizes faults callback program before) :
    Realizes faults (converting failure callback) program before := by
  intro issued
  have one := realizes issued
  rw [outcome_converting]
  rcases ended : outcome callback faults ⟨before, false, issued⟩ with
    ⟨(other | _) | value, session⟩ <;> rw [ended] at one
  · exact one
  · exact one
  · exact one

/-- A swallowed exception does no harm when the rest refuses the value that it becomes. -/
theorem realizes_swallowing {callback : Callback State Failure Value} {fallback : Value}
    {next : Value → Callback State Failure Result} {program : Transaction State Failure Value}
    {later : Value → Transaction State Failure Result} (failure : Failure)
    (first : Realizes faults callback program before) (checked : next fallback = refuse failure)
    (second : ∀ value middle, program.run before = .ok (value, middle) →
      Realizes faults (next value) (later value) middle) :
    Realizes faults (swallowing fallback callback >>= next) (program >>= later) before := by
  intro issued
  have one := first issued
  rw [outcome_bind, outcome_swallowing, StateT.run_bind]
  rcases ended : outcome callback faults ⟨before, false, issued⟩ with
    ⟨(other | _) | value, ⟨middle, broken, number⟩⟩ <;> rw [ended] at one
  · rcases one with faulty | ⟨stopped, failed⟩
    · exact .inl faulty
    · rw [failed]
      exact .inr ⟨stopped, rfl⟩
  · dsimp only
    rw [checked]
    rcases one with faulty | ⟨stopped, failed⟩
    · exact .inl faulty
    · rw [failed]
      exact .inr ⟨stopped, rfl⟩
  · obtain ⟨rfl, ran⟩ := one
    rw [ran]
    exact second value middle ran number

theorem realizes_forM {body : Item → Callback State Failure PUnit}
    {effect : Item → Transaction State Failure PUnit} {items : List Item}
    (round : ∀ item ∈ items, ∀ state, Realizes faults (body item) (effect item) state) :
    Realizes faults (items.forM body) (items.forM effect) before := by
  induction items generalizing before with
  | nil => exact realizes_pure PUnit.unit
  | cons item rest ih =>
      change Realizes faults (body item >>= fun _ => rest.forM body)
        (effect item >>= fun _ => rest.forM effect) before
      apply realizes_bind (round item List.mem_cons_self before)
      intro _ middle _
      exact ih fun other present => round other (List.mem_cons_of_mem item present)

/-- A callback that changes nothing may stand before any other. -/
theorem realizes_idle {callback : Callback State Failure Value}
    {next : Value → Callback State Failure Result} {program : Transaction State Failure Result}
    {value : Value} (idle : Realizes faults callback (pure value) before)
    (rest : Realizes faults (next value) program before) :
    Realizes faults (callback >>= next) program before := by
  have both : Realizes faults (callback >>= next)
      ((pure value : Transaction State Failure Value) >>= fun _ => program) before := by
    apply realizes_bind idle
    rintro other middle ⟨⟩
    exact rest
  rw [pure_bind] at both
  exact both

theorem realizes_forM_idle {body : Item → Callback State Failure PUnit} {items : List Item}
    (round : ∀ item ∈ items, Realizes faults (body item) (pure PUnit.unit) before) :
    Realizes faults (items.forM body) (pure PUnit.unit) before := by
  induction items with
  | nil => exact realizes_pure PUnit.unit
  | cons item rest ih =>
      change Realizes faults (body item >>= fun _ => rest.forM body) (pure PUnit.unit) before
      apply realizes_idle (round item List.mem_cons_self)
      exact ih fun other present => round other (List.mem_cons_of_mem item present)

theorem realizes_foldlM {body : Value → Item → Callback State Failure Value}
    {effect : Value → Item → Transaction State Failure Value} {items : List Item}
    (round : ∀ item ∈ items, ∀ value state, Realizes faults (body value item) (effect value item) state)
    (start : Value) : Realizes faults (items.foldlM body start) (items.foldlM effect start) before := by
  induction items generalizing before start with
  | nil => exact realizes_pure start
  | cons item rest ih =>
      rw [List.foldlM_cons, List.foldlM_cons]
      apply realizes_bind (round item List.mem_cons_self start before)
      intro value middle _
      exact ih (fun other present => round other (List.mem_cons_of_mem item present)) value

end Rules

/-- A transaction leaves the state as it was or with all of its effects, the second only by a commit,
and it reports a success only behind that commit. -/
structure Atomic (effects : State → Value → State → Prop) (before : State)
    (ended : Ended State Failure Value) : Prop where
  whole : ended.state = before ∨ ended.committed = true ∧ ∃ value, effects before value ended.state
  success : ∀ value, ended.result = .ok value →
    ended.committed = true ∧ effects before value ended.state

theorem Atomic.rolledBack {effects : State → Value → State → Prop} {before : State} (failure : Failure) :
    Atomic effects before (⟨.error failure, before, false⟩ : Ended State Failure Value) where
  whole := .inl rfl
  success value wrong := by cases wrong

theorem Atomic.mono {effects more : State → Value → State → Prop} {before : State}
    {ended : Ended State Failure Value} (atomic : Atomic effects before ended)
    (implied : ∀ value after, effects before value after → more before value after) :
    Atomic more before ended where
  whole := by
    rcases atomic.whole with same | ⟨committed, value, made⟩
    · exact .inl same
    · exact .inr ⟨committed, value, implied value _ made⟩
  success value reported := by
    obtain ⟨committed, made⟩ := atomic.success value reported
    exact ⟨committed, implied value _ made⟩

/-- The effects of a program are the runs of it that succeed. -/
def Effects (program : Transaction State Failure Value) (before : State) (value : Value) (after : State) :
    Prop :=
  program.run before = .ok (value, after)

/-- A callback that realizes a program is run atomically. -/
theorem run_atomic {callback : Callback State Failure Value} {program : Transaction State Failure Value}
    {weather : Weather} {defaultError : Failure} {before : State}
    (realizes : Realizes weather.faults callback program before) :
    Atomic (Effects program) before (run weather defaultError callback before) := by
  unfold run
  split
  · have one := realizes 0
    rcases ended : outcome callback weather.faults ⟨before, false, 0⟩ with
      ⟨(failure | _) | value, session⟩ <;> rw [ended] at one
    · exact .rolledBack failure
    · exact .rolledBack defaultError
    · obtain ⟨whole, ran⟩ := one
      dsimp only
      unfold commit
      rw [if_neg (by rw [whole]; decide)]
      cases weather.commit with
      | done =>
          refine ⟨.inr ⟨rfl, value, ran⟩, ?_⟩
          rintro _ ⟨⟩
          exact ⟨rfl, ran⟩
      | refused => exact .rolledBack defaultError
      | lost =>
          refine ⟨.inr ⟨rfl, value, ran⟩, ?_⟩
          intro other wrong
          cases wrong
  · exact .rolledBack defaultError

/-- A failure that the runner does not make up itself comes from the callback, behind a rollback. -/
theorem run_refused {callback : Callback State Failure Value} {weather : Weather}
    {defaultError failure : Failure} {before : State} (different : failure ≠ defaultError)
    (reported : (run weather defaultError callback before).result = .error failure) :
    (run weather defaultError callback before).state = before := by
  generalize ended : run weather defaultError callback before = result at reported
  unfold run at ended
  split at ended
  · split at ended
    · rw [← ended]
    · rw [← ended]
    · unfold commit at ended
      split at ended
      · rw [← ended]
      · split at ended
        · rw [← ended] at reported
          cases reported
        · rw [← ended]
        · rw [← ended] at reported
          cases reported
          exact absurd rfl different
  · rw [← ended]

section Calm

variable {before middle after : State}

/-- No statement fails by itself, and the callback ends with the result and leaves the state behind it. -/
def Calm (callback : Callback State Failure Value) (before : State)
    (result : Except (Stop Failure) Value) (after : State) : Prop :=
  ∀ issued, ∃ later,
    outcome callback (fun _ => false) ⟨before, false, issued⟩ = (result, ⟨after, false, later⟩)

theorem calm_pure (value : Value) : Calm (pure value : Callback State Failure Value) before (.ok value) before :=
  fun issued => ⟨issued, rfl⟩

theorem calm_refuse (failure : Failure) :
    Calm (refuse failure : Callback State Failure Value) before (.error (.refused failure)) before :=
  fun issued => ⟨issued, rfl⟩

theorem calm_statement {effect : Transaction State Failure Value} {value : Value}
    (ran : effect.run before = .ok (value, after)) :
    Calm (statement effect) before (.ok value) after := by
  intro issued
  refine ⟨issued + 1, ?_⟩
  rw [outcome_statement]
  simp [ran]

theorem calm_query (read : State → Value) :
    Calm (query read : Callback State Failure Value) before (.ok (read before)) before :=
  calm_statement rfl

theorem Calm.bind {callback : Callback State Failure Value} {next : Value → Callback State Failure Result}
    {value : Value} {result : Except (Stop Failure) Result} (first : Calm callback before (.ok value) middle)
    (rest : Calm (next value) middle result after) : Calm (callback >>= next) before result after := by
  intro issued
  obtain ⟨between, one⟩ := first issued
  obtain ⟨later, two⟩ := rest between
  refine ⟨later, ?_⟩
  rw [outcome_bind, one]
  exact two

theorem run_calm {callback : Callback State Failure Value} {defaultError : Failure} {value : Value}
    (calm : Calm callback before (.ok value) after) :
    run ⟨true, fun _ => false, .done⟩ defaultError callback before = ⟨.ok value, after, true⟩ := by
  obtain ⟨later, ended⟩ := calm 0
  simp [run, ended, commit]

theorem run_calm_refused {callback : Callback State Failure Value} {failure : Failure}
    (defaultError : Failure)
    (calm : Calm callback before (.error (.refused failure)) after) :
    run ⟨true, fun _ => false, .done⟩ defaultError callback before = ⟨.error failure, before, false⟩ := by
  obtain ⟨later, ended⟩ := calm 0
  simp [run, ended]

end Calm

end Callback

end DiskServer.Library
