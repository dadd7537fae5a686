/-
This file gives programs whose statements stay when a later one fails and rules for all their runs.
-/

namespace DiskServer.Library

/-- A failure ends the program and keeps the state that it has reached. -/
abbrev Autocommit (State Failure Value : Type) := ExceptT Failure (StateM State) Value

namespace Autocommit

variable {State Failure Value Result Item : Type}

/-- The value or the failure of a run and the state that it leaves behind. -/
def outcome (program : Autocommit State Failure Value) (before : State) :
    Except Failure Value × State := program.run.run before

@[simp] theorem outcome_pure (value : Value) (before : State) :
    outcome (pure value : Autocommit State Failure Value) before = (.ok value, before) := rfl

@[simp] theorem outcome_throw (failure : Failure) (before : State) :
    outcome (throw failure : Autocommit State Failure Value) before = (.error failure, before) := rfl

@[simp] theorem outcome_get (before : State) :
    outcome (get : Autocommit State Failure State) before = (.ok before, before) := rfl

@[simp] theorem outcome_modify (change : State → State) (before : State) :
    outcome (modify change : Autocommit State Failure PUnit) before = (.ok ⟨⟩, change before) := rfl

theorem outcome_bind (program : Autocommit State Failure Value)
    (next : Value → Autocommit State Failure Result) (before : State) :
    outcome (program >>= next) before =
      match outcome program before with
      | (.ok value, middle) => outcome (next value) middle
      | (.error failure, middle) => (.error failure, middle) := by
  change (ExceptT.bindCont next (program.run.run before).1).run (program.run.run before).2 = _
  unfold outcome
  rcases program.run.run before with ⟨failure | value, middle⟩ <;> rfl

theorem bind_ok {program : Autocommit State Failure Value}
    {next : Value → Autocommit State Failure Result} {before last : State} {result : Result}
    (ran : outcome (program >>= next) before = (.ok result, last)) :
    ∃ value middle, outcome program before = (.ok value, middle) ∧
      outcome (next value) middle = (.ok result, last) := by
  rw [outcome_bind] at ran
  rcases first : outcome program before with ⟨failure | value, middle⟩
  · rw [first] at ran
    cases ran
  · rw [first] at ran
    exact ⟨value, middle, rfl, ran⟩

/-- A run of the program relates its two states whether it succeeds or fails. -/
def Keeps (Rel : State → State → Prop) (before : State)
    (program : Autocommit State Failure Value) : Prop :=
  Rel before (outcome program before).2

section Rules

variable {Rel : State → State → Prop} {before : State}

theorem keeps_throw (same : ∀ state, Rel state state) (failure : Failure) :
    Keeps Rel before (throw failure : Autocommit State Failure Value) := same before

theorem keeps_bind (compose : ∀ one two three, Rel one two → Rel two three → Rel one three)
    {program : Autocommit State Failure Value} {next : Value → Autocommit State Failure Result}
    (first : Keeps Rel before program)
    (rest : ∀ value middle, Rel before middle → Keeps Rel middle (next value)) :
    Keeps Rel before (program >>= next) := by
  unfold Keeps at first ⊢
  rw [outcome_bind]
  rcases ran : outcome program before with ⟨failure | value, middle⟩
  · rw [ran] at first
    exact first
  · rw [ran] at first
    exact compose before middle _ first (rest value middle first)

/-- A fold keeps a preorder that each of its rounds keeps from every state the fold can reach. -/
theorem keeps_foldlM (same : ∀ state, Rel state state)
    (compose : ∀ one two three, Rel one two → Rel two three → Rel one three)
    {body : Value → Item → Autocommit State Failure Value} {items : List Item}
    (round : ∀ item ∈ items, ∀ value middle, Rel before middle → Keeps Rel middle (body value item))
    (start : Value) : Keeps Rel before (items.foldlM body start) := by
  suffices reached : ∀ middle, Rel before middle → ∀ value,
      Keeps Rel middle (items.foldlM body value) from reached before (same before) start
  induction items with
  | nil =>
      intro middle _ value
      exact same middle
  | cons item rest ih =>
      intro middle reached value
      rw [List.foldlM_cons]
      apply keeps_bind compose (round item List.mem_cons_self value middle reached)
      intro next later passed
      exact ih (fun other present => round other (List.mem_cons_of_mem item present)) later
        (compose before middle later reached passed) next

/-- A fold that succeeds has finished a round for each of its items. -/
theorem foldlM_round (same : ∀ state, Rel state state)
    (compose : ∀ one two three, Rel one two → Rel two three → Rel one three)
    {body : Value → Item → Autocommit State Failure Value} {items : List Item}
    (round : ∀ item ∈ items, ∀ value middle, Rel before middle → Keeps Rel middle (body value item))
    {start last : Value} {after : State}
    (ran : outcome (items.foldlM body start) before = (.ok last, after)) {item : Item}
    (present : item ∈ items) :
    ∃ value middle next later, Rel before middle ∧
      outcome (body value item) middle = (.ok next, later) ∧ Rel later after := by
  suffices found : ∀ middle, Rel before middle → ∀ value,
      outcome (items.foldlM body value) middle = (.ok last, after) →
      ∃ value middle next later, Rel before middle ∧
        outcome (body value item) middle = (.ok next, later) ∧ Rel later after from
    found before (same before) start ran
  clear ran
  induction items with
  | nil => cases present
  | cons first rest ih =>
      intro middle reached value ran
      have kept := round first List.mem_cons_self value middle reached
      have others := fun other present => round other (List.mem_cons_of_mem first present)
      rw [List.foldlM_cons] at ran
      obtain ⟨next, later, one, two⟩ := bind_ok ran
      unfold Keeps at kept
      rw [one] at kept
      have passed : Rel before later := compose before middle later reached kept
      rcases List.mem_cons.mp present with rfl | inside
      · have rest : Keeps Rel later (rest.foldlM body next) := by
          apply keeps_foldlM same compose
          intro other there value state further
          exact others other there value state (compose before later state passed further)
        unfold Keeps at rest
        rw [two] at rest
        exact ⟨value, middle, next, later, reached, one, rest⟩
      · exact ih others inside later passed next two

end Rules

/-- Every value that the program returns meets the condition. -/
def Returns (condition : Value → Prop) (program : Autocommit State Failure Value) : Prop :=
  ∀ before value after, outcome program before = (.ok value, after) → condition value

section Values

variable {condition : Value → Prop} {goal : Result → Prop}

theorem returns_pure {value : Value} (holds : condition value) :
    Returns condition (pure value : Autocommit State Failure Value) := by
  intro before result after ran
  rw [outcome_pure] at ran
  cases ran
  exact holds

theorem returns_throw (failure : Failure) :
    Returns condition (throw failure : Autocommit State Failure Value) := by
  intro before result after ran
  rw [outcome_throw] at ran
  cases ran

theorem returns_bind {program : Autocommit State Failure Value}
    {next : Value → Autocommit State Failure Result} (first : Returns condition program)
    (rest : ∀ value, condition value → Returns goal (next value)) :
    Returns goal (program >>= next) := by
  intro before result after ran
  obtain ⟨value, middle, one, two⟩ := bind_ok ran
  exact rest value (first before value middle one) middle result after two

/-- The condition on the result may ignore what the first program returns. -/
theorem returns_of_last {program : Autocommit State Failure Value}
    {next : Value → Autocommit State Failure Result} (rest : ∀ value, Returns goal (next value)) :
    Returns goal (program >>= next) := by
  intro before result after ran
  obtain ⟨value, middle, -, two⟩ := bind_ok ran
  exact rest value middle result after two

theorem returns_foldlM {body : Value → Item → Autocommit State Failure Value} {items : List Item}
    (round : ∀ item ∈ items, ∀ value, condition value → Returns condition (body value item))
    {start : Value} (holds : condition start) : Returns condition (items.foldlM body start) := by
  induction items generalizing start with
  | nil => exact returns_pure holds
  | cons item rest ih =>
      rw [List.foldlM_cons]
      refine returns_bind (round item List.mem_cons_self start holds) ?_
      intro value reached
      exact ih (fun other present => round other (List.mem_cons_of_mem item present)) reached

end Values

/-- A run that succeeds meets the first condition and a run that fails meets the second one. -/
def Meets (good : Value → State → Prop) (bad : Failure → State → Prop)
    (program : Autocommit State Failure Value) (before : State) : Prop :=
  match outcome program before with
  | (.ok value, after) => good value after
  | (.error failure, after) => bad failure after

/-- The cleanup runs only when the program fails and leaves the failure as it is. -/
def guarded (cleanup : State → State) (program : Autocommit State Failure Value) :
    Autocommit State Failure Value :=
  tryCatch program fun failure => do
    modify cleanup
    throw failure

section Triples

variable {good : Value → State → Prop} {bad : Failure → State → Prop} {before : State}
  {program : Autocommit State Failure Value}

theorem meets_pure {value : Value} (holds : good value before) :
    Meets good bad (pure value) before := holds

theorem meets_throw {failure : Failure} (holds : bad failure before) :
    Meets good bad (throw failure) before := holds

theorem meets_modify {change : State → State} {after : State} (changed : change before = after) :
    Meets (fun _ state => state = after) bad (modify change : Autocommit State Failure PUnit) before :=
  changed

theorem meets_bind {next : Value → Autocommit State Failure Result}
    {goal : Result → State → Prop} (first : Meets good bad program before)
    (rest : ∀ value middle, good value middle → Meets goal bad (next value) middle) :
    Meets goal bad (program >>= next) before := by
  unfold Meets at first ⊢
  rw [outcome_bind]
  rcases ran : outcome program before with ⟨failure | value, middle⟩
  · rw [ran] at first
    exact first
  · rw [ran] at first
    exact rest value middle first

theorem Meets.weaken {better : Value → State → Prop} {worse : Failure → State → Prop}
    (meets : Meets good bad program before) (success : ∀ value after, good value after → better value after)
    (failing : ∀ failure after, bad failure after → worse failure after) :
    Meets better worse program before := by
  unfold Meets at meets ⊢
  rcases ran : outcome program before with ⟨failure | value, after⟩
  · rw [ran] at meets
    exact failing failure after meets
  · rw [ran] at meets
    exact success value after meets

theorem Meets.imp {better : Value → State → Prop} (meets : Meets good bad program before)
    (success : ∀ value after, good value after → better value after) :
    Meets better bad program before :=
  meets.weaken success fun _ _ stopped => stopped

/-- A successful outcome has the property of successes. -/
theorem Meets.ok (meets : Meets good bad program before) {value : Value} {after : State}
    (ran : outcome program before = (.ok value, after)) : good value after := by
  unfold Meets at meets
  rw [ran] at meets
  exact meets

/-- A failing outcome has the property of failures. -/
theorem Meets.error (meets : Meets good bad program before) {failure : Failure} {after : State}
    (ran : outcome program before = (.error failure, after)) : bad failure after := by
  unfold Meets at meets
  rw [ran] at meets
  exact meets

/-- What holds after a success and after a failure holds in the end. -/
theorem Meets.ends {holds : State → Prop}
    (meets : Meets (fun _ after => holds after) (fun _ after => holds after) program before)
    {result : Except Failure Value} {after : State} (ran : outcome program before = (result, after)) :
    holds after := by
  unfold Meets at meets
  rw [ran] at meets
  cases result with
  | error failure => exact meets
  | ok value => exact meets

/-- The program succeeds with a value and a state that pass a check. -/
def succeeds (program : Autocommit State Failure Value) (before : State) (check : Value → State → Bool) : Bool :=
  match outcome program before with
  | (.ok value, after) => check value after
  | (.error _, _) => false

theorem exists_of_succeeds {check : Value → State → Bool} (passes : succeeds program before check = true) :
    ∃ value after, outcome program before = (.ok value, after) ∧ check value after = true := by
  unfold succeeds at passes
  rcases ran : outcome program before with ⟨failure | value, after⟩
  · rw [ran] at passes
    cases passes
  · rw [ran] at passes
    exact ⟨value, after, rfl, passes⟩

theorem meets_guarded {cleanup : State → State} {worse : Failure → State → Prop}
    (meets : Meets good bad program before)
    (cleaned : ∀ failure middle, bad failure middle → worse failure (cleanup middle)) :
    Meets good worse (guarded cleanup program) before := by
  have caught : outcome (guarded cleanup program) before =
      match outcome program before with
      | (.ok value, after) => (.ok value, after)
      | (.error failure, after) => (.error failure, cleanup after) := by
    unfold outcome guarded
    change (match (program.run.run before).1 with
      | .ok value => _
      | .error failure => _ : StateM State (Except Failure Value)).run (program.run.run before).2 = _
    rcases program.run.run before with ⟨failure | value, middle⟩ <;> rfl
  unfold Meets at meets ⊢
  rw [caught]
  rcases ran : outcome program before with ⟨failure | value, after⟩
  · rw [ran] at meets
    exact cleaned failure after meets
  · rw [ran] at meets
    exact meets

/-- The invariant of a fold speaks of the items that it has passed. -/
theorem meets_foldlM {body : Value → Item → Autocommit State Failure Value} {items : List Item}
    {invariant : List Item → Value → State → Prop}
    (round : ∀ passed item later, items = passed ++ item :: later → ∀ value middle,
      invariant passed value middle →
        Meets (invariant (passed ++ [item])) bad (body value item) middle)
    {start : Value} (holds : invariant [] start before) :
    Meets (invariant items) bad (items.foldlM body start) before := by
  suffices run : ∀ later passed, items = passed ++ later → ∀ value middle,
      invariant passed value middle → Meets (invariant items) bad (later.foldlM body value) middle from
    run items [] rfl start before holds
  intro later
  induction later with
  | nil =>
      intro passed split value middle reached
      rw [split, List.append_nil]
      exact reached
  | cons item later ih =>
      intro passed split value middle reached
      rw [List.foldlM_cons]
      apply meets_bind (round passed item later split value middle reached)
      intro next after passes
      apply ih (passed ++ [item]) _ next after passes
      rw [split, List.append_assoc]
      rfl

end Triples

end Autocommit

end DiskServer.Library
