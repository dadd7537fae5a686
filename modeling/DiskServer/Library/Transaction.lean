import Mathlib.Tactic.Abel

/-
This file gives all-or-nothing programs on a state and rules for what their successful runs do.
-/

namespace DiskServer.Library

/-- A transaction fails without a trace, or it returns a value and the state it commits. -/
abbrev Transaction (State Failure : Type) (Value : Type) := StateT State (Except Failure) Value

/-- Every successful run of the program relates its two states and its value. -/
def Ensures {State Failure Value : Type} (program : Transaction State Failure Value)
    (post : State → Value → State → Prop) : Prop :=
  ∀ before value after, program.run before = .ok (value, after) → post before value after

namespace Transaction

variable {State Failure Value Result : Type}

/-- A sequence succeeds through a state between its parts. -/
theorem bind_ok {program : Transaction State Failure Value}
    {next : Value → Transaction State Failure Result} {before last : State} {result : Result}
    (ran : (program >>= next).run before = .ok (result, last)) :
    ∃ value middle, program.run before = .ok (value, middle) ∧
      (next value).run middle = .ok (result, last) := by
  rw [StateT.run_bind] at ran
  cases first : program.run before with
  | error failure =>
      rw [first] at ran
      cases ran
  | ok pair =>
      rw [first] at ran
      exact ⟨pair.1, pair.2, rfl, ran⟩

theorem get_bind_run (next : State → Transaction State Failure Result) (before : State) :
    (get >>= next).run before = (next before).run before := rfl

theorem pure_ok {value result : Value} {before last : State}
    (ran : (pure value : Transaction State Failure Value).run before = .ok (result, last)) :
    result = value ∧ last = before := by
  rw [StateT.run_pure] at ran
  cases ran
  exact ⟨rfl, rfl⟩

/-- A failure is no success. -/
theorem throw_ok {failure : Failure} {before last : State} {result : Value}
    (ran : (throw failure : Transaction State Failure Value).run before = .ok (result, last)) :
    False := by
  cases ran

/-- A program that reads the state goes on with it. -/
theorem get_bind_ok {next : State → Transaction State Failure Result} {before last : State} {result : Result}
    (ran : (get >>= next).run before = .ok (result, last)) : (next before).run before = .ok (result, last) :=
  ran

theorem modify_ok {change : State → State} {before last : State} {value : Unit}
    (ran : (modify change : Transaction State Failure Unit).run before = .ok (value, last)) :
    last = change before := by
  cases ran
  rfl

theorem set_ok {written before last : State} {value : PUnit}
    (ran : (set written : Transaction State Failure PUnit).run before = .ok (value, last)) :
    last = written := by
  cases ran
  rfl

/-- A program that ends by returning a value leaves the state of the part before it. -/
theorem bind_pure_ok {program : Transaction State Failure Value} {change : Value → Result}
    {before last : State} {result : Result}
    (ran : (program >>= fun value => pure (change value)).run before = .ok (result, last)) :
    ∃ value, program.run before = .ok (value, last) ∧ result = change value := by
  obtain ⟨value, middle, one, two⟩ := bind_ok ran
  obtain ⟨rfl, rfl⟩ := pure_ok two
  exact ⟨value, one, rfl⟩

/-- A program that writes the state and returns a value. -/
theorem set_pure_ok {written before last : State} {value result : Value}
    (ran : ((set written : Transaction State Failure PUnit) >>= fun _ => pure value).run before =
      .ok (result, last)) : result = value ∧ last = written := by
  cases ran
  exact ⟨rfl, rfl⟩

/-- A program that changes the state and returns a value. -/
theorem modify_pure_ok {change : State → State} {before last : State} {value result : Value}
    (ran : ((modify change : Transaction State Failure PUnit) >>= fun _ => pure value).run before =
      .ok (result, last)) : result = value ∧ last = change before := by
  cases ran
  exact ⟨rfl, rfl⟩

theorem map_ok {program : Transaction State Failure Value} {change : Value → Result}
    {before last : State} {result : Result}
    (ran : (change <$> program).run before = .ok (result, last)) :
    ∃ value, program.run before = .ok (value, last) ∧ result = change value := by
  rw [map_eq_pure_bind] at ran
  exact bind_pure_ok ran

section Failures

variable {failure : Failure}

/-- No run of the program ends with this failure. -/
def Avoids (failure : Failure) (program : Transaction State Failure Value) : Prop :=
  ∀ before, program.run before ≠ .error failure

theorem bind_error {program : Transaction State Failure Value} {next : Value → Transaction State Failure Result}
    {before : State} (ran : (program >>= next).run before = .error failure) :
    program.run before = .error failure ∨
      ∃ value middle, program.run before = .ok (value, middle) ∧ (next value).run middle = .error failure := by
  rw [StateT.run_bind] at ran
  cases first : program.run before with
  | error other =>
      rw [first] at ran
      cases ran
      exact .inl rfl
  | ok pair =>
      rw [first] at ran
      exact .inr ⟨pair.1, pair.2, rfl, ran⟩

theorem avoids_pure (value : Value) : Avoids failure (pure value : Transaction State Failure Value) := by
  intro before ran
  cases ran

theorem avoids_throw {other : Failure} (differs : other ≠ failure) :
    Avoids failure (throw other : Transaction State Failure Value) := by
  intro before ran
  cases ran
  exact differs rfl

theorem avoids_modify (change : State → State) :
    Avoids failure (modify change : Transaction State Failure Unit) := by
  intro before ran
  cases ran

theorem avoids_bind {program : Transaction State Failure Value} {next : Value → Transaction State Failure Result}
    (first : Avoids failure program) (rest : ∀ value, Avoids failure (next value)) :
    Avoids failure (program >>= next) := by
  intro before ran
  rcases bind_error ran with one | ⟨value, middle, _, two⟩
  · exact first before one
  · exact rest value middle two

theorem avoids_get_bind {next : State → Transaction State Failure Result}
    (rest : ∀ before, Avoids failure (next before)) : Avoids failure (get >>= next) :=
  fun before ran => rest before before ran

end Failures

end Transaction

namespace Ensures

variable {State Failure Value Result Item : Type}

theorem mono {program : Transaction State Failure Value} {post weaker : State → Value → State → Prop}
    (ensures : Ensures program post)
    (implied : ∀ before value after, post before value after → weaker before value after) :
    Ensures program weaker :=
  fun before value after ran => implied before value after (ensures before value after ran)

/-- A loop keeps every preorder that each of its rounds keeps. -/
theorem forM (Rel : State → State → Prop) {body : Item → Transaction State Failure PUnit}
    {items : List Item} (same : ∀ state, Rel state state)
    (compose : ∀ first second third, Rel first second → Rel second third → Rel first third)
    (round : ∀ item ∈ items, Ensures (body item) fun before _ after => Rel before after) :
    Ensures (items.forM body) fun before _ after => Rel before after := by
  induction items with
  | nil =>
      intro before value after ran
      obtain ⟨-, rfl⟩ := Transaction.pure_ok ran
      exact same _
  | cons item rest ih =>
      intro before value after ran
      change (body item >>= fun _ => rest.forM body).run before = _ at ran
      obtain ⟨_, middle, one, two⟩ := Transaction.bind_ok ran
      exact compose before middle after (round item List.mem_cons_self _ _ _ one)
        (ih (fun other present => round other (List.mem_cons_of_mem item present)) _ _ _ two)

/-- A loop adds up the grades of a relation that its rounds respect. -/
theorem forM_graded {Amount : Type*} [AddMonoid Amount] {Rel : Amount → State → State → Prop}
    (amount : Item → Amount) (same : ∀ state, Rel 0 state state)
    (compose : ∀ one two first second third, Rel one first second → Rel two second third →
      Rel (one + two) first third)
    {body : Item → Transaction State Failure PUnit} {items : List Item}
    (round : ∀ item ∈ items, Ensures (body item) fun before _ after =>
      Rel (amount item) before after) :
    Ensures (items.forM body) fun before _ after => Rel (items.map amount).sum before after := by
  induction items with
  | nil =>
      intro before value after ran
      obtain ⟨-, rfl⟩ := Transaction.pure_ok ran
      exact same _
  | cons item rest ih =>
      intro before value after ran
      change (body item >>= fun _ => rest.forM body).run before = _ at ran
      obtain ⟨_, middle, one, two⟩ := Transaction.bind_ok ran
      rw [List.map_cons, List.sum_cons]
      exact compose _ _ before middle after (round item List.mem_cons_self _ _ _ one)
        (ih (fun other present => round other (List.mem_cons_of_mem item present)) _ _ _ two)

/-- A fold relates its first and last value and state at the sum of the grades of its items. -/
theorem foldlM_graded {Amount : Type*} [AddMonoid Amount]
    (Rel : Amount → Value → Value → State → State → Prop) (amount : Item → Amount)
    (same : ∀ value state, Rel 0 value value state state)
    (compose : ∀ less more one two three first second third, Rel less one two first second →
      Rel more two three second third → Rel (less + more) one three first third)
    {body : Value → Item → Transaction State Failure Value} {items : List Item}
    (round : ∀ item ∈ items, ∀ value, Ensures (body value item) fun before next after =>
      Rel (amount item) value next before after) (start : Value) :
    Ensures (items.foldlM body start) fun before last after =>
      Rel (items.map amount).sum start last before after := by
  induction items generalizing start with
  | nil =>
      intro before value after ran
      rw [List.foldlM_nil] at ran
      obtain ⟨rfl, rfl⟩ := Transaction.pure_ok ran
      exact same _ _
  | cons item rest ih =>
      intro before value after ran
      rw [List.foldlM_cons] at ran
      obtain ⟨next, middle, one, two⟩ := Transaction.bind_ok ran
      rw [List.map_cons, List.sum_cons]
      exact compose _ _ _ _ _ _ _ _ (round item List.mem_cons_self start _ _ _ one)
        (ih (fun other present => round other (List.mem_cons_of_mem item present)) next _ _ _ two)

end Ensures

end DiskServer.Library
