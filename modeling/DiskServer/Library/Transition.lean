import Mathlib.Logic.Relation
import Mathlib.Logic.Function.Basic

/-
This file states runs of a transition system and the rules that prove invariants of them.
-/

namespace DiskServer.Library

/-- A transition system fires one enabled action at a time. -/
structure TransitionSystem (State Action : Type*) where
  initial : State → Prop
  step : State → Action → Option State

namespace TransitionSystem

variable {State Action : Type*} (system : TransitionSystem State Action)

/-- A guarded move fires one action that meets the guard in its own state. -/
def MovesWhen (guard : State → Action → Prop) (state next : State) : Prop :=
  ∃ action, guard state action ∧ system.step state action = some next

def ReachesWhen (guard : State → Action → Prop) : State → State → Prop :=
  Relation.ReflTransGen (system.MovesWhen guard)

/-- Every step of the run to this state meets the guard. -/
def ReachableWhen (guard : State → Action → Prop) (state : State) : Prop :=
  ∃ start, system.initial start ∧ system.ReachesWhen guard start state

def Reaches : State → State → Prop := system.ReachesWhen fun _ _ => True

def Reachable : State → Prop := system.ReachableWhen fun _ _ => True

/-- The run fires the listed actions in order and stops at the first disabled one. -/
def run : State → List Action → Option State
  | state, [] => some state
  | state, action :: rest => (system.step state action).bind fun next => run next rest

@[simp] theorem run_nil (state : State) : system.run state [] = some state := rfl

theorem run_cons (state : State) (action : Action) (rest : List Action) :
    system.run state (action :: rest) =
      (system.step state action).bind fun next => system.run next rest := rfl

/-- A run is a path. -/
theorem reaches_of_run {state last : State} {actions : List Action}
    (ran : system.run state actions = some last) : system.Reaches state last := by
  induction actions generalizing state with
  | nil =>
      obtain rfl : state = last := by simpa using ran
      exact Relation.ReflTransGen.refl
  | cons action rest ih =>
      rw [run_cons, Option.bind_eq_some_iff] at ran
      obtain ⟨next, moved, ran⟩ := ran
      exact Relation.ReflTransGen.head ⟨action, trivial, moved⟩ (ih ran)

/-- A run from an initial state ends in a reachable one. -/
theorem reachable_of_run {start last : State} {actions : List Action}
    (started : system.initial start) (ran : system.run start actions = some last) :
    system.Reachable last :=
  ⟨start, started, system.reaches_of_run ran⟩

/-- A checked run ends in a reachable state that passes the check. -/
theorem exists_reachable_of_run {start : State} (actions : List Action) (check : State → Bool)
    (started : system.initial start) (checked : (system.run start actions).any check = true) :
    ∃ last, system.Reachable last ∧ check last = true := by
  obtain ⟨last, ran, passed⟩ := (Option.any_eq_true _ _).mp checked
  exact ⟨last, system.reachable_of_run started ran, passed⟩

section Shares

variable (chosen : Action → Bool)

/-- What the chosen actions of a run add to a measure of the state. -/
def gainOf (measure : State → Int) : State → List Action → Int
  | _, [] => 0
  | state, action :: rest =>
      match system.step state action with
      | none => 0
      | some next =>
          (if chosen action then measure next - measure state else 0) + gainOf measure next rest

/-- The items that the chosen actions of a run bring, in order. -/
def itemsOf {Item : Type*} (items : State → State → List Item) : State → List Action → List Item
  | _, [] => []
  | state, action :: rest =>
      match system.step state action with
      | none => []
      | some next => (if chosen action then items state next else []) ++ itemsOf items next rest

/-- The chosen actions and the others add up to the whole change of a measure. -/
theorem measure_of_run (measure : State → Int) {state last : State} {actions : List Action}
    (ran : system.run state actions = some last) :
    measure last = measure state + system.gainOf (fun action => !chosen action) measure state actions +
      system.gainOf chosen measure state actions := by
  induction actions generalizing state with
  | nil =>
      obtain rfl : state = last := by simpa using ran
      simp [gainOf]
  | cons action rest ih =>
      rw [run_cons, Option.bind_eq_some_iff] at ran
      obtain ⟨next, moved, ran⟩ := ran
      have later := ih ran
      simp only [gainOf, moved]
      by_cases picked : chosen action = true
      · simp only [picked, Bool.not_true, Bool.false_eq_true, if_false, if_true]
        omega
      · simp only [picked, Bool.not_false, Bool.false_eq_true, if_false, if_true]
        omega

end Shares

section Guarded

variable (guard : State → Action → Prop) [∀ state, DecidablePred (guard state)]

/-- The guarded run stops at the first action that is disabled or breaks the guard. -/
def runWhen : State → List Action → Option State
  | state, [] => some state
  | state, action :: rest =>
      if guard state action then (system.step state action).bind fun next => runWhen next rest else none

/-- An allowed run is an allowed path. -/
theorem reachesWhen_of_runWhen {state last : State} {actions : List Action}
    (ran : system.runWhen guard state actions = some last) : system.ReachesWhen guard state last := by
  induction actions generalizing state with
  | nil =>
      cases ran
      exact Relation.ReflTransGen.refl
  | cons action rest ih =>
      unfold runWhen at ran
      split at ran
      · rename_i allowed
        obtain ⟨next, moved, ran⟩ := Option.bind_eq_some_iff.mp ran
        exact Relation.ReflTransGen.head ⟨action, allowed, moved⟩ (ih ran)
      · cases ran

theorem reachableWhen_of_runWhen {start last : State} {actions : List Action}
    (started : system.initial start) (ran : system.runWhen guard start actions = some last) :
    system.ReachableWhen guard last :=
  ⟨start, started, system.reachesWhen_of_runWhen guard ran⟩

theorem exists_reachableWhen_of_runWhen {start : State} (actions : List Action) (check : State → Bool)
    (started : system.initial start)
    (checked : (system.runWhen guard start actions).any check = true) :
    ∃ last, system.ReachableWhen guard last ∧ check last = true := by
  obtain ⟨last, ran, passed⟩ := (Option.any_eq_true _ _).mp checked
  exact ⟨last, system.reachableWhen_of_runWhen guard started ran, passed⟩

end Guarded

variable {system} {guard : State → Action → Prop}

/-- An allowed step from a reachable state reaches the next one. -/
theorem ReachableWhen.next {state next : State} {action : Action}
    (reachable : system.ReachableWhen guard state) (allowed : guard state action)
    (moved : system.step state action = some next) : system.ReachableWhen guard next := by
  obtain ⟨start, started, path⟩ := reachable
  exact ⟨start, started, path.tail ⟨action, allowed, moved⟩⟩

/-- A run that meets a stronger guard meets the weaker one. -/
theorem ReachableWhen.mono {weaker : State → Action → Prop} {state : State}
    (reachable : system.ReachableWhen guard state)
    (implied : ∀ state action, guard state action → weaker state action) :
    system.ReachableWhen weaker state := by
  obtain ⟨start, started, path⟩ := reachable
  refine ⟨start, started, Relation.ReflTransGen.mono ?_ _ _ path⟩
  rintro _ _ ⟨action, allowed, moved⟩
  exact ⟨action, implied _ _ allowed, moved⟩

/-- An invariant that every guarded step keeps holds along every guarded run. -/
theorem ReachesWhen.keeps (Inv : State → Prop)
    (kept : ∀ state action next, Inv state → guard state action →
      system.step state action = some next → Inv next)
    {state last : State} (path : system.ReachesWhen guard state last) (here : Inv state) :
    Inv last := by
  induction path with
  | refl => exact here
  | tail _ moved ih =>
      obtain ⟨action, allowed, moved⟩ := moved
      exact kept _ action _ ih allowed moved

/-- An invariant that holds at the start and is kept by every guarded step always holds. -/
theorem ReachableWhen.invariant (Inv : State → Prop)
    (started : ∀ state, system.initial state → Inv state)
    (kept : ∀ state action next, Inv state → guard state action →
      system.step state action = some next → Inv next)
    {state : State} (reachable : system.ReachableWhen guard state) : Inv state := by
  obtain ⟨start, initial, path⟩ := reachable
  exact path.keeps Inv kept (started start initial)

/-- A preorder that every guarded step respects relates the two ends of every guarded run. -/
theorem ReachesWhen.relates (Inv : State → Prop) (Rel : State → State → Prop)
    (same : ∀ state, Rel state state)
    (compose : ∀ first second third, Rel first second → Rel second third → Rel first third)
    (kept : ∀ state action next, Inv state → guard state action →
      system.step state action = some next → Inv next)
    (respected : ∀ state action next, Inv state → guard state action →
      system.step state action = some next → Rel state next)
    {state last : State} (path : system.ReachesWhen guard state last) (here : Inv state) :
    Rel state last := by
  have both : Inv last ∧ Rel state last := by
    induction path with
    | refl => exact ⟨here, same state⟩
    | tail _ moved ih =>
        obtain ⟨action, allowed, moved⟩ := moved
        exact ⟨kept _ action _ ih.1 allowed moved,
          compose _ _ _ ih.2 (respected _ action _ ih.1 allowed moved)⟩
  exact both.2

end TransitionSystem

/-- A slot table changes only in the slot it writes. -/
theorem update_some_cases {Slot Value : Type*} [DecidableEq Slot] {table : Slot → Option Value}
    {slot other : Slot} {written : Option Value} {value : Value}
    (found : Function.update table slot written other = some value) :
    (other = slot ∧ written = some value) ∨ (other ≠ slot ∧ table other = some value) := by
  by_cases same : other = slot
  · subst same
    rw [Function.update_self] at found
    exact .inl ⟨rfl, found⟩
  · rw [Function.update_of_ne same] at found
    exact .inr ⟨same, found⟩

end DiskServer.Library
