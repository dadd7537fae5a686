import DiskServer.Library.Transition
import Mathlib.Data.List.Infix

/-
This file gives routines of atomic commands that run side by side on one world and the rules that
prove what each of them establishes.
-/

namespace DiskServer.Library

/-- A routine issues commands one after another and goes on with their answers. -/
inductive Routine (Command : Type) (Answer : Command → Type) (Result : Type) where
  | done (result : Result)
  | perform (command : Command) (next : Answer command → Routine Command Answer Result)

namespace Routine

variable {Command : Type} {Answer : Command → Type} {Value Result : Type}

def bind : Routine Command Answer Value → (Value → Routine Command Answer Result) →
    Routine Command Answer Result
  | .done value, next => next value
  | .perform command rest, next => .perform command fun answer => (rest answer).bind next

instance : Monad (Routine Command Answer) where
  pure := .done
  bind := bind

def ask (command : Command) : Routine Command Answer (Answer command) := .perform command .done

end Routine

/-- A machine answers commands. A fate picks one of the possible answers, and none when it cannot be
the fate of the command. Events happen between the commands. -/
structure Machine (World Command Fate Event : Type) (Answer : Command → Type) where
  execute : Fate → (command : Command) → World → Option (Answer command × World)
  happen : Event → World → World

/-- A command that some call has executed, with the world that it was executed in. -/
structure Executed (World Command Fate : Type) (Answer : Command → Type) where
  caller : Nat
  before : World
  command : Command
  fate : Fate
  answer : Answer command

/-- The world and the commands that it has executed, with the newest first. -/
structure Moment (World Command Fate : Type) (Answer : Command → Type) where
  world : World
  trace : List (Executed World Command Fate Answer)

structure Call (Request Command Result : Type) (Answer : Command → Type) where
  request : Request
  routine : Routine Command Answer Result

/-- All calls that were ever started, in the order of their numbers. -/
structure Running (World Request Command Fate Result : Type) (Answer : Command → Type) where
  moment : Moment World Command Fate Answer
  calls : List (Call Request Command Result Answer)

inductive Move (Request Fate Event : Type) where
  | start (request : Request)
  | resume (caller : Nat) (fate : Fate)
  | happen (event : Event)

variable {World Command Fate Event Request Value Result : Type} {Answer : Command → Type}

namespace Moment

variable (here : Moment World Command Fate Answer)

/-- The moment after a command has been executed. -/
def executed (caller : Nat) (command : Command) (fate : Fate) (answer : Answer command)
    (after : World) : Moment World Command Fate Answer :=
  ⟨after, ⟨caller, here.world, command, fate, answer⟩ :: here.trace⟩

end Moment

/-- The call with this number was made for the request and has returned the result. -/
def Running.Finished (running : Running World Request Command Fate Result Answer) (caller : Nat)
    (request : Request) (result : Result) : Prop :=
  running.calls[caller]? = some ⟨request, .done result⟩

namespace Machine

variable (machine : Machine World Command Fate Event Answer)
  (program : Request → Routine Command Answer Result)

/-- Each move starts a call, executes the next command of a call, or lets something happen. -/
def move (running : Running World Request Command Fate Result Answer) :
    Move Request Fate Event → Option (Running World Request Command Fate Result Answer)
  | .start request =>
      some { running with calls := running.calls ++ [⟨request, program request⟩] }
  | .happen event =>
      some { running with
        moment := { running.moment with world := machine.happen event running.moment.world } }
  | .resume caller fate =>
      match running.calls[caller]? with
      | some ⟨request, .perform command next⟩ =>
          (machine.execute fate command running.moment.world).map fun answered =>
            { moment := running.moment.executed caller command fate answered.1 answered.2
              calls := running.calls.set caller ⟨request, next answered.1⟩ }
      | _ => none

def system (initial : World → Prop) :
    TransitionSystem (Running World Request Command Fate Result Answer) (Move Request Fate Event) where
  initial := fun running =>
    initial running.moment.world ∧ running.moment.trace = [] ∧ running.calls = []
  step := machine.move program

end Machine

/-- What did not happen after the base of a history happened within the base. -/
theorem suffix_of_append {Item : Type} {item : Item} {older added base : List Item}
    (inside : (item :: older) <:+ added ++ base) (outside : item ∉ added) :
    (item :: older) <:+ base := by
  rcases List.suffix_or_suffix_of_suffix inside (List.suffix_append added base) with early | late
  · exact early
  rcases List.suffix_cons_iff.mp late with same | within
  · rw [same]
  · obtain ⟨before, whole⟩ := inside
    obtain ⟨between, rfl⟩ := within
    have front : before ++ item :: between = added := by
      rw [← List.append_left_inj base, ← whole, List.append_assoc, List.cons_append]
    exact absurd (front ▸ List.mem_append_right _ List.mem_cons_self) outside

/-- An invariant of all moments, and an order of the worlds that every step respects. -/
structure Contract (World Command Fate : Type) (Answer : Command → Type) where
  Inv : Moment World Command Fate Answer → Prop
  Later : World → World → Prop
  same : ∀ world, Later world world
  compose : ∀ first second third, Later first second → Later second third → Later first third

namespace Contract

variable (machine : Machine World Command Fate Event Answer)
  (contract : Contract World Command Fate Answer) {caller : Nat}
  {here there last : Moment World Command Fate Answer}

/-- The second moment comes after the first one. -/
def Since (here there : Moment World Command Fate Answer) : Prop :=
  contract.Later here.world there.world ∧ here.trace <:+ there.trace

/-- Only other calls have executed commands between the two moments. -/
def Foreign (caller : Nat) (here there : Moment World Command Fate Answer) : Prop :=
  contract.Later here.world there.world ∧
    ∃ added, there.trace = added ++ here.trace ∧ ∀ entry ∈ added, entry.caller ≠ caller

theorem Since.refl : contract.Since here here := ⟨contract.same _, List.suffix_rfl⟩

variable {contract}

theorem Since.trans (first : contract.Since here there) (second : contract.Since there last) :
    contract.Since here last :=
  ⟨contract.compose _ _ _ first.1 second.1, first.2.trans second.2⟩

theorem Foreign.refl : contract.Foreign caller here here :=
  ⟨contract.same _, [], rfl, fun _ none => absurd none (List.not_mem_nil)⟩

theorem Foreign.trans (first : contract.Foreign caller here there)
    (second : contract.Foreign caller there last) : contract.Foreign caller here last := by
  obtain ⟨later, added, grown, foreign⟩ := first
  obtain ⟨latest, more, longer, others⟩ := second
  refine ⟨contract.compose _ _ _ later latest, more ++ added, ?_, ?_⟩
  · rw [longer, grown, List.append_assoc]
  · intro entry present
    rcases List.mem_append.mp present with new | old
    · exact others entry new
    · exact foreign entry old

theorem Foreign.since (foreign : contract.Foreign caller here there) : contract.Since here there := by
  obtain ⟨later, added, grown, -⟩ := foreign
  exact ⟨later, added, grown.symm⟩

variable (contract)

/-- Whatever the other calls do between its commands, each command of the routine keeps the invariant
and the routine establishes the postcondition when it is done. -/
def Safe (caller : Nat) (post : Result → Moment World Command Fate Answer → Prop) :
    Routine Command Answer Result → Moment World Command Fate Answer → Prop
  | .done result, here => ∀ there, contract.Foreign caller here there → contract.Inv there →
      post result there
  | .perform command next, here => ∀ there, contract.Foreign caller here there → contract.Inv there →
      ∀ fate answer after, machine.execute fate command there.world = some (answer, after) →
        contract.Inv (there.executed caller command fate answer after) ∧
        contract.Later there.world after ∧
        Safe caller post (next answer) (there.executed caller command fate answer after)

variable {machine contract} {post mid : Result → Moment World Command Fate Answer → Prop}
  {routine : Routine Command Answer Result}

/-- What the other calls do leaves a safe routine safe. -/
theorem Safe.foreign (safe : contract.Safe machine caller post routine here)
    (foreign : contract.Foreign caller here there) : contract.Safe machine caller post routine there := by
  cases routine with
  | done result => exact fun last later => safe last (foreign.trans later)
  | perform command next => exact fun last later => safe last (foreign.trans later)

theorem Safe.mono (safe : contract.Safe machine caller mid routine here)
    (weaker : ∀ result there, contract.Inv there → mid result there → post result there) :
    contract.Safe machine caller post routine here := by
  induction routine generalizing here with
  | done result => exact fun there foreign inv => weaker result there inv (safe there foreign inv)
  | perform command next ih =>
      intro there foreign inv fate answer after ran
      obtain ⟨kept, later, rest⟩ := safe there foreign inv fate answer after ran
      exact ⟨kept, later, ih answer rest⟩

/-- A routine that is done has its postcondition from then on. -/
theorem Safe.finished {result : Result} (safe : contract.Safe machine caller post (.done result) here)
    (inv : contract.Inv here) : post result here :=
  safe here Foreign.refl inv

theorem safe_ask {command : Command} {next : Answer command → Routine Command Answer Result}
    (step : ∀ there, contract.Foreign caller here there → contract.Inv there → ∀ fate answer after,
      machine.execute fate command there.world = some (answer, after) →
        contract.Inv (there.executed caller command fate answer after) ∧
        contract.Later there.world after ∧
        contract.Safe machine caller post (next answer)
          (there.executed caller command fate answer after)) :
    contract.Safe machine caller post (Routine.ask command >>= next) here := step

theorem safe_done {result : Result}
    (holds : ∀ there, contract.Foreign caller here there → contract.Inv there → post result there) :
    contract.Safe machine caller post (.done result) here := holds

theorem safe_map {first : Routine Command Answer Value} {change : Value → Result}
    (one : contract.Safe machine caller (fun value there => post (change value) there) first here) :
    contract.Safe machine caller post (change <$> first) here := by
  induction first generalizing here with
  | done value => exact one
  | perform command rest ih =>
      intro there foreign inv fate answer after ran
      obtain ⟨kept, later, safe⟩ := one there foreign inv fate answer after ran
      exact ⟨kept, later, ih answer safe⟩

/-- The second routine starts where the first one has established its postcondition. -/
theorem safe_bind {first : Routine Command Answer Value}
    {next : Value → Routine Command Answer Result}
    {between : Value → Moment World Command Fate Answer → Prop} (inv : contract.Inv here)
    (one : contract.Safe machine caller between first here)
    (two : ∀ value there, contract.Inv there → contract.Since here there → between value there →
      contract.Safe machine caller post (next value) there) :
    contract.Safe machine caller post (first >>= next) here := by
  induction first generalizing here with
  | done value => exact two value here inv (Since.refl contract) (one.finished inv)
  | perform command rest ih =>
      intro there foreign holds fate answer after ran
      obtain ⟨kept, later, safe⟩ := one there foreign holds fate answer after ran
      refine ⟨kept, later, ih answer kept safe ?_⟩
      intro value last invariant since
      have step : contract.Since there (there.executed caller command fate answer after) :=
        ⟨later, List.suffix_cons _ _⟩
      exact two value last invariant (foreign.since.trans (step.trans since))

end Contract

section Runs

variable (machine : Machine World Command Fate Event Answer)
  (contract : Contract World Command Fate Answer)
  (program : Request → Routine Command Answer Result)
  (Post : Request → Nat → Moment World Command Fate Answer → Result →
    Moment World Command Fate Answer → Prop)

def Moment.Unused (here : Moment World Command Fate Answer) (caller : Nat) : Prop :=
  ∀ entry ∈ here.trace, entry.caller ≠ caller

/-- The events respect the contract, and so does every program from every moment where it starts. -/
structure Contract.Fulfilled : Prop where
  events : ∀ event here, contract.Inv here →
    contract.Inv { here with world := machine.happen event here.world } ∧
      contract.Later here.world (machine.happen event here.world)
  programs : ∀ request caller here, contract.Inv here → here.Unused caller →
    contract.Safe machine caller (Post request caller here) (program request) here

/-- The invariant holds, and every call is safe for the moment in which it was started. The calls that
were started since the origin were started after its moment. -/
structure Contract.KeptSince (origin running : Running World Request Command Fate Result Answer) :
    Prop where
  inv : contract.Inv running.moment
  since : contract.Since origin.moment running.moment
  grown : origin.calls.length ≤ running.calls.length
  callers : ∀ entry ∈ running.moment.trace, entry.caller < running.calls.length
  safe : ∀ caller call, running.calls[caller]? = some call → ∃ started,
    contract.Inv started ∧ contract.Since started running.moment ∧
    (origin.calls.length ≤ caller → contract.Since origin.moment started) ∧
    contract.Safe machine caller (Post call.request caller started) call.routine running.moment

def Contract.Kept (running : Running World Request Command Fate Result Answer) : Prop :=
  contract.KeptSince machine Post running running

variable {machine contract program Post}
  {origin running next : Running World Request Command Fate Result Answer}

/-- A step of one call leaves the calls of the others safe, and the call that moved is safe again. -/
theorem Contract.KeptSince.step (kept : contract.KeptSince machine Post origin running)
    (fulfilled : contract.Fulfilled machine program Post) {action : Move Request Fate Event}
    (moved : machine.move program running action = some next) :
    contract.KeptSince machine Post origin next := by
  cases action with
  | start request =>
      cases moved
      refine ⟨kept.inv, kept.since, ?_, ?_, ?_⟩
      · rw [List.length_append]
        exact Nat.le_add_right_of_le kept.grown
      · intro entry present
        rw [List.length_append]
        exact Nat.lt_add_right _ (kept.callers entry present)
      · intro caller call found
        rcases Nat.lt_or_ge caller running.calls.length with old | new
        · rw [List.getElem?_append_left old] at found
          exact kept.safe caller call found
        · rw [List.getElem?_append_right new, List.getElem?_singleton] at found
          split at found
          · cases found
            have unused : running.moment.Unused caller := fun entry present same => by
              have bound := kept.callers entry present
              omega
            exact ⟨running.moment, kept.inv, Contract.Since.refl _, fun _ => kept.since,
              fulfilled.programs request caller running.moment kept.inv unused⟩
          · cases found
  | happen event =>
      cases moved
      obtain ⟨inv, later⟩ := fulfilled.events event running.moment kept.inv
      have passed : contract.Since running.moment
          { running.moment with world := machine.happen event running.moment.world } :=
        ⟨later, List.suffix_rfl⟩
      refine ⟨inv, kept.since.trans passed, kept.grown, kept.callers, ?_⟩
      intro caller call found
      obtain ⟨started, good, since, fresh, safe⟩ := kept.safe caller call found
      exact ⟨started, good, since.trans passed, fresh, safe.foreign
        ⟨later, [], rfl, fun _ none => absurd none (List.not_mem_nil)⟩⟩
  | resume mover fate =>
      simp only [Machine.move] at moved
      split at moved
      · rename_i request command rest current
        obtain ⟨⟨answer, after⟩, ran, written⟩ := Option.map_eq_some_iff.mp moved
        subst written
        obtain ⟨started, good, since, fresh, safe⟩ := kept.safe mover _ current
        obtain ⟨inv, later, again⟩ :=
          safe running.moment Contract.Foreign.refl kept.inv fate answer after ran
        have passed : contract.Since running.moment
            (running.moment.executed mover command fate answer after) :=
          ⟨later, List.suffix_cons _ _⟩
        have mine : mover < running.calls.length := (List.getElem?_eq_some_iff.mp current).1
        refine ⟨inv, kept.since.trans passed, ?_, ?_, ?_⟩
        · rw [List.length_set]
          exact kept.grown
        · intro entry present
          rw [List.length_set]
          rcases List.mem_cons.mp present with rfl | old
          · exact mine
          · exact kept.callers entry old
        · intro caller call found
          by_cases same : mover = caller
          · subst same
            rw [List.getElem?_set_self mine] at found
            cases found
            exact ⟨started, good, since.trans passed, fresh, again⟩
          · rw [List.getElem?_set_ne same] at found
            obtain ⟨begun, fine, before, recent, others⟩ := kept.safe caller call found
            refine ⟨begun, fine, before.trans passed, recent, others.foreign ?_⟩
            refine ⟨later, [⟨mover, running.moment.world, command, fate, answer⟩], rfl, ?_⟩
            intro entry present
            obtain rfl := List.mem_singleton.mp present
            exact same
      · cases moved

variable {initial : World → Prop}

/-- What holds at the origin of a run holds for every state of the run. -/
theorem Contract.Kept.reaches (kept : contract.Kept machine Post origin)
    (fulfilled : contract.Fulfilled machine program Post)
    (path : (machine.system program initial).Reaches origin running) :
    contract.KeptSince machine Post origin running :=
  path.keeps (contract.KeptSince machine Post origin)
    (fun _ _ _ here _ moved => here.step fulfilled moved) kept

/-- Every reachable state keeps the contract. -/
theorem Contract.Fulfilled.kept (fulfilled : contract.Fulfilled machine program Post)
    (started : ∀ world, initial world → contract.Inv ⟨world, []⟩)
    (reachable : (machine.system program initial).Reachable running) :
    contract.Kept machine Post running := by
  obtain ⟨origin, ⟨begun, silent, idle⟩, path⟩ := reachable
  obtain ⟨⟨world, trace⟩, calls⟩ := origin
  subst silent idle
  have first : contract.Kept machine Post ⟨⟨world, []⟩, []⟩ :=
    ⟨started world begun, Contract.Since.refl _, Nat.le_refl _,
      fun _ none => absurd none (List.not_mem_nil), fun caller call none => by simp at none⟩
  have last := Contract.Kept.reaches first fulfilled path
  refine ⟨last.inv, Contract.Since.refl _, Nat.le_refl _, last.callers, ?_⟩
  intro caller call found
  obtain ⟨started, good, since, -, safe⟩ := last.safe caller call found
  refine ⟨started, good, since, fun beyond => ?_, safe⟩
  have bound := (List.getElem?_eq_some_iff.mp found).1
  omega

/-- A call that is done has established its postcondition for the moment of its start. -/
theorem Contract.KeptSince.finished (kept : contract.KeptSince machine Post origin running)
    {caller : Nat} {request : Request} {result : Result}
    (found : running.Finished caller request result) :
    ∃ started, contract.Inv started ∧ contract.Since started running.moment ∧
      (origin.calls.length ≤ caller → contract.Since origin.moment started) ∧
      Post request caller started result running.moment := by
  obtain ⟨started, good, since, fresh, safe⟩ := kept.safe caller _ found
  exact ⟨started, good, since, fresh, safe.finished kept.inv⟩

end Runs

end DiskServer.Library
