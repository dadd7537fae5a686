import DiskServer.Library.Transition

/-
This file gives threads that share one memory and the rule that proves what all of them keep.
-/

namespace DiskServer.Library

/-- A call enters the program at some thread state, and each advance of a thread is one atomic
operation on the shared memory. -/
structure ThreadProgram (Memory Thread Call Choice : Type) where
  enter : Call → Thread
  advance : Memory → Thread → Choice → Option (Memory × Thread)

structure Threads (Memory Thread : Type) where
  memory : Memory
  threads : List Thread

inductive ThreadAction (Call Choice : Type) where
  | enter (call : Call)
  | advance (index : Nat) (choice : Choice)

variable {Memory Thread Call Choice : Type}

namespace ThreadProgram

variable (program : ThreadProgram Memory Thread Call Choice)

def move (state : Threads Memory Thread) :
    ThreadAction Call Choice → Option (Threads Memory Thread)
  | .enter call => some { state with threads := state.threads ++ [program.enter call] }
  | .advance index choice => do
      let thread ← state.threads[index]?
      let (memory, next) ← program.advance state.memory thread choice
      return ⟨memory, state.threads.set index next⟩

/-- All interleavings of any calls, made at any time. -/
def system (start : Memory) : TransitionSystem (Threads Memory Thread) (ThreadAction Call Choice) where
  initial := fun state => state = ⟨start, []⟩
  step := program.move

/-- The operation that the action executes is allowed. -/
def Allows (allowed : Memory → Thread → Choice → Prop) (state : Threads Memory Thread) :
    ThreadAction Call Choice → Prop
  | .enter _ => True
  | .advance index choice => ∀ thread ∈ state.threads[index]?, allowed state.memory thread choice

instance (allowed : Memory → Thread → Choice → Prop)
    [∀ memory thread choice, Decidable (allowed memory thread choice)]
    (state : Threads Memory Thread) (action : ThreadAction Call Choice) :
    Decidable (Allows allowed state action) :=
  match action with
  | .enter _ => .isTrue trivial
  | .advance index choice =>
      inferInstanceAs (Decidable (∀ thread ∈ state.threads[index]?, allowed state.memory thread choice))

theorem allows_all {state : Threads Memory Thread} (action : ThreadAction Call Choice) :
    Allows (fun _ _ _ => True) state action := by
  cases action with
  | enter call => trivial
  | advance index choice => exact fun _ _ => trivial

end ThreadProgram

/-- A discipline counts the threads that hold something, relates their number to the memory, and says
what each thread relies on. -/
structure Discipline (Memory Thread : Type) where
  holds : Thread → Bool
  Inv : Memory → Nat → Prop
  Own : Memory → Thread → Prop

namespace Discipline

variable (discipline : Discipline Memory Thread)
  (program : ThreadProgram Memory Thread Call Choice)
  (allowed : Memory → Thread → Choice → Prop)

/-- How many holders one thread counts for. -/
def share (thread : Thread) : Nat := if discipline.holds thread then 1 else 0

/-- A thread enters without holding anything. An operation keeps the invariant with the number of the
other holders, and what its own thread and all others rely on. -/
structure Followed : Prop where
  enters : ∀ memory call, discipline.holds (program.enter call) = false ∧
    discipline.Own memory (program.enter call)
  keeps : ∀ memory thread choice after next others, allowed memory thread choice →
    program.advance memory thread choice = some (after, next) →
    discipline.Inv memory (others + discipline.share thread) → discipline.Own memory thread →
      discipline.Inv after (others + discipline.share next) ∧ discipline.Own after next ∧
      ∀ other, discipline.share other ≤ others → discipline.Own memory other →
        discipline.Own after other

def Kept (state : Threads Memory Thread) : Prop :=
  discipline.Inv state.memory (state.threads.countP discipline.holds) ∧
    ∀ thread ∈ state.threads, discipline.Own state.memory thread

variable {discipline program allowed}

/-- An operation that leaves the memory and the holding of its thread alone has to give the thread what
it relies on next. -/
theorem keeps_unchanged {memory : Memory} {thread next : Thread} {others : Nat}
    (inv : discipline.Inv memory (others + discipline.share thread))
    (same : discipline.holds next = discipline.holds thread) (own : discipline.Own memory next) :
    discipline.Inv memory (others + discipline.share next) ∧ discipline.Own memory next ∧
      ∀ other, discipline.share other ≤ others → discipline.Own memory other →
        discipline.Own memory other := by
  refine ⟨?_, own, fun _ _ kept => kept⟩
  unfold share at inv ⊢
  rw [same]
  exact inv

theorem Followed.kept_enter (followed : discipline.Followed program allowed)
    {state : Threads Memory Thread} (kept : discipline.Kept state) (call : Call) :
    discipline.Kept { state with threads := state.threads ++ [program.enter call] } := by
  obtain ⟨idle, own⟩ := followed.enters state.memory call
  constructor
  · rw [List.countP_append, List.countP_singleton, idle]
    exact kept.1
  · intro thread present
    rcases List.mem_append.mp present with old | new
    · exact kept.2 thread old
    · rw [List.mem_singleton.mp new]
      exact own

/-- A thread that goes on leaves the other holders as they are. -/
theorem countP_advance (discipline : Discipline Memory Thread) {threads : List Thread} {index : Nat} {thread : Thread}
    (found : threads[index]? = some thread) :
    ∃ others, threads.countP discipline.holds = others + discipline.share thread ∧
      (∀ next, (threads.set index next).countP discipline.holds = others + discipline.share next) ∧
      ∀ position other, position ≠ index → threads[position]? = some other →
        discipline.share other ≤ others := by
  induction threads generalizing index with
  | nil => cases found
  | cons head tail ih =>
      have headShare : ∀ item rest, (item :: rest).countP discipline.holds =
          rest.countP discipline.holds + discipline.share item := fun item rest => List.countP_cons
      cases index with
      | zero =>
          cases found
          refine ⟨tail.countP discipline.holds, headShare _ _, fun next => headShare _ _, ?_⟩
          intro position other away there
          cases position with
          | zero => exact absurd rfl away
          | succ position =>
              have inside := List.mem_of_getElem? (List.getElem?_cons_succ ▸ there)
              unfold share
              split
              · rename_i holding
                exact List.countP_pos_iff.mpr ⟨other, inside, holding⟩
              · exact Nat.zero_le _
      | succ index =>
          obtain ⟨others, total, replaced, apart⟩ := ih (List.getElem?_cons_succ ▸ found)
          refine ⟨others + discipline.share head, ?_, ?_, ?_⟩
          · rw [headShare, total]
            omega
          · intro next
            rw [List.set_cons_succ, headShare, replaced]
            omega
          · intro position other away there
            cases position with
            | zero =>
                cases there
                omega
            | succ position =>
                have bound := apart position other (by omega) (List.getElem?_cons_succ ▸ there)
                omega

theorem Followed.kept_move (followed : discipline.Followed program allowed)
    {state next : Threads Memory Thread} {action : ThreadAction Call Choice}
    (kept : discipline.Kept state) (guarded : ThreadProgram.Allows allowed state action)
    (moved : program.move state action = some next) : discipline.Kept next := by
  cases action with
  | enter call =>
      cases moved
      exact followed.kept_enter kept call
  | advance index choice =>
      obtain ⟨thread, found, rest⟩ := Option.bind_eq_some_iff.mp moved
      obtain ⟨⟨memory, later⟩, advanced, written⟩ := Option.bind_eq_some_iff.mp rest
      cases written
      obtain ⟨others, total, replaced, apart⟩ := countP_advance discipline found
      have here := kept.1
      rw [total] at here
      obtain ⟨inv, own, stable⟩ := followed.keeps state.memory thread choice memory later others
        (guarded thread found) advanced here (kept.2 thread (List.mem_of_getElem? found))
      constructor
      · change discipline.Inv memory ((state.threads.set index later).countP discipline.holds)
        rw [replaced]
        exact inv
      · intro other present
        obtain ⟨position, there⟩ := List.mem_iff_getElem?.mp present
        by_cases same : position = index
        · subst same
          rw [List.getElem?_set_self (List.getElem?_eq_some_iff.mp found).1] at there
          cases there
          exact own
        · rw [List.getElem?_set_ne (Ne.symm same)] at there
          exact stable other (apart position other same there)
            (kept.2 other (List.mem_of_getElem? there))

/-- A discipline that all threads follow holds in every reachable state. -/
theorem Followed.reachable (followed : discipline.Followed program allowed) {start : Memory}
    (started : discipline.Inv start 0) {state : Threads Memory Thread}
    (reachable : (program.system start).ReachableWhen (ThreadProgram.Allows allowed) state) :
    discipline.Kept state := by
  apply reachable.invariant discipline.Kept
  · rintro _ rfl
    exact ⟨started, fun _ none => absurd none List.not_mem_nil⟩
  · intro here action next kept guarded moved
    exact followed.kept_move kept guarded moved

end Discipline

end DiskServer.Library
