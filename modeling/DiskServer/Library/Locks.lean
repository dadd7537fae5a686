import DiskServer.Library.Transition
import Mathlib.Order.Basic

/-
This file gives exclusive locks of sessions, transactions that lock rows one after the other and hold them until they
end, and the rule that rules out cycles of transactions that wait for each other.
-/

namespace DiskServer.Library

/-- Each key is locked by one session at most. -/
def Locks (Key : Type*) := Key → Option Nat

namespace Locks

variable {Key : Type*}

def none : Locks Key := fun _ => .none

def Held (locks : Locks Key) (slot : Nat) (key : Key) : Prop := locks key = some slot

/-- A session can lock a key that nobody else holds. -/
def free (locks : Locks Key) (slot : Nat) (key : Key) : Bool := (locks key).all (· == slot)

def acquire [DecidableEq Key] (locks : Locks Key) (slot : Nat) (keys : List Key) : Locks Key :=
  fun key => if key ∈ keys then some slot else locks key

def release (locks : Locks Key) (slot : Nat) : Locks Key :=
  fun key => if locks key = some slot then .none else locks key

variable {locks : Locks Key} {slot other : Nat} {key : Key}

theorem Held.unique (one : locks.Held slot key) (two : locks.Held other key) : slot = other :=
  Option.some.inj (one.symm.trans two)

theorem Held.release (held : locks.Held other key) (differs : other ≠ slot) :
    (locks.release slot).Held other key := by
  unfold Held Locks.release at *
  rw [held, if_neg]
  exact fun same => differs (Option.some.inj same)

section Acquire

variable [DecidableEq Key] {keys : List Key}

theorem held_acquire_of_mem (listed : key ∈ keys) : (locks.acquire slot keys).Held slot key :=
  if_pos listed

theorem Held.acquire (held : locks.Held slot key) : (locks.acquire slot keys).Held slot key := by
  unfold Held Locks.acquire at *
  split
  · rfl
  · exact held

/-- A session that locks only free keys takes no lock from another one. -/
theorem Held.acquire_other (held : locks.Held other key)
    (allowed : ∀ wanted ∈ keys, locks.free slot wanted = true) (differs : other ≠ slot) :
    (locks.acquire slot keys).Held other key := by
  unfold Held Locks.acquire at *
  split
  · rename_i listed
    have mine := allowed key listed
    rw [free, held] at mine
    exact absurd (by simpa using mine) differs
  · exact held

end Acquire

end Locks

structure LockRequest (Row : Type) where
  row : Row
  shared : Bool
  deriving Repr, DecidableEq

/-- Two locks of one row conflict unless both are shared. -/
def LockRequest.conflicts {Row : Type} [DecidableEq Row] (one two : LockRequest Row) : Bool :=
  one.row = two.row && !(one.shared && two.shared)

/-- What a transaction does next unless it has ended, the locks that its statement still asks for, and the locks that
it holds. -/
structure LockSession (Row Phase : Type) where
  phase : Option Phase
  queue : List (LockRequest Row)
  held : List (LockRequest Row)
  deriving Repr, DecidableEq

/-- An operation opens in a phase. The statement of a phase locks the rows that it finds, one after the
other, before the next phase; rows of the last set may be deleted before. -/
structure LockProgram (Row Phase Operation Found : Type) where
  opening : Operation → Phase
  advance : Phase → List (LockRequest Row) → Found → Option (List (LockRequest Row) × Phase)
  deletable : Row → Bool

inductive LockAction (Operation Found : Type) where
  | start (operation : Operation)
  | ask (index : Nat) (found : Found)
  | grant (index : Nat)
  | skip (index : Nat)
  | finish (index : Nat)

variable {Row Phase Operation Found : Type} [DecidableEq Row]

namespace LockSession

def opened (phase : Phase) : LockSession Row Phase := ⟨some phase, [], []⟩

def ended : LockSession Row Phase := ⟨none, [], []⟩

/-- A session that has all the locks of its statement runs the next one. -/
def ask (program : LockProgram Row Phase Operation Found) (session : LockSession Row Phase) (found : Found) :
    Option (LockSession Row Phase) :=
  match session.phase, session.queue with
  | some phase, [] =>
      (program.advance phase session.held found).map fun asked => ⟨some asked.2, asked.1, session.held⟩
  | _, _ => none

/-- No other session holds a lock that conflicts with the request. -/
def free (sessions : List (LockSession Row Phase)) (index : Nat) (request : LockRequest Row) : Bool :=
  sessions.zipIdx.all fun other => other.2 = index || other.1.held.all fun lock => !lock.conflicts request

def grant (sessions : List (LockSession Row Phase)) (index : Nat) (session : LockSession Row Phase) :
    Option (LockSession Row Phase) :=
  match session.queue with
  | [] => none
  | request :: rest =>
      if free sessions index request then some ⟨session.phase, rest, request :: session.held⟩ else none

/-- A session that no longer has to wait for a row finds it deleted. -/
def skip (program : LockProgram Row Phase Operation Found) (sessions : List (LockSession Row Phase)) (index : Nat)
    (session : LockSession Row Phase) : Option (LockSession Row Phase) :=
  match session.queue with
  | [] => none
  | request :: rest =>
      if free sessions index request && program.deletable request.row then
        some ⟨session.phase, rest, session.held⟩
      else none

/-- A transaction that does not wait may end at any time, and it ends with all of its locks. -/
def finish (session : LockSession Row Phase) : Option (LockSession Row Phase) :=
  match session.queue with
  | [] => some ended
  | _ :: _ => none

end LockSession

/-- Any number of transactions, each for one operation, in any interleaving of their steps. -/
def LockProgram.system (program : LockProgram Row Phase Operation Found) :
    TransitionSystem (List (LockSession Row Phase)) (LockAction Operation Found) where
  initial := fun sessions => sessions = []
  step := fun sessions action =>
    match action with
    | .start operation => some (sessions ++ [.opened (program.opening operation)])
    | .ask index found =>
        sessions[index]?.bind fun session => (session.ask program found).map (sessions.set index)
    | .grant index =>
        sessions[index]?.bind fun session => (session.grant sessions index).map (sessions.set index)
    | .skip index =>
        sessions[index]?.bind fun session => (session.skip program sessions index).map (sessions.set index)
    | .finish index =>
        sessions[index]?.bind fun session => session.finish.map (sessions.set index)

/-- The first session asks for a lock that the second one holds. -/
def Waits (sessions : List (LockSession Row Phase)) (one two : Nat) : Prop :=
  one ≠ two ∧ ∃ first second request rest, sessions[one]? = some first ∧ first.queue = request :: rest ∧
    sessions[two]? = some second ∧ ∃ lock ∈ second.held, lock.conflicts request = true

/-- Some session waits for itself through other ones. -/
def Deadlocked (sessions : List (LockSession Row Phase)) : Prop :=
  ∃ index, Relation.TransGen (Waits sessions) index index

/-- Locks of different sessions do not conflict. -/
def Exclusive (sessions : List (LockSession Row Phase)) : Prop :=
  ∀ (one two : Nat) (first second : LockSession Row Phase), one ≠ two → sessions[one]? = some first →
    sessions[two]? = some second → ∀ lock ∈ first.held, ∀ other ∈ second.held, lock.conflicts other = false

/-- A session runs a statement only where what it is and what the statement finds are allowed. -/
def Asks (allowed : LockSession Row Phase → Found → Prop) (sessions : List (LockSession Row Phase)) :
    LockAction Operation Found → Prop
  | .ask index found => ∀ session ∈ sessions[index]?, allowed session found
  | _ => True

instance (allowed : LockSession Row Phase → Found → Prop) [∀ session found, Decidable (allowed session found)]
    (sessions : List (LockSession Row Phase)) :
    DecidablePred (@Asks _ _ Operation _ allowed sessions) := fun action =>
  match action with
  | .ask index found =>
      decidable_of_iff ((sessions[index]?).all fun session => decide (allowed session found)) (by
        simp only [Option.all_eq_true, decide_eq_true_eq]
        exact Iff.rfl)
  | .start _ => isTrue trivial
  | .grant _ => isTrue trivial
  | .skip _ => isTrue trivial
  | .finish _ => isTrue trivial

theorem LockRequest.conflicts_symm {one two : LockRequest Row} (apart : one.conflicts two = false) :
    two.conflicts one = false := by
  have same : two.conflicts one = one.conflicts two := by
    simp only [conflicts, eq_comm (a := two.row), Bool.and_comm two.shared]
  rw [same, apart]

section Ranks

variable {sessions : List (LockSession Row Phase)}

/-- A wait that only ever goes to sessions of a higher rank, among those that wait themselves, has no cycle. -/
theorem not_deadlocked_of_rank {Rank : Type*} [Preorder Rank] (rank : LockSession Row Phase → Rank)
    (rises : ∀ one two first second, Waits sessions one two → sessions[one]? = some first →
      sessions[two]? = some second → second.queue ≠ [] → rank first < rank second) : ¬Deadlocked sessions := by
  rintro ⟨index, cycle⟩
  have climbs : ∀ one two, Relation.TransGen (Waits sessions) one two → ∀ first second,
      sessions[one]? = some first → sessions[two]? = some second → second.queue ≠ [] → rank first < rank second := by
    intro one two path
    induction path with
    | single wait =>
        intro first second here there waiting
        exact rises _ _ _ _ wait here there waiting
    | tail _ wait ih =>
        intro first second here there waiting
        obtain ⟨_, middle, _, request, rest, found, queue, _⟩ := id wait
        have lower := ih first middle here found (by rw [queue]; exact List.cons_ne_nil _ _)
        exact lower.trans (rises _ _ _ _ wait found there waiting)
  obtain ⟨next, wait, _⟩ := Relation.TransGen.head'_iff.mp cycle
  obtain ⟨_, first, _, request, rest, found, queue, _⟩ := wait
  have waiting : first.queue ≠ [] := by
    rw [queue]
    exact List.cons_ne_nil _ _
  exact lt_irrefl _ (climbs index index cycle first first found found waiting)

end Ranks

section Invariants

variable {program : LockProgram Row Phase Operation Found}

omit [DecidableEq Row] in
theorem LockSession.ask_cases {session updated : LockSession Row Phase} {found : Found}
    (asked : session.ask program found = some updated) :
    ∃ phase queue later, session.phase = some phase ∧ session.queue = [] ∧
      program.advance phase session.held found = some (queue, later) ∧ updated = ⟨some later, queue, session.held⟩ := by
  unfold ask at asked
  split at asked
  · rename_i phase current idle
    obtain ⟨⟨queue, later⟩, advanced, same⟩ := Option.map_eq_some_iff.mp asked
    exact ⟨phase, queue, later, current, idle, advanced, same.symm⟩
  · cases asked

theorem LockSession.grant_cases {sessions : List (LockSession Row Phase)} {index : Nat}
    {session updated : LockSession Row Phase} (granted : session.grant sessions index = some updated) :
    ∃ request rest, session.queue = request :: rest ∧ free sessions index request = true ∧
      updated = ⟨session.phase, rest, request :: session.held⟩ := by
  unfold grant at granted
  split at granted
  · cases granted
  · rename_i request rest queue
    split at granted
    · rename_i unlocked
      exact ⟨request, rest, queue, unlocked, (Option.some.inj granted).symm⟩
    · cases granted

theorem LockSession.skip_cases {sessions : List (LockSession Row Phase)} {index : Nat}
    {session updated : LockSession Row Phase} (skipped : session.skip program sessions index = some updated) :
    ∃ request rest, session.queue = request :: rest ∧ program.deletable request.row = true ∧
      updated = ⟨session.phase, rest, session.held⟩ := by
  unfold skip at skipped
  split at skipped
  · cases skipped
  · rename_i request rest queue
    split at skipped
    · rename_i passed
      exact ⟨request, rest, queue, (Bool.and_eq_true_iff.mp passed).2, (Option.some.inj skipped).symm⟩
    · cases skipped

omit [DecidableEq Row] in
theorem LockSession.finish_eq {session updated : LockSession Row Phase} (finished : session.finish = some updated) :
    updated = ended := by
  unfold finish at finished
  split at finished
  · exact (Option.some.inj finished).symm
  · cases finished

/-- A lock that is free conflicts with no lock of another session. -/
theorem LockSession.free_right {sessions : List (LockSession Row Phase)} {index other : Nat}
    {request lock : LockRequest Row} {session : LockSession Row Phase} (unlocked : free sessions index request = true)
    (differs : other ≠ index) (found : sessions[other]? = some session) (holds : lock ∈ session.held) :
    lock.conflicts request = false := by
  have listed : (session, other) ∈ sessions.zipIdx := List.mem_zipIdx_iff_getElem?.mpr found
  have passed := List.all_eq_true.mp unlocked _ listed
  simp only [differs, decide_false, Bool.false_or] at passed
  simpa using List.all_eq_true.mp passed lock holds

/-- A step opens a session or changes one. -/
theorem LockProgram.step_cases {sessions next : List (LockSession Row Phase)} {action : LockAction Operation Found}
    (moved : program.system.step sessions action = some next) :
    (∃ operation, next = sessions ++ [.opened (program.opening operation)]) ∨
    ∃ index session updated, sessions[index]? = some session ∧ next = sessions.set index updated ∧
      ((∃ found, action = .ask index found ∧ session.ask program found = some updated) ∨
        session.grant sessions index = some updated ∨ session.skip program sessions index = some updated ∨
          session.finish = some updated) := by
  cases action with
  | start operation => exact .inl ⟨operation, (Option.some.inj moved).symm⟩
  | ask index found =>
      obtain ⟨session, here, moved⟩ := Option.bind_eq_some_iff.mp moved
      obtain ⟨updated, asked, same⟩ := Option.map_eq_some_iff.mp moved
      exact .inr ⟨index, session, updated, here, same.symm, .inl ⟨found, rfl, asked⟩⟩
  | grant index =>
      obtain ⟨session, here, moved⟩ := Option.bind_eq_some_iff.mp moved
      obtain ⟨updated, granted, same⟩ := Option.map_eq_some_iff.mp moved
      exact .inr ⟨index, session, updated, here, same.symm, .inr (.inl granted)⟩
  | skip index =>
      obtain ⟨session, here, moved⟩ := Option.bind_eq_some_iff.mp moved
      obtain ⟨updated, skipped, same⟩ := Option.map_eq_some_iff.mp moved
      exact .inr ⟨index, session, updated, here, same.symm, .inr (.inr (.inl skipped))⟩
  | finish index =>
      obtain ⟨session, here, moved⟩ := Option.bind_eq_some_iff.mp moved
      obtain ⟨updated, finished, same⟩ := Option.map_eq_some_iff.mp moved
      exact .inr ⟨index, session, updated, here, same.symm, .inr (.inr (.inr finished))⟩

/-- What every step of one session keeps holds of every session in every run. -/
theorem LockProgram.each_session {allowed : LockSession Row Phase → Found → Prop}
    (Good : LockSession Row Phase → Prop) (opens : ∀ operation, Good (.opened (program.opening operation)))
    (asks : ∀ session found phase queue later, Good session → allowed session found → session.phase = some phase →
      session.queue = [] → program.advance phase session.held found = some (queue, later) →
        Good ⟨some later, queue, session.held⟩)
    (grants : ∀ session request rest, Good session → session.queue = request :: rest →
      Good ⟨session.phase, rest, request :: session.held⟩)
    (skips : ∀ session request rest, Good session → session.queue = request :: rest →
      program.deletable request.row = true → Good ⟨session.phase, rest, session.held⟩)
    (ends : Good .ended) {sessions : List (LockSession Row Phase)}
    (reachable : program.system.ReachableWhen (Asks allowed) sessions) :
    ∀ session ∈ sessions, Good session := by
  apply reachable.invariant fun sessions => ∀ session ∈ sessions, Good session
  · intro sessions started
    rw [started]
    exact List.forall_mem_nil _
  · intro sessions action next good allows moved
    rcases step_cases moved with ⟨operation, rfl⟩ | ⟨index, session, updated, here, rfl, how⟩
    · exact List.forall_mem_append.mpr ⟨good, List.forall_mem_singleton.mpr (opens operation)⟩
    · have before : Good session := good session (List.mem_of_getElem? here)
      have after : Good updated := by
        rcases how with ⟨found, rfl, asked⟩ | granted | skipped | finished
        · obtain ⟨phase, queue, later, current, idle, advanced, rfl⟩ := LockSession.ask_cases asked
          exact asks session found phase queue later before (allows session here) current idle advanced
        · obtain ⟨request, rest, queue, _, rfl⟩ := LockSession.grant_cases granted
          exact grants session request rest before queue
        · obtain ⟨request, rest, queue, deletable, rfl⟩ := LockSession.skip_cases skipped
          exact skips session request rest before queue deletable
        · rw [LockSession.finish_eq finished]
          exact ends
      intro other listed
      rcases List.mem_or_eq_of_mem_set listed with old | rfl
      · exact good other old
      · exact after

/-- A session comes to hold no lock but a free one. -/
theorem LockSession.held_cases {sessions : List (LockSession Row Phase)} {index : Nat}
    {session updated : LockSession Row Phase} {lock : LockRequest Row}
    (how : (∃ found, session.ask program found = some updated) ∨ session.grant sessions index = some updated ∨
      session.skip program sessions index = some updated ∨ session.finish = some updated) (holds : lock ∈ updated.held) :
    lock ∈ session.held ∨ free sessions index lock = true := by
  rcases how with ⟨found, asked⟩ | granted | skipped | finished
  · obtain ⟨_, _, _, _, _, _, rfl⟩ := ask_cases asked
    exact .inl holds
  · obtain ⟨request, rest, _, unlocked, rfl⟩ := grant_cases granted
    rcases List.mem_cons.mp holds with rfl | old
    · exact .inr unlocked
    · exact .inl old
  · obtain ⟨_, _, _, _, rfl⟩ := skip_cases skipped
    exact .inl holds
  · rw [finish_eq finished] at holds
    cases holds

theorem Exclusive.append {sessions : List (LockSession Row Phase)} (apart : Exclusive sessions) (phase : Phase) :
    Exclusive (sessions ++ [.opened phase]) := by
  have old : ∀ (index : Nat) (session : LockSession Row Phase),
      (sessions ++ [.opened phase])[index]? = some session → ∀ lock ∈ session.held,
        sessions[index]? = some session := by
    intro index session found lock holds
    rcases Nat.lt_or_ge index sessions.length with inside | outside
    · rwa [List.getElem?_append_left inside] at found
    · rw [List.getElem?_append_right outside] at found
      have last := List.mem_singleton.mp (List.mem_of_getElem? found)
      rw [last] at holds
      cases holds
  intro one two first second differs here there lock holds other holds_too
  exact apart one two first second differs (old one first here lock holds) (old two second there other holds_too)
    lock holds other holds_too

theorem Exclusive.set {sessions : List (LockSession Row Phase)} (apart : Exclusive sessions) {index : Nat}
    {session updated : LockSession Row Phase} (here : sessions[index]? = some session)
    (how : ∀ lock ∈ updated.held, lock ∈ session.held ∨ LockSession.free sessions index lock = true) :
    Exclusive (sessions.set index updated) := by
  have changed : ∀ (two : Nat) (second : LockSession Row Phase), two ≠ index → sessions[two]? = some second →
      ∀ lock ∈ updated.held, ∀ other ∈ second.held, other.conflicts lock = false := by
    intro two second differs there lock holds other holds_too
    rcases how lock holds with old | unlocked
    · exact apart two index second session differs there here other holds_too lock old
    · exact LockSession.free_right unlocked differs there holds_too
  have inside : index < sessions.length := (List.getElem?_eq_some_iff.mp here).1
  intro one two first second differs found there lock holds other holds_too
  by_cases same : one = index
  · subst same
    rw [List.getElem?_set_self inside] at found
    rw [List.getElem?_set_ne differs] at there
    rw [← Option.some.inj found] at holds
    exact LockRequest.conflicts_symm (changed two second differs.symm there lock holds other holds_too)
  · rw [List.getElem?_set_ne (Ne.symm same)] at found
    by_cases also : two = index
    · subst also
      rw [List.getElem?_set_self inside] at there
      rw [← Option.some.inj there] at holds_too
      exact changed one first same found other holds_too lock holds
    · rw [List.getElem?_set_ne (Ne.symm also)] at there
      exact apart one two first second differs found there lock holds other holds_too

/-- Conflicting locks are never held by two sessions. -/
theorem LockProgram.exclusive {guard : List (LockSession Row Phase) → LockAction Operation Found → Prop}
    {sessions : List (LockSession Row Phase)} (reachable : program.system.ReachableWhen guard sessions) :
    Exclusive sessions := by
  apply reachable.invariant Exclusive
  · intro sessions started
    rw [started]
    intro one two first second _ here
    cases here
  · intro sessions action next apart _ moved
    rcases step_cases moved with ⟨operation, rfl⟩ | ⟨index, session, updated, here, rfl, how⟩
    · exact apart.append (program.opening operation)
    · apply apart.set here
      intro lock holds
      have step : (∃ found, session.ask program found = some updated) ∨
          session.grant sessions index = some updated ∨ session.skip program sessions index = some updated ∨
            session.finish = some updated := by
        rcases how with ⟨found, _, asked⟩ | other
        · exact .inl ⟨found, asked⟩
        · exact .inr other
      exact LockSession.held_cases step holds

end Invariants

end DiskServer.Library
