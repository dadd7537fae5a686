import DiskServer.Construction.Drive.ContentLocks
import Mathlib.Order.WithBot

namespace DiskServer.Drive.ContentLocks

open Library

/-- A transaction with the row locks that it holds and the phase that it is in. -/
abbrev Session := LockSession LockRow ReferencePhase

/-- What a transaction that waits waits for: contents above all that it has locked, or the job of a content that it
has locked, or the job alone. -/
def Awaits (session : Session) : Prop :=
  (∃ contentIds : List Nat, session.queue = contentIds.map contentLock ∧ contentIds.Pairwise (· < ·) ∧
    ∀ lock ∈ session.held, ∃ locked, lock = contentLock locked ∧ ∀ contentId ∈ contentIds, locked < contentId) ∨
  session.queue = [] ∨
  ∃ contentId shared, session.queue = [⟨.job contentId, shared⟩] ∧
    (contentLock contentId ∈ session.held ∨ session.held = [] ∧ session.phase = some .commit)

/-- What a transaction has locked when it comes to a statement. -/
def Prepared (session : Session) : ReferencePhase → Prop
  | .checkReferenceGate contentIds => ∀ contentId ∈ contentIds, contentLock contentId ∈ session.held
  | .enqueueOrRearm contentIds => ∀ contentId ∈ contentIds, contentLock contentId ∈ session.held
  | .markSucceeded contentId => (∀ lock ∈ session.held, lock = contentLock contentId) ∧
      ∀ lock ∈ session.queue, lock = contentLock contentId
  | .acquireLocked => True
  | .checkLocked _ => True
  | .decrementSelect _ => True
  | .commit => True
  | _ => session.held = [] ∧ session.queue = []

/-- A transaction that has locked a job has locked its content as well, unless the job is all that it needs. -/
structure Good (session : Session) : Prop where
  contents : ∀ lock ∈ session.held, ∀ contentId, lock.row = .content contentId → lock = contentLock contentId
  jobs : ∀ lock ∈ session.held, ∀ contentId, lock.row = .job contentId →
    contentLock contentId ∈ session.held ∨ session.phase = some .commit ∧ session.queue = []
  awaits : Awaits session
  prepared : ∀ phase ∈ session.phase, Prepared session phase

theorem mem_lockedContents {held : List (LockRequest LockRow)} {contentId : Nat} :
    contentId ∈ lockedContents held ↔ ∃ lock ∈ held, lock.row = .content contentId := by
  unfold lockedContents
  rw [List.mem_filterMap]
  constructor
  · rintro ⟨lock, holds, found⟩
    refine ⟨lock, holds, ?_⟩
    split at found
    · rename_i row
      rw [row, Option.some.inj found]
    · cases found
  · rintro ⟨lock, holds, row⟩
    exact ⟨lock, holds, by rw [row]⟩

theorem matching_right {wanted rows : List Nat} (matched : matching wanted rows = true) :
    rows.Nodup ∧ rows ⊆ wanted := by
  simpa [matching] using matched

/-- A statement that asks for one row finds it or finds nothing. -/
theorem matching_single {contentId : Nat} {rows : List Nat} (matched : matching [contentId] rows = true) :
    rows = [] ∨ rows = [contentId] := by
  obtain ⟨distinct, among⟩ := matching_right matched
  cases rows with
  | nil => exact .inl rfl
  | cons first rest =>
      have same := List.mem_singleton.mp (among List.mem_cons_self)
      cases rest with
      | nil => exact .inr (by rw [same])
      | cons second others =>
          have also := List.mem_singleton.mp (among (List.mem_cons_of_mem _ List.mem_cons_self))
          rw [same, also] at distinct
          exact absurd List.mem_cons_self (List.nodup_cons.mp distinct).1

section Steps

variable {session : Session} {phase later : ReferencePhase}

theorem Good.locked (good : Good session) {contentId : Nat} (found : contentId ∈ lockedContents session.held) :
    contentLock contentId ∈ session.held := by
  obtain ⟨lock, holds, row⟩ := mem_lockedContents.mp found
  rwa [← good.contents lock holds contentId row]

/-- Until its last statement a transaction has the content of each job that it has. -/
theorem Good.covered (good : Good session) (current : session.phase = some phase) (early : phase ≠ .commit)
    {lock : LockRequest LockRow} (holds : lock ∈ session.held) {contentId : Nat}
    (row : lock.row = .job contentId) : contentLock contentId ∈ session.held := by
  rcases good.jobs lock holds contentId row with found | ⟨last, _⟩
  · exact found
  · rw [current] at last
    exact absurd (Option.some.inj last) early

theorem good_of_idle (good : Good session) (current : session.phase = some phase) (early : phase ≠ .commit)
    (prepared : Prepared ⟨some later, [], session.held⟩ later) : Good ⟨some later, [], session.held⟩ where
  contents := good.contents
  jobs := fun _ holds _ row => .inl (good.covered current early holds row)
  awaits := .inr (.inl rfl)
  prepared := fun _ same => Option.some.inj same ▸ prepared

/-- A transaction that has no lock may ask for contents in the order of their ids. -/
theorem good_of_contents {contentIds : List Nat} (sorted : contentIds.Pairwise (· < ·))
    (prepared : Prepared ⟨some later, contentIds.map contentLock, []⟩ later) :
    Good ⟨some later, contentIds.map contentLock, []⟩ where
  contents := fun _ holds => absurd holds List.not_mem_nil
  jobs := fun _ holds => absurd holds List.not_mem_nil
  awaits := .inl ⟨contentIds, rfl, sorted, fun _ holds => absurd holds List.not_mem_nil⟩
  prepared := fun _ same => Option.some.inj same ▸ prepared

/-- A transaction that has a content may ask for the job of the content. -/
theorem good_of_job (good : Good session) (current : session.phase = some phase) (early : phase ≠ .commit)
    (contentId : Nat) (shared : Bool) (locked : contentLock contentId ∈ session.held)
    (prepared : Prepared ⟨some later, [⟨.job contentId, shared⟩], session.held⟩ later) :
    Good ⟨some later, [⟨.job contentId, shared⟩], session.held⟩ where
  contents := good.contents
  jobs := fun _ holds _ row => .inl (good.covered current early holds row)
  awaits := .inr (.inr ⟨contentId, shared, rfl, .inl locked⟩)
  prepared := fun _ same => Option.some.inj same ▸ prepared

theorem good_ask {rows : List Nat} {queue : List (LockRequest LockRow)} (good : Good session)
    (allowed : Ordered session rows) (current : session.phase = some phase)
    (advanced : advance phase session.held rows = some (queue, later)) :
    Good ⟨some later, queue, session.held⟩ := by
  have prepared := good.prepared phase current
  unfold Ordered at allowed
  rw [current] at allowed
  cases phase with
  | acquireSelect =>
      obtain ⟨held, _⟩ := prepared
      simp only [advance] at advanced
      split at advanced
      · rename_i single
        obtain ⟨rfl, rfl⟩ := Prod.mk.inj (Option.some.inj advanced)
        rw [held]
        have sorted : rows.Pairwise (· < ·) := by
          match rows, single with
          | [], _ => exact List.Pairwise.nil
          | [_], _ => exact List.pairwise_singleton _ _
        exact good_of_contents sorted trivial
      · cases advanced
  | acquireInsert =>
      obtain ⟨held, _⟩ := prepared
      simp only [advance] at advanced
      split at advanced
      · rename_i single
        obtain ⟨rfl, rfl⟩ := Prod.mk.inj (Option.some.inj advanced)
        obtain ⟨contentId, rfl⟩ := List.length_eq_one_iff.mp single
        rw [held]
        exact good_of_contents (List.pairwise_singleton _ _) trivial
      · cases advanced
  | acquireLocked =>
      simp only [advance] at advanced
      split at advanced
      · rename_i nothing
        obtain ⟨rfl, rfl⟩ := Prod.mk.inj (Option.some.inj advanced)
        apply good_of_idle good current ReferencePhase.noConfusion
        refine ⟨List.eq_nil_iff_forall_not_mem.mpr fun lock holds => ?_, rfl⟩
        have found : ∃ contentId, contentId ∈ lockedContents session.held := by
          cases row : lock.row with
          | content contentId => exact ⟨contentId, mem_lockedContents.mpr ⟨lock, holds, row⟩⟩
          | job contentId =>
              exact ⟨contentId, mem_lockedContents.mpr
                ⟨_, good.covered current ReferencePhase.noConfusion holds row, rfl⟩⟩
        obtain ⟨contentId, found⟩ := found
        rw [nothing] at found
        cases found
      · obtain ⟨rfl, rfl⟩ := Prod.mk.inj (Option.some.inj advanced)
        exact good_of_idle good current ReferencePhase.noConfusion fun contentId found => good.locked found
  | incrementSelect contentId =>
      obtain ⟨held, _⟩ := prepared
      simp only [advance] at advanced
      split at advanced
      · rename_i matched
        obtain ⟨rfl, rfl⟩ := Prod.mk.inj (Option.some.inj advanced)
        rw [held]
        rcases matching_single matched with rfl | rfl
        · exact good_of_contents List.Pairwise.nil trivial
        · exact good_of_contents (List.pairwise_singleton _ _) trivial
      · cases advanced
  | checkedSelect contentIds =>
      obtain ⟨held, _⟩ := prepared
      simp only [advance] at advanced
      split at advanced
      · rename_i matched
        obtain ⟨rfl, rfl⟩ := Prod.mk.inj (Option.some.inj advanced)
        rw [held]
        exact good_of_contents (of_decide_eq_true (Bool.and_eq_true_iff.mp matched).2) trivial
      · cases advanced
  | checkLocked contentIds =>
      obtain ⟨rfl, rfl⟩ := Prod.mk.inj (Option.some.inj advanced)
      apply good_of_idle good current ReferencePhase.noConfusion
      split
      · rename_i every
        intro contentId listed
        exact good.locked (List.contains_iff_mem.mp (List.all_eq_true.mp every contentId listed))
      · trivial
  | checkReferenceGate contentIds =>
      cases contentIds with
      | nil => cases advanced
      | cons contentId rest =>
          simp only [advance] at advanced
          split at advanced
          · rename_i matched
            obtain ⟨rfl, rfl⟩ := Prod.mk.inj (Option.some.inj advanced)
            have others : ∀ other ∈ rest, contentLock other ∈ session.held := fun other listed =>
              prepared other (List.mem_cons_of_mem _ listed)
            rcases matching_single matched with rfl | rfl
            · exact good_of_idle good current ReferencePhase.noConfusion others
            · exact good_of_job good current ReferencePhase.noConfusion contentId true
                (prepared contentId List.mem_cons_self) others
          · cases advanced
  | decrementUpdate contentIds =>
      obtain ⟨held, _⟩ := prepared
      simp only [advance] at advanced
      split at advanced
      · obtain ⟨rfl, rfl⟩ := Prod.mk.inj (Option.some.inj advanced)
        rw [held]
        exact good_of_contents allowed trivial
      · cases advanced
  | decrementSelect contentIds =>
      simp only [advance] at advanced
      split at advanced
      · obtain ⟨rfl, rfl⟩ := Prod.mk.inj (Option.some.inj advanced)
        exact good_of_idle good current ReferencePhase.noConfusion allowed
      · cases advanced
  | enqueueOrRearm contentIds =>
      cases contentIds with
      | nil => cases advanced
      | cons contentId rest =>
          obtain ⟨rfl, rfl⟩ := Prod.mk.inj (Option.some.inj advanced)
          exact good_of_job good current ReferencePhase.noConfusion contentId false
            (prepared contentId List.mem_cons_self) fun other listed =>
              prepared other (List.mem_cons_of_mem _ listed)
  | gcSelect contentId =>
      obtain ⟨held, _⟩ := prepared
      simp only [advance] at advanced
      split at advanced
      · rename_i matched
        obtain ⟨rfl, rfl⟩ := Prod.mk.inj (Option.some.inj advanced)
        rw [held]
        rcases matching_single matched with rfl | rfl
        · exact good_of_contents List.Pairwise.nil ⟨fun _ holds => absurd holds List.not_mem_nil,
            fun _ asks => absurd asks List.not_mem_nil⟩
        · exact good_of_contents (List.pairwise_singleton _ _) ⟨fun _ holds => absurd holds List.not_mem_nil,
            fun _ asks => List.mem_singleton.mp asks⟩
      · cases advanced
  | markSucceeded contentId =>
      simp only [advance] at advanced
      split at advanced
      · rename_i matched
        obtain ⟨rfl, rfl⟩ := Prod.mk.inj (Option.some.inj advanced)
        rcases matching_single matched with rfl | rfl
        · exact good_of_idle good current ReferencePhase.noConfusion trivial
        · cases held : session.held with
          | nil =>
              exact {
                contents := fun _ holds => absurd holds List.not_mem_nil
                jobs := fun _ holds => absurd holds List.not_mem_nil
                awaits := .inr (.inr ⟨contentId, false, rfl, .inr ⟨rfl, rfl⟩⟩)
                prepared := fun _ same => Option.some.inj same ▸ trivial }
          | cons lock others =>
              have locked : contentLock contentId ∈ session.held := by
                have holds : lock ∈ session.held := by
                  rw [held]
                  exact List.mem_cons_self
                rwa [prepared.1 lock holds] at holds
              rw [← held]
              exact good_of_job good current ReferencePhase.noConfusion contentId false locked trivial
      · cases advanced
  | commit => cases advanced

variable {request : LockRequest LockRow} {rest : List (LockRequest LockRow)}

/-- A session that waits stays prepared while its locks go from its queue to what it holds. -/
theorem Prepared.of_waiting {next : Session} (before : Prepared session phase) (queue : session.queue = request :: rest)
    (keeps : ∀ lock ∈ session.held, lock ∈ next.held)
    (holds : ∀ lock ∈ next.held, lock ∈ session.held ∨ lock ∈ request :: rest)
    (asks : ∀ lock ∈ next.queue, lock ∈ rest) : Prepared next phase := by
  have waiting : session.queue ≠ [] := by
    rw [queue]
    exact List.cons_ne_nil _ _
  cases phase with
  | checkReferenceGate contentIds => exact fun contentId listed => keeps _ (before contentId listed)
  | enqueueOrRearm contentIds => exact fun contentId listed => keeps _ (before contentId listed)
  | markSucceeded contentId =>
      obtain ⟨had, asked⟩ := before
      rw [queue] at asked
      constructor
      · intro lock found
        rcases holds lock found with old | fresh
        · exact had lock old
        · exact asked lock fresh
      · exact fun lock listed => asked lock (List.mem_cons_of_mem _ (asks lock listed))
  | acquireLocked => trivial
  | checkLocked contentIds => trivial
  | decrementSelect contentIds => trivial
  | commit => trivial
  | acquireSelect => exact absurd before.2 waiting
  | acquireInsert => exact absurd before.2 waiting
  | incrementSelect contentId => exact absurd before.2 waiting
  | checkedSelect contentIds => exact absurd before.2 waiting
  | decrementUpdate contentIds => exact absurd before.2 waiting
  | gcSelect contentId => exact absurd before.2 waiting

theorem good_grant (good : Good session) (queue : session.queue = request :: rest) :
    Good ⟨session.phase, rest, request :: session.held⟩ where
  contents := by
    intro lock holds contentId row
    rcases List.mem_cons.mp holds with rfl | old
    · rcases good.awaits with ⟨contentIds, asked, _, _⟩ | idle | ⟨other, shared, asked, _⟩
      · have listed : lock ∈ contentIds.map contentLock := by
          rw [← asked, queue]
          exact List.mem_cons_self
        obtain ⟨other, _, rfl⟩ := List.mem_map.mp listed
        rw [LockRow.content.inj row]
      · rw [queue] at idle
        cases idle
      · rw [queue] at asked
        rw [(List.cons.inj asked).1] at row
        cases row
    · exact good.contents lock old contentId row
  jobs := by
    intro lock holds contentId row
    rcases List.mem_cons.mp holds with rfl | old
    · rcases good.awaits with ⟨contentIds, asked, _, _⟩ | idle | ⟨other, shared, asked, locked⟩
      · have listed : lock ∈ contentIds.map contentLock := by
          rw [← asked, queue]
          exact List.mem_cons_self
        obtain ⟨other, _, rfl⟩ := List.mem_map.mp listed
        cases row
      · rw [queue] at idle
        cases idle
      · rw [queue] at asked
        obtain ⟨rfl, rfl⟩ := List.cons.inj asked
        obtain rfl := LockRow.job.inj row
        rcases locked with locked | ⟨_, last⟩
        · exact .inl (List.mem_cons_of_mem _ locked)
        · exact .inr ⟨last, rfl⟩
    · rcases good.jobs lock old contentId row with found | ⟨_, idle⟩
      · exact .inl (List.mem_cons_of_mem _ found)
      · rw [queue] at idle
        cases idle
  awaits := by
    rcases good.awaits with ⟨contentIds, asked, sorted, below⟩ | idle | ⟨contentId, shared, asked, _⟩
    · cases contentIds with
      | nil =>
          rw [queue] at asked
          cases asked
      | cons first others =>
          rw [queue] at asked
          obtain ⟨rfl, rfl⟩ := List.cons.inj asked
          obtain ⟨above, sorted⟩ := List.pairwise_cons.mp sorted
          refine .inl ⟨others, rfl, sorted, ?_⟩
          intro lock holds
          rcases List.mem_cons.mp holds with rfl | old
          · exact ⟨first, rfl, above⟩
          · obtain ⟨locked, same, lower⟩ := below lock old
            exact ⟨locked, same, fun contentId listed => lower contentId (List.mem_cons_of_mem _ listed)⟩
    · rw [queue] at idle
      cases idle
    · rw [queue] at asked
      exact .inr (.inl (List.cons.inj asked).2)
  prepared := by
    intro phase current
    apply (good.prepared phase current).of_waiting queue (fun _ => List.mem_cons_of_mem _) _ fun _ => id
    intro lock holds
    rcases List.mem_cons.mp holds with rfl | old
    · exact .inr List.mem_cons_self
    · exact .inl old

theorem good_skip (good : Good session) (queue : session.queue = request :: rest)
    (deletes : deletable request.row = true) : Good ⟨session.phase, rest, session.held⟩ where
  contents := good.contents
  jobs := by
    intro lock holds contentId row
    rcases good.jobs lock holds contentId row with found | ⟨_, idle⟩
    · exact .inl found
    · rw [queue] at idle
      cases idle
  awaits := by
    rcases good.awaits with ⟨contentIds, asked, sorted, below⟩ | idle | ⟨contentId, shared, asked, _⟩
    · cases contentIds with
      | nil =>
          rw [queue] at asked
          cases asked
      | cons first others =>
          rw [queue] at asked
          obtain ⟨rfl, rfl⟩ := List.cons.inj asked
          refine .inl ⟨others, rfl, (List.pairwise_cons.mp sorted).2, ?_⟩
          intro lock holds
          obtain ⟨locked, same, lower⟩ := below lock holds
          exact ⟨locked, same, fun contentId listed => lower contentId (List.mem_cons_of_mem _ listed)⟩
    · rw [queue] at idle
      cases idle
    · rw [queue] at asked
      rw [(List.cons.inj asked).1] at deletes
      cases deletes
  prepared := fun phase current =>
    (good.prepared phase current).of_waiting queue (fun _ => id) (fun _ => .inl) fun _ => id

end Steps

theorem good_opened (operation : ReferenceOperation) : Good (.opened operation.opening) where
  contents := fun _ holds => absurd holds List.not_mem_nil
  jobs := fun _ holds => absurd holds List.not_mem_nil
  awaits := .inr (.inl rfl)
  prepared := by
    intro phase current
    obtain rfl := Option.some.inj current
    cases operation with
    | acquireReference => exact ⟨rfl, rfl⟩
    | incrementRefCount contentId increment =>
        simp only [ReferenceOperation.opening]
        split
        · trivial
        · exact ⟨rfl, rfl⟩
    | incrementRefCountsChecked increments existingContentIds =>
        simp only [ReferenceOperation.opening]
        split
        · trivial
        · exact ⟨rfl, rfl⟩
    | decrementRefCountsAndEnqueueGc decrements =>
        simp only [ReferenceOperation.opening]
        split
        · trivial
        · exact ⟨rfl, rfl⟩
    | executeBlobGc contentId => exact ⟨rfl, rfl⟩

theorem good_ended : Good .ended where
  contents := fun _ holds => absurd holds List.not_mem_nil
  jobs := fun _ holds => absurd holds List.not_mem_nil
  awaits := .inr (.inl rfl)
  prepared := fun _ current => by cases current

/-- Ordered runs keep each transaction's locks in order. -/
theorem good_of_reachable {sessions : List Session}
    (reachable : program.system.ReachableWhen (Asks Ordered) sessions) : ∀ session ∈ sessions, Good session := by
  apply LockProgram.each_session Good good_opened _ _ _ good_ended reachable
  · intro session rows phase queue later good allowed current idle advanced
    exact good_ask good allowed current advanced
  · intro session request rest good queue
    exact good_grant good queue
  · intro session request rest good queue deletes
    exact good_skip good queue deletes

/-- Contents rank by their ids, and the job of a locked content ranks above them all. -/
def rank (session : Session) : WithTop Nat :=
  match session.queue with
  | [] => ⊤
  | ⟨.content contentId, _⟩ :: _ => WithTop.some (contentId + 1)
  | ⟨.job _, _⟩ :: _ => if session.held = [] then WithTop.some 0 else ⊤

section Ranks

variable {first second : Session} {request lock : LockRequest LockRow} {rest : List (LockRequest LockRow)}

/-- A session that holds a lock and waits for a job has the highest rank. -/
theorem rank_of_job {contentId : Nat} {shared : Bool} (asked : second.queue = [⟨.job contentId, shared⟩])
    (holds : lock ∈ second.held) : rank second = ⊤ := by
  unfold rank
  rw [asked]
  exact if_neg (List.ne_nil_of_mem holds)

/-- A transaction waits only for one of a higher rank. -/
theorem rank_lt_of_waits {sessions : List Session} (apart : Exclusive sessions)
    (goods : ∀ session ∈ sessions, Good session) {one two : Nat} (wait : Waits sessions one two)
    (here : sessions[one]? = some first) (there : sessions[two]? = some second) (waiting : second.queue ≠ []) :
    rank first < rank second := by
  obtain ⟨differs, found, other, request, rest, same, queue, also, lock, holds, conflicts⟩ := wait
  obtain rfl := Option.some.inj (same.symm.trans here)
  obtain rfl := Option.some.inj (also.symm.trans there)
  have good := goods found (List.mem_of_getElem? here)
  have goodOther := goods other (List.mem_of_getElem? there)
  have row : lock.row = request.row := by
    have both := (Bool.and_eq_true_iff.mp conflicts).1
    simpa using both
  rcases good.awaits with ⟨contentIds, asked, _, _⟩ | idle | ⟨contentId, shared, asked, locked⟩
  · cases contentIds with
    | nil =>
        rw [queue] at asked
        cases asked
    | cons contentId others =>
        rw [queue] at asked
        obtain ⟨rfl, _⟩ := List.cons.inj asked
        have low : rank found = WithTop.some (contentId + 1) := by
          unfold rank
          rw [queue]
          rfl
        rcases goodOther.awaits with ⟨wanted, asks, _, below⟩ | idle | ⟨wanted, shared, asks, _⟩
        · cases wanted with
          | nil => exact absurd asks waiting
          | cons next later =>
              obtain ⟨locked, rfl, lower⟩ := below lock holds
              obtain rfl := LockRow.content.inj row
              have high : rank other = WithTop.some (next + 1) := by
                unfold rank
                rw [asks]
                rfl
              rw [low, high]
              exact WithTop.coe_lt_coe.mpr (Nat.succ_lt_succ (lower next List.mem_cons_self))
        · exact absurd idle waiting
        · rw [low, rank_of_job asks holds]
          exact WithTop.coe_lt_top _
  · rw [queue] at idle
    cases idle
  · rw [queue] at asked
    obtain ⟨rfl, rfl⟩ := List.cons.inj asked
    rcases goodOther.awaits with ⟨wanted, asks, _, below⟩ | idle | ⟨wanted, kind, asks, _⟩
    · obtain ⟨content, rfl, _⟩ := below lock holds
      cases row
    · exact absurd idle waiting
    · rcases locked with locked | ⟨nothing, _⟩
      · -- The content of the job would be locked by both sessions.
        rcases goodOther.jobs lock holds contentId row with also | ⟨_, idle⟩
        · have free := apart one two found other differs here there _ locked _ also
          simp [contentLock, LockRequest.conflicts] at free
        · exact absurd idle waiting
      · have low : rank found = WithTop.some 0 := by
          unfold rank
          rw [queue]
          exact if_pos nothing
        rw [low, rank_of_job asks holds]
        exact WithTop.coe_lt_top _

end Ranks

/-- No run in which every decrement locks its rows in the order of their ids reaches a cycle of transactions that wait
for each other. -/
theorem content_transactions_never_deadlock (sessions : List Session)
    (reachable : program.system.ReachableWhen (Asks Ordered) sessions) : ¬Deadlocked sessions := by
  apply not_deadlocked_of_rank rank
  intro one two first second wait here there waiting
  exact rank_lt_of_waits (LockProgram.exclusive reachable) (good_of_reachable reachable) wait here there waiting

/-- Two decrements of the same two contents, the second of which waits for the first one. -/
theorem decrements_wait_without_deadlock :
    ∃ sessions, program.system.ReachableWhen (Asks Ordered) sessions ∧ Waits sessions 1 0 ∧ ¬Deadlocked sessions := by
  obtain ⟨sessions, reachable, same⟩ := program.system.exists_reachableWhen_of_runWhen (Asks Ordered)
    [.start (.decrementRefCountsAndEnqueueGc [(1, 1), (2, 1)]),
      .start (.decrementRefCountsAndEnqueueGc [(2, 1), (1, 1)]),
      .ask 0 [1, 2], .ask 1 [1, 2], .grant 0]
    (fun sessions => sessions =
      [⟨some (.decrementSelect [1, 2]), [contentLock 2], [contentLock 1]⟩,
        ⟨some (.decrementSelect [2, 1]), [contentLock 1, contentLock 2], []⟩]) rfl (by decide)
  have reached := of_decide_eq_true same
  refine ⟨sessions, reachable, ?_, content_transactions_never_deadlock sessions reachable⟩
  rw [reached]
  exact ⟨by decide, _, _, _, _, rfl, rfl, rfl, contentLock 1, List.mem_cons_self, rfl⟩

/-- Two decrements that meet the rows of two contents in opposite orders wait for each other. -/
theorem decrements_deadlock :
    ¬∀ sessions, program.system.Reachable sessions → ¬Deadlocked sessions := by
  intro never
  obtain ⟨sessions, reachable, same⟩ := program.system.exists_reachable_of_run
    [.start (.decrementRefCountsAndEnqueueGc [(1, 1), (2, 1)]),
      .start (.decrementRefCountsAndEnqueueGc [(1, 1), (2, 1)]),
      .ask 0 [1, 2], .ask 1 [2, 1], .grant 0, .grant 1]
    (fun sessions => sessions =
      [⟨some (.decrementSelect [1, 2]), [contentLock 2], [contentLock 1]⟩,
        ⟨some (.decrementSelect [1, 2]), [contentLock 1], [contentLock 2]⟩]) rfl (by decide)
  have reached := of_decide_eq_true same
  have forth : Waits sessions 0 1 := by
    rw [reached]
    exact ⟨by decide, _, _, _, _, rfl, rfl, rfl, contentLock 2, List.mem_cons_self, rfl⟩
  have back : Waits sessions 1 0 := by
    rw [reached]
    exact ⟨by decide, _, _, _, _, rfl, rfl, rfl, contentLock 1, List.mem_cons_self, rfl⟩
  exact never sessions reachable ⟨0, Relation.TransGen.head forth (Relation.TransGen.single back)⟩

end DiskServer.Drive.ContentLocks
