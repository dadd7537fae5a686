import DiskServer.Construction.Auth.AccountSystem
import DiskServer.Proof.Auth.AuthService
import Mathlib.Data.List.Nodup
import Mathlib.Data.List.Perm.Subperm

namespace DiskServer.Auth

open Library

section Steps

/-- The columns that a successful login writes. -/
def UserRow.loggedIn (user : UserRow) : UserRow :=
  { user with status := accountStatusActive, loginAttempts := 0, lockedUntil := none }

/-- The columns that a counted failure writes. -/
def UserRow.failedLogin (user : UserRow) (now : Nat) : UserRow :=
  { user with
    status := accountStatusActive
    loginAttempts := if user.deadlinePassed now then 1 else user.loginAttempts + 1
    lockedUntil :=
      if loginFailureLimit ≤ (if user.deadlinePassed now then 1 else user.loginAttempts + 1) then
        some (now + 900)
      else
        none }

theorem updateLoginInfo_cases {auth : AuthState} {id : UInt64} :
    ((auth.findOne id).any (fun user => user.mayLogin auth.now) = true ∧
      auth.updateLoginInfo id = .ok (auth.updateUser id UserRow.loggedIn)) ∨
    ∃ code, auth.updateLoginInfo id = .error code := by
  unfold AuthState.updateLoginInfo
  split
  · rename_i allowed
    exact .inl ⟨allowed, rfl⟩
  · right
    split
    · exact ⟨_, rfl⟩
    · exact ⟨_, rfl⟩

variable {state next : AccountState} {action : AccountAction}

/-- A step leaves the rows and the events alone, or it is one of three recorded statements. -/
theorem step_cases (moved : state.step action = some next) :
    (next.auth.users = state.auth.users ∧ next.events = state.events) ∨
    (∃ userId, (state.auth.findOne userId).any (fun user => user.mayLogin state.auth.now) = true ∧
      next.auth = state.auth.updateUser userId UserRow.loggedIn ∧
      next.events = .succeeded userId state.auth.now :: state.events) ∨
    (∃ userId, (state.auth.findOne userId).any (fun user => user.mayLogin state.auth.now) = true ∧
      next.auth = state.auth.incrementLoginAttempts userId ∧
      next.events = .failed userId state.auth.now :: state.events) ∨
    (∃ slot session, action = .writeTarget slot ∧ state.changes[slot]? = some session ∧
      next.auth = state.auth.updateUser session.targetId session.change.apply ∧
      next.events = match session.change with
        | .status _ => .statusChanged session.targetId :: state.events
        | _ => state.events) := by
  cases action with
  | tick seconds =>
      cases moved
      exact .inl ⟨rfl, rfl⟩
  | findUser account =>
      obtain ⟨user, -, rfl⟩ := Option.map_eq_some_iff.mp moved
      exact .inl ⟨rfl, rfl⟩
  | validateAccountAccess slot =>
      obtain ⟨session, -, moved₁⟩ := Option.bind_eq_some_iff.mp moved
      split at moved₁
      · split at moved₁
        · cases moved₁
          exact .inl ⟨rfl, rfl⟩
        · cases moved₁
          exact .inl ⟨rfl, rfl⟩
      · cases moved₁
  | verifyPassword slot passwordMatches =>
      obtain ⟨session, -, moved₁⟩ := Option.bind_eq_some_iff.mp moved
      split at moved₁
      · cases moved₁
        exact .inl ⟨rfl, rfl⟩
      · cases moved₁
  | updateLoginInfo slot =>
      obtain ⟨session, -, moved₁⟩ := Option.bind_eq_some_iff.mp moved
      split at moved₁
      · rcases updateLoginInfo_cases with ⟨allowed, updated⟩ | ⟨code, refused⟩
        · rw [updated] at moved₁
          cases moved₁
          exact .inr (.inl ⟨session.userId, allowed, rfl, rfl⟩)
        · rw [refused] at moved₁
          cases moved₁
          exact .inl ⟨rfl, rfl⟩
      · cases moved₁
  | incrementLoginAttempts slot =>
      obtain ⟨session, -, moved₁⟩ := Option.bind_eq_some_iff.mp moved
      split at moved₁
      · split at moved₁
        · rename_i allowed
          cases moved₁
          exact .inr (.inr (.inl ⟨session.userId, allowed, rfl, rfl⟩))
        · cases moved₁
          exact .inl ⟨rfl, rfl⟩
      · cases moved₁
  | abandonLogin slot =>
      cases moved
      exact .inl ⟨rfl, rfl⟩
  | readTarget operatorId targetId change =>
      obtain ⟨user, -, moved₁⟩ := Option.bind_eq_some_iff.mp moved
      split at moved₁
      · cases moved₁
        exact .inl ⟨rfl, rfl⟩
      · cases moved₁
  | countAdministrators slot =>
      obtain ⟨session, -, moved₁⟩ := Option.bind_eq_some_iff.mp moved
      split at moved₁
      · split at moved₁
        · cases moved₁
          exact .inl ⟨rfl, rfl⟩
        · cases moved₁
          exact .inl ⟨rfl, rfl⟩
      · cases moved₁
  | writeTarget slot =>
      obtain ⟨session, found, moved₁⟩ := Option.bind_eq_some_iff.mp moved
      split at moved₁
      · cases moved₁
      · cases moved₁
        exact .inr (.inr (.inr ⟨slot, session, rfl, found, rfl, rfl⟩))
  | abandonChange slot =>
      cases moved
      exact .inl ⟨rfl, rfl⟩

/-- An update changes the row of its user and no other. -/
theorem mem_updateUser {auth : AuthState} {id : UInt64} {change : UserRow → UserRow} {row : UserRow} :
    row ∈ (auth.updateUser id change).users ↔
      ∃ user ∈ auth.users, row = if user.id = id then change user else user := by
  unfold AuthState.updateUser
  simp only [List.mem_map]
  constructor
  · rintro ⟨user, present, rfl⟩
    exact ⟨user, present, rfl⟩
  · rintro ⟨user, present, rfl⟩
    exact ⟨user, present, rfl⟩

theorem incrementLoginAttempts_eq {auth : AuthState} {id : UInt64} :
    auth.incrementLoginAttempts id = auth.updateUser id fun user =>
      if user.mayLogin auth.now = false then user else user.failedLogin auth.now := rfl

/-- Every step keeps the keys of the rows distinct. -/
theorem step_keyed (keyed : (state.auth.users.map UserRow.id).Nodup)
    (moved : state.step action = some next) : (next.auth.users.map UserRow.id).Nodup := by
  rcases step_cases moved with ⟨users, -⟩ | ⟨userId, -, auth, -⟩ | ⟨userId, -, auth, -⟩ |
    ⟨slot, session, -, -, auth, -⟩
  · rwa [users]
  · have keys : (state.auth.updateUser userId UserRow.loggedIn).users.map UserRow.id =
        state.auth.users.map UserRow.id := updateUser_keys fun _ => rfl
    rwa [auth, keys]
  · rwa [auth, (incrementLoginAttempts_continues).keys]
  · have keys : (state.auth.updateUser session.targetId session.change.apply).users.map UserRow.id =
        state.auth.users.map UserRow.id := updateUser_keys fun user => by cases session.change <;> rfl
    rwa [auth, keys]

end Steps

section Administrators

/-- An administrator whose account is active. -/
def UserRow.Administers (user : UserRow) : Prop := user.role = 1 ∧ user.status = accountStatusActive

instance (user : UserRow) : Decidable user.Administers := by
  unfold UserRow.Administers
  infer_instance

/-- Some stored user is an active administrator. -/
def AccountState.Administered (state : AccountState) : Prop :=
  ∃ user ∈ state.auth.users, user.Administers

/-- The operator of a change is an active administrator at this moment. -/
def AccountState.OperatorAdministers (state : AccountState) (session : ChangeSession) : Prop :=
  ∃ operator ∈ state.auth.users, operator.id = session.operatorId ∧ operator.Administers

/-- The check of a demotion, made at this moment and over the active administrators. -/
def AccountState.CountAllows (state : AccountState) : Prop :=
  1 < state.auth.users.countP fun user => decide user.Administers

/-- The write takes the role or the active status from an active administrator. -/
def AccountState.Removes (state : AccountState) (session : ChangeSession) : Prop :=
  ∃ user ∈ state.auth.users, user.id = session.targetId ∧ user.Administers ∧
    ¬ (session.change.apply user).Administers

/-- Neither the operator nor, at a demotion, the count is out of date at the write. -/
def AccountState.Current (state : AccountState) : AccountAction → Prop
  | .writeTarget slot => ∀ session ∈ state.changes[slot]?, state.Removes session →
      state.OperatorAdministers session ∨ session.change = .role 0 ∧ state.CountAllows
  | _ => True

variable {state next : AccountState} {action : AccountAction}

theorem administered_updateUser {auth : AuthState} {id : UInt64} {change : UserRow → UserRow}
    (kept : ∀ user ∈ auth.users, user.id = id → user.Administers →
      (change user).Administers ∨ ∃ other ∈ auth.users, other.id ≠ id ∧ other.Administers)
    (before : ∃ user ∈ auth.users, user.Administers) :
    ∃ row ∈ (auth.updateUser id change).users, row.Administers := by
  have unchanged : (∃ other ∈ auth.users, other.id ≠ id ∧ other.Administers) →
      ∃ row ∈ (auth.updateUser id change).users, row.Administers := by
    rintro ⟨other, present, different, administers⟩
    exact ⟨other, mem_updateUser.mpr ⟨other, present, (if_neg different).symm⟩, administers⟩
  obtain ⟨user, present, administers⟩ := before
  by_cases same : user.id = id
  · rcases kept user present same administers with still | others
    · exact ⟨change user, mem_updateUser.mpr ⟨user, present, (if_pos same).symm⟩, still⟩
    · exact unchanged others
  · exact unchanged ⟨user, present, same, administers⟩

/-- Of two active administrators one is not the target. -/
theorem other_of_countAllows {id : UInt64} (keyed : (state.auth.users.map UserRow.id).Nodup)
    (allowed : state.CountAllows) : ∃ other ∈ state.auth.users, other.id ≠ id ∧ other.Administers := by
  by_contra alone
  have single : ∀ user ∈ state.auth.users.filter (fun user => decide user.Administers), user.id = id := by
    intro user present
    obtain ⟨stored, administers⟩ := List.mem_filter.mp present
    by_contra different
    exact alone ⟨user, stored, different, of_decide_eq_true administers⟩
  have keys : ((state.auth.users.filter fun user => decide user.Administers).map UserRow.id).Nodup :=
    keyed.sublist (List.filter_sublist.map UserRow.id)
  rw [List.map_eq_replicate_iff.mpr single, List.nodup_replicate] at keys
  unfold AccountState.CountAllows at allowed
  rw [List.countP_eq_length_filter] at allowed
  omega

/-- A step that meets the condition leaves an active administrator. -/
theorem step_administered (keyed : (state.auth.users.map UserRow.id).Nodup)
    (current : state.Current action) (before : state.Administered)
    (moved : state.step action = some next) : next.Administered := by
  unfold AccountState.Administered at before ⊢
  rcases step_cases moved with ⟨users, -⟩ | ⟨userId, -, auth, -⟩ | ⟨userId, -, auth, -⟩ |
    ⟨slot, session, rfl, found, auth, -⟩
  · rw [users]
    exact before
  · rw [auth]
    exact administered_updateUser (fun user _ _ administers => .inl ⟨administers.1, rfl⟩) before
  · rw [auth, incrementLoginAttempts_eq]
    refine administered_updateUser (fun user _ _ administers => .inl ?_) before
    split
    · exact administers
    · exact ⟨administers.1, rfl⟩
  · rw [auth]
    refine administered_updateUser (fun user present same administers => ?_) before
    by_cases still : (session.change.apply user).Administers
    · exact .inl still
    · right
      rcases current session found ⟨user, present, same, administers, still⟩ with
        ⟨operator, stored, named, able⟩ | ⟨-, allowed⟩
      · exact ⟨operator, stored, by rw [named]; exact session.notSelf.symm, able⟩
      · exact other_of_countAllows keyed allowed

/-- A write that removes an administrator leaves none when the count at this moment refuses it. -/
theorem not_administered_of_refused {slot : Nat} {session : ChangeSession}
    (keyed : (state.auth.users.map UserRow.id).Nodup) (found : state.changes[slot]? = some session)
    (removes : state.Removes session) (refused : ¬ state.CountAllows)
    (moved : state.step (.writeTarget slot) = some next) : ¬ next.Administered := by
  rintro ⟨row, written, administers⟩
  obtain ⟨target, present, same, able, lost⟩ := removes
  have auth : next.auth = state.auth.updateUser session.targetId session.change.apply := by
    obtain ⟨_, found₁, moved₁⟩ := Option.bind_eq_some_iff.mp moved
    cases found.symm.trans found₁
    split at moved₁
    · cases moved₁
    · cases moved₁
      rfl
  rw [auth] at written
  obtain ⟨old, stored, rfl⟩ := mem_updateUser.mp written
  by_cases named : old.id = session.targetId
  · rw [if_pos named, List.inj_on_of_nodup_map keyed stored present (named.trans same.symm)] at administers
    exact lost administers
  · rw [if_neg named] at administers
    have pair : List.Subperm [old, target] (state.auth.users.filter fun user => decide user.Administers) := by
      have different : old ≠ target := fun equal => named (by rw [equal]; exact same)
      refine List.Nodup.subperm (by simpa using different) ?_
      simp [stored, present, administers, able]
    have two := pair.length_le
    rw [← List.countP_eq_length_filter] at two
    exact refused two

instance (state : AccountState) : DecidablePred state.Current := fun action =>
  match action with
  | .writeTarget slot => by
      unfold AccountState.Current AccountState.Removes AccountState.OperatorAdministers
        AccountState.CountAllows
      infer_instance
  | .tick .. | .findUser .. | .validateAccountAccess .. | .verifyPassword .. | .updateLoginInfo ..
  | .incrementLoginAttempts .. | .abandonLogin .. | .readTarget .. | .countAdministrators ..
  | .abandonChange .. => .isTrue trivial

/-- An administrator remains in every state of a run whose writes meet the condition. -/
theorem administrator_remains {start last : AccountState}
    (keyed : (start.auth.users.map UserRow.id).Nodup) (before : start.Administered)
    (path : accountSystem.ReachesWhen AccountState.Current start last) : last.Administered := by
  refine (path.keeps (fun state => (state.auth.users.map UserRow.id).Nodup ∧ state.Administered) ?_
    ⟨keyed, before⟩).2
  rintro state action next ⟨keyed, administered⟩ current moved
  exact ⟨step_keyed keyed moved, step_administered keyed current administered moved⟩

/-- Two active administrators. -/
def duelStart : AccountState := ⟨twoAdministrators, [], [], []⟩

theorem duelStart_initial : accountSystem.initial duelStart :=
  ⟨rfl, rfl, rfl, by decide, by decide⟩

theorem duelStart_administered : duelStart.Administered :=
  ⟨_, List.mem_cons_self, rfl, rfl⟩

/-- Both administrators ask to demote the other one, and the second request counts too late. -/
theorem administrator_remains_duel : ∃ last : AccountState, last.Administered ∧ last.changes = [] := by
  have ran : (accountSystem.runWhen AccountState.Current duelStart
      [.readTarget 1 2 (.role 0), .readTarget 2 1 (.role 0), .countAdministrators 0, .writeTarget 0,
        .countAdministrators 0]).any (fun last => last.changes = []) = true := by decide +kernel
  obtain ⟨last, reached, idle⟩ := (Option.any_eq_true _ _).mp ran
  have path := accountSystem.reachesWhen_of_runWhen AccountState.Current reached
  exact ⟨last, administrator_remains (by decide) duelStart_administered path, of_decide_eq_true idle⟩

/-- Both requests count two administrators before either of them writes. -/
theorem administrators_demote_each_other :
    ¬ ∀ start last, accountSystem.initial start → start.Administered → accountSystem.Reaches start last →
      last.Administered := by
  intro remains
  have ran : (accountSystem.run duelStart
      [.readTarget 1 2 (.role 0), .readTarget 2 1 (.role 0), .countAdministrators 0,
        .countAdministrators 1, .writeTarget 0, .writeTarget 0]).any
          (fun last => last.auth.users.all fun user => !decide user.Administers) = true := by decide +kernel
  obtain ⟨last, reached, none⟩ := (Option.any_eq_true _ _).mp ran
  obtain ⟨user, present, administers⟩ :=
    remains duelStart last duelStart_initial duelStart_administered (accountSystem.reaches_of_run reached)
  have denied := List.all_eq_true.mp none user present
  rw [decide_eq_true administers] at denied
  cases denied

end Administrators

section Lockout

/-- The failures of a user that follow the last success, the last expired lock and, when it counts, the
last status change. -/
def failureStreak (changesCount : Bool) (userId : UInt64) : List AccountEvent → Nat
  | [] => 0
  | .succeeded id _ :: earlier => if id = userId then 0 else failureStreak changesCount userId earlier
  | .failed id _ :: earlier =>
      if id = userId then
        -- A failure is counted behind a full streak only after the lock has expired.
        if loginFailureLimit ≤ failureStreak changesCount userId earlier then 1
        else failureStreak changesCount userId earlier + 1
      else
        failureStreak changesCount userId earlier
  | .statusChanged id :: earlier =>
      if id = userId ∧ changesCount = true then 0 else failureStreak changesCount userId earlier

/-- The time of the last failed login of a user. -/
def lastFailure (userId : UInt64) : List AccountEvent → Option Nat
  | [] => none
  | .failed id time :: earlier => if id = userId then some time else lastFailure userId earlier
  | _ :: earlier => lastFailure userId earlier

/-- The deadline that the recorded events give to a user. -/
def lockDeadline (userId : UInt64) (events : List AccountEvent) : Option Nat :=
  if loginFailureLimit ≤ failureStreak true userId events then
    (lastFailure userId events).map (· + 900)
  else
    none

/-- The columns of a row agree with the events. -/
structure UserRow.Agrees (user : UserRow) (events : List AccountEvent) : Prop where
  attempts : user.loginAttempts = failureStreak true user.id events
  deadline : user.lockedUntil = lockDeadline user.id events

/-- Every row agrees with the events of its user. -/
structure AccountState.Lockout (state : AccountState) : Prop where
  keyed : (state.auth.users.map UserRow.id).Nodup
  rows : ∀ user ∈ state.auth.users, user.Agrees state.events

variable {user : UserRow} {events : List AccountEvent}

theorem agrees_succeeded {userId : UInt64} {time : Nat} (agrees : user.Agrees events) :
    (if user.id = userId then user.loggedIn else user).Agrees (.succeeded userId time :: events) := by
  by_cases same : user.id = userId
  · rw [if_pos same]
    have streak : failureStreak true user.id (.succeeded userId time :: events) = 0 := if_pos same.symm
    refine ⟨streak.symm, ?_⟩
    change none = lockDeadline user.id _
    rw [lockDeadline, streak]
    rfl
  · rw [if_neg same]
    have streak : failureStreak true user.id (.succeeded userId time :: events) =
        failureStreak true user.id events := if_neg (Ne.symm same)
    refine ⟨agrees.attempts.trans streak.symm, ?_⟩
    rw [agrees.deadline, lockDeadline, lockDeadline, streak]
    rfl

/-- A row that may log in is unlocked, or its lock has expired. -/
theorem deadlinePassed_of_mayLogin {now : Nat} (allowed : user.mayLogin now = true) :
    user.deadlinePassed now = user.lockedUntil.isSome := by
  unfold UserRow.mayLogin UserRow.deadlinePassed at allowed
  unfold UserRow.deadlinePassed
  cases deadline : user.lockedUntil with
  | none => rfl
  | some time =>
      rw [deadline] at allowed
      by_cases passed : time ≤ now
      · exact decide_eq_true passed
      · simp [passed] at allowed

theorem streak_of_no_failure {userId : UInt64} (none : lastFailure userId events = none) :
    failureStreak true userId events = 0 := by
  induction events with
  | nil => rfl
  | cons event earlier ih =>
      cases event with
      | succeeded id time =>
          unfold failureStreak
          split
          · rfl
          · exact ih none
      | failed id time =>
          unfold lastFailure at none
          split at none
          · cases none
          · rename_i different
            unfold failureStreak
            rw [if_neg different]
            exact ih none
      | statusChanged id =>
          unfold failureStreak
          split
          · rfl
          · exact ih none

theorem agrees_failed {now : Nat} (agrees : user.Agrees events) (allowed : user.mayLogin now = true) :
    (user.failedLogin now).Agrees (.failed user.id now :: events) := by
  have passed := deadlinePassed_of_mayLogin allowed
  have failure : lastFailure user.id (.failed user.id now :: events) = some now := if_pos rfl
  have streak : failureStreak true user.id (.failed user.id now :: events) =
      if loginFailureLimit ≤ failureStreak true user.id events then 1
      else failureStreak true user.id events + 1 := if_pos rfl
  have attempts : (if user.deadlinePassed now then 1 else user.loginAttempts + 1) =
      failureStreak true user.id (.failed user.id now :: events) := by
    rw [streak, passed, agrees.deadline, agrees.attempts]
    unfold lockDeadline
    by_cases full : loginFailureLimit ≤ failureStreak true user.id events
    · rw [if_pos full, if_pos full]
      cases previous : lastFailure user.id events with
      | some time => rfl
      | none => exact absurd full (by rw [streak_of_no_failure previous]; decide)
    · rw [if_neg full, if_neg full]
      rfl
  refine ⟨attempts, ?_⟩
  change (if loginFailureLimit ≤ (if user.deadlinePassed now then 1 else user.loginAttempts + 1) then
    some (now + 900) else none) = lockDeadline user.id _
  rw [attempts, lockDeadline, failure]
  rfl

theorem agrees_failed_other {userId : UInt64} {time : Nat} (different : user.id ≠ userId)
    (agrees : user.Agrees events) : user.Agrees (.failed userId time :: events) := by
  have streak : failureStreak true user.id (.failed userId time :: events) =
      failureStreak true user.id events := if_neg (Ne.symm different)
  have failure : lastFailure user.id (.failed userId time :: events) = lastFailure user.id events :=
    if_neg (Ne.symm different)
  refine ⟨agrees.attempts.trans streak.symm, ?_⟩
  rw [agrees.deadline, lockDeadline, lockDeadline, streak, failure]

theorem agrees_changed {targetId : UInt64} {change : AccountChange} (agrees : user.Agrees events) :
    (if user.id = targetId then change.apply user else user).Agrees
      (match change with
        | .status _ => .statusChanged targetId :: events
        | _ => events) := by
  cases change with
  | status value =>
      by_cases same : user.id = targetId
      · rw [if_pos same]
        have streak : failureStreak true user.id (.statusChanged targetId :: events) = 0 :=
          if_pos ⟨same.symm, rfl⟩
        refine ⟨streak.symm, ?_⟩
        change none = lockDeadline user.id _
        rw [lockDeadline, streak]
        rfl
      · rw [if_neg same]
        have streak : failureStreak true user.id (.statusChanged targetId :: events) =
            failureStreak true user.id events := if_neg fun both => same both.1.symm
        refine ⟨agrees.attempts.trans streak.symm, ?_⟩
        rw [agrees.deadline, lockDeadline, lockDeadline, streak]
        rfl
  | role value => split <;> exact ⟨agrees.attempts, agrees.deadline⟩
  | softDelete => split <;> exact ⟨agrees.attempts, agrees.deadline⟩

variable {state next : AccountState} {action : AccountAction}

/-- The row that was checked is the only one of its user. -/
theorem findOne_mayLogin {auth : AuthState} {userId : UInt64}
    (keyed : (auth.users.map UserRow.id).Nodup)
    (allowed : (auth.findOne userId).any (fun user => user.mayLogin auth.now) = true) {user : UserRow}
    (present : user ∈ auth.users) (same : user.id = userId) : user.mayLogin auth.now = true := by
  rw [← same, findOne_of_mem keyed present] at allowed
  exact allowed

theorem step_lockout (lockout : state.Lockout) (moved : state.step action = some next) : next.Lockout := by
  refine ⟨step_keyed lockout.keyed moved, fun row present => ?_⟩
  rcases step_cases moved with ⟨users, events⟩ | ⟨userId, -, auth, events⟩ |
    ⟨userId, allowed, auth, events⟩ | ⟨slot, session, -, -, auth, events⟩
  · rw [users] at present
    rw [events]
    exact lockout.rows row present
  · rw [auth] at present
    obtain ⟨user, stored, rfl⟩ := mem_updateUser.mp present
    rw [events]
    exact agrees_succeeded (lockout.rows user stored)
  · rw [auth, incrementLoginAttempts_eq] at present
    obtain ⟨user, stored, rfl⟩ := mem_updateUser.mp present
    rw [events]
    by_cases same : user.id = userId
    · have able := findOne_mayLogin lockout.keyed allowed stored same
      rw [if_pos same, if_neg (by rw [able]; decide), ← same]
      exact agrees_failed (lockout.rows user stored) able
    · rw [if_neg same]
      exact agrees_failed_other same (lockout.rows user stored)
  · rw [auth] at present
    obtain ⟨user, stored, rfl⟩ := mem_updateUser.mp present
    rw [events]
    exact agrees_changed (lockout.rows user stored)

/-- The counters follow the recorded events in every reachable state. -/
theorem lockout_of_reachable (reachable : accountSystem.Reachable state) : state.Lockout := by
  refine reachable.invariant AccountState.Lockout ?_ ?_
  · rintro start ⟨-, -, events, keyed, fresh⟩
    refine ⟨keyed, fun user present => ?_⟩
    obtain ⟨attempts, deadline⟩ := fresh user present
    rw [events]
    exact ⟨attempts, deadline⟩
  · intro before action after lockout _ moved
    exact step_lockout lockout moved

/-- What one statement may do to a locked account. -/
structure LockoutStep (state next : AccountState) (action : AccountAction) : Prop where
  accessible : ∀ userId time, next.events = .succeeded userId time :: state.events →
    time = state.auth.now ∧ ∃ user, state.auth.findOne userId = some user ∧ user.Accessible time
  barred : (∀ slot, action ≠ .writeTarget slot) → ∀ user ∈ state.auth.users,
    user.status = accountStatusDisabled ∨ user.status = accountStatusLocked ∧ user.lockedUntil = none →
      ∀ row ∈ next.auth.users, row.id = user.id → row.status = user.status
  locked : ∀ userId time failure, next.events = .succeeded userId time :: state.events →
    loginFailureLimit ≤ failureStreak true userId state.events →
      lastFailure userId state.events = some failure → failure + 900 ≤ time
  restarted : ∀ userId time, next.events = .failed userId time :: state.events →
    ∀ user ∈ state.auth.users, user.id = userId → ∀ deadline, user.lockedUntil = some deadline →
      deadline ≤ time ∧ ∀ row ∈ next.auth.users, row.id = userId → row.loginAttempts = 1

/-- A recorded success had a row that might log in. -/
theorem succeeded_step {userId : UInt64} {time : Nat} (moved : state.step action = some next)
    (recorded : next.events = .succeeded userId time :: state.events) :
    time = state.auth.now ∧
      (state.auth.findOne userId).any (fun user => user.mayLogin state.auth.now) = true := by
  rcases step_cases moved with ⟨-, events⟩ | ⟨other, allowed, -, events⟩ | ⟨other, -, -, events⟩ |
    ⟨slot, session, -, -, -, events⟩
  · rw [events] at recorded
    exact (List.cons_ne_self _ _ recorded.symm).elim
  · rw [events] at recorded
    cases recorded
    exact ⟨rfl, allowed⟩
  · rw [events] at recorded
    cases recorded
  · rw [events] at recorded
    split at recorded
    · cases recorded
    · exact (List.cons_ne_self _ _ recorded.symm).elim

/-- A counted failure was counted on a row that might log in. -/
theorem failed_step {userId : UInt64} {time : Nat} (moved : state.step action = some next)
    (recorded : next.events = .failed userId time :: state.events) :
    time = state.auth.now ∧
      (state.auth.findOne userId).any (fun user => user.mayLogin state.auth.now) = true ∧
      next.auth = state.auth.incrementLoginAttempts userId := by
  rcases step_cases moved with ⟨-, events⟩ | ⟨other, -, -, events⟩ | ⟨other, allowed, auth, events⟩ |
    ⟨slot, session, -, -, -, events⟩
  · rw [events] at recorded
    exact (List.cons_ne_self _ _ recorded.symm).elim
  · rw [events] at recorded
    cases recorded
  · rw [events] at recorded
    cases recorded
    exact ⟨rfl, allowed, auth⟩
  · rw [events] at recorded
    split at recorded
    · cases recorded
    · exact (List.cons_ne_self _ _ recorded.symm).elim

/-- A row that the login statements select is accessible. -/
theorem accessible_of_mayLogin {now : Nat} (allowed : user.mayLogin now = true) : user.Accessible now := by
  have passed := deadlinePassed_of_mayLogin allowed
  have expired : ∀ deadline, user.lockedUntil = some deadline → deadline ≤ now := by
    intro deadline known
    unfold UserRow.deadlinePassed at passed
    rw [known] at passed
    exact of_decide_eq_true passed
  unfold UserRow.mayLogin at allowed
  simp only [Bool.or_eq_true, Bool.and_eq_true, decide_eq_true_eq] at allowed
  refine ⟨?_, ?_, expired⟩
  · intro disabled
    rcases allowed with ⟨active, -⟩ | ⟨locked, -⟩
    · exact absurd (disabled.symm.trans active) (by decide)
    · exact absurd (disabled.symm.trans locked) (by decide)
  · rintro ⟨locked, unlimited⟩
    rcases allowed with ⟨active, -⟩ | ⟨-, beyond⟩
    · exact absurd (locked.symm.trans active) (by decide)
    · rw [passed, unlimited] at beyond
      cases beyond

/-- A row that may log in is neither disabled nor locked without a deadline. -/
theorem not_barred_of_mayLogin {now : Nat} (allowed : user.mayLogin now = true) :
    ¬ (user.status = accountStatusDisabled ∨
      user.status = accountStatusLocked ∧ user.lockedUntil = none) := by
  obtain ⟨enabled, unlocked, -⟩ := accessible_of_mayLogin allowed
  rintro (disabled | locked)
  · exact enabled disabled
  · exact unlocked locked

/-- No step but an administrator's write lets a barred account in. -/
theorem step_barred (keyed : (state.auth.users.map UserRow.id).Nodup)
    (moved : state.step action = some next) (login : ∀ slot, action ≠ .writeTarget slot) {row : UserRow}
    (present : user ∈ state.auth.users)
    (barred : user.status = accountStatusDisabled ∨
      user.status = accountStatusLocked ∧ user.lockedUntil = none)
    (written : row ∈ next.auth.users) (same : row.id = user.id) : row.status = user.status := by
  rcases step_cases moved with ⟨users, -⟩ | ⟨userId, allowed, auth, -⟩ | ⟨userId, allowed, auth, -⟩ |
    ⟨slot, session, written, -⟩
  · rw [users] at written
    rw [List.inj_on_of_nodup_map keyed written present same]
  · rw [auth] at written
    obtain ⟨old, stored, rfl⟩ := mem_updateUser.mp written
    by_cases target : old.id = userId
    · rw [if_pos target] at same
      obtain rfl := List.inj_on_of_nodup_map keyed stored present same
      exact (not_barred_of_mayLogin (findOne_mayLogin keyed allowed present target) barred).elim
    · rw [if_neg target] at same ⊢
      rw [List.inj_on_of_nodup_map keyed stored present same]
  · rw [auth, incrementLoginAttempts_eq] at written
    obtain ⟨old, stored, rfl⟩ := mem_updateUser.mp written
    by_cases target : old.id = userId
    · have able := findOne_mayLogin keyed allowed stored target
      rw [if_pos target, if_neg (by rw [able]; decide)] at same
      obtain rfl := List.inj_on_of_nodup_map keyed stored present same
      exact (not_barred_of_mayLogin able barred).elim
    · rw [if_neg target] at same ⊢
      rw [List.inj_on_of_nodup_map keyed stored present same]
  · exact (login slot written).elim

/-- The statements of logins and account changes, in any order, respect every lock. -/
theorem login_lockout (reachable : accountSystem.Reachable state) (moved : state.step action = some next) :
    LockoutStep state next action := by
  have lockout := lockout_of_reachable reachable
  refine ⟨?_, ?_, ?_, ?_⟩
  · intro userId time recorded
    obtain ⟨rfl, allowed⟩ := succeeded_step moved recorded
    obtain ⟨user, found, able⟩ := (Option.any_eq_true _ _).mp allowed
    exact ⟨rfl, user, found, accessible_of_mayLogin able⟩
  · intro login user present barred row written same
    exact step_barred lockout.keyed moved login present barred written same
  · intro userId time failure recorded full last
    obtain ⟨rfl, allowed⟩ := succeeded_step moved recorded
    obtain ⟨user, found, able⟩ := (Option.any_eq_true _ _).mp allowed
    have present : user ∈ state.auth.users := List.mem_of_find?_eq_some found
    have same : user.id = userId := by simpa using List.find?_some found
    refine (accessible_of_mayLogin able).2.2 (failure + 900) ?_
    rw [(lockout.rows user present).deadline, same, lockDeadline, if_pos full, last]
    rfl
  · intro userId time recorded user present same deadline known
    obtain ⟨rfl, allowed, auth⟩ := failed_step moved recorded
    have able := findOne_mayLogin lockout.keyed allowed present same
    refine ⟨(accessible_of_mayLogin able).2.2 deadline known, fun row written named => ?_⟩
    rw [auth, incrementLoginAttempts_eq] at written
    obtain ⟨old, stored, rfl⟩ := mem_updateUser.mp written
    have target : old.id = userId := by
      by_contra different
      rw [if_neg different] at named
      exact different named
    obtain rfl := List.inj_on_of_nodup_map lockout.keyed stored present (target.trans same.symm)
    rw [if_pos target, if_neg (by rw [able]; decide)]
    have passed := deadlinePassed_of_mayLogin able
    rw [known] at passed
    exact if_pos passed

def loginStatements (passwordMatches : Bool) : List AccountAction :=
  [.findUser "root", .validateAccountAccess 0, .verifyPassword 0 passwordMatches]

/-- Five wrong passwords lock the account. -/
def fiveFailures : List AccountAction :=
  (List.replicate 5 (loginStatements false ++ [.incrementLoginAttempts 0])).flatten

/-- The right password is accepted when the lock has expired. -/
theorem login_lockout_expired : ∃ state next, LockoutStep state next (.updateLoginInfo 0) ∧
    next.events = .succeeded 1 900 :: state.events := by
  have ran : ((accountSystem.run duelStart (fiveFailures ++ [.tick 900] ++ loginStatements true)).any
      fun state => (state.step (.updateLoginInfo 0)).any fun next =>
        next.events = .succeeded 1 900 :: state.events) = true := by decide +kernel
  obtain ⟨state, reached, stepped⟩ := (Option.any_eq_true _ _).mp ran
  obtain ⟨next, moved, recorded⟩ := (Option.any_eq_true _ _).mp stepped
  have reachable := accountSystem.reachable_of_run duelStart_initial reached
  exact ⟨state, next, login_lockout reachable moved, of_decide_eq_true recorded⟩

/-- An administrator unlocks the account before the lock has expired. -/
theorem unlocked_before_expiry :
    ¬ ∀ state next action userId time failure, accountSystem.Reachable state →
      accountSystem.step state action = some next → next.events = .succeeded userId time :: state.events →
        loginFailureLimit ≤ failureStreak false userId state.events →
          lastFailure userId state.events = some failure → failure + 900 ≤ time := by
  intro expired
  have ran : ((accountSystem.run duelStart
      (fiveFailures ++ [.readTarget 2 1 (.status 1), .writeTarget 0] ++ loginStatements true)).any
        fun state => (state.step (.updateLoginInfo 0)).any fun next =>
          next.events = .succeeded 1 0 :: state.events ∧
            loginFailureLimit ≤ failureStreak false 1 state.events ∧
            lastFailure 1 state.events = some 0) = true := by decide +kernel
  obtain ⟨state, reached, stepped⟩ := (Option.any_eq_true _ _).mp ran
  obtain ⟨next, moved, checked⟩ := (Option.any_eq_true _ _).mp stepped
  obtain ⟨recorded, full, last⟩ := of_decide_eq_true checked
  have reachable := accountSystem.reachable_of_run duelStart_initial reached
  exact absurd (expired state next (.updateLoginInfo 0) 1 0 0 reachable moved recorded full last) (by decide)

end Lockout

end DiskServer.Auth
