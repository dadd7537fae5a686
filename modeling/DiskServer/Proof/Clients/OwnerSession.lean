import DiskServer.Construction.Clients.OwnerSession
import DiskServer.Proof.Clients.ClientSession

namespace DiskServer.Clients.OwnerSession

open Library

section Slots

variable {manager before after : OwnerSessionManager}

/-- Every promise that was made is kept or has ended once. -/
def PromisesOnce (manager : OwnerSessionManager) : Prop :=
  (manager.ended.map Prod.fst ++ manager.refreshPromise.toList).Perm (List.range manager.promises)

/-- A slot only takes away: it drops tokens and ends promises. -/
structure Reduces (before after : OwnerSessionManager) : Prop where
  granted : after.ledger.granted = before.ledger.granted
  sent : after.ledger.sent = before.ledger.sent
  inFlight : after.ledger.inFlight = before.ledger.inFlight
  refreshToken : after.refreshToken = before.refreshToken ∨ after.refreshToken = ""
  promise : after.refreshPromise = before.refreshPromise ∨ after.refreshPromise = none
  once : PromisesOnce before → PromisesOnce after

theorem Reduces.refl : Reduces manager manager :=
  ⟨rfl, rfl, rfl, .inl rfl, .inl rfl, id⟩

theorem Reduces.trans {middle : OwnerSessionManager} (first : Reduces before middle)
    (second : Reduces middle after) : Reduces before after where
  granted := second.granted.trans first.granted
  sent := second.sent.trans first.sent
  inFlight := second.inFlight.trans first.inFlight
  refreshToken := by
    rcases second.refreshToken with same | gone
    · rw [same]
      exact first.refreshToken
    · exact .inr gone
  promise := by
    rcases second.promise with same | gone
    · rw [same]
      exact first.promise
    · exact .inr gone
  once := fun held => second.once (first.once held)

theorem refreshPromise_endPromise (how : PromiseEnd) : (endPromise manager how).refreshPromise = none := by
  unfold endPromise
  split
  · assumption
  · rfl

theorem reduces_endPromise (how : PromiseEnd) : Reduces manager (endPromise manager how) := by
  unfold endPromise
  split
  · exact .refl
  · rename_i promise held
    refine ⟨rfl, rfl, rfl, .inl rfl, .inr rfl, ?_⟩
    intro once
    unfold PromisesOnce at once ⊢
    rw [held] at once
    refine List.Perm.trans ?_ once
    rw [List.map_cons, Option.toList_none, List.append_nil, Option.toList_some]
    exact (List.perm_append_singleton promise (manager.ended.map Prod.fst)).symm

theorem reduces_clearIdentity : Reduces manager (clearIdentity manager) :=
  ⟨rfl, rfl, rfl, .inr rfl, .inl rfl, id⟩

theorem reduces_clearRefresh : Reduces manager (clearRefresh manager) := by
  have counted : Reduces manager { manager with replayCount := 0 } :=
    ⟨rfl, rfl, rfl, .inl rfl, .inl rfl, id⟩
  exact counted.trans (reduces_endPromise .dropped)

theorem reduces_beginLogout : Reduces manager (beginLogout manager) := by
  have pending : Reduces manager
      { manager with state := .logoutPending, ledger := manager.ledger.startLogout } :=
    ⟨rfl, rfl, rfl, .inl rfl, .inl rfl, id⟩
  exact pending.trans (reduces_endPromise .finished)

theorem reduces_setState (state : OwnerSessionState) : Reduces manager (setState manager state) :=
  ⟨rfl, rfl, rfl, .inl rfl, .inl rfl, id⟩

theorem reduces_setRole (role : Int) : Reduces manager { manager with role := role } :=
  ⟨rfl, rfl, rfl, .inl rfl, .inl rfl, id⟩

theorem reduces_clearRole : Reduces manager (clearRole manager) := by
  unfold clearRole
  split
  · exact .refl
  · split
    · exact (reduces_setRole 0).trans (reduces_beginLogout.trans (reduces_clearIdentity.trans
        (reduces_clearRefresh.trans (reduces_setState .loggedOut))))
    · exact reduces_setRole 0

theorem reduces_clearSession : Reduces manager (clearSession manager) :=
  reduces_clearIdentity.trans (reduces_clearRole.trans reduces_clearRefresh)

theorem reduces_completeLogout : Reduces manager (completeLogout manager) :=
  reduces_clearSession.trans (reduces_setState .loggedOut)

theorem reduces_startLogout : Reduces manager (startLogout manager) := by
  unfold startLogout
  refine reduces_beginLogout.trans ?_
  simp only
  split
  · exact ⟨rfl, rfl, rfl, .inl rfl, .inl rfl, id⟩
  · exact reduces_completeLogout

theorem reduces_changeRole (role : Int) : Reduces manager (changeRole manager role) := by
  unfold changeRole
  split
  · exact .refl
  · split
    · exact (reduces_setRole role).trans reduces_startLogout
    · exact reduces_setRole role

theorem endPromise_refreshToken (how : PromiseEnd) :
    (endPromise manager how).refreshToken = manager.refreshToken ∧
      (endPromise manager how).accessToken = manager.accessToken ∧
      (endPromise manager how).state = manager.state ∧
      (endPromise manager how).ledger = manager.ledger := by
  unfold endPromise
  split <;> exact ⟨rfl, rfl, rfl, rfl⟩

/-- A cleared session has no tokens, whatever its role was. -/
theorem clearSession_tokens :
    (clearSession manager).accessToken = "" ∧ (clearSession manager).refreshToken = "" := by
  have role : (clearRole (clearIdentity manager)).accessToken = "" ∧
      (clearRole (clearIdentity manager)).refreshToken = "" := by
    unfold clearRole
    split
    · exact ⟨rfl, rfl⟩
    · split
      · unfold setState clearRefresh
        rw [(endPromise_refreshToken .dropped).1, (endPromise_refreshToken .dropped).2.1]
        exact ⟨rfl, rfl⟩
      · exact ⟨rfl, rfl⟩
  unfold clearSession clearRefresh
  rw [(endPromise_refreshToken .dropped).1, (endPromise_refreshToken .dropped).2.1]
  exact role

theorem refreshPromise_clearSession : (clearSession manager).refreshPromise = none :=
  refreshPromise_endPromise .dropped

end Slots

section Invariant

variable {manager before after : OwnerSessionManager} {flights : Nat}

/-- A stored token that has been sent belongs to the refresh that is in flight. -/
structure OwnerInv (manager : OwnerSessionManager) (flights : Nat) : Prop where
  single : flights ≤ 1
  counted : manager.ledger.inFlight = flights
  sound : manager.ledger.Sound
  owned : manager.refreshToken = "" ∨ manager.refreshToken ∈ manager.ledger.granted
  pending : manager.refreshToken ∈ manager.ledger.sent → flights = 1
  once : PromisesOnce manager
  kept : manager.refreshPromise = none ∨ flights = 1

theorem OwnerInv.reduces (inv : OwnerInv before flights) (reduced : Reduces before after) :
    OwnerInv after flights where
  single := inv.single
  counted := reduced.inFlight.trans inv.counted
  sound := inv.sound.of_same reduced.granted reduced.sent
  owned := by
    rw [reduced.granted]
    rcases reduced.refreshToken with same | gone
    · rw [same]
      exact inv.owned
    · exact .inl gone
  pending := by
    rw [reduced.sent]
    rcases reduced.refreshToken with same | gone
    · rw [same]
      exact inv.pending
    · intro sent
      rw [gone] at sent
      exact absurd sent inv.sound.empty_not_sent
  once := reduced.once inv.once
  kept := by
    rcases reduced.promise with same | gone
    · rw [same]
      exact inv.kept
    · exact .inl gone

/-- New tokens have never been sent. -/
theorem OwnerInv.store (inv : OwnerInv manager flights) {pair : TokenPair}
    (fresh : manager.ledger.Fresh pair) (reduced : Reduces (granting manager pair) after) :
    OwnerInv (setTokens after pair) flights := by
  have granted : (granting manager pair).ledger.granted = pair.refresh :: manager.ledger.granted := rfl
  exact {
    single := inv.single
    counted := reduced.inFlight.trans inv.counted
    sound := (inv.sound.grant fresh).of_same reduced.granted reduced.sent
    owned := by
      right
      change pair.refresh ∈ after.ledger.granted
      rw [reduced.granted, granted]
      exact List.mem_cons_self
    pending := by
      intro sent
      change pair.refresh ∈ after.ledger.sent at sent
      rw [reduced.sent] at sent
      exact absurd sent (inv.sound.fresh_not_sent fresh)
    once := reduced.once inv.once
    kept := by
      change after.refreshPromise = none ∨ flights = 1
      rcases reduced.promise with same | gone
      · rw [same]
        exact inv.kept
      · exact .inl gone }

theorem OwnerInv.answered (inv : OwnerInv manager 1) (unsent : manager.refreshToken ∉ manager.ledger.sent)
    (ended : manager.refreshPromise = none) : OwnerInv (answered manager) 0 where
  single := Nat.zero_le 1
  counted := by
    change manager.ledger.inFlight - 1 = 0
    rw [inv.counted]
  sound := inv.sound.of_same rfl rfl
  owned := inv.owned
  pending := fun sent => absurd sent unsent
  once := inv.once
  kept := .inl ended

theorem OwnerInv.handleRefreshSuccess (inv : OwnerInv manager 1) {pair : TokenPair}
    (fresh : manager.ledger.Fresh pair) (decodeRoleFromJwt : String → Int) :
    OwnerInv (OwnerSession.answered
      (OwnerSession.handleRefreshSuccess (granting manager pair) decodeRoleFromJwt pair)) 0 := by
  let stored := setTokens (changeRole (granting manager pair) (decodeRoleFromJwt pair.access)) pair
  let counted := { stored with replayCount := stored.replayCount + 1 }
  have role : Reduces (granting manager pair)
      (changeRole (granting manager pair) (decodeRoleFromJwt pair.access)) := reduces_changeRole _
  have replayed : Reduces stored counted := ⟨rfl, rfl, rfl, .inl rfl, .inl rfl, id⟩
  have finished : Reduces stored (setState (endPromise counted .result) .active) :=
    replayed.trans ((reduces_endPromise .result).trans (reduces_setState .active))
  have token : (setState (endPromise counted .result) .active).refreshToken = pair.refresh :=
    (endPromise_refreshToken .result).1
  apply ((inv.store fresh role).reduces finished).answered
  · rw [token, finished.sent]
    change pair.refresh ∉ (changeRole (granting manager pair) _).ledger.sent
    rw [role.sent]
    exact inv.sound.fresh_not_sent fresh
  · exact refreshPromise_endPromise .result

theorem OwnerInv.handleRefreshFailure (inv : OwnerInv manager 1) :
    OwnerInv (OwnerSession.answered (OwnerSession.handleRefreshFailure manager)) 0 := by
  have cleared : Reduces manager (OwnerSession.handleRefreshFailure manager) :=
    (reduces_endPromise .finished).trans (reduces_clearSession.trans (reduces_setState .reauthRequired))
  apply (inv.reduces cleared).answered
  · change (clearSession (endPromise manager .finished)).refreshToken ∉ _
    rw [clearSession_tokens.2, cleared.sent]
    exact inv.sound.empty_not_sent
  · exact refreshPromise_clearSession

theorem OwnerInv.handleLoginSuccess (inv : OwnerInv manager flights) {pair : TokenPair}
    (fresh : manager.ledger.Fresh pair) (decodeRoleFromJwt : String → Int) (user : OwnerUser) :
    OwnerInv (OwnerSession.handleLoginSuccess (granting manager pair) decodeRoleFromJwt pair user)
      flights := by
  let named := { granting manager pair with userId := user.id, username := user.username }
  have introduced : Reduces (granting manager pair) named := ⟨rfl, rfl, rfl, .inl rfl, .inl rfl, id⟩
  have role := introduced.trans (reduces_changeRole (decodeRoleFromJwt pair.access))
  exact (inv.store fresh role).reduces (reduces_setState .active)

/-- A refresh is sent with a token that has not been sent, if no other one is in flight. -/
theorem OwnerInv.handleTokenExpired (inv : OwnerInv manager flights) {token : String}
    (idle : manager.ledger.inFlight = 0 ∨ (OwnerSession.handleTokenExpired manager).2 = none)
    (moved : OwnerSession.handleTokenExpired manager = (after, some token)) :
    OwnerInv { after with ledger := after.ledger.send token } (flights + 1) := by
  rw [moved] at idle
  have empty : manager.ledger.inFlight = 0 := idle.resolve_right (Option.some_ne_none token)
  have none : flights = 0 := inv.counted.symm.trans empty
  subst none
  unfold OwnerSession.handleTokenExpired at moved
  split at moved
  · cases moved
  · split at moved
    · cases moved
    · split at moved
      · cases moved
      · rename_i filled
        have unsent : manager.refreshToken ∉ manager.ledger.sent := by
          intro sent
          have one := inv.pending sent
          omega
        have owned := inv.owned.resolve_left filled
        let started := { manager with state := .refreshing, replayCount := 0 }
        have start : Reduces manager started := ⟨rfl, rfl, rfl, .inl rfl, .inl rfl, id⟩
        have dropped := start.trans (reduces_endPromise .dropped)
        have ledger : (endPromise started .dropped).ledger = manager.ledger :=
          (endPromise_refreshToken .dropped).2.2.2
        have promises : (endPromise started .dropped).promises = manager.promises := by
          unfold endPromise
          split <;> rfl
        have once := dropped.once inv.once
        cases moved
        exact {
          single := Nat.le_refl 1
          counted := by
            change (endPromise started .dropped).ledger.inFlight + 1 = 0 + 1
            rw [ledger, empty]
          sound := by
            change ((endPromise started .dropped).ledger.send manager.refreshToken).Sound
            rw [ledger]
            exact inv.sound.send owned unsent
          owned := by
            change (endPromise started .dropped).refreshToken = "" ∨
              (endPromise started .dropped).refreshToken ∈ (endPromise started .dropped).ledger.granted
            rw [ledger, (endPromise_refreshToken .dropped).1]
            exact .inr owned
          pending := fun _ => rfl
          once := by
            unfold PromisesOnce at once ⊢
            rw [refreshPromise_endPromise, promises, Option.toList_none, List.append_nil] at once
            change ((endPromise started .dropped).ended.map Prod.fst ++ [manager.promises]).Perm
              (List.range (manager.promises + 1))
            rw [List.range_succ]
            exact once.append_right [manager.promises]
          kept := .inr rfl }

end Invariant

section Steps

variable (decodeRoleFromJwt : String → Int) {manager after : OwnerSessionManager} {pair : TokenPair}
  {thread next : OwnerThread} {event : OwnerEvent}

/-- Tokens arrive before a logout, or after a later login, and their role does not make the shell log
out. -/
structure ArrivesInTime (manager : OwnerSessionManager) (issued : Nat) (pair : TokenPair) : Prop where
  early : ¬manager.ledger.Late issued
  keepsShell : ¬(manager.adminShell = true ∧ decodeRoleFromJwt pair.access ≠ manager.role ∧
    decodeRoleFromJwt pair.access ≠ 1)

/-- No token expires while a refresh is in flight in a state that hides it, and tokens arrive in time. -/
def Timely (manager : OwnerSessionManager) : OwnerThread → OwnerEvent → Prop
  | .called .unauthorized, _ => manager.ledger.inFlight = 0 ∨ manager.state = .logoutPending ∨
      manager.state = .refreshing ∨ manager.refreshToken = ""
  | .refreshing _ issued, .refreshSuccess pair | .loggingIn issued, .loginSuccess pair _ =>
      ArrivesInTime decodeRoleFromJwt manager issued pair
  | _, _ => True

theorem handleTokenExpired_idle (quiet : manager.state = .logoutPending ∨ manager.state = .refreshing ∨
    manager.refreshToken = "") : (handleTokenExpired manager).2 = none := by
  unfold handleTokenExpired
  split
  · rfl
  · split
    · rfl
    · rename_i notPending notRefreshing
      rw [if_pos ((quiet.resolve_left notPending).resolve_left notRefreshing)]

theorem handleTokenExpired_quiet (moved : handleTokenExpired manager = (after, none)) :
    Reduces manager after := by
  unfold handleTokenExpired at moved
  split at moved
  · cases moved
    exact .refl
  · split at moved
    · cases moved
      exact .refl
    · split at moved
      · cases moved
        exact reduces_setState .reauthRequired
      · cases moved

variable {flights others : Nat}

def ownerDiscipline : Discipline OwnerSessionManager OwnerThread where
  holds := isRefreshing
  Inv := OwnerInv
  Own := fun _ _ => True

theorem inv_unauthorized (inv : OwnerInv manager others)
    (allowed : Timely decodeRoleFromJwt manager (.called .unauthorized) event)
    (moved : advanceOwner decodeRoleFromJwt manager (.called .unauthorized) event = some (after, next)) :
    OwnerInv after (others + ownerDiscipline.share next) := by
  cases event with
  | done =>
      simp only [advanceOwner] at moved
      split at moved
      · rename_i ended expired
        cases moved
        exact inv.reduces (handleTokenExpired_quiet expired)
      · rename_i sending token expired
        cases moved
        exact inv.handleTokenExpired (allowed.imp_right handleTokenExpired_idle) expired
  | _ => cases moved

/-- One step keeps the invariant if it is timely. -/
theorem inv_advance (inv : OwnerInv manager (others + ownerDiscipline.share thread))
    (allowed : Timely decodeRoleFromJwt manager thread event)
    (moved : advanceOwner decodeRoleFromJwt manager thread event = some (after, next)) :
    OwnerInv after (others + ownerDiscipline.share next) := by
  cases thread with
  | called call =>
      cases call with
      | unauthorized => exact inv_unauthorized decodeRoleFromJwt inv allowed moved
      | login =>
          cases event with
          | done =>
              cases moved
              exact inv.reduces ⟨rfl, rfl, rfl, .inl rfl, .inl rfl, id⟩
          | _ => cases moved
      | logout =>
          cases event with
          | done =>
              cases moved
              exact inv.reduces reduces_startLogout
          | _ => cases moved
      | logoutRequest =>
          cases event with
          | done =>
              simp only [advanceOwner] at moved
              split at moved
              · cases moved
              · cases moved
                exact inv.reduces ⟨rfl, rfl, rfl, .inl rfl, .inl rfl, id⟩
          | _ => cases moved
      | enterShell admin =>
          cases event with
          | done =>
              cases moved
              exact inv.reduces ⟨rfl, rfl, rfl, .inl rfl, .inl rfl, id⟩
          | _ => cases moved
  | refreshing token issued =>
      have one : others + ownerDiscipline.share (.refreshing token issued) = others + 1 := rfl
      have single := inv.single
      have alone : others = 0 := by omega
      subst alone
      cases event with
      | refreshSuccess pair =>
          simp only [advanceOwner] at moved
          split at moved
          · rename_i fresh
            cases moved
            exact inv.handleRefreshSuccess fresh decodeRoleFromJwt
          · cases moved
      | failure =>
          cases moved
          exact inv.handleRefreshFailure
      | _ => cases moved
  | loggingIn issued =>
      cases event with
      | loginSuccess pair user =>
          simp only [advanceOwner] at moved
          split at moved
          · rename_i fresh
            cases moved
            exact inv.handleLoginSuccess fresh decodeRoleFromJwt user
          · cases moved
      | failure =>
          cases moved
          exact inv.reduces (reduces_clearSession.trans (reduces_setState .loggedOut))
      | _ => cases moved
  | loggingOut =>
      cases event with
      | done =>
          cases moved
          exact inv.reduces reduces_completeLogout
      | _ => cases moved
  | finished => cases event <;> cases moved

theorem owner_followed :
    ownerDiscipline.Followed (ownerProgram decodeRoleFromJwt) (Timely decodeRoleFromJwt) where
  enters := fun _ _ => ⟨rfl, trivial⟩
  keeps := by
    intro manager thread event after next others allowed moved inv _
    exact ⟨inv_advance decodeRoleFromJwt inv allowed moved, trivial, fun _ _ _ => trivial⟩

/-- The shell leaves the session alone when the role does not send it away. -/
theorem changeRole_ledger {role : Int}
    (kept : ¬(manager.adminShell = true ∧ role ≠ manager.role ∧ role ≠ 1)) :
    (changeRole manager role).ledger = manager.ledger := by
  unfold changeRole
  split
  · rfl
  · rename_i changed
    rw [if_neg (fun away => kept ⟨away.1, Ne.symm changed, away.2⟩)]

theorem handleRefreshSuccess_ledger {issued : Nat} (timely : ArrivesInTime decodeRoleFromJwt manager issued pair) :
    (handleRefreshSuccess (granting manager pair) decodeRoleFromJwt pair).ledger =
      manager.ledger.grant pair :=
  (endPromise_refreshToken .result).2.2.2.trans (changeRole_ledger timely.keepsShell)

theorem handleLoginSuccess_ledger {issued : Nat} {user : OwnerUser}
    (timely : ArrivesInTime decodeRoleFromJwt manager issued pair) :
    (handleLoginSuccess (granting manager pair) decodeRoleFromJwt pair user).ledger =
      manager.ledger.grant pair :=
  changeRole_ledger timely.keepsShell

theorem silent_cleared (closed : after.state ≠ .active ∧ after.state ≠ .refreshing)
    (tokens : after.accessToken = "" ∧ after.refreshToken = "") : Silent ownerView manager after where
  authenticated := by
    intro signedIn
    change (decide (after.state = .active) || decide (after.state = .refreshing)) = true at signedIn
    rw [decide_eq_false closed.1, decide_eq_false closed.2] at signedIn
    cases signedIn
  tokens := by
    intro token stored
    change token ∈ [after.accessToken, after.refreshToken].filter (· ≠ "") at stored
    rw [tokens.1, tokens.2] at stored
    cases stored

/-- Only tokens that arrive late could revive a session. -/
theorem silent_advance (allowed : Timely decodeRoleFromJwt manager thread event)
    (moved : advanceOwner decodeRoleFromJwt manager thread event = some (after, next)) {issued : Nat}
    (request : issued ∈ issuedAt thread) (late : after.ledger.Late issued) :
    Silent ownerView manager after := by
  cases thread with
  | refreshing token stamp =>
      cases request
      cases event with
      | refreshSuccess pair =>
          simp only [advanceOwner] at moved
          split at moved
          · cases moved
            change (handleRefreshSuccess (granting manager pair) decodeRoleFromJwt pair).ledger.answer.Late
              issued at late
            rw [handleRefreshSuccess_ledger decodeRoleFromJwt allowed] at late
            exact absurd late allowed.early
          · cases moved
      | failure =>
          cases moved
          exact silent_cleared ⟨nofun, nofun⟩ clearSession_tokens
      | _ => cases moved
  | loggingIn stamp =>
      cases request
      cases event with
      | loginSuccess pair user =>
          simp only [advanceOwner] at moved
          split at moved
          · cases moved
            rw [handleLoginSuccess_ledger decodeRoleFromJwt allowed] at late
            exact absurd late allowed.early
          · cases moved
      | failure =>
          cases moved
          exact silent_cleared ⟨nofun, nofun⟩ clearSession_tokens
      | _ => cases moved
  | _ => cases request

theorem owner_started : OwnerInv .fresh 0 where
  single := Nat.zero_le 1
  counted := rfl
  sound := SessionLedger.sound_empty
  owned := .inl rfl
  pending := fun sent => absurd sent List.not_mem_nil
  once := List.Perm.nil
  kept := .inl rfl

/-- A timely run refreshes once at a time and stays signed out after a logout. -/
theorem owner_safe_of_timely {state : Threads OwnerSessionManager OwnerThread}
    (reachable : (ownerSystem decodeRoleFromJwt).ReachableWhen
      (ThreadProgram.Allows (Timely decodeRoleFromJwt)) state) :
    SessionSafe ownerView (ownerProgram decodeRoleFromJwt) (Timely decodeRoleFromJwt) state := by
  have inv := ((owner_followed decodeRoleFromJwt).reachable owner_started reachable).1
  exact {
    singleFlight := inv.single
    sentOnce := inv.sound.sentOnce
    settled := by
      refine ⟨inv.once, ?_⟩
      intro none
      exact inv.kept.resolve_right (fun one => absurd (none.symm.trans one) Nat.zero_ne_one)
    silent := by
      intro thread _ event after next allowed moved issued request late
      exact silent_advance decodeRoleFromJwt allowed moved request late }

end Steps

end DiskServer.Clients.OwnerSession
