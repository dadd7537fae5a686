import DiskServer.Construction.Clients.TerminalSession
import DiskServer.Proof.Clients.ClientSession

namespace DiskServer.Clients.TerminalSession

open Library

section Invariant

variable {session after : Session} {flights : Nat} {pair : TokenPair}

/-- A stored token that has been sent belongs to the refresh in flight or to one that has failed. -/
structure TerminalInv (session : Session) (flights : Nat) : Prop where
  single : flights ≤ 1
  counted : session.ledger.inFlight = flights
  sound : session.ledger.Sound
  owned : session.refresh = "" ∨ session.refresh ∈ session.ledger.granted
  pending : session.refresh ∈ session.ledger.sent → session.refresh ∈ session.refused ∨
    flights = 1 ∧ session.ledger.sent.head? = some session.refresh

/-- The steps that keep the tokens of the client and what has been sent. -/
theorem TerminalInv.of_same (inv : TerminalInv session flights)
    (granted : after.ledger.granted = session.ledger.granted)
    (sent : after.ledger.sent = session.ledger.sent)
    (inFlight : after.ledger.inFlight = session.ledger.inFlight)
    (refresh : after.refresh = session.refresh ∨ after.refresh = "")
    (refused : after.refused = session.refused) : TerminalInv after flights where
  single := inv.single
  counted := inFlight.trans inv.counted
  sound := inv.sound.of_same granted sent
  owned := by
    rw [granted]
    rcases refresh with same | cleared
    · rw [same]
      exact inv.owned
    · exact .inl cleared
  pending := by
    rw [sent, refused]
    rcases refresh with same | cleared
    · rw [same]
      exact inv.pending
    · intro before
      rw [cleared] at before
      exact absurd before inv.sound.empty_not_sent

theorem TerminalInv.tryRefresh (inv : TerminalInv session 0) (filled : session.refresh ≠ "")
    (unrefused : session.refresh ∉ session.refused) :
    TerminalInv { session with begun := session.begun + 1, ledger := session.ledger.send session.refresh }
      1 where
  single := Nat.le_refl 1
  counted := congrArg (· + 1) inv.counted
  sound := by
    apply inv.sound.send (inv.owned.resolve_left filled)
    intro sent
    rcases inv.pending sent with known | ⟨one, -⟩
    · exact unrefused known
    · exact Nat.zero_ne_one one
  owned := inv.owned
  pending := fun _ => .inr ⟨rfl, rfl⟩

theorem TerminalInv.refreshFailed (inv : TerminalInv session 1) {token : String}
    (last : session.ledger.sent.head? = some token) : TerminalInv (refreshFailed session token) 0 where
  single := Nat.zero_le 1
  counted := by
    change session.ledger.inFlight - 1 = 0
    rw [inv.counted]
  sound := inv.sound.of_same rfl rfl
  owned := inv.owned
  pending := by
    intro sent
    left
    rcases inv.pending sent with known | ⟨-, head⟩
    · exact List.mem_cons_of_mem _ known
    · rw [last] at head
      obtain rfl := Option.some.inj head
      exact List.mem_cons_self

theorem TerminalInv.refreshSucceeded (inv : TerminalInv session 1) (fresh : session.ledger.Fresh pair) :
    TerminalInv (refreshSucceeded session pair) 0 where
  single := Nat.zero_le 1
  counted := by
    change session.ledger.inFlight - 1 = 0
    rw [inv.counted]
  sound := (inv.sound.grant fresh).of_same rfl rfl
  owned := .inr List.mem_cons_self
  pending := fun sent => absurd sent (inv.sound.fresh_not_sent fresh)

theorem TerminalInv.loginSucceeded (inv : TerminalInv session flights)
    (fresh : session.ledger.Fresh pair) : TerminalInv (loginSucceeded session pair) flights where
  single := inv.single
  counted := inv.counted
  sound := inv.sound.grant fresh
  owned := .inr List.mem_cons_self
  pending := fun sent => absurd sent (inv.sound.fresh_not_sent fresh)

end Invariant

section Steps

variable {session after : Session} {thread next : TerminalThread} {event : TerminalEvent} {others : Nat}

/-- No token expires while a refresh is in flight or after one has failed, and tokens that arrive are
stored before a logout or after a later login. -/
def Timely (session : Session) : TerminalThread → TerminalEvent → Prop
  | .called .unauthorized, _ => session.refresh = "" ∨
      session.ledger.inFlight = 0 ∧ session.refresh ∉ session.refused
  | .refreshing _ issued, .tokens _ | .loggingIn issued, .tokens _ | .sourcing _ issued, _
  | .loginSourcing _ issued, _ => ¬session.ledger.Late issued
  | .loginSaving access refresh issued, _ => session.ledger.Late issued → access = "" ∧ refresh = ""
  | _, _ => True

/-- A refresh in flight is the last one that was sent. -/
def SentLast (session : Session) : TerminalThread → Prop
  | .refreshing token _ => session.ledger.sent.head? = some token
  | _ => True

def refreshDiscipline : Discipline Session TerminalThread where
  holds := isRefreshing
  Inv := TerminalInv
  Own := SentLast

/-- A step keeps the invariant and adds a request only when there is none in flight. -/
structure Advances (session after : Session) (next : TerminalThread) (others : Nat) : Prop where
  inv : TerminalInv after (others + refreshDiscipline.share next)
  last : SentLast after next
  sent : after.ledger.sent = session.ledger.sent ∨ others = 0

theorem of_moved {moment : Session × TerminalThread} (moved : some moment = some (after, next))
    (advanced : Advances session moment.1 moment.2 others) : Advances session after next others := by
  cases moved
  exact advanced

theorem of_moved_if {enabled : Prop} [Decidable enabled] {moment : Session × TerminalThread}
    (moved : (if enabled then some moment else none) = some (after, next))
    (advanced : enabled → Advances session moment.1 moment.2 others) :
    Advances session after next others := by
  split at moved
  · rename_i holds
    exact of_moved moved (advanced holds)
  · cases moved

theorem advances_tryRefresh (inv : TerminalInv session others)
    (timely : session.refresh = "" ∨ session.ledger.inFlight = 0 ∧ session.refresh ∉ session.refused) :
    Advances session (tryRefresh session).1 (tryRefresh session).2 others := by
  unfold tryRefresh
  simp only
  split
  · exact ⟨inv.of_same rfl rfl rfl (.inl rfl) rfl, trivial, .inl rfl⟩
  · rename_i filled
    obtain ⟨idle, unrefused⟩ := timely.resolve_left filled
    obtain rfl : others = 0 := inv.counted.symm.trans idle
    exact ⟨inv.tryRefresh filled unrefused, rfl, .inr rfl⟩

theorem advances_called {call : TerminalCall} (inv : TerminalInv session others)
    (timely : Timely session (.called call) event)
    (moved : advanceTerminal session (.called call) event = some (after, next)) :
    Advances session after next others := by
  cases call with
  | unauthorized =>
      cases event with
      | done => exact of_moved moved (advances_tryRefresh inv timely)
      | _ => cases moved
  | login =>
      cases event with
      | done => exact of_moved moved ⟨inv.of_same rfl rfl rfl (.inl rfl) rfl, trivial, .inl rfl⟩
      | _ => cases moved
  | logout =>
      cases event with
      | done => exact of_moved moved ⟨inv.of_same rfl rfl rfl (.inl rfl) rfl, trivial, .inl rfl⟩
      | _ => cases moved
  | logoutRequest =>
      cases event with
      | done =>
          simp only [advanceTerminal] at moved
          split at moved
          · cases moved
          · exact of_moved moved ⟨inv.of_same rfl rfl rfl (.inl rfl) rfl, trivial, .inl rfl⟩
      | _ => cases moved

/-- One timely step keeps the invariant. -/
theorem advances_step (inv : TerminalInv session (others + refreshDiscipline.share thread))
    (last : SentLast session thread) (timely : Timely session thread event)
    (moved : advanceTerminal session thread event = some (after, next)) :
    Advances session after next others := by
  cases thread with
  | called call => exact advances_called inv timely moved
  | refreshing token issued =>
      have one : others + refreshDiscipline.share (.refreshing token issued) = others + 1 := rfl
      have single := inv.single
      obtain rfl : others = 0 := by omega
      cases event with
      | tokens pair =>
          exact of_moved_if moved fun fresh => ⟨inv.refreshSucceeded fresh, trivial, .inl rfl⟩
      | failure => exact of_moved moved ⟨inv.refreshFailed last, trivial, .inl rfl⟩
      | done => cases moved
  | sourcing pair issued =>
      cases event with
      | done => exact of_moved moved ⟨inv.of_same rfl rfl rfl (.inl rfl) rfl, trivial, .inl rfl⟩
      | _ => cases moved
  | loggingIn issued =>
      cases event with
      | tokens pair => exact of_moved_if moved fun fresh => ⟨inv.loginSucceeded fresh, trivial, .inl rfl⟩
      | failure => exact of_moved moved ⟨inv, trivial, .inl rfl⟩
      | done => cases moved
  | loginSourcing pair issued =>
      cases event with
      | done => exact of_moved moved ⟨inv.of_same rfl rfl rfl (.inl rfl) rfl, trivial, .inl rfl⟩
      | _ => cases moved
  | loginReadingAccess issued =>
      cases event with
      | done => exact of_moved moved ⟨inv, trivial, .inl rfl⟩
      | _ => cases moved
  | loginReadingRefresh access issued =>
      cases event with
      | done => exact of_moved moved ⟨inv, trivial, .inl rfl⟩
      | _ => cases moved
  | loginSaving access refresh issued =>
      cases event with
      | done => exact of_moved moved ⟨inv.of_same rfl rfl rfl (.inl rfl) rfl, trivial, .inl rfl⟩
      | _ => cases moved
  | loggingOut =>
      cases event with
      | done => exact of_moved moved ⟨inv, trivial, .inl rfl⟩
      | _ => cases moved
  | clearing byUser =>
      cases event with
      | done => exact of_moved moved ⟨inv.of_same rfl rfl rfl (.inr rfl) rfl, trivial, .inl rfl⟩
      | _ => cases moved
  | clearingSource byUser =>
      cases event with
      | done =>
          cases byUser <;>
            exact of_moved moved ⟨inv.of_same rfl rfl rfl (.inl rfl) rfl, trivial, .inl rfl⟩
      | _ => cases moved
  | clearingStore =>
      cases event with
      | done => exact of_moved moved ⟨inv.of_same rfl rfl rfl (.inl rfl) rfl, trivial, .inl rfl⟩
      | _ => cases moved
  | resumed => cases event <;> cases moved
  | failed => cases event <;> cases moved
  | finished => cases event <;> cases moved

theorem refresh_followed : refreshDiscipline.Followed terminalProgram Timely where
  enters := fun _ _ => ⟨rfl, trivial⟩
  keeps := by
    intro session thread event after next others timely moved inv last
    have advanced := advances_step inv last timely moved
    refine ⟨advanced.inv, advanced.last, ?_⟩
    intro other few before
    cases other with
    | refreshing token issued =>
        rcases advanced.sent with same | none
        · change after.ledger.sent.head? = some token
          rw [same]
          exact before
        · rw [none] at few
          exact absurd few (Nat.not_succ_le_zero 0)
    | _ => trivial

theorem terminal_started : TerminalInv .fresh 0 where
  single := Nat.zero_le 1
  counted := rfl
  sound := SessionLedger.sound_empty
  owned := .inl rfl
  pending := fun sent => absurd sent List.not_mem_nil

/-- Every request that has begun to refresh waits, or it has gone on or failed once. -/
def waitDiscipline : Discipline Session TerminalThread where
  holds := isWaiting
  Inv := fun session waiting => session.begun = session.resumed + session.failed + waiting
  Own := fun _ _ => True

theorem waits_step (inv : waitDiscipline.Inv session (others + waitDiscipline.share thread))
    (moved : advanceTerminal session thread event = some (after, next)) :
    waitDiscipline.Inv after (others + waitDiscipline.share next) := by
  cases thread with
  | called call =>
      cases call with
      | unauthorized =>
          cases event with
          | done =>
              have begun : session.begun = session.resumed + session.failed + others := inv
              have same := Option.some.inj moved
              unfold tryRefresh at same
              simp only at same
              split at same
              · cases same
                change session.begun + 1 = session.resumed + (session.failed + 1) + others
                omega
              · cases same
                change session.begun + 1 = session.resumed + session.failed + (others + 1)
                omega
          | _ => cases moved
      | logoutRequest =>
          cases event with
          | done =>
              simp only [advanceTerminal] at moved
              split at moved <;> cases moved
              exact inv
          | _ => cases moved
      | _ =>
          cases event with
          | done =>
              cases moved
              exact inv
          | _ => cases moved
  | refreshing token issued =>
      cases event with
      | tokens pair =>
          simp only [advanceTerminal] at moved
          split at moved <;> cases moved
          exact inv
      | failure =>
          cases moved
          have begun : session.begun = session.resumed + session.failed + (others + 1) := inv
          change session.begun = session.resumed + (session.failed + 1) + others
          omega
      | done => cases moved
  | sourcing pair issued =>
      cases event with
      | done =>
          cases moved
          have begun : session.begun = session.resumed + session.failed + (others + 1) := inv
          change session.begun = session.resumed + 1 + session.failed + others
          omega
      | _ => cases moved
  | loggingIn issued =>
      cases event with
      | tokens pair =>
          simp only [advanceTerminal] at moved
          split at moved <;> cases moved
          exact inv
      | failure =>
          cases moved
          exact inv
      | done => cases moved
  | clearingSource byUser =>
      cases event with
      | done =>
          cases moved
          cases byUser <;> exact inv
      | _ => cases moved
  | _ => cases event <;> cases moved <;> exact inv

theorem wait_followed (allowed : Session → TerminalThread → TerminalEvent → Prop) :
    waitDiscipline.Followed terminalProgram allowed where
  enters := fun _ _ => ⟨rfl, trivial⟩
  keeps := by
    intro session thread event after next others _ moved inv _
    exact ⟨waits_step inv moved, trivial, fun _ _ _ => trivial⟩

theorem silent_cleared {access refresh : String} (empty : access = "" ∧ refresh = "") :
    Silent terminalView session (setSourceTokens session access refresh) where
  authenticated := id
  tokens := by
    intro token stored
    obtain ⟨rfl, rfl⟩ := empty
    change token ∈ [session.access, session.refresh, "", ""].filter (· ≠ "") at stored
    change token ∈ [session.access, session.refresh, session.sourceAccess, session.sourceRefresh].filter
      (· ≠ "")
    simp only [List.mem_filter, List.mem_cons, List.not_mem_nil, or_false] at stored ⊢
    refine ⟨?_, stored.2⟩
    rcases stored.1 with access | refresh | empty | empty
    · exact .inl access
    · exact .inr (.inl refresh)
    · exact absurd empty (of_decide_eq_true stored.2)
    · exact absurd empty (of_decide_eq_true stored.2)

theorem silent_refl : Silent terminalView session session := ⟨id, fun _ stored => stored⟩

/-- Only tokens that are stored late could revive a session. -/
theorem silent_step (timely : Timely session thread event)
    (moved : advanceTerminal session thread event = some (after, next)) {issued : Nat}
    (request : issued ∈ issuedAt thread) (late : after.ledger.Late issued) :
    Silent terminalView session after := by
  cases thread with
  | refreshing token stamp =>
      cases request
      cases event with
      | tokens pair =>
          simp only [advanceTerminal] at moved
          split at moved <;> cases moved
          exact absurd late timely
      | failure =>
          cases moved
          exact ⟨id, fun _ stored => stored⟩
      | done => cases moved
  | loggingIn stamp =>
      cases request
      cases event with
      | tokens pair =>
          simp only [advanceTerminal] at moved
          split at moved <;> cases moved
          exact absurd late timely
      | failure =>
          cases moved
          exact silent_refl
      | done => cases moved
  | sourcing pair stamp =>
      cases request
      cases event <;> cases moved
      exact absurd late timely
  | loginSourcing pair stamp =>
      cases request
      cases event <;> cases moved
      exact absurd late timely
  | loginSaving access refresh stamp =>
      cases request
      cases event <;> cases moved
      exact silent_cleared (timely late)
  | loginReadingAccess stamp =>
      cases event <;> cases moved
      exact silent_refl
  | loginReadingRefresh access stamp =>
      cases event <;> cases moved
      exact silent_refl
  | _ => cases request

/-- A timely run refreshes once at a time and stays signed out after a logout. -/
theorem terminal_safe_of_timely {state : Threads Session TerminalThread}
    (reachable : terminalSystem.ReachableWhen (ThreadProgram.Allows Timely) state) :
    SessionSafe terminalView terminalProgram Timely state := by
  have inv := (refresh_followed.reachable terminal_started reachable).1
  exact {
    singleFlight := inv.single
    sentOnce := inv.sound.sentOnce
    settled := ((wait_followed Timely).reachable (show waitDiscipline.Inv .fresh 0 from rfl) reachable).1
    silent := by
      intro thread _ event after next allowed moved issued request late
      exact silent_step allowed moved request late }

end Steps

end DiskServer.Clients.TerminalSession
