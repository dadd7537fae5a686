import DiskServer.Construction.Clients.WebSession
import DiskServer.Proof.Clients.ClientSession

namespace DiskServer.Clients.WebSession

open Library

section Invariant

variable {page after : WebPage} {flights : Nat} {pair : TokenPair}

/-- Every promise is either settled once or still waits. -/
def PromisesOnce (page : WebPage) : Prop :=
  (page.settled.map Prod.fst ++ page.refreshSubscribers).Perm (List.range page.promises)

/-- The flag tells whether a refresh is in flight, and only then a stored token may have been sent. -/
structure WebInv (page : WebPage) (flights : Nat) : Prop where
  single : flights ≤ 1
  flag : page.isRefreshing = decide (flights = 1)
  sound : page.ledger.Sound
  owned : page.refreshToken = "" ∨ page.refreshToken ∈ page.ledger.granted
  pending : page.refreshToken ∈ page.ledger.sent → flights = 1
  once : PromisesOnce page
  subscribed : flights = 0 → page.refreshSubscribers = []

theorem promisesOnce_settleSubscribers (once : PromisesOnce page) (resolved : Bool) :
    PromisesOnce (settleSubscribers page resolved) := by
  unfold PromisesOnce settleSubscribers at *
  have promises : (page.refreshSubscribers.map fun promise => (promise, resolved)).map Prod.fst =
      page.refreshSubscribers := by
    rw [List.map_map]
    exact List.map_id' _
  rw [List.map_append, promises, List.append_nil]
  exact once

theorem promisesOnce_subscribe (once : PromisesOnce page) : PromisesOnce (subscribeTokenRefresh page) := by
  unfold PromisesOnce subscribeTokenRefresh at *
  rw [List.range_succ, ← List.append_assoc]
  exact once.append_right [page.promises]

theorem WebInv.subscribe (inv : WebInv page flights) (busy : page.isRefreshing = true) :
    WebInv (subscribeTokenRefresh page) flights where
  single := inv.single
  flag := inv.flag
  sound := inv.sound
  owned := inv.owned
  pending := inv.pending
  once := promisesOnce_subscribe inv.once
  subscribed := by
    intro none
    rw [inv.flag, none] at busy
    cases busy

/-- An idle page has no refresh in flight and has not sent its token. -/
theorem WebInv.idle (inv : WebInv page flights) (free : page.isRefreshing = false) : flights = 0 := by
  have other : flights ≠ 1 := of_decide_eq_false (inv.flag.symm.trans free)
  have single := inv.single
  omega

theorem WebInv.send (inv : WebInv page 0) (filled : page.refreshToken ≠ "") :
    WebInv { page with isRefreshing := true, ledger := page.ledger.send page.refreshToken } 1 where
  single := Nat.le_refl 1
  flag := rfl
  sound := by
    apply inv.sound.send (inv.owned.resolve_left filled)
    intro sent
    exact absurd (inv.pending sent) Nat.zero_ne_one
  owned := inv.owned
  pending := fun _ => rfl
  once := inv.once
  subscribed := fun none => absurd none Nat.one_ne_zero

/-- After a failed refresh nothing is stored and nobody waits, whatever the flag was before. -/
theorem webInv_refreshFailed (sound : page.ledger.Sound) (once : PromisesOnce page) :
    WebInv (refreshFailed page) 0 where
  single := Nat.zero_le 1
  flag := rfl
  sound := sound
  owned := .inl rfl
  pending := fun sent => absurd sent sound.empty_not_sent
  once := promisesOnce_settleSubscribers once false
  subscribed := fun _ => rfl

theorem webInv_refreshSucceeded (sound : page.ledger.Sound) (once : PromisesOnce page)
    (fresh : page.ledger.Fresh pair) : WebInv (refreshSucceeded (granting page pair) pair) 0 where
  single := Nat.zero_le 1
  flag := rfl
  sound := sound.grant fresh
  owned := .inr List.mem_cons_self
  pending := fun sent => absurd sent (sound.fresh_not_sent fresh)
  once := by
    have stored : PromisesOnce (setTokens (granting page pair) pair) := once
    exact promisesOnce_settleSubscribers stored true
  subscribed := fun _ => rfl

theorem WebInv.answered (inv : WebInv page flights) : WebInv (answered page) flights where
  single := inv.single
  flag := inv.flag
  sound := inv.sound.of_same rfl rfl
  owned := inv.owned
  pending := inv.pending
  once := inv.once
  subscribed := inv.subscribed

theorem WebInv.applyTokens (inv : WebInv page flights) (fresh : page.ledger.Fresh pair) :
    WebInv (applyTokens (granting page pair) pair) flights where
  single := inv.single
  flag := inv.flag
  sound := inv.sound.grant fresh
  owned := .inr List.mem_cons_self
  pending := fun sent => absurd sent (inv.sound.fresh_not_sent fresh)
  once := inv.once
  subscribed := inv.subscribed

theorem WebInv.clearAuth (inv : WebInv page flights) : WebInv (clearAuth page) flights where
  single := inv.single
  flag := inv.flag
  sound := inv.sound
  owned := .inl rfl
  pending := fun sent => absurd sent inv.sound.empty_not_sent
  once := inv.once
  subscribed := inv.subscribed

/-- The invariant does not depend on logins, on logouts and on the auth store. -/
theorem WebInv.session (inv : WebInv page flights) {ledger : SessionLedger} {token : Option String}
    (granted : ledger.granted = page.ledger.granted) (sent : ledger.sent = page.ledger.sent) :
    WebInv { page with ledger := ledger, storeAccessToken := token } flights where
  single := inv.single
  flag := inv.flag
  sound := inv.sound.of_same granted sent
  owned := by
    change page.refreshToken = "" ∨ page.refreshToken ∈ ledger.granted
    rw [granted]
    exact inv.owned
  pending := by
    change page.refreshToken ∈ ledger.sent → flights = 1
    rw [sent]
    exact inv.pending
  once := inv.once
  subscribed := inv.subscribed

end Invariant

section Steps

variable {page after : WebPage} {thread next : WebThread} {event : WebEvent} {others : Nat}

/-- A promise that a request waits for has been made. -/
def Promised (page : WebPage) : WebThread → Prop
  | .waiting promise => promise < page.promises
  | _ => True

def webDiscipline : Discipline WebPage WebThread where
  holds := isRefreshing
  Inv := WebInv
  Own := Promised

/-- A step keeps the invariant and forgets no promise. -/
structure Advances (page after : WebPage) (next : WebThread) (others : Nat) : Prop where
  inv : WebInv after (others + webDiscipline.share next)
  promised : Promised after next
  promises : page.promises ≤ after.promises

theorem of_moved {moment : WebPage × WebThread} (moved : some moment = some (after, next))
    (advanced : Advances page moment.1 moment.2 others) : Advances page after next others := by
  cases moved
  exact advanced

theorem of_moved_if {enabled : Prop} [Decidable enabled] {moment : WebPage × WebThread}
    (moved : (if enabled then some moment else none) = some (after, next))
    (advanced : enabled → Advances page moment.1 moment.2 others) : Advances page after next others := by
  split at moved
  · rename_i holds
    exact of_moved moved (advanced holds)
  · cases moved

theorem advances_refreshAccessToken (inv : WebInv page others) :
    Advances page (refreshAccessToken page).1 (refreshAccessToken page).2 others := by
  unfold refreshAccessToken
  split
  · rename_i busy
    exact ⟨inv.subscribe busy, Nat.lt_succ_self _, Nat.le_succ _⟩
  · rename_i free
    obtain rfl := inv.idle (Bool.not_eq_true _ ▸ free)
    split
    · have started : PromisesOnce { page with isRefreshing := true } := inv.once
      exact ⟨webInv_refreshFailed inv.sound started, trivial, Nat.le_refl _⟩
    · rename_i filled
      exact ⟨inv.send filled, trivial, Nat.le_refl _⟩

theorem advances_load (inv : WebInv page others) :
    Advances page (loadTokensFromStorage page) .finished others := by
  unfold loadTokensFromStorage
  split
  · exact ⟨inv, trivial, Nat.le_refl _⟩
  · exact ⟨inv.session rfl rfl, trivial, Nat.le_refl _⟩

theorem advances_called {call : WebCall} (inv : WebInv page others)
    (moved : advanceWeb page (.called call) event = some (after, next)) :
    Advances page after next others := by
  cases call with
  | unauthorized =>
      cases event with
      | done => exact of_moved moved (advances_refreshAccessToken inv)
      | _ => cases moved
  | login =>
      cases event with
      | done => exact of_moved moved ⟨inv.session rfl rfl, trivial, Nat.le_refl _⟩
      | _ => cases moved
  | logout =>
      cases event with
      | done => exact of_moved moved ⟨inv.session rfl rfl, trivial, Nat.le_refl _⟩
      | _ => cases moved
  | load =>
      cases event with
      | done => exact of_moved moved (advances_load inv)
      | _ => cases moved

/-- A waiting request goes on when its promise is settled. -/
theorem advances_waiting {promise : Nat} (inv : WebInv page others)
    (moved : advanceWeb page (.waiting promise) event = some (after, next)) :
    Advances page after next others := by
  cases event with
  | done =>
      simp only [advanceWeb] at moved
      split at moved
      · cases moved
      · exact of_moved moved ⟨inv, trivial, Nat.le_refl _⟩
      · exact of_moved moved ⟨inv, trivial, Nat.le_refl _⟩
  | _ => cases moved

/-- One step keeps the invariant, whatever the order of steps. -/
theorem advances_step (inv : WebInv page (others + webDiscipline.share thread))
    (moved : advanceWeb page thread event = some (after, next)) : Advances page after next others := by
  cases thread with
  | called call => exact advances_called inv moved
  | refreshing token issued =>
      have one : others + webDiscipline.share (.refreshing token issued) = others + 1 := rfl
      have single := inv.single
      obtain rfl : others = 0 := by omega
      cases event with
      | tokens pair =>
          exact of_moved_if moved fun fresh =>
            ⟨(webInv_refreshSucceeded inv.sound inv.once fresh).answered, trivial, Nat.le_refl _⟩
      | failure =>
          exact of_moved moved
            ⟨(webInv_refreshFailed inv.sound inv.once).answered, trivial, Nat.le_refl _⟩
      | done => cases moved
  | waiting promise => exact advances_waiting inv moved
  | loggingIn issued =>
      cases event with
      | tokens pair =>
          exact of_moved_if moved fun fresh => ⟨inv.applyTokens fresh, trivial, Nat.le_refl _⟩
      | failure => exact of_moved moved ⟨inv, trivial, Nat.le_refl _⟩
      | done => cases moved
  | loggingOut =>
      cases event with
      | done => exact of_moved moved ⟨inv.clearAuth, trivial, Nat.le_refl _⟩
      | _ => cases moved
  | resumed => cases event <;> cases moved
  | failed => cases event <;> cases moved
  | finished => cases event <;> cases moved

variable (allowed : WebPage → WebThread → WebEvent → Prop)

theorem web_followed : webDiscipline.Followed webProgram allowed where
  enters := fun _ _ => ⟨rfl, trivial⟩
  keeps := by
    intro page thread event after next others _ moved inv _
    have advanced := advances_step inv moved
    refine ⟨advanced.inv, advanced.promised, ?_⟩
    intro other _ promised
    cases other with
    | waiting promise => exact Nat.lt_of_lt_of_le promised advanced.promises
    | _ => trivial

theorem web_started : WebInv .fresh 0 where
  single := Nat.zero_le 1
  flag := rfl
  sound := SessionLedger.sound_empty
  owned := .inl rfl
  pending := fun sent => absurd sent List.not_mem_nil
  once := List.Perm.nil
  subscribed := fun _ => rfl

variable {allowed} {state : Threads WebPage WebThread}

/-- In every run every promise is settled once. -/
theorem promisesSettled_of_reachable
    (reachable : webSystem.ReachableWhen (ThreadProgram.Allows allowed) state) :
    PromisesSettled state := by
  obtain ⟨inv, own⟩ := (web_followed allowed).reachable web_started reachable
  refine ⟨inv.once, inv.subscribed, ?_⟩
  intro promise present
  have made : promise ∈ List.range state.memory.promises := List.mem_range.mpr (own _ present)
  exact List.mem_append.mp (inv.once.mem_iff.mpr made)

/-- Tokens arrive before a logout or after a later login. -/
def Timely (page : WebPage) : WebThread → WebEvent → Prop
  | .refreshing _ issued, .tokens _ | .loggingIn issued, .tokens _ => ¬page.ledger.Late issued
  | _, _ => True

/-- Only tokens that arrive late could revive a session. -/
theorem silent_step (timely : Timely page thread event)
    (moved : advanceWeb page thread event = some (after, next)) {issued : Nat}
    (request : issued ∈ issuedAt thread) (late : after.ledger.Late issued) :
    Silent webView page after := by
  cases thread with
  | refreshing token stamp =>
      cases request
      cases event with
      | tokens pair =>
          simp only [advanceWeb] at moved
          split at moved
          · cases moved
            exact absurd late timely
          · cases moved
      | failure =>
          cases moved
          exact ⟨id, fun _ stored => absurd stored List.not_mem_nil⟩
      | done => cases moved
  | loggingIn stamp =>
      cases request
      cases event with
      | tokens pair =>
          simp only [advanceWeb] at moved
          split at moved
          · cases moved
            exact absurd late timely
          · cases moved
      | failure =>
          cases moved
          exact ⟨id, fun _ stored => stored⟩
      | done => cases moved
  | _ => cases request

/-- A timely run refreshes once at a time and stays signed out after a logout. -/
theorem web_safe_of_timely (reachable : webSystem.ReachableWhen (ThreadProgram.Allows Timely) state) :
    SessionSafe webView webProgram Timely state := by
  have inv := ((web_followed Timely).reachable web_started reachable).1
  exact {
    singleFlight := inv.single
    sentOnce := inv.sound.sentOnce
    settled := promisesSettled_of_reachable reachable
    silent := by
      intro thread _ event after next allowed moved issued request late
      exact silent_step allowed moved request late }

end Steps

end DiskServer.Clients.WebSession
