import DiskServer.Proof.Clients.OwnerSession
import DiskServer.Proof.Clients.WebSession
import DiskServer.Proof.Clients.TerminalSession

namespace DiskServer.Clients

open Library

/-- In timely runs each client refreshes once at a time, settles every request that waits for a refresh
once, and stays signed out after a logout. -/
theorem sessions_safe_of_timely (decodeRoleFromJwt : String → Int) :
    (∀ state, (OwnerSession.ownerSystem decodeRoleFromJwt).ReachableWhen
        (ThreadProgram.Allows (OwnerSession.Timely decodeRoleFromJwt)) state →
      SessionSafe OwnerSession.ownerView (OwnerSession.ownerProgram decodeRoleFromJwt)
        (OwnerSession.Timely decodeRoleFromJwt) state) ∧
    (∀ state, WebSession.webSystem.ReachableWhen (ThreadProgram.Allows WebSession.Timely) state →
      SessionSafe WebSession.webView WebSession.webProgram WebSession.Timely state) ∧
    (∀ state, TerminalSession.terminalSystem.ReachableWhen
        (ThreadProgram.Allows TerminalSession.Timely) state →
      SessionSafe TerminalSession.terminalView TerminalSession.terminalProgram TerminalSession.Timely
        state) := by
  refine ⟨?_, ?_, ?_⟩
  · intro state reachable
    exact OwnerSession.owner_safe_of_timely decodeRoleFromJwt reachable
  · intro state reachable
    exact WebSession.web_safe_of_timely reachable
  · intro state reachable
    exact TerminalSession.terminal_safe_of_timely reachable

section Runs

instance (manager : OwnerSession.OwnerSessionManager) (thread : OwnerSession.OwnerThread)
    (event : OwnerSession.OwnerEvent) :
    Decidable (OwnerSession.Timely (fun _ => 0) manager thread event) := by
  unfold OwnerSession.Timely
  split
  · infer_instance
  · exact decidable_of_iff (¬manager.ledger.Late _ ∧ ¬(manager.adminShell = true ∧
      (0 : Int) ≠ manager.role ∧ (0 : Int) ≠ 1)) ⟨fun both => ⟨both.1, both.2⟩, fun in_time =>
        ⟨in_time.early, in_time.keepsShell⟩⟩
  · exact decidable_of_iff (¬manager.ledger.Late _ ∧ ¬(manager.adminShell = true ∧
      (0 : Int) ≠ manager.role ∧ (0 : Int) ≠ 1)) ⟨fun both => ⟨both.1, both.2⟩, fun in_time =>
        ⟨in_time.early, in_time.keepsShell⟩⟩
  · infer_instance

instance (page : WebSession.WebPage) (thread : WebSession.WebThread) (event : WebSession.WebEvent) :
    Decidable (WebSession.Timely page thread event) := by
  unfold WebSession.Timely
  split <;> infer_instance

instance (session : TerminalSession.Session) (thread : TerminalSession.TerminalThread)
    (event : TerminalSession.TerminalEvent) : Decidable (TerminalSession.Timely session thread event) := by
  unfold TerminalSession.Timely
  split <;> infer_instance

/-- Each client signs in, refreshes its tokens and signs out in a timely run. -/
theorem sessions_safe_after_logout :
    (∃ state, SessionSafe OwnerSession.ownerView (OwnerSession.ownerProgram fun _ => 0)
      (OwnerSession.Timely fun _ => 0) state ∧ state.memory.ledger.sent = ["r1"]) ∧
    (∃ state, SessionSafe WebSession.webView WebSession.webProgram WebSession.Timely state ∧
      state.memory.ledger.sent = ["r1"]) ∧
    (∃ state, SessionSafe TerminalSession.terminalView TerminalSession.terminalProgram
      TerminalSession.Timely state ∧ state.memory.ledger.sent = ["r1"]) := by
  obtain ⟨owner, web, terminal⟩ := sessions_safe_of_timely fun _ => 0
  refine ⟨?_, ?_, ?_⟩
  · obtain ⟨state, reachable, checked⟩ := (OwnerSession.ownerSystem fun _ => 0).exists_reachableWhen_of_runWhen
      (ThreadProgram.Allows (OwnerSession.Timely fun _ => 0))
      [.enter .login, .advance 0 .done, .advance 0 (.loginSuccess ⟨"a1", "r1"⟩ ⟨1, "user"⟩),
        .enter .unauthorized, .advance 1 .done, .enter .unauthorized, .advance 2 .done,
        .advance 1 (.refreshSuccess ⟨"a2", "r2"⟩), .enter .logout, .advance 3 .done,
        .enter .logoutRequest, .advance 4 .done, .advance 4 .done]
      (fun state => state.memory.ledger.sent == ["r1"]) rfl (by decide +kernel)
    exact ⟨state, owner state reachable, beq_iff_eq.mp checked⟩
  · obtain ⟨state, reachable, checked⟩ := WebSession.webSystem.exists_reachableWhen_of_runWhen
      (ThreadProgram.Allows WebSession.Timely)
      [.enter .login, .advance 0 .done, .advance 0 (.tokens ⟨"a1", "r1"⟩), .enter .unauthorized,
        .advance 1 .done, .enter .unauthorized, .advance 2 .done, .advance 1 (.tokens ⟨"a2", "r2"⟩),
        .advance 2 .done, .enter .logout, .advance 3 .done, .advance 3 .done]
      (fun state => state.memory.ledger.sent == ["r1"]) rfl (by decide +kernel)
    exact ⟨state, web state reachable, beq_iff_eq.mp checked⟩
  · obtain ⟨state, reachable, checked⟩ := TerminalSession.terminalSystem.exists_reachableWhen_of_runWhen
      (ThreadProgram.Allows TerminalSession.Timely)
      [.enter .login, .advance 0 .done, .advance 0 (.tokens ⟨"a1", "r1"⟩), .advance 0 .done,
        .enter .unauthorized, .advance 1 .done, .advance 1 (.tokens ⟨"a2", "r2"⟩), .advance 1 .done,
        .enter .logout, .advance 2 .done, .advance 2 .done, .advance 2 .done, .advance 2 .done]
      (fun state => state.memory.ledger.sent == ["r1"]) rfl (by decide +kernel)
    exact ⟨state, terminal state reachable, beq_iff_eq.mp checked⟩

/-- A refresh that is answered after a logout revives the session, and two requests of the terminal client
refresh with the same token. -/
theorem sessions_not_safe :
    (¬∀ state, (OwnerSession.ownerSystem fun _ => 0).Reachable state →
      SessionSafe OwnerSession.ownerView (OwnerSession.ownerProgram fun _ => 0) (fun _ _ _ => True)
        state) ∧
    (¬∀ state, WebSession.webSystem.Reachable state →
      SessionSafe WebSession.webView WebSession.webProgram (fun _ _ _ => True) state) ∧
    (¬∀ state, TerminalSession.terminalSystem.Reachable state →
      SessionSafe TerminalSession.terminalView TerminalSession.terminalProgram (fun _ _ _ => True)
        state) := by
  refine ⟨?_, ?_, ?_⟩
  · intro safe
    obtain ⟨state, reachable, revived⟩ := (OwnerSession.ownerSystem fun _ => 0).exists_reachable_of_run
      [.enter .login, .advance 0 .done, .advance 0 (.loginSuccess ⟨"a1", "r1"⟩ ⟨1, "user"⟩),
        .enter .unauthorized, .advance 1 .done, .enter .logout, .advance 2 .done]
      (fun state => revives OwnerSession.ownerView (OwnerSession.ownerProgram fun _ => 0) state 1
        (.refreshSuccess ⟨"a2", "r2"⟩)) rfl (by decide +kernel)
    exact not_safe_of_revives revived (safe state reachable)
  · intro safe
    obtain ⟨state, reachable, revived⟩ := WebSession.webSystem.exists_reachable_of_run
      [.enter .login, .advance 0 .done, .advance 0 (.tokens ⟨"a1", "r1"⟩), .enter .unauthorized,
        .advance 1 .done, .enter .logout, .advance 2 .done, .advance 2 .done]
      (fun state => revives WebSession.webView WebSession.webProgram state 1
        (.tokens ⟨"a2", "r2"⟩)) rfl (by decide +kernel)
    exact not_safe_of_revives revived (safe state reachable)
  · intro safe
    obtain ⟨state, reachable, doubled⟩ := TerminalSession.terminalSystem.exists_reachable_of_run
      [.enter .login, .advance 0 .done, .advance 0 (.tokens ⟨"a1", "r1"⟩), .enter .unauthorized,
        .advance 1 .done, .enter .unauthorized, .advance 2 .done]
      (fun state => state.memory.ledger.sent == ["r1", "r1"]) rfl (by decide +kernel)
    have once := (safe state reachable).sentOnce
    change state.memory.ledger.sent.Nodup at once
    rw [beq_iff_eq.mp doubled] at once
    revert once
    decide

end Runs

end DiskServer.Clients
