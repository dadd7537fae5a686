import DiskServer.Construction.Clients.ClientSession

namespace DiskServer.Clients

open Library

namespace SessionLedger

/-- Every token that was sent has been granted before, and none has been sent twice. -/
structure Sound (ledger : SessionLedger) : Prop where
  sentOnce : ledger.sent.Nodup
  known : ∀ token ∈ ledger.sent, token ∈ ledger.granted
  named : "" ∉ ledger.granted

variable {ledger other : SessionLedger} {pair : TokenPair} {token : String}

theorem sound_empty : empty.Sound :=
  ⟨List.nodup_nil, fun _ sent => absurd sent List.not_mem_nil, List.not_mem_nil⟩

theorem Sound.of_same (sound : ledger.Sound) (granted : other.granted = ledger.granted)
    (sent : other.sent = ledger.sent) : other.Sound where
  sentOnce := sent ▸ sound.sentOnce
  known := by
    rw [sent, granted]
    exact sound.known
  named := granted ▸ sound.named

theorem Sound.empty_not_sent (sound : ledger.Sound) : "" ∉ ledger.sent :=
  fun sent => sound.named (sound.known "" sent)

/-- New tokens have never been sent. -/
theorem Sound.fresh_not_sent (sound : ledger.Sound) (fresh : ledger.Fresh pair) :
    pair.refresh ∉ ledger.sent := fun sent => fresh.2.2 (sound.known _ sent)

theorem Sound.grant (sound : ledger.Sound) (fresh : ledger.Fresh pair) : (ledger.grant pair).Sound where
  sentOnce := sound.sentOnce
  known := fun token sent => List.mem_cons_of_mem _ (sound.known token sent)
  named := by
    intro empty
    rcases List.mem_cons.mp empty with new | before
    · exact fresh.2.1 new.symm
    · exact sound.named before

theorem Sound.send (sound : ledger.Sound) (owned : token ∈ ledger.granted) (unsent : token ∉ ledger.sent) :
    (ledger.send token).Sound where
  sentOnce := List.nodup_cons.mpr ⟨unsent, sound.sentOnce⟩
  known := by
    intro other sent
    rcases List.mem_cons.mp sent with rfl | before
    · exact owned
    · exact sound.known other before
  named := sound.named

end SessionLedger

section Revival

variable {Memory Thread Call Choice : Type} (view : SessionView Memory Thread)
  (program : ThreadProgram Memory Thread Call Choice) (state : Threads Memory Thread)

/-- The next step of the thread stores a new token after a logout. -/
def revives (index : Nat) (choice : Choice) : Bool :=
  match state.threads[index]? with
  | none => false
  | some thread =>
      match program.advance state.memory thread choice with
      | none => false
      | some (after, _) =>
          (view.issued thread).any (fun issued => decide ((view.ledger after).Late issued)) &&
            (view.tokens after).any fun token => decide (token ∉ view.tokens state.memory)

variable {view program state}

/-- A step that revives a session breaks the promise. -/
theorem not_safe_of_revives {index : Nat} {choice : Choice}
    (revived : revives view program state index choice = true) :
    ¬SessionSafe view program (fun _ _ _ => True) state := by
  intro safe
  unfold revives at revived
  split at revived
  · cases revived
  · rename_i thread found
    split at revived
    · cases revived
    · rename_i after next moved
      rw [Bool.and_eq_true, Option.any_eq_true, List.any_eq_true] at revived
      obtain ⟨⟨issued, request, late⟩, token, stored, unknown⟩ := revived
      have silent := safe.silent thread (List.mem_of_getElem? found) choice after next trivial moved
        issued request (of_decide_eq_true late)
      exact of_decide_eq_true unknown (silent.tokens token stored)

end Revival

end DiskServer.Clients
