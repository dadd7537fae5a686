import DiskServer.Construction.Clients.DesktopUpload

namespace DiskServer.Clients.DesktopUpload

open Library

section Invariant

variable (manager : UploadManager)

/-- The task has no request and no entry. -/
structure Idle : Prop where
  inFlight : manager.inFlight = []
  entry : manager.activeUpload = none

/-- The entry of the task has no request. -/
structure Waits (retryCount : Nat) : Prop where
  inFlight : manager.inFlight = []
  entry : manager.activeUpload = some ⟨none, retryCount⟩
  limited : retryCount ≤ maxRetryCount

/-- The only request in flight is the one of the entry. -/
structure Requests (request : UploadRequest) (reply retryCount : Nat) : Prop where
  inFlight : manager.inFlight = [(reply, request)]
  entry : manager.activeUpload = some ⟨some reply, retryCount⟩
  limited : retryCount ≤ maxRetryCount
  counted : manager.retriesMade ≤ retryCount

/-- The chunk that is sent by a retry leaves the status alone. -/
def Phase : UploadStatus → Prop
  | .hashing => Idle manager ∧ manager.timers = [] ∧ manager.uploadId = none ∧ manager.retriesMade = 0
  | .initializing =>
      manager.timers = [] ∧ manager.uploadId = none ∧ manager.retriesMade = 0 ∧
        ∃ reply, Requests manager .init reply 0
  | .uploading =>
      manager.timers = [] ∧ manager.uploadId ≠ none ∧
        ∃ chunkIndex reply retryCount, Requests manager (.chunk chunkIndex) reply retryCount
  | .completing =>
      manager.timers = [] ∧ manager.uploadId ≠ none ∧
        ∃ reply retryCount, Requests manager .complete reply retryCount
  | .retrying =>
      (manager.timers = [] ∧ manager.uploadId ≠ none ∧
        ∃ chunkIndex reply retryCount, Requests manager (.chunk chunkIndex) reply retryCount) ∨
      ∃ counted retryCount, Waits manager retryCount ∧ manager.timers = [.retry counted] ∧
        manager.retriesMade + counted.toNat ≤ retryCount ∧
        (manager.uploadId = none → manager.retriesMade = 0)
  | .cancelling =>
      (.cancelRetry ∉ manager.timers ∧ ∃ reply retryCount, Requests manager .cancel reply retryCount) ∨
      manager.timers.count .cancelRetry = 1 ∧
        ∃ retryCount, Waits manager retryCount ∧ manager.retriesMade + 1 ≤ retryCount
  | .cancelled => Idle manager
  | .completed | .expired | .failed => Idle manager ∧ manager.timers = []

/-- The retries are bounded, and the status agrees with the requests and the timer. -/
structure UploadInv : Prop where
  traced : Traced manager.inFlight manager.sent manager.handled
  budget : manager.retriesMade ≤ maxRetryCount
  chunks : manager.uploadId ≠ none → manager.chunks ≠ none
  phase : Phase manager manager.status

/-- A handler has taken the only reply out of the entry, and no timer is pending. -/
structure Handling (retryCount : Nat) : Prop where
  traced : Traced manager.inFlight manager.sent manager.handled
  waits : Waits manager retryCount
  timers : manager.timers = []
  counted : manager.retriesMade ≤ retryCount
  chunks : manager.uploadId ≠ none → manager.chunks ≠ none

end Invariant

section Handlers

variable {manager : UploadManager} {retryCount : Nat}

theorem Handling.budget (handling : Handling manager retryCount) : manager.retriesMade ≤ maxRetryCount :=
  handling.counted.trans handling.waits.limited

/-- The task ends and loses its entry. -/
theorem Handling.stop (handling : Handling manager retryCount) {status : UploadStatus}
    (final : status = .completed ∨ status = .failed) :
    UploadInv { manager with status := status, activeUpload := none } where
  traced := handling.traced
  budget := handling.budget
  chunks := handling.chunks
  phase := by
    rcases final with rfl | rfl
    · exact ⟨⟨handling.waits.inFlight, rfl⟩, handling.timers⟩
    · exact ⟨⟨handling.waits.inFlight, rfl⟩, handling.timers⟩

theorem Handling.failUpload (handling : Handling manager retryCount) : UploadInv (failUpload manager) :=
  handling.stop (.inr rfl)

theorem Handling.expireUpload (handling : Handling manager retryCount) :
    UploadInv (expireUpload manager) where
  traced := handling.traced
  budget := handling.budget
  chunks := fun named => absurd rfl named
  phase := ⟨⟨handling.waits.inFlight, rfl⟩, handling.timers⟩

/-- A failure ends the task or leaves it with one more timer. -/
theorem retryOrFail_cases (entry : manager.activeUpload = some ⟨none, retryCount⟩)
    (limited : retryCount ≤ maxRetryCount) (error : ApiError) (reply : Option Reply) :
    retryOrFail manager error reply = DesktopUpload.failUpload manager ∨
      ∃ counted : Bool, retryCount + counted.toNat ≤ maxRetryCount ∧
        retryOrFail manager error reply =
          { manager with
            status := .retrying
            activeUpload := some ⟨none, retryCount + counted.toNat⟩
            timers := manager.timers ++ [.retry counted] } := by
  unfold retryOrFail
  simp only [entry]
  rcases rateLimited : (reply.any (fun reply => reply.status = 429) || error.code = 10005) with - | -
  · by_cases retried : error.retryable = true ∧ retryCount < maxRetryCount
    · right
      refine ⟨true, retried.2, ?_⟩
      simp [retryOrFailUpload, rateLimited, retried.1, retried.2]
    · left
      simp only [retryOrFailUpload, rateLimited, Bool.or_false, Bool.false_or, Bool.and_eq_true,
        decide_eq_true_eq]
      rw [if_neg retried]
  · right
    refine ⟨false, limited, ?_⟩
    simp [retryOrFailUpload, rateLimited]

theorem Handling.retryOrFail (handling : Handling manager retryCount)
    (free : manager.uploadId = none → manager.retriesMade = 0) (error : ApiError)
    (reply : Option Reply) : UploadInv (retryOrFail manager error reply) := by
  rcases retryOrFail_cases handling.waits.entry handling.waits.limited error reply with
    failed | ⟨counted, limited, retried⟩
  · rw [failed]
    exact handling.failUpload
  · rw [retried]
    have timers : manager.timers ++ [.retry counted] = [.retry counted] := by rw [handling.timers]; rfl
    have added := Nat.add_le_add_right handling.counted counted.toNat
    exact ⟨handling.traced, handling.budget, handling.chunks,
      .inr ⟨counted, retryCount + counted.toNat, ⟨handling.waits.inFlight, rfl, limited⟩, timers, added, free⟩⟩

theorem Handling.react (handling : Handling manager retryCount)
    (free : manager.uploadId = none → manager.retriesMade = 0) (failure : ReplyFailure) :
    UploadInv (react manager failure) := by
  unfold DesktopUpload.react
  split
  · exact handling.expireUpload
  · exact handling.failUpload
  · exact handling.retryOrFail free _ _

end Handlers

section Requests

variable {manager : UploadManager} {retryCount : Nat}

theorem Handling.startUploadComplete (handling : Handling manager retryCount) :
    UploadInv (startUploadComplete manager) := by
  unfold DesktopUpload.startUploadComplete
  split
  · exact handling.failUpload
  · rename_i named
    have uploadId : manager.uploadId ≠ none := by simpa using named
    refine ⟨handling.traced.post _, handling.budget, handling.chunks, handling.timers, uploadId,
      manager.sent.length, retryCount, ?_, ?_, handling.waits.limited, handling.counted⟩
    · simp [post, setReply, setUploadState, handling.waits.inFlight]
    · simp [post, setReply, setUploadState, handling.waits.entry]

theorem Handling.startChunkUpload (handling : Handling manager retryCount) (chunkIndex : Nat)
    (status : manager.status = .uploading ∨ manager.status = .retrying)
    (named : manager.uploadId ≠ none) : UploadInv (startChunkUpload manager chunkIndex) := by
  unfold DesktopUpload.startChunkUpload
  have sliced := handling.chunks named
  rw [if_neg (by simp [named, sliced])]
  split
  · exact handling.failUpload
  · have sends : Requests (setReply (post manager (.chunk chunkIndex)) manager.sent.length)
        (.chunk chunkIndex) manager.sent.length retryCount := by
      refine ⟨?_, ?_, handling.waits.limited, handling.counted⟩
      · simp [post, setReply, handling.waits.inFlight]
      · simp [post, setReply, handling.waits.entry]
    refine ⟨handling.traced.post _, handling.budget, handling.chunks, ?_⟩
    change Phase _ manager.status
    rcases status with uploading | retrying
    · rw [uploading]
      exact ⟨handling.timers, named, chunkIndex, _, retryCount, sends⟩
    · rw [retrying]
      exact .inl ⟨handling.timers, named, chunkIndex, _, retryCount, sends⟩

theorem Handling.advanceToNextChunk (handling : Handling manager retryCount)
    (status : manager.status = .uploading ∨ manager.status = .retrying)
    (named : manager.uploadId ≠ none) : UploadInv (advanceToNextChunk manager) := by
  unfold DesktopUpload.advanceToNextChunk
  split
  · rename_i missing
    exact absurd missing (handling.chunks named)
  · split
    · exact handling.startUploadComplete
    · exact handling.startChunkUpload _ status named

/-- The hashing has ended or a timer has run out. -/
theorem startUploadInit_inv (traced : Traced manager.inFlight manager.sent manager.handled)
    (quiet : manager.inFlight = []) (timers : manager.timers = []) (unnamed : manager.uploadId = none)
    (unspent : manager.retriesMade = 0) (status : manager.status = .hashing ∨ manager.status = .retrying) :
    UploadInv (startUploadInit manager) := by
  unfold DesktopUpload.startUploadInit
  rw [if_neg (by rcases status with same | same <;> simp [same])]
  refine ⟨traced.post _, ?_, fun named => absurd unnamed named, timers, unnamed, unspent,
    manager.sent.length, ?_, rfl, Nat.zero_le _, ?_⟩
  · exact unspent.le.trans (Nat.zero_le _)
  · simp [post, setUploadState, quiet]
  · exact unspent.le

/-- The cancellation is sent with the count of the entry, or with a new entry. -/
theorem startUploadCancel_inv (traced : Traced manager.inFlight manager.sent manager.handled)
    (quiet : manager.inFlight = []) (timers : .cancelRetry ∉ manager.timers)
    (chunks : manager.uploadId ≠ none → manager.chunks ≠ none) (status : manager.status = .cancelling)
    (limited : (manager.activeUpload.getD ⟨none, 0⟩).retryCount ≤ maxRetryCount)
    (counted : manager.retriesMade ≤ (manager.activeUpload.getD ⟨none, 0⟩).retryCount) :
    UploadInv (startUploadCancel manager) := by
  have budget := counted.trans limited
  unfold DesktopUpload.startUploadCancel
  rw [if_neg (not_not_intro status)]
  split
  · exact ⟨traced, budget, chunks, ⟨quiet, rfl⟩⟩
  · refine ⟨traced.post _, budget, chunks, ?_⟩
    change Phase _ manager.status
    rw [status]
    refine .inl ⟨timers, _, _, ?_, rfl, limited, counted⟩
    exact congrArg (· ++ [(manager.sent.length, UploadRequest.cancel)]) quiet

end Requests

section Replies

variable {manager : UploadManager} {request : UploadRequest} {reply retryCount : Nat}

/-- The slot of the reply in flight finds its own reply in the entry. -/
theorem Requests.finished (requests : Requests manager request reply retryCount) (seen : UploadReply) :
    finished manager reply request seen = handleReply (takeReply manager reply request) request seen := by
  unfold DesktopUpload.finished
  simp [requests.entry, takeReply, List.filter_filter]

theorem Requests.waits (requests : Requests manager request reply retryCount) :
    Waits (takeReply manager reply request) retryCount where
  inFlight := by simp [takeReply, requests.inFlight]
  entry := by simp [takeReply, requests.entry]
  limited := requests.limited

theorem Requests.traced (requests : Requests manager request reply retryCount)
    (traced : Traced manager.inFlight manager.sent manager.handled) :
    Traced (takeReply manager reply request).inFlight manager.sent (manager.handled ++ [(reply, request)]) := by
  have listed : (reply, request) ∈ manager.inFlight := by
    rw [requests.inFlight]
    exact List.mem_singleton_self _
  exact traced.handle listed

theorem Requests.handling (requests : Requests manager request reply retryCount)
    (inv : UploadInv manager) (timers : manager.timers = []) :
    Handling (takeReply manager reply request) retryCount where
  traced := requests.traced inv.traced
  waits := requests.waits
  timers := timers
  counted := requests.counted
  chunks := inv.chunks

theorem Handling.handleInitResponse (handling : Handling manager retryCount)
    (unspent : manager.retriesMade = 0) (seen : UploadReply) :
    UploadInv (handleInitResponse manager seen) := by
  have free : manager.uploadId = none → manager.retriesMade = 0 := fun _ => unspent
  cases seen with
  | failure failure => exact handling.react free failure
  | instant => exact handling.stop (.inl rfl)
  | created uploadId task =>
      have named : Handling { manager with uploadId := some uploadId, chunks := some task, status := .uploading }
          retryCount :=
        ⟨handling.traced, ⟨handling.waits.inFlight, handling.waits.entry, handling.waits.limited⟩,
          handling.timers, handling.counted, fun _ => Option.some_ne_none task⟩
      exact named.advanceToNextChunk (.inl rfl) (Option.some_ne_none uploadId)
  | malformed => exact handling.retryOrFail free _ _
  | success => exact handling.retryOrFail free _ _

theorem Handling.handleChunkResponse (handling : Handling manager retryCount) (chunkIndex : Nat)
    (status : manager.status = .uploading ∨ manager.status = .retrying)
    (named : manager.uploadId ≠ none) (seen : UploadReply) :
    UploadInv (handleChunkResponse manager chunkIndex seen) := by
  have recorded : Handling
      { manager with chunks := manager.chunks.map (·.handleChunkResponse chunkIndex) } retryCount := by
    refine ⟨handling.traced, ⟨handling.waits.inFlight, handling.waits.entry, handling.waits.limited⟩,
      handling.timers, handling.counted, ?_⟩
    intro _ lost
    exact handling.chunks named (Option.map_eq_none_iff.mp lost)
  cases seen with
  | failure failure => exact handling.react (fun unnamed => absurd unnamed named) failure
  | _ => exact recorded.advanceToNextChunk status named

theorem Handling.handleCompleteResponse (handling : Handling manager retryCount)
    (named : manager.uploadId ≠ none) (seen : UploadReply) :
    UploadInv (handleCompleteResponse manager seen) := by
  cases seen with
  | failure failure => exact handling.react (fun unnamed => absurd unnamed named) failure
  | _ => exact handling.stop (.inl rfl)

/-- The cancellation ends or is tried again. -/
theorem handleCancelResponse_cases (entry : manager.activeUpload = some ⟨none, retryCount⟩)
    (seen : UploadReply) :
    handleCancelResponse manager seen = { manager with status := .cancelled, activeUpload := none } ∨
      retryCount < maxRetryCount ∧
        handleCancelResponse manager seen =
          { manager with
            activeUpload := some ⟨none, retryCount + 1⟩
            timers := manager.timers ++ [.cancelRetry] } := by
  cases seen with
  | failure failure =>
      by_cases gone : failure.head.status = 404
      · left
        simp [handleCancelResponse, gone]
      · by_cases retried : retryCount < maxRetryCount
        · right
          simp [handleCancelResponse, gone, entry, retried]
        · left
          simp [handleCancelResponse, gone, entry, retried]
  | _ => exact .inl rfl

theorem UploadInv.handleCancelResponse (inv : UploadInv manager) (status : manager.status = .cancelling)
    (timers : .cancelRetry ∉ manager.timers) (requests : Requests manager .cancel reply retryCount)
    (seen : UploadReply) : UploadInv (handleCancelResponse (takeReply manager reply .cancel) seen) := by
  have quiet := requests.waits.inFlight
  rcases handleCancelResponse_cases requests.waits.entry seen with done | ⟨fewer, again⟩
  · rw [done]
    exact ⟨requests.traced inv.traced, inv.budget, inv.chunks, ⟨quiet, rfl⟩⟩
  · rw [again]
    refine ⟨requests.traced inv.traced, inv.budget, inv.chunks, ?_⟩
    change Phase _ manager.status
    rw [status]
    have once : (manager.timers ++ [UploadTimer.cancelRetry]).count .cancelRetry = 1 := by
      rw [List.count_append, List.count_eq_zero.mpr timers, List.count_singleton_self]
    exact .inr ⟨once, retryCount + 1, ⟨quiet, rfl, fewer⟩, Nat.add_le_add_right requests.counted 1⟩

/-- Whatever finishes is handled by the handler of its request. -/
theorem UploadInv.finished (inv : UploadInv manager) (flying : (reply, request) ∈ manager.inFlight)
    (seen : UploadReply) : UploadInv (finished manager reply request seen) := by
  have phase := inv.phase
  have busy : manager.inFlight ≠ [] := List.ne_nil_of_mem flying
  have only : ∀ {other number count}, Requests manager other number count →
      (reply, request) = (number, other) := by
    intro other number count requests
    rw [requests.inFlight] at flying
    exact List.mem_singleton.mp flying
  cases status : manager.status with
  | hashing =>
      rw [status] at phase
      exact absurd phase.1.inFlight busy
  | initializing =>
      rw [status] at phase
      obtain ⟨timers, unnamed, unspent, number, requests⟩ := phase
      cases only requests
      rw [requests.finished]
      exact (requests.handling inv timers).handleInitResponse unspent seen
  | uploading =>
      rw [status] at phase
      obtain ⟨timers, named, chunkIndex, number, count, requests⟩ := phase
      cases only requests
      rw [requests.finished]
      exact (requests.handling inv timers).handleChunkResponse chunkIndex (.inl status) named seen
  | completing =>
      rw [status] at phase
      obtain ⟨timers, named, number, count, requests⟩ := phase
      cases only requests
      rw [requests.finished]
      exact (requests.handling inv timers).handleCompleteResponse named seen
  | retrying =>
      rw [status] at phase
      rcases phase with ⟨timers, named, chunkIndex, number, count, requests⟩ | ⟨_, _, waits, -⟩
      · cases only requests
        rw [requests.finished]
        exact (requests.handling inv timers).handleChunkResponse chunkIndex (.inr status) named seen
      · exact absurd waits.inFlight busy
  | cancelling =>
      rw [status] at phase
      rcases phase with ⟨timers, number, count, requests⟩ | ⟨-, _, waits, -⟩
      · cases only requests
        rw [requests.finished]
        exact inv.handleCancelResponse status timers requests seen
      · exact absurd waits.inFlight busy
  | cancelled =>
      rw [status] at phase
      exact absurd phase.inFlight busy
  | completed | expired | failed =>
      rw [status] at phase
      exact absurd phase.1.inFlight busy

end Replies

section Steps

variable {manager after : UploadManager}

/-- The steps that leave the requests, the entry and the timers alone. -/
theorem Phase.of_same {status : UploadStatus} (phase : Phase manager status)
    (inFlight : after.inFlight = manager.inFlight) (entry : after.activeUpload = manager.activeUpload)
    (timers : after.timers = manager.timers) (uploadId : after.uploadId = manager.uploadId)
    (retriesMade : after.retriesMade ≤ manager.retriesMade) : Phase after status := by
  have idle : Idle manager → Idle after := fun idle =>
    ⟨inFlight.trans idle.inFlight, entry.trans idle.entry⟩
  have waits : ∀ {count}, Waits manager count → Waits after count := fun waits =>
    ⟨inFlight.trans waits.inFlight, entry.trans waits.entry, waits.limited⟩
  have requests : ∀ {request reply count}, Requests manager request reply count →
      Requests after request reply count := fun requests =>
    ⟨inFlight.trans requests.inFlight, entry.trans requests.entry, requests.limited,
      retriesMade.trans requests.counted⟩
  have unspent : manager.retriesMade = 0 → after.retriesMade = 0 := by omega
  cases status with
  | hashing => exact ⟨idle phase.1, timers.trans phase.2.1, uploadId.trans phase.2.2.1, unspent phase.2.2.2⟩
  | initializing =>
      obtain ⟨none, unnamed, zero, reply, flying⟩ := phase
      exact ⟨timers.trans none, uploadId.trans unnamed, unspent zero, reply, requests flying⟩
  | uploading =>
      obtain ⟨none, named, chunkIndex, reply, count, flying⟩ := phase
      exact ⟨timers.trans none, uploadId ▸ named, chunkIndex, reply, count, requests flying⟩
  | completing =>
      obtain ⟨none, named, reply, count, flying⟩ := phase
      exact ⟨timers.trans none, uploadId ▸ named, reply, count, requests flying⟩
  | retrying =>
      rcases phase with ⟨none, named, chunkIndex, reply, count, flying⟩ |
        ⟨counted, count, waiting, one, below, free⟩
      · exact .inl ⟨timers.trans none, uploadId ▸ named, chunkIndex, reply, count, requests flying⟩
      · refine .inr ⟨counted, count, waits waiting, timers.trans one, by omega, ?_⟩
        intro unnamed
        exact unspent (free (uploadId.symm.trans unnamed))
  | cancelling =>
      rcases phase with ⟨none, reply, count, flying⟩ | ⟨once, count, waiting, below⟩
      · exact .inl ⟨timers ▸ none, reply, count, requests flying⟩
      · exact .inr ⟨timers ▸ once, count, waits waiting, by omega⟩
  | cancelled => exact idle phase
  | completed => exact ⟨idle phase.1, timers.trans phase.2⟩
  | expired => exact ⟨idle phase.1, timers.trans phase.2⟩
  | failed => exact ⟨idle phase.1, timers.trans phase.2⟩

theorem UploadInv.reset (inv : UploadInv manager) : UploadInv { manager with retriesMade := 0 } where
  traced := inv.traced
  budget := Nat.zero_le _
  chunks := inv.chunks
  phase := inv.phase.of_same rfl rfl rfl rfl (Nat.zero_le _)

theorem UploadInv.setReadable (inv : UploadInv manager) (readable : Bool) :
    UploadInv { manager with fileReadable := readable } where
  traced := inv.traced
  budget := inv.budget
  chunks := inv.chunks
  phase := inv.phase.of_same rfl rfl rfl rfl le_rfl

theorem UploadInv.watched (inv : UploadInv manager) : UploadInv { manager with hashWatcher := false } where
  traced := inv.traced
  budget := inv.budget
  chunks := inv.chunks
  phase := inv.phase.of_same rfl rfl rfl rfl le_rfl

theorem UploadInv.hashFinished (inv : UploadInv manager) (succeeded : Bool) :
    UploadInv (hashFinished manager succeeded) := by
  unfold DesktopUpload.hashFinished
  split
  · exact inv.watched
  · rename_i hashing
    have status : manager.status = .hashing := Decidable.not_not.mp hashing
    have phase := inv.phase
    rw [status] at phase
    obtain ⟨idle, timers, unnamed, unspent⟩ := phase
    split
    · exact startUploadInit_inv inv.watched.traced idle.inFlight timers unnamed unspent (.inl status)
    · exact ⟨inv.traced, inv.budget, inv.chunks, ⟨idle.inFlight, rfl⟩, timers⟩

theorem UploadInv.retryUpload (inv : UploadInv manager) (unspent : manager.retriesMade = 0) :
    UploadInv (retryUpload manager) := by
  unfold DesktopUpload.retryUpload
  split
  · exact inv
  · rename_i ended
    have phase := inv.phase
    have quiet : Idle manager ∧ manager.timers = [] := by
      by_cases failed : manager.status = .failed
      · rw [failed] at phase
        exact phase
      · have expired : manager.status = .expired := by
          by_contra neither
          exact ended ⟨failed, neither⟩
        rw [expired] at phase
        exact phase
    have entry : manager.activeUpload.map (fun active => { active with retryCount := 0 }) = none := by
      rw [quiet.1.entry]
      rfl
    exact ⟨inv.traced, inv.budget, fun named => absurd rfl named,
      ⟨quiet.1.inFlight, entry⟩, quiet.2, rfl, unspent⟩

end Steps

section Abort

variable {manager : UploadManager} {request : UploadRequest} {reply retryCount : Nat}

/-- The entry that is left after an abort, or the one that the next request will create. -/
def UploadManager.entry (manager : UploadManager) : ActiveUpload := manager.activeUpload.getD ⟨none, 0⟩

/-- After an abort nothing is in flight, and only an aborted cancellation leaves its own timer. -/
structure Aborted (manager after : UploadManager) : Prop where
  traced : Traced after.inFlight after.sent after.handled
  quiet : after.inFlight = []
  limited : after.entry.retryCount ≤ maxRetryCount
  spent : after.retriesMade = manager.retriesMade
  chunks : after.uploadId ≠ none → after.chunks ≠ none
  timers : manager.timers = [] → manager.status ≠ .cancelling → .cancelRetry ∉ after.timers

theorem UploadInv.quiet_or_requests (inv : UploadInv manager) :
    (manager.inFlight = [] ∧ manager.activeUpload.bind ActiveUpload.reply = none ∧
        manager.entry.retryCount ≤ maxRetryCount) ∨
      ∃ request reply retryCount, Requests manager request reply retryCount ∧
        (request = .cancel → manager.status = .cancelling) := by
  have idle : Idle manager → manager.inFlight = [] ∧
      manager.activeUpload.bind ActiveUpload.reply = none ∧ manager.entry.retryCount ≤ maxRetryCount := by
    intro idle
    simp [UploadManager.entry, idle.inFlight, idle.entry]
  have waits : ∀ {count}, Waits manager count → manager.inFlight = [] ∧
      manager.activeUpload.bind ActiveUpload.reply = none ∧ manager.entry.retryCount ≤ maxRetryCount := by
    intro count waits
    simp [UploadManager.entry, waits.inFlight, waits.entry, waits.limited]
  have phase := inv.phase
  cases status : manager.status with
  | hashing =>
      rw [status] at phase
      exact .inl (idle phase.1)
  | initializing =>
      rw [status] at phase
      obtain ⟨-, -, -, reply, requests⟩ := phase
      exact .inr ⟨_, reply, 0, requests, nofun⟩
  | uploading =>
      rw [status] at phase
      obtain ⟨-, -, chunkIndex, reply, count, requests⟩ := phase
      exact .inr ⟨_, reply, count, requests, nofun⟩
  | completing =>
      rw [status] at phase
      obtain ⟨-, -, reply, count, requests⟩ := phase
      exact .inr ⟨_, reply, count, requests, nofun⟩
  | retrying =>
      rw [status] at phase
      rcases phase with ⟨-, -, chunkIndex, reply, count, requests⟩ | ⟨_, count, waiting, -⟩
      · exact .inr ⟨_, reply, count, requests, nofun⟩
      · exact .inl (waits waiting)
  | cancelling =>
      rw [status] at phase
      rcases phase with ⟨-, reply, count, requests⟩ | ⟨-, count, waiting, -⟩
      · exact .inr ⟨_, reply, count, requests, fun _ => rfl⟩
      · exact .inl (waits waiting)
  | cancelled =>
      rw [status] at phase
      exact .inl (idle phase)
  | completed | expired | failed =>
      rw [status] at phase
      exact .inl (idle phase.1)

theorem Requests.abort (requests : Requests manager request reply retryCount) (head : Reply)
    (returns : Bool) :
    abortActiveUpload manager head returns =
      { handleReply (takeReply manager reply request) request (.failure ⟨head, some operationCanceled⟩) with
        crashed := !returns } := by
  unfold abortActiveUpload
  simp [requests.entry, requests.inFlight, requests.finished]

theorem UploadInv.abort (inv : UploadInv manager) (head : Reply) (returns : Bool) :
    Aborted manager (abortActiveUpload manager head returns) := by
  rcases inv.quiet_or_requests with ⟨quiet, unregistered, limited⟩ | ⟨request, reply, count, requests, own⟩
  · have same : abortActiveUpload manager head returns = manager := by
      simp [abortActiveUpload, unregistered]
    rw [same]
    refine ⟨inv.traced, quiet, limited, rfl, inv.chunks, ?_⟩
    intro none _
    rw [none]
    exact List.not_mem_nil
  · rw [requests.abort]
    have traced := requests.traced inv.traced
    have waits := requests.waits
    have retried : Aborted manager
        { retryOrFail (takeReply manager reply request) (errorFromNetworkError operationCanceled)
            (some head) with crashed := !returns } := by
      rcases retryOrFail_cases waits.entry waits.limited (errorFromNetworkError operationCanceled)
        (some head) with failed | ⟨counted, below, retrying⟩
      · rw [failed]
        refine ⟨traced, waits.inFlight, Nat.zero_le _, rfl, inv.chunks, ?_⟩
        intro none _ listed
        change UploadTimer.cancelRetry ∈ manager.timers at listed
        rw [none] at listed
        exact List.not_mem_nil listed
      · rw [retrying]
        refine ⟨traced, waits.inFlight, below, rfl, inv.chunks, ?_⟩
        intro none _ listed
        change UploadTimer.cancelRetry ∈ manager.timers ++ [.retry counted] at listed
        rw [none] at listed
        cases List.mem_singleton.mp listed
    cases request with
    | init => exact retried
    | chunk chunkIndex => exact retried
    | complete => exact retried
    | cancel =>
        have cancelling := own rfl
        rcases handleCancelResponse_cases waits.entry (.failure ⟨head, some operationCanceled⟩) with
          done | ⟨fewer, again⟩
        · change Aborted manager { DesktopUpload.handleCancelResponse _ _ with crashed := !returns }
          rw [done]
          exact ⟨traced, waits.inFlight, Nat.zero_le _, rfl, inv.chunks,
            fun _ other => absurd cancelling other⟩
        · change Aborted manager { DesktopUpload.handleCancelResponse _ _ with crashed := !returns }
          rw [again]
          exact ⟨traced, waits.inFlight, fewer, rfl, inv.chunks, fun _ other => absurd cancelling other⟩

/-- The process ends in the state that the handler of the aborted reply leaves. -/
theorem UploadInv.abort_inv (inv : UploadInv manager) (head : Reply) (returns : Bool) :
    UploadInv (abortActiveUpload manager head returns) := by
  rcases inv.quiet_or_requests with ⟨-, unregistered, -⟩ | ⟨request, reply, count, requests, -⟩
  · rw [show abortActiveUpload manager head returns = manager by simp [abortActiveUpload, unregistered]]
    exact inv
  · have listed : (reply, request) ∈ manager.inFlight := by
      rw [requests.inFlight]
      exact List.mem_singleton_self _
    have ended := inv.finished listed (.failure ⟨head, some operationCanceled⟩)
    rw [requests.finished] at ended
    rw [requests.abort]
    exact ⟨ended.traced, ended.budget, ended.chunks, ended.phase.of_same rfl rfl rfl rfl le_rfl⟩

theorem UploadInv.abort_alive (inv : UploadInv manager) (alive : manager.crashed = false) (head : Reply) :
    (abortActiveUpload manager head true).crashed = false := by
  rcases inv.quiet_or_requests with ⟨-, unregistered, -⟩ | ⟨request, reply, count, requests, -⟩
  · simp [abortActiveUpload, unregistered, alive]
  · rw [requests.abort]
    rfl

end Abort

section Operations

variable {manager : UploadManager}

/-- The user cancels no task in the status of a retry, the member call on a null pointer returns then,
and no initialization is repeated after a retry has been counted. -/
def UploadAllowed (manager : UploadManager) : UploadAction → Prop
  | .cancelUpload _ returns => manager.status ≠ .retrying ∧ returns = true
  | .timeout _ => manager.status = .retrying → manager.uploadId = none →
      ∀ active ∈ manager.activeUpload, active.retryCount = 0
  | _ => True

theorem UploadInv.shutdown (inv : UploadInv manager) (head : Reply) (returns : Bool) :
    UploadInv (shutdownOwnerTransfers manager head returns) := by
  have aborted := inv.abort head returns
  unfold shutdownOwnerTransfers
  split
  · exact inv
  · simp only
    split
    · exact inv.abort_inv head returns
    · refine ⟨aborted.traced, ?_, fun named => absurd rfl named, ⟨aborted.quiet, rfl⟩⟩
      rw [aborted.spent]
      exact inv.budget

theorem UploadInv.cancelUpload (inv : UploadInv manager) (unspent : manager.retriesMade = 0)
    (head : Reply) (returns : Bool) : UploadInv (cancelUpload manager head returns) := by
  have aborted := inv.abort head returns
  have spent : (abortActiveUpload manager head returns).retriesMade = 0 := aborted.spent.trans unspent
  unfold DesktopUpload.cancelUpload
  split
  · exact inv
  · rename_i cancellable
    simp only
    split
    · exact inv.abort_inv head returns
    · split
      · have phase := inv.phase
        have timers : .cancelRetry ∉ (abortActiveUpload manager head returns).timers := by
          cases status : manager.status with
          | hashing =>
              rw [status] at phase
              exact aborted.timers phase.2.1 (by rw [status]; decide)
          | initializing | uploading | completing =>
              rw [status] at phase
              exact aborted.timers phase.1 (by rw [status]; decide)
          | _ => simp [status] at cancellable
        exact startUploadCancel_inv aborted.traced aborted.quiet timers aborted.chunks rfl aborted.limited
          (spent.le.trans (Nat.zero_le _))
      · exact ⟨aborted.traced, spent.le.trans (Nat.zero_le _), aborted.chunks, ⟨aborted.quiet, rfl⟩⟩

theorem startUploadCancel_status (status : manager.status = .cancelling) :
    (startUploadCancel manager).crashed = manager.crashed ∧
      ((startUploadCancel manager).status = .cancelling ∨
        (startUploadCancel manager).status = .cancelled) := by
  unfold startUploadCancel
  rw [if_neg (not_not_intro status)]
  split
  · exact ⟨rfl, .inr rfl⟩
  · exact ⟨rfl, .inl status⟩

/-- A task with a request of its own is cancelled. -/
theorem UploadInv.cancels (inv : UploadInv manager) (alive : manager.crashed = false)
    (busy : Busy manager) (patient : manager.status ≠ .retrying) (head : Reply) :
    (DesktopUpload.cancelUpload manager head true).crashed = false ∧
      ((DesktopUpload.cancelUpload manager head true).status = .cancelling ∨
        (DesktopUpload.cancelUpload manager head true).status = .cancelled) := by
  unfold DesktopUpload.cancelUpload
  split
  · rename_i refused
    have phase := inv.phase
    have flying : ¬Idle manager := by
      intro idle
      rcases busy with inFlight | ⟨retrying, -⟩ | ⟨cancelling, none⟩
      · exact inFlight idle.inFlight
      · exact patient retrying
      · rw [cancelling] at phase
        rcases phase with ⟨-, _, _, requests⟩ | ⟨-, _, waits, -⟩
        · exact absurd idle.entry (by simp [requests.entry])
        · exact absurd idle.entry (by simp [waits.entry])
    cases status : manager.status with
    | cancelling => exact ⟨alive, .inl rfl⟩
    | retrying => exact absurd status patient
    | hashing | initializing | uploading | completing => simp [status] at refused
    | cancelled =>
        rw [status] at phase
        exact absurd phase flying
    | completed | expired | failed =>
        rw [status] at phase
        exact absurd phase.1 flying
  · simp only [inv.abort_alive alive head, Bool.false_eq_true, if_false]
    split
    · exact startUploadCancel_status rfl
    · exact ⟨rfl, .inr rfl⟩

end Operations

section Timers

variable {manager : UploadManager} {index : Nat} {timer : UploadTimer}

theorem count_eraseIdx (listed : manager.timers[index]? = some timer) (other : UploadTimer) :
    (manager.timers.eraseIdx index).count other + (if timer = other then 1 else 0) =
      manager.timers.count other := by
  obtain ⟨below, rfl⟩ := List.getElem?_eq_some_iff.mp listed
  rw [← (List.getElem_cons_eraseIdx_perm below).count_eq other, List.count_cons]
  simp

/-- A timer that belongs to an earlier status does nothing. -/
theorem UploadInv.stale (inv : UploadInv manager) (listed : manager.timers[index]? = some timer)
    (retrying : manager.status ≠ .retrying) (other : manager.status = .cancelling → timer ≠ .cancelRetry) :
    UploadInv { manager with timers := manager.timers.eraseIdx index } := by
  refine ⟨inv.traced, inv.budget, inv.chunks, ?_⟩
  have phase := inv.phase
  have pending : manager.timers ≠ [] := by
    intro none
    simp [none] at listed
  change Phase _ manager.status
  cases status : manager.status with
  | retrying => exact absurd status retrying
  | cancelling =>
      rw [status] at phase
      have kept := count_eraseIdx listed .cancelRetry
      rw [if_neg (other status), Nat.add_zero] at kept
      rcases phase with ⟨none, reply, count, requests⟩ | ⟨once, count, waits, below⟩
      · left
        refine ⟨?_, reply, count, requests.inFlight, requests.entry, requests.limited, requests.counted⟩
        exact List.count_eq_zero.mp (kept.trans (List.count_eq_zero.mpr none))
      · right
        exact ⟨kept.trans once, count, ⟨waits.inFlight, waits.entry, waits.limited⟩, below⟩
  | cancelled =>
      rw [status] at phase
      exact ⟨phase.inFlight, phase.entry⟩
  | hashing =>
      rw [status] at phase
      exact absurd phase.2.1 pending
  | initializing | uploading | completing =>
      rw [status] at phase
      exact absurd phase.1 pending
  | completed | expired | failed =>
      rw [status] at phase
      exact absurd phase.2 pending

theorem UploadInv.cancelTimeout (inv : UploadInv manager)
    (listed : manager.timers[index]? = some .cancelRetry) :
    UploadInv (cancelTimeout { manager with timers := manager.timers.eraseIdx index }) := by
  have phase := inv.phase
  unfold DesktopUpload.cancelTimeout
  split
  · rename_i other
    have retrying : manager.status ≠ .retrying := by
      intro status
      rw [status] at phase
      rcases phase with ⟨none, -⟩ | ⟨counted, -, -, one, -⟩
      · simp [none] at listed
      · rw [one] at listed
        cases List.mem_singleton.mp (List.mem_of_getElem? listed)
    exact inv.stale listed retrying fun status => absurd status other
  · rename_i same
    have status : manager.status = .cancelling := Decidable.not_not.mp same
    rw [status] at phase
    rcases phase with ⟨none, -⟩ | ⟨once, count, waits, below⟩
    · exact absurd (List.mem_of_getElem? listed) none
    · have gone := count_eraseIdx listed .cancelRetry
      rw [if_pos rfl, once] at gone
      have entry : (manager.activeUpload.getD ⟨none, 0⟩).retryCount = count := by rw [waits.entry]; rfl
      have traced := inv.traced
      exact startUploadCancel_inv traced waits.inFlight (List.count_eq_zero.mp (Nat.succ.inj gone))
        inv.chunks status (entry ▸ waits.limited) (entry ▸ below)

theorem UploadInv.retryTimeout (inv : UploadInv manager) {counted : Bool}
    (listed : manager.timers[index]? = some (.retry counted))
    (fresh : manager.status = .retrying → manager.uploadId = none →
      ∀ active ∈ manager.activeUpload, active.retryCount = 0) :
    UploadInv (retryTimeout { manager with timers := manager.timers.eraseIdx index } counted) := by
  have phase := inv.phase
  unfold DesktopUpload.retryTimeout
  split
  · rename_i other
    exact inv.stale listed other fun _ => nofun
  · rename_i same
    have status : manager.status = .retrying := Decidable.not_not.mp same
    rw [status] at phase
    rcases phase with ⟨none, -⟩ | ⟨planned, count, waits, one, below, free⟩
    · simp [none] at listed
    · rw [one] at listed
      obtain ⟨rfl, rfl⟩ : index = 0 ∧ planned = counted := by
        rcases index with - | index
        · simpa using listed
        · simp at listed
      have erased : manager.timers.eraseIdx 0 = [] := by rw [one]; rfl
      have spent : (if planned then 1 else 0) = planned.toNat := by cases planned <;> rfl
      have handling : Handling
          { manager with
            timers := manager.timers.eraseIdx 0
            retriesMade := manager.retriesMade + if planned then 1 else 0 } count := by
        refine ⟨inv.traced, ⟨waits.inFlight, waits.entry, waits.limited⟩, erased, ?_, inv.chunks⟩
        rw [spent]
        exact below
      simp only [spent] at handling ⊢
      split
      · rename_i unnamed
        have zero := fresh status unnamed _ waits.entry
        have unspent : manager.retriesMade + planned.toNat = 0 := Nat.le_zero.mp (zero ▸ below)
        exact startUploadInit_inv handling.traced waits.inFlight erased unnamed unspent (.inr status)
      · rename_i named missing
        exact absurd missing (inv.chunks (by rw [named]; exact Option.some_ne_none _))
      · rename_i named _
        split
        · exact handling.startUploadComplete
        · exact handling.advanceToNextChunk (.inr status) (by rw [named]; exact Option.some_ne_none _)

end Timers

section Runs

variable {manager after : UploadManager} {action : UploadAction}

theorem step_cases (moved : uploadSystem.step manager action = some after) :
    manager.crashed = false ∧ moveUpload manager action = some after := by
  unfold uploadSystem at moved
  cases crashed : manager.crashed with
  | false => exact ⟨rfl, by simpa [crashed] using moved⟩
  | true => simp [crashed] at moved

/-- Every step of the upload keeps the invariant. -/
theorem UploadInv.step (inv : UploadInv manager) (allowed : UploadAllowed manager action)
    (moved : uploadSystem.step manager action = some after) : UploadInv after := by
  obtain ⟨-, moved⟩ := step_cases moved
  cases action with
  | retryUpload =>
      obtain rfl := Option.some.inj moved
      exact inv.reset.retryUpload rfl
  | cancelUpload head returns =>
      obtain rfl := Option.some.inj moved
      exact inv.reset.cancelUpload rfl head returns
  | shutdownOwnerTransfers head returns =>
      obtain rfl := Option.some.inj moved
      exact inv.reset.shutdown head returns
  | setReadable readable =>
      obtain rfl := Option.some.inj moved
      exact inv.setReadable readable
  | hashed succeeded =>
      obtain ⟨-, same⟩ := Option.ite_none_right_eq_some.mp moved
      obtain rfl := Option.some.inj same
      exact inv.hashFinished succeeded
  | finish reply seen =>
      simp only [moveUpload] at moved
      split at moved
      · cases moved
      · rename_i number request found
        obtain ⟨-, same⟩ := Option.ite_none_right_eq_some.mp moved
        obtain rfl := Option.some.inj same
        have flying := List.mem_of_find?_eq_some found
        have same := List.find?_some found
        obtain rfl : number = reply := of_decide_eq_true same
        exact inv.finished flying seen
  | timeout index =>
      simp only [moveUpload] at moved
      split at moved
      · cases moved
      · rename_i counted listed
        obtain rfl := Option.some.inj moved
        exact inv.retryTimeout listed allowed
      · rename_i listed
        obtain rfl := Option.some.inj moved
        exact inv.cancelTimeout listed

theorem UploadInv.started : UploadInv .started where
  traced := Traced.empty
  budget := Nat.zero_le _
  chunks := fun named => absurd rfl named
  phase := ⟨⟨rfl, rfl⟩, rfl, rfl, rfl⟩

/-- Nothing that happens by itself brings a cancelled task back. -/
theorem UploadInv.silent_step (inv : UploadInv manager) (cancelled : manager.status = .cancelled)
    (automatic : action.byUser = false) (moved : uploadSystem.step manager action = some after) :
    UploadInv after ∧ after.status = .cancelled ∧ after.sent = manager.sent := by
  have idle := inv.phase
  rw [cancelled] at idle
  obtain ⟨-, moved⟩ := step_cases moved
  cases action with
  | retryUpload | cancelUpload head returns | shutdownOwnerTransfers head returns => cases automatic
  | setReadable readable =>
      obtain rfl := Option.some.inj moved
      exact ⟨inv.setReadable readable, cancelled, rfl⟩
  | hashed succeeded =>
      obtain ⟨-, same⟩ := Option.ite_none_right_eq_some.mp moved
      obtain rfl := Option.some.inj same
      unfold DesktopUpload.hashFinished
      rw [if_pos (by rw [cancelled]; decide)]
      exact ⟨inv.watched, cancelled, rfl⟩
  | finish reply seen =>
      have quiet := idle.inFlight
      simp [moveUpload, quiet] at moved
  | timeout index =>
      simp only [moveUpload] at moved
      have retrying : manager.status ≠ .retrying := by rw [cancelled]; decide
      have cancelling : manager.status ≠ .cancelling := by rw [cancelled]; decide
      split at moved
      · cases moved
      · rename_i counted listed
        obtain rfl := Option.some.inj moved
        unfold DesktopUpload.retryTimeout
        rw [if_pos retrying]
        exact ⟨inv.stale listed retrying fun same => absurd same cancelling, cancelled, rfl⟩
      · rename_i listed
        obtain rfl := Option.some.inj moved
        unfold DesktopUpload.cancelTimeout
        rw [if_pos cancelling]
        exact ⟨inv.stale listed retrying fun same => absurd same cancelling, cancelled, rfl⟩

theorem UploadInv.silent (inv : UploadInv manager) (cancelled : manager.status = .cancelled)
    {allowed : UploadManager → UploadAction → Prop}
    (path : uploadSystem.ReachesWhen (Automatic allowed) manager after) : after.sent = manager.sent := by
  have kept := path.keeps
    (fun state => UploadInv state ∧ state.status = .cancelled ∧ state.sent = manager.sent) ?_
    ⟨inv, cancelled, rfl⟩
  · exact kept.2.2
  · intro state action next here automatic moved
    obtain ⟨inv, cancelled, same⟩ := here
    obtain ⟨inv, cancelled, sent⟩ := inv.silent_step cancelled automatic.2 moved
    exact ⟨inv, cancelled, sent.trans same⟩

theorem UploadInv.single (inv : UploadInv manager) : manager.inFlight.length ≤ 1 := by
  rcases inv.quiet_or_requests with ⟨quiet, -⟩ | ⟨_, _, _, requests, -⟩
  · simp [quiet]
  · simp [requests.inFlight]

theorem UploadInv.safe (inv : UploadInv manager) : UploadSafe UploadAllowed manager where
  single := inv.single
  traced := inv.traced
  silent := by
    intro cancelled after path entry listed
    rw [inv.silent cancelled path] at listed
    exact .inl listed
  cancels := by
    intro busy head returns after allowed moved
    obtain ⟨patient, rfl⟩ := allowed
    obtain ⟨alive, moved⟩ := step_cases moved
    obtain rfl := Option.some.inj moved
    exact inv.reset.cancels alive busy patient head
  budget := inv.budget

/-- An upload task keeps its promises in a run in which no step reaches a defect. -/
theorem upload_safe_of_allowed (reachable : uploadSystem.ReachableWhen UploadAllowed manager) :
    UploadSafe UploadAllowed manager := by
  have inv : UploadInv manager := by
    apply reachable.invariant UploadInv
    · intro started same
      rw [show started = .started from same]
      exact UploadInv.started
    · intro state action next here allowed moved
      exact here.step allowed moved
  exact inv.safe

end Runs

end DiskServer.Clients.DesktopUpload
