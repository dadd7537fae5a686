import DiskServer.Construction.Clients.DesktopDownload

namespace DiskServer.Clients.DesktopDownload

open Library

section View

/-- What the requests of a task depend on; the disk is left out. -/
structure RequestView where
  file : RemoteFile
  status : DownloadStatus
  entry : Option (Option Nat × Nat)
  rateLimited : Bool
  inFlight : List (Nat × DownloadRequest)
  sent : List (Nat × DownloadRequest)
  handled : List (Nat × DownloadRequest)
  retriesMade : Nat

def entryView (active : ActiveDownload) : Option Nat × Nat := (active.reply, active.retryCount)

/-- What the bookkeeping of requests depends on. -/
def DownloadManager.view (manager : DownloadManager) : RequestView where
  file := manager.task.file
  status := manager.task.status
  entry := manager.activeDownload.map entryView
  rateLimited := manager.rateLimited
  inFlight := manager.inFlight.map numbered
  sent := manager.sent
  handled := manager.handled
  retriesMade := manager.retriesMade

/-- A request is sent for the entry. -/
def RequestView.send (view : RequestView) (request : DownloadRequest) (status : DownloadStatus)
    (retryCount : Nat) : RequestView :=
  { view with
    status := status
    entry := some (some view.sent.length, retryCount)
    inFlight := view.inFlight ++ [(view.sent.length, request)]
    sent := view.sent ++ [(view.sent.length, request)] }

/-- The reply of the entry is handed to a handler. -/
def RequestView.take (view : RequestView) (reply : Nat) (request : DownloadRequest) : RequestView :=
  { view with
    entry := view.entry.map fun entry => (none, entry.2)
    inFlight := view.inFlight.filter fun other => other.1 ≠ reply
    handled := view.handled ++ [(reply, request)] }

variable (manager : DownloadManager)

@[simp] theorem view_closeFile : (closeFile manager).view = manager.view := by
  unfold closeFile
  split
  · rename_i entry
    simp [DownloadManager.view, entry, entryView]
  · rfl

@[simp] theorem view_restartDownload : (restartDownload manager).view = manager.view := rfl

@[simp] theorem view_setDownloadState (status : DownloadStatus) :
    (setDownloadState manager status).view = { manager.view with status := status } := rfl

@[simp] theorem view_preparePartialFileForRange :
    (preparePartialFileForRange manager).view = manager.view := by
  unfold preparePartialFileForRange
  simp only
  split
  · rfl
  · split
    · rfl
    · split <;> rfl

/-- Reading changes neither the number nor the request of a reply. -/
theorem map_numbered_congr (change : Transfer → Transfer)
    (kept : ∀ transfer, numbered (change transfer) = numbered transfer) (transfers : List Transfer) :
    (transfers.map change).map numbered = transfers.map numbered := by
  rw [List.map_map]
  exact List.map_congr_left fun transfer _ => kept transfer

@[simp] theorem view_setTransfer (number : Nat) (change : Transfer → Transfer)
    (kept : ∀ transfer, numbered (change transfer) = numbered transfer) :
    (setTransfer manager number change).view = manager.view := by
  unfold setTransfer DownloadManager.view
  simp only [RequestView.mk.injEq, true_and, and_true]
  apply map_numbered_congr
  intro transfer
  split
  · exact kept transfer
  · rfl

@[simp] theorem view_handleDownloadData : (handleDownloadData manager).view = manager.view := by
  unfold handleDownloadData
  split
  · rename_i reply unflushed count entry
    split
    · rfl
    · split
      · rfl
      · simp [DownloadManager.view, persistResumeState, entry, entryView, setTransfer]
        intro transfer _
        split <;> rfl
  · rfl

theorem crashed_handleDownloadData : (handleDownloadData manager).crashed = manager.crashed := by
  unfold handleDownloadData
  split
  · split
    · rfl
    · split <;> rfl
  · rfl

theorem crashed_flush (count : Nat) : (flush manager count).crashed = manager.crashed := by
  unfold flush
  split <;> rfl

@[simp] theorem view_flush (count : Nat) : (flush manager count).view = manager.view := by
  unfold flush
  split
  · rename_i entry
    simp [DownloadManager.view, entry, entryView]
  · rfl

theorem numbered_filter (transfers : List Transfer) (number : Nat) :
    (transfers.filter fun transfer => transfer.number ≠ number).map numbered =
      (transfers.map numbered).filter fun entry => entry.1 ≠ number := by
  rw [List.filter_map]
  rfl

@[simp] theorem view_takeReply (reply : Nat) (request : DownloadRequest) :
    (takeReply manager reply request).view = manager.view.take reply request := by
  unfold takeReply DownloadManager.view RequestView.take
  simp only [numbered_filter, Option.map_map]
  rfl

/-- A reply that is not in flight any more. -/
def RequestView.drop (view : RequestView) (number : Nat) : RequestView :=
  { view with inFlight := view.inFlight.filter fun other => other.1 ≠ number }

theorem view_drop (number : Nat) :
    { manager with inFlight := manager.inFlight.filter fun other => other.number ≠ number }.view =
      manager.view.drop number := by
  unfold DownloadManager.view RequestView.drop
  simp only [numbered_filter]

theorem RequestView.drop_take (view : RequestView) (number : Nat) (request : DownloadRequest) :
    (view.drop number).take number request = view.take number request := by
  simp [RequestView.drop, RequestView.take, List.filter_filter]

@[simp] theorem view_failDownload :
    (failDownload manager).view = { manager.view with status := .failed, entry := none } := by
  have closed := view_closeFile manager
  unfold failDownload
  simp only [DownloadManager.view, setDownloadState] at closed ⊢
  injection closed with file status entry limited inFlight sent handled made
  simp [file, limited, inFlight, sent, handled, made]

@[simp] theorem view_fetchDownloadMetadata :
    (fetchDownloadMetadata manager).view = manager.view.send .metadata manager.task.status 0 := by
  simp [fetchDownloadMetadata, post, DownloadManager.view, RequestView.send, numbered, entryView]

theorem view_startDownloadTransfer :
    ∃ start, (startDownloadTransfer manager).view =
      manager.view.send (.download start) .downloading ((manager.view.entry.map Prod.snd).getD 0) := by
  refine ⟨if manager.task.transferMode = .range then manager.task.rangeStart else none, ?_⟩
  simp only [startDownloadTransfer, post, setDownloadState, DownloadManager.view, RequestView.send,
    List.map_append, List.map_cons, List.map_nil, Option.map_map]
  rfl

end View

section Invariant

variable (view : RequestView)

/-- The retries of a visitor's task are counted by its entry, and an own task makes none. -/
def Spent (retryCount : Nat) : Prop :=
  match view.file.authDomain with
  | .owner => view.retriesMade = 0
  | .visitor => view.retriesMade ≤ retryCount

/-- The only request in flight is the one of the entry. -/
structure Requests (request : DownloadRequest) (reply retryCount : Nat) : Prop where
  inFlight : view.inFlight = [(reply, request)]
  entry : view.entry = some (some reply, retryCount)
  limited : retryCount ≤ maxRetryCount
  spent : Spent view retryCount

/-- A visitor's task that waits for a retry has counted it. -/
def Waiting (retryCount : Nat) : Prop :=
  match view.file.authDomain with
  | .owner => view.retriesMade = 0
  | .visitor => view.retriesMade + 1 ≤ retryCount

/-- What each status says about the requests, the timer and the map of active downloads. -/
def Phase : DownloadStatus → Prop
  | .fetchingMetadata | .downloading => ∃ request reply retryCount, Requests view request reply retryCount
  | .retryWaiting =>
      view.inFlight = [] ∧
        ∃ retryCount, view.entry = some (none, retryCount) ∧ retryCount ≤ maxRetryCount ∧ Waiting view retryCount
  | .paused => view.inFlight = [] ∧ ∀ entry ∈ view.entry, entry.1 = none ∧ entry.2 ≤ maxRetryCount
  | _ => view.inFlight = [] ∧ view.entry = none

/-- What holds at any time, also after the process has ended. -/
structure Bounded : Prop where
  traced : Traced view.inFlight view.sent view.handled
  single : view.inFlight.length ≤ 1
  budget : view.retriesMade ≤ maxRetryCount

/-- The status agrees with the requests. -/
structure Settled : Prop extends Bounded view where
  phase : Phase view view.status

/-- The status means nothing after the process has ended. -/
structure DownloadInv (manager : DownloadManager) : Prop extends Bounded manager.view where
  phase : manager.crashed = false → Phase manager.view manager.view.status

/-- A handler has taken the only reply out of the entry. -/
structure Handling (retryCount : Nat) : Prop where
  traced : Traced view.inFlight view.sent view.handled
  quiet : view.inFlight = []
  entry : view.entry = some (none, retryCount)
  limited : retryCount ≤ maxRetryCount
  spent : Spent view retryCount

/-- A handler ends the task, lets it wait for a retry, or asks for the file again. -/
inductive Outcome (retryCount : Nat) : RequestView → Prop where
  | ended (status : DownloadStatus) (final : status = .completed ∨ status = .failed) :
      Outcome retryCount { view with status := status, entry := none }
  | retried (limited : Bool) (fewer : retryCount < maxRetryCount) :
      Outcome retryCount
        { view with status := .retryWaiting, entry := some (none, retryCount + 1), rateLimited := limited }
  | sent (request : DownloadRequest) :
      Outcome retryCount (view.send request .downloading retryCount)

end Invariant

section Rules

variable {view : RequestView} {request : DownloadRequest} {reply retryCount : Nat}

theorem Spent.budget (spent : Spent view retryCount) (limited : retryCount ≤ maxRetryCount) :
    view.retriesMade ≤ maxRetryCount := by
  unfold Spent at spent
  split at spent
  · exact spent.le.trans (Nat.zero_le _)
  · exact spent.trans limited

theorem spent_of_zero (unspent : view.retriesMade = 0) : Spent view retryCount := by
  unfold Spent
  split
  · exact unspent
  · exact unspent.le.trans (Nat.zero_le _)

/-- A task without a request in flight sends one. -/
theorem settled_send (traced : Traced view.inFlight view.sent view.handled) (quiet : view.inFlight = [])
    (limited : retryCount ≤ maxRetryCount) (spent : Spent view retryCount) {status : DownloadStatus}
    (active : status = .fetchingMetadata ∨ status = .downloading) :
    Settled (view.send request status retryCount) := by
  have single : view.inFlight ++ [(view.sent.length, request)] = [(view.sent.length, request)] := by
    rw [quiet]
    rfl
  have requests : Requests (view.send request status retryCount) request view.sent.length retryCount :=
    ⟨single, rfl, limited, spent⟩
  refine ⟨⟨traced.post request, ?_, spent.budget limited⟩, ?_⟩
  · exact (congrArg List.length single).le
  · rcases active with rfl | rfl
    · exact ⟨request, _, retryCount, requests⟩
    · exact ⟨request, _, retryCount, requests⟩

theorem Requests.handling (requests : Requests view request reply retryCount)
    (traced : Traced view.inFlight view.sent view.handled) :
    Handling (view.take reply request) retryCount where
  traced := by
    have listed : (reply, request) ∈ view.inFlight := by
      rw [requests.inFlight]
      exact List.mem_singleton_self _
    exact traced.handle listed
  quiet := by simp [RequestView.take, requests.inFlight]
  entry := by simp [RequestView.take, requests.entry]
  limited := requests.limited
  spent := requests.spent

theorem Outcome.settled {after : RequestView} (outcome : Outcome view retryCount after)
    (handling : Handling view retryCount) :
    Settled after := by
  have single : view.inFlight.length ≤ 1 := by simp [handling.quiet]
  have budget := handling.spent.budget handling.limited
  cases outcome with
  | ended status final =>
      refine ⟨⟨handling.traced, single, budget⟩, ?_⟩
      rcases final with rfl | rfl
      · exact ⟨handling.quiet, rfl⟩
      · exact ⟨handling.quiet, rfl⟩
  | retried limited fewer =>
      refine ⟨⟨handling.traced, single, budget⟩, handling.quiet, retryCount + 1, rfl, fewer, ?_⟩
      have spent := handling.spent
      unfold Spent at spent
      unfold Waiting
      cases domain : view.file.authDomain with
      | owner =>
          rw [domain] at spent
          exact spent
      | visitor =>
          rw [domain] at spent
          exact Nat.succ_le_succ spent
  | sent request => exact settled_send handling.traced handling.quiet handling.limited handling.spent (.inr rfl)

end Rules

section Handlers

variable {manager : DownloadManager} {retryCount : Nat}

theorem retryOrFailDownload_outcome (entry : manager.view.entry = some (none, retryCount))
    (error : ApiError) (limited : Bool) :
    Outcome manager.view retryCount (retryOrFailDownload manager error limited).view := by
  have closed := view_closeFile manager
  unfold retryOrFailDownload
  simp only
  split
  · rename_i missing
    have lost := congrArg RequestView.entry closed
    rw [entry] at lost
    simp [DownloadManager.view, missing] at lost
  · rename_i active found
    have same := congrArg RequestView.entry closed
    rw [entry] at same
    have parts : entryView active = (none, retryCount) := by
      simpa [DownloadManager.view, found] using same
    have count : active.retryCount = retryCount := congrArg Prod.snd parts
    split
    · rename_i again
      have retried : Outcome manager.view retryCount _ :=
        .retried limited (count ▸ again.1)
      rw [← closed] at retried ⊢
      simpa [DownloadManager.view, setDownloadState, entryView, count] using retried
    · rw [view_failDownload, closed]
      exact .ended .failed (.inr rfl)

/-- The preparation of a transfer changes the disk and the counters of the task. -/
theorem prepared_outcome (entry : manager.view.entry = some (none, retryCount))
    {prepared : DownloadManager} (same : prepared.view = manager.view) :
    Outcome manager.view retryCount
      (startDownloadTransfer (setDownloadState prepared .ready)).view := by
  obtain ⟨start, sent⟩ := view_startDownloadTransfer (setDownloadState prepared .ready)
  rw [sent, view_setDownloadState, same, entry]
  exact .sent (.download start)

theorem handleMetadataResponse_outcome (entry : manager.view.entry = some (none, retryCount))
    (seen : DownloadReply) (done : seen ≠ .success)
    (answered : ∀ error, seen ≠ .failed error) :
    Outcome manager.view retryCount
      (handleMetadataResponse manager seen).view := by
  cases seen with
  | failure failure =>
      exact retryOrFailDownload_outcome entry _ _
  | malformed => exact retryOrFailDownload_outcome entry _ _
  | described fileSize fileHash supportsRange =>
      apply prepared_outcome entry
      rw [view_preparePartialFileForRange]
      rfl
  | failed error => exact absurd rfl (answered error)
  | success => exact absurd rfl done

variable (computeFileMd5 : List UInt8 → String)

theorem completeDownload_outcome :
    Outcome manager.view retryCount (completeDownload manager computeFileMd5).view := by
  unfold completeDownload
  simp only
  split
  · exact .ended .completed (.inl rfl)
  · rw [view_failDownload]
    exact .ended .failed (.inr rfl)

theorem endDownload_outcome (entry : manager.view.entry = some (none, retryCount))
    {transfer : Transfer} (seen : DownloadReply) :
    Outcome manager.view retryCount
      (endDownload manager computeFileMd5 transfer.status seen).view := by
  unfold endDownload
  split
  · rw [view_failDownload]
    exact .ended .failed (.inr rfl)
  · split
    · exact prepared_outcome entry (view_restartDownload manager)
    · split
      · rename_i error
        exact retryOrFailDownload_outcome entry _ _
      · exact completeDownload_outcome computeFileMd5

end Handlers

section Finish

variable {manager : DownloadManager} {transfer : Transfer} {retryCount : Nat}
  (computeFileMd5 : List UInt8 → String)

theorem transferOf_mem {number : Nat} (found : transferOf manager number = some transfer) :
    transfer ∈ manager.inFlight ∧ transfer.number = number := by
  have same := List.find?_some found
  exact ⟨List.mem_of_find?_eq_some found, of_decide_eq_true same⟩

theorem Requests.transfers {request : DownloadRequest} {reply : Nat}
    (requests : Requests manager.view request reply retryCount) :
    ∃ transfer, manager.inFlight = [transfer] ∧ transfer.number = reply ∧ transfer.request = request := by
  obtain ⟨transfer, same, shown⟩ := List.map_eq_singleton_iff.mp requests.inFlight
  exact ⟨transfer, same, congrArg Prod.fst shown, congrArg Prod.snd shown⟩

/-- The entry knows the reply that a request is in flight for. -/
theorem Requests.entry_eq {request : DownloadRequest} {reply : Nat}
    (requests : Requests manager.view request reply retryCount) :
    ∃ file, manager.activeDownload = some ⟨some reply, file, retryCount⟩ := by
  obtain ⟨active, found, shown⟩ := Option.map_eq_some_iff.mp requests.entry
  refine ⟨active.file, ?_⟩
  rw [found]
  obtain ⟨same, count⟩ := Prod.mk.inj shown
  rw [← same, ← count]

/-- A request of its own number is not dropped with the reply that has finished. -/
theorem Outcome.dropped {view after : RequestView} {reply : Nat}
    (outcome : Outcome view retryCount after) (quiet : view.inFlight = [])
    (older : reply < view.sent.length) :
    (after.inFlight.filter fun other => other.1 ≠ reply) = after.inFlight := by
  cases outcome with
  | ended status final => simp [quiet]
  | retried limited fewer => simp [quiet]
  | sent request =>
      have newer : view.sent.length ≠ reply := by omega
      simp [RequestView.send, quiet, newer]

/-- Reading leaves the status of a reply alone. -/
theorem status_handleDownloadData (single : manager.inFlight = [transfer]) :
    ((transferOf (handleDownloadData manager) transfer.number).map (·.status)).getD 0 = transfer.status := by
  unfold handleDownloadData
  split
  · split
    · simp [transferOf, single]
    · split
      · simp [transferOf, single]
      · simp only [transferOf, persistResumeState, setTransfer, single, List.map_cons, List.map_nil]
        split <;> simp [Transfer.readAll]
  · simp [transferOf, single]

theorem handleDownloadFinished_outcome {request : DownloadRequest}
    (requests : Requests manager.view request transfer.number retryCount)
    (traced : Traced manager.view.inFlight manager.view.sent manager.view.handled)
    (single : manager.inFlight = [transfer]) (seen : DownloadReply) (others : DownloadReply) :
    Outcome (manager.view.take transfer.number request) retryCount
      (handleDownloadFinished manager computeFileMd5 request
        fun reply => if reply = transfer.number then seen else others).view := by
  have read := view_handleDownloadData manager
  have known : registered (handleDownloadData manager) = some transfer.number := by
    have same := congrArg RequestView.entry read
    rw [requests.entry] at same
    obtain ⟨active, found, shown⟩ := Option.map_eq_some_iff.mp same
    simp [registered, found, (Prod.mk.inj shown).1]
  have taken : (closeFile (takeReply (handleDownloadData manager) transfer.number request)).view =
      manager.view.take transfer.number request := by
    rw [view_closeFile, view_takeReply, read]
  have entry := (requests.handling traced).entry
  unfold handleDownloadFinished
  simp only [known, if_true, status_handleDownloadData single]
  rw [← taken] at entry ⊢
  exact endDownload_outcome computeFileMd5 entry seen

theorem finished_outcome {request : DownloadRequest} {reply : Nat}
    (requests : Requests manager.view request reply retryCount)
    (traced : Traced manager.view.inFlight manager.view.sent manager.view.handled)
    (flying : transfer ∈ manager.inFlight) (seen : DownloadReply)
    (fitting : transfer.request = .metadata → seen ≠ .success ∧ ∀ error, seen ≠ .failed error) :
    Outcome (manager.view.take reply request) retryCount
      (finished manager computeFileMd5 transfer seen).view := by
  obtain ⟨only, single, rfl, rfl⟩ := requests.transfers
  obtain rfl : transfer = only := by simpa [single] using flying
  obtain ⟨file, entry⟩ := requests.entry_eq
  have known : registered manager = some transfer.number := by simp [registered, entry]
  unfold finished
  split
  · rename_i missing
    rw [entry] at missing
    cases missing
  · split
    · rename_i metadata
      simp only [known, if_true]
      have taken := (requests.handling traced).entry
      have rest : (takeReply { manager with inFlight := manager.inFlight.filter fun other =>
          other.number ≠ transfer.number } transfer.number .metadata).view =
            manager.view.take transfer.number transfer.request := by
        rw [view_takeReply, view_drop, RequestView.drop_take, metadata]
      rw [← rest] at taken ⊢
      exact handleMetadataResponse_outcome taken seen (fitting metadata).1 (fitting metadata).2
    · rename_i start download
      have outcome := handleDownloadFinished_outcome computeFileMd5 requests traced single seen
        (unfinished transfer.request)
      have older : transfer.number < manager.sent.length :=
        traced.number_lt (traced.flying _ (List.mem_map_of_mem flying))
      have same := outcome.dropped (requests.handling traced).quiet older
      rw [view_drop, ← download]
      unfold RequestView.drop
      rw [same]
      exact outcome

end Finish

section Abort

variable {manager : DownloadManager} (computeFileMd5 : List UInt8 → String)

/-- After an abort nothing is in flight, and an entry that is left has no reply. -/
structure Aborted (before after : RequestView) : Prop where
  traced : Traced after.inFlight after.sent after.handled
  quiet : after.inFlight = []
  entry : ∀ entry ∈ after.entry, entry.1 = none ∧ entry.2 ≤ maxRetryCount
  file : after.file = before.file
  spent : after.retriesMade = before.retriesMade

/-- A handler of an aborted reply leaves an entry without a reply, or one request that it has sent. -/
theorem Outcome.aborted {view after : RequestView} {retryCount : Nat}
    (outcome : Outcome view retryCount after) (handling : Handling view retryCount) :
    Aborted view after ∨
      ∃ request, after = view.send request .downloading retryCount := by
  cases outcome with
  | ended status final => exact .inl ⟨handling.traced, handling.quiet, nofun, rfl, rfl⟩
  | retried limited fewer =>
      refine .inl ⟨handling.traced, handling.quiet, ?_, rfl, rfl⟩
      intro entry found
      obtain rfl := Option.some.inj found
      exact ⟨rfl, fewer⟩
  | sent request => exact .inr ⟨request, rfl⟩

/-- The request that the handler of an aborted reply has sent is given up. -/
theorem dropped_aborted {aborted : DownloadManager} {view : RequestView} {request : DownloadRequest}
    {retryCount : Nat} (sent : aborted.view = view.send request .downloading retryCount)
    (handling : Handling view retryCount) (unflushed : Option (List UInt8)) :
    Aborted view
      { aborted with
        activeDownload := some ⟨none, unflushed, retryCount⟩
        inFlight := aborted.inFlight.filter fun other => other.number ≠ view.sent.length }.view := by
  have posted := handling.traced.post request
  have inFlight := congrArg RequestView.inFlight sent
  have all : aborted.sent = (view.send request .downloading retryCount).sent := congrArg RequestView.sent sent
  have handled : aborted.handled = view.handled := congrArg RequestView.handled sent
  have quiet : (aborted.inFlight.filter fun other => other.number ≠ view.sent.length).map numbered = [] := by
    have shown : aborted.inFlight.map numbered = (view.send request .downloading retryCount).inFlight :=
      inFlight
    rw [numbered_filter, shown]
    simp [RequestView.send, handling.quiet]
  have traced : Traced [] aborted.sent aborted.handled := by
    rw [all, handled]
    exact posted.clear
  refine ⟨?_, quiet, ?_, ?_, ?_⟩
  · unfold DownloadManager.view
    rw [quiet]
    exact traced
  · intro entry member
    obtain rfl := Option.some.inj member
    exact ⟨rfl, handling.limited⟩
  · have file := congrArg RequestView.file sent
    exact file
  · have spent := congrArg RequestView.retriesMade sent
    exact spent

theorem Phase.quiet_or_requests {view : RequestView} {status : DownloadStatus} (phase : Phase view status) :
    (view.inFlight = [] ∧ ∀ entry ∈ view.entry, entry.1 = none ∧ entry.2 ≤ maxRetryCount) ∨
      ∃ request reply retryCount, Requests view request reply retryCount := by
  cases status with
  | fetchingMetadata | downloading => exact .inr phase
  | retryWaiting =>
      obtain ⟨quiet, count, entry, limited, -⟩ := phase
      refine .inl ⟨quiet, ?_⟩
      intro found same
      rw [entry] at same
      obtain rfl := Option.some.inj same
      exact ⟨rfl, limited⟩
  | paused => exact .inl phase
  | idle | ready | completed | cancelled | failed =>
      refine .inl ⟨phase.1, ?_⟩
      rw [phase.2]
      nofun

theorem canceled_fits (transfer : Transfer) :
    transfer.request = .metadata → canceled transfer ≠ .success ∧ ∀ error, canceled transfer ≠ .failed error := by
  intro metadata
  unfold canceled
  rw [metadata]
  exact ⟨nofun, nofun⟩

theorem DownloadInv.abort (inv : DownloadInv manager) (alive : manager.crashed = false) (returns : Bool) :
    Aborted manager.view (abortActiveDownload manager computeFileMd5 returns).view := by
  unfold abortActiveDownload
  rcases (inv.phase alive).quiet_or_requests with ⟨quiet, entries⟩ | ⟨request, reply, count, requests⟩
  · have unregistered : registered manager = none := by
      unfold registered
      cases entry : manager.activeDownload with
      | none => rfl
      | some active =>
          have member : entryView active ∈ manager.view.entry := by
            simp [DownloadManager.view, entry]
          exact (entries _ member).1
    simp only [unregistered, Option.bind_none, view_closeFile]
    exact ⟨inv.traced, quiet, entries, rfl, rfl⟩
  · obtain ⟨transfer, single, rfl, rfl⟩ := requests.transfers
    obtain ⟨file, entry⟩ := requests.entry_eq
    have known : (registered manager).bind (transferOf manager) = some transfer := by
      simp [registered, entry, transferOf, single]
    have flying : transfer ∈ manager.inFlight := by simp [single]
    have handling := requests.handling inv.traced
    have outcome := finished_outcome computeFileMd5 requests inv.traced flying (canceled transfer)
      (canceled_fits transfer)
    simp only [known]
    rcases outcome.aborted handling with aborted | ⟨request, sent⟩
    · have entries := aborted.entry
      split
      · rename_i other unflushed left found
        have member : (some other, left) ∈
            (finished manager computeFileMd5 transfer (canceled transfer)).view.entry := by
          simp [DownloadManager.view, found, entryView]
        cases (entries _ member).1
      · have same := view_closeFile (finished manager computeFileMd5 transfer (canceled transfer))
        have shown : ∀ crashed, { closeFile (finished manager computeFileMd5 transfer (canceled transfer)) with
            crashed := crashed }.view =
              (finished manager computeFileMd5 transfer (canceled transfer)).view := fun _ => same
        rw [shown]
        exact ⟨aborted.traced, aborted.quiet, aborted.entry, aborted.file, aborted.spent⟩
    · have entries := congrArg RequestView.entry sent
      obtain ⟨active, found, shown⟩ := Option.map_eq_some_iff.mp entries
      obtain ⟨replied, counted⟩ := Prod.mk.inj shown
      obtain ⟨other, unflushed, left⟩ := active
      simp only at replied counted
      subst replied counted
      simp only [found, view_closeFile]
      have dropped := dropped_aborted sent handling unflushed
      exact ⟨dropped.traced, dropped.quiet, dropped.entry, dropped.file, dropped.spent⟩

end Abort

section Operations

variable {manager : DownloadManager}

theorem Settled.inv (settled : Settled manager.view) : DownloadInv manager :=
  ⟨settled.toBounded, fun _ => settled.phase⟩

theorem DownloadInv.of_view {after : DownloadManager} (inv : DownloadInv manager)
    (same : after.view = manager.view) (crashed : after.crashed = manager.crashed) : DownloadInv after where
  toBounded := same ▸ inv.toBounded
  phase := by
    rw [same, crashed]
    exact inv.phase

theorem Phase.reset {view : RequestView} {status : DownloadStatus} (phase : Phase view status) :
    Phase { view with retriesMade := 0 } status := by
  cases status with
  | fetchingMetadata | downloading =>
      obtain ⟨request, reply, count, requests⟩ := phase
      exact ⟨request, reply, count, requests.inFlight, requests.entry, requests.limited, spent_of_zero rfl⟩
  | retryWaiting =>
      obtain ⟨quiet, count, entry, limited, waiting⟩ := phase
      refine ⟨quiet, count, entry, limited, ?_⟩
      unfold Waiting at waiting ⊢
      cases domain : view.file.authDomain with
      | owner => rfl
      | visitor =>
          rw [domain] at waiting
          exact (Nat.le_add_left 1 _).trans waiting
  | _ => exact phase

theorem DownloadInv.reset (inv : DownloadInv manager) : DownloadInv { manager with retriesMade := 0 } where
  traced := inv.traced
  single := inv.single
  budget := Nat.zero_le _
  phase := fun alive => (inv.phase alive).reset

theorem continueDownload_settled (traced : Traced [] manager.sent manager.handled)
    (quiet : manager.view.inFlight = []) (limited : ∀ entry ∈ manager.view.entry, entry.2 ≤ maxRetryCount)
    (spent : Spent manager.view ((manager.view.entry.map Prod.snd).getD 0)) :
    Settled (continueDownload manager).view := by
  have known : Traced manager.view.inFlight manager.view.sent manager.view.handled := by
    rw [quiet]
    exact traced
  have counted : (manager.view.entry.map Prod.snd).getD 0 ≤ maxRetryCount := by
    cases entry : manager.view.entry with
    | none => exact Nat.zero_le _
    | some found => exact limited found (by rw [entry]; rfl)
  unfold continueDownload
  simp only
  split
  · rename_i owner
    have unspent : Spent manager.view 0 := by
      have domain : manager.view.file.authDomain = .owner := owner
      unfold Spent at spent ⊢
      rw [domain] at spent ⊢
      exact spent
    rw [view_fetchDownloadMetadata]
    exact settled_send known quiet (Nat.zero_le _) unspent (.inl rfl)
  · obtain ⟨start, sent⟩ := view_startDownloadTransfer (setDownloadState
      (preparePartialFileForRange (setDownloadState manager .fetchingMetadata)) .ready)
    rw [sent]
    simp only [view_setDownloadState, view_preparePartialFileForRange]
    exact settled_send known quiet counted spent (.inr rfl)

theorem DownloadInv.resumeDownload (inv : DownloadInv manager) (alive : manager.crashed = false)
    (unspent : manager.retriesMade = 0) : DownloadInv (resumeDownload manager) := by
  unfold DesktopDownload.resumeDownload
  split
  · exact inv
  · rename_i paused
    have status : manager.view.status = .paused := Decidable.not_not.mp paused
    have phase := inv.phase alive
    rw [status] at phase
    apply Settled.inv
    apply continueDownload_settled _ phase.1
    · exact fun entry found => (phase.2 entry found).2
    · exact spent_of_zero unspent
    · have traced := inv.traced
      exact traced.clear

theorem DownloadInv.retryDownload (inv : DownloadInv manager) (alive : manager.crashed = false)
    (unspent : manager.retriesMade = 0) : DownloadInv (retryDownload manager) := by
  unfold DesktopDownload.retryDownload
  split
  · exact inv
  · rename_i failed
    have status : manager.view.status = .failed := Decidable.not_not.mp failed
    have phase := inv.phase alive
    rw [status] at phase
    have entry : manager.activeDownload = none := Option.map_eq_none_iff.mp phase.2
    apply Settled.inv
    apply continueDownload_settled
    · have traced := inv.traced
      exact traced.clear
    · exact phase.1
    · simp [DownloadManager.view, entry]
    · exact spent_of_zero unspent

theorem DownloadInv.retryTimeout (inv : DownloadInv manager) (alive : manager.crashed = false)
    (own : manager.activeDownload ≠ none → manager.task.status = .retryWaiting ∧
      (manager.task.file.authDomain = .owner → manager.rateLimited = true)) :
    DownloadInv (retryTimeout manager) := by
  unfold DesktopDownload.retryTimeout
  simp only
  split
  · exact inv.of_view rfl rfl
  · rename_i active found
    obtain ⟨status, unlimited⟩ := own (by rw [found]; exact Option.some_ne_none _)
    have status : manager.view.status = .retryWaiting := status
    have phase := inv.phase alive
    rw [status] at phase
    obtain ⟨quiet, count, entry, limited, waiting⟩ := phase
    apply Settled.inv
    apply continueDownload_settled
    · have traced := inv.traced
      exact traced.clear
    · exact quiet
    · intro other member
      have same : manager.view.entry = some other := member
      rw [entry] at same
      obtain rfl := Option.some.inj same
      exact limited
    · have counted : (manager.view.entry.map Prod.snd).getD 0 = count := by rw [entry]; rfl
      change Spent { manager.view with
        retriesMade := manager.view.retriesMade + if manager.view.rateLimited then 0 else 1 }
          ((manager.view.entry.map Prod.snd).getD 0)
      rw [counted]
      unfold Waiting at waiting
      unfold Spent
      cases domain : manager.view.file.authDomain with
      | owner =>
          rw [domain] at waiting
          have limit : manager.view.rateLimited = true := unlimited domain
          have unspent : manager.view.retriesMade = 0 := waiting
          simp [unspent, limit]
      | visitor =>
          rw [domain] at waiting
          simp only at waiting ⊢
          split <;> omega

/-- The task is not taken up again, whatever the abort has left. -/
theorem Aborted.settled {after : RequestView} {before : RequestView} (aborted : Aborted before after)
    (budget : before.retriesMade ≤ maxRetryCount) : Bounded after where
  traced := aborted.traced
  single := by simp [aborted.quiet]
  budget := aborted.spent ▸ budget

variable (computeFileMd5 : List UInt8 → String)

theorem DownloadInv.pauseDownload (inv : DownloadInv manager) (alive : manager.crashed = false)
    (returns : Bool) : DownloadInv (pauseDownload computeFileMd5 manager returns) := by
  have aborted := inv.abort computeFileMd5 alive returns
  have bounded := aborted.settled inv.budget
  unfold DesktopDownload.pauseDownload
  split
  · exact inv
  · simp only
    split
    · rename_i crashed
      exact ⟨bounded, fun other => by simp [crashed] at other⟩
    · exact ⟨⟨bounded.traced, bounded.single, bounded.budget⟩, fun _ => ⟨aborted.quiet, aborted.entry⟩⟩

theorem DownloadInv.cancelDownload (inv : DownloadInv manager) (alive : manager.crashed = false)
    (returns : Bool) : DownloadInv (cancelDownload computeFileMd5 manager returns) := by
  have aborted := inv.abort computeFileMd5 alive returns
  have bounded := aborted.settled inv.budget
  unfold DesktopDownload.cancelDownload
  split
  · exact inv
  · simp only
    split
    · rename_i crashed
      exact ⟨bounded, fun other => by simp [crashed] at other⟩
    · exact ⟨⟨bounded.traced, bounded.single, bounded.budget⟩, fun _ => ⟨aborted.quiet, rfl⟩⟩

theorem DownloadInv.shutdown (inv : DownloadInv manager) (alive : manager.crashed = false)
    (returns : Bool) : DownloadInv (shutdownOwnerTransfers computeFileMd5 manager returns) := by
  have aborted := inv.abort computeFileMd5 alive returns
  have bounded := aborted.settled inv.budget
  unfold shutdownOwnerTransfers
  split
  · exact inv
  · simp only
    split
    · rename_i crashed
      exact ⟨bounded, fun other => by simp [crashed] at other⟩
    · exact ⟨⟨bounded.traced, bounded.single, bounded.budget⟩, fun _ => ⟨aborted.quiet, rfl⟩⟩

end Operations

section Runs

variable {content : RemoteFile → List UInt8} {computeFileMd5 : List UInt8 → String}
  {manager after : DownloadManager} {action : DownloadAction}

/-- No timer runs out for an entry that does not wait for a retry, and an own task waits for rate limits
only. -/
def DownloadAllowed (manager : DownloadManager) : DownloadAction → Prop
  | .timeout => manager.activeDownload ≠ none → manager.task.status = .retryWaiting ∧
      (manager.task.file.authDomain = .owner → manager.rateLimited = true)
  | _ => True

theorem step_cases (moved : (downloadSystem content computeFileMd5).step manager action = some after) :
    (∃ flushed, action = .restart flushed ∧ after = restart manager flushed) ∨
      manager.crashed = false ∧ moveDownload content computeFileMd5 manager action = some after := by
  unfold downloadSystem at moved
  cases crashed : manager.crashed with
  | false => exact .inr ⟨rfl, by simpa [crashed] using moved⟩
  | true =>
      simp only [crashed, if_true] at moved
      split at moved
      · exact .inl ⟨_, rfl, (Option.some.inj moved).symm⟩
      · cases moved

theorem DownloadInv.restart (inv : DownloadInv manager) (flushed : Nat) :
    DownloadInv (restart manager flushed) := by
  have traced := inv.traced
  exact ⟨⟨traced.clear, Nat.zero_le _, Nat.zero_le _⟩, fun _ => ⟨rfl, rfl⟩⟩

theorem DownloadInv.created (inv : DownloadInv manager) (task : DownloadTask) :
    Traced (createTask manager task).view.inFlight manager.sent manager.handled := by
  have traced := inv.traced
  exact traced.clear

theorem DownloadInv.startDownload (inv : DownloadInv manager) (unspent : manager.retriesMade = 0)
    (fileId : Nat) : DownloadInv (startDownload manager fileId) := by
  apply Settled.inv
  unfold DesktopDownload.startDownload
  rw [view_fetchDownloadMetadata]
  exact settled_send (inv.created _) rfl (Nat.zero_le _) (spent_of_zero unspent) (.inl rfl)

/-- A task that needs no metadata prepares its transfer at once. -/
theorem DownloadInv.transfer (inv : DownloadInv manager) (unspent : manager.retriesMade = 0)
    (task : DownloadTask) :
    Settled (startDownloadTransfer
      (setDownloadState (preparePartialFileForRange (createTask manager task)) .ready)).view := by
  obtain ⟨start, sent⟩ := view_startDownloadTransfer
    (setDownloadState (preparePartialFileForRange (createTask manager task)) .ready)
  rw [sent, view_setDownloadState, view_preparePartialFileForRange]
  exact settled_send (inv.created task) rfl (Nat.zero_le _) (spent_of_zero unspent) (.inr rfl)

theorem DownloadInv.startShareDownload (inv : DownloadInv manager) (unspent : manager.retriesMade = 0)
    (shareId : String) (fileId : Nat) (fileHash : String) :
    DownloadInv (startShareDownload content manager shareId fileId fileHash) :=
  (inv.transfer unspent _).inv

theorem DownloadInv.finished (inv : DownloadInv manager) (alive : manager.crashed = false)
    {transfer : Transfer} (flying : transfer ∈ manager.inFlight) (seen : DownloadReply)
    (fits : seen.fits content manager transfer = true) :
    DownloadInv (finished manager computeFileMd5 transfer seen) := by
  rcases (inv.phase alive).quiet_or_requests with ⟨quiet, -⟩ | ⟨request, reply, count, requests⟩
  · have none : manager.inFlight = [] := List.map_eq_nil_iff.mp quiet
    rw [none] at flying
    cases flying
  · apply Settled.inv
    have fitting : transfer.request = .metadata → seen ≠ .success ∧ ∀ error, seen ≠ .failed error := by
      intro metadata
      constructor
      · rintro rfl
        simp [DownloadReply.fits, announcedBytes, metadata] at fits
      · rintro error rfl
        simp [DownloadReply.fits, metadata] at fits
    have outcome := finished_outcome computeFileMd5 requests inv.traced flying seen fitting
    exact outcome.settled (requests.handling inv.traced)

/-- Every step of the download keeps the invariant. -/
theorem DownloadInv.step (inv : DownloadInv manager) (allowed : DownloadAllowed manager action)
    (moved : (downloadSystem content computeFileMd5).step manager action = some after) :
    DownloadInv after := by
  rcases step_cases moved with ⟨flushed, rfl, rfl⟩ | ⟨alive, moved⟩
  · exact inv.restart flushed
  · cases action with
    | startDownload fileId =>
        obtain rfl := Option.some.inj moved
        exact inv.reset.startDownload rfl fileId
    | startShareDownload shareId fileId fileHash =>
        obtain rfl := Option.some.inj moved
        exact inv.reset.startShareDownload rfl shareId fileId fileHash
    | pauseDownload returns =>
        obtain rfl := Option.some.inj moved
        exact inv.reset.pauseDownload computeFileMd5 alive returns
    | resumeDownload =>
        obtain rfl := Option.some.inj moved
        exact inv.reset.resumeDownload alive rfl
    | retryDownload =>
        obtain rfl := Option.some.inj moved
        exact inv.reset.retryDownload alive rfl
    | cancelDownload returns =>
        obtain rfl := Option.some.inj moved
        exact inv.reset.cancelDownload computeFileMd5 alive returns
    | shutdownOwnerTransfers returns =>
        obtain rfl := Option.some.inj moved
        exact inv.reset.shutdown computeFileMd5 alive returns
    | restart flushed =>
        obtain rfl := Option.some.inj moved
        exact inv.restart flushed
    | headers number status =>
        simp only [moveDownload] at moved
        split at moved
        · cases moved
        · obtain ⟨-, same⟩ := Option.ite_none_right_eq_some.mp moved
          obtain rfl := Option.some.inj same
          exact inv.of_view (view_setTransfer _ _ _ fun _ => rfl) rfl
    | block number bytes =>
        simp only [moveDownload] at moved
        split at moved
        · cases moved
        · obtain ⟨-, same⟩ := Option.ite_none_right_eq_some.mp moved
          obtain rfl := Option.some.inj same
          apply inv.of_view
          · rw [view_handleDownloadData]
            exact view_setTransfer _ _ _ fun _ => rfl
          · exact crashed_handleDownloadData _
    | finish number seen =>
        simp only [moveDownload] at moved
        split at moved
        · cases moved
        · rename_i transfer found
          obtain ⟨fits, same⟩ := Option.ite_none_right_eq_some.mp moved
          obtain rfl := Option.some.inj same
          exact inv.finished alive (transferOf_mem found).1 seen fits
    | flush count =>
        obtain rfl := Option.some.inj moved
        exact inv.of_view (view_flush manager count) (crashed_flush manager count)
    | timeout =>
        obtain ⟨-, same⟩ := Option.ite_none_right_eq_some.mp moved
        obtain rfl := Option.some.inj same
        exact inv.retryTimeout alive allowed
    | otherTask target resumeState =>
        obtain rfl := Option.some.inj moved
        exact inv.of_view rfl rfl

theorem DownloadInv.launched (target : Option (List UInt8)) : DownloadInv (.launched target) :=
  ⟨⟨Traced.empty, Nat.zero_le _, Nat.zero_le _⟩, fun _ => ⟨rfl, rfl⟩⟩

/-- Nothing that happens by itself touches a cancelled task. -/
theorem DownloadInv.silent_step (inv : DownloadInv manager) (cancelled : manager.task.status = .cancelled)
    (automatic : action.byUser = false)
    (moved : (downloadSystem content computeFileMd5).step manager action = some after) :
    DownloadInv after ∧ after.view = manager.view := by
  rcases step_cases moved with ⟨flushed, rfl, -⟩ | ⟨alive, moved⟩
  · cases automatic
  · have phase := inv.phase alive
    rw [show manager.view.status = .cancelled from cancelled] at phase
    have quiet : manager.inFlight = [] := List.map_eq_nil_iff.mp phase.1
    have none : ∀ number, transferOf manager number = none := by
      intro number
      simp [transferOf, quiet]
    cases action with
    | headers number status => simp [moveDownload, none] at moved
    | block number bytes => simp [moveDownload, none] at moved
    | finish number seen => simp [moveDownload, none] at moved
    | flush count =>
        obtain rfl := Option.some.inj moved
        exact ⟨inv.of_view (view_flush manager count) (crashed_flush manager count), view_flush manager count⟩
    | timeout =>
        obtain ⟨-, same⟩ := Option.ite_none_right_eq_some.mp moved
        obtain rfl := Option.some.inj same
        have entry : manager.activeDownload = .none := Option.map_eq_none_iff.mp phase.2
        have idle : DesktopDownload.retryTimeout manager = { manager with timers := manager.timers - 1 } := by
          unfold DesktopDownload.retryTimeout
          split
          · rfl
          · rename_i found
            rw [entry] at found
            cases found
        rw [idle]
        exact ⟨inv.of_view rfl rfl, rfl⟩
    | otherTask target resumeState =>
        obtain rfl := Option.some.inj moved
        exact ⟨inv.of_view rfl rfl, rfl⟩
    | _ => cases automatic

theorem DownloadInv.silent (inv : DownloadInv manager) (cancelled : manager.task.status = .cancelled)
    {allowed : DownloadManager → DownloadAction → Prop}
    (path : (downloadSystem content computeFileMd5).ReachesWhen (Automatic allowed) manager after) :
    after.sent = manager.sent := by
  have kept := path.keeps (fun state => DownloadInv state ∧ state.view = manager.view) ?_ ⟨inv, rfl⟩
  · have sent := congrArg RequestView.sent kept.2
    exact sent
  · intro state action next here automatic moved
    have status : state.task.status = .cancelled := by
      have same := congrArg RequestView.status here.2
      exact same.trans cancelled
    have step := here.1.silent_step status automatic.2 moved
    exact ⟨step.1, step.2.trans here.2⟩

theorem DownloadInv.safe (inv : DownloadInv manager) :
    DownloadSafe content computeFileMd5 DownloadAllowed manager where
  single := by
    have single := inv.single
    rwa [show manager.view.inFlight = manager.inFlight.map numbered from rfl, List.length_map] at single
  traced := inv.traced
  silent := fun cancelled after path => inv.silent cancelled path
  budget := inv.budget

/-- A download task keeps its promises in a run in which no step reaches a defect. -/
theorem download_safe_of_allowed
    (reachable : (downloadSystem content computeFileMd5).ReachableWhen DownloadAllowed manager) :
    DownloadSafe content computeFileMd5 DownloadAllowed manager := by
  have inv : DownloadInv manager := by
    apply reachable.invariant DownloadInv
    · rintro started ⟨target, rfl⟩
      exact DownloadInv.launched target
    · intro state action next here allowed moved
      exact here.step allowed moved
  exact inv.safe

end Runs

end DiskServer.Clients.DesktopDownload
