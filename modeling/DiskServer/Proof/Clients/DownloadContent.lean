import DiskServer.Proof.Clients.DesktopDownload

/-
This file proves when the partial file of a download is a prefix of the remote file and a completed
download is the whole of it.
-/

namespace DiskServer.Clients.DesktopDownload

open Library

section Invariant

variable (content : RemoteFile → List UInt8) (manager : DownloadManager)

/-- The bytes on the disk and the bytes that have not been flushed. -/
def DownloadManager.stored : List UInt8 := manager.bytes ++ manager.buffer

/-- The bytes of the remote file. -/
def DownloadManager.remote : List UInt8 := content manager.task.file

/-- A request for content is in flight. -/
def Downloading : Prop := ∃ transfer ∈ manager.inFlight, transfer.request ≠ .metadata

/-- The sizes that a task knows are the size of the remote file. -/
structure Honest : Prop where
  fileSize : manager.task.fileSize = (manager.remote content).length
  expectedSize : manager.task.expectedSize = 0 ∨ manager.task.expectedSize = (manager.remote content).length

/-- The task names its own file, and what has arrived is what was asked for. -/
structure TaskInv : Prop where
  fresh : ∀ transfer ∈ manager.inFlight, transfer.number < manager.sent.length
  unique : (manager.inFlight.map Transfer.number).Nodup
  arrived : ∀ transfer ∈ manager.inFlight, ∀ start, transfer.request = .download start →
    transfer.delivered <+: (manager.remote content).drop (start.getD 0)
  named : ∀ identity ∈ manager.task.remoteIdentity, identity.file = manager.task.file
  honest : manager.task.file.authDomain = .visitor ∨ Downloading manager → Honest content manager

/-- The open file holds the bytes before the range and what has arrived since. -/
def Writing (reply : Nat) (unflushed : List UInt8) : Prop :=
  ∃ transfer start, transferOf manager reply = some transfer ∧ transfer.request = .download start ∧
    transfer.unread = [] ∧
    manager.bytes ++ unflushed = (manager.remote content).take (start.getD 0) ++ transfer.delivered

/-- The stored bytes are a prefix of the remote file, and so is a state that resumes. -/
structure ContentInv : Prop extends TaskInv content manager where
  resume : ∀ saved ∈ manager.resumeState, ∀ identity ∈ saved.remoteIdentity,
    manager.stored <+: content identity.file
  held : Downloading manager →
    manager.stored <+: manager.remote content ∧ (manager.task.status ≠ .cancelled → manager.target ≠ none)
  writing : ∀ reply unflushed retryCount,
    manager.activeDownload = some ⟨some reply, some unflushed, retryCount⟩ →
    Writing content manager reply unflushed
  cancelled : manager.task.status = .cancelled → manager.activeDownload = none
  completed : manager.wasCompleted = true →
    manager.activeDownload = none ∧ manager.target = some (manager.remote content) ∧
      manager.task.status = .completed
  flagged : manager.task.status = .completed → manager.wasCompleted = true

/-- A transfer can start: a part begins where the file on the disk ends. -/
structure Ready : Prop extends TaskInv content manager where
  sized : Honest content manager
  resume : ∀ saved ∈ manager.resumeState, ∀ identity ∈ saved.remoteIdentity,
    manager.bytes <+: content identity.file
  part : manager.task.transferMode = .range → ∃ start, manager.task.rangeStart = some start ∧
    manager.bytes = (manager.remote content).take start
  unfinished : manager.wasCompleted = false

end Invariant

section Start

variable {content : RemoteFile → List UInt8} {manager : DownloadManager}

theorem bytes_prefix_stored : manager.bytes <+: manager.stored := List.prefix_append _ _

/-- An entry without an open file has nothing to flush. -/
theorem stored_of_closed (closed : manager.activeDownload.bind ActiveDownload.file = none) :
    manager.stored = manager.bytes := by
  unfold DownloadManager.stored DownloadManager.buffer
  rw [closed]
  exact List.append_nil _

theorem transferOf_post (fresh : ∀ transfer ∈ manager.inFlight, transfer.number < manager.sent.length)
    (request : DownloadRequest) :
    transferOf (post manager request) manager.sent.length =
      some ⟨manager.sent.length, request, 0, [], []⟩ := by
  have none : manager.inFlight.find? (fun transfer => transfer.number = manager.sent.length) = .none := by
    apply List.find?_eq_none.mpr
    intro transfer listed same
    have below := fresh transfer listed
    have equal := of_decide_eq_true same
    omega
  unfold transferOf DesktopDownload.post
  rw [List.find?_append, none]
  simp

/-- A request that is sent has brought nothing. -/
theorem TaskInv.post (inv : TaskInv content manager) (request : DownloadRequest)
    (sized : request ≠ .metadata → Honest content manager) {after : DownloadManager}
    (file : after.task.file = manager.task.file) (fileSize : after.task.fileSize = manager.task.fileSize)
    (expectedSize : after.task.expectedSize = manager.task.expectedSize)
    (identity : after.task.remoteIdentity = manager.task.remoteIdentity)
    (inFlight : after.inFlight = manager.inFlight ++ [⟨manager.sent.length, request, 0, [], []⟩])
    (sent : after.sent = manager.sent ++ [(manager.sent.length, request)]) : TaskInv content after := by
  have remote : after.remote content = manager.remote content := congrArg content file
  refine ⟨?_, ?_, ?_, ?_, ?_⟩
  · intro transfer listed
    rw [inFlight] at listed
    rw [sent, List.length_append]
    rcases List.mem_append.mp listed with before | new
    · exact Nat.lt_add_right 1 (inv.fresh transfer before)
    · obtain rfl := List.mem_singleton.mp new
      exact Nat.lt_succ_self _
  · rw [inFlight, List.map_append]
    apply inv.unique.append (List.nodup_singleton _)
    intro number before new
    obtain ⟨transfer, listed, rfl⟩ := List.mem_map.mp before
    have below := inv.fresh transfer listed
    have same : transfer.number = manager.sent.length := List.mem_singleton.mp new
    omega
  · intro transfer listed start asked
    rw [inFlight] at listed
    rw [remote]
    rcases List.mem_append.mp listed with before | new
    · exact inv.arrived transfer before start asked
    · obtain rfl := List.mem_singleton.mp new
      exact List.nil_prefix
  · rw [identity, file]
    exact inv.named
  · intro known
    have honest : Honest content manager := by
      rcases known with visitor | ⟨transfer, listed, asked⟩
      · exact inv.honest (.inl (file ▸ visitor))
      · rw [inFlight] at listed
        rcases List.mem_append.mp listed with before | new
        · exact inv.honest (.inr ⟨transfer, before, asked⟩)
        · obtain rfl := List.mem_singleton.mp new
          exact sized asked
    exact ⟨by rw [fileSize, remote, honest.fileSize], by rw [expectedSize, remote]; exact honest.expectedSize⟩

theorem Ready.startDownloadTransfer (ready : Ready content manager) :
    ContentInv content (startDownloadTransfer manager) := by
  have bytes : (DesktopDownload.startDownloadTransfer manager).stored =
      if manager.task.transferMode = .range then manager.bytes else [] := by
    simp only [DesktopDownload.startDownloadTransfer, DownloadManager.stored, DownloadManager.bytes,
      DownloadManager.buffer, Option.bind_some, Option.getD_some, List.append_nil]
    split <;> rfl
  have range : (DesktopDownload.startDownloadTransfer manager).stored =
      (manager.remote content).take
        ((if manager.task.transferMode = .range then manager.task.rangeStart else none).getD 0) := by
    rw [bytes]
    split
    · rename_i mode
      obtain ⟨start, known, same⟩ := ready.part mode
      rw [known, same]
      rfl
    · rfl
  have status : (DesktopDownload.startDownloadTransfer manager).task.status = .downloading := rfl
  refine ⟨?_, ?_, ?_, ?_, fun same => absurd (status.symm.trans same) (by decide), ?_,
    fun same => absurd (status.symm.trans same) (by decide)⟩
  · exact ready.toTaskInv.post _ (fun _ => ready.sized) rfl rfl rfl rfl rfl rfl
  · intro saved kept identity named
    rw [bytes]
    split
    · exact ready.resume saved kept identity named
    · exact List.nil_prefix
  · intro _
    refine ⟨range ▸ List.take_prefix _ _, fun _ => ?_⟩
    simp only [DesktopDownload.startDownloadTransfer, setDownloadState]
    split <;> exact Option.some_ne_none _
  · intro reply unflushed retryCount entry
    have same := Option.some.inj entry
    injection same with number opened count
    obtain rfl := Option.some.inj number
    obtain rfl := Option.some.inj opened
    have posted := transferOf_post ready.fresh
      (.download (if manager.task.transferMode = .range then manager.task.rangeStart else none))
    exact ⟨_, _, posted, rfl, rfl, range.trans (List.append_nil _).symm⟩
  · intro done
    have unfinished := ready.unfinished
    have same : (DesktopDownload.startDownloadTransfer manager).wasCompleted = manager.wasCompleted := rfl
    rw [same, unfinished] at done
    cases done

/-- The steps that bring nothing new. -/
theorem TaskInv.change (inv : TaskInv content manager) {after : DownloadManager}
    (file : after.task.file = manager.task.file)
    (named : ∀ identity ∈ after.task.remoteIdentity, identity.file = manager.task.file)
    (honest : Honest content manager → Honest content after)
    (inFlight : after.inFlight.Sublist manager.inFlight)
    (sent : manager.sent.length ≤ after.sent.length) : TaskInv content after := by
  have remote : after.remote content = manager.remote content := congrArg content file
  refine ⟨?_, ?_, ?_, ?_, ?_⟩
  · intro transfer listed
    exact (inv.fresh transfer (inFlight.mem listed)).trans_le sent
  · exact inv.unique.sublist (inFlight.map _)
  · intro transfer listed start asked
    rw [remote]
    exact inv.arrived transfer (inFlight.mem listed) start asked
  · rw [file]
    exact named
  · rintro (visitor | ⟨transfer, listed, asked⟩)
    · exact honest (inv.honest (.inl (file ▸ visitor)))
    · exact honest (inv.honest (.inr ⟨transfer, inFlight.mem listed, asked⟩))

theorem Honest.of_same (honest : Honest content manager) {after : DownloadManager}
    (file : after.task.file = manager.task.file) (fileSize : after.task.fileSize = manager.task.fileSize)
    (expectedSize : after.task.expectedSize = manager.task.expectedSize) : Honest content after := by
  have remote : after.remote content = manager.remote content := congrArg content file
  exact ⟨by rw [fileSize, remote, honest.fileSize], by rw [expectedSize, remote]; exact honest.expectedSize⟩

/-- A restart throws the partial file away. -/
theorem TaskInv.restartDownload (inv : TaskInv content manager) (sized : Honest content manager)
    (unfinished : manager.wasCompleted = false) :
    Ready content (setDownloadState (restartDownload manager) .ready) where
  toTaskInv := inv.change rfl inv.named (fun _ => ⟨sized.fileSize, sized.expectedSize⟩)
    (List.Sublist.refl _) le_rfl
  sized := ⟨sized.fileSize, sized.expectedSize⟩
  resume := by
    intro saved _ identity _
    exact List.nil_prefix
  part := nofun
  unfinished := unfinished

theorem preparedTask_expectedSize (sized : Honest content manager) :
    (preparedTask manager.task).expectedSize = 0 ∨
      (preparedTask manager.task).expectedSize = (manager.remote content).length := by
  unfold preparedTask
  simp only
  split
  · exact .inr sized.fileSize
  · exact sized.expectedSize

/-- The identity of a prepared task names its own file. -/
theorem preparedTask_named (named : ∀ identity ∈ manager.task.remoteIdentity, identity.file = manager.task.file) :
    ∀ identity ∈ (preparedTask manager.task).remoteIdentity, identity.file = manager.task.file := by
  intro identity found
  have same : manager.task.remoteIdentity.getD (buildRemoteIdentity manager.task) = identity :=
    Option.some.inj found
  cases known : manager.task.remoteIdentity with
  | none =>
      rw [known] at same
      obtain rfl := same
      rfl
  | some other =>
      rw [known] at same
      obtain rfl : other = identity := same
      exact named other known

/-- The preparation keeps a prefix of the remote file and records it. -/
theorem TaskInv.prepared (inv : TaskInv content manager) (sized : Honest content manager)
    (unfinished : manager.wasCompleted = false) (kept : manager.bytes <+: manager.remote content)
    (mode : TransferMode) (start : Option Nat) (size : Nat)
    (part : mode = .range → ∃ first, start = some first ∧
      manager.bytes = (manager.remote content).take first) :
    Ready content
      (setDownloadState
        (persistResumeState
          { manager with
            task :=
              { preparedTask manager.task with
                transferMode := mode, rangeStart := start, receivedBytes := size
                localPartialSize := size } })
        .ready) where
  toTaskInv := inv.change rfl (preparedTask_named inv.named)
    (fun _ => ⟨sized.fileSize, preparedTask_expectedSize sized⟩) (List.Sublist.refl _) le_rfl
  sized := ⟨sized.fileSize, preparedTask_expectedSize sized⟩
  resume := by
    intro saved known identity found
    obtain rfl := Option.some.inj known
    rw [preparedTask_named inv.named identity found]
    exact kept
  part := part
  unfinished := unfinished

/-- A part is taken up again only if the resume state vouches for it. -/
theorem ContentInv.prepare (inv : ContentInv content manager) (sized : Honest content manager)
    (unfinished : manager.wasCompleted = false) :
    Ready content (setDownloadState (preparePartialFileForRange manager) .ready) := by
  have restarted := inv.toTaskInv.restartDownload sized unfinished
  unfold preparePartialFileForRange
  simp only
  split
  · rename_i empty
    have none : manager.bytes = [] := List.length_eq_zero_iff.mp empty
    exact inv.prepared sized unfinished (none ▸ List.nil_prefix) .full .none 0 nofun
  · split
    · exact restarted
    · split
      · rename_i resumable
        obtain ⟨saved, found, matched⟩ := (Option.any_eq_true _ _).mp resumable.2.2
        simp only [persistedStateMatches, Bool.and_eq_true, decide_eq_true_eq] at matched
        have own := matched.1.1.1
        have file := preparedTask_named inv.named (manager.task.remoteIdentity.getD
          (buildRemoteIdentity manager.task)) rfl
        have stored := inv.resume saved found _ own
        rw [file] at stored
        have kept : manager.bytes <+: manager.remote content := bytes_prefix_stored.trans stored
        exact inv.prepared sized unfinished kept .range (some manager.bytes.length) manager.bytes.length
          fun _ => ⟨_, rfl, List.prefix_iff_eq_take.mp kept⟩
      · exact restarted

end Start

section Moves

variable {content : RemoteFile → List UInt8} {manager after : DownloadManager}

/-- The task is neither cancelled nor completed. -/
def Unsettled (manager : DownloadManager) : Prop :=
  manager.task.status ≠ .cancelled ∧ manager.wasCompleted = false

theorem bytes_closeFile : (closeFile manager).bytes = manager.stored := by
  unfold closeFile
  split
  · rename_i entry
    simp [DownloadManager.stored, DownloadManager.bytes, DownloadManager.buffer, entry]
  · rename_i opened
    have closed : manager.activeDownload.bind ActiveDownload.file = none := by
      rcases entry : manager.activeDownload with - | ⟨reply, - | unflushed, count⟩
      · rfl
      · rfl
      · exact absurd entry (opened reply unflushed count)
    exact (stored_of_closed closed).symm

theorem closed_closeFile (manager : DownloadManager) :
    (closeFile manager).activeDownload.bind ActiveDownload.file = none := by
  unfold closeFile
  split
  · rfl
  · rename_i opened
    rcases entry : manager.activeDownload with - | ⟨reply, - | unflushed, count⟩
    · rfl
    · rfl
    · exact absurd entry (opened reply unflushed count)

theorem stored_closeFile : (closeFile manager).stored = manager.stored := by
  rw [stored_of_closed (closed_closeFile manager), bytes_closeFile]

/-- What closing a file leaves alone. -/
theorem closeFile_same (manager : DownloadManager) :
    (closeFile manager).task = manager.task ∧ (closeFile manager).resumeState = manager.resumeState ∧
      (closeFile manager).inFlight = manager.inFlight ∧ (closeFile manager).sent = manager.sent ∧
      (closeFile manager).wasCompleted = manager.wasCompleted ∧
      registered (closeFile manager) = registered manager ∧
      ((closeFile manager).activeDownload = none ↔ manager.activeDownload = none) := by
  unfold closeFile
  split
  · rename_i entry
    simp [registered, entry]
  · exact ⟨rfl, rfl, rfl, rfl, rfl, rfl, Iff.rfl⟩

theorem target_closeFile (written : manager.target ≠ none) : (closeFile manager).target ≠ none := by
  unfold closeFile
  split
  · exact Option.some_ne_none _
  · exact written

/-- Nothing that the invariant speaks of changes. -/
theorem ContentInv.of_fields (inv : ContentInv content manager) (target : after.target = manager.target)
    (resumeState : after.resumeState = manager.resumeState) (task : after.task = manager.task)
    (entry : after.activeDownload = manager.activeDownload) (inFlight : after.inFlight = manager.inFlight)
    (sent : after.sent = manager.sent) (wasCompleted : after.wasCompleted = manager.wasCompleted) :
    ContentInv content after := by
  have stored : after.stored = manager.stored := by
    simp only [DownloadManager.stored, DownloadManager.bytes, DownloadManager.buffer, target, entry]
  have bytes : after.bytes = manager.bytes := by simp only [DownloadManager.bytes, target]
  have remote : after.remote content = manager.remote content := by simp only [DownloadManager.remote, task]
  refine ⟨?_, ?_, ?_, ?_, ?_, ?_, ?_⟩
  · refine inv.toTaskInv.change (by rw [task]) ?_ ?_ ?_ (by rw [sent])
    · rw [task]
      exact inv.named
    · exact fun honest => honest.of_same (by rw [task]) (by rw [task]) (by rw [task])
    · rw [inFlight]
  · rw [resumeState, stored]
    exact inv.resume
  · unfold Downloading
    rw [inFlight, stored, remote, task, target]
    exact inv.held
  · unfold Writing transferOf
    rw [entry, inFlight, bytes, remote]
    exact inv.writing
  · rw [task, entry]
    exact inv.cancelled
  · rw [wasCompleted, entry, target, remote, task]
    exact inv.completed
  · rw [task, wasCompleted]
    exact inv.flagged

theorem ContentInv.setDownloadState (inv : ContentInv content manager) (unsettled : Unsettled manager)
    (status : DownloadStatus) (cancelled : status ≠ .cancelled) (completed : status ≠ .completed) :
    ContentInv content (setDownloadState manager status) where
  toTaskInv := inv.toTaskInv.change rfl inv.named (fun honest => honest.of_same rfl rfl rfl)
    (List.Sublist.refl _) le_rfl
  resume := inv.resume
  held := fun downloading => ⟨(inv.held downloading).1, fun _ => (inv.held downloading).2 unsettled.1⟩
  writing := inv.writing
  cancelled := fun same => absurd same cancelled
  completed := fun done => absurd (unsettled.2.symm.trans done) Bool.false_ne_true
  flagged := fun same => absurd same completed

theorem ContentInv.closeFile (inv : ContentInv content manager) : ContentInv content (closeFile manager) := by
  obtain ⟨task, resumeState, inFlight, sent, wasCompleted, -, entry⟩ := closeFile_same manager
  have remote : (DesktopDownload.closeFile manager).remote content = manager.remote content := by
    simp only [DownloadManager.remote, task]
  refine ⟨?_, ?_, ?_, ?_, ?_, ?_, ?_⟩
  · refine inv.toTaskInv.change (by rw [task]) ?_ ?_ ?_ (by rw [sent])
    · rw [task]
      exact inv.named
    · exact fun honest => honest.of_same (by rw [task]) (by rw [task]) (by rw [task])
    · rw [inFlight]
  · rw [resumeState, stored_closeFile]
    exact inv.resume
  · unfold Downloading
    rw [inFlight, stored_closeFile, remote, task]
    intro downloading
    have held := inv.held downloading
    exact ⟨held.1, fun status => target_closeFile (held.2 status)⟩
  · intro reply unflushed count same
    have closed := closed_closeFile manager
    rw [same] at closed
    cases closed
  · rw [task, entry]
    exact inv.cancelled
  · rw [wasCompleted, entry, remote, task]
    intro done
    obtain ⟨none, whole, status⟩ := inv.completed done
    refine ⟨none, ?_, status⟩
    unfold DesktopDownload.closeFile
    rw [none]
    exact whole
  · rw [task, wasCompleted]
    exact inv.flagged

/-- The entry loses its reply, and replies are given up. -/
theorem ContentInv.unregister (inv : ContentInv content manager) (target : after.target = manager.target)
    (resumeState : after.resumeState = manager.resumeState) (task : after.task = manager.task)
    (file : after.buffer = manager.buffer) (reply : registered after = none)
    (entry : manager.activeDownload = none → after.activeDownload = none)
    (inFlight : after.inFlight.Sublist manager.inFlight) (sent : after.sent = manager.sent)
    (wasCompleted : after.wasCompleted = manager.wasCompleted) : ContentInv content after := by
  have stored : after.stored = manager.stored := by
    simp only [DownloadManager.stored, DownloadManager.bytes, file, target]
  have remote : after.remote content = manager.remote content := by simp only [DownloadManager.remote, task]
  refine ⟨?_, ?_, ?_, ?_, ?_, ?_, ?_⟩
  · refine inv.toTaskInv.change (by rw [task]) ?_ ?_ inFlight (by rw [sent])
    · rw [task]
      exact inv.named
    · exact fun honest => honest.of_same (by rw [task]) (by rw [task]) (by rw [task])
  · rw [resumeState, stored]
    exact inv.resume
  · rintro ⟨transfer, listed, asked⟩
    rw [stored, remote, task, target]
    exact inv.held ⟨transfer, inFlight.mem listed, asked⟩
  · intro number unflushed count same
    unfold registered at reply
    rw [same] at reply
    cases reply
  · rw [task]
    exact fun status => entry (inv.cancelled status)
  · rw [wasCompleted, target, remote, task]
    intro done
    obtain ⟨none, rest⟩ := inv.completed done
    exact ⟨entry none, rest⟩
  · rw [task, wasCompleted]
    exact inv.flagged

/-- A task that goes on has not been cancelled or completed. -/
theorem ContentInv.unsettled (inv : ContentInv content manager) (live : manager.activeDownload ≠ none) :
    Unsettled manager where
  left := fun cancelled => live (inv.cancelled cancelled)
  right := by
    cases done : manager.wasCompleted with
    | false => rfl
    | true => exact absurd (inv.completed done).1 live

theorem unsettled_closeFile (unsettled : Unsettled manager) : Unsettled (closeFile manager) := by
  obtain ⟨task, -, -, -, wasCompleted, -⟩ := closeFile_same manager
  unfold Unsettled
  rw [task, wasCompleted]
  exact unsettled

theorem ContentInv.failDownload (inv : ContentInv content manager) (unsettled : Unsettled manager) :
    ContentInv content (failDownload manager) := by
  have failed := inv.closeFile.setDownloadState (unsettled_closeFile unsettled)
    .failed nofun nofun
  refine failed.unregister rfl rfl rfl ?_ rfl (fun _ => rfl) (List.Sublist.refl _) rfl rfl
  have closed := closed_closeFile manager
  change ([] : List UInt8) = ((DesktopDownload.closeFile manager).activeDownload.bind _).getD []
  rw [closed]
  rfl

theorem ContentInv.retryOrFailDownload (inv : ContentInv content manager) (unsettled : Unsettled manager)
    (error : ApiError) (limited : Bool) : ContentInv content (retryOrFailDownload manager error limited) := by
  have closed := unsettled_closeFile unsettled
  unfold DesktopDownload.retryOrFailDownload
  simp only
  split
  · exact inv.closeFile.failDownload closed
  · rename_i active found
    split
    · have waiting := inv.closeFile.setDownloadState closed .retryWaiting nofun nofun
      refine waiting.unregister rfl rfl rfl ?_ rfl ?_ (List.Sublist.refl _) rfl rfl
      · change (some { active with reply := none, retryCount := active.retryCount + 1 } |>.bind
          ActiveDownload.file).getD [] = ((DesktopDownload.closeFile manager).activeDownload.bind _).getD []
        rw [found]
        rfl
      · intro none
        change (DesktopDownload.closeFile manager).activeDownload = .none at none
        rw [found] at none
        cases none
    · exact inv.closeFile.failDownload closed

theorem ContentInv.fetchDownloadMetadata (inv : ContentInv content manager) (unsettled : Unsettled manager) :
    ContentInv content (fetchDownloadMetadata manager) := by
  have stored : (DesktopDownload.fetchDownloadMetadata manager).stored = manager.bytes :=
    List.append_nil _
  refine ⟨?_, ?_, ?_, nofun, fun cancelled => absurd cancelled unsettled.1,
    fun done => absurd (unsettled.2.symm.trans done) Bool.false_ne_true, inv.flagged⟩
  · exact inv.toTaskInv.post .metadata (fun same => absurd rfl same) rfl rfl rfl rfl rfl rfl
  · intro saved kept identity named
    rw [stored]
    exact bytes_prefix_stored.trans (inv.resume saved kept identity named)
  · rintro ⟨transfer, listed, asked⟩
    rw [stored]
    rcases List.mem_append.mp listed with before | new
    · have held := inv.held ⟨transfer, before, asked⟩
      exact ⟨bytes_prefix_stored.trans held.1, held.2⟩
    · obtain rfl := List.mem_singleton.mp new
      exact absurd rfl asked

/-- A visitor's task knows its size, and an own task asks for it. -/
theorem ContentInv.continueDownload (inv : ContentInv content manager) (unsettled : Unsettled manager) :
    ContentInv content (continueDownload manager) := by
  have fetching := inv.setDownloadState unsettled .fetchingMetadata nofun nofun
  unfold DesktopDownload.continueDownload
  simp only
  split
  · exact fetching.fetchDownloadMetadata ⟨nofun, unsettled.2⟩
  · rename_i visitor
    exact (fetching.prepare (fetching.honest (.inl visitor)) unsettled.2).startDownloadTransfer

end Moves

section Replies

variable {content : RemoteFile → List UInt8} {manager : DownloadManager}

/-- A file of the right size that is a prefix of the remote file is the remote file. -/
theorem eq_of_verified (sized : Honest content manager) (part : manager.bytes <+: manager.remote content)
    {computeFileMd5 : List UInt8 → String}
    (verified : verifyCompletedDownload manager computeFileMd5 = true) :
    manager.bytes = manager.remote content := by
  have expected : (if 0 < manager.task.expectedSize then manager.task.expectedSize
      else manager.task.fileSize) = (manager.remote content).length := by
    split
    · rename_i positive
      exact sized.expectedSize.resolve_left positive.ne'
    · exact sized.fileSize
  have shorter := part.length_le
  apply part.eq_of_length
  by_contra differs
  have refused : verifyCompletedDownload manager computeFileMd5 = false := by
    unfold verifyCompletedDownload
    simp only [expected]
    exact if_pos ⟨by omega, differs⟩
  rw [refused] at verified
  cases verified

variable (computeFileMd5 : List UInt8 → String)

theorem ContentInv.completeDownload (inv : ContentInv content manager) (unsettled : Unsettled manager)
    (sized : Honest content manager)
    (part : manager.bytes <+: manager.remote content) (written : manager.target ≠ none) :
    ContentInv content (completeDownload manager computeFileMd5) := by
  unfold DesktopDownload.completeDownload
  simp only
  split
  · rename_i verified
    have whole := eq_of_verified sized part verified
    obtain ⟨bytes, found⟩ := Option.ne_none_iff_exists'.mp written
    have same : manager.target = some (manager.remote content) := by
      rw [found, ← whole]
      simp [DownloadManager.bytes, found]
    refine ⟨?_, nofun, ?_, nofun, fun _ => rfl, fun _ => ⟨rfl, same, rfl⟩, fun _ => rfl⟩
    · exact inv.toTaskInv.change rfl inv.named (fun honest => honest.of_same rfl rfl rfl)
        (List.Sublist.refl _) le_rfl
    · intro _
      refine ⟨?_, fun _ => written⟩
      exact (List.append_nil manager.bytes).symm ▸ part
  · have counted : ContentInv content
        { manager with
          task :=
            { manager.task with
              receivedBytes := manager.bytes.length, localPartialSize := manager.bytes.length } } := by
      refine ⟨?_, inv.resume, inv.held, inv.writing, inv.cancelled, inv.completed, inv.flagged⟩
      exact inv.toTaskInv.change rfl inv.named (fun honest => honest.of_same rfl rfl rfl)
        (List.Sublist.refl _) le_rfl
    exact counted.failDownload unsettled

theorem ContentInv.endDownload (inv : ContentInv content manager) (unsettled : Unsettled manager)
    (sized : Honest content manager)
    (part : manager.bytes <+: manager.remote content) (written : manager.target ≠ none)
    (status : Nat) (seen : DownloadReply) :
    ContentInv content (endDownload manager computeFileMd5 status seen) := by
  unfold DesktopDownload.endDownload
  split
  · exact inv.failDownload unsettled
  · split
    · exact (inv.toTaskInv.restartDownload sized unsettled.2).startDownloadTransfer
    · split
      · exact inv.retryOrFailDownload unsettled _ _
      · exact inv.completeDownload computeFileMd5 unsettled sized part written

/-- The metadata of the task state the size of its file. -/
theorem ContentInv.describe (inv : ContentInv content manager) (task : DownloadTask)
    (file : task.file = manager.task.file) (status : task.status = manager.task.status)
    (sized : Honest content { manager with task := task })
    (named : ∀ identity ∈ task.remoteIdentity, identity.file = manager.task.file) :
    ContentInv content { manager with task := task } := by
  have remote : { manager with task := task }.remote content = manager.remote content :=
    congrArg content file
  refine ⟨?_, inv.resume, ?_, ?_, ?_, ?_, ?_⟩
  · exact inv.toTaskInv.change file named (fun _ => sized) (List.Sublist.refl _) le_rfl
  · rw [remote]
    simp only [status]
    exact inv.held
  · unfold Writing
    rw [remote]
    exact inv.writing
  · simp only [status]
    exact inv.cancelled
  · rw [remote]
    simp only [status]
    exact inv.completed
  · simp only [status]
    exact inv.flagged

theorem ContentInv.handleMetadataResponse (inv : ContentInv content manager) (unsettled : Unsettled manager)
    (seen : DownloadReply)
    (honest : ∀ fileSize fileHash supportsRange, seen = .described fileSize fileHash supportsRange →
      fileSize = (manager.remote content).length) :
    ContentInv content (handleMetadataResponse manager seen) := by
  cases seen with
  | failure failure => exact inv.retryOrFailDownload unsettled _ _
  | described fileSize fileHash supportsRange =>
      obtain rfl := honest fileSize fileHash supportsRange rfl
      have sized : Honest content
          { manager with
            task := describedTask manager.task (manager.remote content).length fileHash supportsRange } :=
        ⟨rfl, .inr rfl⟩
      have named : ∀ identity ∈ (describedTask manager.task (manager.remote content).length fileHash
          supportsRange).remoteIdentity, identity.file = manager.task.file := by
        intro identity found
        obtain rfl := Option.some.inj found
        rfl
      have described := inv.describe (describedTask manager.task (manager.remote content).length fileHash
        supportsRange) rfl rfl sized named
      exact (described.prepare sized unsettled.2).startDownloadTransfer
  | malformed => exact inv.retryOrFailDownload unsettled _ _
  | failed error => exact inv.retryOrFailDownload unsettled _ _
  | success => exact inv.retryOrFailDownload unsettled _ _

/-- Everything that has arrived has been read when the file is open. -/
theorem ContentInv.read (inv : ContentInv content manager) : handleDownloadData manager = manager := by
  unfold handleDownloadData
  split
  · rename_i reply unflushed count entry
    obtain ⟨transfer, start, found, -, unread, -⟩ := inv.writing reply unflushed count entry
    simp only [found, unread, if_true]
  · rfl

/-- The reply of the entry is taken and the file is closed. -/
theorem ContentInv.taken (inv : ContentInv content manager) (reply : Nat) (request : DownloadRequest) :
    ContentInv content (takeReply manager reply request) := by
  refine inv.unregister rfl rfl rfl ?_ ?_ ?_ List.filter_sublist rfl rfl
  · unfold DownloadManager.buffer takeReply
    cases manager.activeDownload <;> rfl
  · unfold registered takeReply
    cases manager.activeDownload <;> rfl
  · intro none
    unfold takeReply
    rw [none]
    rfl

theorem ContentInv.handleDownloadFinished (inv : ContentInv content manager)
    (unsettled : Unsettled manager) (downloading : Downloading manager) (request : DownloadRequest)
    (seen : Nat → DownloadReply) :
    ContentInv content (handleDownloadFinished manager computeFileMd5 request seen) := by
  unfold DesktopDownload.handleDownloadFinished
  rw [inv.read]
  simp only
  split
  · exact inv.closeFile
  · rename_i reply _
    have held := inv.held downloading
    have taken := inv.taken reply request
    have stored : (takeReply manager reply request).stored = manager.stored := by
      unfold DownloadManager.stored DownloadManager.buffer DownloadManager.bytes takeReply
      cases manager.activeDownload <;> rfl
    obtain ⟨task, -⟩ := closeFile_same (takeReply manager reply request)
    have same : (DesktopDownload.closeFile (takeReply manager reply request)).task = manager.task := task
    have remote : (DesktopDownload.closeFile (takeReply manager reply request)).remote content =
        manager.remote content := by
      simp only [DownloadManager.remote, same]
    apply taken.closeFile.endDownload computeFileMd5 (unsettled_closeFile unsettled)
    · exact (inv.honest (.inr downloading)).of_same (by rw [same]) (by rw [same]) (by rw [same])
    · rw [bytes_closeFile, remote, stored]
      exact held.1
    · exact target_closeFile (held.2 unsettled.1)

end Replies

section Finish

variable {content : RemoteFile → List UInt8} {manager : DownloadManager}
  (computeFileMd5 : List UInt8 → String)

theorem registered_retryOrFailDownload (error : ApiError) (limited : Bool) :
    registered (retryOrFailDownload manager error limited) = none := by
  unfold retryOrFailDownload
  simp only
  split
  · rfl
  · split <;> rfl

/-- A handler leaves no reply in the entry, or one that it has asked for. -/
theorem registered_endDownload (status : Nat) (seen : DownloadReply) :
    registered (endDownload manager computeFileMd5 status seen) = none ∨
      registered (endDownload manager computeFileMd5 status seen) = some manager.sent.length := by
  unfold endDownload
  split
  · exact .inl rfl
  · split
    · exact .inr rfl
    · split
      · exact .inl (registered_retryOrFailDownload _ _)
      · unfold completeDownload
        simp only
        split <;> exact .inl rfl

theorem registered_handleDownloadFinished (read : handleDownloadData manager = manager)
    (request : DownloadRequest) (seen : Nat → DownloadReply) :
    registered (handleDownloadFinished manager computeFileMd5 request seen) = none ∨
      registered (handleDownloadFinished manager computeFileMd5 request seen) = some manager.sent.length := by
  unfold handleDownloadFinished
  rw [read]
  simp only
  split
  · rename_i unregistered
    obtain ⟨-, -, -, -, -, same, -⟩ := closeFile_same manager
    exact .inl (same.trans unregistered)
  · rename_i reply _
    have sent : (closeFile (takeReply manager reply request)).sent = manager.sent :=
      (closeFile_same (takeReply manager reply request)).2.2.2.1
    rw [← sent]
    exact registered_endDownload computeFileMd5 _ _

/-- A reply that is not the one of the entry is not in flight any more. -/
theorem ContentInv.drop (inv : ContentInv content manager) {number : Nat}
    (other : ∀ reply, registered manager = some reply → reply ≠ number) :
    ContentInv content
      { manager with inFlight := manager.inFlight.filter fun transfer => transfer.number ≠ number } := by
  refine ⟨?_, inv.resume, ?_, ?_, inv.cancelled, inv.completed, inv.flagged⟩
  · exact inv.toTaskInv.change rfl inv.named (fun honest => honest.of_same rfl rfl rfl)
      List.filter_sublist le_rfl
  · rintro ⟨transfer, listed, asked⟩
    exact inv.held ⟨transfer, List.mem_of_mem_filter listed, asked⟩
  · intro reply unflushed count entry
    obtain ⟨transfer, start, found, rest⟩ := inv.writing reply unflushed count entry
    have differs : reply ≠ number := other reply (by
      unfold registered
      rw [show manager.activeDownload = _ from entry]
      rfl)
    refine ⟨transfer, start, ?_, rest⟩
    unfold transferOf at found ⊢
    simp only
    rw [List.find?_filter, ← found]
    congr 1
    funext other
    by_cases same : other.number = reply
    · simp [same, differs]
    · simp [same]

theorem ContentInv.finished (inv : ContentInv content manager) {transfer : Transfer}
    (flying : transfer ∈ manager.inFlight) (seen : DownloadReply)
    (fits : seen.fits content manager transfer = true) :
    ContentInv content (finished manager computeFileMd5 transfer seen) := by
  unfold DesktopDownload.finished
  simp only
  split
  · rename_i none
    refine inv.unregister rfl rfl rfl rfl ?_ (fun same => same) List.filter_sublist rfl rfl
    unfold registered
    simp only [none]
    rfl
  · rename_i active found
    have unsettled : Unsettled manager := inv.unsettled (by rw [found]; exact Option.some_ne_none _)
    split
    · split
      · rename_i unregistered
        exact inv.unregister rfl rfl rfl rfl unregistered (fun same => same) List.filter_sublist rfl rfl
      · rename_i reply _
        have taken : ContentInv content (takeReply
            { manager with inFlight := manager.inFlight.filter fun other => other.number ≠ transfer.number }
            reply .metadata) := by
          refine inv.unregister rfl rfl rfl ?_ ?_ ?_ ?_ rfl rfl
          · simp [DownloadManager.buffer, takeReply, found]
          · simp [registered, takeReply, found]
          · intro none
            rw [found] at none
            cases none
          · exact List.filter_sublist.trans List.filter_sublist
        apply taken.handleMetadataResponse unsettled
        intro fileSize fileHash supportsRange shown
        split at shown
        · subst shown
          simp only [DownloadReply.fits, Bool.decide_and, Bool.and_eq_true, decide_eq_true_eq] at fits
          exact fits.2
        · rename_i metadata _ _ _
          rw [metadata] at shown
          cases shown
    · rename_i start download
      have downloading : Downloading manager := ⟨transfer, flying, by simp [download]⟩
      have ended := inv.handleDownloadFinished computeFileMd5 unsettled downloading (.download start)
        fun reply => if reply = transfer.number then seen else unfinished transfer.request
      apply ended.drop
      intro reply known
      have older := inv.fresh transfer flying
      rcases registered_handleDownloadFinished computeFileMd5 inv.read (.download start)
        (fun reply => if reply = transfer.number then seen else unfinished transfer.request) with none | new
      · rw [none] at known
        cases known
      · rw [new] at known
        obtain rfl := Option.some.inj known
        omega

end Finish

section Abort

variable {content : RemoteFile → List UInt8} {manager after last : DownloadManager}
  (computeFileMd5 : List UInt8 → String)

/-- A step neither cancels nor completes a task. -/
def GoesOn (manager after : DownloadManager) : Prop :=
  after.wasCompleted = manager.wasCompleted ∧
    (after.task.status = .cancelled → manager.task.status = .cancelled)

theorem GoesOn.trans (first : GoesOn manager after) (second : GoesOn after last) : GoesOn manager last :=
  ⟨second.1.trans first.1, fun cancelled => first.2 (second.2 cancelled)⟩

theorem goesOn_closeFile : GoesOn manager (closeFile manager) := by
  obtain ⟨task, -, -, -, wasCompleted, -⟩ := closeFile_same manager
  exact ⟨wasCompleted, fun cancelled => by rwa [task] at cancelled⟩

theorem goesOn_failDownload : GoesOn manager (failDownload manager) :=
  ⟨goesOn_closeFile.1, nofun⟩

theorem goesOn_retryOrFailDownload (error : ApiError) (limited : Bool) :
    GoesOn manager (retryOrFailDownload manager error limited) := by
  unfold retryOrFailDownload
  simp only
  split
  · exact goesOn_closeFile.trans goesOn_failDownload
  · split
    · exact ⟨goesOn_closeFile.1, nofun⟩
    · exact goesOn_closeFile.trans goesOn_failDownload

theorem goesOn_preparePartialFileForRange (manager : DownloadManager) :
    GoesOn manager (preparePartialFileForRange manager) := by
  unfold preparePartialFileForRange
  simp only
  split
  · exact ⟨rfl, id⟩
  · split
    · exact ⟨rfl, id⟩
    · split <;> exact ⟨rfl, id⟩

theorem goesOn_handleMetadataResponse (seen : DownloadReply) :
    GoesOn manager (handleMetadataResponse manager seen) := by
  cases seen with
  | described fileSize fileHash supportsRange =>
      have prepared := goesOn_preparePartialFileForRange
        { manager with task := describedTask manager.task fileSize fileHash supportsRange }
      exact ⟨prepared.1, nofun⟩
  | _ => exact goesOn_retryOrFailDownload _ _

theorem goesOn_endDownload (status : Nat) (error : NetworkError) :
    GoesOn manager (endDownload manager computeFileMd5 status (.failed error)) := by
  unfold endDownload
  split
  · exact goesOn_failDownload
  · split
    · exact ⟨rfl, nofun⟩
    · exact goesOn_retryOrFailDownload _ _

theorem goesOn_canceled {transfer : Transfer} (own : registered manager = some transfer.number)
    (read : handleDownloadData manager = manager) :
    GoesOn manager (finished manager computeFileMd5 transfer (canceled transfer)) := by
  unfold finished
  simp only
  split
  · exact ⟨rfl, id⟩
  · split
    · simp only [own, if_true]
      exact goesOn_handleMetadataResponse _
    · rename_i start download
      unfold handleDownloadFinished canceled
      simp only [read, own, if_true, download]
      have closed : GoesOn manager (closeFile (takeReply manager transfer.number (.download start))) :=
        goesOn_closeFile
      exact closed.trans (goesOn_endDownload computeFileMd5 _ _)

theorem fits_canceled (transfer : Transfer) :
    (canceled transfer).fits content manager transfer = true := by
  unfold canceled
  split
  · rename_i metadata
    simp [DownloadReply.fits, metadata]
  · rename_i start download
    simp [DownloadReply.fits, download]

theorem registered_of_known {transfer : Transfer}
    (known : (registered manager).bind (transferOf manager) = some transfer) :
    registered manager = some transfer.number ∧ transfer ∈ manager.inFlight := by
  obtain ⟨number, own, found⟩ := Option.bind_eq_some_iff.mp known
  have same := List.find?_some found
  have number : transfer.number = number := of_decide_eq_true same
  exact ⟨number ▸ own, List.mem_of_find?_eq_some found⟩

theorem ContentInv.abort (inv : ContentInv content manager) (returns : Bool) :
    ContentInv content (abortActiveDownload manager computeFileMd5 returns) ∧
      GoesOn manager (abortActiveDownload manager computeFileMd5 returns) := by
  unfold abortActiveDownload
  split
  · exact ⟨inv.closeFile, goesOn_closeFile⟩
  · rename_i transfer known
    obtain ⟨own, flying⟩ := registered_of_known known
    have ended := inv.finished computeFileMd5 flying (canceled transfer) (fits_canceled transfer)
    have goes := goesOn_canceled computeFileMd5 own inv.read
    simp only
    split
    · rename_i reply unflushed count found
      refine ⟨ContentInv.closeFile ?_, goes.trans goesOn_closeFile⟩
      refine ended.unregister rfl rfl rfl ?_ rfl ?_ List.filter_sublist rfl rfl
      · simp [DownloadManager.buffer, found]
      · intro none
        rw [found] at none
        cases none
    · exact ⟨ended.closeFile.of_fields rfl rfl rfl rfl rfl rfl rfl, goes.trans goesOn_closeFile⟩

end Abort

section Operations

variable {content : RemoteFile → List UInt8} {manager : DownloadManager}
  (computeFileMd5 : List UInt8 → String)

theorem ContentInv.reset (inv : ContentInv content manager) :
    ContentInv content { manager with retriesMade := 0 } :=
  inv.of_fields rfl rfl rfl rfl rfl rfl rfl

/-- A task that has another status is not completed. -/
theorem ContentInv.unsettled_of_status (inv : ContentInv content manager)
    (cancelled : manager.task.status ≠ .cancelled) (completed : manager.task.status ≠ .completed) :
    Unsettled manager where
  left := cancelled
  right := by
    cases done : manager.wasCompleted with
    | false => rfl
    | true => exact absurd (inv.completed done).2.2 completed

theorem ContentInv.pauseDownload (inv : ContentInv content manager) (returns : Bool) :
    ContentInv content (pauseDownload computeFileMd5 manager returns) := by
  obtain ⟨aborted, goes⟩ := inv.abort computeFileMd5 returns
  unfold DesktopDownload.pauseDownload
  split
  · exact inv
  · rename_i downloading
    have status : manager.task.status = .downloading := Decidable.not_not.mp downloading
    have unsettled := inv.unsettled_of_status (by rw [status]; nofun) (by rw [status]; nofun)
    simp only
    split
    · exact aborted
    · exact aborted.setDownloadState
        ⟨fun same => unsettled.1 (goes.2 same), goes.1.trans unsettled.2⟩ .paused nofun nofun

theorem ContentInv.resumeDownload (inv : ContentInv content manager) :
    ContentInv content (resumeDownload manager) := by
  unfold DesktopDownload.resumeDownload
  split
  · exact inv
  · rename_i paused
    have status : manager.task.status = .paused := Decidable.not_not.mp paused
    exact inv.continueDownload (inv.unsettled_of_status (by rw [status]; nofun) (by rw [status]; nofun))

/-- The count of an entry says nothing about the file. -/
theorem ContentInv.recount (inv : ContentInv content manager) :
    ContentInv content
      { manager with
        activeDownload := manager.activeDownload.map fun active => { active with retryCount := 0 } } := by
  have stored : ({ manager with
      activeDownload := manager.activeDownload.map fun active => { active with retryCount := 0 } } :
        DownloadManager).stored = manager.stored := by
    unfold DownloadManager.stored DownloadManager.buffer
    cases manager.activeDownload <;> rfl
  refine ⟨?_, ?_, ?_, ?_, ?_, ?_, inv.flagged⟩
  · exact inv.toTaskInv.change rfl inv.named (fun honest => honest.of_same rfl rfl rfl)
      (List.Sublist.refl _) le_rfl
  · rw [stored]
    exact inv.resume
  · rw [stored]
    exact inv.held
  · intro reply unflushed count entry
    obtain ⟨active, found, same⟩ := Option.map_eq_some_iff.mp entry
    injection same with number opened
    exact inv.writing reply unflushed active.retryCount (by rw [found, ← number, ← opened])
  · intro cancelled
    rw [inv.cancelled cancelled]
    rfl
  · intro done
    obtain ⟨none, rest⟩ := inv.completed done
    refine ⟨?_, rest⟩
    rw [none]
    rfl

theorem ContentInv.retryDownload (inv : ContentInv content manager) :
    ContentInv content (retryDownload manager) := by
  unfold DesktopDownload.retryDownload
  split
  · exact inv
  · rename_i failed
    have status : manager.task.status = .failed := Decidable.not_not.mp failed
    have unsettled := inv.unsettled_of_status (by rw [status]; nofun) (by rw [status]; nofun)
    exact inv.recount.continueDownload unsettled

theorem ContentInv.cancelDownload (inv : ContentInv content manager)
    (completed : manager.task.status ≠ .completed) (returns : Bool) :
    ContentInv content (cancelDownload computeFileMd5 manager returns) := by
  obtain ⟨aborted, goes⟩ := inv.abort computeFileMd5 returns
  have unfinished : (abortActiveDownload manager computeFileMd5 returns).wasCompleted = false := by
    rw [goes.1]
    cases done : manager.wasCompleted with
    | false => rfl
    | true => exact absurd (inv.completed done).2.2 completed
  unfold DesktopDownload.cancelDownload
  split
  · exact inv
  · simp only
    split
    · exact aborted
    · refine ⟨?_, nofun, ?_, nofun, fun _ => rfl, ?_, nofun⟩
      · exact aborted.toTaskInv.change rfl aborted.named (fun honest => honest.of_same rfl rfl rfl)
          (List.Sublist.refl _) le_rfl
      · exact fun _ => ⟨List.nil_prefix, fun same => absurd rfl same⟩
      · exact fun done => absurd (unfinished.symm.trans done) Bool.false_ne_true

theorem ContentInv.shutdown (inv : ContentInv content manager) (returns : Bool) :
    ContentInv content (shutdownOwnerTransfers computeFileMd5 manager returns) := by
  obtain ⟨aborted, goes⟩ := inv.abort computeFileMd5 returns
  unfold shutdownOwnerTransfers
  split
  · exact inv
  · rename_i going
    have running : isUnfinished manager = true := by
      by_contra ended
      exact going (.inr (by simp [ended]))
    have unfinished : (abortActiveDownload manager computeFileMd5 returns).wasCompleted = false := by
      rw [goes.1]
      cases done : manager.wasCompleted with
      | false => rfl
      | true =>
          have status := (inv.completed done).2.2
          simp [isUnfinished, status] at running
    simp only
    split
    · exact aborted
    · refine ⟨?_, ?_, ?_, nofun, fun _ => rfl, ?_, nofun⟩
      · exact aborted.toTaskInv.change rfl aborted.named (fun honest => honest.of_same rfl rfl rfl)
          (List.Sublist.refl _) le_rfl
      · exact fun _ _ _ _ => List.nil_prefix
      · exact fun _ => ⟨List.nil_prefix, fun same => absurd rfl same⟩
      · exact fun done => absurd (unfinished.symm.trans done) Bool.false_ne_true

/-- A new task finds the partial file and the resume state of the last one. -/
theorem ContentInv.createTask (inv : ContentInv content manager) (task : DownloadTask)
    (status : task.status = .fetchingMetadata)
    (named : ∀ identity ∈ task.remoteIdentity, identity.file = task.file)
    (honest : task.file.authDomain = .visitor → Honest content (createTask manager task)) :
    ContentInv content (createTask manager task) where
  fresh := nofun
  unique := List.nodup_nil
  arrived := nofun
  named := named
  honest := by
    rintro (visitor | ⟨transfer, listed, -⟩)
    · exact honest visitor
    · cases listed
  resume := by
    intro saved kept identity found
    have stored : (DesktopDownload.createTask manager task).stored = manager.bytes := List.append_nil _
    rw [stored]
    exact bytes_prefix_stored.trans (inv.resume saved kept identity found)
  held := by
    rintro ⟨transfer, listed, -⟩
    cases listed
  writing := nofun
  cancelled := fun _ => rfl
  completed := nofun
  flagged := by
    intro completed
    rw [show (DesktopDownload.createTask manager task).task.status = task.status from rfl, status] at completed
    cases completed

theorem ContentInv.startDownload (inv : ContentInv content manager) (fileId : Nat) :
    ContentInv content (startDownload manager fileId) := by
  have created := inv.createTask (createDownloadTask ⟨.owner, "", fileId⟩ 0) rfl nofun nofun
  exact created.fetchDownloadMetadata ⟨nofun, rfl⟩

theorem ContentInv.startShareDownload (inv : ContentInv content manager) (shareId : String)
    (fileId : Nat) (fileHash : String) :
    ContentInv content (startShareDownload content manager shareId fileId fileHash) := by
  have honest : Honest content (DesktopDownload.createTask manager (sharedTask ⟨.visitor, shareId, fileId⟩
      (content ⟨.visitor, shareId, fileId⟩).length fileHash)) := ⟨rfl, .inr rfl⟩
  have named : ∀ identity ∈ (sharedTask ⟨.visitor, shareId, fileId⟩
      (content ⟨.visitor, shareId, fileId⟩).length fileHash).remoteIdentity,
      identity.file = ⟨.visitor, shareId, fileId⟩ := by
    intro identity found
    obtain rfl := Option.some.inj found
    rfl
  have created := inv.createTask _ rfl named fun _ => honest
  exact (created.prepare honest rfl).startDownloadTransfer

/-- Some of the bytes that have not been flushed are on the disk when the process ends. -/
theorem ContentInv.restart (inv : ContentInv content manager) (flushed : Nat) :
    ContentInv content (restart manager flushed) where
  fresh := nofun
  unique := List.nodup_nil
  arrived := nofun
  named := nofun
  honest := by
    rintro (visitor | ⟨transfer, listed, -⟩)
    · cases visitor
    · cases listed
  resume := by
    intro saved kept identity found
    have before := inv.resume saved kept identity found
    refine List.IsPrefix.trans ?_ before
    unfold DownloadManager.stored DownloadManager.buffer DownloadManager.bytes DesktopDownload.restart
    cases opened : manager.activeDownload.bind ActiveDownload.file with
    | none => exact List.prefix_refl _
    | some unflushed =>
        change (manager.target.getD [] ++ unflushed.take flushed) ++ [] <+: manager.target.getD [] ++ unflushed
        rw [List.append_nil]
        exact List.prefix_append_right_inj _ |>.mpr (List.take_prefix _ _)
  held := by
    rintro ⟨transfer, listed, -⟩
    cases listed
  writing := nofun
  cancelled := nofun
  completed := nofun
  flagged := nofun

theorem ContentInv.retryTimeout (inv : ContentInv content manager) :
    ContentInv content (retryTimeout manager) := by
  unfold DesktopDownload.retryTimeout
  simp only
  split
  · exact inv.of_fields rfl rfl rfl rfl rfl rfl rfl
  · rename_i active found
    have unsettled := inv.unsettled (by rw [found]; exact Option.some_ne_none _)
    have counted : ContentInv content
        { manager with
          timers := manager.timers - 1
          retriesMade := manager.retriesMade + if manager.rateLimited then 0 else 1 } :=
      inv.of_fields rfl rfl rfl rfl rfl rfl rfl
    exact counted.continueDownload unsettled

theorem ContentInv.flush (inv : ContentInv content manager) (count : Nat) :
    ContentInv content (flush manager count) := by
  unfold DesktopDownload.flush
  split
  · rename_i reply unflushed retryCount entry
    have bytes : manager.bytes ++ unflushed.take count ++ unflushed.drop count = manager.bytes ++ unflushed := by
      rw [List.append_assoc, List.take_append_drop]
    have stored : manager.stored = manager.bytes ++ unflushed := by
      simp [DownloadManager.stored, DownloadManager.buffer, entry]
    refine ⟨?_, ?_, ?_, ?_, ?_, ?_, inv.flagged⟩
    · exact inv.toTaskInv.change rfl inv.named (fun honest => honest.of_same rfl rfl rfl)
        (List.Sublist.refl _) le_rfl
    · intro saved kept identity found
      have before := inv.resume saved kept identity found
      rw [stored, ← bytes] at before
      exact before
    · intro downloading
      have held := inv.held downloading
      rw [stored, ← bytes] at held
      exact ⟨held.1, fun _ => Option.some_ne_none _⟩
    · intro other opened left same
      injection same with same
      injection same with number file
      subst number
      obtain rfl := Option.some.inj file
      obtain ⟨transfer, start, found, asked, read, written⟩ := inv.writing _ _ _ entry
      exact ⟨transfer, start, found, asked, read, bytes.trans written⟩
    · intro cancelled
      rw [inv.cancelled cancelled] at entry
      cases entry
    · intro done
      rw [(inv.completed done).1] at entry
      cases entry
  · exact inv

end Operations

section Arrivals

variable {content : RemoteFile → List UInt8} {manager : DownloadManager} {number : Nat}
  {change : Transfer → Transfer}

theorem transferOf_setTransfer (kept : ∀ transfer, (change transfer).number = transfer.number) (reply : Nat) :
    transferOf (setTransfer manager number change) reply =
      (transferOf manager reply).map fun transfer =>
        if transfer.number = number then change transfer else transfer := by
  unfold transferOf setTransfer
  rw [List.find?_map]
  congr 2
  funext transfer
  simp only [Function.comp_apply]
  split
  · rw [kept]
  · rfl

@[simp] theorem number_deliver (bytes : List UInt8) (transfer : Transfer) :
    (transfer.deliver bytes).number = transfer.number := rfl

@[simp] theorem number_readAll (transfer : Transfer) : transfer.readAll.number = transfer.number := rfl

/-- There is only one reply of a number. -/
theorem TaskInv.transfer_eq (inv : TaskInv content manager) {transfer other : Transfer}
    (found : transferOf manager number = some transfer) (listed : other ∈ manager.inFlight)
    (same : other.number = number) : other = transfer := by
  have known := List.find?_some found
  have equal : other.number = transfer.number := same.trans (of_decide_eq_true known).symm
  exact List.inj_on_of_nodup_map inv.unique listed (List.mem_of_find?_eq_some found) equal

theorem TaskInv.arrive (inv : TaskInv content manager)
    (kept : ∀ transfer, (change transfer).number = transfer.number)
    (asked : ∀ transfer, (change transfer).request = transfer.request)
    (arrived : ∀ transfer ∈ manager.inFlight, transfer.number = number → ∀ start,
      transfer.request = .download start →
        (change transfer).delivered <+: (manager.remote content).drop (start.getD 0)) :
    TaskInv content (setTransfer manager number change) := by
  have changed : ∀ other ∈ (setTransfer manager number change).inFlight,
      ∃ transfer ∈ manager.inFlight, other.number = transfer.number ∧ other.request = transfer.request ∧
        (other.delivered = transfer.delivered ∨
          transfer.number = number ∧ other.delivered = (change transfer).delivered) := by
    intro other listed
    obtain ⟨transfer, before, rfl⟩ := List.mem_map.mp listed
    refine ⟨transfer, before, ?_⟩
    split
    · rename_i same
      exact ⟨kept transfer, asked transfer, .inr ⟨same, rfl⟩⟩
    · exact ⟨rfl, rfl, .inl rfl⟩
  refine ⟨?_, ?_, ?_, inv.named, ?_⟩
  · intro other listed
    obtain ⟨transfer, before, same, -⟩ := changed other listed
    rw [same]
    exact inv.fresh transfer before
  · have numbers : (setTransfer manager number change).inFlight.map Transfer.number =
        manager.inFlight.map Transfer.number := by
      unfold setTransfer
      rw [List.map_map]
      apply List.map_congr_left
      intro transfer _
      simp only [Function.comp_apply]
      split
      · exact kept transfer
      · rfl
    rw [numbers]
    exact inv.unique
  · intro other listed start download
    obtain ⟨transfer, before, -, same, bytes | ⟨own, bytes⟩⟩ := changed other listed
    · rw [bytes]
      exact inv.arrived transfer before start (same.symm.trans download)
    · rw [bytes]
      exact arrived transfer before own start (same.symm.trans download)
  · rintro (visitor | ⟨other, listed, download⟩)
    · exact (inv.honest (.inl visitor)).of_same rfl rfl rfl
    · obtain ⟨transfer, before, -, same, -⟩ := changed other listed
      exact (inv.honest (.inr ⟨transfer, before, same ▸ download⟩)).of_same rfl rfl rfl

theorem ContentInv.arrive (inv : ContentInv content manager)
    (kept : ∀ transfer, (change transfer).number = transfer.number)
    (asked : ∀ transfer, (change transfer).request = transfer.request)
    (arrived : ∀ transfer ∈ manager.inFlight, transfer.number = number → ∀ start,
      transfer.request = .download start →
        (change transfer).delivered <+: (manager.remote content).drop (start.getD 0))
    (idle : ∀ unflushed count, manager.activeDownload = some ⟨some number, some unflushed, count⟩ →
      ∀ transfer, (change transfer).delivered = transfer.delivered ∧
        (change transfer).unread = transfer.unread) :
    ContentInv content (setTransfer manager number change) := by
  refine ⟨inv.toTaskInv.arrive kept asked arrived, inv.resume, ?_, ?_, inv.cancelled, inv.completed,
    inv.flagged⟩
  · rintro ⟨other, listed, download⟩
    obtain ⟨transfer, before, rfl⟩ := List.mem_map.mp listed
    have same : transfer.request ≠ .metadata := by
      intro metadata
      apply download
      split
      · exact (asked transfer).trans metadata
      · exact metadata
    exact inv.held ⟨transfer, before, same⟩
  · intro reply unflushed count entry
    obtain ⟨transfer, start, found, download, read, written⟩ := inv.writing reply unflushed count entry
    have own : transfer.number = reply := by
      have same := List.find?_some found
      exact of_decide_eq_true same
    by_cases same : reply = number
    · subst same
      have untouched := idle unflushed count entry transfer
      refine ⟨change transfer, start, ?_, (asked transfer).trans download, untouched.2.trans read, ?_⟩
      · rw [transferOf_setTransfer kept, found]
        simp [own]
      · rw [untouched.1]
        exact written
    · refine ⟨transfer, start, ?_, download, read, written⟩
      rw [transferOf_setTransfer kept, found]
      simp [own, same]

/-- The status of a reply says nothing about its bytes. -/
theorem ContentInv.headers (inv : ContentInv content manager) (status : Nat) :
    ContentInv content (setTransfer manager number fun transfer => { transfer with status := status }) := by
  apply inv.arrive
  · exact fun _ => rfl
  · exact fun _ => rfl
  · exact fun transfer listed _ start asked => inv.arrived transfer listed start asked
  · exact fun _ _ _ _ => ⟨rfl, rfl⟩

/-- The bytes come from a whole file or from a part that was asked for. -/
def Expected (transfer : Transfer) : Prop :=
  match transfer.request with
  | .metadata => False
  | .download none => transfer.status = 200
  | .download (some _) => transfer.status = 206

theorem announced_of_expected {transfer : Transfer} (expected : Expected transfer) {start : Option Nat}
    (asked : transfer.request = .download start) {file : RemoteFile} :
    announcedBytes content file transfer = some ((content file).drop (start.getD 0)) := by
  unfold Expected at expected
  unfold announcedBytes
  cases start with
  | none =>
      rw [asked] at expected ⊢
      simp only at expected ⊢
      rw [if_pos expected]
      rfl
  | some first =>
      rw [asked] at expected ⊢
      simp only at expected ⊢
      rw [if_neg (by omega), if_pos expected]

/-- A part of the remote file and what comes after it make a longer part. -/
theorem prefix_of_part {remote part : List UInt8} {start : Nat} (arrived : part <+: remote.drop start) :
    remote.take start ++ part <+: remote := by
  obtain ⟨rest, whole⟩ := arrived
  refine ⟨rest, ?_⟩
  rw [List.append_assoc, whole, List.take_append_drop]

/-- The bytes that have arrived are appended to the open file and counted. -/
theorem ContentInv.append (inv : ContentInv content manager) {transfer : Transfer} {unflushed bytes : List UInt8}
    {count : Nat} (found : transferOf manager number = some transfer)
    (entry : manager.activeDownload = some ⟨some number, some unflushed, count⟩) (brought : bytes ≠ [])
    (arrived : ∀ other ∈ manager.inFlight, other.number = number → ∀ start,
      other.request = .download start →
        other.delivered ++ bytes <+: (manager.remote content).drop (start.getD 0)) :
    ContentInv content (handleDownloadData (setTransfer manager number fun other => other.deliver bytes)) := by
  obtain ⟨known, start, same, asked, read, written⟩ := inv.writing number unflushed count entry
  obtain rfl : known = transfer := Option.some.inj (same.symm.trans found)
  have listed : known ∈ manager.inFlight := List.mem_of_find?_eq_some found
  have own : known.number = number := by
    have equal := List.find?_some found
    exact of_decide_eq_true equal
  have continued : manager.bytes ++ (unflushed ++ bytes) =
      (manager.remote content).take (start.getD 0) ++ (known.delivered ++ bytes) := by
    rw [← List.append_assoc, written, List.append_assoc]
  have whole : manager.bytes ++ (unflushed ++ bytes) <+: manager.remote content := by
    rw [continued]
    exact prefix_of_part (arrived known listed own start asked)
  have task : TaskInv content
      (setTransfer manager number fun other => other.deliver bytes) :=
    inv.toTaskInv.arrive (fun _ => rfl) (fun _ => rfl) arrived
  have delivered : transferOf (setTransfer manager number fun other => other.deliver bytes) number =
        some (known.deliver bytes) := by
    rw [transferOf_setTransfer (number_deliver bytes), found]
    simp [own]
  have empty : TaskInv content
      (setTransfer (setTransfer manager number fun other => other.deliver bytes) number Transfer.readAll) :=
    task.arrive (fun _ => rfl) (fun _ => rfl) fun other listed _ => task.arrived other listed
  have finds :
      transferOf
          (setTransfer (setTransfer manager number fun other => other.deliver bytes) number Transfer.readAll)
          number =
        some (known.deliver bytes).readAll := by
    rw [transferOf_setTransfer number_readAll, delivered]
    simp [own]
  have unread : (known.deliver bytes).unread = bytes := congrArg (· ++ bytes) read
  unfold handleDownloadData
  simp only [show (setTransfer manager number fun other => other.deliver bytes).activeDownload =
      some ⟨some number, some unflushed, count⟩ from entry, delivered, unread, brought, if_false]
  refine ⟨?_, ?_, ?_, ?_, ?_, ?_, inv.flagged⟩
  · exact empty.change rfl inv.named (fun honest => honest.of_same rfl rfl rfl) (List.Sublist.refl _) le_rfl
  · intro saved kept identity named
    obtain rfl := Option.some.inj kept
    rw [inv.named identity named]
    exact whole
  · intro _
    have held := inv.held ⟨known, listed, by rw [asked]; nofun⟩
    exact ⟨whole, held.2⟩
  · intro reply opened left same
    injection same with same
    injection same with number file
    obtain rfl := Option.some.inj number
    obtain rfl := Option.some.inj file
    exact ⟨_, start, finds, asked, rfl, continued⟩
  · intro cancelled
    rw [inv.cancelled cancelled] at entry
    cases entry
  · intro done
    rw [(inv.completed done).1] at entry
    cases entry

/-- Bytes of the expected status continue the partial file. -/
theorem ContentInv.block (inv : ContentInv content manager) {transfer : Transfer}
    (found : transferOf manager number = some transfer) (expected : Expected transfer) (bytes : List UInt8)
    (announced : (announcedBytes content manager.task.file transfer).all
      (fun announced => (transfer.delivered ++ bytes).isPrefixOf announced) = true) :
    ContentInv content (handleDownloadData (setTransfer manager number fun other => other.deliver bytes)) := by
  have arrived : ∀ other ∈ manager.inFlight, other.number = number → ∀ start,
      other.request = .download start →
        other.delivered ++ bytes <+: (manager.remote content).drop (start.getD 0) := by
    intro other listed same start asked
    obtain rfl := inv.transfer_eq found listed same
    rw [announced_of_expected expected asked] at announced
    exact List.isPrefixOf_iff_prefix.mp announced
  by_cases empty : bytes = []
  · have same : (setTransfer manager number fun other => other.deliver bytes) = manager := by
      subst empty
      simp [setTransfer, Transfer.deliver]
    rw [same, inv.read]
    exact inv
  · by_cases opened : ∃ unflushed count,
        manager.activeDownload = some ⟨some number, some unflushed, count⟩
    · obtain ⟨unflushed, count, entry⟩ := opened
      exact inv.append found entry empty arrived
    · have kept : ContentInv content (setTransfer manager number fun other => other.deliver bytes) :=
        inv.arrive (fun _ => rfl) (fun _ => rfl) arrived fun unflushed count entry =>
          absurd ⟨unflushed, count, entry⟩ opened
      rw [kept.read]
      exact kept

end Arrivals

section Runs

variable {content : RemoteFile → List UInt8} {computeFileMd5 : List UInt8 → String}
  {manager after : DownloadManager} {action : DownloadAction}

/-- No block brings other bytes than the ones that were asked for, a completed task is not cancelled, and
no other task of the path changes the file or the resume state. -/
def ContentAllowed (manager : DownloadManager) : DownloadAction → Prop
  | .block number _ => ∀ transfer ∈ transferOf manager number, Expected transfer
  | .cancelDownload _ => manager.task.status ≠ .completed
  | .otherTask target resumeState => target = manager.target ∧ resumeState = manager.resumeState
  | _ => True

/-- Every allowed step keeps the invariant. -/
theorem ContentInv.step (inv : ContentInv content manager) (allowed : ContentAllowed manager action)
    (moved : (downloadSystem content computeFileMd5).step manager action = some after) :
    ContentInv content after := by
  rcases step_cases moved with ⟨flushed, rfl, rfl⟩ | ⟨-, moved⟩
  · exact inv.restart flushed
  · cases action with
    | startDownload fileId =>
        obtain rfl := Option.some.inj moved
        exact inv.reset.startDownload fileId
    | startShareDownload shareId fileId fileHash =>
        obtain rfl := Option.some.inj moved
        exact inv.reset.startShareDownload shareId fileId fileHash
    | pauseDownload returns =>
        obtain rfl := Option.some.inj moved
        exact inv.reset.pauseDownload computeFileMd5 returns
    | resumeDownload =>
        obtain rfl := Option.some.inj moved
        exact inv.reset.resumeDownload
    | retryDownload =>
        obtain rfl := Option.some.inj moved
        exact inv.reset.retryDownload
    | cancelDownload returns =>
        obtain rfl := Option.some.inj moved
        exact inv.reset.cancelDownload computeFileMd5 allowed returns
    | shutdownOwnerTransfers returns =>
        obtain rfl := Option.some.inj moved
        exact inv.reset.shutdown computeFileMd5 returns
    | restart flushed =>
        obtain rfl := Option.some.inj moved
        exact inv.restart flushed
    | headers number status =>
        simp only [moveDownload] at moved
        split at moved
        · cases moved
        · obtain ⟨-, same⟩ := Option.ite_none_right_eq_some.mp moved
          obtain rfl := Option.some.inj same
          exact inv.headers status
    | block number bytes =>
        simp only [moveDownload] at moved
        split at moved
        · cases moved
        · rename_i transfer found
          obtain ⟨announced, same⟩ := Option.ite_none_right_eq_some.mp moved
          obtain rfl := Option.some.inj same
          exact inv.block found (allowed transfer found) bytes announced.2
    | finish number seen =>
        simp only [moveDownload] at moved
        split at moved
        · cases moved
        · rename_i transfer found
          obtain ⟨fits, same⟩ := Option.ite_none_right_eq_some.mp moved
          obtain rfl := Option.some.inj same
          exact inv.finished computeFileMd5 (List.mem_of_find?_eq_some found) seen fits
    | flush count =>
        obtain rfl := Option.some.inj moved
        exact inv.flush count
    | timeout =>
        obtain ⟨-, same⟩ := Option.ite_none_right_eq_some.mp moved
        obtain rfl := Option.some.inj same
        exact inv.retryTimeout
    | otherTask target resumeState =>
        obtain rfl := Option.some.inj moved
        obtain ⟨rfl, rfl⟩ := allowed
        exact inv

/-- The application starts within the invariant. -/
theorem ContentInv.launched (target : Option (List UInt8)) : ContentInv content (.launched target) where
  fresh := nofun
  unique := List.nodup_nil
  arrived := nofun
  named := nofun
  honest := by
    rintro (visitor | ⟨transfer, listed, -⟩)
    · cases visitor
    · cases listed
  resume := nofun
  held := by
    rintro ⟨transfer, listed, -⟩
    cases listed
  writing := nofun
  cancelled := nofun
  completed := nofun
  flagged := nofun

/-- The invariant gives the promise about the target file. -/
theorem ContentInv.intact (inv : ContentInv content manager) : DownloadIntact content manager where
  resumable := by
    intro saved kept task named matched
    simp only [persistedStateMatches, Bool.and_eq_true, decide_eq_true_eq] at matched
    have stored := inv.resume saved kept (buildRemoteIdentity task) (matched.1.1.1.trans named)
    exact ⟨matched.1.2.symm, bytes_prefix_stored.trans stored⟩
  completed := by
    rintro (status | done)
    · exact (inv.completed (inv.flagged status)).2.1
    · exact (inv.completed done).2.1

/-- The target of a download task is intact in a run in which no step reaches a defect. -/
theorem download_intact_of_allowed (content : RemoteFile → List UInt8) (computeFileMd5 : List UInt8 → String)
    (manager : DownloadManager)
    (reachable : (downloadSystem content computeFileMd5).ReachableWhen ContentAllowed manager) :
    DownloadIntact content manager := by
  have inv : ContentInv content manager := by
    apply reachable.invariant (ContentInv content)
    · rintro started ⟨target, rfl⟩
      exact ContentInv.launched target
    · intro state action next here allowed moved
      exact here.step allowed moved
  exact inv.intact

instance (transfer : Transfer) : Decidable (Expected transfer) := by
  unfold Expected
  split <;> infer_instance

instance (manager : DownloadManager) (action : DownloadAction) :
    Decidable (ContentAllowed manager action) := by
  unfold ContentAllowed
  split <;> infer_instance

/-- A download that is paused and resumed ends with the whole file. -/
theorem download_intact_after_resume :
    ∃ manager, DownloadIntact (fun _ => [1, 2, 3, 4]) manager ∧ manager.task.status = .completed := by
  obtain ⟨manager, reachable, checked⟩ :=
    (downloadSystem (fun _ => [1, 2, 3, 4]) fun _ => "").exists_reachableWhen_of_runWhen ContentAllowed
      [.startDownload 7, .finish 0 (.described 4 "" true), .headers 1 200, .block 1 [1, 2], .flush 1,
        .pauseDownload true, .resumeDownload, .finish 2 (.described 4 "" true), .headers 3 206,
        .block 3 [3, 4], .finish 3 .success]
      (fun manager => manager.task.status = .completed) ⟨none, rfl⟩ (by decide +kernel)
  exact ⟨manager, download_intact_of_allowed _ _ manager reachable, of_decide_eq_true checked⟩

/-- The body of an error reply becomes the head of a completed download. -/
theorem download_not_intact :
    ¬∀ manager, (downloadSystem (fun _ => [1, 2, 3, 4]) fun _ => "").Reachable manager →
      DownloadIntact (fun _ => [1, 2, 3, 4]) manager := by
  intro intact
  obtain ⟨manager, reachable, checked⟩ :=
    (downloadSystem (fun _ => [1, 2, 3, 4]) fun _ => "").exists_reachable_of_run
      [.startShareDownload "s" 7 "", .headers 0 500, .block 0 [9], .finish 0 (.failed .internalServer),
        .timeout, .headers 1 206, .block 1 [2, 3], .flush 1, .block 1 [4], .finish 1 .success]
      (fun manager => manager.task.status = .completed && manager.target = some [9, 2, 3, 4])
      ⟨none, rfl⟩ (by decide +kernel)
  simp only [Bool.and_eq_true, decide_eq_true_eq] at checked
  have same := (intact manager reachable).completed (.inl checked.1)
  rw [checked.2] at same
  exact absurd same (by decide)

end Runs

end DiskServer.Clients.DesktopDownload
