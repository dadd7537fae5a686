import DiskServer.Construction.Clients.WebDownload

namespace DiskServer.Clients.WebDownload

open Library

section Sound

variable (content : List UInt8)

/-- The sizes of a task do not exceed the file. -/
def Bounded (task : DownloadTask) : Prop :=
  task.receivedBytes ≤ content.length ∧ task.totalSize ≤ content.length

/-- Every run that has completed the task had saved the whole file, and the task reports no more than
its size. -/
structure Delivers (store : TransferStore) : Prop where
  saved : ∀ bytes ∈ store.completions, bytes = content
  bounded : ∀ task ∈ store.task, Bounded content task

/-- What a run has read and what its response has left make up the file. -/
def Whole : DownloadThread → Prop
  | .picker _ left => left = content
  | .diskRead _ left written => written ++ left = content
  | .diskWrite _ left written value => written ++ value ++ left = content
  | .diskClose _ written => written = content
  | .blobRead _ rangeStart left parts broken =>
      rangeStart = 0 ∧ (broken = false → parts ++ left = content)
  | .wholeBlob _ rangeStart left disturbed => rangeStart = 0 ∧ (disturbed = false → left = content)
  | .returned _ saved => saved = content
  | _ => True

/-- No response to a range request is read, and the picked file takes all that is written to it. -/
def ReadsWhole (_ : TransferStore) : DownloadThread → DownloadEvent → Prop
  | .response _ rangeStart, .accepted _ => rangeStart = 0
  | .diskWrite _ _ _ _, .failed => False
  | .diskClose _ written, .failed => written = []
  | _, _ => True

def downloadDiscipline : Discipline TransferStore DownloadThread where
  holds := fun _ => false
  Inv := fun store _ => Delivers content store
  Own := fun _ thread => Whole content thread

variable {content} {store : TransferStore}

theorem Delivers.update (delivers : Delivers content store) (patch : DownloadTask → DownloadTask)
    (kept : ∀ task, Bounded content task → Bounded content (patch task)) :
    Delivers content (updateDownloadTask store patch) := by
  refine ⟨delivers.saved, ?_⟩
  intro task there
  obtain ⟨before, present, rfl⟩ := Option.map_eq_some_iff.mp there
  exact kept before (delivers.bounded before present)

theorem Delivers.mark (delivers : Delivers content store) (status : DownloadTaskStatus) :
    Delivers content (updateDownloadTask store fun task => { task with status := status }) :=
  delivers.update _ fun _ bounded => bounded

theorem Delivers.clear (delivers : Delivers content store) :
    Delivers content (updateDownloadTask store clearDownloadRuntime) :=
  delivers.update _ fun _ bounded => ⟨Nat.zero_le _, bounded.2⟩

theorem Delivers.clear_if (delivers : Delivers content store) (due : Prop) [Decidable due] :
    Delivers content (if due then updateDownloadTask store clearDownloadRuntime else store) := by
  split
  · exact delivers.clear
  · exact delivers

theorem Delivers.getOrCreateController (delivers : Delivers content store) :
    Delivers content (getOrCreateController store).2 := by
  unfold WebDownload.getOrCreateController
  split
  · exact delivers
  · exact ⟨delivers.saved, delivers.bounded⟩

theorem Delivers.abortController (delivers : Delivers content store) :
    Delivers content (abortController store) := by
  unfold WebDownload.abortController
  split
  · exact ⟨delivers.saved, delivers.bounded⟩
  · exact delivers

theorem Delivers.pause (delivers : Delivers content store) :
    Delivers content (pauseDownloadTask store) := by
  apply delivers.abortController.update
  intro task bounded
  split
  · exact bounded
  · exact ⟨Nat.zero_le _, bounded.2⟩

theorem Delivers.cancel (delivers : Delivers content store) :
    Delivers content (cancelDownloadTask store) :=
  delivers.abortController.clear.mark .cancelled

theorem Delivers.remove (delivers : Delivers content store) :
    Delivers content (removeDownloadTask store) :=
  ⟨delivers.abortController.saved, fun _ none => by cases none⟩

/-- A run starts without having read anything. -/
theorem Delivers.execute (delivers : Delivers content store) :
    Delivers content (executeDownload store).1 ∧ Whole content (executeDownload store).2 := by
  unfold executeDownload
  split
  · exact ⟨delivers, trivial⟩
  · have taken := delivers.getOrCreateController
    rcases given : WebDownload.getOrCreateController store with ⟨controller, next⟩
    rw [given] at taken
    exact ⟨(taken.clear_if _).mark .downloading, trivial⟩

theorem Delivers.add (delivers : Delivers content store) (sizeKnown : Bool) :
    Delivers content (addDownloadTask content store sizeKnown).1 ∧
      Whole content (addDownloadTask content store sizeKnown).2 := by
  apply Delivers.execute
  refine ⟨delivers.saved, ?_⟩
  rintro _ ⟨⟩
  refine ⟨Nat.zero_le _, ?_⟩
  cases sizeKnown
  · exact Nat.zero_le _
  · exact Nat.le_refl _

theorem Delivers.resume (delivers : Delivers content store) :
    Delivers content (resumeDownloadTask store).1 ∧ Whole content (resumeDownloadTask store).2 := by
  unfold resumeDownloadTask
  split
  · exact ⟨delivers, trivial⟩
  · split
    · exact ⟨delivers, trivial⟩
    · apply Delivers.execute
      exact ((delivers.clear_if _).mark .pending).getOrCreateController

theorem Delivers.fail (delivers : Delivers content store) :
    Delivers content (failRun store).1 ∧ Whole content (failRun store).2 := by
  have cleared := delivers.update (fun task => { task with status := .failed, receivedBytes := 0 })
    fun _ bounded => ⟨Nat.zero_le _, bounded.2⟩
  exact ⟨⟨cleared.saved, cleared.bounded⟩, trivial⟩

theorem Delivers.progress (delivers : Delivers content store) {loaded : Nat}
    (less : loaded ≤ content.length) : Delivers content (onProgress content store loaded) :=
  delivers.update _ fun _ _ => ⟨less, Nat.le_refl _⟩

theorem whole_unlessAborted {run : Run} {next : DownloadThread} (whole : Whole content next) :
    Whole content (unlessAborted store run next) := by
  unfold unlessAborted
  split
  · trivial
  · exact whole

/-- Reading the body as a blob delivers the file if nothing of it has been taken, or fails. -/
theorem Delivers.readBody (delivers : Delivers content store) (run : Run) {left : List UInt8}
    {broken disturbed : Bool} (unread : broken = false → left = content)
    (untouched : disturbed = false → left = content) :
    Delivers content (readBodyWithProgress content store run 0 left broken disturbed).1 ∧
      Whole content (readBodyWithProgress content store run 0 left broken disturbed).2 := by
  unfold readBodyWithProgress
  split
  · exact ⟨delivers, rfl, untouched⟩
  · exact ⟨delivers, whole_unlessAborted ⟨rfl, unread⟩⟩

theorem Delivers.finish (delivers : Delivers content store) (run : Run) :
    Delivers content (finishRun store run content).1 ∧ Whole content (finishRun store run content).2 := by
  unfold finishRun
  split
  · exact ⟨delivers, trivial⟩
  · split
    · exact ⟨delivers, trivial⟩
    · rename_i completed present
      have bounds := delivers.bounded completed present
      refine ⟨⟨?_, ?_⟩, trivial⟩
      · intro bytes inside
        rcases List.mem_cons.mp inside with rfl | before
        · rfl
        · exact delivers.saved bytes before
      · intro task there
        obtain ⟨before, found, rfl⟩ := Option.map_eq_some_iff.mp there
        refine ⟨?_, (delivers.bounded before found).2⟩
        change (if completed.totalSize ≠ 0 then completed.totalSize else completed.receivedBytes) ≤
          content.length
        split
        · exact bounds.2
        · exact bounds.1

end Sound

section Steps

variable {content : List UInt8} {store after : TransferStore} {thread next : DownloadThread}
  {event : DownloadEvent}

theorem of_moved {moment : TransferStore × DownloadThread}
    (moved : some moment = some (after, next))
    (held : Delivers content moment.1 ∧ Whole content moment.2) : Delivers content after ∧ Whole content next := by
  cases moved
  exact held

theorem of_moved_if {enabled : Prop} [Decidable enabled] {moment : TransferStore × DownloadThread}
    (moved : (if enabled then some moment else none) = some (after, next))
    (held : enabled → Delivers content moment.1 ∧ Whole content moment.2) :
    Delivers content after ∧ Whole content next := by
  split at moved
  · rename_i holds
    exact of_moved moved (held holds)
  · cases moved

/-- A response to a request without a range is read from its start. -/
theorem delivers_startBody (delivers : Delivers content store) {run : Run} {hasPicker : Bool}
    (moved : startBody content store run 0 hasPicker = some (after, next)) :
    Delivers content after ∧ Whole content next := by
  unfold startBody at moved
  rw [if_neg (fun empty => empty.1 rfl)] at moved
  split at moved
  · exact of_moved moved ⟨delivers, rfl⟩
  · exact of_moved moved (delivers.readBody run (fun _ => rfl) fun _ => rfl)

theorem delivers_diskRead (delivers : Delivers content store) {run : Run} {left written : List UInt8}
    (whole : written ++ left = content)
    (moved : advanceDownload content store (.diskRead run left written) event = some (after, next)) :
    Delivers content after ∧ Whole content next := by
  cases event with
  | chunk size =>
      refine of_moved_if moved (fun _ => ⟨delivers, ?_⟩)
      change written ++ left.take size ++ left.drop size = content
      rw [List.append_assoc, List.take_append_drop]
      exact whole
  | ended =>
      refine of_moved_if moved (fun empty => ⟨delivers, ?_⟩)
      rw [empty, List.append_nil] at whole
      exact whole
  | failed => exact of_moved moved (delivers.readBody run (fun intact => by cases intact)
        fun intact => by cases intact)
  | aborted => exact of_moved_if moved (fun _ => ⟨delivers, trivial⟩)
  | _ => cases moved

theorem delivers_diskWrite (delivers : Delivers content store) {run : Run}
    {left written value : List UInt8} (whole : written ++ value ++ left = content)
    (allowed : event ≠ .failed)
    (moved : advanceDownload content store (.diskWrite run left written value) event =
      some (after, next)) : Delivers content after ∧ Whole content next := by
  cases event with
  | done =>
      refine of_moved moved ⟨delivers.progress ?_, whole_unlessAborted whole⟩
      rw [← whole]
      exact (List.sublist_append_left _ _).length_le
  | failed => exact absurd rfl allowed
  | _ => cases moved

theorem delivers_blobRead (delivers : Delivers content store) {run : Run} {rangeStart : Nat}
    {left parts : List UInt8} {broken : Bool}
    (whole : rangeStart = 0 ∧ (broken = false → parts ++ left = content))
    (moved : advanceDownload content store (.blobRead run rangeStart left parts broken) event =
      some (after, next)) : Delivers content after ∧ Whole content next := by
  obtain ⟨rfl, whole⟩ := whole
  cases event with
  | chunk size =>
      refine of_moved_if moved (fun readable => ?_)
      have rest : parts ++ left.take size ++ left.drop size = content := by
        rw [List.append_assoc, List.take_append_drop]
        exact whole readable.1
      refine ⟨delivers.progress ?_, whole_unlessAborted ⟨rfl, fun _ => rest⟩⟩
      rw [Nat.zero_add, ← rest]
      exact (List.sublist_append_left _ _).length_le
  | ended =>
      refine of_moved_if moved (fun readable => ⟨delivers, ?_⟩)
      have rest := whole readable.1
      rw [readable.2, List.append_nil] at rest
      exact rest
  | failed => exact of_moved moved delivers.fail
  | aborted => exact of_moved_if moved (fun _ => ⟨delivers, trivial⟩)
  | _ => cases moved

theorem delivers_wholeBlob (delivers : Delivers content store) {run : Run} {rangeStart : Nat}
    {left : List UInt8} {disturbed : Bool}
    (whole : rangeStart = 0 ∧ (disturbed = false → left = content))
    (moved : advanceDownload content store (.wholeBlob run rangeStart left disturbed) event =
      some (after, next)) : Delivers content after ∧ Whole content next := by
  obtain ⟨rfl, whole⟩ := whole
  cases event with
  | ended =>
      cases disturbed with
      | true => cases moved
      | false =>
          obtain rfl := whole rfl
          exact of_moved moved ⟨delivers.progress (Nat.le_of_eq (Nat.zero_add _)), rfl⟩
  | failed => exact of_moved moved delivers.fail
  | aborted => exact of_moved_if moved (fun _ => ⟨delivers, trivial⟩)
  | _ => cases moved

/-- One event keeps what the store and its thread have to keep, unless it takes the wrong branch. -/
theorem delivers_advance (delivers : Delivers content store) (whole : Whole content thread)
    (allowed : ReadsWhole store thread event)
    (moved : advanceDownload content store thread event = some (after, next)) :
    Delivers content after ∧ Whole content next := by
  cases thread with
  | adding sizeKnown =>
      simp only [advanceDownload] at moved
      split at moved
      · cases moved
      · exact of_moved moved (delivers.add sizeKnown)
  | pausing => exact of_moved moved ⟨delivers.pause, trivial⟩
  | resuming => exact of_moved moved delivers.resume
  | cancelling => exact of_moved moved ⟨delivers.cancel, trivial⟩
  | removing => exact of_moved moved ⟨delivers.remove, trivial⟩
  | info run =>
      cases event with
      | info supportsRange =>
          exact of_moved moved ⟨delivers.update _ fun _ bounded => ⟨bounded.1, Nat.le_refl _⟩, trivial⟩
      | failed => exact of_moved moved delivers.fail
      | _ => cases moved
  | response run rangeStart =>
      cases event with
      | accepted hasPicker =>
          obtain rfl : rangeStart = 0 := allowed
          exact delivers_startBody delivers moved
      | refused => exact of_moved moved delivers.fail
      | failed => exact of_moved moved delivers.fail
      | aborted => exact of_moved_if moved (fun _ => ⟨delivers, trivial⟩)
      | _ => cases moved
  | picker run left =>
      obtain rfl : left = content := whole
      cases event with
      | picked => exact of_moved moved ⟨delivers, whole_unlessAborted rfl⟩
      | aborted => exact of_moved moved ⟨delivers, trivial⟩
      | failed => exact of_moved moved (delivers.readBody run (fun _ => rfl) fun _ => rfl)
      | _ => cases moved
  | diskRead run left written => exact delivers_diskRead delivers whole moved
  | diskWrite run left written value =>
      refine delivers_diskWrite delivers whole ?_ moved
      rintro rfl
      exact allowed
  | diskClose run written =>
      cases event with
      | done => exact of_moved moved ⟨delivers, whole⟩
      | failed =>
          obtain rfl : written = [] := allowed
          exact of_moved moved (delivers.readBody run (fun _ => whole) fun _ => whole)
      | _ => cases moved
  | blobRead run rangeStart left parts broken => exact delivers_blobRead delivers whole moved
  | wholeBlob run rangeStart left disturbed => exact delivers_wholeBlob delivers whole moved
  | returned run saved =>
      obtain rfl : saved = content := whole
      exact of_moved moved (delivers.finish run)
  | finished => cases event <;> cases moved

end Steps

section Claim

variable {content : List UInt8}

/-- Every thread follows the discipline of a whole download. -/
theorem download_followed :
    (downloadDiscipline content).Followed (downloadProgram content) ReadsWhole where
  enters := by
    intro store call
    cases call <;> exact ⟨rfl, trivial⟩
  keeps := by
    intro store thread event after next others allowed moved delivers whole
    obtain ⟨kept, held⟩ := delivers_advance delivers whole allowed moved
    exact ⟨kept, held, fun _ _ own => own⟩

/-- A download delivers the whole file in every run in which no response to a range request is read and
no write to the picked file fails. -/
theorem delivers_of_reachable (content : List UInt8) {state : Threads TransferStore DownloadThread}
    (reachable : (downloadSystem content).ReachableWhen (ThreadProgram.Allows ReadsWhole) state) :
    Delivers content state.memory :=
  (download_followed.reachable
    ⟨fun _ none => absurd none List.not_mem_nil, fun _ none => by cases none⟩ reachable).1

instance (store : TransferStore) (thread : DownloadThread) (event : DownloadEvent) :
    Decidable (ReadsWhole store thread event) := by
  unfold ReadsWhole
  split <;> infer_instance

/-- A download that is paused before its first response is read starts again from the beginning. -/
theorem delivers_after_pause :
    ∃ state : Threads TransferStore DownloadThread,
      Delivers [1, 2, 3] state.memory ∧ state.memory.completions = [[1, 2, 3]] := by
  obtain ⟨state, reachable, checked⟩ := (downloadSystem [1, 2, 3]).exists_reachableWhen_of_runWhen
    (ThreadProgram.Allows ReadsWhole)
    [.enter (.addDownloadTask true), .advance 0 .done, .advance 0 (.info true), .enter .pauseDownloadTask,
      .advance 1 .done, .advance 0 .aborted, .enter .resumeDownloadTask, .advance 2 .done,
      .advance 2 (.info true), .advance 2 (.accepted true), .advance 2 .picked, .advance 2 (.chunk 2),
      .advance 2 .done, .advance 2 (.chunk 1), .advance 2 .done, .advance 2 .ended, .advance 2 .done,
      .advance 2 .done]
    (fun state => state.memory.completions == [[1, 2, 3]]) rfl (by decide)
  exact ⟨state, delivers_of_reachable [1, 2, 3] reachable, beq_iff_eq.mp checked⟩

/-- A download that is paused after two bytes and resumed saves only the last byte. -/
theorem resumed_download_loses_start :
    ¬∀ (content : List UInt8) (state : Threads TransferStore DownloadThread),
      (downloadSystem content).Reachable state → Delivers content state.memory := by
  intro delivers
  obtain ⟨state, reachable, checked⟩ := (downloadSystem [1, 2, 3]).exists_reachable_of_run
    [.enter (.addDownloadTask true), .advance 0 .done, .advance 0 (.info true),
      .advance 0 (.accepted false), .advance 0 (.chunk 2), .enter .pauseDownloadTask, .advance 1 .done,
      .advance 0 .aborted, .enter .resumeDownloadTask, .advance 2 .done, .advance 2 (.info true),
      .advance 2 (.accepted false), .advance 2 (.chunk 1), .advance 2 .ended, .advance 2 .done]
    (fun state => state.memory.completions == [[3]]) rfl (by decide)
  have saved := (delivers [1, 2, 3] state reachable).saved [3]
    (by rw [beq_iff_eq.mp checked]; exact List.mem_cons_self)
  cases saved

end Claim

end DiskServer.Clients.WebDownload
