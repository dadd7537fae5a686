import DiskServer.Proof.Clients.DesktopDownload
import DiskServer.Proof.Clients.DesktopUpload

namespace DiskServer.Clients

open Library

/-- In allowed runs each task has one request in flight, handles each reply once, is silent once cancelled
and keeps to its retries. -/
theorem transfers_safe_of_allowed (content : DesktopDownload.RemoteFile → List UInt8)
    (computeFileMd5 : List UInt8 → String) :
    (∀ manager, DesktopUpload.uploadSystem.ReachableWhen DesktopUpload.UploadAllowed manager →
      DesktopUpload.UploadSafe DesktopUpload.UploadAllowed manager) ∧
    (∀ manager, (DesktopDownload.downloadSystem content computeFileMd5).ReachableWhen
        DesktopDownload.DownloadAllowed manager →
      DesktopDownload.DownloadSafe content computeFileMd5 DesktopDownload.DownloadAllowed manager) := by
  constructor
  · intro manager reachable
    exact DesktopUpload.upload_safe_of_allowed reachable
  · intro manager reachable
    exact DesktopDownload.download_safe_of_allowed reachable

section Runs

instance (manager : DesktopUpload.UploadManager) (action : DesktopUpload.UploadAction) :
    Decidable (DesktopUpload.UploadAllowed manager action) := by
  unfold DesktopUpload.UploadAllowed
  split <;> infer_instance

instance (manager : DesktopDownload.DownloadManager) (action : DesktopDownload.DownloadAction) :
    Decidable (DesktopDownload.DownloadAllowed manager action) := by
  unfold DesktopDownload.DownloadAllowed
  split <;> infer_instance

/-- The server has not answered in time. -/
def timedOut : ReplyFailure := ⟨⟨0, "", "", none, none, none⟩, some .timeout⟩

/-- An upload is retried and cancelled, and a download is paused, resumed and cancelled. -/
theorem transfers_safe_after_cancel :
    (∃ manager, DesktopUpload.UploadSafe DesktopUpload.UploadAllowed manager ∧
      manager.status = .cancelled ∧ manager.sent.length = 6) ∧
    (∃ manager, DesktopDownload.DownloadSafe (fun _ => [1, 2]) (fun _ => "")
        DesktopDownload.DownloadAllowed manager ∧
      manager.task.status = .cancelled ∧ manager.sent.length = 4) := by
  obtain ⟨upload, download⟩ := transfers_safe_of_allowed (fun _ => [1, 2]) fun _ => ""
  constructor
  · obtain ⟨manager, reachable, checked⟩ :=
      DesktopUpload.uploadSystem.exists_reachableWhen_of_runWhen DesktopUpload.UploadAllowed
        [.hashed true, .finish 0 (.created "u" ⟨1, 2, []⟩), .finish 1 (.failure timedOut), .timeout 0,
          .finish 2 .success, .finish 3 .success, .cancelUpload timedOut.head true, .finish 5 .success]
        (fun manager => manager.status = .cancelled && manager.sent.length = 6) rfl (by decide +kernel)
    simp only [Bool.and_eq_true, decide_eq_true_eq] at checked
    exact ⟨manager, upload manager reachable, checked⟩
  · obtain ⟨manager, reachable, checked⟩ :=
      (DesktopDownload.downloadSystem (fun _ => [1, 2]) fun _ => "").exists_reachableWhen_of_runWhen
        DesktopDownload.DownloadAllowed
        [.startDownload 7, .finish 0 (.described 2 "" true), .headers 1 200, .block 1 [1],
          .pauseDownload true, .resumeDownload, .finish 2 (.described 2 "" true), .cancelDownload true]
        (fun manager => manager.task.status = .cancelled && manager.sent.length = 4) ⟨none, rfl⟩
        (by decide +kernel)
    simp only [Bool.and_eq_true, decide_eq_true_eq] at checked
    exact ⟨manager, download manager reachable, checked⟩

/-- The user cannot cancel an upload that waits for a retry, and a download that is resumed while the
timer of a retry is pending gets a second request. -/
theorem transfers_not_safe :
    (¬∀ manager, DesktopUpload.uploadSystem.Reachable manager →
      DesktopUpload.UploadSafe (fun _ _ => True) manager) ∧
    (¬∀ manager, (DesktopDownload.downloadSystem (fun _ => [1, 2]) fun _ => "").Reachable manager →
      DesktopDownload.DownloadSafe (fun _ => [1, 2]) (fun _ => "") (fun _ _ => True) manager) := by
  constructor
  · intro safe
    obtain ⟨manager, reachable, checked⟩ := DesktopUpload.uploadSystem.exists_reachable_of_run
      [.hashed true, .finish 0 (.failure timedOut)]
      (fun manager => manager.status = .retrying && manager.timers = [.retry true] &&
        (DesktopUpload.uploadSystem.step manager (.cancelUpload timedOut.head true)).any
          (fun after => after.status = .retrying)) rfl (by decide +kernel)
    simp only [Bool.and_eq_true, decide_eq_true_eq, Option.any_eq_true] at checked
    obtain ⟨⟨status, timers⟩, after, moved, kept⟩ := checked
    have busy : DesktopUpload.Busy manager :=
      .inr (.inl ⟨status, true, timers ▸ List.mem_singleton.mpr rfl⟩)
    have cancelled := ((safe manager reachable).cancels busy timedOut.head true after trivial moved).2
    rw [kept] at cancelled
    exact absurd cancelled (by decide)
  · intro safe
    obtain ⟨manager, reachable, checked⟩ :=
      (DesktopDownload.downloadSystem (fun _ => [1, 2]) fun _ => "").exists_reachable_of_run
        [.startDownload 7, .finish 0 (.described 2 "" true), .headers 1 200, .block 1 [1],
          .pauseDownload true, .resumeDownload, .timeout]
        (fun manager => manager.inFlight.length = 2) ⟨none, rfl⟩ (by decide +kernel)
    have single := (safe manager reachable).single
    rw [of_decide_eq_true checked] at single
    exact absurd single (by decide)

end Runs

end DiskServer.Clients
