import DiskServer.Construction.Shares.ShareService

namespace DiskServer.Shares

open Upload

/-- An entry point takes a share as ended exactly when it answers that the share has expired. -/
def takenAsActive {Value : Type} : Except ErrorInfo Value → Bool
  | .ok _ => true
  | .error error => error.code ≠ .shareExpired

/-- All entry points take the share as active or all take it as ended. -/
structure EntryPointsAgree (now : Timestamp) (share : Share) (shareFiles : List ShareFile)
    (active : Bool) : Prop where
  access : ∀ verify attemptCount password,
    takenAsActive (access now share verify attemptCount password) = active
  browse : takenAsActive (validateShareActive now share) = active
  download : ∀ fileId, takenAsActive (getDownloadInfo now share fileId) = active
  save : takenAsActive (checkSaveToDrive now share) = active
  ownerFilter : listedAsActive now share = active
  ownerStatus : (listedStatus now share = "active") ↔ active = true
  adminStatus : (adminListedStatus now share shareFiles = ShareStatus.active.toInt) ↔ active = true

variable {now : Timestamp} {share : Share} {shareFiles : List ShareFile}

theorem failedAccess_code (attemptCount : Option Nat) :
    (handleFailedShareAccess attemptCount).code ≠ .shareExpired := by
  unfold handleFailedShareAccess
  split
  · decide
  · split <;> decide

theorem access_active (verify : String → String → Bool) (attemptCount : Option Nat)
    (password : Option String) :
    takenAsActive (access now share verify attemptCount password) = isShareActive now share := by
  unfold access isShareActive
  split
  · rfl
  · split
    · rfl
    · split
      · exact decide_eq_true (failedAccess_code attemptCount)
      · rfl

theorem browse_active : takenAsActive (validateShareActive now share) = isShareActive now share := by
  unfold validateShareActive
  cases isShareActive now share <;> rfl

/-- The status of a share as the database sees it. -/
def activeColumn (now : Timestamp) (share : Share) : Bool :=
  share.status = ShareStatus.active.toInt && !expiredColumn now share

theorem activeColumn_iff :
    (share.status ≠ ShareStatus.active.toInt ∨ expiredColumn now share = true) ↔
      activeColumn now share = false := by
  unfold activeColumn
  by_cases status : share.status = ShareStatus.active.toInt <;> simp [status]

theorem download_active (fileId : Option Nat) :
    takenAsActive (getDownloadInfo now share fileId) = activeColumn now share := by
  unfold getDownloadInfo
  cases column : activeColumn now share with
  | false =>
      rw [if_pos (activeColumn_iff.mpr column)]
      rfl
  | true =>
      rw [if_neg fun ended => Bool.false_ne_true ((activeColumn_iff.mp ended).symm.trans column)]
      cases fileId with
      | none => rfl
      | some fileId =>
          simp only
          split <;> rfl

theorem save_active : takenAsActive (checkSaveToDrive now share) = activeColumn now share := by
  unfold checkSaveToDrive
  cases column : activeColumn now share with
  | false =>
      rw [if_pos (activeColumn_iff.mpr column)]
      rfl
  | true =>
      rw [if_neg fun ended => Bool.false_ne_true ((activeColumn_iff.mp ended).symm.trans column)]
      split <;> rfl

theorem listed_active : listedAsActive now share = activeColumn now share := by
  unfold listedAsActive activeColumn expiredColumn
  cases share.expiresAt with
  | none => rfl
  | some expiresAt =>
      have opposite : decide (now < expiresAt) = !decide (expiresAt ≤ now) := by
        rw [← decide_not]
        exact decide_eq_decide.mpr Int.not_le.symm
      rw [← opposite]

theorem listedStatus_active :
    (listedStatus now share = "active") ↔ isShareActive now share = true := by
  unfold listedStatus isShareActive
  by_cases cancelled : share.status = ShareStatus.cancelled.toInt
  · rw [if_pos cancelled, cancelled]
    simp [ShareStatus.toInt]
  · rw [if_neg cancelled]
    by_cases active : share.status = ShareStatus.active.toInt
    · simp only [active, if_true, ne_eq, not_true_eq_false, if_false]
      split <;> simp
    · simp [active]

/-- The administrator sees the stored status, unless the share has lost its last link. -/
theorem adminListedStatus_active :
    (adminListedStatus now share shareFiles = ShareStatus.active.toInt) ↔
      share.status = ShareStatus.active.toInt ∧ ∃ row ∈ shareFiles, row.shareId = share.id := by
  unfold adminListedStatus cancelUnlinked
  split
  · rename_i unlinked
    obtain ⟨active, none⟩ := unlinked
    simp only [List.any_eq_true, decide_eq_true_eq] at none
    simp [ShareStatus.toInt, none]
  · rename_i linked
    simp only [List.any_eq_true, decide_eq_true_eq, not_and] at linked
    exact ⟨fun active => ⟨active, Decidable.not_not.mp (linked active)⟩, fun both => both.1⟩

/-- A share that is not active in its column, that is linked and has time left, or that is past its
time and has no link. -/
def Share.Unambiguous (now : Timestamp) (share : Share) (shareFiles : List ShareFile) : Prop :=
  share.status ≠ ShareStatus.active.toInt ∨
    ((∃ row ∈ shareFiles, row.shareId = share.id) ∧ ∀ expiresAt ∈ share.expiresAt, now < expiresAt) ∨
    ((¬ ∃ row ∈ shareFiles, row.shareId = share.id) ∧ ∃ expiresAt ∈ share.expiresAt, expiresAt < now)

theorem entryPointsAgree_iff {active : Bool} :
    EntryPointsAgree now share shareFiles active ↔
      isShareActive now share = active ∧ activeColumn now share = active ∧
        ((share.status = ShareStatus.active.toInt ∧ ∃ row ∈ shareFiles, row.shareId = share.id) ↔
          active = true) := by
  constructor
  · intro agree
    refine ⟨browse_active.symm.trans agree.browse, save_active.symm.trans agree.save, ?_⟩
    rw [← adminListedStatus_active]
    exact agree.adminStatus
  · rintro ⟨client, column, admin⟩
    refine ⟨fun _ _ _ => (access_active _ _ _).trans client, browse_active.trans client,
      fun _ => (download_active _).trans column, save_active.trans column, listed_active.trans column,
      ?_, ?_⟩
    · rw [listedStatus_active, client]
    · rw [adminListedStatus_active]
      exact admin

/-- For every share and every instant, the entry points agree on whether the share is active exactly
when the share is unambiguous. -/
theorem share_liveness_agrees_iff (now : Timestamp) (share : Share) (shareFiles : List ShareFile) :
    (∃ active, EntryPointsAgree now share shareFiles active) ↔
      share.Unambiguous now shareFiles := by
  simp only [entryPointsAgree_iff]
  unfold Share.Unambiguous isShareActive activeColumn isShareExpired expiredColumn
  by_cases status : share.status = ShareStatus.active.toInt
  · by_cases linked : ∃ row ∈ shareFiles, row.shareId = share.id
    · cases share.expiresAt with
      | none => simp [status, linked]
      | some expiresAt =>
          rcases Int.lt_trichotomy now expiresAt with early | same | late
          · simp [status, linked, early, Int.not_lt.mpr (Int.le_of_lt early)]
          · simp [status, linked, same]
          · simp [status, linked, late, Int.not_lt.mpr (Int.le_of_lt late), Int.le_of_lt late]
    · cases share.expiresAt with
      | none => simp [status, linked]
      | some expiresAt =>
          rcases Int.lt_trichotomy now expiresAt with early | same | late
          · simp [status, linked, early, Int.not_lt.mpr (Int.le_of_lt early)]
          · simp [status, linked, same]
          · simp [status, linked, late, Int.le_of_lt late]
  · simp [status]

/-- A share that is read at the instant at which it expires. -/
def shareAtExpiry : Share := ⟨1, "code", 1, none, "download", 0, 0, 1, some 100, 0⟩

/-- At that instant the share can be browsed and cannot be downloaded. -/
theorem share_liveness_differs :
    ¬ ∀ now share shareFiles, ∃ active, EntryPointsAgree now share shareFiles active := by
  intro always
  obtain ⟨active, agree⟩ := always 100 shareAtExpiry [⟨1, 1, .file, 1⟩]
  exact absurd (agree.browse.trans agree.save.symm) (by decide)

end DiskServer.Shares
