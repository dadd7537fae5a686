import DiskServer.Proof.Drive.FileMutationService

namespace DiskServer.Drive

open Library Transaction

variable {extra : Nat → Nat → Prop} {before after : Db}

theorem saveFile_posts {userId folderId : Nat} {folderPath : String} {file : File}
    (copyable : file.Copyable extra) :
    Ensures (saveFile userId folderId folderPath file) fun before _ after =>
      Posts extra (-post (.used userId) file.size) before after := by
  intro before value after ran
  obtain ⟨_, counted, counting, inserting⟩ := bind_ok ran
  refine ((incrementRefCount_posts _ _ _ counting).trans
    (insertCopied_posts copyable _ _ _ inserting)).cast ?_
  simp only [entryCharge, File.entry, Nat.cast_one]
  abel

/-- The saved size grows by what is charged to the rows, and by no more than what was selected. -/
def Saves (extra : Nat → Nat → Prop) (userId selected saved next : Nat) (before after : Db) : Prop :=
  saved ≤ next ∧ next ≤ saved + selected ∧
    Posts extra (post (.used userId) saved - post (.used userId) next) before after

theorem Saves.refl (userId saved : Nat) (db : Db) : Saves extra userId 0 saved saved db db :=
  ⟨Nat.le_refl _, Nat.le_refl _, (Posts.refl db).cast (sub_self _).symm⟩

theorem Saves.trans {userId less more one two three : Nat} {first second third : Db}
    (early : Saves extra userId less one two first second)
    (late : Saves extra userId more two three second third) :
    Saves extra userId (less + more) one three first third := by
  obtain ⟨grew, bounded, posts⟩ := early
  obtain ⟨grewAgain, boundedAgain, postsAgain⟩ := late
  refine ⟨grew.trans grewAgain, by omega, (posts.trans postsAgain).cast ?_⟩
  abel

theorem Saves.mono {userId less more one two : Nat} (saves : Saves extra userId less one two before after)
    (enough : less ≤ more) : Saves extra userId more one two before after :=
  ⟨saves.1, saves.2.1.trans (Nat.add_le_add_left enough _), saves.2.2⟩

theorem saveFile_saves {userId folderId saved : Nat} {folderPath : String} {file : File} {value : Unit}
    (copyable : file.Copyable extra)
    (ran : (saveFile userId folderId folderPath file).run before = .ok (value, after)) :
    Saves extra userId file.size saved (saved + file.size) before after := by
  refine ⟨Nat.le_add_right _ _, Nat.le_refl _, (saveFile_posts copyable _ _ _ ran).cast ?_⟩
  rw [Nat.cast_add, post_add]
  abel

theorem saveTopFile_saves {userId targetFolderId : Nat} {targetPath : String} {file : File}
    (copyable : file.Copyable extra) (saved : Nat × Nat) :
    Ensures (saveTopFile userId targetFolderId targetPath saved file) fun before next after =>
      Saves extra userId file.size saved.2 next.2 before after := by
  intro before next after ran
  have rest := get_bind_ok ran
  split at rest
  · obtain ⟨rfl, rfl⟩ := pure_ok rest
    exact (Saves.refl userId next.2 _).mono (Nat.zero_le _)
  · obtain ⟨_, saving, rfl⟩ := bind_pure_ok rest
    exact saveFile_saves copyable saving

theorem saveFolderNode_posts {userId rootDepth oldRootDepth : Nat} {folder : Folder}
    (named : folder.name ≠ "") (folders : FolderMap) :
    Ensures (saveFolderNode userId rootDepth oldRootDepth folders folder) fun before _ after =>
      Posts extra 0 before after := by
  intro before next after ran
  unfold saveFolderNode at ran
  split at ran
  · obtain ⟨-, rfl⟩ := pure_ok ran
    exact Posts.refl _
  · obtain ⟨_, inserting, -⟩ := bind_pure_ok ran
    exact insertFolder_posts named _ _ _ inserting

theorem saveTreeFile_saves {userId : Nat} {folders : FolderMap} {file : File}
    (copyable : file.Copyable extra) (saved : Nat) :
    Ensures (saveTreeFile userId folders saved file) fun before next after =>
      Saves extra userId file.size saved next before after := by
  intro before next after ran
  unfold saveTreeFile at ran
  split at ran
  · obtain ⟨rfl, rfl⟩ := pure_ok ran
    exact (Saves.refl userId next _).mono (Nat.zero_le _)
  · obtain ⟨_, saving, rfl⟩ := bind_pure_ok ran
    exact saveFile_saves copyable saving

/-- The rows of a shared folder can be saved. -/
structure SavePlan.Copyable (extra : Nat → Nat → Prop) (plan : SavePlan) : Prop where
  root : plan.root.name ≠ ""
  folders : ∀ folder ∈ plan.folders, folder.name ≠ ""
  files : ∀ file ∈ plan.files, file.Copyable extra

theorem saveTree_saves {userId targetFolderId : Nat} {location : FolderLocation} {plan : SavePlan}
    (copyable : plan.Copyable extra) (saved : Nat × Nat) :
    Ensures (saveTree userId targetFolderId location saved plan) fun before next after =>
      Saves extra userId (sizeOf plan.files) saved.2 next.2 before after := by
  intro before next after ran
  have rest := get_bind_ok ran
  split at rest
  · obtain ⟨rfl, rfl⟩ := pure_ok rest
    exact (Saves.refl userId next.2 _).mono (Nat.zero_le _)
  · obtain ⟨rootId, rooted, rooting, rest₁⟩ := bind_ok rest
    obtain ⟨folders, placed, placing, rest₂⟩ := bind_ok rest₁
    obtain ⟨size, saving, rfl⟩ := bind_pure_ok rest₂
    have root : Posts extra 0 before rooted := insertFolder_posts copyable.root _ _ _ rooting
    have tree : Posts extra 0 rooted placed := by
      refine Posts.foldlM_zero ?_ _ _ _ _ placing
      intro folder present folders
      exact saveFolderNode_posts (copyable.folders folder (List.mem_of_mem_filter present)) folders
    have files := Ensures.foldlM_graded (Saves extra userId) File.size (Saves.refl userId)
      (fun _ _ _ _ _ _ _ _ => Saves.trans)
      (fun file present saved => saveTreeFile_saves (copyable.files file present) saved)
      saved.2 _ _ _ saving
    refine ⟨files.1, files.2.1, ((root.trans tree).trans files.2.2).cast ?_⟩
    rw [add_zero, zero_add]

theorem countSavedItems_posts {targetFolderId userId count : Nat} :
    Ensures (countSavedItems targetFolderId userId count) fun before _ after =>
      Posts extra 0 before after := by
  intro before value after ran
  unfold countSavedItems at ran
  split at ran
  · obtain ⟨_, counting, -⟩ := bind_pure_ok ran
    exact applyItemCountDelta_posts _ _ _ counting
  · obtain ⟨-, rfl⟩ := pure_ok ran
    exact Posts.refl _

/-- The whole save is balanced: what it charges up front and does not save is given back. -/
theorem saveToDrive_posts {userId targetFolderId : Nat} {location : FolderLocation}
    {selection : SaveSelection} (files : ∀ file ∈ selection.files, file.Copyable extra)
    (plans : ∀ plan ∈ selection.plans, plan.Copyable extra) :
    Ensures (saveToDrive userId targetFolderId location selection) fun before _ after =>
      Posts extra 0 before after := by
  intro before size after ran
  obtain ⟨_, charged, charging, rest₁⟩ := bind_ok ran
  obtain ⟨savedFiles, filed, filing, rest₂⟩ := bind_ok rest₁
  obtain ⟨saved, placed, placing, rest₃⟩ := bind_ok rest₂
  obtain ⟨_, counted, counting, rest₄⟩ := bind_ok rest₃
  obtain ⟨_, refunding, rfl⟩ := bind_pure_ok rest₄
  have charge := @chargeSelection_posts extra _ _ _ _ _ charging
  have topFiles := Ensures.foldlM_graded (fun less (one two : Nat × Nat) => Saves extra userId less one.2 two.2)
    File.size (fun saved => Saves.refl userId saved.2) (fun _ _ _ _ _ _ _ _ => Saves.trans)
    (fun file present saved => saveTopFile_saves (files file present) saved) (0, 0) _ _ _ filing
  have trees := Ensures.foldlM_graded (fun less (one two : Nat × Nat) => Saves extra userId less one.2 two.2)
    (fun plan : SavePlan => sizeOf plan.files) (fun saved => Saves.refl userId saved.2)
    (fun _ _ _ _ _ _ _ _ => Saves.trans)
    (fun plan present saved => saveTree_saves (plans plan present) saved) savedFiles _ _ _ placing
  obtain ⟨-, bounded, posts⟩ := topFiles.trans trees
  have count := @countSavedItems_posts extra _ _ _ _ _ _ counting
  have early := posts.trans count
  have refund : Posts extra (post (.used userId) saved.2 - post (.used userId) selection.totalSize)
      counted after := by
    refine refundSkipped_posts ?_ ?_ refunding
    · simpa [SaveSelection.totalSize, sizeOf] using bounded
    · intro skipped
      obtain ⟨user, present, keyed⟩ := chargeSelection_user (Nat.zero_lt_of_lt skipped) charging
      obtain ⟨next, here, same⟩ := early.precedes.users user present
      exact ⟨next, here, same.trans keyed⟩
  refine ((charge.trans early).trans refund).cast ?_
  simp only [Nat.cast_zero, post_zero]
  abel

end DiskServer.Drive
