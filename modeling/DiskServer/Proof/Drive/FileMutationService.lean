import DiskServer.Proof.Drive.ContentService
import DiskServer.Proof.Drive.QuotaService

namespace DiskServer.Drive

open Library Transaction

variable {extra : Nat → Nat → Prop} {before after : Db}

/-- A copied row has a name, and its content is known at its size. -/
def File.Copyable (extra : Nat → Nat → Prop) (file : File) : Prop :=
  file.name ≠ "" ∧ extra file.contentId file.size

theorem requireTarget_ok {targetFolderId userId : Nat} {target : Option Folder}
    (ran : (requireTarget targetFolderId userId).run before = .ok (target, after)) : after = before := by
  unfold requireTarget at ran
  split at ran
  · obtain ⟨found, middle, finding, rest⟩ := bind_ok ran
    obtain ⟨-, rfl⟩ := findOwnedFolder_ok finding
    cases found with
    | none => exact (throw_ok rest).elim
    | some folder => exact (pure_ok rest).2
  · exact (pure_ok ran).2

/-- A copy that goes on has counted every content as often as it copies it. -/
theorem countCopiedContents_posts {files : List File} {existing : List Nat} :
    Ensures (countCopiedContents files existing) fun before _ after =>
      Posts extra (files.map fun file => post (.refs file.contentId) 1).sum before after := by
  intro before value after ran
  obtain ⟨valid, counted, counting, rest⟩ := bind_ok ran
  obtain ⟨posts, same⟩ := @incrementRefCountsChecked_posts extra _ _ _ _ _ counting
  split at rest
  · rename_i complete
    obtain ⟨-, rfl⟩ := pure_ok rest
    have contents : ∀ contentId ∈ files.map File.contentId, contentId ∈ valid := by
      intro contentId present
      obtain ⟨file, there, rfl⟩ := List.mem_map.mp present
      simpa using List.all_eq_true.mp complete file there
    have once : valid.Nodup := by
      refine same.nodup_iff.mpr (List.Nodup.sublist (List.Sublist.map _ List.filter_sublist) ?_)
      rw [countOccurrences_keys]
      exact List.nodup_dedup _
    have all : valid.Perm (files.map File.contentId).dedup := by
      rw [List.perm_ext_iff_of_nodup once (List.nodup_dedup _)]
      intro contentId
      rw [List.mem_dedup]
      refine ⟨fun present => ?_, contents contentId⟩
      obtain ⟨entry, chosen, rfl⟩ := List.mem_map.mp (same.mem_iff.mp present)
      have key := List.mem_map_of_mem (f := Prod.fst) (List.mem_of_mem_filter chosen)
      rw [countOccurrences_keys] at key
      exact List.mem_dedup.mp key
    refine posts.cast ?_
    rw [(all.map _).sum_eq]
    simp only [amountOf_countOccurrences]
    rw [sum_post_occurrences, List.map_map]
    rfl
  · exact (throw_ok rest).elim

theorem insertCopied_posts {userId folderId : Nat} {folderPath : String} {file : File}
    (copyable : file.Copyable extra) :
    Ensures (do
        let _ ← insertFile (copiedFile userId folderId folderPath file).row fun _ => rfl
        pure () : Tx Unit) fun before _ after =>
      Posts extra (-entryCharge userId file.entry) before after := by
  intro before value after ran
  obtain ⟨_, inserting, -⟩ := bind_pure_ok ran
  exact insertFile_posts copyable.1 copyable.2 _ _ _ inserting

theorem insertCopiedFiles_posts {userId targetFolderId : Nat} {files : List File}
    (copyable : ∀ file ∈ files, file.Copyable extra) :
    Ensures (insertCopiedFiles userId targetFolderId files) fun before _ after =>
      Posts extra (files.map fun file => -entryCharge userId file.entry).sum before after := by
  intro before value after ran
  unfold insertCopiedFiles at ran
  split at ran
  · rename_i nothing
    obtain ⟨-, rfl⟩ := pure_ok ran
    exact (Posts.refl _).cast (by simp [nothing])
  · obtain ⟨location, resolved, resolving, inserting⟩ := bind_ok ran
    obtain rfl := resolveOwnedFolderLocation_ok resolving
    refine Posts.forM (fun file => -entryCharge userId file.entry) ?_ _ _ _ inserting
    exact fun file present => insertCopied_posts (copyable file present)

theorem countCopiedItems_posts {targetFolderId userId count : Nat} :
    Ensures (countCopiedItems targetFolderId userId count) fun before _ after =>
      Posts extra 0 before after := by
  intro before value after ran
  unfold countCopiedItems at ran
  split at ran
  · obtain ⟨updated, last, counting, rest⟩ := bind_ok ran
    split at rest
    · obtain ⟨-, rfl⟩ := pure_ok rest
      exact applyItemCountDelta_posts _ _ _ counting
    · exact (throw_ok rest).elim
  · obtain ⟨-, rfl⟩ := pure_ok ran
    exact Posts.refl _

/-- Files whose contents were counted charge their owner for their sizes and nothing else. -/
theorem sum_copied_files (userId : Nat) (files : List File) :
    (files.map fun file => post (.refs file.contentId) 1).sum +
      (files.map fun file => -entryCharge userId file.entry).sum =
        -post (.used userId) (sizeOf files : Nat) := by
  induction files with
  | nil => simp [sizeOf]
  | cons file rest ih =>
      have split : -post (.used userId) (sizeOf (file :: rest) : Nat) =
          -post (.used userId) file.size + -post (.used userId) (sizeOf rest : Nat) := by
        simp only [sizeOf, List.map_cons, List.sum_cons, Nat.cast_add, post_add]
        abel
      rw [split, ← ih]
      simp only [List.map_cons, List.sum_cons, entryCharge, File.entry]
      abel

/-- Splitting by name parts the files and keeps their total size. -/
theorem splitByName_size (occupied : List String) (files : List File) :
    sizeOf (splitByName occupied files).1 + sizeOf (splitByName occupied files).2 = sizeOf files := by
  induction files generalizing occupied with
  | nil => rfl
  | cons file rest ih =>
      unfold splitByName
      split
      · have := ih occupied
        simp only [sizeOf, List.map_cons, List.sum_cons] at this ⊢
        omega
      · have := ih (file.name :: occupied)
        simp only [sizeOf, List.map_cons, List.sum_cons] at this ⊢
        omega

theorem splitByName_mem {occupied : List String} {files : List File} {file : File}
    (accepted : file ∈ (splitByName occupied files).1) : file ∈ files := by
  induction files generalizing occupied with
  | nil => exact accepted
  | cons first rest ih =>
      unfold splitByName at accepted
      split at accepted
      · exact List.mem_cons_of_mem first (ih accepted)
      · rcases List.mem_cons.mp accepted with rfl | later
        · exact List.mem_cons_self
        · exact List.mem_cons_of_mem first (ih later)

/-- A file batch takes from the reservation exactly what it copies or skips. -/
theorem copyFileBatch_posts {run : CopyRun} {items : List File} {existing : List Nat}
    (copyable : ∀ file ∈ items, file.Copyable extra) :
    Ensures (copyFileBatch run items existing) fun before sizes after =>
      sizes.1 + sizes.2 = sizeOf items ∧
        Posts extra (-post (.reserved run.userId) (sizes.1 + sizes.2 : Nat)) before after := by
  intro before sizes after ran
  obtain ⟨target, found, finding, rest₁⟩ := bind_ok ran
  obtain rfl := requireTarget_ok finding
  have rest₂ := get_bind_ok rest₁
  obtain ⟨_, counted, counting, rest₃⟩ := bind_ok rest₂
  obtain ⟨_, inserted, inserting, rest₄⟩ := bind_ok rest₃
  obtain ⟨_, listed, listing, rest₅⟩ := bind_ok rest₄
  obtain ⟨_, committed, committing, rest₆⟩ := bind_ok rest₅
  obtain ⟨_, releasing, rfl⟩ := bind_pure_ok rest₆
  refine ⟨splitByName_size _ _, ?_⟩
  refine (((((countCopiedContents_posts _ _ _ counting).trans
    (insertCopiedFiles_posts (fun file accepted => copyable file (splitByName_mem accepted))
      _ _ _ inserting)).trans
    (countCopiedItems_posts _ _ _ listing)).trans
    (commitReservedToUsed_posts _ _ _ committing)).trans
    (releaseReservedStorageChecked_posts _ _ _ releasing)).cast ?_
  rw [sum_copied_files, Nat.cast_add, post_add]
  abel

theorem copyFolderNode_posts {userId rootDepth oldRootDepth : Nat} {folder : Folder}
    (named : folder.name ≠ "") (folders : FolderMap) :
    Ensures (copyFolderNode userId rootDepth oldRootDepth folders folder) fun before _ after =>
      Posts extra 0 before after := by
  intro before next after ran
  unfold copyFolderNode at ran
  split at ran
  · exact (throw_ok ran).elim
  · obtain ⟨_, inserting, -⟩ := bind_pure_ok ran
    exact insertFolder_posts named _ _ _ inserting

theorem copyTreeFile_posts {userId : Nat} {folders : FolderMap} {file : File}
    (copyable : file.Copyable extra) :
    Ensures (copyTreeFile userId folders file) fun before _ after =>
      Posts extra (-entryCharge userId file.entry) before after := by
  intro before value after ran
  unfold copyTreeFile at ran
  split at ran
  · exact (throw_ok ran).elim
  · exact insertCopied_posts copyable _ _ _ ran

/-- The rows of a plan can be copied. -/
structure FolderDeletePlan.Copyable (extra : Nat → Nat → Prop) (plan : FolderDeletePlan) : Prop where
  root : plan.root.name ≠ ""
  folders : ∀ folder ∈ plan.folders, folder.name ≠ ""
  files : ∀ file ∈ plan.files, file.Copyable extra
  size : plan.itemSize = sizeOf plan.files

theorem copyTree_posts {run : CopyRun} {location : FolderLocation} {plan : FolderDeletePlan}
    (copyable : plan.Copyable extra) :
    Ensures (copyTree run location plan) fun before _ after =>
      Posts extra (plan.files.map fun file => -entryCharge run.userId file.entry).sum before after := by
  intro before value after ran
  obtain ⟨rootId, rooted, rooting, rest₁⟩ := bind_ok ran
  obtain ⟨folders, placed, placing, inserting⟩ := bind_ok rest₁
  have root : Posts extra 0 before rooted := insertFolder_posts copyable.root _ _ _ rooting
  have tree : Posts extra 0 rooted placed := by
    refine Posts.foldlM_zero ?_ _ _ _ _ placing
    intro folder present folders
    exact copyFolderNode_posts (copyable.folders folder (List.mem_of_mem_filter present)) folders
  have files := Posts.forM (fun file : File => -entryCharge run.userId file.entry)
    (fun file present => copyTreeFile_posts (copyable.files file present)) _ _ _ inserting
  refine ((root.trans tree).trans files).cast ?_
  rw [add_zero, zero_add]

/-- A folder takes its whole size from the reservation, copied or released. -/
theorem copyFolder_posts {run : CopyRun} {plan : FolderDeletePlan} {existing : List Nat}
    (copyable : plan.Copyable extra) :
    Ensures (copyFolder run plan existing) fun before sizes after =>
      sizes.1 + sizes.2 = plan.itemSize ∧
        Posts extra (-post (.reserved run.userId) (sizes.1 + sizes.2 : Nat)) before after := by
  intro before sizes after ran
  obtain ⟨target, found, finding, rest₁⟩ := bind_ok ran
  obtain rfl := requireTarget_ok finding
  have rest₂ := get_bind_ok rest₁
  split at rest₂
  · obtain ⟨_, releasing, rfl⟩ := bind_pure_ok rest₂
    refine ⟨Nat.zero_add _, (releaseReservedStorageChecked_posts _ _ _ releasing).cast ?_⟩
    rw [Nat.zero_add]
  · obtain ⟨_, counted, counting, rest₃⟩ := bind_ok rest₂
    obtain ⟨_, copied, copying, rest₄⟩ := bind_ok rest₃
    obtain ⟨_, listed, listing, rest₅⟩ := bind_ok rest₄
    obtain ⟨_, committing, rfl⟩ := bind_pure_ok rest₅
    refine ⟨copyable.size.symm, ?_⟩
    refine ((((countCopiedContents_posts _ _ _ counting).trans
      (copyTree_posts copyable _ _ _ copying)).trans
      (countCopiedItems_posts _ _ _ listing)).trans
      (commitReservedToUsed_posts _ _ _ committing)).cast ?_
    rw [sum_copied_files, copyable.size, Nat.add_zero]
    abel

end DiskServer.Drive
