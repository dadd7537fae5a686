import DiskServer.Proof.Drive.Ledger

namespace DiskServer.Drive

open Library Transaction

variable {extra : Nat → Nat → Prop} {before after : Db}

theorem findOwnedFolder_ok {folderId userId : Nat} {found : Option Folder}
    (ran : (findOwnedFolder folderId userId).run before = .ok (found, after)) :
    found = before.folders.rows.find? (fun folder => folder.owned folderId userId) ∧
      after = before := by
  have rest := get_bind_ok ran
  exact pure_ok rest

theorem resolveOwnedFolderLocation_ok {folderId userId : Nat} {location : FolderLocation}
    (ran : (resolveOwnedFolderLocation folderId userId).run before = .ok (location, after)) :
    after = before := by
  unfold resolveOwnedFolderLocation at ran
  split at ran
  · exact (pure_ok ran).2
  · obtain ⟨found, middle, one, two⟩ := bind_ok ran
    obtain ⟨-, rfl⟩ := findOwnedFolder_ok one
    cases found with
    | none => exact (throw_ok two).elim
    | some folder => exact (pure_ok two).2

theorem applyItemCountDelta_posts {folderId userId : Nat} {delta : Int} :
    Ensures (applyItemCountDelta folderId userId delta) fun before _ after =>
      Posts extra 0 before after := by
  intro before updated after ran
  have rest := get_bind_ok ran
  split at rest
  · obtain ⟨-, rfl⟩ := modify_pure_ok rest
    apply Posts.ofFolders
    intro sound folder present
    obtain ⟨old, there, rfl⟩ := List.mem_map.mp present
    split <;> exact sound.folderNames old there
  · obtain ⟨-, rfl⟩ := pure_ok rest
    exact Posts.refl _

theorem applyItemCountDelta_files {folderId userId : Nat} {delta : Int} :
    Ensures (applyItemCountDelta folderId userId delta) fun before _ after =>
      after.files = before.files := by
  intro before updated after ran
  have rest := get_bind_ok ran
  split at rest
  · obtain ⟨-, rfl⟩ := modify_pure_ok rest
    rfl
  · rw [(pure_ok rest).2]

theorem insertFolder_posts {folder : NewFolder} (named : folder.name ≠ "") :
    Ensures (insertFolder folder.row fun _ => rfl) fun before _ after => Posts extra 0 before after := by
  intro before folderId after ran
  have rest := get_bind_ok ran
  simp only at rest
  split at rest
  · exact (throw_ok rest).elim
  · split at rest
    · exact (throw_ok rest).elim
    · obtain ⟨-, rfl⟩ := modify_pure_ok rest
      apply Posts.ofFolders
      intro sound row present
      rcases List.mem_append.mp present with old | new
      · exact sound.folderNames row old
      · obtain rfl := List.mem_singleton.mp new
        exact named

/-- A new file charges its content and its owner. -/
theorem insertFile_posts {file : NewFile} (named : file.name ≠ "")
    (allowed : extra file.contentId file.size) :
    Ensures (insertFile file.row fun _ => rfl) fun before _ after =>
      Posts extra (-entryCharge file.userId (file.contentId, file.size)) before after := by
  intro before fileId after ran
  have rest := get_bind_ok ran
  simp only at rest
  split at rest
  · exact (throw_ok rest).elim
  · split at rest
    · exact (throw_ok rest).elim
    · split at rest
      · exact (throw_ok rest).elim
      · rename_i there
        obtain ⟨-, rfl⟩ := modify_pure_ok rest
        have positive : 0 < file.contentId := by
          obtain ⟨content, found⟩ := Option.ne_none_iff_exists'.mp (mt Option.isNone_iff_eq_none.mpr there)
          obtain ⟨present, keyed⟩ := Table.find?_some found
          have bounded := (before.contents.bounded content present).1
          rw [keyed] at bounded
          exact bounded
        apply Posts.ofFiles
        · refine (congrArg List.sum List.map_append).trans ?_
          simp [File.charge, File.entry, NewFile.row]
        · intro row present
          rcases List.mem_append.mp present with old | new
          · exact .inl old
          · obtain rfl := List.mem_singleton.mp new
            exact .inr ⟨named, positive, allowed⟩

theorem insertFileRecord_posts {file : NewFile} (named : file.name ≠ "")
    (allowed : extra file.contentId file.size) :
    Ensures (insertFileRecord file) fun before _ after =>
      Posts extra (-entryCharge file.userId (file.contentId, file.size)) before after := by
  intro before fileId after ran
  have rest := get_bind_ok ran
  split at rest
  · exact (throw_ok rest).elim
  · exact insertFile_posts named allowed _ _ _ rest

/-- A delete removes the rows with the ids and counts them. -/
theorem deleteFilesByIds_ok {fileIds : List Nat} {deleted : Nat}
    (ran : (deleteFilesByIds fileIds).run before = .ok (deleted, after)) :
    deleted = (before.files.rows.filter fun file => fileIds.contains file.id).length ∧
      after = { before with files := before.files.remove fun file => fileIds.contains file.id } := by
  have rest := get_bind_ok ran
  obtain ⟨rfl, rfl⟩ := modify_pure_ok rest
  exact ⟨rfl, rfl⟩

theorem deleteFoldersByIds_ok {folderIds : List Nat} {deleted : Nat}
    (ran : (deleteFoldersByIds folderIds).run before = .ok (deleted, after)) :
    deleted = (before.folders.rows.filter fun folder => folderIds.contains folder.id).length ∧
      after = { before with folders := before.folders.remove fun folder => folderIds.contains folder.id } := by
  have rest := get_bind_ok ran
  obtain ⟨rfl, rfl⟩ := modify_pure_ok rest
  exact ⟨rfl, rfl⟩

theorem deleteFilesByIds_posts {fileIds : List Nat} {deleted : Nat}
    (ran : (deleteFilesByIds fileIds).run before = .ok (deleted, after)) :
    deleted = (before.files.rows.filter fun file => fileIds.contains file.id).length ∧
      Posts extra ((before.files.rows.filter fun file => fileIds.contains file.id).map File.charge).sum
        before after := by
  obtain ⟨rfl, rfl⟩ := deleteFilesByIds_ok ran
  refine ⟨rfl, Posts.ofFiles ?_ ?_⟩
  · exact sum_map_filter_not File.charge _ _
  · intro file present
    exact .inl (List.mem_of_mem_filter present)

theorem deleteFoldersByIds_posts {folderIds : List Nat} :
    Ensures (deleteFoldersByIds folderIds) fun before _ after => Posts extra 0 before after := by
  intro before deleted after ran
  obtain ⟨-, rfl⟩ := deleteFoldersByIds_ok ran
  exact Posts.ofFolders fun sound folder present =>
    sound.folderNames folder (List.mem_of_mem_filter present)

end DiskServer.Drive
