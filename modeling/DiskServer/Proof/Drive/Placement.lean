import DiskServer.Proof.Drive.TreeInsert

namespace DiskServer.Drive

open Library

/-- The place that a parent id of a user names: the root of the drive or a stored folder. -/
def Locates (folders : List Folder) (userId folderId : Nat) (location : FolderLocation) : Prop :=
  (folderId = 0 ∧ location = {}) ∨
    ∃ folder ∈ folders, folder.id = folderId ∧ folder.userId = userId ∧
      location = ⟨folder.path, folder.depth⟩

/-- The path and the depth of a folder continue those of its parent. -/
def Folder.Placed (folders : List Folder) (folder : Folder) : Prop :=
  ∃ location, Locates folders folder.userId folder.parentId location ∧
    folder.path = buildFolderPath location.path folder.name ∧ folder.depth = location.depth + 1

/-- The path of a file continues the path of its folder. -/
def File.Placed (folders : List Folder) (file : File) : Prop :=
  ∃ location, Locates folders file.userId file.folderId location ∧
    file.path = buildFilePath location.path file.name

/-- The path and the depth of every folder follow its parent. -/
def FoldersPlaced (folders : List Folder) : Prop := ∀ folder ∈ folders, folder.Placed folders

/-- The path of every file follows its folder. -/
def FilesPlaced (folders : List Folder) (files : List File) : Prop := ∀ file ∈ files, file.Placed folders

/-- A folder without its item count. -/
def Folder.shape (folder : Folder) : Folder := { folder with itemCount := 0 }

end DiskServer.Drive
