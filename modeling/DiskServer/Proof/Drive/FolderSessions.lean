import DiskServer.Construction.Drive.FolderSessions
import DiskServer.Library.ParentForest
import DiskServer.Proof.Drive.FolderTree

namespace DiskServer.Drive

open Library

/-- The stored folders of one user. -/
def ownedFolders (folders : Serial Folder Folder.id) (userId : Nat) : Set Folder :=
  { folder | folder ∈ folders.rows ∧ folder.userId = userId }

/-- The parents of this folder id lead to the root through folders of the user. -/
abbrev ReachesRoot (folders : Serial Folder Folder.id) (userId folderId : Nat) : Prop :=
  Rooted Folder.id Folder.parentId 0 (ownedFolders folders userId) folderId

/-- Every folder has a parent of its own user, and no chain of parents is a cycle. -/
def IsForest (folders : Serial Folder Folder.id) : Prop :=
  ∀ folder ∈ folders.rows, ReachesRoot folders folder.userId folder.id

theorem folder_id_pos {folders : Serial Folder Folder.id} {folder : Folder}
    (present : folder ∈ folders.rows) : 0 < folder.id := (folders.bounded folder present).1

section Tables

variable {folders : Serial Folder Folder.id} {change : Folder → Folder}
  {keyed : ∀ folder, (change folder).id = folder.id}

/-- A folder that is climbed to from a key has a row with this key below it. -/
theorem below_of_climbs {db : Db} {userId folderId : Nat} {top : Folder}
    (stored : top ∈ db.folders.rows)
    (climbed : Climbs Folder.id Folder.parentId (ownedFolders db.folders userId) folderId top.id) :
    ∃ folder, folder.id = folderId ∧ Folder.Below db userId folder top := by
  induction climbed using Relation.ReflTransGen.head_induction_on with
  | refl => exact ⟨top, rfl, .refl⟩
  | head linked _ ih =>
      obtain ⟨row, ⟨present, owned⟩, rfl, same⟩ := linked
      obtain ⟨above, keyed, below⟩ := ih
      exact ⟨row, rfl, .head ⟨present, mem_of_below stored below, same.trans keyed.symm, owned⟩ below⟩

/-- Moving rows to a target that lies below none of them keeps the forest. -/
theorem IsForest.update (forest : IsForest folders) (target : Nat)
    (owner : ∀ folder ∈ folders.rows, (change folder).userId = folder.userId)
    (moved : ∀ folder ∈ folders.rows, (change folder).parentId ≠ folder.parentId →
      (change folder).parentId = target ∧ (target ≠ 0 → ∃ row ∈ folders.rows, row.id = target ∧
        row.userId = folder.userId) ∧
      ¬ Climbs Folder.id Folder.parentId (ownedFolders folders folder.userId) target folder.id) :
    IsForest (folders.update (fun _ => true) change keyed) := by
  have listed : ∀ folder ∈ folders.rows,
      change folder ∈ (folders.update (fun _ => true) change keyed).rows := fun folder present =>
    List.mem_map.mpr ⟨folder, present, by simp⟩
  have kept : ∀ userId folderId, ReachesRoot folders userId folderId →
      ReachesRoot (folders.update (fun _ => true) change keyed) userId folderId := by
    intro userId folderId rooted
    refine rooted.reparent ?_
    rintro folder ⟨present, owned⟩
    refine ⟨change folder, ⟨listed folder present, (owner folder present).trans owned⟩,
      keyed folder, ?_⟩
    by_cases same : (change folder).parentId = folder.parentId
    · exact .inl same
    · obtain ⟨goes, there, -⟩ := moved folder present same
      refine .inr ?_
      rw [goes]
      have before : ReachesRoot folders userId target := by
        by_cases top : target = 0
        · rw [top]
          exact .top
        · obtain ⟨row, stored, rfl, sameUser⟩ := there top
          have reaches := forest row stored
          rwa [sameUser, owned] at reaches
      refine before.of_climbs ?_
      rintro other ⟨stored, ownedToo⟩ climbed
      refine ⟨change other, ⟨listed other stored, (owner other stored).trans ownedToo⟩,
        keyed other, ?_⟩
      by_contra differs
      obtain ⟨-, -, free⟩ := moved other stored differs
      rw [ownedToo] at free
      exact free climbed
  intro folder present
  obtain ⟨row, stored, rfl⟩ := List.mem_map.mp present
  simp only [if_true]
  rw [owner row stored, keyed row]
  exact kept _ _ (forest row stored)

/-- Removing rows together with everything below them keeps the forest. -/
theorem IsForest.remove (forest : IsForest folders) {removed : List Nat} {userId : Nat}
    (owned : ∀ folderId ∈ removed, ∃ row ∈ folders.rows, row.id = folderId ∧ row.userId = userId)
    (closed : ∀ folder ∈ folders.rows, folder.userId = userId → folder.parentId ∈ removed →
      folder.id ∈ removed) :
    IsForest (folders.remove fun folder => removed.contains folder.id) := by
  have stays : ∀ folder, folder ∈ (folders.remove fun folder => removed.contains folder.id).rows ↔
      folder ∈ folders.rows ∧ folder.id ∉ removed := by
    intro folder
    change folder ∈ folders.rows.filter _ ↔ _
    simp
  intro folder present
  obtain ⟨stored, outside⟩ := (stays folder).mp present
  refine (forest folder stored).transfer (fun folderId => folderId ∉ removed) outside ?_
  rintro row ⟨there, sameUser⟩ kept above
  refine ⟨fun inside => ?_, row, ⟨(stays row).mpr ⟨there, kept⟩, sameUser⟩, rfl, rfl⟩
  obtain ⟨parent, parentStored, parentKey, parentUser⟩ := owned _ inside
  have differs : row.parentId ≠ 0 := parentKey ▸ Nat.ne_of_gt (folder_id_pos parentStored)
  obtain ⟨again, ⟨againStored, againUser⟩, againKey⟩ := above.exists_row differs
  obtain rfl := folders.eq_of_key againStored parentStored (againKey.trans parentKey.symm)
  exact kept (closed row there ((sameUser.trans againUser.symm).trans parentUser) inside)

/-- A new row below the root or below a row of its user keeps the forest. -/
theorem IsForest.insert (forest : IsForest folders) {folder : NewFolder}
    (above : folder.parentId ≠ 0 → ∃ row ∈ folders.rows, row.id = folder.parentId ∧
      row.userId = folder.userId) :
    IsForest (folders.insert folder.row fun _ => rfl) := by
  have included : ∀ userId, ownedFolders folders userId ⊆
      ownedFolders (folders.insert folder.row fun _ => rfl) userId := by
    rintro userId row ⟨present, owned⟩
    exact ⟨List.mem_append_left _ present, owned⟩
  intro row present
  rcases List.mem_append.mp present with old | new
  · exact (forest row old).mono (included _)
  · obtain rfl := List.mem_singleton.mp new
    refine Rooted.under ⟨present, rfl⟩ ?_
    by_cases top : folder.parentId = 0
    · change Rooted _ _ _ _ folder.parentId
      rw [top]
      exact .top
    · obtain ⟨parent, stored, keyed, owned⟩ := above top
      have reaches := (forest parent stored).mono (included _)
      rw [keyed, owned] at reaches
      exact reaches

end Tables

section Sessions

variable {forest next : Forest} {slot userId : Nat} {session : FolderSession}

/-- The session in this slot has locked a stored folder of the user. -/
def Forest.Holds (forest : Forest) (slot userId folderId : Nat) : Prop :=
  forest.locks.Held slot (.folder folderId) ∧
    ∃ row ∈ forest.db.folders.rows, row.id = folderId ∧ row.userId = userId

/-- Every written row is locked and keeps its parent, or moves to where it may. -/
def Forest.Writes (forest : Forest) (slot userId : Nat) (mayMoveTo : Nat → Prop) (writes : List Folder) :
    Prop :=
  ∀ written ∈ writes, forest.locks.Held slot (.folder written.id) ∧ written.userId = userId ∧
    ∃ row ∈ forest.db.folders.rows, row.id = written.id ∧ row.userId = userId ∧
      (written.parentId = row.parentId ∨ mayMoveTo written.parentId)

theorem Forest.Writes.mono {mayMoveTo goes : Nat → Prop} {writes : List Folder}
    (written : forest.Writes slot userId mayMoveTo writes)
    (implied : ∀ parentId, mayMoveTo parentId → goes parentId) :
    forest.Writes slot userId goes writes := by
  intro folder listed
  obtain ⟨held, owner, row, present, keyed, owned, parent⟩ := written folder listed
  exact ⟨held, owner, row, present, keyed, owned, parent.imp_right (implied _)⟩

/-- The folders that go to the trash are locked, and so are all folders below them. -/
structure Forest.Seals (forest : Forest) (slot userId : Nat) (removed : List Nat) : Prop where
  holds : ∀ folderId ∈ removed, forest.Holds slot userId folderId
  closed : ∀ row ∈ forest.db.folders.rows, row.userId = userId → row.parentId ∈ removed →
    row.id ∈ removed

/-- What a step of other sessions leaves to the session in this slot. -/
structure Forest.Frames (slot : Nat) (forest next : Forest) : Prop where
  held : ∀ key, forest.locks.Held slot key → next.locks.Held slot key
  rows : ∀ row ∈ forest.db.folders.rows, forest.locks.Held slot (.folder row.id) →
    row ∈ next.db.folders.rows
  children : ∀ row ∈ next.db.folders.rows, forest.locks.Held slot (.folder row.parentId) →
    row.parentId ≠ 0 → ∃ old ∈ forest.db.folders.rows, old.id = row.id ∧
      old.parentId = row.parentId ∧ old.userId = row.userId
  ids : ∀ row ∈ next.db.folders.rows, row.id < forest.db.folders.next →
    ∃ old ∈ forest.db.folders.rows, old.id = row.id ∧ old.userId = row.userId
  nextId : forest.db.folders.next ≤ next.db.folders.next

/-- A step that changes no row leaves a session what it holds. -/
theorem Forest.Frames.of_locks (same : next.db = forest.db)
    (held : ∀ key, forest.locks.Held slot key → next.locks.Held slot key) :
    Forest.Frames slot forest next where
  held := held
  rows := fun row present _ => same ▸ present
  children := fun row present _ _ => ⟨row, same ▸ present, rfl, rfl, rfl⟩
  ids := fun row present _ => ⟨row, same ▸ present, rfl, rfl⟩
  nextId := by rw [same]

theorem Forest.Frames.holds (frames : Forest.Frames slot forest next) {folderId : Nat}
    (holds : forest.Holds slot userId folderId) : next.Holds slot userId folderId := by
  obtain ⟨held, row, present, rfl, owned⟩ := holds
  exact ⟨frames.held _ held, row, frames.rows row present held, rfl, owned⟩

theorem Forest.Frames.writes (frames : Forest.Frames slot forest next) {mayMoveTo goes : Nat → Prop}
    {writes : List Folder} (written : forest.Writes slot userId mayMoveTo writes)
    (implied : ∀ parentId, mayMoveTo parentId → goes parentId) :
    next.Writes slot userId goes writes := by
  intro folder listed
  obtain ⟨held, owner, row, present, keyed, owned, parent⟩ := written folder listed
  exact ⟨frames.held _ held, owner, row, frames.rows row present (keyed ▸ held), keyed, owned,
    parent.imp_right (implied _)⟩

theorem Forest.Frames.seals (frames : Forest.Frames slot forest next) {removed : List Nat}
    (seals : forest.Seals slot userId removed) : next.Seals slot userId removed where
  holds := fun folderId listed => frames.holds (seals.holds folderId listed)
  closed := by
    intro row present owned inside
    obtain ⟨held, parent, stored, keyed, -⟩ := seals.holds _ inside
    have positive : row.parentId ≠ 0 := keyed ▸ Nat.ne_of_gt (folder_id_pos stored)
    obtain ⟨old, there, sameId, sameParent, sameUser⟩ := frames.children row present held positive
    rw [← sameId]
    exact seals.closed old there (sameUser.trans owned) (sameParent ▸ inside)

end Sessions

end DiskServer.Drive
