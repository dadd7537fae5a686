import DiskServer.Construction.Shares.ShareScope
import DiskServer.Library.ParentForest
import DiskServer.Proof.Drive.NamePaths
import DiskServer.Proof.Drive.Placement
import DiskServer.Proof.Files.Search

namespace DiskServer.Shares

open Library Drive Utils

section Patterns

/-- A path that goes on behind another one matches its pattern, whatever wildcards they share. -/
theorem sqlLike_goesOn {start : List Char} (rest : List Char) (plain : '\\' ∉ start) :
    sqlLike (start ++ ['%']) (start ++ rest) = true := by
  induction start with
  | nil => exact Files.sqlLike_percent rest
  | cons character start ih =>
      obtain ⟨first, others⟩ := not_or.mp (mt List.mem_cons.mpr plain)
      have escape : character ≠ '\\' := Ne.symm first
      rw [List.cons_append, List.cons_append]
      by_cases percent : character = '%'
      · rw [percent, sqlLike, List.any_eq_true]
        exact ⟨start ++ rest, (List.mem_tails _ _).mpr (List.suffix_cons _ _), ih others⟩
      · by_cases underscore : character = '_'
        · rw [underscore, sqlLike]
          exact ih others
        · rw [sqlLike, ih others, beq_self_eq_true, Bool.true_and]
          all_goals simp_all

theorem no_backslash {name : String} (accepted : AcceptedName (textBytes name)) : '\\' ∉ name.toList := by
  intro inside
  have byte : (0x5C : UInt8) ∈ textBytes name := by
    rw [textBytes_eq]
    exact List.mem_flatMap.mpr ⟨'\\', inside, by decide⟩
  exact absurd (List.any_eq_false.mp accepted.allowed 0x5C byte) (by decide)

end Patterns

section Trees

/-- The names are accepted and unique among siblings, a file has the owner of its folder, and a stored path
is made of accepted names. -/
structure WellNamed (db : Db) : Prop where
  named : ∀ folder ∈ db.folders.rows, AcceptedName (textBytes folder.name)
  unique : ∀ one ∈ db.folders.rows, ∀ two ∈ db.folders.rows, one.userId = two.userId →
    one.parentId = two.parentId → one.name = two.name → one = two
  owned : ∀ file ∈ db.files.rows, ∀ folder ∈ db.folders.rows, folder.id = file.folderId →
    folder.userId = file.userId
  written : ∀ folder ∈ db.folders.rows, ∃ names : List String,
    (∀ name ∈ names, AcceptedName (textBytes name)) ∧ folder.path = folderPath names

/-- The stored paths follow the parents. -/
structure Charted (db : Db) : Prop extends WellNamed db where
  folders : FoldersPlaced db.folders.rows

/-- The parents of a folder lead to another folder, both of one user. -/
def Inside (db : Db) (userId folderId rootId : Nat) : Prop :=
  Climbs Folder.id Folder.parentId {folder | folder ∈ db.folders.rows ∧ folder.userId = userId} folderId rootId

variable {db : Db} {folder other root : Folder}

/-- The path of a folder goes on behind that of its parent with its name and a slash. -/
theorem Charted.path_eq (charted : Charted db) (present : folder ∈ db.folders.rows) :
    ∃ start, folder.path.toList = (start ++ ['/']) ++ folder.name.toList ++ ['/'] ∧
      ((folder.parentId = 0 ∧ start = []) ∨ ∃ parent ∈ db.folders.rows, parent.id = folder.parentId ∧
        parent.userId = folder.userId ∧ parent.path.toList = start ++ ['/'] ∧ parent.depth < folder.depth) := by
  obtain ⟨location, located, path, depth⟩ := charted.folders folder present
  have text : folder.path.toList = location.path.toList ++ folder.name.toList ++ ['/'] := by
    rw [path, buildFolderPath_eq, String.toList_append, String.toList_append]
    rfl
  rcases located with ⟨top, rfl⟩ | ⟨parent, there, named, owner, rfl⟩
  · exact ⟨[], text, .inl ⟨top, rfl⟩⟩
  · obtain ⟨above, -, parentPath, -⟩ := charted.folders parent there
    have ends : parent.path.toList = (above.path.toList ++ parent.name.toList) ++ ['/'] := by
      rw [parentPath, buildFolderPath_eq, String.toList_append, String.toList_append]
      rfl
    refine ⟨_, by rw [text, ends], .inr ⟨parent, there, named, owner, ends, ?_⟩⟩
    rw [depth]
    exact Nat.lt_succ_self parent.depth

theorem Charted.no_slash (charted : Charted db) (present : folder ∈ db.folders.rows) :
    '/' ∉ folder.name.toList := Drive.no_slash (charted.named folder present)

theorem Charted.path_ne_slash (charted : Charted db) (present : folder ∈ db.folders.rows) :
    folder.path.toList ≠ ['/'] := by
  obtain ⟨start, text, -⟩ := charted.path_eq present
  intro slash
  have lengths := congrArg List.length (slash.symm.trans text)
  simp only [List.length_append, List.length_singleton] at lengths
  omega

/-- A path belongs to one folder of a user. -/
theorem Charted.eq_of_path (charted : Charted db) (present : folder ∈ db.folders.rows)
    (there : other ∈ db.folders.rows) (owner : folder.userId = other.userId) (same : folder.path = other.path) :
    folder = other := by
  induction depth : folder.depth using Nat.strong_induction_on generalizing folder other with
  | _ depth ih =>
      obtain ⟨start, text, parent⟩ := charted.path_eq present
      obtain ⟨begins, otherText, above⟩ := charted.path_eq there
      have texts : start ++ '/' :: folder.name.toList = begins ++ '/' :: other.name.toList := by
        have whole := congrArg String.toList same
        rw [text, otherText] at whole
        simpa using List.append_cancel_right whole
      obtain ⟨starts, names⟩ := append_separator_right (charted.no_slash present) (charted.no_slash there) texts
      apply charted.unique folder present other there owner ?_ (String.toList_inj.mp names)
      rcases parent with ⟨top, none⟩ | ⟨first, one, firstId, firstOwner, firstPath, lower⟩
      · rcases above with ⟨highest, -⟩ | ⟨second, two, -, -, secondPath, -⟩
        · rw [top, highest]
        · rw [← starts, none] at secondPath
          exact absurd secondPath (charted.path_ne_slash two)
      · rcases above with ⟨-, none⟩ | ⟨second, two, secondId, secondOwner, secondPath, -⟩
        · rw [starts, none] at firstPath
          exact absurd firstPath (charted.path_ne_slash one)
        · have paths : first.path = second.path := by
            apply String.toList_inj.mp
            rw [firstPath, secondPath, starts]
          have equal := ih first.depth (depth ▸ lower) one two (by rw [firstOwner, secondOwner, owner]) paths rfl
          rw [← firstId, ← secondId, equal]

/-- A text that ends with a slash and begins a path ends before the last name or is the whole path. -/
theorem cut_at_slash {first start name : List Char} (plain : '/' ∉ name)
    (begins : first ++ ['/'] <+: start ++ name ++ ['/']) :
    first ++ ['/'] = start ++ name ++ ['/'] ∨ first ++ ['/'] <+: start := by
  obtain ⟨rest, whole⟩ := begins
  rcases List.eq_nil_or_concat rest with rfl | ⟨inner, last, rfl⟩
  · left
    rw [← whole, List.append_nil]
  · right
    rw [List.concat_eq_append, ← List.append_assoc] at whole
    have shorter := (List.append_inj' whole rfl).1
    rcases List.append_eq_append_iff.mp shorter with ⟨part, longer, -⟩ | ⟨part, ends, rest⟩
    · exact ⟨part, longer.symm⟩
    · rcases List.eq_nil_or_concat part with rfl | ⟨middle, slash, rfl⟩
      · exact ⟨[], by rw [ends]; simp⟩
      · rw [List.concat_eq_append, ← List.append_assoc] at ends
        have same : '/' = slash := List.singleton_inj.mp (List.append_inj' ends rfl).2
        rw [rest, ← same] at plain
        simp at plain

/-- What lies in a folder starts at a stored folder. -/
theorem inside_starts {userId start : Nat} (there : root ∈ db.folders.rows)
    (inside : Inside db userId start root.id) : ∃ folder ∈ db.folders.rows, folder.id = start := by
  rcases Relation.ReflTransGen.cases_head inside with rfl | ⟨_, ⟨lower, ⟨lowerThere, -⟩, lowerId, -⟩, -⟩
  · exact ⟨root, there, rfl⟩
  · exact ⟨lower, lowerThere, lowerId⟩

/-- The top of a drive lies in no folder. -/
theorem not_inside_top {userId : Nat} (there : root ∈ db.folders.rows) : ¬ Inside db userId 0 root.id := by
  intro inside
  obtain ⟨folder, present, zero⟩ := inside_starts there inside
  have positive := (db.folders.bounded folder present).1
  omega

/-- In a charted drive a folder lies in another one exactly when its path goes on behind the path of that one. -/
theorem Charted.inside_iff (charted : Charted db) (present : folder ∈ db.folders.rows)
    (there : root ∈ db.folders.rows) (owner : folder.userId = root.userId) :
    Inside db folder.userId folder.id root.id ↔ root.path.toList <+: folder.path.toList := by
  constructor
  · intro inside
    unfold Inside Climbs at inside
    generalize started : folder.id = start at inside
    generalize owned : folder.userId = userId at inside
    induction inside using Relation.ReflTransGen.head_induction_on generalizing folder with
    | refl =>
        rw [db.folders.eq_of_key present there started]
    | head step rest ih =>
        obtain ⟨row, ⟨stored, -⟩, keyed, above⟩ := step
        obtain rfl := db.folders.eq_of_key stored present (keyed.trans started.symm)
        obtain ⟨start, text, ⟨top, -⟩ | ⟨parent, parentThere, parentId, parentOwner, parentPath, -⟩⟩ :=
          charted.path_eq present
        · rw [← above, top] at rest
          exact absurd rest (not_inside_top there)
        · have further := ih parentThere (parentOwner.trans owner) (parentId.trans above)
            (parentOwner.trans owned)
          rw [text, List.append_assoc, ← parentPath]
          exact further.trans (List.prefix_append _ _)
  · intro begins
    induction depth : folder.depth using Nat.strong_induction_on generalizing folder with
    | _ depth ih =>
        obtain ⟨start, text, parent⟩ := charted.path_eq present
        obtain ⟨first, rootText, -⟩ := charted.path_eq there
        have cut := begins
        rw [text, rootText] at cut
        rcases cut_at_slash (charted.no_slash present) cut with whole | shorter
        · rw [← text, ← rootText] at whole
          rw [charted.eq_of_path present there owner (String.toList_inj.mp whole.symm)]
          exact .refl
        · rw [← rootText] at shorter
          rcases parent with ⟨-, none⟩ | ⟨parent, parentThere, parentId, parentOwner, parentPath, lower⟩
          · rw [none, List.nil_append] at shorter
            have length := shorter.length_le
            rw [rootText] at length
            simp only [List.length_append, List.length_singleton] at length
            omega
          · have further := ih parent.depth (depth ▸ lower) parentThere (parentOwner.trans owner)
              (by rw [parentPath]; exact shorter) rfl
            rw [parentOwner] at further
            exact .head ⟨folder, ⟨present, rfl⟩, rfl, parentId.symm⟩ further

end Trees

section Scope

variable (db : Db) (shareFiles : List ShareFile) (shareId : Nat)

/-- The folders that the share links. -/
def LinkedRoot (root : Folder) : Prop :=
  root ∈ db.folders.rows ∧ ∃ link ∈ shareFiles, link.shareId = shareId ∧ link.itemType = .folder ∧
    link.itemId = root.id

/-- A folder is in the scope of a share when it is linked or lies in a linked folder of its owner. -/
def FolderInScope (folderId : Nat) : Prop :=
  ∃ folder ∈ db.folders.rows, folder.id = folderId ∧ ∃ root, LinkedRoot db shareFiles shareId root ∧
    folder.userId = root.userId ∧ Inside db folder.userId folder.id root.id

/-- A file is in the scope of a share when it is linked or its folder lies in a linked folder of its owner. -/
def FileInScope (fileId : Nat) : Prop :=
  ∃ file ∈ db.files.rows, file.id = fileId ∧
    ((∃ link ∈ shareFiles, link.shareId = shareId ∧ link.itemType = .file ∧ link.itemId = fileId) ∨
      ∃ root, LinkedRoot db shareFiles shareId root ∧ file.userId = root.userId ∧
        Inside db file.userId file.folderId root.id)

/-- The queries of the share admit what is in its scope and nothing else. -/
structure ScopeExact : Prop where
  folders : ∀ folderId, (findSharedFolder db shareFiles shareId folderId).isSome ↔
    FolderInScope db shareFiles shareId folderId
  files : ∀ fileId, (findSharedFile db shareFiles shareId fileId).isSome ↔
    FileInScope db shareFiles shareId fileId

/-- A folder whose path matches the path of a linked folder, read as a pattern, has a path that goes on behind
the path of a linked folder. -/
def PatternsExact : Prop :=
  ∀ folder ∈ db.folders.rows,
    (∃ root, LinkedRoot db shareFiles shareId root ∧ folder.userId = root.userId ∧
      sqlLike (root.path.toList ++ ['%']) folder.path.toList = true) →
    ∃ root, LinkedRoot db shareFiles shareId root ∧ folder.userId = root.userId ∧
      root.path.toList <+: folder.path.toList

/-- The stored paths that go on behind the path of a linked folder are those of the folders in a linked
folder. -/
def PathsAgree : Prop :=
  ∀ folder ∈ db.folders.rows,
    (∃ root, LinkedRoot db shareFiles shareId root ∧ folder.userId = root.userId ∧
      root.path.toList <+: folder.path.toList) ↔
    ∃ root, LinkedRoot db shareFiles shareId root ∧ folder.userId = root.userId ∧
      Inside db folder.userId folder.id root.id

variable {db shareFiles shareId} {folder root : Folder} {file : File}

theorem pathBelow_eq (rootPath path : String) :
    pathBelow rootPath path = sqlLike (rootPath.toList ++ ['%']) path.toList := by
  unfold pathBelow
  rw [String.toList_append]
  rfl

/-- No accepted name brings a backslash into a path. -/
theorem WellNamed.path_plain (kept : WellNamed db) (present : folder ∈ db.folders.rows) :
    '\\' ∉ folder.path.toList := by
  obtain ⟨names, accepted, path⟩ := kept.written folder present
  rw [path, folderPath_toList]
  intro inside
  rcases List.mem_cons.mp inside with first | later
  · exact absurd first (by decide)
  · obtain ⟨name, listed, part⟩ := List.mem_flatMap.mp later
    rcases List.mem_append.mp part with within | last
    · exact no_backslash (accepted name listed) within
    · exact absurd last (by decide)

theorem WellNamed.like_of_prefix (kept : WellNamed db) (there : root ∈ db.folders.rows)
    (begins : root.path.toList <+: folder.path.toList) :
    sqlLike (root.path.toList ++ ['%']) folder.path.toList = true := by
  obtain ⟨rest, whole⟩ := begins
  rw [← whole]
  exact sqlLike_goesOn rest (kept.path_plain there)

theorem WellNamed.sharedFolderAccess_iff (kept : WellNamed db) (present : folder ∈ db.folders.rows) :
    sharedFolderAccess db shareFiles shareId folder = true ↔
      ∃ root, LinkedRoot db shareFiles shareId root ∧ folder.userId = root.userId ∧
        sqlLike (root.path.toList ++ ['%']) folder.path.toList = true := by
  unfold sharedFolderAccess LinkedRoot
  simp only [List.any_eq_true, Bool.and_eq_true, Bool.or_eq_true, decide_eq_true_iff, pathBelow_eq]
  constructor
  · rintro ⟨link, linked, root, there, ⟨⟨⟨item, share⟩, kind⟩, owner⟩, same | like⟩
    · rw [← db.folders.eq_of_key present there same] at item
      exact ⟨folder, ⟨present, link, linked, share, kind, item⟩, rfl,
        kept.like_of_prefix present (List.prefix_refl _)⟩
    · exact ⟨root, ⟨there, link, linked, share, kind, item⟩, owner, like⟩
  · rintro ⟨root, ⟨there, link, linked, share, kind, item⟩, owner, like⟩
    exact ⟨link, linked, root, there, ⟨⟨⟨item, share⟩, kind⟩, owner⟩, .inr like⟩

theorem sharedFileAccess_iff : sharedFileAccess db shareFiles shareId file = true ↔
    (∃ link ∈ shareFiles, link.shareId = shareId ∧ link.itemType = .file ∧ link.itemId = file.id) ∨
      ∃ parent ∈ db.folders.rows, parent.id = file.folderId ∧
        ∃ root, LinkedRoot db shareFiles shareId root ∧ parent.userId = root.userId ∧
          sqlLike (root.path.toList ++ ['%']) parent.path.toList = true := by
  unfold sharedFileAccess LinkedRoot
  simp only [Bool.or_eq_true, List.any_eq_true, Bool.and_eq_true, decide_eq_true_iff, pathBelow_eq]
  constructor
  · rintro (⟨link, linked, ⟨share, kind⟩, item⟩ |
      ⟨link, linked, root, there, parent, present, ⟨⟨⟨⟨item, above⟩, share⟩, kind⟩, owner⟩, like⟩)
    · exact .inl ⟨link, linked, share, kind, item⟩
    · exact .inr ⟨parent, present, above, root, ⟨there, link, linked, share, kind, item⟩, owner, like⟩
  · rintro (⟨link, linked, share, kind, item⟩ |
      ⟨parent, present, above, root, ⟨there, link, linked, share, kind, item⟩, owner, like⟩)
    · exact .inl ⟨link, linked, ⟨share, kind⟩, item⟩
    · exact .inr ⟨link, linked, root, there, parent, present, ⟨⟨⟨⟨item, above⟩, share⟩, kind⟩, owner⟩, like⟩

/-- A row is found by its id when it passes the check. -/
theorem find?_filter_isSome {Row : Type*} {key : Row → Nat} (table : Table Row key) (check : Row → Bool)
    (wanted : Nat) : ((table.find? wanted).filter check).isSome = true ↔
      ∃ row ∈ table.rows, key row = wanted ∧ check row = true := by
  rw [Option.isSome_iff_exists]
  simp only [Option.filter_eq_some_iff, Table.find?_eq_some_iff, and_assoc]

/-- The scope of a share is exact when the paths that match the pattern of a linked folder are those of the
folders in a linked folder. -/
theorem WellNamed.scopeExact_iff (kept : WellNamed db) :
    ScopeExact db shareFiles shareId ↔ ∀ folder ∈ db.folders.rows,
      (∃ root, LinkedRoot db shareFiles shareId root ∧ folder.userId = root.userId ∧
        sqlLike (root.path.toList ++ ['%']) folder.path.toList = true) ↔
      ∃ root, LinkedRoot db shareFiles shareId root ∧ folder.userId = root.userId ∧
        Inside db folder.userId folder.id root.id := by
  constructor
  · intro right folder present
    have admitted := right.folders folder.id
    unfold findSharedFolder FolderInScope at admitted
    rw [find?_filter_isSome] at admitted
    rw [← kept.sharedFolderAccess_iff present]
    constructor
    · intro access
      obtain ⟨other, there, same, inside⟩ := admitted.mp ⟨folder, present, rfl, access⟩
      obtain rfl := db.folders.eq_of_key there present same
      exact inside
    · intro inside
      obtain ⟨other, there, same, access⟩ := admitted.mpr ⟨folder, present, rfl, inside⟩
      obtain rfl := db.folders.eq_of_key there present same
      exact access
  · intro exactly
    constructor
    · intro folderId
      unfold findSharedFolder FolderInScope
      rw [find?_filter_isSome]
      apply exists_congr
      intro folder
      apply and_congr_right
      intro present
      apply and_congr_right
      intro _
      rw [kept.sharedFolderAccess_iff present]
      exact exactly folder present
    · intro fileId
      unfold findSharedFile FileInScope
      rw [find?_filter_isSome]
      apply exists_congr
      intro file
      apply and_congr_right
      intro present
      apply and_congr_right
      rintro rfl
      rw [sharedFileAccess_iff]
      apply or_congr_right
      constructor
      · rintro ⟨parent, stored, named, matched⟩
        rw [← named, ← kept.owned file present parent stored named]
        exact (exactly parent stored).mp matched
      · rintro ⟨root, linked, owner, inside⟩
        obtain ⟨parent, stored, named⟩ := inside_starts linked.1 inside
        rw [← kept.owned file present parent stored named] at owner inside
        rw [← named] at inside
        exact ⟨parent, stored, named, (exactly parent stored).mpr ⟨root, linked, owner, inside⟩⟩

/-- Paths that follow the parents agree with them, whichever folders are linked. -/
theorem Charted.pathsAgree (charted : Charted db) : PathsAgree db shareFiles shareId := by
  intro folder present
  apply exists_congr
  intro root
  apply and_congr_right
  intro linked
  apply and_congr_right
  intro owner
  exact (charted.inside_iff present linked.1 owner).symm

/-- Exact patterns find the paths behind those of the linked folders. -/
theorem PatternsExact.matches_iff (patterns : PatternsExact db shareFiles shareId) (kept : WellNamed db)
    (present : folder ∈ db.folders.rows) :
    (∃ root, LinkedRoot db shareFiles shareId root ∧ folder.userId = root.userId ∧
      sqlLike (root.path.toList ++ ['%']) folder.path.toList = true) ↔
    ∃ root, LinkedRoot db shareFiles shareId root ∧ folder.userId = root.userId ∧
      root.path.toList <+: folder.path.toList := by
  constructor
  · exact patterns folder present
  · rintro ⟨root, linked, owner, begins⟩
    exact ⟨root, linked, owner, kept.like_of_prefix linked.1 begins⟩

/-- The scope of a share is exact when the stored paths agree with the parents and the patterns are exact, and
while one of the two holds only then. Paths that follow the parents agree with them. -/
theorem scope_exact_iff (kept : WellNamed db) :
    (FoldersPlaced db.folders.rows → PathsAgree db shareFiles shareId) ∧
      (PathsAgree db shareFiles shareId →
        (ScopeExact db shareFiles shareId ↔ PatternsExact db shareFiles shareId)) ∧
      (PatternsExact db shareFiles shareId →
        (ScopeExact db shareFiles shareId ↔ PathsAgree db shareFiles shareId)) := by
  refine ⟨fun placed => Charted.pathsAgree ⟨kept, placed⟩, ?_, ?_⟩
  · intro agree
    rw [kept.scopeExact_iff]
    constructor
    · intro exactly folder present matched
      exact (agree folder present).mpr ((exactly folder present).mp matched)
    · intro patterns folder present
      exact (patterns.matches_iff kept present).trans (agree folder present)
  · intro patterns
    rw [kept.scopeExact_iff]
    apply forall₂_congr
    intro folder present
    rw [patterns.matches_iff kept present]

end Scope

section Wildcard

/-- Two folders of one user, each shared on its own, whose names differ in a single character. -/
def wildcardDb : Db :=
  { Db.empty with
    folders := (Serial.empty.insert (fun id => ⟨id, 1, 0, "a_b", "/a_b/", 1, 0⟩) fun _ => rfl).insert
      (fun id => ⟨id, 1, 0, "axb", "/axb/", 1, 0⟩) fun _ => rfl }

def wildcardLinks : List ShareFile := [⟨1, 1, .folder, 1⟩, ⟨2, 2, .folder, 2⟩]

theorem wildcardDb_folders : wildcardDb.folders.rows =
    [⟨1, 1, 0, "a_b", "/a_b/", 1, 0⟩, ⟨2, 1, 0, "axb", "/axb/", 1, 0⟩] := rfl

theorem wildcardLinked {shareId : Nat} {root : Folder} (linked : LinkedRoot wildcardDb wildcardLinks shareId root) :
    (shareId = 1 ∧ root = ⟨1, 1, 0, "a_b", "/a_b/", 1, 0⟩) ∨
      (shareId = 2 ∧ root = ⟨2, 1, 0, "axb", "/axb/", 1, 0⟩) := by
  obtain ⟨there, link, listed, rfl, -, item⟩ := linked
  rw [wildcardDb_folders] at there
  simp only [wildcardLinks, List.mem_cons, List.not_mem_nil, or_false] at there listed
  rcases there with rfl | rfl <;> rcases listed with rfl | rfl
  · exact .inl ⟨rfl, rfl⟩
  · cases item
  · cases item
  · exact .inr ⟨rfl, rfl⟩

theorem accepted_letters : AcceptedName (textBytes "a_b") ∧ AcceptedName (textBytes "axb") :=
  ⟨⟨textBytes "a_b", .inr (.inr (.inl (by decide +kernel)))⟩,
    ⟨textBytes "axb", .inr (.inr (.inl (by decide +kernel)))⟩⟩

theorem wildcardDb_charted : Charted wildcardDb where
  named := by
    rw [wildcardDb_folders]
    intro folder present
    simp only [List.mem_cons, List.not_mem_nil, or_false] at present
    rcases present with rfl | rfl
    · exact accepted_letters.1
    · exact accepted_letters.2
  unique := by
    rw [wildcardDb_folders]
    decide
  owned := by
    intro file present
    cases present
  written := by
    rw [wildcardDb_folders]
    intro folder present
    simp only [List.mem_cons, List.not_mem_nil, or_false] at present
    rcases present with rfl | rfl
    · refine ⟨["a_b"], ?_, by decide⟩
      rintro name (_ | ⟨_, none⟩)
      · exact accepted_letters.1
      · cases none
    · refine ⟨["axb"], ?_, by decide⟩
      rintro name (_ | ⟨_, none⟩)
      · exact accepted_letters.2
      · cases none
  folders := by
    rw [wildcardDb_folders]
    intro folder present
    simp only [List.mem_cons, List.not_mem_nil, or_false] at present
    rcases present with rfl | rfl
    · exact ⟨{}, .inl ⟨rfl, rfl⟩, by decide, rfl⟩
    · exact ⟨{}, .inl ⟨rfl, rfl⟩, by decide, rfl⟩

/-- The link of the second folder admits that folder alone. -/
theorem scope_exact_iff_plain : ScopeExact wildcardDb wildcardLinks 2 := by
  obtain ⟨follow, exactly, -⟩ := scope_exact_iff wildcardDb_charted.toWellNamed
  apply (exactly (follow wildcardDb_charted.folders)).mpr
  rintro folder present ⟨root, linked, owner, like⟩
  refine ⟨root, linked, owner, ?_⟩
  obtain ⟨wrong, -⟩ | ⟨-, rfl⟩ := wildcardLinked linked
  · cases wrong
  · rw [wildcardDb_folders] at present
    simp only [List.mem_cons, List.not_mem_nil, or_false] at present
    rcases present with rfl | rfl
    · exact absurd like (by decide +kernel)
    · exact List.prefix_refl _

/-- The link of the first folder admits the second one, which is not in it. -/
theorem scope_reads_wildcard : ¬ ∀ (db : Db) (shareFiles : List ShareFile) (shareId : Nat), Charted db →
    ScopeExact db shareFiles shareId := by
  intro always
  have right := (always wildcardDb wildcardLinks 1 wildcardDb_charted).folders 2
  obtain ⟨folder, present, named, root, linked, owner, inside⟩ := right.mp (by decide +kernel)
  have begins := (wildcardDb_charted.inside_iff present linked.1 owner).mp inside
  obtain ⟨-, rfl⟩ | ⟨wrong, -⟩ := wildcardLinked linked
  · rw [wildcardDb_folders] at present
    simp only [List.mem_cons, List.not_mem_nil, or_false] at present
    rcases present with rfl | rfl
    · cases named
    · exact absurd begins (by decide +kernel)
  · cases wrong

end Wildcard

end DiskServer.Shares
