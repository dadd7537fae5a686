import DiskServer.Construction.Drive.ObjectReconciliation
import DiskServer.Proof.Files.Search
import DiskServer.Proof.Jobs.StorageJobContract
import DiskServer.Proof.Storage.StagingKeys

namespace DiskServer.Drive

open Library Jobs Storage

section Listings

/-- The objects on the pages from a continuation token on. -/
inductive Listed (inventory : Inventory) (limit : Nat) : String → StorageInventoryObject → Prop
  | here {token : String} {page : StorageInventoryPage} {object : StorageInventoryObject} :
      inventory token limit = .ok page → object ∈ page.objects → Listed inventory limit token object
  | later {token : String} {page : StorageInventoryPage} {object : StorageInventoryObject} :
      inventory token limit = .ok page → page.hasMore = true →
      Listed inventory limit page.continuationToken object → Listed inventory limit token object

/-- The pages of a listing from a token on, each behind the token of the page before it. -/
inductive Followed (inventory : Inventory) (limit : Nat) : String → List (List StorageInventoryObject) → Prop
  | last {token : String} {page : StorageInventoryPage} :
      inventory token limit = .ok page → page.hasMore = false → Followed inventory limit token [page.objects]
  | more {token : String} {page : StorageInventoryPage} {pages : List (List StorageInventoryObject)} :
      inventory token limit = .ok page → page.hasMore = true → Followed inventory limit page.continuationToken pages →
      Followed inventory limit token (page.objects :: pages)

variable {tree : LocalTree} {entry : String × Nat} {token root : String} {mode : LocalInventoryLocator}
  {limit : Nat} {object : StorageInventoryObject}

theorem mem_sortedEntries : entry ∈ sortedEntries tree ↔ entry ∈ tree.files := by
  simp [sortedEntries]

/-- The entries stand in the order of their names, and no name comes twice. -/
theorem sortedEntries_sorted : (sortedEntries tree).Pairwise fun first second => ¬ second.1 ≤ first.1 := by
  have compose : IsTrans (String × Nat) fun first second => first.1 ≤ second.1 :=
    ⟨fun _ _ _ => String.le_trans⟩
  have compare : Std.Total fun first second : String × Nat => first.1 ≤ second.1 :=
    ⟨fun first second => String.le_total first.1 second.1⟩
  have ordered : (sortedEntries tree).Pairwise fun first second => first.1 ≤ second.1 :=
    List.pairwise_insertionSort _ _
  have distinct : ((sortedEntries tree).map Prod.fst).Nodup :=
    ((List.perm_insertionSort _ tree.files).map Prod.fst).nodup_iff.mpr tree.distinct
  have differ := List.pairwise_map.mp distinct
  apply ordered.imp₂ _ differ
  intro first second below differs above
  exact differs (String.le_antisymm below above)

/-- The entries behind a token. -/
def entriesBehind (tree : LocalTree) (token : String) : List (String × Nat) :=
  (sortedEntries tree).dropWhile fun entry => entry.1 ≤ token

/-- Behind the last name of a page stands what the page has left out. -/
theorem entriesBehind_last {last : String × Nat}
    (ends : ((entriesBehind tree token).take limit).getLast? = some last) :
    entriesBehind tree last.1 = (entriesBehind tree token).drop limit := by
  have sorted := @sortedEntries_sorted tree
  have whole : sortedEntries tree = ((sortedEntries tree).takeWhile (fun entry => entry.1 ≤ token) ++
      (entriesBehind tree token).take limit) ++ (entriesBehind tree token).drop limit := by
    rw [List.append_assoc, List.take_append_drop]
    exact List.takeWhile_append_dropWhile.symm
  obtain ⟨early, split⟩ := List.getLast?_eq_some_iff.mp ends
  generalize passed : (sortedEntries tree).takeWhile (fun entry => entry.1 ≤ token) = before at whole
  generalize (entriesBehind tree token).drop limit = rest at whole
  rw [split, ← List.append_assoc] at whole
  rw [whole] at sorted
  obtain ⟨front, back, across⟩ := List.pairwise_append.mp sorted
  have passes : ∀ entry ∈ (before ++ early) ++ [last], decide (entry.1 ≤ last.1) = true := by
    intro entry inside
    rcases List.mem_append.mp inside with first | second
    · have below := (List.pairwise_append.mp front).2.2 entry first last List.mem_cons_self
      exact decide_eq_true ((String.le_total entry.1 last.1).resolve_right below)
    · rw [List.mem_singleton.mp second]
      exact decide_eq_true (String.le_refl _)
  unfold entriesBehind
  rw [whole, List.dropWhile_append_of_pos passes]
  cases rest with
  | nil => rfl
  | cons next others =>
      have beyond := across last (List.mem_append_right _ List.mem_cons_self) next List.mem_cons_self
      exact List.dropWhile_cons_of_neg (by simpa using beyond)

theorem mem_entriesBehind (inside : entry ∈ entriesBehind tree token) : entry ∈ tree.files :=
  mem_sortedEntries.mp ((List.dropWhile_sublist _).mem inside)

/-- Every file lies behind the empty token. -/
theorem entriesBehind_start : entriesBehind tree "" = sortedEntries tree := by
  unfold entriesBehind
  cases entries : sortedEntries tree with
  | nil => rfl
  | cons first rest =>
      have present : first ∈ tree.files := mem_sortedEntries.mp (entries ▸ List.mem_cons_self)
      apply List.dropWhile_cons_of_neg
      intro below
      have least : "" ≤ first.1 := String.not_lt.mp (mt String.lt_iff.mp (List.not_lt_nil _))
      exact (tree.relative first present).1 (String.le_antisymm (of_decide_eq_true below) least)

/-- The object that stands for a file. -/
def listedFile (mode : LocalInventoryLocator) (root : String) (entry : String × Nat) : StorageInventoryObject :=
  ⟨mode.locator root entry.1, entry.2⟩

variable (fits : root ≠ "" ∧ limit ≠ 0 ∧ limit ≤ maxStorageInventoryPageSize)

include fits in
theorem listLocal_page (safe : isSafeContinuationToken token = true) :
    listLocalStorageInventory root (.ok (some tree)) mode token limit = .ok
      { objects := ((entriesBehind tree token).take limit).map (listedFile mode root)
        hasMore := limit < (entriesBehind tree token).length
        continuationToken := if limit < (entriesBehind tree token).length then
          (((entriesBehind tree token).take limit).getLast?.map Prod.fst).getD "" else "" } := by
  have full : ((entriesBehind tree token).take limit).length < (entriesBehind tree token).length ↔
      limit < (entriesBehind tree token).length := by
    rw [List.length_take, inf_lt_right, not_le]
  unfold listLocalStorageInventory
  rw [if_neg (by simp [fits, safe])]
  unfold entriesBehind at full ⊢
  simp only [full, decide_eq_true_eq]
  rfl

include fits in
/-- The pages of a local listing show the files behind the token. -/
theorem listed_local_behind (safe : isSafeContinuationToken token = true) :
    Listed (listLocalStorageInventory root (.ok (some tree)) mode) limit token object ↔
      ∃ entry ∈ entriesBehind tree token, object = listedFile mode root entry := by
  induction size : (entriesBehind tree token).length using Nat.strong_induction_on generalizing token with
  | _ size ih =>
      have page := @listLocal_page tree token root mode limit fits safe
      have next : limit < (entriesBehind tree token).length → ∃ last,
          ((entriesBehind tree token).take limit).getLast? = some last ∧
          (Listed (listLocalStorageInventory root (.ok (some tree)) mode) limit last.1 object ↔
            ∃ entry ∈ (entriesBehind tree token).drop limit, object = listedFile mode root entry) := by
        intro full
        have nonempty : (entriesBehind tree token).take limit ≠ [] := by
          simp [List.take_eq_nil_iff, fits.2.1, List.ne_nil_of_length_pos (Nat.zero_lt_of_lt full)]
        have ends := List.getLast?_eq_some_getLast nonempty
        refine ⟨_, ends, ?_⟩
        generalize ((entriesBehind tree token).take limit).getLast nonempty = last at ends
        have stored := tree.relative last (mem_entriesBehind (List.mem_of_mem_take (List.mem_of_getLast? ends)))
        rw [← entriesBehind_last ends]
        apply ih _ _ stored.2 rfl
        rw [entriesBehind_last ends, List.length_drop]
        omega
      constructor
      · intro listed
        cases listed with
        | here answered inside =>
            obtain rfl := Except.ok.inj (page.symm.trans answered)
            obtain ⟨entry, taken, rfl⟩ := List.mem_map.mp inside
            exact ⟨entry, List.mem_of_mem_take taken, rfl⟩
        | later answered more rest =>
            obtain rfl := Except.ok.inj (page.symm.trans answered)
            have full := of_decide_eq_true more
            obtain ⟨last, ends, further⟩ := next full
            simp only [if_pos full, ends, Option.map_some, Option.getD_some] at rest
            obtain ⟨entry, left, named⟩ := further.mp rest
            exact ⟨entry, List.mem_of_mem_drop left, named⟩
      · rintro ⟨entry, behind, rfl⟩
        rw [← List.take_append_drop limit (entriesBehind tree token)] at behind
        rcases List.mem_append.mp behind with taken | left
        · exact .here page (List.mem_map_of_mem taken)
        · have full : limit < (entriesBehind tree token).length := by
            have some := List.length_pos_of_mem left
            rw [List.length_drop] at some
            omega
          obtain ⟨last, ends, further⟩ := next full
          apply Listed.later page (decide_eq_true full)
          simp only [if_pos full, ends, Option.map_some, Option.getD_some]
          exact further.mpr ⟨entry, left, rfl⟩

include fits in
/-- A local listing shows exactly the files below its root. -/
theorem listed_local_iff :
    Listed (listLocalStorageInventory root (.ok (some tree)) mode) limit "" object ↔
      ∃ file ∈ tree.files, object = listedFile mode root file := by
  rw [listed_local_behind fits rfl, entriesBehind_start]
  simp only [mem_sortedEntries]

include fits in
/-- Following the tokens of a local listing ends and shows the sorted files behind the first token. -/
theorem followed_local (safe : isSafeContinuationToken token = true) :
    (∃ pages, Followed (listLocalStorageInventory root (.ok (some tree)) mode) limit token pages) ∧
      ∀ pages, Followed (listLocalStorageInventory root (.ok (some tree)) mode) limit token pages →
        pages.flatten = (entriesBehind tree token).map (listedFile mode root) := by
  induction count : (entriesBehind tree token).length using Nat.strong_induction_on generalizing token with
  | _ left ih =>
      have page := @listLocal_page tree token root mode limit fits safe
      by_cases full : limit < (entriesBehind tree token).length
      · have some : (entriesBehind tree token).take limit ≠ [] := by
          simp [List.take_eq_nil_iff, fits.2.1, List.ne_nil_of_length_pos (Nat.zero_lt_of_lt full)]
        have ends := List.getLast?_eq_some_getLast some
        have inside := mem_entriesBehind (List.mem_of_mem_take (List.getLast_mem some))
        rw [if_pos full, ends, Option.map_some, Option.getD_some] at page
        have fewer : (entriesBehind tree (((entriesBehind tree token).take limit).getLast some).1).length < left := by
          rw [entriesBehind_last ends, List.length_drop]
          omega
        obtain ⟨⟨pages, followed⟩, whole⟩ := ih _ fewer (tree.relative _ inside).2 rfl
        refine ⟨⟨_, .more page (decide_eq_true full) followed⟩, ?_⟩
        intro pages followed
        cases followed with
        | last answered ended =>
            obtain rfl := Except.ok.inj (page.symm.trans answered)
            exact absurd full (of_decide_eq_false ended)
        | more answered _ later =>
            obtain rfl := Except.ok.inj (page.symm.trans answered)
            rw [List.flatten_cons, whole _ later, entriesBehind_last ends, ← List.map_append, List.take_append_drop]
      · refine ⟨⟨_, .last page (decide_eq_false full)⟩, ?_⟩
        intro pages followed
        cases followed with
        | last answered ended =>
            obtain rfl := Except.ok.inj (page.symm.trans answered)
            rw [List.flatten_singleton, List.take_of_length_le (by omega)]
        | more answered more _ =>
            obtain rfl := Except.ok.inj (page.symm.trans answered)
            exact absurd (of_decide_eq_true more) full

/-- Different keys have different locators. -/
theorem locator_injective {one two : String} (same : mode.locator root one = mode.locator root two) : one = two := by
  cases mode with
  | relativeToRoot => exact same
  | includeRoot =>
      change joinPath root one = joinPath root two at same
      unfold joinPath at same
      split at same
      · exact text_append_right_cancel same
      · exact text_append_right_cancel same

/-- A directory that is not there is listed like an empty one. -/
theorem listLocal_missing : listLocalStorageInventory root (.ok none) mode =
    listLocalStorageInventory root (.ok (some ⟨[], by simp, by simp⟩)) mode := by
  funext token limit
  simp [listLocalStorageInventory, sortedEntries]

include fits in
/-- Following the tokens of a local listing ends, and the pages together are the files below the root in
order, each of them once. -/
theorem localListing_whole (found : Option LocalTree) :
    (∃ pages, Followed (listLocalStorageInventory root (.ok found) mode) limit "" pages) ∧
      ∀ pages, Followed (listLocalStorageInventory root (.ok found) mode) limit "" pages →
        pages.flatten.Perm ((found.elim [] LocalTree.files).map (listedFile mode root)) ∧
        (pages.flatten.map StorageInventoryObject.locator).Nodup ∧
        ∃ entries : List (String × Nat), pages.flatten = entries.map (listedFile mode root) ∧
          entries.Pairwise fun first second => first.1 < second.1 := by
  have whole : ∀ tree : LocalTree,
      (∃ pages, Followed (listLocalStorageInventory root (.ok (some tree)) mode) limit "" pages) ∧
      ∀ pages, Followed (listLocalStorageInventory root (.ok (some tree)) mode) limit "" pages →
        pages.flatten.Perm (tree.files.map (listedFile mode root)) ∧
        (pages.flatten.map StorageInventoryObject.locator).Nodup ∧
        ∃ entries : List (String × Nat), pages.flatten = entries.map (listedFile mode root) ∧
          entries.Pairwise fun first second => first.1 < second.1 := by
    intro tree
    obtain ⟨ends, shown⟩ := @followed_local tree "" root mode limit fits rfl
    refine ⟨ends, fun pages followed => ?_⟩
    have ascends : (sortedEntries tree).Pairwise fun first second => first.1 < second.1 :=
      sortedEntries_sorted.imp fun {first second : String × Nat} above => String.not_le.mp above
    rw [shown pages followed, entriesBehind_start]
    refine ⟨(List.perm_insertionSort _ tree.files).map _, ?_, sortedEntries tree, rfl, ascends⟩
    rw [List.map_map, List.Nodup, List.pairwise_map]
    refine ascends.imp fun {first second : String × Nat} less same => ?_
    rw [locator_injective same] at less
    exact String.lt_irrefl _ less
  cases found with
  | some tree => exact whole tree
  | none =>
      rw [listLocal_missing]
      exact whole ⟨[], by simp, by simp⟩

end Listings

/-- Two files that the walk does not meet in the order of their names. -/
def unsortedTree : LocalTree := ⟨[("b", 2), ("a", 1)], by decide, by decide +kernel⟩

/-- A tree whose walk is not in the order of the names. -/
theorem unsortedTree_whole :
    (∃ pages, Followed (listLocalStorageInventory "/data" (.ok (some unsortedTree)) .includeRoot) 1 "" pages) ∧
      ∀ pages, Followed (listLocalStorageInventory "/data" (.ok (some unsortedTree)) .includeRoot) 1 "" pages →
        pages.flatten.Perm ((Option.elim (some unsortedTree) [] LocalTree.files).map (listedFile .includeRoot "/data")) ∧
        (pages.flatten.map StorageInventoryObject.locator).Nodup ∧
        ∃ entries : List (String × Nat), pages.flatten = entries.map (listedFile .includeRoot "/data") ∧
          entries.Pairwise fun first second => first.1 < second.1 :=
  localListing_whole (by decide) (some unsortedTree)

section References

/-- The object of a recorded chunk is the one under its key, or a local one under its number. -/
def ChunkObject (task : Upload.UploadTask) (chunk : Upload.UploadTaskChunk) (locator : String) : Prop :=
  chunk.objectKey = some locator ∨ (task.stagingBackend = .localDisk ∧ chunk.objectKey = none ∧
    locator = task.id ++ "/" ++ toString chunk.chunkIndex ++ ".chunk")

/-- The assemblies of a task lie below its prefix, or next to the chunks of the local uploads. -/
def AssemblyObject (task : Upload.UploadTask) (locator : String) : Prop :=
  (task.stagingBackend = .s3 ∧ ∃ name, locator = task.stagingPrefix ++ "/assembled/" ++ name) ∨
    (task.stagingBackend = .localDisk ∧ locator = task.id ++ ".tmp")

/-- Some row refers to the staging object. -/
def Db.RefersStaging (db : Db) (locator : String) : Prop :=
  (∃ task ∈ db.tasks.rows, (task.status = .inProgress ∨ task.status = .finalizing) ∧
      ∃ chunk, (task.id, chunk) ∈ db.chunks ∧ ChunkObject task chunk locator) ∨
    ∃ task ∈ db.tasks.rows, task.status = .finalizing ∧ AssemblyObject task locator

/-- Some row refers to the final object. -/
def Db.RefersFinal (db : Db) (locator : String) : Prop :=
  ∃ content ∈ db.contents.rows, content.storagePath = locator

/-- A row of the database needs the object. -/
def Db.Refers (db : Db) (scope : Jobs.ReconciliationScope) (locator : String) : Prop :=
  if scope = .staging then db.RefersStaging locator else db.RefersFinal locator

/-- The text begins with a part of the key that has no other special character than underscores, and the
key goes on without special characters. -/
def MatchesItself (key text : String) : Prop :=
  ∃ head tail : List Char, key.toList = head ++ tail ∧ head <+: text.toList ∧
    (∀ character ∈ head, character ≠ '%' ∧ character ≠ '\\') ∧
    ∀ character ∈ tail, character ≠ '%' ∧ character ≠ '_' ∧ character ≠ '\\'

variable {db : Db} {locator : String} {task : Upload.UploadTask}

/-- Underscores match themselves as well. -/
theorem sqlLike_append {start : List Char} (pattern text : List Char)
    (plain : ∀ character ∈ start, character ≠ '%' ∧ character ≠ '\\') :
    sqlLike (start ++ pattern) (start ++ text) = sqlLike pattern text := by
  induction start with
  | nil => rfl
  | cons wanted start ih =>
      obtain ⟨⟨percent, escape⟩, others⟩ := List.forall_mem_cons.mp plain
      rw [List.cons_append, List.cons_append]
      by_cases underscore : wanted = '_'
      · rw [underscore, sqlLike]
        exact ih others
      · rw [sqlLike, ih others, beq_self_eq_true, Bool.true_and]
        all_goals simp_all

/-- The pattern of the query finds the assemblies below the prefix of a task. -/
theorem assemblyMatches_iff (itself : task.stagingBackend = .s3 → MatchesItself task.stagingPrefix locator) :
    assemblyMatches locator task = true ↔ AssemblyObject task locator := by
  unfold assemblyMatches AssemblyObject
  rw [Bool.or_eq_true, Bool.and_eq_true, Bool.and_eq_true, decide_eq_true_iff, decide_eq_true_iff,
    decide_eq_true_iff]
  apply or_congr_left
  apply and_congr_right
  intro remote
  obtain ⟨head, tail, split, ⟨rest, begins⟩, plain, special⟩ := itself remote
  have below : ∀ character ∈ tail ++ "/assembled/".toList,
      character ≠ '%' ∧ character ≠ '_' ∧ character ≠ '\\' := by
    intro character inside
    rcases List.mem_append.mp inside with early | late
    · exact special character early
    · exact of_decide_eq_true (List.all_eq_true.mp (show ("/assembled/".toList.all fun character =>
        character ≠ '%' ∧ character ≠ '_' ∧ character ≠ '\\') = true by decide) character late)
  have pattern : (task.stagingPrefix ++ "/assembled/%").toList =
      head ++ ((tail ++ "/assembled/".toList) ++ ['%']) := by
    rw [String.toList_append, split]
    simp
  rw [pattern, ← begins, sqlLike_append _ _ plain, Files.sqlLike_of_start _ below]
  constructor
  · rintro ⟨name, found⟩
    refine ⟨String.ofList name, String.toList_inj.mp ?_⟩
    rw [← begins, ← found, String.toList_append, String.toList_append, split, String.toList_ofList]
    simp
  · rintro ⟨name, rfl⟩
    rw [String.toList_append, String.toList_append, split, List.append_assoc, List.append_assoc] at begins
    exact ⟨name.toList, by rw [List.append_cancel_left begins, List.append_assoc]⟩

theorem chunkMatches_iff {chunk : Upload.UploadTaskChunk} :
    chunkMatches locator task chunk = true ↔ ChunkObject task chunk locator := by
  simp [chunkMatches, ChunkObject, and_assoc]

/-- The statement of a page finds the references of an object. -/
theorem objectReferenced_iff {scope : Jobs.ReconciliationScope}
    (itself : scope = .staging → ∀ task ∈ db.tasks.rows, task.status = .finalizing →
      task.stagingBackend = .s3 → MatchesItself task.stagingPrefix locator) :
    objectReferenced db locator scope = true ↔ db.Refers scope locator := by
  unfold objectReferenced Db.Refers
  split
  · rename_i staging
    unfold stagingReferenced Db.RefersStaging
    rw [Bool.or_eq_true]
    apply or_congr
    · simp only [List.any_eq_true, Bool.and_eq_true, decide_eq_true_iff, chunkMatches_iff,
        Upload.UploadTask.active, Bool.or_eq_true, beq_iff_eq]
      constructor
      · rintro ⟨⟨id, chunk⟩, recorded, task, present, ⟨rfl, active⟩, denotes⟩
        exact ⟨task, present, active, chunk, recorded, denotes⟩
      · rintro ⟨task, present, active, chunk, recorded, denotes⟩
        exact ⟨(task.id, chunk), recorded, task, present, ⟨rfl, active⟩, denotes⟩
    · simp only [List.any_eq_true, Bool.and_eq_true, decide_eq_true_iff]
      apply exists_congr
      intro task
      apply and_congr_right
      intro present
      apply and_congr_right
      intro finalizing
      exact assemblyMatches_iff (itself staging task present finalizing)
  · simp [finalReferenced, Db.RefersFinal]

end References

section Remote

variable {listObjects : String → String → Nat → Except ErrorInfo S3ListResult}
  {headObject : String → Except ErrorInfo (Option Nat)} {start token : String} {limit : Nat}
  {object : StorageInventoryObject}

theorem headObjects_locator {keys : List String} {objects : List StorageInventoryObject}
    (headed : headObjects headObject keys = .ok objects) (inside : object ∈ objects) :
    object.locator ∈ keys := by
  induction keys generalizing objects with
  | nil =>
      obtain rfl := Except.ok.inj headed
      cases inside
  | cons key rest ih =>
      unfold headObjects at headed
      cases size : headObject key with
      | error failure =>
          rw [size] at headed
          cases headed
      | ok found =>
          cases others : headObjects headObject rest with
          | error failure =>
              rw [size, others] at headed
              cases headed
          | ok listed =>
              rw [size, others] at headed
              obtain rfl := Except.ok.inj headed
              rcases List.mem_append.mp inside with here | later
              · obtain ⟨bytes, -, rfl⟩ := List.mem_map.mp here
                exact List.mem_cons_self
              · exact List.mem_cons_of_mem _ (ih others later)

/-- A remote listing shows only objects below its prefix. -/
theorem listed_remote_startsWith
    (listed : Listed (listS3Inventory listObjects headObject start) limit token object) :
    startsWith object.locator start = true := by
  induction listed with
  | @here token page object answered inside =>
      unfold listS3Inventory at answered
      split at answered
      · cases answered
      · cases listed : listObjects start token limit with
        | error failure =>
            rw [listed] at answered
            cases answered
        | ok result =>
            simp only [listed, bind, Except.bind] at answered
            split at answered
            · cases answered
            · rename_i within
              split at answered
              · cases answered
              · cases headed : headObjects headObject result.keys with
                | error failure =>
                    rw [headed] at answered
                    cases answered
                | ok objects =>
                    rw [headed] at answered
                    obtain rfl := Except.ok.inj answered
                    exact List.all_eq_true.mp (eq_true_of_ne_false within) _ (headObjects_locator headed inside)
  | later answered full rest ih => exact ih

/-- Under the configured prefix the patterns of the uploads match themselves. -/
theorem matchesItself_configured {configuredObject configuredStaging uploadId locator : String}
    {prefixes : S3Prefixes} (loaded : loadPrefixes configuredObject configuredStaging = .ok prefixes)
    (plain : ∀ character ∈ uploadId.toList, character ≠ '%' ∧ character ≠ '_' ∧ character ≠ '\\')
    (starts : startsWith locator (prefixes.stagingPrefix ++ "/") = true) :
    MatchesItself (stagingSession prefixes.stagingPrefix uploadId).stagingPrefix locator := by
  refine ⟨prefixes.stagingPrefix.toList ++ ['/'], uploadId.toList, ?_, ?_, ?_, plain⟩
  · rw [session_toList, List.append_assoc]
    rfl
  · rw [← toList_slash]
    exact startsWith_iff.mp starts
  · intro character inside
    by_cases slash : character = '/'
    · rw [slash]
      decide
    · have early : character ∈ prefixes.stagingPrefix.toList :=
        (List.mem_append.mp inside).resolve_right fun last => slash (List.mem_singleton.mp last)
      obtain ⟨segment, listed, there⟩ := mem_segments early slash
      have safe := List.all_eq_true.mp ((loadPrefixes_ok loaded).2.1 segment listed).2 character there
      constructor
      · rintro rfl
        exact absurd safe (by decide)
      · rintro rfl
        exact absurd safe (by decide)

end Remote

end DiskServer.Drive
