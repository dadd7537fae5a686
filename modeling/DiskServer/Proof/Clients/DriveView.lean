import DiskServer.Construction.Clients.DriveStore

namespace DiskServer.Clients.Drive

open Library

section Matching

variable (server : DriveServer)

/-- The part is what the server has answered for the current folder or the current search. A store that
has not listed anything shows an empty root. -/
def Shows (store : DriveStore) : ViewPart → Prop
  | .files =>
      match store.pagination with
      | none => store.files.items = [] ∧ store.currentFolderId = 0
      | some pagination => ∃ moment query, query.folder = store.currentFolderId ∧
          server.listFiles moment query = ⟨store.files, pagination⟩
  | .breadcrumbs =>
      if store.currentFolderId = 0 then store.breadcrumbs = []
      else ∃ moment, store.breadcrumbs = server.getBreadcrumb moment store.currentFolderId
  | .searchResults =>
      if store.searchQuery = "" then store.searchResults = []
      else ∃ moment query, query.keyword = store.searchQuery ∧
        store.searchResults = server.searchFiles moment query

/-- The request is for the current folder or the current search. -/
def Wanted (store : DriveStore) : Pending → Prop
  | .listFiles query => query.folder = store.currentFolderId
  | .getBreadcrumb folderId => folderId = store.currentFolderId ∧ folderId ≠ 0
  | .searchFiles query => query.keyword = store.searchQuery ∧ query.keyword ≠ ""

/-- A pending answer for this part will still be taken. -/
def Awaits (store : DriveStore) (pending : List Pending) (part : ViewPart) : Prop :=
  ∃ request ∈ pending, request.part = part ∧ Wanted store request

/-- Nothing is pending for a view that matches in all its parts. -/
def ViewMatches (view : DriveView) : Prop :=
  view.pending = [] → ∀ part, Shows server view.store part

/-- The part holds the response to a wanted request, or it is the root that was never listed. -/
def Loaded (view : DriveView) (part : ViewPart) : Prop :=
  (∃ request ∈ view.loaded, request.part = part ∧ Wanted view.store request) ∨
    part = .files ∧ view.store.pagination = none ∧ view.store.currentFolderId = 0

/-- A response that arrives is for the current folder or search, or another one that is wanted is still
pending. A wanted request fails only while another one is pending or has been answered. -/
def Orderly (view : DriveView) : DriveAction → Prop
  | .call _ => True
  | .respond index _ => ∀ request ∈ view.pending[index]?,
      Wanted view.store request ∨ Awaits view.store (view.pending.eraseIdx index) request.part
  | .fail index => ∀ request ∈ view.pending[index]?, Wanted view.store request →
      Loaded view request.part ∨ Awaits view.store (view.pending.eraseIdx index) request.part

/-- Every part matches or waits for a response that it wants. -/
def Underway (view : DriveView) : Prop :=
  ∀ part, Shows server view.store part ∨ Awaits view.store view.pending part

/-- The store holds what the server has answered to the request. -/
def Holds (store : DriveStore) : Pending → Prop
  | .listFiles query => ∃ moment pagination, store.pagination = some pagination ∧
      server.listFiles moment query = ⟨store.files, pagination⟩
  | .getBreadcrumb folderId => ∃ moment, store.breadcrumbs = server.getBreadcrumb moment folderId
  | .searchFiles query => ∃ moment, store.searchResults = server.searchFiles moment query

/-- The store holds the responses that it remembers, and before the first listing it holds no items. -/
structure Remembers (view : DriveView) : Prop where
  loaded : ∀ request ∈ view.loaded, Holds server view.store request
  unlisted : view.store.pagination = none → view.store.files.items = []

end Matching

section Frame

variable {server : DriveServer} {store after : DriveStore} {pending more : List Pending}
  {part : ViewPart}

/-- The stores agree in all that the part depends on. -/
def Agree (store after : DriveStore) : ViewPart → Prop
  | .files => after.files = store.files ∧ after.pagination = store.pagination ∧
      after.currentFolderId = store.currentFolderId
  | .breadcrumbs => after.breadcrumbs = store.breadcrumbs ∧
      after.currentFolderId = store.currentFolderId
  | .searchResults => after.searchQuery = store.searchQuery ∧
      after.searchResults = store.searchResults

theorem Agree.shows (agree : Agree store after part) (shown : Shows server store part) :
    Shows server after part := by
  cases part with
  | files =>
      obtain ⟨files, pagination, folder⟩ := agree
      unfold Shows at shown ⊢
      simp only [files, pagination, folder]
      exact shown
  | breadcrumbs =>
      obtain ⟨breadcrumbs, folder⟩ := agree
      unfold Shows at shown ⊢
      simp only [breadcrumbs, folder]
      exact shown
  | searchResults =>
      obtain ⟨query, results⟩ := agree
      unfold Shows at shown ⊢
      simp only [query, results]
      exact shown

theorem Agree.wanted {request : Pending} (agree : Agree store after request.part)
    (wanted : Wanted store request) : Wanted after request := by
  cases request with
  | listFiles query => exact wanted.trans agree.2.2.symm
  | getBreadcrumb folderId => exact ⟨wanted.1.trans agree.2.symm, wanted.2⟩
  | searchFiles query => exact ⟨wanted.1.trans agree.1.symm, wanted.2⟩

theorem Awaits.mono (awaits : Awaits store pending part) (agree : Agree store after part)
    (grown : pending ⊆ more) : Awaits after more part := by
  obtain ⟨request, inside, same, wanted⟩ := awaits
  exact ⟨request, grown inside, same, Agree.wanted (same ▸ agree) wanted⟩

theorem underway_mono (underway : Shows server store part ∨ Awaits store pending part)
    (agree : Agree store after part) (grown : pending ⊆ more) :
    Shows server after part ∨ Awaits after more part :=
  underway.imp agree.shows fun awaits => awaits.mono agree grown

theorem Agree.refl : Agree store store part := by
  cases part with
  | files => exact ⟨rfl, rfl, rfl⟩
  | breadcrumbs => exact ⟨rfl, rfl⟩
  | searchResults => exact ⟨rfl, rfl⟩

end Frame

section Calls

variable {server : DriveServer} {view : DriveView}

theorem awaits_fetchFiles (page : Option Nat) :
    Awaits (fetchFiles page view).store (fetchFiles page view).pending .files := by
  refine ⟨.listFiles (listQuery view.store page), ?_, rfl, ?_⟩
  · exact List.mem_append_right _ List.mem_cons_self
  · change (if view.store.currentFolderId = 0 then none else some view.store.currentFolderId).getD 0 =
      view.store.currentFolderId
    split
    · rename_i root
      exact root.symm
    · rfl

theorem underway_fetchFiles (underway : Underway server view) (page : Option Nat) :
    Underway server (fetchFiles page view) := fun part =>
  underway_mono (underway part) Agree.refl (List.subset_append_left _ _)

theorem breadcrumbs_fetchBreadcrumb :
    Shows server (fetchBreadcrumb view).store .breadcrumbs ∨
      Awaits (fetchBreadcrumb view).store (fetchBreadcrumb view).pending .breadcrumbs := by
  unfold fetchBreadcrumb
  split
  · rename_i root
    exact .inl ((if_pos root).mpr rfl)
  · rename_i below
    exact .inr ⟨.getBreadcrumb view.store.currentFolderId,
      List.mem_append_right _ List.mem_cons_self, rfl, rfl, below⟩

/-- Fetching the breadcrumbs leaves the other parts alone. -/
theorem agree_fetchBreadcrumb (view : DriveView) {part : ViewPart} (other : part ≠ .breadcrumbs) :
    Agree view.store (fetchBreadcrumb view).store part ∧
      view.pending ⊆ (fetchBreadcrumb view).pending := by
  unfold fetchBreadcrumb
  split
  · refine ⟨?_, List.Subset.refl _⟩
    cases part with
    | files => exact ⟨rfl, rfl, rfl⟩
    | breadcrumbs => exact absurd rfl other
    | searchResults => exact ⟨rfl, rfl⟩
  · exact ⟨Agree.refl, List.subset_append_left _ _⟩

/-- Files and breadcrumbs are fetched together; the search goes on as before. -/
theorem underway_fetchBoth (view : DriveView) {page : Option Nat} {start : DriveView}
    (agree : Agree view.store start.store .searchResults) (more : view.pending ⊆ start.pending)
    (underway : Underway server view) :
    Underway server (fetchBreadcrumb (fetchFiles page start)) := by
  intro part
  cases part with
  | breadcrumbs => exact breadcrumbs_fetchBreadcrumb
  | files =>
      obtain ⟨same, grown⟩ := agree_fetchBreadcrumb (fetchFiles page start)
        (show ViewPart.files ≠ .breadcrumbs by decide)
      exact .inr ((awaits_fetchFiles page).mono same grown)
  | searchResults =>
      obtain ⟨same, grown⟩ := agree_fetchBreadcrumb (fetchFiles page start)
        (show ViewPart.searchResults ≠ .breadcrumbs by decide)
      have fetched : Shows server (fetchFiles page start).store .searchResults ∨
          Awaits (fetchFiles page start).store (fetchFiles page start).pending .searchResults :=
        underway_mono (underway .searchResults) agree
          (List.Subset.trans more (List.subset_append_left _ _))
      exact underway_mono fetched same grown

theorem underway_clearSearch (underway : Underway server view) :
    Underway server (clearSearch view) := by
  intro part
  cases part with
  | files => exact underway_mono (underway .files) ⟨rfl, rfl, rfl⟩ (List.Subset.refl _)
  | breadcrumbs => exact underway_mono (underway .breadcrumbs) ⟨rfl, rfl⟩ (List.Subset.refl _)
  | searchResults => exact .inl rfl

theorem underway_searchFiles (underway : Underway server view) (keyword : String)
    (type : Option String) (folderId : Nat) :
    Underway server (searchFiles keyword type folderId view) := by
  unfold searchFiles
  split
  · exact underway_clearSearch underway
  · rename_i filled
    intro part
    cases part with
    | files => exact underway_mono (underway .files) ⟨rfl, rfl, rfl⟩ (List.subset_append_left _ _)
    | breadcrumbs =>
        exact underway_mono (underway .breadcrumbs) ⟨rfl, rfl⟩ (List.subset_append_left _ _)
    | searchResults =>
        refine .inr ⟨_, List.mem_append_right _ List.mem_cons_self, rfl, rfl, ?_⟩
        rintro rfl
        exact filled rfl

theorem underway_call (underway : Underway server view) (made : DriveCall) :
    Underway server (call view made) := by
  cases made with
  | navigateToFolder folderId =>
      exact underway_fetchBoth view ⟨rfl, rfl⟩ (List.Subset.refl _) underway
  | fetchFiles page => exact underway_fetchFiles underway page
  | searchFiles keyword type folderId => exact underway_searchFiles underway keyword type folderId
  | clearSearch => exact underway_clearSearch underway
  | refreshCurrentView => exact underway_fetchBoth view Agree.refl (List.Subset.refl _) underway
  | setSortBy field => exact underway
  | setSortOrder order => exact underway
  | setFilterType type => exact underway

end Calls

section Responses

variable {server : DriveServer} {view next : DriveView}

/-- A wanted response makes its part match. -/
theorem shows_receive {store : DriveStore} {request : Pending} (moment : Nat)
    (wanted : Wanted store request) :
    Shows server (receive server moment store request) request.part := by
  cases request with
  | listFiles query => exact ⟨moment, query, wanted, rfl⟩
  | getBreadcrumb folderId =>
      obtain ⟨rfl, below⟩ := wanted
      exact (if_neg below).mpr ⟨moment, rfl⟩
  | searchFiles query =>
      obtain ⟨same, filled⟩ := wanted
      exact (if_neg (same ▸ filled)).mpr ⟨moment, query, same, rfl⟩

/-- A response changes its own part and what no part wants. -/
theorem agree_receive {store : DriveStore} {request : Pending} {part : ViewPart} (moment : Nat)
    (other : part ≠ request.part) : Agree store (receive server moment store request) part := by
  cases request with
  | listFiles query =>
      cases part with
      | files => exact absurd rfl other
      | breadcrumbs => exact ⟨rfl, rfl⟩
      | searchResults => exact ⟨rfl, rfl⟩
  | getBreadcrumb folderId =>
      cases part with
      | files => exact ⟨rfl, rfl, rfl⟩
      | breadcrumbs => exact absurd rfl other
      | searchResults => exact ⟨rfl, rfl⟩
  | searchFiles query =>
      cases part with
      | files => exact ⟨rfl, rfl, rfl⟩
      | breadcrumbs => exact ⟨rfl, rfl⟩
      | searchResults => exact absurd rfl other

/-- A response does not change what is wanted. -/
theorem wanted_receive {store : DriveStore} {arrived request : Pending} (moment : Nat)
    (wanted : Wanted store request) : Wanted (receive server moment store arrived) request := by
  cases arrived <;> cases request <;> exact wanted

theorem awaits_receive {store : DriveStore} {arrived : Pending} {pending : List Pending}
    {part : ViewPart} (moment : Nat) (awaits : Awaits store pending part) :
    Awaits (receive server moment store arrived) pending part := by
  obtain ⟨request, inside, same, wanted⟩ := awaits
  exact ⟨request, inside, same, wanted_receive moment wanted⟩

/-- Taking a request of another part away leaves what a part waits for. -/
theorem awaits_eraseIdx {store : DriveStore} {pending : List Pending} {index : Nat}
    {removed : Pending} {part : ViewPart} (found : pending[index]? = some removed)
    (other : part ≠ removed.part) (awaits : Awaits store pending part) :
    Awaits store (pending.eraseIdx index) part := by
  obtain ⟨request, inside, same, wanted⟩ := awaits
  obtain ⟨position, there⟩ := List.mem_iff_getElem?.mp inside
  refine ⟨request, ?_, same, wanted⟩
  apply List.mem_eraseIdx_iff_getElem?.mpr
  refine ⟨position, ?_, there⟩
  rintro rfl
  rw [found] at there
  cases there
  exact other same.symm

/-- A part that holds the response to a wanted request matches. -/
theorem Remembers.shows (remembers : Remembers server view) {part : ViewPart} (loaded : Loaded view part) :
    Shows server view.store part := by
  unfold Shows
  rcases loaded with ⟨request, kept, rfl, wanted⟩ | ⟨rfl, never, root⟩
  · have holds := remembers.loaded request kept
    cases request with
    | listFiles query =>
        obtain ⟨moment, pagination, listed, answered⟩ := holds
        simp only [Pending.part, listed]
        exact ⟨moment, query, wanted, answered⟩
    | getBreadcrumb folderId =>
        obtain ⟨moment, answered⟩ := holds
        obtain ⟨rfl, below⟩ := wanted
        exact (if_neg below).mpr ⟨moment, answered⟩
    | searchFiles query =>
        obtain ⟨moment, answered⟩ := holds
        obtain ⟨same, filled⟩ := wanted
        exact (if_neg (same ▸ filled)).mpr ⟨moment, query, same, answered⟩
  · simp only [never]
    exact ⟨remembers.unlisted never, root⟩

/-- What is forgotten may change, and the rest is held as before. -/
theorem Remembers.forget (remembers : Remembers server view) (part : ViewPart) (store : DriveStore)
    (pending : List Pending)
    (kept : ∀ request : Pending, request.part ≠ part → Holds server view.store request →
      Holds server store request)
    (unlisted : store.pagination = none → store.files.items = []) :
    Remembers server ⟨store, pending, (view.forget part).loaded⟩ where
  loaded request inside := by
    obtain ⟨before, other⟩ := List.mem_filter.mp inside
    exact kept request (of_decide_eq_true other) (remembers.loaded request before)
  unlisted := unlisted

theorem remembers_fetchBreadcrumb (remembers : Remembers server view) :
    Remembers server (fetchBreadcrumb view) := by
  unfold fetchBreadcrumb
  split
  · refine remembers.forget .breadcrumbs { view.store with breadcrumbs := [] } view.pending
      (fun request other holds => ?_) remembers.unlisted
    cases request with
    | getBreadcrumb folderId => exact absurd rfl other
    | listFiles query => exact holds
    | searchFiles query => exact holds
  · exact ⟨remembers.loaded, remembers.unlisted⟩

theorem remembers_clearSearch (remembers : Remembers server view) :
    Remembers server (clearSearch view) := by
  refine remembers.forget .searchResults { view.store with searchQuery := "", searchResults := [] }
    view.pending (fun request other holds => ?_) remembers.unlisted
  cases request with
  | searchFiles query => exact absurd rfl other
  | listFiles query => exact holds
  | getBreadcrumb folderId => exact holds

/-- No part depends on the current folder, the search query and the pending requests alone. -/
theorem Remembers.frame (remembers : Remembers server view) (store : DriveStore) (pending : List Pending)
    (files : store.files = view.store.files) (pagination : store.pagination = view.store.pagination)
    (breadcrumbs : store.breadcrumbs = view.store.breadcrumbs)
    (results : store.searchResults = view.store.searchResults) :
    Remembers server ⟨store, pending, view.loaded⟩ where
  loaded request kept := by
    have holds := remembers.loaded request kept
    cases request <;> simp only [Holds, files, pagination, breadcrumbs, results] at holds ⊢ <;> exact holds
  unlisted := by
    rw [files, pagination]
    exact remembers.unlisted

theorem remembers_call (remembers : Remembers server view) (made : DriveCall) :
    Remembers server (call view made) := by
  cases made with
  | navigateToFolder folderId =>
      exact remembers_fetchBreadcrumb (remembers.frame { view.store with currentFolderId := folderId } _ rfl
        rfl rfl rfl)
  | searchFiles keyword type folderId =>
      change Remembers server (searchFiles keyword type folderId view)
      unfold searchFiles
      split
      · exact remembers_clearSearch remembers
      · exact remembers.frame { view.store with searchQuery := keyword } _ rfl rfl rfl rfl
  | clearSearch => exact remembers_clearSearch remembers
  | refreshCurrentView =>
      exact remembers_fetchBreadcrumb (remembers.frame view.store _ rfl rfl rfl rfl)
  | fetchFiles page => exact remembers.frame view.store _ rfl rfl rfl rfl
  | setSortBy field => exact remembers.frame _ _ rfl rfl rfl rfl
  | setSortOrder order => exact remembers.frame _ _ rfl rfl rfl rfl
  | setFilterType type => exact remembers.frame _ _ rfl rfl rfl rfl

/-- Every step remembers the requests that the parts hold. -/
theorem Remembers.step (remembers : Remembers server view) {action : DriveAction}
    (moved : driveStep server view action = some next) : Remembers server next := by
  cases action with
  | call made =>
      cases moved
      exact remembers_call remembers made
  | respond index moment =>
      obtain ⟨request, -, rfl⟩ := Option.map_eq_some_iff.mp moved
      have others : Remembers server ⟨receive server moment view.store request,
          view.pending.eraseIdx index, (view.forget request.part).loaded⟩ := by
        refine remembers.forget _ _ _ (fun other differs holds => ?_) ?_
        · cases request <;> cases other <;> first | exact holds | exact absurd rfl differs
        · cases request with
          | listFiles query => nofun
          | getBreadcrumb folderId => exact remembers.unlisted
          | searchFiles query => exact remembers.unlisted
      refine ⟨fun other kept => ?_, others.unlisted⟩
      rcases List.mem_cons.mp kept with rfl | before
      · cases other with
        | listFiles query => exact ⟨moment, _, rfl, rfl⟩
        | getBreadcrumb folderId => exact ⟨moment, rfl⟩
        | searchFiles query => exact ⟨moment, rfl⟩
      · exact others.loaded other before
  | fail index =>
      simp only [driveStep] at moved
      split at moved
      · cases moved
        exact remembers.frame view.store _ rfl rfl rfl rfl
      · cases moved

/-- An orderly step leaves each part shown or awaited. -/
theorem underway_step (remembers : Remembers server view) (underway : Underway server view) {action : DriveAction}
    (orderly : Orderly view action) (moved : driveStep server view action = some next) :
    Underway server next := by
  cases action with
  | call made =>
      cases moved
      exact underway_call underway made
  | respond index moment =>
      obtain ⟨request, found, written⟩ := Option.map_eq_some_iff.mp moved
      subst written
      intro part
      by_cases own : part = request.part
      · subst own
        rcases orderly request found with wanted | awaits
        · exact .inl (shows_receive moment wanted)
        · exact .inr (awaits_receive moment awaits)
      · rcases underway part with shown | awaits
        · exact .inl ((agree_receive moment own).shows shown)
        · exact .inr (awaits_receive moment (awaits_eraseIdx found own awaits))
  | fail index =>
      simp only [driveStep] at moved
      split at moved
      · rename_i inside
        cases moved
        have found := List.getElem?_eq_getElem inside
        intro part
        by_cases own : part = view.pending[index].part
        · subst own
          by_cases wanted : Wanted view.store view.pending[index]
          · exact (orderly _ found wanted).imp_left remembers.shows
          · -- a part that waits does so for another request
            refine (underway _).imp_right fun awaits => ?_
            obtain ⟨request, waits, same, needed⟩ := awaits
            obtain ⟨position, there⟩ := List.mem_iff_getElem?.mp waits
            refine ⟨request, List.mem_eraseIdx_iff_getElem?.mpr ⟨position, ?_, there⟩, same, needed⟩
            rintro rfl
            obtain rfl := Option.some.inj (there.symm.trans found)
            exact wanted needed
        · exact (underway part).imp_right (awaits_eraseIdx found own)
      · cases moved

/-- The view matches the current folder and search when nothing is pending, if every response arrives in
order and no wanted request fails as the only one of its part. -/
theorem viewMatches_of_orderly (server : DriveServer) {view : DriveView}
    (reachable : (driveSystem server).ReachableWhen Orderly view) :
    ViewMatches server view := by
  have inv : Remembers server view ∧ Underway server view := by
    apply reachable.invariant fun view => Remembers server view ∧ Underway server view
    · rintro _ rfl
      refine ⟨⟨nofun, fun _ => rfl⟩, fun part => ?_⟩
      cases part with
      | files => exact .inl ⟨rfl, rfl⟩
      | breadcrumbs => exact .inl rfl
      | searchResults => exact .inl rfl
    · intro here action next holds orderly moved
      exact ⟨holds.1.step moved, underway_step holds.1 holds.2 orderly moved⟩
  obtain ⟨-, underway⟩ := inv
  intro idle part
  rcases underway part with shown | ⟨request, inside, -⟩
  · exact shown
  · rw [idle] at inside
    exact absurd inside List.not_mem_nil

end Responses

section Samples

/-- A server whose folders hold one file each, with the number of the folder. -/
def smallServer : DriveServer where
  listFiles := fun _ query =>
    ⟨⟨[⟨query.folder, "notes.txt", .file, ""⟩], List.pairwise_singleton _ _⟩,
      ⟨query.page, query.pageSize, 1, 1⟩⟩
  getBreadcrumb := fun _ folderId => [⟨folderId, "folder"⟩]
  searchFiles := fun _ _ => []

/-- One folder is opened after another, and the responses arrive in the order of the requests. -/
theorem viewMatches_in_order :
    ∃ view, ViewMatches smallServer view ∧ view.pending = [] ∧ view.store.currentFolderId = 2 := by
  have fresh : (driveSystem smallServer).ReachableWhen Orderly .fresh :=
    ⟨_, rfl, Relation.ReflTransGen.refl⟩
  have opened := fresh.next (show Orderly _ (.call (.navigateToFolder 1)) from trivial) rfl
  have left := opened.next (show Orderly _ (.call (.navigateToFolder 2)) from trivial) rfl
  have listed := left.next (show Orderly _ (.respond 0 0) from fun request found => by
    obtain rfl := Option.some.inj found
    exact .inr ⟨.listFiles (listQuery { DriveStore.fresh with currentFolderId := 2 } (some 1)),
      by decide, rfl, rfl⟩) rfl
  have crumbs := listed.next (show Orderly _ (.respond 0 0) from fun request found => by
    obtain rfl := Option.some.inj found
    exact .inr ⟨.getBreadcrumb 2, by decide, rfl, rfl, by decide⟩) rfl
  have shown := crumbs.next (show Orderly _ (.respond 0 0) from fun request found => by
    obtain rfl := Option.some.inj found
    exact .inl rfl) rfl
  have last := shown.next (show Orderly _ (.respond 0 0) from fun request found => by
    obtain rfl := Option.some.inj found
    exact .inl ⟨rfl, by decide⟩) rfl
  exact ⟨_, viewMatches_of_orderly smallServer last, rfl, rfl⟩

/-- The listing of the folder that was left arrives last and stays. -/
theorem stale_listing_stays :
    ¬∀ (server : DriveServer) (view : DriveView), (driveSystem server).Reachable view →
      ViewMatches server view := by
  intro holds
  obtain ⟨view, reachable, checked⟩ := (driveSystem smallServer).exists_reachable_of_run
    [.call (.navigateToFolder 1), .call (.navigateToFolder 2), .respond 2 0, .respond 2 0,
      .respond 0 0, .respond 0 0]
    (fun view => view.pending.isEmpty && view.store.currentFolderId == 2 &&
      view.store.pagination.isSome && (view.store.files.items.map FileItem.id == [1])) rfl (by decide)
  simp only [Bool.and_eq_true, List.isEmpty_iff, beq_iff_eq] at checked
  obtain ⟨⟨⟨idle, folder⟩, listed⟩, files⟩ := checked
  have shown := holds smallServer view reachable idle .files
  obtain ⟨pagination, listed⟩ := Option.isSome_iff_exists.mp listed
  unfold Shows at shown
  rw [listed] at shown
  obtain ⟨moment, query, same, answered⟩ := shown
  have ids := congrArg (fun response => response.items.items.map FileItem.id) answered
  rw [folder] at same
  simp only [files] at ids
  change [query.folder] = [1] at ids
  rw [same] at ids
  cases ids

end Samples

end DiskServer.Clients.Drive
