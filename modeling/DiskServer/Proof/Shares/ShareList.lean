import DiskServer.Proof.Shares.ShareLifetime
import DiskServer.Proof.Shares.ShareService

namespace DiskServer.Shares

open Library Upload Utils

section Pages

variable (now : Timestamp) (userId : Nat) (shares : List OwnedShare)

/-- The items of one page; the first page has the index zero. -/
def pageItems (arrangement : Arrangement (Descending OwnedShare.createdAt)) (filter : StatusFilter)
    (size : Int32) (index : Nat) : List ShareItem :=
  match listShares now userId shares arrangement ⟨filter, Int32.ofNat (index + 1), size⟩ with
  | .value response => response.items
  | _ => []

/-- The items of all pages that hold shares, each page in an order of its own. -/
def listedItems (choose : Nat → Arrangement (Descending OwnedShare.createdAt)) (filter : StatusFilter)
    (size : Int32) : List ShareItem :=
  (List.range (pageCount size.toInt.toNat (matchingShares now userId shares filter).length)).flatMap
    fun index => pageItems now userId shares (choose index) filter size index

variable {now userId shares} {filter : StatusFilter} {size : Int32}

theorem countShares_of_few (few : (matchingShares now userId shares filter).length < 2147483648) :
    countShares now userId shares filter =
      some (Int32.ofNat (matchingShares now userId shares filter).length) := by
  unfold countShares
  simp only
  split
  · exact if_pos few
  · rfl

theorem pageItems_eq (arrangement : Arrangement (Descending OwnedShare.createdAt)) (positive : 0 < size)
    (few : (matchingShares now userId shares filter).length < 2147483648) {index : Nat}
    (inside : index * size.toInt.toNat < (matchingShares now userId shares filter).length) :
    pageItems now userId shares arrangement filter size index =
      (cut size.toInt.toNat (index * size.toInt.toNat)
        (arrangement.sort (matchingShares now userId shares filter))).map (showShare now) := by
  have one : 0 < size.toInt := Int32.lt_iff_toInt_lt.mp positive
  have natural : (size.toInt.toNat : Int) = size.toInt := Int.toNat_of_nonneg one.le
  have below : index < 2147483647 := by
    have least : index * 1 ≤ index * size.toInt.toNat := Nat.mul_le_mul_left index (by omega)
    omega
  have number : (Int32.ofNat (index + 1)).toInt = index + 1 := Int32.toInt_ofNat_of_lt (by omega)
  have first : 1 ≤ Int32.ofNat (index + 1) := Int32.le_iff_toInt_le.mpr (by rw [number]; change 1 ≤ _; omega)
  have place : ((Int32.ofNat (index + 1)).toInt - 1) * size.toInt = ((index * size.toInt.toNat : Nat) : Int) := by
    rw [number, Int.add_sub_cancel, Int.natCast_mul, natural]
  have offset : (offset32 (Int32.ofNat (index + 1)) size).toInt = ((index * size.toInt.toNat : Nat) : Int) := by
    rw [(offset32_toInt_iff first positive).mpr (by rw [place]; omega), place]
  have kept : ¬offset32 (Int32.ofNat (index + 1)) size < 0 := by
    rw [Int32.lt_iff_toInt_lt, offset]
    exact Int.not_lt.mpr (Int.natCast_nonneg _)
  unfold pageItems listShares
  rw [countShares_of_few few]
  simp only [ShareListRequest.offset, if_neg kept, offset, Int.toNat_natCast]

theorem listedItems_eq (choose : Nat → Arrangement (Descending OwnedShare.createdAt)) (positive : 0 < size)
    (few : (matchingShares now userId shares filter).length < 2147483648) :
    listedItems now userId shares choose filter size =
      (pagesOf choose size.toInt.toNat
        (pageCount size.toInt.toNat (matchingShares now userId shares filter).length)
        (matchingShares now userId shares filter)).map (showShare now) := by
  have one : 0 < size.toInt.toNat := by
    have positive : 0 < size.toInt := Int32.lt_iff_toInt_lt.mp positive
    omega
  unfold listedItems pagesOf
  rw [List.map_flatMap]
  apply List.flatMap_congr
  intro index listed
  exact pageItems_eq (choose index) positive few ((pageCount_lt_iff one).mp (List.mem_range.mp listed))

/-- The shares of the user of which a list shows the items. -/
def shownAs (filter : StatusFilter) (item : ShareItem) : Bool :=
  filter = .all || item.status = filter.text

variable (now userId shares) in
/-- The total that the first page of a list reports. -/
def listedTotal (arrangement : Arrangement (Descending OwnedShare.createdAt)) (filter : StatusFilter)
    (size : Int32) : Option Int :=
  match listShares now userId shares arrangement ⟨filter, 1, size⟩ with
  | .value response => some response.pagination.total.toInt
  | _ => none

variable (now userId shares size) in
/-- Each filter lists and counts what the list of all shares shows with its status. -/
structure FiltersAgree : Prop where
  items : ∀ filter choose whole, (listedItems now userId shares choose filter size).Perm
    ((listedItems now userId shares whole .all size).filter (shownAs filter))
  totals : ∀ filter arrangement, listedTotal now userId shares arrangement filter size =
    some ((((matchingShares now userId shares .all).map (showShare now)).countP (shownAs filter) : Nat) : Int)

variable (now userId shares size) in
/-- The stored statuses are current, and no shares with one time of creation meet at a page boundary. -/
structure FiltersFit : Prop where
  few : (matchingShares now userId shares .all).length < 2147483648
  current : ∀ share ∈ shares, share.userId = userId →
    share.status = ShareStatus.cancelled.toInt ∨ share.status = ShareStatus.expired.toInt ∨
      listedAsActive now share.toShare = true
  separated : ∀ filter, Separated (Descending OwnedShare.createdAt) size.toInt.toNat
    (matchingShares now userId shares filter)

theorem listedTotal_eq (arrangement : Arrangement (Descending OwnedShare.createdAt)) (filter : StatusFilter) :
    listedTotal now userId shares arrangement filter size =
      (countShares now userId shares filter).map Int32.toInt := by
  have first : ¬(ShareListRequest.mk filter 1 size).offset < 0 := by
    unfold ShareListRequest.offset offset32
    rw [show (1 : Int32) - 1 = 0 from rfl, Int32.zero_mul]
    decide
  unfold listedTotal listShares
  cases countShares now userId shares filter with
  | none => rfl
  | some total => simp only [if_neg first, Option.map_some]

theorem mem_matchingShares_all {share : OwnedShare} :
    share ∈ matchingShares now userId shares .all ↔ share ∈ shares ∧ share.userId = userId := by
  unfold matchingShares selectedByFilter getStatusFilter
  simp

theorem matchingShares_length_le (filter : StatusFilter) :
    (matchingShares now userId shares filter).length ≤ (matchingShares now userId shares .all).length := by
  unfold matchingShares
  rw [← List.countP_eq_length_filter, ← List.countP_eq_length_filter]
  apply List.countP_mono_left
  intro share _ selected
  exact Bool.and_eq_true_iff.mpr ⟨(Bool.and_eq_true_iff.mp selected).1, rfl⟩

/-- A share that its stored status describes is selected by the filter of the status that it is shown with. -/
theorem selected_iff_shown {share : OwnedShare} (filter : StatusFilter) (owned : share.userId = userId)
    (current : share.status = ShareStatus.cancelled.toInt ∨ share.status = ShareStatus.expired.toInt ∨
      listedAsActive now share.toShare = true) :
    selectedByFilter now userId filter share = shownAs filter (showShare now share) := by
  have active : listedAsActive now share.toShare = true → share.status = 1 ∧
      listedStatus now share.toShare = "active" := by
    intro listed
    obtain ⟨status, later⟩ := Bool.and_eq_true_iff.mp listed
    refine ⟨of_decide_eq_true status, listedStatus_active.mpr (isShareActive_iff.mpr ⟨of_decide_eq_true status, ?_⟩)⟩
    intro last ends
    rw [Option.mem_def.mp ends] at later
    exact (of_decide_eq_true later).le
  unfold selectedByFilter shownAs showShare
  rw [decide_eq_true owned, Bool.true_and]
  rcases current with status | status | listed
  · cases filter <;>
      simp [listedAsActive, getStatusFilter, listedStatus, status, ShareStatus.toInt, StatusFilter.text]
  · cases filter <;>
      simp [listedAsActive, getStatusFilter, listedStatus, status, ShareStatus.toInt, StatusFilter.text]
  · obtain ⟨status, shown⟩ := active listed
    cases filter <;> simp [listed, shown, status, getStatusFilter, ShareStatus.toInt, StatusFilter.text]

theorem matchingShares_eq (fit : FiltersFit now userId shares size) (filter : StatusFilter) :
    matchingShares now userId shares filter =
      (matchingShares now userId shares .all).filter fun share => shownAs filter (showShare now share) := by
  unfold matchingShares
  rw [List.filter_filter]
  apply List.filter_congr
  intro share stored
  by_cases owned : share.userId = userId
  · have current := fit.current share stored owned
    rw [selected_iff_shown filter owned current, selected_iff_shown .all owned current]
    simp [shownAs]
  · simp [selectedByFilter, owned]

theorem listedItems_perm (separated : Separated (Descending OwnedShare.createdAt) size.toInt.toNat
      (matchingShares now userId shares filter)) (positive : 0 < size)
    (few : (matchingShares now userId shares filter).length < 2147483648)
    (choose : Nat → Arrangement (Descending OwnedShare.createdAt)) :
    (listedItems now userId shares choose filter size).Perm
      ((matchingShares now userId shares filter).map (showShare now)) := by
  have one : 0 < size.toInt := Int32.lt_iff_toInt_lt.mp positive
  rw [listedItems_eq choose positive few]
  exact (pagesOf_perm separated choose (le_pageCount_mul (by omega))).map _

theorem listedItems_const_perm (positive : 0 < size)
    (few : (matchingShares now userId shares filter).length < 2147483648)
    (arrangement : Arrangement (Descending OwnedShare.createdAt)) :
    (listedItems now userId shares (fun _ => arrangement) filter size).Perm
      ((matchingShares now userId shares filter).map (showShare now)) := by
  have one : 0 < size.toInt := Int32.lt_iff_toInt_lt.mp positive
  rw [listedItems_eq _ positive few]
  exact (pagesOf_const_perm arrangement (le_pageCount_mul (by omega))).map _

/-- Filters that fit agree with the statuses that are shown. -/
theorem FiltersFit.agree (fit : FiltersFit now userId shares size) (positive : 0 < size) :
    FiltersAgree now userId shares size where
  items := by
    intro filter choose whole
    have few := (matchingShares_length_le filter).trans_lt fit.few
    have all := (listedItems_perm (fit.separated .all) positive fit.few whole).filter (shownAs filter)
    rw [List.filter_map] at all
    have one := listedItems_perm (fit.separated filter) positive few choose
    rw [matchingShares_eq fit filter] at one
    exact one.trans all.symm
  totals := by
    intro filter arrangement
    have few := (matchingShares_length_le filter).trans_lt fit.few
    rw [listedTotal_eq, countShares_of_few few, Option.map_some, Int32.toInt_ofNat_of_lt few,
      List.countP_map, matchingShares_eq fit filter, ← List.countP_eq_length_filter]
    rfl

end Pages

section Filters

variable {now : Timestamp} {userId : Nat} {size : Int32}
variable {shares : Table OwnedShare fun share => share.shareCode}

/-- The items of two shares differ, since their codes do. -/
theorem share_eq_of_show {one two : OwnedShare} (first : one ∈ shares.rows) (second : two ∈ shares.rows)
    (same : showShare now one = showShare now two) : one = two :=
  List.inj_on_of_nodup_map shares.distinct first second (congrArg ShareItem.shareId same)

theorem nodup_show (filter : StatusFilter) :
    ((matchingShares now userId shares.rows filter).map (showShare now)).Nodup := by
  apply List.Nodup.of_map ShareItem.shareId
  rw [List.map_map]
  exact (List.filter_sublist.map _).nodup shares.distinct

/-- Rows whose items are the items of the matching shares are these shares. -/
theorem perm_of_shown (filter : StatusFilter) {rows : List OwnedShare}
    (inside : rows ⊆ matchingShares now userId shares.rows filter)
    (shown : (rows.map (showShare now)).Perm
      ((matchingShares now userId shares.rows filter).map (showShare now))) :
    rows.Perm (matchingShares now userId shares.rows filter) := by
  have once : rows.Nodup := List.Nodup.of_map _ (shown.nodup_iff.mpr (nodup_show filter))
  have length := shown.length_eq
  rw [List.length_map, List.length_map] at length
  exact (List.subperm_of_subset once inside).perm_of_length_le length.ge

/-- Filters that agree have a total that fits. -/
theorem FiltersAgree.few (agree : FiltersAgree now userId shares.rows size) :
    (matchingShares now userId shares.rows .all).length < 2147483648 := by
  have total := agree.totals .all (Arrangement.stable _)
  have whole : shownAs .all = fun _ : ShareItem => true := rfl
  rw [listedTotal_eq, whole, List.countP_true, List.length_map] at total
  unfold countShares at total
  have small := (Int32.ofNat (matchingShares now userId shares.rows .all).length).toInt_lt
  have same := Option.some.inj total
  rw [same] at small
  omega

/-- A share that is listed with the status that it is shown with is described by its stored status. -/
theorem FiltersAgree.current (agree : FiltersAgree now userId shares.rows size) (positive : 0 < size)
    {share : OwnedShare} (stored : share ∈ shares.rows) (owned : share.userId = userId) :
    share.status = ShareStatus.cancelled.toInt ∨ share.status = ShareStatus.expired.toInt ∨
      listedAsActive now share.toShare = true := by
  have selects : ∀ filter, shownAs filter (showShare now share) = true →
      selectedByFilter now userId filter share = true := by
    intro filter shown
    have few := (matchingShares_length_le filter).trans_lt agree.few
    have stable := Arrangement.stable (Descending OwnedShare.createdAt)
    have one : (listedItems now userId shares.rows (fun _ => stable) filter size).Perm
        ((matchingShares now userId shares.rows filter).map (showShare now)) :=
      listedItems_const_perm positive few stable
    have all := (listedItems_const_perm positive agree.few stable).filter (shownAs filter)
    have same := (one.symm.trans (agree.items filter _ _)).trans all
    have present : showShare now share ∈
        ((matchingShares now userId shares.rows .all).map (showShare now)).filter (shownAs filter) :=
      List.mem_filter.mpr ⟨List.mem_map_of_mem (mem_matchingShares_all.mpr ⟨stored, owned⟩), shown⟩
    obtain ⟨other, listed, equal⟩ := List.mem_map.mp (same.mem_iff.mpr present)
    obtain ⟨there, selected⟩ := List.mem_filter.mp listed
    exact share_eq_of_show there stored equal ▸ selected
  by_cases cancelled : share.status = ShareStatus.cancelled.toInt
  · exact .inl cancelled
  by_cases active : listedStatus now share.toShare = "active"
  · have selected := selects .active (by simp [shownAs, showShare, active, StatusFilter.text])
    exact .inr (.inr (Bool.and_eq_true_iff.mp selected).2)
  · have expired : listedStatus now share.toShare = "expired" := by
      unfold listedStatus at active ⊢
      rw [if_neg cancelled] at active ⊢
      split at active
      · split at active
        · rename_i one two
          rw [if_pos one, if_pos two]
        · exact absurd rfl active
      · rename_i other
        rw [if_neg other]
    have selected := selects .expired (by simp [shownAs, showShare, expired, StatusFilter.text])
    have status := (Bool.and_eq_true_iff.mp selected).2
    exact .inr (.inl (of_decide_eq_true status))

theorem FiltersAgree.separated (agree : FiltersAgree now userId shares.rows size) (positive : 0 < size)
    (filter : StatusFilter) : Separated (Descending OwnedShare.createdAt) size.toInt.toNat
      (matchingShares now userId shares.rows filter) := by
  have one : 0 < size.toInt := Int32.lt_iff_toInt_lt.mp positive
  have few := (matchingShares_length_le filter).trans_lt agree.few
  have stable := Arrangement.stable (Descending OwnedShare.createdAt)
  have once : (matchingShares now userId shares.rows filter).Nodup :=
    List.Nodup.of_map _ (nodup_show filter)
  apply separated_of_pagesOf_perm stable once (by omega) (le_pageCount_mul (by omega))
  intro choose
  apply perm_of_shown filter (pagesOf_subset choose _ _)
  rw [← listedItems_eq choose positive few]
  exact ((agree.items filter choose fun _ => stable).trans
    (agree.items filter (fun _ => stable) fun _ => stable).symm).trans
      (listedItems_const_perm positive few stable)

/-- The filters agree with the statuses that are shown exactly when they fit. -/
theorem filters_agree_iff (now : Timestamp) (userId : Nat)
    (shares : Table OwnedShare fun share => share.shareCode) (size : Int32) (positive : 0 < size) :
    FiltersAgree now userId shares.rows size ↔ FiltersFit now userId shares.rows size := by
  constructor
  · intro agree
    exact ⟨agree.few, fun _ stored owned => agree.current positive stored owned, agree.separated positive⟩
  · intro fit
    exact fit.agree positive

def storedShare (id : Nat) (code : String) (status : ShareStatus) (expiresAt : Option Timestamp) : OwnedShare where
  id := id
  shareCode := code
  userId := 1
  passwordHash := none
  permission := "download"
  viewCount := 0
  downloadCount := 0
  status := status.toInt
  expiresAt := expiresAt
  createdAt := id
  updatedAt := id

/-- A cancelled share and one that has not ended yet are listed under their own filters. -/
theorem filters_agree_of_current :
    FiltersAgree 10 1 [storedShare 1 "a" .cancelled none, storedShare 2 "b" .active (some 20)] 1 := by
  refine (filters_agree_iff 10 1 ⟨_, by decide⟩ 1 (by decide)).mpr ⟨by decide, by decide, ?_⟩
  intro filter
  apply separated_of_antisymm
  · cases filter <;> decide
  · cases filter <;> decide

/-- A share whose end has passed is shown as expired, but it is not listed as such. -/
theorem filters_not_agree : ¬FiltersAgree 10 1 [storedShare 1 "a" .active (some 5)] 20 := by
  intro agree
  have current := @FiltersAgree.current 10 1 20 ⟨[storedShare 1 "a" .active (some 5)], by decide⟩ agree
    (by decide) _ (List.mem_singleton_self _) rfl
  exact absurd current (by decide)

end Filters

end DiskServer.Shares
