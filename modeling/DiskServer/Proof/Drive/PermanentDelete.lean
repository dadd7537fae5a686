import DiskServer.Proof.Drive.Balance
import DiskServer.Proof.Drive.TrashService

namespace DiskServer.Drive

open Library Transaction

variable {extra : Nat → Nat → Prop} {before after : Db}

/-- The counters of contents and users agree with the rows. -/
def Db.Exact (db : Db) : Prop :=
  (∀ contentId, db.balance (.refs contentId) = 0) ∧ ∀ userId, db.balance (.used userId) = 0

/-- What some of the trash rows charge is no more than the counter they charge. -/
theorem trash_covered {account : Account} {counter : Int}
    (balanced : counter - (before.files.rows.map fun file => file.charge account).sum -
      (before.trash.rows.map fun row => row.charge account).sum = 0) (select : Trash → Bool) :
    ((before.trash.rows.filter select).map fun row => row.charge account).sum ≤ counter := by
  have files := @sum_map_nonneg _ _ before.files.rows fun file _ => file.charge_nonneg account
  have others := sum_map_filter_not (fun row : Trash => row.charge account) select before.trash.rows
  have rest := @sum_map_nonneg _ _ (before.trash.rows.filter fun row => !select row)
    fun row _ => row.charge_nonneg account
  omega

theorem collectDeletions_ok {requireValid : Bool} {items : List Trash}
    {deletions : List (Trash × List Nat)}
    (collected : collectDeletions requireValid items = .ok deletions) :
    ∀ deletion ∈ deletions, deletion.1 ∈ items ∧ trashContentIds deletion.1 = .ok deletion.2 := by
  induction items generalizing deletions with
  | nil =>
      obtain rfl : deletions = [] := by simpa [collectDeletions] using collected.symm
      simp
  | cons item rest ih =>
      unfold collectDeletions at collected
      cases read : trashContentIds item with
      | error error =>
          simp only [read] at collected
          split at collected
          · intro deletion present
            obtain ⟨there, same⟩ := ih collected deletion present
            exact ⟨List.mem_cons_of_mem item there, same⟩
          · cases collected
      | ok contentIds =>
          simp only [read] at collected
          cases others : collectDeletions requireValid rest with
          | error error =>
              simp only [others] at collected
              cases collected
          | ok more =>
              simp only [others] at collected
              cases collected
              intro deletion present
              rcases List.mem_cons.mp present with rfl | later
              · exact ⟨List.mem_cons_self, read⟩
              · obtain ⟨there, same⟩ := ih others deletion later
                exact ⟨List.mem_cons_of_mem item there, same⟩

theorem deleteTrashByIds_posts {trashIds : List Nat} {deleted : Nat}
    (ran : (deleteTrashByIds trashIds).run before = .ok (deleted, after)) :
    deleted = (before.trash.rows.filter fun row => trashIds.contains row.id).length ∧
      after.users = before.users ∧
      Posts extra ((before.trash.rows.filter fun row => trashIds.contains row.id).map Trash.charge).sum
        before after := by
  have rest := get_bind_ok ran
  obtain ⟨rfl, rfl⟩ := set_pure_ok rest
  refine ⟨rfl, rfl, Posts.ofTrash ?_ (Nat.le_refl _) ?_⟩
  · exact sum_map_filter_not Trash.charge _ _
  · intro row present
    exact .inl (List.mem_of_mem_filter present)

/-- Rows read earlier that are all still there are the stored rows themselves. -/
theorem deletions_perm {earlier : Db} {items : List Trash}
    (known : ∀ item ∈ items, item ∈ earlier.trash.rows) (later : Precedes earlier before)
    (count : (before.trash.rows.filter fun row => (items.map Trash.id).contains row.id).length =
      (items.map Trash.id).length) :
    (before.trash.rows.filter fun row => (items.map Trash.id).contains row.id).Perm items := by
  have keys := before.trash.filter_keys_perm count
  have once : (items.map Trash.id).Nodup := keys.nodup_iff.mp
    (before.trash.distinct.sublist (List.Sublist.map Trash.id List.filter_sublist))
  apply before.trash.filter_keys_perm_rows _ (List.Nodup.of_map Trash.id once) fun _ => Iff.rfl
  intro item present
  obtain ⟨row, chosen, keyed⟩ := List.mem_map.mp
    (keys.mem_iff.mpr (List.mem_map_of_mem (f := Trash.id) present))
  have there := List.mem_of_mem_filter chosen
  have stored := known item present
  have old := later.trash row there (keyed ▸ (earlier.trash.bounded item stored).2)
  rwa [← earlier.trash.eq_of_key old stored keyed]

/-- A refund leaves the counters of the other users as they were. -/
theorem refund_covered {userId : Nat} {rest : List Nat} {freed : Nat → Nat} {value : Unit}
    (absent : userId ∉ rest)
    (covered : ∀ other ∈ userId :: rest, ∀ user, before.users.find? other = some user →
      (freed other : Int) ≤ user.storageUsed)
    (ran : (adjustUsedStorageChecked userId (-(freed userId : Int))).run before = .ok (value, after)) :
    ∀ other ∈ rest, ∀ user, after.users.find? other = some user →
      (freed other : Int) ≤ user.storageUsed := by
  intro other present user found
  have differs : other ≠ userId := fun same => absent (same ▸ present)
  rw [adjustUsedStorageChecked_find other (covered userId List.mem_cons_self) ran] at found
  obtain ⟨row, there, same⟩ := Option.map_eq_some_iff.mp found
  rw [if_neg differs] at same
  exact same ▸ covered other (List.mem_cons_of_mem userId present) row there

/-- The refunds of distinct users that their counters cover are posted in full. -/
theorem refundUsers_posts {userIds : List Nat} {freed : Nat → Nat} {value : PUnit}
    (once : userIds.Nodup)
    (covered : ∀ userId ∈ userIds, ∀ user, before.users.find? userId = some user →
      (freed userId : Int) ≤ user.storageUsed)
    (ran : (userIds.forM fun userId =>
      adjustUsedStorageChecked userId (-(freed userId : Int))).run before = .ok (value, after)) :
    Posts extra (userIds.map fun userId => -post (.used userId) (freed userId)).sum before after := by
  induction userIds generalizing before with
  | nil =>
      obtain ⟨-, rfl⟩ := pure_ok ran
      exact Posts.refl _
  | cons userId rest ih =>
      change (adjustUsedStorageChecked userId (-(freed userId : Int)) >>= fun _ => rest.forM fun userId =>
        adjustUsedStorageChecked userId (-(freed userId : Int))).run before = _ at ran
      obtain ⟨_, middle, one, two⟩ := bind_ok ran
      obtain ⟨absent, distinct⟩ := List.nodup_cons.mp once
      have first := @adjustUsedStorageChecked_posts extra _ _ _ _ _
        (covered userId List.mem_cons_self) one
      have others := ih distinct (refund_covered absent covered one) two
      rw [List.map_cons, List.sum_cons]
      exact first.trans others

/-- The refunds of distinct users take their amounts from the rows of these users. -/
theorem refundUsers_find {userIds : List Nat} {freed : Nat → Nat} {value : PUnit} (other : Nat)
    (once : userIds.Nodup)
    (covered : ∀ userId ∈ userIds, ∀ user, before.users.find? userId = some user →
      (freed userId : Int) ≤ user.storageUsed)
    (ran : (userIds.forM fun userId =>
      adjustUsedStorageChecked userId (-(freed userId : Int))).run before = .ok (value, after)) :
    after.users.find? other = (before.users.find? other).map fun user =>
      if other ∈ userIds then { user with storageUsed := user.storageUsed - freed other } else user := by
  induction userIds generalizing before with
  | nil =>
      obtain ⟨-, rfl⟩ := pure_ok ran
      simp
  | cons userId rest ih =>
      change (adjustUsedStorageChecked userId (-(freed userId : Int)) >>= fun _ => rest.forM fun userId =>
        adjustUsedStorageChecked userId (-(freed userId : Int))).run before = _ at ran
      obtain ⟨_, middle, one, two⟩ := bind_ok ran
      obtain ⟨absent, distinct⟩ := List.nodup_cons.mp once
      have first := adjustUsedStorageChecked_find other (covered userId List.mem_cons_self) one
      have later := ih distinct (refund_covered absent covered one) two
      rw [later, first, Option.map_map]
      apply Option.map_congr
      intro user _
      by_cases same : other = userId
      · subst same
        simp [absent]
      · simp [same]

section Deletions

variable {deletions : List (Trash × List Nat)}

/-- The contents that the deletions name are the contents that their rows keep. -/
theorem deletions_contents
    (read : ∀ deletion ∈ deletions, deletion.1.Sound ∧ trashContentIds deletion.1 = .ok deletion.2) :
    deletions.flatMap Prod.snd =
      (deletions.map Prod.fst).flatMap fun row => row.entries.map Prod.fst := by
  rw [List.flatMap_map]
  apply List.flatMap_congr
  intro deletion present
  obtain ⟨sound, same⟩ := read deletion present
  rw [sound.read] at same
  exact (Except.ok.inj same).symm

/-- A content is named as often as the deleted rows are charged for it. -/
theorem count_flatMap_entries (rows : List Trash) (contentId : Nat) :
    (((rows.flatMap fun row => row.entries.map Prod.fst).count contentId : Nat) : Int) =
      (rows.map fun row => row.charge (.refs contentId)).sum := by
  induction rows with
  | nil => simp
  | cons row rest ih =>
      rw [List.flatMap_cons, List.count_append, Nat.cast_add, ih, List.map_cons, List.sum_cons,
        Trash.charge_refs]

/-- Sound rows charge their contents and, for their whole size, their owners. -/
theorem sum_charge_sound {rows : List Trash} (sound : ∀ row ∈ rows, row.Sound) :
    (rows.map Trash.charge).sum =
      ((rows.flatMap fun row => row.entries.map Prod.fst).map
        fun contentId => post (.refs contentId) 1).sum +
        (rows.map fun row => post (.used row.userId) row.itemSize).sum := by
  induction rows with
  | nil => simp
  | cons row rest ih =>
      rw [List.map_cons, List.sum_cons, ih fun other present => sound other (List.mem_cons_of_mem row present),
        Trash.charge, sum_entryCharge, (sound row List.mem_cons_self).size, List.flatMap_cons,
        List.map_append, List.sum_append, List.map_cons, List.sum_cons, List.map_map]
      simp only [Function.comp_def]
      abel

end Deletions

theorem freedBytes_eq {deletions : List (Trash × List Nat)}
    (sound : ∀ deletion ∈ deletions, deletion.1.Sound) (userId : Nat) :
    (freedBytes deletions userId : Int) =
      ((deletions.map Prod.fst).map fun row => row.charge (.used userId)).sum := by
  unfold freedBytes
  induction deletions with
  | nil => simp
  | cons deletion rest ih =>
      have later := ih fun other present => sound other (List.mem_cons_of_mem deletion present)
      rw [List.map_cons, List.map_cons, List.sum_cons,
        Trash.charge_used (sound deletion List.mem_cons_self), ← later]
      by_cases owned : deletion.1.userId = userId
      · simp [owned]
      · simp [owned]

theorem sum_freedBytes (deletions : List (Trash × List Nat)) :
    ((deletions.map fun deletion => deletion.1.userId).dedup.map fun userId =>
        -post (.used userId) (freedBytes deletions userId)).sum =
      -((deletions.map Prod.fst).map fun row => post (.used row.userId) row.itemSize).sum := by
  have group : ∀ userId, ((deletions.filter fun deletion => deletion.1.userId = userId).map
      fun deletion => post (.used deletion.1.userId) deletion.1.itemSize).sum =
        post (.used userId) (freedBytes deletions userId) := by
    intro userId
    unfold freedBytes
    induction deletions with
    | nil => simp
    | cons deletion rest ih =>
        by_cases owned : deletion.1.userId = userId
        · simp only [List.filter_cons, owned, decide_true, if_true, List.map_cons, List.sum_cons,
            Nat.cast_add, post_add, ih]
        · simpa [owned] using ih
  have total := sum_map_group (fun deletion : Trash × List Nat => deletion.1.userId)
    (fun deletion => post (.used deletion.1.userId) deletion.1.itemSize) deletions
    (List.nodup_dedup _) (fun deletion present =>
      List.mem_dedup.mpr (List.mem_map_of_mem (f := fun deletion : Trash × List Nat =>
        deletion.1.userId) present))
  simp only [group] at total
  rw [List.map_map]
  change _ = -(deletions.map fun deletion => post (.used deletion.1.userId) deletion.1.itemSize).sum
  rw [← total, List.sum_neg, List.map_map]
  rfl

/-- Stored rows that are deleted together are covered by every counter that they charge. -/
theorem deletions_covered {deletions : List (Trash × List Nat)} (balanced : before.Exact)
    (read : ∀ deletion ∈ deletions, deletion.1.Sound ∧ trashContentIds deletion.1 = .ok deletion.2)
    {select : Trash → Bool}
    (stored : (before.trash.rows.filter select).Perm (deletions.map Prod.fst)) :
    (∀ contentId ∈ deletions.flatMap Prod.snd, ∃ row ∈ before.contents.rows, row.id = contentId ∧
      ((deletions.flatMap Prod.snd).count contentId : Int) ≤ row.refCount) ∧
    ∀ user ∈ before.users.rows, (freedBytes deletions user.id : Int) ≤ user.storageUsed := by
  constructor
  · intro contentId named
    have zero := balanced.1 contentId
    rw [Db.balance_refs] at zero
    have covered := trash_covered zero select
    rw [(stored.map _).sum_eq, ← count_flatMap_entries, ← deletions_contents read] at covered
    have positive := List.count_pos_iff.mpr named
    cases found : before.contents.find? contentId with
    | none =>
        simp only [found, Option.map_none, Option.getD_none] at covered
        omega
    | some row =>
        obtain ⟨there, keyed⟩ := Table.find?_some found
        simp only [found, Option.map_some, Option.getD_some] at covered
        exact ⟨row, there, keyed, covered⟩
  · intro user present
    have zero := balanced.2 user.id
    rw [Db.balance_used] at zero
    have covered := trash_covered zero select
    have found : before.users.find? user.id = some user := Table.find?_eq_some_iff.mpr ⟨present, rfl⟩
    rw [(stored.map _).sum_eq, ← freedBytes_eq (fun deletion there => (read deletion there).1), found]
      at covered
    exact covered

theorem releaseContents_posts {contentIds : List Nat} {value : Unit}
    (covered : ∀ contentId ∈ contentIds, ∃ row ∈ before.contents.rows, row.id = contentId ∧
      (contentIds.count contentId : Int) ≤ row.refCount)
    (ran : (releaseContents contentIds).run before = .ok (value, after)) :
    Posts extra (-(contentIds.map fun contentId => post (.refs contentId) 1).sum) before after := by
  unfold releaseContents at ran
  split at ran
  · rename_i nothing
    obtain ⟨-, rfl⟩ := pure_ok ran
    exact (Posts.refl _).cast (by simp [nothing])
  · exact decrementRefCountsAndEnqueueGc_posts covered ran

theorem releaseContents_owners {contentIds : List Nat} :
    Ensures (releaseContents contentIds) fun before _ after => SameOwners before after := by
  intro before value after ran
  unfold releaseContents at ran
  split at ran
  · obtain ⟨-, rfl⟩ := pure_ok ran
    exact SameOwners.refl _
  · exact decrementRefCountsAndEnqueueGc_owners _ _ _ ran

/-- Nothing is freed for a user who owns none of the deleted rows. -/
theorem freedBytes_eq_zero {deletions : List (Trash × List Nat)} {userId : Nat}
    (absent : userId ∉ (deletions.map fun deletion => deletion.1.userId).dedup) :
    freedBytes deletions userId = 0 := by
  have none : (deletions.filter fun deletion => deletion.1.userId = userId) = [] := by
    rw [List.filter_eq_nil_iff]
    intro deletion present owned
    exact absent (List.mem_dedup.mpr (List.mem_map.mpr ⟨deletion, present, by simpa using owned⟩))
  rw [freedBytes, none]
  rfl

/-- The statements of a permanent delete that has something to delete. -/
theorem permanentlyDeleteTrashItems_ok {items : List Trash} {requireValid : Bool}
    {result : PermanentDeleteResult}
    (ran : (permanentlyDeleteTrashItems items requireValid).run before = .ok (result, after)) :
    ∃ deletions, collectDeletions requireValid items = .ok deletions ∧
      ((deletions = [] ∧ after = before) ∨ ∃ counted deleted removed value,
        (releaseContents (deletions.flatMap Prod.snd)).run before = .ok ((), counted) ∧
        (deleteTrashByIds ((deletions.map Prod.fst).map Trash.id)).run counted = .ok (deleted, removed) ∧
        deleted = ((deletions.map Prod.fst).map Trash.id).length ∧
        ((deletions.map fun deletion => deletion.1.userId).dedup.forM fun userId =>
          adjustUsedStorageChecked userId (-(freedBytes deletions userId : Int))).run removed =
            .ok (value, after)) := by
  unfold permanentlyDeleteTrashItems at ran
  cases collected : collectDeletions requireValid items with
  | error error =>
      simp only [collected] at ran
      exact (throw_ok ran).elim
  | ok deletions =>
      refine ⟨deletions, rfl, ?_⟩
      simp only [collected] at ran
      split at ran
      · rename_i nothing
        exact .inl ⟨List.isEmpty_iff.mp nothing, (pure_ok ran).2⟩
      · obtain ⟨_, counted, counting, rest₁⟩ := bind_ok ran
        obtain ⟨deleted, removed, removing, rest₂⟩ := bind_ok rest₁
        split at rest₂
        · exact (throw_ok rest₂).elim
        · rename_i complete
          obtain ⟨value, refunding, -⟩ := bind_pure_ok rest₂
          have ids : (deletions.map fun deletion => deletion.1.id) =
              (deletions.map Prod.fst).map Trash.id := by
            rw [List.map_map]
            rfl
          rw [ids] at removing complete
          exact .inr ⟨counted, deleted, removed, value, counting, removing, not_not.mp complete, refunding⟩

/-- A permanent delete whose rows were read earlier posts nothing: what it takes from the counters
is what it takes from the rows, and neither clamp changes a value. -/
theorem permanentlyDeleteTrashItems_posts {earlier : Db} {items : List Trash} {requireValid : Bool}
    {result : PermanentDeleteResult} (sound : before.Sound) (balanced : before.Exact)
    (known : ∀ item ∈ items, item ∈ earlier.trash.rows) (later : Precedes earlier before)
    (ran : (permanentlyDeleteTrashItems items requireValid).run before = .ok (result, after)) :
    Posts extra 0 before after ∧ ∀ deletions, collectDeletions requireValid items = .ok deletions →
      ∀ user ∈ before.users.rows, (freedBytes deletions user.id : Int) ≤ user.storageUsed ∧
        after.users.find? user.id =
          some { user with storageUsed := user.storageUsed - freedBytes deletions user.id } := by
  obtain ⟨deletions, collected, (⟨rfl, rfl⟩ | ⟨counted, deleted, removed, value, counting, removing,
    complete, refunding⟩)⟩ := permanentlyDeleteTrashItems_ok ran
  · refine ⟨Posts.refl _, fun deletions same => ?_⟩
    obtain rfl := Except.ok.inj (collected.symm.trans same)
    have nobody : (after.trash.rows.filter fun _ => false).Perm ([] : List (Trash × List Nat)).unzip.1 := by
      simp
    intro user present
    refine ⟨(deletions_covered balanced (by simp) nobody).2 user present, ?_⟩
    rw [Table.find?_eq_some_iff.mpr ⟨present, rfl⟩]
    simp [freedBytes]
  · have listed := collectDeletions_ok collected
    obtain ⟨sameUsers, sameTrash⟩ := releaseContents_owners _ _ _ counting
    obtain ⟨number, kept, rows⟩ := @deleteTrashByIds_posts extra _ _ _ _ removing
    rw [sameTrash] at number rows
    have stored := deletions_perm (fun item present => by
      obtain ⟨deletion, there, rfl⟩ := List.mem_map.mp present
      exact known _ (listed deletion there).1) later (number ▸ complete)
    have read : ∀ deletion ∈ deletions,
        deletion.1.Sound ∧ trashContentIds deletion.1 = .ok deletion.2 := by
      intro deletion present
      refine ⟨sound.trash _ ?_, (listed deletion present).2⟩
      exact List.mem_of_mem_filter (stored.mem_iff.mpr (List.mem_map_of_mem present))
    obtain ⟨coveredRefs, coveredUsers⟩ := deletions_covered balanced read stored
    have contents := @releaseContents_posts extra _ _ _ _ coveredRefs counting
    have covered : ∀ userId ∈ (deletions.map fun deletion => deletion.1.userId).dedup,
        ∀ user, removed.users.find? userId = some user →
          (freedBytes deletions userId : Int) ≤ user.storageUsed := by
      intro userId _ user found
      rw [kept, sameUsers] at found
      obtain ⟨present, rfl⟩ := Table.find?_some found
      exact coveredUsers user present
    have refunds := @refundUsers_posts extra _ _ _ _ _ (List.nodup_dedup _) covered refunding
    refine ⟨((contents.trans rows).trans refunds).cast ?_, fun others same => ?_⟩
    · have sounds : ∀ row ∈ deletions.map Prod.fst, row.Sound := by
        intro row present
        obtain ⟨deletion, there, rfl⟩ := List.mem_map.mp present
        exact (read deletion there).1
      rw [(stored.map _).sum_eq, sum_charge_sound sounds, sum_freedBytes,
        deletions_contents read]
      abel
    · obtain rfl := Except.ok.inj (collected.symm.trans same)
      intro user present
      refine ⟨coveredUsers user present, ?_⟩
      rw [refundUsers_find user.id (List.nodup_dedup _) covered refunding, kept, sameUsers,
        Table.find?_eq_some_iff.mpr ⟨present, rfl⟩, Option.map_some]
      split
      · rfl
      · rename_i absent
        simp [freedBytes_eq_zero absent]

end DiskServer.Drive
