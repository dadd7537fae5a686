import DiskServer.Construction.Shares.ShareOwner

namespace DiskServer.Shares

open Library Upload Utils

section Decoding

variable {toDouble : ℚ → ℚ} {json : Written}

theorem asInt_range {item : Numeric} {days : Int} (read : item.asInt = some days) :
    intMin ≤ days ∧ days ≤ intMax := by
  cases item with
  | int value =>
      obtain ⟨range, same⟩ := Option.ite_none_right_eq_some.mp read
      obtain rfl := Option.some.inj same
      exact range
  | uint value =>
      obtain ⟨range, same⟩ := Option.ite_none_right_eq_some.mp read
      obtain rfl := Option.some.inj same
      exact ⟨(Int.negSucc_lt_zero _).le.trans (Int.natCast_nonneg value), range⟩
  | real value =>
      obtain ⟨⟨least, most⟩, same⟩ := Option.ite_none_right_eq_some.mp read
      obtain rfl := Option.some.inj same
      split
      · refine ⟨Int.le_floor.mpr least, ?_⟩
        exact Int.cast_le.mp ((Int.floor_le value).trans most)
      · refine ⟨?_, Int.ceil_le.mpr most⟩
        exact Int.cast_le.mp (least.trans (Int.le_ceil value))
  | other =>
      obtain rfl := Option.some.inj read
      decide

/-- A lifetime that a request brings is not negative. -/
theorem nonneg_of_decodeExpireDays {days : Int32} (decoded : decodeExpireDays toDouble json = .value (some days)) :
    0 ≤ days := by
  unfold decodeExpireDays at decoded
  split at decoded
  · cases decoded
  · cases decoded
  · simp only at decoded
    split at decoded
    · cases decoded
    · split at decoded
      · cases decoded
      · rename_i number read
        split at decoded
        · cases decoded
        · rename_i natural
          injection decoded with same
          obtain rfl := Option.some.inj same
          have range := asInt_range read
          have kept : (Int32.ofInt number).toInt = number :=
            Int32.toInt_ofInt_of_le range.1 (Int.lt_add_one_of_le range.2)
          rw [Int32.le_iff_toInt_le, kept]
          exact Int.not_lt.mp natural

end Decoding

section Lifetime

/-- The end of a lifetime of whole days; no days are no end. -/
def lifetimeEnd (now : Timestamp) (days : Int32) : Option Timestamp :=
  if 0 < days then some (now + days.toInt * 86400 * second) else none

/-- A share that never ends is not before any other. -/
def endsBefore (first second : Option Timestamp) : Prop :=
  ∃ early ∈ first, ∀ late ∈ second, early < late

/-- The share ends when its lifetime does and is active until then. -/
structure LivesFor (now : Timestamp) (days : Int32) (share : OwnedShare) : Prop where
  expires : share.expiresAt = lifetimeEnd now days
  active : ∀ time, (∀ last ∈ lifetimeEnd now days, time < last) → isShareActive time share.toShare = true

/-- A share is created with the lifetime, or nothing changes. -/
def CreateKeeps (now : Timestamp) (days : Int32) (shares : ShareTable) :
    Except ErrorInfo OwnedShare × ShareTable → Prop
  | (.ok share, after) => after.rows = shares.rows ++ [share] ∧ LivesFor now days share
  | (.error _, after) => after = shares

/-- The share gets the lifetime and the others stay, or nothing changes. -/
def UpdateKeeps (now : Timestamp) (days : Int32) (shares : ShareTable) :
    Except ErrorInfo OwnedShare × ShareTable → Prop
  | (.ok share, after) =>
      share ∈ after.rows ∧ LivesFor now days share ∧
        ∀ row, row.id ≠ share.id → (row ∈ after.rows ↔ row ∈ shares.rows)
  | (.error _, after) => after = shares

/-- What the owner of a share of so many days is promised. -/
structure LifetimeKept (days : Int32) : Prop where
  created : ∀ now userId shares request outcome, request.expireDays = days →
    CreateKeeps now days shares (createShare now userId shares request outcome)
  updated : ∀ now userId shares request hashPassword saved, request.expireDays = some days →
    UpdateKeeps now days shares (updateShare now userId shares request hashPassword saved)
  ordered : ∀ now userId shares request outcome otherId others other result, request.expireDays = days →
    0 < other.expireDays → other.expireDays ≤ days → ∀ long short tables rest,
      createShare now userId shares request outcome = (.ok long, tables) →
      createShare now otherId others other result = (.ok short, rest) →
      ¬endsBefore long.expiresAt short.expiresAt

variable {now : Timestamp} {days : Int32}

/-- The product stays in its type up to this number of days. -/
theorem expireSeconds_toInt_iff (natural : 0 ≤ days) :
    (expireSeconds days).toInt = days.toInt * 86400 ↔ days ≤ 24855 := by
  have least : 0 ≤ days.toInt := Int32.le_iff_toInt_le.mp natural
  have size : (expireSeconds days).toInt < 2 ^ 31 := (expireSeconds days).toInt_lt
  have below : days ≤ 24855 ↔ days.toInt ≤ 24855 := Int32.le_iff_toInt_le
  rw [below]
  constructor
  · intro same
    rw [same] at size
    omega
  · intro small
    unfold expireSeconds
    rw [Int32.toInt_mul]
    exact Int.bmod_eq_of_le (by change -(4294967296 / 2) ≤ days.toInt * 86400; omega)
      (by change days.toInt * 86400 < (4294967296 + 1) / 2; omega)

/-- The end that is stored is the end of the lifetime. -/
theorem stored_end_iff (natural : 0 ≤ days) :
    (if 0 < days then some (after now (expireSeconds days)) else none) = lifetimeEnd now days ↔
      days ≤ 24855 := by
  unfold lifetimeEnd
  split
  · rw [Option.some_inj, ← expireSeconds_toInt_iff natural]
    unfold after
    constructor
    · intro same
      exact Int.eq_of_mul_eq_mul_right (by decide) (Int.add_left_cancel same)
    · intro same
      rw [same]
  · rename_i none
    have zero : days ≤ 0 := Int32.not_lt.mp none
    exact iff_of_true rfl (Int32.le_trans zero (by decide))

end Lifetime

section Operations

variable {now : Timestamp} {userId : Nat} {shares : ShareTable} {days : Int32}

/-- A share is created with a hash and a code of its own, or the tables stay. -/
theorem createShare_cases (request : CreateShareRequest) (outcome : CreateOutcome) :
    (∃ error, createShare now userId shares request outcome = (.error error, shares)) ∨
      ∃ passwordHash shareCode,
        createShare now userId shares request outcome =
          (.ok (newShare now userId request passwordHash shareCode shares.next),
            shares.insert (newShare now userId request passwordHash shareCode) fun _ => rfl) := by
  unfold createShare
  split
  · exact .inl ⟨_, rfl⟩
  · simp only
    split
    · exact .inl ⟨_, rfl⟩
    · split
      · exact .inl ⟨_, rfl⟩
      · split
        · exact .inr ⟨_, _, rfl⟩
        · exact .inl ⟨_, rfl⟩

/-- An active share of the user is changed, or the tables stay. -/
theorem updateShare_cases (request : UpdateShareRequest) (hashPassword : String → Option String)
    (saved : Bool) :
    (∃ error, updateShare now userId shares request hashPassword saved = (.error error, shares)) ∨
      ∃ share passwordHash, share ∈ shares.rows ∧ isShareActive now share.toShare = true ∧
        updateShare now userId shares request hashPassword saved =
          (.ok (changedShare now request passwordHash share),
            shares.update (fun row => row.id = share.id) (changedShare now request passwordHash)
              fun _ => rfl) := by
  unfold updateShare
  split
  · exact .inl ⟨_, rfl⟩
  · rename_i share found
    have listed : share ∈ shares.rows := by
      unfold validateShareOwnership at found
      split at found
      · cases found
      · rename_i row selected
        split at found
        · cases found
        · injection found with same
          exact same ▸ List.mem_of_find?_eq_some selected
    split
    · exact .inl ⟨_, rfl⟩
    · rename_i active
      simp only [Bool.not_eq_true, Bool.not_eq_false'] at active
      simp only
      split
      · exact .inl ⟨_, rfl⟩
      · split
        · exact .inr ⟨share, _, listed, active, rfl⟩
        · exact .inl ⟨_, rfl⟩

theorem isShareActive_iff {time : Timestamp} {share : Share} :
    isShareActive time share = true ↔
      share.status = ShareStatus.active.toInt ∧ ∀ last ∈ share.expiresAt, time ≤ last := by
  unfold isShareActive isShareExpired
  by_cases status : share.status = ShareStatus.active.toInt
  · cases share.expiresAt <;> simp [status]
  · simp [status]

/-- An active share that ends when its lifetime does lives until then. -/
theorem livesFor_of_expires {share : OwnedShare} (status : share.status = ShareStatus.active.toInt)
    (expires : share.expiresAt = lifetimeEnd now days) : LivesFor now days share := by
  refine ⟨expires, ?_⟩
  intro time early
  apply isShareActive_iff.mpr
  refine ⟨status, ?_⟩
  rw [expires]
  exact fun last same => (early last same).le

/-- A short lifetime is kept by a creation. -/
theorem create_keeps (natural : 0 ≤ days) (small : days ≤ 24855) (request : CreateShareRequest)
    (outcome : CreateOutcome) (asked : request.expireDays = days) :
    CreateKeeps now days shares (createShare now userId shares request outcome) := by
  rcases createShare_cases request outcome with ⟨error, same⟩ | ⟨passwordHash, shareCode, same⟩
  · rw [same]
    rfl
  · rw [same]
    refine ⟨rfl, livesFor_of_expires rfl ?_⟩
    have stored : (if 0 < days then some (after now (expireSeconds days)) else none) = lifetimeEnd now days :=
      (stored_end_iff natural).mpr small
    rw [← asked] at stored ⊢
    exact stored

/-- A short lifetime is kept by an update. -/
theorem update_keeps (natural : 0 ≤ days) (small : days ≤ 24855) (request : UpdateShareRequest)
    (hashPassword : String → Option String) (saved : Bool) (asked : request.expireDays = some days) :
    UpdateKeeps now days shares (updateShare now userId shares request hashPassword saved) := by
  rcases updateShare_cases request hashPassword saved with
    ⟨error, same⟩ | ⟨share, passwordHash, listed, active, same⟩
  · rw [same]
    rfl
  · rw [same]
    have expires : (changedShare now request passwordHash share).expiresAt = lifetimeEnd now days := by
      rw [← (stored_end_iff natural).mpr small]
      simp only [changedShare, asked]
    refine ⟨?_, livesFor_of_expires (isShareActive_iff.mp active).1 expires, ?_⟩
    · exact List.mem_map.mpr ⟨share, listed, if_pos (decide_eq_true rfl)⟩
    · intro row other
      constructor
      · intro present
        obtain ⟨old, there, rfl⟩ := List.mem_map.mp present
        split at other
        · rename_i chosen
          exact absurd (of_decide_eq_true chosen) other
        · rename_i kept
          rw [if_neg kept]
          exact there
      · intro present
        exact List.mem_map.mpr ⟨row, present, if_neg fun chosen => other (of_decide_eq_true chosen)⟩

/-- A longer lifetime does not end first. -/
theorem not_endsBefore {fewer : Int32} (positive : 0 < fewer) (less : fewer ≤ days) :
    ¬endsBefore (lifetimeEnd now days) (lifetimeEnd now fewer) := by
  rintro ⟨early, first, before⟩
  have long : 0 < days := Int32.lt_of_lt_of_le positive less
  have below : fewer.toInt ≤ days.toInt := Int32.le_iff_toInt_le.mp less
  unfold lifetimeEnd at first before
  rw [if_pos long] at first
  obtain rfl := Option.some.inj first
  have longer : fewer.toInt * 86400 * second ≤ days.toInt * 86400 * second :=
    Int.mul_le_mul_of_nonneg_right (Int.mul_le_mul_of_nonneg_right below (by decide)) (by decide)
  exact Int.not_lt.mpr (Int.add_le_add_left longer now) (before _ (if_pos positive))

/-- The lifetimes of up to 24855 days are the ones that are kept. -/
theorem lifetime_kept_iff (days : Int32) (natural : 0 ≤ days) : LifetimeKept days ↔ days ≤ 24855 := by
  constructor
  · intro kept
    have created := kept.created 0 0 Serial.empty ⟨[1], [], days, none, .download⟩
      ⟨.ok (), fun _ => none, ["c"], true⟩ rfl
    exact (stored_end_iff natural).mp created.2.expires
  · intro small
    refine ⟨?_, ?_, ?_⟩
    · intro now userId shares request outcome asked
      exact create_keeps natural small request outcome asked
    · intro now userId shares request hashPassword saved asked
      exact update_keeps natural small request hashPassword saved asked
    · intro now userId shares request outcome otherId others other result asked positive less long short
        tables rest one two
      have first : CreateKeeps now days shares (createShare now userId shares request outcome) :=
        create_keeps natural small request outcome asked
      have second : CreateKeeps now other.expireDays others (createShare now otherId others other result) :=
        create_keeps (Int32.le_of_lt positive) (Int32.le_trans less small) other result rfl
      rw [one] at first
      rw [two] at second
      rw [first.2.expires, second.2.expires]
      exact not_endsBefore positive less

/-- A share of a week lives for its days. -/
theorem lifetime_kept_week : LifetimeKept 7 := (lifetime_kept_iff 7 (by decide)).mpr (by decide)

/-- A share of a hundred years has ended before it was created. -/
theorem lifetime_not_kept : ¬LifetimeKept 36500 := by
  intro kept
  have created := kept.created 0 0 Serial.empty ⟨[1], [], 36500, none, .download⟩
    ⟨.ok (), fun _ => none, ["c"], true⟩ rfl
  exact absurd created.2.expires (by decide)

end Operations

end DiskServer.Shares
