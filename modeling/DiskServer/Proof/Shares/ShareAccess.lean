import DiskServer.Construction.Shares.ShareAccess
import DiskServer.Proof.Redis.RedisService
import Mathlib.Data.List.Induction
import Mathlib.Data.List.TakeWhile

namespace DiskServer.Shares

open Library Upload Redis

section Statement

variable (verify : String → String → Bool)

/-- The request is answered with a counted failure. -/
def AccessStep.counts (shares : List Share) (step : AccessStep) : Bool :=
  step.found &&
    match shares.find? fun share => share.shareCode = step.request.shareId with
    | none => true
    | some share =>
        isShareActive step.now share && refusesPassword verify share step.request.password

/-- A window is opened by a failure and counts the failures until its time has passed. -/
structure Window where
  opened : Nat
  failures : Nat

/-- The window of a client after one more failure. -/
def Window.add (window : Option Window) (clock : Nat) : Window :=
  match window.filter fun current => clock ≤ current.opened + shareAccessFailureWindowSeconds with
  | some current => ⟨current.opened, current.failures + 1⟩
  | none => ⟨clock, 1⟩

/-- The last window of a client for a code. -/
def windowOf (shares : List Share) (shareId : String) (client : ClientAddress) (steps : List AccessStep) :
    Option Window :=
  (steps.filter fun step =>
    step.counts verify shares && step.request.shareId = shareId && step.client = client).foldl
      (fun window step => some (Window.add window step.clock)) none

def validationFailure : ErrorInfo := ⟨.sharePasswordError, "Share access validation failed"⟩

def rateLimitFailure : ErrorInfo :=
  ⟨.tooManyRequests, "Too many password verification attempts, please try again later"⟩

/-- The first five failures of a client for a code in a window are failed validations, and then it is limited. -/
def Limited (state : AccessState) (steps : List AccessStep) : Prop :=
  ∀ past step rest, steps = past ++ step :: rest → step.counts verify state.shares = true →
    (accessShare verify (accessShares verify state past).2 step).1 =
      .error (if (Window.add (windowOf verify state.shares step.request.shareId step.client past)
        step.clock).failures ≤ 5 then validationFailure else rateLimitFailure)

/-- The states differ only in a protected share that is active at the given times. -/
structure DiffersIn (code hash : String) (times : List Timestamp) (one two : AccessState) : Prop where
  others : two.shares = one.shares.filter fun share => share.shareCode ≠ code
  counters : two.redis = one.redis
  present : ∃ share ∈ one.shares, share.shareCode = code
  locked : ∀ share ∈ one.shares, share.shareCode = code → share.passwordHash = some hash
  active : ∀ share ∈ one.shares, share.shareCode = code → ∀ time ∈ times, isShareActive time share = true

/-- Requests that share a counter have one code and one client. -/
def Apart (steps : List AccessStep) : Prop :=
  ∀ first ∈ steps, ∀ second ∈ steps, first.counterKey = second.counterKey →
    first.request.shareId = second.request.shareId ∧ first.client = second.client

/-- Every client gets the same answers in both states, and only its own failures limit it. -/
structure FailuresHidden (one two : AccessState) (steps : List AccessStep) : Prop where
  same : (accessShares verify one steps).1 = (accessShares verify two steps).1
  limited : Limited verify one steps ∧ Limited verify two steps
  apart : Apart steps

/-- The counters answer, they do not overflow, and no code is cut in a command. -/
structure Counted (steps : List AccessStep) : Prop where
  answered : ∀ step ∈ steps, step.fate = .done
  few : steps.length ≤ 9223372036854775807
  plain : ∀ step ∈ steps, Char.ofNat 0 ∉ step.request.shareId.toList

/-- The second code goes on where the first one ends, into the address of the first client. -/
def Overlap (first second : AccessStep) : Prop :=
  ∃ middle, second.request.shareId.toList = first.request.shareId.toList ++ ':' :: middle ∧
    first.client.text.toList = middle ++ ':' :: second.client.text.toList

end Statement

section Keys

theorem extractIPOnly_client (client : ClientAddress) : extractIPOnly client.text = client.text := by
  have unbracketed : ¬(client.text.toList.head? = some '[' ∧ ']' ∈ client.text.toList) := by
    intro ⟨first, _⟩
    exact absurd (client.characters _ (List.mem_of_head? first)) (by decide)
  unfold extractIPOnly
  simp only [if_neg unbracketed]
  split
  · rfl
  · rename_i fewer
    have none : client.text.toList.count ':' = 0 := by
      have portless := client.portless
      omega
    have absent := List.count_eq_zero.mp none
    have whole : client.text.toList.takeWhile (· ≠ ':') = client.text.toList := by
      apply List.takeWhile_eq_self_iff.mpr
      intro character inside
      exact decide_eq_true fun same => absent (same ▸ inside)
    rw [whole, String.ofList_toList]

theorem commandText_of_plain {text : String} (plain : Char.ofNat 0 ∉ text.toList) : commandText text = text := by
  have whole : text.toList.takeWhile (· ≠ Char.ofNat 0) = text.toList := by
    apply List.takeWhile_eq_self_iff.mpr
    intro character inside
    exact decide_eq_true fun same => plain (same ▸ inside)
  unfold commandText
  rw [whole, String.ofList_toList]

variable {first second : AccessStep}

theorem counterKey_eq (plain : Char.ofNat 0 ∉ first.request.shareId.toList) :
    first.counterKey.toList =
      "rate:share_password:".toList ++ (first.request.shareId.toList ++ ':' :: first.client.text.toList) := by
  have address : Char.ofNat 0 ∉ first.client.text.toList := by
    intro inside
    exact absurd (first.client.characters _ inside) (by decide)
  have text : (buildSharePasswordRateLimitKey first.request.shareId first.client.text).toList =
      "rate:share_password:".toList ++ (first.request.shareId.toList ++ ':' :: first.client.text.toList) := by
    unfold buildSharePasswordRateLimitKey
    rw [extractIPOnly_client]
    simp only [String.toList_append, List.append_assoc]
    rfl
  unfold AccessStep.counterKey
  rw [commandText_of_plain, text]
  rw [text]
  simp only [List.mem_append, List.mem_cons, not_or]
  exact ⟨by decide, plain, by decide, address⟩

/-- Two requests use one counter when they are alike or when their codes and addresses overlap. -/
theorem counterKey_eq_iff (plain : Char.ofNat 0 ∉ first.request.shareId.toList)
    (clean : Char.ofNat 0 ∉ second.request.shareId.toList) :
    first.counterKey = second.counterKey ↔
      (first.request.shareId = second.request.shareId ∧ first.client = second.client) ∨
        Overlap first second ∨ Overlap second first := by
  have same : first.client = second.client ↔ first.client.text.toList = second.client.text.toList := by
    rw [String.toList_inj, ClientAddress.mk.injEq]
  rw [← String.toList_inj, counterKey_eq plain, counterKey_eq clean, List.append_cancel_left_eq,
    append_separator_iff, ← String.toList_inj, same]
  rfl

theorem not_overlap_of_same (same : first.request.shareId = second.request.shareId) : ¬Overlap first second := by
  rintro ⟨middle, longer, -⟩
  have lengths := congrArg List.length longer
  rw [same, List.length_append, List.length_cons] at lengths
  omega

end Keys

section Hiding

variable {verify : String → String → Bool} {code hash : String} {times : List Timestamp}
variable {one two : AccessState} {step : AccessStep}

theorem incrementViewCount_filter (shares : List Share) (shareId : Nat) :
    (incrementViewCount shares shareId).filter (fun share => share.shareCode ≠ code) =
      incrementViewCount (shares.filter fun share => share.shareCode ≠ code) shareId := by
  unfold incrementViewCount
  rw [List.filter_map]
  congr 1
  apply List.filter_congr
  intro share _
  rw [Function.comp_apply]
  split <;> rfl

/-- Counting a view leaves the code, the lock and the life of every share. -/
theorem mem_incrementViewCount {shares : List Share} {shareId : Nat} {share : Share}
    (present : share ∈ incrementViewCount shares shareId) :
    ∃ old ∈ shares, share.shareCode = old.shareCode ∧ share.passwordHash = old.passwordHash ∧
      ∀ time, isShareActive time share = isShareActive time old := by
  obtain ⟨old, stored, rfl⟩ := List.mem_map.mp present
  refine ⟨old, stored, ?_⟩
  split <;> exact ⟨rfl, rfl, fun _ => rfl⟩

/-- The states still differ in one share after a view of another one. -/
theorem DiffersIn.view (differ : DiffersIn code hash times one two) (shareId : Nat) :
    DiffersIn code hash times { one with shares := incrementViewCount one.shares shareId }
      { two with shares := incrementViewCount two.shares shareId } where
  others := by
    change incrementViewCount two.shares shareId = _
    rw [differ.others, ← incrementViewCount_filter]
  counters := differ.counters
  present := by
    obtain ⟨share, stored, same⟩ := differ.present
    refine ⟨_, List.mem_map_of_mem stored, ?_⟩
    split <;> exact same
  locked := by
    intro share present same
    obtain ⟨old, stored, codes, hashes, -⟩ := mem_incrementViewCount present
    rw [hashes]
    exact differ.locked old stored (codes ▸ same)
  active := by
    intro share present same time listed
    obtain ⟨old, stored, codes, -, lives⟩ := mem_incrementViewCount present
    rw [lives]
    exact differ.active old stored (codes ▸ same) time listed

theorem DiffersIn.count (differ : DiffersIn code hash times one two) (redis : Store) :
    DiffersIn code hash times { one with redis := redis } { two with redis := redis } where
  others := differ.others
  counters := rfl
  present := differ.present
  locked := differ.locked
  active := differ.active

theorem find_other (differ : DiffersIn code hash times one two) (other : step.request.shareId ≠ code) :
    (two.shares.find? fun share => share.shareCode = step.request.shareId) =
      one.shares.find? fun share => share.shareCode = step.request.shareId := by
  rw [differ.others, List.find?_filter]
  congr 1
  funext share
  by_cases same : share.shareCode = step.request.shareId
  · simp [same, other]
  · simp [same]

theorem find_hidden (differ : DiffersIn code hash times one two) :
    (two.shares.find? fun share => share.shareCode = code) = none := by
  rw [differ.others, List.find?_eq_none]
  intro share listed
  have other := (List.mem_filter.mp listed).2
  simpa using other

theorem find_present (differ : DiffersIn code hash times one two) :
    ∃ share, (one.shares.find? fun share => share.shareCode = code) = some share ∧
      share.passwordHash = some hash ∧ ∀ time ∈ times, isShareActive time share = true := by
  obtain ⟨stored, listed, same⟩ := differ.present
  have found : (one.shares.find? fun share => share.shareCode = code).isSome :=
    List.find?_isSome.mpr ⟨stored, listed, decide_eq_true same⟩
  obtain ⟨share, selected⟩ := Option.isSome_iff_exists.mp found
  have selects := List.find?_some selected
  have chosen : share.shareCode = code := of_decide_eq_true selects
  have stored := List.mem_of_find?_eq_some selected
  exact ⟨share, selected, differ.locked share stored chosen, differ.active share stored chosen⟩

theorem refusesPassword_of_wrong {share : Share} {password : Option String}
    (locked : share.passwordHash = some hash) (wrong : ∀ text ∈ password, verify text hash = false) :
    refusesPassword verify share password = true := by
  unfold refusesPassword verifyPassword
  rw [locked]
  cases password with
  | none => rfl
  | some text => simp [wrong text rfl]

theorem isShareActive_open {share : Share} (active : isShareActive step.now share = true) :
    share.status = ShareStatus.active.toInt ∧ ¬(share.expiresAt.isSome ∧ isShareExpired step.now share) := by
  unfold isShareActive at active
  split at active
  · cases active
  · rename_i status
    split at active
    · cases active
    · rename_i lives
      exact ⟨not_not.mp status, lives⟩

theorem isShareActive_of_open {share : Share} (status : share.status = ShareStatus.active.toInt)
    (lives : ¬(share.expiresAt.isSome ∧ isShareExpired step.now share)) :
    isShareActive step.now share = true := by
  unfold isShareActive
  rw [if_neg (not_not.mpr status), if_neg lives]

theorem accessShare_of_active {share : Share} {state : AccessState}
    (found : (state.shares.find? fun share => share.shareCode = step.request.shareId) = some share)
    (active : isShareActive step.now share = true)
    (refused : refusesPassword verify share step.request.password = true) (read : step.found = true) :
    accessShare verify state step = failAccess state step := by
  obtain ⟨status, lives⟩ := isShareActive_open active
  unfold accessShare
  rw [read, found]
  simp only [Bool.not_true, Bool.false_eq_true, if_false, refused, if_true]
  rw [if_neg (not_not.mpr status), if_neg lives]

/-- One request is answered alike in both states, which differ as before after it. -/
theorem accessShare_same (differ : DiffersIn code hash times one two) (listed : step.now ∈ times)
    (wrong : ∀ text ∈ step.request.password, verify text hash = false) :
    (accessShare verify one step).1 = (accessShare verify two step).1 ∧
      DiffersIn code hash times (accessShare verify one step).2 (accessShare verify two step).2 := by
  have failed : (failAccess one step).1 = (failAccess two step).1 ∧
      DiffersIn code hash times (failAccess one step).2 (failAccess two step).2 := by
    unfold failAccess
    rw [differ.counters]
    exact ⟨rfl, differ.count _⟩
  by_cases read : step.found = true
  · by_cases same : step.request.shareId = code
    · obtain ⟨share, found, locked, active⟩ := find_present differ
      have hidden : accessShare verify two step = failAccess two step := by
        unfold accessShare
        rw [read, same, find_hidden differ]
        rfl
      rw [hidden, accessShare_of_active (same ▸ found) (active _ listed)
        (refusesPassword_of_wrong locked wrong) read]
      exact failed
    · unfold accessShare
      rw [read, find_other differ same]
      simp only [Bool.not_true, Bool.false_eq_true, if_false]
      split
      · exact failed
      · split
        · exact ⟨rfl, differ⟩
        · split
          · exact ⟨rfl, differ⟩
          · split
            · exact failed
            · split
              · exact ⟨rfl, differ⟩
              · cases step.viewed with
                | false => exact ⟨rfl, differ⟩
                | true => exact ⟨rfl, differ.view _⟩
  · unfold accessShare
    rw [Bool.not_eq_true] at read
    rw [read]
    exact ⟨rfl, differ⟩

/-- Requests without the password are answered alike in both states, also when the counters fail. -/
theorem accessShares_same {steps : List AccessStep} (differ : DiffersIn code hash times one two)
    (listed : ∀ step ∈ steps, step.now ∈ times)
    (wrong : ∀ step ∈ steps, ∀ text ∈ step.request.password, verify text hash = false) :
    (accessShares verify one steps).1 = (accessShares verify two steps).1 := by
  induction steps generalizing one two with
  | nil => rfl
  | cons step steps ih =>
      obtain ⟨answer, after⟩ := accessShare_same differ (listed step List.mem_cons_self)
        (wrong step List.mem_cons_self)
      have rest := ih after (fun later there => listed later (List.mem_cons_of_mem _ there))
        (fun later there => wrong later (List.mem_cons_of_mem _ there))
      exact congrArg₂ List.cons answer rest

end Hiding

section Counting

variable {verify : String → String → Bool} {state : AccessState} {step : AccessStep}

theorem accessShare_of_counts (counts : step.counts verify state.shares = true) :
    accessShare verify state step = failAccess state step := by
  obtain ⟨read, failing⟩ := Bool.and_eq_true_iff.mp counts
  split at failing
  · rename_i missing
    unfold accessShare
    rw [read, missing]
    rfl
  · rename_i share found
    obtain ⟨active, refused⟩ := Bool.and_eq_true_iff.mp failing
    exact accessShare_of_active found active refused read

/-- A request that is not counted leaves the counters. -/
theorem accessShare_redis (kept : step.counts verify state.shares = false) :
    (accessShare verify state step).2.redis = state.redis := by
  unfold AccessStep.counts at kept
  unfold accessShare
  split
  · rfl
  · rename_i read
    simp only [Bool.not_eq_true, Bool.not_eq_false'] at read
    rw [read, Bool.true_and] at kept
    split
    · rename_i missing
      rw [missing] at kept
      cases kept
    · rename_i share found
      rw [found] at kept
      simp only at kept
      split
      · rfl
      · rename_i status
        split
        · rfl
        · rename_i lives
          rw [isShareActive_of_open (not_not.mp status) lives, Bool.true_and] at kept
          rw [kept]
          simp only [Bool.false_eq_true, if_false]
          split <;> rfl

theorem accessShare_shares : (accessShare verify state step).2.shares = state.shares ∨
    ∃ shareId, (accessShare verify state step).2.shares = incrementViewCount state.shares shareId := by
  unfold accessShare
  split
  · exact .inl rfl
  · split
    · exact .inl rfl
    · rename_i share _
      split
      · exact .inl rfl
      · split
        · exact .inl rfl
        · split
          · exact .inl rfl
          · split
            · exact .inl rfl
            · simp only
              split
              · exact .inr ⟨share.id, rfl⟩
              · exact .inl rfl

theorem counts_incrementViewCount (shares : List Share) (shareId : Nat) :
    step.counts verify (incrementViewCount shares shareId) = step.counts verify shares := by
  have codes : ((fun share : Share => decide (share.shareCode = step.request.shareId)) ∘ fun share =>
      if share.id = shareId then { share with viewCount := share.viewCount + 1 } else share) =
        fun share => decide (share.shareCode = step.request.shareId) := by
    funext share
    rw [Function.comp_apply]
    split <;> rfl
  unfold AccessStep.counts incrementViewCount
  rw [List.find?_map, codes]
  cases shares.find? fun share => share.shareCode = step.request.shareId with
  | none => rfl
  | some share =>
      simp only [Option.map_some]
      split <;> rfl

/-- Requests do not change which later ones are counted. -/
theorem counts_after (steps : List AccessStep) :
    step.counts verify (accessShares verify state steps).2.shares = step.counts verify state.shares := by
  induction steps generalizing state with
  | nil => rfl
  | cons first steps ih =>
      change step.counts verify (accessShares verify (accessShare verify state first).2 steps).2.shares = _
      rw [ih]
      have moved : (accessShare verify state first).2.shares = state.shares ∨
          ∃ shareId, (accessShare verify state first).2.shares = incrementViewCount state.shares shareId :=
        accessShare_shares
      rcases moved with same | ⟨shareId, viewed⟩
      · rw [same]
      · rw [viewed, counts_incrementViewCount]

theorem accessShares_append_singleton (past : List AccessStep) (last : AccessStep) :
    (accessShares verify state (past ++ [last])).2 =
      (accessShare verify (accessShares verify state past).2 last).2 := by
  induction past generalizing state with
  | nil => rfl
  | cons first past ih => exact ih

end Counting

section Windows

variable {verify : String → String → Bool} {state : AccessState} {shares : List Share} {shareId : String}
variable {client : ClientAddress}

theorem windowOf_append_singleton (past : List AccessStep) (last : AccessStep) :
    windowOf verify shares shareId client (past ++ [last]) =
      if last.counts verify shares = true ∧ last.request.shareId = shareId ∧ last.client = client then
        some (Window.add (windowOf verify shares shareId client past) last.clock)
      else windowOf verify shares shareId client past := by
  unfold windowOf
  rw [List.filter_append, List.foldl_append]
  split
  · rename_i selected
    obtain ⟨counts, rfl, rfl⟩ := selected
    simp [counts]
  · rename_i other
    have dropped : [last].filter (fun step =>
        step.counts verify shares && step.request.shareId = shareId && step.client = client) = [] := by
      rw [List.filter_eq_nil_iff]
      intro step listed selected
      obtain rfl := List.mem_singleton.mp listed
      simp only [Bool.and_eq_true, decide_eq_true_eq] at selected
      exact other ⟨selected.1.1, selected.1.2, selected.2⟩
    rw [dropped, List.foldl_nil]

theorem windowOf_failures (past : List AccessStep) {window : Window}
    (current : windowOf verify shares shareId client past = some window) :
    1 ≤ window.failures ∧ window.failures ≤ past.length := by
  induction past using List.reverseRecOn generalizing window with
  | nil => cases current
  | append_singleton past last ih =>
      rw [windowOf_append_singleton] at current
      rw [List.length_append, List.length_singleton]
      split at current
      · obtain rfl := Option.some.inj current
        unfold Window.add
        split
        · rename_i old kept
          have before := ih (Option.filter_eq_some_iff.mp kept).1
          exact ⟨by simp, Nat.add_le_add_right before.2 1⟩
        · exact ⟨Nat.le_refl 1, Nat.le_add_left 1 past.length⟩
      · have before := ih current
        exact ⟨before.1, Nat.le_succ_of_le before.2⟩

/-- What the counter of a window holds. -/
def windowEntry (window : Window) : RedisEntry :=
  ⟨toString (window.failures : Int), some (window.opened + shareAccessFailureWindowSeconds)⟩

/-- A counter that holds a window counts the next failure in it, or opens a new one. -/
theorem countFailure_of_window {redis : Store} {step : AccessStep} {window : Option Window}
    (answered : step.fate = .done) (held : redis step.counterKey = window.map windowEntry)
    (range : ∀ current ∈ window, 1 ≤ current.failures ∧ current.failures < 9223372036854775807) :
    (countFailure redis step).1 = some (Window.add window step.clock).failures ∧
      (countFailure redis step).2 step.counterKey = some (windowEntry (Window.add window step.clock)) := by
  have alive : redis.lookup step.clock step.counterKey =
      (window.filter fun current => step.clock ≤ current.opened + shareAccessFailureWindowSeconds).map
        windowEntry := by
    unfold Store.lookup
    rw [held, Option.filter_map]
    rfl
  unfold countFailure
  rw [answered]
  simp only [RedisCommand.execute, RedisCommand.effect]
  unfold Store.increment Window.add
  rw [alive]
  cases kept : window.filter fun current => step.clock ≤ current.opened + shareAccessFailureWindowSeconds with
  | none =>
      simp only [Option.map_none, if_true, write_same]
      exact ⟨rfl, rfl⟩
  | some current =>
      obtain ⟨least, most⟩ := range current (Option.filter_eq_some_iff.mp kept).1
      have read : readInteger (windowEntry current).value = some (current.failures : Int) :=
        readInteger_natural most.le
      have next : ¬(current.failures : Int) + 1 = 1 := by omega
      have below : (current.failures : Int) < 9223372036854775807 := by omega
      simp only [Option.map_some, read, if_pos below, if_neg next, write_same]
      refine ⟨?_, rfl⟩
      rw [Option.some_inj]
      omega

end Windows

section Runs

variable {verify : String → String → Bool} {state : AccessState} {steps : List AccessStep}

/-- Each counter holds the window of the client and the code that it belongs to. -/
theorem counters_hold (counted : Counted steps) (apart : Apart steps)
    (fresh : ∀ step ∈ steps, state.redis step.counterKey = none) (past : List AccessStep)
    (started : past <+: steps) : ∀ step ∈ steps, (accessShares verify state past).2.redis step.counterKey =
      (windowOf verify state.shares step.request.shareId step.client past).map windowEntry := by
  induction past using List.reverseRecOn with
  | nil => exact fresh
  | append_singleton past last ih =>
      have earlier := ih ((List.prefix_append past [last]).trans started)
      have listed : last ∈ steps := started.subset (List.mem_append_right _ (List.mem_singleton_self last))
      have longer := started.length_le
      rw [List.length_append, List.length_singleton] at longer
      have range : ∀ current ∈ windowOf verify state.shares last.request.shareId last.client past,
          1 ≤ current.failures ∧ current.failures < 9223372036854775807 := by
        intro current open'
        have bounds := windowOf_failures past open'
        have few := counted.few
        omega
      have counted' := countFailure_of_window (counted.answered last listed) (earlier last listed) range
      intro step there
      rw [accessShares_append_singleton, windowOf_append_singleton]
      by_cases counts : last.counts verify state.shares = true
      · rw [accessShare_of_counts ((counts_after past).trans counts)]
        change (countFailure (accessShares verify state past).2.redis last).2 step.counterKey = _
        by_cases same : step.counterKey = last.counterKey
        · obtain ⟨codes, clients⟩ := apart step there last listed same
          rw [if_pos ⟨counts, codes.symm, clients.symm⟩, same, counted'.2, codes, clients]
          rfl
        · have other : ¬(last.counts verify state.shares = true ∧
              last.request.shareId = step.request.shareId ∧ last.client = step.client) := by
            rintro ⟨-, codes, clients⟩
            apply same
            unfold AccessStep.counterKey
            rw [codes, clients]
          have kept : (countFailure (accessShares verify state past).2.redis last).2 step.counterKey =
              (accessShares verify state past).2.redis step.counterKey := by
            unfold countFailure
            simp only
            split <;> exact execute_other _ same
          rw [if_neg other, kept, earlier step there]
      · have other : ¬(last.counts verify state.shares = true ∧
            last.request.shareId = step.request.shareId ∧ last.client = step.client) :=
          fun all => counts all.1
        rw [accessShare_redis ((counts_after past).trans (Bool.not_eq_true _ ▸ counts)), if_neg other,
          earlier step there]

/-- Requests with counters of their own are limited after five failures. -/
theorem limited_of_apart (counted : Counted steps) (apart : Apart steps)
    (fresh : ∀ step ∈ steps, state.redis step.counterKey = none) : Limited verify state steps := by
  intro past step rest split counts
  have started : past <+: steps := split ▸ List.prefix_append past _
  have listed : step ∈ steps := split ▸ List.mem_append_right past List.mem_cons_self
  have held : (accessShares verify state past).2.redis step.counterKey =
      (windowOf verify state.shares step.request.shareId step.client past).map windowEntry :=
    counters_hold counted apart fresh past started step listed
  have length := congrArg List.length split
  rw [List.length_append, List.length_cons] at length
  have few := counted.few
  have answer := countFailure_of_window (counted.answered step listed) held fun current open' => by
    have bounds := windowOf_failures past open'
    omega
  rw [accessShare_of_counts ((counts_after past).trans counts)]
  change Except.error (handleFailedShareAccess (countFailure _ step).1) = _
  rw [answer.1]
  unfold handleFailedShareAccess shareAccessFailureLimit
  simp only
  split
  · rename_i many
    rw [if_neg (Nat.not_le.mpr many)]
    rfl
  · rename_i few
    rw [if_pos (Nat.not_lt.mp few)]
    rfl

/-- Runs are apart when no two of their requests overlap. -/
theorem apart_iff (counted : Counted steps) :
    Apart steps ↔ ∀ first ∈ steps, ∀ second ∈ steps, ¬Overlap first second := by
  constructor
  · intro apart first one second two overlap
    have same := (counterKey_eq_iff (counted.plain first one) (counted.plain second two)).mpr
      (.inr (.inl overlap))
    exact not_overlap_of_same (apart first one second two same).1 overlap
  · intro clear first one second two same
    rcases (counterKey_eq_iff (counted.plain first one) (counted.plain second two)).mp same with
      alike | overlap | overlap
    · exact alike
    · exact absurd overlap (clear first one second two)
    · exact absurd overlap (clear second two first one)

/-- Failures hide a share, and limit the client that they come from, exactly when no requests overlap. -/
theorem failures_hidden_iff (verify : String → String → Bool) (code password hash : String)
    (one two : AccessState) (steps : List AccessStep)
    (differ : DiffersIn code hash (steps.map AccessStep.now) one two)
    (proper : ∀ text, verify text hash = true → text = password)
    (silent : ∀ step ∈ steps, step.request.password ≠ some password)
    (fresh : ∀ step ∈ steps, one.redis step.counterKey = none) (counted : Counted steps) :
    FailuresHidden verify one two steps ↔ ∀ first ∈ steps, ∀ second ∈ steps, ¬Overlap first second := by
  rw [← apart_iff counted]
  constructor
  · intro hidden
    exact hidden.apart
  · intro apart
    refine ⟨?_, ⟨limited_of_apart counted apart fresh, ?_⟩, apart⟩
    · apply accessShares_same differ
      · exact fun step listed => List.mem_map_of_mem listed
      · intro step listed text given
        rw [← Bool.not_eq_true]
        intro verified
        exact silent step listed ((proper text verified) ▸ given)
    · apply limited_of_apart counted apart
      rw [differ.counters]
      exact fresh

/-- A password that stands for its own hash. -/
def verifyText (password hash : String) : Bool := password = hash

def lockedShare (code : String) : Share :=
  ⟨1, code, 1, some "hash", "download", 0, 0, ShareStatus.active.toInt, none, 0⟩

def wrongAccess (code : String) (client : ClientAddress) : AccessStep :=
  ⟨⟨code, some "wrong"⟩, client, 0, 0, .done, true, .ok "token", true⟩

def nearAddress : ClientAddress := ⟨"db8::1", List.all_eq_true.mp (by decide +kernel), by decide +kernel⟩

def farAddress : ClientAddress := ⟨"2001:db8::1", List.all_eq_true.mp (by decide +kernel), by decide +kernel⟩

theorem locked_differs (code : String) (times : List Timestamp) : DiffersIn code "hash" times
    ⟨[lockedShare code], fun _ => none⟩ ⟨[], fun _ => none⟩ where
  others := by
    rw [List.filter_cons_of_neg (by simp [lockedShare]), List.filter_nil]
  counters := rfl
  present := ⟨_, List.mem_singleton_self _, rfl⟩
  locked := by
    intro share listed _
    rw [List.mem_singleton.mp listed]
    rfl
  active := by
    intro share listed _ time _
    rw [List.mem_singleton.mp listed]
    rfl

/-- Two failures of one client do not tell whether the share is there. -/
theorem failures_hidden_twice :
    FailuresHidden verifyText ⟨[lockedShare "x"], fun _ => none⟩ ⟨[], fun _ => none⟩
      [wrongAccess "x" nearAddress, wrongAccess "x" nearAddress] := by
  refine (failures_hidden_iff verifyText "x" "hash" "hash" _ _ _ (locked_differs "x" _) ?_ ?_ ?_ ?_).mpr ?_
  · exact fun text verified => of_decide_eq_true verified
  · simp [wrongAccess]
  · exact fun _ _ => rfl
  · exact ⟨by simp [wrongAccess], by decide, by simp [wrongAccess]⟩
  · intro first one second two
    apply not_overlap_of_same
    simp only [List.mem_cons, List.not_mem_nil, or_false, or_self] at one two
    rw [one, two]

/-- Five failures for another code limit a client before its own first failure. -/
theorem failures_not_hidden :
    ¬FailuresHidden verifyText ⟨[lockedShare "x"], fun _ => none⟩ ⟨[], fun _ => none⟩
      (List.replicate 5 (wrongAccess "x:2001" nearAddress) ++ [wrongAccess "x" farAddress]) := by
  intro hidden
  have first := hidden.limited.1 (List.replicate 5 (wrongAccess "x:2001" nearAddress))
    (wrongAccess "x" farAddress) [] rfl (by decide)
  revert first
  decide +kernel

end Runs

end DiskServer.Shares
