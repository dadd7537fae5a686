import DiskServer.Construction.Auth.ExpiryCache

namespace DiskServer.Auth.DoubleIndex

open Library

variable {Key Entry Time : Type} [LinearOrder Time] (expiresAt : Entry → Time)

/-- The node that stands for a slot in the order of the times. -/
def CacheSlot.node (slot : CacheSlot Key Entry) : MultimapNode Time Key :=
  ⟨slot.expiryIt, expiresAt slot.entry, slot.key⟩

namespace ExpiryCache

variable (cache : ExpiryCache Key Entry Time)

/-- The nodes are those of the slots. -/
def Linked : Prop := cache.byExpiry.nodes.Perm (cache.byKey.rows.map (CacheSlot.node expiresAt))

/-- Each key has exactly one node, with the time of its entry and at the iterator of its slot. -/
structure Paired : Prop where
  placed : ∀ slot ∈ cache.byKey.rows, ∃! node, node ∈ cache.byExpiry.nodes ∧ node.key = slot.key
  timed : ∀ slot ∈ cache.byKey.rows, ∀ node ∈ cache.byExpiry.nodes, node.key = slot.key →
    node.time = expiresAt slot.entry ∧ node.id = slot.expiryIt
  keyed : ∀ node ∈ cache.byExpiry.nodes, ∃! slot, slot ∈ cache.byKey.rows ∧ slot.key = node.key

variable {expiresAt cache}

theorem Linked.node_mem (linked : cache.Linked expiresAt) {slot : CacheSlot Key Entry}
    (stored : slot ∈ cache.byKey.rows) : slot.node expiresAt ∈ cache.byExpiry.nodes :=
  linked.mem_iff.mpr (List.mem_map_of_mem stored)

theorem Linked.exists_slot (linked : cache.Linked expiresAt) {node : MultimapNode Time Key}
    (present : node ∈ cache.byExpiry.nodes) : ∃ slot ∈ cache.byKey.rows, slot.node expiresAt = node :=
  List.mem_map.mp (linked.mem_iff.mp present)

/-- Linked indexes hold the same entries. -/
theorem Linked.paired (linked : cache.Linked expiresAt) : cache.Paired expiresAt := by
  have same : ∀ slot ∈ cache.byKey.rows, ∀ node ∈ cache.byExpiry.nodes, node.key = slot.key →
      node = slot.node expiresAt := by
    intro slot stored node present keyed
    obtain ⟨other, there, rfl⟩ := linked.exists_slot present
    rw [cache.byKey.eq_of_key there stored keyed]
  constructor
  · intro slot stored
    exact ⟨slot.node expiresAt, ⟨linked.node_mem stored, rfl⟩,
      fun node found => same slot stored node found.1 found.2⟩
  · intro slot stored node present keyed
    rw [same slot stored node present keyed]
    exact ⟨rfl, rfl⟩
  · intro node present
    obtain ⟨slot, stored, rfl⟩ := linked.exists_slot present
    exact ⟨slot, ⟨stored, rfl⟩, fun other found => cache.byKey.eq_of_key found.1 stored found.2⟩

section Operations

variable [DecidableEq Key] {slot : CacheSlot Key Entry}

variable (cache) in
/-- What the cache remembers, whatever the time. -/
def entries (key : Key) : Option Entry := (cache.byKey.find? key).map CacheSlot.entry

variable (cache slot) in
def unlinked : ExpiryCache Key Entry Time :=
  ⟨cache.byKey.remove fun other => other.key = slot.key, cache.byExpiry.without slot.expiryIt⟩

theorem unlink_eq (linked : cache.Linked expiresAt) (stored : slot ∈ cache.byKey.rows) :
    cache.unlink slot = some (cache.unlinked slot) := by
  have reached := Multimap.erase_eq_some (linked.node_mem stored)
  change cache.byExpiry.erase slot.expiryIt = _ at reached
  rw [unlink, reached]
  rfl

/-- In both indexes the same slot goes. -/
theorem unlinked_linked (linked : cache.Linked expiresAt) (stored : slot ∈ cache.byKey.rows) :
    (cache.unlinked slot).Linked expiresAt := by
  have same : cache.byKey.rows.filter
      ((fun node => decide (node.id ≠ slot.expiryIt)) ∘ CacheSlot.node expiresAt) =
        cache.byKey.rows.filter fun other => !decide (other.key = slot.key) := by
    apply List.filter_congr
    intro other there
    change decide (other.expiryIt ≠ slot.expiryIt) = _
    by_cases keyed : other.key = slot.key
    · simp [cache.byKey.eq_of_key there stored keyed]
    · have apart : other.expiryIt ≠ slot.expiryIt := by
        intro shared
        have node := Multimap.eq_of_id (linked.node_mem there) (linked.node_mem stored) shared
        exact keyed (congrArg MultimapNode.key node)
      simp [apart, keyed]
  have left := linked.filter fun node => decide (node.id ≠ slot.expiryIt)
  rw [List.filter_map, same] at left
  exact left

theorem unlinked_entries :
    (cache.unlinked slot).entries = Function.update cache.entries slot.key none := by
  funext key
  rw [entries, unlinked, Table.find?_remove]
  by_cases same : key = slot.key
  · rw [if_pos same, same, Function.update_self]
    rfl
  · rw [if_neg same, Function.update_of_ne same]
    rfl

theorem unlinked_size (stored : slot ∈ cache.byKey.rows) : cache.size = (cache.unlinked slot).size + 1 :=
  Table.length_remove stored

/-- A new slot goes into both indexes. -/
theorem link_spec (linked : cache.Linked expiresAt) {key : Key} (entry : Entry)
    (absent : cache.entries key = none) :
    (cache.link expiresAt key entry).Linked expiresAt ∧
      (cache.link expiresAt key entry).entries = Function.update cache.entries key (some entry) := by
  have fresh : ∀ other ∈ cache.byKey.rows, other.key ≠ key :=
    Table.find?_eq_none_iff.mp (Option.map_eq_none_iff.mp absent)
  have added : cache.link expiresAt key entry =
      ⟨cache.byKey.add ⟨key, entry, cache.byExpiry.next⟩ fresh,
        (cache.byExpiry.emplace (expiresAt entry) key).1⟩ := by
    have inserted : cache.byKey.insertNew ⟨key, entry, cache.byExpiry.next⟩ =
        some (cache.byKey.add ⟨key, entry, cache.byExpiry.next⟩ fresh) := dif_pos fresh
    exact congrArg (fun table => (⟨table.getD cache.byKey, (cache.byExpiry.emplace (expiresAt entry) key).1⟩ :
      ExpiryCache Key Entry Time)) inserted
  rw [added]
  constructor
  · refine (cache.byExpiry.inserted_perm _ _).trans ?_
    refine (linked.cons _).trans ?_
    rw [Table.add, List.map_append]
    exact (List.perm_append_singleton _ _).symm
  · funext other
    rw [entries, Table.find?_add]
    by_cases same : other = key
    · rw [if_pos same, same, Function.update_self]
      rfl
    · rw [if_neg same, Function.update_of_ne same]
      rfl

theorem entries_of_mem (stored : slot ∈ cache.byKey.rows) : cache.entries slot.key = some slot.entry := by
  rw [entries, Table.find?_eq_some_iff.mpr ⟨stored, rfl⟩]
  rfl

/-- A search finds the entry of its key unless it has expired. -/
theorem find_eq (key : Key) (now : Time) :
    cache.find expiresAt key now = (cache.entries key).filter fun entry => now < expiresAt entry := by
  unfold find entries
  cases cache.byKey.find? key with
  | none => rfl
  | some slot =>
      change (if expiresAt slot.entry ≤ now then none else some slot.entry) = _
      rw [Option.map_some, Option.filter_some]
      by_cases expired : expiresAt slot.entry ≤ now
      · simp [expired]
      · simp [expired, lt_of_not_ge expired]

theorem upsert_spec (linked : cache.Linked expiresAt) (key : Key) (entry : Entry) :
    ∃ after, cache.upsert expiresAt key entry = some after ∧ after.Linked expiresAt ∧
      after.entries = Function.update cache.entries key (some entry) := by
  unfold upsert
  cases found : cache.byKey.find? key with
  | none =>
      have absent : cache.entries key = none := by rw [entries, found]; rfl
      exact ⟨_, rfl, link_spec linked entry absent⟩
  | some slot =>
      obtain ⟨stored, rfl⟩ := Table.find?_some found
      have gone : (cache.unlinked slot).entries slot.key = none := by
        rw [unlinked_entries, Function.update_self]
      have added := link_spec (unlinked_linked linked stored) entry gone
      rw [unlinked_entries, Function.update_idem] at added
      refine ⟨_, ?_, added⟩
      simp only [unlink_eq linked stored, Option.bind_eq_bind, Option.bind_some]

theorem erase_spec (linked : cache.Linked expiresAt) (key : Key) :
    ∃ after, cache.erase key = some ((cache.entries key).isSome, after) ∧ after.Linked expiresAt ∧
      after.entries = Function.update cache.entries key none := by
  unfold erase
  cases found : cache.byKey.find? key with
  | none =>
      have absent : cache.entries key = none := by rw [entries, found]; rfl
      refine ⟨cache, by rw [absent]; rfl, linked, ?_⟩
      rw [← absent, Function.update_eq_self]
  | some slot =>
      obtain ⟨stored, rfl⟩ := Table.find?_some found
      refine ⟨cache.unlinked slot, ?_, unlinked_linked linked stored, unlinked_entries⟩
      simp only [unlink_eq linked stored, entries_of_mem stored, Option.bind_eq_bind, Option.bind_some]
      rfl

omit [DecidableEq Key] in
theorem clear_linked : cache.clear.Linked expiresAt := List.Perm.refl _

theorem clear_entries : cache.clear.entries = fun _ => none := rfl

section Evicting

variable (now : Time)

variable (expiresAt cache) in
/-- The entries that are not yet expired. -/
def alive (key : Key) : Option Entry := (cache.entries key).filter fun entry => now < expiresAt entry

/-- When no node is expired, no entry is. -/
theorem entries_eq_alive (linked : cache.Linked expiresAt)
    (late : ∀ node ∈ cache.byExpiry.nodes, now < node.time) : cache.entries = cache.alive expiresAt now := by
  funext key
  unfold alive
  cases found : cache.byKey.find? key with
  | none =>
      rw [entries, found]
      rfl
  | some slot =>
      obtain ⟨stored, rfl⟩ := Table.find?_some found
      have valid : now < expiresAt slot.entry := late _ (linked.node_mem stored)
      rw [entries_of_mem stored, Option.filter_some, if_pos (by simpa using valid)]

/-- An expired slot can go first. -/
theorem unlinked_alive (stored : slot ∈ cache.byKey.rows) (expired : expiresAt slot.entry ≤ now) :
    (cache.unlinked slot).alive expiresAt now = cache.alive expiresAt now := by
  funext key
  unfold alive
  rw [unlinked_entries]
  by_cases same : key = slot.key
  · rw [same, Function.update_self, entries_of_mem stored, Option.filter_some,
      if_neg (by simpa using expired)]
    rfl
  · rw [Function.update_of_ne same]

/-- The rounds take the expired entries out of the cache and count them. -/
theorem evictFrom_spec (rounds evicted : Nat) (cache : ExpiryCache Key Entry Time)
    (linked : cache.Linked expiresAt) (enough : cache.byExpiry.nodes.length < rounds) :
    ∃ removed after, evictFrom now rounds cache.byExpiry.begin evicted cache =
        some (evicted + removed, after) ∧ after.Linked expiresAt ∧
      after.entries = cache.alive expiresAt now ∧ cache.size = after.size + removed := by
  induction rounds generalizing evicted cache with
  | zero => exact absurd enough (Nat.not_lt_zero _)
  | succ rounds ih =>
      cases stored : cache.byExpiry.nodes with
      | nil =>
          have ended : cache.byExpiry.begin = none := by rw [Multimap.begin, stored]; rfl
          rw [ended]
          refine ⟨0, cache, rfl, linked, entries_eq_alive now linked ?_, rfl⟩
          rw [stored]
          simp
      | cons node rest =>
          have begun : cache.byExpiry.begin = some node.id := by rw [Multimap.begin, stored]; rfl
          have present : node ∈ cache.byExpiry.nodes := stored ▸ List.mem_cons_self
          have reached := Multimap.at?_eq_some present
          rw [begun, evictFrom, reached]
          simp only [Option.bind_eq_bind, Option.bind_some]
          by_cases expired : node.time ≤ now
          · obtain ⟨following, shorter⟩ := Multimap.following_first stored
            obtain ⟨slot, here, rfl⟩ := linked.exists_slot present
            rw [if_pos expired, Multimap.erase_eq_some present, following]
            obtain ⟨removed, after, looped, kept, left, counted⟩ :=
              ih (evicted + 1) (cache.unlinked slot) (unlinked_linked linked here) (by
                change ((cache.byExpiry.without slot.expiryIt).nodes.length) < rounds
                have shorter : (cache.byExpiry.without slot.expiryIt).nodes = rest := shorter
                rw [shorter]
                rw [stored, List.length_cons] at enough
                omega)
            refine ⟨removed + 1, after, ?_, kept, ?_, ?_⟩
            · rw [← Nat.add_assoc, Nat.add_right_comm]
              exact looped
            · rw [left, unlinked_alive now here expired]
            · rw [unlinked_size here, counted]
              omega
          · rw [if_neg expired]
            refine ⟨0, cache, rfl, linked, entries_eq_alive now linked ?_, rfl⟩
            intro other there
            have sorted := cache.byExpiry.sorted
            rw [stored] at sorted there
            rcases List.mem_cons.mp there with rfl | later
            · exact lt_of_not_ge expired
            · exact lt_of_lt_of_le (lt_of_not_ge expired) (List.rel_of_pairwise_cons sorted later)

/-- An eviction removes exactly the expired entries and counts them. -/
theorem evictExpired_spec (linked : cache.Linked expiresAt) :
    ∃ removed after, cache.evictExpired now = some (removed, after) ∧ after.Linked expiresAt ∧
      after.entries = cache.alive expiresAt now ∧ cache.size = after.size + removed := by
  obtain ⟨removed, after, ran, rest⟩ :=
    evictFrom_spec now (cache.byExpiry.nodes.length + 1) 0 cache linked (Nat.lt_succ_self _)
  rw [Nat.zero_add] at ran
  exact ⟨removed, after, ran, rest⟩

end Evicting

end Operations

end ExpiryCache

section History

variable [DecidableEq Key]

/-- The entry of the last upsert of a key that no erasure follows. The last operation comes first. -/
def lastUpsert (key : Key) : List (CacheOperation Key Entry Time) → Option Entry
  | [] => none
  | .upsert other entry :: earlier => if key = other then some entry else lastUpsert key earlier
  | .erase other :: earlier => if key = other then none else lastUpsert key earlier
  | .evictExpired _ :: earlier => lastUpsert key earlier
  | .clear :: _ => none

/-- The times of the evictions after the last upsert of a key, if no erasure follows it. -/
def evictionsSince (key : Key) : List (CacheOperation Key Entry Time) → List Time
  | [] => []
  | .upsert other _ :: earlier => if key = other then [] else evictionsSince key earlier
  | .evictExpired now :: earlier =>
      if (lastUpsert key earlier).isSome then now :: evictionsSince key earlier else []
  | .erase other :: earlier => if key = other then [] else evictionsSince key earlier
  | .clear :: _ => []

/-- What is left of the last upsert after the evictions. -/
def remembered (history : List (CacheOperation Key Entry Time)) (key : Key) : Option Entry :=
  (lastUpsert key history).filter fun entry =>
    (evictionsSince key history).all fun time => time < expiresAt entry

variable {expiresAt} {cache : ExpiryCache Key Entry Time}
  {earlier history : List (CacheOperation Key Entry Time)}

theorem remembered_upsert (key : Key) (entry : Entry) :
    remembered expiresAt (.upsert key entry :: earlier) =
      Function.update (remembered expiresAt earlier) key (some entry) := by
  funext other
  by_cases same : other = key
  · simp [remembered, lastUpsert, evictionsSince, same]
  · simp [remembered, lastUpsert, evictionsSince, same]

theorem remembered_erase (key : Key) :
    remembered expiresAt (.erase key :: earlier : List (CacheOperation Key Entry Time)) =
      Function.update (remembered expiresAt earlier) key none := by
  funext other
  by_cases same : other = key
  · simp [remembered, lastUpsert, same]
  · simp [remembered, lastUpsert, evictionsSince, same]

theorem remembered_evictExpired (now : Time) (known : cache.entries = remembered expiresAt earlier) :
    remembered expiresAt (.evictExpired now :: earlier : List (CacheOperation Key Entry Time)) =
      cache.alive expiresAt now := by
  funext key
  rw [ExpiryCache.alive, known, remembered, remembered, Option.filter_filter]
  cases stored : lastUpsert key earlier with
  | none => simp [lastUpsert, stored]
  | some entry => simp [lastUpsert, evictionsSince, stored, Bool.and_comm]

theorem remembered_clear :
    remembered expiresAt (.clear :: earlier : List (CacheOperation Key Entry Time)) = fun _ => none := rfl

/-- No history comes to an iterator without a meaning, and the cache remembers what it should. -/
theorem runHistory_spec (history : List (CacheOperation Key Entry Time)) :
    ∃ cache, runHistory expiresAt history = some cache ∧ cache.Linked expiresAt ∧
      cache.entries = remembered expiresAt history := by
  induction history with
  | nil => exact ⟨ExpiryCache.empty, rfl, List.Perm.refl _, rfl⟩
  | cons operation earlier ih =>
      obtain ⟨cache, ran, linked, known⟩ := ih
      rw [runHistory, ran]
      simp only [Option.bind_eq_bind, Option.bind_some]
      cases operation with
      | upsert key entry =>
          obtain ⟨after, done, kept, entries⟩ := ExpiryCache.upsert_spec linked key entry
          exact ⟨after, done, kept, by rw [entries, known, remembered_upsert]⟩
      | erase key =>
          obtain ⟨after, done, kept, entries⟩ := ExpiryCache.erase_spec linked key
          exact ⟨after, congrArg (Option.map Prod.snd) done, kept, by
            rw [entries, known, remembered_erase]⟩
      | evictExpired now =>
          obtain ⟨removed, after, done, kept, entries, -⟩ := ExpiryCache.evictExpired_spec now linked
          exact ⟨after, congrArg (Option.map Prod.snd) done, kept, by
            rw [entries, remembered_evictExpired now known]⟩
      | clear =>
          exact ⟨cache.clear, rfl, ExpiryCache.clear_linked, by
            rw [ExpiryCache.clear_entries, remembered_clear]⟩

variable (expiresAt history cache) in
/-- The indexes are in step, a search finds the last upsert until it expires, and an eviction takes only
expired entries and counts them. -/
structure CacheRight : Prop where
  paired : cache.Paired expiresAt
  found : ∀ key now, (∀ time ∈ evictionsSince key history, time ≤ now) →
    cache.find expiresAt key now =
      (lastUpsert key history).filter fun entry => now < expiresAt entry
  evicted : ∀ now, ∃ removed after, cache.evictExpired now = some (removed, after) ∧
    cache.size = after.size + removed ∧
    ∀ key later, now ≤ later → after.find expiresAt key later = cache.find expiresAt key later

theorem filter_of_implied {first second : Entry → Bool} (implied : ∀ entry, second entry = true → first entry = true)
    (found : Option Entry) : (found.filter first).filter second = found.filter second := by
  rw [Option.filter_filter]
  congr 1
  funext entry
  cases late : second entry with
  | false => exact Bool.and_false _
  | true => rw [implied entry late, Bool.and_true]

/-- At a time that no eviction since the last upsert has passed, the evictions make no difference. -/
theorem remembered_filter {key : Key} {now : Time} (passed : ∀ time ∈ evictionsSince key history, time ≤ now) :
    ((remembered expiresAt history key).filter fun entry => now < expiresAt entry) =
      (lastUpsert key history).filter fun entry => now < expiresAt entry := by
  apply filter_of_implied
  intro entry valid
  rw [List.all_eq_true]
  intro time evicted
  simpa using lt_of_le_of_lt (passed time evicted) (by simpa using valid)

/-- After every history of operations the cache is right, and no iterator has lost its meaning. -/
theorem cache_right (history : List (CacheOperation Key Entry Time)) :
    ∃ cache, runHistory expiresAt history = some cache ∧ CacheRight expiresAt cache history := by
  obtain ⟨cache, ran, linked, known⟩ := runHistory_spec history
  refine ⟨cache, ran, linked.paired, ?_, ?_⟩
  · intro key now passed
    rw [ExpiryCache.find_eq, known, remembered_filter passed]
  · intro now
    obtain ⟨removed, after, done, -, entries, counted⟩ := ExpiryCache.evictExpired_spec now linked
    refine ⟨removed, after, done, counted, ?_⟩
    intro key later passed
    rw [ExpiryCache.find_eq, ExpiryCache.find_eq, entries, ExpiryCache.alive]
    apply filter_of_implied
    intro entry valid
    simpa using lt_of_le_of_lt passed (by simpa using valid)

end History

section Example

/-- A search at a time before an eviction does not find what the eviction took out. -/
theorem find_misses_evicted : ¬ ∀ history (cache : ExpiryCache String Int Int),
    runHistory id history = some cache → ∀ key now,
      cache.find id key now = (lastUpsert key history).filter fun entry => now < id entry := by
  intro always
  have missed := always [.evictExpired 20, .upsert "token" 10] _ rfl "token" 5
  exact absurd missed (by decide)

end Example

end DiskServer.Auth.DoubleIndex
