import Mathlib.Algebra.BigOperators.Group.Finset.Piecewise
import Mathlib.Data.List.Sort
import Mathlib.Tactic.Abel

/-
This file gives tables with a unique key and the change of their totals under each statement.
-/

namespace DiskServer.Library

/-- A table never holds two rows with one key. -/
structure Table (Row : Type*) {Key : Type*} (key : Row → Key) where
  rows : List Row
  distinct : (rows.map key).Nodup

/-- A serial table takes each new key from a sequence that never goes back. -/
structure Serial (Row : Type*) (key : Row → Nat) extends Table Row key where
  next : Nat
  positive : 0 < next
  bounded : ∀ row ∈ rows, 0 < key row ∧ key row < next

section Totals

variable {Row Amount : Type*} [AddCommGroup Amount]

theorem sum_map_filter_not (weight : Row → Amount) (select : Row → Bool) (rows : List Row) :
    ((rows.filter fun row => !select row).map weight).sum =
      (rows.map weight).sum - ((rows.filter select).map weight).sum := by
  induction rows with
  | nil => simp
  | cons row rest ih =>
      cases chosen : select row <;>
        simp only [List.filter_cons, chosen, Bool.not_false, Bool.not_true, if_true, if_false,
          Bool.false_eq_true, List.map_cons, List.sum_cons, ih] <;> abel

theorem sum_map_update (weight : Row → Amount) (select : Row → Bool) (change : Row → Row)
    (rows : List Row) :
    ((rows.map fun row => if select row then change row else row).map weight).sum =
      (rows.map weight).sum +
        ((rows.filter select).map fun row => weight (change row) - weight row).sum := by
  induction rows with
  | nil => simp
  | cons row rest ih =>
      cases chosen : select row <;>
        simp only [List.filter_cons, chosen, if_true, if_false, Bool.false_eq_true, List.map_cons,
          List.sum_cons, ih] <;> abel

/-- Grouping a total by a key and adding up the groups gives the total back. -/
theorem sum_map_group {Key : Type*} [DecidableEq Key] (key : Row → Key) (weight : Row → Amount)
    (rows : List Row) {keys : List Key} (once : keys.Nodup) (all : ∀ row ∈ rows, key row ∈ keys) :
    (keys.map fun wanted => ((rows.filter fun row => key row = wanted).map weight).sum).sum =
      (rows.map weight).sum := by
  induction rows with
  | nil => simp
  | cons row rest ih =>
      have group : ∀ wanted ∈ keys, (((row :: rest).filter fun other => key other = wanted).map weight).sum =
          (if wanted = key row then weight row else 0) +
            ((rest.filter fun other => key other = wanted).map weight).sum := by
        intro wanted _
        by_cases same : key row = wanted
        · simp [same]
        · simp [same, Ne.symm same]
      rw [List.map_congr_left group, List.sum_map_add,
        ih fun other present => all other (List.mem_cons_of_mem row present),
        ← List.sum_toFinset _ once, Finset.sum_ite_eq']
      simp [all row List.mem_cons_self]

/-- A total over repeated items counts each distinct item as often as it occurs. -/
theorem sum_map_dedup [DecidableEq Row] (weight : Row → Amount) (rows : List Row) :
    (rows.dedup.map fun row => rows.count row • weight row).sum = (rows.map weight).sum := by
  rw [← List.sum_toFinset _ rows.nodup_dedup, Finset.sum_list_map_count]
  apply Finset.sum_congr
  · ext row
    simp
  · intro row _
    rfl

end Totals

theorem exists_of_forall₂_left {Item Result : Type*} {Rel : Item → Result → Prop} {items : List Item}
    {results : List Result} (related : List.Forall₂ Rel items results) {item : Item}
    (present : item ∈ items) : ∃ result ∈ results, Rel item result := by
  induction related with
  | nil => cases present
  | cons first _ ih =>
      rcases List.mem_cons.mp present with rfl | later
      · exact ⟨_, List.mem_cons_self, first⟩
      · obtain ⟨result, there, holds⟩ := ih later
        exact ⟨result, List.mem_cons_of_mem _ there, holds⟩

theorem exists_of_forall₂_right {Item Result : Type*} {Rel : Item → Result → Prop} {items : List Item}
    {results : List Result} (related : List.Forall₂ Rel items results) {result : Result}
    (present : result ∈ results) : ∃ item ∈ items, Rel item result :=
  exists_of_forall₂_left related.flip present

/-- A mapped list has one result for each item in order. -/
theorem forall₂_of_mapM {Item Result : Type} {body : Item → Option Result} {items : List Item}
    {results : List Result} (ran : items.mapM body = some results) :
    List.Forall₂ (fun item result => body item = some result) items results := by
  induction items generalizing results with
  | nil =>
      obtain rfl : results = [] := by simpa using ran.symm
      exact .nil
  | cons item rest ih =>
      rw [List.mapM_cons] at ran
      obtain ⟨first, one, two⟩ := Option.bind_eq_some_iff.mp ran
      obtain ⟨others, more, last⟩ := Option.bind_eq_some_iff.mp two
      obtain rfl : results = first :: others := (Option.some.inj last).symm
      exact .cons one (ih more)

/-- Every result of a mapped list comes from one of its items. -/
theorem exists_of_mem_mapM {Item Result : Type} {body : Item → Option Result} {items : List Item}
    {results : List Result} (ran : items.mapM body = some results) {result : Result}
    (present : result ∈ results) : ∃ item ∈ items, body item = some result :=
  exists_of_forall₂_right (forall₂_of_mapM ran) present

/-- A list is mapped when each of its items is. -/
theorem exists_mapM {Item Result : Type} {body : Item → Option Result} {items : List Item}
    (each : ∀ item ∈ items, ∃ result, body item = some result) :
    ∃ results, items.mapM body = some results := by
  induction items with
  | nil => exact ⟨[], rfl⟩
  | cons item rest ih =>
      obtain ⟨first, one⟩ := each item List.mem_cons_self
      obtain ⟨others, more⟩ := ih fun other present => each other (List.mem_cons_of_mem item present)
      exact ⟨first :: others, by rw [List.mapM_cons, one, more]; rfl⟩

/-- A search finds the chosen item whose key stands first. -/
theorem find?_eq_some_iff_idxOf {Item Key : Type*} [BEq Key] [LawfulBEq Key] {key : Item → Key}
    {choose : Item → Bool} {items : List Item} (once : (items.map key).Nodup) {item : Item}
    (present : item ∈ items) :
    items.find? choose = some item ↔ choose item = true ∧ ∀ other ∈ items, choose other = true →
      (items.map key).idxOf (key item) ≤ (items.map key).idxOf (key other) := by
  induction items with
  | nil => cases present
  | cons first rest ih =>
      obtain ⟨absent, distinct⟩ := List.nodup_cons.mp once
      have apart : ∀ other ∈ rest, (key first == key other) = false := by
        intro other there
        exact beq_false_of_ne fun same => absent (same ▸ List.mem_map_of_mem there)
      rw [List.find?_cons]
      cases chosen : choose first with
      | true =>
          constructor
          · intro found
            obtain rfl := Option.some.inj found
            refine ⟨chosen, fun other there _ => ?_⟩
            rw [List.map_cons, List.idxOf_cons_self]
            exact Nat.zero_le _
          · rintro ⟨-, earliest⟩
            rcases List.mem_cons.mp present with rfl | there
            · rfl
            · have before := earliest first List.mem_cons_self chosen
              rw [List.map_cons, List.idxOf_cons_self, List.idxOf_cons, apart item there] at before
              exact absurd before (Nat.not_succ_le_zero _)
      | false =>
          have inRest : ∀ other ∈ first :: rest, choose other = true → other ∈ rest := by
            intro other there picked
            rcases List.mem_cons.mp there with rfl | later
            · rw [chosen] at picked
              cases picked
            · exact later
          have shifted : ∀ other ∈ rest, ((first :: rest).map key).idxOf (key other) =
              (rest.map key).idxOf (key other) + 1 := by
            intro other there
            rw [List.map_cons, List.idxOf_cons, apart other there]
            rfl
          rcases List.mem_cons.mp present with rfl | there
          · constructor
            · intro found
              exact absurd (List.mem_map_of_mem (List.mem_of_find?_eq_some found)) absent
            · rintro ⟨picked, -⟩
              rw [chosen] at picked
              cases picked
          · rw [ih distinct there]
            refine and_congr_right fun _ => ⟨fun earliest other inside picked => ?_,
              fun earliest other inside picked => ?_⟩
            · rw [shifted item there, shifted other (inRest other inside picked)]
              exact Nat.succ_le_succ (earliest other (inRest other inside picked) picked)
            · have before := earliest other (List.mem_cons_of_mem first inside) picked
              rw [shifted item there, shifted other inside] at before
              exact Nat.le_of_succ_le_succ before

/-- Rows looked up by a list of keys keep the order of the keys. -/
theorem filterMap_keys_sublist {Row Key : Type*} {key : Row → Key} {lookup : Key → Option Row}
    (keyed : ∀ wanted row, lookup wanted = some row → key row = wanted) (keys : List Key) :
    ((keys.filterMap lookup).map key).Sublist keys := by
  induction keys with
  | nil => exact List.Sublist.slnil
  | cons wanted rest ih =>
      rw [List.filterMap_cons]
      split
      · exact ih.cons wanted
      · rename_i row found
        rw [List.map_cons, keyed wanted row found]
        exact ih.cons_cons wanted

namespace Table

variable {Row Key : Type*} {key : Row → Key}

def empty : Table Row key := ⟨[], by simp⟩

/-- A key selects at most one row. -/
theorem eq_of_key (table : Table Row key) {first second : Row} (one : first ∈ table.rows)
    (two : second ∈ table.rows) (same : key first = key second) : first = second :=
  List.inj_on_of_nodup_map table.distinct one two same

section Lookup

variable [DecidableEq Key]

def find? (table : Table Row key) (wanted : Key) : Option Row :=
  table.rows.find? fun row => key row = wanted

/-- A row that is found is stored under its key. -/
theorem find?_some {table : Table Row key} {wanted : Key} {row : Row}
    (found : table.find? wanted = some row) : row ∈ table.rows ∧ key row = wanted :=
  ⟨List.mem_of_find?_eq_some found, by simpa using List.find?_some found⟩

/-- A lookup finds exactly the stored row of its key. -/
theorem find?_eq_some_iff {table : Table Row key} {wanted : Key} {row : Row} :
    table.find? wanted = some row ↔ row ∈ table.rows ∧ key row = wanted := by
  refine ⟨find?_some, fun ⟨present, keyed⟩ => ?_⟩
  cases found : table.find? wanted with
  | none =>
      have absent := List.find?_eq_none.mp found row present
      exact absurd keyed (by simpa using absent)
  | some other =>
      obtain ⟨there, same⟩ := find?_some found
      rw [table.eq_of_key there present (same.trans keyed.symm)]

theorem find?_eq_none_iff {table : Table Row key} {wanted : Key} :
    table.find? wanted = none ↔ ∀ row ∈ table.rows, key row ≠ wanted := by
  simp [find?, List.find?_eq_none]

theorem filter_key_of_find? {table : Table Row key} {wanted : Key} {row : Row}
    (found : table.find? wanted = some row) :
    (table.rows.filter fun other => key other = wanted) = [row] := by
  obtain ⟨present, rfl⟩ := find?_some found
  have nodup : table.rows.Nodup := List.Nodup.of_map key table.distinct
  have once := nodup.filter (fun other => decide (key other = key row))
  refine List.perm_singleton.mp ?_
  rw [List.perm_ext_iff_of_nodup once (List.nodup_singleton row)]
  intro other
  simp only [List.mem_filter, decide_eq_true_eq, List.mem_singleton]
  refine ⟨fun ⟨there, same⟩ => table.eq_of_key there present same, ?_⟩
  rintro rfl
  exact ⟨present, rfl⟩

theorem filter_key_of_find?_none {table : Table Row key} {wanted : Key}
    (absent : table.find? wanted = none) :
    (table.rows.filter fun other => key other = wanted) = [] := by
  simpa [List.filter_eq_nil_iff] using find?_eq_none_iff.mp absent

/-- The rows that a list of keys selects have exactly these keys when they are as many. -/
theorem filter_keys_perm (table : Table Row key) {wanted : List Key}
    (count : (table.rows.filter fun row => wanted.contains (key row)).length = wanted.length) :
    ((table.rows.filter fun row => wanted.contains (key row)).map key).Perm wanted := by
  have once : ((table.rows.filter fun row => wanted.contains (key row)).map key).Nodup :=
    table.distinct.sublist (List.Sublist.map key List.filter_sublist)
  have inside : (table.rows.filter fun row => wanted.contains (key row)).map key ⊆ wanted := by
    intro wantedKey present
    obtain ⟨row, chosen, rfl⟩ := List.mem_map.mp present
    simpa using (List.mem_filter.mp chosen).2
  exact (once.subperm inside).perm_of_length_le (by rw [List.length_map, count])

/-- Distinct keys that all have a row select as many rows. -/
theorem filter_keys_length (table : Table Row key) {wanted : List Key} (once : wanted.Nodup)
    (there : ∀ wantedKey ∈ wanted, ∃ row ∈ table.rows, key row = wantedKey) :
    (table.rows.filter fun row => wanted.contains (key row)).length = wanted.length := by
  have distinct : ((table.rows.filter fun row => wanted.contains (key row)).map key).Nodup :=
    table.distinct.sublist (List.Sublist.map key List.filter_sublist)
  have same : ((table.rows.filter fun row => wanted.contains (key row)).map key).Perm wanted := by
    rw [List.perm_ext_iff_of_nodup distinct once]
    intro wantedKey
    simp only [List.mem_map, List.mem_filter, List.contains_iff_mem]
    constructor
    · rintro ⟨row, ⟨-, chosen⟩, rfl⟩
      exact chosen
    · intro chosen
      obtain ⟨row, present, rfl⟩ := there wantedKey chosen
      exact ⟨row, ⟨present, chosen⟩, rfl⟩
  simpa using same.length_eq

/-- A weight that only one key carries is the weight of the row with that key. -/
theorem sum_map_find? {Amount : Type*} [AddCommGroup Amount] (table : Table Row key) (wanted : Key)
    (weight : Row → Amount) (others : ∀ row ∈ table.rows, key row ≠ wanted → weight row = 0) :
    (table.rows.map weight).sum = ((table.find? wanted).map weight).getD 0 := by
  have rest : ((table.rows.filter fun row => !decide (key row = wanted)).map weight).sum = 0 := by
    apply List.sum_eq_zero
    intro amount present
    obtain ⟨row, chosen, rfl⟩ := List.mem_map.mp present
    obtain ⟨there, differs⟩ := List.mem_filter.mp chosen
    exact others row there (by simpa using differs)
  rw [sum_map_filter_not, sub_eq_zero] at rest
  rw [rest]
  cases found : table.find? wanted with
  | none => simp [filter_key_of_find?_none found]
  | some row => simp [filter_key_of_find? found]

/-- Deleting by the keys of distinct stored rows deletes exactly these rows. -/
theorem filter_keys_perm_rows (table : Table Row key) {wanted : List Key} {rows : List Row}
    (stored : ∀ row ∈ rows, row ∈ table.rows) (once : rows.Nodup)
    (same : ∀ wantedKey, wantedKey ∈ wanted ↔ wantedKey ∈ rows.map key) :
    (table.rows.filter fun row => wanted.contains (key row)).Perm rows := by
  have distinct : table.rows.Nodup := List.Nodup.of_map key table.distinct
  rw [List.perm_ext_iff_of_nodup (distinct.filter _) once]
  intro row
  simp only [List.mem_filter, List.contains_iff_mem, same, List.mem_map]
  constructor
  · rintro ⟨present, other, there, keyed⟩
    rwa [← table.eq_of_key (stored other there) present keyed]
  · intro present
    exact ⟨stored row present, row, present, rfl⟩

end Lookup

/-- An update changes the selected rows and keeps every key. -/
def update (table : Table Row key) (select : Row → Bool) (change : Row → Row)
    (keyed : ∀ row, key (change row) = key row) : Table Row key where
  rows := table.rows.map fun row => if select row then change row else row
  distinct := by
    have same : (table.rows.map fun row => if select row then change row else row).map key =
        table.rows.map key := by
      rw [List.map_map]
      apply List.map_congr_left
      intro row _
      simp only [Function.comp_apply]
      split <;> simp [keyed]
    rw [same]
    exact table.distinct

def remove (table : Table Row key) (select : Row → Bool) : Table Row key where
  rows := table.rows.filter fun row => !select row
  distinct := List.Nodup.sublist (List.Sublist.map key List.filter_sublist) table.distinct

def add (table : Table Row key) (row : Row) (fresh : ∀ other ∈ table.rows, key other ≠ key row) :
    Table Row key where
  rows := table.rows ++ [row]
  distinct := by
    rw [List.map_append, List.nodup_append]
    refine ⟨table.distinct, by simp, ?_⟩
    intro first present second only
    obtain ⟨other, there, rfl⟩ := List.mem_map.mp present
    obtain rfl : second = key row := by simpa using only
    exact fresh other there

/-- A conflicting insert leaves no table behind. -/
def insertNew [DecidableEq Key] (table : Table Row key) (row : Row) : Option (Table Row key) :=
  if fresh : ∀ other ∈ table.rows, key other ≠ key row then some (table.add row fresh) else none

theorem mem_update {table : Table Row key} {select : Row → Bool} {change : Row → Row}
    {keyed : ∀ row, key (change row) = key row} {row : Row} :
    row ∈ (table.update select change keyed).rows ↔
      ∃ old ∈ table.rows, row = if select old then change old else old := by
  simp only [update, List.mem_map]
  constructor
  · rintro ⟨old, present, rfl⟩
    exact ⟨old, present, rfl⟩
  · rintro ⟨old, present, rfl⟩
    exact ⟨old, present, rfl⟩

/-- An update changes the row of a key when it selects that row. -/
theorem find?_update_select [DecidableEq Key] (table : Table Row key) (select : Row → Bool)
    (change : Row → Row) (keyed : ∀ row, key (change row) = key row) (other : Key) :
    (table.update select change keyed).find? other =
      (table.find? other).map fun row => if select row then change row else row := by
  simp only [find?, update, List.find?_map]
  congr 2
  funext row
  simp only [Function.comp_apply]
  split <;> simp [keyed]

/-- An update of one key changes only the row with that key. -/
theorem find?_update [DecidableEq Key] (table : Table Row key) (wanted other : Key)
    (change : Row → Row) (keyed : ∀ row, key (change row) = key row) :
    (table.update (fun row => key row = wanted) change keyed).find? other =
      (table.find? other).map fun row => if other = wanted then change row else row := by
  rw [find?_update_select]
  apply Option.map_congr
  intro row found
  simp [(find?_some found).2]

theorem find?_add [DecidableEq Key] (table : Table Row key) {row : Row}
    (fresh : ∀ other ∈ table.rows, key other ≠ key row) (wanted : Key) :
    (table.add row fresh).find? wanted = if wanted = key row then some row else table.find? wanted := by
  unfold find? add
  rw [List.find?_append, List.find?_singleton]
  by_cases same : wanted = key row
  · have absent : table.find? wanted = none :=
      find?_eq_none_iff.mpr fun other present => same ▸ fresh other present
    unfold find? at absent
    subst same
    rw [absent, if_pos rfl]
    simp
  · simp [same, Ne.symm same]

/-- A row that is not selected stays, and no other row does. -/
theorem mem_remove {table : Table Row key} {select : Row → Bool} {row : Row} :
    row ∈ (table.remove select).rows ↔ row ∈ table.rows ∧ select row = false := by
  simp [remove]

theorem find?_remove [DecidableEq Key] (table : Table Row key) (wanted other : Key) :
    (table.remove fun row => key row = wanted).find? other =
      if other = wanted then none else table.find? other := by
  by_cases same : other = wanted
  · rw [if_pos same, find?_eq_none_iff]
    intro row left keyed
    simpa [keyed, same] using (mem_remove.mp left).2
  · rw [if_neg same]
    apply Option.ext
    intro row
    rw [find?_eq_some_iff, find?_eq_some_iff, mem_remove]
    constructor
    · rintro ⟨⟨present, -⟩, keyed⟩
      exact ⟨present, keyed⟩
    · rintro ⟨present, keyed⟩
      exact ⟨⟨present, by simpa [keyed] using same⟩, keyed⟩

/-- Without the row of a key there is one row less. -/
theorem length_remove [DecidableEq Key] {table : Table Row key} {row : Row} (stored : row ∈ table.rows) :
    table.rows.length = (table.remove fun other => key other = key row).rows.length + 1 := by
  have only := filter_key_of_find? (find?_eq_some_iff.mpr ⟨stored, rfl⟩)
  have split := List.length_eq_length_filter_add (l := table.rows) fun other => decide (key other = key row)
  rw [only, List.length_singleton] at split
  rw [split, Nat.add_comm]
  rfl

section Cursor

variable {Item : Type*} {number : Item → Nat} (items : Table Item number) {cursor limit : Nat}

/-- The rows with a key behind the cursor in the order of their keys. -/
def rowsAfter (cursor : Nat) : List Item :=
  (items.rows.filter fun item => cursor < number item).insertionSort
    fun first second => number first ≤ number second

variable {items} {item other : Item}

theorem mem_rowsAfter : item ∈ items.rowsAfter cursor ↔ item ∈ items.rows ∧ cursor < number item := by
  simp [rowsAfter]

/-- The rows behind a cursor ascend strictly. -/
theorem rowsAfter_ascends : (items.rowsAfter cursor).Pairwise fun first second => number first < number second := by
  have order : IsTrans Item fun first second => number first ≤ number second :=
    ⟨fun _ _ _ => Nat.le_trans⟩
  have compare : Std.Total fun first second : Item => number first ≤ number second :=
    ⟨fun first second => Nat.le_total (number first) (number second)⟩
  have sorted : (items.rowsAfter cursor).Pairwise fun first second => number first ≤ number second :=
    List.pairwise_insertionSort _ _
  have distinct : ((items.rowsAfter cursor).map number).Nodup := by
    unfold rowsAfter
    rw [((List.perm_insertionSort _ _).map number).nodup_iff]
    exact items.distinct.sublist (List.Sublist.map _ List.filter_sublist)
  exact (sorted.and (List.pairwise_map.mp distinct)).imp fun both => Nat.lt_of_le_of_ne both.1 both.2

/-- A row that a page of ascending rows leaves out lies behind every row of the page, and the page is full. -/
theorem lt_of_untaken {rows : List Item} (ascends : rows.Pairwise fun first second => number first < number second)
    (listed : item ∈ rows) (untaken : item ∉ rows.take limit) :
    (rows.take limit).length = limit ∧ ∀ other ∈ rows.take limit, number other < number item := by
  have behind : item ∈ rows.drop limit := by
    rw [← List.take_append_drop limit rows, List.mem_append] at listed
    exact listed.resolve_left untaken
  constructor
  · have more := List.length_pos_of_mem behind
    rw [List.length_drop] at more
    rw [List.length_take]
    omega
  · intro other taken
    rw [← List.take_append_drop limit rows] at ascends
    exact (List.pairwise_append.mp ascends).2.2 other taken item behind

end Cursor

end Table

namespace Serial

variable {Row : Type*} {key : Row → Nat}

theorem ext_rows {first second : Serial Row key} (rows : first.rows = second.rows)
    (next : first.next = second.next) : first = second := by
  obtain ⟨⟨_, _⟩, _, _, _⟩ := first
  obtain ⟨⟨_, _⟩, _, _, _⟩ := second
  simp only at rows next
  subst rows next
  rfl

def empty : Serial Row key where
  toTable := Table.empty
  next := 1
  positive := Nat.one_pos
  bounded := by simp [Table.empty]

def update (table : Serial Row key) (select : Row → Bool) (change : Row → Row)
    (keyed : ∀ row, key (change row) = key row) : Serial Row key where
  toTable := table.toTable.update select change keyed
  next := table.next
  positive := table.positive
  bounded := by
    intro row present
    obtain ⟨old, there, rfl⟩ := Table.mem_update.mp present
    have := table.bounded old there
    split <;> simpa [keyed] using this

def remove (table : Serial Row key) (select : Row → Bool) : Serial Row key where
  toTable := table.toTable.remove select
  next := table.next
  positive := table.positive
  bounded := fun row present => table.bounded row (List.mem_of_mem_filter present)

/-- An insert gives the row the next key of the sequence. -/
def insert (table : Serial Row key) (build : Nat → Row) (keyed : ∀ id, key (build id) = id) :
    Serial Row key where
  toTable := table.toTable.add (build table.next) fun other present => by
    rw [keyed]
    exact Nat.ne_of_lt (table.bounded other present).2
  next := table.next + 1
  positive := Nat.succ_pos _
  bounded := by
    intro row present
    rcases List.mem_append.mp present with old | new
    · have := table.bounded row old
      omega
    · obtain rfl : row = build table.next := by simpa using new
      have := table.positive
      rw [keyed]
      omega

theorem remove_nothing (table : Serial Row key) {select : Row → Bool}
    (nothing : ∀ row ∈ table.rows, select row = false) : table.remove select = table := by
  apply ext_rows
  · apply List.filter_eq_self.mpr
    intro row present
    rw [nothing row present]
    rfl
  · rfl

/-- No row has the key zero, so excluding it excludes nothing. -/
theorem any_and_key_ne_zero (table : Serial Row key) (select : Row → Bool) :
    (table.rows.any fun row => select row && key row ≠ 0) = table.rows.any select := by
  rw [Bool.eq_iff_iff, List.any_eq_true, List.any_eq_true]
  apply exists_congr
  intro row
  apply and_congr_right
  intro present
  have positive := (table.bounded row present).1
  simp only [Bool.and_eq_true, decide_eq_true_eq, ne_eq, and_iff_left_iff_imp]
  omega

@[simp] theorem insert_rows (table : Serial Row key) (build : Nat → Row)
    (keyed : ∀ id, key (build id) = id) :
    (table.insert build keyed).rows = table.rows ++ [build table.next] := rfl

@[simp] theorem insert_next (table : Serial Row key) (build : Nat → Row)
    (keyed : ∀ id, key (build id) = id) : (table.insert build keyed).next = table.next + 1 := rfl

@[simp] theorem remove_next (table : Serial Row key) (select : Row → Bool) :
    (table.remove select).next = table.next := rfl

end Serial

end DiskServer.Library
