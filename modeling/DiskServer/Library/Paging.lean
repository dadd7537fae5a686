import Mathlib.Data.List.Perm.Basic
import Mathlib.Data.List.Sort

/-
This file states when the pages of an ordered list show each row once, although rows that are equal under
the order may come in any order for each page.
-/

namespace DiskServer.Library

variable {Row : Type*}

/-- A database puts rows in an order of its choice that agrees with what the query asks for. -/
structure Arrangement (le : Row → Row → Prop) where
  sort : List Row → List Row
  perm : ∀ rows, (sort rows).Perm rows
  ordered : ∀ rows, (sort rows).Pairwise le

/-- The database may keep rows that are equal under the order as they come. -/
def Arrangement.stable (le : Row → Row → Prop) [DecidableRel le] [IsTrans Row le] [Std.Total le] :
    Arrangement le where
  sort := fun rows => rows.mergeSort fun first second => le first second
  perm := fun rows => List.mergeSort_perm rows _
  ordered := fun rows => List.pairwise_mergeSort' le rows

/-- A descending order by one column. -/
def Descending (column : Row → Int) (first second : Row) : Prop := column second ≤ column first

section Descending

variable (column : Row → Int)

instance : DecidableRel (Descending column) := fun first second =>
  inferInstanceAs (Decidable (column second ≤ column first))

instance : IsTrans Row (Descending column) where
  trans := fun _ _ _ below above => Int.le_trans above below

instance : Std.Total (Descending column) where
  total := fun first second => Int.le_total (column second) (column first)

end Descending

/-- The order of a comparison. -/
def AtMost (cmp : Row → Row → Ordering) (first second : Row) : Prop := (cmp first second).isLE = true

section Comparisons

variable {cmp other : Row → Row → Ordering}

instance : DecidableRel (AtMost cmp) := fun first second => inferInstanceAs (Decidable ((cmp first second).isLE = true))

instance [Std.TransCmp cmp] : IsTrans Row (AtMost cmp) where
  trans := fun _ _ _ below above => Std.TransCmp.isLE_trans below above

instance [Std.TransCmp cmp] : Std.Total (AtMost cmp) where
  total := by
    intro first second
    have swapped : cmp second first = (cmp first second).swap := Std.OrientedCmp.eq_swap
    unfold AtMost
    rw [swapped]
    cases cmp first second <;> decide

/-- Two rows that are equal under the order of a comparison are equal under the comparison. -/
theorem AtMost.eq_of_both [Std.OrientedCmp cmp] {first second : Row} (below : AtMost cmp first second)
    (above : AtMost cmp second first) : cmp first second = .eq := by
  unfold AtMost at below above
  have swapped : cmp second first = (cmp first second).swap := Std.OrientedCmp.eq_swap
  rw [swapped] at above
  cases same : cmp first second with
  | eq => rfl
  | lt =>
      rw [same] at above
      cases above
  | gt =>
      rw [same] at below
      cases below

theorem transCmp_comap {Key : Type*} {compareKeys : Key → Key → Ordering} (trans : Std.TransCmp compareKeys)
    (key : Row → Key) : Std.TransCmp fun first second => compareKeys (key first) (key second) where
  eq_swap := Std.OrientedCmp.eq_swap
  isLE_trans := Std.TransCmp.isLE_trans

theorem transCmp_then (first : Std.TransCmp cmp) (second : Std.TransCmp other) :
    Std.TransCmp fun one two => (cmp one two).then (other one two) :=
  inferInstanceAs (Std.TransCmp (compareLex cmp other))

theorem transCmp_eq : Std.TransCmp fun _ _ : Row => Ordering.eq where
  eq_swap := rfl
  isLE_trans := fun _ _ => rfl

theorem transCmp_swap (trans : Std.TransCmp cmp) : Std.TransCmp fun first second => (cmp first second).swap := by
  have same : (fun first second => (cmp first second).swap) = fun first second => cmp second first := by
    funext first second
    exact Std.OrientedCmp.eq_swap.symm
  rw [same]
  exact Std.TransCmp.opposite

end Comparisons

/-- The rows that a query with a limit and an offset returns. -/
def cut (limit offset : Nat) (rows : List Row) : List Row := (rows.drop offset).take limit

/-- No two rows that can stand on both sides of a page boundary are equal under the order. -/
def Separated (le : Row → Row → Prop) (size : Nat) (rows : List Row) : Prop :=
  ∀ before last first after, (before ++ last :: first :: after).Perm rows →
    (before ++ last :: first :: after).Pairwise le → size ∣ before.length + 1 → ¬le first last

/-- The first pages of a list, each cut from an arrangement of its own. -/
def pagesOf {le : Row → Row → Prop} (choose : Nat → Arrangement le) (size count : Nat) (rows : List Row) :
    List Row :=
  (List.range count).flatMap fun page => cut size (page * size) ((choose page).sort rows)

section Cuts

variable {le : Row → Row → Prop} {size : Nat} {rows : List Row}

theorem take_succ_mul (page : Nat) (rows : List Row) :
    rows.take ((page + 1) * size) = rows.take (page * size) ++ cut size (page * size) rows := by
  rw [Nat.succ_mul, List.take_add]
  rfl

/-- Pages of one arrangement put together are its beginning. -/
theorem flatMap_cut (count : Nat) (rows : List Row) :
    (List.range count).flatMap (fun page => cut size (page * size) rows) = rows.take (count * size) := by
  induction count with
  | zero => simp
  | succ count ih =>
      rw [List.range_succ, List.flatMap_append, ih, List.flatMap_singleton]
      exact (take_succ_mul count rows).symm

/-- Pages that are all cut from one arrangement show each row once. -/
theorem pagesOf_const_perm (arrangement : Arrangement le) {count : Nat} (enough : rows.length ≤ count * size) :
    (pagesOf (fun _ => arrangement) size count rows).Perm rows := by
  unfold pagesOf
  rw [flatMap_cut, List.take_of_length_le ((arrangement.perm rows).length_eq ▸ enough)]
  exact arrangement.perm rows

theorem pagesOf_subset (choose : Nat → Arrangement le) (count : Nat) (rows : List Row) :
    pagesOf choose size count rows ⊆ rows := by
  intro row shown
  obtain ⟨page, _, present⟩ := List.mem_flatMap.mp shown
  exact ((choose page).perm rows).mem_iff.mp (List.mem_of_mem_drop (List.mem_of_mem_take present))

theorem cut_eq_nil_iff (positive : 0 < size) (offset : Nat) :
    cut size offset rows = [] ↔ rows.length ≤ offset := by
  unfold cut
  rw [List.take_eq_nil_iff, List.drop_eq_nil_iff]
  omega

theorem mem_cut_of_getElem? {offset index : Nat} {row : Row} (above : offset ≤ index)
    (below : index < offset + size) (found : rows[index]? = some row) : row ∈ cut size offset rows := by
  obtain ⟨distance, rfl⟩ := Nat.exists_eq_add_of_le above
  apply List.mem_iff_getElem?.mpr
  refine ⟨distance, ?_⟩
  unfold cut
  rw [List.getElem?_take_of_lt (by omega), List.getElem?_drop]
  exact found

/-- An ordered list begins with the rows that a downward closed choice selects. -/
theorem filter_append_of_ordered (select : Row → Bool)
    (down : ∀ first second, le first second → select second = true → select first = true)
    (ordered : rows.Pairwise le) :
    rows.filter select ++ rows.filter (fun row => !select row) = rows := by
  induction rows with
  | nil => rfl
  | cons row rest ih =>
      obtain ⟨least, ordered⟩ := List.pairwise_cons.mp ordered
      cases chosen : select row with
      | true => simp [chosen, ih ordered]
      | false =>
          have none : ∀ other ∈ rest, select other = false := by
            intro other listed
            by_contra found
            have contrary := down row other (least other listed) (by simpa using found)
            exact Bool.false_ne_true (chosen.symm.trans contrary)
          have nothing : rest.filter select = [] := by
            apply List.filter_eq_nil_iff.mpr
            intro other listed
            simp [none other listed]
          have everything : (rest.filter fun other => !select other) = rest := by
            apply List.filter_eq_self.mpr
            intro other listed
            simp [none other listed]
          simp [chosen, nothing, everything]

end Cuts

/-- Rows that are equal under the order only if they are the same are separated by any boundary. -/
theorem separated_of_antisymm {le : Row → Row → Prop} {size : Nat} {rows : List Row} (once : rows.Nodup)
    (antisymm : ∀ one ∈ rows, ∀ two ∈ rows, le one two → le two one → one = two) :
    Separated le size rows := by
  intro before last next after same sorted _ reached
  have distinct := same.nodup_iff.mpr once
  obtain ⟨-, apart, -⟩ := List.nodup_append.mp distinct
  obtain ⟨-, upper, -⟩ := List.pairwise_append.mp sorted
  have least := (List.pairwise_cons.mp upper).1 next (List.mem_cons_self ..)
  have equal := antisymm last (same.subset (by simp)) next (same.subset (by simp)) least reached
  exact (List.nodup_cons.mp apart).1 (equal ▸ List.mem_cons_self ..)

section Partition

variable {le : Row → Row → Prop} [IsTrans Row le] [Std.Total le] {size : Nat} {rows first second : List Row}

open Classical in
/-- What stands before a boundary is what lies strictly below the row behind it. -/
theorem take_perm_of_boundary {before after : List Row} {last next : Row}
    (sorted : (before ++ last :: next :: after).Pairwise le) (above : ¬le next last)
    (ordered : second.Pairwise le) (same : (before ++ last :: next :: after).Perm second) :
    (before ++ [last]).Perm (second.take (before.length + 1)) := by
  have joined : before ++ last :: next :: after = (before ++ [last]) ++ next :: after := by simp
  rw [joined] at sorted same
  obtain ⟨lower, upper, -⟩ := List.pairwise_append.mp sorted
  have below : ∀ row ∈ before ++ [last], ¬le next row := by
    intro row listed reached
    apply above
    rcases List.mem_append.mp listed with earlier | only
    · have least := (List.pairwise_append.mp lower).2.2 row earlier last (List.mem_singleton_self last)
      exact Trans.trans reached least
    · obtain rfl := List.mem_singleton.mp only
      exact reached
  have reached : ∀ row ∈ next :: after, le next row := by
    intro row listed
    rcases List.mem_cons.mp listed with rfl | later
    · exact (total_of le row row).elim id id
    · exact (List.pairwise_cons.mp upper).1 row later
  have down : ∀ one two, le one two → decide (¬le next two) = true → decide (¬le next one) = true := by
    intro one two least strict
    simp only [decide_eq_true_eq] at strict ⊢
    exact fun reached => strict (Trans.trans reached least)
  have chosen : ((before ++ [last]) ++ next :: after).filter (fun row => decide (¬le next row)) =
      before ++ [last] := by
    rw [List.filter_append, List.filter_eq_self.mpr fun row listed => decide_eq_true (below row listed),
      List.filter_eq_nil_iff.mpr fun row listed => by simp [reached row listed], List.append_nil]
  have moved := same.filter fun row => decide (¬le next row)
  rw [chosen] at moved
  have begins := filter_append_of_ordered (fun row => decide (¬le next row)) down ordered
  have length : (second.filter fun row => decide (¬le next row)).length = before.length + 1 := by
    rw [← moved.length_eq, List.length_append, List.length_singleton]
  rw [← begins, List.take_left' length]
  exact moved

/-- Every arrangement has the same rows before a boundary. -/
theorem take_perm_of_separated (separated : Separated le size rows) (one : first.Perm rows)
    (two : second.Perm rows) (sorted : first.Pairwise le) (ordered : second.Pairwise le) (page : Nat) :
    (first.take (page * size)).Perm (second.take (page * size)) := by
  have same : first.Perm second := one.trans two.symm
  rcases Nat.lt_or_ge (page * size) first.length with inside | outside
  · rcases Nat.eq_zero_or_pos (page * size) with zero | positive
    · rw [zero]
      exact List.Perm.refl _
    · obtain ⟨place, boundary⟩ := Nat.exists_eq_add_of_le' positive
      rw [boundary] at inside
      have split : first = first.take place ++ first[place] :: first[place + 1] :: first.drop (place + 2) := by
        rw [List.getElem_cons_drop, List.getElem_cons_drop, List.take_append_drop]
      have length : (first.take place).length = place := List.length_take_of_le (by omega)
      have above := separated (first.take place) first[place] first[place + 1] (first.drop (place + 2))
        (by rw [← split]; exact one) (by rw [← split]; exact sorted)
        (by rw [length, ← boundary]; exact ⟨page, Nat.mul_comm page size⟩)
      have begins := take_perm_of_boundary (split ▸ sorted) above ordered (split ▸ same)
      rw [length] at begins
      rw [boundary, List.take_succ_eq_append_getElem (by omega)]
      exact begins
  · rw [List.take_of_length_le outside, List.take_of_length_le (same.length_eq ▸ outside)]
    exact same

theorem cut_perm_of_separated (separated : Separated le size rows) (one : first.Perm rows)
    (two : second.Perm rows) (sorted : first.Pairwise le) (ordered : second.Pairwise le) (page : Nat) :
    (cut size (page * size) first).Perm (cut size (page * size) second) := by
  have before := take_perm_of_separated separated one two sorted ordered page
  have after := take_perm_of_separated separated one two sorted ordered (page + 1)
  rw [take_succ_mul, take_succ_mul] at after
  exact (List.perm_append_left_iff _).mp (after.trans (before.symm.append_right _))

/-- Pages that are separated show each row once, whatever arrangement each of them is cut from. -/
theorem pagesOf_perm (separated : Separated le size rows) (choose : Nat → Arrangement le) {count : Nat}
    (enough : rows.length ≤ count * size) : (pagesOf choose size count rows).Perm rows := by
  have same : (pagesOf choose size count rows).Perm
      ((List.range count).flatMap fun page => cut size (page * size) ((choose 0).sort rows)) := by
    apply List.Perm.flatMap_left (List.range count)
    intro page _
    exact cut_perm_of_separated separated ((choose page).perm rows) ((choose 0).perm rows)
      ((choose page).ordered rows) ((choose 0).ordered rows) page
  rw [flatMap_cut, List.take_of_length_le (((choose 0).perm rows).length_eq ▸ enough)] at same
  exact same.trans ((choose 0).perm rows)

end Partition

section Converse

variable {le : Row → Row → Prop} {size : Nat} {rows : List Row}

open Classical in
/-- The arrangement that puts some rows into a given order. -/
noncomputable def Arrangement.put (default : Arrangement le) (rows sorted : List Row)
    (same : sorted.Perm rows) (ordered : sorted.Pairwise le) : Arrangement le where
  sort := fun input => if input = rows then sorted else default.sort input
  perm := by
    intro input
    split
    · rename_i equal
      exact equal ▸ same
    · exact default.perm input
  ordered := by
    intro input
    split
    · exact ordered
    · exact default.ordered input

theorem Arrangement.sort_put (default : Arrangement le) {sorted : List Row} (same : sorted.Perm rows)
    (ordered : sorted.Pairwise le) : (default.put rows sorted same ordered).sort rows = sorted :=
  if_pos rfl

theorem pairwise_swap {before after : List Row} {last next : Row}
    (sorted : (before ++ last :: next :: after).Pairwise le) (reached : le next last) :
    (before ++ next :: last :: after).Pairwise le := by
  obtain ⟨lower, upper, across⟩ := List.pairwise_append.mp sorted
  obtain ⟨least, upper⟩ := List.pairwise_cons.mp upper
  obtain ⟨second, upper⟩ := List.pairwise_cons.mp upper
  apply List.pairwise_append.mpr
  refine ⟨lower, ?_, ?_⟩
  · apply List.pairwise_cons.mpr
    refine ⟨?_, List.pairwise_cons.mpr ⟨fun row listed => least row (List.mem_cons_of_mem _ listed), upper⟩⟩
    intro row listed
    rcases List.mem_cons.mp listed with rfl | later
    · exact reached
    · exact second row later
  · intro row earlier other listed
    apply across row earlier
    rcases List.mem_cons.mp listed with rfl | later
    · exact List.mem_cons_of_mem _ (List.mem_cons_self ..)
    · rcases List.mem_cons.mp later with rfl | behind
      · exact List.mem_cons_self ..
      · exact List.mem_cons_of_mem _ (List.mem_cons_of_mem _ behind)

/-- Two rows that are equal under the order at a boundary can show one of them twice. -/
theorem separated_of_pagesOf_perm (default : Arrangement le) (once : rows.Nodup) (positive : 0 < size)
    {count : Nat} (enough : rows.length ≤ count * size)
    (partition : ∀ choose : Nat → Arrangement le, (pagesOf choose size count rows).Perm rows) :
    Separated le size rows := by
  rintro before last next after same sorted ⟨page, boundary⟩ reached
  have swapped : (before ++ next :: last :: after).Perm rows :=
    ((List.Perm.swap last next after).append_left before).trans same
  have length := same.length_eq
  simp only [List.length_append, List.length_cons] at length
  obtain ⟨previous, rfl⟩ : ∃ previous, page = previous + 1 := by
    cases page with
    | zero => omega
    | succ previous => exact ⟨previous, rfl⟩
  have places : (previous + 1) * size = before.length + 1 := by rw [boundary, Nat.mul_comm]
  have inside : previous + 1 < count := by
    by_contra outside
    have fewer : count * size ≤ (previous + 1) * size := Nat.mul_le_mul_right size (by omega)
    omega
  let choose : Nat → Arrangement le := fun page =>
    if page = previous then default.put rows _ same sorted
    else default.put rows _ swapped (pairwise_swap sorted reached)
  have distinct := (partition choose).nodup_iff.mpr once
  have apart := (List.nodup_flatMap.mp distinct).2
  have early : last ∈ cut size (previous * size) ((choose previous).sort rows) := by
    have sort : (choose previous).sort rows = before ++ last :: next :: after := by
      simp only [choose, if_true, Arrangement.sort_put]
    rw [sort]
    refine mem_cut_of_getElem? (?_ : previous * size ≤ before.length) ?_ ?_
    · rw [Nat.succ_mul] at places
      omega
    · rw [Nat.succ_mul] at places
      omega
    · simp
  have late : last ∈ cut size ((previous + 1) * size) ((choose (previous + 1)).sort rows) := by
    have sort : (choose (previous + 1)).sort rows = before ++ next :: last :: after := by
      simp only [choose, Nat.succ_ne_self, if_false, Arrangement.sort_put]
    rw [sort]
    refine mem_cut_of_getElem? (?_ : (previous + 1) * size ≤ before.length + 1) ?_ ?_
    · omega
    · omega
    · simp
  have disjoint := List.pairwise_iff_getElem.mp apart previous (previous + 1)
    (by simpa using by omega) (by simpa using inside) (Nat.lt_succ_self _)
  simp only [List.getElem_range, Function.onFun] at disjoint
  exact disjoint early late

end Converse

section Numbers

variable {page size : Int32} {count : Nat}

/-- The offset of a page computed in 32 bits. -/
def offset32 (page size : Int32) : Int32 := (page - 1) * size

/-- The number of pages computed in 32 bits from a total. -/
def totalPages32 (total size : Int32) : Int32 := if 0 < size then (total + size - 1) / size else 0

/-- The number of pages that hold rows. -/
def pageCount (size count : Nat) : Nat := (count + size - 1) / size

theorem offset32_toInt_iff (first : 1 ≤ page) (positive : 0 < size) :
    (offset32 page size).toInt = (page.toInt - 1) * size.toInt ↔ (page.toInt - 1) * size.toInt < 2147483648 := by
  have least : 1 ≤ page.toInt := Int32.le_iff_toInt_le.mp first
  have one : 0 < size.toInt := Int32.lt_iff_toInt_lt.mp positive
  have most : page.toInt < 2147483648 := page.toInt_lt
  have limit : (offset32 page size).toInt < 2147483648 := (offset32 page size).toInt_lt
  have natural : 0 ≤ (page.toInt - 1) * size.toInt := Int.mul_nonneg (by omega) (by omega)
  constructor
  · intro same
    exact same ▸ limit
  · intro small
    have before : (page - 1).toInt = page.toInt - 1 := by
      rw [Int32.toInt_sub]
      exact Int.bmod_eq_of_le (by change -(4294967296 / 2) ≤ page.toInt - 1; omega)
        (by change page.toInt - 1 < (4294967296 + 1) / 2; omega)
    unfold offset32
    rw [Int32.toInt_mul, before]
    exact Int.bmod_eq_of_le (by change -(4294967296 / 2) ≤ _; omega)
      (by change _ < (4294967296 + 1) / 2; omega)

theorem pageCount_lt_iff {index : Nat} {size : Nat} (positive : 0 < size) :
    index < pageCount size count ↔ index * size < count := by
  unfold pageCount
  rw [← Nat.succ_le_iff, Nat.le_div_iff_mul_le positive, Nat.succ_mul]
  omega

theorem le_pageCount_mul {size : Nat} (positive : 0 < size) : count ≤ pageCount size count * size := by
  by_contra short
  exact Nat.lt_irrefl _ ((pageCount_lt_iff positive).mpr (Nat.not_le.mp short))

theorem toInt_numerator (count : Nat) (size : Int32) :
    (Int32.ofNat count + size - 1).toInt = ((count : Int) + size.toInt - 1).bmod 4294967296 := by
  rw [Int32.toInt_sub, Int32.toInt_add, Int32.toInt_ofNat']
  change (((((count : Int).bmod 4294967296) + size.toInt).bmod 4294967296) - 1).bmod 4294967296 = _
  rw [Int.bmod_sub_bmod, Int.add_sub_assoc, Int.bmod_add_bmod, Int.add_sub_assoc]

/-- A number that is cut to 32 bits loses a multiple of their range. -/
theorem bmod_le_of_large {number : Int} (large : 2147483648 ≤ number) :
    number.bmod 4294967296 ≤ number - 4294967296 := by
  rw [Int.bmod_def]
  split <;> omega

theorem totalPages32_toInt_iff (positive : 0 < size) :
    (totalPages32 (Int32.ofNat count) size).toInt = pageCount size.toInt.toNat count ↔
      (count : Int) + size.toInt ≤ 2147483648 := by
  have one : 0 < size.toInt := Int32.lt_iff_toInt_lt.mp positive
  have limit : size.toInt < 2147483648 := size.toInt_lt
  have pages : (pageCount size.toInt.toNat count : Int) = ((count : Int) + size.toInt - 1) / size.toInt := by
    unfold pageCount
    rw [Int.natCast_ediv, Int.toNat_of_nonneg one.le]
    congr 1
    omega
  have unsigned : size ≠ -1 := by
    rintro rfl
    exact absurd one (by decide)
  unfold totalPages32
  rw [if_pos positive, Int32.toInt_div_of_ne_right _ _ unsigned, toInt_numerator, pages]
  constructor
  · intro same
    by_contra large
    have below : ((count : Int) + size.toInt - 1).bmod 4294967296 ≤
        (count : Int) + size.toInt - 1 - 4294967296 := bmod_le_of_large (by omega)
    have fewer : ((count : Int) + size.toInt - 1 - 4294967296) / size.toInt <
        ((count : Int) + size.toInt - 1) / size.toInt := by
      apply Int.ediv_lt_of_lt_mul one
      have whole := Int.lt_ediv_add_one_mul_self ((count : Int) + size.toInt - 1) one
      rw [Int.add_mul, Int.one_mul] at whole
      omega
    have least : 1 ≤ ((count : Int) + size.toInt - 1) / size.toInt :=
      Int.le_ediv_of_mul_le one (by omega)
    rcases Int.lt_trichotomy (((count : Int) + size.toInt - 1).bmod 4294967296) 0 with negative | zero | kept
    · have flipped : 0 ≤ (-((count : Int) + size.toInt - 1).bmod 4294967296).tdiv size.toInt :=
        Int.tdiv_nonneg (by omega) one.le
      rw [Int.neg_tdiv] at flipped
      omega
    · rw [zero, Int.zero_tdiv] at same
      omega
    · rw [Int.tdiv_eq_ediv_of_nonneg kept.le] at same
      have less := Int.ediv_le_ediv one below
      omega
  · intro small
    have kept : ((count : Int) + size.toInt - 1).bmod 4294967296 = (count : Int) + size.toInt - 1 :=
      Int.bmod_eq_of_le (by omega) (by omega)
    rw [kept, Int.tdiv_eq_ediv_of_nonneg (by omega)]

end Numbers

section Listings

variable {Item : Type*} {le : Row → Row → Prop}

/-- A list over rows that do not change: the shown items, the computed offset, and the items and number of
pages for a request. -/
structure Listing (Item : Type*) (le : Row → Row → Prop) where
  rows : List Row
  item : Row → Item
  offset : Int32 → Int32 → Int
  answer : Arrangement le → Int32 → Int32 → Option (List Item × Int)

variable (listing : Listing Item le)

/-- The items of the first pages, each from an arrangement of its own. -/
def Listing.fetch (choose : Nat → Arrangement le) (size : Int32) (count : Nat) : List Item :=
  (List.range count).flatMap fun index =>
    ((listing.answer (choose index) (Int32.ofNat (index + 1)) size).map Prod.fst).getD []

/-- The number of pages that hold rows. -/
def Listing.pages (size : Int32) : Nat := pageCount size.toInt.toNat listing.rows.length

/-- The offset of a page is exact, all pages together show each row once, and the page has the right number of pages
and items exactly if it is one of them. -/
structure Listing.PagesRight (page size : Int32) : Prop where
  offset : listing.offset page size = (page.toInt - 1) * size.toInt
  partition : ∀ choose, (listing.fetch choose size (listing.pages size)).Perm (listing.rows.map listing.item)
  answered : ∀ arrangement, ∃ items total, listing.answer arrangement page size = some (items, total) ∧
    total = listing.pages size ∧ (items ≠ [] ↔ page.toInt ≤ listing.pages size)

/-- A list that cuts its pages at the offset, where the offset is exact, and that counts pages from a total. -/
structure Listing.Cuts (small : Int → Prop) (fits : Prop) (size : Int32) : Prop where
  least : ∀ offset : Int, offset < 2147483648 → small offset
  offset_iff : ∀ page : Int32, 1 ≤ page →
    (listing.offset page size = (page.toInt - 1) * size.toInt ↔ small ((page.toInt - 1) * size.toInt))
  answer : ∃ total : Option Int, (total = some (listing.pages size : Int) ↔ fits) ∧
    ∀ arrangement (page : Int32), 1 ≤ page → listing.offset page size = (page.toInt - 1) * size.toInt →
      listing.answer arrangement page size = total.map fun total =>
        ((cut size.toInt.toNat ((page.toInt - 1) * size.toInt).toNat (arrangement.sort listing.rows)).map listing.item,
          total)
  few : fits → listing.rows.length < 2147483648
  distinct : (listing.rows.map listing.item).Nodup

variable {listing} {small : Int → Prop} {fits : Prop} {page size : Int32}

/-- The answer to one page of a list whose number of pages fits. -/
theorem Listing.Cuts.answer_eq (cuts : listing.Cuts small fits size) (fit : fits) (arrangement : Arrangement le)
    (first : 1 ≤ page) (exact : small ((page.toInt - 1) * size.toInt)) :
    listing.answer arrangement page size = some ((cut size.toInt.toNat ((page.toInt - 1) * size.toInt).toNat
      (arrangement.sort listing.rows)).map listing.item, (listing.pages size : Int)) := by
  obtain ⟨total, right, answer⟩ := cuts.answer
  rw [answer arrangement page first ((cuts.offset_iff page first).mpr exact), right.mpr fit]
  rfl

theorem Listing.Cuts.fetch_eq (cuts : listing.Cuts small fits size) (fit : fits) (positive : 0 < size)
    (choose : Nat → Arrangement le) : listing.fetch choose size (listing.pages size) =
      (pagesOf choose size.toInt.toNat (listing.pages size) listing.rows).map listing.item := by
  have one : 0 < size.toInt := Int32.lt_iff_toInt_lt.mp positive
  have natural : (size.toInt.toNat : Int) = size.toInt := Int.toNat_of_nonneg one.le
  have few := cuts.few fit
  unfold fetch pagesOf
  rw [List.map_flatMap]
  apply List.flatMap_congr
  intro index listed
  have inside : index * size.toInt.toNat < listing.rows.length :=
    (pageCount_lt_iff (by omega)).mp (List.mem_range.mp listed)
  have least : index * 1 ≤ index * size.toInt.toNat := Nat.mul_le_mul_left index (by omega)
  have number : (Int32.ofNat (index + 1)).toInt = index + 1 := Int32.toInt_ofNat_of_lt (by omega)
  have first : 1 ≤ Int32.ofNat (index + 1) := Int32.le_iff_toInt_le.mpr (by rw [number]; change 1 ≤ _; omega)
  have place : ((Int32.ofNat (index + 1)).toInt - 1) * size.toInt = ((index * size.toInt.toNat : Nat) : Int) := by
    rw [number, Int.add_sub_cancel, Int.natCast_mul, natural]
  have exact : small (((Int32.ofNat (index + 1)).toInt - 1) * size.toInt) := cuts.least _ (by rw [place]; omega)
  rw [cuts.answer_eq fit (choose index) first exact, place, Int.toNat_natCast]
  rfl

/-- Rows whose items are the items of the list are the rows of the list. -/
theorem Listing.perm_of_items (distinct : (listing.rows.map listing.item).Nodup) {rows : List Row}
    (inside : rows ⊆ listing.rows) (shown : (rows.map listing.item).Perm (listing.rows.map listing.item)) :
    rows.Perm listing.rows := by
  have once : rows.Nodup := List.Nodup.of_map _ (shown.nodup_iff.mpr distinct)
  have length := shown.length_eq
  rw [List.length_map, List.length_map] at length
  exact (List.subperm_of_subset once inside).perm_of_length_le length.ge

/-- Pages are right exactly where the offset and the number of pages fit into their types and no rows that are equal
under the order meet at a page boundary. -/
theorem Listing.Cuts.fetches_right_iff [DecidableRel le] [IsTrans Row le] [Std.Total le]
    (cuts : listing.Cuts small fits size) (first : 1 ≤ page) (positive : 0 < size) :
    listing.PagesRight page size ↔
      small ((page.toInt - 1) * size.toInt) ∧ fits ∧ Separated le size.toInt.toNat listing.rows := by
  have one : 0 < size.toInt := Int32.lt_iff_toInt_lt.mp positive
  have natural : (size.toInt.toNat : Int) = size.toInt := Int.toNat_of_nonneg one.le
  have least : 1 ≤ page.toInt := Int32.le_iff_toInt_le.mp first
  have enough : listing.rows.length ≤ listing.pages size * size.toInt.toNat := le_pageCount_mul (by omega)
  constructor
  · intro right
    have exact := (cuts.offset_iff page first).mp right.offset
    have fit : fits := by
      obtain ⟨total, iff, answer⟩ := cuts.answer
      obtain ⟨items, pages, same, equal, -⟩ := right.answered (Arrangement.stable le)
      rw [answer _ page first right.offset] at same
      cases total with
      | none => cases same
      | some counted =>
          rw [← equal] at iff
          exact iff.mp (congrArg some (congrArg Prod.snd (Option.some.inj same)))
    refine ⟨exact, fit, ?_⟩
    apply separated_of_pagesOf_perm (Arrangement.stable le) (List.Nodup.of_map _ cuts.distinct) (by omega) enough
    intro choose
    apply perm_of_items cuts.distinct (pagesOf_subset choose _ _)
    rw [← cuts.fetch_eq fit positive choose]
    exact right.partition choose
  · rintro ⟨exact, fit, separated⟩
    refine ⟨(cuts.offset_iff page first).mpr exact, ?_, ?_⟩
    · intro choose
      rw [cuts.fetch_eq fit positive choose]
      exact (pagesOf_perm separated choose enough).map _
    · intro arrangement
      refine ⟨_, _, cuts.answer_eq fit arrangement first exact, rfl, ?_⟩
      have length : (arrangement.sort listing.rows).length = listing.rows.length :=
        (arrangement.perm listing.rows).length_eq
      obtain ⟨before, same⟩ := Int.eq_ofNat_of_zero_le (show 0 ≤ page.toInt - 1 by omega)
      have place : ((page.toInt - 1) * size.toInt).toNat = before * size.toInt.toNat := by
        rw [same, ← natural, ← Int.natCast_mul, Int.toNat_natCast, Int.toNat_natCast]
      rw [place, Ne, List.map_eq_nil_iff, cut_eq_nil_iff (by omega), length, Nat.not_le,
        ← pageCount_lt_iff (by omega)]
      change before < listing.pages size ↔ _
      omega

end Listings

end DiskServer.Library
