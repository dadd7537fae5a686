import DiskServer.Library.Blocks

/-
This file gives the full blocks of a stream of items with the rest that waits for the next block, and streams
that hand out the items of a list in reads of any size.
-/

namespace DiskServer.Library.BlockStream

variable {Item : Type*}

/-- The full blocks of a list, in order. -/
def blocks (size : Nat) (data : List Item) : List (List Item) :=
  (List.range (data.length / size)).map fun index => (data.drop (index * size)).take size

/-- The items behind the last full block. -/
def rest (size : Nat) (data : List Item) : List Item := data.drop (data.length / size * size)

variable {size : Nat} {data more : List Item}

theorem blocks_of_lt (short : data.length < size) : blocks size data = [] := by
  rw [blocks, Nat.div_eq_of_lt short]
  rfl

theorem rest_of_lt (short : data.length < size) : rest size data = data := by
  rw [rest, Nat.div_eq_of_lt short, Nat.zero_mul, List.drop_zero]

theorem length_drop_div (positive : 0 < size) (long : size ≤ data.length) :
    data.length / size = (data.drop size).length / size + 1 := by
  rw [List.length_drop, ← Nat.div_eq_sub_div positive long]

theorem blocks_of_le (positive : 0 < size) (long : size ≤ data.length) :
    blocks size data = data.take size :: blocks size (data.drop size) := by
  rw [blocks, blocks, length_drop_div positive long, List.range_succ_eq_map, List.map_cons,
    List.map_map, Nat.zero_mul, List.drop_zero]
  congr 1
  apply List.map_congr_left
  intro index _
  change (data.drop ((index + 1) * size)).take size = ((data.drop size).drop (index * size)).take size
  rw [List.drop_drop, Nat.succ_mul, Nat.add_comm]

theorem rest_of_le (positive : 0 < size) (long : size ≤ data.length) :
    rest size data = rest size (data.drop size) := by
  rw [rest, rest, List.drop_drop, length_drop_div positive long, Nat.succ_mul, Nat.add_comm]

/-- A list of the size of a block is one block without a rest. -/
theorem of_length_eq (positive : 0 < size) (exact : data.length = size) :
    blocks size data = [data] ∧ rest size data = [] := by
  have whole : data.drop size = [] := List.drop_eq_nil_of_le (Nat.le_of_eq exact)
  rw [blocks_of_le positive (Nat.le_of_eq exact.symm), rest_of_le positive (Nat.le_of_eq exact.symm),
    whole, blocks_of_lt positive, rest_of_lt positive, List.take_of_length_le (Nat.le_of_eq exact)]
  exact ⟨rfl, rfl⟩

theorem rest_length (size : Nat) (data : List Item) : (rest size data).length = data.length % size := by
  have division := Nat.div_add_mod' data.length size
  rw [rest, List.length_drop]
  omega

/-- The blocks and the rest are the whole list again. -/
theorem blocks_flatten_append_rest (positive : 0 < size) (data : List Item) :
    (blocks size data).flatten ++ rest size data = data := by
  induction length : data.length using Nat.strong_induction_on generalizing data with
  | _ bound continues =>
      rcases Nat.lt_or_ge data.length size with short | long
      · rw [blocks_of_lt short, rest_of_lt short]
        rfl
      · have shorter : (data.drop size).length < bound := by
          rw [List.length_drop]
          omega
        rw [blocks_of_le positive long, rest_of_le positive long, List.flatten_cons,
          List.append_assoc, continues _ shorter (data.drop size) rfl, List.take_append_drop]

/-- More data completes the blocks that the rest began. -/
theorem append_eq (positive : 0 < size) (data more : List Item) :
    blocks size (data ++ more) = blocks size data ++ blocks size (rest size data ++ more) ∧
      rest size (data ++ more) = rest size (rest size data ++ more) := by
  induction length : data.length using Nat.strong_induction_on generalizing data with
  | _ bound continues =>
      rcases Nat.lt_or_ge data.length size with short | long
      · rw [blocks_of_lt short, rest_of_lt short]
        exact ⟨rfl, rfl⟩
      · have shorter : (data.drop size).length < bound := by
          rw [List.length_drop]
          omega
        have enough : size ≤ (data ++ more).length := by
          rw [List.length_append]
          omega
        obtain ⟨later, remains⟩ := continues _ shorter (data.drop size) rfl
        have tail : (data ++ more).drop size = data.drop size ++ more := List.drop_append_of_le_length long
        have head : (data ++ more).take size = data.take size := List.take_append_of_le_length long
        rw [blocks_of_le positive enough, rest_of_le positive enough, blocks_of_le positive long,
          rest_of_le positive long, tail, head, later, remains]
        exact ⟨rfl, rfl⟩

theorem blocks_append (positive : 0 < size) (data more : List Item) :
    blocks size (data ++ more) = blocks size data ++ blocks size (rest size data ++ more) :=
  (append_eq positive data more).1

theorem rest_append (positive : 0 < size) (data more : List Item) :
    rest size (data ++ more) = rest size (rest size data ++ more) :=
  (append_eq positive data more).2

/-- Lists without a rest are equal when their blocks are. -/
theorem eq_of_blocks_eq (positive : 0 < size) (whole : data.length % size = 0)
    (complete : more.length % size = 0) (same : blocks size data = blocks size more) :
    data = more := by
  have empty : ∀ list : List Item, list.length % size = 0 → rest size list = [] :=
    fun list divides => List.length_eq_zero_iff.mp ((rest_length size list).trans divides)
  have left := blocks_flatten_append_rest positive data
  have right := blocks_flatten_append_rest positive more
  rw [empty data whole, List.append_nil] at left
  rw [empty more complete, List.append_nil] at right
  rw [← left, ← right, same]

/-- A fold that records its blocks folds the same blocks as any other. -/
theorem foldl_record (list : List (List Item)) (first : List (List Item)) :
    list.foldl (fun recorded block => recorded ++ [block]) first = first ++ list := by
  induction list generalizing first with
  | nil => exact (List.append_nil first).symm
  | cons block others continues =>
      rw [List.foldl_cons, continues, List.append_assoc]
      rfl

/-- The full blocks of a list and the rest as a last shorter piece, unless it is empty. -/
def pieces (size : Nat) (data : List Item) : List (List Item) :=
  if rest size data = [] then blocks size data else blocks size data ++ [rest size data]

theorem length_of_mem_blocks {block : List Item} (positive : 0 < size) (present : block ∈ blocks size data) :
    block.length = size := by
  obtain ⟨index, inside, rfl⟩ := List.mem_map.mp present
  have bound : index + 1 ≤ data.length / size := Nat.succ_le_of_lt (List.mem_range.mp inside)
  have long := Nat.mul_le_of_le_div size (index + 1) data.length bound
  have step : (index + 1) * size = index * size + size := Nat.succ_mul index size
  rw [List.length_take, List.length_drop]
  omega

theorem blocks_length : (blocks size data).length = data.length / size := by
  rw [blocks, List.length_map, List.length_range]

theorem pieces_flatten (positive : 0 < size) (data : List Item) : (pieces size data).flatten = data := by
  have whole := blocks_flatten_append_rest positive data
  unfold pieces
  split
  · rename_i empty
    rw [empty, List.append_nil] at whole
    exact whole
  · rw [List.flatten_append, List.flatten_singleton]
    exact whole

theorem blocks_prefix_pieces : blocks size data <+: pieces size data := by
  unfold pieces
  split
  · exact List.prefix_rfl
  · exact List.prefix_append _ _

/-- The blocks of a first part of the data are the first pieces of the whole data. -/
theorem blocks_prefix_pieces_append (positive : 0 < size) (data more : List Item) :
    blocks size data <+: pieces size (data ++ more) := by
  have longer : blocks size data <+: blocks size (data ++ more) := by
    rw [blocks_append positive data more]
    exact List.prefix_append _ _
  exact longer.trans blocks_prefix_pieces

theorem mem_pieces_length (positive : 0 < size) {piece : List Item} (present : piece ∈ pieces size data) :
    0 < piece.length ∧ piece.length ≤ size := by
  have short : (rest size data).length < size := by
    rw [rest_length]
    exact Nat.mod_lt _ positive
  unfold pieces at present
  split at present
  · have full := length_of_mem_blocks positive present
    omega
  · rename_i filled
    rcases List.mem_append.mp present with block | last
    · have full := length_of_mem_blocks positive block
      omega
    · obtain rfl := List.mem_singleton.mp last
      exact ⟨List.length_pos_iff.mpr filled, Nat.le_of_lt short⟩

theorem mem_dropLast_pieces_length (positive : 0 < size) {piece : List Item}
    (present : piece ∈ (pieces size data).dropLast) : piece.length = size := by
  apply length_of_mem_blocks positive
  unfold pieces at present
  split at present
  · exact List.dropLast_subset _ present
  · rwa [List.dropLast_concat] at present

theorem flatten_length_of_full {lists : List (List Item)} (full : ∀ list ∈ lists, list.length = size) :
    lists.flatten.length = lists.length * size := by
  induction lists with
  | nil => exact (Nat.zero_mul size).symm
  | cons first others continues =>
      rw [List.flatten_cons, List.length_append, full first List.mem_cons_self,
        continues fun list present => full list (List.mem_cons_of_mem first present),
        List.length_cons, Nat.succ_mul, Nat.add_comm]

/-- Every cut into full lists and a last shorter one has as many lists as there are blocks. -/
theorem cut_length {lists : List (List Item)} (nonempty : lists.flatten ≠ [])
    (full : ∀ list ∈ lists.dropLast, list.length = size)
    (filled : ∀ list ∈ lists, 0 < list.length ∧ list.length ≤ size) :
    lists.length = Blocks.count lists.flatten.length size := by
  rcases List.eq_nil_or_concat' lists with rfl | ⟨first, last, rfl⟩
  · exact absurd rfl nonempty
  · obtain ⟨some, short⟩ := filled last (List.mem_append_right first (List.mem_singleton.mpr rfl))
    rw [List.dropLast_concat] at full
    have counted := flatten_length_of_full full
    rw [List.length_append, List.length_singleton, List.flatten_append, List.flatten_singleton,
      List.length_append, counted]
    unfold Blocks.count
    congr 1
    symm
    apply Nat.div_eq_of_lt_le
    · omega
    · rw [Nat.succ_mul]
      omega

end DiskServer.Library.BlockStream

namespace DiskServer.Library

/-- A read asks for a number of items and returns some of them, or it throws. -/
structure ReadStream (Item State : Type) where
  read : State → Nat → Option (List Item) × State
  close : State → State

/-- The items that a read has returned, none of them when it throws. -/
def ReadStream.answer {Item State : Type} (stream : ReadStream Item State) (state : State)
    (wanted : Nat) : List Item := (stream.read state wanted).1.getD []

/-- At every position a read returns the next items of the content and moves past them. -/
structure ReadStream.Serves {Item State : Type} (stream : ReadStream Item State)
    (content : List Item) (At : Nat → State → Prop) : Prop where
  length : ∀ position state wanted, At position state →
    (stream.answer state wanted).length ≤ wanted
  items : ∀ position state wanted, At position state →
    stream.answer state wanted = (content.drop position).take (stream.answer state wanted).length
  moves : ∀ position state wanted, At position state →
    At (position + (stream.answer state wanted).length) (stream.read state wanted).2
  close : ∀ position state, At position state → At position (stream.close state)

end DiskServer.Library
