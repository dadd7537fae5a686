import Mathlib.Data.List.Nodup
import Mathlib.Data.List.Perm.Basic
import Mathlib.Data.List.TakeWhile
import Mathlib.Order.Lattice

/-
This file gives multimaps in the order of their times, whose entries are reached by iterators.
-/

namespace DiskServer.Library

structure MultimapNode (Time Key : Type*) where
  id : Nat
  time : Time
  key : Key
  deriving DecidableEq

/-- A multimap keeps its nodes in order and gives no node the id of an earlier one. -/
structure Multimap (Time Key : Type*) [LinearOrder Time] where
  nodes : List (MultimapNode Time Key)
  next : Nat
  sorted : nodes.Pairwise fun first second => first.time ≤ second.time
  distinct : (nodes.map MultimapNode.id).Nodup
  bounded : ∀ node ∈ nodes, node.id < next

section Order

variable {Time Key : Type*} [LinearOrder Time]

theorem lt_of_mem_dropWhile {nodes : List (MultimapNode Time Key)} {time : Time}
    (sorted : nodes.Pairwise fun first second => first.time ≤ second.time)
    {node : MultimapNode Time Key}
    (behind : node ∈ nodes.dropWhile fun other => other.time ≤ time) : time < node.time := by
  induction nodes with
  | nil => simp at behind
  | cons first rest ih =>
      obtain ⟨least, ordered⟩ := List.pairwise_cons.mp sorted
      by_cases early : first.time ≤ time
      · rw [List.dropWhile_cons_of_pos (by simpa using early)] at behind
        exact ih ordered behind
      · rw [List.dropWhile_cons_of_neg (by simpa using early)] at behind
        have late := lt_of_not_ge early
        rcases List.mem_cons.mp behind with rfl | inside
        · exact late
        · exact late.trans_le (least node inside)

theorem le_of_mem_takeWhile {nodes : List (MultimapNode Time Key)} {time : Time}
    {node : MultimapNode Time Key}
    (before : node ∈ nodes.takeWhile fun other => other.time ≤ time) : node.time ≤ time := by
  simpa using List.mem_takeWhile_imp before

end Order

namespace Multimap

variable {Time Key : Type*} [LinearOrder Time] (map : Multimap Time Key)

def empty : Multimap Time Key := ⟨[], 0, .nil, List.nodup_nil, by simp⟩

/-- The ids of the nodes that are gone stay unused. -/
def clear : Multimap Time Key := ⟨[], map.next, .nil, List.nodup_nil, by simp⟩

/-- The iterator at the first node, or the end. -/
def begin : Option Nat := map.nodes.head?.map MultimapNode.id

/-- An iterator reaches a node as long as the node is in the map. -/
def at? (iterator : Nat) : Option (MultimapNode Time Key) :=
  map.nodes.find? fun node => node.id = iterator

section Insert

variable (time : Time) (key : Key)

/-- A node goes behind the last one whose time is not later. -/
def inserted : List (MultimapNode Time Key) :=
  map.nodes.takeWhile (fun node => node.time ≤ time) ++
    ⟨map.next, time, key⟩ :: map.nodes.dropWhile fun node => node.time ≤ time

theorem inserted_perm : (map.inserted time key).Perm (⟨map.next, time, key⟩ :: map.nodes) := by
  have whole : map.nodes.takeWhile (fun node => node.time ≤ time) ++
      map.nodes.dropWhile (fun node => node.time ≤ time) = map.nodes :=
    List.takeWhile_append_dropWhile
  have moved : (map.inserted time key).Perm (⟨map.next, time, key⟩ ::
      (map.nodes.takeWhile (fun node => node.time ≤ time) ++
        map.nodes.dropWhile fun node => node.time ≤ time)) := List.perm_middle
  rwa [whole] at moved

theorem inserted_sorted :
    (map.inserted time key).Pairwise fun first second => first.time ≤ second.time := by
  unfold inserted
  rw [List.pairwise_append, List.pairwise_cons]
  refine ⟨map.sorted.sublist (List.takeWhile_sublist _), ⟨?_, ?_⟩, ?_⟩
  · intro node behind
    exact (lt_of_mem_dropWhile map.sorted behind).le
  · exact map.sorted.sublist (List.dropWhile_sublist _)
  · intro first before second behind
    have early := le_of_mem_takeWhile before
    rcases List.mem_cons.mp behind with rfl | late
    · exact early
    · exact early.trans (lt_of_mem_dropWhile map.sorted late).le

/-- The new node and the iterator that reaches it. -/
def emplace : Multimap Time Key × Nat where
  fst :=
    { nodes := map.inserted time key
      next := map.next + 1
      sorted := map.inserted_sorted time key
      distinct := by
        rw [((map.inserted_perm time key).map MultimapNode.id).nodup_iff, List.map_cons, List.nodup_cons]
        refine ⟨?_, map.distinct⟩
        intro reused
        obtain ⟨node, present, same⟩ := List.mem_map.mp reused
        exact absurd same (Nat.ne_of_lt (map.bounded node present))
      bounded := by
        intro node present
        rcases List.mem_cons.mp ((map.inserted_perm time key).mem_iff.mp present) with rfl | old
        · exact Nat.lt_succ_self _
        · exact Nat.lt_succ_of_lt (map.bounded node old) }
  snd := map.next

end Insert

section Erase

variable (iterator : Nat)

def without : Multimap Time Key where
  nodes := map.nodes.filter fun node => node.id ≠ iterator
  next := map.next
  sorted := map.sorted.filter _
  distinct := map.distinct.sublist (List.filter_sublist.map _)
  bounded := fun node present => map.bounded node (List.mem_of_mem_filter present)

/-- The iterator behind a node, or the end. -/
def following : Option Nat :=
  (map.nodes.dropWhile fun node => node.id ≠ iterator).tail.head?.map MultimapNode.id

/-- The map without the node and the iterator behind it. An iterator that reaches no node has no meaning. -/
def erase : Option (Multimap Time Key × Option Nat) :=
  if (map.at? iterator).isSome then some (map.without iterator, map.following iterator) else none

end Erase

variable {map}

theorem eq_of_id {first second : MultimapNode Time Key} (one : first ∈ map.nodes) (two : second ∈ map.nodes)
    (same : first.id = second.id) : first = second :=
  List.inj_on_of_nodup_map map.distinct one two same

theorem at?_eq_some {node : MultimapNode Time Key} (present : node ∈ map.nodes) :
    map.at? node.id = some node := by
  cases found : map.at? node.id with
  | none => simpa using List.find?_eq_none.mp found node present
  | some other =>
      have same : other.id = node.id := by simpa using List.find?_some found
      rw [eq_of_id (List.mem_of_find?_eq_some found) present same]

theorem erase_eq_some {node : MultimapNode Time Key} (present : node ∈ map.nodes) :
    map.erase node.id = some (map.without node.id, map.following node.id) := by
  simp [erase, at?_eq_some present]

/-- Without the first node the map begins behind it. -/
theorem following_first {node : MultimapNode Time Key} {rest : List (MultimapNode Time Key)}
    (stored : map.nodes = node :: rest) :
    map.following node.id = (map.without node.id).begin ∧ (map.without node.id).nodes = rest := by
  have apart : ∀ other ∈ rest, other.id ≠ node.id := by
    intro other inside same
    have once := map.distinct
    rw [stored, List.map_cons, List.nodup_cons] at once
    exact once.1 (same ▸ List.mem_map_of_mem inside)
  have left : (map.without node.id).nodes = rest := by
    change (map.nodes.filter fun other => other.id ≠ node.id) = rest
    rw [stored, List.filter_cons_of_neg (by simp), List.filter_eq_self]
    intro other inside
    simpa using apart other inside
  refine ⟨?_, left⟩
  unfold following begin
  rw [left, stored, List.dropWhile_cons_of_neg (by simp)]
  rfl

end Multimap

end DiskServer.Library
