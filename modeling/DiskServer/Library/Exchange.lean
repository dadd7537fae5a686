import Mathlib.Data.List.Nodup

/-
This file follows requests that are numbered in the order in which they are sent.
-/

namespace DiskServer.Library

section Exchange

variable {Request : Type*} {inFlight sent handled : List (Nat × Request)}

/-- The number of a request is its place, and its reply is handled at most once and for this request. -/
structure Traced (inFlight sent handled : List (Nat × Request)) : Prop where
  numbered : sent.map Prod.fst = List.range sent.length
  flying : ∀ entry ∈ inFlight, entry ∈ sent
  answered : ∀ entry ∈ handled, entry ∈ sent
  once : (handled.map Prod.fst).Nodup
  unanswered : ∀ entry ∈ inFlight, entry.1 ∉ handled.map Prod.fst

namespace Traced

theorem empty : @Traced Request [] [] [] :=
  ⟨rfl, by simp, by simp, List.nodup_nil, by simp⟩

theorem number_lt (traced : Traced inFlight sent handled) {entry : Nat × Request}
    (listed : entry ∈ sent) : entry.1 < sent.length := by
  have numbered : entry.1 ∈ sent.map Prod.fst := List.mem_map_of_mem listed
  rw [traced.numbered] at numbered
  exact List.mem_range.mp numbered

theorem post (traced : Traced inFlight sent handled) (request : Request) :
    Traced (inFlight ++ [(sent.length, request)]) (sent ++ [(sent.length, request)]) handled where
  numbered := by
    rw [List.map_append, traced.numbered, List.length_append]
    exact List.range_succ.symm
  flying := by
    intro entry listed
    rcases List.mem_append.mp listed with before | new
    · exact List.mem_append_left _ (traced.flying entry before)
    · exact List.mem_append_right _ new
  answered := fun entry listed => List.mem_append_left _ (traced.answered entry listed)
  once := traced.once
  unanswered := by
    intro entry listed done
    rcases List.mem_append.mp listed with before | new
    · exact traced.unanswered entry before done
    · obtain rfl := List.mem_singleton.mp new
      obtain ⟨other, answered, same⟩ := List.mem_map.mp done
      have smaller := traced.number_lt (traced.answered other answered)
      rw [same] at smaller
      exact Nat.lt_irrefl _ smaller

/-- A request that is given up is not in flight any more. -/
theorem drop (traced : Traced inFlight sent handled) (number : Nat) :
    Traced (inFlight.filter fun other => other.1 ≠ number) sent handled where
  numbered := traced.numbered
  flying := fun entry listed => traced.flying entry (List.mem_of_mem_filter listed)
  answered := traced.answered
  once := traced.once
  unanswered := fun entry listed => traced.unanswered entry (List.mem_of_mem_filter listed)

theorem clear (traced : Traced inFlight sent handled) : Traced [] sent handled where
  numbered := traced.numbered
  flying := nofun
  answered := traced.answered
  once := traced.once
  unanswered := nofun

theorem handle (traced : Traced inFlight sent handled) {entry : Nat × Request}
    (listed : entry ∈ inFlight) :
    Traced (inFlight.filter fun other => other.1 ≠ entry.1) sent (handled ++ [entry]) where
  numbered := traced.numbered
  flying := (traced.drop entry.1).flying
  answered := by
    intro other done
    rcases List.mem_append.mp done with before | new
    · exact traced.answered other before
    · obtain rfl := List.mem_singleton.mp new
      exact traced.flying other listed
  once := by
    rw [List.map_append]
    apply traced.once.append (List.nodup_singleton _)
    intro number before new
    obtain rfl := List.mem_singleton.mp new
    exact traced.unanswered entry listed before
  unanswered := by
    intro other flying done
    rw [List.map_append] at done
    rcases List.mem_append.mp done with before | new
    · exact (traced.drop entry.1).unanswered other flying before
    · have differs := of_decide_eq_true (List.mem_filter.mp flying).2
      exact differs (List.mem_singleton.mp new)

end Traced

end Exchange

end DiskServer.Library
