import Mathlib.Data.List.Induction
import Mathlib.Data.List.Nodup
import Mathlib.Data.Set.Basic

/-
This file gives forests that are stored as parent keys and rules for changes that keep them rooted.
-/

namespace DiskServer.Library

variable {Row Key : Type*} {key parent : Row → Key} {root : Key}

/-- The parents of the key lead to the root in finitely many steps. -/
inductive Rooted (key parent : Row → Key) (root : Key) (rows : Set Row) : Key → Prop
  | top : Rooted key parent root rows root
  | under {row : Row} : row ∈ rows → Rooted key parent root rows (parent row) →
      Rooted key parent root rows (key row)

/-- The parents of the first key lead to the second one. -/
def Climbs (key parent : Row → Key) (rows : Set Row) : Key → Key → Prop :=
  Relation.ReflTransGen fun child above => ∃ row ∈ rows, key row = child ∧ parent row = above

namespace Rooted

variable {rows later : Set Row} {start : Key}

/-- A rooted key other than the root is the key of a row. -/
theorem exists_row (rooted : Rooted key parent root rows start) (differs : start ≠ root) :
    ∃ row ∈ rows, key row = start := by
  cases rooted with
  | top => exact absurd rfl differs
  | under present _ => exact ⟨_, present, rfl⟩

/-- Rows whose parents are kept, or lead to the root anyway, stay rooted. -/
theorem reparent (rooted : Rooted key parent root rows start)
    (changed : ∀ row ∈ rows, ∃ next ∈ later, key next = key row ∧
      (parent next = parent row ∨ Rooted key parent root later (parent next))) :
    Rooted key parent root later start := by
  induction rooted with
  | top => exact .top
  | under present _ ih =>
      obtain ⟨next, there, same, kept | moved⟩ := changed _ present
      · exact same ▸ .under there (kept ▸ ih)
      · exact same ▸ .under there moved

/-- Rows that are kept together with all rows above them stay rooted. -/
theorem transfer (Keep : Key → Prop) (rooted : Rooted key parent root rows start) (here : Keep start)
    (kept : ∀ row ∈ rows, Keep (key row) → Rooted key parent root rows (parent row) →
      Keep (parent row) ∧ ∃ next ∈ later, key next = key row ∧ parent next = parent row) :
    Rooted key parent root later start := by
  induction rooted with
  | top => exact .top
  | under present above ih =>
      obtain ⟨keep, next, there, same, linked⟩ := kept _ present here above
      exact same ▸ .under there (linked ▸ ih keep)

theorem mono (rooted : Rooted key parent root rows start) (included : rows ⊆ later) :
    Rooted key parent root later start :=
  rooted.reparent fun row present => ⟨row, included present, rfl, .inl rfl⟩

/-- A key stays rooted when no row that it climbs over changes its parent. -/
theorem of_climbs (rooted : Rooted key parent root rows start)
    (kept : ∀ row ∈ rows, Climbs key parent rows start (key row) →
      ∃ next ∈ later, key next = key row ∧ parent next = parent row) :
    Rooted key parent root later start := by
  refine rooted.transfer (Climbs key parent rows start) .refl ?_
  intro row present climbed _
  exact ⟨climbed.tail ⟨row, present, rfl, rfl⟩, kept row present climbed⟩

end Rooted

/-- The rows lead down from the first key to the last one. -/
inductive Lineage (key parent : Row → Key) (rows : Set Row) : Key → List Row → Key → Prop
  | here (start : Key) : Lineage key parent rows start [] start
  | down {row : Row} {rest : List Row} {last : Key} : row ∈ rows → Lineage key parent rows (key row) rest last →
      Lineage key parent rows (parent row) (row :: rest) last

namespace Lineage

variable {rows later : Set Row} {start middle last : Key} {line rest : List Row}

theorem append (upper : Lineage key parent rows start line middle)
    (lower : Lineage key parent rows middle rest last) : Lineage key parent rows start (line ++ rest) last := by
  induction upper with
  | here => exact lower
  | down present _ ih => exact .down present (ih lower)

theorem snoc {row : Row} (present : row ∈ rows) (upper : Lineage key parent rows start line (parent row)) :
    Lineage key parent rows start (line ++ [row]) (key row) := upper.append (.down present (.here _))

theorem of_append (whole : Lineage key parent rows start (line ++ rest) last) :
    ∃ middle, Lineage key parent rows start line middle ∧ Lineage key parent rows middle rest last := by
  induction line generalizing start with
  | nil => exact ⟨start, .here start, whole⟩
  | cons row line ih =>
      rw [List.cons_append] at whole
      cases whole with
      | down present lower =>
          obtain ⟨middle, upper, rest⟩ := ih lower
          exact ⟨middle, .down present upper, rest⟩

theorem eq_of_nil (empty : Lineage key parent rows start [] last) : last = start := by
  cases empty
  rfl

theorem of_snoc {row : Row} (whole : Lineage key parent rows start (line ++ [row]) last) :
    row ∈ rows ∧ Lineage key parent rows start line (parent row) ∧ last = key row := by
  obtain ⟨middle, upper, lower⟩ := whole.of_append
  cases lower with
  | down present rest => exact ⟨present, upper, rest.eq_of_nil⟩

theorem mem_rows (whole : Lineage key parent rows start line last) : ∀ row ∈ line, row ∈ rows := by
  induction whole with
  | here => simp
  | down present _ ih => exact List.forall_mem_cons.mpr ⟨present, ih⟩

/-- A key that is rooted has a lineage from the root. -/
theorem exists_of_rooted (rooted : Rooted key parent root rows last) :
    ∃ line, Lineage key parent rows root line last := by
  induction rooted with
  | top => exact ⟨[], .here root⟩
  | under present _ ih =>
      obtain ⟨line, upper⟩ := ih
      exact ⟨_, upper.snoc present⟩

section Unique

variable (once : ∀ one ∈ rows, ∀ two ∈ rows, key one = key two → one = two) (bare : ∀ row ∈ rows, key row ≠ root)

include once bare

/-- There is one lineage at most from the root to a key. -/
theorem unique_of_root (first : Lineage key parent rows root line last)
    (second : Lineage key parent rows root rest last) : line = rest := by
  induction line using List.reverseRecOn generalizing rest last with
  | nil =>
      rcases List.eq_nil_or_concat rest with rfl | ⟨others, row, rfl⟩
      · rfl
      · rw [List.concat_eq_append] at second
        obtain ⟨present, -, same⟩ := second.of_snoc
        exact absurd (same.symm.trans first.eq_of_nil) (bare row present)
  | append_singleton line row ih =>
      obtain ⟨present, upper, rfl⟩ := first.of_snoc
      rcases List.eq_nil_or_concat rest with rfl | ⟨others, other, rfl⟩
      · exact absurd second.eq_of_nil (bare row present)
      · rw [List.concat_eq_append] at second ⊢
        obtain ⟨there, above, same⟩ := second.of_snoc
        obtain rfl := once row present other there same
        rw [ih upper above]

/-- There is one lineage at most below a key that is rooted. -/
theorem unique (rooted : Rooted key parent root rows start) (first : Lineage key parent rows start line last)
    (second : Lineage key parent rows start rest last) : line = rest := by
  obtain ⟨above, upper⟩ := exists_of_rooted rooted
  exact List.append_cancel_left (unique_of_root once bare (upper.append first) (upper.append second))

/-- A lineage below a rooted key has no row twice. -/
theorem nodup (rooted : Rooted key parent root rows start) (whole : Lineage key parent rows start line last) :
    line.Nodup := by
  induction line using List.reverseRecOn generalizing last with
  | nil => exact List.nodup_nil
  | append_singleton line row ih =>
      obtain ⟨present, upper, rfl⟩ := whole.of_snoc
      refine List.nodup_append.mpr ⟨ih upper, List.nodup_singleton row, ?_⟩
      rintro other inside single one rfl
      obtain rfl := List.mem_singleton.mp one
      obtain ⟨before, after, rfl⟩ := List.append_of_mem inside
      rw [show before ++ other :: after = (before ++ [other]) ++ after by simp] at upper
      obtain ⟨middle, shorter, -⟩ := upper.of_append
      obtain ⟨-, -, rfl⟩ := shorter.of_snoc
      have lengths := congrArg List.length (unique once bare rooted shorter whole)
      simp only [List.length_append, List.length_cons, List.length_nil] at lengths
      omega

end Unique

end Lineage

end DiskServer.Library
