import Mathlib.Data.List.Dedup

/-
This file gives texts that join their parts with a separator and the parts that they determine.
-/

namespace DiskServer.Library

section Lists

variable {Item : Type*} {separator : Item} {left right first second : List Item}

/-- The last separator of a list ends its left part. -/
theorem append_separator_right (absent : separator ∉ first) (missing : separator ∉ second)
    (same : left ++ separator :: first = right ++ separator :: second) :
    left = right ∧ first = second := by
  induction left generalizing right with
  | nil =>
      cases right with
      | nil => exact ⟨rfl, (List.cons.inj same).2⟩
      | cons head tail =>
          have rest : first = tail ++ separator :: second := (List.cons.inj same).2
          exact absurd (rest ▸ List.mem_append_right _ List.mem_cons_self) absent
  | cons head tail continues =>
      cases right with
      | nil =>
          have rest : tail ++ separator :: first = second := (List.cons.inj same).2
          exact absurd (rest ▸ List.mem_append_right _ List.mem_cons_self) missing
      | cons other others =>
          obtain ⟨heads, rests⟩ := List.cons.inj same
          obtain ⟨tails, parts⟩ := continues rests
          exact ⟨by rw [heads, tails], parts⟩

/-- The first separator of a list begins its right part. -/
theorem append_separator_left (absent : separator ∉ left) (missing : separator ∉ right)
    (same : left ++ separator :: first = right ++ separator :: second) :
    left = right ∧ first = second := by
  induction left generalizing right with
  | nil =>
      cases right with
      | nil => exact ⟨rfl, (List.cons.inj same).2⟩
      | cons head tail =>
          obtain ⟨heads, -⟩ := List.cons.inj same
          exact absurd (heads ▸ List.mem_cons_self) missing
  | cons head tail continues =>
      cases right with
      | nil =>
          obtain ⟨heads, -⟩ := List.cons.inj same
          exact absurd (heads ▸ List.mem_cons_self) absent
      | cons other others =>
          obtain ⟨heads, rests⟩ := List.cons.inj same
          obtain ⟨tails, parts⟩ := continues (fun inside => absent (List.mem_cons_of_mem _ inside))
            (fun inside => missing (List.mem_cons_of_mem _ inside)) rests
          exact ⟨by rw [heads, tails], parts⟩

/-- Two lists that are joined by a separator are equal when their parts are, or when one part reaches into
the other one. -/
theorem append_separator_iff :
    left ++ separator :: first = right ++ separator :: second ↔
      (left = right ∧ first = second) ∨
        (∃ middle, right = left ++ separator :: middle ∧ first = middle ++ separator :: second) ∨
          ∃ middle, left = right ++ separator :: middle ∧ second = middle ++ separator :: first := by
  constructor
  · intro same
    rcases List.append_eq_append_iff.mp same with ⟨part, longer, rest⟩ | ⟨part, longer, rest⟩
    · cases part with
      | nil => exact .inl ⟨by rw [longer, List.append_nil], (List.cons.inj rest).2⟩
      | cons head middle =>
          obtain ⟨rfl, tail⟩ := List.cons.inj rest
          exact .inr (.inl ⟨middle, longer, tail⟩)
    · cases part with
      | nil => exact .inl ⟨by rw [longer, List.append_nil], (List.cons.inj rest).2.symm⟩
      | cons head middle =>
          obtain ⟨rfl, tail⟩ := List.cons.inj rest
          exact .inr (.inr ⟨middle, longer, tail⟩)
  · rintro (⟨rfl, rfl⟩ | ⟨middle, rfl, rfl⟩ | ⟨middle, rfl, rfl⟩) <;> simp

/-- The last occurrence of an item splits a list. -/
theorem exists_last {item : Item} {items : List Item} (inside : item ∈ items) :
    ∃ before after, items = before ++ item :: after ∧ item ∉ after := by
  obtain ⟨reversed, rest, split, absent⟩ := List.eq_append_cons_of_mem (List.mem_reverse.mpr inside)
  refine ⟨rest.reverse, reversed.reverse, ?_, fun wrong => absent (List.mem_reverse.mp wrong)⟩
  rw [← List.reverse_reverse items, split]
  simp

end Lists

section Texts

variable {left right first second : String} {separator : Char}

theorem text_append_right_cancel (same : left ++ first = left ++ second) : first = second := by
  have lists := congrArg String.toList same
  rw [String.toList_append, String.toList_append] at lists
  exact String.toList_inj.mp (List.append_cancel_left lists)

theorem text_separator_right (absent : separator ∉ first.toList) (missing : separator ∉ second.toList)
    (same : left ++ (String.singleton separator ++ first) =
      right ++ (String.singleton separator ++ second)) :
    left = right ∧ first = second := by
  have lists := congrArg String.toList same
  simp only [String.toList_append, String.toList_singleton, List.singleton_append] at lists
  obtain ⟨lefts, parts⟩ := append_separator_right absent missing lists
  exact ⟨String.toList_inj.mp lefts, String.toList_inj.mp parts⟩

theorem text_separator_left (absent : separator ∉ left.toList) (missing : separator ∉ right.toList)
    (same : left ++ (String.singleton separator ++ first) =
      right ++ (String.singleton separator ++ second)) :
    left = right ∧ first = second := by
  have lists := congrArg String.toList same
  simp only [String.toList_append, String.toList_singleton, List.singleton_append] at lists
  obtain ⟨lefts, parts⟩ := append_separator_left absent missing lists
  exact ⟨String.toList_inj.mp lefts, String.toList_inj.mp parts⟩

/-- No text of a prefix-free list starts a text that another one starts. -/
theorem text_prefix_free {starts : List String}
    (free : ∀ one ∈ starts, ∀ two ∈ starts, one.toList <+: two.toList → one = two)
    (one : left ∈ starts) (two : right ∈ starts) (same : left ++ first = right ++ second) :
    left = right := by
  have lists := congrArg String.toList same
  rw [String.toList_append, String.toList_append] at lists
  have here : left.toList <+: left.toList ++ first.toList := List.prefix_append _ _
  have there : right.toList <+: left.toList ++ first.toList := lists ▸ List.prefix_append _ _
  rcases List.prefix_or_prefix_of_prefix here there with shorter | longer
  · exact free left one right two shorter
  · exact (free right two left one longer).symm

end Texts

section Decimal

/-- A number is read back from its decimal digits. -/
theorem ofDigitChars_decimal (number : Nat) :
    Nat.ofDigitChars 10 (toString number).toList 0 = number := by
  rw [Nat.toString_eq_repr, Nat.toList_repr]
  exact Nat.ofDigitChars_ten_toDigits

theorem decimal_injective {first second : Nat} (same : toString first = toString second) :
    first = second := by
  rw [← ofDigitChars_decimal first, same, ofDigitChars_decimal]

theorem isDigit_decimal {number : Nat} {digit : Char} (inside : digit ∈ (toString number).toList) :
    digit.isDigit = true := by
  rw [Nat.toString_eq_repr, Nat.toList_repr] at inside
  exact Nat.isDigit_of_mem_toDigits (by decide) (by decide) inside

theorem not_mem_decimal {separator : Char} (other : separator.isDigit = false) (number : Nat) :
    separator ∉ (toString number).toList := by
  intro inside
  have digit := isDigit_decimal inside
  rw [other] at digit
  cases digit

theorem integer_ofNat (number : Nat) : toString (number : Int) = toString number := rfl

theorem integer_negSucc (number : Nat) :
    toString (Int.negSucc number) = "-" ++ toString (number + 1) := rfl

theorem not_mem_integer {separator : Char} (other : separator.isDigit = false)
    (sign : separator ≠ '-') (number : Int) : separator ∉ (toString number).toList := by
  cases number with
  | ofNat magnitude => exact not_mem_decimal other magnitude
  | negSucc magnitude =>
      rw [integer_negSucc, String.toList_append]
      intro inside
      rcases List.mem_append.mp inside with front | digits
      · exact sign (by simpa using front)
      · exact not_mem_decimal other _ digits

/-- The sign of a number is seen in its decimal text. -/
theorem integer_injective {first second : Int} (same : toString first = toString second) :
    first = second := by
  have unsigned : ∀ number : Nat, '-' ∉ (toString number).toList := not_mem_decimal (by decide)
  have signed : ∀ number : Nat, '-' ∈ (toString (Int.negSucc number)).toList := by
    intro number
    rw [integer_negSucc, String.toList_append]
    exact List.mem_append_left _ (by decide)
  cases first with
  | ofNat one =>
      cases second with
      | ofNat two => exact congrArg Int.ofNat (decimal_injective same)
      | negSucc two =>
          have inside := signed two
          rw [← same] at inside
          exact absurd inside (unsigned one)
  | negSucc one =>
      cases second with
      | ofNat two =>
          have inside := signed one
          rw [same] at inside
          exact absurd inside (unsigned two)
      | negSucc two =>
          rw [integer_negSucc, integer_negSucc] at same
          have magnitudes := decimal_injective (text_append_right_cancel same)
          rw [Nat.succ.inj magnitudes]

end Decimal

section Words

variable {Item : Type*} [DecidableEq Item] {separator : Item} {left right text word : List Item}

/-- The parts between separators that are not empty. -/
def wordsOf (separator : Item) (text : List Item) : List (List Item) :=
  (text.splitOn separator).filter fun word => word ≠ []

theorem wordsOf_nil : wordsOf separator ([] : List Item) = [] := rfl

theorem wordsOf_append : wordsOf separator (left ++ separator :: right) =
    wordsOf separator left ++ wordsOf separator right := by
  unfold wordsOf
  rw [List.splitOn_append_cons_self, List.filter_append]

theorem wordsOf_snoc : wordsOf separator (left ++ [separator]) = wordsOf separator left := by
  rw [wordsOf_append, wordsOf_nil, List.append_nil]

theorem wordsOf_single (absent : separator ∉ text) (long : text ≠ []) : wordsOf separator text = [text] := by
  unfold wordsOf
  rw [List.splitOn_eq_singleton absent]
  exact List.filter_eq_self.mpr (by simpa using long)

theorem eq_of_mem_wordsOf (absent : separator ∉ text) (present : word ∈ wordsOf separator text) : word = text := by
  have long : text ≠ [] := by
    rintro rfl
    cases present
  rw [wordsOf_single absent long] at present
  exact List.mem_singleton.mp present

/-- A word is not empty, and separators or the ends of the text stand around it. -/
theorem exists_of_mem_wordsOf (present : word ∈ wordsOf separator text) :
    word ≠ [] ∧ separator ∉ word ∧ ∃ before after, text = before ++ (word ++ after) ∧
      (before = [] ∨ ∃ more, before = more ++ [separator]) ∧ (after = [] ∨ ∃ more, after = separator :: more) := by
  induction length : text.length using Nat.strongRecOn generalizing text with
  | ind count ih =>
  subst length
  by_cases inside : separator ∈ text
  · obtain ⟨first, rest, rfl, absent⟩ := List.eq_append_cons_of_mem inside
    rw [wordsOf_append] at present
    rcases List.mem_append.mp present with here | there
    · have long : first ≠ [] := by
        rintro rfl
        rw [wordsOf_nil] at here
        cases here
      rw [wordsOf_single absent long] at here
      obtain rfl := List.mem_singleton.mp here
      exact ⟨long, absent, [], separator :: rest, rfl, .inl rfl, .inr ⟨rest, rfl⟩⟩
    · have shorter : rest.length < (first ++ separator :: rest).length := by
        rw [List.length_append, List.length_cons]
        omega
      obtain ⟨long, missing, before, after, rfl, left, right⟩ := ih _ shorter there rfl
      refine ⟨long, missing, first ++ separator :: before, after, by simp, .inr ?_, right⟩
      rcases left with rfl | ⟨more, rfl⟩
      · exact ⟨first, rfl⟩
      · exact ⟨first ++ separator :: more, by simp⟩
  · have long : word ≠ [] := of_decide_eq_true (List.mem_filter.mp present).2
    obtain rfl := eq_of_mem_wordsOf inside present
    exact ⟨long, inside, [], [], by simp, .inl rfl, .inl rfl⟩

end Words

end DiskServer.Library
