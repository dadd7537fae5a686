import DiskServer.Library.Separator
import Mathlib.Data.List.Infix
import Mathlib.Data.List.TakeWhile

/-
This file gives views of a text whose accesses are checked, and scans of its parts between separators.
-/

namespace DiskServer.Library

inductive Fault where
  | outOfRange
  deriving Repr, DecidableEq

/-- An access stays inside of a text, or it is a fault. -/
abbrev Checked := Except Fault

section Views

variable (text : List Char)

def readAt (index : Nat) : Checked Char :=
  match text[index]? with
  | some character => .ok character
  | none => .error .outOfRange

def substr (position count : Nat) : Checked (List Char) :=
  if position ≤ text.length then .ok ((text.drop position).take count) else .error .outOfRange

/-- The rest of a text from a position on. -/
def substrFrom (position : Nat) : Checked (List Char) := substr text position text.length

/-- The first place of a character at or after a position. -/
def findFrom (character : Char) (position : Nat) : Option Nat :=
  ((text.drop position).findIdx? fun other => other = character).map (· + position)

/-- The last place of a character. -/
def rfind (character : Char) : Option Nat :=
  (text.reverse.findIdx? fun other => other = character).map fun back => text.length - 1 - back

/-- The first place of a pair of equal characters at or after a position. -/
def findPairFrom (character : Char) (position : Nat) : Option Nat :=
  ((text.drop position).tails.findIdx? fun rest => [character, character].isPrefixOf rest).map (· + position)

/-- The longest run of digits is read as a number of 32 bits, and the characters after it are left. -/
def fromChars : Option (Nat × List Char) :=
  let digits := text.takeWhile Char.isDigit
  let value := Nat.ofDigitChars 10 digits 0
  if digits = [] ∨ 4294967296 ≤ value then none else some (value, text.dropWhile Char.isDigit)

end Views

section Scans

variable {State : Type} (separator : Char) (visit : State → List Char → Bool → Checked (Option State))

/-- The position is before the end of the text and holds no separator. -/
def passes (text : List Char) (index : Nat) : Checked Bool :=
  if index < text.length then (readAt text index).map fun character => character ≠ separator else .ok false

/-- A loop over the positions of a text up to its end that visits the part before each separator. -/
def scanFrom (text : List Char) : (remaining index start : Nat) → State → Checked (Option State)
  | 0, _, _, state => .ok (some state)
  | remaining + 1, index, start, state =>
      match passes separator text index with
      | .error fault => .error fault
      | .ok true => scanFrom text remaining (index + 1) start state
      | .ok false =>
          match substr text start (index - start) with
          | .error fault => .error fault
          | .ok segment =>
              match visit state segment (index = text.length) with
              | .error fault => .error fault
              | .ok none => .ok none
              | .ok (some next) => scanFrom text remaining (index + 1) (index + 1) next

def scan (text : List Char) (state : State) : Checked (Option State) :=
  scanFrom separator visit text (text.length + 1) 0 0 state

/-- The parts of a text are visited one after another until one of them stops the scan. -/
def visitAll : List (List Char) → State → Checked (Option State)
  | [], state => .ok (some state)
  | segment :: rest, state =>
      match visit state segment rest.isEmpty with
      | .error fault => .error fault
      | .ok none => .ok none
      | .ok (some next) => visitAll rest next

variable {separator visit} {before part rest : List Char}

theorem substr_between (before part rest : List Char) :
    substr (before ++ (part ++ rest)) before.length part.length = .ok part := by
  unfold substr
  rw [if_pos (by rw [List.length_append]; exact Nat.le_add_right _ _), List.drop_left, List.take_left]

theorem passes_between {character : Char} (before rest : List Char) :
    passes separator (before ++ character :: rest) before.length = .ok (decide (character ≠ separator)) := by
  have inside : before.length < (before ++ character :: rest).length := by
    rw [List.length_append, List.length_cons]
    omega
  unfold passes readAt
  rw [if_pos inside, List.getElem?_append_right (Nat.le_refl _), Nat.sub_self, List.getElem?_cons_zero]
  rfl

theorem passes_end (text : List Char) : passes separator text text.length = .ok false :=
  if_neg (Nat.lt_irrefl _)

/-- The loop goes through the parts that the separators leave, of which the first one has begun. -/
theorem scanFrom_eq (clear : separator ∉ part) (state : State) :
    scanFrom separator visit (before ++ (part ++ rest)) (rest.length + 1) (before.length + part.length)
        before.length state =
      visitAll visit ((part ++ rest).splitOn separator) state := by
  induction rest generalizing before part state with
  | nil =>
      have segment := substr_between before part []
      have ends : passes separator (before ++ (part ++ [])) _ = .ok false := passes_end _
      have last : before.length + part.length = (before ++ (part ++ [])).length := by simp
      rw [List.append_nil, List.splitOn_eq_singleton clear]
      rw [List.append_nil] at segment ends last
      unfold scanFrom visitAll
      rw [last, ends, ← last, Nat.add_sub_cancel_left, segment]
      simp only [decide_true, List.isEmpty_nil]
      rfl
  | cons character rest ih =>
      have inside : before.length + part.length < (before ++ (part ++ character :: rest)).length := by
        rw [List.length_append, List.length_append, List.length_cons]
        omega
      have passed : passes separator (before ++ (part ++ character :: rest)) (before.length + part.length) =
          .ok (decide (character ≠ separator)) := by
        have whole : passes separator ((before ++ part) ++ character :: rest) (before ++ part).length =
            .ok (decide (character ≠ separator)) := passes_between _ _
        rw [List.append_assoc, List.length_append] at whole
        exact whole
      rw [List.length_cons]
      unfold scanFrom
      rw [passed]
      by_cases same : character = separator
      · obtain rfl := same
        have next := @ih (before ++ (part ++ [character])) [] List.not_mem_nil
        simp only [List.append_assoc, List.singleton_append, List.nil_append, List.length_append,
          List.length_singleton, List.length_nil, Nat.add_zero, ← Nat.add_assoc] at next
        have segment := substr_between before part (character :: rest)
        have more : (rest.splitOn character).isEmpty = false := by
          rw [List.isEmpty_eq_false_iff]
          exact List.splitOn_ne_nil character rest
        have middle : decide (before.length + part.length = (before ++ (part ++ character :: rest)).length) =
            false := decide_eq_false (Nat.ne_of_lt inside)
        rw [List.splitOn_append_cons_self_of_not_mem clear]
        unfold visitAll
        simp only [ne_eq, not_true_eq_false, decide_false, Nat.add_sub_cancel_left, segment, more, middle]
        cases visit state part false with
        | error fault => rfl
        | ok visited =>
            cases visited with
            | none => rfl
            | some reached => exact next reached
      · have next := @ih before (part ++ [character]) (by simp [clear, Ne.symm same]) state
        rw [decide_eq_true same]
        simp only [List.append_assoc, List.singleton_append, List.length_append, List.length_singleton,
          ← Nat.add_assoc] at next
        exact next

theorem scan_eq (text : List Char) (state : State) :
    scan separator visit text state = visitAll visit (text.splitOn separator) state :=
  @scanFrom_eq _ _ _ [] [] text List.not_mem_nil state

/-- Each part passes a check that may treat the last part differently. -/
def ChecksAll (check : List Char → Bool → Prop) : List (List Char) → Prop
  | [] => True
  | segment :: rest => check segment rest.isEmpty ∧ ChecksAll check rest

/-- A visit goes on with the next state when a part passes a check, and stops otherwise. -/
def VisitsBy (visit : State → List Char → Bool → Checked (Option State)) (check : List Char → Bool → Prop)
    (next : State → List Char → State) : Prop :=
  ∀ state segment last, (check segment last ∧ visit state segment last = .ok (some (next state segment))) ∨
    (¬check segment last ∧ visit state segment last = .ok none)

theorem visitAll_spec {check : List Char → Bool → Prop} {next : State → List Char → State}
    (visits : VisitsBy visit check next) (segments : List (List Char)) (state : State) :
    (ChecksAll check segments ∧ visitAll visit segments state = .ok (some (segments.foldl next state))) ∨
      (¬ChecksAll check segments ∧ visitAll visit segments state = .ok none) := by
  induction segments generalizing state with
  | nil => exact .inl ⟨trivial, rfl⟩
  | cons segment rest ih =>
      unfold visitAll ChecksAll
      rcases visits state segment rest.isEmpty with ⟨passes, same⟩ | ⟨fails, same⟩
      · rw [same]
        rcases ih (next state segment) with ⟨all, reached⟩ | ⟨other, stopped⟩
        · exact .inl ⟨⟨passes, all⟩, reached⟩
        · exact .inr ⟨fun both => other both.2, stopped⟩
      · rw [same]
        exact .inr ⟨fun both => fails both.1, rfl⟩

/-- A scan that checks the parts of a text ends in the state that they lead to. -/
theorem scan_spec {check : List Char → Bool → Prop} {next : State → List Char → State}
    (visits : VisitsBy visit check next) (clear : ∀ part last, check part last → separator ∉ part)
    (text : List Char) (state : State) : ∃ result, scan separator visit text state = .ok result ∧
      ∀ reached, result = some reached ↔ ∃ parts, parts ≠ [] ∧ ChecksAll check parts ∧
        text = [separator].intercalate parts ∧ parts.foldl next state = reached := by
  have separated : ∀ parts, ChecksAll check parts → ∀ part ∈ parts, separator ∉ part := by
    intro parts checked
    induction parts with
    | nil => simp
    | cons part parts ih =>
        exact List.forall_mem_cons.mpr ⟨clear part _ checked.1, ih checked.2⟩
  rw [scan_eq]
  rcases visitAll_spec visits (text.splitOn separator) state with ⟨checked, reached⟩ | ⟨fails, stopped⟩
  · refine ⟨_, reached, fun final => ?_⟩
    rw [Option.some_inj]
    constructor
    · rintro rfl
      exact ⟨_, List.splitOn_ne_nil separator text, checked, (List.intercalate_splitOn separator).symm, rfl⟩
    · rintro ⟨parts, present, all, rfl, same⟩
      rw [List.splitOn_intercalate separator (separated parts all) present]
      exact same
  · refine ⟨_, stopped, fun final => iff_of_false (Option.some_ne_none final).symm ?_⟩
    rintro ⟨parts, present, all, rfl, -⟩
    rw [List.splitOn_intercalate separator (separated parts all) present] at fails
    exact fails all

theorem mem_intercalate {character : Char} {parts : List (List Char)}
    (inside : character ∈ [separator].intercalate parts) :
    character = separator ∨ ∃ part ∈ parts, character ∈ part := by
  induction parts with
  | nil => cases inside
  | cons part parts ih =>
      cases parts with
      | nil =>
          rw [List.intercalate_singleton] at inside
          exact .inr ⟨part, List.mem_cons_self, inside⟩
      | cons next parts =>
          rw [List.intercalate_cons_cons, List.mem_append, List.mem_append, List.mem_singleton] at inside
          rcases inside with (here | same) | there
          · exact .inr ⟨part, List.mem_cons_self, here⟩
          · exact .inl same
          · rcases ih there with same | ⟨other, listed, present⟩
            · exact .inl same
            · exact .inr ⟨other, List.mem_cons_of_mem _ listed, present⟩

end Scans

section Places

variable {character : Char} {before part rest : List Char}

theorem findFrom_between (clear : character ∉ part) :
    findFrom (before ++ (part ++ character :: rest)) character before.length =
      some (before.length + part.length) := by
  have place : (part ++ character :: rest).findIdx? (fun other => other = character) = some part.length := by
    rw [List.findIdx?_append, List.findIdx?_eq_none_iff.mpr]
    · simp [List.findIdx?_cons]
    · intro other inside
      exact decide_eq_false fun same => clear (same ▸ inside)
  unfold findFrom
  rw [List.drop_left, place, Option.map_some, Nat.add_comm]

theorem findFrom_none (clear : character ∉ part) : findFrom (before ++ part) character before.length = none := by
  unfold findFrom
  rw [List.drop_left, List.findIdx?_eq_none_iff.mpr]
  · rfl
  · intro other inside
    exact decide_eq_false fun same => clear (same ▸ inside)

theorem substrFrom_between (before rest : List Char) : substrFrom (before ++ rest) before.length = .ok rest := by
  unfold substrFrom substr
  rw [if_pos (by simp), List.drop_left, List.take_of_length_le (by simp)]

theorem rfind_between (clear : character ∉ rest) :
    rfind (before ++ character :: rest) character = some before.length := by
  have place : (before ++ character :: rest).reverse.findIdx? (fun other => other = character) =
      some rest.length := by
    rw [List.reverse_append, List.reverse_cons, List.append_assoc, List.findIdx?_append,
      List.findIdx?_eq_none_iff.mpr]
    · simp [List.findIdx?_cons]
    · intro other inside
      exact decide_eq_false fun same => clear (same ▸ List.mem_reverse.mp inside)
  unfold rfind
  rw [place, Option.map_some, List.length_append, List.length_cons]
  congr 1
  omega

theorem rfind_none {text : List Char} (clear : character ∉ text) : rfind text character = none := by
  unfold rfind
  rw [List.findIdx?_eq_none_iff.mpr]
  · rfl
  · intro other inside
    exact decide_eq_false fun same => clear (same ▸ List.mem_reverse.mp inside)

/-- The character does not stand twice in a row. -/
def NoPair (character : Char) (text : List Char) : Prop := ¬[character, character] <:+: text

theorem NoPair.tail {head : Char} (clear : NoPair character (head :: part)) : NoPair character part :=
  fun inside => clear (List.infix_cons inside)

theorem findPairFrom_none (clear : NoPair character part) :
    findPairFrom (before ++ part) character before.length = none := by
  unfold findPairFrom
  rw [List.drop_left, List.findIdx?_eq_none_iff.mpr]
  · rfl
  · intro suffix listed
    rw [← Bool.not_eq_true, List.isPrefixOf_iff_prefix]
    intro pair
    exact clear (pair.isInfix.trans ((List.mem_tails _ _).mp listed).isInfix)

theorem findIdx_pair (clear : NoPair character part) (ends : part.getLast? ≠ some character)
    (rest : List Char) : (part ++ character :: character :: rest).tails.findIdx?
      (fun suffix => [character, character].isPrefixOf suffix) = some part.length := by
  induction part with
  | nil => simp [List.findIdx?_cons]
  | cons head part ih =>
      have continues : part.getLast? ≠ some character ∨ part = [] := by
        cases part with
        | nil => exact .inr rfl
        | cons next part => exact .inl (by simpa using ends)
      have apart : [character, character].isPrefixOf (head :: (part ++ character :: character :: rest)) =
          false := by
        rw [← Bool.not_eq_true, List.isPrefixOf_iff_prefix, List.cons_prefix_cons]
        rintro ⟨rfl, next⟩
        cases part with
        | nil => exact ends rfl
        | cons other part =>
            rw [List.cons_append, List.cons_prefix_cons] at next
            obtain ⟨rfl, -⟩ := next
            exact clear ⟨[], part, rfl⟩
      rw [List.cons_append, List.tails_cons, List.findIdx?_cons, apart]
      rcases continues with ends' | rfl
      · rw [ih clear.tail ends']
        rfl
      · simp [List.findIdx?_cons]

theorem findPairFrom_between (clear : NoPair character part) (ends : part.getLast? ≠ some character)
    (rest : List Char) : findPairFrom (before ++ (part ++ character :: character :: rest)) character
      before.length = some (before.length + part.length) := by
  unfold findPairFrom
  rw [List.drop_left, findIdx_pair clear ends, Option.map_some, Nat.add_comm]

/-- The pair that is found splits the text. -/
theorem exists_of_findPairFrom {text : List Char} {place : Nat}
    (found : findPairFrom text character 0 = some place) :
    ∃ before rest, text = before ++ character :: character :: rest ∧ before.length = place := by
  unfold findPairFrom at found
  obtain ⟨index, selected, same⟩ := Option.map_eq_some_iff.mp found
  rw [List.drop_zero] at selected
  obtain ⟨inside, starts, -⟩ := List.findIdx?_eq_some_iff_getElem.mp selected
  rw [List.getElem_tails, List.isPrefixOf_iff_prefix] at starts
  obtain ⟨rest, split⟩ := starts
  rw [List.length_tails] at inside
  refine ⟨text.take index, rest, ?_, ?_⟩
  · have whole := List.take_append_drop index text
    rw [← split] at whole
    exact whole.symm
  · rw [List.length_take, ← same]
    omega

end Places

section Numerals

variable {text : List Char} {value number : Nat}

/-- A text of digits only. -/
def IsNumeral (text : List Char) : Prop := text ≠ [] ∧ ∀ character ∈ text, character.isDigit = true

def decimal (number : Nat) : List Char := Nat.toDigits 10 number

/-- A number that is read up to the end of its text is the value of its digits. -/
theorem fromChars_whole_iff : fromChars text = some (value, []) ↔
    IsNumeral text ∧ Nat.ofDigitChars 10 text 0 = value ∧ value < 4294967296 := by
  unfold fromChars IsNumeral
  simp only
  constructor
  · intro read
    split at read
    · cases read
    · rename_i some'
      obtain ⟨same, whole⟩ := Prod.mk.inj (Option.some.inj read)
      have digits := List.dropWhile_eq_nil_iff.mp whole
      rw [List.takeWhile_eq_self_iff.mpr digits] at same some'
      rw [not_or, Nat.not_le, same] at some'
      exact ⟨⟨some'.1, digits⟩, same, some'.2⟩
  · rintro ⟨⟨present, digits⟩, rfl, small⟩
    rw [List.takeWhile_eq_self_iff.mpr digits, List.dropWhile_eq_nil_iff.mpr digits, if_neg]
    rw [not_or, Nat.not_le]
    exact ⟨present, small⟩

theorem exists_digitChar {digit : Char} (reads : digit.isDigit = true) :
    ∃ number, number < 10 ∧ digit = number.digitChar := by
  obtain ⟨least, most⟩ := Char.isDigit_iff_toNat.mp reads
  have low : 48 ≤ digit.toNat := least
  have high : digit.toNat ≤ 57 := most
  refine ⟨digit.toNat - 48, by omega, Char.toNat_inj.mp ?_⟩
  rw [Nat.toNat_digitChar_of_lt_ten (by omega)]
  omega

theorem isNumeral_decimal (number : Nat) : IsNumeral (decimal number) :=
  ⟨Nat.toDigits_ne_nil, fun _ inside => Nat.isDigit_of_mem_toDigits (by decide) (by decide) inside⟩

theorem value_decimal (number : Nat) : Nat.ofDigitChars 10 (decimal number) 0 = number :=
  Nat.ofDigitChars_ten_toDigits

/-- Digits are the decimal text of their value after some zeros. -/
theorem exists_zeros (digits : ∀ character ∈ text, character.isDigit = true) :
    ∃ zeros, text = List.replicate zeros '0' ++
      if Nat.ofDigitChars 10 text 0 = 0 then [] else decimal (Nat.ofDigitChars 10 text 0) := by
  induction text using List.reverseRecOn with
  | nil => exact ⟨0, rfl⟩
  | append_singleton before last ih =>
      obtain ⟨zeros, split⟩ := ih fun character inside => digits character (List.mem_append_left _ inside)
      obtain ⟨number, small, rfl⟩ :=
        exists_digitChar (digits last (List.mem_append_right _ (List.mem_singleton_self last)))
      have value : Nat.ofDigitChars 10 (before ++ [number.digitChar]) 0 =
          10 * Nat.ofDigitChars 10 before 0 + number := by
        rw [Nat.ofDigitChars_append, Nat.ofDigitChars_cons_digitChar_of_lt_ten small, Nat.ofDigitChars_nil]
      rw [value]
      by_cases zero : Nat.ofDigitChars 10 before 0 = 0
      · rw [if_pos zero, List.append_nil] at split
        rw [zero, Nat.mul_zero, Nat.zero_add, split]
        by_cases none : number = 0
        · refine ⟨zeros + 1, ?_⟩
          rw [if_pos none, none, List.append_nil, List.replicate_succ']
          rfl
        · refine ⟨zeros, ?_⟩
          rw [if_neg none, decimal, Nat.toDigits_of_lt_base small]
      · rw [if_neg zero] at split
        refine ⟨zeros, ?_⟩
        have positive : 0 < Nat.ofDigitChars 10 before 0 := Nat.pos_of_ne_zero zero
        rw [if_neg (by omega)]
        unfold decimal at split ⊢
        rw [← Nat.toDigits_append_toDigits (by decide) positive small, Nat.toDigits_of_lt_base small,
          ← List.append_assoc, ← split]

theorem head_decimal_ne_zero (positive : 0 < number) : (decimal number).head? ≠ some '0' := by
  induction number using Nat.strongRecOn with
  | ind number ih =>
      unfold decimal
      rw [Nat.toDigits_eq_if (by decide)]
      split
      · simp
        omega
      · have earlier := ih (number / 10) (by omega) (by omega)
        rw [List.head?_append]
        cases shape : (Nat.toDigits 10 (number / 10)).head? with
        | none =>
            rw [List.head?_eq_none_iff] at shape
            exact absurd shape Nat.toDigits_ne_nil
        | some first =>
            unfold decimal at earlier
            rw [shape] at earlier
            exact earlier

/-- A numeral without leading zeros is the decimal text of its value. -/
theorem eq_decimal_iff : text = decimal number ↔
    IsNumeral text ∧ ¬(1 < text.length ∧ text.head? = some '0') ∧ Nat.ofDigitChars 10 text 0 = number := by
  constructor
  · rintro rfl
    refine ⟨isNumeral_decimal number, ?_, value_decimal number⟩
    rintro ⟨long, zero⟩
    rcases Nat.eq_zero_or_pos number with rfl | positive
    · exact absurd long (by decide)
    · exact head_decimal_ne_zero positive zero
  · rintro ⟨⟨present, digits⟩, plain, rfl⟩
    obtain ⟨zeros, split⟩ := exists_zeros digits
    cases zeros with
    | zero =>
        rw [List.replicate_zero, List.nil_append] at split
        split at split
        · exact absurd split present
        · exact split
    | succ zeros =>
        have first : text.head? = some '0' := by
          rw [split]
          rfl
        have single : text.length = 1 := by
          have positive := List.length_pos_iff.mpr present
          by_contra long
          exact plain ⟨by omega, first⟩
        obtain ⟨only, rfl⟩ := List.length_eq_one_iff.mp single
        obtain rfl := Option.some.inj first
        rfl

/-- A numeral of a positive number is its decimal text after some zeros. -/
theorem numeral_iff_of_pos (positive : 0 < number) :
    (IsNumeral text ∧ Nat.ofDigitChars 10 text 0 = number) ↔
      ∃ zeros, text = List.replicate zeros '0' ++ decimal number := by
  constructor
  · rintro ⟨⟨-, digits⟩, rfl⟩
    obtain ⟨zeros, split⟩ := exists_zeros digits
    rw [if_neg positive.ne'] at split
    exact ⟨zeros, split⟩
  · rintro ⟨zeros, rfl⟩
    refine ⟨⟨?_, ?_⟩, ?_⟩
    · intro none
      exact (isNumeral_decimal number).1 (List.append_eq_nil_iff.mp none).2
    · intro character inside
      rcases List.mem_append.mp inside with zero | digit
      · rw [(List.mem_replicate.mp zero).2]
        rfl
      · exact (isNumeral_decimal number).2 character digit
    · rw [Nat.ofDigitChars_append, Nat.ofDigitChars_replicate_zero, Nat.mul_zero, value_decimal]

theorem not_mem_decimal_text {character : Char} (other : character.isDigit = false) (number : Nat) :
    character ∉ decimal number := by
  intro inside
  rw [(isNumeral_decimal number).2 character inside] at other
  cases other

end Numerals

end DiskServer.Library
