import DiskServer.Construction.Drive.RestoreNames
import DiskServer.Proof.Drive.Extensions
import DiskServer.Proof.Drive.NamePaths
import DiskServer.Proof.Drive.TrashCallbacks
import Mathlib.Tactic.IntervalCases

namespace DiskServer.Drive.RestoreNames

open Library Transaction Library.Callback Utils

section Dots

variable {text : String} {pattern : String} {position : Nat}

theorem rfind_eq_some_iff : rfind pattern text = some position ↔
    position ≤ text.length ∧ pattern.toList <+: text.toList.drop position ∧
      ∀ later, position < later → later ≤ text.length → ¬ pattern.toList <+: text.toList.drop later := by
  have decreasing : ((List.range (text.length + 1)).reverse).Pairwise (· > ·) := by
    rw [List.pairwise_reverse]
    exact List.pairwise_lt_range
  unfold rfind
  rw [List.find?_eq_some_iff_append]
  simp only [List.isPrefixOf_iff_prefix, Bool.not_eq_true']
  constructor
  · rintro ⟨here, larger, smaller, split, absent⟩
    have member : position ∈ (List.range (text.length + 1)).reverse := by
      rw [split]
      exact List.mem_append_right _ List.mem_cons_self
    rw [List.mem_reverse, List.mem_range] at member
    refine ⟨by omega, here, ?_⟩
    intro later above below starts
    have listed : later ∈ larger ++ position :: smaller := by
      rw [← split, List.mem_reverse, List.mem_range]
      omega
    rw [split, List.pairwise_append, List.pairwise_cons] at decreasing
    rcases List.mem_append.mp listed with early | late
    · have fails := absent later early
      rw [← List.isPrefixOf_iff_prefix] at starts
      rw [starts] at fails
      cases fails
    · rcases List.mem_cons.mp late with rfl | smallerOne
      · omega
      · have order := decreasing.2.1.1 later smallerOne
        omega
  · rintro ⟨inside, here, last⟩
    obtain ⟨larger, smaller, split⟩ := List.append_of_mem
      (show position ∈ (List.range (text.length + 1)).reverse by
        rw [List.mem_reverse, List.mem_range]
        omega)
    refine ⟨here, larger, smaller, split, ?_⟩
    intro later early
    have listed : later ∈ (List.range (text.length + 1)).reverse := by
      rw [split]
      exact List.mem_append_left _ early
    rw [List.mem_reverse, List.mem_range] at listed
    rw [split, List.pairwise_append] at decreasing
    have above := decreasing.2.2 later early position List.mem_cons_self
    rw [Bool.eq_false_iff, ne_eq, List.isPrefixOf_iff_prefix]
    exact last later above (by omega)

theorem dot_prefix_iff {characters : List Char} :
    ".".toList <+: characters ↔ ∃ rest, characters = '.' :: rest := by
  constructor
  · rintro ⟨rest, rfl⟩
    exact ⟨rest, rfl⟩
  · rintro ⟨rest, rfl⟩
    exact ⟨rest, rfl⟩

/-- The last dot of a name splits it into its stem and its extension. -/
theorem rfind_dot_of_split {stem extension : List Char} (split : text.toList = stem ++ '.' :: extension)
    (last : '.' ∉ extension) : rfind "." text = some stem.length := by
  rw [rfind_eq_some_iff, ← String.length_toList, split]
  refine ⟨by simp, dot_prefix_iff.mpr ⟨extension, by simp⟩, ?_⟩
  intro later above _ starts
  obtain ⟨rest, here⟩ := dot_prefix_iff.mp starts
  apply last
  have behind : (stem ++ '.' :: extension).drop later = extension.drop (later - (stem.length + 1)) := by
    rw [List.drop_append, List.drop_of_length_le (by omega), List.nil_append]
    obtain ⟨distance, rfl⟩ : ∃ distance, later = stem.length + 1 + distance := ⟨later - (stem.length + 1), by omega⟩
    rw [show stem.length + 1 + distance - stem.length = distance + 1 by omega, List.drop_succ_cons]
    congr 1
    omega
  rw [behind] at here
  exact List.mem_of_mem_drop (here ▸ List.mem_cons_self)

theorem rfind_dot_of_not_mem (plain : '.' ∉ text.toList) : rfind "." text = none := by
  unfold rfind
  rw [List.find?_eq_none]
  intro position _ starts
  obtain ⟨rest, here⟩ := dot_prefix_iff.mp (List.isPrefixOf_iff_prefix.mp starts)
  exact plain (List.mem_of_mem_drop (here ▸ List.mem_cons_self))

end Dots

section Extensions

variable {name : String} {stem extension : List Char}

theorem extractFileExtension_of_split (split : name.toList = stem ++ '.' :: extension)
    (last : '.' ∉ extension) : extractFileExtension name = String.ofList extension := by
  have long : name.length = stem.length + (extension.length + 1) := by
    rw [← String.length_toList, split, List.length_append, List.length_cons]
  unfold extractFileExtension
  rw [rfind_dot_of_split split last]
  dsimp only
  unfold substrFrom
  rw [split, List.drop_append, List.drop_of_length_le (by omega), List.nil_append,
    show stem.length + 1 - stem.length = 1 by omega, List.drop_succ_cons, List.drop_zero]
  split
  · rename_i ends
    have none : extension = [] := List.eq_nil_of_length_eq_zero (by omega)
    rw [none]
  · rfl

theorem extractFileExtension_of_plain (plain : '.' ∉ name.toList) : extractFileExtension name = "" := by
  unfold extractFileExtension
  rw [rfind_dot_of_not_mem plain]

end Extensions

section Candidates

/-- The part of a name that a candidate repeats behind its number. -/
def candidateEnd (name : String) : String :=
  if extractExtension name = "" then "" else "." ++ extractExtension name

theorem restoredFileName_numbered (name : String) {candidateIndex : Nat} (numbered : candidateIndex ≠ 0) :
    restoredFileName name candidateIndex =
      extractBaseName name ++ (" (" ++ (toString candidateIndex ++ (")" ++ candidateEnd name))) := by
  unfold restoredFileName candidateEnd
  rw [if_neg numbered]
  dsimp only
  split
  · simp only [String.append_assoc, String.append_empty]
  · simp only [String.append_assoc]

/-- A name that ends with a dot loses this dot in front of the number. -/
def DropsFinalDot (name : String) : Prop :=
  ∃ position ∈ rfind "." name, position = name.length - 1 ∧ position ≠ 0 ∧
    dotBeforeParenthesis name position = false

instance (name : String) : Decidable (DropsFinalDot name) := by
  unfold DropsFinalDot
  infer_instance

/-- A candidate repeats the name around its number, but for a dot at its end. -/
theorem name_split (name : String) :
    name = extractBaseName name ++ (if DropsFinalDot name then "." else candidateEnd name) ∧
      (DropsFinalDot name → candidateEnd name = "") := by
  by_cases dotted : '.' ∈ name.toList
  · obtain ⟨stem, extension, split, last⟩ := exists_last dotted
    have found := rfind_dot_of_split split last
    have long : name.length = stem.length + (extension.length + 1) := by
      rw [← String.length_toList, split, List.length_append, List.length_cons]
    have whole : name = String.ofList stem ++ ("." ++ String.ofList extension) := by
      apply String.toList_inj.mp
      simp [split]
    have base : substrFrom name (stem.length + 1) = String.ofList extension := by
      unfold substrFrom
      simp [split, List.drop_append]
    have front : String.ofList (name.toList.take stem.length) = String.ofList stem := by
      rw [split, List.take_left]
    unfold DropsFinalDot candidateEnd extractBaseName extractExtension
    simp only [found, Option.mem_def, Option.some.injEq, exists_eq_left', long, base, front]
    by_cases zero : stem.length = 0
    · simp [zero]
    · cases dotBeforeParenthesis name stem.length with
      | true => simp
      | false =>
          by_cases ends : extension = []
          · subst ends
            simp [zero, whole]
          · have more : extension.length ≠ 0 := fun none => ends (List.eq_nil_of_length_eq_zero none)
            simp [zero, ends, more, whole]
  · have found := rfind_dot_of_not_mem dotted
    have keeps : ¬ DropsFinalDot name := by
      unfold DropsFinalDot
      simp [found]
    refine ⟨?_, fun drops => absurd drops keeps⟩
    rw [if_neg keeps]
    unfold candidateEnd extractBaseName extractExtension
    simp [found]

end Candidates

section Valid

theorem textBytes_append (left right : String) :
    textBytes (left ++ right) = textBytes left ++ textBytes right := by
  rw [textBytes_eq, textBytes_eq, textBytes_eq, String.toList_append, List.flatMap_append]

theorem textBytes_injective {left right : String} (same : textBytes left = textBytes right) :
    left = right := by
  apply String.toByteArray_inj.mp
  unfold textBytes at same
  rw [String.toUTF8_eq_toByteArray, String.toUTF8_eq_toByteArray] at same
  exact ByteArray.ext (Array.toList_inj.mp same)

/-- The characters of a name are printable and their bytes are allowed. -/
def NameCharacter (character : Char) : Prop :=
  (0x1F < character.toNat ∧ ¬ (0x7F ≤ character.toNat ∧ character.toNat ≤ 0x9F)) ∧
    hasForbiddenDriveItemChars (String.utf8EncodeChar character) = false

theorem isCleanUtf8_textBytes (text : String) : IsCleanUtf8 (textBytes text) ↔
    ∀ character ∈ text.toList,
      0x1F < character.toNat ∧ ¬ (0x7F ≤ character.toNat ∧ character.toNat ≤ 0x9F) := by
  constructor
  · rintro ⟨characters, encoded, clean⟩
    have same : text = String.ofList characters := by
      apply textBytes_injective
      rw [encoded, textBytes_eq, String.toList_ofList]
    rw [same, String.toList_ofList]
    exact clean
  · intro clean
    exact ⟨text.toList, textBytes_eq text, clean⟩

theorem hasForbidden_textBytes (text : String) : hasForbiddenDriveItemChars (textBytes text) = false ↔
    ∀ character ∈ text.toList,
      hasForbiddenDriveItemChars (String.utf8EncodeChar character) = false := by
  unfold hasForbiddenDriveItemChars
  rw [textBytes_eq, List.any_flatMap, List.any_eq_false]
  simp only [Bool.not_eq_true]

/-- The names that the validation accepts. -/
theorem validName_iff {subject name : String} :
    validateName subject (textBytes name) = .ok (textBytes name) ↔ name ≠ "" ∧
      (textBytes name).length ≤ 255 ∧ (textBytes name).head? ≠ some 0x2E ∧
      ∀ character ∈ name.toList, NameCharacter character := by
  rw [validateName_eq_ok, and_iff_right rfl, hasForbidden_textBytes, isCleanUtf8_textBytes]
  have positive : 1 ≤ (textBytes name).length ↔ name ≠ "" := by
    constructor
    · rintro long rfl
      exact absurd long (by decide)
    · intro some
      refine Nat.one_le_iff_ne_zero.mpr fun none => some ?_
      exact textBytes_injective (List.eq_nil_of_length_eq_zero none)
  constructor
  · rintro ⟨lower, upper, allowed, start, clean⟩
    exact ⟨positive.mp lower, upper, start, fun character present =>
      ⟨clean character present, allowed character present⟩⟩
  · rintro ⟨lower, upper, start, characters⟩
    exact ⟨positive.mpr lower, upper, fun character present => (characters character present).2, start,
      fun character present => (characters character present).1⟩

theorem digit_bounds {character : Char} (digit : character.isDigit = true) :
    48 ≤ character.toNat ∧ character.toNat ≤ 57 := by
  simp only [Char.isDigit, ge_iff_le, Bool.and_eq_true, decide_eq_true_eq,
    UInt32.le_iff_toNat_le] at digit
  exact digit

theorem nameCharacter_digit {character : Char} (digit : character.isDigit = true) :
    NameCharacter character := by
  have bounds := digit_bounds digit
  rw [← Char.ofNat_toNat character]
  generalize character.toNat = number at bounds
  obtain ⟨lower, upper⟩ := bounds
  unfold NameCharacter
  interval_cases number <;> decide

end Valid

section Numbered

variable {name : String} {candidateIndex : Nat}

/-- The number in a candidate name. -/
def numberText (candidateIndex : Nat) : String := " (" ++ (toString candidateIndex ++ ")")

theorem restoredFileName_eq (numbered : candidateIndex ≠ 0) : restoredFileName name candidateIndex =
    extractBaseName name ++ (numberText candidateIndex ++ candidateEnd name) := by
  rw [restoredFileName_numbered name numbered]
  unfold numberText
  simp only [String.append_assoc]

theorem numberText_character {character : Char}
    (inside : character ∈ (numberText candidateIndex).toList) :
    character.isDigit = true ∨ character = ' ' ∨ character = '(' ∨ character = ')' := by
  unfold numberText at inside
  simp only [String.toList_append, List.mem_append] at inside
  rcases inside with start | digit | stop
  · have listed : character = ' ' ∨ character = '(' := by simpa using start
    rcases listed with space | open_
    · exact .inr (.inl space)
    · exact .inr (.inr (.inl open_))
  · exact .inl (isDigit_decimal digit)
  · exact .inr (.inr (.inr (by simpa using stop)))

theorem dot_not_mem_numberText (candidateIndex : Nat) : '.' ∉ (numberText candidateIndex).toList := by
  intro inside
  rcases numberText_character inside with digit | space | start | stop
  · cases digit
  · cases space
  · cases start
  · cases stop

theorem numberText_injective {one two : Nat} {first second : String}
    (same : numberText one ++ first = numberText two ++ second) : one = two := by
  have numbers : toString one ++ (String.singleton ')' ++ first) =
      toString two ++ (String.singleton ')' ++ second) := by
    have whole : " (" ++ (toString one ++ (String.singleton ')' ++ first)) =
        " (" ++ (toString two ++ (String.singleton ')' ++ second)) := by
      unfold numberText at same
      simp only [String.append_assoc] at same
      exact same
    exact text_append_right_cancel whole
  exact decimal_injective (text_separator_left (not_mem_decimal rfl one) (not_mem_decimal rfl two)
    numbers).1

theorem numberText_length : (numberText candidateIndex).length = 3 + (toString candidateIndex).length := by
  unfold numberText
  simp only [String.length_append]
  change 2 + ((toString candidateIndex).length + 1) = 3 + (toString candidateIndex).length
  omega

theorem textBytes_numberText : (textBytes (numberText candidateIndex)).length =
    3 + (toString candidateIndex).length := by
  have single : ∀ character ∈ (numberText candidateIndex).toList,
      (String.utf8EncodeChar character).length = 1 := by
    intro character inside
    rcases numberText_character inside with digit | rfl | rfl | rfl
    · have bounds := digit_bounds digit
      unfold String.utf8EncodeChar
      rw [if_pos (by unfold Char.toNat at bounds; omega)]
      rfl
    · rfl
    · rfl
    · rfl
  rw [textBytes_eq, List.length_flatMap, ← numberText_length, ← String.length_toList,
    List.map_congr_left single, List.map_const', List.sum_replicate_nat, Nat.mul_one]

theorem decimal_length (small : candidateIndex ≤ 1000) : (toString candidateIndex).length ≤ 4 := by
  rw [Nat.toString_eq_repr, Nat.length_repr_le_iff (by decide)]
  omega

/-- Every candidate name is longer than the name itself. -/
theorem restoredFileName_longer (name : String) (numbered : candidateIndex ≠ 0) :
    name.length < (restoredFileName name candidateIndex).length := by
  obtain ⟨whole, dropped⟩ := name_split name
  have long : name.length = (extractBaseName name).length +
      (if DropsFinalDot name then "." else candidateEnd name).length := by
    rw [← String.length_append, ← whole]
  rw [restoredFileName_eq numbered, String.length_append, String.length_append, numberText_length, long]
  split
  · change _ + 1 < _
    omega
  · omega

/-- Different candidates have different names. -/
theorem restoredFileName_injective {one two : Nat}
    (same : restoredFileName name one = restoredFileName name two) : one = two := by
  by_cases first : one = 0
  · by_cases second : two = 0
    · rw [first, second]
    · have longer := restoredFileName_longer name second
      rw [← same, first, show restoredFileName name 0 = name from rfl] at longer
      omega
  · by_cases second : two = 0
    · have longer := restoredFileName_longer name first
      rw [same, second, show restoredFileName name 0 = name from rfl] at longer
      omega
    · rw [restoredFileName_eq first, restoredFileName_eq second] at same
      exact numberText_injective (text_append_right_cancel same)

end Numbered

section Kept

variable {name : String} {candidateIndex : Nat}

/-- The last dot of the name starts its extension for the candidates as well, and a dot at the end of
the name is the only one. -/
def ExtensionStays (name : String) : Prop :=
  ∀ position ∈ rfind "." name, dotBeforeParenthesis name position = false ∧
    (position = name.length - 1 → '.' ∉ name.toList.take position)

instance (name : String) : Decidable (ExtensionStays name) := by
  unfold ExtensionStays
  infer_instance

/-- The longest number has a place behind the name. -/
def NumbersFit (name : String) : Prop :=
  (textBytes name).length + 7 ≤ 255 + (if DropsFinalDot name then 1 else 0)

instance (name : String) : Decidable (NumbersFit name) := by
  unfold NumbersFit
  infer_instance

theorem numberText_ne_empty : numberText candidateIndex ≠ "" := by
  unfold numberText
  simp

/-- A candidate has the extension of the name exactly when the extension stays. -/
theorem extension_kept_iff (start : name.toList.head? ≠ some '.') (numbered : candidateIndex ≠ 0) :
    extractFileExtension (restoredFileName name candidateIndex) = extractFileExtension name ↔
      ExtensionStays name := by
  have undotted := dot_not_mem_numberText candidateIndex
  by_cases dotted : '.' ∈ name.toList
  · obtain ⟨stem, extension, split, last⟩ := exists_last dotted
    have found := rfind_dot_of_split split last
    have long : name.length = stem.length + (extension.length + 1) := by
      rw [← String.length_toList, split, List.length_append, List.length_cons]
    have inner : stem.length ≠ 0 := by
      intro none
      rw [split, List.eq_nil_of_length_eq_zero none] at start
      exact start rfl
    have stays : ExtensionStays name ↔ dotBeforeParenthesis name stem.length = false ∧
        (extension = [] → '.' ∉ stem) := by
      unfold ExtensionStays
      simp only [found, Option.mem_def, Option.some.injEq, forall_eq', split, List.take_left, long]
      refine and_congr_right fun _ => ⟨fun plain none => plain ?_, fun plain ends => plain ?_⟩
      · rw [none, List.length_nil]
        omega
      · exact List.eq_nil_of_length_eq_zero (by omega)
    rw [extractFileExtension_of_split split last, stays, restoredFileName_eq numbered]
    unfold extractBaseName candidateEnd extractExtension
    simp only [found, inner, false_or]
    cases dotBeforeParenthesis name stem.length with
    | true =>
        have candidate : (name ++ (numberText candidateIndex ++ "")).toList =
            stem ++ '.' :: (extension ++ (numberText candidateIndex).toList) := by
          simp [split]
        have absent : '.' ∉ extension ++ (numberText candidateIndex).toList := by
          simp [last, undotted]
        simp only [or_true, if_true, extractFileExtension_of_split candidate absent]
        simp [numberText_ne_empty]
    | false =>
        by_cases ends : extension = []
        · subst ends
          have whole : (String.ofList (name.toList.take stem.length) ++
              (numberText candidateIndex ++ "")).toList = stem ++ (numberText candidateIndex).toList := by
            simp [split]
          have final : stem.length = name.length - 1 := by
            rw [long, List.length_nil]
            omega
          simp only [← final, or_false, if_true, Bool.false_eq_true, if_false]
          by_cases more : '.' ∈ stem
          · obtain ⟨first, second, splits, absent⟩ := exists_last more
            have candidate := whole.trans
              (congrArg (· ++ (numberText candidateIndex).toList) splits)
            simp only [List.append_assoc, List.cons_append] at candidate
            have plain : '.' ∉ second ++ (numberText candidateIndex).toList := by
              simp [absent, undotted]
            rw [extractFileExtension_of_split candidate plain]
            simp [more, numberText_ne_empty]
          · have plain : '.' ∉ stem ++ (numberText candidateIndex).toList := by
              simp [more, undotted]
            rw [← whole] at plain
            rw [extractFileExtension_of_plain plain]
            simp [more]
        · have inside : stem.length ≠ name.length - 1 := by
            have more := List.length_pos_iff.mpr ends
            omega
          have behind : substrFrom name (stem.length + 1) = String.ofList extension := by
            unfold substrFrom
            simp [split, List.drop_append]
          have filled : String.ofList extension ≠ "" := by
            simp [ends]
          have candidate : (String.ofList (name.toList.take stem.length) ++
              (numberText candidateIndex ++ ("." ++ String.ofList extension))).toList =
                (stem ++ (numberText candidateIndex).toList) ++ '.' :: extension := by
            simp [split]
          simp only [inside, or_self, if_false, Bool.false_eq_true, behind, filled,
            extractFileExtension_of_split candidate last]
          simp [ends]
  · have found := rfind_dot_of_not_mem dotted
    have candidate : '.' ∉ (name ++ (numberText candidateIndex ++ "")).toList := by
      simp [dotted, undotted]
    rw [extractFileExtension_of_plain dotted, restoredFileName_eq numbered]
    unfold extractBaseName candidateEnd extractExtension ExtensionStays
    simp only [found, if_true, extractFileExtension_of_plain candidate]
    simp

theorem nameCharacter_numberText {character : Char}
    (inside : character ∈ (numberText candidateIndex).toList) : NameCharacter character := by
  rcases numberText_character inside with digit | rfl | rfl | rfl
  · exact nameCharacter_digit digit
  · exact ⟨by decide, by decide⟩
  · exact ⟨by decide, by decide⟩
  · exact ⟨by decide, by decide⟩

/-- The bytes of a candidate, counted from those of the name. -/
theorem textBytes_restoredFileName (name : String) (numbered : candidateIndex ≠ 0) :
    (textBytes (restoredFileName name candidateIndex)).length + (if DropsFinalDot name then 1 else 0) =
      (textBytes name).length + 3 + (toString candidateIndex).length := by
  obtain ⟨whole, dropped⟩ := name_split name
  have long : (textBytes name).length = (textBytes (extractBaseName name)).length +
      (textBytes (if DropsFinalDot name then "." else candidateEnd name)).length := by
    rw [← List.length_append, ← textBytes_append, ← whole]
  rw [restoredFileName_eq numbered, textBytes_append, textBytes_append, List.length_append,
    List.length_append, textBytes_numberText, long]
  by_cases drops : DropsFinalDot name
  · rw [dropped drops, if_pos drops, if_pos drops]
    change _ + (_ + 0) + 1 = _ + 1 + 3 + _
    omega
  · rw [if_neg drops, if_neg drops]
    omega

theorem mem_candidate {character : Char} (numbered : candidateIndex ≠ 0)
    (inside : character ∈ (restoredFileName name candidateIndex).toList) :
    character ∈ name.toList ∨ character ∈ (numberText candidateIndex).toList := by
  obtain ⟨whole, dropped⟩ := name_split name
  rw [restoredFileName_eq numbered, String.toList_append, String.toList_append, List.mem_append,
    List.mem_append] at inside
  rcases inside with front | number | back
  · rw [whole, String.toList_append]
    exact .inl (List.mem_append_left _ front)
  · exact .inr number
  · by_cases drops : DropsFinalDot name
    · rw [dropped drops] at back
      cases back
    · rw [if_neg drops] at whole
      rw [whole, String.toList_append]
      exact .inl (List.mem_append_right _ back)

theorem extractBaseName_ne_empty (filled : name ≠ "") (start : name.toList.head? ≠ some '.') :
    extractBaseName name ≠ "" := by
  intro none
  obtain ⟨whole, dropped⟩ := name_split name
  rw [none, String.empty_append] at whole
  by_cases drops : DropsFinalDot name
  · rw [if_pos drops] at whole
    rw [whole] at start
    exact start rfl
  · rw [if_neg drops] at whole
    unfold candidateEnd at whole
    split at whole
    · exact filled whole
    · rw [whole] at start
      exact start (by simp)

theorem encode_dot {character : Char} {rest : List UInt8}
    (encoded : String.utf8EncodeChar character = 0x2E :: rest) : character = '.' := by
  obtain ⟨byte, tail, lead, decodes⟩ := exists_decodes character
  obtain ⟨rfl, rfl⟩ := List.cons.inj (encoded.symm.trans decodes.encoded)
  obtain rfl := Option.some.inj (decodes.decoded.symm.trans (show decodeLead 0x2E = _ from rfl))
  obtain rfl := List.eq_nil_of_length_eq_zero decodes.length
  exact Char.ext (UInt32.toNat_inj.mp decodes.joined)

theorem head_dot_iff (text : String) :
    (textBytes text).head? = some 0x2E ↔ text.toList.head? = some '.' := by
  rw [textBytes_eq]
  cases text.toList with
  | nil => simp
  | cons character rest =>
      rw [List.flatMap_cons, List.head?_cons, Option.some.injEq]
      constructor
      · intro starts
        cases encoded : String.utf8EncodeChar character with
        | nil => exact absurd encoded String.utf8EncodeChar_ne_nil
        | cons byte others =>
            rw [encoded, List.cons_append, List.head?_cons, Option.some.injEq] at starts
            rw [starts] at encoded
            exact encode_dot encoded
      · rintro rfl
        rfl

/-- A candidate is valid exactly when its bytes fit. -/
theorem validName_restoredFileName {subject : String}
    (valid : validateName subject (textBytes name) = .ok (textBytes name)) (numbered : candidateIndex ≠ 0) :
    validateName subject (textBytes (restoredFileName name candidateIndex)) =
        .ok (textBytes (restoredFileName name candidateIndex)) ↔
      (textBytes (restoredFileName name candidateIndex)).length ≤ 255 := by
  obtain ⟨filled, -, start, characters⟩ := validName_iff.mp valid
  rw [validName_iff]
  refine ⟨fun accepted => accepted.2.1, fun short => ⟨?_, short, ?_, ?_⟩⟩
  · intro none
    have longer := restoredFileName_longer name numbered
    rw [none] at longer
    exact Nat.not_lt_zero _ longer
  · rw [ne_eq, head_dot_iff] at start ⊢
    have base := extractBaseName_ne_empty filled start
    obtain ⟨whole, -⟩ := name_split name
    rw [restoredFileName_eq numbered, String.toList_append]
    rw [whole, String.toList_append] at start
    cases split : (extractBaseName name).toList with
    | nil => exact absurd (String.toList_eq_nil_iff.mp split) base
    | cons first rest =>
        rw [split] at start
        exact start
  · intro character inside
    rcases mem_candidate numbered inside with here | number
    · exact characters character here
    · exact nameCharacter_numberText number

end Kept

section Attempts

variable {db : Db} {trashId userId contentId candidateIndex : Nat} {item : Trash}
  {source : ContentIdSource} {mimeType : String}

/-- Nothing goes wrong with a transaction. -/
def clearWeather : Weather := ⟨true, fun _ => false, .done⟩

/-- The folder that a restored file goes to. -/
def restoreFolder (db : Db) (originalFolderId userId : Nat) : Nat × FolderLocation :=
  if originalFolderId = 0 then
    (0, {})
  else
    match db.folders.rows.find? fun folder => folder.owned originalFolderId userId with
    | none => (0, {})
    | some folder => (originalFolderId, ⟨folder.path, folder.depth⟩)

/-- Nothing but an occupied name stops the restore of the file. -/
structure Restorable (db : Db) (trashId userId : Nat) (item : Trash) (contentId : Nat)
    (source : ContentIdSource) (mimeType : String) : Prop where
  found : db.trash.find? trashId = some item
  owner : item.userId = userId
  kind : item.itemType = .file
  content : resolveRequiredContentId item.contentId item.itemData = .ok (contentId, source)
  present : (db.contents.find? contentId).isSome = true
  user : (db.users.find? userId).isSome = true
  converted : mimeTypeOf item = .ok mimeType
  mimeType : fitsColumn mimeTypeWidth mimeType = true
  columns : ∀ candidateIndex ≤ Callbacks.maxCandidateIndex,
    fitsColumn extensionWidth (extractExtension (restoredFileName item.itemName candidateIndex)) = true ∧
      fitsColumn pathWidth ((restoreFolder db item.originalFolderId userId).2.path ++
        restoredFileName item.itemName candidateIndex) = true

/-- A restored file cannot take the candidate name. -/
def occupied (db : Db) (userId : Nat) (item : Trash) (candidateIndex : Nat) : Bool :=
  fileNameExists db userId (restoreFolder db item.originalFolderId userId).1
    (restoredFileName item.itemName candidateIndex)

theorem calm_lock : Calm Callbacks.acquireNameLock db (.ok ()) db := calm_query _

theorem calm_fetchLifecycleRow (restorable : Restorable db trashId userId item contentId source mimeType) :
    Calm (Callbacks.fetchLifecycleRow trashId userId .file) db (.ok item) db := by
  apply (calm_query _).bind
  rw [restorable.found]
  simp only [Option.filter_some, restorable.owner, decide_true, if_true, restorable.kind]
  exact calm_pure item

theorem calm_restoreTarget (db : Db) (userId originalFolderId : Nat) :
    Calm (Callbacks.restoreTarget originalFolderId userId) db
      (.ok (restoreFolder db originalFolderId userId)) db := by
  unfold Callbacks.restoreTarget restoreFolder
  split
  · exact calm_lock.bind (calm_pure _)
  · apply (calm_query _).bind
    cases found : db.folders.rows.find? fun folder => folder.owned originalFolderId userId with
    | none => exact calm_lock.bind (calm_pure _)
    | some folder =>
        apply calm_lock.bind
        apply (calm_query _).bind
        rw [found]
        exact calm_pure _

/-- The statements in front of the name check read the item and its target. -/
theorem calm_restoreFile {result : Except (Stop ErrorInfo) Nat} {after : Db} {targetFolderId : Nat}
    {location : FolderLocation} (restorable : Restorable db trashId userId item contentId source mimeType)
    (target : restoreFolder db item.originalFolderId userId = (targetFolderId, location))
    (rest : Calm (if fileNameExists db userId targetFolderId (restoredFileName item.itemName candidateIndex)
        then refuse Callbacks.restoreFilenameOccupied
        else do
          let mimeType ← Callbacks.convert (mimeTypeOf item)
          let file := restoredFile item contentId targetFolderId location mimeType candidateIndex
          let fileId ← statement (insertFile file.row file.row_id)
          Callbacks.countRestoredItem targetFolderId userId restoreFileFailed
          Callbacks.deleteTrashRow item.id userId .file restoreFileFailed
          pure fileId) db result after) :
    Calm (restoreFile trashId userId candidateIndex) db result after := by
  have reads := calm_restoreTarget db userId item.originalFolderId
  rw [target] at reads
  apply (calm_fetchLifecycleRow restorable).bind
  rw [restorable.content]
  apply reads.bind
  apply (calm_query _).bind
  rw [Callbacks.fileNameExistsExcluding_zero]
  exact rest

theorem calm_occupied (restorable : Restorable db trashId userId item contentId source mimeType)
    (taken : occupied db userId item candidateIndex = true) :
    Calm (restoreFile trashId userId candidateIndex) db
      (.error (.refused Callbacks.restoreFilenameOccupied)) db := by
  rcases target : restoreFolder db item.originalFolderId userId with ⟨targetFolderId, location⟩
  apply calm_restoreFile restorable target
  unfold occupied at taken
  rw [target] at taken
  rw [if_pos taken]
  exact calm_refuse _

/-- The insert takes the next id and leaves the other tables alone. -/
theorem insertFile_run {build : Nat → File} {keyed : ∀ id, (build id).id = id}
    (fits : fitsFiles (build db.files.next) = true)
    (free : fileNameExists db (build db.files.next).userId (build db.files.next).folderId
      (filesRow (build db.files.next)).name = false)
    (user : (db.users.find? (build db.files.next).userId).isSome = true)
    (present : (db.contents.find? (build db.files.next).contentId).isSome = true) :
    (insertFile build keyed).run db = .ok (db.files.next,
      { db with files := db.files.insert (fun id => filesRow (build id)) keyed }) := by
  have owned : (db.users.find? (filesRow (build db.files.next)).userId).isNone = false := by
    rw [← Option.not_isSome, Bool.not_eq_false']
    exact user
  have stored : (db.contents.find? (filesRow (build db.files.next)).contentId).isNone = false := by
    rw [← Option.not_isSome, Bool.not_eq_false']
    exact present
  unfold insertFile Drive.insertFile
  rw [get_bind_run, if_pos fits, get_bind_run]
  dsimp only
  rw [if_neg (by rw [Bool.not_eq_true]; exact free), if_neg (by rw [owned]; decide),
    if_neg (by rw [stored]; decide)]
  change Except.ok ((filesRow (build db.files.next)).id, _) = _
  rw [show (filesRow (build db.files.next)).id = db.files.next from keyed _]

theorem applyItemCountDelta_run {folderId : Nat} (delta : Int)
    (there : (db.folders.rows.any fun folder => folder.owned folderId userId) = true) :
    ∃ after, (applyItemCountDelta folderId userId delta).run db = .ok (true, after) ∧
      after.files = db.files ∧ after.trash = db.trash := by
  unfold applyItemCountDelta
  rw [get_bind_run, if_pos there]
  exact ⟨_, rfl, rfl, rfl⟩

theorem calm_countRestoredItem (db : Db) {targetFolderId : Nat} (failure : ErrorInfo)
    (there : 0 < targetFolderId →
      (db.folders.rows.any fun folder => folder.owned targetFolderId userId) = true) :
    ∃ after, Calm (Callbacks.countRestoredItem targetFolderId userId failure) db (.ok ()) after ∧
      after.files = db.files ∧ after.trash = db.trash := by
  unfold Callbacks.countRestoredItem
  split
  · rename_i inside
    obtain ⟨after, ran, files, trash⟩ := applyItemCountDelta_run 1 (there inside)
    exact ⟨after, (calm_statement ran).bind (calm_pure ()), files, trash⟩
  · exact ⟨db, calm_pure (), rfl, rfl⟩

theorem calm_deleteTrashRow (failure : ErrorInfo) {row : Trash} {itemType : TrashItemType}
    (found : db.trash.find? row.id = some row) (owner : row.userId = userId)
    (kind : row.itemType = itemType) :
    ∃ after, Calm (Callbacks.deleteTrashRow row.id userId itemType failure) db (.ok ()) after ∧
      after.files = db.files := by
  have single : (db.trash.rows.filter (Callbacks.selectsTrash row.id userId itemType)).length = 1 := by
    have selects : db.trash.rows.filter (Callbacks.selectsTrash row.id userId itemType) =
        (db.trash.rows.filter fun other => other.id = row.id).filter
          fun other => other.userId = userId && other.itemType = itemType := by
      rw [List.filter_filter]
      congr 1
      funext other
      unfold Callbacks.selectsTrash
      simp [Bool.and_comm, Bool.and_assoc]
    rw [selects, Table.filter_key_of_find? found]
    simp [owner, kind]
  unfold Callbacks.deleteTrashRow
  have ran : (Callbacks.deleteTrash (Callbacks.selectsTrash row.id userId itemType)).run db =
      .ok (1, { db with trash := db.trash.remove (Callbacks.selectsTrash row.id userId itemType) }) := by
    rw [← single]
    rfl
  exact ⟨_, (calm_statement ran).bind (calm_pure ()), rfl⟩

theorem restoreFolder_owned {originalFolderId targetFolderId : Nat} {location : FolderLocation}
    (target : restoreFolder db originalFolderId userId = (targetFolderId, location))
    (inside : 0 < targetFolderId) :
    (db.folders.rows.any fun folder => folder.owned targetFolderId userId) = true := by
  unfold restoreFolder at target
  split at target
  · cases target
    exact absurd inside (Nat.lt_irrefl 0)
  · split at target
    · cases target
      exact absurd inside (Nat.lt_irrefl 0)
    · rename_i folder found
      cases target
      have owned := List.find?_some found
      exact List.any_eq_true.mpr ⟨folder, List.mem_of_find?_eq_some found, owned⟩

/-- A free candidate that fits its column is the name of the new file. -/
theorem calm_free (restorable : Restorable db trashId userId item contentId source mimeType)
    (small : candidateIndex ≤ Callbacks.maxCandidateIndex)
    (fits : (restoredFileName item.itemName candidateIndex).length ≤ nameWidth)
    (free : occupied db userId item candidateIndex = false) :
    ∃ after file, Calm (restoreFile trashId userId candidateIndex) db (.ok db.files.next) after ∧
      after.files.find? db.files.next = some file ∧
      file.name = restoredFileName item.itemName candidateIndex ∧ file.userId = userId ∧
      file.folderId = (restoreFolder db item.originalFolderId userId).1 := by
  rcases target : restoreFolder db item.originalFolderId userId with ⟨targetFolderId, location⟩
  obtain ⟨extension, path⟩ := restorable.columns candidateIndex small
  unfold occupied at free
  rw [target] at free path
  have column : columnText nameWidth (restoredFileName item.itemName candidateIndex) =
      restoredFileName item.itemName candidateIndex := by
    unfold columnText
    rw [List.take_of_length_le (by rw [String.length_toList]; exact fits), String.ofList_toList]
  have name : fitsColumn nameWidth (restoredFileName item.itemName candidateIndex) = true := by
    unfold fitsColumn
    rw [List.drop_of_length_le (by rw [String.length_toList]; exact fits), List.all_nil]
  let file := restoredFile item contentId targetFolderId location mimeType candidateIndex
  have inserts : (insertFile file.row file.row_id).run db = .ok (db.files.next,
      { db with files := db.files.insert (fun id => filesRow (file.row id)) file.row_id }) := by
    apply insertFile_run
    · change (fitsColumn nameWidth (restoredFileName item.itemName candidateIndex) && _ && _ && _) = true
      rw [name, Bool.true_and, Bool.and_eq_true, Bool.and_eq_true]
      exact ⟨⟨extension, restorable.mimeType⟩, path⟩
    · change fileNameExists db item.userId targetFolderId 
        (columnText nameWidth (restoredFileName item.itemName candidateIndex)) = false
      rw [column, restorable.owner]
      exact free
    · change (db.users.find? item.userId).isSome = true
      rw [restorable.owner]
      exact restorable.user
    · exact restorable.present
  obtain ⟨counted, counts, files, trash⟩ := calm_countRestoredItem
    { db with files := db.files.insert (fun id => filesRow (file.row id)) file.row_id }
    restoreFileFailed (restoreFolder_owned target)
  have kept : counted.trash.find? item.id = some item := by
    rw [trash]
    obtain ⟨present, same⟩ := Table.find?_some restorable.found
    exact Table.find?_eq_some_iff.mpr ⟨present, rfl⟩
  obtain ⟨last, deletes, unchanged⟩ := calm_deleteTrashRow restoreFileFailed kept
    restorable.owner restorable.kind
  refine ⟨last, filesRow (file.row db.files.next), ?_, ?_, column, restorable.owner, rfl⟩
  · apply calm_restoreFile restorable target
    rw [if_neg (by rw [free]; decide), restorable.converted]
    apply (calm_pure _).bind
    apply (calm_statement inserts).bind
    apply counts.bind
    apply deletes.bind
    exact calm_pure _
  · rw [unchanged, files]
    apply Table.find?_eq_some_iff.mpr
    exact ⟨List.mem_append_right _ List.mem_cons_self, rfl⟩

/-- The loop goes on over the occupied candidates. -/
theorem runRestoreFile_skips (restorable : Restorable db trashId userId item contentId source mimeType)
    (candidateIndex count rounds : Nat)
    (taken : ∀ index < candidateIndex + count, candidateIndex ≤ index →
      occupied db userId item index = true) :
    Callbacks.restoreAttempts Callbacks.restoreFilenameOccupied restoreFileFailed
        (fun index before => run clearWeather restoreFileFailed (restoreFile trashId userId index) before)
        (count + rounds) candidateIndex db =
      Callbacks.restoreAttempts Callbacks.restoreFilenameOccupied restoreFileFailed
        (fun index before => run clearWeather restoreFileFailed (restoreFile trashId userId index) before)
        rounds (candidateIndex + count) db := by
  induction count generalizing candidateIndex with
  | zero => rw [Nat.zero_add, Nat.add_zero]
  | succ count skips =>
      have here := run_calm_refused restoreFileFailed
        (calm_occupied restorable (taken candidateIndex (by omega) (Nat.le_refl _)))
      rw [show count + 1 + rounds = (count + rounds) + 1 by omega, Callbacks.restoreAttempts]
      unfold clearWeather
      simp only [here, if_true]
      rw [show candidateIndex + (count + 1) = candidateIndex + 1 + count by omega]
      apply skips
      intro index below above
      exact taken index (by omega) (by omega)

end Attempts

section Restore

/-- The restore ends with the first free candidate, and it misses a name only without one. -/
def RestoresFirstFree (name : String) : Prop :=
  ∀ (db : Db) (trashId userId contentId : Nat) (item : Trash) (source : ContentIdSource)
    (mimeType : String), item.itemName = name →
    Restorable db trashId userId item contentId source mimeType →
    (∀ candidateIndex ≤ Callbacks.maxCandidateIndex, occupied db userId item candidateIndex = false →
      (∀ earlier < candidateIndex, occupied db userId item earlier = true) →
      ∃ fileId file, (runRestoreFile (fun _ => clearWeather) trashId userId db).result = .ok fileId ∧
        (runRestoreFile (fun _ => clearWeather) trashId userId db).state.files.find? fileId = some file ∧
        file.name = restoredFileName name candidateIndex ∧ file.userId = userId ∧
        file.folderId = (restoreFolder db item.originalFolderId userId).1) ∧
    (∀ error, (runRestoreFile (fun _ => clearWeather) trashId userId db).result = .error error →
      ∀ candidateIndex ≤ Callbacks.maxCandidateIndex, occupied db userId item candidateIndex = true)

/-- What the candidate names of a trashed file are good for. -/
structure CandidatesHold (name : String) : Prop where
  distinct : ∀ one ≤ Callbacks.maxCandidateIndex, ∀ two ≤ Callbacks.maxCandidateIndex,
    restoredFileName name one = restoredFileName name two → one = two
  valid : ∀ candidateIndex ≤ Callbacks.maxCandidateIndex,
    renameFileName (textBytes (restoredFileName name candidateIndex)) =
      .ok (textBytes (restoredFileName name candidateIndex))
  fits : ∀ candidateIndex ≤ Callbacks.maxCandidateIndex,
    (restoredFileName name candidateIndex).length ≤ nameWidth
  extension : ∀ candidateIndex ≤ Callbacks.maxCandidateIndex,
    extractFileExtension (restoredFileName name candidateIndex) = extractFileExtension name
  restores : RestoresFirstFree name

theorem length_le_textBytes (text : String) : text.length ≤ (textBytes text).length := by
  rw [textBytes_eq, ← String.length_toList]
  induction text.toList with
  | nil => exact Nat.le_refl _
  | cons character rest shorter =>
      have one := List.length_pos_iff.mpr (String.utf8EncodeChar_ne_nil (c := character))
      rw [List.flatMap_cons, List.length_append, List.length_cons]
      omega

/-- Names that fit are tried up to the first free one. -/
theorem restoresFirstFree {name : String} (fits : ∀ candidateIndex ≤ Callbacks.maxCandidateIndex,
    (restoredFileName name candidateIndex).length ≤ nameWidth) : RestoresFirstFree name := by
  intro db trashId userId contentId item source mimeType named restorable
  subst named
  have first : ∀ candidateIndex ≤ Callbacks.maxCandidateIndex,
      occupied db userId item candidateIndex = false →
      (∀ earlier < candidateIndex, occupied db userId item earlier = true) →
      ∃ after file, runRestoreFile (fun _ => clearWeather) trashId userId db =
          ⟨.ok db.files.next, after, true⟩ ∧
        after.files.find? db.files.next = some file ∧
        file.name = restoredFileName item.itemName candidateIndex ∧ file.userId = userId ∧
        file.folderId = (restoreFolder db item.originalFolderId userId).1 := by
    intro candidateIndex small free earlier
    obtain ⟨after, file, calm, found, described⟩ :=
      calm_free restorable small (fits candidateIndex small) free
    refine ⟨after, file, ?_, found, described⟩
    have skips := runRestoreFile_skips restorable 0 candidateIndex
      (Callbacks.maxCandidateIndex - candidateIndex + 1)
      (fun index below _ => earlier index (by omega))
    rw [Nat.zero_add, show candidateIndex + (Callbacks.maxCandidateIndex - candidateIndex + 1) =
      Callbacks.maxCandidateIndex + 1 by omega] at skips
    have here : run clearWeather restoreFileFailed (restoreFile trashId userId candidateIndex) db =
        ⟨.ok db.files.next, after, true⟩ := run_calm calm
    refine skips.trans ?_
    rw [Callbacks.restoreAttempts]
    simp only [here]
  refine ⟨?_, ?_⟩
  · intro candidateIndex small free earlier
    obtain ⟨after, file, ended, found, described⟩ := first candidateIndex small free earlier
    rw [ended]
    exact ⟨db.files.next, file, rfl, found, described⟩
  · intro error failed
    by_contra missing
    push Not at missing
    have least := Nat.find_spec missing
    obtain ⟨after, file, ended, -⟩ := first (Nat.find missing) least.1 (Bool.eq_false_iff.mpr least.2)
      fun earlier below => by
        have skipped := Nat.find_min missing below
        push Not at skipped
        exact skipped (by omega)
    rw [ended] at failed
    cases failed

/-- The candidate names hold what they promise exactly when the numbers fit behind the name and its
extension stays. -/
theorem restore_names_iff {name : String} (valid : renameFileName (textBytes name) = .ok (textBytes name)) :
    CandidatesHold name ↔ NumbersFit name ∧ ExtensionStays name := by
  have start : name.toList.head? ≠ some '.' := by
    rw [ne_eq, ← head_dot_iff]
    exact (validName_iff.mp valid).2.2.1
  constructor
  · intro holds
    have accepted := holds.valid 1000 (by decide)
    have short := (validName_restoredFileName valid (by decide)).mp accepted
    have counted := textBytes_restoredFileName name (show 1000 ≠ 0 by decide)
    have digits : (toString 1000).length = 4 := by decide
    refine ⟨?_, ?_⟩
    · unfold NumbersFit
      omega
    · exact (extension_kept_iff start Nat.one_ne_zero).mp (holds.extension 1 (by decide))
  · rintro ⟨room, stays⟩
    have short : ∀ candidateIndex ≤ Callbacks.maxCandidateIndex,
        (textBytes (restoredFileName name candidateIndex)).length ≤ 255 := by
      intro candidateIndex small
      by_cases numbered : candidateIndex = 0
      · rw [numbered]
        exact (validName_iff.mp valid).2.1
      · have counted := textBytes_restoredFileName name numbered
        have digits := decimal_length small
        unfold NumbersFit at room
        omega
    have narrow : ∀ candidateIndex ≤ Callbacks.maxCandidateIndex,
        (restoredFileName name candidateIndex).length ≤ nameWidth := fun candidateIndex small =>
      (length_le_textBytes _).trans (short candidateIndex small)
    refine ⟨fun one _ two _ => restoredFileName_injective, ?_, narrow, ?_, restoresFirstFree narrow⟩
    · intro candidateIndex small
      by_cases numbered : candidateIndex = 0
      · rw [numbered]
        exact valid
      · exact (validName_restoredFileName valid numbered).mpr (short candidateIndex small)
    · intro candidateIndex small
      by_cases numbered : candidateIndex = 0
      · rw [numbered]
        rfl
      · exact (extension_kept_iff start numbered).mpr stays

/-- The candidates for `photo.jpg`. -/
theorem restore_names_iff_photo :
    renameFileName (textBytes "photo.jpg") = .ok (textBytes "photo.jpg") ∧
      NumbersFit "photo.jpg" ∧ ExtensionStays "photo.jpg" ∧ CandidatesHold "photo.jpg" := by
  have valid : renameFileName (textBytes "photo.jpg") = .ok (textBytes "photo.jpg") := by decide +kernel
  have room : NumbersFit "photo.jpg" := by decide +kernel
  have stays : ExtensionStays "photo.jpg" := by decide +kernel
  exact ⟨valid, room, stays, (restore_names_iff valid).mpr ⟨room, stays⟩⟩

/-- A file that was restored once under a numbered name loses its extension the next time. -/
theorem numbered_name_loses_extension :
    ¬ ∀ name, renameFileName (textBytes name) = .ok (textBytes name) → CandidatesHold name := by
  intro always
  have holds := always "report (1).pdf" (by decide +kernel)
  have kept := holds.extension 1 (by decide)
  have lost : extractFileExtension (restoredFileName "report (1).pdf" 1) ≠
      extractFileExtension "report (1).pdf" := by decide +kernel
  exact lost kept

end Restore

end DiskServer.Drive.RestoreNames
