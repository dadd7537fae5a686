import DiskServer.Construction.Utils.DtoBase
import Mathlib.Data.List.TakeWhile

namespace DiskServer.Utils

/-- A result is an error or a value that the client has written. -/
def Faithful {Value : Type} (parsed : Parsed Value) (written : Value → Prop) : Prop :=
  match parsed with
  | .value value => written value
  | .error _ => True
  | .raised => False

theorem Parsed.bind_eq_value {First Second : Type} {parsed : Parsed First} {next : First → Parsed Second}
    {result : Second} (accepted : parsed >>= next = .value result) :
    ∃ value, parsed = .value value ∧ next value = .value result := by
  cases parsed with
  | value value => exact ⟨value, rfl, accepted⟩
  | error error => cases accepted
  | raised => cases accepted

section Texts

/-- A text writes a number in decimal when it has digits and nothing else. -/
def Writes (text : List Char) (number : Nat) : Prop :=
  text ≠ [] ∧ (∀ character ∈ text, character.isDigit = true) ∧ Nat.ofDigitChars 10 text 0 = number

theorem readSign_append (text : List Char) : (readSign text).1.toList ++ (readSign text).2 = text := by
  unfold readSign
  split <;> rfl

theorem splitInteger_append (text : List Char) :
    (splitInteger text).blanks ++ ((splitInteger text).sign.toList ++
      ((splitInteger text).digits ++ (splitInteger text).rest)) = text := by
  unfold splitInteger
  dsimp only
  rw [List.takeWhile_append_dropWhile, readSign_append, List.takeWhile_append_dropWhile]

theorem splitInteger_length (text : List Char) :
    (splitInteger text).length + (splitInteger text).rest.length = text.length := by
  have lengths := congrArg List.length (splitInteger_append text)
  rw [List.length_append, List.length_append, List.length_append] at lengths
  unfold IntegerText.length
  omega

/-- The conversion has read the whole text exactly when nothing is left. -/
theorem splitInteger_whole (text : List Char) :
    (splitInteger text).length = text.length ↔ (splitInteger text).rest = [] := by
  have lengths := splitInteger_length text
  rw [← List.length_eq_zero_iff]
  omega

theorem splitInteger_digits (text : List Char) :
    ∀ character ∈ (splitInteger text).digits, character.isDigit = true := by
  intro character present
  exact List.mem_takeWhile_imp present

/-- Blanks or a sign stand in front of the digits. -/
def IntegerText.Decorated (parts : IntegerText) : Prop := parts.blanks ≠ [] ∨ parts.sign ≠ none

theorem isDigit_not_isSpace {character : Char} (digit : character.isDigit = true) :
    isSpace character = false := by
  have bounds : 48 ≤ character.toNat ∧ character.toNat ≤ 57 := Char.isDigit_iff_toNat.mp digit
  have blank : character ≠ ' ' := by
    rintro rfl
    exact absurd bounds.1 (by decide)
  unfold isSpace
  simp only [blank, decide_false, Bool.false_or, Bool.and_eq_false_iff, decide_eq_false_iff_not]
  omega

theorem readSign_of_digit {text : List Char} (digits : ∀ character ∈ text, character.isDigit = true) :
    readSign text = (none, text) := by
  unfold readSign
  split
  · exact absurd (digits '+' List.mem_cons_self) (by decide)
  · exact absurd (digits '-' List.mem_cons_self) (by decide)
  · rfl

theorem splitInteger_of_digits {text : List Char}
    (digits : ∀ character ∈ text, character.isDigit = true) :
    splitInteger text = ⟨[], none, text, []⟩ := by
  have blanks : text.takeWhile isSpace = [] := by
    cases text with
    | nil => rfl
    | cons character rest =>
        rw [List.takeWhile_cons, isDigit_not_isSpace (digits character List.mem_cons_self)]
        rfl
  have unblanked : text.dropWhile isSpace = text := by
    have whole := List.takeWhile_append_dropWhile (p := isSpace) (l := text)
    rwa [blanks] at whole
  unfold splitInteger
  rw [blanks, unblanked, readSign_of_digit digits, List.takeWhile_eq_self_iff.mpr digits,
    List.dropWhile_eq_nil_iff.mpr digits]

/-- A text of digits alone is one without decoration and without a rest. -/
theorem writes_iff {text : List Char} {number : Nat} :
    Writes text number ↔ ¬ (splitInteger text).Decorated ∧ (splitInteger text).rest = [] ∧
      (splitInteger text).digits ≠ [] ∧ (splitInteger text).magnitude = number := by
  constructor
  · rintro ⟨nonempty, digits, value⟩
    rw [splitInteger_of_digits digits]
    exact ⟨fun decorated => decorated.elim (fun some => some rfl) fun some => some rfl, rfl, nonempty,
      value⟩
  · rintro ⟨plain, whole, nonempty, value⟩
    unfold IntegerText.Decorated at plain
    push Not at plain
    have text_eq := splitInteger_append text
    rw [plain.1, plain.2, whole, List.append_nil] at text_eq
    change (splitInteger text).digits = text at text_eq
    unfold IntegerText.magnitude at value
    have digits := splitInteger_digits text
    rw [text_eq] at nonempty digits value
    exact ⟨nonempty, digits, value⟩

/-- A text that the conversion reads as a whole, with something in front of its digits. -/
def DecoratedNumber (text : List Char) : Prop :=
  (splitInteger text).Decorated ∧ (splitInteger text).rest = [] ∧ (splitInteger text).digits ≠ []

theorem stoull_eq_none {text : List Char} :
    stoull text = none ↔
      (splitInteger text).digits = [] ∨ UInt64.size ≤ (splitInteger text).magnitude := by
  unfold stoull
  dsimp only
  split <;> simp_all

theorem stoull_eq_some {text : List Char} {value : UInt64} {pos : Nat}
    (read : stoull text = some (value, pos)) :
    (splitInteger text).digits ≠ [] ∧ (splitInteger text).magnitude < UInt64.size ∧
      pos = (splitInteger text).length ∧
      value = if (splitInteger text).negative then -UInt64.ofNat (splitInteger text).magnitude
        else UInt64.ofNat (splitInteger text).magnitude := by
  unfold stoull at read
  dsimp only at read
  split at read
  · cases read
  · rename_i inside
    push Not at inside
    cases read
    exact ⟨inside.1, inside.2, rfl, rfl⟩

/-- The number of a text without a sign is the number of its digits. -/
theorem stoull_plain {text : List Char} {value : UInt64} {pos : Nat}
    (read : stoull text = some (value, pos)) (plain : ¬ (splitInteger text).Decorated) :
    value.toNat = (splitInteger text).magnitude := by
  obtain ⟨-, inside, -, result⟩ := stoull_eq_some read
  unfold IntegerText.Decorated at plain
  push Not at plain
  have positive : (splitInteger text).negative = false := by
    unfold IntegerText.negative
    rw [plain.2]
    rfl
  rw [result, positive, if_neg Bool.false_ne_true]
  exact UInt64.toNat_ofNat_of_lt inside

theorem stoull_zero {text : List Char} {value : UInt64} {pos : Nat}
    (read : stoull text = some (value, pos)) : value = 0 ↔ (splitInteger text).magnitude = 0 := by
  obtain ⟨-, inside, -, result⟩ := stoull_eq_some read
  have number : UInt64.ofNat (splitInteger text).magnitude = 0 ↔ (splitInteger text).magnitude = 0 := by
    rw [← UInt64.toNat_inj, UInt64.toNat_ofNat_of_lt' inside]
    rfl
  rw [result]
  split
  · rw [← number]
    grind
  · exact number

/-- A positive number is misread exactly when something stands in front of its digits. -/
theorem parsePositiveUInt64_faithful (text : List Char) (paramName : String) :
    Faithful (parsePositiveUInt64 text paramName)
        (fun value => Writes text value.toNat ∧ 0 < value.toNat) ↔
      ¬ (DecoratedNumber text ∧ 0 < (splitInteger text).magnitude ∧
        (splitInteger text).magnitude < UInt64.size) := by
  unfold parsePositiveUInt64
  split
  · rename_i empty
    subst empty
    refine ⟨fun _ decorated => ?_, fun _ => trivial⟩
    exact decorated.1.2.2 rfl
  · split
    · rename_i failed
      refine ⟨fun _ decorated => ?_, fun _ => trivial⟩
      rcases stoull_eq_none.mp failed with none | large
      · exact decorated.1.2.2 none
      · exact absurd decorated.2.2 (Nat.not_lt.mpr large)
    · rename_i value pos read
      obtain ⟨nonempty, inside, rfl, -⟩ := stoull_eq_some read
      split
      · rename_i partly
        refine ⟨fun _ decorated => ?_, fun _ => trivial⟩
        exact partly ((splitInteger_whole text).mpr decorated.1.2.1)
      · rename_i whole
        have rest := (splitInteger_whole text).mp (not_not.mp whole)
        split
        · rename_i zero
          refine ⟨fun _ decorated => ?_, fun _ => trivial⟩
          exact absurd ((stoull_zero read).mp zero) (Nat.ne_of_gt decorated.2.1)
        · rename_i nonzero
          have positive := Nat.pos_of_ne_zero fun zero => nonzero ((stoull_zero read).mpr zero)
          constructor
          · intro written decorated
            exact (writes_iff.mp written.1).1 decorated.1.1
          · intro fits
            have plain : ¬ (splitInteger text).Decorated :=
              fun decorated => fits ⟨⟨decorated, rest, nonempty⟩, positive, inside⟩
            have same := stoull_plain read plain
            exact ⟨writes_iff.mpr ⟨plain, rest, nonempty, same.symm⟩, same ▸ positive⟩

/-- A missing parameter is the empty text, and any other one is a number. -/
def WritesOptional (text : List Char) (number : Option Nat) : Prop :=
  match number with
  | none => text = []
  | some number => Writes text number

/-- A parameter is read unless it is decorated and in range. -/
theorem queryUInt64_faithful (text : List Char) (key : String) :
    Faithful (queryUInt64 text key) (fun value => WritesOptional text (value.map UInt64.toNat)) ↔
      ¬ (DecoratedNumber text ∧ (splitInteger text).magnitude < UInt64.size) := by
  unfold queryUInt64
  split
  · rename_i empty
    subst empty
    refine ⟨fun _ decorated => ?_, fun _ => rfl⟩
    exact decorated.1.2.2 rfl
  · split
    · rename_i failed
      refine ⟨fun _ decorated => ?_, fun _ => trivial⟩
      rcases stoull_eq_none.mp failed with none | large
      · exact decorated.1.2.2 none
      · exact absurd decorated.2 (Nat.not_lt.mpr large)
    · rename_i value pos read
      obtain ⟨nonempty, inside, rfl, -⟩ := stoull_eq_some read
      split
      · rename_i partly
        refine ⟨fun _ decorated => ?_, fun _ => trivial⟩
        exact partly ((splitInteger_whole text).mpr decorated.1.2.1)
      · rename_i whole
        have rest := (splitInteger_whole text).mp (not_not.mp whole)
        constructor
        · intro written decorated
          exact (writes_iff.mp written).1 decorated.1.1
        · intro fits
          have plain : ¬ (splitInteger text).Decorated :=
            fun decorated => fits ⟨⟨decorated, rest, nonempty⟩, inside⟩
          exact writes_iff.mpr ⟨plain, rest, nonempty, (stoull_plain read plain).symm⟩

/-- The value of a text without a sign is the number of its digits. -/
theorem IntegerText.value_plain {parts : IntegerText} (plain : ¬ parts.Decorated) :
    parts.value = parts.magnitude := by
  unfold IntegerText.Decorated at plain
  push Not at plain
  unfold IntegerText.value IntegerText.negative
  rw [plain.2]
  rfl

/-- The number that a whole text gives lies in the range, and it is decorated or not positive. -/
def MisreadInt (text : List Char) (least most : Int) : Prop :=
  (splitInteger text).rest = [] ∧ (splitInteger text).digits ≠ [] ∧
    intMin ≤ (splitInteger text).value ∧ (splitInteger text).value ≤ intMax ∧
    least ≤ (splitInteger text).value ∧ (splitInteger text).value ≤ most ∧
    ((splitInteger text).Decorated ∨ (splitInteger text).value ≤ 0)

/-- A number that is accepted lies in the range. -/
theorem queryPositiveInt_bounds {text : List Char} {key : String} {least most value : Int}
    (read : queryPositiveInt text key least most = .value (some value)) : least ≤ value ∧ value ≤ most := by
  unfold queryPositiveInt at read
  split at read
  · cases read
  · split at read
    · cases read
    · split at read
      · cases read
      · split at read
        · cases read
        · rename_i inside
          cases read
          omega

/-- A positive parameter is read unless it is decorated. -/
theorem queryPositiveInt_faithful (text : List Char) (key : String) (least most : Int) :
    Faithful (queryPositiveInt text key least most)
        (fun value => WritesOptional text (value.map Int.toNat) ∧ ∀ number ∈ value, 0 < number) ↔
      ¬ MisreadInt text least most := by
  unfold queryPositiveInt stoi
  dsimp only
  by_cases empty : text = []
  · rw [if_pos empty]
    subst empty
    refine ⟨fun _ misread => misread.2.1 rfl, fun _ => ⟨rfl, fun _ none => by cases none⟩⟩
  · rw [if_neg empty]
    by_cases failed : (splitInteger text).digits = [] ∨ (splitInteger text).value < intMin ∨
        intMax < (splitInteger text).value
    · rw [if_pos failed]
      refine ⟨fun _ misread => ?_, fun _ => trivial⟩
      obtain ⟨-, nonempty, above, below, -⟩ := misread
      rcases failed with none | low | high
      · exact nonempty none
      · omega
      · omega
    · rw [if_neg failed]
      dsimp only
      push Not at failed
      obtain ⟨nonempty, above, below⟩ := failed
      by_cases partly : (splitInteger text).length ≠ text.length
      · rw [if_pos partly]
        refine ⟨fun _ misread => ?_, fun _ => trivial⟩
        exact partly ((splitInteger_whole text).mpr misread.1)
      · rw [if_neg partly]
        have rest := (splitInteger_whole text).mp (not_not.mp partly)
        by_cases outside : (splitInteger text).value < least ∨ most < (splitInteger text).value
        · rw [if_pos outside]
          refine ⟨fun _ misread => ?_, fun _ => trivial⟩
          obtain ⟨-, -, -, -, atLeast, atMost, -⟩ := misread
          omega
        · rw [if_neg outside]
          push Not at outside
          constructor
          · rintro ⟨written, positive⟩ ⟨-, -, -, -, -, -, decorated | none⟩
            · exact (writes_iff.mp written).1 decorated
            · exact absurd (positive _ rfl) (Int.not_lt.mpr none)
          · intro fits
            have plain : ¬ (splitInteger text).Decorated := fun decorated =>
              fits ⟨rest, nonempty, above, below, outside.1, outside.2, .inl decorated⟩
            have positive : 0 < (splitInteger text).value := Int.not_le.mp fun none =>
              fits ⟨rest, nonempty, above, below, outside.1, outside.2, .inr none⟩
            have same := IntegerText.value_plain plain
            refine ⟨writes_iff.mpr ⟨plain, rest, nonempty, by omega⟩, ?_⟩
            rintro number ⟨⟩
            exact positive

/-- The parser of an index ignores what stands around the digits and cuts large numbers. -/
theorem chunkIndex_faithful (text : List Char) :
    Faithful (chunkIndex text) (fun value => Writes text value.toNat) ↔
      ¬ ((splitInteger text).digits ≠ [] ∧ (splitInteger text).magnitude < UInt64.size ∧
        ((splitInteger text).Decorated ∨ (splitInteger text).rest ≠ [] ∨
          UInt32.size ≤ (splitInteger text).magnitude)) := by
  unfold chunkIndex
  split
  · rename_i empty
    subst empty
    exact ⟨fun _ misread => misread.1 rfl, fun _ => trivial⟩
  · split
    · rename_i failed
      refine ⟨fun _ misread => ?_, fun _ => trivial⟩
      rcases stoull_eq_none.mp failed with none | large
      · exact misread.1 none
      · exact absurd misread.2.1 (Nat.not_lt.mpr large)
    · rename_i value pos read
      obtain ⟨nonempty, inside, -, -⟩ := stoull_eq_some read
      have cut : value.toUInt32.toNat = value.toNat % UInt32.size := UInt64.toNat_toUInt32 value
      constructor
      · intro written misread
        obtain ⟨plain, rest, -, number⟩ := writes_iff.mp written
        rcases misread.2.2 with decorated | more | large
        · exact plain decorated
        · exact more rest
        · have bound := value.toUInt32.toNat_lt
          rw [number] at large
          exact absurd bound (Nat.not_lt.mpr large)
      · intro fits
        have plain : ¬ (splitInteger text).Decorated :=
          fun decorated => fits ⟨nonempty, inside, .inl decorated⟩
        have rest : (splitInteger text).rest = [] := by
          by_contra more
          exact fits ⟨nonempty, inside, .inr (.inl more)⟩
        have small : (splitInteger text).magnitude < UInt32.size := Nat.not_le.mp fun large =>
          fits ⟨nonempty, inside, .inr (.inr large)⟩
        apply writes_iff.mpr
        refine ⟨plain, rest, nonempty, ?_⟩
        rw [cut, stoull_plain read plain, Nat.mod_eq_of_lt small]

end Texts

section Values

/-- The integer that the JSON library holds, when the number counts as an integer. -/
def Numeric.integer? : Numeric → Option Int
  | .int value => some value
  | .uint value => some value
  | .real value => if (Numeric.real value).isIntegral then some value.num else none
  | .other => none

theorem real_of_isIntegral {value : ℚ} (integral : (Numeric.real value).isIntegral = true) :
    ∃ number : Int, value = number ∧ -9223372036854775808 ≤ number ∧ number < 18446744073709551616 := by
  unfold Numeric.isIntegral at integral
  simp only [decide_eq_true_eq] at integral
  obtain ⟨above, below, whole⟩ := integral
  have same : value = value.num := (Rat.coe_int_num_of_den_eq_one whole).symm
  refine ⟨value.num, same, ?_, ?_⟩
  · rw [same] at above
    exact_mod_cast above
  · rw [same] at below
    exact_mod_cast below

namespace Numeric

variable {item : Numeric} {number : Int}

/-- A number that counts as an integer is one, and a rounded one lies between the 64-bit bounds. -/
theorem integer?_some (held : item.integer? = some number) :
    item = .int number ∨ (∃ value : Nat, item = .uint value ∧ number = value) ∨
      (item = .real number ∧ -9223372036854775808 ≤ number ∧ number < 18446744073709551616) := by
  cases item with
  | int value =>
      cases held
      exact .inl rfl
  | uint value =>
      cases held
      exact .inr (.inl ⟨value, rfl, rfl⟩)
  | real value =>
      change (if (Numeric.real value).isIntegral then some value.num else none) = some number at held
      split at held
      · rename_i integral
        obtain ⟨whole, rfl, above, below⟩ := real_of_isIntegral integral
        rw [Rat.num_intCast] at held
        cases held
        exact .inr (.inr ⟨rfl, above, below⟩)
      · cases held
  | other => cases held

theorem isIntegral_of_integer? (held : item.integer? = some number) : item.isIntegral = true := by
  rcases integer?_some held with rfl | ⟨value, rfl, rfl⟩ | ⟨rfl, above, below⟩
  · rfl
  · rfl
  · unfold isIntegral
    simp only [Rat.den_intCast, and_true, decide_eq_true_eq]
    exact ⟨by exact_mod_cast above, by exact_mod_cast below⟩

theorem isIntegral_eq_false (absent : item.integer? = none) : item.isIntegral = false := by
  cases item with
  | int value => cases absent
  | uint value => cases absent
  | real value =>
      change (if (Numeric.real value).isIntegral then some value.num else none) = none at absent
      split at absent
      · cases absent
      · rename_i fraction
        exact Bool.eq_false_iff.mpr fraction
  | other => rfl

theorem asUInt64_eq (held : item.integer? = some number) :
    item.asUInt64 = if 0 ≤ number then some number.toNat else none := by
  rcases integer?_some held with rfl | ⟨value, rfl, rfl⟩ | ⟨rfl, above, below⟩
  · rfl
  · exact (if_pos (Int.natCast_nonneg value)).symm
  · change (if (0 : ℚ) ≤ number ∧ (number : ℚ) ≤ 18446744073709551616 then some ⌊(number : ℚ)⌋₊ else
      none) = _
    have upper : (number : ℚ) ≤ 18446744073709551616 := by exact_mod_cast below.le
    by_cases positive : 0 ≤ number
    · have lower : (0 : ℚ) ≤ number := by exact_mod_cast positive
      rw [if_pos ⟨lower, upper⟩, if_pos positive]
      congr 1
    · have negative : ¬ (0 : ℚ) ≤ number := by exact_mod_cast positive
      rw [if_neg fun both => negative both.1, if_neg positive]

theorem asInt_eq (held : item.integer? = some number) :
    item.asInt = if intMin ≤ number ∧ number ≤ intMax then some number else none := by
  rcases integer?_some held with rfl | ⟨value, rfl, rfl⟩ | ⟨rfl, above, below⟩
  · rfl
  · change (if (value : Int) ≤ intMax then some (value : Int) else none) = _
    have lower : intMin ≤ (value : Int) := by
      unfold intMin
      omega
    simp only [lower, true_and]
  · change (if (intMin : ℚ) ≤ number ∧ (number : ℚ) ≤ intMax then
      some (if (0 : ℚ) ≤ number then ⌊(number : ℚ)⌋ else ⌈(number : ℚ)⌉) else none) = _
    rw [Int.floor_intCast, Int.ceil_intCast, ite_self]
    simp only [Int.cast_le]

theorem negative_eq (held : item.integer? = some number) :
    (item.isInt64 && item.asInt64 < 0) = decide (number < 0) := by
  rcases integer?_some held with rfl | ⟨value, rfl, rfl⟩ | ⟨rfl, above, below⟩
  · exact Bool.true_and _
  · have positive : ¬ (value : Int) < 0 := by omega
    change (_ && decide ((value : Int) < 0)) = _
    rw [decide_eq_false positive, Bool.and_false]
  · change (decide (-9223372036854775808 ≤ (number : ℚ) ∧ (number : ℚ) < 9223372036854775808 ∧
      (number : ℚ).den = 1) && decide ((number : ℚ).num < 0)) = _
    rw [Rat.num_intCast]
    by_cases negative : number < 0
    · have lower : (-9223372036854775808 : ℚ) ≤ number := by exact_mod_cast above
      have upper : (number : ℚ) < 9223372036854775808 := by
        have cast : (number : ℚ) < 0 := by exact_mod_cast negative
        linarith
      simp [negative, lower, upper]
    · simp [negative]

end Numeric

variable (toDouble : ℚ → ℚ)

/-- The integer that the JSON library holds for a value. -/
def Written.held (item : Written) : Option Int := (item.numeric toDouble).integer?

theorem expectUInt64_eq (item : Written) (key : String) :
    expectUInt64 (item.numeric toDouble) key =
      match item.held toDouble with
      | none => .error (validationFailed
          ("Parameter '" ++ key ++ "' type error: expected unsigned integer"))
      | some number =>
          if number < 0 then
            .error (validationFailed
              ("Parameter '" ++ key ++ "' type error: expected unsigned integer"))
          else
            .value number.toNat := by
  unfold expectUInt64 Written.held
  cases held : (item.numeric toDouble).integer? with
  | none =>
      rw [Numeric.isIntegral_eq_false held]
      rfl
  | some number =>
      rw [Numeric.isIntegral_of_integer? held, Numeric.negative_eq held, Numeric.asUInt64_eq held]
      dsimp only
      by_cases negative : number < 0
      · simp [negative]
      · rw [if_neg negative, if_pos (Int.not_lt.mp negative)]
        simp [negative]

/-- The library holds another number than the client has written. -/
def Rounded (item : Written) : Prop :=
  ∃ number : Int, item.held toDouble = some number ∧ 0 ≤ number ∧ item.number? ≠ some (number : ℚ)

theorem expectUInt64_faithful (item : Written) (key : String) :
    Faithful (expectUInt64 (item.numeric toDouble) key)
        (fun value => item.number? = some (value : ℚ)) ↔ ¬ Rounded toDouble item := by
  rw [expectUInt64_eq]
  unfold Rounded
  cases item.held toDouble with
  | none =>
      refine ⟨?_, fun _ => trivial⟩
      rintro - ⟨number, wrong, -⟩
      cases wrong
  | some number =>
      dsimp only
      split
      · rename_i negative
        refine ⟨?_, fun _ => trivial⟩
        rintro - ⟨other, ⟨⟩, positive, -⟩
        omega
      · rename_i positive
        have cast : ((number.toNat : ℕ) : ℚ) = number := by
          exact_mod_cast Int.toNat_of_nonneg (Int.not_lt.mp positive)
        change item.number? = some ((number.toNat : ℕ) : ℚ) ↔ _
        rw [cast]
        constructor
        · rintro same ⟨other, ⟨⟩, -, differs⟩
          exact differs same
        · intro fits
          by_contra differs
          exact fits ⟨number, rfl, Int.not_lt.mp positive, differs⟩

/-- A field is misread when the body is no object, or when the library rounds its number. -/
def MisreadField (bad : Written → Prop) (json : Written) (key : String) : Prop :=
  json.isMember key = none ∨ json.isMember key = some true ∧ bad (json.field key)

/-- Every decoder of a field looks the member up first. -/
theorem faithful_member {Value : Type} {json : Written} {key : String} {absent inner : Parsed Value}
    {written : Value → Prop} {bad : Written → Prop}
    (missing : json.isMember key = some false → Faithful absent written)
    (present : json.isMember key = some true → (Faithful inner written ↔ ¬ bad (json.field key))) :
    Faithful (match json.isMember key with
        | none => .raised
        | some false => absent
        | some true => inner) written ↔ ¬ MisreadField bad json key := by
  unfold MisreadField
  cases found : json.isMember key with
  | none => exact ⟨False.elim, fun fits => fits (.inl rfl)⟩
  | some member =>
      cases member with
      | false =>
          refine ⟨?_, fun _ => missing found⟩
          rintro - (wrong | ⟨wrong, -⟩)
          · cases wrong
          · cases wrong
      | true =>
          dsimp only
          rw [present found]
          simp

/-- A required number is read unless it is rounded. -/
theorem requireUInt64_faithful (json : Written) (key : String) :
    Faithful (requireUInt64 toDouble json key)
        (fun value => (json.field key).number? = some (value : ℚ)) ↔
      ¬ MisreadField (Rounded toDouble) json key := by
  apply faithful_member
  · intro _
    exact trivial
  · intro _
    exact expectUInt64_faithful toDouble _ key

/-- An optional number is read unless it is rounded. -/
theorem optionalUInt64_faithful (json : Written) (key : String) :
    Faithful (optionalUInt64 toDouble json key)
        (fun value => match value with
          | none => json.isMember key = some false
          | some number => (json.field key).number? = some (number : ℚ)) ↔
      ¬ MisreadField (Rounded toDouble) json key := by
  apply faithful_member
  · intro missing
    exact missing
  · intro _
    rw [← expectUInt64_faithful toDouble _ key]
    cases expectUInt64 ((json.field key).numeric toDouble) key with
    | value number => exact Iff.rfl
    | error error => exact Iff.rfl
    | raised => exact Iff.rfl

/-- A signed field is misread when it is negative, when it leaves the type or when it is rounded. -/
def MisreadSigned (item : Written) : Prop :=
  ∃ number, item.held toDouble = some number ∧
    (number < 0 ∨ intMax < number ∨ item.number? ≠ some (number : ℚ))

/-- A required number is read unless it is misread. -/
theorem requireInt_faithful (json : Written) (key : String) :
    Faithful (requireInt toDouble json key)
        (fun value => (json.field key).number? = some (value : ℚ) ∧ 0 ≤ value) ↔
      ¬ MisreadField (MisreadSigned toDouble) json key := by
  apply faithful_member
  · intro _
    exact trivial
  · intro _
    unfold MisreadSigned Written.held
    cases held : ((json.field key).numeric toDouble).integer? with
    | none =>
        dsimp only
        rw [Numeric.isIntegral_eq_false held]
        refine ⟨?_, fun _ => trivial⟩
        rintro - ⟨number, wrong, -⟩
        cases wrong
    | some number =>
        dsimp only
        rw [Numeric.isIntegral_of_integer? held, Numeric.asInt_eq held]
        rw [if_neg (by decide)]
        by_cases fits : intMin ≤ number ∧ number ≤ intMax
        · rw [if_pos fits]
          change _ ∧ _ ↔ _
          constructor
          · rintro ⟨same, positive⟩ ⟨other, ⟨⟩, negative | large | differs⟩
            · omega
            · omega
            · exact differs same
          · intro good
            have positive : 0 ≤ number := Int.not_lt.mp fun negative => good ⟨number, rfl, .inl negative⟩
            refine ⟨?_, positive⟩
            by_contra differs
            exact good ⟨number, rfl, .inr (.inr differs)⟩
        · rw [if_neg fits]
          refine ⟨False.elim, fun good => good ⟨number, rfl, ?_⟩⟩
          unfold intMin at fits
          omega

section Arrays

/-- An element that the loop takes. -/
def Taken (item : Written) : Prop := ∃ number, item.held toDouble = some number ∧ 0 < number

/-- The loop meets a negative element behind elements that it takes, or it takes all of them and one is
rounded. -/
def MisreadIds (items : List Written) : Prop :=
  (∃ before item after number, items = before ++ item :: after ∧ (∀ other ∈ before, Taken toDouble other) ∧
    item.held toDouble = some number ∧ number < 0) ∨
  (∀ item ∈ items, Taken toDouble item) ∧ ∃ item ∈ items, Rounded toDouble item

/-- The items are the positive identifiers, in this order. -/
def WritesIds (items : List Written) (ids : List Nat) : Prop :=
  List.Forall₂ (fun (item : Written) (id : Nat) => item.number? = some (id : ℚ) ∧ 0 < id) items ids

variable {typeError zeroError : Nat → ErrorInfo}

theorem readIds_cons (index : Nat) (item : Written) (rest : List Written) :
    readIds toDouble typeError zeroError index (item :: rest) =
      match item.held toDouble with
      | none => .error (typeError index)
      | some number =>
          if number < 0 then
            .raised
          else if number = 0 then
            .error (zeroError index)
          else
            match readIds toDouble typeError zeroError (index + 1) rest with
            | .value ids => .value (number.toNat :: ids)
            | .error error => .error error
            | .raised => .raised := by
  rw [readIds]
  unfold Written.held
  cases held : (item.numeric toDouble).integer? with
  | none =>
      rw [Numeric.isIntegral_eq_false held]
      rfl
  | some number =>
      rw [Numeric.isIntegral_of_integer? held, Numeric.asUInt64_eq held, if_neg (by decide)]
      dsimp only
      by_cases negative : number < 0
      · rw [if_neg (Int.not_le.mpr negative), if_pos negative]
      · rw [if_pos (Int.not_lt.mp negative), if_neg negative]
        obtain ⟨size, rfl⟩ := Int.eq_ofNat_of_zero_le (Int.not_lt.mp negative)
        cases size with
        | zero => rfl
        | succ size =>
            rw [if_neg (by omega)]
            rfl

theorem taken_iff {item : Written} {number : Int} (held : item.held toDouble = some number) :
    Taken toDouble item ↔ 0 < number := by
  unfold Taken
  rw [held]
  constructor
  · rintro ⟨other, ⟨⟩, positive⟩
    exact positive
  · intro positive
    exact ⟨number, rfl, positive⟩

theorem not_taken_of_none {item : Written} (absent : item.held toDouble = none) :
    ¬ Taken toDouble item := by
  rintro ⟨number, held, -⟩
  rw [absent] at held
  cases held

/-- The loop ends with a list exactly when it takes every element. -/
theorem readIds_value {index : Nat} {items : List Written} :
    (∃ ids, readIds toDouble typeError zeroError index items = .value ids) ↔
      ∀ item ∈ items, Taken toDouble item := by
  induction items generalizing index with
  | nil => exact ⟨fun _ _ present => (List.not_mem_nil present).elim, fun _ => ⟨[], rfl⟩⟩
  | cons item rest ih =>
      rw [readIds_cons, List.forall_mem_cons, ← ih]
      cases held : item.held toDouble with
      | none =>
          refine ⟨?_, fun both => (not_taken_of_none toDouble held both.1).elim⟩
          rintro ⟨ids, ⟨⟩⟩
      | some number =>
          rw [taken_iff toDouble held]
          dsimp only
          split
          · refine ⟨?_, fun both => by omega⟩
            rintro ⟨ids, ⟨⟩⟩
          · split
            · refine ⟨?_, fun both => by omega⟩
              rintro ⟨ids, ⟨⟩⟩
            · have positive : 0 < number := by omega
              cases readIds toDouble typeError zeroError (index + 1) rest with
              | value ids => exact ⟨fun _ => ⟨positive, ids, rfl⟩, fun _ => ⟨_, rfl⟩⟩
              | error error =>
                  refine ⟨?_, ?_⟩
                  · rintro ⟨ids, ⟨⟩⟩
                  · rintro ⟨-, ids, ⟨⟩⟩
              | raised =>
                  refine ⟨?_, ?_⟩
                  · rintro ⟨ids, ⟨⟩⟩
                  · rintro ⟨-, ids, ⟨⟩⟩

theorem misreadIds_cons {item : Written} {rest : List Written} :
    MisreadIds toDouble (item :: rest) ↔
      (∃ number, item.held toDouble = some number ∧ number < 0) ∨
      Taken toDouble item ∧ (MisreadIds toDouble rest ∨
        Rounded toDouble item ∧ ∀ other ∈ rest, Taken toDouble other) := by
  constructor
  · rintro (⟨before, bad, after, number, split, taken, held, negative⟩ | ⟨taken, bad, present, rounded⟩)
    · cases before with
      | nil =>
          cases split
          exact .inl ⟨number, held, negative⟩
      | cons first before =>
          cases split
          rw [List.forall_mem_cons] at taken
          exact .inr ⟨taken.1, .inl (.inl ⟨before, bad, after, number, rfl, taken.2, held, negative⟩)⟩
    · rw [List.forall_mem_cons] at taken
      rcases List.mem_cons.mp present with rfl | present
      · exact .inr ⟨taken.1, .inr ⟨rounded, taken.2⟩⟩
      · exact .inr ⟨taken.1, .inl (.inr ⟨taken.2, bad, present, rounded⟩)⟩
  · rintro (⟨number, held, negative⟩ | ⟨taken, (⟨before, bad, after, number, rfl, others, held, negative⟩ |
      ⟨others, bad, present, rounded⟩) | ⟨rounded, others⟩⟩)
    · exact .inl ⟨[], item, rest, number, rfl, fun _ present => (List.not_mem_nil present).elim, held,
        negative⟩
    · exact .inl ⟨item :: before, bad, after, number, rfl, List.forall_mem_cons.mpr ⟨taken, others⟩, held,
        negative⟩
    · exact .inr ⟨List.forall_mem_cons.mpr ⟨taken, others⟩, bad, List.mem_cons_of_mem _ present, rounded⟩
    · exact .inr ⟨List.forall_mem_cons.mpr ⟨taken, others⟩, item, List.mem_cons_self, rounded⟩

theorem rounded_iff {item : Written} {number : Int} (held : item.held toDouble = some number)
    (positive : 0 < number) : ¬ Rounded toDouble item ↔ item.number? = some ((number.toNat : ℕ) : ℚ) := by
  have cast : ((number.toNat : ℕ) : ℚ) = number := by
    exact_mod_cast Int.toNat_of_nonneg positive.le
  unfold Rounded
  rw [cast, held]
  constructor
  · intro fits
    by_contra differs
    exact fits ⟨number, rfl, positive.le, differs⟩
  · rintro same ⟨other, ⟨⟩, -, differs⟩
    exact differs same

theorem readIds_faithful (index : Nat) (items : List Written) :
    Faithful (readIds toDouble typeError zeroError index items) (WritesIds items) ↔
      ¬ MisreadIds toDouble items := by
  induction items generalizing index with
  | nil =>
      refine ⟨?_, fun _ => List.Forall₂.nil⟩
      rintro - (⟨before, item, after, number, split, -⟩ | ⟨-, item, present, -⟩)
      · exact absurd split (by simp)
      · exact List.not_mem_nil present
  | cons item rest ih =>
      have ends : (∃ ids, readIds toDouble typeError zeroError (index + 1) rest = .value ids) ↔
          ∀ other ∈ rest, Taken toDouble other := readIds_value toDouble
      specialize ih (index + 1)
      rw [readIds_cons, misreadIds_cons]
      cases held : item.held toDouble with
      | none =>
          refine ⟨?_, fun _ => trivial⟩
          rintro - (⟨number, wrong, -⟩ | ⟨taken, -⟩)
          · cases wrong
          · exact not_taken_of_none toDouble held taken
      | some number =>
          rw [taken_iff toDouble held]
          dsimp only
          split
          · rename_i negative
            exact ⟨False.elim, fun good => good (.inl ⟨number, rfl, negative⟩)⟩
          · split
            · rename_i zero
              refine ⟨?_, fun _ => trivial⟩
              rintro - (⟨other, ⟨⟩, negative⟩ | ⟨positive, -⟩)
              · omega
              · omega
            · have positive : 0 < number := by omega
              have calm : ¬ ∃ other, some number = some other ∧ other < 0 := by
                rintro ⟨other, ⟨⟩, negative⟩
                omega
              cases result : readIds toDouble typeError zeroError (index + 1) rest with
              | value ids =>
                  rw [result] at ih ends
                  have taken := ends.mp ⟨ids, rfl⟩
                  change WritesIds (item :: rest) (number.toNat :: ids) ↔ _
                  change WritesIds rest ids ↔ _ at ih
                  unfold WritesIds at ih ⊢
                  rw [List.forall₂_cons, ih, ← rounded_iff toDouble held positive]
                  have size : 0 < number.toNat := by omega
                  constructor
                  · rintro ⟨⟨plain, -⟩, good⟩ (negative | ⟨-, bad | ⟨rounded, -⟩⟩)
                    · exact calm negative
                    · exact good bad
                    · exact plain rounded
                  · intro good
                    exact ⟨⟨fun rounded => good (.inr ⟨positive, .inr ⟨rounded, taken⟩⟩), size⟩,
                      fun bad => good (.inr ⟨positive, .inl bad⟩)⟩
              | error error =>
                  rw [result] at ih ends
                  have good := ih.mp trivial
                  refine ⟨?_, fun _ => trivial⟩
                  rintro - (negative | ⟨-, bad | ⟨-, taken⟩⟩)
                  · exact calm negative
                  · exact good bad
                  · obtain ⟨ids, wrong⟩ := ends.mpr taken
                    cases wrong
              | raised =>
                  rw [result] at ih
                  have bad : MisreadIds toDouble rest := by
                    by_contra good
                    exact ih.mpr good
                  exact ⟨False.elim, fun good => good (.inr ⟨positive, .inl bad⟩)⟩

/-- An array field is misread when the loop over its elements is reached and misreads them. -/
def MisreadArray (allowed : Nat → Prop) (item : Written) : Prop :=
  ∃ items, item = .array items ∧ allowed items.length ∧ MisreadIds toDouble items

theorem misreadArray_array {allowed : Nat → Prop} {items : List Written} :
    MisreadArray toDouble allowed (.array items) ↔ allowed items.length ∧ MisreadIds toDouble items := by
  unfold MisreadArray
  constructor
  · rintro ⟨others, ⟨⟩, misread⟩
    exact misread
  · intro misread
    exact ⟨items, rfl, misread⟩

theorem not_misreadArray {allowed : Nat → Prop} {item : Written}
    (different : ∀ items, item = .array items → False) : ¬ MisreadArray toDouble allowed item := by
  rintro ⟨items, same, -⟩
  exact different items same

/-- An optional list of ids is read unless it is misread. -/
theorem optionalPositiveIdArray_faithful (json : Written) (field : String) :
    Faithful (optionalPositiveIdArray toDouble json field)
        (fun ids => (json.isMember field = some false ∧ ids = []) ∨
          ∃ items, json.field field = .array items ∧ WritesIds items ids) ↔
      ¬ MisreadField (MisreadArray toDouble fun _ => True) json field := by
  apply faithful_member
  · intro missing
    exact .inl ⟨missing, rfl⟩
  · intro member
    split
    · rename_i items array
      rw [array, misreadArray_array, true_and, ← readIds_faithful]
      cases readIds toDouble _ _ 0 items with
      | value ids =>
          change (_ ∨ ∃ others, Written.array items = .array others ∧ WritesIds others ids) ↔ WritesIds items ids
          constructor
          · rintro (⟨missing, -⟩ | ⟨others, ⟨⟩, written⟩)
            · rw [member] at missing
              cases missing
            · exact written
          · intro written
            exact .inr ⟨items, rfl, written⟩
      | error error => exact Iff.rfl
      | raised => exact Iff.rfl
    · rename_i different
      exact ⟨fun _ => not_misreadArray toDouble different, fun _ => trivial⟩

/-- A required list of ids is read unless it is misread. -/
theorem requirePositiveIdArray_faithful (json : Written) (field : String) (minSize maxSize : Nat) :
    Faithful (requirePositiveIdArray toDouble json field minSize maxSize)
        (fun ids => ∃ items, json.field field = .array items ∧ WritesIds items ids) ↔
      ¬ MisreadField (MisreadArray toDouble fun length => minSize ≤ length ∧ length ≤ maxSize) json
        field := by
  apply faithful_member
  · intro _
    exact trivial
  · intro member
    split
    · rename_i items array
      rw [array, misreadArray_array]
      split
      · rename_i short
        exact ⟨fun _ misread => absurd misread.1.1 (Nat.not_le.mpr short), fun _ => trivial⟩
      · split
        · rename_i long
          exact ⟨fun _ misread => absurd misread.1.2 (Nat.not_le.mpr long), fun _ => trivial⟩
        · rename_i enough few
          have allowed : minSize ≤ items.length ∧ items.length ≤ maxSize :=
            ⟨Nat.not_lt.mp enough, Nat.not_lt.mp few⟩
          rw [and_iff_right allowed, ← readIds_faithful]
          cases readIds toDouble _ _ 0 items with
          | value ids =>
              change (∃ others, Written.array items = .array others ∧ WritesIds others ids) ↔
                WritesIds items ids
              constructor
              · rintro ⟨others, ⟨⟩, written⟩
                exact written
              · intro written
                exact ⟨items, rfl, written⟩
          | error error => exact Iff.rfl
          | raised => exact Iff.rfl
    · rename_i different
      exact ⟨fun _ => not_misreadArray toDouble different, fun _ => trivial⟩

end Arrays

end Values

/-- The integers of clients are decoded exactly on the texts and values without a misreading. -/
structure DecodesExactly (toDouble : ℚ → ℚ) : Prop where
  requireUInt64 : ∀ json key, Faithful (requireUInt64 toDouble json key)
      (fun value => (json.field key).number? = some (value : ℚ)) ↔
    ¬ MisreadField (Rounded toDouble) json key
  optionalUInt64 : ∀ json key, Faithful (optionalUInt64 toDouble json key)
      (fun value => match value with
        | none => json.isMember key = some false
        | some number => (json.field key).number? = some (number : ℚ)) ↔
    ¬ MisreadField (Rounded toDouble) json key
  requireInt : ∀ json key, Faithful (requireInt toDouble json key)
      (fun value => (json.field key).number? = some (value : ℚ) ∧ 0 ≤ value) ↔
    ¬ MisreadField (MisreadSigned toDouble) json key
  optionalPositiveIdArray : ∀ json field, Faithful (optionalPositiveIdArray toDouble json field)
      (fun ids => (json.isMember field = some false ∧ ids = []) ∨
        ∃ items, json.field field = .array items ∧ WritesIds items ids) ↔
    ¬ MisreadField (MisreadArray toDouble fun _ => True) json field
  requirePositiveIdArray : ∀ json field minSize maxSize,
    Faithful (requirePositiveIdArray toDouble json field minSize maxSize)
      (fun ids => ∃ items, json.field field = .array items ∧ WritesIds items ids) ↔
    ¬ MisreadField (MisreadArray toDouble fun length => minSize ≤ length ∧ length ≤ maxSize) json field
  parsePositiveUInt64 : ∀ text paramName, Faithful (parsePositiveUInt64 text paramName)
      (fun value => Writes text value.toNat ∧ 0 < value.toNat) ↔
    ¬ (DecoratedNumber text ∧ 0 < (splitInteger text).magnitude ∧
      (splitInteger text).magnitude < UInt64.size)
  queryUInt64 : ∀ text key, Faithful (queryUInt64 text key)
      (fun value => WritesOptional text (value.map UInt64.toNat)) ↔
    ¬ (DecoratedNumber text ∧ (splitInteger text).magnitude < UInt64.size)
  queryPositiveInt : ∀ text key least most, Faithful (queryPositiveInt text key least most)
      (fun value => WritesOptional text (value.map Int.toNat) ∧ ∀ number ∈ value, 0 < number) ↔
    ¬ MisreadInt text least most
  chunkIndex : ∀ text, Faithful (chunkIndex text) (fun value => Writes text value.toNat) ↔
    ¬ ((splitInteger text).digits ≠ [] ∧ (splitInteger text).magnitude < UInt64.size ∧
      ((splitInteger text).Decorated ∨ (splitInteger text).rest ≠ [] ∨
        UInt32.size ≤ (splitInteger text).magnitude))

/-- Each decoder takes exactly the values that are written unless its input is one that it misreads. -/
theorem decodes_exactly_iff (toDouble : ℚ → ℚ) : DecodesExactly toDouble where
  requireUInt64 := requireUInt64_faithful toDouble
  optionalUInt64 := optionalUInt64_faithful toDouble
  requireInt := requireInt_faithful toDouble
  optionalPositiveIdArray := optionalPositiveIdArray_faithful toDouble
  requirePositiveIdArray := requirePositiveIdArray_faithful toDouble
  parsePositiveUInt64 := parsePositiveUInt64_faithful
  queryUInt64 := queryUInt64_faithful
  queryPositiveInt := queryPositiveInt_faithful
  chunkIndex := chunkIndex_faithful

/-- A sign wraps around, a large index is cut, and a negative identifier leaves the parser. -/
theorem decoders_misread :
    (¬ ∀ text paramName, Faithful (parsePositiveUInt64 text paramName)
      fun value => Writes text value.toNat ∧ 0 < value.toNat) ∧
    (¬ ∀ text, Faithful (chunkIndex text) fun value => Writes text value.toNat) ∧
    ¬ ∀ (toDouble : ℚ → ℚ) json field minSize maxSize,
      Faithful (requirePositiveIdArray toDouble json field minSize maxSize)
        fun ids => ∃ items, json.field field = .array items ∧ WritesIds items ids := by
  refine ⟨fun faithful => ?_, fun faithful => ?_, fun faithful => ?_⟩
  · have written := faithful ['-', '1'] "folder_id"
    exact absurd (written.1.2.1 '-' List.mem_cons_self) (by decide)
  · have written := faithful ['1', '2', 'a']
    exact absurd (written.2.1 'a' (by decide)) (by decide)
  · exact faithful id (.object [("trash_ids", .array [.integer (-1)])]) "trash_ids" 1 100

end DiskServer.Utils
