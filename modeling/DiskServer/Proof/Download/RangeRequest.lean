import DiskServer.Construction.Download.RangeRequest
import DiskServer.Library.Separator
import Mathlib.Data.List.TakeWhile

namespace DiskServer.Download

open Library RangeRequest

/-- The three forms of a byte range. -/
inductive ByteRangeSpec where
  | between (first last : Nat)
  | starting (first : Nat)
  | suffix (length : Nat)

/-- A non-empty text of digits. -/
def Decimal (text : List Char) : Prop := text ≠ [] ∧ ∀ character ∈ text, character.isDigit = true

namespace ByteRangeSpec

/-- The texts before and behind the dash spell the range. -/
def Spells (one two : List Char) : ByteRangeSpec → Prop
  | between first last => Decimal one ∧ Decimal two ∧ number one = first ∧ number two = last
  | starting first => Decimal one ∧ two = [] ∧ number one = first
  | suffix length => one = [] ∧ Decimal two ∧ number two = length

/-- The ranges that meet a file of this size. -/
def Satisfiable (fileSize : Nat) : ByteRangeSpec → Prop
  | between first last => first < fileSize ∧ first ≤ last
  | starting first => first < fileSize
  | suffix length => 1 ≤ length ∧ 1 ≤ fileSize

/-- The first byte of the intersection with the file. -/
def first (fileSize : Nat) : ByteRangeSpec → Nat
  | between first _ => first
  | starting first => first
  | suffix length => fileSize - length

/-- The last byte of the intersection with the file. -/
def last (fileSize : Nat) : ByteRangeSpec → Nat
  | between _ last => min last (fileSize - 1)
  | starting _ => fileSize - 1
  | suffix _ => fileSize - 1

end ByteRangeSpec

/-- The header names exactly one byte range. -/
def Denotes (header : String) (spec : ByteRangeSpec) : Prop :=
  ∃ one two, header.toList = "bytes=".toList ++ (one ++ '-' :: two) ∧ spec.Spells one two

/-- The result holds the bytes of the range, and its length neither wraps nor exceeds the file. -/
structure RangeRequest.Covers (result : RangeRequest) (spec : ByteRangeSpec) (fileSize : Nat) : Prop where
  start : result.start.toNat = spec.first fileSize
  stop : result.stop.toNat = spec.last fileSize
  ordered : result.start.toNat ≤ result.stop.toNat
  inside : result.stop.toNat < fileSize
  length : (contentLength result.start result.stop).toNat =
    result.stop.toNat - result.start.toNat + 1
  bounded : (contentLength result.start result.stop).toNat ≤ fileSize

/-- The header is split at its first dash behind the unit. -/
def Splits (header : String) (one two : List Char) : Prop :=
  '-' ∉ one ∧ header.toList = "bytes=".toList ++ (one ++ '-' :: two)

/-- The parser sees a range of this header where RFC 7233 does and reads the same bytes. -/
structure ParsedExactly (header : String) (fileSize : UInt64) : Prop where
  satisfiable : (parse header fileSize).hasRange = true ∧
      (parse header fileSize).satisfiable = true ↔
    ∃ spec, Denotes header spec ∧ spec.Satisfiable fileSize.toNat
  covers : ∀ spec, Denotes header spec → spec.Satisfiable fileSize.toNat →
    (parse header fileSize).Covers spec fileSize.toNat
  others : header ≠ "" → (¬ ∃ spec, Denotes header spec ∧ spec.Satisfiable fileSize.toNat) →
    (parse header fileSize).hasRange = true ∧ (parse header fileSize).satisfiable = false

/-- A suffix is a positive decimal number of 64 bits on a file that is not empty. -/
structure PlainSuffix (two : List Char) (fileSize : Nat) : Prop where
  digits : stoull two ≠ none → Decimal two ∧ 1 ≤ number two ∧ 1 ≤ fileSize
  fits : Decimal two → 1 ≤ fileSize → number two < UInt64.size

/-- The bounds are decimal numbers when they are read as a range of the file. -/
structure PlainBounds (one two : List Char) (fileSize : UInt64) : Prop where
  starting : two = [] → ∀ start, stoull one = some start → start < fileSize → Decimal one
  between : ∀ start stop, stoull one = some start → stoull two = some stop → start < fileSize →
    start ≤ stop → Decimal one ∧ Decimal two
  fits : Decimal one → Decimal two → number one < fileSize.toNat → number two < UInt64.size

def PlainTexts (one two : List Char) (fileSize : UInt64) : Prop :=
  if one = [] then PlainSuffix two fileSize.toNat else PlainBounds one two fileSize

/-- The texts around the first dash are plain. -/
def PlainHeader (header : String) (fileSize : UInt64) : Prop :=
  ∀ one two, Splits header one two → PlainTexts one two fileSize

section Numbers

variable {text : List Char}

theorem isDigit_not_blank {character : Char} (digit : character.isDigit = true) :
    isBlank character = false := by
  have apart : ∀ other : Char, other.isDigit = false → character ≠ other := by
    rintro other no rfl
    rw [digit] at no
    cases no
  simp [isBlank, apart ' ' (by decide), apart '\t' (by decide), apart '\n' (by decide),
    apart '\x0b' (by decide), apart '\x0c' (by decide), apart '\r' (by decide)]

theorem takeSign_digit {character : Char} {rest : List Char} (digit : character.isDigit = true) :
    takeSign (character :: rest) = (false, character :: rest) := by
  have minus : character ≠ '-' := by
    rintro rfl
    exact absurd digit (by decide)
  have plus : character ≠ '+' := by
    rintro rfl
    exact absurd digit (by decide)
  rw [takeSign, if_neg minus, if_neg plus]

/-- A decimal text is converted to its number when the number fits. -/
theorem stoull_decimal (decimal : Decimal text) :
    stoull text = if UInt64.size ≤ number text then none else some (UInt64.ofNat (number text)) := by
  obtain ⟨filled, digits⟩ := decimal
  cases text with
  | nil => exact absurd rfl filled
  | cons character rest =>
      have first := digits character List.mem_cons_self
      have whole : (character :: rest).takeWhile Char.isDigit = character :: rest :=
        List.takeWhile_eq_self_iff.mpr digits
      unfold stoull
      rw [List.dropWhile_cons_of_neg (by simp [isDigit_not_blank first]), takeSign_digit first]
      simp only [whole]
      rw [if_neg (List.cons_ne_nil character rest)]
      rfl

theorem stoull_nil : stoull [] = none := rfl

theorem stoull_value {value : UInt64} (decimal : Decimal text)
    (read : stoull text = some value) : value.toNat = number text := by
  rw [stoull_decimal decimal] at read
  split at read
  · cases read
  · rename_i short
    cases read
    exact UInt64.toNat_ofNat_of_lt' (Nat.not_le.mp short)

theorem stoull_long (decimal : Decimal text) :
    stoull text = none ↔ UInt64.size ≤ number text := by
  rw [stoull_decimal decimal]
  split
  · rename_i long
    simp [long]
  · rename_i short
    simp [short]

theorem last_byte {size : UInt64} (some : 1 ≤ size) : (size - 1).toNat = size.toNat - 1 :=
  UInt64.toNat_sub_of_le _ _ some

end Numbers

section Texts

variable {one two : List Char} {result : RangeRequest} {fileSize : Nat}

theorem spells_nil : (∃ spec : ByteRangeSpec, spec.Spells [] two ∧ spec.Satisfiable fileSize) ↔
    Decimal two ∧ 1 ≤ number two ∧ 1 ≤ fileSize := by
  constructor
  · rintro ⟨spec, spelled, fits⟩
    cases spec with
    | between first last => exact absurd rfl spelled.1.1
    | starting first => exact absurd rfl spelled.1.1
    | suffix length =>
        obtain ⟨-, decimal, rfl⟩ := spelled
        exact ⟨decimal, fits⟩
  · rintro ⟨decimal, fits⟩
    exact ⟨.suffix (number two), ⟨rfl, decimal, rfl⟩, fits⟩

theorem spells_cons (filled : one ≠ []) :
    (∃ spec : ByteRangeSpec, spec.Spells one two ∧ spec.Satisfiable fileSize) ↔
      Decimal one ∧ number one < fileSize ∧ (two = [] ∨ Decimal two ∧ number one ≤ number two) := by
  constructor
  · rintro ⟨spec, spelled, fits⟩
    cases spec with
    | between first last =>
        obtain ⟨start, stop, rfl, rfl⟩ := spelled
        exact ⟨start, fits.1, .inr ⟨stop, fits.2⟩⟩
    | starting first =>
        obtain ⟨start, empty, rfl⟩ := spelled
        exact ⟨start, fits, .inl empty⟩
    | suffix length => exact absurd spelled.1 filled
  · rintro ⟨start, inside, empty | ⟨stop, ordered⟩⟩
    · exact ⟨.starting (number one), ⟨start, empty, rfl⟩, inside⟩
    · exact ⟨.between (number one) (number two), ⟨start, stop, rfl, rfl⟩, inside, ordered⟩

theorem checkOrder_satisfiable (wide : result.satisfiable = true) (start stop : UInt64) :
    (checkOrder { result with start := start, stop := stop }).satisfiable = true ↔
      start ≤ stop := by
  unfold checkOrder
  dsimp only
  split
  · rename_i behind
    simp only [unsatisfiable, Bool.false_eq_true, false_iff]
    exact UInt64.not_le.mpr behind
  · rename_i ordered
    simp only [wide, true_iff]
    exact UInt64.not_lt.mp ordered

theorem checkOrder_start : result.checkOrder.start = result.start := by
  unfold checkOrder
  split <;> rfl

theorem checkOrder_stop : result.checkOrder.stop = result.stop := by
  unfold checkOrder
  split <;> rfl

theorem suffix_ordered {size length : UInt64} (inside : ¬ (length = 0 ∨ size < length)) :
    size - length ≤ size - 1 := by
  have filled : 1 ≤ length := by grind
  have short : length ≤ size := UInt64.not_lt.mp (not_or.mp inside).2
  have some : 1 ≤ size := UInt64.le_trans filled short
  rw [UInt64.le_iff_toNat_le, UInt64.toNat_sub_of_le _ _ short, UInt64.toNat_sub_of_le _ _ some]
  exact Nat.sub_le_sub_left (UInt64.le_iff_toNat_le.mp filled) _

theorem parseTexts_hasRange (result : RangeRequest) (one two : List Char) :
    (result.parseTexts one two).hasRange = result.hasRange := by
  have ordered : ∀ other : RangeRequest, other.checkOrder.hasRange = other.hasRange := by
    intro other
    unfold checkOrder
    split <;> rfl
  unfold parseTexts
  split
  · split
    · rfl
    · split
      · rfl
      · split <;> exact ordered _
  · split
    · rfl
    · split
      · rfl
      · split
        · exact ordered _
        · split
          · rfl
          · exact ordered _

/-- Every suffix whose length can be read is reported satisfiable. -/
theorem suffix_satisfiable (wide : result.satisfiable = true) :
    (result.parseTexts [] two).satisfiable = true ↔ (stoull two).isSome = true := by
  unfold parseTexts
  rw [if_pos rfl]
  split
  · rename_i empty
    subst empty
    simp [unsatisfiable, stoull_nil]
  · cases read : stoull two with
    | none => simp [unsatisfiable]
    | some suffixLength =>
        simp only [Option.isSome_some, iff_true]
        split
        · exact (checkOrder_satisfiable wide _ _).mpr UInt64.zero_le
        · rename_i inside
          exact (checkOrder_satisfiable wide _ _).mpr (suffix_ordered inside)

/-- The bounds of a range are reported satisfiable when both can be read and are in order. -/
theorem bounds_satisfiable (wide : result.satisfiable = true) (filled : one ≠ []) :
    (result.parseTexts one two).satisfiable = true ↔
      ∃ start, stoull one = some start ∧ start < result.fileSize ∧
        (two = [] ∨ ∃ stop, stoull two = some stop ∧ start ≤ stop) := by
  unfold parseTexts
  rw [if_neg filled]
  cases read : stoull one with
  | none => simp [unsatisfiable]
  | some start =>
      simp only [Option.some.injEq, exists_eq_left']
      split
      · rename_i outside
        have past : ¬ start < result.fileSize := UInt64.not_lt.mpr outside
        simp [unsatisfiable, past]
      · rename_i inside
        have below : start < result.fileSize := UInt64.not_le.mp inside
        split
        · rename_i empty
          rw [checkOrder_satisfiable wide]
          simp only [below, empty, true_or, and_self, iff_true]
          grind
        · rename_i more
          cases ending : stoull two with
          | none => simp [unsatisfiable, more]
          | some stop =>
              simp only [below, more, Option.some.injEq, exists_eq_left', false_or, true_and]
              rw [checkOrder_satisfiable wide]
              split
              · rename_i past
                constructor
                · intro _
                  exact UInt64.le_trans (UInt64.le_of_lt below) past
                · intro _
                  grind
              · rfl


/-- A range that is reported satisfiable holds the bytes that its text spells. -/
theorem parseTexts_covers (wide : result.satisfiable = true)
    (reported : (result.parseTexts one two).satisfiable = true) {spec : ByteRangeSpec}
    (spelled : spec.Spells one two) (fits : spec.Satisfiable result.fileSize.toNat) :
    (result.parseTexts one two).start.toNat = spec.first result.fileSize.toNat ∧
      (result.parseTexts one two).stop.toNat = spec.last result.fileSize.toNat := by
  cases spec with
  | suffix length =>
      obtain ⟨rfl, decimal, rfl⟩ := spelled
      obtain ⟨value, read⟩ := Option.isSome_iff_exists.mp ((suffix_satisfiable wide).mp reported)
      have exact_value := stoull_value decimal read
      have filled : 1 ≤ result.fileSize := UInt64.le_iff_toNat_le.mpr fits.2
      unfold parseTexts
      rw [if_pos rfl, if_neg decimal.1, read]
      dsimp only
      split
      · rename_i whole
        have long : result.fileSize < value := by
          rcases whole with empty | long
          · subst empty
            exact absurd (exact_value ▸ fits.1) (by decide)
          · exact long
        have covers : result.fileSize.toNat ≤ number two :=
          exact_value ▸ Nat.le_of_lt (UInt64.lt_iff_toNat_lt.mp long)
        rw [checkOrder_start, checkOrder_stop]
        exact ⟨(Nat.sub_eq_zero_of_le covers).symm, last_byte filled⟩
      · rename_i part
        have short : value ≤ result.fileSize := UInt64.not_lt.mp (not_or.mp part).2
        rw [checkOrder_start, checkOrder_stop]
        refine ⟨?_, last_byte filled⟩
        change (result.fileSize - value).toNat = result.fileSize.toNat - number two
        rw [UInt64.toNat_sub_of_le _ _ short, exact_value]
  | starting first =>
      obtain ⟨decimal, rfl, rfl⟩ := spelled
      obtain ⟨start, read, inside, -⟩ := (bounds_satisfiable wide decimal.1).mp reported
      have filled : 1 ≤ result.fileSize := by grind
      unfold parseTexts
      rw [if_neg decimal.1, read]
      dsimp only
      rw [if_neg (UInt64.not_le.mpr inside), if_pos rfl, checkOrder_start, checkOrder_stop]
      exact ⟨stoull_value decimal read, last_byte filled⟩
  | between first last =>
      obtain ⟨decimal, ending, rfl, rfl⟩ := spelled
      obtain ⟨start, read, inside, empty | ⟨stop, bound, -⟩⟩ :=
        (bounds_satisfiable wide decimal.1).mp reported
      · exact absurd empty ending.1
      · have filled : 1 ≤ result.fileSize := by grind
        have exact_stop := stoull_value ending bound
        unfold parseTexts
        rw [if_neg decimal.1, read]
        dsimp only
        rw [if_neg (UInt64.not_le.mpr inside), if_neg ending.1, bound]
        dsimp only
        rw [checkOrder_start, checkOrder_stop]
        refine ⟨stoull_value decimal read, ?_⟩
        dsimp only [ByteRangeSpec.last]
        split
        · rename_i past
          have long := UInt64.le_iff_toNat_le.mp past
          rw [last_byte filled]
          omega
        · rename_i within
          have short := UInt64.lt_iff_toNat_lt.mp (UInt64.not_le.mp within)
          omega

theorem covers_of_bounds {spec : ByteRangeSpec} (fits : spec.Satisfiable fileSize)
    (wide : fileSize < UInt64.size)
    (start : result.start.toNat = spec.first fileSize)
    (stop : result.stop.toNat = spec.last fileSize) : result.Covers spec fileSize := by
  have order : spec.first fileSize ≤ spec.last fileSize ∧ spec.last fileSize < fileSize := by
    cases spec with
    | between first last =>
        have facts : first < fileSize ∧ first ≤ last := fits
        simp only [ByteRangeSpec.first, ByteRangeSpec.last]
        omega
    | starting first =>
        have facts : first < fileSize := fits
        simp only [ByteRangeSpec.first, ByteRangeSpec.last]
        omega
    | suffix length =>
        have facts : 1 ≤ length ∧ 1 ≤ fileSize := fits
        simp only [ByteRangeSpec.first, ByteRangeSpec.last]
        omega
  rw [← start, ← stop] at order
  have announced : (contentLength result.start result.stop).toNat =
      result.stop.toNat - result.start.toNat + 1 := by
    have ordered : result.start ≤ result.stop := UInt64.le_iff_toNat_le.mpr order.1
    unfold contentLength
    rw [UInt64.toNat_add, UInt64.toNat_sub_of_le _ _ ordered, UInt64.toNat_one]
    apply Nat.mod_eq_of_lt
    change _ < UInt64.size
    omega
  exact ⟨start, stop, order.1, order.2, announced, by omega⟩


/-- A suffix is read exactly when it is plain. -/
theorem suffix_exact_iff (wide : result.satisfiable = true) :
    ((result.parseTexts [] two).satisfiable = true ↔
        ∃ spec : ByteRangeSpec, spec.Spells [] two ∧ spec.Satisfiable result.fileSize.toNat) ↔
      PlainSuffix two result.fileSize.toNat := by
  rw [suffix_satisfiable wide, spells_nil, Option.isSome_iff_ne_none]
  constructor
  · intro same
    refine ⟨same.mp, ?_⟩
    intro decimal filled
    by_contra long
    have unread := (stoull_long decimal).mpr (Nat.not_lt.mp long)
    refine same.mpr ⟨decimal, ?_, filled⟩ unread
    exact Nat.le_trans (by decide) (Nat.not_lt.mp long)
  · intro plain
    constructor
    · exact plain.digits
    · rintro ⟨decimal, -, filled⟩ unread
      have long := (stoull_long decimal).mp unread
      exact absurd (plain.fits decimal filled) (Nat.not_lt.mpr long)

/-- Two bounds are read exactly when they are plain. -/
theorem bounds_exact_iff (wide : result.satisfiable = true) (filled : one ≠ []) :
    ((result.parseTexts one two).satisfiable = true ↔
        ∃ spec : ByteRangeSpec, spec.Spells one two ∧ spec.Satisfiable result.fileSize.toNat) ↔
      PlainBounds one two result.fileSize := by
  rw [bounds_satisfiable wide filled, spells_cons filled]
  constructor
  · intro same
    refine ⟨?_, ?_, ?_⟩
    · intro empty start read inside
      exact (same.mp ⟨start, read, inside, .inl empty⟩).1
    · intro start stop read bound inside ordered
      obtain ⟨decimal, -, empty | ⟨ending, -⟩⟩ :=
        same.mp ⟨start, read, inside, .inr ⟨stop, bound, ordered⟩⟩
      · rw [empty] at bound
        cases bound
      · exact ⟨decimal, ending⟩
    · intro decimal ending inside
      by_contra long
      have past := Nat.not_lt.mp long
      have size := result.fileSize.toNat_lt_size
      obtain ⟨start, -, -, empty | ⟨stop, bound, -⟩⟩ :=
        same.mpr ⟨decimal, inside, .inr ⟨ending, by omega⟩⟩
      · exact ending.1 empty
      · rw [(stoull_long ending).mpr past] at bound
        cases bound
  · intro plain
    constructor
    · rintro ⟨start, read, inside, empty | ⟨stop, bound, ordered⟩⟩
      · have decimal := plain.starting empty start read inside
        refine ⟨decimal, ?_, .inl empty⟩
        rw [← stoull_value decimal read]
        exact UInt64.lt_iff_toNat_lt.mp inside
      · obtain ⟨decimal, ending⟩ := plain.between start stop read bound inside ordered
        rw [← stoull_value decimal read, ← stoull_value ending bound]
        exact ⟨decimal, UInt64.lt_iff_toNat_lt.mp inside,
          .inr ⟨ending, UInt64.le_iff_toNat_le.mp ordered⟩⟩
    · rintro ⟨decimal, inside, rest⟩
      have size := result.fileSize.toNat_lt_size
      have short : ¬ UInt64.size ≤ number one := by omega
      obtain ⟨start, read⟩ : ∃ start, stoull one = some start :=
        Option.ne_none_iff_exists'.mp (mt (stoull_long decimal).mp short)
      have below : start < result.fileSize := by
        rw [UInt64.lt_iff_toNat_lt, stoull_value decimal read]
        exact inside
      rcases rest with empty | ⟨ending, ordered⟩
      · exact ⟨start, read, below, .inl empty⟩
      · have brief := plain.fits decimal ending inside
        obtain ⟨stop, bound⟩ : ∃ stop, stoull two = some stop :=
          Option.ne_none_iff_exists'.mp (mt (stoull_long ending).mp (Nat.not_le.mpr brief))
        refine ⟨start, read, below, .inr ⟨stop, bound, ?_⟩⟩
        rw [UInt64.le_iff_toNat_le, stoull_value decimal read, stoull_value ending bound]
        exact ordered


end Texts

section Headers

variable {header : String} {one two : List Char} {fileSize : UInt64}

theorem Decimal.no_dash {text : List Char} (decimal : Decimal text) : '-' ∉ text := by
  intro inside
  exact absurd (decimal.2 '-' inside) (by decide)

theorem Splits.denotes (split : Splits header one two) (spec : ByteRangeSpec) :
    Denotes header spec ↔ spec.Spells one two := by
  constructor
  · rintro ⟨start, rest, same, spelled⟩
    have absent : '-' ∉ start := by
      cases spec with
      | between first last => exact spelled.1.no_dash
      | starting first => exact spelled.1.no_dash
      | suffix length =>
          rw [spelled.1]
          exact List.not_mem_nil
    have parts := append_separator_left absent split.1
      (List.append_cancel_left (same.symm.trans split.2))
    rw [← parts.1, ← parts.2]
    exact spelled
  · intro spelled
    exact ⟨one, two, split.2, spelled⟩

/-- A header that denotes a range has a dash. -/
theorem denotes_splits {spec : ByteRangeSpec} (denotes : Denotes header spec) :
    ∃ one two, Splits header one two := by
  obtain ⟨one, two, same, spelled⟩ := denotes
  refine ⟨one, two, ?_, same⟩
  cases spec with
  | between first last => exact spelled.1.no_dash
  | starting first => exact spelled.1.no_dash
  | suffix length =>
      rw [spelled.1]
      exact List.not_mem_nil

theorem parse_splits (split : Splits header one two) :
    parse header fileSize = parseTexts ⟨true, 0, 0, true, fileSize⟩ one two := by
  obtain ⟨absent, same⟩ := split
  have filled : header ≠ "" := by
    rintro rfl
    cases same
  have before : ∀ character ∈ one, (decide (character ≠ '-')) = true := by
    intro character inside
    exact decide_eq_true fun dash => absent (dash ▸ inside)
  unfold parse
  rw [if_neg filled, same]
  have unit : (("bytes=".toList ++ (one ++ '-' :: two)).take 6) = "bytes=".toList := rfl
  have range : (("bytes=".toList ++ (one ++ '-' :: two)).drop 6) = one ++ '-' :: two := rfl
  dsimp only
  rw [if_neg (not_not.mpr unit), range, if_pos (by simp), List.takeWhile_append_of_pos before,
    List.dropWhile_append_of_pos before]
  simp

/-- A header without a dash is no satisfiable range. -/
theorem parse_unsplit (filled : header ≠ "") (other : ∀ one two, ¬ Splits header one two) :
    parse header fileSize = ⟨true, 0, 0, false, fileSize⟩ := by
  unfold parse
  rw [if_neg filled]
  dsimp only
  split
  · rfl
  · rename_i unit
    split
    · rename_i dash
      obtain ⟨one, two, same, absent⟩ := List.eq_append_cons_of_mem dash
      refine absurd ⟨absent, ?_⟩ (other one two)
      rw [← same, ← Decidable.not_not.mp unit]
      exact (List.take_append_drop 6 header.toList).symm
    · rfl

/-- A split header is plain when its two texts are. -/
theorem Splits.plain_iff (split : Splits header one two) :
    PlainHeader header fileSize ↔ PlainTexts one two fileSize := by
  constructor
  · intro plain
    exact plain one two split
  · intro plain left right other
    have parts := append_separator_left split.1 other.1
      (List.append_cancel_left (split.2.symm.trans other.2))
    rw [← parts.1, ← parts.2]
    exact plain

/-- A header that is split is parsed exactly when its range is reported as its texts spell it. -/
theorem Splits.parsed_iff (split : Splits header one two) :
    ParsedExactly header fileSize ↔
      ((parseTexts ⟨true, 0, 0, true, fileSize⟩ one two).satisfiable = true ↔
        ∃ spec : ByteRangeSpec, spec.Spells one two ∧ spec.Satisfiable fileSize.toNat) := by
  have present := parseTexts_hasRange ⟨true, 0, 0, true, fileSize⟩ one two
  constructor
  · intro exactly
    have same := exactly.satisfiable
    simp only [parse_splits split, split.denotes, present, true_and] at same
    exact same
  · intro same
    refine ⟨?_, ?_, ?_⟩
    · simp only [parse_splits split, split.denotes, present, true_and]
      exact same
    · intro spec denotes fits
      rw [split.denotes] at denotes
      rw [parse_splits split]
      have reported := same.mpr ⟨spec, denotes, fits⟩
      obtain ⟨start, stop⟩ := parseTexts_covers rfl reported denotes fits
      exact covers_of_bounds fits fileSize.toNat_lt_size start stop
    · intro _ none
      simp only [split.denotes] at none
      rw [parse_splits split]
      exact ⟨present, Bool.eq_false_iff.mpr (mt same.mp none)⟩

/-- A header is parsed as RFC 7233 reads it exactly when its texts are plain. -/
theorem parse_exact_iff (header : String) (fileSize : UInt64) :
    ParsedExactly header fileSize ↔ PlainHeader header fileSize := by
  by_cases split : ∃ one two, Splits header one two
  · obtain ⟨one, two, split⟩ := split
    rw [split.parsed_iff, split.plain_iff]
    by_cases empty : one = []
    · subst empty
      rw [PlainTexts, if_pos rfl]
      exact suffix_exact_iff rfl
    · rw [PlainTexts, if_neg empty]
      exact bounds_exact_iff rfl empty
  · have other : ∀ one two, ¬ Splits header one two := by
      intro one two splits
      exact split ⟨one, two, splits⟩
    have silent : ∀ spec, ¬ Denotes header spec := by
      intro spec denotes
      exact split (denotes_splits denotes)
    have plain : PlainHeader header fileSize := by
      intro one two splits
      exact absurd splits (other one two)
    refine iff_of_true ⟨?_, ?_, ?_⟩ plain
    · by_cases empty : header = ""
      · subst empty
        simp [parse, silent]
      · simp [parse_unsplit empty other, silent]
    · intro spec denotes
      exact absurd denotes (silent spec)
    · intro filled _
      simp [parse_unsplit filled other]

/-- A suffix of an empty file is reported as a range whose last byte wraps. -/
theorem parse_differs : ¬ ParsedExactly "bytes=-5" 0 := by
  intro exactly
  obtain ⟨spec, -, fits⟩ := exactly.satisfiable.mp (by decide +kernel)
  cases spec with
  | between first last => exact absurd fits.1 (Nat.not_lt_zero first)
  | starting first => exact absurd fits (Nat.not_lt_zero first)
  | suffix length => exact absurd fits.2 (by decide)

end Headers

section Bounds

variable {result : RangeRequest} {one two : List Char} {size : UInt64}

/-- A range that is reported satisfiable lies inside the file. -/
def RangeRequest.Inside (size : UInt64) (range : RangeRequest) : Prop :=
  range.satisfiable = true → range.start ≤ range.stop ∧ range.stop < size

theorem below_size (filled : 1 ≤ size) : size - 1 < size := by
  rw [UInt64.lt_iff_toNat_lt, last_byte filled]
  have positive : 1 ≤ size.toNat := UInt64.le_iff_toNat_le.mp filled
  omega

theorem unsatisfiable_inside : result.unsatisfiable.Inside size := by
  intro reported
  cases reported

theorem checkOrder_inside (inside : result.stop < size) : result.checkOrder.Inside size := by
  unfold checkOrder
  split
  · exact unsatisfiable_inside
  · rename_i ordered
    intro _
    exact ⟨UInt64.not_lt.mp ordered, inside⟩

theorem parseTexts_inside (filled : 1 ≤ result.fileSize) :
    (result.parseTexts one two).Inside result.fileSize := by
  have last := below_size filled
  unfold parseTexts
  split
  · split
    · exact unsatisfiable_inside
    · split
      · exact unsatisfiable_inside
      · split
        · exact checkOrder_inside last
        · exact checkOrder_inside last
  · split
    · exact unsatisfiable_inside
    · split
      · exact unsatisfiable_inside
      · split
        · exact checkOrder_inside last
        · split
          · exact unsatisfiable_inside
          · refine checkOrder_inside ?_
            dsimp only
            split
            · exact last
            · rename_i within
              exact UInt64.not_le.mp within

/-- The range of a file that is not empty lies inside the file, whatever header names it. -/
theorem parse_inside {header : String} (filled : 1 ≤ size) (present : header ≠ "") :
    (parse header size).Inside size := by
  by_cases split : ∃ one two, Splits header one two
  · obtain ⟨one, two, split⟩ := split
    rw [parse_splits split]
    exact parseTexts_inside filled
  · rw [parse_unsplit present fun one two splits => split ⟨one, two, splits⟩]
    intro reported
    cases reported

end Bounds

end DiskServer.Download
