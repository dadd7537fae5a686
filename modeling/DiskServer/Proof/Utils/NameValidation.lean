import DiskServer.Construction.Utils.NameValidation
import Mathlib.Data.List.Basic
import Mathlib.Tactic.Ring

namespace DiskServer.Utils

section Decoding

theorem byte_forall {property : UInt8 → Prop} (each : ∀ number < 256, property (UInt8.ofNat number))
    (byte : UInt8) : property byte := by
  have here := each byte.toNat byte.toNat_lt
  rwa [UInt8.ofNat_toNat] at here

theorem continuation_iff (byte : UInt8) :
    byte &&& 0xC0 = 0x80 ↔ 0x80 ≤ byte.toNat ∧ byte.toNat < 0xC0 := by
  revert byte
  apply byte_forall
  decide +kernel

theorem low_bits (byte : UInt8) : (byte &&& 0x3F).toUInt32.toNat = byte.toNat % 64 := by
  rw [UInt8.toNat_toUInt32, UInt8.toNat_and]
  exact Nat.and_two_pow_sub_one_eq_mod byte.toNat 6

theorem shifted_toNat {codePoint : UInt32} {byte : UInt8} (small : (codePoint.toNat + 1) * 64 ≤ 2 ^ 32) :
    ((codePoint <<< 6) ||| (byte &&& 0x3F).toUInt32).toNat = codePoint.toNat * 64 + byte.toNat % 64 := by
  have shift : (codePoint <<< 6).toNat = codePoint.toNat <<< 6 := by
    rw [UInt32.toNat_shiftLeft, Nat.shiftLeft_eq, Nat.shiftLeft_eq]
    change codePoint.toNat * 64 % 2 ^ 32 = codePoint.toNat * 64
    apply Nat.mod_eq_of_lt
    omega
  rw [UInt32.toNat_or, shift, low_bits, ← Nat.shiftLeft_add_eq_or_of_lt (by omega), Nat.shiftLeft_eq]

/-- The continuation bytes that a sequence takes and the number that they give. -/
def joinBits (codePoint : Nat) (tail : List UInt8) : Nat :=
  tail.foldl (fun sum byte => sum * 64 + byte.toNat % 64) codePoint

theorem decodeContinuation_eq (value : List UInt8) (index offset : Nat) (codePoint : UInt32) :
    decodeContinuation value index codePoint offset =
      match value[index + offset]? with
      | none => .error .outside
      | some byte =>
          if byte &&& 0xC0 ≠ 0x80 then .error .invalid
          else .ok ((codePoint <<< 6) ||| (byte &&& 0x3F).toUInt32) := by
  unfold decodeContinuation readByte
  cases value[index + offset]? <;> rfl

theorem decodeTail_ok {value : List UInt8} {index count offset : Nat} {codePoint result : UInt32}
    (small : (codePoint.toNat + 1) * 64 ^ count ≤ 2 ^ 32) :
    (List.range' offset count).foldlM (decodeContinuation value index) codePoint = .ok result ↔
      ∃ tail, (value.drop (index + offset)).take count = tail ∧ tail.length = count ∧
        (∀ byte ∈ tail, 0x80 ≤ byte.toNat ∧ byte.toNat < 0xC0) ∧
        result.toNat = joinBits codePoint.toNat tail := by
  induction count generalizing offset codePoint with
  | zero =>
      change (Except.ok codePoint : Except ScanStop UInt32) = .ok result ↔ _
      constructor
      · rintro ⟨⟩
        exact ⟨[], rfl, rfl, fun _ none => (List.not_mem_nil none).elim, rfl⟩
      · rintro ⟨tail, taken, length, -, same⟩
        obtain rfl := List.length_eq_zero_iff.mp length
        rw [UInt32.toNat_inj.mp same]
  | succ count ih =>
      rw [List.range'_succ, List.foldlM_cons, decodeContinuation_eq]
      rcases read : value[index + offset]? with _ | byte
      · have short : value.drop (index + offset) = [] := by
          rw [List.drop_eq_nil_iff]
          exact List.getElem?_eq_none_iff.mp read
        rw [short]
        constructor
        · intro wrong
          cases wrong
        · rintro ⟨tail, rfl, length, -, -⟩
          cases length
      · obtain ⟨inside, here⟩ := List.getElem?_eq_some_iff.mp read
        have split : value.drop (index + offset) = byte :: value.drop (index + (offset + 1)) := by
          rw [List.drop_eq_getElem_cons inside, here]
          rfl
        rw [split, List.take_succ_cons]
        dsimp only
        by_cases continues : byte &&& 0xC0 = 0x80
        · rw [if_neg (not_not.mpr continues)]
          have first : (codePoint.toNat + 1) * 64 ≤ 2 ^ 32 := by
            apply le_trans _ small
            apply Nat.mul_le_mul_left
            exact Nat.le_self_pow (Nat.succ_ne_zero count) 64
          have joined : ((codePoint <<< 6) ||| (byte &&& 0x3F).toUInt32).toNat =
              codePoint.toNat * 64 + byte.toNat % 64 := shifted_toNat first
          have smaller : (((codePoint <<< 6) ||| (byte &&& 0x3F).toUInt32).toNat + 1) * 64 ^ count ≤
              2 ^ 32 := by
            apply le_trans _ small
            rw [joined, pow_succ', ← mul_assoc]
            apply Nat.mul_le_mul_right
            omega
          change (List.range' (offset + 1) count).foldlM (decodeContinuation value index) _ = _ ↔ _
          rw [ih smaller, joined]
          constructor
          · rintro ⟨tail, taken, length, each, same⟩
            refine ⟨byte :: tail, by rw [taken], by rw [List.length_cons, length], ?_, same⟩
            intro other present
            rcases List.mem_cons.mp present with rfl | later
            · exact (continuation_iff _).mp continues
            · exact each other later
          · rintro ⟨_, rfl, length, each, same⟩
            refine ⟨_, rfl, Nat.succ.inj length, ?_, same⟩
            intro other present
            exact each other (List.mem_cons_of_mem byte present)
        · rw [if_pos continues]
          constructor
          · intro wrong
            cases wrong
          · rintro ⟨_, rfl, -, each, -⟩
            exact absurd ((continuation_iff byte).mpr (each byte List.mem_cons_self)) continues

/-- The lead byte of each length holds the high bits of its code point. -/
def LeadShape (byte : UInt8) (lead : Lead) : Prop :=
  (byte.toNat ≤ 0x7F ∧ lead.sequenceLength = 1 ∧ lead.codePoint.toNat = byte.toNat) ∨
  (0xC2 ≤ byte.toNat ∧ byte.toNat ≤ 0xDF ∧ lead.sequenceLength = 2 ∧
    lead.codePoint.toNat = byte.toNat % 32) ∨
  (0xE0 ≤ byte.toNat ∧ byte.toNat ≤ 0xEF ∧ lead.sequenceLength = 3 ∧
    lead.codePoint.toNat = byte.toNat % 16) ∨
  (0xF0 ≤ byte.toNat ∧ byte.toNat ≤ 0xF4 ∧ lead.sequenceLength = 4 ∧
    lead.codePoint.toNat = byte.toNat % 8)

theorem masked_toNat (byte : UInt8) (bits : Nat) (mask : UInt8) (same : mask.toNat = 2 ^ bits - 1) :
    (byte &&& mask).toUInt32.toNat = byte.toNat % 2 ^ bits := by
  rw [UInt8.toNat_toUInt32, UInt8.toNat_and, same]
  exact Nat.and_two_pow_sub_one_eq_mod byte.toNat bits

theorem decodeLead_shape {byte : UInt8} {lead : Lead} (decoded : decodeLead byte = some lead) :
    LeadShape byte lead := by
  unfold decodeLead at decoded
  simp only [UInt8.le_iff_toNat_le] at decoded
  split at decoded
  · rename_i bounds
    cases decoded
    exact .inl ⟨bounds, rfl, UInt8.toNat_toUInt32 byte⟩
  · split at decoded
    · rename_i bounds
      cases decoded
      exact .inr (.inl ⟨bounds.1, bounds.2, rfl, masked_toNat byte 5 0x1F rfl⟩)
    · split at decoded
      · rename_i bounds
        cases decoded
        exact .inr (.inr (.inl ⟨bounds.1, bounds.2, rfl, masked_toNat byte 4 0x0F rfl⟩))
      · split at decoded
        · rename_i bounds
          cases decoded
          exact .inr (.inr (.inr ⟨bounds.1, bounds.2, rfl, masked_toNat byte 3 0x07 rfl⟩))
        · cases decoded

theorem exists_decodeLead {byte : UInt8} (starts : byte.toNat ≤ 0x7F ∨
    0xC2 ≤ byte.toNat ∧ byte.toNat ≤ 0xF4) : ∃ lead, decodeLead byte = some lead := by
  unfold decodeLead
  simp only [UInt8.le_iff_toNat_le]
  split
  · exact ⟨_, rfl⟩
  · split
    · exact ⟨_, rfl⟩
    · split
      · exact ⟨_, rfl⟩
      · split
        · exact ⟨_, rfl⟩
        · rename_i one two three four
          simp at one two three four
          omega

theorem isOverlong_false {sequenceLength : Nat} {codePoint : UInt32} :
    isOverlong sequenceLength codePoint = false ↔
      (sequenceLength = 2 → 0x80 ≤ codePoint.toNat) ∧ (sequenceLength = 3 → 0x800 ≤ codePoint.toNat) ∧
        (sequenceLength = 4 → 0x10000 ≤ codePoint.toNat) := by
  unfold isOverlong
  simp [UInt32.lt_iff_toNat_lt]
  exact and_assoc

theorem isOutOfRange_false {codePoint : UInt32} :
    isOutOfRange codePoint = false ↔ codePoint.isValidChar := by
  unfold isOutOfRange UInt32.isValidChar Nat.isValidChar
  simp [UInt32.lt_iff_toNat_lt, UInt32.le_iff_toNat_le]
  omega

/-- A lead byte with its continuation bytes is the encoding of the character that they give. -/
theorem utf8EncodeChar_joined {byte : UInt8} {lead : Lead} {tail : List UInt8} {codePoint : UInt32}
    (valid : codePoint.isValidChar) (shape : LeadShape byte lead)
    (length : tail.length = lead.sequenceLength - 1)
    (each : ∀ other ∈ tail, 0x80 ≤ other.toNat ∧ other.toNat < 0xC0)
    (joined : codePoint.toNat = joinBits lead.codePoint.toNat tail)
    (shortest : isOverlong lead.sequenceLength codePoint = false) :
    String.utf8EncodeChar ⟨codePoint, valid⟩ = byte :: tail := by
  obtain ⟨two, three, four⟩ := isOverlong_false.mp shortest
  unfold String.utf8EncodeChar
  dsimp only
  rcases shape with ⟨bound, count, bits⟩ | ⟨least, most, count, bits⟩ | ⟨least, most, count, bits⟩ |
    ⟨least, most, count, bits⟩
  · rw [count] at length
    obtain rfl := List.length_eq_zero_iff.mp length
    change codePoint.toNat = lead.codePoint.toNat at joined
    rw [joined, bits, if_pos bound, UInt8.ofNat_toNat]
  · rw [count] at length
    obtain ⟨one, rfl⟩ := List.length_eq_one_iff.mp length
    have first := each one List.mem_cons_self
    change codePoint.toNat = lead.codePoint.toNat * 64 + one.toNat % 64 at joined
    have lower := two count
    rw [if_neg (by omega), if_pos (by omega)]
    simp only [List.cons.injEq, ← UInt8.toNat_inj, UInt8.toNat_ofNat']
    refine ⟨?_, ?_, trivial⟩
    · omega
    · omega
  · rw [count] at length
    obtain ⟨one, another, rfl⟩ := List.length_eq_two.mp length
    have first := each one List.mem_cons_self
    have second := each another (List.mem_cons_of_mem _ List.mem_cons_self)
    change codePoint.toNat = (lead.codePoint.toNat * 64 + one.toNat % 64) * 64 + another.toNat % 64
      at joined
    have lower := three count
    rw [if_neg (by omega), if_neg (by omega), if_pos (by omega)]
    simp only [List.cons.injEq, ← UInt8.toNat_inj, UInt8.toNat_ofNat']
    refine ⟨?_, ?_, ?_, trivial⟩
    · omega
    · omega
    · omega
  · rw [count] at length
    obtain ⟨one, another, last, rfl⟩ := List.length_eq_three.mp length
    have first := each one List.mem_cons_self
    have second := each another (List.mem_cons_of_mem _ List.mem_cons_self)
    have third := each last (List.mem_cons_of_mem _ (List.mem_cons_of_mem _ List.mem_cons_self))
    change codePoint.toNat = ((lead.codePoint.toNat * 64 + one.toNat % 64) * 64 +
      another.toNat % 64) * 64 + last.toNat % 64 at joined
    have lower := four count
    rw [if_neg (by omega), if_neg (by omega), if_neg (by omega)]
    simp only [List.cons.injEq, ← UInt8.toNat_inj, UInt8.toNat_ofNat']
    refine ⟨?_, ?_, ?_, ?_, trivial⟩
    · omega
    · omega
    · omega
    · omega

/-- What the decoder finds in the encoding of a character. -/
structure Decodes (character : Char) (byte : UInt8) (tail : List UInt8) (lead : Lead) : Prop where
  encoded : String.utf8EncodeChar character = byte :: tail
  decoded : decodeLead byte = some lead
  length : tail.length = lead.sequenceLength - 1
  continues : ∀ other ∈ tail, 0x80 ≤ other.toNat ∧ other.toNat < 0xC0
  joined : character.val.toNat = joinBits lead.codePoint.toNat tail
  shortest : isOverlong lead.sequenceLength character.val = false

theorem continuation_toNat (number : Nat) :
    (UInt8.ofNat (number % 0x40 + 0x80)).toNat = number % 0x40 + 0x80 := by
  rw [UInt8.toNat_ofNat']
  omega

section Lengths

variable {character : Char}

theorem exists_decodes_one (one : character.val.toNat ≤ 0x7F) :
    ∃ byte tail lead, Decodes character byte tail lead := by
  have encoded : String.utf8EncodeChar character = [UInt8.ofNat character.val.toNat] := if_pos one
  have value : (UInt8.ofNat character.val.toNat).toNat = character.val.toNat := by
    rw [UInt8.toNat_ofNat']
    omega
  obtain ⟨lead, decoded⟩ : ∃ lead, decodeLead (UInt8.ofNat character.val.toNat) = some lead :=
    exists_decodeLead (by omega)
  have shape := decodeLead_shape decoded
  unfold LeadShape at shape
  have count : lead.sequenceLength = 1 := by omega
  refine ⟨_, _, lead, encoded, decoded, ?_, ?_, ?_, ?_⟩
  · rw [count]
    rfl
  · intro other none
    cases none
  · change _ = lead.codePoint.toNat
    omega
  · apply isOverlong_false.mpr
    omega

theorem exists_decodes_two (one : ¬ character.val.toNat ≤ 0x7F) (two : character.val.toNat ≤ 0x7FF) :
    ∃ byte tail lead, Decodes character byte tail lead := by
  have encoded : String.utf8EncodeChar character =
      [UInt8.ofNat (character.val.toNat / 64 % 0x20 + 0xC0),
        UInt8.ofNat (character.val.toNat % 0x40 + 0x80)] := by
    unfold String.utf8EncodeChar
    dsimp only
    rw [if_neg one, if_pos two]
  have value : (UInt8.ofNat (character.val.toNat / 64 % 0x20 + 0xC0)).toNat =
      character.val.toNat / 64 + 0xC0 := by
    rw [UInt8.toNat_ofNat']
    omega
  have last := continuation_toNat character.val.toNat
  obtain ⟨lead, decoded⟩ : ∃ lead, decodeLead (UInt8.ofNat (character.val.toNat / 64 % 0x20 + 0xC0)) = some lead :=
    exists_decodeLead (by omega)
  have shape := decodeLead_shape decoded
  unfold LeadShape at shape
  have count : lead.sequenceLength = 2 := by omega
  refine ⟨_, _, lead, encoded, decoded, ?_, ?_, ?_, ?_⟩
  · rw [count]
    rfl
  · intro other present
    rw [List.mem_singleton.mp present, last]
    omega
  · change _ = lead.codePoint.toNat * 64 + _ % 64
    omega
  · apply isOverlong_false.mpr
    omega

theorem exists_decodes_three (two : ¬ character.val.toNat ≤ 0x7FF)
    (three : character.val.toNat ≤ 0xFFFF) : ∃ byte tail lead, Decodes character byte tail lead := by
  have encoded : String.utf8EncodeChar character =
      [UInt8.ofNat (character.val.toNat / 4096 % 0x10 + 0xE0),
        UInt8.ofNat (character.val.toNat / 64 % 0x40 + 0x80),
        UInt8.ofNat (character.val.toNat % 0x40 + 0x80)] := by
    unfold String.utf8EncodeChar
    dsimp only
    rw [if_neg (by omega), if_neg two, if_pos three]
  have value : (UInt8.ofNat (character.val.toNat / 4096 % 0x10 + 0xE0)).toNat =
      character.val.toNat / 4096 + 0xE0 := by
    rw [UInt8.toNat_ofNat']
    omega
  have middle := continuation_toNat (character.val.toNat / 64)
  have last := continuation_toNat character.val.toNat
  obtain ⟨lead, decoded⟩ : ∃ lead, decodeLead (UInt8.ofNat (character.val.toNat / 4096 % 0x10 + 0xE0)) = some lead :=
    exists_decodeLead (by omega)
  have shape := decodeLead_shape decoded
  unfold LeadShape at shape
  have count : lead.sequenceLength = 3 := by omega
  refine ⟨_, _, lead, encoded, decoded, ?_, ?_, ?_, ?_⟩
  · rw [count]
    rfl
  · intro other present
    simp only [List.mem_cons, List.not_mem_nil, or_false] at present
    rcases present with rfl | rfl
    · omega
    · omega
  · change _ = (lead.codePoint.toNat * 64 + _ % 64) * 64 + _ % 64
    omega
  · apply isOverlong_false.mpr
    omega

theorem exists_decodes_four (three : ¬ character.val.toNat ≤ 0xFFFF) :
    ∃ byte tail lead, Decodes character byte tail lead := by
  have bound : character.val.toNat < 0x110000 := by
    rcases character.valid with low | high
    · omega
    · exact high.2
  have encoded : String.utf8EncodeChar character =
      [UInt8.ofNat (character.val.toNat / 262144 % 0x08 + 0xF0),
        UInt8.ofNat (character.val.toNat / 4096 % 0x40 + 0x80),
        UInt8.ofNat (character.val.toNat / 64 % 0x40 + 0x80),
        UInt8.ofNat (character.val.toNat % 0x40 + 0x80)] := by
    unfold String.utf8EncodeChar
    dsimp only
    rw [if_neg (by omega), if_neg (by omega), if_neg three]
  have value : (UInt8.ofNat (character.val.toNat / 262144 % 0x08 + 0xF0)).toNat =
      character.val.toNat / 262144 + 0xF0 := by
    rw [UInt8.toNat_ofNat']
    omega
  have early := continuation_toNat (character.val.toNat / 4096)
  have middle := continuation_toNat (character.val.toNat / 64)
  have last := continuation_toNat character.val.toNat
  obtain ⟨lead, decoded⟩ : ∃ lead, decodeLead (UInt8.ofNat (character.val.toNat / 262144 % 0x08 + 0xF0)) = some lead :=
    exists_decodeLead (by omega)
  have shape := decodeLead_shape decoded
  unfold LeadShape at shape
  have count : lead.sequenceLength = 4 := by omega
  refine ⟨_, _, lead, encoded, decoded, ?_, ?_, ?_, ?_⟩
  · rw [count]
    rfl
  · intro other present
    simp only [List.mem_cons, List.not_mem_nil, or_false] at present
    rcases present with rfl | rfl | rfl
    · omega
    · omega
    · omega
  · change _ = ((lead.codePoint.toNat * 64 + _ % 64) * 64 + _ % 64) * 64 + _ % 64
    omega
  · apply isOverlong_false.mpr
    omega

end Lengths

theorem exists_decodes (character : Char) : ∃ byte tail lead, Decodes character byte tail lead := by
  by_cases one : character.val.toNat ≤ 0x7F
  · exact exists_decodes_one one
  · by_cases two : character.val.toNat ≤ 0x7FF
    · exact exists_decodes_two one two
    · by_cases three : character.val.toNat ≤ 0xFFFF
      · exact exists_decodes_three two three
      · exact exists_decodes_four three

/-- A text is a list of encoded characters outside of the two ranges of control characters. -/
def IsCleanUtf8 (value : List UInt8) : Prop :=
  ∃ characters : List Char, value = characters.flatMap String.utf8EncodeChar ∧
    ∀ character ∈ characters, 0x1F < character.toNat ∧
      ¬ (0x7F ≤ character.toNat ∧ character.toNat ≤ 0x9F)

theorem isControl_false {character : Char} :
    isControl character.val = false ↔
      0x1F < character.toNat ∧ ¬ (0x7F ≤ character.toNat ∧ character.toNat ≤ 0x9F) := by
  unfold isControl Char.toNat
  simp [UInt32.le_iff_toNat_le]

theorem LeadShape.small {byte : UInt8} {lead : Lead} (shape : LeadShape byte lead) :
    (lead.codePoint.toNat + 1) * 64 ^ (lead.sequenceLength - 1) ≤ 2 ^ 32 := by
  rcases shape with ⟨bound, count, bits⟩ | ⟨-, -, count, bits⟩ | ⟨-, -, count, bits⟩ | ⟨-, -, count, bits⟩
  · rw [count]
    omega
  · rw [count]
    omega
  · rw [count]
    omega
  · rw [count]
    omega

theorem scanSequence_ok {value : List UInt8} {index : Nat} {lead : Lead} :
    scanSequence value index lead = .ok () ↔ index + lead.sequenceLength ≤ value.length ∧
      ∃ codePoint, (List.range' 1 (lead.sequenceLength - 1)).foldlM (decodeContinuation value index)
          lead.codePoint = .ok codePoint ∧
        isOverlong lead.sequenceLength codePoint = false ∧ isOutOfRange codePoint = false ∧
        isControl codePoint = false := by
  unfold scanSequence
  by_cases short : value.length < index + lead.sequenceLength
  · rw [if_pos short]
    constructor
    · intro wrong
      cases wrong
    · rintro ⟨enough, -⟩
      omega
  · rw [if_neg short]
    rcases (List.range' 1 (lead.sequenceLength - 1)).foldlM (decodeContinuation value index)
      lead.codePoint with stop | codePoint
    · constructor
      · intro wrong
        cases wrong
      · rintro ⟨-, _, wrong, -⟩
        cases wrong
    · change (if _ then throw ScanStop.invalid else pure ()) = _ ↔ _
      split
      · rename_i flagged
        constructor
        · intro wrong
          cases wrong
        · rintro ⟨-, _, ⟨⟩, one, two, three⟩
          rw [one, two, three] at flagged
          cases flagged
      · rename_i clean
        simp only [Bool.or_eq_true, not_or, Bool.not_eq_true] at clean
        exact ⟨fun _ => ⟨by omega, codePoint, rfl, clean.1.1, clean.1.2, clean.2⟩, fun _ => rfl⟩

theorem drop_eq_cons {value : List UInt8} {index : Nat} {byte : UInt8} (read : value[index]? = some byte) :
    value.drop index = byte :: value.drop (index + 1) := by
  obtain ⟨inside, here⟩ := List.getElem?_eq_some_iff.mp read
  rw [List.drop_eq_getElem_cons inside, here]

/-- A sequence that the scan accepts is the encoding of one character. -/
theorem scanSequence_sound {value : List UInt8} {index : Nat} {byte : UInt8} {lead : Lead}
    (read : value[index]? = some byte) (decoded : decodeLead byte = some lead)
    (scanned : scanSequence value index lead = .ok ()) :
    ∃ character : Char, isControl character.val = false ∧
      value.drop index =
        String.utf8EncodeChar character ++ value.drop (index + lead.sequenceLength) := by
  have shape := decodeLead_shape decoded
  obtain ⟨-, codePoint, folded, shortest, ranged, printable⟩ := scanSequence_ok.mp scanned
  obtain ⟨tail, taken, length, each, joined⟩ := (decodeTail_ok shape.small).mp folded
  refine ⟨⟨codePoint, isOutOfRange_false.mp ranged⟩, printable, ?_⟩
  rw [utf8EncodeChar_joined _ shape length each joined shortest, drop_eq_cons read, ← taken,
    List.cons_append]
  have rest : value.drop (index + lead.sequenceLength) =
      (value.drop (index + 1)).drop (lead.sequenceLength - 1) := by
    rw [List.drop_drop]
    congr 1
    have := lead.nonempty
    omega
  rw [rest, List.take_append_drop]

/-- The scan accepts the encoding of every character that is no control character. -/
theorem scanSequence_complete {value rest : List UInt8} {index : Nat} {character : Char}
    (printable : isControl character.val = false)
    (encoded : value.drop index = String.utf8EncodeChar character ++ rest) :
    ∃ byte lead, value[index]? = some byte ∧ decodeLead byte = some lead ∧
      scanSequence value index lead = .ok () ∧ value.drop (index + lead.sequenceLength) = rest := by
  obtain ⟨byte, tail, lead, decodes⟩ := exists_decodes character
  have shape := decodeLead_shape decodes.decoded
  rw [decodes.encoded, List.cons_append] at encoded
  have read : value[index]? = some byte := by
    have head := congrArg List.head? encoded
    rwa [List.head?_drop] at head
  have behind : value.drop (index + 1) = tail ++ rest := by
    rw [drop_eq_cons read] at encoded
    exact (List.cons.inj encoded).2
  have more := lead.nonempty
  have total := congrArg List.length encoded
  rw [List.length_drop, List.length_cons, List.length_append, decodes.length] at total
  refine ⟨byte, lead, read, decodes.decoded, ?_, ?_⟩
  · apply scanSequence_ok.mpr
    refine ⟨by omega, character.val, ?_, decodes.shortest, isOutOfRange_false.mpr character.valid,
      printable⟩
    apply (decodeTail_ok shape.small).mpr
    refine ⟨tail, ?_, decodes.length, decodes.continues, decodes.joined⟩
    rw [behind, ← decodes.length]
    exact List.take_left
  · have split : index + lead.sequenceLength = index + 1 + tail.length := by
      rw [decodes.length]
      omega
    rw [split, ← List.drop_drop, behind]
    exact List.drop_left

theorem readByte_ok {value : List UInt8} {index : Nat} {byte : UInt8} :
    readByte value index = .ok byte ↔ value[index]? = some byte := by
  unfold readByte
  cases value[index]? with
  | none => simp
  | some other => simp

theorem scanFrom_sound {value : List UInt8} {index : Nat} (scanned : scanFrom value index = .ok ()) :
    IsCleanUtf8 (value.drop index) := by
  fun_induction scanFrom value index with
  | case1 => cases scanned
  | case2 => cases scanned
  | case3 => cases scanned
  | case4 index inside byte read lead decoded _ sequence ih =>
      obtain ⟨character, printable, here⟩ := scanSequence_sound (readByte_ok.mp read) decoded sequence
      obtain ⟨characters, behind, others⟩ := ih scanned
      refine ⟨character :: characters, by rw [here, behind, List.flatMap_cons], ?_⟩
      intro other present
      rcases List.mem_cons.mp present with rfl | later
      · exact isControl_false.mp printable
      · exact others other later
  | case5 index behind =>
      refine ⟨[], ?_, fun _ none => (List.not_mem_nil none).elim⟩
      rw [List.drop_eq_nil_of_le (Nat.le_of_not_lt behind)]
      rfl

theorem scanFrom_complete {value : List UInt8} {characters : List Char} {index : Nat}
    (clean : ∀ character ∈ characters, isControl character.val = false)
    (encoded : value.drop index = characters.flatMap String.utf8EncodeChar) :
    scanFrom value index = .ok () := by
  induction characters generalizing index with
  | nil =>
      have behind := List.drop_eq_nil_iff.mp encoded
      rw [scanFrom, if_neg (Nat.not_lt.mpr behind)]
  | cons character rest ih =>
      rw [List.flatMap_cons] at encoded
      obtain ⟨byte, lead, read, decoded, sequence, behind⟩ :=
        scanSequence_complete (clean character List.mem_cons_self) encoded
      obtain ⟨inside, -⟩ := List.getElem?_eq_some_iff.mp read
      have byteRead := readByte_ok.mpr read
      rw [scanFrom, if_pos inside, byteRead]
      dsimp only
      rw [decoded]
      dsimp only
      rw [sequence]
      exact ih (fun other present => clean other (List.mem_cons_of_mem character present)) behind

/-- The continuation bytes of a sequence that fits into the text can all be read. -/
theorem decodeTail_inside {value : List UInt8} {index count offset : Nat} {codePoint : UInt32}
    (fits : index + offset + count ≤ value.length) :
    (List.range' offset count).foldlM (decodeContinuation value index) codePoint ≠
      .error .outside := by
  induction count generalizing offset codePoint with
  | zero =>
      intro wrong
      cases wrong
  | succ count ih =>
      rw [List.range'_succ, List.foldlM_cons, decodeContinuation_eq,
        List.getElem?_eq_getElem (by omega)]
      dsimp only
      split
      · intro wrong
        cases wrong
      · exact ih (by omega)

theorem scanSequence_inside {value : List UInt8} {index : Nat} {lead : Lead} :
    scanSequence value index lead ≠ .error .outside := by
  unfold scanSequence
  by_cases short : value.length < index + lead.sequenceLength
  · rw [if_pos short]
    intro wrong
    cases wrong
  · rw [if_neg short]
    have more := lead.nonempty
    have inside : index + 1 + (lead.sequenceLength - 1) ≤ value.length := by omega
    rcases folded : (List.range' 1 (lead.sequenceLength - 1)).foldlM (decodeContinuation value index)
      lead.codePoint with stop | codePoint
    · intro wrong
      cases wrong
      exact decodeTail_inside inside folded
    · change (if _ then throw ScanStop.invalid else pure ()) ≠ _
      split
      · intro wrong
        cases wrong
      · intro wrong
        cases wrong

theorem scanFrom_inside (value : List UInt8) (index : Nat) : scanFrom value index ≠ .error .outside := by
  fun_induction scanFrom value index with
  | case1 index inside stop read => 
      unfold readByte at read
      rw [List.getElem?_eq_getElem inside] at read
      cases read
  | case2 =>
      intro wrong
      cases wrong
  | case3 index inside byte read lead decoded stop sequence =>
      rintro ⟨⟩
      exact scanSequence_inside sequence
  | case4 index inside byte read lead decoded _ sequence ih => exact ih
  | case5 =>
      intro wrong
      cases wrong

/-- The scan never reads behind the end. -/
theorem isValidUtf8WithoutControlChars_answers (value : List UInt8) :
    isValidUtf8WithoutControlChars value ≠ none := by
  unfold isValidUtf8WithoutControlChars
  rcases scanned : scanFrom value 0 with (_ | _) | _
  · exact absurd scanned (scanFrom_inside value 0)
  · intro wrong
    cases wrong
  · intro wrong
    cases wrong

/-- The scan accepts exactly the clean texts. -/
theorem isValidUtf8WithoutControlChars_iff (value : List UInt8) :
    isValidUtf8WithoutControlChars value = some true ↔ IsCleanUtf8 value := by
  unfold isValidUtf8WithoutControlChars
  constructor
  · intro valid
    rcases scanned : scanFrom value 0 with (_ | _) | _
    · rw [scanned] at valid
      cases valid
    · rw [scanned] at valid
      cases valid
    · exact scanFrom_sound scanned
  · rintro ⟨characters, rfl, clean⟩
    rw [scanFrom_complete (fun character present => isControl_false.mpr (clean character present)) rfl]

end Decoding

section Names

/-- The validation returns the name as it is and checks its length, its bytes, its start and its text. -/
theorem validateName_eq_ok {subject : String} {sent name : List UInt8} :
    validateName subject sent = .ok name ↔ name = sent ∧ 1 ≤ sent.length ∧ sent.length ≤ 255 ∧
      hasForbiddenDriveItemChars sent = false ∧ sent.head? ≠ some 0x2E ∧ IsCleanUtf8 sent := by
  unfold validateName
  rw [← isValidUtf8WithoutControlChars_iff]
  constructor
  · intro accepted
    split at accepted
    · cases accepted
    · split at accepted
      · cases accepted
      · split at accepted
        · cases accepted
        · split at accepted
          · cases accepted
          · split at accepted
            · cases accepted
            · rename_i long allowed _ start valid
              rw [not_not] at long valid
              exact ⟨(Except.ok.inj accepted).symm, long.1, long.2, Bool.eq_false_iff.mpr allowed, start, valid⟩
  · rintro ⟨rfl, lower, upper, allowed, start, valid⟩
    rw [if_neg (not_not.mpr ⟨lower, upper⟩), if_neg (by simp [allowed]), if_neg, if_neg start,
      if_neg (not_not.mpr valid)]
    rintro (rfl | rfl)
    · exact start rfl
    · exact start rfl

theorem AcceptedName.validated {name : List UInt8} (accepted : AcceptedName name) :
    ∃ subject sent, validateName subject sent = .ok name := by
  obtain ⟨sent, upload | rename | create | folder⟩ := accepted
  · exact ⟨_, _, upload⟩
  · exact ⟨_, _, rename⟩
  · exact ⟨_, _, create⟩
  · exact ⟨_, _, folder⟩

theorem AcceptedName.allowed {name : List UInt8} (accepted : AcceptedName name) :
    hasForbiddenDriveItemChars name = false := by
  obtain ⟨subject, sent, valid⟩ := accepted.validated
  obtain ⟨rfl, -, -, allowed, -⟩ := validateName_eq_ok.mp valid
  exact allowed

/-- An accepted name is clean and has no slash. -/
theorem AcceptedName.clean {name : List UInt8} (accepted : AcceptedName name) :
    IsCleanUtf8 name ∧ 0x2F ∉ name := by
  obtain ⟨subject, sent, valid⟩ := accepted.validated
  obtain ⟨rfl, -, -, -, -, clean⟩ := validateName_eq_ok.mp valid
  exact ⟨clean, fun slash => absurd (List.any_eq_false.mp accepted.allowed 0x2F slash) (by decide)⟩

end Names

end DiskServer.Utils
