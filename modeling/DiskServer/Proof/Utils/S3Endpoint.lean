import DiskServer.Construction.Utils.RuntimeConfig

namespace DiskServer.Utils

open Library

section Grammar

/-- A decimal port from 1 to 65535. -/
def IsPort (text : List Char) : Prop :=
  IsNumeral text ∧ 1 ≤ Nat.ofDigitChars 10 text 0 ∧ Nat.ofDigitChars 10 text 0 ≤ 65535

/-- An octet has one to three digits, which may begin with zeros. -/
def IsOctet (text : List Char) : Prop :=
  IsNumeral text ∧ text.length ≤ 3 ∧ Nat.ofDigitChars 10 text 0 ≤ 255

/-- Four octets separated by dots. -/
def IsDottedQuad (text : List Char) : Prop :=
  ∃ octets, octets.length = 4 ∧ (∀ octet ∈ octets, IsOctet octet) ∧ text = ['.'].intercalate octets

/-- A label has letters, digits and inner hyphens. -/
structure IsLabel (label : List Char) : Prop where
  present : label ≠ []
  short : label.length ≤ 63
  characters : ∀ character ∈ label, isAsciiAlphaNumeric character = true ∨ character = '-'
  front : label.head? ≠ some '-'
  back : label.getLast? ≠ some '-'

/-- A name is not made of digits and dots only. -/
structure IsDnsName (host : List Char) : Prop where
  short : host.length ≤ 253
  named : ∃ character ∈ host, character.isDigit = false ∧ character ≠ '.'
  labels : ∃ labels, labels ≠ [] ∧ (∀ label ∈ labels, IsLabel label) ∧ host = ['.'].intercalate labels

def IsGroup (text : List Char) : Prop :=
  text ≠ [] ∧ text.length ≤ 4 ∧ ∀ character ∈ text, isHexDigit character = true

def IsGroups (text : List Char) (count : Nat) : Prop :=
  ∃ groups, groups.length = count ∧ (∀ group ∈ groups, IsGroup group) ∧ text = [':'].intercalate groups

/-- Groups of which the last two may be written as four octets. -/
def IsGroupsWithTail (text : List Char) (count : Nat) : Prop :=
  IsGroups text count ∨ ∃ groups tail, groups.length + 2 = count ∧ (∀ group ∈ groups, IsGroup group) ∧
    IsDottedQuad tail ∧ text = [':'].intercalate (groups ++ [tail])

/-- Eight groups, of which one compression may stand for one or more. -/
def IsIpv6Address (text : List Char) : Prop :=
  IsGroupsWithTail text 8 ∨ ∃ left right before after, IsGroups left before ∧ IsGroupsWithTail right after ∧
    before + after < 8 ∧ text = left ++ ':' :: ':' :: right

/-- A name, a dotted quad or an IPv6 address in brackets. -/
def IsHost (text : List Char) : Prop :=
  IsDnsName text ∨ IsDottedQuad text ∨ ∃ address, IsIpv6Address address ∧ text = '[' :: (address ++ [']'])

/-- A host with an optional port. -/
def IsAuthority (text : List Char) : Prop :=
  ∃ host, IsHost host ∧ (text = host ∨ ∃ port, IsPort port ∧ text = host ++ ':' :: port)

/-- An endpoint is the scheme and then a host that a port may follow. -/
def IsEndpoint (text : List Char) (useSsl : Bool) : Prop :=
  ∃ authority, IsAuthority authority ∧ text = expectedScheme useSsl ++ authority

end Grammar

section Numbers

variable {text : List Char}

theorem isValidPort_iff : isValidPort text = true ↔ IsPort text := by
  unfold isValidPort
  constructor
  · intro valid
    split at valid
    · cases valid
    · split at valid
      · rename_i port read
        obtain ⟨numeral, rfl, -⟩ := fromChars_whole_iff.mp read
        simp only [Bool.and_eq_true, decide_eq_true_eq] at valid
        exact ⟨numeral, valid⟩
      · cases valid
  · rintro ⟨numeral, least, most⟩
    have read : fromChars text = some (Nat.ofDigitChars 10 text 0, []) :=
      fromChars_whole_iff.mpr ⟨numeral, rfl, by omega⟩
    rw [if_neg numeral.1, read]
    simp only [Bool.and_eq_true, decide_eq_true_eq]
    exact ⟨least, most⟩

theorem visitIpv4Segment_visits :
    VisitsBy visitIpv4Segment (fun segment _ => IsOctet segment) fun count _ => count + 1 := by
  intro count segment last
  by_cases octet : IsOctet segment
  · obtain ⟨numeral, short, small⟩ := octet
    have read : fromChars segment = some (Nat.ofDigitChars 10 segment 0, []) :=
      fromChars_whole_iff.mpr ⟨numeral, rfl, by omega⟩
    refine .inl ⟨⟨numeral, short, small⟩, ?_⟩
    unfold visitIpv4Segment
    rw [if_neg (not_or.mpr ⟨numeral.1, Nat.not_lt.mpr short⟩), read]
    exact if_neg (Nat.not_lt.mpr small)
  · refine .inr ⟨octet, ?_⟩
    unfold visitIpv4Segment
    split
    · rfl
    · rename_i shape
      rw [not_or, Nat.not_lt] at shape
      split
      · rename_i value read
        obtain ⟨numeral, rfl, -⟩ := fromChars_whole_iff.mp read
        split
        · rfl
        · rename_i small
          exact absurd ⟨numeral, shape.2, Nat.not_lt.mp small⟩ octet
      · rfl

theorem digit_of_octet {octet : List Char} (holds : IsOctet octet) {character : Char}
    (inside : character ∈ octet) : character.isDigit = true := holds.1.2 character inside

theorem dot_not_mem_octet {octet : List Char} (holds : IsOctet octet) : '.' ∉ octet := fun inside =>
  absurd (digit_of_octet holds inside) (by decide)

theorem checksAll_iff {check : List Char → Prop} {parts : List (List Char)} :
    ChecksAll (fun part _ => check part) parts ↔ ∀ part ∈ parts, check part := by
  induction parts with
  | nil => simp [ChecksAll]
  | cons part parts ih =>
      rw [List.forall_mem_cons]
      exact and_congr_right fun _ => ih

theorem foldl_count {Item : Type} (items : List Item) (start : Nat) :
    items.foldl (fun count _ => count + 1) start = start + items.length := by
  induction items generalizing start with
  | nil => rfl
  | cons item items ih =>
      rw [List.foldl_cons, ih, List.length_cons]
      omega

theorem isValidIpv4Address_spec (address : List Char) : ∃ valid, isValidIpv4Address address = .ok valid ∧
    (valid = true ↔ IsDottedQuad address) := by
  obtain ⟨result, scanned, reached⟩ :=
    scan_spec visitIpv4Segment_visits (fun _ _ holds => dot_not_mem_octet holds) address 0
  have quad : result = some 4 ↔ IsDottedQuad address := by
    rw [reached]
    constructor
    · rintro ⟨parts, -, checked, joined, count⟩
      rw [foldl_count, Nat.zero_add] at count
      exact ⟨parts, count, checksAll_iff.mp checked, joined⟩
    · rintro ⟨octets, four, checked, joined⟩
      refine ⟨octets, List.ne_nil_of_length_eq_add_one four, checksAll_iff.mpr checked, joined, ?_⟩
      rw [foldl_count, Nat.zero_add]
      exact four
  unfold isValidIpv4Address
  rw [scanned, ← quad]
  cases result with
  | none => exact ⟨false, rfl, iff_of_false Bool.false_ne_true (Option.some_ne_none 4).symm⟩
  | some count => exact ⟨_, rfl, by rw [decide_eq_true_iff, Option.some_inj]⟩

end Numbers

section Groups

variable {text : List Char}

theorem dot_of_dottedQuad (quad : IsDottedQuad text) : '.' ∈ text := by
  obtain ⟨octets, four, -, rfl⟩ := quad
  obtain ⟨first, second, third, fourth, rfl⟩ := List.length_eq_four.mp four
  rw [List.intercalate_cons_cons]
  simp

theorem mem_dottedQuad (quad : IsDottedQuad text) {character : Char} (inside : character ∈ text) :
    character.isDigit = true ∨ character = '.' := by
  obtain ⟨octets, -, checked, rfl⟩ := quad
  rcases mem_intercalate inside with same | ⟨octet, listed, present⟩
  · exact .inr same
  · exact .inl (digit_of_octet (checked octet listed) present)

theorem dot_not_mem_group (group : IsGroup text) : '.' ∉ text := fun inside =>
  absurd (group.2.2 '.' inside) (by decide)

theorem colon_not_mem_group (group : IsGroup text) : ':' ∉ text := fun inside =>
  absurd (group.2.2 ':' inside) (by decide)

theorem colon_not_mem_dottedQuad (quad : IsDottedQuad text) : ':' ∉ text := fun inside =>
  (mem_dottedQuad quad inside).elim (by decide) (by decide)

/-- A group, or the octets at the end where they are allowed. -/
def IsUnit (allowIpv4Tail : Bool) (segment : List Char) (last : Bool) : Prop :=
  IsGroup segment ∨ (allowIpv4Tail = true ∧ last = true ∧ IsDottedQuad segment)

def addUnits (units : Nat) (segment : List Char) : Nat := units + if '.' ∈ segment then 2 else 1

theorem findFrom_isSome (character : Char) : (findFrom text character 0).isSome = true ↔ character ∈ text := by
  by_cases inside : character ∈ text
  · obtain ⟨before, rest, rfl, clear⟩ := List.eq_append_cons_of_mem inside
    have found := @findFrom_between character [] before rest clear
    rw [List.nil_append] at found
    exact iff_of_true (by rw [show findFrom _ _ 0 = _ from found]; rfl) inside
  · have none := @findFrom_none character [] text inside
    rw [List.nil_append] at none
    exact iff_of_false (by rw [show findFrom _ _ 0 = _ from none]; decide) inside

theorem visitIpv6Segment_visits (allowIpv4Tail : Bool) :
    VisitsBy (visitIpv6Segment allowIpv4Tail) (IsUnit allowIpv4Tail) addUnits := by
  intro units segment last
  unfold visitIpv6Segment addUnits
  by_cases none : segment = []
  · refine .inr ⟨?_, if_pos none⟩
    rintro (group | ⟨-, -, quad⟩)
    · exact group.1 none
    · exact absurd (none ▸ dot_of_dottedQuad quad) List.not_mem_nil
  rw [if_neg none]
  by_cases dot : '.' ∈ segment
  · have ungrouped : ¬IsGroup segment := fun group => dot_not_mem_group group dot
    rw [if_pos ((findFrom_isSome '.').mpr dot), if_pos dot]
    obtain ⟨valid, answer, exact'⟩ := isValidIpv4Address_spec segment
    cases allowIpv4Tail with
    | false => exact .inr ⟨fun either => either.elim ungrouped fun quad => Bool.false_ne_true quad.1, rfl⟩
    | true =>
        cases last with
        | false => exact .inr ⟨fun either => either.elim ungrouped fun quad => Bool.false_ne_true quad.2.1, rfl⟩
        | true =>
            simp only [Bool.not_true, Bool.or_self, Bool.false_eq_true, if_false, answer]
            cases valid with
            | true => exact .inl ⟨.inr ⟨rfl, rfl, exact'.mp rfl⟩, rfl⟩
            | false =>
                refine .inr ⟨fun either => either.elim ungrouped fun quad => ?_, rfl⟩
                exact Bool.false_ne_true (exact'.mpr quad.2.2)
  · have unquad : ¬IsDottedQuad segment := fun quad => dot (dot_of_dottedQuad quad)
    rw [if_neg fun some' => dot ((findFrom_isSome '.').mp some'), if_neg dot]
    by_cases long : 4 < segment.length
    · refine .inr ⟨?_, if_pos long⟩
      exact fun either => either.elim (fun group => absurd group.2.1 (Nat.not_le.mpr long)) fun quad => unquad quad.2.2
    · rw [if_neg long]
      by_cases hex : segment.all isHexDigit = true
      · exact .inl ⟨.inl ⟨none, Nat.not_lt.mp long, List.all_eq_true.mp hex⟩, if_pos hex⟩
      · refine .inr ⟨?_, if_neg hex⟩
        exact fun either => either.elim (fun group => hex (List.all_eq_true.mpr group.2.2)) fun quad => unquad quad.2.2

/-- Parts that are units are groups, of which the last one may be octets. -/
theorem checksAll_units {allowIpv4Tail : Bool} {parts : List (List Char)} :
    ChecksAll (IsUnit allowIpv4Tail) parts ↔ (∀ part ∈ parts, IsGroup part) ∨
      (allowIpv4Tail = true ∧ ∃ groups tail, (∀ group ∈ groups, IsGroup group) ∧ IsDottedQuad tail ∧
        parts = groups ++ [tail]) := by
  induction parts with
  | nil => simp [ChecksAll]
  | cons part parts ih =>
      unfold ChecksAll
      rw [ih]
      constructor
      · rintro ⟨group | ⟨allowed, last, quad⟩, rest⟩
        · rcases rest with groups | ⟨allowed, groups, tail, all, quad, rfl⟩
          · exact .inl (List.forall_mem_cons.mpr ⟨group, groups⟩)
          · exact .inr ⟨allowed, part :: groups, tail, List.forall_mem_cons.mpr ⟨group, all⟩, quad, rfl⟩
        · rw [List.isEmpty_iff] at last
          exact .inr ⟨allowed, [], part, by simp, quad, by rw [last]; rfl⟩
      · rintro (groups | ⟨allowed, groups, tail, all, quad, split⟩)
        · obtain ⟨group, rest⟩ := List.forall_mem_cons.mp groups
          exact ⟨.inl group, .inl rest⟩
        · cases groups with
          | nil =>
              obtain ⟨rfl, rfl⟩ := List.cons.inj split
              exact ⟨.inr ⟨allowed, rfl, quad⟩, .inl (by simp)⟩
          | cons group groups =>
              obtain ⟨rfl, rfl⟩ := List.cons.inj split
              obtain ⟨first, rest⟩ := List.forall_mem_cons.mp all
              exact ⟨.inl first, .inr ⟨allowed, groups, tail, rest, quad, rfl⟩⟩

theorem foldl_addUnits {groups : List (List Char)} (all : ∀ group ∈ groups, IsGroup group) (units : Nat) :
    groups.foldl addUnits units = units + groups.length := by
  induction groups generalizing units with
  | nil => rfl
  | cons group groups ih =>
      obtain ⟨first, rest⟩ := List.forall_mem_cons.mp all
      rw [List.foldl_cons, ih rest, addUnits, if_neg (dot_not_mem_group first), List.length_cons]
      omega

/-- The groups on one side, where octets at the end count for two if they are allowed. -/
def IsSide (allowIpv4Tail : Bool) (side : List Char) (count : Nat) : Prop :=
  if allowIpv4Tail then IsGroupsWithTail side count else IsGroups side count

theorem intercalate_eq_nil {separator : Char} {parts : List (List Char)} (none : [separator].intercalate parts = [])
    (present : ∀ part ∈ parts, part ≠ []) : parts = [] := by
  cases parts with
  | nil => rfl
  | cons part parts =>
      exfalso
      have first := present part List.mem_cons_self
      cases parts with
      | nil => exact first (by simpa using none)
      | cons next parts =>
          rw [List.intercalate_cons_cons, List.append_assoc] at none
          exact first (List.append_eq_nil_iff.mp none).1

theorem isGroups_nil {count : Nat} : IsGroups [] count ↔ count = 0 := by
  constructor
  · rintro ⟨groups, rfl, all, none⟩
    rw [intercalate_eq_nil none.symm fun group listed => (all group listed).1]
    rfl
  · rintro rfl
    exact ⟨[], rfl, by simp, rfl⟩

theorem isSide_nil {allowIpv4Tail : Bool} {count : Nat} : IsSide allowIpv4Tail [] count ↔ count = 0 := by
  unfold IsSide
  split
  · unfold IsGroupsWithTail
    rw [isGroups_nil]
    refine or_iff_left ?_
    rintro ⟨groups, tail, -, all, quad, none⟩
    have empty := intercalate_eq_nil none.symm fun part listed => by
      rcases List.mem_append.mp listed with group | last
      · exact (all part group).1
      · rw [List.mem_singleton.mp last]
        exact List.ne_nil_of_mem (dot_of_dottedQuad quad)
    exact absurd empty (by simp)
  · exact isGroups_nil

/-- The units of a side are counted when it is one, and no access leaves it. -/
theorem countIpv6Units_spec (side : List Char) (allowIpv4Tail : Bool) :
    ∃ units, countIpv6Units side allowIpv4Tail = .ok units ∧
      ∀ count, units = some count ↔ IsSide allowIpv4Tail side count := by
  unfold countIpv6Units
  by_cases none : side = []
  · subst none
    refine ⟨some 0, rfl, fun count => ?_⟩
    rw [isSide_nil, Option.some_inj, eq_comm]
  rw [if_neg none]
  have clear : ∀ part last, IsUnit allowIpv4Tail part last → ':' ∉ part := fun part last unit =>
    unit.elim colon_not_mem_group fun quad => colon_not_mem_dottedQuad quad.2.2
  obtain ⟨units, scanned, reached⟩ := scan_spec (visitIpv6Segment_visits allowIpv4Tail) clear side 0
  refine ⟨units, scanned, fun count => ?_⟩
  rw [reached]
  have tails : ∀ groups tail, (∀ group ∈ groups, IsGroup group) → IsDottedQuad tail →
      (groups ++ [tail]).foldl addUnits 0 = groups.length + 2 := by
    intro groups tail all quad
    rw [List.foldl_append, foldl_addUnits all, List.foldl_cons, List.foldl_nil, addUnits,
      if_pos (dot_of_dottedQuad quad), Nat.zero_add]
  constructor
  · rintro ⟨parts, present, checked, joined, counted⟩
    rcases checksAll_units.mp checked with all | ⟨allowed, groups, tail, all, quad, rfl⟩
    · have groups : IsGroups side count := by
        rw [foldl_addUnits all, Nat.zero_add] at counted
        exact ⟨parts, counted, all, joined⟩
      unfold IsSide
      split
      · exact .inl groups
      · exact groups
    · rw [tails groups tail all quad] at counted
      unfold IsSide
      rw [if_pos allowed]
      exact .inr ⟨groups, tail, counted, all, quad, joined⟩
  · intro held
    have plain : IsGroups side count → ∃ parts, parts ≠ [] ∧ ChecksAll (IsUnit allowIpv4Tail) parts ∧
        side = [':'].intercalate parts ∧ parts.foldl addUnits 0 = count := by
      rintro ⟨groups, counted, all, joined⟩
      refine ⟨groups, ?_, checksAll_units.mpr (.inl all), joined, ?_⟩
      · rintro rfl
        exact none joined
      · rw [foldl_addUnits all, Nat.zero_add, counted]
    unfold IsSide at held
    split at held
    · rename_i allowed
      rcases held with groups | ⟨groups, tail, counted, all, quad, joined⟩
      · exact plain groups
      · refine ⟨groups ++ [tail], by simp, ?_, joined, ?_⟩
        · exact checksAll_units.mpr (.inr ⟨allowed, groups, tail, all, quad, rfl⟩)
        · rw [tails groups tail all quad, counted]
    · exact plain held

end Groups

section Compression

variable {text : List Char}

/-- Parts without colons leave no two colons in a row and end without one. -/
theorem noPair_intercalate {parts : List (List Char)} (clear : ∀ part ∈ parts, part ≠ [] ∧ ':' ∉ part) :
    NoPair ':' ([':'].intercalate parts) ∧ ([':'].intercalate parts).getLast? ≠ some ':' := by
  induction parts with
  | nil => exact ⟨by simp [NoPair], by simp⟩
  | cons part parts ih =>
      obtain ⟨⟨present, absent⟩, rest⟩ := List.forall_mem_cons.mp clear
      cases parts with
      | nil =>
          rw [List.intercalate_singleton]
          exact ⟨fun pair => absent (pair.subset List.mem_cons_self),
            fun last => absent (List.mem_of_getLast? last)⟩
      | cons next parts =>
          obtain ⟨single, ends⟩ := ih rest
          obtain ⟨⟨more, missing⟩, -⟩ := List.forall_mem_cons.mp rest
          obtain ⟨head, tail, rfl⟩ := List.exists_cons_of_ne_nil more
          have begins : ∃ others, [':'].intercalate ((head :: tail) :: parts) = head :: others := by
            cases parts with
            | nil => exact ⟨tail, by simp⟩
            | cons other parts => exact ⟨_, by rw [List.intercalate_cons_cons]; rfl⟩
          obtain ⟨others, shape⟩ := begins
          rw [List.intercalate_cons_cons, List.append_assoc, List.singleton_append]
          rw [shape] at single ends ⊢
          constructor
          · rintro ⟨before, after, same⟩
            rw [List.append_assoc] at same
            by_cases inside : ':' ∈ before
            · obtain ⟨first, second, rfl, none⟩ := List.eq_append_cons_of_mem inside
              rw [List.append_assoc, List.cons_append] at same
              obtain ⟨-, pair⟩ := append_separator_left none absent same
              exact single ⟨second, after, by rw [← pair, List.append_assoc]⟩
            · obtain ⟨-, pair⟩ := append_separator_left inside absent same
              have colon : ':' = head := (List.cons.inj pair).1
              exact missing (colon ▸ List.mem_cons_self)
          · rw [List.getLast?_append_of_ne_nil _ (List.cons_ne_nil _ _), List.getLast?_cons_cons]
            exact ends

theorem side_clear {allowIpv4Tail : Bool} {count : Nat} (side : IsSide allowIpv4Tail text count) :
    NoPair ':' text ∧ text.getLast? ≠ some ':' := by
  have groups : IsGroups text count → NoPair ':' text ∧ text.getLast? ≠ some ':' := by
    rintro ⟨groups, -, all, rfl⟩
    exact noPair_intercalate fun group listed => ⟨(all group listed).1, colon_not_mem_group (all group listed)⟩
  unfold IsSide at side
  split at side
  · rcases side with held | ⟨parts, tail, -, all, quad, rfl⟩
    · exact groups held
    · apply noPair_intercalate
      intro part listed
      rcases List.mem_append.mp listed with group | last
      · exact ⟨(all part group).1, colon_not_mem_group (all part group)⟩
      · rw [List.mem_singleton.mp last]
        exact ⟨List.ne_nil_of_mem (dot_of_dottedQuad quad), colon_not_mem_dottedQuad quad⟩
  · exact groups side

theorem compression_of_sides {left right : List Char} {before : Nat} (one : IsGroups left before) :
    findPairFrom (left ++ ':' :: ':' :: right) ':' 0 = some left.length := by
  obtain ⟨clear, ends⟩ := side_clear (show IsSide false left before from one)
  have found := @findPairFrom_between ':' [] left clear ends right
  rw [List.nil_append, List.length_nil, Nat.zero_add] at found
  exact found

theorem no_compression {count : Nat} (side : IsGroupsWithTail text count) : findPairFrom text ':' 0 = none :=
  @findPairFrom_none ':' [] text (side_clear (show IsSide true text count from side)).1

theorem leavesUnits_iff {left right : Option Nat} :
    leavesUnits left right = true ↔ ∃ before after, left = some before ∧ right = some after ∧ before + after < 8 := by
  unfold leavesUnits
  cases left with
  | none => simp
  | some before =>
      cases right with
      | none => simp
      | some after => simp

theorem isValidIpv6Address_spec (address : List Char) : ∃ valid, isValidIpv6Address address = .ok valid ∧
    (valid = true ↔ IsIpv6Address address) := by
  unfold isValidIpv6Address
  cases found : findPairFrom address ':' 0 with
  | none =>
      obtain ⟨units, counted, exact'⟩ := countIpv6Units_spec address true
      refine ⟨decide (units = some 8), by simp only [counted]; rfl, ?_⟩
      rw [decide_eq_true_iff, exact']
      constructor
      · exact .inl
      · rintro (whole | ⟨left, right, before, after, one, -, -, rfl⟩)
        · exact whole
        · rw [compression_of_sides one] at found
          cases found
  | some compression =>
      obtain ⟨before, rest, rfl, rfl⟩ := exists_of_findPairFrom found
      have sides : IsIpv6Address (before ++ ':' :: ':' :: rest) →
          ∃ left right, IsGroups before left ∧ IsGroupsWithTail rest right ∧ left + right < 8 := by
        rintro (whole | ⟨left, right, fewer, more, one, two, small, same⟩)
        · rw [no_compression whole] at found
          cases found
        · rw [same, compression_of_sides one] at found
          obtain ⟨rfl, tail⟩ := List.append_inj same (Option.some.inj found).symm
          obtain rfl : rest = right := by simpa using tail
          exact ⟨fewer, more, one, two, small⟩
      simp only
      by_cases second : (findPairFrom (before ++ ':' :: ':' :: rest) ':' (before.length + 2)).isSome = true
      · refine ⟨false, if_pos second, iff_of_false Bool.false_ne_true fun held => ?_⟩
        obtain ⟨left, right, -, two, -⟩ := sides held
        have single := @findPairFrom_none ':' (before ++ [':', ':']) rest
          (side_clear (show IsSide true rest right from two)).1
        rw [List.append_assoc, List.length_append] at single
        rw [show findPairFrom (before ++ ':' :: ':' :: rest) ':' (before.length + 2) = none from single] at second
        cases second
      · have first : substr (before ++ ':' :: ':' :: rest) 0 before.length = .ok before :=
          substr_between [] before (':' :: ':' :: rest)
        have last : substrFrom (before ++ ':' :: ':' :: rest) (before.length + 2) = .ok rest := by
          have tail := substrFrom_between (before ++ [':', ':']) rest
          rw [List.append_assoc, List.length_append] at tail
          exact tail
        obtain ⟨leftUnits, counted, one⟩ := countIpv6Units_spec before false
        obtain ⟨rightUnits, summed, two⟩ := countIpv6Units_spec rest true
        rw [if_neg second]
        simp only [first, last, counted, summed]
        refine ⟨_, rfl, leavesUnits_iff.trans ?_⟩
        constructor
        · rintro ⟨left, right, rfl, rfl, small⟩
          exact .inr ⟨before, rest, left, right, (one left).mp rfl, (two right).mp rfl, small, rfl⟩
        · intro held
          obtain ⟨left, right, groups, tail, small⟩ := sides held
          exact ⟨left, right, (one left).mpr groups, (two right).mpr tail, small⟩

end Compression

section Hosts

variable {text : List Char}

theorem readAt_back (label : List Char) (present : label ≠ []) :
    readAt label (label.length - 1) = .ok (label.getLast present) := by
  unfold readAt
  rw [← List.getLast?_eq_getElem?, List.getLast?_eq_some_getLast present]

theorem readAt_front (label : List Char) (present : label ≠ []) : readAt label 0 = .ok (label.head present) := by
  cases label with
  | nil => exact absurd rfl present
  | cons front rest => rfl

theorem visitLabel_visits : VisitsBy visitLabel (fun label _ => IsLabel label) fun _ _ => () := by
  intro state label last
  unfold visitLabel
  by_cases shape : label = [] ∨ 63 < label.length
  · refine .inr ⟨fun held => ?_, if_pos shape⟩
    exact shape.elim held.present fun long => absurd held.short (Nat.not_le.mpr long)
  rw [if_neg shape]
  rw [not_or, Nat.not_lt] at shape
  obtain ⟨present, short⟩ := shape
  rw [readAt_front label present, readAt_back label present]
  simp only
  have fronts : label.head? = some (label.head present) := List.head?_eq_some_head present
  have backs : label.getLast? = some (label.getLast present) := List.getLast?_eq_some_getLast present
  have plain : ∀ character ∈ label, (isAsciiAlphaNumeric character = true ∨ character = '-') →
      character ≠ '-' → isAsciiAlphaNumeric character = true := fun _ _ either other => either.resolve_right other
  by_cases sides : (!isAsciiAlphaNumeric (label.head present) || !isAsciiAlphaNumeric (label.getLast present)) = true
  · refine .inr ⟨fun held => ?_, if_pos sides⟩
    have front := plain _ (List.head_mem present) (held.characters _ (List.head_mem present)) fun same =>
      held.front (by rw [fronts, same])
    have back := plain _ (List.getLast_mem present) (held.characters _ (List.getLast_mem present)) fun same =>
      held.back (by rw [backs, same])
    rw [front, back] at sides
    cases sides
  rw [if_neg sides]
  simp only [Bool.or_eq_true, Bool.not_eq_true', not_or, Bool.not_eq_false] at sides
  by_cases all : (label.all fun character => isAsciiAlphaNumeric character || character = '-') = true
  · have characters : ∀ character ∈ label, isAsciiAlphaNumeric character = true ∨ character = '-' := by
      intro character inside
      simpa using List.all_eq_true.mp all character inside
    refine .inl ⟨⟨present, short, characters, ?_, ?_⟩, if_pos all⟩
    · rw [fronts]
      intro same
      rw [Option.some.inj same] at sides
      exact absurd sides.1 (by decide)
    · rw [backs]
      intro same
      rw [Option.some.inj same] at sides
      exact absurd sides.2 (by decide)
  · refine .inr ⟨fun held => all ?_, if_neg all⟩
    apply List.all_eq_true.mpr
    intro character inside
    simpa using held.characters character inside

theorem dot_not_mem_label {label : List Char} (held : IsLabel label) : '.' ∉ label := fun inside =>
  (held.characters '.' inside).elim (by decide) (by decide)

theorem length_intercalate_le {parts : List (List Char)} {limit : Nat} (short : ∀ part ∈ parts, part.length ≤ limit) :
    (['.'].intercalate parts).length ≤ parts.length * (limit + 1) := by
  induction parts with
  | nil => simp
  | cons part parts ih =>
      obtain ⟨first, rest⟩ := List.forall_mem_cons.mp short
      have tail := ih rest
      cases parts with
      | nil =>
          rw [List.intercalate_singleton, List.length_singleton]
          omega
      | cons next parts =>
          rw [List.intercalate_cons_cons, List.length_append, List.length_append, List.length_singleton,
            List.length_cons, Nat.succ_mul]
          omega

/-- A host is accepted when it is a name or an address of four octets. -/
theorem isValidDnsOrIpv4Host_spec (host : List Char) : ∃ valid, isValidDnsOrIpv4Host host = .ok valid ∧
    (valid = true ↔ IsDnsName host ∨ IsDottedQuad host) := by
  unfold isValidDnsOrIpv4Host maxDnsHostLength
  by_cases size : host = [] ∨ 253 < host.length
  · refine ⟨false, if_pos size, iff_of_false Bool.false_ne_true ?_⟩
    rintro (name | quad)
    · rcases size with rfl | long
      · obtain ⟨_, inside, -⟩ := name.named
        exact List.not_mem_nil inside
      · exact absurd name.short (Nat.not_le.mpr long)
    · rcases size with rfl | long
      · exact List.not_mem_nil (dot_of_dottedQuad quad)
      · obtain ⟨octets, four, all, rfl⟩ := quad
        have most := length_intercalate_le fun octet listed => (all octet listed).2.1
        rw [four] at most
        omega
  rw [if_neg size]
  rw [not_or, Nat.not_lt] at size
  by_cases numeric : (host.all fun character => character.isDigit || character = '.') = true
  · rw [if_pos numeric]
    obtain ⟨valid, answer, exact'⟩ := isValidIpv4Address_spec host
    refine ⟨valid, answer, exact'.trans (or_iff_right fun name => ?_).symm⟩
    obtain ⟨character, inside, undigit, other⟩ := name.named
    have either := List.all_eq_true.mp numeric character inside
    simp [undigit, other] at either
  · rw [if_neg numeric]
    have unquad : ¬IsDottedQuad host := by
      intro quad
      apply numeric
      apply List.all_eq_true.mpr
      intro character inside
      simpa using mem_dottedQuad quad inside
    have named : ∃ character ∈ host, character.isDigit = false ∧ character ≠ '.' := by
      rw [List.all_eq_true] at numeric
      push Not at numeric
      obtain ⟨character, inside, neither⟩ := numeric
      exact ⟨character, inside, by simpa using neither⟩
    obtain ⟨result, scanned, reached⟩ :=
      scan_spec visitLabel_visits (fun _ _ held => dot_not_mem_label held) host ()
    refine ⟨result.isSome, by rw [scanned]; rfl, ?_⟩
    rw [or_iff_left unquad, Option.isSome_iff_exists]
    constructor
    · rintro ⟨final, same⟩
      obtain ⟨labels, present, checked, joined, -⟩ := (reached final).mp same
      exact ⟨size.2, named, labels, present, checksAll_iff.mp checked, joined⟩
    · intro name
      obtain ⟨labels, present, all, joined⟩ := name.labels
      exact ⟨(), (reached ()).mpr ⟨labels, present, checksAll_iff.mpr all, joined, rfl⟩⟩

end Hosts

section Characters

variable {text : List Char} {character : Char}

/-- The characters of hosts and ports. -/
def isEndpointCharacter (character : Char) : Bool :=
  isAsciiAlphaNumeric character || character = '-' || character = '.'

theorem alphaNumeric_of_digit (digit : character.isDigit = true) : isAsciiAlphaNumeric character = true := by
  obtain ⟨number, small, rfl⟩ := exists_digitChar digit
  revert number
  decide

theorem alphaNumeric_of_hex (hex : isHexDigit character = true) : isAsciiAlphaNumeric character = true := by
  unfold isHexDigit at hex
  unfold isAsciiAlphaNumeric
  simp only [Bool.or_eq_true, Bool.and_eq_true, decide_eq_true_eq] at hex ⊢
  rcases hex with (digit | upper) | lower
  · exact .inr digit
  · exact .inl (.inl ⟨upper.1, Char.le_trans upper.2 (show 'F' ≤ 'Z' by decide)⟩)
  · exact .inl (.inr ⟨lower.1, Char.le_trans lower.2 (show 'f' ≤ 'z' by decide)⟩)

/-- The characters of an endpoint are not forbidden. -/
theorem not_forbidden (allowed : isEndpointCharacter character = true ∨ character = ':' ∨ character = '[' ∨
    character = ']') : isForbidden character = false := by
  have range : isAsciiAlphaNumeric character = true → (65 ≤ character.toNat ∧ character.toNat ≤ 90) ∨
      (97 ≤ character.toNat ∧ character.toNat ≤ 122) ∨ (48 ≤ character.toNat ∧ character.toNat ≤ 57) := by
    unfold isAsciiAlphaNumeric
    simp only [Bool.or_eq_true, Bool.and_eq_true, decide_eq_true_eq, or_assoc]
    exact id
  unfold isEndpointCharacter at allowed
  simp only [Bool.or_eq_true, decide_eq_true_eq] at allowed
  rcases allowed with ((alpha | rfl) | rfl) | rfl | rfl | rfl
  · have bounds := range alpha
    have other : ∀ mark : Char, (mark.toNat ≤ 47 ∨ mark.toNat = 63 ∨ mark.toNat = 64 ∨ mark.toNat = 92) →
        character ≠ mark := by
      rintro mark place rfl
      omega
    unfold isForbidden
    simp only [Bool.or_eq_false_iff, decide_eq_false_iff_not]
    refine ⟨⟨⟨⟨⟨⟨⟨?_, ?_⟩, ?_⟩, ?_⟩, ?_⟩, ?_⟩, ?_⟩, ?_⟩
    · omega
    · omega
    all_goals exact other _ (by decide)
  all_goals decide

theorem mem_dnsName (name : IsDnsName text) (inside : character ∈ text) : isEndpointCharacter character = true := by
  obtain ⟨labels, -, all, rfl⟩ := name.labels
  unfold isEndpointCharacter
  rcases mem_intercalate inside with rfl | ⟨label, listed, present⟩
  · rfl
  · rcases (all label listed).characters character present with alpha | rfl
    · simp [alpha]
    · rfl

theorem mem_quad (quad : IsDottedQuad text) (inside : character ∈ text) : isEndpointCharacter character = true := by
  unfold isEndpointCharacter
  rcases mem_dottedQuad quad inside with digit | rfl
  · simp [alphaNumeric_of_digit digit]
  · rfl

theorem mem_nameOrQuad (host : IsDnsName text ∨ IsDottedQuad text) (inside : character ∈ text) :
    isEndpointCharacter character = true :=
  host.elim (fun name => mem_dnsName name inside) fun quad => mem_quad quad inside

theorem mem_port (port : IsPort text) (inside : character ∈ text) : isEndpointCharacter character = true := by
  unfold isEndpointCharacter
  simp [alphaNumeric_of_digit (port.1.2 character inside)]

theorem mem_groups {count : Nat} (groups : IsGroups text count) (inside : character ∈ text) :
    isEndpointCharacter character = true ∨ character = ':' := by
  obtain ⟨parts, -, all, rfl⟩ := groups
  rcases mem_intercalate inside with rfl | ⟨part, listed, present⟩
  · exact .inr rfl
  · left
    unfold isEndpointCharacter
    simp [alphaNumeric_of_hex ((all part listed).2.2 character present)]

theorem mem_groupsWithTail {count : Nat} (groups : IsGroupsWithTail text count) (inside : character ∈ text) :
    isEndpointCharacter character = true ∨ character = ':' := by
  rcases groups with plain | ⟨parts, tail, -, all, quad, rfl⟩
  · exact mem_groups plain inside
  · rcases mem_intercalate inside with rfl | ⟨part, listed, present⟩
    · exact .inr rfl
    · rcases List.mem_append.mp listed with group | last
      · left
        unfold isEndpointCharacter
        simp [alphaNumeric_of_hex ((all part group).2.2 character present)]
      · rw [List.mem_singleton.mp last] at present
        exact .inl (mem_quad quad present)

theorem mem_ipv6 (address : IsIpv6Address text) (inside : character ∈ text) :
    isEndpointCharacter character = true ∨ character = ':' := by
  rcases address with whole | ⟨left, right, before, after, one, two, -, rfl⟩
  · exact mem_groupsWithTail whole inside
  · rcases List.mem_append.mp inside with first | rest
    · exact mem_groups one first
    · rcases List.mem_cons.mp rest with rfl | rest
      · exact .inr rfl
      · rcases List.mem_cons.mp rest with rfl | last
        · exact .inr rfl
        · exact mem_groupsWithTail two last

theorem mem_host (host : IsHost text) (inside : character ∈ text) :
    isEndpointCharacter character = true ∨ character = ':' ∨ character = '[' ∨ character = ']' := by
  rcases host with name | quad | ⟨address, valid, rfl⟩
  · exact .inl (mem_dnsName name inside)
  · exact .inl (mem_quad quad inside)
  · rcases List.mem_cons.mp inside with rfl | rest
    · exact .inr (.inr (.inl rfl))
    · rcases List.mem_append.mp rest with middle | last
      · rcases mem_ipv6 valid middle with plain | colon
        · exact .inl plain
        · exact .inr (.inl colon)
      · exact .inr (.inr (.inr (List.mem_singleton.mp last)))

theorem mem_authority (authority : IsAuthority text) (inside : character ∈ text) :
    isForbidden character = false := by
  obtain ⟨host, valid, rfl | ⟨port, digits, rfl⟩⟩ := authority
  · exact not_forbidden (mem_host valid inside)
  · rcases List.mem_append.mp inside with first | rest
    · exact not_forbidden (mem_host valid first)
    · rcases List.mem_cons.mp rest with rfl | last
      · exact not_forbidden (.inr (.inl rfl))
      · exact not_forbidden (.inl (mem_port digits last))

theorem host_ne_nil (host : IsDnsName text ∨ IsDottedQuad text) : text ≠ [] := by
  rcases host with name | quad
  · obtain ⟨_, inside, -⟩ := name.named
    exact List.ne_nil_of_mem inside
  · exact List.ne_nil_of_mem (dot_of_dottedQuad quad)

end Characters

section Authorities

variable {authority : List Char}

/-- The check accepts the text when it holds, and refuses it otherwise. -/
def Decides (verdict : Checked (Except String Unit)) (holds : Prop) : Prop :=
  (holds ∧ verdict = .ok (.ok ())) ∨ (¬holds ∧ ∃ message, verdict = .ok (.error message))

theorem decides_invalid {holds : Prop} (fails : ¬holds) : Decides invalidS3Endpoint holds := .inr ⟨fails, _, rfl⟩

theorem Decides.congr {verdict : Checked (Except String Unit)} {holds other : Prop}
    (decides : Decides verdict holds) (same : holds ↔ other) : Decides verdict other := by
  rw [← same]
  exact decides

theorem validateSuffix_decides (suffix : List Char) : Decides (validateSuffix suffix)
    (suffix = [] ∨ ∃ port, IsPort port ∧ suffix = ':' :: port) := by
  unfold validateSuffix
  cases suffix with
  | nil => exact .inl ⟨.inl rfl, rfl⟩
  | cons front port =>
      have last : substrFrom (front :: port) 1 = .ok port := substrFrom_between [front] port
      have first : readAt (front :: port) 0 = .ok front := rfl
      rw [if_neg (List.cons_ne_nil _ _), first, last]
      simp only
      by_cases wrong : front ≠ ':' ∨ (!isValidPort port) = true
      · rw [if_pos wrong]
        apply decides_invalid
        rintro (none | ⟨digits, valid, same⟩)
        · cases none
        · obtain ⟨rfl, rfl⟩ := List.cons.inj same
          rw [isValidPort_iff.mpr valid] at wrong
          simp at wrong
      · rw [if_neg wrong]
        simp only [ne_eq, Bool.not_eq_true', not_or, not_not, Bool.not_eq_false] at wrong
        obtain ⟨rfl, valid⟩ := wrong
        exact .inl ⟨.inr ⟨port, isValidPort_iff.mp valid, rfl⟩, rfl⟩

/-- An authority that begins with a bracket has an address in brackets. -/
theorem bracketed_authority {rest : List Char} (holds : IsAuthority ('[' :: rest)) :
    ∃ address suffix, IsIpv6Address address ∧ (suffix = [] ∨ ∃ port, IsPort port ∧ suffix = ':' :: port) ∧
      rest = address ++ ']' :: suffix := by
  have plain : ∀ host tail, IsDnsName host ∨ IsDottedQuad host → '[' :: rest = host ++ tail → False := by
    intro host tail valid same
    cases host with
    | nil => exact host_ne_nil valid rfl
    | cons front others =>
        obtain ⟨rfl, -⟩ := List.cons.inj same
        exact absurd (mem_nameOrQuad valid List.mem_cons_self) (by decide)
  obtain ⟨host, valid, shape⟩ := holds
  have tail : ∃ suffix, (suffix = [] ∨ ∃ port, IsPort port ∧ suffix = ':' :: port) ∧
      '[' :: rest = host ++ suffix := by
    rcases shape with same | ⟨port, digits, same⟩
    · exact ⟨[], .inl rfl, by rw [same, List.append_nil]⟩
    · exact ⟨':' :: port, .inr ⟨port, digits, rfl⟩, same⟩
  obtain ⟨suffix, ends, same⟩ := tail
  rcases valid with name | quad | ⟨address, held, rfl⟩
  · exact (plain host suffix (.inl name) same).elim
  · exact (plain host suffix (.inr quad) same).elim
  · refine ⟨address, suffix, held, ends, ?_⟩
    have rests : rest = (address ++ [']']) ++ suffix := (List.cons.inj same).2
    rw [rests, List.append_assoc]
    rfl

theorem bracket_not_mem_ipv6 {address : List Char} (held : IsIpv6Address address) : ']' ∉ address := fun inside =>
  (mem_ipv6 held inside).elim (by decide) (by decide)

theorem bracket_not_mem_suffix {suffix : List Char}
    (ends : suffix = [] ∨ ∃ port, IsPort port ∧ suffix = ':' :: port) : ']' ∉ suffix := by
  rcases ends with rfl | ⟨port, digits, rfl⟩
  · exact List.not_mem_nil
  · intro inside
    rcases List.mem_cons.mp inside with colon | last
    · exact absurd colon (by decide)
    · exact absurd (mem_port digits last) (by decide)

theorem not_ipv6_nil : ¬IsIpv6Address [] := by
  rintro (whole | ⟨left, right, before, after, -, -, -, same⟩)
  · have none := isSide_nil.mp (show IsSide true [] 8 from whole)
    omega
  · exact absurd same (by simp)

theorem validateBracketed_decides (rest : List Char) :
    Decides (validateBracketed ('[' :: rest)) (IsAuthority ('[' :: rest)) := by
  unfold validateBracketed
  by_cases closed : ']' ∈ rest
  · obtain ⟨address, suffix, rfl, clear⟩ := List.eq_append_cons_of_mem closed
    have bracket : ']' ∉ '[' :: address := by simp [clear]
    have place : findFrom ('[' :: (address ++ ']' :: suffix)) ']' 0 = some (address.length + 1) := by
      have found := @findFrom_between ']' [] ('[' :: address) suffix bracket
      rw [List.nil_append, List.length_nil, Nat.zero_add] at found
      exact found
    have authority : IsAuthority ('[' :: (address ++ ']' :: suffix)) ↔
        IsIpv6Address address ∧ (suffix = [] ∨ ∃ port, IsPort port ∧ suffix = ':' :: port) := by
      constructor
      · intro holds
        obtain ⟨other, tail, held, ends, same⟩ := bracketed_authority holds
        obtain ⟨rfl, rfl⟩ := append_separator_left clear (bracket_not_mem_ipv6 held) same
        exact ⟨held, ends⟩
      · rintro ⟨held, ends⟩
        refine ⟨'[' :: (address ++ [']']), .inr (.inr ⟨address, held, rfl⟩), ?_⟩
        rcases ends with rfl | ⟨port, digits, rfl⟩
        · exact .inl rfl
        · exact .inr ⟨port, digits, by simp⟩
    rw [place]
    simp only
    by_cases wrong : address.length + 1 = 1 ∨
        (findFrom ('[' :: (address ++ ']' :: suffix)) ']' (address.length + 1 + 1)).isSome = true
    · rw [if_pos wrong]
      apply decides_invalid
      rw [authority]
      rintro ⟨held, ends⟩
      rcases wrong with none | more
      · have empty : address = [] := List.length_eq_zero_iff.mp (by omega)
        exact not_ipv6_nil (empty ▸ held)
      · have single := @findFrom_none ']' ('[' :: (address ++ [']'])) suffix (bracket_not_mem_suffix ends)
        simp only [List.cons_append, List.append_assoc, List.length_cons, List.length_append,
          List.length_nil, Nat.zero_add, List.nil_append] at single
        rw [single] at more
        cases more
    · rw [if_neg wrong]
      have inner : substr ('[' :: (address ++ ']' :: suffix)) 1 (address.length + 1 - 1) = .ok address :=
        substr_between ['['] address (']' :: suffix)
      have last : substrFrom ('[' :: (address ++ ']' :: suffix)) (address.length + 1 + 1) = .ok suffix := by
        have tail := substrFrom_between ('[' :: (address ++ [']'])) suffix
        simp only [List.cons_append, List.append_assoc, List.length_cons, List.length_append,
          List.length_nil, Nat.zero_add, List.nil_append] at tail
        exact tail
      obtain ⟨valid, answer, exact'⟩ := isValidIpv6Address_spec address
      simp only [inner, last, answer]
      cases valid with
      | true =>
          apply (validateSuffix_decides suffix).congr
          rw [authority, and_iff_right (exact'.mp rfl)]
      | false =>
          apply decides_invalid
          rw [authority]
          exact fun both => Bool.false_ne_true (exact'.mpr both.1)
  · have none : findFrom ('[' :: rest) ']' 0 = none :=
      @findFrom_none ']' [] ('[' :: rest) (by simp [closed])
    rw [none]
    apply decides_invalid
    intro holds
    obtain ⟨address, suffix, -, -, rfl⟩ := bracketed_authority holds
    exact closed (List.mem_append_right _ List.mem_cons_self)

theorem validateHost_decides (host : List Char) : Decides (validateHost host) (IsDnsName host ∨ IsDottedQuad host) := by
  obtain ⟨valid, answer, exact'⟩ := isValidDnsOrIpv4Host_spec host
  unfold validateHost
  rw [answer]
  cases valid with
  | true => exact .inl ⟨exact'.mp rfl, rfl⟩
  | false => exact decides_invalid fun holds => Bool.false_ne_true (exact'.mpr holds)

/-- An authority without a bracket at its beginning is a name or four octets, and a port that may follow. -/
theorem plain_authority (front : authority.head? ≠ some '[') (holds : IsAuthority authority) :
    ∃ host, (IsDnsName host ∨ IsDottedQuad host) ∧
      (authority = host ∨ ∃ port, IsPort port ∧ authority = host ++ ':' :: port) := by
  obtain ⟨host, valid, shape⟩ := holds
  rcases valid with name | quad | ⟨address, -, rfl⟩
  · exact ⟨host, .inl name, shape⟩
  · exact ⟨host, .inr quad, shape⟩
  · rcases shape with rfl | ⟨port, -, rfl⟩
    · exact absurd rfl front
    · exact absurd rfl front

theorem colon_not_mem_host {host : List Char} (valid : IsDnsName host ∨ IsDottedQuad host) : ':' ∉ host :=
  fun inside => absurd (mem_nameOrQuad valid inside) (by decide)

theorem colon_not_mem_port {port : List Char} (digits : IsPort port) : ':' ∉ port := fun inside =>
  absurd (mem_port digits inside) (by decide)

theorem isHost_of {host : List Char} (valid : IsDnsName host ∨ IsDottedQuad host) : IsHost host :=
  valid.elim .inl fun quad => .inr (.inl quad)

theorem validateHostAndPort_decides (front : authority.head? ≠ some '[') :
    Decides (validateHostAndPort authority) (IsAuthority authority) := by
  unfold validateHostAndPort
  by_cases brackets : (authority.any fun character => character = '[' || character = ']') = true
  · rw [if_pos brackets]
    apply decides_invalid
    intro holds
    obtain ⟨character, inside, bracket⟩ := List.any_eq_true.mp brackets
    have shape : character = '[' ∨ character = ']' := by simpa using bracket
    have clean : isEndpointCharacter character = true ∨ character = ':' := by
      obtain ⟨host, valid, rfl | ⟨port, digits, rfl⟩⟩ := plain_authority front holds
      · exact .inl (mem_nameOrQuad valid inside)
      · rcases List.mem_append.mp inside with first | rest
        · exact .inl (mem_nameOrQuad valid first)
        · rcases List.mem_cons.mp rest with colon | last
          · exact .inr colon
          · exact .inl (mem_port digits last)
    rcases shape with rfl | rfl
    · exact clean.elim (by decide) (by decide)
    · exact clean.elim (by decide) (by decide)
  rw [if_neg brackets]
  by_cases colon : ':' ∈ authority
  · obtain ⟨host, port, rfl, clear⟩ := exists_last colon
    have first : substr (host ++ ':' :: port) 0 host.length = .ok host := substr_between [] host (':' :: port)
    have last : substrFrom (host ++ ':' :: port) (host.length + 1) = .ok port := by
      have tail := substrFrom_between (host ++ [':']) port
      rw [List.append_assoc, List.length_append] at tail
      exact tail
    have authority : IsAuthority (host ++ ':' :: port) ↔
        (IsDnsName host ∨ IsDottedQuad host) ∧ IsPort port := by
      constructor
      · intro holds
        obtain ⟨other, valid, same | ⟨digits, decimals, same⟩⟩ := plain_authority front holds
        · exact absurd (same ▸ List.mem_append_right _ List.mem_cons_self) (colon_not_mem_host valid)
        · obtain ⟨rfl, rfl⟩ := append_separator_right clear (colon_not_mem_port decimals) same
          exact ⟨valid, decimals⟩
      · rintro ⟨valid, digits⟩
        exact ⟨host, isHost_of valid, .inr ⟨port, digits, rfl⟩⟩
    rw [rfind_between clear]
    simp only [first, last]
    by_cases wrong : findFrom (host ++ ':' :: port) ':' 0 ≠ some host.length ∨ (!isValidPort port) = true
    · rw [if_pos wrong]
      apply decides_invalid
      rw [authority]
      rintro ⟨valid, digits⟩
      have found := @findFrom_between ':' [] host port (colon_not_mem_host valid)
      rw [List.nil_append, List.length_nil, Nat.zero_add] at found
      rw [isValidPort_iff.mpr digits, found] at wrong
      simp at wrong
    · rw [if_neg wrong]
      simp only [ne_eq, Bool.not_eq_true', not_or, not_not, Bool.not_eq_false] at wrong
      apply (validateHost_decides host).congr
      rw [authority, and_iff_left (isValidPort_iff.mp wrong.2)]
  · rw [rfind_none colon]
    apply (validateHost_decides authority).congr
    constructor
    · intro valid
      exact ⟨authority, isHost_of valid, .inl rfl⟩
    · intro holds
      obtain ⟨host, valid, rfl | ⟨port, -, rfl⟩⟩ := plain_authority front holds
      · exact valid
      · exact absurd (List.mem_append_right _ List.mem_cons_self) colon

theorem isAuthority_ne_nil (holds : IsAuthority authority) : authority ≠ [] := by
  rintro rfl
  obtain ⟨host, valid, none | ⟨port, -, none⟩⟩ := plain_authority (by simp) holds
  · exact host_ne_nil valid none.symm
  · simp at none

/-- The validation decides the grammar of an authority. -/
theorem validateAuthority_decides (authority : List Char) :
    Decides (validateAuthority authority) (IsAuthority authority) := by
  unfold validateAuthority
  by_cases none : authority = []
  · rw [if_pos none]
    exact decides_invalid fun holds => isAuthority_ne_nil holds none
  rw [if_neg none]
  by_cases forbidden : authority.any isForbidden = true
  · rw [if_pos forbidden]
    apply decides_invalid
    intro holds
    obtain ⟨character, inside, wrong⟩ := List.any_eq_true.mp forbidden
    rw [mem_authority holds inside] at wrong
    cases wrong
  rw [if_neg forbidden, readAt_front authority none]
  simp only
  split
  · rename_i bracket
    obtain ⟨front, rest, rfl⟩ := List.exists_cons_of_ne_nil none
    obtain rfl : front = '[' := bracket
    exact validateBracketed_decides rest
  · rename_i other
    apply validateHostAndPort_decides
    rw [List.head?_eq_some_head none]
    exact fun same => other (Option.some.inj same)

/-- Every endpoint gets a verdict, and besides the empty one those of the grammar are accepted. -/
theorem s3_endpoint_grammar (endpoint : List Char) (useSsl : Bool) :
    (∃ verdict, validateS3Endpoint endpoint useSsl = .ok verdict) ∧
      (validateS3Endpoint endpoint useSsl = .ok (.ok ()) ↔ endpoint = [] ∨ IsEndpoint endpoint useSsl) := by
  have decides : Decides (validateS3Endpoint endpoint useSsl) (endpoint = [] ∨ IsEndpoint endpoint useSsl) := by
    unfold validateS3Endpoint
    by_cases none : endpoint = []
    · rw [if_pos none]
      exact .inl ⟨.inl none, rfl⟩
    rw [if_neg none]
    by_cases scheme : (expectedScheme useSsl).isPrefixOf endpoint = true
    · obtain ⟨authority, rfl⟩ := List.isPrefixOf_iff_prefix.mp scheme
      rw [scheme]
      simp only [Bool.not_true, Bool.false_eq_true, if_false, substrFrom_between]
      apply (validateAuthority_decides authority).congr
      rw [or_iff_right none]
      constructor
      · intro holds
        exact ⟨authority, holds, rfl⟩
      · rintro ⟨other, holds, same⟩
        exact List.append_cancel_left same ▸ holds
    · have other : (!(expectedScheme useSsl).isPrefixOf endpoint) = true := by
        rw [Bool.not_eq_true] at scheme
        rw [scheme]
        rfl
      rw [if_pos other]
      refine .inr ⟨?_, _, rfl⟩
      rintro (empty | ⟨authority, -, rfl⟩)
      · exact none empty
      · exact scheme (List.isPrefixOf_iff_prefix.mpr (List.prefix_append _ _))
  rcases decides with ⟨holds, same⟩ | ⟨fails, message, same⟩
  · exact ⟨⟨_, same⟩, iff_of_true same holds⟩
  · refine ⟨⟨_, same⟩, iff_of_false ?_ fails⟩
    rw [same]
    exact fun wrong => by cases wrong

end Authorities

end DiskServer.Utils
