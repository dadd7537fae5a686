import DiskServer.Construction.Utils.RuntimeConfig
import Mathlib.Data.Nat.Bitwise
import Mathlib.Data.Set.Basic
import Mathlib.Tactic.Ring

namespace DiskServer.Utils

open Library

section Networks

/-- A network is an address with no bits below its prefix, of which the zero address is none. -/
structure Ipv4Network where
  octets : List Nat
  prefixLength : Nat
  four : octets.length = 4
  bytes : ∀ octet ∈ octets, octet ≤ 255
  least : 1 ≤ prefixLength
  most : prefixLength ≤ 32
  nonzero : octets.foldl (fun address octet => address * 256 + octet) 0 ≠ 0
  aligned : 2 ^ (32 - prefixLength) ∣ octets.foldl (fun address octet => address * 256 + octet) 0

namespace Ipv4Network

/-- The octets as one number. -/
def address (network : Ipv4Network) : Nat :=
  network.octets.foldl (fun address octet => address * 256 + octet) 0

/-- The addresses of the network agree with it above the prefix. -/
def addresses (network : Ipv4Network) : Set Nat :=
  { address | address / 2 ^ (32 - network.prefixLength) = network.address / 2 ^ (32 - network.prefixLength) }

def addressText (network : Ipv4Network) : List Char := ['.'].intercalate (network.octets.map decimal)

/-- The text with a prefix length after some zeros. -/
def text (network : Ipv4Network) (zeros : Nat) : List Char :=
  network.addressText ++ '/' :: (List.replicate zeros '0' ++ decimal network.prefixLength)

end Ipv4Network

/-- The canonical texts of networks; a single address goes without its prefix length as well. -/
def IsCanonicalCidr (text : List Char) : Prop :=
  ∃ network : Ipv4Network,
    (network.prefixLength = 32 ∧ text = network.addressText) ∨ text = network.text 0

/-- The text of a network with zeros before the prefix length. -/
def ZeroPadded (text : List Char) : Prop := ∃ network : Ipv4Network, ∃ zeros, 0 < zeros ∧ text = network.text zeros

/-- What two texts are promised: an answer, the canonical grammar, and different networks when they differ. -/
structure CidrExact (first second : List Char) : Prop where
  inside : ∀ text ∈ [first, second], ∃ accepted, isCanonicalTrustedProxyCidr text = .ok accepted
  exact : ∀ text ∈ [first, second], isCanonicalTrustedProxyCidr text = .ok true ↔ IsCanonicalCidr text
  distinct : ∀ one two : Ipv4Network, ∀ zeros more, first = one.text zeros → second = two.text more →
    isCanonicalTrustedProxyCidr first = .ok true → isCanonicalTrustedProxyCidr second = .ok true →
      first ≠ second → one.addresses ≠ two.addresses

end Networks

section Octets

theorem parseOctet_iff {text : List Char} {octet : Nat} :
    parseOctet text = some octet ↔ text = decimal octet ∧ octet ≤ 255 := by
  unfold parseOctet
  rw [eq_decimal_iff]
  constructor
  · intro parsed
    split at parsed
    · cases parsed
    · rename_i plain
      split at parsed
      · rename_i value read
        split at parsed
        · cases parsed
        · rename_i small
          obtain rfl := Option.some.inj parsed
          obtain ⟨numeral, same, -⟩ := fromChars_whole_iff.mp read
          exact ⟨⟨numeral, fun long => plain (.inr long), same⟩, Nat.not_lt.mp small⟩
      · cases parsed
  · rintro ⟨⟨numeral, plain, same⟩, small⟩
    have read : fromChars text = some (octet, []) :=
      fromChars_whole_iff.mpr ⟨numeral, same, by omega⟩
    rw [if_neg (not_or.mpr ⟨numeral.1, plain⟩), read]
    exact if_neg (Nat.not_lt.mpr small)

theorem shift_octet {address : UInt32} {octet : Nat} (small : address.toNat < 2 ^ 24) (byte : octet ≤ 255) :
    (address <<< 8 ||| UInt32.ofNat octet).toNat = address.toNat * 256 + octet := by
  have shifted : address.toNat <<< 8 + octet < 2 ^ 32 := by
    rw [Nat.shiftLeft_eq]
    omega
  rw [UInt32.toNat_or, UInt32.toNat_shiftLeft, UInt32.toNat_ofNat_of_lt' (by change octet < 2 ^ 32; omega)]
  change (address.toNat <<< 8 % 2 ^ 32) ||| octet = _
  rw [Nat.mod_eq_of_lt (Nat.lt_of_le_of_lt (Nat.le_add_right _ octet) shifted),
    ← Nat.shiftLeft_add_eq_or_of_lt (by omega), Nat.shiftLeft_eq]

theorem dot_not_mem_decimal (number : Nat) : '.' ∉ decimal number := not_mem_decimal_text (by decide) number

theorem dotted_cons (octet : Nat) {octets : List Nat} (more : octets ≠ []) :
    ['.'].intercalate ((octet :: octets).map decimal) =
      decimal octet ++ '.' :: ['.'].intercalate (octets.map decimal) := by
  rw [List.map_cons, List.intercalate_cons_of_ne_nil (by simpa using more), List.append_assoc]
  rfl

theorem dotted_singleton (octet : Nat) : ['.'].intercalate ([octet].map decimal) = decimal octet := by simp

theorem shiftLeft_eight (address : UInt32) : shiftLeft address 8 = .ok (address <<< 8) := if_pos (by decide)

/-- The octets are read up to the end of the text, and no access leaves it. -/
theorem parseOctets_spec (remaining done : Nat) (all : done + remaining = 3) (before rest : List Char)
    (address : UInt32) (small : address.toNat < 256 ^ done) :
    ∃ parsed, parseOctets (before ++ rest) (remaining + 1) address before.length = .ok parsed ∧
      ∀ value : UInt32, parsed = some value ↔ ∃ octets : List Nat, octets.length = remaining + 1 ∧
        (∀ octet ∈ octets, octet ≤ 255) ∧ rest = ['.'].intercalate (octets.map decimal) ∧
          value.toNat = octets.foldl (fun address octet => address * 256 + octet) address.toNat := by
  have narrow : address.toNat < 2 ^ 24 :=
    small.trans_le (Nat.pow_le_pow_right (by decide) (by omega) : 256 ^ done ≤ 256 ^ 3)
  induction remaining generalizing done before rest address with
  | zero =>
      unfold parseOctets
      by_cases dot : '.' ∈ rest
      · obtain ⟨part, tail, rfl, clear⟩ := List.eq_append_cons_of_mem dot
        refine ⟨none, ?_, fun value => iff_of_false (Option.some_ne_none value).symm ?_⟩
        · rw [findFrom_between clear]
          exact if_pos (.inr ⟨rfl, Option.some_ne_none _⟩)
        · rintro ⟨octets, single, -, whole, -⟩
          obtain ⟨octet, rfl⟩ := List.length_eq_one_iff.mp single
          rw [dotted_singleton] at whole
          exact dot_not_mem_decimal octet (whole ▸ dot)
      · have segment := substr_between before rest []
        rw [List.append_nil] at segment
        rw [findFrom_none dot]
        simp only [Option.getD_none, List.length_append, Nat.add_sub_cancel_left, segment]
        rw [if_neg (by simp)]
        cases parsed : parseOctet rest with
        | none =>
            refine ⟨none, rfl, fun value => iff_of_false (Option.some_ne_none value).symm ?_⟩
            rintro ⟨octets, single, bytes, whole, -⟩
            obtain ⟨octet, rfl⟩ := List.length_eq_one_iff.mp single
            rw [dotted_singleton] at whole
            rw [parseOctet_iff.mpr ⟨whole, bytes octet (List.mem_singleton_self octet)⟩] at parsed
            cases parsed
        | some octet =>
            obtain ⟨whole, byte⟩ := parseOctet_iff.mp parsed
            refine ⟨some (address <<< 8 ||| UInt32.ofNat octet), ?_, ?_⟩
            · simp only [shiftLeft_eight]
              rfl
            · intro value
              rw [Option.some_inj, ← UInt32.toNat_inj, shift_octet narrow byte]
              constructor
              · intro same
                refine ⟨[octet], rfl, ?_, ?_, same.symm⟩
                · simpa using byte
                · rw [dotted_singleton, whole]
              · rintro ⟨octets, single, -, other, same⟩
                obtain ⟨number, rfl⟩ := List.length_eq_one_iff.mp single
                rw [dotted_singleton, whole] at other
                have numbers := congrArg (Nat.ofDigitChars 10 · 0) other
                simp only [value_decimal] at numbers
                rw [same, numbers]
                rfl
  | succ remaining ih =>
      unfold parseOctets
      by_cases dot : '.' ∈ rest
      · obtain ⟨part, tail, rfl, clear⟩ := List.eq_append_cons_of_mem dot
        have segment := substr_between before part ('.' :: tail)
        rw [findFrom_between clear]
        simp only [Option.getD_some, Nat.add_sub_cancel_left, segment]
        rw [if_neg (by simp)]
        have splits : ∀ octets : List Nat, octets.length = remaining + 1 + 1 →
            part ++ '.' :: tail = ['.'].intercalate (octets.map decimal) →
              ∃ octet others, octets = octet :: others ∧ others.length = remaining + 1 ∧
                part = decimal octet ∧ tail = ['.'].intercalate (others.map decimal) := by
          intro octets count whole
          obtain ⟨octet, others, rfl⟩ := List.exists_cons_of_length_eq_add_one count
          have left : others.length = remaining + 1 := Nat.succ_inj.mp count
          have more : others ≠ [] := List.ne_nil_of_length_eq_add_one left
          rw [dotted_cons octet more] at whole
          obtain ⟨first, second⟩ := append_separator_left clear (dot_not_mem_decimal octet) whole
          exact ⟨octet, others, rfl, left, first, second⟩
        cases parsed : parseOctet part with
        | none =>
            refine ⟨none, rfl, fun value => iff_of_false (Option.some_ne_none value).symm ?_⟩
            rintro ⟨octets, count, bytes, whole, -⟩
            obtain ⟨octet, others, rfl, -, first, -⟩ := splits octets count whole
            rw [parseOctet_iff.mpr ⟨first, bytes octet List.mem_cons_self⟩] at parsed
            cases parsed
        | some octet =>
            obtain ⟨whole, byte⟩ := parseOctet_iff.mp parsed
            have grown := shift_octet narrow byte
            have bound : (address <<< 8 ||| UInt32.ofNat octet).toNat < 256 ^ (done + 1) := by
              rw [grown, Nat.pow_succ]
              omega
            have short : (address <<< 8 ||| UInt32.ofNat octet).toNat < 2 ^ 24 :=
              bound.trans_le (Nat.pow_le_pow_right (by decide) (by omega) : 256 ^ (done + 1) ≤ 256 ^ 3)
            obtain ⟨result, reads, exact'⟩ :=
              ih (done + 1) (by omega) (before ++ (part ++ ['.'])) tail _ bound short
            refine ⟨result, ?_, ?_⟩
            · simp only [shiftLeft_eight]
              simp only [List.append_assoc, List.singleton_append, List.length_append,
                List.length_singleton, ← Nat.add_assoc] at reads
              exact reads
            · intro value
              rw [exact', grown]
              constructor
              · rintro ⟨others, count, bytes, rest, same⟩
                refine ⟨octet :: others, by rw [List.length_cons, count], ?_, ?_, same⟩
                · exact List.forall_mem_cons.mpr ⟨byte, bytes⟩
                · rw [dotted_cons octet (List.ne_nil_of_length_eq_add_one count), whole, rest]
              · rintro ⟨octets, count, bytes, joined, same⟩
                obtain ⟨number, others, rfl, left, first, second⟩ := splits octets count joined
                rw [whole] at first
                have numbers := congrArg (Nat.ofDigitChars 10 · 0) first
                simp only [value_decimal] at numbers
                subst numbers
                exact ⟨others, left, fun other inside => bytes other (List.mem_cons_of_mem _ inside),
                  second, same⟩
      · refine ⟨none, ?_, fun value => iff_of_false (Option.some_ne_none value).symm ?_⟩
        · rw [findFrom_none dot]
          exact if_pos (.inl ⟨Nat.succ_pos remaining, rfl⟩)
        · rintro ⟨octets, count, -, whole, -⟩
          obtain ⟨octet, others, rfl⟩ := List.exists_cons_of_length_eq_add_one count
          have more : others ≠ [] := List.ne_nil_of_length_eq_add_one (Nat.succ_inj.mp count)
          rw [dotted_cons octet more] at whole
          exact dot (whole ▸ List.mem_append_right _ List.mem_cons_self)

/-- An address is read when its text is four octets, and no access leaves the text. -/
theorem parseIpv4Address_spec (text : List Char) : ∃ parsed, parseIpv4Address text = .ok parsed ∧
    ∀ value : UInt32, parsed = some value ↔ ∃ octets : List Nat, octets.length = 4 ∧
      (∀ octet ∈ octets, octet ≤ 255) ∧ text = ['.'].intercalate (octets.map decimal) ∧
        value.toNat = octets.foldl (fun address octet => address * 256 + octet) 0 :=
  parseOctets_spec 3 0 rfl [] text 0 (by decide)

end Octets

section Prefixes

variable {prefixLength : Nat} {text : List Char}

/-- The shift stays below the width of the number, and the mask has the bits below the prefix. -/
theorem hostMask_spec (least : 1 ≤ prefixLength) (most : prefixLength ≤ 32) :
    ∃ mask, hostMask (UInt32.ofNat prefixLength) = .ok mask ∧ mask.toNat = 2 ^ (32 - prefixLength) - 1 := by
  have number : (UInt32.ofNat prefixLength).toNat = prefixLength :=
    UInt32.toNat_ofNat_of_lt' (by change prefixLength < 2 ^ 32; omega)
  unfold hostMask
  by_cases whole : prefixLength = 32
  · subst whole
    exact ⟨0, rfl, rfl⟩
  · have other : UInt32.ofNat prefixLength ≠ 32 := by
      intro same
      have numbers := congrArg UInt32.toNat same
      rw [number] at numbers
      exact whole numbers
    have amount : (32 - UInt32.ofNat prefixLength).toNat = 32 - prefixLength := by
      rw [UInt32.toNat_sub_of_le _ _ (UInt32.le_iff_toNat_le.mpr (by rw [number]; exact most)), number]
      rfl
    have inside : 32 - UInt32.ofNat prefixLength < 32 := by
      rw [UInt32.lt_iff_toNat_lt, amount]
      change 32 - prefixLength < 32
      omega
    have power : 2 ^ (32 - prefixLength) ≤ 2 ^ 31 := Nat.pow_le_pow_right (by decide) (by omega)
    have bit : ((1 : UInt32) <<< (32 - UInt32.ofNat prefixLength)).toNat = 2 ^ (32 - prefixLength) := by
      have narrow : 32 - prefixLength < 32 := by omega
      rw [UInt32.toNat_shiftLeft, amount, Nat.mod_eq_of_lt narrow, Nat.shiftLeft_eq]
      change 1 * 2 ^ (32 - prefixLength) % 2 ^ 32 = _
      rw [Nat.one_mul, Nat.mod_eq_of_lt (by omega)]
    refine ⟨1 <<< (32 - UInt32.ofNat prefixLength) - 1, ?_, ?_⟩
    · rw [if_neg other, shiftLeft, if_pos inside]
    · rw [UInt32.toNat_sub_of_le, bit]
      · rfl
      · rw [UInt32.le_iff_toNat_le, bit]
        exact Nat.one_le_two_pow

theorem masked_iff {address mask : UInt32} {bits : Nat} (low : mask.toNat = 2 ^ bits - 1) :
    address &&& mask = 0 ↔ 2 ^ bits ∣ address.toNat := by
  rw [← UInt32.toNat_inj, UInt32.toNat_and, low, Nat.and_two_pow_sub_one_eq_mod]
  exact (Nat.dvd_iff_mod_eq_zero).symm

/-- The prefix length goes to the end of the text, with any number of zeros before it. -/
theorem parsePrefixLength_spec (before : List Char) : ∃ parsed,
    parsePrefixLength (before ++ '/' :: text) (some before.length) = .ok parsed ∧
      ∀ value : UInt32, parsed = some value ↔ ∃ prefixLength, 1 ≤ prefixLength ∧ prefixLength ≤ 32 ∧
        value = UInt32.ofNat prefixLength ∧
          ∃ zeros, text = List.replicate zeros '0' ++ decimal prefixLength := by
  have rest : substrFrom (before ++ '/' :: text) (before.length + 1) = .ok text := by
    have whole := substrFrom_between (before ++ ['/']) text
    rw [List.append_assoc, List.length_append] at whole
    exact whole
  unfold parsePrefixLength
  simp only [rest]
  have reads : ∀ prefixLength, 1 ≤ prefixLength → (∃ zeros, text = List.replicate zeros '0' ++ decimal prefixLength) →
      prefixLength ≤ 32 → fromChars text = some (prefixLength, []) := by
    intro prefixLength least padded most
    obtain ⟨numeral, value⟩ := (numeral_iff_of_pos least).mpr padded
    exact fromChars_whole_iff.mpr ⟨numeral, value, by omega⟩
  split
  · rename_i number read
    obtain ⟨numeral, value, -⟩ := fromChars_whole_iff.mp read
    split
    · rename_i outside
      refine ⟨none, rfl, fun value => iff_of_false (Option.some_ne_none value).symm ?_⟩
      rintro ⟨prefixLength, least, most, -, padded⟩
      rw [reads prefixLength least padded most] at read
      obtain ⟨rfl, -⟩ := Prod.mk.inj (Option.some.inj read)
      omega
    · rename_i inside
      rw [not_or, Nat.not_lt] at inside
      have least : 1 ≤ number := Nat.one_le_iff_ne_zero.mpr inside.1
      refine ⟨_, rfl, fun result => ?_⟩
      rw [Option.some_inj]
      constructor
      · intro same
        exact ⟨number, least, inside.2, same.symm, (numeral_iff_of_pos least).mp ⟨numeral, value⟩⟩
      · rintro ⟨prefixLength, first, most, rfl, padded⟩
        rw [reads prefixLength first padded most] at read
        obtain ⟨rfl, -⟩ := Prod.mk.inj (Option.some.inj read)
        rfl
  · rename_i other
    refine ⟨none, rfl, fun value => iff_of_false (Option.some_ne_none value).symm ?_⟩
    rintro ⟨prefixLength, least, most, -, padded⟩
    exact other prefixLength (reads prefixLength least padded most)

end Prefixes

section Grammar

variable {text : List Char}

theorem slash_not_mem_dotted (octets : List Nat) : '/' ∉ ['.'].intercalate (octets.map decimal) := by
  intro inside
  induction octets with
  | nil => cases inside
  | cons octet octets ih =>
      cases octets with
      | nil =>
          rw [dotted_singleton] at inside
          exact not_mem_decimal_text (by decide) octet inside
      | cons next octets =>
          rw [dotted_cons octet (List.cons_ne_nil _ _)] at inside
          rcases List.mem_append.mp inside with here | there
          · exact not_mem_decimal_text (by decide) octet here
          · exact ih ((List.mem_cons.mp there).resolve_left (by decide))

theorem address_lt (network : Ipv4Network) : network.address < 2 ^ 32 := by
  obtain ⟨octets, prefixLength, four, bytes, -, -, -, -⟩ := network
  obtain ⟨first, second, third, fourth, rfl⟩ := List.length_eq_four.mp four
  simp only [List.forall_mem_cons] at bytes
  simp only [Ipv4Network.address, List.foldl_cons, List.foldl_nil]
  omega

theorem slash_not_mem_address (network : Ipv4Network) : '/' ∉ network.addressText :=
  slash_not_mem_dotted network.octets

/-- The parts of a text that are read as an address and as an allowed prefix length make a network. -/
theorem isNetwork_spec {prefixLength : Option UInt32} {allowed : Nat → Prop}
    (spec : ∀ value : UInt32, prefixLength = some value ↔
      ∃ length, 1 ≤ length ∧ length ≤ 32 ∧ value = UInt32.ofNat length ∧ allowed length) :
    ∃ accepted, isNetwork (parseIpv4Address text) (.ok prefixLength) = .ok accepted ∧
      (accepted = true ↔
        ∃ network : Ipv4Network, allowed network.prefixLength ∧ text = network.addressText) := by
  obtain ⟨parsed, reads, exact'⟩ := parseIpv4Address_spec text
  have reached : ∀ network : Ipv4Network, text = network.addressText →
      parsed = some (UInt32.ofNat network.address) := by
    intro network same
    exact (exact' _).mpr ⟨network.octets, network.four, network.bytes, same,
      UInt32.toNat_ofNat_of_lt' (address_lt network)⟩
  have asked : ∀ network : Ipv4Network, allowed network.prefixLength →
      prefixLength = some (UInt32.ofNat network.prefixLength) := by
    intro network listed
    exact (spec _).mpr ⟨network.prefixLength, network.least, network.most, rfl, listed⟩
  rw [reads]
  unfold isNetwork
  cases parsed with
  | none =>
      refine ⟨false, rfl, iff_of_false Bool.false_ne_true ?_⟩
      rintro ⟨network, -, same⟩
      cases reached network same
  | some address =>
      obtain ⟨octets, four, bytes, joined, same⟩ := (exact' address).mp rfl
      simp only
      by_cases zero : address = 0
      · rw [if_pos zero]
        refine ⟨false, rfl, iff_of_false Bool.false_ne_true ?_⟩
        rintro ⟨network, -, other⟩
        have value := congrArg UInt32.toNat (Option.some.inj (reached network other))
        rw [UInt32.toNat_ofNat_of_lt' (address_lt network), zero] at value
        exact network.nonzero value.symm
      · rw [if_neg zero]
        cases prefixLength with
        | none =>
            refine ⟨false, rfl, iff_of_false Bool.false_ne_true ?_⟩
            rintro ⟨network, listed, -⟩
            cases asked network listed
        | some value =>
            obtain ⟨length, least, most, rfl, listed⟩ := (spec value).mp rfl
            obtain ⟨mask, made, low⟩ := hostMask_spec least most
            simp only [made]
            refine ⟨_, rfl, ?_⟩
            rw [decide_eq_true_iff, masked_iff low]
            constructor
            · intro aligned
              rw [same] at aligned
              have nonzero : octets.foldl (fun address octet => address * 256 + octet) 0 ≠ 0 := by
                intro none
                exact zero (UInt32.toNat_inj.mp (same.trans none))
              exact ⟨⟨octets, length, four, bytes, least, most, nonzero, aligned⟩, listed, joined⟩
            · rintro ⟨network, other, text⟩
              have lengths := congrArg UInt32.toNat (Option.some.inj (asked network other))
              have value := congrArg UInt32.toNat (Option.some.inj (reached network text))
              rw [UInt32.toNat_ofNat_of_lt' (address_lt network)] at value
              rw [UInt32.toNat_ofNat_of_lt' (by change length < 2 ^ 32; omega),
                UInt32.toNat_ofNat_of_lt' (by have := network.most; change network.prefixLength < 2 ^ 32; omega)]
                at lengths
              rw [value, lengths]
              exact network.aligned

/-- A text without a slash is accepted when it is a single address. -/
theorem accepted_address (clear : '/' ∉ text) : ∃ accepted, isCanonicalTrustedProxyCidr text = .ok accepted ∧
    (accepted = true ↔ ∃ network : Ipv4Network, network.prefixLength = 32 ∧ text = network.addressText) := by
  have none : findFrom text '/' 0 = none := @findFrom_none '/' [] text clear
  have whole : substr text 0 text.length = .ok text := by
    have between := substr_between [] text []
    rw [List.append_nil] at between
    exact between
  unfold isCanonicalTrustedProxyCidr
  simp only [none, Option.any_none, Bool.false_eq_true, if_false, Option.getD_none, whole]
  refine @isNetwork_spec text (some 32) (fun length => length = 32) ?_
  intro value
  rw [Option.some_inj]
  constructor
  · rintro rfl
    exact ⟨32, by decide, by decide, rfl, rfl⟩
  · rintro ⟨length, -, -, rfl, rfl⟩
    rfl

/-- A text with one slash is accepted when it is a network with any number of zeros before its length. -/
theorem accepted_network {before rest : List Char} (first : '/' ∉ before) (clear : '/' ∉ rest) :
    ∃ accepted, isCanonicalTrustedProxyCidr (before ++ '/' :: rest) = .ok accepted ∧
      (accepted = true ↔ ∃ network : Ipv4Network,
        (∃ zeros, rest = List.replicate zeros '0' ++ decimal network.prefixLength) ∧
          before = network.addressText) := by
  have place : findFrom (before ++ '/' :: rest) '/' 0 = some before.length := by
    have between := @findFrom_between '/' [] before rest first
    rw [List.nil_append, List.length_nil, Nat.zero_add] at between
    exact between
  have single : findFrom (before ++ '/' :: rest) '/' (before.length + 1) = none := by
    have after := @findFrom_none '/' (before ++ ['/']) rest clear
    rw [List.append_assoc, List.length_append] at after
    exact after
  have address : substr (before ++ '/' :: rest) 0 before.length = .ok before :=
    substr_between [] before ('/' :: rest)
  obtain ⟨parsed, reads, spec⟩ := @parsePrefixLength_spec rest before
  unfold isCanonicalTrustedProxyCidr
  simp only [place, Option.any_some, single, Option.isSome_none, Bool.false_eq_true, if_false,
    Option.getD_some, address, reads]
  exact isNetwork_spec spec

theorem rejected_slashes {before rest : List Char} (first : '/' ∉ before) (more : '/' ∈ rest) :
    isCanonicalTrustedProxyCidr (before ++ '/' :: rest) = .ok false := by
  obtain ⟨part, tail, rfl, clear⟩ := List.eq_append_cons_of_mem more
  have place : findFrom (before ++ '/' :: (part ++ '/' :: tail)) '/' 0 = some before.length := by
    have between := @findFrom_between '/' [] before (part ++ '/' :: tail) first
    rw [List.nil_append, List.length_nil, Nat.zero_add] at between
    exact between
  have second : (findFrom (before ++ '/' :: (part ++ '/' :: tail)) '/' (before.length + 1)).isSome := by
    have after := @findFrom_between '/' (before ++ ['/']) part tail clear
    rw [List.append_assoc, List.length_append] at after
    change (findFrom (before ++ '/' :: (part ++ '/' :: tail)) '/' (before.length + 1)) = _ at after
    rw [after]
    rfl
  unfold isCanonicalTrustedProxyCidr
  simp only [place, Option.any_some, second, if_true]

theorem slash_not_mem_padded (zeros number : Nat) : '/' ∉ List.replicate zeros '0' ++ decimal number := by
  intro inside
  rcases List.mem_append.mp inside with zero | digit
  · exact absurd (List.mem_replicate.mp zero).2 (by decide)
  · exact not_mem_decimal_text (by decide) number digit

/-- Every text gets an answer, and it is accepted when it is a network with zeros before its length. -/
theorem accepted_iff (text : List Char) : ∃ accepted, isCanonicalTrustedProxyCidr text = .ok accepted ∧
    (accepted = true ↔ ∃ network : Ipv4Network,
      (network.prefixLength = 32 ∧ text = network.addressText) ∨ ∃ zeros, text = network.text zeros) := by
  by_cases slash : '/' ∈ text
  · obtain ⟨before, rest, rfl, first⟩ := List.eq_append_cons_of_mem slash
    by_cases more : '/' ∈ rest
    · refine ⟨false, rejected_slashes first more, iff_of_false Bool.false_ne_true ?_⟩
      rintro ⟨network, ⟨-, same⟩ | ⟨zeros, same⟩⟩
      · exact slash_not_mem_address network (same ▸ slash)
      · obtain ⟨-, other⟩ := append_separator_left first (slash_not_mem_address network) same
        exact slash_not_mem_padded zeros network.prefixLength (other ▸ more)
    · obtain ⟨accepted, answer, exact'⟩ := accepted_network first more
      refine ⟨accepted, answer, exact'.trans ⟨?_, ?_⟩⟩
      · rintro ⟨network, ⟨zeros, padded⟩, same⟩
        exact ⟨network, .inr ⟨zeros, by rw [padded, same]; rfl⟩⟩
      · rintro ⟨network, ⟨-, same⟩ | ⟨zeros, same⟩⟩
        · exact absurd (same ▸ slash) (slash_not_mem_address network)
        · obtain ⟨address, padded⟩ := append_separator_left first (slash_not_mem_address network) same
          exact ⟨network, ⟨zeros, padded⟩, address⟩
  · obtain ⟨accepted, answer, exact'⟩ := accepted_address slash
    refine ⟨accepted, answer, exact'.trans ⟨?_, ?_⟩⟩
    · rintro ⟨network, single⟩
      exact ⟨network, .inl single⟩
    · rintro ⟨network, single | ⟨zeros, same⟩⟩
      · exact ⟨network, single⟩
      · exact absurd (same ▸ List.mem_append_right _ List.mem_cons_self) slash

theorem mem_addresses (network : Ipv4Network) : network.address ∈ network.addresses := rfl

theorem octets_eq_of_address {one two : Ipv4Network} (addresses : one.address = two.address) :
    one.octets = two.octets := by
  obtain ⟨first, second, third, fourth, octets⟩ := List.length_eq_four.mp one.four
  obtain ⟨fifth, sixth, seventh, eighth, others⟩ := List.length_eq_four.mp two.four
  have bytes := one.bytes
  have limits := two.bytes
  unfold Ipv4Network.address at addresses
  rw [octets] at bytes addresses
  rw [others] at limits addresses
  simp only [List.forall_mem_cons] at bytes limits
  simp only [List.foldl_cons, List.foldl_nil] at addresses
  have same : first = fifth ∧ second = sixth ∧ third = seventh ∧ fourth = eighth := by omega
  obtain ⟨rfl, rfl, rfl, rfl⟩ := same
  rw [octets, others]

/-- Networks with the same addresses have the same text. -/
theorem text_eq_of_addresses {one two : Ipv4Network} (same : one.addresses = two.addresses) (zeros : Nat) :
    one.text zeros = two.text zeros := by
  have size : ∀ network : Ipv4Network, 0 < 2 ^ (32 - network.prefixLength) := fun _ => Nat.two_pow_pos _
  have range : ∀ network : Ipv4Network, ∀ address, address ∈ network.addresses ↔
      network.address ≤ address ∧ address < network.address + 2 ^ (32 - network.prefixLength) := by
    intro network address
    obtain ⟨quotient, whole⟩ : 2 ^ (32 - network.prefixLength) ∣ network.address := network.aligned
    change address / _ = network.address / _ ↔ _
    rw [whole, Nat.mul_div_cancel_left _ (size network), Nat.div_eq_iff (size network), Nat.mul_comm]
    have positive := size network
    omega
  have lower : two.address ≤ one.address := ((range two _).mp (same ▸ mem_addresses one)).1
  have upper : one.address ≤ two.address := ((range one _).mp (same ▸ mem_addresses two)).1
  have addresses : one.address = two.address := Nat.le_antisymm upper lower
  have widths : 2 ^ (32 - one.prefixLength) = 2 ^ (32 - two.prefixLength) := by
    have last : ∀ address, (one.address ≤ address ∧ address < one.address + 2 ^ (32 - one.prefixLength)) ↔
        two.address ≤ address ∧ address < two.address + 2 ^ (32 - two.prefixLength) := fun address =>
      (range one address).symm.trans (same ▸ range two address)
    have first := last (one.address + 2 ^ (32 - one.prefixLength) - 1)
    have second := last (two.address + 2 ^ (32 - two.prefixLength) - 1)
    have sizes := size one
    have others := size two
    omega
  have lengths : one.prefixLength = two.prefixLength := by
    have exponents := Nat.pow_right_injective (Nat.le_refl 2) widths
    have most := one.most
    have bound := two.most
    omega
  unfold Ipv4Network.text Ipv4Network.addressText
  rw [octets_eq_of_address addresses, lengths]

/-- The zeros before a prefix length are determined by the text. -/
theorem zeros_eq_of_text {one two : Ipv4Network} {zeros more : Nat} (same : one.text zeros = two.text more) :
    zeros = more := by
  obtain ⟨-, rest⟩ := append_separator_left (slash_not_mem_address one) (slash_not_mem_address two) same
  have values := congrArg (Nat.ofDigitChars 10 · 0) rest
  simp only [Nat.ofDigitChars_append, Nat.ofDigitChars_replicate_zero, Nat.mul_zero, value_decimal] at values
  have lengths := congrArg List.length rest
  rw [List.length_append, List.length_append, List.length_replicate, List.length_replicate, values] at lengths
  omega

theorem not_padded_of_canonical (canonical : IsCanonicalCidr text) : ¬ZeroPadded text := by
  rintro ⟨padded, zeros, positive, rfl⟩
  obtain ⟨network, ⟨-, same⟩ | same⟩ := canonical
  · exact slash_not_mem_address network (same ▸ List.mem_append_right _ List.mem_cons_self)
  · have none := zeros_eq_of_text same
    omega

/-- The accepted texts are the canonical ones and the ones with zeros before the prefix length. -/
theorem accepted_iff_canonical_or_padded :
    isCanonicalTrustedProxyCidr text = .ok true ↔ IsCanonicalCidr text ∨ ZeroPadded text := by
  obtain ⟨accepted, answer, exact'⟩ := accepted_iff text
  rw [answer, Except.ok.injEq, exact']
  constructor
  · rintro ⟨network, single | ⟨zeros, same⟩⟩
    · exact .inl ⟨network, .inl single⟩
    · cases zeros with
      | zero => exact .inl ⟨network, .inr same⟩
      | succ zeros => exact .inr ⟨network, zeros + 1, Nat.succ_pos zeros, same⟩
  · rintro (⟨network, single | same⟩ | ⟨network, zeros, -, same⟩)
    · exact ⟨network, .inl single⟩
    · exact ⟨network, .inr ⟨0, same⟩⟩
    · exact ⟨network, .inr ⟨zeros, same⟩⟩

theorem exact_iff : (isCanonicalTrustedProxyCidr text = .ok true ↔ IsCanonicalCidr text) ↔ ¬ZeroPadded text := by
  rw [accepted_iff_canonical_or_padded]
  constructor
  · intro exact' padded
    exact not_padded_of_canonical (exact'.mp (.inr padded)) padded
  · intro plain
    exact ⟨fun either => either.resolve_right plain, .inl⟩

/-- Texts with prefix lengths and no zeros before them denote different networks when they differ. -/
theorem addresses_ne_of_text_ne {one two : Ipv4Network} {zeros more : Nat}
    (first : ¬ZeroPadded (one.text zeros)) (second : ¬ZeroPadded (two.text more))
    (different : one.text zeros ≠ two.text more) : one.addresses ≠ two.addresses := by
  intro same
  have none : zeros = 0 := by
    by_contra positive
    exact first ⟨one, zeros, Nat.pos_of_ne_zero positive, rfl⟩
  have nothing : more = 0 := by
    by_contra positive
    exact second ⟨two, more, Nat.pos_of_ne_zero positive, rfl⟩
  subst none nothing
  exact different (text_eq_of_addresses same 0)

/-- Two texts are handled as promised exactly when neither has zeros before its prefix length. -/
theorem cidr_exact_iff (first second : List Char) :
    CidrExact first second ↔ ¬ZeroPadded first ∧ ¬ZeroPadded second := by
  constructor
  · intro kept
    exact ⟨exact_iff.mp (kept.exact first (by simp)), exact_iff.mp (kept.exact second (by simp))⟩
  · rintro ⟨one, two⟩
    refine ⟨?_, ?_, ?_⟩
    · intro text _
      obtain ⟨accepted, answer, -⟩ := accepted_iff text
      exact ⟨accepted, answer⟩
    · intro text listed
      rcases List.mem_pair.mp listed with rfl | rfl
      · exact exact_iff.mpr one
      · exact exact_iff.mpr two
    · rintro network other zeros more rfl rfl - - different
      exact addresses_ne_of_text_ne one two different

/-- The network of a class A address with a zero before its prefix length. -/
def tenNetwork : Ipv4Network := ⟨[10, 0, 0, 0], 8, rfl, by decide, by decide, by decide, by decide, by decide⟩

/-- A prefix length with a leading zero is accepted, and it denotes the network that has another text. -/
theorem cidr_not_exact : ¬CidrExact "10.0.0.0/8".toList "10.0.0.0/08".toList := by
  intro kept
  have one : "10.0.0.0/8".toList = tenNetwork.text 0 := by decide
  have two : "10.0.0.0/08".toList = tenNetwork.text 1 := by decide
  exact kept.distinct tenNetwork tenNetwork 0 1 one two (by decide) (by decide) (by decide) rfl

end Grammar

end DiskServer.Utils
