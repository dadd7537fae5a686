import DiskServer.Library.TextView

/-
This file gives the checks of the trusted proxies and of the endpoint of the object store in a configuration.
-/

namespace DiskServer.Utils

open Library

section TrustedProxies

/-- A shift by the width of a number or more is not defined. -/
def shiftLeft (value amount : UInt32) : Checked UInt32 :=
  if amount < 32 then .ok (value <<< amount) else .error .outOfRange

def parseOctet (octetText : List Char) : Option Nat :=
  if octetText = [] ∨ (1 < octetText.length ∧ octetText.head? = some '0') then none
  else
    match fromChars octetText with
    | some (octet, []) => if 255 < octet then none else some octet
    | _ => none

def parseOctets (value : List Char) : (remaining : Nat) → UInt32 → (offset : Nat) → Checked (Option UInt32)
  | 0, address, _ => .ok (some address)
  | remaining + 1, address, offset =>
      let separator := findFrom value '.' offset
      if (0 < remaining ∧ separator = none) ∨ (remaining = 0 ∧ separator ≠ none) then .ok none
      else
        let stop := separator.getD value.length
        match substr value offset (stop - offset) with
        | .error fault => .error fault
        | .ok octetText =>
            match parseOctet octetText with
            | none => .ok none
            | some octet =>
                match shiftLeft address 8 with
                | .error fault => .error fault
                | .ok shifted => parseOctets value remaining (shifted ||| UInt32.ofNat octet) (stop + 1)

def parseIpv4Address (value : List Char) : Checked (Option UInt32) := parseOctets value 4 0 0

def parsePrefixLength (value : List Char) (separator : Option Nat) : Checked (Option UInt32) :=
  match separator with
  | none => .ok (some 32)
  | some position =>
      match substrFrom value (position + 1) with
      | .error fault => .error fault
      | .ok prefixText =>
          match fromChars prefixText with
          | some (prefixLength, []) =>
              if prefixLength = 0 ∨ 32 < prefixLength then .ok none
              else .ok (some (UInt32.ofNat prefixLength))
          | _ => .ok none

def hostMask (prefixLength : UInt32) : Checked UInt32 :=
  if prefixLength = 32 then .ok 0
  else
    match shiftLeft 1 (32 - prefixLength) with
    | .error fault => .error fault
    | .ok bit => .ok (bit - 1)

def isNetwork (address prefixLength : Checked (Option UInt32)) : Checked Bool :=
  match address with
  | .error fault => .error fault
  | .ok none => .ok false
  | .ok (some address) =>
      if address = 0 then .ok false
      else
        match prefixLength with
        | .error fault => .error fault
        | .ok none => .ok false
        | .ok (some prefixLength) =>
            match hostMask prefixLength with
            | .error fault => .error fault
            | .ok mask => .ok (address &&& mask = 0)

def isCanonicalTrustedProxyCidr (value : List Char) : Checked Bool :=
  let separator := findFrom value '/' 0
  if separator.any fun position => (findFrom value '/' (position + 1)).isSome then .ok false
  else
    match substr value 0 (separator.getD value.length) with
    | .error fault => .error fault
    | .ok addressText => isNetwork (parseIpv4Address addressText) (parsePrefixLength value separator)

end TrustedProxies

section ObjectStoreEndpoint

def isAsciiAlphaNumeric (character : Char) : Bool :=
  ('A' ≤ character && character ≤ 'Z') || ('a' ≤ character && character ≤ 'z') ||
    ('0' ≤ character && character ≤ '9')

def isValidPort (value : List Char) : Bool :=
  if value = [] then false
  else
    match fromChars value with
    | some (port, []) => 1 ≤ port && port ≤ 65535
    | _ => false

def visitIpv4Segment (segmentCount : Nat) (segment : List Char) (_last : Bool) : Checked (Option Nat) :=
  if segment = [] ∨ 3 < segment.length then .ok none
  else
    match fromChars segment with
    | some (octet, []) => if 255 < octet then .ok none else .ok (some (segmentCount + 1))
    | _ => .ok none

def isValidIpv4Address (address : List Char) : Checked Bool :=
  match scan '.' visitIpv4Segment address 0 with
  | .error fault => .error fault
  | .ok none => .ok false
  | .ok (some segmentCount) => .ok (segmentCount = 4)

def isHexDigit (character : Char) : Bool :=
  ('0' ≤ character && character ≤ '9') || ('A' ≤ character && character ≤ 'F') ||
    ('a' ≤ character && character ≤ 'f')

def visitIpv6Segment (allowIpv4Tail : Bool) (units : Nat) (segment : List Char) (last : Bool) :
    Checked (Option Nat) :=
  if segment = [] then .ok none
  else if (findFrom segment '.' 0).isSome then
    if !allowIpv4Tail || !last then .ok none
    else
      match isValidIpv4Address segment with
      | .error fault => .error fault
      | .ok valid => if valid then .ok (some (units + 2)) else .ok none
  else if 4 < segment.length then .ok none
  else if segment.all isHexDigit then .ok (some (units + 1))
  else .ok none

def countIpv6Units (side : List Char) (allowIpv4Tail : Bool) : Checked (Option Nat) :=
  if side = [] then .ok (some 0) else scan ':' (visitIpv6Segment allowIpv4Tail) side 0

def leavesUnits : Option Nat → Option Nat → Bool
  | some left, some right => left + right < 8
  | _, _ => false

def isValidIpv6Address (address : List Char) : Checked Bool :=
  match findPairFrom address ':' 0 with
  | none => (countIpv6Units address true).map fun units => units = some 8
  | some compression =>
      if (findPairFrom address ':' (compression + 2)).isSome then .ok false
      else
        match substr address 0 compression, substrFrom address (compression + 2) with
        | .ok left, .ok right =>
            match countIpv6Units left false, countIpv6Units right true with
            | .ok leftUnits, .ok rightUnits => .ok (leavesUnits leftUnits rightUnits)
            | _, _ => .error .outOfRange
        | _, _ => .error .outOfRange

def visitLabel (_ : Unit) (label : List Char) (_last : Bool) : Checked (Option Unit) :=
  if label = [] ∨ 63 < label.length then .ok none
  else
    match readAt label 0, readAt label (label.length - 1) with
    | .ok front, .ok back =>
        if !isAsciiAlphaNumeric front || !isAsciiAlphaNumeric back then .ok none
        else if label.all fun character => isAsciiAlphaNumeric character || character = '-' then
          .ok (some ())
        else .ok none
    | _, _ => .error .outOfRange

def maxDnsHostLength : Nat := 253

def isValidDnsOrIpv4Host (host : List Char) : Checked Bool :=
  if host = [] ∨ maxDnsHostLength < host.length then .ok false
  else if host.all fun character => character.isDigit || character = '.' then isValidIpv4Address host
  else (scan '.' visitLabel host ()).map Option.isSome

def invalidS3Endpoint : Checked (Except String Unit) := .ok (.error "Invalid S3 endpoint")

def isForbidden (character : Char) : Bool :=
  character.toNat ≤ 32 || character.toNat = 127 || character = '/' || character = '?' || character = '#' ||
    character = '\\' || character = '@' || character = '%'

def validateSuffix (suffix : List Char) : Checked (Except String Unit) :=
  if suffix = [] then .ok (.ok ())
  else
    match readAt suffix 0, substrFrom suffix 1 with
    | .ok front, .ok port => if front ≠ ':' ∨ !isValidPort port then invalidS3Endpoint else .ok (.ok ())
    | _, _ => .error .outOfRange

def validateBracketed (authority : List Char) : Checked (Except String Unit) :=
  match findFrom authority ']' 0 with
  | none => invalidS3Endpoint
  | some closingBracket =>
      if closingBracket = 1 ∨ (findFrom authority ']' (closingBracket + 1)).isSome then invalidS3Endpoint
      else
        match substr authority 1 (closingBracket - 1), substrFrom authority (closingBracket + 1) with
        | .ok address, .ok suffix =>
            match isValidIpv6Address address with
            | .error fault => .error fault
            | .ok valid => if valid then validateSuffix suffix else invalidS3Endpoint
        | _, _ => .error .outOfRange

def validateHost (host : List Char) : Checked (Except String Unit) :=
  match isValidDnsOrIpv4Host host with
  | .error fault => .error fault
  | .ok valid => if valid then .ok (.ok ()) else invalidS3Endpoint

def validateHostAndPort (authority : List Char) : Checked (Except String Unit) :=
  if authority.any fun character => character = '[' || character = ']' then invalidS3Endpoint
  else
    match rfind authority ':' with
    | none => validateHost authority
    | some portSeparator =>
        match substrFrom authority (portSeparator + 1), substr authority 0 portSeparator with
        | .ok port, .ok host =>
            if findFrom authority ':' 0 ≠ some portSeparator ∨ !isValidPort port then invalidS3Endpoint
            else validateHost host
        | _, _ => .error .outOfRange

def validateAuthority (authority : List Char) : Checked (Except String Unit) :=
  if authority = [] then invalidS3Endpoint
  else if authority.any isForbidden then invalidS3Endpoint
  else
    match readAt authority 0 with
    | .error fault => .error fault
    | .ok front => if front = '[' then validateBracketed authority else validateHostAndPort authority

def expectedScheme (useSsl : Bool) : List Char := if useSsl then "https://".toList else "http://".toList

def validateS3Endpoint (endpoint : List Char) (useSsl : Bool) : Checked (Except String Unit) :=
  if endpoint = [] then .ok (.ok ())
  else if !(expectedScheme useSsl).isPrefixOf endpoint then
    .ok (.error "S3 endpoint scheme does not match s3.use_ssl")
  else
    match substrFrom endpoint (expectedScheme useSsl).length with
    | .error fault => .error fault
    | .ok authority => validateAuthority authority

end ObjectStoreEndpoint

end DiskServer.Utils
