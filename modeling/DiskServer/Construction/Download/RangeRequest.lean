/-
This file gives the parser of the range header of a download.
-/

namespace DiskServer.Download

def isBlank (character : Char) : Bool :=
  character = ' ' || character = '\t' || character = '\n' || character = '\x0b' ||
    character = '\x0c' || character = '\r'

def takeSign : List Char → Bool × List Char
  | [] => (false, [])
  | character :: rest =>
      if character = '-' then (true, rest)
      else if character = '+' then (false, rest)
      else (false, character :: rest)

def number (digits : List Char) : Nat := Nat.ofDigitChars 10 digits 0

/-- The conversion `std::stoull` skips blanks, takes a sign, ignores what follows the digits and
negates in 64 bits. It throws without a digit and above the range. -/
def stoull (text : List Char) : Option UInt64 :=
  let (negative, rest) := takeSign (text.dropWhile isBlank)
  let digits := rest.takeWhile Char.isDigit
  if digits = [] then none
  else if UInt64.size ≤ number digits then none
  else if negative then some (0 - UInt64.ofNat (number digits))
  else some (UInt64.ofNat (number digits))

structure RangeRequest where
  hasRange : Bool
  start : UInt64
  stop : UInt64
  satisfiable : Bool
  fileSize : UInt64
  deriving Repr, DecidableEq

namespace RangeRequest

def unsatisfiable (result : RangeRequest) : RangeRequest := { result with satisfiable := false }

def checkOrder (result : RangeRequest) : RangeRequest :=
  if result.stop < result.start then result.unsatisfiable else result

def parseTexts (result : RangeRequest) (startText endText : List Char) : RangeRequest :=
  if startText = [] then
    if endText = [] then
      result.unsatisfiable
    else
      match stoull endText with
      | none => result.unsatisfiable
      | some suffixLength =>
          if suffixLength = 0 ∨ result.fileSize < suffixLength then
            checkOrder { result with start := 0, stop := result.fileSize - 1 }
          else
            checkOrder { result with
              start := result.fileSize - suffixLength
              stop := result.fileSize - 1 }
  else
    match stoull startText with
    | none => result.unsatisfiable
    | some start =>
        if result.fileSize ≤ start then
          unsatisfiable { result with start := start }
        else if endText = [] then
          checkOrder { result with start := start, stop := result.fileSize - 1 }
        else
          match stoull endText with
          | none => unsatisfiable { result with start := start }
          | some stop =>
              checkOrder { result with
                start := start
                stop := if result.fileSize ≤ stop then result.fileSize - 1 else stop }

def parse (rangeHeader : String) (fileSize : UInt64) : RangeRequest :=
  let result : RangeRequest := ⟨false, 0, 0, true, fileSize⟩
  if rangeHeader = "" then
    result
  else
    let present := { result with hasRange := true }
    if rangeHeader.toList.take 6 ≠ "bytes=".toList then
      present.unsatisfiable
    else
      let range := rangeHeader.toList.drop 6
      if '-' ∈ range then
        present.parseTexts (range.takeWhile (· ≠ '-')) ((range.dropWhile (· ≠ '-')).drop 1)
      else
        present.unsatisfiable

end RangeRequest

def contentLength (start stop : UInt64) : UInt64 := stop - start + 1

end DiskServer.Download
