import DiskServer.Construction.ErrorCode
import Mathlib.Data.Rat.Floor

/-
This file gives the decoders for the integers that clients send in texts and in JSON.
-/

namespace DiskServer.Utils

/-- A decoder returns a value or an error, or an exception leaves it. -/
inductive Parsed (Value : Type) where
  | value (value : Value)
  | error (error : ErrorInfo)
  | raised

instance : Monad Parsed where
  pure := .value
  bind parsed next :=
    match parsed with
    | .value value => next value
    | .error error => .error error
    | .raised => .raised

def invalidParameter (message : String) : ErrorInfo := ⟨.invalidParameter, message⟩

def validationFailed (message : String) : ErrorInfo := ⟨.validationFailed, message⟩

section Texts

def isSpace (character : Char) : Bool :=
  character = ' ' || (9 ≤ character.toNat && character.toNat ≤ 13)

structure IntegerText where
  blanks : List Char
  sign : Option Char
  digits : List Char
  rest : List Char
  deriving Repr, DecidableEq

def readSign : List Char → Option Char × List Char
  | '+' :: rest => (some '+', rest)
  | '-' :: rest => (some '-', rest)
  | text => (none, text)

def splitInteger (text : List Char) : IntegerText where
  blanks := text.takeWhile isSpace
  sign := (readSign (text.dropWhile isSpace)).1
  digits := (readSign (text.dropWhile isSpace)).2.takeWhile Char.isDigit
  rest := (readSign (text.dropWhile isSpace)).2.dropWhile Char.isDigit

namespace IntegerText

def magnitude (parts : IntegerText) : Nat := Nat.ofDigitChars 10 parts.digits 0

def negative (parts : IntegerText) : Bool := parts.sign = some '-'

def length (parts : IntegerText) : Nat :=
  parts.blanks.length + parts.sign.toList.length + parts.digits.length

def value (parts : IntegerText) : Int :=
  if parts.negative then -(parts.magnitude : Int) else parts.magnitude

end IntegerText

def stoull (text : List Char) : Option (UInt64 × Nat) :=
  let parts := splitInteger text
  if parts.digits = [] ∨ UInt64.size ≤ parts.magnitude then
    none
  else
    some (if parts.negative then -UInt64.ofNat parts.magnitude else UInt64.ofNat parts.magnitude,
      parts.length)

def intMin : Int := -2147483648

def intMax : Int := 2147483647

def stoi (text : List Char) : Option (Int × Nat) :=
  let parts := splitInteger text
  if parts.digits = [] ∨ parts.value < intMin ∨ intMax < parts.value then
    none
  else
    some (parts.value, parts.length)

def parsePositiveUInt64 (text : List Char) (paramName : String) : Parsed UInt64 :=
  if text = [] then
    .error (invalidParameter ("Parameter '" ++ paramName ++ "' is empty"))
  else
    match stoull text with
    | none => .error (invalidParameter ("Parameter '" ++ paramName ++ "' invalid format"))
    | some (value, pos) =>
        if pos ≠ text.length then
          .error (invalidParameter ("Parameter '" ++ paramName ++ "' invalid format"))
        else if value = 0 then
          .error (invalidParameter ("Parameter '" ++ paramName ++ "' must be a positive integer"))
        else
          .value value

def queryUInt64 (text : List Char) (key : String) : Parsed (Option UInt64) :=
  if text = [] then
    .value none
  else
    match stoull text with
    | none => .error (validationFailed ("Parameter '" ++ key ++ "' invalid format"))
    | some (value, pos) =>
        if pos ≠ text.length then
          .error (validationFailed ("Parameter '" ++ key ++ "' invalid format"))
        else
          .value (some value)

def queryPositiveInt (text : List Char) (key : String) (least most : Int) : Parsed (Option Int) :=
  if text = [] then
    .value none
  else
    match stoi text with
    | none => .error (validationFailed ("Parameter '" ++ key ++ "' invalid format"))
    | some (value, pos) =>
        if pos ≠ text.length then
          .error (validationFailed ("Parameter '" ++ key ++ "' invalid format"))
        else if value < least ∨ most < value then
          .error (validationFailed ("Parameter '" ++ key ++ "' must be an integer between " ++
            toString least ++ "-" ++ toString most))
        else
          .value (some value)

def chunkIndex (text : List Char) : Parsed UInt32 :=
  if text = [] then
    .error (validationFailed "Missing chunk_index parameter")
  else
    match stoull text with
    | none => .error (validationFailed "Invalid chunk_index format")
    | some (value, _) => .value value.toUInt32

end Texts

section Values

/-- A JSON value as the client has written it, with numbers of digits alone and other numbers. -/
inductive Written where
  | null
  | bool (value : Bool)
  | integer (value : Int)
  | real (value : ℚ)
  | string (value : String)
  | array (items : List Written)
  | object (fields : List (String × Written))

def Written.number? : Written → Option ℚ
  | .integer value => some value
  | .real value => some value
  | _ => none

inductive Numeric where
  | int (value : Int)
  | uint (value : Nat)
  | real (value : ℚ)
  | other

/-- The numbers outside of the 64-bit types and those with a fraction or an exponent are rounded. -/
def Written.numeric (toDouble : ℚ → ℚ) : Written → Numeric
  | .integer value =>
      if -9223372036854775808 ≤ value ∧ value ≤ 9223372036854775807 then
        .int value
      else if 0 ≤ value ∧ value ≤ 18446744073709551615 then
        .uint value.toNat
      else
        .real (toDouble value)
  | .real value => .real (toDouble value)
  | _ => .other

namespace Numeric

def isIntegral : Numeric → Bool
  | .int _ => true
  | .uint _ => true
  | .real value => -9223372036854775808 ≤ value ∧ value < 18446744073709551616 ∧ value.den = 1
  | .other => false

def isInt64 : Numeric → Bool
  | .int _ => true
  | .uint value => value ≤ 9223372036854775807
  | .real value => -9223372036854775808 ≤ value ∧ value < 9223372036854775808 ∧ value.den = 1
  | .other => false

def asInt64 : Numeric → Int
  | .int value => value
  | .uint value => value
  | .real value => value.num
  | .other => 0

def asUInt64 : Numeric → Option Nat
  | .int value => if 0 ≤ value then some value.toNat else none
  | .uint value => some value
  | .real value => if 0 ≤ value ∧ value ≤ 18446744073709551616 then some ⌊value⌋₊ else none
  | .other => some 0

def asInt : Numeric → Option Int
  | .int value => if intMin ≤ value ∧ value ≤ intMax then some value else none
  | .uint value => if (value : Int) ≤ intMax then some value else none
  | .real value =>
      if intMin ≤ value ∧ value ≤ intMax then
        some (if 0 ≤ value then ⌊value⌋ else ⌈value⌉)
      else
        none
  | .other => some 0

end Numeric

/-- The member lookup throws on a value that is neither an object nor null. -/
def Written.isMember (json : Written) (key : String) : Option Bool :=
  match json with
  | .null => some false
  | .object fields => some (fields.any fun field => field.1 = key)
  | _ => none

/-- The last field with a name hides the others. -/
def Written.field (json : Written) (key : String) : Written :=
  match json with
  | .object fields => ((fields.reverse.find? fun field => field.1 = key).map Prod.snd).getD .null
  | _ => .null

variable (toDouble : ℚ → ℚ)

def expectUInt64 (item : Numeric) (key : String) : Parsed Nat :=
  if !item.isIntegral || (item.isInt64 && item.asInt64 < 0) then
    .error (validationFailed ("Parameter '" ++ key ++ "' type error: expected unsigned integer"))
  else
    match item.asUInt64 with
    | none => .raised
    | some value => .value value

def missingParameter (key : String) : ErrorInfo :=
  validationFailed ("Missing required parameter: " ++ key)

def requireUInt64 (json : Written) (key : String) : Parsed Nat :=
  match json.isMember key with
  | none => .raised
  | some false => .error (missingParameter key)
  | some true => expectUInt64 ((json.field key).numeric toDouble) key

def optionalUInt64 (json : Written) (key : String) : Parsed (Option Nat) :=
  match json.isMember key with
  | none => .raised
  | some false => .value none
  | some true =>
      match expectUInt64 ((json.field key).numeric toDouble) key with
      | .value value => .value (some value)
      | .error error => .error error
      | .raised => .raised

def requireInt (json : Written) (key : String) : Parsed Int :=
  match json.isMember key with
  | none => .raised
  | some false => .error (missingParameter key)
  | some true =>
      let item := (json.field key).numeric toDouble
      if !item.isIntegral then
        .error (validationFailed ("Parameter '" ++ key ++ "' type error: expected integer"))
      else
        match item.asInt with
        | none => .raised
        | some value => .value value

def readIds (typeError zeroError : Nat → ErrorInfo) : Nat → List Written → Parsed (List Nat)
  | _, [] => .value []
  | index, item :: rest =>
      if !(item.numeric toDouble).isIntegral then
        .error (typeError index)
      else
        match (item.numeric toDouble).asUInt64 with
        | none => .raised
        | some 0 => .error (zeroError index)
        | some (id + 1) =>
            match readIds typeError zeroError (index + 1) rest with
            | .value ids => .value ((id + 1) :: ids)
            | .error error => .error error
            | .raised => .raised

def optionalPositiveIdArray (json : Written) (field : String) : Parsed (List Nat) :=
  match json.isMember field with
  | none => .raised
  | some false => .value []
  | some true =>
      match json.field field with
      | .array items =>
          readIds toDouble
            (fun _ => invalidParameter ("Element in parameter '" ++ field ++
              "' type error: expected integer"))
            (fun _ => invalidParameter ("Element in parameter '" ++ field ++
              "' must be a positive integer"))
            0 items
      | _ => .error (invalidParameter ("Parameter '" ++ field ++ "' type error: expected array"))

def requirePositiveIdArray (json : Written) (field : String) (minSize maxSize : Nat) :
    Parsed (List Nat) :=
  match json.isMember field with
  | none => .raised
  | some false => .error (missingParameter field)
  | some true =>
      match json.field field with
      | .array items =>
          if items.length < minSize then
            .error (validationFailed ("Parameter '" ++ field ++ "' cannot be empty array"))
          else if maxSize < items.length then
            .error (validationFailed ("Parameter '" ++ field ++ "' supports at most " ++
              toString maxSize ++ " IDs"))
          else
            readIds toDouble
              (fun index => validationFailed ("Parameter '" ++ field ++ "[" ++ toString index ++
                "]' type error: expected positive integer"))
              (fun index => validationFailed ("Parameter '" ++ field ++ "[" ++ toString index ++
                "]' must be a positive integer"))
              0 items
      | _ => .error (validationFailed ("Parameter '" ++ field ++ "' type error: expected array"))

end Values

end DiskServer.Utils
