import Mathlib.Data.List.Dedup

/-
This file gives the JSON values that the trash stores and the accessors that read them back.
-/

namespace DiskServer

inductive Json where
  | null
  | bool (value : Bool)
  | number (value : Int)
  | string (value : String)
  | array (items : List Json)
  | object (fields : List (String × Json))

namespace Json

inductive ConversionError where
  | notConvertible
  deriving Repr, DecidableEq

def isObject : Json → Bool
  | .object _ => true
  | _ => false

def isMember (name : String) : Json → Bool
  | .object fields => fields.any fun field => field.1 = name
  | _ => false

def get (value : Json) (name : String) (default : Json) : Json :=
  match value with
  | .object fields => ((fields.find? fun field => field.1 = name).map Prod.snd).getD default
  | _ => default

def field (name : String) (value : Json) : Json := value.get name .null

def elements : Json → List Json
  | .array items => items
  | _ => []

def isUInt64 : Json → Bool
  | .number value => 0 ≤ value
  | _ => false

/-- A stored number always fits the unsigned type it is read into, so only its sign is checked. -/
def asUInt64 : Json → Except ConversionError Nat
  | .null => .ok 0
  | .bool value => .ok value.toNat
  | .number value => if 0 ≤ value then .ok value.toNat else .error .notConvertible
  | _ => .error .notConvertible

def asString : Json → Except ConversionError String
  | .null => .ok ""
  | .bool value => .ok (if value then "true" else "false")
  | .number value => .ok (toString value)
  | .string value => .ok value
  | _ => .error .notConvertible

def asBool : Json → Except ConversionError Bool
  | .null => .ok false
  | .bool value => .ok value
  | .number value => .ok (value ≠ 0)
  | _ => .error .notConvertible

def string? : Json → Option String
  | .string value => some value
  | _ => none

def uint64? : Json → Option UInt64
  | .number value =>
      if 0 ≤ value ∧ value < UInt64.size then some (UInt64.ofNat value.toNat) else none
  | _ => none

def names : Json → List String
  | .object fields => (fields.map Prod.fst).dedup
  | _ => []

def size (value : Json) : Nat := value.names.length

/-- A jsonb column keeps the last field of each name. -/
def keepLast : List (String × Json) → List (String × Json)
  | [] => []
  | field :: rest =>
      if rest.any fun other => other.1 = field.1 then keepLast rest else field :: keepLast rest

def fieldBefore (first second : String × Json) : Bool :=
  first.1.utf8ByteSize < second.1.utf8ByteSize ||
    (first.1.utf8ByteSize == second.1.utf8ByteSize && first.1 ≤ second.1)

def storableText (text : String) : Bool := text.toList.all fun character => character ≠ Char.ofNat 0

mutual

/-- What a jsonb column gives back for a value that it accepts: it refuses the character U+0000. -/
def stored : Json → Option Json
  | .null => some .null
  | .bool value => some (.bool value)
  | .number value => some (.number value)
  | .string value => if storableText value then some (.string value) else none
  | .array items => (storedItems items).map .array
  | .object fields =>
      (storedFields fields).map fun kept => .object ((keepLast kept).mergeSort fieldBefore)

def storedItems : List Json → Option (List Json)
  | [] => some []
  | item :: rest => do
      let kept ← stored item
      let others ← storedItems rest
      pure (kept :: others)

def storedFields : List (String × Json) → Option (List (String × Json))
  | [] => some []
  | (name, value) :: rest =>
      if storableText name then do
        let kept ← stored value
        let others ← storedFields rest
        pure ((name, kept) :: others)
      else
        none

end

def SameObject (first second : Json) : Prop :=
  first.isObject = true ∧ second.isObject = true ∧
    ∀ name, first.isMember name = second.isMember name ∧ first.field name = second.field name

end Json

end DiskServer
