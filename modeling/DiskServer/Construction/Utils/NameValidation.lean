import DiskServer.Construction.ErrorCode

/-
This file gives the checks on the names of files and folders, byte by byte.
-/

namespace DiskServer.Utils

/-- The scan stops at bytes that it rejects, and a read behind the end of the text would be an error of
its own. -/
inductive ScanStop where
  | outside
  | invalid
  deriving Repr, DecidableEq

def readByte (value : List UInt8) (index : Nat) : Except ScanStop UInt8 :=
  match value[index]? with
  | none => .error .outside
  | some byte => .ok byte

structure Lead where
  codePoint : UInt32
  sequenceLength : Nat
  nonempty : 0 < sequenceLength

def decodeLead (lead : UInt8) : Option Lead :=
  if lead ≤ 0x7F then
    some ⟨lead.toUInt32, 1, Nat.one_pos⟩
  else if 0xC2 ≤ lead ∧ lead ≤ 0xDF then
    some ⟨(lead &&& 0x1F).toUInt32, 2, Nat.two_pos⟩
  else if 0xE0 ≤ lead ∧ lead ≤ 0xEF then
    some ⟨(lead &&& 0x0F).toUInt32, 3, Nat.succ_pos 2⟩
  else if 0xF0 ≤ lead ∧ lead ≤ 0xF4 then
    some ⟨(lead &&& 0x07).toUInt32, 4, Nat.succ_pos 3⟩
  else
    none

def decodeContinuation (value : List UInt8) (index : Nat) (codePoint : UInt32) (offset : Nat) :
    Except ScanStop UInt32 := do
  let continuation ← readByte value (index + offset)
  if continuation &&& 0xC0 ≠ 0x80 then
    throw .invalid
  else
    pure ((codePoint <<< 6) ||| (continuation &&& 0x3F).toUInt32)

def isOverlong (sequenceLength : Nat) (codePoint : UInt32) : Bool :=
  (sequenceLength = 2 && codePoint < 0x80) || (sequenceLength = 3 && codePoint < 0x800) ||
    (sequenceLength = 4 && codePoint < 0x10000)

def isOutOfRange (codePoint : UInt32) : Bool :=
  (0xD800 ≤ codePoint && codePoint ≤ 0xDFFF) || 0x10FFFF < codePoint

def isControl (codePoint : UInt32) : Bool :=
  codePoint ≤ 0x1F || (0x7F ≤ codePoint && codePoint ≤ 0x9F)

def scanSequence (value : List UInt8) (index : Nat) (lead : Lead) : Except ScanStop Unit := do
  if value.length < index + lead.sequenceLength then
    throw .invalid
  else
    let codePoint ← (List.range' 1 (lead.sequenceLength - 1)).foldlM (decodeContinuation value index)
      lead.codePoint
    if isOverlong lead.sequenceLength codePoint || isOutOfRange codePoint || isControl codePoint then
      throw .invalid
    else
      pure ()

def scanFrom (value : List UInt8) (index : Nat) : Except ScanStop Unit :=
  if index < value.length then
    match readByte value index with
    | .error stop => .error stop
    | .ok byte =>
        match decodeLead byte with
        | none => .error .invalid
        | some lead =>
            match scanSequence value index lead with
            | .error stop => .error stop
            | .ok _ => scanFrom value (index + lead.sequenceLength)
  else
    .ok ()
termination_by value.length - index
decreasing_by
  have := lead.nonempty
  omega

/-- The answer is missing only where the scan reads outside of the text. -/
def isValidUtf8WithoutControlChars (value : List UInt8) : Option Bool :=
  match scanFrom value 0 with
  | .ok _ => some true
  | .error .invalid => some false
  | .error .outside => none

def forbiddenChars : List UInt8 := [0x2F, 0x5C, 0x3A, 0x2A, 0x3F, 0x22, 0x3C, 0x3E, 0x7C]

def hasForbiddenDriveItemChars (value : List UInt8) : Bool :=
  value.any fun byte => byte ≤ 0x1F || forbiddenChars.contains byte

def validateName (subject : String) (name : List UInt8) : Except ErrorInfo (List UInt8) :=
  if ¬ (1 ≤ name.length ∧ name.length ≤ 255) then
    .error ⟨.validationFailed, subject ++ " length must be between 1-255 characters"⟩
  else if hasForbiddenDriveItemChars name then
    .error ⟨.invalidFilename, subject ++
      " contains forbidden characters: / \\ : * ? \" < > | or control characters"⟩
  else if name = [0x2E] ∨ name = [0x2E, 0x2E] then
    .error ⟨.invalidFilename, subject ++ " cannot be reserved name \".\" or \"..\""⟩
  else if name.head? = some 0x2E then
    .error ⟨.invalidFilename, subject ++ " cannot start with \".\""⟩
  else if isValidUtf8WithoutControlChars name ≠ some true then
    .error ⟨.invalidFilename, subject ++ " must be valid UTF-8 and cannot contain control characters"⟩
  else
    .ok name

def trimAsciiSpaces (value : List UInt8) : List UInt8 :=
  ((value.dropWhile (· = 0x20)).reverse.dropWhile (· = 0x20)).reverse

def initUploadName (filename : List UInt8) : Except ErrorInfo (List UInt8) :=
  validateName "Filename" filename

def renameFileName (newName : List UInt8) : Except ErrorInfo (List UInt8) :=
  validateName "Filename" newName

def createFolderName (name : List UInt8) : Except ErrorInfo (List UInt8) :=
  validateName "Folder name" (trimAsciiSpaces name)

def renameFolderName (newName : List UInt8) : Except ErrorInfo (List UInt8) :=
  validateName "Folder name" (trimAsciiSpaces newName)

/-- A name that one of the requests passes on to its service. -/
def AcceptedName (name : List UInt8) : Prop :=
  ∃ sent, initUploadName sent = .ok name ∨ renameFileName sent = .ok name ∨
    createFolderName sent = .ok name ∨ renameFolderName sent = .ok name

end DiskServer.Utils
