import DiskServer.Construction.Download.RangeRequest
import DiskServer.Construction.ErrorCode
import DiskServer.Construction.Json
import DiskServer.Library.BlockStream

/-
This file gives the response of a download and the callback that streams its bytes.
-/

namespace DiskServer.Download

open Library

def downloadStreamChunkBytes : Nat := 64 * 1024

def sendfileThresholdBytes : Nat := 256 * 1024

structure DownloadStreamState where
  remaining : Nat
  delivered : Nat
  interruptionRecorded : Bool
  deriving Repr, DecidableEq

structure StreamInterruption where
  rangeStart : Nat
  expectedBytes : Nat
  deliveredBytes : Nat
  deriving Repr, DecidableEq

structure StreamResponse (State : Type) extends DownloadStreamState where
  start : Nat
  contentLength : Nat
  stream : State
  interruptions : List StreamInterruption

section Callback

variable {State : Type} (stream : ReadStream UInt8 State)

def readSize (response : StreamResponse State) (suggestedLength : Nat) : Nat :=
  min (min suggestedLength downloadStreamChunkBytes) response.remaining

def interrupt (response : StreamResponse State) (stopped : State) : StreamResponse State :=
  { response with
    remaining := 0
    interruptionRecorded := true
    stream := stream.close stopped
    interruptions :=
      if response.interruptionRecorded then response.interruptions
      else response.interruptions ++
        [⟨response.start, response.contentLength, response.delivered⟩] }

def deliver (response : StreamResponse State) (bytes : List UInt8) (next : State) :
    List UInt8 × StreamResponse State :=
  let returned := bytes.take response.remaining
  let remaining := response.remaining - returned.length
  (returned,
    { response with
      remaining := remaining
      delivered := response.delivered + returned.length
      stream := if remaining = 0 then stream.close next else next })

def callback (response : StreamResponse State) (suggestedLength : Option Nat) :
    List UInt8 × StreamResponse State :=
  match suggestedLength with
  | none => ([], { response with stream := stream.close response.stream })
  | some suggested =>
      if response.remaining = 0 then
        ([], { response with stream := stream.close response.stream })
      else
        let size := readSize response suggested
        let bytes := stream.answer response.stream size
        let next := (stream.read response.stream size).2
        if bytes = [] then ([], interrupt stream response next)
        else deliver stream response bytes next

def runCalls (response : StreamResponse State) :
    List (Option Nat) → List (List UInt8) × StreamResponse State
  | [] => ([], response)
  | call :: rest =>
      let (bytes, next) := callback stream response call
      let (pieces, last) := runCalls next rest
      (bytes :: pieces, last)

end Callback

structure DownloadParams where
  filename : String
  fileSize : UInt64
  mimeType : String
  fileHash : String
  rangeHeader : String
  deriving Repr, DecidableEq

structure DownloadStore (State : Type) where
  getBlobSize : Except ErrorInfo UInt64
  getLocalBlobPath : Option String
  openBlobRange : UInt64 → UInt64 → Except ErrorInfo State

structure OpenFailure where
  errorCode : ErrorCode
  rangeStart : Nat
  expectedBytes : Nat
  deriving Repr, DecidableEq

inductive DownloadResponse (State : Type) where
  | rangeNotSatisfiable (contentRange : String) (body : Json)
  | failed (error : ErrorInfo)
  | openFailed (error : ErrorInfo) (failure : OpenFailure)
  | file (path : String) (slice : Option (UInt64 × UInt64)) (headers : List (String × String))
  | stream (status : Nat) (headers : List (String × String)) (response : StreamResponse State)

def fileReadFailure : ErrorInfo := ErrorInfo.ofCode .fileReadError

def preflight (observedSize : Except ErrorInfo UInt64) (expectedSize : UInt64) : Except ErrorInfo Unit :=
  match observedSize with
  | .error _ => .error fileReadFailure
  | .ok size => if size ≠ expectedSize then .error fileReadFailure else .ok ()

namespace DownloadParams

variable (params : DownloadParams)

def rangeRequest : RangeRequest := RangeRequest.parse params.rangeHeader params.fileSize

def start : UInt64 := if params.rangeRequest.hasRange then params.rangeRequest.start else 0

def stop : UInt64 := if params.rangeRequest.hasRange then params.rangeRequest.stop else params.fileSize - 1

def contentLength : UInt64 := Download.contentLength params.start params.stop

def unsatisfiableBody : Json :=
  .object [("code", .number 10002), ("message", .string "Invalid request range"),
    ("data", .object [("file_size", .number params.fileSize.toNat),
      ("requested_range", .string params.rangeHeader),
      ("reason", .string "Requested start position exceeds file size")])]

def contentRange : String :=
  "bytes " ++ toString params.start.toNat ++ "-" ++ toString params.stop.toNat ++ "/" ++
    toString params.fileSize.toNat

def commonHeaders : List (String × String) :=
  [("Accept-Ranges", "bytes"),
    ("Content-Disposition", "attachment; filename=\"" ++ params.filename ++ "\"")] ++
    if params.fileHash = "" then [] else [("ETag", "\"" ++ params.fileHash ++ "\"")]

def streamHeaders : List (String × String) :=
  (if params.rangeRequest.hasRange then [("Content-Range", params.contentRange)] else []) ++
    [("Content-Type", params.mimeType),
      ("Content-Length", toString params.contentLength.toNat)] ++ params.commonHeaders

def streamStatus : Nat := if params.rangeRequest.hasRange then 206 else 200

def fileSlice : Option (UInt64 × UInt64) :=
  if params.rangeRequest.hasRange then some (params.start, params.contentLength) else none

def streamResponse {State : Type} (stream : State) : StreamResponse State where
  remaining := params.contentLength.toNat
  delivered := 0
  interruptionRecorded := false
  start := params.start.toNat
  contentLength := params.contentLength.toNat
  stream := stream
  interruptions := []

def openStream {State : Type} (store : DownloadStore State) : DownloadResponse State :=
  match store.openBlobRange params.start params.contentLength with
  | .error error =>
      .openFailed fileReadFailure ⟨error.code, params.start.toNat, params.contentLength.toNat⟩
  | .ok stream => .stream params.streamStatus params.streamHeaders (params.streamResponse stream)

end DownloadParams

def buildDownloadResponse {State : Type} (params : DownloadParams)
    (dependencies : Option (DownloadStore State)) : DownloadResponse State :=
  if params.rangeRequest.hasRange ∧ ¬ params.rangeRequest.satisfiable then
    .rangeNotSatisfiable ("bytes */" ++ toString params.fileSize.toNat) params.unsatisfiableBody
  else
    match dependencies with
    | none => .failed fileReadFailure
    | some store =>
        match preflight store.getBlobSize params.fileSize with
        | .error error => .failed error
        | .ok () =>
            if sendfileThresholdBytes ≤ params.contentLength.toNat then
              match store.getLocalBlobPath with
              | some path => .file path params.fileSlice params.commonHeaders
              | none => params.openStream store
            else
              params.openStream store

/-- The stream of a local file. A read that falls short leaves the file stream failed, and the
device may grant fewer bytes than the file has. -/
structure LocalFileReadStream where
  content : List UInt8
  position : Nat
  isOpen : Bool
  failed : Bool
  remaining : Nat
  reads : Nat

namespace LocalFileReadStream

variable (grants : Nat → Nat) (stream : LocalFileReadStream)

def close : LocalFileReadStream := { stream with isOpen := false }

def gathered (size : Nat) : List UInt8 :=
  if stream.failed then []
  else ((stream.content.drop stream.position).take size).take (grants stream.reads)

def read (length : Nat) : List UInt8 × LocalFileReadStream :=
  if stream.isOpen = false ∨ stream.remaining = 0 then
    ([], stream)
  else
    let size := min length stream.remaining
    let bytes := stream.gathered grants size
    let after := { stream with
      position := stream.position + bytes.length
      failed := stream.failed || decide (bytes.length < size)
      reads := stream.reads + 1 }
    if bytes = [] then
      ([], close { after with remaining := 0 })
    else
      let remaining := stream.remaining - bytes.length
      (bytes, if remaining = 0 then close { after with remaining := remaining }
        else { after with remaining := remaining })

end LocalFileReadStream

def localFileStream (grants : Nat → Nat) : ReadStream UInt8 LocalFileReadStream where
  read stream length :=
    let (bytes, next) := stream.read grants length
    (some bytes, next)
  close stream := stream.close

/-- The offset of a file stream is signed. -/
def openLocalBlobRange (storagePath : String) (content : Option (List UInt8)) (start length : UInt64) :
    Except ErrorInfo LocalFileReadStream :=
  if storagePath = "" then
    .error ⟨.fileReadError, "Blob storage path is empty"⟩
  else if 9223372036854775807 < start.toNat then
    .error ⟨.validationFailed, "Invalid request range"⟩
  else
    match content with
    | none => .error ⟨.fileReadError, "Failed to open file for reading"⟩
    | some content => .ok ⟨content, start.toNat, true, false, length.toNat, 0⟩

end DiskServer.Download
