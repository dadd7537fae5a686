import DiskServer.Construction.Upload.Geometry
import DiskServer.Library.Binary64
import DiskServer.Library.Blocks

/-
This file gives the chunks that the web, desktop and Go clients send for the answer to an initialization.
-/

namespace DiskServer.Clients

open Library Upload

structure LocalFile where
  size : Nat
  filled : 1 ≤ size
  bounded : size < 9223372036854775808

structure TaskRow where
  fileSize : UInt64
  chunkSize : UInt32
  totalChunks : UInt32
  counted : initializeTotalChunks fileSize chunkSize = .ok totalChunks

structure InitUploadOutcome where
  task : TaskRow
  uploadedChunks : ChunkRows

def noChunks : ChunkRows := ⟨[], List.nodup_nil, fun _ listed => absurd listed List.not_mem_nil⟩

def initializeUpload (existingTask : Option InitUploadOutcome) (fileSize : UInt64)
    (chunkSize : UInt32) : Except ErrorInfo InitUploadOutcome :=
  match existingTask with
  | some outcome => .ok outcome
  | none =>
      match counted : initializeTotalChunks fileSize chunkSize with
      | .error error => .error error
      | .ok totalChunks => .ok ⟨⟨fileSize, chunkSize, totalChunks, counted⟩, noChunks⟩

namespace InitUploadOutcome

variable (outcome : InitUploadOutcome)

def chunkSize : Nat := outcome.task.chunkSize.toNat

def totalChunks : Nat := outcome.task.totalChunks.toNat

def uploaded : List Nat := outcome.uploadedChunks.indices.map fun index => index.toInt.toNat

def accepts (chunkIndex dataSize : Nat) : Bool :=
  ((geometryColumns outcome.task.fileSize outcome.task.chunkSize outcome.task.totalChunks).validate
    (UInt32.ofNat chunkIndex) (UInt64.ofNat dataSize)).isOk

end InitUploadOutcome

structure ByteRange where
  start : Nat
  length : Nat
  deriving Repr, DecidableEq

inductive ClientRequest where
  | uploadChunk (chunkIndex : Nat) (data : ByteRange)
  | completeUpload
  deriving Repr, DecidableEq

def blobSlice (file : LocalFile) (start stop : Nat) : ByteRange :=
  ⟨min start file.size, min stop file.size - min start file.size⟩

def webFileSize (file : LocalFile) : Nat := Binary64.nearest file.size

def processTask (file : LocalFile) (outcome : InitUploadOutcome) : List ClientRequest :=
  let remaining := (List.range outcome.totalChunks).filter fun index =>
    !outcome.uploaded.contains index
  let requests := remaining.map fun chunkIndex =>
    let start := Binary64.nearest (chunkIndex * outcome.chunkSize)
    let stop := min (Binary64.nearest (start + outcome.chunkSize)) (webFileSize file)
    ClientRequest.uploadChunk chunkIndex (blobSlice file start stop)
  requests ++ [.completeUpload]

structure DesktopTask where
  chunkSize : Nat
  totalChunks : Nat
  uploadedChunkIndices : List Nat
  deriving Repr, DecidableEq

def kDefaultChunkSize : Nat := 5242880

/-- `QJsonValue::toInt` gives the default for a number outside of `int`. -/
def toInt (value default : Nat) : Nat := if value < 2147483648 then value else default

def handleInitResponse (outcome : InitUploadOutcome) : DesktopTask where
  chunkSize := toInt outcome.chunkSize kDefaultChunkSize
  totalChunks := toInt outcome.totalChunks 0
  uploadedChunkIndices := outcome.uploaded.map fun index => toInt index 0

namespace DesktopTask

def nextChunk (task : DesktopTask) : Option Nat :=
  (List.range task.totalChunks).find? fun index => !task.uploadedChunkIndices.contains index

def startChunkUpload (task : DesktopTask) (file : LocalFile) (chunkIndex : Nat) : ClientRequest :=
  let offset := chunkIndex * task.chunkSize
  let remaining : Int := (file.size : Int) - offset
  let chunkBytes := min (task.chunkSize : Int) remaining
  .uploadChunk chunkIndex ⟨offset, min chunkBytes.toNat (file.size - offset)⟩

def handleChunkResponse (task : DesktopTask) (chunkIndex : Nat) : DesktopTask :=
  if task.uploadedChunkIndices.contains chunkIndex then
    task
  else
    { task with uploadedChunkIndices := task.uploadedChunkIndices ++ [chunkIndex] }

def waiting (task : DesktopTask) : List Nat :=
  (List.range task.totalChunks).filter fun index => !task.uploadedChunkIndices.contains index

theorem waiting_handleChunkResponse (task : DesktopTask) (chunkIndex : Nat) :
    (task.handleChunkResponse chunkIndex).waiting = task.waiting.filter fun index => index != chunkIndex := by
  unfold handleChunkResponse waiting
  split
  · next recorded =>
    rw [List.filter_filter]
    apply List.filter_congr
    intro index _
    rcases eq_or_ne index chunkIndex with rfl | differs
    · simp [List.contains_iff_mem.mp recorded]
    · simp [differs]
  · rw [List.filter_filter]
    apply List.filter_congr
    intro index _
    rcases eq_or_ne index chunkIndex with rfl | differs <;> simp_all

theorem nextChunk_mem {task : DesktopTask} {chunkIndex : Nat} (found : task.nextChunk = some chunkIndex) :
    chunkIndex ∈ task.waiting := by
  have listed := List.mem_of_find?_eq_some found
  have kept := List.find?_some found
  exact List.mem_filter.mpr ⟨listed, kept⟩

theorem waiting_shrinks {task : DesktopTask} {chunkIndex : Nat}
    (found : task.nextChunk = some chunkIndex) :
    (task.handleChunkResponse chunkIndex).waiting.length < task.waiting.length := by
  rw [waiting_handleChunkResponse]
  have member := nextChunk_mem found
  apply List.length_filter_lt_length_iff_exists.mpr
  exact ⟨chunkIndex, member, by simp⟩

def advanceToNextChunk (file : LocalFile) (task : DesktopTask) : List ClientRequest :=
  match _found : task.nextChunk with
  | none => [.completeUpload]
  | some chunkIndex =>
      task.startChunkUpload file chunkIndex :: advanceToNextChunk file (task.handleChunkResponse chunkIndex)
termination_by task.waiting.length
decreasing_by exact waiting_shrinks _found

end DesktopTask

def transferManager (file : LocalFile) (outcome : InitUploadOutcome) : List ClientRequest :=
  (handleInitResponse outcome).advanceToNextChunk file

def uploadLoop (file : LocalFile) (chunkSize : Nat) (uploadedSet : List Nat) :
    List Nat → Nat → List ClientRequest
  | [], _ => []
  | index :: indices, position =>
      let read := min chunkSize (file.size - position)
      if read = 0 then
        []
      else if uploadedSet.contains index then
        uploadLoop file chunkSize uploadedSet indices (position + read)
      else
        .uploadChunk index ⟨position, read⟩ ::
          uploadLoop file chunkSize uploadedSet indices (position + read)

def uploadFile (file : LocalFile) (outcome : InitUploadOutcome) : List ClientRequest :=
  let chunkSize := if outcome.chunkSize = 0 then 4194304 else outcome.chunkSize
  let totalChunks :=
    if outcome.totalChunks = 0 then
      ((file.size + chunkSize - 1) / chunkSize) % UInt32.size
    else
      outcome.totalChunks
  uploadLoop file chunkSize outcome.uploaded (List.range totalChunks) 0 ++ [.completeUpload]

inductive Client where
  | web
  | desktop
  | go
  deriving Repr, DecidableEq

namespace Client

def declaredSize : Client → LocalFile → Nat
  | .web, file => webFileSize file
  | .desktop, file => file.size
  | .go, file => file.size

def upload : Client → LocalFile → InitUploadOutcome → List ClientRequest
  | .web => processTask
  | .desktop => transferManager
  | .go => uploadFile

end Client

end DiskServer.Clients
