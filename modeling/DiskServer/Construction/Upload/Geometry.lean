import DiskServer.Construction.ErrorCode
import DiskServer.Construction.Upload.TaskRepository

/-
This file gives the chunk geometry of an upload with the widths that the code and the database use.
-/

namespace DiskServer.Upload

def initializeTotalChunks (fileSize : UInt64) (chunkSize : UInt32) : Except ErrorInfo UInt32 :=
  if chunkSize = 0 then
    .error ⟨.internalError, "Invalid upload chunk size configuration"⟩
  else
    let totalChunks := (fileSize - 1) / chunkSize.toUInt64 + 1
    if UInt32.toUInt64 4294967295 < totalChunks then
      .error ⟨.validationFailed, "File requires too many chunks"⟩
    else
      .ok totalChunks.toUInt32

structure ChunkAcceptance where
  expectedSize : UInt64
  deriving Repr, DecidableEq

structure ChunkAcceptanceError where
  error : ErrorInfo
  expectedSize : UInt64
  deriving Repr, DecidableEq

def chunkOffset (chunkIndex chunkSize : UInt32) : UInt64 := chunkIndex.toUInt64 * chunkSize.toUInt64

def expectedChunkSize (fileSize : UInt64) (chunkSize chunkIndex : UInt32) : UInt64 :=
  min chunkSize.toUInt64 (fileSize - chunkOffset chunkIndex chunkSize)

def validateChunkAcceptance (chunkIndex : UInt32) (dataSize fileSize : UInt64)
    (chunkSize totalChunks : UInt32) : Except ChunkAcceptanceError ChunkAcceptance :=
  if totalChunks ≤ chunkIndex then
    .error ⟨⟨.validationFailed, "Chunk index out of range"⟩, 0⟩
  else if dataSize ≠ expectedChunkSize fileSize chunkSize chunkIndex then
    .error ⟨⟨.validationFailed, "Unexpected chunk size"⟩, expectedChunkSize fileSize chunkSize chunkIndex⟩
  else
    .ok ⟨expectedChunkSize fileSize chunkSize chunkIndex⟩

structure GeometryColumns where
  fileSize : Int64
  chunkSize : Int32
  totalChunks : Int32
  deriving DecidableEq

def geometryColumns (fileSize : UInt64) (chunkSize totalChunks : UInt32) : GeometryColumns :=
  ⟨fileSize.toInt64, chunkSize.toInt32, totalChunks.toInt32⟩

/-- `UploadChunk` validates a chunk against the row converted back by `BuildUploadTaskCacheEntry`. -/
def GeometryColumns.validate (columns : GeometryColumns) (chunkIndex : UInt32) (dataSize : UInt64) :
    Except ChunkAcceptanceError ChunkAcceptance :=
  validateChunkAcceptance chunkIndex dataSize columns.fileSize.toUInt64 columns.chunkSize.toUInt32
    columns.totalChunks.toUInt32

def GeometryColumns.complete (columns : GeometryColumns) (chunkIndices : List Int32) : Bool :=
  (chunkIndices.length : Int) == columns.totalChunks.toInt &&
    chunkIndices.foldl (fun largest chunkIndex => max largest chunkIndex.toInt) (-1) ==
      columns.totalChunks.toInt - 1

/-- The table keeps one row for each index and refuses a negative one. -/
structure ChunkRows where
  indices : List Int32
  distinct : indices.Nodup
  nonnegative : ∀ index ∈ indices, 0 ≤ index.toInt

end DiskServer.Upload
