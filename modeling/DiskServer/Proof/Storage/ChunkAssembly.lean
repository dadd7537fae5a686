import DiskServer.Construction.Storage.S3ObjectStorage
import DiskServer.Proof.Utils.Md5

namespace DiskServer.Storage

open Library Library.Autocommit Utils Jobs

/-- The pieces cut the data into full parts and one last part that is not empty. -/
structure CutIntoParts (pieces : List (List UInt8)) (data : List UInt8) : Prop where
  whole : pieces.flatten = data
  full : ∀ piece ∈ pieces.dropLast, piece.length = s3MultipartPartSizeBytes
  filled : ∀ piece ∈ pieces, 0 < piece.length ∧ piece.length ≤ s3MultipartPartSizeBytes

/-- The parts of an object. -/
abbrev partsOf (data : List UInt8) : List (List UInt8) := BlockStream.pieces s3MultipartPartSizeBytes data

theorem partSize_pos : 0 < s3MultipartPartSizeBytes := by decide

/-- The parts of the data are such a cut. -/
theorem partsOf_cut (data : List UInt8) : CutIntoParts (partsOf data) data where
  whole := BlockStream.pieces_flatten partSize_pos data
  full _ present := BlockStream.mem_dropLast_pieces_length partSize_pos present
  filled _ present := BlockStream.mem_pieces_length partSize_pos present

/-- Data is cut into as few parts as it needs. -/
theorem CutIntoParts.length {pieces : List (List UInt8)} {data : List UInt8}
    (cut : CutIntoParts pieces data) (filled : 1 ≤ data.length) :
    pieces.length = Blocks.count data.length s3MultipartPartSizeBytes := by
  rw [← cut.whole] at filled ⊢
  exact BlockStream.cut_length (List.length_pos_iff.mp filled) cut.full cut.filled

section Calls

variable {World Value : Type} {good : Value → S3Run World → Prop}
  {bad : CallFailure → S3Run World → Prop} {run : S3Run World}

theorem meets_ask {answer : Answer World Value}
    (success : ∀ value, (answer run.world).1 = .ok value →
      good value { run with world := (answer run.world).2 })
    (failing : ∀ failure, (answer run.world).1 = .error failure →
      bad failure { run with world := (answer run.world).2 }) :
    Meets good bad (ask answer) run := by
  have asked : outcome (ask answer) run =
      ((answer run.world).1, { run with world := (answer run.world).2 }) := rfl
  unfold Meets
  rw [asked]
  cases answered : (answer run.world).1 with
  | ok value => exact success value answered
  | error failure => exact failing failure answered

theorem meets_send {request : S3Request} {answer : Answer World Value}
    (success : ∀ value, (answer run.world).1 = .ok value →
      good value ⟨(answer run.world).2, run.requests ++ [request]⟩)
    (failing : ∀ failure, (answer run.world).1 = .error failure →
      bad failure ⟨(answer run.world).2, run.requests ++ [request]⟩) :
    Meets good bad (send request answer) run := by
  unfold send
  refine meets_bind (meets_modify rfl) ?_
  rintro _ _ rfl
  exact meets_ask success failing

theorem recovered_error {message : String} {answer : Answer World Unit} {world : World}
    (failure : CallFailure) (failed : (recovered message answer world).1 = .error failure) :
    (answer world).1 ≠ .ok () := by
  intro accepted
  unfold recovered at failed
  rcases answered : answer world with ⟨result, next⟩
  rw [answered] at failed accepted
  cases accepted
  cases failed

/-- A renewal sends nothing to the store. -/
theorem meets_renew {journal : MultipartUploadJournal World} {descriptor : MultipartUploadDescriptor}
    {bad : CallFailure → S3Run World → Prop}
    (failing : ∀ failure after, (journal.renew descriptor run.world).1 ≠ .ok () →
      after.requests = run.requests → bad failure after) :
    Meets (fun _ middle => middle.requests = run.requests) bad (renew journal descriptor) run := by
  apply meets_ask
  · intro _ _
    rfl
  · intro failure failed
    exact failing failure _ (recovered_error failure failed) rfl

end Calls

section Hashes

variable {hash : CryptoHashSha256} {data bytes : List UInt8}

/-- The contexts have taken the data in pieces that fit the read buffer. -/
def Hashed (data : List UInt8) (md5 : Md5Context Md5State) : Prop :=
  ∃ pieces : List (List UInt8), pieces.flatten = data ∧
    (∀ piece ∈ pieces, piece.length ≤ s3MaxReadBufferBytes) ∧
    md5 = pieces.foldl (md5Update md5Transform) (md5Init md5Start)

theorem hashed_nil : Hashed [] (md5Init md5Start) := by
  refine ⟨[], rfl, ?_, rfl⟩
  intro piece present
  cases present

theorem Hashed.append {context : Md5Context Md5State} (hashed : Hashed data context)
    (short : bytes.length ≤ s3MaxReadBufferBytes) :
    Hashed (data ++ bytes) (md5Update md5Transform context bytes) := by
  obtain ⟨pieces, rfl, small, rfl⟩ := hashed
  refine ⟨pieces ++ [bytes], ?_, ?_, ?_⟩
  · rw [List.flatten_append, List.flatten_singleton]
  · intro piece present
    rcases List.mem_append.mp present with before | last
    · exact small piece before
    · obtain rfl := List.mem_singleton.mp last
      exact short
  · rw [List.foldl_append]
    rfl

/-- Pieces of the size of the read buffer never overflow the length that the context counts. -/
theorem Hashed.hex {context : Md5Context Md5State} (hashed : Hashed data context)
    (bounded : data.length < 2305843009213693952) :
    md5Hex context = bytesToHex (Rfc1321.digest data) := by
  obtain ⟨pieces, rfl, small, rfl⟩ := hashed
  have none : surplus 0 pieces = 0 := by
    apply surplus_eq_zero_iff.mpr
    intro first data later split
    have member : data ∈ pieces := by
      rw [split]
      exact List.mem_append_right first List.mem_cons_self
    exact not_overcounts (Nat.lt_of_le_of_lt (small data member) (by decide))
  have digest := md5Digest_eq bounded none
  unfold md5Hex
  rw [← digest]
  rfl

/-- The state of the hash after these bytes, however they were cut. -/
def HashedSha256 (data : List UInt8) (state : hash.State) : Prop :=
  ∃ pieces : List (List UInt8), pieces.flatten = data ∧ state = pieces.foldl hash.update hash.init

theorem HashedSha256.append {state : hash.State} (hashed : HashedSha256 data state) :
    HashedSha256 (data ++ bytes) (hash.update state bytes) := by
  obtain ⟨pieces, rfl, rfl⟩ := hashed
  refine ⟨pieces ++ [bytes], ?_, ?_⟩
  · rw [List.flatten_append, List.flatten_singleton]
  · rw [List.foldl_append]
    rfl

theorem HashedSha256.final {state : hash.State} (hashed : HashedSha256 data state) :
    hash.final state = hash.digest data := by
  obtain ⟨pieces, rfl, rfl⟩ := hashed
  exact hash.streams pieces

end Hashes

/-- The part that a request uploads. -/
def S3Request.uploadedPart : S3Request → Option (Nat × List UInt8)
  | .uploadPart _ _ partNumber data => some (partNumber, data)
  | _ => none

def S3Request.completes : S3Request → Bool
  | .completeMultipartUpload _ _ _ _ => true
  | _ => false

/-- The requests that upload the pieces under the numbers from one on. -/
def partRequests (descriptor : MultipartUploadDescriptor) (pieces : List (List UInt8)) : List S3Request :=
  pieces.zipIdx.map fun (piece, index) =>
    .uploadPart descriptor.key descriptor.uploadId (index + 1) piece

theorem partRequests_concat (descriptor : MultipartUploadDescriptor) (pieces : List (List UInt8))
    (piece : List UInt8) :
    partRequests descriptor (pieces ++ [piece]) = partRequests descriptor pieces ++
      [.uploadPart descriptor.key descriptor.uploadId (pieces.length + 1) piece] := by
  unfold partRequests
  rw [List.zipIdx_append, List.map_append, Nat.zero_add]
  rfl

/-- The store holds these bytes under the keys of the chunks, and its streams serve them. -/
structure S3Client.HoldsChunks {World Stream : Type} (client : S3Client World Stream)
    (objects : String → List UInt8) (At : List UInt8 → Nat → Stream → Prop)
    (chunks : List UploadStagingChunk) : Prop where
  sized : ∀ chunk ∈ chunks, ∀ world head,
    (client.headObject chunk.objectKey world).1 = .ok head → head.present = true →
      head.size.toNat = (objects chunk.objectKey).length
  opened : ∀ chunk ∈ chunks, ∀ world stream,
    (client.getObjectRange chunk.objectKey 0 chunk.sizeBytes.toNat world).1 = .ok (some stream) →
      At ((objects chunk.objectKey).take chunk.sizeBytes.toNat) 0 stream
  served : ∀ content, client.stream.Serves content (At content)

/-- Nothing outside the assembly stops it: the calls succeed, no read ends early and the chunks are
the described ones. -/
structure Cooperates {World Stream : Type} (client : S3Client World Stream)
    (journal : MultipartUploadJournal World) (objects : String → List UInt8)
    (At : List UInt8 → Nat → Stream → Prop) (chunks : List UploadStagingChunk) : Prop where
  heads : ∀ chunk ∈ chunks, ∀ world,
    (client.headObject chunk.objectKey world).1 = .ok ⟨true, chunk.sizeBytes, chunk.etag⟩
  opens : ∀ chunk ∈ chunks, ∀ world, ∃ stream,
    (client.getObjectRange chunk.objectKey 0 chunk.sizeBytes.toNat world).1 = .ok (some stream)
  reads : ∀ content position stream wanted, At content position stream → 0 < wanted →
    position < content.length → client.stream.answer stream wanted ≠ []
  hashes : ∀ chunk ∈ chunks, chunk.md5Hash = bytesToHex (Rfc1321.digest (objects chunk.objectKey))
  creates : ∀ key world, ∃ uploadId, (client.createMultipartUpload key world).1 = .ok uploadId
  uploads : ∀ key uploadId number data world, ∃ etag,
    (client.uploadPart key uploadId number data world).1 = .ok etag
  completes : ∀ key uploadId parts only world, ∃ created,
    (client.completeMultipartUpload key uploadId parts only world).1 = .ok created
  tracks : ∀ descriptor world, (journal.track descriptor world).1 = .ok ()
  renews : ∀ descriptor world, (journal.renew descriptor world).1 = .ok ()

section Assembly

variable {World Stream : Type} {client : S3Client World Stream} {journal : MultipartUploadJournal World}
  {hash : CryptoHashSha256} {descriptor : MultipartUploadDescriptor} {readBufferSize : Nat}
  {objects : String → List UInt8} {At : List UInt8 → Nat → Stream → Prop}
  {chunks : List UploadStagingChunk} {base : List S3Request} {data : List UInt8}

/-- An assembly that stops has sent the first parts of the data, and something made it stop. -/
structure Stopped (client : S3Client World Stream) (journal : MultipartUploadJournal World)
    (descriptor : MultipartUploadDescriptor) (objects : String → List UInt8)
    (At : List UInt8 → Nat → Stream → Prop) (chunks : List UploadStagingChunk) (base : List S3Request)
    (data : List UInt8) (failure : CallFailure) (run : S3Run World) : Prop where
  requests : ∃ sent last, sent <+: partsOf data ∧
    run.requests = base ++ partRequests descriptor sent ++ last ∧
    ∀ request ∈ last, request.uploadedPart = none ∧
      (request.completes = true → (partsOf data).length ≤ s3MaxMultipartParts)
  reason : Cooperates client journal objects At chunks →
    s3MaxMultipartParts < (partsOf data).length ∨ data = []

theorem stopped_of_sent {sent : List (List UInt8)} {failure : CallFailure} {run : S3Run World}
    (within : sent <+: partsOf data)
    (requests : run.requests = base ++ partRequests descriptor sent)
    (reason : Cooperates client journal objects At chunks →
      s3MaxMultipartParts < (partsOf data).length ∨ data = []) :
    Stopped client journal descriptor objects At chunks base data failure run := by
  refine ⟨⟨sent, [], within, ?_, ?_⟩, reason⟩
  · rw [requests, List.append_nil]
  · intro request present
    cases present

/-- The assembly has taken the first bytes of the chunks and has sent their full parts. -/
structure Assembled (descriptor : MultipartUploadDescriptor) (base : List S3Request)
    (taken : List UInt8) (progress : AssemblyProgress hash) (run : S3Run World) : Prop where
  requests : run.requests =
    base ++ partRequests descriptor (BlockStream.blocks s3MultipartPartSizeBytes taken)
  buffer : progress.partBuffer = BlockStream.rest s3MultipartPartSizeBytes taken
  numbers : progress.completedParts.map S3CompletedPart.partNumber =
    List.range' 1 (BlockStream.blocks s3MultipartPartSizeBytes taken).length
  next : progress.nextPartNumber = (BlockStream.blocks s3MultipartPartSizeBytes taken).length + 1
  total : progress.totalSizeBytes = taken.length
  md5 : Hashed taken progress.fullMd5
  sha256 : HashedSha256 taken progress.fullSha256
  bounded : (BlockStream.blocks s3MultipartPartSizeBytes taken).length ≤ s3MaxMultipartParts

/-- An upload of a part sends the buffer under the next number. -/
theorem uploadPart_meets {sent : List (List UInt8)} {progress : AssemblyProgress hash}
    {run : S3Run World} (requests : run.requests = base ++ partRequests descriptor sent)
    (next : progress.nextPartNumber = sent.length + 1) (filled : progress.partBuffer ≠ [])
    (within : sent ++ [progress.partBuffer] <+: partsOf data) :
    Meets (fun after run =>
        run.requests = base ++ partRequests descriptor (sent ++ [progress.partBuffer]) ∧
          sent.length < s3MaxMultipartParts ∧
          ∃ etag, after = { progress with
            completedParts := progress.completedParts ++ [⟨sent.length + 1, etag⟩]
            nextPartNumber := sent.length + 2
            partBuffer := [] })
      (Stopped client journal descriptor objects At chunks base data)
      (uploadPart client journal descriptor progress) run := by
  have shorter : sent <+: partsOf data := (List.prefix_append _ _).trans within
  unfold uploadPart
  rw [if_neg filled, next]
  split
  · rename_i exceeded
    apply meets_throw
    apply stopped_of_sent shorter requests
    intro _
    left
    have longer := within.length_le
    rw [List.length_append, List.length_singleton] at longer
    omega
  · rename_i fits
    have renewed : Meets (fun _ middle => middle.requests = run.requests)
        (Stopped client journal descriptor objects At chunks base data) (renew journal descriptor)
        run := by
      apply meets_renew
      intro failure after failed same
      refine stopped_of_sent shorter (same.trans requests) ?_
      intro cooperates
      exact absurd (cooperates.renews descriptor run.world) failed
    apply meets_bind renewed
    intro _ middle same
    have sends : middle.requests ++ [S3Request.uploadPart descriptor.key descriptor.uploadId
        (sent.length + 1) progress.partBuffer] =
        base ++ partRequests descriptor (sent ++ [progress.partBuffer]) := by
      rw [same, requests, partRequests_concat, List.append_assoc]
    have uploaded : Meets (fun _ after => after.requests =
          base ++ partRequests descriptor (sent ++ [progress.partBuffer]))
        (Stopped client journal descriptor objects At chunks base data)
        (send (.uploadPart descriptor.key descriptor.uploadId (sent.length + 1) progress.partBuffer)
          (client.uploadPart descriptor.key descriptor.uploadId (sent.length + 1)
            progress.partBuffer)) middle := by
      apply meets_send
      · intro _ _
        exact sends
      · intro failure failed
        refine stopped_of_sent within sends ?_
        intro cooperates
        obtain ⟨etag, accepted⟩ := cooperates.uploads descriptor.key descriptor.uploadId
          (sent.length + 1) progress.partBuffer middle.world
        rw [accepted] at failed
        cases failed
    apply meets_bind uploaded
    intro etag after sends
    apply meets_pure
    exact ⟨sends, by omega, etag, rfl⟩

theorem length_lt_of_blocks {taken : List UInt8}
    (bounded : (BlockStream.blocks s3MultipartPartSizeBytes taken).length ≤ s3MaxMultipartParts) :
    taken.length < 52434042880 := by
  have remainder := Nat.mod_lt taken.length partSize_pos
  have division := Nat.div_add_mod' taken.length s3MultipartPartSizeBytes
  rw [BlockStream.blocks_length] at bounded
  have product := Nat.mul_le_mul_right s3MultipartPartSizeBytes bounded
  change taken.length % _ < 5242880 at remainder
  change _ ≤ 52428800000 at product
  omega

theorem Assembled.total_lt {taken : List UInt8} {progress : AssemblyProgress hash}
    {run : S3Run World} (assembled : Assembled descriptor base taken progress run) :
    progress.totalSizeBytes < 52434042880 := by
  rw [assembled.total]
  exact length_lt_of_blocks assembled.bounded

theorem Assembled.stopped {taken more : List UInt8} {progress : AssemblyProgress hash}
    {run after : S3Run World} {failure : CallFailure}
    (assembled : Assembled descriptor base taken progress run) (split : data = taken ++ more)
    (same : after.requests = run.requests)
    (reason : Cooperates client journal objects At chunks →
      s3MaxMultipartParts < (partsOf data).length ∨ data = []) :
    Stopped client journal descriptor objects At chunks base data failure after := by
  apply stopped_of_sent _ (same.trans assembled.requests) reason
  rw [split]
  exact BlockStream.blocks_prefix_pieces_append partSize_pos taken more

theorem Assembled.of_requests {taken : List UInt8} {progress : AssemblyProgress hash}
    {run after : S3Run World} (assembled : Assembled descriptor base taken progress run)
    (same : after.requests = run.requests) : Assembled descriptor base taken progress after :=
  { assembled with requests := same.trans assembled.requests }

/-- The bytes of one read stay in the buffer of the part or complete it. -/
theorem Assembled.append_meets {taken bytes more : List UInt8} {progress : AssemblyProgress hash}
    {run : S3Run World} (assembled : Assembled descriptor base taken progress run)
    (split : data = taken ++ bytes ++ more) (filled : bytes ≠ [])
    (short : bytes.length ≤ s3MaxReadBufferBytes)
    (fits : progress.partBuffer.length + bytes.length ≤ s3MultipartPartSizeBytes) :
    Meets (Assembled descriptor base (taken ++ bytes))
      (Stopped client journal descriptor objects At chunks base data)
      (uploadFullPart client journal descriptor (progress.append bytes)) run := by
  have buffer : (progress.append bytes).partBuffer =
      BlockStream.rest s3MultipartPartSizeBytes taken ++ bytes := by
    rw [← assembled.buffer]
    rfl
  have total : (progress.append bytes).totalSizeBytes = (taken ++ bytes).length := by
    rw [List.length_append, ← assembled.total]
    rfl
  have md5 : Hashed (taken ++ bytes) (progress.append bytes).fullMd5 := assembled.md5.append short
  have streamed : HashedSha256 (taken ++ bytes) (progress.append bytes).fullSha256 := assembled.sha256.append
  have blocks := BlockStream.blocks_append partSize_pos taken bytes
  have rest := BlockStream.rest_append partSize_pos taken bytes
  have within := BlockStream.blocks_prefix_pieces_append partSize_pos (taken ++ bytes) more
  rw [← split, blocks] at within
  unfold uploadFullPart
  split
  · rename_i full
    rw [buffer] at full
    obtain ⟨one, none⟩ := BlockStream.of_length_eq partSize_pos full
    rw [one] at blocks within
    rw [none] at rest
    have nonempty : (progress.append bytes).partBuffer ≠ [] := by
      rw [buffer]
      exact List.append_ne_nil_of_right_ne_nil _ filled
    rw [← buffer] at within blocks
    have next : (progress.append bytes).nextPartNumber =
        (BlockStream.blocks s3MultipartPartSizeBytes taken).length + 1 := assembled.next
    refine (uploadPart_meets assembled.requests next nonempty within).imp ?_
    rintro _ after ⟨requests, room, etag, rfl⟩
    refine ⟨?_, ?_, ?_, ?_, total, md5, streamed, ?_⟩
    · rw [requests, blocks]
    · exact rest.symm
    · rw [List.map_append, blocks, List.length_append, List.length_singleton, List.range'_concat]
      congr 1
      · exact assembled.numbers
      · rw [Nat.one_mul, Nat.add_comm]
        rfl
    · rw [blocks, List.length_append, List.length_singleton]
    · rw [blocks, List.length_append, List.length_singleton]
      exact room
  · rename_i partly
    have bounded : (BlockStream.rest s3MultipartPartSizeBytes taken ++ bytes).length <
        s3MultipartPartSizeBytes := by
      rw [← buffer]
      apply lt_of_le_of_ne _ partly
      change (progress.partBuffer ++ bytes).length ≤ _
      rw [List.length_append]
      exact fits
    rw [BlockStream.blocks_of_lt bounded, List.append_nil] at blocks
    rw [BlockStream.rest_of_lt bounded] at rest
    apply meets_pure
    refine ⟨?_, ?_, ?_, ?_, total, md5, streamed, ?_⟩
    · rw [blocks]
      exact assembled.requests
    · rw [buffer, rest]
    · rw [blocks]
      exact assembled.numbers
    · rw [blocks]
      exact assembled.next
    · rw [blocks]
      exact assembled.bounded

/-- A chunk has been read up to a position. -/
structure Reading (descriptor : MultipartUploadDescriptor) (base : List S3Request)
    (At : List UInt8 → Nat → Stream → Prop) (before content : List UInt8)
    (reading : ChunkReading hash Stream) (run : S3Run World) : Prop where
  assembled : Assembled descriptor base (before ++ content.take reading.chunkSizeBytes)
    reading.toAssemblyProgress run
  placed : At content reading.chunkSizeBytes reading.stream
  inside : reading.chunkSizeBytes ≤ content.length
  md5 : Hashed (content.take reading.chunkSizeBytes) reading.chunkMd5

/-- A round of the loop reads at least one byte more of the chunk. -/
theorem readOnce_meets (holds : client.HoldsChunks objects At chunks) {chunk : UploadStagingChunk}
    {before content later : List UInt8} {reading : ChunkReading hash Stream}
    {run : S3Run World} (buffered : 0 < readBufferSize) (small : readBufferSize ≤ s3MaxReadBufferBytes)
    (split : data = before ++ content ++ later) (described : chunk.sizeBytes.toNat = content.length)
    (state : Reading descriptor base At before content reading run)
    (unfinished : reading.chunkSizeBytes < content.length) :
    Meets (fun next after => Reading descriptor base At before content next after ∧
        reading.chunkSizeBytes < next.chunkSizeBytes)
      (Stopped client journal descriptor objects At chunks base data)
      (readOnce client journal descriptor readBufferSize chunk reading) run := by
  have buffer : reading.partBuffer.length < s3MultipartPartSizeBytes := by
    rw [state.assembled.buffer, BlockStream.rest_length]
    exact Nat.mod_lt _ partSize_pos
  have wanted : 0 < requestedBytes readBufferSize chunk reading := by
    unfold requestedBytes
    omega
  have behind : data = before ++ content.take reading.chunkSizeBytes ++
      (content.drop reading.chunkSizeBytes ++ later) := by
    rw [List.append_assoc before, ← List.append_assoc (content.take _), List.take_append_drop, split,
      List.append_assoc]
  have serves := holds.served content
  have length := serves.length _ _ (requestedBytes readBufferSize chunk reading) state.placed
  have items := serves.items _ _ (requestedBytes readBufferSize chunk reading) state.placed
  have moves := serves.moves _ _ (requestedBytes readBufferSize chunk reading) state.placed
  have answers : Cooperates client journal objects At chunks →
      client.stream.answer reading.stream (requestedBytes readBufferSize chunk reading) ≠ [] :=
    fun cooperates => cooperates.reads _ _ _ _ state.placed wanted unfinished
  unfold readOnce
  rcases answered : client.stream.read reading.stream (requestedBytes readBufferSize chunk reading)
    with ⟨bytes | bytes, stream⟩
  · apply meets_throw
    apply state.assembled.stopped behind rfl
    intro cooperates
    apply absurd _ (answers cooperates)
    rw [ReadStream.answer, answered]
    rfl
  · have returned : client.stream.answer reading.stream (requestedBytes readBufferSize chunk reading) =
        bytes := by
      rw [ReadStream.answer, answered]
      rfl
    rw [returned] at length items moves answers
    rw [answered] at moves
    dsimp only at moves ⊢
    split
    · rename_i refused
      apply meets_throw
      apply state.assembled.stopped behind rfl
      intro cooperates
      rcases refused with empty | long
      · exact absurd empty (answers cooperates)
      · exact absurd long (Nat.not_lt.mpr length)
    · rename_i accepted
      have filled : bytes ≠ [] := fun empty => accepted (.inl empty)
      have some : 0 < bytes.length := List.length_pos_iff.mpr filled
      have short : bytes.length ≤ s3MaxReadBufferBytes := by
        unfold requestedBytes at length
        omega
      have fits : reading.partBuffer.length + bytes.length ≤ s3MultipartPartSizeBytes := by
        unfold requestedBytes at length
        omega
      have left : reading.chunkSizeBytes + bytes.length ≤ content.length := by
        unfold requestedBytes at length
        omega
      have joined : content.take (reading.chunkSizeBytes + bytes.length) =
          content.take reading.chunkSizeBytes ++ bytes := by
        rw [List.take_add, ← items]
      split
      · rename_i overflow
        have total := state.assembled.total_lt
        change bytes.length ≤ 1048576 at short
        unfold maxUInt64 at overflow
        omega
      · have further : data = before ++ content.take reading.chunkSizeBytes ++ bytes ++
            (content.drop (reading.chunkSizeBytes + bytes.length) ++ later) := by
          rw [List.append_assoc before, ← joined, List.append_assoc before,
            ← List.append_assoc (content.take _), List.take_append_drop, split,
            List.append_assoc before]
        apply meets_bind (state.assembled.append_meets further filled short fits)
        intro progress after assembled
        apply meets_pure
        rw [List.append_assoc, ← joined] at assembled
        refine ⟨⟨assembled, moves, left, ?_⟩, ?_⟩
        · change Hashed (content.take (reading.chunkSizeBytes + bytes.length)) _
          rw [joined]
          exact state.md5.append short
        · change reading.chunkSizeBytes < reading.chunkSizeBytes + bytes.length
          omega

/-- The loop reads the whole chunk. -/
theorem readChunk_meets (holds : client.HoldsChunks objects At chunks) {chunk : UploadStagingChunk}
    {before content later : List UInt8} {reading : ChunkReading hash Stream}
    {run : S3Run World} (buffered : 0 < readBufferSize) (small : readBufferSize ≤ s3MaxReadBufferBytes)
    (split : data = before ++ content ++ later) (described : chunk.sizeBytes.toNat = content.length)
    {rounds : Nat} (state : Reading descriptor base At before content reading run)
    (enough : content.length ≤ reading.chunkSizeBytes + rounds) :
    Meets (fun next after => Reading descriptor base At before content next after ∧
        next.chunkSizeBytes = content.length)
      (Stopped client journal descriptor objects At chunks base data)
      (readChunk client journal descriptor readBufferSize chunk rounds reading) run := by
  induction rounds generalizing reading run with
  | zero => exact ⟨state, Nat.le_antisymm state.inside enough⟩
  | succ rounds ih =>
      unfold readChunk
      rw [described]
      split
      · rename_i unfinished
        apply meets_bind (readOnce_meets holds buffered small split described state unfinished)
        rintro next after ⟨further, longer⟩
        apply ih further
        omega
      · rename_i finished
        exact ⟨state, Nat.le_antisymm state.inside (Nat.not_lt.mp finished)⟩

/-- A chunk that passes its checks is appended to what the assembly has taken. -/
theorem assembleChunk_meets (holds : client.HoldsChunks objects At chunks) {chunk : UploadStagingChunk}
    {before later : List UInt8} {progress : AssemblyProgress hash} {run : S3Run World}
    (buffered : 0 < readBufferSize) (small : readBufferSize ≤ s3MaxReadBufferBytes)
    (listed : chunk ∈ chunks) (split : data = before ++ objects chunk.objectKey ++ later)
    (assembled : Assembled descriptor base before progress run) :
    Meets (Assembled descriptor base (before ++ objects chunk.objectKey))
      (Stopped client journal descriptor objects At chunks base data)
      (assembleChunk client journal descriptor readBufferSize progress chunk) run := by
  have behind : data = before ++ (objects chunk.objectKey ++ later) := by
    rw [split, List.append_assoc]
  have headed : Meets (fun head middle => middle.requests = run.requests ∧
        (Cooperates client journal objects At chunks → head = ⟨true, chunk.sizeBytes, chunk.etag⟩) ∧
        (head.present = true → head.size.toNat = (objects chunk.objectKey).length))
      (Stopped client journal descriptor objects At chunks base data)
      (ask (client.headObject chunk.objectKey)) run := by
    apply meets_ask
    · intro head answered
      refine ⟨rfl, ?_, holds.sized chunk listed run.world head answered⟩
      intro cooperates
      rw [cooperates.heads chunk listed run.world] at answered
      exact (Except.ok.inj answered).symm
    · intro failure failed
      refine assembled.stopped behind rfl ?_
      intro cooperates
      rw [cooperates.heads chunk listed run.world] at failed
      cases failed
  unfold assembleChunk
  apply meets_bind headed
  rintro head middle ⟨same, honest, sized⟩
  split
  · rename_i refused
    apply meets_throw
    apply assembled.stopped behind same
    intro cooperates
    rw [honest cooperates] at refused
    simp at refused
  · rename_i accepted
    simp only [Bool.or_eq_true, Bool.not_eq_eq_eq_not, Bool.not_true, decide_eq_true_eq, not_or,
      Bool.not_eq_false, ne_eq, Decidable.not_not] at accepted
    obtain ⟨⟨present, size⟩, -⟩ := accepted
    have described : chunk.sizeBytes.toNat = (objects chunk.objectKey).length := by
      rw [← size]
      exact sized present
    have opening : Meets (fun opened after => after.requests = run.requests ∧
          (Cooperates client journal objects At chunks → opened ≠ none) ∧
          ∀ stream, opened = some stream → At (objects chunk.objectKey) 0 stream)
        (Stopped client journal descriptor objects At chunks base data)
        (ask (client.getObjectRange chunk.objectKey 0 chunk.sizeBytes.toNat)) middle := by
      apply meets_ask
      · intro opened answered
        refine ⟨same, ?_, ?_⟩
        · intro cooperates
          obtain ⟨stream, other⟩ := cooperates.opens chunk listed middle.world
          rw [other] at answered
          cases answered
          exact Option.some_ne_none stream
        · rintro stream rfl
          have placed := holds.opened chunk listed middle.world stream answered
          rwa [described, List.take_length] at placed
      · intro failure failed
        refine assembled.stopped behind same ?_
        intro cooperates
        obtain ⟨stream, other⟩ := cooperates.opens chunk listed middle.world
        rw [other] at failed
        cases failed
    apply meets_bind opening
    rintro opened after ⟨unchanged, available, placed⟩
    cases opened with
    | none =>
        apply meets_throw
        apply assembled.stopped behind unchanged
        intro cooperates
        exact absurd rfl (available cooperates)
    | some stream =>
        have begins : Reading descriptor base At before (objects chunk.objectKey)
            ⟨progress, stream, md5Init md5Start, 0⟩ after := by
          refine ⟨?_, placed stream rfl, Nat.zero_le _, hashed_nil⟩
          rw [List.take_zero, List.append_nil]
          exact assembled.of_requests unchanged
        dsimp only
        apply meets_bind (readChunk_meets holds buffered small split described begins (by
          rw [described, Nat.zero_add]))
        rintro reading final ⟨whole, ended⟩
        have taken := whole.assembled
        have hashed := whole.md5
        rw [ended, List.take_length] at taken hashed
        split
        · rename_i mismatch
          apply meets_throw
          apply taken.stopped split rfl
          intro cooperates
          have bounded := length_lt_of_blocks taken.bounded
          rw [List.length_append] at bounded
          rw [hashed.hex (by omega), cooperates.hashes chunk listed] at mismatch
          exact absurd rfl mismatch
        · exact meets_pure taken

/-- The assembly has sent all parts of the data. -/
structure Finished (descriptor : MultipartUploadDescriptor) (base : List S3Request)
    (data : List UInt8) (progress : AssemblyProgress hash) (run : S3Run World) : Prop where
  requests : run.requests = base ++ partRequests descriptor (partsOf data)
  numbers : progress.completedParts.map S3CompletedPart.partNumber = List.range' 1 (partsOf data).length
  total : progress.totalSizeBytes = data.length
  md5 : Hashed data progress.fullMd5
  sha256 : HashedSha256 data progress.fullSha256
  bounded : (partsOf data).length ≤ s3MaxMultipartParts

/-- The last upload sends the rest of the data, if there is one. -/
theorem Assembled.finish_meets {progress : AssemblyProgress hash} {run : S3Run World}
    (assembled : Assembled descriptor base data progress run) :
    Meets (Finished descriptor base data) (Stopped client journal descriptor objects At chunks base data)
      (uploadPart client journal descriptor progress) run := by
  by_cases empty : progress.partBuffer = []
  · have whole : partsOf data = BlockStream.blocks s3MultipartPartSizeBytes data := by
      rw [assembled.buffer] at empty
      exact if_pos empty
    unfold uploadPart
    rw [if_pos empty]
    apply meets_pure
    refine ⟨?_, ?_, assembled.total, assembled.md5, assembled.sha256, ?_⟩
    · rw [whole]
      exact assembled.requests
    · rw [whole]
      exact assembled.numbers
    · rw [whole]
      exact assembled.bounded
  · have whole : partsOf data =
        BlockStream.blocks s3MultipartPartSizeBytes data ++ [progress.partBuffer] := by
      rw [assembled.buffer] at empty ⊢
      exact if_neg empty
    have within : BlockStream.blocks s3MultipartPartSizeBytes data ++ [progress.partBuffer] <+:
        partsOf data := by
      rw [whole]
    refine (uploadPart_meets assembled.requests assembled.next empty within).imp ?_
    rintro _ after ⟨requests, room, etag, rfl⟩
    refine ⟨?_, ?_, assembled.total, assembled.md5, assembled.sha256, ?_⟩
    · rw [requests, whole]
    · rw [List.map_append, whole, List.length_append, List.length_singleton, List.range'_concat]
      congr 1
      · exact assembled.numbers
      · rw [Nat.one_mul, Nat.add_comm]
        rfl
    · rw [whole, List.length_append, List.length_singleton]
      exact room

/-- The assembly has requested the completion of the upload with exactly the parts of the data. -/
structure Completed (client : S3Client World Stream) (descriptor : MultipartUploadDescriptor)
    (base : List S3Request) (data : List UInt8) (progress : AssemblyProgress hash) (run : S3Run World) : Prop where
  requests : run.requests = base ++ partRequests descriptor (partsOf data) ++
    [.completeMultipartUpload descriptor.key descriptor.uploadId progress.completedParts false]
  answered : ∃ before created, client.completeMultipartUpload descriptor.key descriptor.uploadId
    progress.completedParts false before = (.ok created, run.world)
  numbers : progress.completedParts.map S3CompletedPart.partNumber = List.range' 1 (partsOf data).length
  total : progress.totalSizeBytes = data.length
  md5 : Hashed data progress.fullMd5
  sha256 : HashedSha256 data progress.fullSha256
  bounded : (partsOf data).length ≤ s3MaxMultipartParts

theorem Finished.stopped {progress : AssemblyProgress hash} {run after : S3Run World}
    {failure : CallFailure} (finished : Finished descriptor base data progress run)
    (same : after.requests = run.requests)
    (reason : Cooperates client journal objects At chunks →
      s3MaxMultipartParts < (partsOf data).length ∨ data = []) :
    Stopped client journal descriptor objects At chunks base data failure after :=
  stopped_of_sent List.prefix_rfl (same.trans finished.requests) reason

/-- The concatenation of the chunks. -/
def chunkData (objects : String → List UInt8) (chunks : List UploadStagingChunk) : List UInt8 :=
  chunks.flatMap fun chunk => objects chunk.objectKey

theorem assembled_nil {run : S3Run World} (start : run.requests = base) :
    Assembled descriptor base [] (emptyProgress : AssemblyProgress hash) run where
  requests := by rw [start, BlockStream.blocks_of_lt partSize_pos]; exact (List.append_nil base).symm
  buffer := (BlockStream.rest_of_lt partSize_pos).symm
  numbers := by rw [BlockStream.blocks_of_lt partSize_pos]; rfl
  next := by rw [BlockStream.blocks_of_lt partSize_pos]; rfl
  total := rfl
  md5 := hashed_nil
  sha256 := ⟨[], rfl, rfl⟩
  bounded := by rw [BlockStream.blocks_of_lt partSize_pos]; exact Nat.zero_le _

theorem assembleParts_meets (holds : client.HoldsChunks objects At chunks) {run : S3Run World}
    (buffered : 0 < readBufferSize) (small : readBufferSize ≤ s3MaxReadBufferBytes)
    (start : run.requests = base) :
    Meets (fun (progress : AssemblyProgress hash) =>
        Completed client descriptor base (chunkData objects chunks) progress)
      (Stopped client journal descriptor objects At chunks base (chunkData objects chunks))
      (assembleParts client journal descriptor readBufferSize chunks) run := by
  have round : ∀ passed chunk later, chunks = passed ++ chunk :: later →
      ∀ (progress : AssemblyProgress hash) middle,
        Assembled descriptor base (chunkData objects passed) progress middle →
        Meets (Assembled descriptor base (chunkData objects (passed ++ [chunk])))
          (Stopped client journal descriptor objects At chunks base (chunkData objects chunks))
          (assembleChunk client journal descriptor readBufferSize progress chunk) middle := by
    intro passed chunk later split progress middle assembled
    have listed : chunk ∈ chunks := by
      rw [split]
      exact List.mem_append_right passed List.mem_cons_self
    have next : chunkData objects (passed ++ [chunk]) =
        chunkData objects passed ++ objects chunk.objectKey := by
      unfold chunkData
      rw [List.flatMap_append, List.flatMap_singleton]
    have whole : chunkData objects chunks =
        chunkData objects passed ++ objects chunk.objectKey ++ chunkData objects later := by
      rw [← next, split]
      unfold chunkData
      rw [← List.flatMap_append, List.append_assoc]
      rfl
    rw [next]
    exact assembleChunk_meets holds buffered small listed whole assembled
  unfold assembleParts
  apply meets_bind (meets_foldlM round (assembled_nil start))
  intro progress middle assembled
  apply meets_bind assembled.finish_meets
  intro last after finished
  split
  · rename_i empty
    apply meets_throw
    apply finished.stopped rfl
    intro _
    right
    have none := finished.numbers
    rw [empty] at none
    have absent : partsOf (chunkData objects chunks) = [] :=
      List.eq_nil_of_length_eq_zero (List.range'_eq_nil_iff.mp none.symm)
    rw [← (partsOf_cut (chunkData objects chunks)).whole, absent]
    rfl
  · have renewed : Meets (fun _ later => later.requests = after.requests)
        (Stopped client journal descriptor objects At chunks base (chunkData objects chunks))
        (renew journal descriptor) after := by
      apply meets_renew
      intro failure later failed same
      apply finished.stopped same
      intro cooperates
      exact absurd (cooperates.renews descriptor after.world) failed
    apply meets_bind renewed
    intro _ later same
    have completion : later.requests ++ [S3Request.completeMultipartUpload descriptor.key
        descriptor.uploadId last.completedParts false] =
        base ++ partRequests descriptor (partsOf (chunkData objects chunks)) ++
          [.completeMultipartUpload descriptor.key descriptor.uploadId last.completedParts false] := by
      rw [same, finished.requests]
    have completed : Meets (fun _ final => Completed client descriptor base (chunkData objects chunks) last final)
        (Stopped client journal descriptor objects At chunks base (chunkData objects chunks))
        (send (.completeMultipartUpload descriptor.key descriptor.uploadId last.completedParts false)
          (client.completeMultipartUpload descriptor.key descriptor.uploadId last.completedParts
            false)) later := by
      apply meets_send
      · intro created accepted
        exact ⟨completion, ⟨later.world, created, Prod.ext accepted rfl⟩, finished.numbers, finished.total, finished.md5, finished.sha256,
          finished.bounded⟩
      · intro failure failed
        refine ⟨⟨_, _, List.prefix_rfl, completion, ?_⟩, ?_⟩
        · intro request present
          obtain rfl := List.mem_singleton.mp present
          exact ⟨rfl, fun _ => finished.bounded⟩
        · intro cooperates
          obtain ⟨created, accepted⟩ := cooperates.completes descriptor.key descriptor.uploadId
            last.completedParts false later.world
          rw [accepted] at failed
          cases failed
    apply meets_bind completed
    intro _ final done
    exact meets_pure done

/-- The pieces under the numbers from one on. -/
def numbered (pieces : List (List UInt8)) : List (Nat × List UInt8) :=
  pieces.zipIdx.map fun (piece, index) => (index + 1, piece)

theorem uploadedPart_partRequests (pieces : List (List UInt8)) :
    (partRequests descriptor pieces).filterMap S3Request.uploadedPart = numbered pieces := by
  unfold partRequests numbered
  rw [List.filterMap_map, ← List.filterMap_eq_map]
  rfl

theorem uploadedPart_completed (key : String) (pieces : List (List UInt8)) (parts : List S3CompletedPart) :
    ([S3Request.createMultipartUpload key] ++ partRequests descriptor pieces ++
      [S3Request.completeMultipartUpload descriptor.key descriptor.uploadId parts false]).filterMap
        S3Request.uploadedPart = numbered pieces := by
  have first : [S3Request.createMultipartUpload key].filterMap S3Request.uploadedPart = [] := rfl
  have last : [S3Request.completeMultipartUpload descriptor.key descriptor.uploadId parts false].filterMap
      S3Request.uploadedPart = [] := rfl
  rw [List.filterMap_append, List.filterMap_append, uploadedPart_partRequests, first, last,
    List.nil_append, List.append_nil]

theorem numbered_prefix {sent pieces : List (List UInt8)} (first : sent <+: pieces) :
    numbered sent <+: numbered pieces := by
  obtain ⟨later, rfl⟩ := first
  unfold numbered
  rw [List.zipIdx_append, List.map_append]
  exact List.prefix_append _ _

theorem completes_partRequests {pieces : List (List UInt8)} {request : S3Request}
    (present : request ∈ partRequests descriptor pieces) : request.completes = false := by
  obtain ⟨⟨piece, index⟩, -, rfl⟩ := List.mem_map.mp present
  rfl

theorem abortUpload_requests (tracked : Bool) (run : S3Run World) :
    (abortUpload client journal descriptor tracked run).requests =
      run.requests ++ [.abortMultipartUpload descriptor.key descriptor.uploadId] := by
  unfold abortUpload
  dsimp only
  split
  · cases tracked <;> rfl
  · cases tracked <;> rfl
  · rfl

/-- After the completion the store answers for the assembled object with the size of the data. -/
def AnswersAssembled (client : S3Client World Stream) (journal : MultipartUploadJournal World)
    (key : String) (size : Nat) : Prop :=
  ∀ uploadId parts created before after,
    client.completeMultipartUpload key uploadId parts false before = (.ok created, after) →
      ∃ head, (client.headObject key (journal.resolve ⟨key, uploadId⟩ after).2).1 = .ok head ∧
        head.present = true ∧ head.size.toNat = size

/-- What an assembly that failed has sent, and why it failed. -/
structure FailedAssembly (client : S3Client World Stream) (recovery : Option (MultipartUploadJournal World))
    (objects : String → List UInt8) (At : List UInt8 → Nat → Stream → Prop)
    (chunks : List UploadStagingChunk) (key : String) (failure : CallFailure) (run : S3Run World) :
    Prop where
  sent : run.requests.filterMap S3Request.uploadedPart <+: numbered (partsOf (chunkData objects chunks))
  completes : ∀ request ∈ run.requests, request.completes = true →
    (partsOf (chunkData objects chunks)).length ≤ s3MaxMultipartParts
  reason : ∀ journal, recovery = some journal → Cooperates client journal objects At chunks →
    AnswersAssembled client journal key (chunkData objects chunks).length →
    s3MaxMultipartParts < (partsOf (chunkData objects chunks)).length ∨ chunkData objects chunks = []

theorem Stopped.failed {key : String} {failure : CallFailure} {run after : S3Run World}
    {last : List S3Request}
    (stopped : Stopped client journal descriptor objects At chunks [.createMultipartUpload key]
      (chunkData objects chunks) failure run)
    (requests : after.requests = run.requests ++ last)
    (silent : ∀ request ∈ last, request.uploadedPart = none ∧ request.completes = false) :
    FailedAssembly client (some journal) objects At chunks key failure after := by
  obtain ⟨sent, closing, first, sends, quiet⟩ := stopped.requests
  have unseen : ∀ list : List S3Request, (∀ request ∈ list, request.uploadedPart = none) →
      list.filterMap S3Request.uploadedPart = [] := fun list => List.filterMap_eq_nil_iff.mpr
  refine ⟨?_, ?_, ?_⟩
  · rw [requests, sends, List.filterMap_append, List.filterMap_append, List.filterMap_append,
      unseen closing fun request present => (quiet request present).1,
      unseen last fun request present => (silent request present).1, uploadedPart_partRequests,
      List.append_nil, List.append_nil]
    exact numbered_prefix first
  · intro request present completes
    rw [requests, sends] at present
    simp only [List.mem_append, List.mem_singleton] at present
    rcases present with ((rfl | part) | ended) | after
    · cases completes
    · rw [completes_partRequests part] at completes
      cases completes
    · exact (quiet request ended).2 completes
    · rw [(silent request after).2] at completes
      cases completes
  · rintro _ ⟨⟩ cooperates -
    exact stopped.reason cooperates

/-- An assembly that succeeded has completed an upload of exactly the parts and describes the data. -/
structure SucceededAssembly (hash : CryptoHashSha256) (key : String) (data : List UInt8)
    (assembly : UploadStagingAssembly) (run : S3Run World) : Prop where
  sent : run.requests.filterMap S3Request.uploadedPart = numbered (partsOf data)
  completed : ∃ uploadId parts, S3Request.completeMultipartUpload key uploadId parts false ∈ run.requests ∧
    parts.map S3CompletedPart.partNumber = List.range' 1 (partsOf data).length
  locator : assembly.locator = key
  size : assembly.sizeBytes.toNat = data.length
  md5 : assembly.md5Hash = bytesToHex (Rfc1321.digest data)
  sha256 : assembly.sha256Hash = bytesToHex (hash.digest data)
  bounded : (partsOf data).length ≤ s3MaxMultipartParts

/-- The final check accepts the assembled object of the data. -/
theorem Completed.succeeded {key uploadId : String} {progress : AssemblyProgress hash}
    {run after : S3Run World}
    (completed : Completed client ⟨key, uploadId⟩ [.createMultipartUpload key] data progress run)
    (same : after.requests = run.requests) :
    SucceededAssembly hash key data
      ⟨.s3, key, .ofNat progress.totalSizeBytes, md5Hex progress.fullMd5,
        bytesToHex (hash.final progress.fullSha256)⟩ after := by
  have blocks := BlockStream.blocks_prefix_pieces.length_le.trans completed.bounded
  have short : data.length < 52434042880 := length_lt_of_blocks blocks
  refine ⟨?_, ⟨uploadId, progress.completedParts, ?_, completed.numbers⟩, rfl, ?_, ?_, ?_,
    completed.bounded⟩
  · rw [same, completed.requests, uploadedPart_completed]
  · rw [same, completed.requests]
    exact List.mem_append_right _ (List.mem_singleton.mpr rfl)
  · change (UInt64.ofNat progress.totalSizeBytes).toNat = data.length
    rw [completed.total, UInt64.toNat_ofNat_of_lt']
    change data.length < 18446744073709551616
    omega
  · exact completed.md5.hex (by omega)
  · exact congrArg bytesToHex completed.sha256.final

theorem Completed.failed {key uploadId : String} {progress : AssemblyProgress hash}
    {run after : S3Run World} {failure : CallFailure}
    (completed : Completed client ⟨key, uploadId⟩ [.createMultipartUpload key]
      (chunkData objects chunks) progress run) (same : after.requests = run.requests)
    (reason : ¬ AnswersAssembled client journal key (chunkData objects chunks).length) :
    FailedAssembly client (some journal) objects At chunks key failure after where
  sent := by
    rw [same, completed.requests, uploadedPart_completed]
  completes _ _ _ := completed.bounded
  reason := by
    rintro _ ⟨⟩ _ answers
    exact absurd answers reason

theorem assembleS3ChunksBlocking_meets (holds : client.HoldsChunks objects At chunks)
    {recovery : Option (MultipartUploadJournal World)} {session : UploadStagingSession}
    {stateVersion : Nat} (world : World) (buffered : 0 < readBufferSize)
    (small : readBufferSize ≤ s3MaxReadBufferBytes) :
    Meets (SucceededAssembly hash (buildS3AssemblyKey session stateVersion) (chunkData objects chunks))
      (FailedAssembly client recovery objects At chunks (buildS3AssemblyKey session stateVersion))
      (assembleS3ChunksBlocking client hash readBufferSize recovery session stateVersion chunks)
      ⟨world, []⟩ := by
  cases recovery with
  | none =>
      apply meets_throw
      refine ⟨List.nil_prefix, ?_, ?_⟩
      · intro request present
        cases present
      · intro journal absent
        cases absent
  | some journal =>
      unfold assembleS3ChunksBlocking
      generalize buildS3AssemblyKey session stateVersion = key
      have created : Meets (fun _ run => run.requests = [.createMultipartUpload key])
          (FailedAssembly client (some journal) objects At chunks key)
          (send (.createMultipartUpload key) (client.createMultipartUpload key)) ⟨world, []⟩ := by
        apply meets_send
        · intro _ _
          rfl
        · intro failure failed
          refine ⟨List.nil_prefix, ?_, ?_⟩
          · intro request present
            obtain rfl := List.mem_singleton.mp present
            intro completes
            cases completes
          · rintro _ ⟨⟩ cooperates -
            obtain ⟨uploadId, accepted⟩ := cooperates.creates key world
            rw [accepted] at failed
            cases failed
      apply meets_bind created
      intro uploadId run start
      have aborts : ∀ request ∈ [S3Request.abortMultipartUpload key uploadId],
          request.uploadedPart = none ∧ request.completes = false := by
        intro request present
        obtain rfl := List.mem_singleton.mp present
        exact ⟨rfl, rfl⟩
      have tracked : Meets (fun _ after => after.requests = [.createMultipartUpload key])
          (FailedAssembly client (some journal) objects At chunks key)
          (guarded (abortUpload client journal ⟨key, uploadId⟩ false) (track journal ⟨key, uploadId⟩))
          run := by
        have tracking : Meets (fun _ after => after.requests = [.createMultipartUpload key])
            (Stopped client journal ⟨key, uploadId⟩ objects At chunks [.createMultipartUpload key]
              (chunkData objects chunks)) (track journal ⟨key, uploadId⟩) run := by
          apply meets_ask
          · intro _ _
            exact start
          · intro failure failed
            refine stopped_of_sent List.nil_prefix start ?_
            intro cooperates
            exact absurd (cooperates.tracks ⟨key, uploadId⟩ run.world) (recovered_error failure failed)
        apply meets_guarded tracking
        intro failure after stopped
        exact stopped.failed (abortUpload_requests false after) aborts
      apply meets_bind tracked
      intro _ middle begun
      have parts : Meets (fun (progress : AssemblyProgress hash) =>
            Completed client ⟨key, uploadId⟩ [.createMultipartUpload key] (chunkData objects chunks)
              progress)
          (FailedAssembly client (some journal) objects At chunks key)
          (guarded (abortUpload client journal ⟨key, uploadId⟩ true)
            (assembleParts client journal ⟨key, uploadId⟩ readBufferSize chunks)) middle := by
        apply meets_guarded (assembleParts_meets holds buffered small begun)
        intro failure after stopped
        exact stopped.failed (abortUpload_requests true after) aborts
      apply meets_bind parts
      intro progress final completed
      refine meets_bind (meets_modify rfl) ?_
      rintro _ _ rfl
      obtain ⟨before, created, accepted⟩ := completed.answered
      have headed : Meets (fun head after => after.requests = final.requests ∧
            (AnswersAssembled client journal key (chunkData objects chunks).length →
              head.present = true ∧ head.size.toNat = (chunkData objects chunks).length))
          (FailedAssembly client (some journal) objects At chunks key)
          (ask (client.headObject key)) (resolveTracked journal ⟨key, uploadId⟩ final) := by
        apply meets_ask
        · intro head answered
          refine ⟨rfl, ?_⟩
          intro answers
          obtain ⟨other, given, present, size⟩ := answers _ _ _ _ _ accepted
          cases given.symm.trans answered
          exact ⟨present, size⟩
        · intro failure failed
          refine completed.failed rfl ?_
          intro answers
          obtain ⟨other, given, -⟩ := answers _ _ _ _ _ accepted
          cases given.symm.trans failed
      apply meets_bind headed
      rintro head after ⟨unchanged, honest⟩
      split
      · rename_i refused
        apply meets_throw
        apply completed.failed unchanged
        intro answers
        obtain ⟨present, size⟩ := honest answers
        rw [present, size, completed.total] at refused
        simp at refused
      · exact meets_pure (completed.succeeded unchanged)

end Assembly

end DiskServer.Storage
