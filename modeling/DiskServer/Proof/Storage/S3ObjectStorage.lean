import DiskServer.Proof.Storage.PromotionCopy
import DiskServer.Proof.Storage.StagingKeys

namespace DiskServer.Storage

open Library Library.Autocommit Utils Jobs

section Partition

variable {World Stream : Type} {client : S3Client World Stream}
  {recovery : Option (MultipartUploadJournal World)} {hash : CryptoHashSha256}
  {objects : String → List UInt8} {At : List UInt8 → Nat → Stream → Prop}
  {chunks : List UploadStagingChunk} {localAssembleChunks : S3Task World UploadStagingAssembly}
  {stagingPrefix : String} {bufferBytes : UInt32} {slotFree : Bool} {session : UploadStagingSession}
  {stateVersion chunkCount : Nat}

/-- `AssembleChunks` hands these chunks to the assembly. -/
structure AcceptsChunks (stagingPrefix : String) (slotFree : Bool) (session : UploadStagingSession)
    (stateVersion chunkCount : Nat) (chunks : List UploadStagingChunk) : Prop where
  valid : validateS3Session session stagingPrefix = true
  version : stateVersion ≠ 0
  counted : chunks.length = chunkCount
  described : (chunks.zipIdx.all fun (chunk, position) =>
    validateS3ChunkDescriptor session position chunk) = true
  slot : slotFree = true

theorem resolveS3ReadBufferSize_bounds (configured : UInt32) :
    0 < resolveS3ReadBufferSize configured ∧
      resolveS3ReadBufferSize configured ≤ s3MaxReadBufferBytes := by
  unfold resolveS3ReadBufferSize s3MinReadBufferBytes s3MaxReadBufferBytes
  omega

/-- Refused chunks leave the store alone, and accepted chunks are assembled. -/
theorem assembleChunks_meets (holds : client.HoldsChunks objects At chunks)
    (remote : session.backend = .s3) (world : World) :
    Meets (SucceededAssembly hash (buildS3AssemblyKey session stateVersion) (chunkData objects chunks))
      (fun failure run =>
        ¬ AcceptsChunks stagingPrefix slotFree session stateVersion chunkCount chunks ∧
            run.requests = [] ∨
          FailedAssembly client recovery objects At chunks (buildS3AssemblyKey session stateVersion)
            failure run)
      (assembleChunks client recovery hash localAssembleChunks stagingPrefix bufferBytes slotFree session
        stateVersion chunkCount chunks) ⟨world, []⟩ := by
  obtain ⟨buffered, small⟩ := resolveS3ReadBufferSize_bounds bufferBytes
  unfold assembleChunks
  rw [if_neg (by rw [remote]; decide)]
  split
  · rename_i refused
    refine meets_throw (.inl ⟨?_, rfl⟩)
    intro accepts
    rw [accepts.valid] at refused
    cases refused
  · split
    · rename_i refused
      refine meets_throw (.inl ⟨?_, rfl⟩)
      intro accepts
      simp [accepts.version, accepts.counted] at refused
    · split
      · rename_i refused
        refine meets_throw (.inl ⟨?_, rfl⟩)
        intro accepts
        rw [accepts.described] at refused
        cases refused
      · split
        · rename_i refused
          refine meets_throw (.inl ⟨?_, rfl⟩)
          intro accepts
          rw [accepts.slot] at refused
          cases refused
        · apply (assembleS3ChunksBlocking_meets holds world buffered small).weaken
          · intro assembly run succeeded
            exact succeeded
          · intro failure run failed
            exact .inr failed

/-- The parts that an assembly sends partition its chunks, a failed one never completes, and the ranges
of a copy partition the object and are all copied when a promotion ends well without finding it. -/
theorem multipart_partitions (holds : client.HoldsChunks objects At chunks)
    (remote : session.backend = .s3) (world : World) :
    (CutIntoParts (partsOf (chunkData objects chunks)) (chunkData objects chunks) ∧
      ∀ result run, outcome (assembleChunks client recovery hash localAssembleChunks stagingPrefix
          bufferBytes slotFree session stateVersion chunkCount chunks) ⟨world, []⟩ = (result, run) →
        run.requests.filterMap S3Request.uploadedPart <+: numbered (partsOf (chunkData objects chunks)) ∧
        (∀ assembly, result = .ok assembly →
          SucceededAssembly hash (buildS3AssemblyKey session stateVersion) (chunkData objects chunks)
            assembly run) ∧
        (s3MaxMultipartParts < (partsOf (chunkData objects chunks)).length →
          (∃ failure, result = .error failure) ∧
            ∀ request ∈ run.requests, request.completes = false) ∧
        (∀ journal, recovery = some journal →
          AcceptsChunks stagingPrefix slotFree session stateVersion chunkCount chunks →
          Cooperates client journal objects At chunks →
          AnswersAssembled client journal (buildS3AssemblyKey session stateVersion)
            (chunkData objects chunks).length →
          chunkData objects chunks ≠ [] →
          (partsOf (chunkData objects chunks)).length ≤ s3MaxMultipartParts →
          ∃ assembly, result = .ok assembly)) ∧
    (∀ expectedSize, 1 ≤ expectedSize →
      (copyRanges expectedSize).flatMap (fun range => List.range' range.2.1 range.2.2) =
        List.range expectedSize ∧
      ∀ data pieces, CutIntoParts pieces data → data.length = expectedSize →
        (copyRanges expectedSize).length = pieces.length) ∧
    ∀ localFileSize objectPrefix (assembly : UploadStagingAssembly) sha256Hash result run,
      assembly.backend = .s3 → 1 ≤ assembly.sizeBytes.toNat →
      outcome (promoteToFinal client recovery localFileSize stagingPrefix objectPrefix assembly
        sha256Hash) ⟨world, []⟩ = (result, run) →
      PromotesInOrder assembly.sizeBytes run ∧
        (∀ promoted, result = .ok promoted →
          run.requests = [] ∧ promoted = ⟨finalObjectKey objectPrefix sha256Hash, false⟩ ∧
              client.Holds (finalObjectKey objectPrefix sha256Hash) assembly.sizeBytes world ∨
            CopiedAll (finalObjectKey objectPrefix sha256Hash) assembly.sizeBytes.toNat run) ∧
        ∀ journal, recovery = some journal →
          AcceptsPromotion client stagingPrefix (finalObjectKey objectPrefix sha256Hash) assembly
            sha256Hash world →
          CooperatesCopy client journal (finalObjectKey objectPrefix sha256Hash) assembly.sizeBytes →
          (copyRanges assembly.sizeBytes.toNat).length ≤ s3MaxMultipartParts →
          ∃ promoted, result = .ok promoted ∧
            CopiedAll (finalObjectKey objectPrefix sha256Hash) assembly.sizeBytes.toNat run := by
  refine ⟨⟨partsOf_cut _, ?_⟩, ?_, ?_⟩
  · intro result run ran
    have meets : Meets _ _ (assembleChunks client recovery hash localAssembleChunks stagingPrefix
        bufferBytes slotFree session stateVersion chunkCount chunks) ⟨world, []⟩ :=
      assembleChunks_meets holds remote world
    cases result with
    | ok assembly =>
        have succeeded := meets.ok ran
        refine ⟨?_, ?_, ?_, ?_⟩
        · rw [succeeded.sent]
        · rintro _ ⟨⟩
          exact succeeded
        · intro exceeds
          exact absurd succeeded.bounded (Nat.not_le.mpr exceeds)
        · intro _ _ _ _ _ _ _
          exact ⟨assembly, rfl⟩
    | error failure =>
        rcases meets.error ran with ⟨refused, fresh⟩ | failed
        · rw [fresh]
          refine ⟨List.nil_prefix, ?_, ?_, ?_⟩
          · rintro _ ⟨⟩
          · intro _
            refine ⟨⟨failure, rfl⟩, ?_⟩
            intro request present
            cases present
          · intro _ _ accepts
            exact absurd accepts refused
        · refine ⟨failed.sent, ?_, ?_, ?_⟩
          · rintro _ ⟨⟩
          · intro exceeds
            refine ⟨⟨failure, rfl⟩, ?_⟩
            intro request present
            apply Bool.eq_false_iff.mpr
            intro completes
            exact absurd (failed.completes request present completes) (Nat.not_le.mpr exceeds)
          · intro journal configured _ cooperates answers nonempty fits
            rcases failed.reason journal configured cooperates answers with exceeds | empty
            · exact absurd fits (Nat.not_le.mpr exceeds)
            · exact absurd empty nonempty
  · intro expectedSize filled
    refine ⟨copyRanges_partition filled, ?_⟩
    rintro data pieces cut rfl
    rw [cut.length filled]
    unfold copyRanges firstRanges
    rw [List.length_map, List.length_range]
  · intro localFileSize objectPrefix assembly sha256Hash result run s3 filled ran
    have meets : Meets _ _ (promoteToFinal client recovery localFileSize stagingPrefix objectPrefix
        assembly sha256Hash) ⟨world, []⟩ :=
      promoteToFinal_meets recovery localFileSize stagingPrefix objectPrefix sha256Hash world s3 filled
    cases result with
    | ok promoted =>
        obtain ⟨ordered, ended⟩ := meets.ok ran
        refine ⟨ordered, ?_, ?_⟩
        · rintro _ ⟨⟩
          exact ended
        · intro journal _ accepts _ _
          rcases ended with ⟨-, -, head, answered, present, -⟩ | all
          · obtain ⟨other, again, missing⟩ := accepts.missing
            cases answered.symm.trans again
            rw [present] at missing
            cases missing
          · exact ⟨promoted, rfl, all⟩
    | error failure =>
        refine ⟨meets.error ran, ?_, ?_⟩
        · rintro _ ⟨⟩
        · rintro journal rfl accepts cooperates fits
          rw [copyRanges_length] at fits
          exact ((promoteToFinal_succeeds localFileSize s3 filled accepts cooperates fits).error ran).elim

/-- A stream that returns one byte at a time. -/
def singleByteStream : ReadStream UInt8 (List UInt8 × Nat) where
  read state wanted :=
    (some ((state.1.drop state.2).take (min wanted 1)),
      (state.1, state.2 + ((state.1.drop state.2).take (min wanted 1)).length))
  close state := state

theorem singleByteStream_serves (content : List UInt8) :
    singleByteStream.Serves content fun position state => state = (content, position) := by
  refine ⟨?_, ?_, ?_, ?_⟩
  · rintro position _ wanted rfl
    change ((content.drop position).take (min wanted 1)).length ≤ wanted
    rw [List.length_take]
    omega
  · rintro position _ wanted rfl
    exact List.prefix_iff_eq_take.mp (List.take_prefix _ _)
  · rintro position _ wanted rfl
    rfl
  · rintro position _ rfl
    rfl

def storedChunk : UploadStagingChunk where
  chunkIndex := 0
  sizeBytes := 2
  md5Hash := "187ef4436122d1cc2f40dc2b92f0eba0"
  objectKey := "staging/u/chunks/0-187ef4436122d1cc2f40dc2b92f0eba0.part"
  etag := "e"

/-- A store with one chunk, whose world lists the keys of the objects that were completed. -/
def smallStore : S3Client (List String) (List UInt8 × Nat) where
  headObject key world :=
    if key = storedChunk.objectKey then (.ok ⟨true, 2, "e"⟩, world)
    else (.ok ⟨decide (key ∈ world), 2, "f"⟩, world)
  putObjectIfAbsent _ _ world := (.ok ⟨"f", false⟩, world)
  putObjectFromFileIfAbsent _ _ world := (.ok ⟨"f", false⟩, world)
  getObjectRange _ start length world := (.ok (some (([97, 98].drop start).take length, 0)), world)
  createMultipartUpload _ world := (.ok "upload", world)
  uploadPart _ _ _ _ world := (.ok "part", world)
  uploadPartCopy _ _ _ _ _ _ world := (.ok "part", world)
  completeMultipartUpload key _ _ onlyIfAbsent world :=
    (.ok (!(onlyIfAbsent && decide (key ∈ world))), key :: world)
  abortMultipartUpload _ _ world := (.ok (), world)
  stream := singleByteStream

def quietJournal : MultipartUploadJournal (List String) where
  track _ world := (.ok (), world)
  renew _ world := (.ok (), world)
  resolve _ world := (.ok (), world)
  releaseForRetry _ _ world := (.ok (), world)

/-- The hash agrees with SHA-256 on the message of the example. -/
def exampleSha256 : CryptoHashSha256 where
  State := List UInt8
  init := []
  update state piece := state ++ piece
  final message := if message = [97, 98] then [251, 142, 32, 252, 46, 76, 63, 36, 140, 96, 195, 155, 214, 82, 243, 193, 52, 114, 152, 187, 151, 123, 139, 77, 89, 3, 184, 80, 85, 98, 6, 3] else []
  digest message := if message = [97, 98] then [251, 142, 32, 252, 46, 76, 63, 36, 140, 96, 195, 155, 214, 82, 243, 193, 52, 114, 152, 187, 151, 123, 139, 77, 89, 3, 184, 80, 85, 98, 6, 3] else []
  streams pieces := by
    have joined : ∀ before : List UInt8,
        pieces.foldl (fun state piece => state ++ piece) before = before ++ pieces.flatten := by
      induction pieces with
      | nil => exact fun before => (List.append_nil before).symm
      | cons piece others ih =>
          intro before
          rw [List.foldl_cons, ih, List.flatten_cons, List.append_assoc]
    rw [joined, List.nil_append]

theorem smallStore_holds : smallStore.HoldsChunks (fun _ => [97, 98])
    (fun content position state => state = (content, position)) [storedChunk] := by
  refine ⟨?_, ?_, singleByteStream_serves⟩
  · intro chunk listed world head answered _
    obtain rfl := List.mem_singleton.mp listed
    cases answered
    rfl
  · intro chunk listed world stream answered
    obtain rfl := List.mem_singleton.mp listed
    cases answered
    rfl

theorem smallStore_cooperates {key : String} : CooperatesCopy smallStore quietJournal key 2 := by
  have holds : ∀ world, smallStore.Holds key 2 (key :: world) := by
    intro world
    unfold S3Client.Holds smallStore
    dsimp only
    split
    · exact ⟨_, rfl, rfl, rfl⟩
    · exact ⟨_, rfl, decide_eq_true List.mem_cons_self, rfl⟩
  refine ⟨fun _ => ⟨_, rfl⟩, fun _ _ _ _ _ _ => ⟨_, rfl⟩, fun _ _ _ => ⟨_, rfl⟩, fun _ _ => rfl,
    fun _ _ => rfl, ?_⟩
  rintro uploadId parts created before _ ⟨⟩
  exact ⟨holds before, holds before⟩

def assembledTwoBytes : UploadStagingAssembly where
  backend := .s3
  locator := "staging/u/assembled/1.bin"
  sizeBytes := 2
  md5Hash := "187ef4436122d1cc2f40dc2b92f0eba0"
  sha256Hash := "fb8e20fc2e4c3f248c60c39bd652f3c1347298bb977b8b4d5903b85055620603"

theorem accepts_twoBytes : AcceptsPromotion smallStore "staging"
    (finalObjectKey "objects" assembledTwoBytes.sha256Hash) assembledTwoBytes
    assembledTwoBytes.sha256Hash ["staging/u/assembled/1.bin"] where
  hashed := by decide +kernel
  same := rfl
  located := by decide
  valid := validateS3AssemblyLocator_iff.mpr
    ⟨rfl, "u", 1, by decide, by decide, by decide +kernel, by decide +kernel⟩
  missing := ⟨⟨false, 2, "f"⟩, by decide +kernel, rfl⟩
  source := ⟨⟨true, 2, "f"⟩, by decide +kernel, rfl, rfl⟩

/-- Two bytes are assembled, and the assembled object is copied to its final key. -/
theorem multipart_partitions_two_bytes :
    (∃ assembly run, outcome (assembleChunks smallStore (some quietJournal) exampleSha256
        (throw .thrown) "staging" 0 true ⟨"u", .s3, "staging/u"⟩ 1 1 [storedChunk]) ⟨[], []⟩ =
        (.ok assembly, run) ∧
      SucceededAssembly exampleSha256 "staging/u/assembled/1.bin" [97, 98] assembly run) ∧
    ∃ promoted run, outcome (promoteToFinal smallStore (some quietJournal) (fun _ => none) "staging"
        "objects" assembledTwoBytes assembledTwoBytes.sha256Hash)
        ⟨["staging/u/assembled/1.bin"], []⟩ = (.ok promoted, run) ∧
      CopiedAll (finalObjectKey "objects" assembledTwoBytes.sha256Hash) 2 run := by
  constructor
  · have done : (outcome (assembleChunks smallStore (some quietJournal) exampleSha256
        (throw .thrown) "staging" 0 true ⟨"u", .s3, "staging/u"⟩ 1 1 [storedChunk])
        ⟨[], []⟩).1.isOk = true := by
      decide +kernel
    rcases ran : outcome (assembleChunks smallStore (some quietJournal) exampleSha256
      (throw .thrown) "staging" 0 true ⟨"u", .s3, "staging/u"⟩ 1 1 [storedChunk]) ⟨[], []⟩
      with ⟨failure | assembly, run⟩
    · rw [ran] at done
      cases done
    · exact ⟨assembly, run, ran,
        ((multipart_partitions smallStore_holds rfl []).1.2 _ _ ran).2.1 assembly rfl⟩
  · rcases ran : outcome (promoteToFinal smallStore (some quietJournal) (fun _ => none) "staging"
      "objects" assembledTwoBytes assembledTwoBytes.sha256Hash) ⟨["staging/u/assembled/1.bin"], []⟩
      with ⟨result, run⟩
    have promotion := (@multipart_partitions _ _ _ (some quietJournal) exampleSha256 _ _ _ (throw .thrown)
      "staging" 0 true ⟨"u", .s3, "staging/u"⟩ 1 1 smallStore_holds rfl ["staging/u/assembled/1.bin"]).2.2
    obtain ⟨promoted, rfl, all⟩ := (promotion _ _ assembledTwoBytes _ _ _ rfl (by decide) ran).2.2
      quietJournal rfl accepts_twoBytes smallStore_cooperates (by decide)
    exact ⟨promoted, run, rfl, all⟩

end Partition

end DiskServer.Storage
