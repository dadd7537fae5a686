import DiskServer.Proof.Storage.ChunkAssembly

namespace DiskServer.Storage

open Library Library.Autocommit Utils Jobs

section Copy

variable {World Stream : Type} {client : S3Client World Stream} {journal : MultipartUploadJournal World}
  {descriptor : MultipartUploadDescriptor} {sourceKey key : String} {expectedSize : Nat}
  {base : List S3Request}

/-- The range that a request copies. -/
def S3Request.copiedRange : S3Request → Option (Nat × Nat × Nat)
  | .uploadPartCopy _ _ _ partNumber start length => some (partNumber, start, length)
  | _ => none

/-- The first ranges of a copy, with the numbers of their parts. -/
def firstRanges (expectedSize ranges : Nat) : List (Nat × Nat × Nat) :=
  (List.range ranges).map fun index =>
    (index + 1, Blocks.start s3MultipartPartSizeBytes index,
      Blocks.width expectedSize s3MultipartPartSizeBytes index)

/-- The parts of the promotion copy, each with its start and length. -/
def copyRanges (expectedSize : Nat) : List (Nat × Nat × Nat) :=
  firstRanges expectedSize (Blocks.count expectedSize s3MultipartPartSizeBytes)

/-- The ranges of a copy list every position of the object once and in order. -/
theorem copyRanges_partition (filled : 1 ≤ expectedSize) :
    (copyRanges expectedSize).flatMap (fun range => List.range' range.2.1 range.2.2) =
      List.range expectedSize := by
  unfold copyRanges firstRanges
  rw [List.flatMap_map]
  exact Blocks.flatMap_range'_count filled partSize_pos

/-- A copy has the counted number of ranges. -/
theorem copyRanges_length (expectedSize : Nat) :
    (copyRanges expectedSize).length = copyPartCount expectedSize := by
  unfold copyRanges firstRanges copyPartCount Blocks.count
  rw [List.length_map, List.length_range, Nat.add_comm]

theorem firstRanges_prefix {few many : Nat} (fewer : few ≤ many) :
    firstRanges expectedSize few <+: firstRanges expectedSize many := by
  unfold firstRanges
  rw [← Nat.add_sub_of_le fewer, List.range_add, List.map_append]
  exact List.prefix_append _ _

theorem firstRanges_succ (ranges : Nat) :
    firstRanges expectedSize (ranges + 1) = firstRanges expectedSize ranges ++
      [(ranges + 1, Blocks.start s3MultipartPartSizeBytes ranges,
        Blocks.width expectedSize s3MultipartPartSizeBytes ranges)] := by
  unfold firstRanges
  rw [List.range_succ, List.map_append]
  rfl

/-- The requests that copy the ranges. -/
def copyRequests (descriptor : MultipartUploadDescriptor) (sourceKey : String)
    (ranges : List (Nat × Nat × Nat)) : List S3Request :=
  ranges.map fun (partNumber, start, length) =>
    .uploadPartCopy sourceKey descriptor.key descriptor.uploadId partNumber start length

/-- The loop has copied the first ranges. -/
structure Copied (descriptor : MultipartUploadDescriptor) (sourceKey : String) (expectedSize : Nat)
    (base : List S3Request) (ranges : Nat) (progress : CopyProgress) (run : S3Run World) : Prop where
  requests : run.requests =
    base ++ copyRequests descriptor sourceKey (firstRanges expectedSize ranges)
  offset : progress.offset = min (Blocks.start s3MultipartPartSizeBytes ranges) expectedSize
  numbers : progress.completedParts.map S3CompletedPart.partNumber = List.range' 1 ranges

/-- A copy that stops has copied the first ranges and has asked for no completion before the last. -/
def CopyStopped (descriptor : MultipartUploadDescriptor) (sourceKey : String) (expectedSize : Nat)
    (base : List S3Request) (_ : CallFailure) (run : S3Run World) : Prop :=
  ∃ ranges last, ranges ≤ Blocks.count expectedSize s3MultipartPartSizeBytes ∧
    run.requests = base ++ copyRequests descriptor sourceKey (firstRanges expectedSize ranges) ++ last ∧
    ∀ request ∈ last, request.copiedRange = none ∧
      (request.completes = true → ranges = Blocks.count expectedSize s3MultipartPartSizeBytes)

theorem Copied.stopped {ranges : Nat} {progress : CopyProgress} {run after : S3Run World}
    {failure : CallFailure} (copied : Copied descriptor sourceKey expectedSize base ranges progress run)
    (counted : ranges ≤ Blocks.count expectedSize s3MultipartPartSizeBytes)
    (same : after.requests = run.requests) :
    CopyStopped descriptor sourceKey expectedSize base failure after := by
  refine ⟨ranges, [], counted, ?_, ?_⟩
  · rw [same, copied.requests, List.append_nil]
  · intro request present
    cases present

theorem copyPart_meets {ranges : Nat} {progress : CopyProgress} {run : S3Run World}
    (filled : 1 ≤ expectedSize)
    (counted : ranges < Blocks.count expectedSize s3MultipartPartSizeBytes)
    (copied : Copied descriptor sourceKey expectedSize base ranges progress run) :
    Meets (Copied descriptor sourceKey expectedSize base (ranges + 1))
      (CopyStopped descriptor sourceKey expectedSize base)
      (copyPart client journal descriptor sourceKey expectedSize progress ranges) run := by
  have inside := Blocks.start_lt filled counted
  have ended := Blocks.start_add_width filled counted
  have offset : progress.offset = Blocks.start s3MultipartPartSizeBytes ranges := by
    rw [copied.offset]
    exact Nat.min_eq_left (Nat.le_of_lt inside)
  have width : min s3MultipartPartSizeBytes (expectedSize - progress.offset) =
      Blocks.width expectedSize s3MultipartPartSizeBytes ranges := by
    rw [offset]
    rfl
  have renewed : Meets (fun _ middle => middle.requests = run.requests)
      (CopyStopped descriptor sourceKey expectedSize base) (renew journal descriptor) run := by
    apply meets_renew
    intro failure after _ same
    exact copied.stopped (Nat.le_of_lt counted) same
  unfold copyPart
  apply meets_bind renewed
  intro _ middle same
  rw [width, offset]
  have sends : middle.requests ++ [S3Request.uploadPartCopy sourceKey descriptor.key
      descriptor.uploadId (ranges + 1) (Blocks.start s3MultipartPartSizeBytes ranges)
      (Blocks.width expectedSize s3MultipartPartSizeBytes ranges)] =
      base ++ copyRequests descriptor sourceKey (firstRanges expectedSize (ranges + 1)) := by
    rw [same, copied.requests, firstRanges_succ, List.append_assoc]
    unfold copyRequests
    rw [List.map_append]
    rfl
  have sent : Meets (fun _ after => after.requests =
        base ++ copyRequests descriptor sourceKey (firstRanges expectedSize (ranges + 1)))
      (CopyStopped descriptor sourceKey expectedSize base)
      (send (.uploadPartCopy sourceKey descriptor.key descriptor.uploadId (ranges + 1)
          (Blocks.start s3MultipartPartSizeBytes ranges)
          (Blocks.width expectedSize s3MultipartPartSizeBytes ranges))
        (client.uploadPartCopy sourceKey descriptor.key descriptor.uploadId (ranges + 1)
          (Blocks.start s3MultipartPartSizeBytes ranges)
          (Blocks.width expectedSize s3MultipartPartSizeBytes ranges))) middle := by
    apply meets_send
    · intro _ _
      exact sends
    · intro failure _
      refine ⟨ranges + 1, [], counted, ?_, ?_⟩
      · rw [List.append_nil]
        exact sends
      · intro request present
        cases present
  apply meets_bind sent
  intro etag after requests
  apply meets_pure
  refine ⟨requests, ended, ?_⟩
  rw [List.map_append, copied.numbers, List.range'_concat, Nat.one_mul, Nat.add_comm 1]
  rfl

theorem range_split {count item : Nat} {passed later : List Nat}
    (split : List.range count = passed ++ item :: later) : item = passed.length := by
  have entry := congrArg (fun list : List Nat => list[passed.length]?) split
  have bound := congrArg List.length split
  rw [List.length_range, List.length_append, List.length_cons] at bound
  rw [List.getElem?_range (by omega), List.getElem?_append_right (Nat.le_refl _), Nat.sub_self] at entry
  exact (Option.some.inj entry).symm

theorem copyParts_meets {run : S3Run World} (filled : 1 ≤ expectedSize) (start : run.requests = base) :
    Meets (fun _ after => ∃ parts, after.requests =
          base ++ copyRequests descriptor sourceKey (copyRanges expectedSize) ++
            [.completeMultipartUpload descriptor.key descriptor.uploadId parts true] ∧
          parts.map S3CompletedPart.partNumber = List.range' 1 (copyRanges expectedSize).length)
      (CopyStopped descriptor sourceKey expectedSize base)
      (copyParts client journal descriptor sourceKey expectedSize) run := by
  have count : copyPartCount expectedSize = Blocks.count expectedSize s3MultipartPartSizeBytes :=
    Nat.add_comm _ _
  have round : ∀ passed index later,
      List.range (copyPartCount expectedSize) = passed ++ index :: later →
      ∀ progress middle, Copied descriptor sourceKey expectedSize base passed.length progress middle →
        Meets (Copied descriptor sourceKey expectedSize base (passed ++ [index]).length)
          (CopyStopped descriptor sourceKey expectedSize base)
          (copyPart client journal descriptor sourceKey expectedSize progress index) middle := by
    intro passed index later split progress middle copied
    have bound := congrArg List.length split
    rw [List.length_range, List.length_append, List.length_cons, count] at bound
    obtain rfl := range_split split
    rw [List.length_append, List.length_singleton]
    exact copyPart_meets filled (by omega) copied
  have begins : Copied descriptor sourceKey expectedSize base 0 ⟨0, []⟩ run := by
    refine ⟨?_, ?_, rfl⟩
    · rw [start]
      exact (List.append_nil base).symm
    · unfold Blocks.start
      rw [Nat.zero_mul, Nat.zero_min]
  unfold copyParts
  apply meets_bind (meets_foldlM round begins)
  intro progress middle copied
  rw [List.length_range, count] at copied
  have renewed : Meets (fun _ after => after.requests = middle.requests)
      (CopyStopped descriptor sourceKey expectedSize base) (renew journal descriptor) middle := by
    apply meets_renew
    intro failure after _ same
    exact copied.stopped (Nat.le_refl _) same
  apply meets_bind renewed
  intro _ after same
  have sends : after.requests ++ [S3Request.completeMultipartUpload descriptor.key
      descriptor.uploadId progress.completedParts true] =
      base ++ copyRequests descriptor sourceKey (copyRanges expectedSize) ++
        [.completeMultipartUpload descriptor.key descriptor.uploadId progress.completedParts true] := by
    rw [same, copied.requests]
    rfl
  apply meets_send
  · intro _ _
    refine ⟨progress.completedParts, sends, ?_⟩
    rw [copied.numbers, copyRanges_length, count]
  · intro failure _
    refine ⟨_, _, Nat.le_refl _, sends, ?_⟩
    intro request present
    obtain rfl := List.mem_singleton.mp present
    exact ⟨rfl, fun _ => rfl⟩

/-- The requests copy ranges of the partition in order, and all of them before the completion. -/
structure CopiesInOrder (expectedSize : Nat) (run : S3Run World) : Prop where
  copied : run.requests.filterMap S3Request.copiedRange <+: copyRanges expectedSize
  completed : ∀ request ∈ run.requests, request.completes = true →
    run.requests.filterMap S3Request.copiedRange = copyRanges expectedSize

theorem copiedRange_copyRequests (ranges : List (Nat × Nat × Nat)) :
    (copyRequests descriptor sourceKey ranges).filterMap S3Request.copiedRange = ranges := by
  unfold copyRequests
  rw [List.filterMap_map]
  exact List.filterMap_some

theorem completes_copyRequests {ranges : List (Nat × Nat × Nat)} {request : S3Request}
    (present : request ∈ copyRequests descriptor sourceKey ranges) : request.completes = false := by
  obtain ⟨range, -, rfl⟩ := List.mem_map.mp present
  rfl

/-- Requests that neither copy nor complete change nothing. -/
theorem CopiesInOrder.append {run after : S3Run World} {last : List S3Request}
    (copies : CopiesInOrder expectedSize run) (requests : after.requests = run.requests ++ last)
    (silent : ∀ request ∈ last, request.copiedRange = none ∧ request.completes = false) :
    CopiesInOrder expectedSize after := by
  have same : after.requests.filterMap S3Request.copiedRange =
      run.requests.filterMap S3Request.copiedRange := by
    rw [requests, List.filterMap_append,
      List.filterMap_eq_nil_iff.mpr fun request present => (silent request present).1, List.append_nil]
  refine ⟨?_, ?_⟩
  · rw [same]
    exact copies.copied
  · intro request present completes
    rw [same]
    rw [requests] at present
    rcases List.mem_append.mp present with before | ended
    · exact copies.completed request before completes
    · rw [(silent request ended).2] at completes
      cases completes

theorem CopiesInOrder.abort {run : S3Run World} (tracked : Bool)
    (copies : CopiesInOrder expectedSize run) :
    CopiesInOrder expectedSize (abortUpload client journal descriptor tracked run) := by
  apply copies.append (abortUpload_requests tracked run)
  intro request present
  obtain rfl := List.mem_singleton.mp present
  exact ⟨rfl, rfl⟩

theorem copiesInOrder_of_silent {run : S3Run World}
    (silent : ∀ request ∈ run.requests, request.copiedRange = none ∧ request.completes = false) :
    CopiesInOrder expectedSize run := by
  have empty : CopiesInOrder expectedSize (⟨run.world, []⟩ : S3Run World) := by
    refine ⟨List.nil_prefix, ?_⟩
    intro request present
    cases present
  exact empty.append rfl silent

theorem CopyStopped.copies {failure : CallFailure} {run : S3Run World}
    (stopped : CopyStopped descriptor sourceKey expectedSize [.createMultipartUpload key] failure run) :
    CopiesInOrder expectedSize run := by
  obtain ⟨ranges, last, counted, requests, quiet⟩ := stopped
  have copied : run.requests.filterMap S3Request.copiedRange = firstRanges expectedSize ranges := by
    rw [requests, List.filterMap_append, List.filterMap_append, copiedRange_copyRequests,
      List.filterMap_eq_nil_iff.mpr fun request present => (quiet request present).1, List.append_nil]
    rfl
  refine ⟨?_, ?_⟩
  · rw [copied]
    exact firstRanges_prefix counted
  · intro request present completes
    rw [requests] at present
    simp only [List.mem_append, List.mem_singleton] at present
    rcases present with (rfl | copy) | ended
    · cases completes
    · rw [completes_copyRequests copy] at completes
      cases completes
    · rw [copied, (quiet request ended).2 completes]
      rfl

/-- A copy has sent all its ranges and has completed the upload with the numbers of their parts. -/
structure CopiedAll (key : String) (expectedSize : Nat) (run : S3Run World) : Prop where
  ranges : run.requests.filterMap S3Request.copiedRange = copyRanges expectedSize
  completed : ∃ uploadId parts, S3Request.completeMultipartUpload key uploadId parts true ∈ run.requests ∧
    parts.map S3CompletedPart.partNumber = List.range' 1 (copyRanges expectedSize).length

theorem CopiedAll.copies {run : S3Run World} (all : CopiedAll key expectedSize run) :
    CopiesInOrder expectedSize run where
  copied := all.ranges ▸ List.prefix_rfl
  completed _ _ _ := all.ranges

theorem CopiedAll.abort {run : S3Run World} (all : CopiedAll key expectedSize run) :
    CopiedAll key expectedSize (abortUpload client journal descriptor true run) := by
  obtain ⟨uploadId, parts, present, numbers⟩ := all.completed
  refine ⟨?_, uploadId, parts, ?_, numbers⟩
  · rw [abortUpload_requests, List.filterMap_append, all.ranges]
    exact List.append_nil _
  · rw [abortUpload_requests]
    exact List.mem_append_left _ present

theorem CopiedAll.of_requests {run after : S3Run World} (all : CopiedAll key expectedSize run)
    (same : after.requests = run.requests) : CopiedAll key expectedSize after :=
  ⟨by rw [same, all.ranges], by rw [same]; exact all.completed⟩

theorem verifyFinalObjectSize_meets {run : S3Run World} {size : UInt64} {good : S3Run World → Prop}
    (holds : ∀ after : S3Run World, after.requests = run.requests → good after) :
    Meets (fun _ => good) (fun _ => good) (verifyFinalObjectSize client key size) run := by
  have headed : Meets (fun _ after => after.requests = run.requests) (fun _ => good)
      (ask (client.headObject key)) run := by
    apply meets_ask
    · intro _ _
      rfl
    · intro _ _
      exact holds _ rfl
  unfold verifyFinalObjectSize
  apply meets_bind headed
  intro head after same
  split
  · exact meets_throw (holds after same)
  · exact meets_pure (holds after same)

/-- A copy sends its ranges in order, and one that ends well has sent all of them. -/
theorem copyToFinal_meets {before : S3Run World} (fresh : before.requests = []) {size : UInt64}
    (filled : 1 ≤ size.toNat) :
    Meets (fun _ => CopiedAll key size.toNat) (fun _ => CopiesInOrder size.toNat)
      (copyToFinal client journal sourceKey key size) before := by
  have opening : ∀ run : S3Run World, run.requests = [.createMultipartUpload key] →
      CopiesInOrder size.toNat run := by
    intro run requests
    apply copiesInOrder_of_silent
    intro request present
    rw [requests] at present
    obtain rfl := List.mem_singleton.mp present
    exact ⟨rfl, rfl⟩
  have created : Meets (fun _ run => run.requests = [.createMultipartUpload key])
      (fun _ => CopiesInOrder size.toNat)
      (send (.createMultipartUpload key) (client.createMultipartUpload key)) before := by
    apply meets_send
    · intro _ _
      rw [fresh]
      rfl
    · intro _ _
      apply opening
      rw [fresh]
      rfl
  unfold copyToFinal
  apply meets_bind created
  intro uploadId run start
  have tracking : Meets (fun _ after => after.requests = [.createMultipartUpload key])
      (fun _ => CopiesInOrder size.toNat) (track journal ⟨key, uploadId⟩) run := by
    apply meets_ask
    · intro _ _
      exact start
    · intro _ _
      exact opening _ start
  apply meets_bind (meets_guarded tracking fun _ _ => CopiesInOrder.abort false)
  intro _ middle begun
  have copied : Meets (fun _ => CopiedAll key size.toNat) (fun _ => CopiesInOrder size.toNat)
      (guarded (abortUpload client journal ⟨key, uploadId⟩ true)
        (copyParts client journal ⟨key, uploadId⟩ sourceKey size.toNat)) middle := by
    refine meets_guarded ((copyParts_meets filled begun).imp ?_) ?_
    · rintro _ after ⟨parts, requests, numbers⟩
      have last : [S3Request.completeMultipartUpload key uploadId parts true].filterMap
          S3Request.copiedRange = [] := rfl
      refine ⟨?_, uploadId, parts, ?_, numbers⟩
      · rw [requests, List.filterMap_append, List.filterMap_append, copiedRange_copyRequests, last,
          List.append_nil]
        rfl
      · rw [requests]
        exact List.mem_append_right _ List.mem_cons_self
    · intro _ after stopped
      exact stopped.copies.abort true
  apply meets_bind copied
  intro created after all
  have verified : ∀ state : S3Run World, state.requests = after.requests →
      Meets (fun _ => CopiedAll key size.toNat) (fun _ => CopiedAll key size.toNat)
        (verifyFinalObjectSize client key size) state := by
    intro state same
    apply verifyFinalObjectSize_meets
    intro final unchanged
    exact all.of_requests (unchanged.trans same)
  split
  · refine meets_bind (meets_modify rfl) ?_
    rintro _ _ rfl
    apply meets_bind ((verified (resolveTracked journal ⟨key, uploadId⟩ after) rfl).weaken
      (fun _ _ done => done) fun _ _ => CopiedAll.copies)
    intro _ final done
    exact meets_pure done
  · apply meets_bind (meets_guarded (verified after rfl) fun _ _ stopped => stopped.abort.copies)
    intro _ final done
    refine meets_bind (meets_modify rfl) ?_
    rintro _ _ rfl
    exact meets_pure done.abort

/-- What a promotion has sent: its copies are in order, and a copy in too many parts never begins. -/
def PromotesInOrder (size : UInt64) (run : S3Run World) : Prop :=
  CopiesInOrder size.toNat run ∧ (s3MaxMultipartParts < copyPartCount size.toNat → run.requests = [])

theorem promotesInOrder_of_fresh {size : UInt64} {run : S3Run World} (fresh : run.requests = []) :
    PromotesInOrder size run := by
  refine ⟨copiesInOrder_of_silent ?_, fun _ => fresh⟩
  rw [fresh]
  intro request present
  cases present

/-- A call that only reads leaves the requests empty. -/
theorem meets_read {Value : Type} {size : UInt64} {run : S3Run World}
    (fresh : run.requests = []) (answer : Answer World Value) :
    Meets (fun _ after => after.requests = []) (fun _ => PromotesInOrder size) (ask answer) run := by
  apply meets_ask
  · intro _ _
    exact fresh
  · intro _ _
    exact promotesInOrder_of_fresh fresh

/-- The copy of an assembled object cuts it into the ranges of the partition. Without a request a
promotion ends well only when the final object was there. -/
theorem promoteToFinal_meets (recovery : Option (MultipartUploadJournal World))
    (localFileSize : String → Option UInt64) (stagingPrefix objectPrefix : String)
    {assembly : UploadStagingAssembly} (sha256Hash : String) (world : World)
    (remote : assembly.backend = .s3) (filled : 1 ≤ assembly.sizeBytes.toNat) :
    Meets (fun result run => PromotesInOrder assembly.sizeBytes run ∧
        (run.requests = [] ∧ result = ⟨finalObjectKey objectPrefix sha256Hash, false⟩ ∧
            (∃ head, (client.headObject (finalObjectKey objectPrefix sha256Hash) world).1 = .ok head ∧
              head.present = true ∧ head.size = assembly.sizeBytes) ∨
          CopiedAll (finalObjectKey objectPrefix sha256Hash) assembly.sizeBytes.toNat run))
      (fun _ => PromotesInOrder assembly.sizeBytes)
      (promoteToFinal client recovery localFileSize stagingPrefix objectPrefix assembly sha256Hash)
      ⟨world, []⟩ := by
  have fresh : (⟨world, []⟩ : S3Run World).requests = [] := rfl
  unfold promoteToFinal
  split
  · exact meets_throw (promotesInOrder_of_fresh fresh)
  · split
    · exact meets_throw (promotesInOrder_of_fresh fresh)
    · unfold promoteBlocking
      have headed : Meets (fun head (after : S3Run World) => after.requests = [] ∧
            (client.headObject (finalObjectKey objectPrefix sha256Hash) world).1 = .ok head)
          (fun _ => PromotesInOrder assembly.sizeBytes)
          (ask (client.headObject (finalObjectKey objectPrefix sha256Hash))) ⟨world, []⟩ := by
        apply meets_ask
        · intro _ answered
          exact ⟨rfl, answered⟩
        · intro _ _
          exact promotesInOrder_of_fresh rfl
      apply meets_bind headed
      rintro head run ⟨unsent, answered⟩
      split
      · rename_i present
        split
        · exact meets_throw (promotesInOrder_of_fresh unsent)
        · rename_i same
          exact meets_pure ⟨promotesInOrder_of_fresh unsent,
            .inl ⟨unsent, rfl, head, answered, present, not_not.mp same⟩⟩
      · split
        · rename_i stays
          rw [remote] at stays
          cases stays
        · apply meets_bind (meets_read unsent _)
          intro sourceHead after still
          split
          · exact meets_throw (promotesInOrder_of_fresh still)
          · split
            · rename_i empty
              rw [empty] at filled
              cases filled
            · split
              · exact meets_throw (promotesInOrder_of_fresh still)
              · rename_i fits
                split
                · exact meets_throw (promotesInOrder_of_fresh still)
                · apply (copyToFinal_meets still filled).weaken
                  · intro result final all
                    exact ⟨⟨all.copies, fun exceeds => absurd exceeds fits⟩, .inr all⟩
                  · intro failure final copies
                    exact ⟨copies, fun exceeds => absurd exceeds fits⟩

end Copy

section Success

/-- The store has the object under the key with this size. -/
def S3Client.Holds {World Stream : Type} (client : S3Client World Stream) (key : String) (size : UInt64)
    (world : World) : Prop :=
  ∃ head, (client.headObject key world).1 = .ok head ∧ head.present = true ∧ head.size = size

/-- The store and the journal do what a copy asks of them, and a completed object is there afterwards. -/
structure CooperatesCopy {World Stream : Type} (client : S3Client World Stream)
    (journal : MultipartUploadJournal World) (key : String) (size : UInt64) : Prop where
  creates : ∀ world, ∃ uploadId, (client.createMultipartUpload key world).1 = .ok uploadId
  copies : ∀ sourceKey uploadId number start length world, ∃ etag,
    (client.uploadPartCopy sourceKey key uploadId number start length world).1 = .ok etag
  completes : ∀ uploadId parts world, ∃ created,
    (client.completeMultipartUpload key uploadId parts true world).1 = .ok created
  tracks : ∀ descriptor world, (journal.track descriptor world).1 = .ok ()
  renews : ∀ descriptor world, (journal.renew descriptor world).1 = .ok ()
  holds : ∀ uploadId parts created before after,
    client.completeMultipartUpload key uploadId parts true before = (.ok created, after) →
      client.Holds key size after ∧ client.Holds key size (journal.resolve ⟨key, uploadId⟩ after).2

/-- `PromoteToFinal` takes the request to the store, which has the source and not the final object. -/
structure AcceptsPromotion {World Stream : Type} (client : S3Client World Stream) (stagingPrefix key : String)
    (assembly : UploadStagingAssembly) (sha256Hash : String) (world : World) : Prop where
  hashed : isLowerHex sha256Hash 64 = true
  same : assembly.sha256Hash = sha256Hash
  located : assembly.locator ≠ ""
  valid : validateS3AssemblyLocator assembly stagingPrefix = true
  missing : ∃ head, (client.headObject key world).1 = .ok head ∧ head.present = false
  source : client.Holds assembly.locator assembly.sizeBytes (client.headObject key world).2

variable {World Stream : Type} {client : S3Client World Stream} {journal : MultipartUploadJournal World}
  {descriptor : MultipartUploadDescriptor} {sourceKey key : String} {size : UInt64} {run : S3Run World}

/-- A call that the store answers succeeds. -/
theorem succeeds_ask {Value : Type} {answer : Answer World Value} {value : Value}
    (answered : (answer run.world).1 = .ok value) :
    Meets (fun found after => found = value ∧ after.world = (answer run.world).2) (fun _ _ => False)
      (ask answer) run := by
  apply meets_ask
  · intro found accepted
    exact ⟨Except.ok.inj (accepted.symm.trans answered), rfl⟩
  · intro failure failed
    rw [answered] at failed
    cases failed

theorem succeeds_send {Value : Type} {request : S3Request} {answer : Answer World Value} {value : Value}
    (answered : (answer run.world).1 = .ok value) :
    Meets (fun _ _ => True) (fun _ _ => False) (send request answer) run := by
  apply meets_send
  · intro _ _
    trivial
  · intro failure failed
    rw [answered] at failed
    cases failed

theorem succeeds_renew (cooperates : CooperatesCopy client journal key size) :
    Meets (fun _ _ => True) (fun _ _ => False) (renew journal descriptor) run :=
  (meets_renew fun _ _ refused _ => refused (cooperates.renews _ _)).imp fun _ _ _ => trivial

theorem verifyFinalObjectSize_succeeds (holds : client.Holds key size run.world) :
    Meets (fun _ _ => True) (fun _ _ => False) (verifyFinalObjectSize client key size) run := by
  obtain ⟨head, answered, present, same⟩ := holds
  unfold verifyFinalObjectSize
  apply meets_bind (succeeds_ask answered)
  rintro _ _ ⟨rfl, -⟩
  rw [if_neg (by simp [present, same])]
  exact meets_pure trivial

/-- With a cooperating store every part is copied and the upload is completed. -/
theorem copyParts_succeeds (cooperates : CooperatesCopy client journal key size) (uploadId : String)
    (expectedSize : Nat) :
    Meets (fun _ after => client.Holds key size after.world ∧
        client.Holds key size (journal.resolve ⟨key, uploadId⟩ after.world).2) (fun _ _ => False)
      (copyParts client journal ⟨key, uploadId⟩ sourceKey expectedSize) run := by
  have round : ∀ (passed : List Nat) index later,
      List.range (copyPartCount expectedSize) = passed ++ index :: later →
      ∀ (progress : CopyProgress) (middle : S3Run World), True →
        Meets (fun _ _ => True) (fun _ _ => False)
          (copyPart client journal ⟨key, uploadId⟩ sourceKey expectedSize progress index) middle := by
    intro _ index _ _ progress middle _
    unfold copyPart
    apply meets_bind (succeeds_renew cooperates)
    intro _ state _
    generalize min s3MultipartPartSizeBytes (expectedSize - progress.offset) = length
    obtain ⟨etag, copied⟩ := cooperates.copies sourceKey uploadId (index + 1) progress.offset length
      state.world
    apply meets_bind (succeeds_send copied)
    intro _ _ _
    exact meets_pure trivial
  have copied : Meets (fun _ _ => True) (fun _ _ => False)
      ((List.range (copyPartCount expectedSize)).foldlM
        (copyPart client journal ⟨key, uploadId⟩ sourceKey expectedSize) ⟨0, []⟩) run :=
    @meets_foldlM _ _ _ _ _ _ _ _ (fun _ _ _ => True) round _ trivial
  unfold copyParts
  apply meets_bind copied
  intro progress _ _
  apply meets_bind (succeeds_renew cooperates)
  intro _ middle _
  apply meets_send
  · intro created completed
    exact cooperates.holds uploadId progress.completedParts created middle.world _
      (Prod.ext completed rfl)
  · intro failure failed
    obtain ⟨created, completed⟩ := cooperates.completes uploadId progress.completedParts middle.world
    rw [completed] at failed
    cases failed

/-- A copy fails only when something outside stops it. -/
theorem copyToFinal_succeeds (cooperates : CooperatesCopy client journal key size) :
    Meets (fun _ _ => True) (fun _ _ => False) (copyToFinal client journal sourceKey key size) run := by
  obtain ⟨_, accepted⟩ := cooperates.creates run.world
  unfold copyToFinal
  apply meets_bind (succeeds_send accepted)
  intro uploadId start _
  have tracked : Meets (fun _ _ => True) (fun _ _ => False) (track journal ⟨key, uploadId⟩) start := by
    apply meets_ask
    · intro _ _
      trivial
    · intro failure failed
      exact recovered_error failure failed (cooperates.tracks _ _)
  apply meets_bind (meets_guarded tracked fun _ _ impossible => impossible)
  intro _ middle _
  apply meets_bind (meets_guarded (copyParts_succeeds cooperates uploadId size.toNat)
    fun _ _ impossible => impossible)
  rintro fresh after ⟨here, resolved⟩
  cases fresh with
  | true =>
      refine meets_bind (meets_modify rfl) ?_
      rintro _ _ rfl
      apply meets_bind (verifyFinalObjectSize_succeeds resolved)
      intro _ _ _
      exact meets_pure trivial
  | false =>
      apply meets_bind (meets_guarded (verifyFinalObjectSize_succeeds here)
        fun _ _ impossible => impossible)
      intro _ last _
      refine meets_bind (meets_modify rfl) ?_
      intro _ _ _
      exact meets_pure trivial

/-- A promotion of an accepted request in few enough parts ends well when the store cooperates. -/
theorem promoteToFinal_succeeds (localFileSize : String → Option UInt64)
    {stagingPrefix objectPrefix sha256Hash : String} {assembly : UploadStagingAssembly} {world : World}
    (remote : assembly.backend = .s3) (filled : 1 ≤ assembly.sizeBytes.toNat)
    (accepts : AcceptsPromotion client stagingPrefix (finalObjectKey objectPrefix sha256Hash) assembly
      sha256Hash world)
    (cooperates : CooperatesCopy client journal (finalObjectKey objectPrefix sha256Hash) assembly.sizeBytes)
    (fits : copyPartCount assembly.sizeBytes.toNat ≤ s3MaxMultipartParts) :
    Meets (fun _ _ => True) (fun _ _ => False)
      (promoteToFinal client (some journal) localFileSize stagingPrefix objectPrefix assembly sha256Hash)
      ⟨world, []⟩ := by
  obtain ⟨head, answered, missing⟩ := accepts.missing
  obtain ⟨source, found, present, size⟩ := accepts.source
  have nonempty : assembly.sizeBytes ≠ 0 := by
    intro empty
    rw [empty] at filled
    cases filled
  unfold promoteToFinal promoteBlocking
  rw [if_neg (by simp [accepts.hashed, accepts.same, accepts.located]), if_neg (by simp [accepts.valid])]
  apply meets_bind (succeeds_ask answered)
  rintro _ middle ⟨rfl, reached⟩
  rw [if_neg (by rw [missing]; decide), if_neg (by rw [remote]; decide)]
  rw [← reached] at found
  apply meets_bind (succeeds_ask found)
  rintro _ after ⟨rfl, -⟩
  rw [if_neg (by simp [present, size]), if_neg nonempty, if_neg (Nat.not_lt.mpr fits)]
  exact copyToFinal_succeeds cooperates

end Success

end DiskServer.Storage
