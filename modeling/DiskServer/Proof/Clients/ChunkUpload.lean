import DiskServer.Construction.Clients.ChunkUpload
import DiskServer.Proof.Upload.Geometry

namespace DiskServer.Clients

open Library Upload

variable {file : LocalFile} {outcome : InitUploadOutcome} {index : Nat}

/-- A chunk of the task that the server does not hold yet. -/
def InitUploadOutcome.Remaining (outcome : InitUploadOutcome) (index : Nat) : Prop :=
  index < outcome.totalChunks ∧ index ∉ outcome.uploaded

/-- The indices of the chunks that a run has sent, in its order. -/
def sentIndices (requests : List ClientRequest) : List Nat :=
  requests.filterMap fun
    | .uploadChunk chunkIndex _ => some chunkIndex
    | .completeUpload => none

/-- The bytes of a file from the start of one chunk to the start of the next one. -/
def chunkOf (file : LocalFile) (chunkSize index : Nat) : ByteRange :=
  ⟨index * chunkSize, min ((index + 1) * chunkSize) file.size - index * chunkSize⟩

/-- The requests send each remaining chunk once, nothing else, and complete the upload in the end. -/
structure UploadsExactly (file : LocalFile) (outcome : InitUploadOutcome)
    (requests : List ClientRequest) : Prop where
  slices : ∀ index data, .uploadChunk index data ∈ requests →
    data = chunkOf file outcome.chunkSize index ∧ outcome.accepts index data.length = true
  once : (sentIndices requests).Nodup
  sent : ∀ index, index ∈ sentIndices requests ↔ outcome.Remaining index
  completed : .completeUpload ∈ requests
  ordered : ∀ earlier later, requests = earlier ++ .completeUpload :: later →
    ∀ index < outcome.totalChunks, index ∈ outcome.uploaded ∨
      ∃ data, .uploadChunk index data ∈ earlier ∧ outcome.accepts index data.length = true

theorem chunkSize_pos_of_ok {fileSize : UInt64} {chunkSize totalChunks : UInt32}
    (counted : initializeTotalChunks fileSize chunkSize = .ok totalChunks) : 1 ≤ chunkSize.toNat := by
  unfold initializeTotalChunks at counted
  split at counted
  · cases counted
  · next wide =>
    by_contra narrow
    exact wide (UInt32.toNat_inj.mp (by rw [UInt32.toNat_zero]; omega))

/-- The wrapped size of an empty file needs too many chunks, or none. -/
theorem filled_of_ok {fileSize : UInt64} {chunkSize totalChunks : UInt32}
    (counted : initializeTotalChunks fileSize chunkSize = .ok totalChunks)
    (some : 1 ≤ totalChunks.toNat) : 1 ≤ fileSize.toNat := by
  by_contra empty
  have positive := chunkSize_pos_of_ok counted
  have bound := chunkSize.toNat_lt
  obtain rfl : fileSize = 0 := UInt64.toNat_inj.mp (by rw [UInt64.toNat_zero]; omega)
  have wrapped : ((0 - 1 : UInt64) / chunkSize.toUInt64).toNat =
      18446744073709551615 / chunkSize.toNat := by
    rw [UInt64.toNat_div, UInt32.toNat_toUInt64]
    rfl
  have many : 4294967297 ≤ 18446744073709551615 / chunkSize.toNat :=
    (Nat.le_div_iff_mul_le positive).mpr (by omega)
  unfold initializeTotalChunks at counted
  split at counted
  · cases counted
  · simp only at counted
    split at counted
    · cases counted
    · next fits =>
      obtain rfl := Except.ok.inj counted
      rw [UInt64.lt_iff_toNat_lt, UInt64.toNat_add, wrapped] at fits
      rw [UInt64.toNat_toUInt32, UInt64.toNat_add, wrapped] at some
      have limit : (UInt32.toUInt64 4294967295).toNat = 4294967295 := rfl
      have one : (1 : UInt64).toNat = 1 := rfl
      rw [limit, one] at fits
      rw [one] at some
      have most : 18446744073709551615 / chunkSize.toNat ≤ 18446744073709551615 := Nat.div_le_self _ _
      omega

namespace InitUploadOutcome

theorem chunkSize_pos (outcome : InitUploadOutcome) : 1 ≤ outcome.chunkSize :=
  chunkSize_pos_of_ok outcome.task.counted

theorem accepted (some : 1 ≤ outcome.totalChunks) :
    Accepted outcome.task.fileSize outcome.task.chunkSize outcome.task.totalChunks :=
  initializeTotalChunks_ok (filled_of_ok outcome.task.counted some) outcome.task.counted

/-- The server accepts the length that the block of its own row has. -/
theorem accepts_iff (counted : index < outcome.totalChunks) {dataSize : Nat}
    (short : dataSize < 18446744073709551616) :
    outcome.accepts index dataSize = true ↔
      dataSize = Blocks.width outcome.task.fileSize.toNat outcome.chunkSize index := by
  have bound := outcome.task.totalChunks.toNat_lt
  have back : (UInt32.ofNat index).toNat = index :=
    UInt32.toNat_ofNat_of_lt' (Nat.lt_trans counted bound)
  have inside : UInt32.ofNat index < outcome.task.totalChunks := by
    rw [UInt32.lt_iff_toNat_lt, back]
    exact counted
  have size : (UInt64.ofNat dataSize).toNat = dataSize := UInt64.toNat_ofNat_of_lt' short
  have expected := (accepted (Nat.zero_lt_of_lt counted)).expected inside
  rw [back] at expected
  rw [accepts, validate_isOk, ← UInt64.toNat_inj, size, expected]
  exact ⟨fun both => both.2, fun same => ⟨inside, same⟩⟩

theorem width_pos (outcome : InitUploadOutcome) (counted : index < outcome.totalChunks) :
    0 < Blocks.width outcome.task.fileSize.toNat outcome.chunkSize index :=
  have geometry := accepted (Nat.zero_lt_of_lt counted)
  Blocks.width_pos geometry.filled geometry.wide (geometry.total ▸ counted)

end InitUploadOutcome

theorem chunkOf_length (file : LocalFile) (chunkSize index : Nat) :
    (chunkOf file chunkSize index).length = Blocks.width file.size chunkSize index := by
  have next : (index + 1) * chunkSize = index * chunkSize + chunkSize := Nat.succ_mul _ _
  unfold chunkOf Blocks.width Blocks.start
  simp only
  omega

theorem sentIndices_map (indices : List Nat) (data : Nat → ByteRange) :
    sentIndices (indices.map (fun index => .uploadChunk index (data index)) ++ [.completeUpload]) =
      indices := by
  unfold sentIndices
  rw [List.filterMap_append, List.filterMap_map]
  simp

theorem mem_requests {indices : List Nat} {data : Nat → ByteRange} {range : ByteRange} :
    ClientRequest.uploadChunk index range ∈
      indices.map (fun index => .uploadChunk index (data index)) ++ [.completeUpload] ↔
        index ∈ indices ∧ data index = range := by
  rw [List.mem_append, List.mem_map, List.mem_singleton]
  constructor
  · rintro (⟨one, listed, same⟩ | impossible)
    · cases same
      exact ⟨listed, rfl⟩
    · cases impossible
  · rintro ⟨listed, rfl⟩
    exact Or.inl ⟨index, listed, rfl⟩

/-- The only completion stands behind all chunks. -/
theorem earlier_eq {chunks earlier later : List ClientRequest}
    (noCompletion : ClientRequest.completeUpload ∉ chunks)
    (split : chunks ++ [.completeUpload] = earlier ++ .completeUpload :: later) : earlier = chunks := by
  induction chunks generalizing earlier with
  | nil =>
      cases earlier with
      | nil => rfl
      | cons first rest => simp at split
  | cons chunk rest continues =>
      cases earlier with
      | nil =>
          rw [List.nil_append, List.cons_append, List.cons.injEq] at split
          exact absurd (split.1 ▸ List.mem_cons_self) noCompletion
      | cons first others =>
          rw [List.cons_append, List.cons_append, List.cons.injEq] at split
          rw [split.1, continues (fun member => noCompletion (List.mem_cons_of_mem _ member)) split.2]

/-- A client that sends chunks and then completes is exact when its indices and its data are. -/
theorem uploadsExactly_iff {indices : List Nat} (distinct : indices.Nodup) (data : Nat → ByteRange) :
    UploadsExactly file outcome
        (indices.map (fun index => .uploadChunk index (data index)) ++ [.completeUpload]) ↔
      (∀ index, index ∈ indices ↔ outcome.Remaining index) ∧
        ∀ index, outcome.Remaining index → data index = chunkOf file outcome.chunkSize index ∧
          outcome.accepts index (data index).length = true := by
  constructor
  · intro exactly
    have sent : ∀ index, index ∈ indices ↔ outcome.Remaining index := by
      intro index
      rw [← exactly.sent index, sentIndices_map]
    refine ⟨sent, ?_⟩
    intro index remaining
    exact exactly.slices index (data index) (mem_requests.mpr ⟨(sent index).mpr remaining, rfl⟩)
  · rintro ⟨sent, slices⟩
    refine ⟨?_, ?_, ?_, ?_, ?_⟩
    · intro index range member
      obtain ⟨listed, rfl⟩ := mem_requests.mp member
      exact slices index ((sent index).mp listed)
    · rw [sentIndices_map]
      exact distinct
    · intro index
      rw [sentIndices_map]
      exact sent index
    · exact List.mem_append_right _ (List.mem_singleton_self _)
    · intro earlier later split index counted
      rw [earlier_eq (by simp) split]
      rcases Classical.em (index ∈ outcome.uploaded) with uploaded | missing
      · exact Or.inl uploaded
      · have remaining : outcome.Remaining index := ⟨counted, missing⟩
        exact Or.inr ⟨data index, List.mem_map.mpr ⟨index, (sent index).mpr remaining, rfl⟩,
          (slices index remaining).2⟩

/-- The server accepts a chunk of the file when the chunk of its row is as long. -/
theorem accepts_chunkOf (remaining : outcome.Remaining index) {data : ByteRange} :
    (data = chunkOf file outcome.chunkSize index ∧ outcome.accepts index data.length = true) ↔
      data = chunkOf file outcome.chunkSize index ∧
        Blocks.width file.size outcome.chunkSize index =
          Blocks.width outcome.task.fileSize.toNat outcome.chunkSize index := by
  have short : (chunkOf file outcome.chunkSize index).length < 18446744073709551616 := by
    have bounded := file.bounded
    unfold chunkOf
    simp only
    omega
  have accepts := outcome.accepts_iff remaining.1 short
  refine and_congr_right fun same => ?_
  rw [same, accepts, chunkOf_length]

/-- The chunk of an agreed length begins inside the file. -/
theorem start_lt_of_width (remaining : outcome.Remaining index)
    (same : Blocks.width file.size outcome.chunkSize index =
      Blocks.width outcome.task.fileSize.toNat outcome.chunkSize index) :
    index * outcome.chunkSize < file.size := by
  have positive := outcome.width_pos remaining.1
  rw [← same] at positive
  unfold Blocks.width Blocks.start at positive
  omega

theorem blobSlice_eq (start stop : Nat) (inside : index * outcome.chunkSize < file.size) :
    blobSlice file start stop = chunkOf file outcome.chunkSize index ↔
      start = index * outcome.chunkSize ∧
        min stop file.size = min ((index + 1) * outcome.chunkSize) file.size := by
  have next : (index + 1) * outcome.chunkSize = index * outcome.chunkSize + outcome.chunkSize :=
    Nat.succ_mul _ _
  have wide := outcome.chunkSize_pos
  unfold blobSlice chunkOf
  rw [ByteRange.mk.injEq]
  omega

namespace Client

/-- The numbers of a client hold what one remaining chunk needs. -/
def Represents : Client → LocalFile → InitUploadOutcome → Nat → Prop
  | .web, file, outcome, index =>
      Binary64.nearest (index * outcome.chunkSize) = index * outcome.chunkSize ∧
        if (index + 1) * outcome.chunkSize < file.size then
          Binary64.nearest ((index + 1) * outcome.chunkSize) = (index + 1) * outcome.chunkSize
        else
          file.size ≤ Binary64.nearest file.size
  | .desktop, file, outcome, _ =>
      outcome.totalChunks < 2147483648 ∧
        (outcome.chunkSize < 2147483648 ∨ file.size ≤ kDefaultChunkSize)
  | .go, _, _, _ => True

/-- The Go client counts the chunks of an answer that has none, and finds none that is not listed. -/
def Counts : Client → LocalFile → InitUploadOutcome → Prop
  | .go, file, outcome => outcome.totalChunks = 0 →
      ∀ index < ((file.size + outcome.chunkSize - 1) / outcome.chunkSize) % UInt32.size,
        index * outcome.chunkSize < file.size → index ∈ outcome.uploaded
  | .web, _, _ => True
  | .desktop, _, _ => True

/-- The file has each remaining chunk as long as the row has it, and the client's numbers hold it. -/
def Agrees (client : Client) (file : LocalFile) (outcome : InitUploadOutcome) : Prop :=
  client.Counts file outcome ∧ ∀ index, outcome.Remaining index →
    Blocks.width file.size outcome.chunkSize index =
        Blocks.width outcome.task.fileSize.toNat outcome.chunkSize index ∧
      client.Represents file outcome index

end Client

theorem mem_remaining (outcome : InitUploadOutcome) (index : Nat) :
    index ∈ (List.range outcome.totalChunks).filter (fun index => !outcome.uploaded.contains index) ↔
      outcome.Remaining index := by
  rw [List.mem_filter, List.mem_range, Bool.not_eq_true', ← Bool.not_eq_true, List.contains_iff_mem]
  rfl

/-- The rounded end of a chunk is right when the boundary that the file has there is held. -/
theorem web_stop :
    min (min (Binary64.nearest ((index + 1) * outcome.chunkSize)) (webFileSize file)) file.size =
        min ((index + 1) * outcome.chunkSize) file.size ↔
      if (index + 1) * outcome.chunkSize < file.size then
        Binary64.nearest ((index + 1) * outcome.chunkSize) = (index + 1) * outcome.chunkSize
      else
        file.size ≤ Binary64.nearest file.size := by
  unfold webFileSize
  split
  · next before =>
    have ordered := Binary64.nearest_mono (Nat.le_of_lt before)
    omega
  · next last =>
    have ordered := Binary64.nearest_mono (Nat.le_of_not_lt last)
    omega

/-- The web client. -/
theorem processTask_exact :
    UploadsExactly file outcome (processTask file outcome) ↔ Client.web.Agrees file outcome := by
  have distinct : ((List.range outcome.totalChunks).filter
      fun index => !outcome.uploaded.contains index).Nodup := List.nodup_range.filter _
  unfold processTask
  simp only
  rw [uploadsExactly_iff distinct]
  constructor
  · rintro ⟨-, slices⟩
    refine ⟨trivial, fun index remaining => ?_⟩
    obtain ⟨slice, same⟩ := (accepts_chunkOf remaining).mp (slices index remaining)
    have inside := start_lt_of_width remaining same
    obtain ⟨start, stop⟩ := (blobSlice_eq _ _ inside).mp slice
    rw [start, ← Nat.succ_mul] at stop
    exact ⟨same, start, web_stop.mp stop⟩
  · rintro ⟨-, agrees⟩
    refine ⟨mem_remaining outcome, ?_⟩
    intro index remaining
    obtain ⟨same, start, stop⟩ := agrees index remaining
    have inside := start_lt_of_width remaining same
    refine (accepts_chunkOf remaining).mpr ⟨(blobSlice_eq _ _ inside).mpr ⟨start, ?_⟩, same⟩
    rw [start, ← Nat.succ_mul]
    exact web_stop.mpr stop

/-- The loop of the Go client sends what lies inside the file and is not listed. -/
theorem uploadLoop_eq (file : LocalFile) {chunkSize : Nat} (wide : 1 ≤ chunkSize) (uploadedSet : List Nat) (count first : Nat) :
    uploadLoop file chunkSize uploadedSet (List.range' first count) (min (first * chunkSize) file.size) =
      ((List.range' first count).filter fun index =>
        decide (index * chunkSize < file.size) && !uploadedSet.contains index).map fun index =>
          .uploadChunk index ⟨index * chunkSize, min chunkSize (file.size - index * chunkSize)⟩ := by
  induction count generalizing first with
  | zero => rfl
  | succ count continues =>
      have next : (first + 1) * chunkSize = first * chunkSize + chunkSize := Nat.succ_mul _ _
      rw [List.range'_succ]
      unfold uploadLoop
      rcases Nat.lt_or_ge (first * chunkSize) file.size with inside | outside
      · have position : min (first * chunkSize) file.size = first * chunkSize :=
          Nat.min_eq_left (Nat.le_of_lt inside)
        have moved : first * chunkSize + min chunkSize (file.size - first * chunkSize) =
            min ((first + 1) * chunkSize) file.size := by omega
        have some : min chunkSize (file.size - first * chunkSize) ≠ 0 := by omega
        simp only [position, moved, continues, if_neg some]
        rcases Bool.eq_false_or_eq_true (uploadedSet.contains first) with listed | missing
        · rw [List.filter_cons_of_neg (by simp [List.contains_iff_mem.mp listed]), if_pos listed]
        · rw [List.filter_cons_of_pos (by rw [missing]; simp [inside]), List.map_cons, if_neg (by rw [missing]; exact Bool.false_ne_true)]
      · have position : min (first * chunkSize) file.size = file.size := Nat.min_eq_right outside
        have none : min chunkSize (file.size - min (first * chunkSize) file.size) = 0 := by omega
        rw [if_pos none]
        symm
        rw [List.map_eq_nil_iff, List.filter_eq_nil_iff]
        intro index listed
        have later : first ≤ index := by
          rcases List.mem_cons.mp listed with rfl | listed
          · exact le_rfl
          · exact Nat.le_of_succ_le (List.mem_range'_1.mp listed).1
        have beyond := Nat.mul_le_mul_right chunkSize later
        simp [show ¬ index * chunkSize < file.size by omega]

/-- The number of chunks that the Go client counts with. -/
def goTotalChunks (file : LocalFile) (outcome : InitUploadOutcome) : Nat :=
  if outcome.totalChunks = 0 then
    ((file.size + outcome.chunkSize - 1) / outcome.chunkSize) % UInt32.size
  else
    outcome.totalChunks

/-- The indices that the Go client sends. -/
def goIndices (file : LocalFile) (outcome : InitUploadOutcome) : List Nat :=
  (List.range (goTotalChunks file outcome)).filter fun index =>
    decide (index * outcome.chunkSize < file.size) && !outcome.uploaded.contains index

theorem mem_goIndices : index ∈ goIndices file outcome ↔
    index < goTotalChunks file outcome ∧ index * outcome.chunkSize < file.size ∧
      index ∉ outcome.uploaded := by
  rw [goIndices, List.mem_filter, List.mem_range, Bool.and_eq_true, decide_eq_true_iff,
    Bool.not_eq_true', ← Bool.not_eq_true, List.contains_iff_mem]

theorem uploadFile_eq : uploadFile file outcome =
    (goIndices file outcome).map (fun index => .uploadChunk index (chunkOf file outcome.chunkSize index)) ++
      [.completeUpload] := by
  have wide := outcome.chunkSize_pos
  have loop := uploadLoop_eq file wide outcome.uploaded (goTotalChunks file outcome) 0
  have data : ∀ index, (⟨index * outcome.chunkSize, min outcome.chunkSize
      (file.size - index * outcome.chunkSize)⟩ : ByteRange) = chunkOf file outcome.chunkSize index := by
    intro index
    have length := chunkOf_length file outcome.chunkSize index
    exact congrArg (ByteRange.mk (index * outcome.chunkSize)) length.symm
  simp only [data] at loop
  rw [Nat.zero_mul, Nat.zero_min, ← List.range_eq_range'] at loop
  unfold uploadFile
  simp only [if_neg (Nat.ne_of_gt wide)]
  exact congrArg (fun requests => requests ++ [ClientRequest.completeUpload]) loop

/-- The Go client. -/
theorem uploadFile_exact :
    UploadsExactly file outcome (uploadFile file outcome) ↔ Client.go.Agrees file outcome := by
  have distinct : (goIndices file outcome).Nodup := List.nodup_range.filter _
  rw [uploadFile_eq, uploadsExactly_iff distinct]
  constructor
  · rintro ⟨sent, slices⟩
    constructor
    · intro none index counted inside
      by_contra missing
      have total : goTotalChunks file outcome = _ := if_pos none
      have listed := mem_goIndices.mpr ⟨total ▸ counted, inside, missing⟩
      have remaining := ((sent index).mp listed).1
      exact Nat.not_lt_zero index (none ▸ remaining)
    · intro index remaining
      exact ⟨((accepts_chunkOf remaining).mp (slices index remaining)).2, trivial⟩
  · rintro ⟨counts, agrees⟩
    constructor
    · intro index
      rw [mem_goIndices]
      rcases Nat.eq_zero_or_pos outcome.totalChunks with none | some
      · have total : goTotalChunks file outcome = _ := if_pos none
        rw [total]
        constructor
        · rintro ⟨counted, inside, missing⟩
          exact absurd (counts none index counted inside) missing
        · intro remaining
          exact absurd (none ▸ remaining.1) (Nat.not_lt_zero index)
      · have total : goTotalChunks file outcome = _ := if_neg (Nat.ne_of_gt some)
        rw [total]
        constructor
        · rintro ⟨counted, -, missing⟩
          exact ⟨counted, missing⟩
        · intro remaining
          exact ⟨remaining.1, start_lt_of_width remaining (agrees index remaining).1, remaining.2⟩
    · intro index remaining
      exact (accepts_chunkOf remaining).mpr ⟨rfl, (agrees index remaining).1⟩

namespace DesktopTask

theorem nextChunk_eq_head (task : DesktopTask) : task.nextChunk = task.waiting.head? :=
  List.head?_filter.symm

theorem handleChunkResponse_chunkSize (task : DesktopTask) (chunkIndex : Nat) :
    (task.handleChunkResponse chunkIndex).chunkSize = task.chunkSize := by
  unfold handleChunkResponse
  split <;> rfl

/-- The bytes that the desktop client reads for one index. -/
def data (task : DesktopTask) (file : LocalFile) (index : Nat) : ByteRange :=
  ⟨index * task.chunkSize, min task.chunkSize (file.size - index * task.chunkSize)⟩

theorem startChunkUpload_eq (task : DesktopTask) (file : LocalFile) (index : Nat) :
    task.startChunkUpload file index = .uploadChunk index (task.data file index) := by
  unfold startChunkUpload data
  simp only [ClientRequest.uploadChunk.injEq, ByteRange.mk.injEq, true_and]
  omega

/-- The desktop client sends what it waits for in order, one chunk after each answer. -/
theorem advanceToNextChunk_eq (file : LocalFile) (task : DesktopTask) :
    task.advanceToNextChunk file =
      task.waiting.map (fun index => .uploadChunk index (task.data file index)) ++ [.completeUpload] := by
  generalize left : task.waiting = indices
  induction indices generalizing task with
  | nil =>
      have found : task.nextChunk = none := by rw [nextChunk_eq_head, left, List.head?_nil]
      rw [advanceToNextChunk]
      split
      · rfl
      · next other => exact absurd (found.symm.trans other) (by simp)
  | cons index rest continues =>
      have found : task.nextChunk = some index := by rw [nextChunk_eq_head, left, List.head?_cons]
      have distinct : task.waiting.Nodup := List.nodup_range.filter _
      rw [left, List.nodup_cons] at distinct
      have shrunk : (task.handleChunkResponse index).waiting = rest := by
        rw [waiting_handleChunkResponse, left, List.filter_cons_of_neg (by simp)]
        apply List.filter_eq_self.mpr
        intro other listed
        exact bne_iff_ne.mpr fun same => distinct.1 (same ▸ listed)
      rw [advanceToNextChunk]
      split
      · next other => exact absurd (found.symm.trans other) (by simp)
      · next chunkIndex other =>
        obtain rfl := Option.some.inj (found.symm.trans other)
        rw [continues _ shrunk, startChunkUpload_eq, List.map_cons, List.cons_append]
        unfold data
        rw [handleChunkResponse_chunkSize]

end DesktopTask

/-- The indices of the rows are INTEGER values, which an `int` holds. -/
theorem uploaded_toInt (outcome : InitUploadOutcome) :
    outcome.uploaded.map (fun index => toInt index 0) = outcome.uploaded := by
  unfold InitUploadOutcome.uploaded
  rw [List.map_map]
  apply List.map_congr_left
  intro index _
  have small := Int32.toInt_lt index
  show toInt index.toInt.toNat 0 = index.toInt.toNat
  exact if_pos (by omega)

theorem toInt_zero_le (value : Nat) : toInt value 0 ≤ value := by
  unfold toInt
  split
  · exact le_rfl
  · exact Nat.zero_le _

theorem mem_waiting (outcome : InitUploadOutcome) (index : Nat) :
    index ∈ (handleInitResponse outcome).waiting ↔
      index < toInt outcome.totalChunks 0 ∧ outcome.Remaining index := by
  have fields : (handleInitResponse outcome).waiting = (List.range (toInt outcome.totalChunks 0)).filter
      fun index => !(outcome.uploaded.map fun index => toInt index 0).contains index := rfl
  rw [fields, uploaded_toInt, List.mem_filter, List.mem_range, Bool.not_eq_true', ← Bool.not_eq_true,
    List.contains_iff_mem]
  constructor
  · rintro ⟨counted, missing⟩
    exact ⟨counted, Nat.lt_of_lt_of_le counted (toInt_zero_le _), missing⟩
  · rintro ⟨counted, remaining⟩
    exact ⟨counted, remaining.2⟩

/-- The default chunk size names the right bytes for a file that one chunk holds, and for no other. -/
theorem desktop_data (inside : index * outcome.chunkSize < file.size) :
    (handleInitResponse outcome).data file index = chunkOf file outcome.chunkSize index ↔
      outcome.chunkSize < 2147483648 ∨ file.size ≤ kDefaultChunkSize := by
  have fields : (handleInitResponse outcome).data file index =
      ⟨index * toInt outcome.chunkSize kDefaultChunkSize,
        min (toInt outcome.chunkSize kDefaultChunkSize)
          (file.size - index * toInt outcome.chunkSize kDefaultChunkSize)⟩ := rfl
  have length := chunkOf_length file outcome.chunkSize index
  unfold Blocks.width Blocks.start at length
  have target : chunkOf file outcome.chunkSize index =
      ⟨index * outcome.chunkSize, min outcome.chunkSize (file.size - index * outcome.chunkSize)⟩ :=
    congrArg (ByteRange.mk (index * outcome.chunkSize)) length
  rw [fields, target, ByteRange.mk.injEq]
  unfold toInt kDefaultChunkSize
  rcases Nat.lt_or_ge outcome.chunkSize 2147483648 with small | large
  · rw [if_pos small]
    exact ⟨fun _ => Or.inl small, fun _ => ⟨rfl, rfl⟩⟩
  · rw [if_neg (Nat.not_lt.mpr large)]
    rcases Nat.eq_zero_or_pos index with rfl | positive
    · omega
    · have apart := Nat.mul_le_mul_left index large
      have order := Nat.mul_le_mul_right outcome.chunkSize positive
      constructor
      · rintro ⟨start, -⟩
        omega
      · rintro (less | small) <;> omega

/-- The desktop client. -/
theorem transferManager_exact :
    UploadsExactly file outcome (transferManager file outcome) ↔ Client.desktop.Agrees file outcome := by
  have distinct : (handleInitResponse outcome).waiting.Nodup := List.nodup_range.filter _
  unfold transferManager
  rw [DesktopTask.advanceToNextChunk_eq, uploadsExactly_iff distinct]
  constructor
  · rintro ⟨sent, slices⟩
    refine ⟨trivial, fun index remaining => ?_⟩
    obtain ⟨slice, same⟩ := (accepts_chunkOf remaining).mp (slices index remaining)
    have counted := ((mem_waiting outcome index).mp ((sent index).mpr remaining)).1
    have small : outcome.totalChunks < 2147483648 := by
      by_contra large
      rw [toInt, if_neg large] at counted
      exact Nat.not_lt_zero _ counted
    exact ⟨same, small, (desktop_data (start_lt_of_width remaining same)).mp slice⟩
  · rintro ⟨-, agrees⟩
    constructor
    · intro index
      rw [mem_waiting]
      refine ⟨fun both => both.2, fun remaining => ⟨?_, remaining⟩⟩
      rw [toInt, if_pos (agrees index remaining).2.1]
      exact remaining.1
    · intro index remaining
      obtain ⟨same, -, fits⟩ := agrees index remaining
      exact (accepts_chunkOf remaining).mpr
        ⟨(desktop_data (start_lt_of_width remaining same)).mpr fits, same⟩

/-- Each client sends the chunks that the server expects exactly when the file and the task agree on them
and the numbers hold them. -/
theorem client_chunks_exact (client : Client) (file : LocalFile) (existingTask : Option InitUploadOutcome)
    (chunkSize : UInt32) (outcome : InitUploadOutcome)
    (returned : initializeUpload existingTask (UInt64.ofNat (client.declaredSize file)) chunkSize =
      .ok outcome) :
    UploadsExactly file outcome (client.upload file outcome) ↔ client.Agrees file outcome := by
  cases client with
  | web => exact processTask_exact
  | desktop => exact transferManager_exact
  | go => exact uploadFile_exact

/-- A file of three bytes for a new task with chunks of two bytes. -/
def threeBytes : LocalFile := ⟨3, by decide, by decide⟩

def threeBytesTask : TaskRow := ⟨3, 2, 2, by rfl⟩

/-- A file of three chunks of which one is uploaded. -/
theorem client_chunks_exact_three :
    UploadsExactly threeBytes ⟨threeBytesTask, noChunks⟩
        [.uploadChunk 0 ⟨0, 2⟩, .uploadChunk 1 ⟨2, 1⟩, .completeUpload] ↔
      Client.web.Agrees threeBytes ⟨threeBytesTask, noChunks⟩ :=
  client_chunks_exact .web threeBytes none 2 ⟨threeBytesTask, noChunks⟩ (by rfl)

/-- A file of 3 GiB for a new task with chunks of 2 GiB, whose size no `int` holds. -/
def largeFile : LocalFile := ⟨3221225472, by decide, by decide⟩

def largeTask : TaskRow := ⟨3221225472, 2147483648, 2, by rfl⟩

/-- The desktop reads a chunk size beyond `int` as its default. -/
theorem desktop_chunk_truncated :
    initializeUpload none (UInt64.ofNat (Client.desktop.declaredSize largeFile)) 2147483648 =
        .ok ⟨largeTask, noChunks⟩ ∧
      ¬ UploadsExactly largeFile ⟨largeTask, noChunks⟩
        (Client.desktop.upload largeFile ⟨largeTask, noChunks⟩) := by
  refine ⟨by rfl, ?_⟩
  intro exactly
  have agrees := transferManager_exact.mp exactly
  have remaining : InitUploadOutcome.Remaining ⟨largeTask, noChunks⟩ 0 :=
    ⟨by decide, List.not_mem_nil⟩
  obtain ⟨-, -, fits⟩ := agrees.2 0 remaining
  rcases fits with narrow | small
  · exact absurd narrow (by decide)
  · exact absurd small (by decide)

end DiskServer.Clients
