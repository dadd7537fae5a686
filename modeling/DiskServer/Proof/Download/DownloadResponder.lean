import DiskServer.Construction.Download.DownloadResponder
import DiskServer.Proof.Download.RangeRequest

namespace DiskServer.Download

open Library RangeRequest

section Run

variable {State : Type} {stream : ReadStream UInt8 State} {content : List UInt8}
  {At : Nat → State → Prop}

/-- The stream answers the read of this call without a byte before the end. -/
def InterruptsAt (stream : ReadStream UInt8 State) (response : StreamResponse State)
    (call : Option Nat) : Prop :=
  ∃ suggested, call = some suggested ∧ response.remaining ≠ 0 ∧
    stream.answer response.stream (readSize response suggested) = []

/-- A response still runs or it has recorded its only interruption. -/
structure Consistent (At : Nat → State → Prop) (response : StreamResponse State) : Prop where
  at_delivered : At response.delivered response.stream
  running : response.interruptionRecorded = false →
    response.delivered + response.remaining = response.contentLength ∧ response.interruptions = []
  ended : response.interruptionRecorded = true →
    response.remaining = 0 ∧ response.delivered < response.contentLength ∧
      response.interruptions = [⟨response.start, response.contentLength, response.delivered⟩]

/-- What one call returns and how it changes the response. -/
structure CallEffect (stream : ReadStream UInt8 State) (content : List UInt8)
    (At : Nat → State → Prop) (response next : StreamResponse State) (call : Option Nat)
    (bytes : List UInt8) : Prop where
  consistent : Consistent At next
  start : next.start = response.start
  contentLength : next.contentLength = response.contentLength
  piece : bytes = (content.drop response.delivered).take bytes.length
  delivered : next.delivered = response.delivered + bytes.length
  recorded : next.interruptionRecorded = true ↔
    response.interruptionRecorded = true ∨ InterruptsAt stream response call
  finished : call.isSome = true → bytes = [] → next.remaining = 0

theorem Consistent.closed (serves : stream.Serves content At) {response : StreamResponse State}
    (consistent : Consistent At response) :
    Consistent At { response with stream := stream.close response.stream } :=
  ⟨serves.close _ _ consistent.at_delivered, consistent.running, consistent.ended⟩

/-- A call that only closes the stream returns nothing and changes nothing else. -/
theorem closing_effect (serves : stream.Serves content At) {response : StreamResponse State}
    (consistent : Consistent At response) {call : Option Nat}
    (idle : call.isSome = true → response.remaining = 0) :
    CallEffect stream content At response
      { response with stream := stream.close response.stream } call [] where
  consistent := consistent.closed serves
  start := rfl
  contentLength := rfl
  piece := rfl
  delivered := rfl
  recorded := by
    constructor
    · exact Or.inl
    · rintro (recorded | ⟨suggested, rfl, running, -⟩)
      · exact recorded
      · exact absurd (idle rfl) running
  finished some _ := idle some

theorem Consistent.unrecorded {response : StreamResponse State} (consistent : Consistent At response)
    (running : response.remaining ≠ 0) : response.interruptionRecorded = false := by
  cases recorded : response.interruptionRecorded with
  | false => rfl
  | true => exact absurd (consistent.ended recorded).1 running

theorem interrupt_effect (serves : stream.Serves content At) {response : StreamResponse State}
    (consistent : Consistent At response) {suggested : Nat} (running : response.remaining ≠ 0)
    (empty : stream.answer response.stream (readSize response suggested) = []) :
    CallEffect stream content At response
      (interrupt stream response (stream.read response.stream (readSize response suggested)).2)
      (some suggested) [] := by
  have unrecorded := consistent.unrecorded running
  obtain ⟨total, none⟩ := consistent.running unrecorded
  have moved := serves.moves _ _ (readSize response suggested) consistent.at_delivered
  rw [empty] at moved
  refine ⟨⟨?_, ?_, ?_⟩, rfl, rfl, rfl, rfl, ?_, ?_⟩
  · exact serves.close _ _ moved
  · intro recorded
    cases recorded
  · intro _
    refine ⟨rfl, ?_, ?_⟩
    · change response.delivered < response.contentLength
      omega
    · simp [interrupt, unrecorded, none]
  · constructor
    · intro _
      exact .inr ⟨suggested, rfl, running, empty⟩
    · intro _
      rfl
  · intro _ _
    rfl

theorem deliver_effect (serves : stream.Serves content At) {response : StreamResponse State}
    (consistent : Consistent At response) {suggested : Nat} (running : response.remaining ≠ 0)
    (filled : stream.answer response.stream (readSize response suggested) ≠ []) :
    CallEffect stream content At response
      (deliver stream response (stream.answer response.stream (readSize response suggested))
        (stream.read response.stream (readSize response suggested)).2).2
      (some suggested)
      (deliver stream response (stream.answer response.stream (readSize response suggested))
        (stream.read response.stream (readSize response suggested)).2).1 := by
  have unrecorded := consistent.unrecorded running
  obtain ⟨total, none⟩ := consistent.running unrecorded
  have moved := serves.moves _ _ (readSize response suggested) consistent.at_delivered
  have items := serves.items _ _ (readSize response suggested) consistent.at_delivered
  have short := serves.length _ _ (readSize response suggested) consistent.at_delivered
  have alive := filled
  generalize stream.answer response.stream (readSize response suggested) = bytes at moved items short filled
  generalize (stream.read response.stream (readSize response suggested)).2 = next at moved
  have bounded : bytes.length ≤ response.remaining := Nat.le_trans short (Nat.min_le_right _ _)
  have whole : bytes.take response.remaining = bytes := List.take_of_length_le bounded
  unfold deliver
  rw [whole]
  refine ⟨⟨?_, ?_, ?_⟩, rfl, rfl, items, rfl, ?_, ?_⟩
  · dsimp only
    split
    · exact serves.close _ _ moved
    · exact moved
  · intro _
    refine ⟨?_, none⟩
    change response.delivered + bytes.length + (response.remaining - bytes.length) =
      response.contentLength
    omega
  · intro recorded
    change response.interruptionRecorded = true at recorded
    rw [unrecorded] at recorded
    cases recorded
  · constructor
    · exact Or.inl
    · rintro (recorded | ⟨other, same, -, empty⟩)
      · exact recorded
      · cases same
        exact absurd empty alive
  · intro _ empty
    exact absurd empty filled

theorem callback_effect (serves : stream.Serves content At) {response : StreamResponse State}
    (consistent : Consistent At response) (call : Option Nat) :
    CallEffect stream content At response (callback stream response call).2 call
      (callback stream response call).1 := by
  cases call with
  | none => exact closing_effect serves consistent fun some => by cases some
  | some suggested =>
      unfold callback
      dsimp only
      split
      · rename_i done
        exact closing_effect serves consistent fun _ => done
      · rename_i running
        split
        · rename_i empty
          exact interrupt_effect serves consistent running empty
        · rename_i filled
          exact deliver_effect serves consistent running filled

theorem runCalls_append (response : StreamResponse State) (earlier later : List (Option Nat)) :
    runCalls stream response (earlier ++ later) =
      ((runCalls stream response earlier).1 ++
          (runCalls stream (runCalls stream response earlier).2 later).1,
        (runCalls stream (runCalls stream response earlier).2 later).2) := by
  induction earlier generalizing response with
  | nil => rfl
  | cons call rest ih =>
      simp only [List.cons_append, runCalls, ih]

/-- A call of the run found the stream without a byte. -/
def Interrupted (stream : ReadStream UInt8 State) (response : StreamResponse State)
    (calls : List (Option Nat)) : Prop :=
  ∃ earlier call later, calls = earlier ++ call :: later ∧
    InterruptsAt stream (runCalls stream response earlier).2 call

theorem interrupted_cons {response : StreamResponse State} {call : Option Nat}
    {rest : List (Option Nat)} : Interrupted stream response (call :: rest) ↔
      InterruptsAt stream response call ∨ Interrupted stream (callback stream response call).2 rest := by
  constructor
  · rintro ⟨earlier, found, later, same, interrupts⟩
    cases earlier with
    | nil =>
        obtain ⟨rfl, -⟩ := List.cons.inj same
        exact .inl interrupts
    | cons first others =>
        obtain ⟨rfl, rfl⟩ := List.cons.inj same
        exact .inr ⟨others, found, later, rfl, interrupts⟩
  · rintro (interrupts | ⟨earlier, found, later, rfl, interrupts⟩)
    · exact ⟨[], call, rest, rfl, interrupts⟩
    · exact ⟨call :: earlier, found, later, rfl, interrupts⟩

/-- What a whole run returns and how it changes the response. -/
structure RunEffect (stream : ReadStream UInt8 State) (content : List UInt8)
    (At : Nat → State → Prop) (response last : StreamResponse State) (calls : List (Option Nat))
    (pieces : List (List UInt8)) : Prop where
  consistent : Consistent At last
  start : last.start = response.start
  contentLength : last.contentLength = response.contentLength
  joined : pieces.flatten = (content.drop response.delivered).take pieces.flatten.length
  delivered : last.delivered = response.delivered + pieces.flatten.length
  recorded : last.interruptionRecorded = true ↔
    response.interruptionRecorded = true ∨ Interrupted stream response calls
  progress : last.remaining = 0 ∨ calls.countP Option.isSome ≤ pieces.flatten.length

/-- A finished response returns nothing and stays finished. -/
theorem callback_finished {response : StreamResponse State} (done : response.remaining = 0)
    (call : Option Nat) : (callback stream response call).1 = [] ∧
      (callback stream response call).2.remaining = 0 := by
  cases call with
  | none => exact ⟨rfl, done⟩
  | some suggested =>
      unfold callback
      dsimp only
      rw [if_pos done]
      exact ⟨rfl, done⟩

theorem runCalls_finished {response : StreamResponse State} (done : response.remaining = 0)
    (calls : List (Option Nat)) : (∀ piece ∈ (runCalls stream response calls).1, piece = []) ∧
      (runCalls stream response calls).2.remaining = 0 := by
  induction calls generalizing response with
  | nil => exact ⟨by simp [runCalls], done⟩
  | cons call rest ih =>
      obtain ⟨empty, still⟩ := callback_finished done call
      obtain ⟨silent, last⟩ := ih still
      refine ⟨?_, last⟩
      intro piece present
      rcases List.mem_cons.mp present with rfl | later
      · exact empty
      · exact silent piece later

theorem runCalls_effect (serves : stream.Serves content At) {response : StreamResponse State}
    (consistent : Consistent At response) (calls : List (Option Nat)) :
    RunEffect stream content At response (runCalls stream response calls).2 calls
      (runCalls stream response calls).1 := by
  induction calls generalizing response with
  | nil =>
      refine ⟨consistent, rfl, rfl, rfl, rfl, ?_, .inr (Nat.le_refl 0)⟩
      constructor
      · exact Or.inl
      · rintro (recorded | ⟨earlier, call, later, same, -⟩)
        · exact recorded
        · exact absurd same (by simp)
  | cons call rest ih =>
      have first := callback_effect serves consistent call
      have others := ih first.consistent
      change RunEffect stream content At response
        (runCalls stream (callback stream response call).2 rest).2 (call :: rest)
        ((callback stream response call).1 :: (runCalls stream (callback stream response call).2 rest).1)
      refine ⟨others.consistent, others.start.trans first.start,
        others.contentLength.trans first.contentLength, ?_, ?_, ?_, ?_⟩
      · have rest := others.joined
        rw [first.delivered] at rest
        rw [List.flatten_cons, List.length_append, List.take_add, ← first.piece, List.drop_drop, ← rest]
      · rw [others.delivered, first.delivered, List.flatten_cons, List.length_append, Nat.add_assoc]
      · rw [others.recorded, first.recorded, interrupted_cons, or_assoc]
      · rcases others.progress with done | enough
        · exact .inl done
        · cases call with
          | none =>
              right
              rw [List.countP_cons_of_neg (by simp), List.flatten_cons, List.length_append]
              omega
          | some suggested =>
              by_cases empty : (callback stream response (some suggested)).1 = []
              · exact .inl (runCalls_finished (first.finished rfl empty) rest).2
              · right
                have some := List.length_pos_of_ne_nil empty
                rw [List.countP_cons_of_pos (by simp), List.flatten_cons, List.length_append]
                omega

/-- What the calls of a whole response deliver of the requested bytes. -/
structure Delivers (stream : ReadStream UInt8 State) (requested : List UInt8)
    (response : StreamResponse State) (calls : List (Option Nat)) : Prop where
  part : (runCalls stream response calls).1.flatten <+: requested
  whole : ¬ Interrupted stream response calls →
    (runCalls stream response calls).2.interruptions = [] ∧
      ((∃ earlier suggested later, calls = earlier ++ some suggested :: later ∧
          (callback stream (runCalls stream response earlier).2 (some suggested)).1 = []) →
        (runCalls stream response calls).1.flatten = requested)
  progress : ¬ Interrupted stream response calls → requested.length ≤ calls.countP Option.isSome →
    (runCalls stream response calls).1.flatten = requested
  interrupted : Interrupted stream response calls →
    (runCalls stream response calls).1.flatten.length < requested.length ∧
      (runCalls stream response calls).2.interruptions =
        [⟨response.start, requested.length, (runCalls stream response calls).1.flatten.length⟩]
  silent : ∀ earlier suggested later, calls = earlier ++ some suggested :: later →
    (callback stream (runCalls stream response earlier).2 (some suggested)).1 = [] →
    ∀ piece ∈ (runCalls stream
      (callback stream (runCalls stream response earlier).2 (some suggested)).2 later).1, piece = []

/-- A response that has not run yet, and whose stream serves the content from its start. -/
structure Fresh (At : Nat → State → Prop) (length : Nat) (response : StreamResponse State) : Prop where
  served : At 0 response.stream
  remaining : response.remaining = length
  delivered : response.delivered = 0
  unrecorded : response.interruptionRecorded = false
  contentLength : response.contentLength = length
  interruptions : response.interruptions = []

theorem Fresh.consistent {length : Nat} {response : StreamResponse State}
    (fresh : Fresh At length response) : Consistent At response := by
  refine ⟨?_, ?_, ?_⟩
  · rw [fresh.delivered]
    exact fresh.served
  · intro _
    rw [fresh.delivered, fresh.remaining, fresh.contentLength, Nat.zero_add]
    exact ⟨rfl, fresh.interruptions⟩
  · intro recorded
    rw [fresh.unrecorded] at recorded
    cases recorded

theorem Fresh.delivers (serves : stream.Serves content At) {length : Nat} (long : length ≤ content.length)
    {response : StreamResponse State} (fresh : Fresh At length response) (calls : List (Option Nat)) :
    Delivers stream (content.take length) response calls := by
  have effect := runCalls_effect serves fresh.consistent calls
  have size : (content.take length).length = length := List.length_take_of_le long
  have total : (runCalls stream response calls).2.contentLength = length :=
    effect.contentLength.trans fresh.contentLength
  have delivered : (runCalls stream response calls).2.delivered =
      (runCalls stream response calls).1.flatten.length := by
    rw [effect.delivered, fresh.delivered, Nat.zero_add]
  have joined : (runCalls stream response calls).1.flatten =
      content.take (runCalls stream response calls).1.flatten.length := by
    have pieces := effect.joined
    rw [fresh.delivered, List.drop_zero] at pieces
    exact pieces
  have recorded : (runCalls stream response calls).2.interruptionRecorded = true ↔
      Interrupted stream response calls := by
    rw [effect.recorded, fresh.unrecorded]
    simp
  have running : ¬ Interrupted stream response calls →
      (runCalls stream response calls).1.flatten.length +
          (runCalls stream response calls).2.remaining = length ∧
        (runCalls stream response calls).2.interruptions = [] := by
    intro uninterrupted
    have unrecorded := Bool.eq_false_iff.mpr (mt recorded.mp uninterrupted)
    obtain ⟨sum, none⟩ := effect.consistent.running unrecorded
    rw [← delivered, ← total]
    exact ⟨sum, none⟩
  have complete : ¬ Interrupted stream response calls →
      (runCalls stream response calls).2.remaining = 0 →
      (runCalls stream response calls).1.flatten = content.take length := by
    intro uninterrupted done
    have sum := (running uninterrupted).1
    rw [done, Nat.add_zero] at sum
    rw [← sum]
    exact joined
  have finished : ∀ earlier suggested,
      (callback stream (runCalls stream response earlier).2 (some suggested)).1 = [] →
      (callback stream (runCalls stream response earlier).2 (some suggested)).2.remaining = 0 := by
    intro earlier suggested empty
    have reached := (runCalls_effect serves fresh.consistent earlier).consistent
    exact (callback_effect serves reached (some suggested)).finished rfl empty
  refine ⟨?_, ?_, ?_, ?_, ?_⟩
  · have bound : (runCalls stream response calls).1.flatten.length ≤ length := by
      by_cases interrupted : Interrupted stream response calls
      · obtain ⟨-, short, -⟩ := effect.consistent.ended (recorded.mpr interrupted)
        rw [delivered, total] at short
        exact Nat.le_of_lt short
      · have sum := (running interrupted).1
        omega
    have taken := List.take_prefix (runCalls stream response calls).1.flatten.length
      (content.take length)
    rw [List.take_take, Nat.min_eq_left bound, ← joined] at taken
    exact taken
  · intro uninterrupted
    refine ⟨(running uninterrupted).2, ?_⟩
    rintro ⟨earlier, suggested, later, rfl, empty⟩
    apply complete uninterrupted
    rw [runCalls_append]
    exact (runCalls_finished (finished earlier suggested empty) later).2
  · intro uninterrupted enough
    apply complete uninterrupted
    rw [size] at enough
    have sum := (running uninterrupted).1
    rcases effect.progress with done | more
    · exact done
    · omega
  · intro interrupted
    obtain ⟨-, short, only⟩ := effect.consistent.ended (recorded.mpr interrupted)
    rw [delivered, total] at short only
    rw [size]
    refine ⟨short, ?_⟩
    rw [only, effect.start]
  · intro earlier suggested later _ empty
    exact (runCalls_finished (finished earlier suggested empty) later).1

end Run

section Response

variable {params : DownloadParams}

/-- The bytes that the request names: the parsed range, or the whole file without one. -/
def DownloadParams.requested (params : DownloadParams) (blob : List UInt8) : List UInt8 :=
  (blob.drop params.start.toNat).take (params.stop.toNat - params.start.toNat + 1)

/-- The bytes of a file that a file response describes. -/
def describedBytes (blob : List UInt8) (slice : Option (UInt64 × UInt64)) : List UInt8 :=
  match slice with
  | none => blob
  | some (offset, length) => (blob.drop offset.toNat).take length.toNat

/-- A request for a file that is not empty, with a satisfiable range or none. -/
structure DownloadParams.Valid (params : DownloadParams) (blob : List UInt8) : Prop where
  size : blob.length = params.fileSize.toNat
  filled : 1 ≤ params.fileSize
  range : params.rangeHeader = "" ∨ params.rangeRequest.satisfiable = true

theorem DownloadParams.absent (empty : params.rangeHeader = "") :
    params.rangeRequest.hasRange = false := by
  simp [DownloadParams.rangeRequest, parse, empty]

theorem DownloadParams.Valid.inside {blob : List UInt8} (valid : params.Valid blob) :
    params.start ≤ params.stop ∧ params.stop < params.fileSize := by
  unfold DownloadParams.start DownloadParams.stop
  by_cases present : params.rangeRequest.hasRange = true
  · rw [if_pos present, if_pos present]
    have named : params.rangeHeader ≠ "" := by
      intro empty
      rw [DownloadParams.absent empty] at present
      cases present
    exact parse_inside valid.filled named (valid.range.resolve_left named)
  · rw [if_neg present, if_neg present]
    exact ⟨UInt64.zero_le, below_size valid.filled⟩

/-- A valid range lies inside the blob. -/
theorem DownloadParams.Valid.length {blob : List UInt8} (valid : params.Valid blob) :
    params.contentLength.toNat = params.stop.toNat - params.start.toNat + 1 ∧
      params.start.toNat + params.contentLength.toNat ≤ blob.length := by
  obtain ⟨ordered, inside⟩ := valid.inside
  have order := UInt64.le_iff_toNat_le.mp ordered
  have bound := UInt64.lt_iff_toNat_lt.mp inside
  have small := params.fileSize.toNat_lt_size
  have exact_length : params.contentLength.toNat = params.stop.toNat - params.start.toNat + 1 := by
    unfold DownloadParams.contentLength Download.contentLength
    rw [UInt64.toNat_add, UInt64.toNat_sub_of_le _ _ ordered, UInt64.toNat_one]
    apply Nat.mod_eq_of_lt
    change _ < UInt64.size
    omega
  refine ⟨exact_length, ?_⟩
  rw [valid.size, exact_length]
  omega

/-- What the response of a valid request says about the requested bytes. -/
def DeliversResponse {State : Type} (stream : ReadStream UInt8 State) (params : DownloadParams)
    (blob : List UInt8) (store : DownloadStore State) : DownloadResponse State → Prop
  | .rangeNotSatisfiable _ _ => False
  | .failed _ => False
  | .openFailed _ _ => ∃ error, store.openBlobRange params.start params.contentLength = .error error
  | .file path slice _ =>
      store.getLocalBlobPath = some path ∧
        sendfileThresholdBytes ≤ (params.requested blob).length ∧
        describedBytes blob slice = params.requested blob
  | .stream status headers response =>
      headers.lookup "Content-Length" = some (toString (params.requested blob).length) ∧
        (params.rangeRequest.hasRange = true → status = 206 ∧
          headers.lookup "Content-Range" = some params.contentRange) ∧
        (params.rangeRequest.hasRange = false → status = 200 ∧
          headers.lookup "Content-Range" = none ∧ params.requested blob = blob) ∧
        response.start = params.start.toNat ∧
        ∀ calls, Delivers stream (params.requested blob) response calls

theorem DownloadParams.Valid.requested_whole {blob : List UInt8} (valid : params.Valid blob)
    (absent : params.rangeRequest.hasRange = false) : params.requested blob = blob := by
  unfold DownloadParams.requested DownloadParams.start DownloadParams.stop
  rw [absent]
  have filled := UInt64.le_iff_toNat_le.mp valid.filled
  rw [if_neg Bool.false_ne_true, if_neg Bool.false_ne_true, last_byte valid.filled]
  have size := valid.size
  have one : (1 : UInt64).toNat = 1 := rfl
  rw [UInt64.toNat_zero, List.drop_zero]
  apply List.take_of_length_le
  omega

theorem DownloadParams.Valid.requested_length {blob : List UInt8} (valid : params.Valid blob) :
    (params.requested blob).length = params.contentLength.toNat := by
  obtain ⟨length, bound⟩ := valid.length
  unfold DownloadParams.requested
  rw [← length, List.length_take_of_le]
  rw [List.length_drop]
  omega

theorem streamHeaders_length :
    params.streamHeaders.lookup "Content-Length" = some (toString params.contentLength.toNat) := by
  unfold DownloadParams.streamHeaders
  cases params.rangeRequest.hasRange <;> simp [List.lookup_cons]

theorem streamHeaders_range :
    params.streamHeaders.lookup "Content-Range" =
      if params.rangeRequest.hasRange then some params.contentRange else none := by
  unfold DownloadParams.streamHeaders DownloadParams.commonHeaders
  cases params.rangeRequest.hasRange with
  | true => simp
  | false =>
      by_cases unhashed : params.fileHash = "" <;> simp [List.lookup_cons, unhashed]

/-- A stream that serves the blob from the start of the range delivers the requested bytes. -/
theorem openStream_delivers {State : Type} {stream : ReadStream UInt8 State}
    {blob : List UInt8} {store : DownloadStore State} (valid : params.Valid blob)
    (serves : ∀ start length state, store.openBlobRange start length = .ok state →
      ∃ At, stream.Serves (blob.drop start.toNat) At ∧ At 0 state) :
    DeliversResponse stream params blob store (params.openStream store) := by
  obtain ⟨length, bound⟩ := valid.length
  unfold DownloadParams.openStream
  cases opened : store.openBlobRange params.start params.contentLength with
  | error error => exact ⟨error, opened⟩
  | ok state =>
      obtain ⟨At, served, first⟩ := serves _ _ _ opened
      refine ⟨?_, ?_, ?_, rfl, ?_⟩
      · rw [streamHeaders_length, valid.requested_length]
      · intro present
        rw [streamHeaders_range, DownloadParams.streamStatus, present]
        exact ⟨rfl, rfl⟩
      · intro absent
        rw [streamHeaders_range, DownloadParams.streamStatus, absent]
        exact ⟨rfl, rfl, valid.requested_whole absent⟩
      · intro calls
        have fresh : Fresh At params.contentLength.toNat (params.streamResponse state) :=
          ⟨first, rfl, rfl, rfl, rfl, rfl⟩
        have long : params.contentLength.toNat ≤ (blob.drop params.start.toNat).length := by
          rw [List.length_drop]
          omega
        have delivers := fresh.delivers served long calls
        rw [length] at delivers
        exact delivers

/-- A download sends exactly the requested bytes, as a local file or through its stream. -/
theorem buildDownloadResponse_delivers {State : Type} {stream : ReadStream UInt8 State}
    {blob : List UInt8} {store : DownloadStore State} (valid : params.Valid blob)
    (observed : store.getBlobSize = .ok params.fileSize)
    (serves : ∀ start length state, store.openBlobRange start length = .ok state →
      ∃ At, stream.Serves (blob.drop start.toNat) At ∧ At 0 state) :
    DeliversResponse stream params blob store (buildDownloadResponse params (some store)) := by
  have satisfiable : ¬ (params.rangeRequest.hasRange = true ∧
      ¬ params.rangeRequest.satisfiable = true) := by
    rintro ⟨present, refused⟩
    rcases valid.range with empty | reported
    · rw [DownloadParams.absent empty] at present
      cases present
    · exact refused reported
  have passed : preflight store.getBlobSize params.fileSize = .ok () := by
    simp [preflight, observed]
  unfold buildDownloadResponse
  rw [if_neg satisfiable]
  dsimp only
  rw [passed]
  dsimp only
  split
  · rename_i large
    cases located : store.getLocalBlobPath with
    | none => exact openStream_delivers valid serves
    | some path =>
        refine ⟨located, ?_, ?_⟩
        · rw [valid.requested_length]
          exact large
        · unfold DownloadParams.fileSlice
          by_cases present : params.rangeRequest.hasRange = true
          · rw [if_pos present]
            unfold describedBytes DownloadParams.requested
            rw [← valid.length.1]
          · rw [if_neg present]
            exact (valid.requested_whole (Bool.eq_false_iff.mpr present)).symm
  · exact openStream_delivers valid serves

end Response

section LocalFile

variable {grants : Nat → Nat} {blob : List UInt8} {start : Nat}

/-- A local file stream stands behind the start of its range. -/
def LocalAt (blob : List UInt8) (start position : Nat) (stream : LocalFileReadStream) : Prop :=
  stream.content = blob ∧ stream.position = start + position

theorem gathered_starts (stream : LocalFileReadStream) (size : Nat) :
    stream.gathered grants size <+: stream.content.drop stream.position := by
  unfold LocalFileReadStream.gathered
  split
  · exact List.nil_prefix
  · exact (List.take_prefix _ _).trans (List.take_prefix _ _)

theorem gathered_length (stream : LocalFileReadStream) (size : Nat) :
    (stream.gathered grants size).length ≤ size := by
  unfold LocalFileReadStream.gathered
  split
  · exact Nat.zero_le _
  · rw [List.length_take, List.length_take]
    omega

/-- A read of a local file returns nothing, or it returns what it gathered and moves past it. -/
theorem localRead_cases (stream : LocalFileReadStream) (wanted : Nat) :
    ((stream.read grants wanted).2.content = stream.content) ∧
      ((stream.read grants wanted).2.position =
        stream.position + (stream.read grants wanted).1.length) ∧
      (stream.read grants wanted).1.length ≤ wanted ∧
      (stream.read grants wanted).1 <+: stream.content.drop stream.position := by
  unfold LocalFileReadStream.read
  split
  · exact ⟨rfl, rfl, Nat.zero_le _, List.nil_prefix⟩
  · have short := @gathered_length grants stream (min wanted stream.remaining)
    have next := @gathered_starts grants stream (min wanted stream.remaining)
    dsimp only
    split
    · rename_i empty
      refine ⟨rfl, ?_, Nat.zero_le _, List.nil_prefix⟩
      rw [empty]
      rfl
    · dsimp only
      split
      · exact ⟨rfl, rfl, Nat.le_trans short (Nat.min_le_left _ _), next⟩
      · exact ⟨rfl, rfl, Nat.le_trans short (Nat.min_le_left _ _), next⟩

/-- The local file stream serves the file from the start of its range. -/
theorem localFileStream_serves :
    (localFileStream grants).Serves (blob.drop start) (LocalAt blob start) := by
  have answer : ∀ stream wanted,
      (localFileStream grants).answer stream wanted = (stream.read grants wanted).1 := fun _ _ => rfl
  refine ⟨?_, ?_, ?_, ?_⟩
  · intro position stream wanted _
    rw [answer]
    exact (localRead_cases stream wanted).2.2.1
  · rintro position stream wanted ⟨rfl, placed⟩
    have next := (@localRead_cases grants stream wanted).2.2.2
    rw [answer, List.drop_drop, ← placed]
    exact List.prefix_iff_eq_take.mp next
  · rintro position stream wanted ⟨rfl, placed⟩
    obtain ⟨content, moved, -, -⟩ := @localRead_cases grants stream wanted
    refine ⟨content, ?_⟩
    change (stream.read grants wanted).2.position = _
    rw [moved, placed, answer, Nat.add_assoc]
  · rintro position stream ⟨rfl, placed⟩
    exact ⟨rfl, placed⟩

/-- An opened local stream serves the blob from its offset. -/
theorem openLocalBlobRange_serves {path : String} {first length : UInt64} {stream : LocalFileReadStream}
    (opened : openLocalBlobRange path (some blob) first length = .ok stream) :
    ∃ At, (localFileStream grants).Serves (blob.drop first.toNat) At ∧ At 0 stream := by
  unfold openLocalBlobRange at opened
  split at opened
  · cases opened
  · split at opened
    · cases opened
    · cases opened
      exact ⟨LocalAt blob first.toNat, localFileStream_serves, rfl, rfl⟩

/-- A store of one local file with three bytes. -/
def threeBytes : DownloadStore LocalFileReadStream where
  getBlobSize := .ok 3
  getLocalBlobPath := some "blobs/abc"
  openBlobRange := openLocalBlobRange "blobs/abc" (some [97, 98, 99])

/-- A suffix range asks for the last two of three bytes. -/
theorem buildDownloadResponse_delivers_suffix :
    DeliversResponse (localFileStream fun _ => 64) ⟨"abc", 3, "text/plain", "", "bytes=-2"⟩ [97, 98, 99]
      threeBytes (buildDownloadResponse ⟨"abc", 3, "text/plain", "", "bytes=-2"⟩ (some threeBytes)) := by
  have valid : (⟨"abc", 3, "text/plain", "", "bytes=-2"⟩ : DownloadParams).Valid [97, 98, 99] :=
    ⟨by decide, by decide, .inr (by decide +kernel)⟩
  apply buildDownloadResponse_delivers valid rfl
  intro start length state opened
  change openLocalBlobRange "blobs/abc" (some [97, 98, 99]) start length = .ok state at opened
  exact openLocalBlobRange_serves opened

end LocalFile
end DiskServer.Download
