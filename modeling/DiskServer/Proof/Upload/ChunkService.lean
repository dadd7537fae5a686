import DiskServer.Construction.Upload.ChunkService
import DiskServer.Proof.Upload.Finalization

namespace DiskServer.Upload

/-- The later row keeps every value that the first one has. -/
structure UploadTaskChunk.Fills (chunk later : UploadTaskChunk) : Prop where
  index : later.chunkIndex = chunk.chunkIndex
  size : ∀ value, chunk.sizeBytes = some value → later.sizeBytes = some value
  hash : ∀ value, chunk.hashMd5 = some value → later.hashMd5 = some value
  key : ∀ value, chunk.objectKey = some value → later.objectKey = some value
  etag : ∀ value, chunk.etag = some value → later.etag = some value

theorem UploadTaskChunk.Fills.same (chunk : UploadTaskChunk) : chunk.Fills chunk :=
  ⟨rfl, fun _ held => held, fun _ held => held, fun _ held => held, fun _ held => held⟩

theorem UploadTaskChunk.Fills.trans {first second third : UploadTaskChunk} (one : first.Fills second)
    (two : second.Fills third) : first.Fills third where
  index := two.index.trans one.index
  size value held := two.size value (one.size value held)
  hash value held := two.hash value (one.hash value held)
  key value held := two.key value (one.key value held)
  etag value held := two.etag value (one.etag value held)

theorem orElse_keeps {Value : Type} {stored excluded : Option Value} (value : Value)
    (held : stored = some value) : (stored <|> excluded) = some value := by
  rw [held]
  rfl

/-- A compatible chunk fills the stored row and has the hash that the row then has. -/
theorem mergeChunk_fills {stored excluded merged : UploadTaskChunk} {hash : String}
    (merges : mergeChunk stored excluded = some merged) (hashed : excluded.hashMd5 = some hash) :
    stored.Fills merged ∧ merged.hashMd5 = some hash := by
  unfold mergeChunk at merges
  split at merges
  · rename_i compatible
    cases merges
    refine ⟨⟨rfl, orElse_keeps, orElse_keeps, orElse_keeps, orElse_keeps⟩, ?_⟩
    simp only [Bool.and_eq_true] at compatible
    have equal := compatible.1.1.2
    cases kept : stored.hashMd5 with
    | none => exact hashed
    | some value =>
        rw [kept, hashed] at equal
        have same : value = hash := by simpa [sqlEquals] using equal
        rw [same]
        rfl
  · cases merges

/-- What an accepted record makes of the rows. -/
structure Accepts (index : Nat) (hash : String) (before after : List UploadTaskChunk) : Prop where
  filled : ∀ chunk ∈ before, ∃ later ∈ after, chunk.Fills later
  recorded : ∃ row ∈ after, row.chunkIndex = index ∧ row.hashMd5 = some hash
  distinct : (after.map UploadTaskChunk.chunkIndex).Nodup

section Record

variable (now : Timestamp) (userId chunkIndex sizeBytes : Nat) (hashMd5 objectKey etag : String)
  (task : UploadTask) {chunks : List UploadTaskChunk}

/-- A record needs a task in progress, and only an accepted one changes the rows. -/
theorem recordChunkIfInProgress_cases (distinct : (chunks.map UploadTaskChunk.chunkIndex).Nodup) :
    let recorded := recordChunkIfInProgress now userId chunkIndex sizeBytes hashMd5 objectKey etag task
      chunks
    (recorded.1 = .taskRejected ∧ recorded.2 = chunks) ∨
      task.status = .inProgress ∧
        ((recorded.1 = .metadataConflict ∧ recorded.2 = chunks) ∨
          recorded.1 = .accepted ∧ Accepts chunkIndex hashMd5 chunks recorded.2) := by
  dsimp only
  unfold recordChunkIfInProgress
  split
  · rename_i eligible
    refine .inr ⟨eligible.2.1, ?_⟩
    dsimp only
    split
    · rename_i absent
      refine .inr ⟨rfl, ?_, ?_, ?_⟩
      · intro chunk present
        exact ⟨chunk, List.mem_append_left _ present, .same chunk⟩
      · exact ⟨_, List.mem_append_right _ (List.mem_singleton.mpr rfl), rfl, rfl⟩
      · rw [List.map_append, List.map_singleton]
        apply List.Nodup.append distinct (List.nodup_singleton _)
        intro index listed own
        obtain rfl := List.mem_singleton.mp own
        obtain ⟨chunk, present, same⟩ := List.mem_map.mp listed
        have other := List.find?_eq_none.mp absent chunk present
        exact other (decide_eq_true same)
    · rename_i stored found
      have present := List.mem_of_find?_eq_some found
      have index : stored.chunkIndex = chunkIndex := by simpa using List.find?_some found
      split
      · exact .inl ⟨rfl, rfl⟩
      · rename_i merged merges
        obtain ⟨fills, hash⟩ := mergeChunk_fills merges rfl
        have indices : (chunks.map fun chunk => if chunk.chunkIndex = chunkIndex then merged else chunk).map
            UploadTaskChunk.chunkIndex = chunks.map UploadTaskChunk.chunkIndex := by
          rw [List.map_map]
          apply List.map_congr_left
          intro chunk _
          change UploadTaskChunk.chunkIndex (if chunk.chunkIndex = chunkIndex then merged else chunk) = _
          split
          · rename_i same
            rw [same, fills.index, index]
          · rfl
        refine .inr ⟨rfl, ?_, ?_, ?_⟩
        · intro chunk listed
          by_cases same : chunk.chunkIndex = chunkIndex
          · have own : chunk = stored :=
              List.inj_on_of_nodup_map distinct listed present (same.trans index.symm)
            exact ⟨merged, List.mem_map.mpr ⟨chunk, listed, if_pos same⟩, own ▸ fills⟩
          · exact ⟨chunk, List.mem_map.mpr ⟨chunk, listed, if_neg same⟩, .same chunk⟩
        · exact ⟨merged, List.mem_map.mpr ⟨stored, present, if_pos index⟩, fills.index.trans index, hash⟩
        · rw [indices]
          exact distinct
  · exact .inl ⟨rfl, rfl⟩

end Record

namespace Finalization

/-- The statements that follow the first one of a transaction rely on the row that it wrote. -/
structure Prepared (transaction : Transaction) : Prop where
  left : ∀ row, transaction.row = some row → row.status ≠ .inProgress
  deleted : transaction.chunksDeleted = true → transaction.row.isSome = true
  pending : .deleteChunks ∈ transaction.remaining →
    transaction.remaining = transaction.kind.statements ∨ transaction.row.isSome = true

theorem prepared_start (kind : TransactionKind) (now : Timestamp) :
    Prepared (Transaction.start kind now) where
  left _ written := by cases written
  deleted wrong := by cases wrong
  pending _ := .inl rfl

/-- A written row keeps the transaction prepared. -/
theorem Prepared.of_row {transaction : Transaction} {row : UploadTask}
    (written : transaction.row = some row) (status : row.status ≠ .inProgress) : Prepared transaction where
  left other found := by
    rw [written] at found
    cases found
    exact status
  deleted _ := by rw [written]; rfl
  pending _ := .inr (by rw [written]; rfl)

/-- A later statement runs behind the first one, which has written the row. -/
theorem Prepared.next {transaction after : Transaction} (prepared : Prepared transaction)
    {statement : Statement} {rest : List Statement} (remaining : transaction.remaining = statement :: rest)
    (behind : transaction.remaining ≠ transaction.kind.statements) (row : after.row = transaction.row)
    (pending : after.remaining = rest)
    (deleted : after.chunksDeleted = true →
      transaction.chunksDeleted = true ∨ statement = .deleteChunks) : Prepared after where
  left := by
    rw [row]
    exact prepared.left
  deleted wanted := by
    rw [row]
    rcases deleted wanted with before | rfl
    · exact prepared.deleted before
    · have first : Statement.deleteChunks ∈ transaction.remaining := by
        rw [remaining]
        exact List.mem_cons_self
      exact (prepared.pending first).resolve_left behind
  pending listed := by
    rw [pending] at listed
    rw [row]
    have member : Statement.deleteChunks ∈ transaction.remaining := by
      rw [remaining]
      exact List.mem_cons_of_mem statement listed
    exact .inr ((prepared.pending member).resolve_left behind)

/-- All open transactions are prepared. -/
def AllPrepared (state : State) : Prop :=
  ∀ slot transaction, state.transactions slot = some transaction → Prepared transaction

section Execute

variable {state next bumped : State} {slot : Nat} {succeeds : Bool} {transaction after : Transaction}

theorem AllPrepared.put (all : AllPrepared state)
    (transactions : next.transactions = Function.update state.transactions slot (some after))
    (prepared : Prepared after) : AllPrepared next := by
  intro other found held
  rw [transactions] at held
  rcases Library.update_some_cases held with ⟨-, written⟩ | ⟨-, before⟩
  · cases written
    exact prepared
  · exact all other found before

theorem AllPrepared.close (all : AllPrepared state)
    (transactions : next.transactions = Function.update state.transactions slot none) :
    AllPrepared next := by
  intro other found held
  rw [transactions] at held
  rcases Library.update_some_cases held with ⟨-, written⟩ | ⟨-, before⟩
  · cases written
  · exact all other found before

theorem AllPrepared.advance (all : AllPrepared state)
    (advanced : bumped.advance slot succeeds after = some next)
    (transactions : bumped.transactions = state.transactions) (prepared : Prepared after) :
    AllPrepared next := by
  unfold State.advance at advanced
  split at advanced
  · cases advanced
    have same : (bumped.put slot after).transactions =
        Function.update state.transactions slot (some after) := by
      rw [← transactions]
      rfl
    exact all.put same prepared
  · cases advanced
    have same : (bumped.close slot).transactions = Function.update state.transactions slot none := by
      rw [← transactions]
      rfl
    exact all.close same

theorem AllPrepared.lockRow (all : AllPrepared state) (locked : state.lockRow slot after = some next)
    (prepared : Prepared after) : AllPrepared next := by
  unfold State.lockRow at locked
  split at locked
  · cases locked
    exact all.put rfl prepared
  · cases locked

/-- The four first statements are the only ones that may find their transaction untouched. -/
theorem AllPrepared.executeStatement (all : AllPrepared state) (prepared : Prepared transaction)
    {statement : Statement} {rest : List Statement} (remaining : transaction.remaining = statement :: rest)
    (executed : state.executeStatement slot transaction statement rest succeeds = some next) :
    AllPrepared next := by
  have behind : ∀ first, transaction.kind.statements.head? = some first → first ≠ statement →
      transaction.remaining ≠ transaction.kind.statements := by
    rintro first head differs same
    rw [← same, remaining] at head
    exact differs (Option.some.inj head).symm
  unfold State.executeStatement at executed
  dsimp only at executed
  split at executed
  · split at executed
    · cases executed
      exact all.close rfl
    · rename_i renewed success
      refine all.lockRow executed (.of_row rfl ?_)
      rw [(renewFinalizeLease_some success).2.2.2.1]
      decide
  · rename_i run kind
    refine all.advance executed rfl (prepared.next remaining ?_ rfl rfl .inl)
    exact behind .renewFinalizeLease (by rw [kind]; rfl) (by decide)
  · split at executed
    · cases executed
      exact all.close rfl
    · split at executed
      · cases executed
        exact all.close rfl
      · rename_i completed success
        refine all.lockRow executed (.of_row rfl ?_)
        rw [(markCompletedIfLeaseOwned_some success).2.1]
        decide
  · split at executed
    · cases executed
      refine all.put rfl ⟨prepared.left, prepared.deleted, ?_⟩
      intro wrong
      cases wrong
    · rename_i cancelled success
      refine all.lockRow executed (.of_row rfl ?_)
      rw [(markCancelledIfInProgress_some success).2.1]
      decide
  · split at executed
    · cases executed
      refine all.put rfl ⟨prepared.left, prepared.deleted, ?_⟩
      intro wrong
      cases wrong
    · rename_i expired success
      refine all.lockRow executed (.of_row rfl ?_)
      rw [(markExpiredIfInProgress_some success).2.1]
      decide
  · split at executed
    · cases executed
      exact all.close rfl
    · rename_i released success
      refine all.lockRow executed (.of_row rfl ?_)
      rw [(releaseUploadLease_some success).2.1]
      decide
  · refine all.advance executed rfl (prepared.next remaining ?_ rfl rfl fun _ => .inr rfl)
    cases kind : transaction.kind <;>
      exact kind ▸ behind _ (by rw [kind]; rfl) (by decide)
  · rename_i notRenew _ _ notCancel notExpire notRelease
    refine all.advance executed rfl (prepared.next remaining ?_ rfl rfl .inl)
    cases kind : transaction.kind with
    | completeUpload run =>
        exact kind ▸ behind .renewFinalizeLease (by rw [kind]; rfl) fun same => notRenew run same.symm kind
    | cancelInProgressUpload userId =>
        exact kind ▸ behind .markCancelledIfInProgress (by rw [kind]; rfl)
          fun same => notCancel userId same.symm kind
    | expireInProgressUpload =>
        exact kind ▸ behind .markExpiredIfInProgress (by rw [kind]; rfl)
          fun same => notExpire same.symm kind
    | releaseUploadLease owner version =>
        exact kind ▸ behind .releaseUploadLease (by rw [kind]; rfl)
          fun same => notRelease owner version same.symm kind

end Execute

theorem executeStatement_chunks {state next : State} {slot : Nat} {transaction : Transaction}
    {statement : Statement} {rest : List Statement} {succeeds : Bool}
    (executed : state.executeStatement slot transaction statement rest succeeds = some next) :
    next.chunks = state.chunks := by
  unfold State.executeStatement at executed
  simp only [State.advance, State.lockRow, State.put, State.close] at executed
  repeat' split at executed
  all_goals
    first
      | cases executed
        rfl
      | cases executed

/-- Apart from a record, a step leaves the rows alone or deletes them with the end of the progress. -/
structure Untouched (state next : State) : Prop where
  prepared : AllPrepared next
  chunks : next.chunks = state.chunks ∨ next.chunks = [] ∧ next.task.status ≠ .inProgress

section Steps

variable {state next : State} {slot : Nat}

theorem Untouched.of_same (prepared : AllPrepared state) (transactions : next.transactions = state.transactions)
    (chunks : next.chunks = state.chunks) : Untouched state next where
  prepared other transaction held := prepared other transaction (transactions ▸ held)
  chunks := .inl chunks

theorem begin_untouched {kind : TransactionKind} (prepared : AllPrepared state)
    (begun : state.begin slot kind = some next) : Untouched state next := by
  unfold State.begin at begun
  split at begun
  · cases begun
    exact ⟨prepared.put rfl (prepared_start kind state.now), .inl rfl⟩
  · cases begun

theorem beginComplete_untouched {run : Nat} (prepared : AllPrepared state)
    (begun : state.beginComplete run slot = some next) : Untouched state next := by
  unfold State.beginComplete at begun
  split at begun
  · cases begun
  · have kept : AllPrepared { state with runs := Function.update state.runs run none } := prepared
    have untouched := begin_untouched kept begun
    exact ⟨untouched.prepared, untouched.chunks⟩

theorem writeRow_untouched {task : UploadTask} (prepared : AllPrepared state)
    (written : state.writeRow task = some next) : Untouched state next := by
  unfold State.writeRow at written
  split at written
  · cases written
    exact .of_same prepared rfl rfl
  · cases written

theorem execute_untouched {succeeds : Bool} (prepared : AllPrepared state)
    (executed : state.execute slot succeeds = some next) : Untouched state next := by
  unfold State.execute at executed
  split at executed
  · cases executed
  · rename_i transaction opened
    split at executed
    · cases executed
    · rename_i statement rest remaining
      exact ⟨prepared.executeStatement (prepared slot transaction opened) remaining executed,
        .inl (executeStatement_chunks executed)⟩

/-- A commit that deletes the rows ends the progress of the task. -/
theorem commit_untouched (prepared : AllPrepared state) (committed : state.commit slot = some next) :
    Untouched state next := by
  unfold State.commit at committed
  split at committed
  · cases committed
  · rename_i transaction opened
    have own := prepared slot transaction opened
    split at committed
    · cases committed
      refine ⟨prepared.close rfl, ?_⟩
      dsimp only
      split
      · rename_i deleted
        obtain ⟨row, written⟩ := Option.isSome_iff_exists.mp (own.deleted deleted)
        rw [written]
        exact .inr ⟨rfl, own.left row written⟩
      · exact .inl rfl
    · cases committed

theorem step_untouched {action : Action} (prepared : AllPrepared state)
    (moved : step state action = some next)
    (other : ∀ startedAt userId chunkIndex sizeBytes hashMd5 objectKey etag,
      action ≠ .recordChunk startedAt userId chunkIndex sizeBytes hashMd5 objectKey etag) :
    Untouched state next := by
  cases action with
  | tick elapsed =>
      cases moved
      exact .of_same prepared rfl rfl
  | recordChunk => exact absurd rfl (other _ _ _ _ _ _ _)
  | claimFinalizeLease slot startedAt userId leaseOwner seconds =>
      change state.claim slot startedAt userId leaseOwner seconds = some next at moved
      unfold State.claim at moved
      split at moved
      · split at moved
        · cases moved
          exact .of_same prepared rfl rfl
        · obtain ⟨written, wrote, rfl⟩ := Option.map_eq_some_iff.mp moved
          have untouched := writeRow_untouched prepared wrote
          exact ⟨untouched.prepared, untouched.chunks⟩
      · cases moved
  | renewFinalizeLease slot startedAt =>
      change state.renew slot startedAt = some next at moved
      unfold State.renew at moved
      split at moved
      · cases moved
      · split at moved
        · split at moved
          · cases moved
            exact .of_same prepared rfl rfl
          · obtain ⟨written, wrote, rfl⟩ := Option.map_eq_some_iff.mp moved
            have untouched := writeRow_untouched prepared wrote
            exact ⟨untouched.prepared, untouched.chunks⟩
        · cases moved
  | recordFinalizeError startedAt userId leaseOwner expectedStateVersion errorCode =>
      change state.recordError startedAt userId leaseOwner expectedStateVersion errorCode =
        some next at moved
      unfold State.recordError at moved
      split at moved
      · split at moved
        · cases moved
          exact .of_same prepared rfl rfl
        · exact writeRow_untouched prepared moved
      · cases moved
  | abandonRun slot =>
      cases moved
      exact .of_same prepared rfl rfl
  | beginComplete run slot => exact beginComplete_untouched prepared moved
  | beginCancel slot userId => exact begin_untouched prepared moved
  | beginExpire slot => exact begin_untouched prepared moved
  | beginRelease slot expectedLeaseOwner expectedStateVersion => exact begin_untouched prepared moved
  | execute slot succeeds => exact execute_untouched prepared moved
  | rollback slot =>
      simp only [step] at moved
      split at moved
      · cases moved
        exact ⟨prepared.close rfl, .inl rfl⟩
      · cases moved
  | commit slot => exact commit_untouched prepared moved
  | deleteFile fileId =>
      change state.deleteFile fileId = some next at moved
      unfold State.deleteFile at moved
      split at moved
      · obtain ⟨written, wrote, rfl⟩ := Option.map_eq_some_iff.mp moved
        have untouched := writeRow_untouched prepared wrote
        exact ⟨untouched.prepared, untouched.chunks⟩
      · cases moved

end Steps

end Finalization

namespace ChunkService

open Library Library.Autocommit Storage Utils Jobs

/-- The rows of the chunks have distinct indices, and the statements on the task behave. -/
structure RowsInv (upload : Finalization.State) : Prop where
  invariant : Finalization.Invariant upload
  prepared : Finalization.AllPrepared upload
  distinct : (upload.chunks.map UploadTaskChunk.chunkIndex).Nodup

/-- The rows stay and are filled until they are deleted, and none is written after the progress. -/
structure Kept (before after : Finalization.State) : Prop where
  filled : (∀ chunk ∈ before.chunks, ∃ later ∈ after.chunks, chunk.Fills later) ∨
    after.chunks = [] ∧ after.task.status ≠ .inProgress
  closed : before.task.status ≠ .inProgress →
    after.task.status ≠ .inProgress ∧ after.chunks ⊆ before.chunks

section Rows

variable {before middle after : Finalization.State}

theorem Kept.same (upload : Finalization.State) : Kept upload upload where
  filled := .inl fun chunk present => ⟨chunk, present, .same chunk⟩
  closed left := ⟨left, fun _ present => present⟩

theorem Kept.trans (one : Kept before middle) (two : Kept middle after) : Kept before after where
  filled := by
    rcases one.filled with first | ⟨empty, left⟩
    · rcases two.filled with second | gone
      · refine .inl fun chunk present => ?_
        obtain ⟨between, inside, fills⟩ := first chunk present
        obtain ⟨later, last, further⟩ := second between inside
        exact ⟨later, last, fills.trans further⟩
      · exact .inr gone
    · obtain ⟨still, rows⟩ := two.closed left
      rw [empty] at rows
      exact .inr ⟨List.subset_nil.mp rows, still⟩
  closed left := by
    obtain ⟨first, rows⟩ := one.closed left
    obtain ⟨second, later⟩ := two.closed first
    exact ⟨second, List.Subset.trans later rows⟩

/-- No statement brings a task back into progress. -/
theorem evolves_left {task next : UploadTask} (evolves : Evolves task next)
    (left : task.status ≠ .inProgress) : next.status ≠ .inProgress := by
  rcases evolves.status_move with same | moved
  · rw [same]
    exact left
  · intro back
    generalize task.status = status at moved
    rw [back] at moved
    cases moved

theorem task_kept {action : Finalization.Action} (rows : RowsInv before)
    (moved : Finalization.step before action = some after)
    (other : ∀ startedAt userId chunkIndex sizeBytes hashMd5 objectKey etag,
      action ≠ .recordChunk startedAt userId chunkIndex sizeBytes hashMd5 objectKey etag) :
    RowsInv after ∧ Kept before after := by
  obtain ⟨invariant, evolves⟩ := Finalization.step_invariant rows.invariant moved
  obtain ⟨prepared, chunks⟩ := Finalization.step_untouched rows.prepared moved other
  rcases chunks with same | ⟨empty, left⟩
  · refine ⟨⟨invariant, prepared, ?_⟩, ?_, ?_⟩
    · rw [same]
      exact rows.distinct
    · rw [same]
      exact .inl fun chunk present => ⟨chunk, present, .same chunk⟩
    · intro left
      rw [same]
      exact ⟨evolves_left evolves left, fun _ present => present⟩
  · refine ⟨⟨invariant, prepared, ?_⟩, .inr ⟨empty, left⟩, ?_⟩
    · rw [empty]
      exact List.nodup_nil
    · intro _
      rw [empty]
      exact ⟨left, List.nil_subset _⟩

/-- An accepted record leaves a row with the hash that it was given. -/
theorem record_kept {startedAt : Timestamp} {userId chunkIndex sizeBytes : Nat}
    {hashMd5 objectKey etag : String} (rows : RowsInv before)
    (recorded : before.recordChunk startedAt userId chunkIndex sizeBytes hashMd5 objectKey etag =
      some after) :
    RowsInv after ∧ Kept before after ∧
      ((recordChunkIfInProgress startedAt userId chunkIndex sizeBytes hashMd5 objectKey etag before.task
          before.chunks).1 = .accepted →
        ∃ row ∈ after.chunks, row.chunkIndex = chunkIndex ∧ row.hashMd5 = some hashMd5) := by
  obtain ⟨invariant, -⟩ := rows.invariant.afterRecordChunk recorded
  have outcomes := recordChunkIfInProgress_cases startedAt userId chunkIndex sizeBytes hashMd5 objectKey
    etag before.task rows.distinct
  unfold Finalization.State.recordChunk at recorded
  dsimp only at recorded outcomes
  generalize recordChunkIfInProgress startedAt userId chunkIndex sizeBytes hashMd5 objectKey etag
    before.task before.chunks = made at recorded outcomes ⊢
  split at recorded
  · split at recorded
    · rename_i rejected
      cases recorded
      refine ⟨rows, .same before, ?_⟩
      intro accepted
      rw [rejected] at accepted
      cases accepted
    · rename_i eligible
      split at recorded
      · cases recorded
        rcases outcomes with ⟨rejected, -⟩ | ⟨current, ⟨conflict, same⟩ | ⟨-, accepts⟩⟩
        · exact absurd rejected eligible
        · refine ⟨⟨invariant, rows.prepared, ?_⟩, ⟨.inl ?_, ?_⟩, ?_⟩
          · rw [same]
            exact rows.distinct
          · intro chunk present
            rw [same]
            exact ⟨chunk, present, .same chunk⟩
          · exact absurd current
          · intro accepted
            rw [conflict] at accepted
            cases accepted
        · exact ⟨⟨invariant, rows.prepared, accepts.distinct⟩, ⟨.inl accepts.filled, absurd current⟩,
            fun _ => accepts.recorded⟩
      · cases recorded
  · cases recorded

end Rows

section Storage

variable {World Stream : Type}

/-- A chunk that the object store accepts carries the hash that it was written with. -/
theorem writeS3Chunk_returns (client : S3Client World Stream) (readBufferSize : Nat)
    (session : UploadStagingSession) (stagingPrefix : String) (chunkIndex : UInt32) (md5Hash : String)
    (data : List UInt8) :
    Returns (fun chunk : UploadStagingChunk => chunk.md5Hash = md5Hash)
      (writeS3Chunk client readBufferSize session stagingPrefix chunkIndex md5Hash data) := by
  unfold writeS3Chunk
  split
  · exact returns_throw _
  · split
    · exact returns_throw _
    · split
      · exact returns_throw _
      · apply returns_of_last
        intro put
        dsimp only
        split
        · apply returns_of_last
          intro head
          exact returns_pure rfl
        · apply returns_of_last
          intro head
          split
          · exact returns_throw _
          · split
            · exact returns_throw _
            · exact returns_pure rfl

theorem writeLocalChunk_returns (files : LocalFiles World) (tempUploadPath uuid : String)
    (session : UploadStagingSession) (chunkIndex : UInt32) (md5Hash : String) (data : List UInt8) :
    Returns (fun chunk : UploadStagingChunk => chunk.md5Hash = md5Hash)
      (writeLocalChunk files tempUploadPath uuid session chunkIndex md5Hash data) := by
  unfold writeLocalChunk
  split
  · exact returns_throw _
  · apply returns_of_last
    intro published
    exact returns_pure rfl

theorem writeChunk_hash {storage : StagingStorage World Stream} {uuid : String}
    {session : UploadStagingSession} {chunkIndex : UInt32} {md5Hash : String} {data : List UInt8}
    {world : World} {chunk : UploadStagingChunk}
    (wrote : storage.writeChunk uuid session chunkIndex md5Hash data world = .ok chunk) :
    chunk.md5Hash = md5Hash := by
  unfold StagingStorage.writeChunk at wrote
  split at wrote
  · generalize ran : outcome (writeS3Chunk _ _ _ _ _ _ _) _ = result at wrote
    obtain ⟨value, after⟩ := result
    dsimp only at wrote
    rw [wrote] at ran
    exact writeS3Chunk_returns _ _ _ _ _ _ _ _ chunk after ran
  · generalize ran : outcome (writeLocalChunk _ _ _ _ _ _ _) _ = result at wrote
    obtain ⟨failure | value, after⟩ := result
    · cases wrote
    · cases wrote
      exact writeLocalChunk_returns _ _ _ _ _ _ _ _ chunk after ran

end Storage

section Service

variable {World Stream : Type} {setup : ServiceSetup World Stream} {state next : ServiceState}

/-- A request that a step has just moved: its written chunk has the hash of the data, and the chunk
that it reports is recorded with that hash. -/
structure Moved (upload : Finalization.State) (request : ChunkRequest) : Prop where
  written : ∀ chunk, request.phase = .written chunk → chunk.md5Hash = hashMd5 request.call.chunkData
  reported : ∀ response, request.phase = .finished (.ok response) →
    response.chunkIndex = request.call.chunkIndex ∧
      ∃ row ∈ upload.chunks, row.chunkIndex = response.chunkIndex.toNat ∧
        row.hashMd5 = some (hashMd5 request.call.chunkData)

/-- A step keeps the rows and moves at most the requests that it writes. -/
structure ServiceMove (state next : ServiceState) : Prop where
  rows : RowsInv next.upload
  kept : Kept state.upload next.upload
  requests : ∀ slot request, next.requests slot = some request →
    state.requests slot = some request ∨ Moved next.upload request

/-- A request that waits or that fails says nothing about the rows. -/
theorem Moved.silent {upload : Finalization.State} {call : ChunkCall} {phase : ChunkPhase}
    (unwritten : ∀ chunk, phase ≠ .written chunk) (unreported : ∀ response, phase ≠ .finished (.ok response)) :
    Moved upload ⟨call, phase⟩ where
  written chunk wrong := absurd wrong (unwritten chunk)
  reported response wrong := absurd wrong (unreported response)

theorem Moved.failed (upload : Finalization.State) (call : ChunkCall) (failure : CallFailure) :
    Moved upload ⟨call, .finished (.error failure)⟩ :=
  .silent (fun _ wrong => by cases wrong) fun _ wrong => by cases wrong

theorem ServiceMove.put {slot : Nat} {request : ChunkRequest} (rows : RowsInv next.upload)
    (kept : Kept state.upload next.upload)
    (requests : next.requests = Function.update state.requests slot (some request))
    (moved : Moved next.upload request) : ServiceMove state next where
  rows := rows
  kept := kept
  requests other found held := by
    rw [requests] at held
    rcases update_some_cases held with ⟨-, written⟩ | ⟨-, before⟩
    · cases written
      exact .inr moved
    · exact .inl before

/-- A step that writes one request leaves the rows and the other requests alone. -/
theorem ServiceMove.request {slot : Nat} {request : ChunkRequest} (rows : RowsInv state.upload)
    (upload : next.upload = state.upload)
    (requests : next.requests = Function.update state.requests slot (some request))
    (moved : Moved state.upload request) : ServiceMove state next := by
  rw [← upload] at rows moved
  refine .put rows ?_ requests moved
  rw [upload]
  exact .same state.upload

/-- A step that only clears entries writes no request. -/
theorem ServiceMove.cleared (rows : RowsInv state.upload) (upload : next.upload = state.upload)
    (requests : ∀ slot request, next.requests slot = some request → state.requests slot = some request) :
    ServiceMove state next where
  rows := by
    rw [upload]
    exact rows
  kept := by
    rw [upload]
    exact .same state.upload
  requests slot request held := .inl (requests slot request held)

variable {slot : Nat} {call : ChunkCall}

theorem lookUp_moves (rows : RowsInv state.upload)
    (moved : state.lookUp slot ⟨call, .received⟩ = some next) : ServiceMove state next := by
  unfold ServiceState.lookUp at moved
  split at moved
  · cases moved
  · cases moved
    refine .request rows rfl rfl (.silent ?_ ?_)
    · intro chunk wrong
      cases wrong
    · intro response wrong
      cases wrong

theorem findTask_moves {startedAt : Timestamp} (rows : RowsInv state.upload)
    (moved : state.findTask slot ⟨call, .received⟩ startedAt = some next) : ServiceMove state next := by
  unfold ServiceState.findTask at moved
  dsimp only at moved
  split at moved
  · cases moved
  · split at moved
    · cases moved
      exact .request rows rfl rfl (.failed _ call _)
    · split at moved
      · cases moved
        exact .request rows rfl rfl (.failed _ call _)
      · cases moved
        refine .request rows rfl rfl (.silent ?_ ?_)
        · intro chunk wrong
          cases wrong
        · intro response wrong
          cases wrong

theorem findSession_moves (setup : ServiceSetup World Stream) {fileSize : UInt64} {totalChunks : UInt32}
    {phase : ChunkPhase} {answered : Bool} (rows : RowsInv state.upload) :
    ServiceMove state (state.findSession setup slot ⟨call, phase⟩ fileSize totalChunks answered) := by
  unfold ServiceState.findSession
  dsimp only
  split
  · refine .request rows rfl rfl (.silent ?_ ?_)
    · intro chunk wrong
      cases wrong
    · intro response wrong
      cases wrong
  · exact .request rows rfl rfl (.failed _ call _)

/-- A written chunk has the hash of the data of its request. -/
theorem write_moves (setup : ServiceSetup World Stream) {entry : UploadTaskCacheEntry} {uuid : String}
    {phase : ChunkPhase} {world : World} (rows : RowsInv state.upload) :
    ServiceMove state (state.write setup slot ⟨call, phase⟩ entry uuid world) := by
  unfold ServiceState.write
  dsimp only
  split
  · exact .request rows rfl rfl (.failed _ call _)
  · split
    · exact .request rows rfl rfl (.failed _ call _)
    · split
      · exact .request rows rfl rfl (.failed _ call _)
      · rename_i chunk wrote
        refine .request rows rfl rfl ⟨?_, ?_⟩
        · intro other same
          cases same
          exact writeChunk_hash wrote
        · intro response wrong
          cases wrong

/-- Only an accepted record is reported as a success. -/
theorem record_moves {chunk : UploadStagingChunk} {phase : ChunkPhase} {startedAt : Timestamp}
    {answered : Bool} (rows : RowsInv state.upload) (hashed : chunk.md5Hash = hashMd5 call.chunkData)
    (moved : state.record slot ⟨call, phase⟩ chunk startedAt answered = some next) :
    ServiceMove state next := by
  unfold ServiceState.record at moved
  dsimp only at moved
  split at moved
  · cases moved
  · rename_i upload recorded
    obtain ⟨kept, filled, accepted⟩ := record_kept rows recorded
    split at moved
    · have replied : Moved upload ⟨call, .finished (call.reply (recordChunkIfInProgress startedAt
          call.userId call.chunkIndex.toNat chunk.sizeBytes.toNat chunk.md5Hash chunk.objectKey chunk.etag
          state.upload.task state.upload.chunks).1)⟩ := by
        refine ⟨?_, ?_⟩
        · intro chunk wrong
          cases wrong
        · intro response same
          generalize (recordChunkIfInProgress _ _ _ _ _ _ _ _ _).1 = disposition at accepted same
          cases disposition with
          | accepted =>
              cases same
              obtain ⟨row, present, index, hash⟩ := accepted rfl
              exact ⟨rfl, row, present, index, hashed ▸ hash⟩
          | taskRejected => cases same
          | metadataConflict => cases same
      split at moved
      · cases moved
        exact .put kept filled rfl replied
      · cases moved
        exact .put kept filled rfl replied
    · cases moved
      exact .put kept filled rfl (.failed upload call _)

/-- A step moves one request and keeps the chunk rows. -/
theorem step_moves {action : ServiceAction World} (rows : RowsInv state.upload)
    (written : ∀ slot call chunk, state.requests slot = some ⟨call, .written chunk⟩ →
      chunk.md5Hash = hashMd5 call.chunkData)
    (moved : step setup state action = some next) : ServiceMove state next := by
  cases action with
  | receive slot call =>
      simp only [step] at moved
      split at moved
      · cases moved
        refine .request rows rfl rfl (.silent ?_ ?_)
        · intro chunk wrong
          cases wrong
        · intro response wrong
          cases wrong
      · cases moved
  | lookUp slot =>
      simp only [step] at moved
      split at moved
      · exact lookUp_moves rows moved
      · cases moved
  | findTask slot startedAt =>
      simp only [step] at moved
      split at moved
      · exact findTask_moves rows moved
      · cases moved
  | findSession slot answered =>
      simp only [step] at moved
      split at moved
      · cases moved
        exact findSession_moves setup rows
      · cases moved
  | write slot uuid world =>
      simp only [step] at moved
      split at moved
      · cases moved
        exact write_moves setup rows
      · cases moved
  | record slot startedAt answered =>
      simp only [step] at moved
      split at moved
      · rename_i call chunk held
        exact record_moves rows (written slot call chunk held) moved
      · cases moved
  | recordFails slot =>
      simp only [step] at moved
      split at moved
      · rename_i call chunk held
        cases moved
        exact .request rows rfl rfl (.failed _ call _)
      · cases moved
  | abandon slot =>
      cases moved
      refine .cleared rows rfl ?_
      intro other request held
      rcases update_some_cases held with ⟨-, wrong⟩ | ⟨-, before⟩
      · cases wrong
      · exact before
  | evict server =>
      cases moved
      exact .cleared rows rfl fun _ _ held => held
  | task action =>
      have other : ∀ startedAt userId chunkIndex sizeBytes hashMd5 objectKey etag,
          action ≠ .recordChunk startedAt userId chunkIndex sizeBytes hashMd5 objectKey etag := by
        rintro startedAt userId chunkIndex sizeBytes hashMd5 objectKey etag rfl
        cases moved
      simp only [step] at moved
      split at moved
      · cases moved
      · rename_i upload stepped
        cases moved
        obtain ⟨kept, filled⟩ := task_kept rows stepped other
        exact ⟨kept, filled, fun _ _ held => .inl held⟩

/-- The row of the chunk has the hash of the data, until the rows end with the progress. -/
def Recorded (upload : Finalization.State) (call : ChunkCall) : Prop :=
  (∃ row ∈ upload.chunks, row.chunkIndex = call.chunkIndex.toNat ∧
    row.hashMd5 = some (hashMd5 call.chunkData)) ∨
      upload.chunks = [] ∧ upload.task.status ≠ .inProgress

theorem Recorded.kept {before after : Finalization.State} (recorded : Recorded before call)
    (kept : Kept before after) : Recorded after call := by
  rcases recorded with ⟨row, present, index, hash⟩ | ⟨empty, left⟩
  · rcases kept.filled with filled | gone
    · obtain ⟨later, inside, fills⟩ := filled row present
      exact .inl ⟨later, inside, fills.index.trans index, fills.hash _ hash⟩
    · exact .inr gone
  · obtain ⟨still, rows⟩ := kept.closed left
    rw [empty] at rows
    exact .inr ⟨List.subset_nil.mp rows, still⟩

/-- The rows keep their invariant, and a report names a chunk recorded with the hash of its bytes. -/
structure ServiceInv (state : ServiceState) : Prop where
  rows : RowsInv state.upload
  written : ∀ slot call chunk, state.requests slot = some ⟨call, .written chunk⟩ →
    chunk.md5Hash = hashMd5 call.chunkData
  reported : ∀ slot call response, state.requests slot = some ⟨call, .finished (.ok response)⟩ →
    response.chunkIndex = call.chunkIndex ∧ Recorded state.upload call

theorem start_serviceInv (started : initial state) : ServiceInv state := by
  obtain ⟨upload, distinct, -, requests⟩ := started
  have invariant := Finalization.start_invariant upload
  obtain ⟨-, -, -, -, transactions, -⟩ := upload
  refine ⟨⟨⟨?_, ?_, ?_, ?_⟩, ?_, distinct⟩, ?_, ?_⟩
  · exact invariant.counted
  · exact invariant.locked
  · exact invariant.bounded
  · exact invariant.sound
  · intro slot transaction held
    rw [transactions slot] at held
    cases held
  · intro slot call chunk held
    rw [requests slot] at held
    cases held
  · intro slot call response held
    rw [requests slot] at held
    cases held

/-- Every step keeps the invariant. -/
theorem ServiceInv.after {action : ServiceAction World} (invariant : ServiceInv state)
    (moved : step setup state action = some next) : ServiceInv next := by
  obtain ⟨rows, kept, requests⟩ := step_moves invariant.rows invariant.written moved
  refine ⟨rows, ?_, ?_⟩
  · intro slot call chunk held
    rcases requests slot _ held with before | fresh
    · exact invariant.written slot call chunk before
    · exact fresh.written chunk rfl
  · intro slot call response held
    rcases requests slot _ held with before | fresh
    · obtain ⟨index, recorded⟩ := invariant.reported slot call response before
      exact ⟨index, recorded.kept kept⟩
    · obtain ⟨index, row, present, same, hash⟩ := fresh.reported response rfl
      exact ⟨index, .inl ⟨row, present, index ▸ same, hash⟩⟩

/-- Every reachable state satisfies the invariant. -/
theorem reachable_serviceInv (reachable : (system setup).Reachable state) : ServiceInv state :=
  reachable.invariant ServiceInv (fun _ => start_serviceInv) fun _ _ _ invariant _ moved =>
    invariant.after moved

/-- A run keeps what has been recorded. -/
theorem reaches_kept (invariant : ServiceInv state) (path : (system setup).Reaches state next) :
    Kept state.upload next.upload :=
  TransitionSystem.ReachesWhen.relates ServiceInv
    (fun first second : ServiceState => Kept first.upload second.upload) (fun _ => .same _)
    (fun _ _ _ one two => one.trans two) (fun _ _ _ here _ moved => here.after moved)
    (fun _ _ _ here _ moved => (step_moves here.rows here.written moved).kept) path invariant

/-- A recorded value never changes while its row exists, nothing is recorded outside the progress of the
task, and a chunk that a request reports is recorded with the hash of its data. -/
theorem chunk_metadata_write_once (setup : ServiceSetup World Stream) {state : ServiceState}
    (reachable : (system setup).Reachable state) :
    (∀ later, (system setup).Reaches state later →
      (∀ row ∈ state.upload.chunks, ∀ laterRow ∈ later.upload.chunks,
        laterRow.chunkIndex = row.chunkIndex → row.Fills laterRow) ∧
      (state.upload.task.status ≠ .inProgress → later.upload.task.status ≠ .inProgress ∧
        later.upload.chunks ⊆ state.upload.chunks)) ∧
    (∀ action next slot call response, step setup state action = some next →
      next.requests slot = some ⟨call, .finished (.ok response)⟩ →
      state.requests slot ≠ some ⟨call, .finished (.ok response)⟩ →
      ∃ row ∈ next.upload.chunks, row.chunkIndex = call.chunkIndex.toNat ∧
        row.hashMd5 = some (hashMd5 call.chunkData)) ∧
    ∀ slot call response, state.requests slot = some ⟨call, .finished (.ok response)⟩ →
      response.chunkIndex = call.chunkIndex ∧ Recorded state.upload call ∧
        ∀ row ∈ state.upload.chunks, row.chunkIndex = call.chunkIndex.toNat →
          row.hashMd5 = some (hashMd5 call.chunkData) := by
  have invariant := reachable_serviceInv reachable
  refine ⟨?_, ?_, ?_⟩
  · intro later path
    have after : ServiceInv later :=
      path.keeps ServiceInv (fun _ _ _ here _ moved => here.after moved) invariant
    have kept := reaches_kept invariant path
    refine ⟨?_, kept.closed⟩
    intro row present laterRow inside same
    rcases kept.filled with filled | ⟨empty, -⟩
    · obtain ⟨found, listed, fills⟩ := filled row present
      have own : laterRow = found :=
        List.inj_on_of_nodup_map after.rows.distinct inside listed (same.trans fills.index.symm)
      rw [own]
      exact fills
    · rw [empty] at inside
      cases inside
  · intro action next slot call response moved held fresh
    rcases (step_moves invariant.rows invariant.written moved).requests slot _ held with before | done
    · exact absurd before fresh
    · obtain ⟨index, row, present, same, hash⟩ := done.reported response rfl
      exact ⟨row, present, index ▸ same, hash⟩
  · intro slot call response held
    obtain ⟨index, recorded⟩ := invariant.reported slot call response held
    refine ⟨index, recorded, ?_⟩
    intro row present same
    rcases recorded with ⟨found, listed, own, hash⟩ | ⟨empty, -⟩
    · have equal : row = found :=
        List.inj_on_of_nodup_map invariant.rows.distinct present listed (same.trans own.symm)
      rw [equal, hash]
    · rw [empty] at present
      cases present

end Service

/-- A disk on which every call succeeds and that holds no file. -/
def emptyDisk : LocalFiles Unit where
  createDirectories _ world := (some (), world)
  fileExists _ world := (some false, world)
  fileSize _ world := (none, world)
  readFile _ world := (none, world)
  openForWriting _ world := (some (), world)
  writeFile _ _ world := (some (), world)
  rename _ _ world := (some (), world)
  remove _ world := (some (), world)

def emptyDiskSetup : ServiceSetup Unit Unit where
  storage := ⟨emptyDisk, none, "temp", "staging", 65536⟩
  chunkSize := 4

/-- The only chunk of the task. -/
def onlyChunk : ChunkCall := ⟨"server", 1, 0, hashMd5 [1, 2, 3, 4], [1, 2, 3, 4]⟩

def onlyChunkActions : List (ServiceAction Unit) :=
  [.receive 0 onlyChunk, .findTask 0 0, .findSession 0 true, .write 0 "uuid" (), .record 0 0 true,
    .task (.claimFinalizeLease 0 0 1 "owner" 30)]

def reportsFirst (state : ServiceState) : Bool :=
  match state.requests 0 with
  | some ⟨call, .finished (.ok _)⟩ => call = onlyChunk
  | _ => false

/-- A reported chunk stays recorded behind a claim of its task. -/
theorem chunk_metadata_write_once_only_chunk :
    ∃ state, (system emptyDiskSetup).Reachable state ∧ Recorded state.upload onlyChunk := by
  have started : initial ⟨Finalization.oneChunkStart, fun _ => none, fun _ => none⟩ :=
    ⟨Finalization.oneChunkStart_initial, List.nodup_nil, fun _ => rfl, fun _ => rfl⟩
  obtain ⟨state, reachable, checked⟩ := (system emptyDiskSetup).exists_reachable_of_run
    onlyChunkActions reportsFirst started (by decide +kernel)
  unfold reportsFirst at checked
  split at checked
  · rename_i call response held
    obtain rfl : call = onlyChunk := of_decide_eq_true checked
    exact ⟨state, reachable,
      ((chunk_metadata_write_once emptyDiskSetup reachable).2.2 0 onlyChunk response held).2.1⟩
  · cases checked

end ChunkService

end DiskServer.Upload
