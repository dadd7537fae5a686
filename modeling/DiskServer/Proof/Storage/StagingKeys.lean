import DiskServer.Construction.Storage.StagingKeys
import DiskServer.Library.Separator
import Mathlib

namespace DiskServer.Storage

open Library Jobs

section Paths

theorem startsWith_iff {text start : String} :
    startsWith text start = true ↔ start.toList <+: text.toList := List.isPrefixOf_iff_prefix

theorem startsWith_append (start rest : String) : startsWith (start ++ rest) start = true := by
  rw [startsWith_iff, String.toList_append]
  exact List.prefix_append _ _

theorem exists_rest {text start : String} (starts : startsWith text start = true) :
    ∃ rest, text = start ++ rest := by
  obtain ⟨rest, whole⟩ := startsWith_iff.mp starts
  refine ⟨String.ofList rest, String.toList_inj.mp ?_⟩
  rw [String.toList_append, String.toList_ofList]
  exact whole.symm

theorem segments_ne_nil (key : List Char) : segments key ≠ [] := by
  induction key with
  | nil => simp [segments]
  | cons character rest filled =>
      simp only [segments]
      split
      · simp
      · split <;> simp

theorem segments_append_slash (first second : List Char) :
    segments (first ++ '/' :: second) = segments first ++ segments second := by
  induction first with
  | nil => simp [segments]
  | cons character rest ih =>
      simp only [List.cons_append, segments, ih]
      split
      · rfl
      · cases split : segments rest with
        | nil => exact absurd split (segments_ne_nil rest)
        | cons segment others => rfl

theorem segments_of_not_mem {key : List Char} (plain : '/' ∉ key) : segments key = [key] := by
  induction key with
  | nil => rfl
  | cons character rest ih =>
      rw [List.mem_cons, not_or] at plain
      rw [segments, if_neg (Ne.symm plain.1), ih plain.2]

/-- Every part of the key between its slashes may stand in a path. -/
def SafePath (key : List Char) : Prop :=
  ∀ segment ∈ segments key, isDotSegment segment = false ∧ segment.all isSafeCharacter = true

theorem isSafeObjectPrefix_iff {key : String} :
    isSafeObjectPrefix key = true ↔ key.utf8ByteSize ≤ 1024 ∧ SafePath key.toList := by
  simp [isSafeObjectPrefix, SafePath]

theorem safePath_append {first second : List Char} (one : SafePath first) (two : SafePath second) :
    SafePath (first ++ '/' :: second) := by
  intro segment inside
  rw [segments_append_slash] at inside
  rcases List.mem_append.mp inside with early | late
  · exact one segment early
  · exact two segment late

theorem isDotSegment_of_mem {segment : List Char} {character : Char} (inside : character ∈ segment)
    (other : character ≠ '.') : isDotSegment segment = false := by
  simp only [isDotSegment, Bool.or_eq_false_iff, decide_eq_false_iff_not]
  refine ⟨⟨?_, ?_⟩, ?_⟩
  · rintro rfl
    cases inside
  · rintro rfl
    exact other (List.mem_singleton.mp inside)
  · rintro rfl
    simp only [List.mem_cons, List.not_mem_nil, or_false, or_self] at inside
    exact other inside

/-- A part of safe characters, not all of them dots, makes a safe path. -/
theorem safePath_of_segment {segment : List Char} {character : Char} (inside : character ∈ segment)
    (other : character ≠ '.') (safe : ∀ character ∈ segment, isSafeCharacter character = true) :
    SafePath segment := by
  have plain : '/' ∉ segment := by
    intro slash
    exact absurd (safe '/' slash) (by decide)
  intro part listed
  rw [segments_of_not_mem plain] at listed
  rw [List.mem_singleton.mp listed]
  exact ⟨isDotSegment_of_mem inside other, List.all_eq_true.mpr safe⟩

theorem safePath_of_normalized {configured fallback fieldName key : String}
    (plain : SafePath fallback.toList)
    (normalized : normalizeObjectPrefix configured fallback fieldName = .ok key) :
    SafePath key.toList := by
  simp only [normalizeObjectPrefix] at normalized
  split at normalized
  · obtain rfl := Except.ok.inj normalized
    exact plain
  · split at normalized
    · rename_i none
      obtain rfl := Except.ok.inj normalized
      intro segment listed
      have passes := List.find?_eq_none.mp none segment listed
      simp only [Bool.or_eq_true, Bool.not_eq_true', not_or, Bool.not_eq_false,
        Bool.not_eq_true] at passes
      exact ⟨passes.2, passes.1⟩
    · split at normalized <;> cases normalized

theorem toList_slash (text : String) : (text ++ "/").toList = text.toList ++ ['/'] :=
  String.toList_append

/-- A prefix that goes on with a slash inside another one is the same or shorter. -/
theorem same_or_shorter {left right : String}
    (within : (left ++ "/").toList <+: (right ++ "/").toList) :
    left = right ∨ (left.utf8ByteSize < right.utf8ByteSize ∧ startsWith right left = true ∧
      right.toList[left.length]? = some '/') := by
  obtain ⟨rest, whole⟩ := within
  rw [toList_slash, toList_slash] at whole
  rcases List.eq_nil_or_concat rest with rfl | ⟨inner, last, rfl⟩
  · rw [List.append_nil] at whole
    exact .inl (String.toList_inj.mp (List.append_cancel_right whole))
  · right
    have split : left.toList ++ '/' :: inner ++ [last] = right.toList ++ ['/'] := by
      rw [← whole, List.concat_eq_append]
      simp
    have longer : right = left ++ ("/" ++ String.ofList inner) := by
      apply String.toList_inj.mp
      have inside : (String.ofList inner).toList = inner := String.toList_ofList
      rw [← (List.append_inj' split rfl).1, String.toList_append, String.toList_append, inside]
      rfl
    refine ⟨?_, ?_, ?_⟩
    · have slash : "/".utf8ByteSize = 1 := rfl
      rw [longer, String.utf8ByteSize_append, String.utf8ByteSize_append, slash]
      omega
    · rw [longer]
      exact startsWith_append _ _
    · rw [longer, String.toList_append, ← String.length_toList,
        List.getElem?_append_right (Nat.le_refl _), Nat.sub_self, String.toList_append]
      rfl

/-- Two prefixes of one path overlap. -/
theorem prefixesOverlap_of_key {left right key : String}
    (one : startsWith key (left ++ "/") = true) (two : startsWith key (right ++ "/") = true) :
    prefixesOverlap left right = true := by
  unfold prefixesOverlap
  simp only [Bool.or_eq_true, Bool.and_eq_true, decide_eq_true_iff, and_assoc]
  rcases List.prefix_or_prefix_of_prefix (startsWith_iff.mp one) (startsWith_iff.mp two) with
    shorter | longer
  · rcases same_or_shorter shorter with same | before
    · exact .inl (.inl same)
    · exact .inl (.inr before)
  · rcases same_or_shorter longer with same | before
    · exact .inl (.inl same.symm)
    · exact .inr before

end Paths

section Sessions

variable {stagingPrefix uploadId otherId key : String}

theorem character_of_safe (safe : isSafeObjectComponent uploadId = true) {character : Char}
    (inside : character ∈ uploadId.toList) :
    character.isAlphanum = true ∨ character = '-' ∨ character = '_' := by
  rw [isSafeObjectComponent, Bool.and_eq_true, List.all_eq_true] at safe
  simpa [or_assoc] using safe.2 character inside

theorem plain_of_safe (safe : isSafeObjectComponent uploadId = true) : '/' ∉ uploadId.toList := by
  intro inside
  exact absurd (character_of_safe safe inside) (by decide)

theorem safePath_of_safe (safe : isSafeObjectComponent uploadId = true) : SafePath uploadId.toList := by
  have named : uploadId.toList ≠ [] := by
    intro empty
    rw [isSafeObjectComponent, String.toList_eq_nil_iff.mp empty] at safe
    simp at safe
  obtain ⟨character, inside⟩ := List.exists_mem_of_ne_nil _ named
  apply safePath_of_segment inside
  · rintro rfl
    exact absurd (character_of_safe safe inside) (by decide)
  · intro character inside
    rcases character_of_safe safe inside with letter | rfl | rfl
    · simp [isSafeCharacter, letter]
    · rfl
    · rfl

theorem session_toList : (stagingSession stagingPrefix uploadId).stagingPrefix.toList =
    stagingPrefix.toList ++ '/' :: uploadId.toList := by
  rw [stagingSession, String.toList_append, toList_slash, List.append_assoc]
  rfl

/-- Under a safe prefix the session of a safe upload is valid as long as its prefix is short enough. -/
theorem validateS3Session_stagingSession (prefixed : SafePath stagingPrefix.toList)
    (safe : isSafeObjectComponent uploadId = true)
    (fits : (stagingSession stagingPrefix uploadId).stagingPrefix.utf8ByteSize ≤ 1024) :
    validateS3Session (stagingSession stagingPrefix uploadId) stagingPrefix = true := by
  have path : isSafeObjectPrefix (stagingSession stagingPrefix uploadId).stagingPrefix = true := by
    rw [isSafeObjectPrefix_iff, session_toList]
    exact ⟨fits, safePath_append prefixed (safePath_of_safe safe)⟩
  rw [validateS3Session, path]
  simp [stagingSession, safe]

theorem validateS3ChunkIdentity_build (session : UploadStagingSession) (chunk : UploadStagingChunk)
    (digest : isLowerHex chunk.md5Hash 32 = true)
    (built : chunk.objectKey = buildS3ChunkKey session chunk.chunkIndex chunk.md5Hash) :
    validateS3ChunkIdentity session chunk = true := by
  rw [validateS3ChunkIdentity, digest, built]
  simp

theorem validateS3ChunkDescriptor_build (session : UploadStagingSession) (chunk : UploadStagingChunk)
    (digest : isLowerHex chunk.md5Hash 32 = true) (tagged : chunk.etag ≠ "")
    (built : chunk.objectKey = buildS3ChunkKey session chunk.chunkIndex chunk.md5Hash) :
    validateS3ChunkDescriptor session chunk.chunkIndex.toNat chunk = true := by
  rw [validateS3ChunkDescriptor, digest, built]
  simp [tagged]

theorem textBetween_iff {first last text middle : List Char} :
    textBetween first last text = some middle ↔ middle ≠ [] ∧ text = first ++ middle ++ last := by
  constructor
  · intro read
    unfold textBetween at read
    split at read
    case isFalse => cases read
    rename_i bounded
    simp only [Bool.and_eq_true, List.isPrefixOf_iff_prefix, List.isSuffixOf_iff_suffix,
      decide_eq_true_iff] at bounded
    obtain ⟨⟨⟨rest, rfl⟩, ends⟩, longer⟩ := bounded
    rw [List.length_append] at longer
    have tail : last <:+ rest :=
      List.suffix_of_suffix_length_le ends (List.suffix_append _ _) (by omega)
    obtain ⟨inner, rfl⟩ := tail
    rw [List.length_append] at longer
    have whole : middle = inner := by
      rw [← Option.some.inj read, List.drop_left]
      have size : (first ++ (inner ++ last)).length - first.length - last.length = inner.length := by
        simp
      rw [size, List.take_left]
    subst whole
    refine ⟨?_, (List.append_assoc _ _ _).symm⟩
    rintro rfl
    simp at longer
  · rintro ⟨filled, rfl⟩
    have longer : 0 < middle.length := List.length_pos_of_ne_nil filled
    have bounded : first.isPrefixOf (first ++ middle ++ last) = true ∧
        last.isSuffixOf (first ++ middle ++ last) = true ∧
        first.length + last.length < (first ++ middle ++ last).length := by
      refine ⟨?_, ?_, ?_⟩
      · rw [List.isPrefixOf_iff_prefix, List.append_assoc]
        exact List.prefix_append _ _
      · rw [List.isSuffixOf_iff_suffix]
        exact List.suffix_append _ _
      · rw [List.length_append, List.length_append]
        omega
    have size : (first ++ middle ++ last).length - first.length - last.length = middle.length := by
      rw [List.length_append, List.length_append]
      omega
    have rest : (first ++ middle ++ last).drop first.length = middle ++ last := by
      rw [List.append_assoc, List.drop_left]
    have accepted : (first.isPrefixOf (first ++ middle ++ last) &&
        last.isSuffixOf (first ++ middle ++ last) &&
        decide (first.length + last.length < (first ++ middle ++ last).length)) = true := by
      rw [bounded.1, bounded.2.1, decide_eq_true bounded.2.2]
      rfl
    rw [textBetween, if_pos accepted, size, rest, List.take_left]

theorem buildS3AssemblyKey_toList (session : UploadStagingSession) (stateVersion : Nat) :
    (buildS3AssemblyKey session stateVersion).toList =
      (session.stagingPrefix ++ "/assembled/").toList ++ (toString stateVersion).toList ++
        ".bin".toList := by
  rw [buildS3AssemblyKey, String.toList_append, String.toList_append]

/-- The keys of assemblies are those that carry a positive version in its usual digits. -/
theorem isAssemblyKeyForSession_iff {session : UploadStagingSession} :
    isAssemblyKeyForSession session key = true ↔
      ∃ stateVersion, 1 ≤ stateVersion ∧ stateVersion ≤ maxUInt64 ∧
        key = buildS3AssemblyKey session stateVersion := by
  unfold isAssemblyKeyForSession
  constructor
  · intro accepted
    cases read : textBetween (session.stagingPrefix ++ "/assembled/").toList ".bin".toList key.toList with
    | none => rw [read] at accepted; cases accepted
    | some text =>
        rw [read] at accepted
        simp only at accepted
        split at accepted
        case h_1 => cases accepted
        rename_i stateVersion number
        simp only [Bool.and_eq_true, decide_eq_true_iff] at accepted
        obtain ⟨⟨bounded, positive⟩, canonical⟩ := accepted
        refine ⟨stateVersion, positive, bounded, String.toList_inj.mp ?_⟩
        rw [buildS3AssemblyKey_toList, canonical, String.toList_ofList]
        exact (textBetween_iff.mp read).2
  · rintro ⟨stateVersion, positive, bounded, rfl⟩
    have digits : (toString stateVersion).toList ≠ [] := by
      rw [Nat.toString_eq_repr, Nat.toList_repr]
      exact Nat.toDigits_ne_nil
    have read := textBetween_iff.mpr ⟨digits, buildS3AssemblyKey_toList session stateVersion⟩
    rw [read]
    have number : (toString stateVersion).toNat? = some stateVersion := Nat.toNat?_repr stateVersion
    simp only [String.ofList_toList, number, Bool.and_eq_true, decide_eq_true_iff]
    exact ⟨⟨bounded, positive⟩, trivial⟩

/-- A session is accepted when it is the one of its upload. -/
theorem validateS3Session_iff {session : UploadStagingSession} :
    validateS3Session session stagingPrefix = true ↔
      session = stagingSession stagingPrefix session.uploadId ∧
        isSafeObjectComponent session.uploadId = true ∧ isSafeObjectPrefix session.stagingPrefix = true := by
  obtain ⟨uploadId, backend, path⟩ := session
  simp only [validateS3Session, stagingSession, Bool.and_eq_true, decide_eq_true_iff]
  constructor
  · rintro ⟨⟨⟨rfl, safe⟩, short⟩, rfl⟩
    exact ⟨rfl, safe, short⟩
  · rintro ⟨same, safe, short⟩
    obtain ⟨-, rfl, rfl⟩ := UploadStagingSession.mk.inj same
    exact ⟨⟨⟨rfl, safe⟩, short⟩, rfl⟩

/-- An assembly is found where an accepted session has built it. -/
theorem validateS3AssemblyLocator_iff {assembly : UploadStagingAssembly} :
    validateS3AssemblyLocator assembly stagingPrefix = true ↔
      assembly.backend = .s3 ∧ ∃ uploadId stateVersion, 1 ≤ stateVersion ∧ stateVersion ≤ maxUInt64 ∧
        validateS3Session (stagingSession stagingPrefix uploadId) stagingPrefix = true ∧
        assembly.locator = buildS3AssemblyKey (stagingSession stagingPrefix uploadId) stateVersion := by
  simp only [validateS3AssemblyLocator, Bool.and_eq_true, decide_eq_true_iff]
  constructor
  · rintro ⟨⟨⟨⟨backend, -⟩, -⟩, valid⟩, assembled⟩
    obtain ⟨stateVersion, positive, bounded, located⟩ := isAssemblyKeyForSession_iff.mp assembled
    exact ⟨backend, _, stateVersion, positive, bounded, valid, located⟩
  · rintro ⟨backend, uploadId, stateVersion, positive, bounded, valid, located⟩
    have safe := (validateS3Session_iff.mp valid).2.1
    have path : assembly.locator.toList = (stagingPrefix ++ "/").toList ++
        (uploadId.toList ++ '/' :: ("assembled/" ++ toString stateVersion ++ ".bin").toList) := by
      rw [located]
      simp [buildS3AssemblyKey, stagingSession, String.toList_append]
    have inside : assembly.locator.toList.drop (stagingPrefix ++ "/").length =
        uploadId.toList ++ '/' :: ("assembled/" ++ toString stateVersion ++ ".bin").toList := by
      rw [path, ← String.length_toList, List.drop_left]
    have named : String.ofList ((assembly.locator.toList.drop (stagingPrefix ++ "/").length).takeWhile
        (· ≠ '/')) = uploadId := by
      rw [inside, List.takeWhile_append_of_pos]
      · simp
      · intro character listed
        simp only [decide_eq_true_iff]
        rintro rfl
        exact plain_of_safe safe listed
    rw [named]
    refine ⟨⟨⟨⟨backend, ?_⟩, ?_⟩, valid⟩, isAssemblyKeyForSession_iff.mpr
      ⟨stateVersion, positive, bounded, located⟩⟩
    · rw [List.isPrefixOf_iff_prefix, path]
      exact List.prefix_append _ _
    · rw [inside]
      simp

end Sessions

section Finals

variable {objectPrefix stagingPrefix sha256Hash key : String}

theorem isSafeCharacter_of_isLowerHex {size : Nat} (digest : isLowerHex sha256Hash size = true)
    {character : Char} (inside : character ∈ sha256Hash.toList) :
    isSafeCharacter character = true ∧ character ≠ '.' := by
  rw [isLowerHex, Bool.and_eq_true, List.all_eq_true] at digest
  have digit := digest.2 character inside
  constructor
  · simp only [isSafeCharacter, Char.isAlphanum, Char.isAlpha, Char.isLower, Bool.or_eq_true,
      Bool.and_eq_true, decide_eq_true_iff] at digit ⊢
    rcases digit with number | ⟨low, high⟩
    · exact .inl (.inl (.inl (.inr number)))
    · exact .inl (.inl (.inl (.inl (.inr ⟨low, Nat.le_trans high (by decide)⟩))))
  · rintro rfl
    revert digit
    decide

theorem finalObjectKey_toList : (finalObjectKey objectPrefix sha256Hash).toList =
    objectPrefix.toList ++ '/' :: ("sha256".toList ++ '/' :: (sha256Hash.toList.take 2 ++
      '/' :: (sha256Hash.toList ++ ".bin".toList))) := by
  simp [finalObjectKey, Jobs.substr, String.toList_append]

/-- Where an object is published its key is accepted again. -/
theorem resolveFinalObjectKey_finalObjectKey (prefixed : SafePath objectPrefix.toList)
    (digest : isLowerHex sha256Hash 64 = true)
    (fits : (finalObjectKey objectPrefix sha256Hash).utf8ByteSize ≤ 1024) :
    resolveFinalObjectKey (finalObjectKey objectPrefix sha256Hash) objectPrefix =
      .ok (finalObjectKey objectPrefix sha256Hash) := by
  have starts : startsWith (finalObjectKey objectPrefix sha256Hash) (objectPrefix ++ "/") = true := by
    rw [startsWith_iff, finalObjectKey_toList, toList_slash]
    exact ⟨_, (List.append_cons _ _ _).symm⟩
  obtain ⟨first, rest, digits⟩ : ∃ first rest, sha256Hash.toList = first :: rest := by
    apply List.exists_cons_of_ne_nil
    intro empty
    rw [String.toList_eq_nil_iff.mp empty] at digest
    revert digest
    decide
  have heading : first ∈ sha256Hash.toList := digits ▸ List.mem_cons_self
  have other := (isSafeCharacter_of_isLowerHex digest heading).2
  have algorithm : SafePath "sha256".toList :=
    safePath_of_segment (show 's' ∈ "sha256".toList by decide) (by decide)
      (List.all_eq_true.mp rfl)
  have shard : SafePath (sha256Hash.toList.take 2) := by
    have taken : first ∈ sha256Hash.toList.take 2 := by
      rw [digits]
      exact List.mem_cons_self
    apply safePath_of_segment taken other
    intro character inside
    exact (isSafeCharacter_of_isLowerHex digest (List.mem_of_mem_take inside)).1
  have blob : SafePath (sha256Hash.toList ++ ".bin".toList) := by
    apply safePath_of_segment (List.mem_append_left _ heading) other
    intro character inside
    rcases List.mem_append.mp inside with digit | ending
    · exact (isSafeCharacter_of_isLowerHex digest digit).1
    · exact List.all_eq_true.mp (show ".bin".toList.all isSafeCharacter = true from rfl) _ ending
  have path : isSafeObjectPrefix (finalObjectKey objectPrefix sha256Hash) = true := by
    rw [isSafeObjectPrefix_iff, finalObjectKey_toList]
    exact ⟨fits, safePath_append prefixed (safePath_append algorithm (safePath_append shard blob))⟩
  rw [resolveFinalObjectKey, starts, path]
  rfl

theorem startsWith_of_resolveFinalObjectKey {resolved : String}
    (accepted : resolveFinalObjectKey key objectPrefix = .ok resolved) :
    startsWith key (objectPrefix ++ "/") = true := by
  unfold resolveFinalObjectKey at accepted
  split at accepted
  · cases accepted
  · rename_i reject
    simp only [Bool.or_eq_true, Bool.not_eq_true', not_or, Bool.not_eq_false] at reject
    exact reject.1

end Finals

section Cleanup

variable {uploadId otherId stagingPrefix key : String}

/-- The keys that the storage code builds for a session. -/
inductive SessionKey (session : UploadStagingSession) : String → Prop where
  | chunk (chunkIndex : UInt32) (md5Hash : String) :
      SessionKey session (buildS3ChunkKey session chunkIndex md5Hash)
  | assembled (stateVersion : Nat) : SessionKey session (buildS3AssemblyKey session stateVersion)

theorem startsWith_trans {text middle start : String} (one : startsWith text middle = true)
    (two : startsWith middle start = true) : startsWith text start = true :=
  startsWith_iff.mpr ((startsWith_iff.mp two).trans (startsWith_iff.mp one))

/-- A key of a session begins with its cleanup prefix. -/
theorem SessionKey.startsWith {session : UploadStagingSession} (built : SessionKey session key) :
    startsWith key (cleanupPrefix session) = true := by
  rw [startsWith_iff, cleanupPrefix, toList_slash]
  cases built with
  | chunk chunkIndex md5Hash => exact ⟨_, by simp [buildS3ChunkKey, String.toList_append]; rfl⟩
  | assembled stateVersion => exact ⟨_, by simp [buildS3AssemblyKey, String.toList_append]; rfl⟩

theorem cleanupPrefix_toList : (cleanupPrefix (stagingSession stagingPrefix uploadId)).toList =
    stagingPrefix.toList ++ '/' :: (uploadId.toList ++ ['/']) := by
  rw [cleanupPrefix, toList_slash, session_toList]
  simp

/-- Every key that a session stages is a staged key. -/
theorem startsWith_stagingPrefix
    (staged : startsWith key (cleanupPrefix (stagingSession stagingPrefix uploadId)) = true) :
    startsWith key (stagingPrefix ++ "/") = true := by
  apply startsWith_trans staged
  rw [startsWith_iff, cleanupPrefix_toList, toList_slash]
  exact ⟨uploadId.toList ++ ['/'], by simp⟩

/-- The keys of a session tell its upload. -/
theorem uploadId_of_startsWith (safe : isSafeObjectComponent uploadId = true)
    (safeOther : isSafeObjectComponent otherId = true)
    (one : startsWith key (cleanupPrefix (stagingSession stagingPrefix uploadId)) = true)
    (two : startsWith key (cleanupPrefix (stagingSession stagingPrefix otherId)) = true) :
    uploadId = otherId := by
  rw [startsWith_iff, cleanupPrefix_toList] at one two
  obtain ⟨rest, whole⟩ := one
  obtain ⟨remaining, same⟩ := two
  rw [← whole] at same
  simp only [List.append_assoc, List.cons_append, List.nil_append, List.append_cancel_left_eq,
    List.cons.injEq, true_and] at same
  exact String.toList_inj.mp (append_separator_left (plain_of_safe safe) (plain_of_safe safeOther)
    same.symm).1

/-- The loop deletes only keys that start with its prefix. -/
theorem cleanupLoop_deletes {cleanupPrefix : String} (answers : List CleanupAnswer)
    (continuationToken : String) :
    ∀ key ∈ (cleanupLoop cleanupPrefix continuationToken answers).deletes,
      startsWith key cleanupPrefix = true := by
  induction answers generalizing continuationToken with
  | nil =>
      intro key deleted
      cases deleted
  | cons answer answers later =>
      intro key deleted
      unfold cleanupLoop at deleted
      split at deleted
      case h_1 => cases deleted
      rename_i page listed
      split at deleted
      case isTrue => cases deleted
      rename_i inside
      rw [Bool.not_eq_true', Bool.not_eq_false, List.all_eq_true] at inside
      split at deleted
      · exact inside key deleted
      · split at deleted
        · exact inside key deleted
        · split at deleted
          · exact inside key deleted
          · rcases List.mem_append.mp deleted with here | next
            · exact inside key here
            · exact later page.continuationToken key next

/-- A cleanup deletes keys below its prefix only. -/
theorem cleanupSession_deletes {configured : String} {session : UploadStagingSession}
    {answers : List CleanupAnswer} :
    ∀ key ∈ (cleanupSession configured session answers).deletes,
      startsWith key (cleanupPrefix session) = true := by
  intro key deleted
  unfold cleanupSession at deleted
  split at deleted
  · cases deleted
  · exact cleanupLoop_deletes answers "" key deleted

end Cleanup

section Isolation

/-- Accepted prefixes are safe and do not overlap. -/
theorem loadPrefixes_ok {configuredObject configuredStaging : String} {prefixes : S3Prefixes}
    (loaded : loadPrefixes configuredObject configuredStaging = .ok prefixes) :
    SafePath prefixes.objectPrefix.toList ∧ SafePath prefixes.stagingPrefix.toList ∧
      prefixesOverlap prefixes.objectPrefix prefixes.stagingPrefix = false := by
  unfold loadPrefixes at loaded
  cases object : normalizeObjectPrefix configuredObject "objects" "s3.object_prefix" with
  | error error => rw [object] at loaded; cases loaded
  | ok objectPrefix =>
      cases staging : normalizeObjectPrefix configuredStaging "staging" "s3.staging_prefix" with
      | error error => rw [object, staging] at loaded; cases loaded
      | ok stagingPrefix =>
          rw [object, staging] at loaded
          simp only [bind, Except.bind] at loaded
          split at loaded
          · cases loaded
          · rename_i apart
            obtain rfl := Except.ok.inj loaded
            refine ⟨safePath_of_normalized ?_ object, safePath_of_normalized ?_ staging,
              Bool.eq_false_iff.mpr apart⟩
            · exact safePath_of_segment (show 'o' ∈ "objects".toList by decide) (by decide)
                (List.all_eq_true.mp rfl)
            · exact safePath_of_segment (show 's' ∈ "staging".toList by decide) (by decide)
                (List.all_eq_true.mp rfl)

/-- What the prefixes of a configuration promise to an upload in the presence of another one. -/
structure StagingIsolated (prefixes : S3Prefixes) (uploadId otherId : String) : Prop where
  session : validateS3Session (stagingSession prefixes.stagingPrefix uploadId) prefixes.stagingPrefix = true
  chunkIdentity : ∀ chunk : UploadStagingChunk, isLowerHex chunk.md5Hash 32 = true →
    chunk.objectKey = buildS3ChunkKey (stagingSession prefixes.stagingPrefix uploadId) chunk.chunkIndex
      chunk.md5Hash →
    validateS3ChunkIdentity (stagingSession prefixes.stagingPrefix uploadId) chunk = true
  chunkDescriptor : ∀ chunk : UploadStagingChunk, isLowerHex chunk.md5Hash 32 = true → chunk.etag ≠ "" →
    chunk.objectKey = buildS3ChunkKey (stagingSession prefixes.stagingPrefix uploadId) chunk.chunkIndex
      chunk.md5Hash →
    validateS3ChunkDescriptor (stagingSession prefixes.stagingPrefix uploadId) chunk.chunkIndex.toNat
      chunk = true
  assemblyKey : ∀ stateVersion, 1 ≤ stateVersion → stateVersion ≤ maxUInt64 →
    isAssemblyKeyForSession (stagingSession prefixes.stagingPrefix uploadId)
      (buildS3AssemblyKey (stagingSession prefixes.stagingPrefix uploadId) stateVersion) = true
  locator : ∀ assembly : UploadStagingAssembly, assembly.locator.utf8ByteSize ≤ 1024 →
    (validateS3AssemblyLocator assembly prefixes.stagingPrefix = true ↔
      assembly.backend = .s3 ∧ ∃ anyId stateVersion, isSafeObjectComponent anyId = true ∧
        1 ≤ stateVersion ∧ stateVersion ≤ maxUInt64 ∧
        assembly.locator = buildS3AssemblyKey (stagingSession prefixes.stagingPrefix anyId) stateVersion)
  finalKey : ∀ sha256Hash, isLowerHex sha256Hash 64 = true →
    (finalObjectKey prefixes.objectPrefix sha256Hash).utf8ByteSize ≤ 1024 →
    resolveFinalObjectKey (finalObjectKey prefixes.objectPrefix sha256Hash) prefixes.objectPrefix =
      .ok (finalObjectKey prefixes.objectPrefix sha256Hash)
  stagingKey : ∀ anyId key, SessionKey (stagingSession prefixes.stagingPrefix anyId) key →
    ∀ resolved, resolveFinalObjectKey key prefixes.objectPrefix ≠ .ok resolved
  otherKey : ∀ key, SessionKey (stagingSession prefixes.stagingPrefix otherId) key →
    startsWith key (cleanupPrefix (stagingSession prefixes.stagingPrefix uploadId)) = false
  publishedKey : ∀ key resolved, resolveFinalObjectKey key prefixes.objectPrefix = .ok resolved →
    startsWith key (cleanupPrefix (stagingSession prefixes.stagingPrefix uploadId)) = false
  deletes : ∀ answers, ∀ key ∈ (cleanupSession prefixes.stagingPrefix
      (stagingSession prefixes.stagingPrefix uploadId) answers).deletes,
    startsWith key (cleanupPrefix (stagingSession prefixes.stagingPrefix uploadId)) = true

theorem utf8ByteSize_le_of_startsWith {text start : String} (starts : startsWith text start = true) :
    start.utf8ByteSize ≤ text.utf8ByteSize := by
  obtain ⟨rest, rfl⟩ := exists_rest starts
  rw [String.utf8ByteSize_append]
  omega

/-- The session of a key is no longer than the key. -/
theorem session_fits {session : UploadStagingSession} {key : String} (built : SessionKey session key)
    (fits : key.utf8ByteSize ≤ 1024) : session.stagingPrefix.utf8ByteSize ≤ 1024 := by
  have within := utf8ByteSize_le_of_startsWith built.startsWith
  have slash := utf8ByteSize_le_of_startsWith (startsWith_append session.stagingPrefix "/")
  rw [cleanupPrefix] at within
  omega

/-- The keys of different uploads and of published objects stay apart. -/
theorem staging_isolated {configuredObject configuredStaging : String} {prefixes : S3Prefixes}
    {uploadId otherId : String}
    (loaded : loadPrefixes configuredObject configuredStaging = .ok prefixes)
    (safe : isSafeObjectComponent uploadId = true) (safeOther : isSafeObjectComponent otherId = true)
    (different : uploadId ≠ otherId)
    (fits : (stagingSession prefixes.stagingPrefix uploadId).stagingPrefix.utf8ByteSize ≤ 1024) :
    StagingIsolated prefixes uploadId otherId := by
  obtain ⟨object, staging, apart⟩ := loadPrefixes_ok loaded
  have published : ∀ anyId key resolved,
      resolveFinalObjectKey key prefixes.objectPrefix = .ok resolved →
      startsWith key (cleanupPrefix (stagingSession prefixes.stagingPrefix anyId)) = false := by
    intro anyId key resolved accepted
    rw [Bool.eq_false_iff]
    intro staged
    have overlap := prefixesOverlap_of_key (startsWith_of_resolveFinalObjectKey accepted)
      (startsWith_stagingPrefix staged)
    rw [apart] at overlap
    cases overlap
  exact {
    session := validateS3Session_stagingSession staging safe fits
    chunkIdentity := validateS3ChunkIdentity_build _
    chunkDescriptor := validateS3ChunkDescriptor_build _
    assemblyKey := by
      intro stateVersion positive bounded
      exact isAssemblyKeyForSession_iff.mpr ⟨stateVersion, positive, bounded, rfl⟩
    locator := by
      intro assembly short
      rw [validateS3AssemblyLocator_iff]
      constructor
      · rintro ⟨backend, anyId, stateVersion, positive, bounded, valid, located⟩
        have safeAny := (validateS3Session_iff.mp valid).2.1
        exact ⟨backend, anyId, stateVersion, safeAny, positive, bounded, located⟩
      · rintro ⟨backend, anyId, stateVersion, safeAny, positive, bounded, located⟩
        refine ⟨backend, anyId, stateVersion, positive, bounded, ?_, located⟩
        rw [located] at short
        exact validateS3Session_stagingSession staging safeAny
          (session_fits (.assembled stateVersion) short)
    finalKey := by
      intro sha256Hash digest short
      exact resolveFinalObjectKey_finalObjectKey object digest short
    stagingKey := by
      intro anyId key built resolved accepted
      have outside := published anyId key resolved accepted
      rw [built.startsWith] at outside
      cases outside
    otherKey := by
      intro key built
      rw [Bool.eq_false_iff]
      intro mine
      exact different (uploadId_of_startsWith safe safeOther mine built.startsWith)
    publishedKey := published uploadId
    deletes := by
      intro answers
      exact cleanupSession_deletes }

/-- The prefixes of the default configuration. -/
theorem staging_isolated_default : StagingIsolated ⟨"objects", "staging"⟩ "first" "second" := by
  have loaded : loadPrefixes "/objects/" "" = .ok ⟨"objects", "staging"⟩ := by decide +kernel
  exact staging_isolated loaded (by decide +kernel) (by decide +kernel) (by decide +kernel)
    (by decide +kernel)

end Isolation

end DiskServer.Storage
