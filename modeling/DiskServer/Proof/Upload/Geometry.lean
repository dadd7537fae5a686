import DiskServer.Construction.Upload.Geometry
import DiskServer.Library.Blocks

namespace DiskServer.Upload

open Library

variable {fileSize : UInt64} {chunkSize totalChunks chunkIndex : UInt32}

/-- The geometry in whose terms the code computes. -/
structure Accepted (fileSize : UInt64) (chunkSize totalChunks : UInt32) : Prop where
  filled : 1 ≤ fileSize.toNat
  wide : 1 ≤ chunkSize.toNat
  total : totalChunks.toNat = Blocks.count fileSize.toNat chunkSize.toNat

/-- The computed number of chunks is accepted. -/
theorem initializeTotalChunks_ok (filled : 1 ≤ fileSize.toNat)
    (accepted : initializeTotalChunks fileSize chunkSize = .ok totalChunks) :
    Accepted fileSize chunkSize totalChunks := by
  unfold initializeTotalChunks at accepted
  split at accepted
  · cases accepted
  · next wide =>
    have positive : 1 ≤ chunkSize.toNat := by
      rcases Nat.eq_zero_or_pos chunkSize.toNat with zero | positive
      · exact absurd (UInt32.toNat_inj.mp zero) wide
      · exact positive
    simp only at accepted
    split at accepted
    · cases accepted
    · next fits =>
      obtain rfl := Except.ok.inj accepted
      have bound := fileSize.toNat_lt
      have previous : (fileSize - 1).toNat = fileSize.toNat - 1 :=
        UInt64.toNat_sub_of_le _ _ (UInt64.le_iff_toNat_le.mpr filled)
      have quotient : ((fileSize - 1) / chunkSize.toUInt64).toNat =
          (fileSize.toNat - 1) / chunkSize.toNat := by
        rw [UInt64.toNat_div, previous, UInt32.toNat_toUInt64]
      have small : (fileSize.toNat - 1) / chunkSize.toNat ≤ fileSize.toNat - 1 := Nat.div_le_self _ _
      have total : ((fileSize - 1) / chunkSize.toUInt64 + 1).toNat =
          (fileSize.toNat - 1) / chunkSize.toNat + 1 := by
        rw [UInt64.toNat_add, quotient]
        exact Nat.mod_eq_of_lt (by simp; omega)
      rw [UInt64.lt_iff_toNat_lt, total] at fits
      refine ⟨filled, positive, ?_⟩
      rw [UInt64.toNat_toUInt32, total]
      have fits : (fileSize.toNat - 1) / chunkSize.toNat + 1 ≤ 4294967295 := not_lt.mp fits
      exact Nat.mod_eq_of_lt (by omega)

section Arithmetic

variable (accepted : Accepted fileSize chunkSize totalChunks)

include accepted

/-- The offset of a chunk is the start of its block. -/
theorem Accepted.offset (counted : chunkIndex < totalChunks) :
    (chunkOffset chunkIndex chunkSize).toNat = Blocks.start chunkSize.toNat chunkIndex.toNat := by
  have inside := Blocks.start_lt accepted.filled (accepted.total ▸ UInt32.lt_iff_toNat_lt.mp counted)
  have bound := fileSize.toNat_lt
  unfold chunkOffset
  rw [UInt64.toNat_mul, UInt32.toNat_toUInt64, UInt32.toNat_toUInt64]
  unfold Blocks.start at inside ⊢
  exact Nat.mod_eq_of_lt (by omega)

theorem Accepted.offset_lt (counted : chunkIndex < totalChunks) :
    chunkOffset chunkIndex chunkSize < fileSize := by
  rw [UInt64.lt_iff_toNat_lt, accepted.offset counted]
  exact Blocks.start_lt accepted.filled (accepted.total ▸ UInt32.lt_iff_toNat_lt.mp counted)

/-- The expected size of a chunk is the width of its block. -/
theorem Accepted.expected (counted : chunkIndex < totalChunks) :
    (expectedChunkSize fileSize chunkSize chunkIndex).toNat =
      Blocks.width fileSize.toNat chunkSize.toNat chunkIndex.toNat := by
  have remaining : (fileSize - chunkOffset chunkIndex chunkSize).toNat =
      fileSize.toNat - Blocks.start chunkSize.toNat chunkIndex.toNat := by
    rw [UInt64.toNat_sub_of_le _ _ (UInt64.le_of_lt (accepted.offset_lt counted)),
      accepted.offset counted]
  unfold expectedChunkSize
  rw [UInt64.min_def]
  split
  · next fits =>
    rw [UInt64.le_iff_toNat_le, remaining, UInt32.toNat_toUInt64] at fits
    rw [UInt32.toNat_toUInt64, Blocks.width, Nat.min_eq_left fits]
  · next beyond =>
    rw [UInt64.le_iff_toNat_le, remaining, UInt32.toNat_toUInt64] at beyond
    rw [remaining, Blocks.width, Nat.min_eq_right (Nat.le_of_not_le beyond)]

end Arithmetic

/-- The initializer, the validator, the columns and the completeness test describe one partition. -/
structure GeometryAgrees (fileSize : UInt64) (chunkSize totalChunks : UInt32) : Prop where
  offset : ∀ chunkIndex < totalChunks,
    (chunkOffset chunkIndex chunkSize).toNat = chunkIndex.toNat * chunkSize.toNat ∧
      chunkOffset chunkIndex chunkSize ≤ fileSize
  size : ∀ chunkIndex < totalChunks, 1 ≤ expectedChunkSize fileSize chunkSize chunkIndex ∧
    expectedChunkSize fileSize chunkSize chunkIndex ≤ chunkSize.toUInt64
  sum : ((List.range totalChunks.toNat).map fun chunkIndex =>
    (expectedChunkSize fileSize chunkSize (UInt32.ofNat chunkIndex)).toNat).sum = fileSize.toNat
  accepts : ∀ chunkIndex dataSize,
    ((geometryColumns fileSize chunkSize totalChunks).validate chunkIndex dataSize).isOk = true ↔
      chunkIndex < totalChunks ∧ dataSize = expectedChunkSize fileSize chunkSize chunkIndex
  fits : (geometryColumns fileSize chunkSize totalChunks).totalChunks.toInt = totalChunks.toNat
  complete : ∀ rows : ChunkRows,
    (geometryColumns fileSize chunkSize totalChunks).complete rows.indices = true ↔
      ∀ chunkIndex : Nat, (∃ index ∈ rows.indices, index.toInt = chunkIndex) ↔
        chunkIndex < totalChunks.toNat

/-- A chunk is accepted with its index below the count and its size. -/
theorem validate_isOk (chunkIndex : UInt32) (dataSize : UInt64) :
    ((geometryColumns fileSize chunkSize totalChunks).validate chunkIndex dataSize).isOk = true ↔
      chunkIndex < totalChunks ∧ dataSize = expectedChunkSize fileSize chunkSize chunkIndex := by
  have same : (geometryColumns fileSize chunkSize totalChunks).validate chunkIndex dataSize =
      validateChunkAcceptance chunkIndex dataSize fileSize chunkSize totalChunks := rfl
  rw [same]
  unfold validateChunkAcceptance
  split
  · next outside =>
    constructor
    · intro ok
      cases ok
    · rintro ⟨inside, -⟩
      exact absurd outside (UInt32.not_le.mpr inside)
  · next inside =>
    have counted := UInt32.not_le.mp inside
    split
    · next differs =>
      constructor
      · intro ok
        cases ok
      · rintro ⟨-, same⟩
        exact absurd same differs
    · next same => exact ⟨fun _ => ⟨counted, not_not.mp same⟩, fun _ => rfl⟩

/-- The expected sizes add up to the file. -/
theorem Accepted.sum (accepted : Accepted fileSize chunkSize totalChunks) :
    ((List.range totalChunks.toNat).map fun chunkIndex =>
      (expectedChunkSize fileSize chunkSize (UInt32.ofNat chunkIndex)).toNat).sum =
        fileSize.toNat := by
  have blocks := Blocks.sum_width accepted.filled accepted.wide
  rw [← accepted.total] at blocks
  rw [← blocks]
  congr 1
  apply List.map_congr_left
  intro chunkIndex listed
  have counted : chunkIndex < totalChunks.toNat := List.mem_range.mp listed
  have bound := totalChunks.toNat_lt
  have back : (UInt32.ofNat chunkIndex).toNat = chunkIndex := UInt32.toNat_ofNat_of_lt' (Nat.lt_trans counted bound)
  have inside : UInt32.ofNat chunkIndex < totalChunks := by
    rw [UInt32.lt_iff_toNat_lt, back]
    exact counted
  rw [accepted.expected inside, back]

/-- An INTEGER column holds the number of chunks below 2^31 only. -/
theorem totalChunks_fits :
    (geometryColumns fileSize chunkSize totalChunks).totalChunks.toInt = totalChunks.toNat ↔
      totalChunks.toNat < 2147483648 := by
  have bits : totalChunks.toInt32.toInt = totalChunks.toBitVec.toInt := rfl
  have value : totalChunks.toBitVec.toNat = totalChunks.toNat := rfl
  have bound := totalChunks.toNat_lt
  change totalChunks.toInt32.toInt = totalChunks.toNat ↔ _
  rw [bits, BitVec.toInt_eq_toNat_cond, value]
  split <;> omega

/-- The indices of the rows as numbers. -/
def ChunkRows.numbers (rows : ChunkRows) : List Nat := rows.indices.map fun index => index.toInt.toNat

theorem ChunkRows.numbers_nodup (rows : ChunkRows) : rows.numbers.Nodup := by
  refine List.Nodup.map_on ?_ rows.distinct
  intro first one second two same
  have left := rows.nonnegative first one
  have right := rows.nonnegative second two
  exact Int32.toInt_inj.mp (by omega)

theorem ChunkRows.mem_numbers (rows : ChunkRows) (chunkIndex : Nat) :
    chunkIndex ∈ rows.numbers ↔ ∃ index ∈ rows.indices, index.toInt = chunkIndex := by
  rw [ChunkRows.numbers, List.mem_map]
  constructor
  · rintro ⟨index, listed, same⟩
    have positive := rows.nonnegative index listed
    exact ⟨index, listed, by omega⟩
  · rintro ⟨index, listed, same⟩
    exact ⟨index, listed, by omega⟩

/-- The count and the largest index identify the full set of chunks when the column holds their number. -/
theorem complete_exact (some : 1 ≤ totalChunks.toNat)
    (fits : (geometryColumns fileSize chunkSize totalChunks).totalChunks.toInt = totalChunks.toNat)
    (rows : ChunkRows) :
    (geometryColumns fileSize chunkSize totalChunks).complete rows.indices = true ↔
      ∀ chunkIndex : Nat, (∃ index ∈ rows.indices, index.toInt = chunkIndex) ↔
        chunkIndex < totalChunks.toNat := by
  have counted : rows.numbers.length = rows.indices.length := List.length_map _
  have full : (rows.numbers.length = totalChunks.toNat ∧
      ∀ chunkIndex ∈ rows.numbers, chunkIndex < totalChunks.toNat) ↔
        ∀ chunkIndex, chunkIndex ∈ rows.numbers ↔ chunkIndex < totalChunks.toNat :=
    Blocks.complete_iff rows.numbers_nodup
  simp only [ChunkRows.mem_numbers] at full
  rw [← full, GeometryColumns.complete, fits, Bool.and_eq_true, beq_iff_eq, beq_iff_eq, counted]
  have below : ∀ bound : Int, rows.indices.foldl
      (fun largest chunkIndex => max largest chunkIndex.toInt) (-1) ≤ bound ↔
        -1 ≤ bound ∧ ∀ index ∈ rows.indices, index.toInt ≤ bound :=
    fun bound => Blocks.foldl_max_le_iff Int32.toInt
  constructor
  · rintro ⟨length, largest⟩
    refine ⟨by omega, ?_⟩
    rintro _ ⟨index, listed, same⟩
    have small := ((below _).mp (le_of_eq largest)).2 index listed
    omega
  · rintro ⟨length, inside⟩
    refine ⟨by omega, le_antisymm ?_ ?_⟩
    · refine (below _).mpr ⟨by omega, fun index listed => ?_⟩
      have positive := rows.nonnegative index listed
      have small := inside index.toInt.toNat ⟨index, listed, by omega⟩
      omega
    · by_contra less
      have least := (below (totalChunks.toNat - 2)).mp (by omega)
      have last := (full.mp ⟨by omega, inside⟩ (totalChunks.toNat - 1)).mpr (by omega)
      obtain ⟨index, listed, same⟩ := last
      have small := least.2 index listed
      omega

/-- The parts of the code agree on the chunks of every accepted file whose chunks an INTEGER column can count. -/
theorem upload_geometry_exact (fileSize : UInt64) (chunkSize totalChunks : UInt32)
    (filled : 1 ≤ fileSize.toNat)
    (accepted : initializeTotalChunks fileSize chunkSize = .ok totalChunks) :
    GeometryAgrees fileSize chunkSize totalChunks ↔
      fileSize.toNat ≤ 2147483647 * chunkSize.toNat := by
  have geometry := initializeTotalChunks_ok filled accepted
  have limit : totalChunks.toNat < 2147483648 ↔ fileSize.toNat ≤ 2147483647 * chunkSize.toNat := by
    rw [geometry.total, Blocks.count]
    have wide := geometry.wide
    constructor
    · intro small
      have quotient : (fileSize.toNat - 1) / chunkSize.toNat < 2147483647 := by omega
      have less := (Nat.div_lt_iff_lt_mul wide).mp quotient
      omega
    · intro small
      have less : (fileSize.toNat - 1) / chunkSize.toNat < 2147483647 :=
        (Nat.div_lt_iff_lt_mul wide).mpr (by omega)
      omega
  rw [← limit]
  constructor
  · intro agrees
    exact totalChunks_fits.mp agrees.fits
  · intro small
    have fits : (geometryColumns fileSize chunkSize totalChunks).totalChunks.toInt =
        totalChunks.toNat := totalChunks_fits.mpr small
    refine ⟨?_, ?_, geometry.sum, validate_isOk, fits, ?_⟩
    · intro chunkIndex counted
      exact ⟨geometry.offset counted, UInt64.le_of_lt (geometry.offset_lt counted)⟩
    · intro chunkIndex counted
      have counts := geometry.total ▸ UInt32.lt_iff_toNat_lt.mp counted
      rw [UInt64.le_iff_toNat_le, UInt64.le_iff_toNat_le, geometry.expected counted,
        UInt32.toNat_toUInt64]
      exact ⟨Blocks.width_pos geometry.filled geometry.wide counts, Blocks.width_le⟩
    · exact complete_exact (by rw [geometry.total]; exact Nat.succ_pos _) fits

/-- A file of 2^31 bytes is cut into two chunks of 2^30 bytes. -/
theorem upload_geometry_exact_halves :
    GeometryAgrees 2147483648 1073741824 2 ↔ 2147483648 ≤ 2147483647 * 1073741824 :=
  upload_geometry_exact 2147483648 1073741824 2 (by decide) (by rfl)

/-- A file of 2^31 bytes is accepted with chunks of one byte, and its column holds a negative number. -/
theorem upload_geometry_overflows :
    ∃ (fileSize : UInt64) (chunkSize totalChunks : UInt32), 1 ≤ fileSize.toNat ∧
      fileSize.toNat ≤ 9223372036854775807 ∧
      initializeTotalChunks fileSize chunkSize = .ok totalChunks ∧
      (geometryColumns fileSize chunkSize totalChunks).totalChunks.toInt = -2147483648 ∧
      ¬ GeometryAgrees fileSize chunkSize totalChunks := by
  refine ⟨2147483648, 1, 2147483648, by decide, by decide, by rfl, by rfl, ?_⟩
  intro agrees
  exact absurd agrees.fits (by decide)

end DiskServer.Upload
