import CubeNano.Lib.PositionSum
import CubeNano.Protocol.FileIntegrity
import Mathlib.Data.Int.Notation

/-!
# The CFDP checksum

`cfdp_checksum` of `protocol/file_packet.py` over a file or a range of it, and the two streaming
passes of `FileIntegrity` over whatever chunks `read` returns.  Every byte contributes its value
times a power of 256 that depends on its position in the file modulo four.

## Main definitions

* `cfdpChecksum`
* `Reading` — what successive `read` calls return
* `streamBundleIntegrityOf`, `streamFileIntegrityOf`
* `cfdpSum` — the checksum of a content as a sum over its bytes

## Main statements

* `cfdpChecksum_eq` — the checksum of a range
* `finalChecksum_foldl` — the streamed checksum
* `checksum_agree` — the three computations, and partitions
-/

namespace CubeNano

open PositionSum

/-! ## The checksum of a range -/

/-- The byte of the file at a position, of a range that begins at `offset`; missing bytes are
zero. -/
def rangeByte (data : Bytes) (offset pos : ℕ) : UInt8 :=
  if offset ≤ pos then data.getD (pos - offset) 0 else 0

/-- The word of the file that begins at `wordStart`. -/
def rangeWord (data : Bytes) (offset wordStart : ℕ) : Bytes :=
  (List.range' wordStart 4).map (rangeByte data offset)

/-- `range((offset // 4) * 4, file_size, 4)`. -/
def wordStarts (offset fileSize : ℕ) : List ℕ :=
  List.range' (offset / 4 * 4) ((fileSize - offset / 4 * 4 + 3) / 4) 4

/-- `cfdp_checksum`. -/
def cfdpChecksum (data : Bytes) (offset : ℤ) (fileSize : Option ℤ) : Raises ℕ :=
  if offset < 0 ∨ 0xFFFFFFFF < offset then valueError "checksum offset must be non-negative U32"
  else if fileSize.getD (offset + data.length) < offset + data.length then
    valueError "file_size cannot be smaller than the supplied range"
  else
    .ok ((wordStarts offset.toNat (fileSize.getD (offset + data.length)).toNat).foldl
      (fun total wordStart => (total + fromBytesBE (rangeWord data offset.toNat wordStart)) % 2 ^ 32)
      0)

/-! ## The streaming passes -/

/-- What `read(buffer_bytes)` returns call after call, up to the end of the file. -/
structure Reading (bufferBytes : ℕ) (content : Bytes) where
  chunks : List Bytes
  nonempty : ∀ chunk ∈ chunks, chunk ≠ []
  bounded : ∀ chunk ∈ chunks, chunk.length ≤ bufferBytes
  whole : chunks.flatten = content

theorem mem_readChunks {size fuel : ℕ} (positive : 0 < size) {content chunk : Bytes}
    (mem : chunk ∈ readChunks size fuel content) : chunk ≠ [] ∧ chunk.length ≤ size := by
  induction fuel generalizing content with
  | zero => exact nomatch mem
  | succ fuel ih =>
      cases content with
      | nil => exact nomatch mem
      | cons byte rest =>
          rcases List.mem_cons.mp mem with rfl | later
          · refine ⟨fun nothing => ?_, (List.length_take_le _ _)⟩
            rcases List.take_eq_nil_iff.mp nothing with none | empty
            · exact positive.ne' none
            · exact nomatch empty
          · exact ih later

/-- A file that is read in full buffers, the last one shorter. -/
def Reading.full (bufferBytes : ℕ+) (content : Bytes) : Reading bufferBytes content where
  chunks := readChunks bufferBytes content.length content
  nonempty _ mem := (mem_readChunks bufferBytes.pos mem).1
  bounded _ mem := (mem_readChunks bufferBytes.pos mem).2
  whole := flatten_readChunks bufferBytes.pos le_rfl

/-- `_stream_bundle_integrity` over the chunks that were read. -/
def streamBundleIntegrityOf (chunks : List Bytes) : FileIntegrity :=
  let s := chunks.foldl IntegrityStream.update .empty
  ⟨s.size, s.hexdigest, s.finalChecksum⟩

/-- `stream_file_integrity` over the chunks that were read. -/
def streamFileIntegrityOf (chunks : List Bytes) (maxBytes : Option ℤ) (bufferBytes : ℤ) :
    Raises FileIntegrity := do
  if bufferBytes ≤ 0 then valueError "buffer_bytes must be positive"
  if (maxBytes.map fun limit => decide (limit < 0)).getD false then
    valueError "max_bytes must be non-negative"
  let s ← chunks.foldlM (IntegrityStream.boundedUpdate (maxBytes.map Int.toNat)) .empty
  .ok ⟨s.size, s.hexdigest, s.finalChecksum⟩

/-! ## The sum over the bytes -/

/-- What a byte contributes. -/
def byteTerm (pos : ℕ) (byte : UInt8) : ℕ := byte.toNat * 256 ^ (3 - pos % 4)

/-- The checksum of a content, byte by byte. -/
def cfdpSum (data : Bytes) : ℕ := sumAt byteTerm 0 data % 2 ^ 32

theorem byteTerm_period (pos : ℕ) (byte : UInt8) : byteTerm (pos + 4) byte = byteTerm pos byte := by
  rw [byteTerm, byteTerm, Nat.add_mod_right]

theorem byteTerm_zero (pos : ℕ) : byteTerm pos 0 = 0 := Nat.zero_mul _

/-- A big-endian word. -/
theorem fromBytesBE_word (b0 b1 b2 b3 : UInt8) :
    fromBytesBE [b0, b1, b2, b3] = sumAt byteTerm 0 [b0, b1, b2, b3] := by
  simp [fromBytesBE, sumAt, byteTerm]
  omega

theorem fromBytesBE_of_length {word : Bytes} (four : word.length = 4) :
    fromBytesBE word = sumAt byteTerm 0 word := by
  obtain ⟨b0, b1, b2, b3, rfl⟩ := List.length_eq_four.mp four
  exact fromBytesBE_word b0 b1 b2 b3

/-! ## Ranges -/

/-- The words of a window around the range hold the range between zeros. -/
theorem map_rangeByte {data : Bytes} {offset start count : ℕ} (before : start ≤ offset)
    (after : offset + data.length ≤ start + count) :
    (List.range' start count).map (rangeByte data offset) =
      List.replicate (offset - start) 0 ++ data ++
        List.replicate (start + count - (offset + data.length)) 0 := by
  apply List.ext_getElem
  · simp only [List.length_map, List.length_range', List.length_append, List.length_replicate]
    omega
  · intro i small _
    rw [List.length_map, List.length_range'] at small
    simp only [List.getElem_map, List.getElem_range', one_mul, List.getElem_append,
      List.length_append, List.length_replicate, List.getElem_replicate, rangeByte]
    by_cases left : i < offset - start
    · rw [if_neg (by omega), dif_pos (by omega), dif_pos left]
    · by_cases inside : i < offset - start + data.length
      · have index : start + i - offset = i - (offset - start) := by omega
        have bound : i - (offset - start) < data.length := by omega
        rw [if_pos (by omega), dif_pos inside, dif_neg left, index,
          List.getD_eq_getElem?_getD, List.getElem?_eq_getElem bound, Option.getD_some]
      · rw [if_pos (by omega), dif_neg inside, List.getD_eq_getElem?_getD,
          List.getElem?_eq_none (by omega), Option.getD_none]

/-- The words that begin in the window, one after the other. -/
theorem flatten_rangeWord (data : Bytes) (offset start count : ℕ) :
    ((List.range' start count 4).map (rangeWord data offset)).flatten =
      (List.range' start (4 * count)).map (rangeByte data offset) := by
  induction count generalizing start with
  | zero => rfl
  | succ count ih =>
      have more : 4 * (count + 1) = 4 + 4 * count := by omega
      rw [List.range'_succ, List.map_cons, List.flatten_cons, ih, more, ← List.range'_append_1,
        List.map_append, rangeWord]

/-- The sum of the words of a range is the sum over its bytes. -/
theorem sum_rangeWord {data : Bytes} {offset count : ℕ}
    (after : offset + data.length ≤ offset / 4 * 4 + 4 * count) :
    ((List.range' (offset / 4 * 4) count 4).map
      fun wordStart => fromBytesBE (rangeWord data offset wordStart)).sum =
        sumAt byteTerm offset data := by
  have before : offset / 4 * 4 ≤ offset := Nat.div_mul_le_self offset 4
  have words : ∀ word ∈ (List.range' (offset / 4 * 4) count 4).map (rangeWord data offset),
      word.length = 4 := by
    intro word mem
    obtain ⟨wordStart, -, rfl⟩ := List.mem_map.mp mem
    rw [rangeWord, List.length_map, List.length_range']
  have placedAt : sumAt byteTerm offset data = sumAt byteTerm (offset - offset / 4 * 4) data := by
    have split : offset = offset - offset / 4 * 4 + 4 * (offset / 4) := by omega
    conv_lhs => rw [split]
    exact sumAt_shift_mul byteTerm_period _ _ _
  have bytewise : ((List.range' (offset / 4 * 4) count 4).map
      fun wordStart => fromBytesBE (rangeWord data offset wordStart)) =
        ((List.range' (offset / 4 * 4) count 4).map (rangeWord data offset)).map
          (sumAt byteTerm 0) := by
    rw [List.map_map]
    refine List.map_congr_left fun wordStart mem => ?_
    exact fromBytesBE_of_length (words _ (List.mem_map_of_mem mem))
  rw [bytewise, ← sumAt_periods byteTerm_period words, flatten_rangeWord, map_rangeByte before after,
    sumAt_append, sumAt_append, sumAt_replicate byteTerm_zero, sumAt_replicate byteTerm_zero,
    placedAt, List.length_replicate, Nat.zero_add, zero_add, add_zero]

/-- **The checksum of a range**, with whatever file size it fits in. -/
theorem cfdpChecksum_eq {data : Bytes} {offset : ℕ} {fileSize : Option ℤ}
    (low : offset ≤ 0xFFFFFFFF) (fits : ∀ total ∈ fileSize, (offset + data.length : ℤ) ≤ total) :
    cfdpChecksum data offset fileSize = .ok (sumAt byteTerm offset data % 2 ^ 32) := by
  have covers : (offset : ℤ) + data.length ≤ fileSize.getD (offset + data.length) := by
    cases fileSize with
    | none => exact le_rfl
    | some total => exact fits total rfl
  rw [cfdpChecksum, if_neg (by omega), if_neg (by omega),
    foldl_add_mod (fun wordStart => fromBytesBE (rangeWord data (offset : ℤ).toNat wordStart)) _ 0
      (by decide), Nat.zero_add, wordStarts, Int.toNat_natCast, sum_rangeWord (by omega)]

theorem cfdpChecksum_none {offset : ℕ} (low : offset ≤ 0xFFFFFFFF) (data : Bytes) :
    cfdpChecksum data offset none = .ok (sumAt byteTerm offset data % 2 ^ 32) :=
  cfdpChecksum_eq low fun _ mem => nomatch mem

/-- A range beyond the positions of 32 bits. -/
theorem cfdpChecksum_far {offset : ℕ} (far : 0xFFFFFFFF < offset) (data : Bytes)
    (fileSize : Option ℤ) :
    cfdpChecksum data offset fileSize =
      valueError "checksum offset must be non-negative U32" :=
  if_pos (.inr (by omega))

/-! ## The streaming passes -/

/-- The words of whole words. -/
theorem sumWords_eq : (data : Bytes) → data.length % 4 = 0 → ∀ {checksum : ℕ},
    checksum < 2 ^ 32 → sumWords checksum data = (checksum + sumAt byteTerm 0 data) % 2 ^ 32
  | [], _, _, small => (Nat.mod_eq_of_lt small).symm
  | b0 :: b1 :: b2 :: b3 :: rest, whole, checksum, small => by
      have wholeRest : rest.length % 4 = 0 := by
        simp only [List.length_cons] at whole
        omega
      have split : b0 :: b1 :: b2 :: b3 :: rest = [b0, b1, b2, b3] ++ rest := rfl
      rw [sumWords, sumWords_eq rest wholeRest (Nat.mod_lt _ (by decide)), fromBytesBE_word,
        Nat.mod_add_mod, split, sumAt_append, List.length_cons, List.length_cons,
        List.length_cons, List.length_singleton, sumAt_shift byteTerm_period, Nat.add_assoc]
  | [_], whole, _, _ => (nomatch whole)
  | [_, _], whole, _, _ => (nomatch whole)
  | [_, _, _], whole, _, _ => (nomatch whole)

/-- What the pass has taken in: the words are summed, and less than a word is carried. -/
structure IntegrityStream.Consumed (s : IntegrityStream) (data : Bytes) : Prop where
  carried : ∃ summed, data = summed ++ s.trailing ∧ summed.length % 4 = 0 ∧
    s.checksum = sumAt byteTerm 0 summed % 2 ^ 32
  short : s.trailing.length < 4

namespace IntegrityStream

theorem consumed_empty : empty.Consumed [] := ⟨⟨[], rfl, rfl, rfl⟩, by decide⟩

/-- A chunk of any length and alignment. -/
theorem Consumed.update {s : IntegrityStream} {data : Bytes} (consumed : s.Consumed data)
    (chunk : Bytes) : (s.update chunk).Consumed (data ++ chunk) := by
  obtain ⟨⟨summed, rfl, aligned, checksum⟩, -⟩ := consumed
  let words := s.trailing ++ chunk
  let wordBytes := words.length - words.length % 4
  have short : (s.update chunk).trailing.length < 4 := by
    change (words.drop wordBytes).length < 4
    rw [List.length_drop]
    omega
  refine ⟨⟨summed ++ words.take wordBytes, ?_, ?_, ?_⟩, short⟩
  · change summed ++ s.trailing ++ chunk =
      summed ++ words.take wordBytes ++ words.drop wordBytes
    rw [List.append_assoc, List.append_assoc, List.take_append_drop]
  · rw [List.length_append, List.length_take]
    omega
  · have whole : (words.take wordBytes).length % 4 = 0 := by
      rw [List.length_take]
      omega
    have multiple : summed.length = 0 + 4 * (summed.length / 4) := by omega
    change sumWords s.checksum (words.take wordBytes) = _
    rw [sumWords_eq _ whole (checksum ▸ Nat.mod_lt _ (by decide)), checksum, Nat.mod_add_mod,
      sumAt_append, Nat.zero_add]
    conv_rhs => rw [multiple, sumAt_shift_mul byteTerm_period]

theorem Consumed.foldl {s : IntegrityStream} {data : Bytes} (consumed : s.Consumed data)
    (chunks : List Bytes) :
    (chunks.foldl IntegrityStream.update s).Consumed (data ++ chunks.flatten) := by
  induction chunks generalizing s data with
  | nil => rwa [List.flatten_nil, List.append_nil]
  | cons chunk rest ih =>
      rw [List.foldl_cons, List.flatten_cons, ← List.append_assoc]
      exact ih (consumed.update chunk)

/-- The carried bytes, filled up with zeros, complete the sum. -/
theorem Consumed.finalChecksum {s : IntegrityStream} {data : Bytes} (consumed : s.Consumed data) :
    s.finalChecksum = cfdpSum data := by
  obtain ⟨⟨summed, rfl, aligned, checksum⟩, short⟩ := consumed
  have multiple : summed.length = 0 + 4 * (summed.length / 4) := by omega
  have rest : sumAt byteTerm (0 + summed.length) s.trailing = sumAt byteTerm 0 s.trailing := by
    rw [Nat.zero_add]
    conv_lhs => rw [multiple, sumAt_shift_mul byteTerm_period]
  rw [IntegrityStream.finalChecksum, cfdpSum, sumAt_append, rest]
  by_cases none : s.trailing = []
  · rw [if_pos none, none, checksum]
    rfl
  · have four : (s.trailing ++ List.replicate (4 - s.trailing.length) 0).length = 4 := by
      rw [List.length_append, List.length_replicate]
      omega
    rw [if_neg none, fromBytesBE_of_length four, sumAt_append, sumAt_replicate byteTerm_zero,
      add_zero, checksum, Nat.mod_add_mod]

end IntegrityStream

/-- What both passes return for a content. -/
def integrityOf (content : Bytes) : FileIntegrity :=
  ⟨content.length, hexOfBytes (sha256 content), cfdpSum content⟩

theorem streamBundleIntegrityOf_eq (chunks : List Bytes) :
    streamBundleIntegrityOf chunks = integrityOf chunks.flatten := by
  obtain ⟨size, hashed⟩ := foldl_update chunks .empty
  have checksum := (IntegrityStream.consumed_empty.foldl chunks).finalChecksum
  rw [streamBundleIntegrityOf, integrityOf, IntegrityStream.hexdigest, size, hashed, checksum]
  simp [IntegrityStream.empty]

/-- The pass over full buffers is one of these. -/
theorem streamBundleIntegrity_eq (content : Bytes) :
    streamBundleIntegrity content = integrityOf content := by
  let reading := Reading.full ⟨ioBufferBytes, by decide⟩ content
  exact (streamBundleIntegrityOf_eq reading.chunks).trans (congrArg integrityOf reading.whole)

/-- The bound is checked chunk by chunk, and what it lets pass is the whole content. -/
theorem foldlM_boundedUpdate {maxBytes : Option ℕ} (chunks : List Bytes) {s : IntegrityStream}
    (within : ∀ limit ∈ maxBytes, s.size ≤ limit) :
    chunks.foldlM (IntegrityStream.boundedUpdate maxBytes) s =
      if ∀ limit ∈ maxBytes, s.size + chunks.flatten.length ≤ limit then
        .ok (chunks.foldl IntegrityStream.update s)
      else productVerificationError "BUNDLE_TOO_LARGE" "bundle exceeds the configured limit" := by
  induction chunks generalizing s with
  | nil => exact (if_pos within).symm
  | cons chunk rest ih =>
      rw [List.foldlM_cons, List.flatten_cons, List.length_append, ← Nat.add_assoc]
      by_cases passes : ∀ limit ∈ maxBytes, s.size + chunk.length ≤ limit
      · have step : s.boundedUpdate maxBytes chunk = .ok (s.update chunk) := by
          refine if_neg ?_
          cases maxBytes with
          | none => exact Bool.false_ne_true
          | some limit => simpa using passes limit rfl
        rw [step]
        exact ih passes
      · obtain ⟨limit, given, beyond⟩ : ∃ limit, maxBytes = some limit ∧
            limit < s.size + chunk.length := by
          push Not at passes
          exact passes
        have step : s.boundedUpdate maxBytes chunk =
            productVerificationError "BUNDLE_TOO_LARGE" "bundle exceeds the configured limit" := by
          refine if_pos ?_
          simpa [given] using beyond
        have tooLarge : ¬ ∀ limit ∈ maxBytes,
            s.size + chunk.length + rest.flatten.length ≤ limit := by
          intro all
          have := all limit given
          omega
        rw [step, if_neg tooLarge]
        rfl

theorem streamFileIntegrityOf_eq (chunks : List Bytes) (maxBytes : Option ℕ) (bufferBytes : ℕ+) :
    streamFileIntegrityOf chunks (maxBytes.map Nat.cast) (bufferBytes : ℕ) =
      if ∀ limit ∈ maxBytes, chunks.flatten.length ≤ limit then
        .ok (integrityOf chunks.flatten)
      else productVerificationError "BUNDLE_TOO_LARGE" "bundle exceeds the configured limit" := by
  have positive : ¬((bufferBytes : ℕ) : ℤ) ≤ 0 := by
    have := bufferBytes.pos
    omega
  have natural : ¬((maxBytes.map Nat.cast).map fun limit : ℤ => decide (limit < 0)).getD false := by
    cases maxBytes with
    | none => exact Bool.false_ne_true
    | some limit => simp
  have same : (maxBytes.map Nat.cast).map Int.toNat = maxBytes := by
    cases maxBytes <;> rfl
  have bound := @foldlM_boundedUpdate maxBytes chunks .empty fun limit _ => Nat.zero_le limit
  rw [streamFileIntegrityOf, if_neg positive, if_neg natural, same, bound]
  have size : IntegrityStream.empty.size + chunks.flatten.length = chunks.flatten.length :=
    Nat.zero_add _
  rw [size]
  split
  · exact congrArg Except.ok (streamBundleIntegrityOf_eq chunks)
  · rfl

/-! ## The computations agree -/

/-- The checksums of the parts of a content, each at its offset, added up. -/
def checksumOfParts (parts : List Bytes) : Raises ℕ := do
  let sums ← (placed 0 parts).mapM fun part => cfdpChecksum part.2 part.1 none
  .ok (sums.sum % 2 ^ 32)

/-- A part is refused when its offset does not fit 32 bits. -/
theorem mapM_cfdpChecksum (parts : List (ℕ × Bytes)) :
    parts.mapM (fun part => cfdpChecksum part.2 part.1 none) =
      if ∀ part ∈ parts, part.1 ≤ 0xFFFFFFFF then
        .ok (parts.map fun part => sumAt byteTerm part.1 part.2 % 2 ^ 32)
      else valueError "checksum offset must be non-negative U32" := by
  induction parts with
  | nil => rfl
  | cons part rest ih =>
      rw [List.mapM_cons, ih]
      by_cases low : part.1 ≤ 0xFFFFFFFF
      · rw [cfdpChecksum_none low]
        by_cases later : ∀ part ∈ rest, part.1 ≤ 0xFFFFFFFF
        · have all : ∀ entry ∈ part :: rest, entry.1 ≤ 0xFFFFFFFF :=
            List.forall_mem_cons.mpr ⟨low, later⟩
          rw [if_pos later, if_pos all]
          rfl
        · have some : ¬ ∀ entry ∈ part :: rest, entry.1 ≤ 0xFFFFFFFF :=
            fun all => later (List.forall_mem_cons.mp all).2
          rw [if_neg later, if_neg some]
          rfl
      · have some : ¬ ∀ entry ∈ part :: rest, entry.1 ≤ 0xFFFFFFFF :=
          fun all => low (List.forall_mem_cons.mp all).1
        rw [cfdpChecksum_far (Nat.lt_of_not_le low), if_neg some]
        rfl

theorem checksumOfParts_eq (parts : List Bytes) :
    checksumOfParts parts =
      if ∀ part ∈ placed 0 parts, part.1 ≤ 0xFFFFFFFF then .ok (cfdpSum parts.flatten)
      else valueError "checksum offset must be non-negative U32" := by
  rw [checksumOfParts, mapM_cfdpChecksum]
  split
  · have reduced := List.sum_nat_mod
      ((placed 0 parts).map fun part => sumAt byteTerm part.1 part.2) (2 ^ 32)
    rw [List.map_map] at reduced
    rw [cfdpSum, sumAt_flatten, reduced]
    rfl
  · rfl

/-- **One checksum.**  Whatever chunks `read` returns, both streaming passes return the checksum of
the whole content, and the checksums of the parts of any partition add up to it, as long as every
part begins at an offset of 32 bits; a part beyond is refused. -/
theorem checksums_agree (content : Bytes) :
    (∀ {bufferBytes : ℕ+} (reading : Reading bufferBytes content),
      cfdpChecksum content 0 none = .ok (streamBundleIntegrityOf reading.chunks).cfdpChecksum ∧
      ∀ maxBytes : Option ℕ,
        streamFileIntegrityOf reading.chunks (maxBytes.map Nat.cast) (bufferBytes : ℕ) =
          if ∀ limit ∈ maxBytes, content.length ≤ limit then
            .ok (streamBundleIntegrityOf reading.chunks)
          else
            productVerificationError "BUNDLE_TOO_LARGE" "bundle exceeds the configured limit") ∧
    ∀ partition : {parts : List Bytes // parts.flatten = content},
      checksumOfParts partition.val =
        if ∀ part ∈ placed 0 partition.val, part.1 ≤ 0xFFFFFFFF then cfdpChecksum content 0 none
        else valueError "checksum offset must be non-negative U32" := by
  have total : cfdpChecksum content 0 none = .ok (cfdpSum content) :=
    cfdpChecksum_none (Nat.zero_le _) content
  refine ⟨fun {bufferBytes} reading => ⟨?_, fun maxBytes => ?_⟩, fun partition => ?_⟩
  · rw [total, streamBundleIntegrityOf_eq, reading.whole]
    rfl
  · rw [streamFileIntegrityOf_eq, streamBundleIntegrityOf_eq, reading.whole]
  · rw [checksumOfParts_eq, partition.property, total]

/-- A content of more than 2³² bytes has a partition with a part that is refused. -/
theorem checksumOfParts_far :
    ¬ ∀ parts : List Bytes, checksumOfParts parts = cfdpChecksum parts.flatten 0 none := by
  intro every
  let head : Bytes := List.replicate (2 ^ 32) 0
  have total : cfdpChecksum [head, [0]].flatten 0 none = .ok (cfdpSum [head, [0]].flatten) :=
    cfdpChecksum_none (Nat.zero_le _) _
  have far : ¬ ∀ part ∈ placed 0 [head, [0]], part.1 ≤ 0xFFFFFFFF := by
    intro all
    have last := all (0 + head.length, [0]) (by simp [placed])
    rw [List.length_replicate] at last
    omega
  have claimed := every [head, [0]]
  rw [checksumOfParts_eq, if_neg far, total] at claimed
  cases claimed

end CubeNano
