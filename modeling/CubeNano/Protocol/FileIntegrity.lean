import CubeNano.Protocol.Exceptions
import CubeNano.Protocol.PyValue
import CubeNano.Protocol.Sha256

/-!
# Streaming file integrity

Size, SHA-256 and CFDP checksum of a file in one pass over the chunks `read`
returns: `_stream_bundle_integrity` of the flight side and `stream_file_integrity`
of the ground.  Both carry up to three trailing bytes from one chunk to the next.
-/

namespace CubeNano

/-- `IO_BUFFER_BYTES`. -/
def ioBufferBytes : ℕ := 1024 * 1024

/-- What successive `stream.read(size)` calls return.  The fuel bounds the chunks,
each of which takes a byte. -/
def readChunks (size : ℕ) : (fuel : ℕ) → Bytes → List Bytes
  | 0, _ => []
  | _ + 1, [] => []
  | fuel + 1, byte :: rest =>
      (byte :: rest).take size :: readChunks size fuel ((byte :: rest).drop size)

/-- Add the big-endian words of a byte string to a checksum. -/
def sumWords : ℕ → Bytes → ℕ
  | checksum, b0 :: b1 :: b2 :: b3 :: rest =>
      sumWords ((checksum + fromBytesBE [b0, b1, b2, b3]) % 2 ^ 32) rest
  | checksum, _ => checksum

/-- The state of the pass. -/
structure IntegrityStream where
  size : ℕ
  /-- What the digest was updated with. -/
  hashed : Bytes
  checksum : ℕ
  trailing : Bytes

namespace IntegrityStream

/-- Before the first chunk. -/
def empty : IntegrityStream := ⟨0, [], 0, []⟩

/-- One chunk. -/
def update (s : IntegrityStream) (chunk : Bytes) : IntegrityStream :=
  let words := s.trailing ++ chunk
  let wordBytes := words.length - words.length % 4
  { size := s.size + chunk.length
    hashed := s.hashed ++ chunk
    checksum := sumWords s.checksum (words.take wordBytes)
    trailing := words.drop wordBytes }

/-- The checksum with the trailing bytes, filled up with zeros. -/
def finalChecksum (s : IntegrityStream) : ℕ :=
  if s.trailing = [] then s.checksum
  else
    (s.checksum + fromBytesBE (s.trailing ++ List.replicate (4 - s.trailing.length) 0)) % 2 ^ 32

/-- The digest, in hexadecimal. -/
def hexdigest (s : IntegrityStream) : Text := hexOfBytes (sha256 s.hashed)

end IntegrityStream

/-- `FileIntegrity`. -/
structure FileIntegrity where
  size : ℕ
  sha256 : Text
  cfdpChecksum : ℕ
  deriving DecidableEq

/-- `_stream_bundle_integrity`. -/
def streamBundleIntegrity (content : Bytes) : FileIntegrity :=
  let s := (readChunks ioBufferBytes content.length content).foldl IntegrityStream.update .empty
  ⟨s.size, s.hexdigest, s.finalChecksum⟩

/-- One chunk of a pass with an optional bound. -/
def IntegrityStream.boundedUpdate (maxBytes : Option ℕ) (s : IntegrityStream) (chunk : Bytes) :
    Raises IntegrityStream :=
  if (maxBytes.map fun limit => decide (s.size + chunk.length > limit)).getD false then
    productVerificationError "BUNDLE_TOO_LARGE" "bundle exceeds the configured limit"
  else .ok (s.update chunk)

/-- `stream_file_integrity` with the default buffer. -/
def streamFileIntegrity (content : Bytes) (maxBytes : Option ℕ) : Raises FileIntegrity := do
  let s ← (readChunks ioBufferBytes content.length content).foldlM
    (IntegrityStream.boundedUpdate maxBytes) .empty
  .ok ⟨s.size, s.hexdigest, s.finalChecksum⟩

/-! ## The two passes agree -/

theorem flatten_readChunks {size : ℕ} (positive : 0 < size) {fuel : ℕ} {content : Bytes}
    (enough : content.length ≤ fuel) : (readChunks size fuel content).flatten = content := by
  induction fuel generalizing content with
  | zero =>
      obtain rfl := List.length_eq_zero_iff.mp (Nat.le_zero.mp enough)
      rfl
  | succ fuel ih =>
      cases content with
      | nil => rfl
      | cons byte rest =>
          have shorter : ((byte :: rest).drop size).length ≤ fuel := by
            simp only [List.length_drop, List.length_cons] at enough ⊢
            omega
          rw [readChunks, List.flatten_cons, ih shorter, List.take_append_drop]

theorem foldl_update (chunks : List Bytes) (s : IntegrityStream) :
    (chunks.foldl IntegrityStream.update s).size = s.size + chunks.flatten.length ∧
      (chunks.foldl IntegrityStream.update s).hashed = s.hashed ++ chunks.flatten := by
  induction chunks generalizing s with
  | nil => simp
  | cons chunk rest ih =>
      obtain ⟨size, hashed⟩ := ih (s.update chunk)
      rw [List.foldl_cons, size, hashed]
      simp [IntegrityStream.update, Nat.add_assoc]

/-- **The ground computes what the flight side computed**, for a file within its
bound. -/
theorem streamFileIntegrity_eq {content : Bytes} {limit : ℕ} (within : content.length ≤ limit) :
    streamFileIntegrity content (some limit) = .ok (streamBundleIntegrity content) := by
  have fold (chunks : List Bytes) (s : IntegrityStream)
      (fits : s.size + chunks.flatten.length ≤ limit) :
      chunks.foldlM (IntegrityStream.boundedUpdate (some limit)) s =
        .ok (chunks.foldl IntegrityStream.update s) := by
    induction chunks generalizing s with
    | nil => rfl
    | cons chunk rest ih =>
        rw [List.flatten_cons, List.length_append] at fits
        have step : s.boundedUpdate (some limit) chunk = .ok (s.update chunk) := by
          refine if_neg ?_
          simp only [Option.map_some, Option.getD_some, decide_eq_true_eq]
          omega
        have later : (s.update chunk).size + rest.flatten.length ≤ limit := by
          change s.size + chunk.length + rest.flatten.length ≤ limit
          omega
        rw [List.foldlM_cons, step]
        exact ih (s.update chunk) later
  rw [streamFileIntegrity, fold]
  · rfl
  · rw [flatten_readChunks (by decide) le_rfl]
    exact (Nat.zero_add _).le.trans within

end CubeNano
