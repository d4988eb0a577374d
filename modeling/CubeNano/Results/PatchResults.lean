import CubeNano.Protocol.Command
import CubeNano.Protocol.PyNumbers
import CubeNano.Protocol.Sha256
import Mathlib.Data.PNat.Basic

/-!
# Patch-result artifacts

The verified reader of `patch_result_writer.py`: `verify_patch_results` and `open_patch_results`.
A directory is what its files hold when they are read; a file that cannot be read raises `OSError`.
A text file is decoded as a whole before its lines are read.

## Main definitions

* `PatchResultDirectory`, `PatchResultArtifact`
* `verifyRecords`, `verifyPatchResults`, `openPatchResults`
-/

namespace CubeNano

/-! ## Files -/

/-- The directory of an artifact: what each of its files holds, where it can be read. -/
structure PatchResultDirectory where
  isDir : Bool
  manifest : Option Bytes
  header : Option Bytes
  records : Option Bytes

/-- The newlines of a text file that is opened for reading. -/
def universalNewlines : Text → Text
  | [] => []
  | [c] => if c = 0x0D then [0x0A] else [c]
  | c :: c' :: rest =>
      if c = 0x0D then
        if c' = 0x0A then 0x0A :: universalNewlines rest
        else 0x0A :: universalNewlines (c' :: rest)
      else c :: universalNewlines (c' :: rest)

/-- `path.read_text(encoding="utf-8")`. -/
def readText (file : Option Bytes) : Raises Text :=
  match file with
  | none => .error ⟨.osError, "[Errno 2] No such file or directory"⟩
  | some data => (utf8Decode data).map universalNewlines

/-- `json.loads(path.read_text(encoding="utf-8"))`. -/
def readJson (file : Option Bytes) : Raises PyValue := do
  let text ← readText file
  jsonLoads text

/-- The lines of a text file, with their newlines. -/
def linesOf : Text → List Text
  | [] => []
  | c :: rest =>
      if c = 0x0A then [c] :: linesOf rest
      else
        match linesOf rest with
        | [] => [[c]]
        | line :: lines => (c :: line) :: lines

/-- `try: ... except (...) as exc: raise failure from exc`. -/
def reraise {α : Type} (caught : ExceptionKind → Bool) (failure : PyException) :
    Raises α → Raises α
  | .ok value => .ok value
  | .error e => if caught e.kind then .error failure else .error e

/-- `except (OSError, json.JSONDecodeError)`. -/
def isReadError (kind : ExceptionKind) : Bool := kind = .osError || kind = .jsonDecodeError

/-- `except (OSError, ValueError, TypeError, KeyError, json.JSONDecodeError)`. -/
def isRecordError (kind : ExceptionKind) : Bool :=
  kind.isTypeOrValueError || kind = .osError || kind = .keyError

/-! ## Artifacts -/

/-- A record of an artifact, with its coordinate. -/
structure PatchRecord where
  row : ℤ
  col : ℤ
  entries : PyDict

/-- `_pair` with `allow_none=True`. -/
def pairOf (value : PyValue) (fieldName : String) : Raises (Option (ℕ+ × ℕ+)) :=
  let malformed : Raises (Option (ℕ+ × ℕ+)) :=
    valueError (fieldName ++ " must contain two positive integers")
  match value with
  | .none => .ok none
  | .list [first, second] => do
      let rows ← intOf first
      let cols ← intOf second
      if positive : 0 < rows.toNat ∧ 0 < cols.toNat then
        .ok (some (⟨rows.toNat, positive.1⟩, ⟨cols.toNat, positive.2⟩))
      else malformed
  | _ => malformed

/-- The manifest and the header, as JSON values. -/
def readDocuments (dir : PatchResultDirectory) : Raises (PyValue × PyValue) := do
  let manifest ← readJson dir.manifest
  let header ← readJson dir.header
  .ok (manifest, header)

/-- Both documents have to be objects. -/
def documentObjects : PyValue × PyValue → Raises (PyDict × PyDict)
  | (.dict manifest, .dict header) => .ok (manifest, header)
  | _ =>
      preprocessError "PATCH_RESULT_INCOMPLETE"
        "patch-result manifest and header must be JSON objects"

/-- The documents of an artifact: its manifest and its header. -/
def loadDocuments (dir : PatchResultDirectory) : Raises (PyDict × PyDict) :=
  if dir.isDir then do
    let documents ← reraise isReadError
      ⟨.preprocessError "PATCH_RESULT_INCOMPLETE",
        "patch-result manifest or header is missing/invalid"⟩ (readDocuments dir)
    documentObjects documents
  else
    preprocessError "PATCH_RESULT_INCOMPLETE" "patch-result artifact directory does not exist"

/-- `value is True`. -/
def isTrue : PyValue → Bool
  | .bool true => true
  | _ => false

/-- Whether a manifest says that it is complete, in the supported schema. -/
def manifestComplete (manifest : PyDict) : Bool :=
  pyEq (dictGet manifest "schema_version") (.int 1) &&
    pyEq (dictGet manifest "status") (.str (Text.ofString "complete")) &&
    isTrue (dictGet manifest "complete")

/-- The SHA-256 of a file, in hexadecimal. -/
def fileDigest (data : Bytes) : Text := hexOfBytes (sha256 data)

/-- The check of one stored checksum. -/
def checkChecksum (checksums : PyDict) (name : String) (file : Option Bytes) : Raises Unit :=
  match file with
  | none =>
      preprocessError "PATCH_RESULT_INCOMPLETE" ("patch-result payload file is missing: " ++ name)
  | some data =>
      let expected := dictGet checksums name
      if !truthy expected || !pyEq (.str (fileDigest data)) expected then
        preprocessError "PATCH_RESULT_CHECKSUM_MISMATCH"
          ("patch-result checksum mismatch for " ++ name)
      else .ok ()

/-- The fields in which the manifest and the header have to agree. -/
def linkedFields : List String :=
  ["capture_id", "source_fingerprint", "preprocessing_profile_id", "engine_fingerprint"]

/-- The comparison of the manifest and the header. -/
def checkLinkage (manifest header : PyDict) : List String → Raises Unit
  | [] => .ok ()
  | key :: keys =>
      if pyEq (dictGet manifest key) (dictGet header key) then checkLinkage manifest header keys
      else
        preprocessError "FINGERPRINT_LINKAGE_MISMATCH"
          ("patch-result header/manifest mismatch for " ++ key)

/-- The checks of `verify_patch_results` between the documents and the records. -/
def checkDocuments (dir : PatchResultDirectory) (manifest header : PyDict) : Raises Unit :=
  if manifestComplete manifest then
    match dictGet manifest "checksums" with
    | .dict checksums => do
        checkChecksum checksums "records.jsonl" dir.records
        checkChecksum checksums "header.json" dir.header
        checkLinkage manifest header linkedFields
    | _ => preprocessError "PATCH_RESULT_INCOMPLETE" "patch-result manifest checksums are invalid"
  else preprocessError "PATCH_RESULT_INCOMPLETE" "patch-result manifest is not complete"

/-- A record of one line. -/
def readRecord (line : Text) : Raises PatchRecord := do
  match ← jsonLoads line with
  | .dict entries =>
      match dictGet? entries "patch_row" with
      | none => keyError "'patch_row'"
      | some patchRow => do
          let row ← intOf patchRow
          match dictGet? entries "patch_col" with
          | none => keyError "'patch_col'"
          | some patchCol => do
              let col ← intOf patchCol
              .ok ⟨row, col, entries⟩
  | _ => valueError "record is not an object"

/-- Whether a coordinate is the one of an index in a grid. -/
def atIndex (grid : ℕ+ × ℕ+) (index : ℕ) (record : PatchRecord) : Bool :=
  record.row = (index / grid.2 : ℕ) && record.col = (index % grid.2 : ℕ)

/-- The loop body of `_verify_records`: a line after some records. -/
def readLine (grid : Option (ℕ+ × ℕ+)) (records : List PatchRecord) (line : Text) :
    Raises (List PatchRecord) :=
  if stripText line = [] then .ok records
  else do
    let record ← readRecord line
    if records.any fun other => other.row = record.row && other.col = record.col then
      preprocessError "PATCH_RESULT_DUPLICATE" "duplicate patch result record"
    else if grid.any fun grid => !atIndex grid records.length record then
      preprocessError "PATCH_RESULT_MISSING"
        "patch result contains missing or out-of-order records"
    else .ok (records ++ [record])

/-- The records of an artifact, as far as they can be read. -/
def loadRecords (dir : PatchResultDirectory) (grid : Option (ℕ+ × ℕ+)) :
    Raises (List PatchRecord) :=
  reraise isRecordError
    ⟨.preprocessError "PATCH_RESULT_INCOMPLETE", "patch-result records are malformed"⟩
    (do
      let text ← readText dir.records
      (linesOf text).foldlM (readLine grid) [])

/-- The count of the records against the manifest and the grid. -/
def checkCount (manifest : PyDict) (grid : Option (ℕ+ × ℕ+)) (count : ℕ) : Raises Unit :=
  let expected := dictGet manifest "record_count"
  let mismatch (reason : String) : Raises Unit :=
    preprocessError reason "patch-result record count does not match manifest"
  if pyEq expected (.int count) then
    if grid.any fun grid => count ≠ grid.1 * grid.2 then
      preprocessError "PATCH_RESULT_MISSING" "patch-result grid is incomplete"
    else .ok ()
  else if truthy expected then do
    let expected ← intOf expected
    if count < expected then mismatch "PATCH_RESULT_MISSING"
    else mismatch "PATCH_RESULT_INCOMPLETE"
  else mismatch "PATCH_RESULT_INCOMPLETE"

end CubeNano
