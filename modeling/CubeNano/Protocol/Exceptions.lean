import CubeNano.Lib.Effect
import Mathlib.Data.List.Basic

/-!
# Raised exceptions

The code distinguishes failures by exception class (`except ValueError`,
`except (TypeError, ValueError)`), so a failing model function returns the class
together with the message.
-/

namespace CubeNano

/-- The exception classes of the ground ledger. -/
inductive LedgerErrorKind
  | ledgerIntegrity
  | idempotencyConflict
  | idempotencyKeyRetired
  | idempotencyValidation
  | noContact
  | targetRetired
  | outboxCapacity
  | requestKeyAllocator
  | requestNamespaceDraining
  | sequenceAllocator
  | bindingUnavailable
  | bindingGeneration
  | bindingFence
  | bindingChanged
  | targetInstanceRetired
  | leaseLost
  | attemptLimit
  deriving DecidableEq, Repr

/-- `type(exc).__name__`. -/
def LedgerErrorKind.name : LedgerErrorKind → String
  | ledgerIntegrity => "LedgerIntegrityError"
  | idempotencyConflict => "IdempotencyConflictError"
  | idempotencyKeyRetired => "IdempotencyKeyRetiredError"
  | idempotencyValidation => "IdempotencyValidationError"
  | noContact => "NoContactError"
  | targetRetired => "TargetRetiredError"
  | outboxCapacity => "OutboxCapacityError"
  | requestKeyAllocator => "RequestKeyAllocatorError"
  | requestNamespaceDraining => "RequestNamespaceDrainingError"
  | sequenceAllocator => "SequenceAllocatorError"
  | bindingUnavailable => "BindingUnavailableError"
  | bindingGeneration => "BindingGenerationError"
  | bindingFence => "BindingFenceError"
  | bindingChanged => "BindingChangedError"
  | targetInstanceRetired => "TargetInstanceRetiredError"
  | leaseLost => "LeaseLostError"
  | attemptLimit => "AttemptLimitError"

/-- The exception classes the modelled code raises or catches. -/
inductive ExceptionKind
  | valueError
  | typeError
  | runtimeError
  | overflowError
  | keyError
  | attributeError
  | assertionError
  | osError
  | integrityError
  | structError
  | unicodeDecodeError
  | unicodeEncodeError
  | jsonDecodeError
  /-- `sqlite3.ProgrammingError`. -/
  | programmingError
  | workerProtocolError
  /-- `WorkerQueueFull`. -/
  | workerQueueFull
  /-- `RawSegmentError`. -/
  | rawSegmentError
  /-- `StorageFullError`. -/
  | storageFullError
  /-- `WriterBackpressureError`. -/
  | writerBackpressureError
  /-- `WriterClosedError`. -/
  | writerClosedError
  /-- `InsufficientValidData`. -/
  | insufficientValidData
  /-- `PreprocessError`, with its reason code. -/
  | preprocessError (reason : String)
  /-- `FileReassemblyError`, with its `code`. -/
  | fileReassemblyError (code : String)
  /-- `ProductVerificationError`, with its `code`. -/
  | productVerificationError (code : String)
  /-- `TmDecodeError`, with its `code`. -/
  | tmDecodeError (code : String)
  /-- `CatalogError`, with its `code`. -/
  | catalogError (code : String)
  /-- An exception of the ground ledger. -/
  | ledgerError (kind : LedgerErrorKind)
  /-- Not an exception of the source: a loop without a bound of its own used up
  the iterations the model grants it. -/
  | nonTermination
  deriving DecidableEq, Repr

/-- `type(exc).__name__`. -/
def ExceptionKind.name : ExceptionKind → String
  | valueError => "ValueError"
  | typeError => "TypeError"
  | runtimeError => "RuntimeError"
  | overflowError => "OverflowError"
  | keyError => "KeyError"
  | attributeError => "AttributeError"
  | assertionError => "AssertionError"
  | osError => "OSError"
  | integrityError => "IntegrityError"
  | structError => "error"
  | unicodeDecodeError => "UnicodeDecodeError"
  | unicodeEncodeError => "UnicodeEncodeError"
  | jsonDecodeError => "JSONDecodeError"
  | programmingError => "ProgrammingError"
  | workerProtocolError => "WorkerProtocolError"
  | workerQueueFull => "WorkerQueueFull"
  | rawSegmentError => "RawSegmentError"
  | storageFullError => "StorageFullError"
  | writerBackpressureError => "WriterBackpressureError"
  | writerClosedError => "WriterClosedError"
  | insufficientValidData => "InsufficientValidData"
  | preprocessError _ => "PreprocessError"
  | fileReassemblyError _ => "FileReassemblyError"
  | productVerificationError _ => "ProductVerificationError"
  | tmDecodeError _ => "TmDecodeError"
  | catalogError _ => "CatalogError"
  | ledgerError kind => kind.name
  | nonTermination => ""

/-- `f"{n:0{width}x}"`. -/
def hexDigits (width n : ℕ) : String :=
  let digits := Nat.toDigits 16 n
  String.ofList (List.replicate (width - digits.length) '0' ++ digits)

/-- `f"{n:#x}"`. -/
def pyHex (n : ℕ) : String := "0x" ++ hexDigits 0 n

/-- A raised exception: its class and its text. -/
structure PyException where
  kind : ExceptionKind
  message : String
  deriving DecidableEq, Repr

/-- A computation that returns or raises. -/
abbrev Raises (α : Type) := Except PyException α

/-- `raise ValueError(message)`. -/
def valueError {α : Type} (message : String) : Raises α := .error ⟨.valueError, message⟩

/-- `raise TypeError(message)`. -/
def typeError {α : Type} (message : String) : Raises α := .error ⟨.typeError, message⟩

/-- `raise RuntimeError(message)`. -/
def runtimeError {α : Type} (message : String) : Raises α := .error ⟨.runtimeError, message⟩

/-- `raise OverflowError(message)`. -/
def overflowError {α : Type} (message : String) : Raises α := .error ⟨.overflowError, message⟩

/-- `raise KeyError(message)`. -/
def keyError {α : Type} (message : String) : Raises α := .error ⟨.keyError, message⟩

/-- `sqlite3.IntegrityError` of a violated constraint. -/
def integrityError {α : Type} (message : String) : Raises α := .error ⟨.integrityError, message⟩

/-- `raise TmDecodeError(code, message)`. -/
def tmDecodeError {α : Type} (code message : String) : Raises α :=
  .error ⟨.tmDecodeError code, message⟩

/-- `raise CatalogError(code, message)`. -/
def catalogError {α : Type} (code message : String) : Raises α :=
  .error ⟨.catalogError code, message⟩

/-- `raise PreprocessError(reason, message)`. -/
def preprocessError {α : Type} (reason message : String) : Raises α :=
  .error ⟨.preprocessError reason, message⟩

/-- Whether `except (TypeError, ValueError)` catches the class. -/
def ExceptionKind.isTypeOrValueError : ExceptionKind → Bool
  | typeError | valueError | unicodeDecodeError | unicodeEncodeError | jsonDecodeError
  | workerProtocolError | fileReassemblyError _ | productVerificationError _ | tmDecodeError _
  | catalogError _ => true
  | ledgerError kind => kind = .idempotencyValidation
  | _ => false

/-- Whether `except RuntimeError` catches the class. -/
def ExceptionKind.isRuntimeError (kind : ExceptionKind) : Bool :=
  [.runtimeError, .workerQueueFull, .rawSegmentError, .storageFullError, .writerBackpressureError,
    .writerClosedError, .insufficientValidData].contains kind

/-- `raise` of a ledger exception. -/
def ledgerError {α : Type} (kind : LedgerErrorKind) (message : String) : Raises α :=
  .error ⟨.ledgerError kind, message⟩

/-- `raise AttributeError(message)`. -/
def attributeError {α : Type} (message : String) : Raises α := .error ⟨.attributeError, message⟩

/-- `raise InsufficientValidData(message)`. -/
def insufficientValidData {α : Type} (message : String) : Raises α :=
  .error ⟨.insufficientValidData, message⟩

/-- `raise FileReassemblyError(code, message)`. -/
def fileReassemblyError {α : Type} (code message : String) : Raises α :=
  .error ⟨.fileReassemblyError code, message⟩

/-- `raise ProductVerificationError(code, message)`. -/
def productVerificationError {α : Type} (code message : String) : Raises α :=
  .error ⟨.productVerificationError code, message⟩

/-- A bind that returned came from a first part that returned. -/
theorem bind_eq_ok_iff {α β : Type} {first : Raises α} {next : α → Raises β} {value : β} :
    (first >>= next) = .ok value ↔ ∃ mid, first = .ok mid ∧ next mid = .ok value := by
  cases first with
  | error e => simp [bind, Except.bind]
  | ok mid => simp [bind, Except.bind]

theorem ok_bind {α β : Type} (value : α) (next : α → Raises β) :
    ((.ok value : Raises α) >>= next) = next value := rfl

/-- What a finished method returned or raised. -/
def outcome {σ α : Type} : EStateM.Result PyException σ α → Raises α
  | .ok value _ => .ok value
  | .error failure _ => .error failure

/-- A computation without state, as a step of a method. -/
def liftRaises {σ α : Type} : Raises α → EStateM PyException σ α
  | .ok value => pure value
  | .error failure => throw failure

theorem liftRaises_bind_of_ok {σ α β : Type} {r : Raises α} {a : α} (returned : r = .ok a)
    (f : α → EStateM PyException σ β) (s : σ) :
    ((liftRaises r : EStateM PyException σ α) >>= f) s = f a s := by
  rw [returned]
  rfl

theorem liftRaises_bind_of_error {σ α β : Type} {r : Raises α} {failure : PyException}
    (raised : r = .error failure) (f : α → EStateM PyException σ β) (s : σ) :
    ((liftRaises r : EStateM PyException σ α) >>= f) s = .error failure s := by
  rw [raised]
  rfl

theorem liftRaises_eq_ok_iff {σ α : Type} {r : Raises α} {s t : σ} {a : α} :
    (liftRaises r : EStateM PyException σ α) s = .ok a t ↔ r = .ok a ∧ t = s := by
  cases r with
  | ok value =>
      constructor
      · intro h
        cases h
        exact ⟨rfl, rfl⟩
      · rintro ⟨h, rfl⟩
        cases h
        rfl
  | error failure =>
      constructor
      · intro h
        cases h
      · rintro ⟨h, -⟩
        cases h

/-- A computation without state keeps every property. -/
theorem keeps_liftRaises {σ α : Type} (r : Raises α) (P : σ → Prop) :
    Effect.Keeps P (liftRaises r) := by
  intro s h
  cases r with
  | ok value => exact h
  | error failure => exact h

/-- A computation without state from a known one: its value, or nothing changed. -/
theorem triple_liftRaises {σ α : Type} {s : σ} (r : Raises α) :
    Effect.Triple (fun t => t = s) (liftRaises r) (fun a t => r = .ok a ∧ t = s)
      fun _ t => t = s := by
  rintro t rfl
  cases r with
  | ok value => exact ⟨rfl, rfl⟩
  | error failure => rfl

/-- A computation without state keeps what is known, beside its value. -/
theorem triple_liftRaises_known {σ α : Type} {P : σ → Prop} (r : Raises α) :
    Effect.Triple P (liftRaises r) (fun a t => r = .ok a ∧ P t) fun _ => P := by
  intro t h
  cases r with
  | ok value => exact ⟨rfl, h⟩
  | error failure => exact h

end CubeNano
