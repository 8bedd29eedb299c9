import JdHoldings.Application.Runtime

/-!
# The `signals` table

A signal announces an order that may be placed for it.  It is active until it is
processed, invalidated or out of date; the allocator may activate the signal of a
generation again.
-/

namespace JdHoldings

/-- The texts of `signals.action` here. -/
inductive SignalAction where
  | coreRebalanceBuy
  | other (text : String)
deriving DecidableEq, Repr

/-- A row of `signals`. -/
structure SignalRow extends Signal where
  signalId : SignalId
  symbol : AllocationSymbol
  tradeDate : Date
  action : SignalAction
  expiredReason : Option String := none
deriving DecidableEq, Repr

/-- `status = 'ACTIVE' AND processed = 0`. -/
def SignalRow.isActive (row : SignalRow) : Bool :=
  decide (row.status = .active) && !row.processed

/-- `status = 'INVALID', processed = 1`. -/
def SignalRow.invalidate (row : SignalRow) (reason : String) : SignalRow :=
  { row with status := .other "INVALID", processed := true, expiredReason := some reason }

/-- `invalidate_active_signals` of one symbol. -/
def invalidateActiveSignals (signals : List SignalRow) (symbol : AllocationSymbol)
    (reason : String) : List SignalRow :=
  signals.map fun row =>
    if row.symbol = symbol ∧ row.isActive = true then row.invalidate reason else row

end JdHoldings
