import Mathlib.Order.Monotone.Basic
import JdHoldings.Reconciliation.Refresh

/-!
# The broker during a reconciliation

The broker fills core orders while one run of the reconciliation reads order
statuses, holdings and OPEN lists, each at an instant of its own.

The broker's side is a `BrokerBook`.  A `BrokerHistory` is a book for every instant
in which consecutive books differ by one fill, by one order that closes, or not at
all; `BrokerBook.Later` says how any two of its books differ.  A read shows the book
of its instant (`BrokerReads.AnsweredBy`), and a `Schedule` says which instant that
is.
-/

namespace JdHoldings

variable {ι : Type}

/-! ## The broker -/

/-- The orders of the ledger as the broker has them, and what the account holds. -/
structure BrokerBook (ι : Type) where
  brokerOrderId : ι → Option BrokerOrderId
  filled : ι → ℕ
  isOpen : ι → Bool
  held : AllocationSymbol → ℕ

variable [DecidableEq ι]

/-- One thing that happens to the core orders at the broker. -/
inductive BrokerStep (repo : Repository ι) (book : BrokerBook ι) : BrokerBook ι → Prop
  | fill (row : OrderRow ι) (held : AllocationSymbol → ℕ) (shares : ℕ) (mem : row ∈ repo.orders)
      (core : row.purpose.isCore = true) (isOpen : book.isOpen row.clientOrderId = true)
      (filled_le : book.filled row.clientOrderId + shares ≤ row.qty)
      (held_eq : ∀ symbol, (held symbol : ℤ) = book.held symbol + row.direction symbol * shares) :
      BrokerStep repo book
        { book with
          filled := Function.update book.filled row.clientOrderId
            (book.filled row.clientOrderId + shares)
          held := held }
  | close (row : OrderRow ι) (mem : row ∈ repo.orders) (core : row.purpose.isCore = true) :
      BrokerStep repo book
        { book with isOpen := Function.update book.isOpen row.clientOrderId false }

/-- The books of one run. -/
structure BrokerHistory (repo : Repository ι) where
  book : ℕ → BrokerBook ι
  step : ∀ t, book (t + 1) = book t ∨ BrokerStep repo (book t) (book (t + 1))

/-- How two books of a history differ. -/
structure BrokerBook.Later (repo : Repository ι) (book book' : BrokerBook ι) : Prop where
  brokerOrderId : book'.brokerOrderId = book.brokerOrderId
  filled_mono : ∀ clientOrderId, book.filled clientOrderId ≤ book'.filled clientOrderId
  filled_le : ∀ row ∈ repo.orders, book.filled row.clientOrderId ≤ row.qty →
    book'.filled row.clientOrderId ≤ row.qty
  /-- A closed order stays closed and does not fill. -/
  closed : ∀ clientOrderId, book.isOpen clientOrderId = false →
    book'.isOpen clientOrderId = false ∧ book'.filled clientOrderId = book.filled clientOrderId
  /-- Orders of other purposes stay as they are. -/
  direct : ∀ row ∈ repo.orders, row.purpose.isCore = false →
    book'.isOpen row.clientOrderId = book.isOpen row.clientOrderId
  held : ∀ symbol, (book'.held symbol : ℤ) = book.held symbol
    + repo.moved symbol fun row => (book'.filled row.clientOrderId : ℤ) - book.filled row.clientOrderId

namespace BrokerBook.Later

variable {repo : Repository ι}

omit [DecidableEq ι] in
theorem refl (book : BrokerBook ι) : Later repo book book := by
  refine ⟨rfl, fun _ => le_rfl, fun _ _ h => h, fun _ h => ⟨h, rfl⟩, fun _ _ _ => rfl, ?_⟩
  intro symbol
  simp [Repository.moved, Table.sum]

omit [DecidableEq ι] in
theorem trans {first second third : BrokerBook ι} (hfront : Later repo first second)
    (hback : Later repo second third) : Later repo first third := by
  refine ⟨hback.brokerOrderId.trans hfront.brokerOrderId,
    fun id => (hfront.filled_mono id).trans (hback.filled_mono id),
    fun row hrow hle => hback.filled_le row hrow (hfront.filled_le row hrow hle), ?_,
    fun row hrow hdirect => (hback.direct row hrow hdirect).trans (hfront.direct row hrow hdirect),
    ?_⟩
  · intro clientOrderId hclosed
    obtain ⟨hsecond, hsame⟩ := hfront.closed clientOrderId hclosed
    obtain ⟨hthird, hsame'⟩ := hback.closed clientOrderId hsecond
    exact ⟨hthird, hsame'.trans hsame⟩
  · intro symbol
    rw [hback.held symbol, hfront.held symbol, add_assoc]
    congr 1
    simp only [Repository.moved, ← Table.sum_add]
    refine Table.sum_congr fun row _ => ?_
    ring

theorem of_step {book book' : BrokerBook ι} (hstep : BrokerStep repo book book') :
    Later repo book book' := by
  cases hstep with
  | fill row held shares hmem hcore hopen hfilled hheld =>
      -- One open order gains shares, and the account moves by as many.
      have hother : ∀ clientOrderId, clientOrderId ≠ row.clientOrderId →
          Function.update book.filled row.clientOrderId (book.filled row.clientOrderId + shares)
            clientOrderId = book.filled clientOrderId := by
        intro clientOrderId hne
        rw [Function.update_of_ne hne]
      refine ⟨rfl, ?_, ?_, ?_, fun _ _ _ => rfl, ?_⟩
      · intro clientOrderId
        by_cases hsame : clientOrderId = row.clientOrderId
        · subst hsame
          simp
        · exact (hother clientOrderId hsame).ge
      · intro other hother' hle
        by_cases hsame : other.clientOrderId = row.clientOrderId
        · obtain rfl : other = row := Table.eq_of_key_eq hother' hmem hsame
          simpa using hfilled
        · exact (hother other.clientOrderId hsame).le.trans hle
      · intro clientOrderId hclosed
        refine ⟨hclosed, hother clientOrderId ?_⟩
        rintro rfl
        rw [hopen] at hclosed
        cases hclosed
      · intro symbol
        have hget := Table.get?_eq_some_iff.mpr ⟨hmem, rfl⟩
        -- The sum over all orders moves by the term of this one.
        have hsingle := Table.sum_reweigh (fun _ : OrderRow ι => (0 : ℤ))
          (fun other => other.direction symbol *
            ((Function.update book.filled row.clientOrderId (book.filled row.clientOrderId + shares)
              other.clientOrderId : ℤ) - book.filled other.clientOrderId)) hget
          (fun other _ hne => by rw [hother other.clientOrderId hne, sub_self, mul_zero])
        have hzero : repo.orders.sum (fun _ : OrderRow ι => (0 : ℤ)) = 0 := by simp [Table.sum]
        rw [hzero, zero_add, add_zero, Function.update_self] at hsingle
        rw [hheld symbol, Repository.moved, hsingle]
        push_cast
        ring
  | close row hmem hcore =>
      -- Closing an order moves no share.
      refine ⟨rfl, fun _ => le_rfl, fun _ _ h => h, ?_, ?_, ?_⟩
      · intro clientOrderId hclosed
        refine ⟨?_, rfl⟩
        by_cases hsame : clientOrderId = row.clientOrderId
        · subst hsame
          exact Function.update_self ..
        · exact (Function.update_of_ne hsame ..).trans hclosed
      · intro other hother hdirect
        refine Function.update_of_ne ?_ ..
        intro hsame
        obtain rfl : other = row := Table.eq_of_key_eq hother hmem hsame
        rw [hcore] at hdirect
        cases hdirect
      · exact (refl book).held

end BrokerBook.Later

/-- The later of two instants has the later book. -/
theorem BrokerHistory.later {repo : Repository ι} (history : BrokerHistory repo) {s t : ℕ}
    (hle : s ≤ t) : BrokerBook.Later repo (history.book s) (history.book t) := by
  induction t, hle using Nat.le_induction with
  | base => exact .refl _
  | succ t _ ih =>
      rcases history.step t with hsame | hstep
      · rw [hsame]
        exact ih
      · exact ih.trans (.of_step hstep)

/-! ## The reads of one run -/

/-- The answer of `get_order` shows the order as the book has it. -/
structure BrokerOrder.Shows (order : BrokerOrder ι) (book : BrokerBook ι) (clientOrderId : ι)
    (brokerOrderId : BrokerOrderId) : Prop where
  orderId : order.json.orderId = .value brokerOrderId
  filled : order.filledQuantity = book.filled clientOrderId
  terminal : ∀ status, order.status.upper? = some status → status.isTerminal = true →
    book.isOpen clientOrderId = false

end JdHoldings
