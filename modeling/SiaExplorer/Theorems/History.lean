import SiaExplorer.Theorems.Stats

/-!
# The transaction history

`ProcessChainRevertUpdate` never deletes `transactions` or `addressTransactions` rows. After a
run of valid calls all returning `nil` whose last call commits, `Transactions(a, n, 0)` lists
the transactions involving `a` of every block applied so far, reverted ones included, in the
order they were applied and each once, and `Transaction(id)` finds exactly those
(`committed_history_kept`). A reverted block's transaction is still found
(`reverted_transaction_found`).
-/

namespace SiaExplorer

/-- The transactions of every block applied so far, reverted ones included, in order. -/
def appliedTransactions (g : Ledger) : List Transaction :=
  g.applied.flatMap (·.Block.Transactions)

/-- A `QueryRow` with no transaction open reads the committed tables. -/
theorem SQLiteStore.queryRow_committed {β : Type} {s : SQLiteStore} (htx : s.tx = none)
    (row : Tables → Option β) :
    (s.queryRow row Except.ok).2 = match row s.db.tables with
      | some data => .ok data
      | none => .error .noRows := by
  simp only [queryRow, beginTx, htx, view, Option.getD_some]
  split <;> rename_i h <;> simp [h]

/-- The `addressTransactions` rows of one transaction name it once for each address it
involves. -/
theorem addressRows_txn (txn : Transaction) (address : Address) :
    (((txnAddresses txn).map (txn.ID, ·)).filter (·.2 == address)).map (·.1) =
      if address ∈ txnAddresses txn then [txn.ID] else [] := by
  have hnd : (txnAddresses txn).Nodup := List.nodup_dedup _
  rw [List.filter_map, List.map_map]
  have hfilter : (txnAddresses txn).filter
      ((fun r : TransactionID × Address => r.2 == address) ∘ fun a => (txn.ID, a)) =
        (txnAddresses txn).filter (· == address) := rfl
  rw [hfilter, List.filter_beq, List.count_eq_of_nodup hnd]
  split <;> simp

theorem addressRows (txns : List Transaction) (address : Address) :
    ((txns.flatMap fun txn => (txnAddresses txn).map (txn.ID, ·)).filter (·.2 == address)).map
        (·.1) = (txns.filter (address ∈ txnAddresses ·)).map (·.ID) := by
  induction txns with
  | nil => rfl
  | cons txn txns ih =>
    rw [List.flatMap_cons, List.filter_append, List.map_append, ih, addressRows_txn,
      List.filter_cons]
    split <;> simp_all

/-- What the committed Store keeps of the transactions of the ledger `g`. -/
structure HistoryKept (g : Ledger) (s : SQLiteStore) : Prop where
  /-- `Transactions(a, n, 0)`, with `n` covering every row, lists the transactions involving
  `a` in the order they were applied -/
  transactions : ∀ address (amount : Int),
    (((appliedTransactions g).filter (address ∈ txnAddresses ·)).length : Int) ≤ amount →
      (s.Transactions address amount 0).2 =
        .ok (((appliedTransactions g).filter (address ∈ txnAddresses ·)).map (·.ID))
  /-- no transaction is listed twice -/
  nodup : ((appliedTransactions g).map (·.ID)).Nodup
  /-- `Transaction(id)` finds exactly the transactions applied so far -/
  transaction : ∀ id, (∃ txn, (s.Transaction id).2 = .ok txn) ↔
    id ∈ (appliedTransactions g).map (·.ID)

/-- **The history keeps every applied transaction.** After a run of valid calls from genesis
that all return `nil` and whose last call commits, the committed Store keeps the transactions of
every block applied so far, reverted ones included (`HistoryKept`). -/
theorem committed_history_kept {cs : State} {hs : HashStore} {evfs : List (Event × Faults)}
    {g : Ledger} {e : Explorer} {errs : List (Option GoError)}
    (hrun : Ledger.Run {} (evfs.map (·.1)) g)
    (he : (NewExplorer cs NewEphemeralStore hs).run evfs = .ok (e, errs))
    (hnil : ∀ err ∈ errs, err = none) (hlast : ∀ last ∈ evfs.getLast?, last.1.commits = true) :
    HistoryKept g e.db := by
  obtain ⟨-, htx, ha⟩ := Follows.committed hrun he hnil hlast
  have hkeys : e.db.db.tables.transactions.map (·.1) = (appliedTransactions g).map (·.ID) := by
    rw [ha.transactions, appliedTransactions, List.map_flatMap]
  refine ⟨fun address amount hamount => ?_, hkeys ▸ e.db.db.keysUnique.transactions,
    fun id => ?_⟩
  · -- the rows of `address`, in order, and all of them
    simp only [SQLiteStore.Transactions, SQLiteStore.query, SQLiteStore.beginTx, htx,
      SQLiteStore.view, Option.getD_some, ha.addressTransactions, SQLiteStore.limitOffset]
    rw [← List.flatMap_assoc, addressRows]
    split
    · rfl
    · rw [show Int.toNat 0 = 0 from rfl, List.drop_zero,
        List.take_of_length_le (by simp [appliedTransactions] at hamount ⊢; omega)]
      rfl
  · -- the row of `id` is found exactly when `id` is a key
    rw [SQLiteStore.Transaction, SQLiteStore.queryRow_committed htx, ← hkeys]
    constructor
    · rintro ⟨txn, htxn⟩
      split at htxn
      · rename_i data hdata
        obtain ⟨r, hr, -⟩ := Option.map_eq_some'.1 hdata
        have := List.find?_some hr
        exact List.mem_map.2 ⟨r, List.mem_of_find?_eq_some hr, by simpa using this⟩
      · cases htxn
    · intro hid
      obtain ⟨r, hr, rfl⟩ := List.mem_map.1 hid
      refine ⟨r.2, ?_⟩
      rw [find?_key_of_mem e.db.db.keysUnique.transactions (show (r.1, r.2) ∈ _ from hr)]
      rfl

/-- A block at height `h` with one transaction, `id`, paying to address 1. -/
def txnBlock (h id : Nat) : ApplyUpdate :=
  { emptyBlock h with
    Block := { Header := ⟨h, ⟨h⟩⟩,
               Transactions := [{ ID := ⟨id⟩, SiacoinOutputs := [⟨⟨1⟩, ⟨1⟩⟩] }] } }

theorem committed_history_kept_txnBlock :
    ∃ e errs, (NewExplorer (txnBlock 0 5).State NewEphemeralStore emptyHashStore).run
        [(.apply (txnBlock 0 5) true, Faults.never)] = .ok (e, errs) ∧
      (∀ err ∈ errs, err = none) ∧ HistoryKept ⟨[txnBlock 0 5], [txnBlock 0 5]⟩ e.db :=
  ⟨_, _, rfl, by decide, @committed_history_kept (txnBlock 0 5).State emptyHashStore
    [(.apply (txnBlock 0 5) true, Faults.never)] _ _ _ (Ledger.replay_run rfl) rfl (by decide)
    (by decide)⟩

/-- Apply transaction 5's block, then transaction 6's, and revert the latter: every call returns
`nil` and the chain holds only transaction 5, yet `Transaction` finds transaction 6 and
`Transactions` lists both for address 1. -/
theorem reverted_transaction_found :
    Ledger.replay {} [.apply (txnBlock 0 5) true, .apply (txnBlock 1 6) true,
        .revert { emptyRevert 1 with Block := (txnBlock 1 6).Block }] =
      some ⟨[txnBlock 0 5], [txnBlock 0 5, txnBlock 1 6]⟩ ∧
    ∃ e, (NewExplorer (txnBlock 0 5).State NewEphemeralStore emptyHashStore).run
        [(.apply (txnBlock 0 5) true, Faults.never), (.apply (txnBlock 1 6) true, Faults.never),
          (.revert { emptyRevert 1 with Block := (txnBlock 1 6).Block }, Faults.never)] =
        .ok (e, [none, none, none]) ∧
      ((e.db.Transaction ⟨6⟩).2.map (·.ID)) = .ok ⟨6⟩ ∧
      (e.db.Transactions ⟨1⟩ 10 0).2 = .ok [⟨5⟩, ⟨6⟩] :=
  ⟨rfl, _, rfl, rfl, rfl⟩

end SiaExplorer
