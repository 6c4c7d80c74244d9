import SiaExplorer.Logic.Explorer

/-!
# The tables a batch of statements produces

The statement lists of the update handlers are runs of a few shapes, one per loop of the
source. Each shape has one equation for `applyAll`:

* `applyAll_deleteWithUnspent`, `applyAll_deleteElements`: the delete loops;
* `applyAll_insertWithUnspent`, `applyAll_insertElements`: the insert loops;
* `applyAll_transactions`: the `AddTransaction` loop.
-/

namespace SiaExplorer

theorem applyAll_nil (t : Tables) : applyAll [] t = t := rfl

theorem applyAll_append (sts sts' : List Statement) (t : Tables) :
    applyAll (sts ++ sts') t = applyAll sts' (applyAll sts t) :=
  List.foldl_append _ _ _ _

theorem applyAll_cons (st : Statement) (sts : List Statement) (t : Tables) :
    applyAll (st :: sts) t = applyAll sts (st.apply t) := rfl

section Phases

variable {α : Type} (xs : List α) (id : α → ElementID) (ty : ElementType)

/-- Deleting elements and their unspent rows: the loops over spent coins and funds (apply) and
over new coins and funds (revert). -/
theorem applyAll_deleteWithUnspent (addr : α → Address) (t : Tables) :
    applyAll (xs.flatMap fun e => [.deleteElement (id e), .deleteUnspentElement (addr e) (id e) ty])
      t =
      { t with
        elements := t.elements.filter (fun r => r.1 ∉ xs.map id)
        unspentElements :=
          t.unspentElements.filter (fun r => r ∉ xs.map fun e => (id e, ty, addr e)) } := by
  induction xs generalizing t with
  | nil => simp [applyAll_nil]
  | cons x xs ih =>
    rw [List.flatMap_cons, applyAll_append, ih]
    simp only [applyAll, List.foldl_cons, List.foldl_nil, Statement.apply, List.filter_filter,
      List.map_cons, List.mem_cons, not_or]
    congr 2 <;> funext r <;> rw [Bool.eq_iff_iff] <;> simp [and_comm]

/-- Deleting elements alone: the loops over resolved contracts (apply) and over revised and new
contracts (revert). -/
theorem applyAll_deleteElements (t : Tables) :
    applyAll (xs.map fun e => .deleteElement (id e)) t =
      { t with elements := t.elements.filter (fun r => r.1 ∉ xs.map id) } := by
  induction xs generalizing t with
  | nil => simp [applyAll_nil]
  | cons x xs ih =>
    rw [List.map_cons, applyAll_cons, ih]
    simp only [Statement.apply, List.filter_filter, List.map_cons, List.mem_cons, not_or]
    congr 2; funext r; rw [Bool.eq_iff_iff]; simp [and_comm]

/-- Inserting elements and their unspent rows: the loops over new coins and funds (apply) and
over spent coins and funds (revert). -/
theorem applyAll_insertWithUnspent (elem : α → Element) (addr : α → Address) (t : Tables) :
    applyAll (xs.flatMap fun e =>
        [.insertElement (id e) ty (elem e), .insertUnspentElement (addr e) ty (id e)]) t =
      { t with
        elements := t.elements ++ xs.map fun e => (id e, ty, elem e)
        unspentElements := t.unspentElements ++ xs.map fun e => (id e, ty, addr e) } := by
  induction xs generalizing t with
  | nil => simp [applyAll_nil]
  | cons x xs ih =>
    rw [List.flatMap_cons, applyAll_append, ih]
    simp [applyAll, Statement.apply]

/-- Inserting elements alone: the loops over revised and new contracts (apply) and over resolved
contracts and revision parents (revert). -/
theorem applyAll_insertElements (elem : α → Element) (t : Tables) :
    applyAll (xs.map fun e => .insertElement (id e) ty (elem e)) t =
      { t with elements := t.elements ++ xs.map fun e => (id e, ty, elem e) } := by
  induction xs generalizing t with
  | nil => simp [applyAll_nil]
  | cons x xs ih =>
    rw [List.map_cons, applyAll_cons, ih]
    simp [Statement.apply]

end Phases

/-- The `AddTransaction` loop: one `transactions` row per transaction, one `addressTransactions`
row per transaction and address. -/
theorem applyAll_transactions (txns : List Transaction) (t : Tables) :
    applyAll (txns.flatMap Transaction.statements) t =
      { t with
        transactions := t.transactions ++ txns.map fun txn => (txn.ID, txn)
        addressTransactions := t.addressTransactions ++
          txns.flatMap fun txn => (txnAddresses txn).map (txn.ID, ·) } := by
  induction txns generalizing t with
  | nil => simp [applyAll_nil]
  | cons txn txns ih =>
    rw [List.flatMap_cons, applyAll_append, ih]
    have hrows : ∀ (as : List Address) (t : Tables),
        applyAll (as.map (.insertAddressTransaction · txn.ID)) t =
          { t with addressTransactions := t.addressTransactions ++ as.map (txn.ID, ·) } := by
      intro as
      induction as with
      | nil => intro t; simp [applyAll_nil]
      | cons a as ih' => intro t; rw [List.map_cons, applyAll_cons, ih']; simp [Statement.apply]
    simp [Transaction.statements, applyAll_cons, hrows, Statement.apply]

end SiaExplorer
