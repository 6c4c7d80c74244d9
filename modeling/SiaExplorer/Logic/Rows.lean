import SiaExplorer.Logic.Follows

/-!
# What the Store can hold, whatever fails

A write that fails changes no table, and a read changes none; so a property of the tables that
every statement a run issues keeps holds of the committed tables and of the open transaction
after the run, whatever each call returned.

* `SQLiteStore.Holds Q s`: `Q` holds of the committed tables and of the open transaction's;
  `beginTx`, the writes, the reads and `Commit` keep it (`Holds.execStatements`,
  `Holds.queryRow`, `Holds.query`, `Holds.Commit`);
* `Event.Issues`: the statements a call may issue, and `Explorer.run_holds`: a property every
  one of them keeps holds after any run, whatever each call returned;
* `RowsFrom S t`: every row of `t` was inserted by a statement `S` admits; a statement `S`
  admits keeps it (`RowsFrom.apply`), so after a run every row is one its calls delivered;
* the rows a call may insert (`Event.Issues.insertElement`, `Event.Issues.insertState`,
  `Event.Issues.insertTransaction`): an `elements` row is keyed by its element's own ID and type,
  a `states` row is an applied block's index and state.
-/

namespace SiaExplorer

/-! ## A table property over the committed and the pending tables -/

namespace SQLiteStore

/-- `Q` holds of the committed tables and of the open transaction's. -/
def Holds (Q : Tables → Prop) (s : SQLiteStore) : Prop :=
  Q s.db.tables ∧ ∀ db ∈ s.tx, Q db.tables

variable {Q : Tables → Prop} {s : SQLiteStore}

theorem Holds.of_committed (htx : s.tx = none) (h : Q s.db.tables) : s.Holds Q :=
  ⟨h, by simp [htx]⟩

theorem Holds.view (h : s.Holds Q) : Q s.view.tables := by
  cases htx : s.tx with
  | none => simpa [SQLiteStore.view, htx] using h.1
  | some db => simpa [SQLiteStore.view, htx] using h.2 db htx

theorem Holds.beginTx (h : s.Holds Q) : s.beginTx.Holds Q := by
  refine ⟨by simpa using h.1, fun db hdb => ?_⟩
  rw [beginTx_tx, Option.mem_some_iff] at hdb
  exact hdb ▸ h.view

/-- A write keeps `Q` when its statement does: it either applies the statement to the view or
changes no table. -/
theorem Holds.execStatement (h : s.Holds Q) {st : Statement}
    (hst : ∀ t, Q t → Q (st.apply t)) (f : DbFaults) : (s.execStatement f st).Holds Q := by
  have hb := h.beginTx
  rw [execStatement_eq]
  split
  · exact hb
  · split
    · rename_i db hex
      refine ⟨hb.1, fun db' hdb' => ?_⟩
      obtain rfl := Option.mem_some_iff.1 hdb'
      rw [Statement.exec_eq_ok hex]
      exact hst _ h.view
    · exact ⟨hb.1, hb.2⟩

theorem Holds.execStatements (h : s.Holds Q) {sts : List Statement}
    (hsts : ∀ st ∈ sts, ∀ t, Q t → Q (st.apply t)) (f : DbFaults) :
    (s.execStatements f sts).Holds Q := by
  induction sts generalizing s with
  | nil => exact h
  | cons st sts ih =>
    exact ih (h.execStatement (hsts st (List.mem_cons_self _ _)) f)
      fun st' hst' => hsts st' (List.mem_cons_of_mem _ hst')

/-- A `QueryRow` changes no table, whatever it finds. -/
theorem Holds.queryRow {β α : Type} (h : s.Holds Q) (row : Tables → Option β)
    (decode : β → Except GoError α) : (s.queryRow row decode).1.Holds Q := by
  have hb := h.beginTx
  simp only [SQLiteStore.queryRow]
  split
  · exact hb
  · split
    · exact ⟨hb.1, hb.2⟩
    · split <;> exact ⟨hb.1, hb.2⟩

theorem Holds.query {α : Type} (h : s.Holds Q) (rows : Tables → List α) :
    (s.query rows).1.Holds Q := by
  simp only [SQLiteStore.query]
  split <;> exact h.beginTx

/-- `Commit` publishes the open transaction or discards it. -/
theorem Holds.Commit (h : s.Holds Q) {f : DbFaults} {s' : SQLiteStore} {err : Option GoError}
    (hc : s.Commit f = .ok (s', err)) : s'.Holds Q := by
  have hnone : ∀ db ∈ (none : Option Database), Q db.tables := fun _ hdb => nomatch hdb
  cases htx : s.tx with
  | none => cases herr : s.txErr <;> simp only [SQLiteStore.Commit, htx, herr] at hc <;> cases hc
  | some db =>
    cases herr : s.txErr <;> simp only [SQLiteStore.Commit, htx, herr] at hc
    · split at hc <;> cases hc
      · exact ⟨h.1, hnone⟩
      · exact ⟨h.2 db htx, hnone⟩
    · cases hc; exact ⟨h.1, hnone⟩

end SQLiteStore

/-! ## Over the explorer's runs -/

/-- The statements a call may issue: an apply's, whatever `chainstats` row it writes, or a
revert's. -/
def Event.Issues : Event → Statement → Prop
  | .apply cau _, st => ∃ stats, st ∈ cau.statements stats
  | .revert cru, st => st ∈ cru.statements

section Runs

variable {Q : Tables → Prop}

/-- A call keeps `Q` of the Store when every statement it may issue keeps `Q`, whatever it
returns. -/
theorem Explorer.process_holds {e e' : Explorer} {f : Faults} {ev : Event} {err : Option GoError}
    (h : e.db.Holds Q) (hk : ∀ st, ev.Issues st → ∀ t, Q t → Q (st.apply t))
    (he : e.process f ev = .ok (e', err)) : e'.db.Holds Q := by
  cases ev with
  | apply cau m =>
    obtain ⟨stats, hs, -, -, hc⟩ := ProcessChainApplyUpdate_eq_ok.1 he
    have hw := h.execStatements (fun st hst => hk st ⟨stats, hst⟩) f.db
    cases m with
    | false =>
      obtain ⟨rfl, -⟩ := Prod.mk.inj (Except.ok.inj hc).symm
      dsimp only; exact hw
    | true =>
      rcases Explorer.commitApply_true_cases hc with ⟨_, -, hr⟩ | ⟨db, err, hdb, hr⟩ <;>
        obtain ⟨rfl, -⟩ := Prod.mk.inj hr
      · dsimp only; exact hw
      · dsimp only at hdb ⊢; exact hw.Commit hdb
  | revert cru =>
    obtain ⟨hs, -, hr⟩ := ProcessChainRevertUpdate_eq_ok.1 he
    have hq := (h.execStatements hk f.db).queryRow
      (fun t => (t.chainstats.find? (·.1 == cru.State.Index.String)).map (·.2)) Except.ok
    rcases Explorer.reloadTip_cases hr with ⟨_, -, hr⟩ | ⟨stats, db, err, -, hc, hr⟩ <;>
      obtain ⟨rfl, -⟩ := Prod.mk.inj hr
    · dsimp only; exact hq
    · dsimp only at hc ⊢; exact hq.Commit hc

/-- **A run keeps what its statements keep.** A property of the tables that every statement the
run's calls may issue keeps holds of the committed and the pending tables after the run, whatever
each call returned. -/
theorem Explorer.run_holds {evfs : List (Event × Faults)} {e e' : Explorer}
    {errs : List (Option GoError)} (h : e.db.Holds Q)
    (hk : ∀ ev ∈ evfs.map (·.1), ∀ st, ev.Issues st → ∀ t, Q t → Q (st.apply t))
    (he : e.run evfs = .ok (e', errs)) : e'.db.Holds Q := by
  induction evfs generalizing e errs with
  | nil => cases he; exact h
  | cons evf rest ih =>
    obtain ⟨e₁, err, e₂, errs', hp, hq, hr⟩ := Explorer.run_cons_eq_ok.1 he
    cases hr
    exact ih (Explorer.process_holds h (hk _ (List.mem_cons_self _ _)) hp)
      (fun ev hev => hk ev (List.mem_cons_of_mem _ hev)) hq

end Runs

/-! ## Every row was delivered -/

/-- Every row of `t` is one that a statement `S` admits inserted. -/
structure RowsFrom (S : Statement → Prop) (t : Tables) : Prop where
  elements : ∀ r ∈ t.elements, S (.insertElement r.1 r.2.1 r.2.2)
  states : ∀ r ∈ t.states, S (.insertState r.1 r.2)
  chainstats : ∀ r ∈ t.chainstats, S (.insertChainStats r.1 r.2)
  unspentElements : ∀ r ∈ t.unspentElements, S (.insertUnspentElement r.2.2 r.2.1 r.1)
  transactions : ∀ r ∈ t.transactions, S (.insertTransaction r.1 r.2)
  addressTransactions : ∀ r ∈ t.addressTransactions, S (.insertAddressTransaction r.2 r.1)

namespace RowsFrom

variable {S : Statement → Prop}

theorem empty : RowsFrom S {} := ⟨nofun, nofun, nofun, nofun, nofun, nofun⟩

/-- A statement `S` admits keeps `RowsFrom S`: an insert adds its own row, a delete keeps a
part of the rows. -/
theorem apply {t : Tables} (h : RowsFrom S t) {st : Statement} (hst : S st) :
    RowsFrom S (st.apply t) := by
  have hadd {ρ : Type} {rows : List ρ} {P : ρ → Prop} (hrows : ∀ r ∈ rows, P r) {row : ρ}
      (hrow : P row) : ∀ r ∈ rows ++ [row], P r :=
    List.forall_mem_append.2 ⟨hrows, List.forall_mem_singleton.2 hrow⟩
  have hdel {ρ : Type} {rows : List ρ} {P : ρ → Prop} (hrows : ∀ r ∈ rows, P r) {p : ρ → Bool} :
      ∀ r ∈ rows.filter p, P r := fun r hr => hrows r (List.mem_of_mem_filter hr)
  cases st with
  | insertElement => exact { h with elements := hadd h.elements hst }
  | deleteElement => exact { h with elements := hdel h.elements }
  | insertChainStats => exact { h with chainstats := hadd h.chainstats hst }
  | insertUnspentElement => exact { h with unspentElements := hadd h.unspentElements hst }
  | deleteUnspentElement => exact { h with unspentElements := hdel h.unspentElements }
  | insertTransaction => exact { h with transactions := hadd h.transactions hst }
  | insertAddressTransaction =>
    exact { h with addressTransactions := hadd h.addressTransactions hst }
  | insertState => exact { h with states := hadd h.states hst }

end RowsFrom

/-- The statements some call of `evs` may issue. -/
def issuedBy (evs : List Event) (st : Statement) : Prop := ∃ ev ∈ evs, ev.Issues st

/-- After any run from a Store whose rows its calls issued (an empty one, say), every row of the
committed and the pending tables was inserted by a statement one of its calls issued. -/
theorem Explorer.run_rowsFrom {evfs : List (Event × Faults)} {e e' : Explorer}
    {errs : List (Option GoError)} (h : e.db.Holds (RowsFrom (issuedBy (evfs.map (·.1)))))
    (he : e.run evfs = .ok (e', errs)) : e'.db.Holds (RowsFrom (issuedBy (evfs.map (·.1)))) :=
  Explorer.run_holds h (fun ev hev _ hst _ ht => ht.apply ⟨ev, hev, hst⟩) he

/-! ## What the handlers insert -/

/-- The `elements` rows a call may insert: each keyed by its element's own ID and filed under
its element's type. -/
theorem Event.Issues.insertElement {ev : Event} {id : ElementID} {type : ElementType}
    {data : Element} (h : ev.Issues (.insertElement id type data)) :
    data.ID = id ∧ data.type = type := by
  cases ev with
  | apply cau m =>
    obtain ⟨stats, h⟩ := h
    simp only [ApplyUpdate.statements, Transaction.statements, List.mem_append, List.mem_flatMap,
      List.mem_map, List.mem_cons, List.mem_singleton, List.not_mem_nil, reduceCtorEq,
      Statement.insertElement.injEq, and_false, exists_false, or_false, false_or, or_assoc] at h
    rcases h with ⟨_, -, rfl, rfl, rfl⟩ | ⟨_, -, rfl, rfl, rfl⟩ | ⟨_, -, rfl, rfl, rfl⟩ |
      ⟨_, -, rfl, rfl, rfl⟩ <;> exact ⟨rfl, rfl⟩
  | revert cru =>
    simp only [Event.Issues, RevertUpdate.statements, List.mem_append, List.mem_flatMap,
      List.mem_map, List.mem_cons, List.mem_singleton, List.not_mem_nil, reduceCtorEq,
      Statement.insertElement.injEq, and_false, exists_false, or_false, false_or, or_assoc] at h
    rcases h with ⟨_, -, rfl, rfl, rfl⟩ | ⟨_, -, rfl, rfl, rfl⟩ | ⟨_, -, rfl, rfl, rfl⟩ |
      ⟨_, -, rfl, rfl, rfl⟩ <;> exact ⟨rfl, rfl⟩

/-- The `states` rows a call may insert: an apply's block index and state. -/
theorem Event.Issues.insertState {ev : Event} {index : ChainIndex} {context : State}
    (h : ev.Issues (.insertState index context)) :
    ∃ cau m, ev = .apply cau m ∧ index = cau.Block.Header.Index ∧ context = cau.State := by
  cases ev with
  | apply cau m =>
    obtain ⟨stats, h⟩ := h
    simp only [ApplyUpdate.statements, Transaction.statements, List.mem_append, List.mem_flatMap,
      List.mem_map, List.mem_cons, List.mem_singleton, List.not_mem_nil, reduceCtorEq,
      Statement.insertState.injEq, and_false, exists_false, or_false, false_or] at h
    exact ⟨cau, m, rfl, h⟩
  | revert cru =>
    simp only [Event.Issues, RevertUpdate.statements, List.mem_append, List.mem_flatMap,
      List.mem_map, List.mem_cons, List.mem_singleton, List.not_mem_nil, reduceCtorEq, and_false,
      exists_false, or_false] at h

/-- The `transactions` rows a call may insert: an applied block's transactions, under their
IDs. -/
theorem Event.Issues.insertTransaction {ev : Event} {id : TransactionID} {txn : Transaction}
    (h : ev.Issues (.insertTransaction id txn)) :
    ∃ cau m, ev = .apply cau m ∧ txn ∈ cau.Block.Transactions ∧ id = txn.ID := by
  cases ev with
  | apply cau m =>
    obtain ⟨stats, h⟩ := h
    simp only [ApplyUpdate.statements, Transaction.statements, List.mem_append, List.mem_flatMap,
      List.mem_map, List.mem_cons, List.mem_singleton, List.not_mem_nil, reduceCtorEq,
      Statement.insertTransaction.injEq, and_false, exists_false, or_false, false_or] at h
    obtain ⟨_, htxn, rfl, rfl⟩ := h
    exact ⟨cau, m, rfl, htxn, rfl⟩
  | revert cru =>
    simp only [Event.Issues, RevertUpdate.statements, List.mem_append, List.mem_flatMap,
      List.mem_map, List.mem_cons, List.mem_singleton, List.not_mem_nil, reduceCtorEq, and_false,
      exists_false, or_false] at h

end SiaExplorer
