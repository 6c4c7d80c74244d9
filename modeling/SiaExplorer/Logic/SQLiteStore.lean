import SiaExplorer.Model.SQLiteStore

/-!
# What the SQLite store's operations do

* a batch of writes issued while no error is latched runs its statements in order until one
  fails (`execAll`), leaving the tables reached and that error in `txErr`;
* once `txErr` is set on an open transaction, writes do nothing;
* a statement run without a failure applies its table effect, so a successful batch is the
  fold of `Statement.apply`;
* `Commit` publishes the open transaction exactly when `txErr` is clear and the commit itself
  succeeds, and otherwise discards it.
-/

namespace SiaExplorer

/-- Statements run in order on `db` until one fails: the tables reached and the error. -/
def execAll (f : DbFaults) : List Statement → Database → Database × Option GoError
  | [], db => (db, none)
  | st :: sts, db =>
    match st.exec (f.exec st) db with
    | .ok db => execAll f sts db
    | .error err => (db, some err)

/-- The tables after `sts` run without a failure. -/
def applyAll (sts : List Statement) (t : Tables) : Tables :=
  sts.foldl (fun t st => st.apply t) t

theorem Statement.exec_eq_ok {st : Statement} {fails : Bool} {db db' : Database}
    (h : st.exec fails db = .ok db') : db'.tables = st.apply db.tables := by
  unfold Statement.exec at h
  split at h
  · cases h
  · split at h
    · cases h
    · cases h; rfl

/-- A batch that ends without an error applied every statement. -/
theorem execAll_tables {f : DbFaults} {sts : List Statement} {db : Database}
    (h : (execAll f sts db).2 = none) : (execAll f sts db).1.tables = applyAll sts db.tables := by
  induction sts generalizing db with
  | nil => rfl
  | cons st sts ih =>
    cases hst : st.exec (f.exec st) db with
    | error err => simp [execAll, hst] at h
    | ok db' =>
      simp only [execAll, hst] at h ⊢
      rw [ih h]
      simp only [applyAll, List.foldl_cons, Statement.exec_eq_ok hst]

theorem execAll_append (f : DbFaults) (sts sts' : List Statement) (db : Database) :
    execAll f (sts ++ sts') db =
      match execAll f sts db with
      | (db, none) => execAll f sts' db
      | r => r := by
  induction sts generalizing db with
  | nil => rfl
  | cons st sts ih =>
    simp only [List.cons_append, execAll]
    split <;> simp_all

namespace SQLiteStore

/-- The writes of a batch, issued in order. -/
def execStatements (s : SQLiteStore) (f : DbFaults) (sts : List Statement) : SQLiteStore :=
  sts.foldl (fun s st => s.execStatement f st) s

@[simp] theorem execStatements_nil (s : SQLiteStore) (f : DbFaults) : s.execStatements f [] = s :=
  rfl

@[simp] theorem execStatements_cons (s : SQLiteStore) (f : DbFaults) (st : Statement)
    (sts : List Statement) :
    s.execStatements f (st :: sts) = (s.execStatement f st).execStatements f sts := rfl

@[simp] theorem execStatements_append (s : SQLiteStore) (f : DbFaults) (sts sts' : List Statement) :
    s.execStatements f (sts ++ sts') = (s.execStatements f sts).execStatements f sts' :=
  List.foldl_append _ _ _ _

theorem execStatements_flatMap {α : Type} (s : SQLiteStore) (f : DbFaults) (xs : List α)
    (g : α → List Statement) :
    s.execStatements f (xs.flatMap g) = xs.foldl (fun s x => s.execStatements f (g x)) s := by
  induction xs generalizing s with
  | nil => rfl
  | cons x xs ih => simp [List.flatMap_cons, ih]

theorem execStatements_map {α : Type} (s : SQLiteStore) (f : DbFaults) (xs : List α)
    (g : α → Statement) :
    s.execStatements f (xs.map g) = xs.foldl (fun s x => s.execStatement f (g x)) s :=
  List.foldl_map _ _ _ _

/-- No error is latched for the next operation: either none is set, or no transaction is open
and `beginTx` will clear it. -/
def Clean (s : SQLiteStore) : Prop := s.tx = none ∨ s.txErr = none

/-- A latched error on an open transaction: every later write is dropped. -/
def Poisoned (s : SQLiteStore) : Prop := s.tx.isSome ∧ s.txErr.isSome

theorem beginTx_of_isSome {s : SQLiteStore} (h : s.tx.isSome) : s.beginTx = s := by
  cases htx : s.tx <;> simp_all [beginTx]

@[simp] theorem beginTx_beginTx (s : SQLiteStore) : s.beginTx.beginTx = s.beginTx := by
  cases htx : s.tx <;> simp [beginTx, htx]

@[simp] theorem beginTx_db (s : SQLiteStore) : s.beginTx.db = s.db := by
  cases htx : s.tx <;> simp [beginTx, htx]

theorem beginTx_tx (s : SQLiteStore) : s.beginTx.tx = some s.view := by
  cases htx : s.tx <;> simp [beginTx, view, htx]

theorem beginTx_txErr {s : SQLiteStore} (h : s.Clean) : s.beginTx.txErr = none := by
  cases htx : s.tx <;> simp_all [beginTx, Clean]

@[simp] theorem beginTx_view (s : SQLiteStore) : s.beginTx.view = s.view := by
  simp [view, beginTx_tx]

/-- `execStatement`, with its `beginTx` named. -/
theorem execStatement_eq (s : SQLiteStore) (f : DbFaults) (st : Statement) :
    s.execStatement f st =
      match s.beginTx.txErr with
      | some _ => s.beginTx
      | none =>
        match st.exec (f.exec st) s.view with
        | .ok db => { s.beginTx with tx := some db }
        | .error err => { s.beginTx with txErr := some err } := by
  rw [← beginTx_view]
  rfl

theorem execStatement_tx (s : SQLiteStore) (f : DbFaults) (st : Statement) :
    (s.execStatement f st).tx.isSome := by
  rw [execStatement_eq]
  split
  · simp [beginTx_tx]
  · split <;> simp [beginTx_tx]

theorem execStatement_poisoned {s : SQLiteStore} (h : s.Poisoned) (f : DbFaults)
    (st : Statement) : s.execStatement f st = s := by
  obtain ⟨htx, herr⟩ := h
  obtain ⟨err, herr⟩ := Option.isSome_iff_exists.1 herr
  rw [execStatement_eq, beginTx_of_isSome htx, herr]

theorem execStatements_poisoned {s : SQLiteStore} (h : s.Poisoned) (f : DbFaults)
    (sts : List Statement) : s.execStatements f sts = s := by
  induction sts with
  | nil => rfl
  | cons st sts ih => simpa [execStatements, execStatement_poisoned h] using ih

/-- A batch of writes from a clean store: the transaction holds the tables `execAll` reaches and
`txErr` its error. -/
theorem execStatements_clean {s : SQLiteStore} (h : s.Clean) (f : DbFaults) {sts : List Statement}
    (hne : sts ≠ []) :
    s.execStatements f sts =
      { s.beginTx with
        tx := some (execAll f sts s.view).1, txErr := (execAll f sts s.view).2 } := by
  induction sts generalizing s with
  | nil => exact absurd rfl hne
  | cons st sts ih =>
    have hb := beginTx_txErr h
    simp only [execStatements, List.foldl_cons, execAll] at ih ⊢
    rw [execStatement_eq, hb]
    cases hex : st.exec (f.exec st) s.view with
    | ok db =>
      cases sts with
      | nil => simp [execAll, hb]
      | cons st' sts =>
        simp only
        rw [ih (s := { s.beginTx with tx := some db }) (Or.inr hb) (List.cons_ne_nil _ _)]
        simp [beginTx_of_isSome (s := { s.beginTx with tx := some db }) rfl, view]
    | error err =>
      have hp : Poisoned { s.beginTx with txErr := some err } := by simp [Poisoned, beginTx_tx]
      have := execStatements_poisoned hp f sts
      simp only [execStatements] at this
      simpa [beginTx_tx] using this

/-- `Commit` returns `nil` exactly when it publishes an open, clean transaction. -/
theorem Commit_eq_ok_none {s s' : SQLiteStore} {f : DbFaults}
    (h : s.Commit f = .ok (s', none)) :
    ∃ db, s.tx = some db ∧ s.txErr = none ∧ f.commit = false ∧ s' = { s with db, tx := none } := by
  rcases s with ⟨db0, _ | db, _ | err⟩ <;> cases hc : f.commit <;> simp [Commit, hc] at h
  all_goals cases h
  exact ⟨db, rfl, rfl, rfl, rfl⟩

/-- A `Commit` that returns an error leaves the committed tables as they were. -/
theorem Commit_db_of_error {s s' : SQLiteStore} {f : DbFaults} {err : GoError}
    (h : s.Commit f = .ok (s', some err)) : s'.db = s.db ∧ s'.tx = none := by
  rcases s with ⟨db0, _ | db, _ | err⟩ <;> cases hc : f.commit <;> simp [Commit, hc] at h
  all_goals cases h
  all_goals exact ⟨rfl, rfl⟩

end SQLiteStore

end SiaExplorer
