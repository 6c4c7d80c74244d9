import SiaExplorer.Model.Types

/-!
# The SQLite store (`SQLiteStore`, `createTables`)

The six tables of `createTables`, each as its rows in insertion (rowid) order, and the
transaction discipline of `SQLiteStore`:

* every method runs `beginTx`, which opens a transaction on the committed tables when none is
  open and clears `txErr`;
* a write (`execStatement`) is dropped when `txErr` is set, and otherwise sets `txErr` when
  its statement fails (a primary-key conflict, or an I/O failure);
* `queryRow` also stores its outcome in `txErr`, so a row that is not found latches
  `sql.ErrNoRows`; multi-row reads (`query`) do not touch `txErr`;
* `Commit` rolls back and returns `txErr` when it is set, and otherwise commits; it leaves
  `txErr` as it was. With no open transaction it dereferences a nil `*sql.Tx`.

A `Database` carries the uniqueness of its primary keys: SQLite never holds two rows with the
same key, so every table a statement produces keeps it.
-/

namespace SiaExplorer

/-- The `type` column: `"siacoin"`, `"siafund"` or `"contract"`. -/
inductive ElementType where
  | siacoin
  | siafund
  | contract
  deriving DecidableEq, Repr

/-- The value stored in `elements.data`. -/
inductive Element where
  | siacoin (sce : SiacoinElement)
  | siafund (sfe : SiafundElement)
  | contract (fce : FileContractElement)
  deriving DecidableEq, Repr

/-- The element's ID. -/
def Element.ID : Element → ElementID
  | .siacoin e => e.ID
  | .siafund e => e.ID
  | .contract e => e.ID

/-- The `type` the store files the element under. -/
def Element.type : Element → ElementType
  | .siacoin _ => .siacoin
  | .siafund _ => .siafund
  | .contract _ => .contract

/-- The tables of `createTables`; a row of a table with a primary key is `(key, rest)`. -/
structure Tables where
  /-- `elements(id PRIMARY KEY, type, data)` -/
  elements : List (ElementID × ElementType × Element) := []
  /-- `states(id PRIMARY KEY, data)` -/
  states : List (ChainIndex × State) := []
  /-- `chainstats(id PRIMARY KEY, data)`, keyed by `index.String()` -/
  chainstats : List (String × ChainStats) := []
  /-- `unspentElements(id PRIMARY KEY, type, address)` -/
  unspentElements : List (ElementID × ElementType × Address) := []
  /-- `transactions(id PRIMARY KEY, data)` -/
  transactions : List (TransactionID × Transaction) := []
  /-- `addressTransactions(id, address)`, without a key -/
  addressTransactions : List (TransactionID × Address) := []
  deriving DecidableEq, Repr

/-- The primary keys of the five keyed tables are unique. -/
structure Tables.KeysUnique (t : Tables) : Prop where
  elements : (t.elements.map (·.1)).Nodup
  states : (t.states.map (·.1)).Nodup
  chainstats : (t.chainstats.map (·.1)).Nodup
  unspentElements : (t.unspentElements.map (·.1)).Nodup
  transactions : (t.transactions.map (·.1)).Nodup

/-- Whether a row keyed `key` is already in `rows`. -/
def hasKey {κ ρ : Type} [DecidableEq κ] (rows : List (κ × ρ)) (key : κ) : Bool :=
  rows.any (·.1 == key)

/-- The SQL statements of `SQLiteStore`, with their arguments. -/
inductive Statement where
  /-- `INSERT INTO elements(id, type, data) VALUES(?, ?, ?)` -/
  | insertElement (id : ElementID) (type : ElementType) (data : Element)
  /-- `DELETE FROM elements WHERE id=?` -/
  | deleteElement (id : ElementID)
  /-- `INSERT INTO chainstats(id, data) VALUES(?, ?)` -/
  | insertChainStats (id : String) (data : ChainStats)
  /-- `INSERT INTO unspentElements(address, type, id) VALUES(?, ?, ?)` -/
  | insertUnspentElement (address : Address) (type : ElementType) (id : ElementID)
  /-- `DELETE FROM unspentElements WHERE address=? AND id=? AND type=?` -/
  | deleteUnspentElement (address : Address) (id : ElementID) (type : ElementType)
  /-- `INSERT INTO transactions(id, data) VALUES(?, ?)` -/
  | insertTransaction (id : TransactionID) (data : Transaction)
  /-- `INSERT INTO addressTransactions(address, id) VALUES(?, ?)` -/
  | insertAddressTransaction (address : Address) (id : TransactionID)
  /-- `INSERT INTO states(id, data) VALUES(?, ?)` -/
  | insertState (id : ChainIndex) (data : State)
  deriving DecidableEq, Repr

namespace Statement

/-- The key column an `INSERT` would duplicate, if any. -/
def conflict : Statement → Tables → Option String
  | .insertElement id _ _, t => if hasKey t.elements id then some "elements.id" else none
  | .insertChainStats id _, t => if hasKey t.chainstats id then some "chainstats.id" else none
  | .insertUnspentElement _ _ id, t =>
    if hasKey t.unspentElements id then some "unspentElements.id" else none
  | .insertTransaction id _, t =>
    if hasKey t.transactions id then some "transactions.id" else none
  | .insertState id _, t => if hasKey t.states id then some "states.id" else none
  | _, _ => none

/-- What a statement that succeeds does to the tables. -/
def apply : Statement → Tables → Tables
  | .insertElement id type data, t => { t with elements := t.elements ++ [(id, type, data)] }
  | .deleteElement id, t => { t with elements := t.elements.filter (·.1 != id) }
  | .insertChainStats id data, t => { t with chainstats := t.chainstats ++ [(id, data)] }
  | .insertUnspentElement address type id, t =>
    { t with unspentElements := t.unspentElements ++ [(id, type, address)] }
  | .deleteUnspentElement address id type, t =>
    { t with unspentElements := t.unspentElements.filter (· != (id, type, address)) }
  | .insertTransaction id data, t => { t with transactions := t.transactions ++ [(id, data)] }
  | .insertAddressTransaction address id, t =>
    { t with addressTransactions := t.addressTransactions ++ [(id, address)] }
  | .insertState id data, t => { t with states := t.states ++ [(id, data)] }

theorem nodup_append_key {κ ρ : Type} [DecidableEq κ] {rows : List (κ × ρ)} {key : κ}
    (row : ρ) (hnd : (rows.map (·.1)).Nodup) (hnew : hasKey rows key = false) :
    ((rows ++ [(key, row)]).map (·.1)).Nodup := by
  simp only [hasKey, List.any_eq_false, beq_iff_eq] at hnew
  simp only [List.map_append, List.map_cons, List.map_nil, List.nodup_append]
  refine ⟨hnd, List.nodup_singleton _, fun a ha hb => ?_⟩
  obtain ⟨r, hr, rfl⟩ := List.mem_map.1 ha
  exact hnew r hr (List.mem_singleton.1 hb)

theorem nodup_filter_key {κ ρ : Type} {rows : List (κ × ρ)} (p : κ × ρ → Bool)
    (hnd : (rows.map (·.1)).Nodup) : ((rows.filter p).map (·.1)).Nodup :=
  (List.Nodup.sublist (List.Sublist.map _ (List.filter_sublist _)) hnd)

/-- A statement that does not conflict keeps the primary keys unique. -/
theorem apply_keysUnique (st : Statement) (t : Tables) (hk : t.KeysUnique)
    (hc : st.conflict t = none) : (st.apply t).KeysUnique := by
  cases st <;> simp only [conflict, ite_eq_right_iff, reduceCtorEq, imp_false,
    Bool.not_eq_true] at hc <;>
    exact { hk with
      elements := by first | exact nodup_append_key _ hk.elements hc
                           | exact nodup_filter_key _ hk.elements | exact hk.elements
      states := by first | exact nodup_append_key _ hk.states hc | exact hk.states
      chainstats := by first | exact nodup_append_key _ hk.chainstats hc | exact hk.chainstats
      unspentElements := by first | exact nodup_append_key _ hk.unspentElements hc
                                  | exact nodup_filter_key _ hk.unspentElements
                                  | exact hk.unspentElements
      transactions := by first | exact nodup_append_key _ hk.transactions hc
                               | exact hk.transactions }

end Statement

/-- The database's tables, with their primary keys unique. -/
structure Database where
  tables : Tables
  keysUnique : tables.KeysUnique

/-- The tables `createTables` makes in a new database. -/
def Database.empty : Database :=
  ⟨{}, ⟨List.nodup_nil, List.nodup_nil, List.nodup_nil, List.nodup_nil, List.nodup_nil⟩⟩

/-- Where the database driver fails during one call. -/
structure DbFaults where
  /-- statements whose `Prepare`, `Exec` or `Close` fails -/
  exec : Statement → Bool
  /-- the transaction's `Commit` fails -/
  commit : Bool

/-- A driver that never fails. -/
def DbFaults.never : DbFaults := ⟨fun _ => false, false⟩

/-- Running one statement in the open transaction. -/
def Statement.exec (st : Statement) (fails : Bool) (db : Database) :
    Except GoError Database :=
  if fails then .error .io
  else match h : st.conflict db.tables with
    | some column => .error (.constraint column)
    | none => .ok ⟨st.apply db.tables, st.apply_keysUnique db.tables db.keysUnique h⟩

/-- `SQLiteStore`: the committed database, the open transaction (`tx`, as the tables it sees)
and the latched error `txErr`. -/
structure SQLiteStore where
  db : Database
  tx : Option Database := none
  txErr : Option GoError := none

/-- `NewStore` on a database file: `createTables` accepts a pre-existing schema. -/
def NewStore (db : Database) : SQLiteStore := { db }

/-- `NewEphemeralStore`: a new in-memory database. -/
def NewEphemeralStore : SQLiteStore := NewStore Database.empty

namespace SQLiteStore

/-- The tables the store's methods see: the open transaction's, else the committed ones. -/
def view (s : SQLiteStore) : Database := s.tx.getD s.db

/-- `beginTx`: open a transaction when none is open, clearing `txErr`. -/
def beginTx (s : SQLiteStore) : SQLiteStore :=
  match s.tx with
  | some _ => s
  | none => { s with tx := some s.db, txErr := none }

/-- `execStatement`. -/
def execStatement (s : SQLiteStore) (f : DbFaults) (st : Statement) : SQLiteStore :=
  let s := s.beginTx
  match s.txErr with
  | some _ => s
  | none =>
    match st.exec (f.exec st) s.view with
    | .ok db => { s with tx := some db }
    | .error err => { s with txErr := some err }

/-- `queryRow`: the first row `row` finds, decoded; its outcome is stored in `txErr`. -/
def queryRow {β α : Type} (s : SQLiteStore) (row : Tables → Option β)
    (decode : β → Except GoError α) : SQLiteStore × Except GoError α :=
  let s := s.beginTx
  match s.txErr with
  | some err => (s, .error err)
  | none =>
    match row s.view.tables with
    | none => ({ s with txErr := some .noRows }, .error .noRows)
    | some data =>
      match decode data with
      | .ok a => (s, .ok a)
      | .error err => ({ s with txErr := some err }, .error err)

/-- `query`: all the rows `rows` selects; `txErr` is left alone. -/
def query {α : Type} (s : SQLiteStore) (rows : Tables → List α) :
    SQLiteStore × Except GoError (List α) :=
  let s := s.beginTx
  match s.txErr with
  | some err => (s, .error err)
  | none => (s, .ok (rows s.view.tables))

/-- `Commit`. -/
def Commit (s : SQLiteStore) (f : DbFaults) : Except Panic (SQLiteStore × Option GoError) :=
  match s.txErr, s.tx with
  | some err, some _ => pure ({ s with tx := none }, some err)
  | none, some db =>
    if f.commit then pure ({ s with tx := none }, some .io)
    else pure ({ s with db, tx := none }, none)
  | _, none => throw "invalid memory address or nil pointer dereference"

/-! ## Reads -/

/-- `SELECT data FROM elements WHERE id=? AND type=?` -/
def elementRow (id : ElementID) (type : ElementType) (t : Tables) : Option Element :=
  (t.elements.find? (fun r => r.1 == id && r.2.1 == type)).map (·.2.2)

/-- `SiacoinElement`. -/
def SiacoinElement (s : SQLiteStore) (id : ElementID) :
    SQLiteStore × Except GoError SiaExplorer.SiacoinElement :=
  s.queryRow (elementRow id .siacoin) fun
    | .siacoin sce => .ok sce
    | _ => .error .decode

/-- `SiafundElement`. -/
def SiafundElement (s : SQLiteStore) (id : ElementID) :
    SQLiteStore × Except GoError SiaExplorer.SiafundElement :=
  s.queryRow (elementRow id .siafund) fun
    | .siafund sfe => .ok sfe
    | _ => .error .decode

/-- `FileContractElement`. -/
def FileContractElement (s : SQLiteStore) (id : ElementID) :
    SQLiteStore × Except GoError SiaExplorer.FileContractElement :=
  s.queryRow (elementRow id .contract) fun
    | .contract fce => .ok fce
    | _ => .error .decode

/-- `ChainStats`: `SELECT data FROM chainstats WHERE id=?`, with `index.String()` -/
def ChainStats (s : SQLiteStore) (index : ChainIndex) :
    SQLiteStore × Except GoError SiaExplorer.ChainStats :=
  s.queryRow (fun t => (t.chainstats.find? (·.1 == index.String)).map (·.2)) .ok

/-- `Transaction`: `SELECT data FROM transactions WHERE id=?` -/
def Transaction (s : SQLiteStore) (id : TransactionID) :
    SQLiteStore × Except GoError SiaExplorer.Transaction :=
  s.queryRow (fun t => (t.transactions.find? (·.1 == id)).map (·.2)) .ok

/-- `State`: `SELECT data FROM states WHERE id=?` -/
def State (s : SQLiteStore) (index : ChainIndex) :
    SQLiteStore × Except GoError SiaExplorer.State :=
  s.queryRow (fun t => (t.states.find? (·.1 == index)).map (·.2)) .ok

/-- `SELECT id FROM unspentElements WHERE address=? AND type=?` -/
def unspentRows (address : Address) (type : ElementType) (t : Tables) : List ElementID :=
  (t.unspentElements.filter (fun r => r.2.2 == address && r.2.1 == type)).map (·.1)

/-- `UnspentSiacoinElements`. -/
def UnspentSiacoinElements (s : SQLiteStore) (address : Address) :
    SQLiteStore × Except GoError (List ElementID) :=
  s.query (unspentRows address .siacoin)

/-- `UnspentSiafundElements`. -/
def UnspentSiafundElements (s : SQLiteStore) (address : Address) :
    SQLiteStore × Except GoError (List ElementID) :=
  s.query (unspentRows address .siafund)

/-- SQLite's `LIMIT amount OFFSET offset`: a negative limit is no limit, a negative offset
is zero. -/
def limitOffset {α : Type} (rows : List α) (amount offset : Int) : List α :=
  let rows := rows.drop offset.toNat
  if amount < 0 then rows else rows.take amount.toNat

/-- `Transactions`: `SELECT id FROM addressTransactions WHERE address=? LIMIT ? OFFSET ?` -/
def Transactions (s : SQLiteStore) (address : Address) (amount offset : Int) :
    SQLiteStore × Except GoError (List TransactionID) :=
  s.query fun t =>
    limitOffset ((t.addressTransactions.filter (·.2 == address)).map (·.1)) amount offset

/-! ## Writes -/

/-- `AddSiacoinElement`. -/
def AddSiacoinElement (s : SQLiteStore) (f : DbFaults) (sce : SiaExplorer.SiacoinElement) :
    SQLiteStore :=
  s.execStatement f (.insertElement sce.ID .siacoin (.siacoin sce))

/-- `AddSiafundElement`. -/
def AddSiafundElement (s : SQLiteStore) (f : DbFaults) (sfe : SiaExplorer.SiafundElement) :
    SQLiteStore :=
  s.execStatement f (.insertElement sfe.ID .siafund (.siafund sfe))

/-- `AddFileContractElement`. -/
def AddFileContractElement (s : SQLiteStore) (f : DbFaults)
    (fce : SiaExplorer.FileContractElement) : SQLiteStore :=
  s.execStatement f (.insertElement fce.ID .contract (.contract fce))

/-- `RemoveElement`. -/
def RemoveElement (s : SQLiteStore) (f : DbFaults) (id : ElementID) : SQLiteStore :=
  s.execStatement f (.deleteElement id)

/-- `AddChainStats`. -/
def AddChainStats (s : SQLiteStore) (f : DbFaults) (index : ChainIndex)
    (cs : SiaExplorer.ChainStats) : SQLiteStore :=
  s.execStatement f (.insertChainStats index.String cs)

/-- `AddUnspentSiacoinElement`. -/
def AddUnspentSiacoinElement (s : SQLiteStore) (f : DbFaults) (address : Address)
    (id : ElementID) : SQLiteStore :=
  s.execStatement f (.insertUnspentElement address .siacoin id)

/-- `AddUnspentSiafundElement`. -/
def AddUnspentSiafundElement (s : SQLiteStore) (f : DbFaults) (address : Address)
    (id : ElementID) : SQLiteStore :=
  s.execStatement f (.insertUnspentElement address .siafund id)

/-- `RemoveUnspentSiacoinElement`. -/
def RemoveUnspentSiacoinElement (s : SQLiteStore) (f : DbFaults) (address : Address)
    (id : ElementID) : SQLiteStore :=
  s.execStatement f (.deleteUnspentElement address id .siacoin)

/-- `RemoveUnspentSiafundElement`. -/
def RemoveUnspentSiafundElement (s : SQLiteStore) (f : DbFaults) (address : Address)
    (id : ElementID) : SQLiteStore :=
  s.execStatement f (.deleteUnspentElement address id .siafund)

/-- `AddTransaction`: the transaction, then one `addressTransactions` row per address. -/
def AddTransaction (s : SQLiteStore) (f : DbFaults) (txn : SiaExplorer.Transaction)
    (addresses : List Address) (_block : ChainIndex) : SQLiteStore :=
  let s := s.execStatement f (.insertTransaction txn.ID txn)
  addresses.foldl (fun s address => s.execStatement f (.insertAddressTransaction address txn.ID)) s

/-- `AddState`. -/
def AddState (s : SQLiteStore) (f : DbFaults) (index : ChainIndex)
    (context : SiaExplorer.State) : SQLiteStore :=
  s.execStatement f (.insertState index context)

end SQLiteStore

end SiaExplorer
