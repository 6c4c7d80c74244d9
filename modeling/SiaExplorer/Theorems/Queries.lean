import SiaExplorer.Logic.Rows
import SiaExplorer.Theorems.Keys

/-!
# What the Store answers

The Store's reads, after runs of the update handlers.

* **Element reads** (`run_element_reads`): after any run from an empty Store, whatever each
  call returned, `SiacoinElement`, `SiafundElement` and `FileContractElement` answer the element
  with the ID asked for, or `sql.ErrNoRows`, or the error latched before the read: every
  `elements` row is filed under its own ID and type, so a row never fails to decode.
* **Append-only history** (`run_history_stable`): no statement deletes a `states`, `chainstats`,
  `transactions` or `addressTransactions` row, so after any run from a Store with no transaction
  open, whatever each call returned, these tables keep their rows in order; a `Transactions`
  page read before the run is a prefix of the same page read after it, and a `State`,
  `ChainStats` or `Transaction` read that answered before answers the same after.
* **Round trips** (`committed_reads_roundTrip`): after a run of valid calls from genesis that all
  return `nil` and whose last call commits, `State(idx)` returns the state passed with the block
  of index `idx` for every block applied so far, reverted ones included, and fails for any other
  index; `Transaction(txn.ID)` returns `txn` itself; and `Transactions(a, amount, offset)` is
  the slice `LIMIT amount OFFSET offset` of the address's history.
-/

namespace SiaExplorer

/-! ## Reads -/

namespace SQLiteStore

/-- A `Query` that answers reads the view. -/
theorem query_eq_ok {α : Type} {s : SQLiteStore} {rows : Tables → List α} {p : List α}
    (h : (s.query rows).2 = .ok p) : p = rows s.view.tables := by
  simp only [query] at h
  split at h
  · cases h
  · rw [beginTx_view] at h
    exact (Except.ok.inj h).symm

theorem beginTx_txErr_some {s : SQLiteStore} {err : GoError} (h : s.beginTx.txErr = some err) :
    s.tx.isSome ∧ s.txErr = some err := by
  cases htx : s.tx <;> simp_all [beginTx]

/-- Everything a `QueryRow` can do: return the error already latched, latch `sql.ErrNoRows` when
its row is missing, or return its row decoded, latching a decoding error. -/
theorem queryRow_cases {β α : Type} (s : SQLiteStore) (row : Tables → Option β)
    (decode : β → Except GoError α) :
    (∃ err, s.beginTx.txErr = some err ∧ s.queryRow row decode = (s.beginTx, .error err)) ∨
      (s.beginTx.txErr = none ∧ row s.view.tables = none ∧
        s.queryRow row decode = ({ s.beginTx with txErr := some .noRows }, .error .noRows)) ∨
      ∃ data, s.beginTx.txErr = none ∧ row s.view.tables = some data ∧
        ((∃ a, decode data = .ok a ∧ s.queryRow row decode = (s.beginTx, .ok a)) ∨
          ∃ err, decode data = .error err ∧
            s.queryRow row decode = ({ s.beginTx with txErr := some err }, .error err)) := by
  rw [← beginTx_view]
  simp only [queryRow]
  split
  · exact .inl ⟨_, ‹_›, rfl⟩
  · split
    · exact .inr (.inl ⟨‹_›, ‹_›, rfl⟩)
    · split
      · exact .inr (.inr ⟨_, ‹_›, ‹_›, .inl ⟨_, ‹_›, rfl⟩⟩)
      · exact .inr (.inr ⟨_, ‹_›, ‹_›, .inr ⟨_, ‹_›, rfl⟩⟩)

/-- A `QueryRow` that answers found its row in the view and decoded it. -/
theorem queryRow_ok_row {β α : Type} {s : SQLiteStore} {row : Tables → Option β}
    {decode : β → Except GoError α} {a : α} (h : (s.queryRow row decode).2 = .ok a) :
    ∃ data, row s.view.tables = some data ∧ decode data = .ok a := by
  rcases queryRow_cases s row decode with ⟨_, -, hq⟩ | ⟨-, -, hq⟩ |
    ⟨data, -, hrow, ⟨_, hd, hq⟩ | ⟨_, -, hq⟩⟩ <;> rw [hq] at h <;> cases h
  exact ⟨data, hrow, hd⟩

/-- A `QueryRow` that fails either finds no row, or fails to decode it, or returns the error
latched before it. -/
theorem queryRow_failed {β α : Type} {s : SQLiteStore} {row : Tables → Option β}
    {decode : β → Except GoError α} {err : GoError} (h : (s.queryRow row decode).2 = .error err) :
    row s.view.tables = none ∧ err = .noRows ∨
      (∃ data, row s.view.tables = some data ∧ decode data = .error err) ∨
      s.tx.isSome ∧ s.txErr = some err := by
  rcases queryRow_cases s row decode with ⟨_, herr, hq⟩ | ⟨-, hrow, hq⟩ |
    ⟨data, -, hrow, ⟨_, -, hq⟩ | ⟨_, hd, hq⟩⟩ <;> rw [hq] at h <;> cases h
  · exact .inr (.inr (beginTx_txErr_some herr))
  · exact .inl ⟨hrow, rfl⟩
  · exact .inr (.inl ⟨data, hrow, hd⟩)

/-- A `QueryRow` that fails leaves its error latched on an open transaction. -/
theorem queryRow_poisons {β α : Type} {s : SQLiteStore} {row : Tables → Option β}
    {decode : β → Except GoError α} {err : GoError} (h : (s.queryRow row decode).2 = .error err) :
    (s.queryRow row decode).1.Poisoned := by
  have htx : s.beginTx.tx.isSome := by simp [beginTx_tx]
  rcases queryRow_cases s row decode with ⟨_, herr, hq⟩ | ⟨-, -, hq⟩ |
    ⟨data, -, -, ⟨_, -, hq⟩ | ⟨_, -, hq⟩⟩ <;> rw [hq] at h ⊢ <;> cases h
  · exact ⟨htx, by simp [herr]⟩
  · exact ⟨htx, rfl⟩
  · exact ⟨htx, rfl⟩

/-- On a poisoned store a `QueryRow` returns the latched error and changes nothing. -/
theorem queryRow_of_poisoned {β α : Type} {s : SQLiteStore} (h : s.Poisoned)
    (row : Tables → Option β) (decode : β → Except GoError α) :
    ∃ err, s.queryRow row decode = (s, .error err) := by
  obtain ⟨err, herr⟩ := Option.isSome_iff_exists.1 h.2
  exact ⟨err, by simp [queryRow, beginTx_of_isSome h.1, herr]⟩

end SQLiteStore

/-! ## Element reads -/

/-- What a typed element read of `id` may answer on `s`: the element with that ID, no row, or
the error latched before the read. -/
def ElementReadAnswer {α : Type} (s : SQLiteStore) (id : ElementID) (ID : α → ElementID) :
    Except GoError α → Prop
  | .ok a => ID a = id
  | .error err => err = .noRows ∨ s.tx.isSome ∧ s.txErr = some err

/-- Every `elements` row is filed under its own element's ID and type. -/
def ElementRowsWellFormed (t : Tables) : Prop :=
  ∀ r ∈ t.elements, r.2.2.ID = r.1 ∧ r.2.2.type = r.2.1

theorem RowsFrom.elementRowsWellFormed {evs : List Event} {t : Tables}
    (h : RowsFrom (issuedBy evs) t) : ElementRowsWellFormed t := fun r hr => by
  obtain ⟨_, -, hiss⟩ := h.elements r hr
  exact hiss.insertElement

/-- A typed read of a well-formed `elements` table answers the element asked for, when its
decoder accepts every element of its type. -/
theorem elementRead_answer {α : Type} {s : SQLiteStore} (hwf : ElementRowsWellFormed s.view.tables)
    {id : ElementID} {type : ElementType} {decode : Element → Except GoError α}
    {ID : α → ElementID}
    (hdec : ∀ data, data.type = type → ∃ a, decode data = .ok a ∧ ID a = data.ID) :
    ElementReadAnswer s id ID (s.queryRow (SQLiteStore.elementRow id type) decode).2 := by
  -- the row the read finds is filed under `id` and `type`
  have hrow : ∀ data, SQLiteStore.elementRow id type s.view.tables = some data →
      data.ID = id ∧ data.type = type := fun data hdata => by
    obtain ⟨r, hr, rfl⟩ := Option.map_eq_some'.1 hdata
    have hkey : r.1 = id ∧ r.2.1 = type := by simpa using List.find?_some hr
    obtain ⟨hid, htype⟩ := hwf r (List.mem_of_find?_eq_some hr)
    exact ⟨hid.trans hkey.1, htype.trans hkey.2⟩
  cases hq : (s.queryRow (SQLiteStore.elementRow id type) decode).2 with
  | ok a =>
    obtain ⟨data, hdata, hd⟩ := SQLiteStore.queryRow_ok_row hq
    obtain ⟨hid, htype⟩ := hrow data hdata
    obtain ⟨a', ha', hID⟩ := hdec data htype
    obtain rfl : a' = a := Except.ok.inj (ha'.symm.trans hd)
    exact hID.trans hid
  | error err =>
    rcases SQLiteStore.queryRow_failed hq with ⟨-, rfl⟩ | ⟨data, hdata, hd⟩ | hlatch
    · exact .inl rfl
    · obtain ⟨a, ha, -⟩ := hdec data (hrow data hdata).2
      cases ha.symm.trans hd
    · exact .inr hlatch

/-- **Element reads answer what they are asked.** After any run from a new explorer on an empty
Store, valid or not and whatever each call returned, each typed element read answers the element
with the ID asked for, or `sql.ErrNoRows`, or the error latched before it: it never decodes a row
into the wrong element and never fails to decode one. -/
theorem run_element_reads {cs : State} {hs : HashStore} {evfs : List (Event × Faults)}
    {e : Explorer} {errs : List (Option GoError)}
    (he : (NewExplorer cs NewEphemeralStore hs).run evfs = .ok (e, errs)) (id : ElementID) :
    ElementReadAnswer e.db id (·.ID) (e.db.SiacoinElement id).2 ∧
      ElementReadAnswer e.db id (·.ID) (e.db.SiafundElement id).2 ∧
      ElementReadAnswer e.db id (·.ID) (e.db.FileContractElement id).2 := by
  have hwf : ElementRowsWellFormed e.db.view.tables :=
    (Explorer.run_rowsFrom (.of_committed rfl RowsFrom.empty) he).view.elementRowsWellFormed
  refine ⟨elementRead_answer hwf ?_, elementRead_answer hwf ?_, elementRead_answer hwf ?_⟩ <;>
    intro data htype <;> cases data <;> cases htype <;> exact ⟨_, rfl, rfl⟩

theorem run_element_reads_txnBlock :
    ∃ e errs, (NewExplorer (txnBlock 0 5).State NewEphemeralStore emptyHashStore).run
        [(.apply (txnBlock 0 5) true, Faults.never)] = .ok (e, errs) ∧
      ElementReadAnswer e.db ⟨0⟩ (·.ID) (e.db.SiacoinElement ⟨0⟩).2 ∧
      ElementReadAnswer e.db ⟨0⟩ (·.ID) (e.db.SiafundElement ⟨0⟩).2 ∧
      ElementReadAnswer e.db ⟨0⟩ (·.ID) (e.db.FileContractElement ⟨0⟩).2 :=
  ⟨_, _, rfl, @run_element_reads (txnBlock 0 5).State emptyHashStore
    [(.apply (txnBlock 0 5) true, Faults.never)] _ _ rfl ⟨0⟩⟩

/-! ## The history only grows -/

/-- `t'` keeps the rows of `t` that no statement deletes, in order: `states`, `chainstats`,
`transactions` and `addressTransactions`. -/
structure Tables.Extends (t t' : Tables) : Prop where
  states : t.states <+: t'.states
  chainstats : t.chainstats <+: t'.chainstats
  transactions : t.transactions <+: t'.transactions
  addressTransactions : t.addressTransactions <+: t'.addressTransactions

theorem Tables.Extends.refl (t : Tables) : t.Extends t :=
  ⟨List.prefix_refl _, List.prefix_refl _, List.prefix_refl _, List.prefix_refl _⟩

theorem Tables.Extends.trans {t t' t'' : Tables} (h : t.Extends t') (h' : t'.Extends t'') :
    t.Extends t'' :=
  ⟨h.states.trans h'.states, h.chainstats.trans h'.chainstats,
    h.transactions.trans h'.transactions, h.addressTransactions.trans h'.addressTransactions⟩

/-- A statement inserts into one of these tables or leaves them. -/
theorem Statement.extends_apply (st : Statement) (t : Tables) : t.Extends (st.apply t) := by
  cases st <;> constructor <;> first | exact List.prefix_refl _ | exact List.prefix_append _ _

/-- `LIMIT amount OFFSET offset` of a longer list extends that of its prefix. -/
theorem limitOffset_mono {α : Type} {l l' : List α} (h : l <+: l') (amount offset : Int) :
    SQLiteStore.limitOffset l amount offset <+: SQLiteStore.limitOffset l' amount offset := by
  unfold SQLiteStore.limitOffset
  split
  · exact h.drop _
  · exact (h.drop _).take _

/-- The first row a key finds in a prefix is the first it finds in the whole. -/
theorem find?_mono {ρ : Type} {rows rows' : List ρ} (h : rows <+: rows') {p : ρ → Bool}
    {r : ρ} (hr : rows.find? p = some r) : rows'.find? p = some r := by
  obtain ⟨rest, rfl⟩ := h
  rw [List.find?_append, hr]
  rfl

/-- A keyed read that answered on `s` answers the same on a store whose view extends the table
it reads. -/
theorem keyedRead_stable {κ ρ : Type} [DecidableEq κ] {s s' : SQLiteStore}
    {sel : Tables → List (κ × ρ)} (hsel : sel s.view.tables <+: sel s'.view.tables) {k : κ}
    {v v' : ρ} (h : (s.queryRow (fun t => ((sel t).find? (·.1 == k)).map (·.2)) .ok).2 = .ok v)
    (h' : (s'.queryRow (fun t => ((sel t).find? (·.1 == k)).map (·.2)) .ok).2 = .ok v') :
    v' = v := by
  obtain ⟨d, hd, hdv⟩ := SQLiteStore.queryRow_ok_row h
  obtain ⟨d', hd', hdv'⟩ := SQLiteStore.queryRow_ok_row h'
  obtain ⟨r, hr, rfl⟩ := Option.map_eq_some'.1 hd
  rw [find?_mono hsel hr, Option.map_some'] at hd'
  exact (Except.ok.inj hdv').symm.trans ((Option.some.inj hd').symm.trans (Except.ok.inj hdv))

/-- **The history only grows.** After any run from a Store with no transaction open, valid or
not and whatever each call returned, the committed and the pending tables keep every `states`,
`chainstats`, `transactions` and `addressTransactions` row of the start, in order. So a
`Transactions` page read at the start is a prefix of the same page read at the end, and a
`State`, `ChainStats` or `Transaction` read that answered at the start answers the same at the
end. -/
theorem run_history_stable {evfs : List (Event × Faults)} {e e' : Explorer}
    {errs : List (Option GoError)} (htx : e.db.tx = none) (he : e.run evfs = .ok (e', errs)) :
    e'.db.Holds (e.db.db.tables.Extends ·) ∧
      (∀ address amount offset p p', (e.db.Transactions address amount offset).2 = .ok p →
        (e'.db.Transactions address amount offset).2 = .ok p' → p <+: p') ∧
      (∀ index st st', (e.db.State index).2 = .ok st → (e'.db.State index).2 = .ok st' →
        st' = st) ∧
      (∀ index cs cs', (e.db.ChainStats index).2 = .ok cs →
        (e'.db.ChainStats index).2 = .ok cs' → cs' = cs) ∧
      (∀ id txn txn', (e.db.Transaction id).2 = .ok txn → (e'.db.Transaction id).2 = .ok txn' →
        txn' = txn) := by
  have hholds : e'.db.Holds (e.db.db.tables.Extends ·) :=
    Explorer.run_holds (.of_committed htx (Tables.Extends.refl _))
      (fun _ _ st _ _ ht => ht.trans (st.extends_apply _)) he
  -- the view at the end extends the committed tables the start reads
  have hext : e.db.view.tables.Extends e'.db.view.tables := by
    simpa [SQLiteStore.view, htx] using hholds.view
  refine ⟨hholds, fun address amount offset p p' hp hp' => ?_, fun _ _ _ h h' => ?_,
    fun _ _ _ h h' => ?_, fun _ _ _ h h' => ?_⟩
  · rw [SQLiteStore.query_eq_ok hp, SQLiteStore.query_eq_ok hp']
    exact limitOffset_mono (((hext.addressTransactions.filter _).map _)) _ _
  · exact keyedRead_stable hext.states h h'
  · exact keyedRead_stable hext.chainstats h h'
  · exact keyedRead_stable hext.transactions h h'

theorem run_history_stable_txnBlock :
    ∃ e' errs, (NewExplorer (txnBlock 0 5).State NewEphemeralStore emptyHashStore).run
        [(.apply (txnBlock 0 5) true, Faults.never)] = .ok (e', errs) ∧
      (NewExplorer (txnBlock 0 5).State NewEphemeralStore emptyHashStore).db.tx = none ∧
      e'.db.Holds ((NewExplorer (txnBlock 0 5).State NewEphemeralStore
        emptyHashStore).db.db.tables.Extends ·) :=
  ⟨_, _, rfl, rfl, (@run_history_stable [(.apply (txnBlock 0 5) true, Faults.never)]
    (NewExplorer (txnBlock 0 5).State NewEphemeralStore emptyHashStore) _ _ rfl rfl).1⟩

/-! ## Round trips on the committed Store -/

/-- The IDs of the transactions involving `address` of every block applied so far, reverted
ones included, in the order they were applied. -/
def addressHistory (g : Ledger) (address : Address) : List TransactionID :=
  ((appliedTransactions g).filter (address ∈ txnAddresses ·)).map (·.ID)

theorem Ledger.Run.mem_applied {g g' : Ledger} {evs : List Event} (h : Ledger.Run g evs g')
    {cau : ApplyUpdate} {m : Bool} (hev : Event.apply cau m ∈ evs) : cau ∈ g'.applied := by
  induction h with
  | nil => cases hev
  | cons hstep hrest ih =>
    rcases List.mem_cons.1 hev with rfl | hev
    · cases hstep
      exact hrest.applied_prefix.subset (List.mem_append_right _ (List.mem_singleton_self _))
    · exact ih hev

section Committed

variable {evs : List Event} {g : Ledger} {s : SQLiteStore}

/-- On a clean store agreeing with a ledger reached by a run, `State` of an applied block's
index returns the state it was applied with. -/
theorem SQLiteStore.State_applied (hrun : Ledger.Run {} evs g) (hc : s.Clean)
    (ha : Agrees g s.view.tables) (hrows : RowsFrom (issuedBy evs) s.view.tables)
    {cau : ApplyUpdate} (hcau : cau ∈ g.applied) :
    s.State cau.Block.Header.Index = (s.beginTx, .ok cau.State) := by
  have hnd := s.view.keysUnique.states
  have hnd' : (g.applied.map (·.Block.Header.Index)).Nodup := ha.states ▸ hnd
  have hkey : cau.Block.Header.Index ∈ s.view.tables.states.map (·.1) :=
    ha.states ▸ List.mem_map_of_mem _ hcau
  obtain ⟨⟨_, _⟩, hr, rfl⟩ := List.mem_map.1 hkey
  obtain ⟨_, hev, hiss⟩ := hrows.states _ hr
  obtain ⟨c, m, rfl, hi, rfl⟩ := hiss.insertState
  obtain rfl : c = cau := List.inj_on_of_nodup_map hnd' (hrun.mem_applied hev) hcau hi.symm
  rw [SQLiteStore.State]
  exact SQLiteStore.queryRow_found hc (by rw [find?_key_of_mem hnd hr]; rfl) rfl

/-- `State` answers only for the index of an applied block. -/
theorem SQLiteStore.State_found (ha : Agrees g s.view.tables) {index : ChainIndex}
    {st : SiaExplorer.State} (h : (s.State index).2 = .ok st) :
    index ∈ g.applied.map (·.Block.Header.Index) := by
  obtain ⟨_, hd, -⟩ := SQLiteStore.queryRow_ok_row h
  obtain ⟨r, hr, -⟩ := Option.map_eq_some'.1 hd
  rw [← ha.states]
  exact List.mem_map.2 ⟨r, List.mem_of_find?_eq_some hr, by simpa using List.find?_some hr⟩

/-- On a clean store agreeing with a ledger reached by a run, `Transaction` of an applied
transaction's ID returns that transaction. -/
theorem SQLiteStore.Transaction_applied (hrun : Ledger.Run {} evs g) (hc : s.Clean)
    (ha : Agrees g s.view.tables) (hrows : RowsFrom (issuedBy evs) s.view.tables)
    {txn : SiaExplorer.Transaction} (htxn : txn ∈ appliedTransactions g) :
    s.Transaction txn.ID = (s.beginTx, .ok txn) := by
  have hnd := s.view.keysUnique.transactions
  have hkeys : s.view.tables.transactions.map (·.1) = (appliedTransactions g).map (·.ID) := by
    rw [ha.transactions, appliedTransactions, List.map_flatMap]
  have hnd' : ((appliedTransactions g).map (·.ID)).Nodup := hkeys ▸ hnd
  have hkey : txn.ID ∈ s.view.tables.transactions.map (·.1) :=
    hkeys ▸ List.mem_map_of_mem _ htxn
  obtain ⟨⟨_, d⟩, hr, rfl⟩ := List.mem_map.1 hkey
  obtain ⟨_, hev, hiss⟩ := hrows.transactions _ hr
  obtain ⟨c, m, rfl, hd, hid⟩ := hiss.insertTransaction
  have hd' : d ∈ appliedTransactions g := List.mem_flatMap.2 ⟨c, hrun.mem_applied hev, hd⟩
  obtain rfl : d = txn := List.inj_on_of_nodup_map hnd' hd' htxn hid.symm
  rw [SQLiteStore.Transaction]
  exact SQLiteStore.queryRow_found hc (by rw [find?_key_of_mem hnd hr]; rfl) rfl

/-- On a clean store agreeing with a ledger, `Transactions(a, amount, offset)` is the slice
`LIMIT amount OFFSET offset` of `a`'s history. -/
theorem SQLiteStore.Transactions_agrees (hc : s.Clean) (ha : Agrees g s.view.tables)
    (address : Address) (amount offset : Int) :
    s.Transactions address amount offset =
      (s.beginTx, .ok (SQLiteStore.limitOffset (addressHistory g address) amount offset)) := by
  simp only [SQLiteStore.Transactions, SQLiteStore.query, SQLiteStore.beginTx_txErr hc,
    SQLiteStore.beginTx_view, ha.addressTransactions]
  rw [← List.flatMap_assoc, addressRows]
  rfl

end Committed

/-- **What the committed Store reads back.** After a run of valid calls from genesis that all
return `nil` and whose last call commits: `State(idx)` returns the state each block applied so
far was applied with, reverted blocks included, and answers for no other index; `Transaction`
returns each applied transaction itself; and `Transactions(a, amount, offset)` is the slice
`LIMIT amount OFFSET offset` of the IDs of the applied transactions involving `a`, in order. -/
theorem committed_reads_roundTrip {cs : State} {hs : HashStore} {evfs : List (Event × Faults)}
    {g : Ledger} {e : Explorer} {errs : List (Option GoError)}
    (hrun : Ledger.Run {} (evfs.map (·.1)) g)
    (he : (NewExplorer cs NewEphemeralStore hs).run evfs = .ok (e, errs))
    (hnil : ∀ err ∈ errs, err = none) (hlast : ∀ last ∈ evfs.getLast?, last.1.commits = true) :
    (∀ cau ∈ g.applied, (e.db.State cau.Block.Header.Index).2 = .ok cau.State) ∧
      (∀ index st, (e.db.State index).2 = .ok st →
        index ∈ g.applied.map (·.Block.Header.Index)) ∧
      (∀ txn ∈ appliedTransactions g, (e.db.Transaction txn.ID).2 = .ok txn) ∧
      ∀ address amount offset, (e.db.Transactions address amount offset).2 =
        .ok (SQLiteStore.limitOffset (addressHistory g address) amount offset) := by
  obtain ⟨-, htx, ha⟩ := Follows.committed hrun he hnil hlast
  have hview : e.db.view = e.db.db := by simp [SQLiteStore.view, htx]
  have hrows := (Explorer.run_rowsFrom (.of_committed rfl RowsFrom.empty) he).1
  rw [← hview] at ha hrows
  have hc : e.db.Clean := .inl htx
  exact ⟨fun _ hcau => congrArg Prod.snd (SQLiteStore.State_applied hrun hc ha hrows hcau),
    fun _ _ h => SQLiteStore.State_found ha h,
    fun _ htxn => congrArg Prod.snd (SQLiteStore.Transaction_applied hrun hc ha hrows htxn),
    fun a amount offset =>
      congrArg Prod.snd (SQLiteStore.Transactions_agrees hc ha a amount offset)⟩

theorem committed_reads_roundTrip_txnBlocks :
    ∃ e errs, (NewExplorer (txnBlock 0 5).State NewEphemeralStore emptyHashStore).run
        [(.apply (txnBlock 0 5) true, Faults.never), (.apply (txnBlock 1 6) true, Faults.never)] =
        .ok (e, errs) ∧ (∀ err ∈ errs, err = none) ∧
      (∀ cau ∈ [txnBlock 0 5, txnBlock 1 6],
        (e.db.State cau.Block.Header.Index).2 = .ok cau.State) ∧
      (∀ index st, (e.db.State index).2 = .ok st →
        index ∈ [txnBlock 0 5, txnBlock 1 6].map (·.Block.Header.Index)) ∧
      (∀ txn ∈ appliedTransactions ⟨[txnBlock 0 5, txnBlock 1 6], [txnBlock 0 5, txnBlock 1 6]⟩,
        (e.db.Transaction txn.ID).2 = .ok txn) ∧
      ∀ address amount offset, (e.db.Transactions address amount offset).2 =
        .ok (SQLiteStore.limitOffset (addressHistory ⟨[txnBlock 0 5, txnBlock 1 6],
          [txnBlock 0 5, txnBlock 1 6]⟩ address) amount offset) :=
  ⟨_, _, rfl, by decide, @committed_reads_roundTrip (txnBlock 0 5).State emptyHashStore
    [(.apply (txnBlock 0 5) true, Faults.never), (.apply (txnBlock 1 6) true, Faults.never)]
    ⟨[txnBlock 0 5, txnBlock 1 6], [txnBlock 0 5, txnBlock 1 6]⟩ _ _ (Ledger.replay_run rfl) rfl
    (by decide) (by decide)⟩

/-- Scenario 6 of the spec: three transactions for address 1 in three blocks; the page of one
at offset 1 is the second. -/
example : SQLiteStore.limitOffset
    (addressHistory ⟨[], [txnBlock 0 5, txnBlock 1 6, txnBlock 2 7]⟩ ⟨1⟩) 1 1 = [⟨6⟩] := by
  decide

end SiaExplorer
