import SiaExplorer.Model.Api
import SiaExplorer.Theorems.Queries
import SiaExplorer.Theorems.Failure

/-!
# What the API answers

* **Routing** (`lookup_of_match`): no path matches two routes of one method
  (`route_unique`), so a request runs the handler of the one route that matches it.
* **Element search** (`elementSearch_never_siafund`): a failed read of the explorer's Store
  latches its error, and every later read of the open transaction returns it; so after a
  `SiacoinElement` miss the siafund and contract lookups fail too, and `/element/search/:id`
  never answers a siafund or a file contract, whatever the Store holds.
* **A missed lookup fails the next update** (`missed_lookup_fails_next_update`): a
  `/element/siacoin/:id` request that fails leaves its error latched, so the next
  `ProcessChainApplyUpdate(cau, true)` or `ProcessChainRevertUpdate` returns an error and
  publishes none of its writes.
* **Batched history** (`committed_batch_transactions`): on the committed Store after valid calls
  that all return `nil`, `/batch/addresses/transactions` answers, for each request in order, the
  transactions of its page of the address's history.
-/

namespace SiaExplorer

namespace Api

/-! ## Routing -/

/-- Whether some path matches both routes' paths. -/
def Segment.overlap : List Segment → List Segment → Bool
  | [], [] => true
  | .lit a :: ps, .lit b :: qs => a == b && overlap ps qs
  | .lit a :: ps, .param _ :: qs => (!qs.isEmpty || a != "") && overlap ps qs
  | .param _ :: ps, .lit b :: qs => (!ps.isEmpty || b != "") && overlap ps qs
  | .param _ :: ps, .param _ :: qs => overlap ps qs
  | _, _ => false

@[simp] theorem Segment.matchPath_lit {s x : String} {ps : List Segment} {xs : List String} :
    (Segment.matchPath (.lit s :: ps) (x :: xs)).isSome ↔
      s = x ∧ (Segment.matchPath ps xs).isSome := by
  simp only [Segment.matchPath]
  split <;> simp_all

@[simp] theorem Segment.matchPath_param {name x : String} {ps : List Segment}
    {xs : List String} :
    (Segment.matchPath (.param name :: ps) (x :: xs)).isSome ↔
      (ps ≠ [] ∨ x ≠ "") ∧ (Segment.matchPath ps xs).isSome := by
  simp only [Segment.matchPath, ne_eq, ← not_and_or]
  split <;> simp_all

/-- Two routes a path matches overlap. -/
theorem Segment.overlap_of_match {ps qs : List Segment} {path : List String}
    (hp : (Segment.matchPath ps path).isSome) (hq : (Segment.matchPath qs path).isSome) :
    Segment.overlap ps qs = true := by
  induction ps generalizing qs path with
  | nil => cases path <;> cases qs <;> simp_all [Segment.matchPath, Segment.overlap]
  | cons p ps ih =>
    cases path with
    | nil => cases p <;> simp [Segment.matchPath] at hp
    | cons x xs =>
      cases qs with
      | nil => simp [Segment.matchPath] at hq
      | cons q qs =>
        cases p <;> cases q <;>
          simp only [Segment.matchPath_lit, Segment.matchPath_param] at hp hq <;>
          simp only [Segment.overlap, ih hp.2 hq.2, Bool.and_true, beq_iff_eq, bne_iff_ne, ne_eq]
        · exact hp.1.trans hq.1.symm
        · simpa [hp.1] using hq.1
        · simpa [hq.1] using hp.1

/-- No two routes of one method overlap: httprouter would refuse them. -/
theorem routes_disjoint : ∀ r ∈ routes, ∀ r' ∈ routes, r ≠ r' → r.method = r'.method →
    Segment.overlap r.path r'.path = false := by
  decide

/-- A path matches at most one route of a method. -/
theorem route_unique {r r' : Route} (hr : r ∈ routes) (hr' : r' ∈ routes)
    (hm : r.method = r'.method) {path : List String} (h : (Segment.matchPath r.path path).isSome)
    (h' : (Segment.matchPath r'.path path).isSome) : r = r' := by
  by_contra hne
  have hno := routes_disjoint r hr r' hr' hne hm
  rw [Segment.overlap_of_match h h'] at hno
  cases hno

/-- The router picks the route of the request's method that matches its path. -/
theorem lookup_of_match {r : Route} (hr : r ∈ routes) {path : List String}
    {p : List (String × String)} (hp : Segment.matchPath r.path path = some p) :
    lookup r.method path = some (r.handler, p) := by
  have hsome : (lookup r.method path).isSome :=
    List.findSome?_isSome_iff.2 ⟨r, hr, by simp [hp]⟩
  obtain ⟨b, hb⟩ := Option.isSome_iff_exists.1 hsome
  obtain ⟨r', hr', hfr'⟩ := List.exists_of_findSome?_eq_some hb
  split at hfr'
  · rename_i hm
    obtain ⟨p', hp', rfl⟩ := Option.map_eq_some'.1 hfr'
    obtain rfl := route_unique hr' hr hm (Option.isSome_iff_exists.2 ⟨p', hp'⟩)
      (Option.isSome_iff_exists.2 ⟨p, hp⟩)
    rw [hb, ← Option.some.inj (hp'.symm.trans hp)]
  · cases hfr'

theorem lookup_elementSiacoin {t : String} (ht : t ≠ "") :
    lookup "GET" ["element", "siacoin", t] = some (.elementSiacoinHandler, [("id", t)]) :=
  @lookup_of_match ⟨"GET", [.lit "element", .lit "siacoin", .param "id"],
    .elementSiacoinHandler⟩ (by decide) _ _ (by simp [Segment.matchPath, ht])

/-! ## Reads that fail latch their error -/

section Store

variable (syncer : Syncer SiaExplorer.Explorer) (pool : TransactionPool SiaExplorer.Explorer)
  (scb : SiaExplorer.Explorer → Address → SiaExplorer.Explorer × Except GoError Currency)
  (sfb : SiaExplorer.Explorer → Address → SiaExplorer.Explorer × Except GoError (BitVec 64))

/-- A failed element read on the Store leaves the explorer's Store poisoned, and on a poisoned
Store an element read fails and changes nothing. -/
theorem onStore_queryRow_poisons {β α : Type} {e : SiaExplorer.Explorer} {row : Tables → Option β}
    {decode : β → Except GoError α} {err : GoError}
    (h : (e.onStore (·.queryRow row decode)).2 = .error err) :
    (e.onStore (·.queryRow row decode)).1.db.Poisoned :=
  SQLiteStore.queryRow_poisons h

theorem onStore_queryRow_of_poisoned {β α : Type} {e : SiaExplorer.Explorer} (h : e.db.Poisoned)
    (row : Tables → Option β) (decode : β → Except GoError α) :
    ∃ err, e.onStore (·.queryRow row decode) = (e, .error err) := by
  obtain ⟨err, hq⟩ := SQLiteStore.queryRow_of_poisoned h row decode
  exact ⟨err, by simp only [Explorer.onStore, hq]⟩

/-- **The search never finds a siafund or a contract.** On the explorer's Store, whatever it
holds, `/element/search/:id` answers a decoding error, a siacoin element, or the empty response:
a `SiacoinElement` miss latches its error, which the siafund and contract lookups return. -/
theorem elementSearch_never_siafund (c : Codec) (e : SiaExplorer.Explorer)
    (p : List (String × String)) :
    (∃ text, (elementSearchHandler ⟨syncer, Explorer.api scb sfb, pool⟩ c e p).2 =
        .badRequest (.decode text)) ∨
      (∃ elem, (elementSearchHandler ⟨syncer, Explorer.api scb sfb, pool⟩ c e p).2 =
        .json (.search { type := "siacoin", SiacoinElement := some elem })) ∨
      (elementSearchHandler ⟨syncer, Explorer.api scb sfb, pool⟩ c e p).2 = .json (.search {}) := by
  simp only [elementSearchHandler, decodeOr]
  cases c.elementID (ByName p "id") with
  | error text => exact .inl ⟨text, rfl⟩
  | ok id =>
    dsimp only
    cases hsc : (Explorer.api scb sfb).SiacoinElement e id with
    | mk e₁ r =>
      cases r with
      | ok elem => exact .inr (.inl ⟨elem, rfl⟩)
      | error err =>
        -- the miss leaves the Store poisoned: both later lookups fail
        have hp : e₁.db.Poisoned := by
          have h1 : ((Explorer.api scb sfb).SiacoinElement e id).1 = e₁ := by rw [hsc]
          have h2 : ((Explorer.api scb sfb).SiacoinElement e id).2 = .error err := by rw [hsc]
          exact h1 ▸ onStore_queryRow_poisons h2
        obtain ⟨_, hsf⟩ : ∃ err, (Explorer.api scb sfb).SiafundElement e₁ id = (e₁, .error err) :=
          onStore_queryRow_of_poisoned hp _ _
        obtain ⟨_, hfc⟩ :
            ∃ err, (Explorer.api scb sfb).FileContractElement e₁ id = (e₁, .error err) :=
          onStore_queryRow_of_poisoned hp _ _
        dsimp only
        rw [hsf]
        dsimp only
        rw [hfc]
        exact .inr (.inr rfl)

end Store

end Api

/-! ## A latched error fails the next update -/

theorem SQLiteStore.Commit_of_poisoned {s : SQLiteStore} (h : s.Poisoned) (f : DbFaults) :
    ∃ err, s.Commit f = .ok ({ s with tx := none }, some err) := by
  obtain ⟨db, htx⟩ := Option.isSome_iff_exists.1 h.1
  obtain ⟨err, herr⟩ := Option.isSome_iff_exists.1 h.2
  exact ⟨err, by simp [SQLiteStore.Commit, htx, herr]; rfl⟩

/-- A commit on a poisoned Store returns an error and publishes nothing. -/
theorem Explorer.commitApply_of_poisoned {e e' : Explorer} {f : Faults} {err : Option GoError}
    (h : e.commitApply f true = .ok (e', err)) (hp : e.db.Poisoned) :
    err.isSome ∧ e'.db.db = e.db.db := by
  rcases Explorer.commitApply_true_cases h with ⟨_, -, hr⟩ | ⟨db, _, hdb, hr⟩ <;>
    obtain ⟨rfl, rfl⟩ := Prod.mk.inj hr
  · exact ⟨rfl, rfl⟩
  · obtain ⟨_, hc⟩ := SQLiteStore.Commit_of_poisoned hp f.db
    obtain ⟨rfl, rfl⟩ := Prod.mk.inj (Except.ok.inj (hc.symm.trans hdb))
    exact ⟨rfl, rfl⟩

/-- On a poisoned Store, an apply that commits returns an error and publishes nothing. -/
theorem Explorer.ProcessChainApplyUpdate_of_poisoned {e e' : Explorer} {f : Faults}
    {cau : ApplyUpdate} {err : Option GoError} (h : e.db.Poisoned)
    (he : e.ProcessChainApplyUpdate f cau true = .ok (e', err)) :
    err.isSome ∧ e'.db.db = e.db.db := by
  obtain ⟨stats, hs, -, -, hc⟩ := ProcessChainApplyUpdate_eq_ok.1 he
  rw [SQLiteStore.execStatements_poisoned h] at hc
  have hres := Explorer.commitApply_of_poisoned hc h
  exact hres

/-- On a poisoned Store, a revert returns the latched error from its `ChainStats` read and
publishes nothing. -/
theorem Explorer.ProcessChainRevertUpdate_of_poisoned {e e' : Explorer} {f : Faults}
    {cru : RevertUpdate} {err : Option GoError} (h : e.db.Poisoned)
    (he : e.ProcessChainRevertUpdate f cru = .ok (e', err)) :
    err.isSome ∧ e'.db.db = e.db.db := by
  obtain ⟨hs, -, hr⟩ := ProcessChainRevertUpdate_eq_ok.1 he
  rw [SQLiteStore.execStatements_poisoned h] at hr
  obtain ⟨_, hq⟩ := SQLiteStore.queryRow_of_poisoned h
    (fun t => (t.chainstats.find? (·.1 == cru.State.Index.String)).map (·.2)) Except.ok
  rcases Explorer.reloadTip_cases hr with ⟨_, -, hr⟩ | ⟨stats, db, _, hok, -, -⟩
  · obtain ⟨rfl, rfl⟩ := Prod.mk.inj hr
    dsimp only
    rw [SQLiteStore.ChainStats, hq]
    exact ⟨rfl, rfl⟩
  · dsimp only at hok
    rw [SQLiteStore.ChainStats, hq] at hok
    cases hok

/-- **A missed lookup fails the next update.** On the explorer's Store, a `/element/siacoin/:id`
request answered with the error of its read (an element the Store lacks, say) leaves that error
latched: the next `ProcessChainApplyUpdate(cau, true)`, or the next `ProcessChainRevertUpdate`,
returns an error and leaves the committed tables as they were before the request. -/
theorem missed_lookup_fails_next_update (syncer : Api.Syncer Explorer)
    (pool : Api.TransactionPool Explorer)
    (scb : Explorer → Address → Explorer × Except GoError Currency)
    (sfb : Explorer → Address → Explorer × Except GoError (BitVec 64)) (c : Api.Codec)
    (e : Explorer) (t : String) (err : GoError)
    (hmiss : (Api.NewServer ⟨syncer, Explorer.api scb sfb, pool⟩ c e
      { method := "GET", path := ["element", "siacoin", t] }).2 = .badRequest (.call err)) :
    (∀ f cau e' err', (Api.NewServer ⟨syncer, Explorer.api scb sfb, pool⟩ c e
        { method := "GET", path := ["element", "siacoin", t] }).1.ProcessChainApplyUpdate f cau
          true = .ok (e', err') → err'.isSome ∧ e'.db.db = e.db.db) ∧
      ∀ f cru e' err', (Api.NewServer ⟨syncer, Explorer.api scb sfb, pool⟩ c e
        { method := "GET", path := ["element", "siacoin", t] }).1.ProcessChainRevertUpdate f cru =
          .ok (e', err') → err'.isSome ∧ e'.db.db = e.db.db := by
  -- the request reached `elementSiacoinHandler`, whose read failed
  have ht : t ≠ "" := by
    rintro rfl
    revert hmiss
    simp +decide [Api.NewServer, Api.lookup, Api.routes, List.findSome?, Api.Segment.matchPath]
  have hroute : Api.NewServer ⟨syncer, Explorer.api scb sfb, pool⟩ c e
      { method := "GET", path := ["element", "siacoin", t] } =
      Api.elementSiacoinHandler ⟨syncer, Explorer.api scb sfb, pool⟩ c e [("id", t)] := by
    simp only [Api.NewServer, Api.lookup_elementSiacoin ht]
    rfl
  rw [hroute] at hmiss ⊢
  simp only [Api.elementSiacoinHandler, Api.lookupHandler, Api.decodeOr, Api.call,
    Explorer.api] at hmiss ⊢
  cases hid : c.elementID (Api.ByName [("id", t)] "id") with
  | error text => rw [hid] at hmiss; cases hmiss
  | ok id =>
    rw [hid] at hmiss
    dsimp only at hmiss ⊢
    cases hsc : (e.onStore (·.SiacoinElement id)).2 with
    | ok elem => rw [hsc] at hmiss; cases hmiss
    | error err₀ =>
      dsimp only
      have hp : (e.onStore (·.SiacoinElement id)).1.db.Poisoned :=
        Api.onStore_queryRow_poisons hsc
      have hdb : (e.onStore (·.SiacoinElement id)).1.db.db = e.db.db :=
        SQLiteStore.queryRow_db e.db _ _
      exact ⟨fun f cau e' err' he => hdb ▸ Explorer.ProcessChainApplyUpdate_of_poisoned hp he,
        fun f cru e' err' he => hdb ▸ Explorer.ProcessChainRevertUpdate_of_poisoned hp he⟩

/-- A syncer with no peers that accepts every connection. -/
def idleSyncer : Api.Syncer Explorer := ⟨fun _ => [], fun st _ => (st, none), fun st _ _ => st⟩

/-- A pool with no transactions that accepts every transaction. -/
def idlePool : Api.TransactionPool Explorer := ⟨fun _ => [], fun st _ => (st, none)⟩

/-- A balance read that always fails. -/
def noBalance {α : Type} : Explorer → Address → Explorer × Except GoError α :=
  fun st _ => (st, .error .noRows)

/-- A codec that decodes every element ID as `0`, and every transactions body as a page of one
at offset 1 and a page of all, both for address 1. -/
def pageCodec : Api.Codec where
  elementID _ := .ok ⟨0⟩
  transactionID _ := .ok ⟨0⟩
  address _ := .ok ⟨1⟩
  chainIndex _ := .error "invalid"
  atoi _ := .ok 0
  addresses _ := .ok []
  transactionsRequests _ := .ok [⟨⟨1⟩, 1, 1⟩, ⟨⟨1⟩, -1, 0⟩]
  broadcastRequest _ := .error "invalid"
  connectRequest _ := .error "invalid"

theorem missed_lookup_fails_next_update_emptyStore :
    (Api.NewServer ⟨idleSyncer, Explorer.api noBalance noBalance, idlePool⟩ pageCodec
        (NewExplorer (txnBlock 0 5).State NewEphemeralStore emptyHashStore)
        { method := "GET", path := ["element", "siacoin", "0"] }).2 = .badRequest (.call .noRows) ∧
      ∀ f cau e' err', (Api.NewServer ⟨idleSyncer, Explorer.api noBalance noBalance, idlePool⟩
        pageCodec (NewExplorer (txnBlock 0 5).State NewEphemeralStore emptyHashStore)
        { method := "GET", path := ["element", "siacoin", "0"] }).1.ProcessChainApplyUpdate f cau
          true = .ok (e', err') → err'.isSome ∧ e'.db.db = NewEphemeralStore.db :=
  have hmiss : (Api.NewServer ⟨idleSyncer, Explorer.api noBalance noBalance, idlePool⟩ pageCodec
      (NewExplorer (txnBlock 0 5).State NewEphemeralStore emptyHashStore)
      { method := "GET", path := ["element", "siacoin", "0"] }).2 = .badRequest (.call .noRows) :=
    by decide
  ⟨hmiss, (missed_lookup_fails_next_update _ _ _ _ _ _ _ _ hmiss).1⟩

/-! ## Batched history on the committed Store -/

/-- A loop answers `ys` when each item, from any state satisfying `P`, keeps `P` and answers its
partner in `ys`. -/
theorem Api.forItems_forall₂ {σ α β : Type} (P : σ → Prop) {step : σ → α → σ × Except Api.Failure β}
    {xs : List α} {ys : List β}
    (h : List.Forall₂ (fun x y => ∀ st, P st → P (step st x).1 ∧ (step st x).2 = .ok y) xs ys)
    {st : σ} (hst : P st) :
    P (Api.forItems step st xs).1 ∧ (Api.forItems step st xs).2 = .ok ys := by
  induction h generalizing st with
  | nil => exact ⟨hst, rfl⟩
  | @cons x y xs ys hxy _ ih =>
    obtain ⟨hP, hy⟩ := hxy st hst
    simp only [Api.forItems]
    rcases hsx : step st x with ⟨st₁, r⟩
    rw [hsx] at hP hy
    cases hy
    dsimp only
    obtain ⟨hP', hys⟩ := ih hP
    rcases hrest : Api.forItems step st₁ xs with ⟨st₂, r₂⟩
    rw [hrest] at hP' hys
    cases hys
    exact ⟨hP', rfl⟩

theorem SQLiteStore.limitOffset_map {α β : Type} (f : α → β) (l : List α) (amount offset : Int) :
    SQLiteStore.limitOffset (l.map f) amount offset =
      (SQLiteStore.limitOffset l amount offset).map f := by
  unfold SQLiteStore.limitOffset
  split <;> simp only [List.map_drop, List.map_take]

theorem SQLiteStore.limitOffset_sublist {α : Type} (l : List α) (amount offset : Int) :
    (SQLiteStore.limitOffset l amount offset).Sublist l := by
  unfold SQLiteStore.limitOffset
  split
  · exact List.drop_sublist _ _
  · exact (List.take_sublist _ _).trans (List.drop_sublist _ _)

section Batch

variable {evs : List Event} {g : Ledger}
  (scb : Explorer → Address → Explorer × Except GoError Currency)
  (sfb : Explorer → Address → Explorer × Except GoError (BitVec 64))

/-- The explorer's Store has no error latched, and its view agrees with a ledger reached by
`evs` and holds only rows that the run's calls inserted. -/
def Explorer.ReadsLedger (evs : List Event) (g : Ledger) (e : Explorer) : Prop :=
  e.db.Clean ∧ Agrees g e.db.view.tables ∧ RowsFrom (issuedBy evs) e.db.view.tables

/-- A read opens a transaction on the view, which keeps it. -/
theorem Explorer.ReadsLedger.beginTx {e : Explorer} (h : e.ReadsLedger evs g) :
    ({ e with db := e.db.beginTx } : Explorer).ReadsLedger evs g := by
  obtain ⟨hc, ha, hr⟩ := h
  exact ⟨SQLiteStore.beginTx_clean hc, by simpa using ha, by simpa using hr⟩

theorem Explorer.api_Transactions {e : Explorer} (h : e.ReadsLedger evs g) (address : Address)
    (amount offset : Int) :
    (Explorer.api scb sfb).Transactions e address amount offset = ({ e with db := e.db.beginTx },
      .ok (SQLiteStore.limitOffset (addressHistory g address) amount offset)) := by
  simp only [Explorer.api, Explorer.onStore, SQLiteStore.Transactions_agrees h.1 h.2.1]

theorem Explorer.api_Transaction (hrun : Ledger.Run {} evs g) {e : Explorer}
    (h : e.ReadsLedger evs g) {txn : Transaction} (htxn : txn ∈ appliedTransactions g) :
    (Explorer.api scb sfb).Transaction e txn.ID = ({ e with db := e.db.beginTx }, .ok txn) := by
  simp only [Explorer.api, Explorer.onStore,
    SQLiteStore.Transaction_applied hrun h.1 h.2.1 h.2.2 htxn]

/-- One request of a batch answers its page of the transactions involving its address. -/
theorem Explorer.pageTransactions_ledger (hrun : Ledger.Run {} evs g)
    (syncer : Api.Syncer SiaExplorer.Explorer) (pool : Api.TransactionPool SiaExplorer.Explorer)
    {e : SiaExplorer.Explorer} (h : e.ReadsLedger evs g)
    (etr : Api.ExplorerTransactionsRequest) :
    (Api.pageTransactions ⟨syncer, Explorer.api scb sfb, pool⟩ e etr).1.ReadsLedger evs g ∧
      (Api.pageTransactions ⟨syncer, Explorer.api scb sfb, pool⟩ e etr).2 =
        .ok (SQLiteStore.limitOffset ((appliedTransactions g).filter (etr.Address ∈ txnAddresses ·))
          etr.Amount etr.Offset) := by
  simp only [Api.pageTransactions, Explorer.api_Transactions scb sfb h, Api.asFailure]
  rw [SiaExplorer.addressHistory, SQLiteStore.limitOffset_map]
  refine Api.forItems_forall₂ (Explorer.ReadsLedger evs g)
    (List.forall₂_map_left_iff.2 (List.forall₂_same.2 fun txn htxn st hst => ?_)) h.beginTx
  have hmem := (SQLiteStore.limitOffset_sublist _ _ _).subset htxn
  rw [Explorer.api_Transaction scb sfb hrun hst (List.mem_filter.1 hmem).1]
  exact ⟨hst.beginTx, rfl⟩

/-- On a Store that reads a ledger, `POST /batch/addresses/transactions` answers each request of
its body with its page of the ledger's history. -/
theorem Explorer.ReadsLedger.batchTransactions (hrun : Ledger.Run {} evs g) {e : Explorer}
    (h : e.ReadsLedger evs g) (syncer : Api.Syncer Explorer) (pool : Api.TransactionPool Explorer)
    (c : Api.Codec) (body : String) (etrs : List Api.ExplorerTransactionsRequest)
    (hbody : c.transactionsRequests body = .ok etrs) :
    (Api.NewServer ⟨syncer, Explorer.api scb sfb, pool⟩ c e
      { method := "POST", path := ["batch", "addresses", "transactions"], body }).2 =
      .json (.transactionLists (etrs.map fun etr => SQLiteStore.limitOffset
        ((appliedTransactions g).filter (etr.Address ∈ txnAddresses ·)) etr.Amount
          etr.Offset)) := by
  have hroute : Api.lookup "POST" ["batch", "addresses", "transactions"] =
      some (.batchAddressesTransactionsHandler, []) := by decide
  simp only [Api.NewServer, hroute, Api.HandlerName.run, Api.batchAddressesTransactionsHandler,
    Api.decodeOr, hbody, Api.writeItems]
  rw [(Api.forItems_forall₂ (Explorer.ReadsLedger evs g)
    (List.forall₂_map_right_iff.2 (List.forall₂_same.2 fun etr _ st hst =>
      Explorer.pageTransactions_ledger scb sfb hrun syncer pool hst etr)) h).2]

/-- **Batched history on the committed Store.** After a run of valid calls from genesis that
all return `nil` and whose last call commits, `POST /batch/addresses/transactions` answers, for
each request of its body in order, the page `LIMIT amount OFFSET offset` of the transactions
of every applied block that involve the request's address, in the order they were applied. -/
theorem committed_batch_transactions {cs : State} {hs : HashStore} {evfs : List (Event × Faults)}
    {e : Explorer} {errs : List (Option GoError)} (hrun : Ledger.Run {} (evfs.map (·.1)) g)
    (he : (NewExplorer cs NewEphemeralStore hs).run evfs = .ok (e, errs))
    (hnil : ∀ err ∈ errs, err = none) (hlast : ∀ last ∈ evfs.getLast?, last.1.commits = true)
    (syncer : Api.Syncer Explorer) (pool : Api.TransactionPool Explorer) (c : Api.Codec)
    (body : String) (etrs : List Api.ExplorerTransactionsRequest)
    (hbody : c.transactionsRequests body = .ok etrs) :
    (Api.NewServer ⟨syncer, Explorer.api scb sfb, pool⟩ c e
      { method := "POST", path := ["batch", "addresses", "transactions"], body }).2 =
      .json (.transactionLists (etrs.map fun etr => SQLiteStore.limitOffset
        ((appliedTransactions g).filter (etr.Address ∈ txnAddresses ·)) etr.Amount
          etr.Offset)) := by
  obtain ⟨-, htx, ha⟩ := Follows.committed hrun he hnil hlast
  have hview : e.db.view = e.db.db := by simp [SQLiteStore.view, htx]
  have hrows := (Explorer.run_rowsFrom (.of_committed rfl RowsFrom.empty) he).1
  exact Explorer.ReadsLedger.batchTransactions scb sfb hrun ⟨.inl htx, hview ▸ ha, hview ▸ hrows⟩
    syncer pool c body etrs hbody

theorem committed_batch_transactions_txnBlocks :
    ∃ e errs, (NewExplorer (txnBlock 0 5).State NewEphemeralStore emptyHashStore).run
        [(.apply (txnBlock 0 5) true, Faults.never), (.apply (txnBlock 1 6) true, Faults.never)] =
        .ok (e, errs) ∧ (∀ err ∈ errs, err = none) ∧
      (Api.NewServer ⟨idleSyncer, Explorer.api noBalance noBalance, idlePool⟩ pageCodec e
        { method := "POST", path := ["batch", "addresses", "transactions"] }).2 =
        .json (.transactionLists [(txnBlock 1 6).Block.Transactions,
          (txnBlock 0 5).Block.Transactions ++ (txnBlock 1 6).Block.Transactions]) :=
  ⟨_, _, rfl, by decide, (@committed_batch_transactions
    ⟨[txnBlock 0 5, txnBlock 1 6], [txnBlock 0 5, txnBlock 1 6]⟩ noBalance noBalance
    (txnBlock 0 5).State emptyHashStore
    [(.apply (txnBlock 0 5) true, Faults.never), (.apply (txnBlock 1 6) true, Faults.never)] _ _
    (Ledger.replay_run rfl) rfl (by decide) (by decide) idleSyncer idlePool pageCodec "" _
    rfl).trans (by decide)⟩

end Batch

end SiaExplorer
