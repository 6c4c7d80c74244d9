import SiaExplorer.Model.HashStore
import SiaExplorer.Model.SQLiteStore

/-!
# The explorer (`explorer.go`)

`Explorer` holds the Store (a `SQLiteStore`), the `HashStore`, and the cached `tipStats` and
`cs`. The two update handlers are modelled loop by loop:

* `ProcessChainApplyUpdate` writes the state, the transactions, the removals and the additions,
  keeps the rolling stats in step, calls `ModifyLeaf` for every touched element (ignoring its
  error), writes the stats, caches the new tip, and commits both stores when `mayCommit`;
* `ProcessChainRevertUpdate` undoes the additions and removals in its own order, reloads
  `tipStats` from the Store, caches the new tip and commits the Store;
* `Explorer.run` feeds a sequence of such calls, each with the faults of its own call.

A Go panic (a `Currency.Sub` below zero, a proof of more than 64 hashes) is `throw`.
-/

namespace SiaExplorer

/-- Where the disk and the database fail during one call. -/
structure Faults where
  disk : DiskFaults
  db : DbFaults

/-- No failures. -/
def Faults.never : Faults := ⟨DiskFaults.never, DbFaults.never⟩

/-- `Explorer`: the Store, the cached tip stats and consensus state, the HashStore. -/
structure Explorer where
  db : SQLiteStore
  tipStats : ChainStats
  cs : State
  hs : HashStore

/-- `NewExplorer`: `tipStats` keeps its zero value. -/
def NewExplorer (cs : State) (store : SQLiteStore) (hashStore : HashStore) : Explorer :=
  { db := store, tipStats := ChainStats.zero, cs, hs := hashStore }

/-- Modelled from the spec: `(*Explorer).ChainStats` is declared outside `src/`; the spec's
`chain_stats(idx)` reads the Store's `chainstats` row. -/
def Explorer.ChainStats (e : Explorer) (index : ChainIndex) :
    Explorer × Except GoError SiaExplorer.ChainStats :=
  let (db, r) := e.db.ChainStats index
  ({ e with db }, r)

/-! ## The rolling stats -/

namespace ChainStats

/-- The `stats` literal of `ProcessChainApplyUpdate`: the block, and the cumulative counters of
`tipStats`; the spent counts start from zero. -/
def seed (tip : ChainStats) (b : SiaExplorer.Block) : ChainStats :=
  { Block := b
    ActiveContractCost := tip.ActiveContractCost
    ActiveContractCount := tip.ActiveContractCount
    ActiveContractSize := tip.ActiveContractSize
    TotalContractCost := tip.TotalContractCost
    TotalContractSize := tip.TotalContractSize
    TotalRevisionVolume := tip.TotalRevisionVolume }

/-- `stats.SpentSiacoinsCount++`. -/
def spendSiacoin (s : ChainStats) : ChainStats :=
  { s with SpentSiacoinsCount := s.SpentSiacoinsCount + 1 }

/-- `stats.SpentSiafundsCount++`. -/
def spendSiafund (s : ChainStats) : ChainStats :=
  { s with SpentSiafundsCount := s.SpentSiafundsCount + 1 }

/-- A resolved contract: one fewer active contract, its payout off the cost (`Sub` panics below
zero), its size off the size. -/
def resolve (s : ChainStats) (fc : FileContract) : Except Panic ChainStats := do
  let cost ← s.ActiveContractCost.Sub fc.payout
  pure { s with
    ActiveContractCount := s.ActiveContractCount - 1
    ActiveContractCost := cost
    ActiveContractSize := s.ActiveContractSize - fc.Filesize }

/-- A revised contract: its size onto the total size and the revision volume. -/
def revise (s : ChainStats) (fc : FileContract) : ChainStats :=
  { s with
    TotalContractSize := s.TotalContractSize + fc.Filesize
    TotalRevisionVolume := s.TotalRevisionVolume + fc.Filesize }

/-- A new contract: one more active contract, its payout onto both costs, its size onto both
sizes. -/
def form (s : ChainStats) (fc : FileContract) : ChainStats :=
  { s with
    ActiveContractCount := s.ActiveContractCount + 1
    ActiveContractCost := s.ActiveContractCost.Add fc.payout
    ActiveContractSize := s.ActiveContractSize + fc.Filesize
    TotalContractCost := s.TotalContractCost.Add fc.payout
    TotalContractSize := s.TotalContractSize + fc.Filesize }

end ChainStats

/-! ## The update handlers -/

/-- The values the loops of the update handlers carry. -/
structure Loop where
  db : SQLiteStore
  stats : ChainStats
  hs : HashStore

/-- A `for _, elem := range xs` loop of the update handlers: per element, the Store writes
`write`, the stats change `count`, and `ModifyLeaf` of the `StateElement` that `leaf` gives,
its error ignored. -/
def forEach {α : Type} (d : DiskFaults) (write : SQLiteStore → α → SQLiteStore)
    (count : ChainStats → α → Except Panic ChainStats) (leaf : α → Option StateElement) :
    List α → Loop → Except Panic Loop
  | [], l => pure l
  | x :: xs, l => do
    let stats ← count l.stats x
    let hs ← match leaf x with
      | some elem => do
        let (hs, _) ← l.hs.ModifyLeaf d elem
        pure hs
      | none => pure l.hs
    forEach d write count leaf xs ⟨write l.db x, stats, hs⟩

/-- The addresses collected in `addrMap`: the parents of the inputs and the outputs, each once.
Go's map order is unspecified; the model keeps one order. -/
def txnAddresses (txn : Transaction) : List Address :=
  (txn.SiacoinInputs.map (·.Parent.Address) ++ txn.SiacoinOutputs.map (·.Address) ++
    txn.SiafundInputs.map (·.Parent.Address) ++ txn.SiafundOutputs.map (·.Address)).dedup

/-- The contract revisions of a block, transaction by transaction. -/
def Block.revisions (b : Block) : List FileContractRevision :=
  b.Transactions.flatMap (·.FileContractRevisions)

/-- The end of `ProcessChainApplyUpdate`: with `mayCommit`, `hs.Commit` and then `db.Commit`; a
failed `hs.Commit` returns before `db.Commit`. -/
def Explorer.commitApply (e : Explorer) (f : Faults) (mayCommit : Bool) :
    Except Panic (Explorer × Option GoError) :=
  if mayCommit then
    match e.hs.Commit f.disk with
    | some err => pure (e, some err)
    | none => do
      let (db, err) ← e.db.Commit f.db
      pure ({ e with db }, err)
  else pure (e, none)

/-- The end of `ProcessChainRevertUpdate`: reload `tipStats` from the Store, cache the new tip,
and commit the Store. -/
def Explorer.reloadTip (e : Explorer) (f : Faults) (cru : RevertUpdate) :
    Except Panic (Explorer × Option GoError) :=
  let (e, oldStats) := e.ChainStats cru.State.Index
  match oldStats with
  | .error err => pure (e, some err)
  | .ok oldStats => do
    let (db, err) ← e.db.Commit f.db
    pure ({ e with db, cs := cru.State, tipStats := oldStats }, err)

/-- `ProcessChainApplyUpdate`. -/
def Explorer.ProcessChainApplyUpdate (e : Explorer) (f : Faults) (cau : ApplyUpdate)
    (mayCommit : Bool) : Except Panic (Explorer × Option GoError) := do
  let db := e.db.AddState f.db cau.Block.Header.Index cau.State
  let db := cau.Block.Transactions.foldl
    (fun db txn => db.AddTransaction f.db txn (txnAddresses txn) cau.Block.Header.Index) db
  let l ← forEach f.disk
    (fun db elem =>
      (db.RemoveElement f.db elem.ID).RemoveUnspentSiacoinElement f.db elem.Address elem.ID)
    (fun s _ => pure s.spendSiacoin) (fun elem => some elem.toStateElement)
    cau.SpentSiacoins ⟨db, e.tipStats.seed cau.Block, e.hs⟩
  let l ← forEach f.disk
    (fun db elem =>
      (db.RemoveElement f.db elem.ID).RemoveUnspentSiafundElement f.db elem.Address elem.ID)
    (fun s _ => pure s.spendSiafund) (fun elem => some elem.toStateElement) cau.SpentSiafunds l
  let l ← forEach f.disk (fun db elem => db.RemoveElement f.db elem.ID)
    (fun s elem => s.resolve elem.FileContract) (fun elem => some elem.toStateElement)
    cau.ResolvedFileContracts l
  let l ← forEach f.disk
    (fun db elem =>
      (db.AddSiacoinElement f.db elem).AddUnspentSiacoinElement f.db elem.Address elem.ID)
    (fun s _ => pure s) (fun elem => some elem.toStateElement) cau.NewSiacoinElements l
  let l ← forEach f.disk
    (fun db elem =>
      (db.AddSiafundElement f.db elem).AddUnspentSiafundElement f.db elem.Address elem.ID)
    (fun s _ => pure s) (fun elem => some elem.toStateElement) cau.NewSiafundElements l
  let l ← forEach f.disk (fun db elem => db.AddFileContractElement f.db elem)
    (fun s elem => pure (s.revise elem.FileContract)) (fun elem => some elem.toStateElement)
    cau.RevisedFileContracts l
  let l ← forEach f.disk (fun db elem => db.AddFileContractElement f.db elem)
    (fun s elem => pure (s.form elem.FileContract)) (fun elem => some elem.toStateElement)
    cau.NewFileContracts l
  let db := l.db.AddChainStats f.db cau.State.Index l.stats
  { e with db, hs := l.hs, cs := cau.State, tipStats := l.stats }.commitApply f mayCommit

/-- `ProcessChainRevertUpdate`. -/
def Explorer.ProcessChainRevertUpdate (e : Explorer) (f : Faults) (cru : RevertUpdate) :
    Except Panic (Explorer × Option GoError) := do
  let l ← forEach f.disk
    (fun db elem =>
      (db.AddSiacoinElement f.db elem).AddUnspentSiacoinElement f.db elem.Address elem.ID)
    (fun s _ => pure s) (fun elem => some elem.toStateElement)
    cru.SpentSiacoins ⟨e.db, e.tipStats, e.hs⟩
  let l ← forEach f.disk
    (fun db elem =>
      (db.AddSiafundElement f.db elem).AddUnspentSiafundElement f.db elem.Address elem.ID)
    (fun s _ => pure s) (fun elem => some elem.toStateElement) cru.SpentSiafunds l
  let l ← forEach f.disk (fun db elem => db.AddFileContractElement f.db elem)
    (fun s _ => pure s) (fun elem => some elem.toStateElement) cru.ResolvedFileContracts l
  let l ← forEach f.disk
    (fun db elem =>
      (db.RemoveElement f.db elem.ID).RemoveUnspentSiacoinElement f.db elem.Address elem.ID)
    (fun s _ => pure s) (fun _ => none) cru.NewSiacoinElements l
  let l ← forEach f.disk
    (fun db elem =>
      (db.RemoveElement f.db elem.ID).RemoveUnspentSiafundElement f.db elem.Address elem.ID)
    (fun s _ => pure s) (fun _ => none) cru.NewSiafundElements l
  let l ← forEach f.disk (fun db elem => db.RemoveElement f.db elem.ID)
    (fun s _ => pure s) (fun _ => none) cru.RevisedFileContracts l
  let l ← forEach f.disk (fun db rev => db.AddFileContractElement f.db rev.Parent)
    (fun s _ => pure s) (fun rev => some rev.Parent.toStateElement) cru.Block.revisions l
  let l ← forEach f.disk (fun db elem => db.RemoveElement f.db elem.ID)
    (fun s _ => pure s) (fun _ => none) cru.NewFileContracts l
  { e with db := l.db, hs := l.hs }.reloadTip f cru

/-! ## Runs -/

/-- A call of the chain manager on its subscriber. -/
inductive Event where
  | apply (cau : ApplyUpdate) (mayCommit : Bool)
  | revert (cru : RevertUpdate)

/-- One call, with the faults of its own. -/
def Explorer.process (e : Explorer) (f : Faults) :
    Event → Except Panic (Explorer × Option GoError)
  | .apply cau mayCommit => e.ProcessChainApplyUpdate f cau mayCommit
  | .revert cru => e.ProcessChainRevertUpdate f cru

/-- A sequence of calls and the error each returned; a panic ends it. -/
def Explorer.run (e : Explorer) :
    List (Event × Faults) → Except Panic (Explorer × List (Option GoError))
  | [] => pure (e, [])
  | (ev, f) :: rest => do
    let (e, err) ← e.process f ev
    let (e, errs) ← e.run rest
    pure (e, err :: errs)

end SiaExplorer
