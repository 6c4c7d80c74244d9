import SiaExplorer.Logic.SQLiteStore
import SiaExplorer.Model.Explorer

/-!
# What one update does

The loops of the update handlers touch three independent things: the Store, the stats and the
HashStore. Up to which panic is reported first, a handler is the three computed on their own:

* `forEach_toOption`: one loop is its writes, its stats fold and its `ModifyLeaf` calls;
* `Loop.parts_bind_parts`: two loops in a row are one;
* `ProcessChainApplyUpdate_toOption`, `ProcessChainRevertUpdate_toOption`: a handler is its
  statements (`ApplyUpdate.statements`), its stats (`applyStats`) and its leaves, followed by
  its tail;
* `Explorer.commitApply_true_cases`, `Explorer.reloadTip_cases`: what each tail can return.

`Except.toOption` forgets the panic's message, which is what makes the three commute.
-/

namespace SiaExplorer

section ToOption

variable {ε α β : Type}

@[simp] theorem Except.toOption_bind (x : Except ε α) (f : α → Except ε β) :
    (x >>= f).toOption = x.toOption.bind fun a => (f a).toOption := by
  cases x <;> rfl

@[simp] theorem Except.toOption_pure (a : α) : (pure a : Except ε α).toOption = some a := rfl

@[simp] theorem Except.toOption_ok (a : α) : (Except.ok a : Except ε α).toOption = some a := rfl

@[simp] theorem Except.toOption_error (e : ε) : (Except.error e : Except ε α).toOption = none :=
  rfl

theorem Except.eq_ok_iff_toOption {x : Except ε α} {a : α} :
    x = .ok a ↔ x.toOption = some a := by
  cases x <;> simp [Except.toOption]

end ToOption

theorem HashStore.modifyLeaves_append (hs : HashStore) (d : DiskFaults)
    (es es' : List StateElement) :
    hs.modifyLeaves d (es ++ es') = hs.modifyLeaves d es >>= fun hs => hs.modifyLeaves d es' := by
  induction es generalizing hs with
  | nil => rfl
  | cons e es ih => simp [HashStore.modifyLeaves, ih]

/-- The Store writes, the stats and the HashStore of a stretch of loops, each computed on its
own; `none` when one of them panics. -/
def Loop.parts (d : DiskFaults) (write : SQLiteStore → SQLiteStore)
    (count : ChainStats → Except Panic ChainStats) (leaves : List StateElement) (l : Loop) :
    Option Loop :=
  (count l.stats).toOption.bind fun stats =>
    (l.hs.modifyLeaves d leaves).toOption.map fun hs => ⟨write l.db, stats, hs⟩

theorem forEach_toOption {α : Type} (d : DiskFaults) (w : SQLiteStore → α → SQLiteStore)
    (c : ChainStats → α → Except Panic ChainStats) (leaf : α → Option StateElement)
    (xs : List α) (l : Loop) :
    (forEach d w c leaf xs l).toOption =
      Loop.parts d (fun db => xs.foldl w db) (fun s => xs.foldlM c s) (xs.filterMap leaf) l := by
  induction xs generalizing l with
  | nil => simp [forEach, Loop.parts, HashStore.modifyLeaves]
  | cons x xs ih =>
    cases hc : c l.stats x with
    | error => simp [forEach, Loop.parts, hc]
    | ok s =>
      cases hx : leaf x with
      | none => simp [forEach, Loop.parts, hc, hx, ih]
      | some se =>
        cases hm : l.hs.ModifyLeaf d se with
        | error =>
          cases xs.foldlM c s <;> simp [forEach, Loop.parts, hc, hx, hm, HashStore.modifyLeaves]
        | ok r => simp [forEach, Loop.parts, hc, hx, hm, ih, HashStore.modifyLeaves]

@[simp] theorem Loop.parts_bind_parts (d : DiskFaults) (w₁ w₂ : SQLiteStore → SQLiteStore)
    (c₁ c₂ : ChainStats → Except Panic ChainStats) (lv₁ lv₂ : List StateElement) (l : Loop)
    {γ : Type} (k : Loop → Option γ) :
    ((Loop.parts d w₁ c₁ lv₁ l).bind fun l' => (Loop.parts d w₂ c₂ lv₂ l').bind k) =
      (Loop.parts d (fun db => w₂ (w₁ db)) (fun s => c₁ s >>= c₂) (lv₁ ++ lv₂) l).bind k := by
  simp only [Loop.parts, Except.toOption_bind, HashStore.modifyLeaves_append]
  cases c₁ l.stats with
  | error => rfl
  | ok s =>
    cases l.hs.modifyLeaves d lv₁ with
    | error => cases c₂ s <;> simp
    | ok hs => cases c₂ s <;> simp

@[simp] theorem List.foldlM_pure_self {ε σ α : Type} (xs : List α) (s : σ) :
    xs.foldlM (fun s _ => (pure s : Except ε σ)) s = pure s := by
  induction xs <;> simp_all

@[simp] theorem List.filterMap_some_fun {α β : Type} (xs : List α) (f : α → β) :
    xs.filterMap (fun x => some (f x)) = xs.map f :=
  congrFun (List.filterMap_eq_map f) xs

@[simp] theorem List.filterMap_none_fun {α β : Type} (xs : List α) :
    xs.filterMap (fun _ => (none : Option β)) = [] := by
  induction xs <;> simp_all

/-! ## The apply handler -/

/-- The stats `ProcessChainApplyUpdate` computes from `tip`, loop by loop. -/
def applyStats (tip : ChainStats) (cau : ApplyUpdate) : Except Panic ChainStats := do
  let s ← cau.SpentSiacoins.foldlM (fun s _ => pure s.spendSiacoin) (tip.seed cau.Block)
  let s ← cau.SpentSiafunds.foldlM (fun s _ => pure s.spendSiafund) s
  let s ← cau.ResolvedFileContracts.foldlM (fun s elem => s.resolve elem.FileContract) s
  let s ← cau.RevisedFileContracts.foldlM (fun s elem => pure (s.revise elem.FileContract)) s
  cau.NewFileContracts.foldlM (fun s elem => pure (s.form elem.FileContract)) s

/-- The statements of `AddTransaction`. -/
def Transaction.statements (txn : Transaction) : List Statement :=
  .insertTransaction txn.ID txn :: (txnAddresses txn).map (.insertAddressTransaction · txn.ID)

/-- The statements `ProcessChainApplyUpdate` issues, in order; `stats` is the row it writes to
`chainstats`. -/
def ApplyUpdate.statements (cau : ApplyUpdate) (stats : ChainStats) : List Statement :=
  [.insertState cau.Block.Header.Index cau.State] ++
  cau.Block.Transactions.flatMap Transaction.statements ++
  cau.SpentSiacoins.flatMap
    (fun e => [.deleteElement e.ID, .deleteUnspentElement e.Address e.ID .siacoin]) ++
  cau.SpentSiafunds.flatMap
    (fun e => [.deleteElement e.ID, .deleteUnspentElement e.Address e.ID .siafund]) ++
  cau.ResolvedFileContracts.map (fun e => .deleteElement e.ID) ++
  cau.NewSiacoinElements.flatMap (fun e =>
    [.insertElement e.ID .siacoin (.siacoin e), .insertUnspentElement e.Address .siacoin e.ID]) ++
  cau.NewSiafundElements.flatMap (fun e =>
    [.insertElement e.ID .siafund (.siafund e), .insertUnspentElement e.Address .siafund e.ID]) ++
  cau.RevisedFileContracts.map (fun e => .insertElement e.ID .contract (.contract e)) ++
  cau.NewFileContracts.map (fun e => .insertElement e.ID .contract (.contract e)) ++
  [.insertChainStats cau.State.Index.String stats]

/-- The `StateElement`s `ProcessChainApplyUpdate` passes to `ModifyLeaf`, in order. -/
def ApplyUpdate.leaves (cau : ApplyUpdate) : List StateElement :=
  cau.SpentSiacoins.map (·.toStateElement) ++ cau.SpentSiafunds.map (·.toStateElement) ++
  cau.ResolvedFileContracts.map (·.toStateElement) ++
  cau.NewSiacoinElements.map (·.toStateElement) ++ cau.NewSiafundElements.map (·.toStateElement) ++
  cau.RevisedFileContracts.map (·.toStateElement) ++ cau.NewFileContracts.map (·.toStateElement)

theorem ProcessChainApplyUpdate_toOption (e : Explorer) (f : Faults) (cau : ApplyUpdate)
    (mayCommit : Bool) :
    (e.ProcessChainApplyUpdate f cau mayCommit).toOption =
      (applyStats e.tipStats cau).toOption.bind fun stats =>
        (e.hs.modifyLeaves f.disk cau.leaves).toOption.bind fun hs =>
          ({ e with
              db := e.db.execStatements f.db (cau.statements stats)
              hs, cs := cau.State, tipStats := stats }.commitApply f mayCommit).toOption := by
  simp only [Explorer.ProcessChainApplyUpdate, Except.toOption_bind, forEach_toOption,
    Loop.parts_bind_parts]
  simp only [Loop.parts, applyStats, Except.toOption_bind, Option.bind_assoc, Option.bind_map,
    bind_assoc, List.foldlM_pure_self, pure_bind, List.filterMap_some_fun, ApplyUpdate.leaves,
    List.append_assoc, Function.comp_def]
  simp only [ApplyUpdate.statements, Transaction.statements, SQLiteStore.execStatements_append,
    SQLiteStore.execStatements_flatMap, SQLiteStore.execStatements_map,
    SQLiteStore.execStatements_cons, SQLiteStore.execStatements_nil, SQLiteStore.AddState,
    SQLiteStore.AddTransaction, SQLiteStore.RemoveElement, SQLiteStore.RemoveUnspentSiacoinElement,
    SQLiteStore.RemoveUnspentSiafundElement, SQLiteStore.AddSiacoinElement,
    SQLiteStore.AddSiafundElement, SQLiteStore.AddUnspentSiacoinElement,
    SQLiteStore.AddUnspentSiafundElement, SQLiteStore.AddFileContractElement,
    SQLiteStore.AddChainStats]

/-- `ProcessChainApplyUpdate` returns exactly when its stats and its `ModifyLeaf` calls do not
panic, and then its tail runs on the Store after its statements. -/
theorem ProcessChainApplyUpdate_eq_ok {e : Explorer} {f : Faults} {cau : ApplyUpdate}
    {mayCommit : Bool} {r : Explorer × Option GoError} :
    e.ProcessChainApplyUpdate f cau mayCommit = .ok r ↔
      ∃ stats hs, applyStats e.tipStats cau = .ok stats ∧
        e.hs.modifyLeaves f.disk cau.leaves = .ok hs ∧
        { e with
          db := e.db.execStatements f.db (cau.statements stats)
          hs, cs := cau.State, tipStats := stats }.commitApply f mayCommit = .ok r := by
  simp only [Except.eq_ok_iff_toOption, ProcessChainApplyUpdate_toOption, Option.bind_eq_some,
    exists_and_left]

/-! ## The revert handler -/

/-- The statements `ProcessChainRevertUpdate` issues, in order. -/
def RevertUpdate.statements (cru : RevertUpdate) : List Statement :=
  cru.SpentSiacoins.flatMap (fun e =>
    [.insertElement e.ID .siacoin (.siacoin e), .insertUnspentElement e.Address .siacoin e.ID]) ++
  cru.SpentSiafunds.flatMap (fun e =>
    [.insertElement e.ID .siafund (.siafund e), .insertUnspentElement e.Address .siafund e.ID]) ++
  cru.ResolvedFileContracts.map (fun e => .insertElement e.ID .contract (.contract e)) ++
  cru.NewSiacoinElements.flatMap
    (fun e => [.deleteElement e.ID, .deleteUnspentElement e.Address e.ID .siacoin]) ++
  cru.NewSiafundElements.flatMap
    (fun e => [.deleteElement e.ID, .deleteUnspentElement e.Address e.ID .siafund]) ++
  cru.RevisedFileContracts.map (fun e => .deleteElement e.ID) ++
  cru.Block.revisions.map
    (fun rev => .insertElement rev.Parent.ID .contract (.contract rev.Parent)) ++
  cru.NewFileContracts.map (fun e => .deleteElement e.ID)

/-- The `StateElement`s `ProcessChainRevertUpdate` passes to `ModifyLeaf`, in order. -/
def RevertUpdate.leaves (cru : RevertUpdate) : List StateElement :=
  cru.SpentSiacoins.map (·.toStateElement) ++ cru.SpentSiafunds.map (·.toStateElement) ++
  cru.ResolvedFileContracts.map (·.toStateElement) ++
  cru.Block.revisions.map (·.Parent.toStateElement)

theorem ProcessChainRevertUpdate_toOption (e : Explorer) (f : Faults) (cru : RevertUpdate) :
    (e.ProcessChainRevertUpdate f cru).toOption =
      (e.hs.modifyLeaves f.disk cru.leaves).toOption.bind fun hs =>
        ({ e with db := e.db.execStatements f.db cru.statements, hs }.reloadTip f cru).toOption :=
    by
  simp only [Explorer.ProcessChainRevertUpdate, Except.toOption_bind, forEach_toOption,
    Loop.parts_bind_parts]
  simp only [Loop.parts, Except.toOption_bind, Option.bind_assoc, Option.bind_map, bind_assoc,
    List.foldlM_pure_self, pure_bind, List.filterMap_some_fun, List.filterMap_none_fun,
    RevertUpdate.leaves, List.append_assoc, List.nil_append, List.append_nil, Function.comp_def,
    Except.toOption_pure, Option.some_bind]
  simp only [RevertUpdate.statements, SQLiteStore.execStatements_append,
    SQLiteStore.execStatements_flatMap, SQLiteStore.execStatements_map,
    SQLiteStore.execStatements_cons, SQLiteStore.execStatements_nil, SQLiteStore.RemoveElement,
    SQLiteStore.RemoveUnspentSiacoinElement, SQLiteStore.RemoveUnspentSiafundElement,
    SQLiteStore.AddSiacoinElement, SQLiteStore.AddSiafundElement,
    SQLiteStore.AddUnspentSiacoinElement, SQLiteStore.AddUnspentSiafundElement,
    SQLiteStore.AddFileContractElement]

/-- `ProcessChainRevertUpdate` returns exactly when its `ModifyLeaf` calls do not panic, and then
its tail runs on the Store after its statements. -/
theorem ProcessChainRevertUpdate_eq_ok {e : Explorer} {f : Faults} {cru : RevertUpdate}
    {r : Explorer × Option GoError} :
    e.ProcessChainRevertUpdate f cru = .ok r ↔
      ∃ hs, e.hs.modifyLeaves f.disk cru.leaves = .ok hs ∧
        { e with db := e.db.execStatements f.db cru.statements, hs }.reloadTip f cru = .ok r := by
  simp only [Except.eq_ok_iff_toOption, ProcessChainRevertUpdate_toOption, Option.bind_eq_some]

/-! ## The tails -/

/-- What `commitApply` with `mayCommit` can return: the HashStore's `Commit` error, or what the
Store's `Commit` returned, on the explorer holding the committed Store. -/
theorem Explorer.commitApply_true_cases {e : Explorer} {f : Faults}
    {r : Explorer × Option GoError} (h : e.commitApply f true = .ok r) :
    (∃ err, e.hs.Commit f.disk = some err ∧ r = (e, some err)) ∨
      ∃ db err, e.db.Commit f.db = .ok (db, err) ∧ r = ({ e with db }, err) := by
  rw [Explorer.commitApply, if_pos rfl] at h
  cases hhs : e.hs.Commit f.disk with
  | some err => rw [hhs] at h; exact .inl ⟨err, rfl, (Except.ok.inj h).symm⟩
  | none =>
    rw [hhs] at h
    cases hc : e.db.Commit f.db with
    | error p => rw [hc] at h; cases h
    | ok q =>
      obtain ⟨db, err⟩ := q
      rw [hc] at h
      exact .inr ⟨db, err, rfl, (Except.ok.inj h).symm⟩

/-- What `reloadTip` can return: the `ChainStats` read's error, or what the Store's `Commit`
returned, on the explorer caching the parent. -/
theorem Explorer.reloadTip_cases {e : Explorer} {f : Faults} {cru : RevertUpdate}
    {r : Explorer × Option GoError} (h : e.reloadTip f cru = .ok r) :
    (∃ err, (e.db.ChainStats cru.State.Index).2 = .error err ∧
      r = ({ e with db := (e.db.ChainStats cru.State.Index).1 }, some err)) ∨
    ∃ stats db err, (e.db.ChainStats cru.State.Index).2 = .ok stats ∧
      (e.db.ChainStats cru.State.Index).1.Commit f.db = .ok (db, err) ∧
      r = ({ e with db, cs := cru.State, tipStats := stats }, err) := by
  simp only [Explorer.reloadTip, Explorer.ChainStats] at h
  split at h
  · rename_i err hq
    exact .inl ⟨err, hq, (Except.ok.inj h).symm⟩
  · rename_i stats hq
    cases hc : (e.db.ChainStats cru.State.Index).1.Commit f.db with
    | error p => rw [hc] at h; cases h
    | ok q =>
      obtain ⟨db, err⟩ := q
      rw [hc] at h
      exact .inr ⟨stats, db, err, hq, rfl, (Except.ok.inj h).symm⟩

end SiaExplorer
