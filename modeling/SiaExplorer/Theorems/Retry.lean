import SiaExplorer.Theorems.Reorg

/-!
# Retrying an apply

`ProcessChainApplyUpdate` caches the block's stats and state before it commits, and a failed
commit keeps them, so a caller retrying a failed update meets an explorer that has already
counted the block.

* **Each attempt counts the block** (`attempts_count_block`): n calls of
  `ProcessChainApplyUpdate(cau, true)`, whatever each returns, cache the block's stats step
  applied n times to the stats cached before the first; the call that finally returns `nil`
  commits those stats as the block's `chainstats` row.
* **A retry after a failed hash-store commit fails** (`retry_after_pending_fails`): when the hash
  store's `Commit` fails, the Store's transaction stays open with the block's writes pending, and
  the next call for the same update returns an error, its `states` row conflicting with the
  pending one, and commits nothing.
-/

namespace SiaExplorer

/-- `commitApply` leaves the cached stats as they are, whatever it returns. -/
theorem Explorer.commitApply_tipStats {e e' : Explorer} {f : Faults} {m : Bool}
    {err : Option GoError} (h : e.commitApply f m = .ok (e', err)) : e'.tipStats = e.tipStats := by
  cases err with
  | none => exact (Explorer.commitApply_eq_ok_none h).1
  | some err =>
    cases m with
    | false => cases h
    | true => exact (Explorer.commitApply_eq_ok_some h).1

/-- An apply that returns, whatever it returns, has cached the block's stats step applied to the
stats it found. -/
theorem ProcessChainApplyUpdate_tipStats {e e' : Explorer} {f : Faults} {cau : ApplyUpdate}
    {m : Bool} {err : Option GoError} (h : e.ProcessChainApplyUpdate f cau m = .ok (e', err)) :
    applyStats e.tipStats cau = .ok e'.tipStats := by
  obtain ⟨stats, hs, hstats, -, hc⟩ := ProcessChainApplyUpdate_eq_ok.1 h
  rw [hstats, Explorer.commitApply_tipStats hc]

/-- An apply with `mayCommit` that returns `nil` has committed the stats it cached as its block's
`chainstats` row. -/
theorem ProcessChainApplyUpdate_commits_stats {e e' : Explorer} {f : Faults} {cau : ApplyUpdate}
    (h : e.ProcessChainApplyUpdate f cau true = .ok (e', none)) :
    (e'.db.ChainStats cau.State.Index).2 = .ok e'.tipStats := by
  obtain ⟨stats, hs, -, -, hc⟩ := ProcessChainApplyUpdate_eq_ok.1 h
  obtain ⟨htip, -, hcommit, -⟩ := Explorer.commitApply_eq_ok_none hc
  dsimp only at htip hcommit
  obtain ⟨db, -, -, -, hdb⟩ := SQLiteStore.Commit_eq_ok_none (hcommit rfl)
  obtain ⟨hclean, hview⟩ := SQLiteStore.Commit_view (hcommit rfl)
  have htables := (SQLiteStore.execStatements_of_clean hclean).2
  refine SQLiteStore.ChainStats_committed (by rw [hdb]) ?_
  have hv : e'.db.view = e'.db.db := by simp [SQLiteStore.view, hdb]
  rw [← hv, hview, htables, applyAll_applyStatements, htip]
  exact List.mem_append_right _ (List.mem_singleton_self _)

/-- **Each attempt counts the block.** From any explorer state, call
`ProcessChainApplyUpdate(cau, true)` once for each of the faults `fs`. Whatever each call returns,
it caches the block's stats step applied to the stats the call before it cached, so the cached
stats count the block once per call; if the last call returns `nil`, it has committed them as the
block's `chainstats` row. -/
theorem attempts_count_block (e : Explorer) (cau : ApplyUpdate) (fs : List Faults)
    {e' : Explorer} {errs : List (Option GoError)}
    (he : e.run (fs.map fun f => (.apply cau true, f)) = .ok (e', errs)) :
    (List.replicate fs.length cau).foldlM applyStats e.tipStats = .ok e'.tipStats ∧
      (errs.getLast? = some none → (e'.db.ChainStats cau.State.Index).2 = .ok e'.tipStats) := by
  induction fs generalizing e errs with
  | nil =>
    cases he
    exact ⟨rfl, nofun⟩
  | cons f fs ih =>
    obtain ⟨e₁, err, e₂, errs', hp, hq, hr⟩ := Explorer.run_cons_eq_ok.1 he
    obtain ⟨rfl, rfl⟩ := Prod.mk.inj hr
    have hstats := ProcessChainApplyUpdate_tipStats hp
    obtain ⟨ih₁, ih₂⟩ := ih e₁ hq
    refine ⟨?_, fun hlast => ?_⟩
    · rw [List.length_cons, List.replicate_succ, List.foldlM_cons, hstats]
      exact ih₁
    · cases fs with
      | nil =>
        cases hq
        cases hlast
        exact ProcessChainApplyUpdate_commits_stats hp
      | cons f' fs =>
        obtain ⟨_, err', _, errs'', -, -, hr'⟩ := Explorer.run_cons_eq_ok.1 hq
        obtain ⟨-, rfl⟩ := Prod.mk.inj hr'
        exact ih₂ hlast

theorem attempts_count_block_contractGenesis :
    ∃ e' errs, (NewExplorer contractGenesis.State NewEphemeralStore emptyHashStore).run
        ([commitFails, Faults.never].map fun f => (.apply contractGenesis true, f)) =
        .ok (e', errs) ∧ errs = [some .io, none] ∧
      ((List.replicate 2 contractGenesis).foldlM applyStats
          (NewExplorer contractGenesis.State NewEphemeralStore emptyHashStore).tipStats =
          .ok e'.tipStats ∧
        (errs.getLast? = some none →
          (e'.db.ChainStats contractGenesis.State.Index).2 = .ok e'.tipStats)) ∧
      e'.tipStats.ActiveContractCount = 2 :=
  ⟨_, _, rfl, rfl, attempts_count_block _ _ [commitFails, Faults.never] rfl, rfl⟩

/-- A block's writes start with its `states` row. -/
theorem ApplyUpdate.statements_eq_cons (cau : ApplyUpdate) (stats : ChainStats) :
    cau.statements stats =
      .insertState cau.Block.Header.Index cau.State :: (cau.statements stats).tail := rfl

/-- From a clean store, a batch whose first statement conflicts with the tables latches an error
on the open transaction. -/
theorem SQLiteStore.execStatements_conflict {s : SQLiteStore} (hc : s.Clean) {st : Statement}
    {column : String} (hcon : st.conflict s.view.tables = some column) (f : DbFaults)
    (sts : List Statement) : (s.execStatements f (st :: sts)).Poisoned := by
  have hex : ∃ err, st.exec (f.exec st) s.view = .error err := by
    unfold Statement.exec
    split
    · exact ⟨_, rfl⟩
    · split <;> simp_all
  obtain ⟨err, hex⟩ := hex
  rw [SQLiteStore.execStatements_clean hc f (List.cons_ne_nil _ _)]
  simp [SQLiteStore.Poisoned, execAll, hex]

/-- **A retry after a failed hash-store commit fails.** A call of
`ProcessChainApplyUpdate(cau, true)` that returns an error with a transaction still open failed in
the hash store's `Commit`, before the Store's, and left the block's writes pending. Retrying the
same update, whatever its faults, returns an error too, and leaves the committed tables as they
were before the first call. -/
theorem retry_after_pending_fails {e e₁ e₂ : Explorer} {f₁ f₂ : Faults} {cau : ApplyUpdate}
    {err₁ : GoError} {err₂ : Option GoError}
    (h₁ : e.ProcessChainApplyUpdate f₁ cau true = .ok (e₁, some err₁)) (hpend : e₁.db.tx.isSome)
    (h₂ : e₁.ProcessChainApplyUpdate f₂ cau true = .ok (e₂, err₂)) :
    err₂.isSome ∧ e₂.db.db = e.db.db := by
  obtain ⟨stats₁, hs₁, -, -, hc₁⟩ := ProcessChainApplyUpdate_eq_ok.1 h₁
  -- the first call's hash-store commit failed, so its writes are pending on the Store
  have hpending : e₁.db = e.db.execStatements f₁.db (cau.statements stats₁) := by
    rcases (Explorer.commitApply_eq_ok_some hc₁).2.2 with ⟨-, htx⟩ | hdb
    · simp [htx] at hpend
    · simpa only using hdb
  obtain ⟨stats₂, hs₂, -, -, hc₂⟩ := ProcessChainApplyUpdate_eq_ok.1 h₂
  -- the retry latches an error: its block's `states` row is already pending
  have hp : (e₁.db.execStatements f₂.db (cau.statements stats₂)).Poisoned := by
    rcases SQLiteStore.clean_or_poisoned e₁.db with hc | hp
    · have htables := (SQLiteStore.execStatements_of_clean (hpending ▸ hc)).2
      have hstates : e₁.db.view.tables.states =
          e.db.view.tables.states ++ [(cau.Block.Header.Index, cau.State)] := by
        rw [hpending, htables, applyAll_applyStatements]
      have hcon : (Statement.insertState cau.Block.Header.Index cau.State).conflict
          e₁.db.view.tables = some "states.id" := by
        simp [Statement.conflict, hstates, hasKey]
      rw [ApplyUpdate.statements_eq_cons]
      exact SQLiteStore.execStatements_conflict hc hcon f₂.db _
    · rw [SQLiteStore.execStatements_poisoned hp]
      exact hp
  generalize hretry : e₁.db.execStatements f₂.db (cau.statements stats₂) = retry at hc₂ hp
  obtain ⟨hsome, hdb⟩ := Explorer.commitApply_of_poisoned hc₂ hp
  refine ⟨hsome, hdb.trans ?_⟩
  rw [← hretry, SQLiteStore.execStatements_db, hpending, SQLiteStore.execStatements_db]

/-- Every level file's `Sync` fails, so the hash store's `Commit` does. -/
def syncFails : Faults := ⟨⟨fun _ => true, fun _ _ => false⟩, DbFaults.never⟩

theorem retry_after_pending_fails_contractGenesis :
    ∃ e₁ e₂ err₁ err₂, (NewExplorer contractGenesis.State NewEphemeralStore
        emptyHashStore).ProcessChainApplyUpdate syncFails contractGenesis true =
        .ok (e₁, some err₁) ∧ e₁.db.tx.isSome ∧
      e₁.ProcessChainApplyUpdate Faults.never contractGenesis true = .ok (e₂, err₂) ∧
      err₂.isSome ∧ e₂.db.db = (NewExplorer contractGenesis.State NewEphemeralStore
        emptyHashStore).db.db :=
  ⟨_, _, _, _, rfl, rfl, rfl,
    @retry_after_pending_fails _ _ _ syncFails Faults.never contractGenesis _ _ rfl rfl rfl⟩

end SiaExplorer
