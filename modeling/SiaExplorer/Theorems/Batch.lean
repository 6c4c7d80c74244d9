import SiaExplorer.Logic.SQLiteStore

/-!
# A read inside a batch decides its commit

`queryRow` stores the outcome of its `Scan` in `txErr`, the error that `Commit` reports and that
makes every later write a no-op. So a read that finds no row poisons the batch it runs in: the
same writes commit without it and roll back with it.
-/

namespace SiaExplorer

/-- The index and state of the one write of the batch below. -/
def genesisIndex : ChainIndex := ⟨0, ⟨0⟩⟩

/-- A consensus state at `genesisIndex` with an empty accumulator. -/
def genesisState : State := ⟨genesisIndex, ⟨[]⟩⟩

/-- On a new store, `AddState` then `Commit` commits the state; with a `SiacoinElement` read of
an absent id before the write, the write alone still succeeds on the pending tables, yet
`Commit` returns `sql.ErrNoRows` and the committed tables stay empty. -/
theorem missedRead_poisons_batch :
    (execAll DbFaults.never [.insertState genesisIndex genesisState] NewEphemeralStore.view).2
      = none ∧
    (∃ s, ((NewEphemeralStore.AddState DbFaults.never genesisIndex genesisState).Commit
      DbFaults.never) = .ok (s, none) ∧ s.db.tables.states = [(genesisIndex, genesisState)]) ∧
    ∃ s, (((NewEphemeralStore.SiacoinElement ⟨0⟩).1.AddState DbFaults.never genesisIndex
      genesisState).Commit DbFaults.never) = .ok (s, some .noRows) ∧ s.db.tables = {} :=
  ⟨rfl, ⟨_, rfl, rfl⟩, ⟨_, rfl, rfl⟩⟩

end SiaExplorer
