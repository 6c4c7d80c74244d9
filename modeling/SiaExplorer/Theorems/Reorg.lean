import SiaExplorer.Theorems.Outputs
import SiaExplorer.Theorems.Elements

/-!
# A revert undoes its apply, except in the history

What the explorer caches and what its Store holds of the live elements depend only on the chain
it has been run to, whatever blocks it applied and reverted on the way. Only the rows no revert
deletes remember the way.

* **The state is the chain's** (`state_of_chain`): two new explorers run to ledgers with the same
  chain cache the same stats, and hold the same elements and the same unspent rows, up to order.
* **Apply, then revert** (`apply_revert_restores`): from any state a run reaches, applying a
  valid block with `mayCommit` and then reverting it, both returning `nil`, brings back the
  cached stats, the elements and the unspent rows, up to order. The block's `transactions`,
  `states` and `chainstats` rows stay.

Elements are compared by ID and what each holds: a revert re-inserts a spent element as its
update carries it, with the proof the update gives.
-/

namespace SiaExplorer

/-- Tables agreeing with a ledger, whose rows hold live elements, hold each live element once. -/
theorem elements_perm_live {g : Ledger} {db : Database} (h : Agrees g db.tables)
    (hg : ValidChain g.chain) (hl : ElementsLive (liveOf g.chain) db.tables) :
    (db.tables.elements.map rowOutput).Perm (liveOf g.chain) := by
  have hids : (db.tables.elements.map rowOutput).map (·.1) = db.tables.elements.map (·.1) := by
    rw [List.map_map]; rfl
  refine perm_of_keys_perm hg.nodup (fun _ hx => hl hx) (List.Sublist.refl _) ?_
  rw [hids]
  refine (List.perm_ext_iff_of_nodup db.keysUnique.elements hg.nodup).2 fun id =>
    ⟨h.element_ids, fun hid => ?_⟩
  obtain ⟨p, hp, rfl⟩ := List.mem_map.1 hid
  obtain ⟨r, hr, hrk⟩ := List.mem_map.1 ((h.elements (liveKey p)).2 (List.mem_map_of_mem _ hp))
  exact List.mem_map.2 ⟨r, hr, congrArg Prod.fst hrk⟩

/-- A clean explorer following a ledger, whose rows hold live elements, caches the chain's stats
and holds exactly the chain's live elements and unspent rows. -/
theorem Follows.snapshot {g : Ledger} {e : Explorer} (hf : Follows g e) (hc : e.db.Clean)
    (hl : ElementsLive (liveOf g.chain) e.db.view.tables) :
    chainStatsOf g.chain = .ok e.tipStats ∧
      (e.db.view.tables.elements.map rowOutput).Perm (liveOf g.chain) ∧
      e.db.view.tables.unspentElements.Perm ((liveOf g.chain).filterMap unspentRow) :=
  have ha := hf.store.agrees hc
  ⟨hf.tipStats, elements_perm_live ha hf.validChain hl, unspent_perm ha hf.validChain⟩

/-- **The explorer's state is the chain's.** Run two new explorers on empty Stores through valid
calls, all returning `nil` and leaving the Store clean, to ledgers with the same chain, whatever
blocks each applied and reverted on the way. They cache the same stats, and their Stores hold the
same elements, each with its ID and what it holds, and the same unspent rows, up to order. -/
theorem state_of_chain {cs cs' : State} {hs hs' : HashStore}
    {evfs evfs' : List (Event × Faults)} {g g' : Ledger} {e e' : Explorer}
    {errs errs' : List (Option GoError)} (hrun : Ledger.Run {} (evfs.map (·.1)) g)
    (he : (NewExplorer cs NewEphemeralStore hs).run evfs = .ok (e, errs))
    (hnil : ∀ err ∈ errs, err = none) (hc : e.db.Clean)
    (hrun' : Ledger.Run {} (evfs'.map (·.1)) g')
    (he' : (NewExplorer cs' NewEphemeralStore hs').run evfs' = .ok (e', errs'))
    (hnil' : ∀ err ∈ errs', err = none) (hc' : e'.db.Clean) (hchain : g.chain = g'.chain) :
    e.tipStats = e'.tipStats ∧
      (e.db.view.tables.elements.map rowOutput).Perm (e'.db.view.tables.elements.map rowOutput) ∧
      e.db.view.tables.unspentElements.Perm e'.db.view.tables.unspentElements := by
  obtain ⟨hst, hel, hun⟩ := (Follows.run hrun (Follows.init cs hs) he hnil).1.snapshot hc
    (HoldsOutputs.run hrun (Follows.init cs hs) (HoldsOutputs.init cs hs) he hnil hc).1
  obtain ⟨hst', hel', hun'⟩ := (Follows.run hrun' (Follows.init cs' hs') he' hnil').1.snapshot hc'
    (HoldsOutputs.run hrun' (Follows.init cs' hs') (HoldsOutputs.init cs' hs') he' hnil' hc').1
  rw [hchain] at hst hel hun
  exact ⟨Except.ok.inj (hst.symm.trans hst'), hel.trans hel'.symm, hun.trans hun'.symm⟩

/-- Block 1 after `coinGenesis`: it spends coin 1, whose proof now holds one hash, and creates coin
2 at address 2. -/
def spendBlock : ApplyUpdate :=
  { Block := { Header := ⟨1, ⟨1⟩⟩ }
    State := ⟨⟨1, ⟨1⟩⟩, ⟨[1, 2]⟩⟩
    NewSiacoinElements :=
      [{ ID := ⟨2⟩, LeafIndex := 1, MerkleProof := [1], Value := ⟨1⟩, Address := ⟨2⟩ }]
    SpentSiacoins :=
      [{ ID := ⟨1⟩, LeafIndex := 0, MerkleProof := [2], Value := ⟨1⟩, Address := ⟨1⟩ }] }

/-- The revert of `spendBlock` onto `coinGenesis`. -/
def spendRevert : RevertUpdate :=
  { Block := spendBlock.Block, State := coinGenesis.State,
    NewSiacoinElements := spendBlock.NewSiacoinElements,
    SpentSiacoins := spendBlock.SpentSiacoins }

theorem state_of_chain_spendRevert :
    ∃ e e' errs errs', (NewExplorer coinGenesis.State NewEphemeralStore emptyHashStore).run
        [(.apply coinGenesis true, Faults.never)] = .ok (e, errs) ∧
      (∀ err ∈ errs, err = none) ∧ e.db.Clean ∧
      (NewExplorer coinGenesis.State NewEphemeralStore emptyHashStore).run
        [(.apply coinGenesis true, Faults.never), (.apply spendBlock true, Faults.never),
          (.revert spendRevert, Faults.never)] = .ok (e', errs') ∧
      (∀ err ∈ errs', err = none) ∧ e'.db.Clean ∧
      e.tipStats = e'.tipStats ∧
      (e.db.view.tables.elements.map rowOutput).Perm (e'.db.view.tables.elements.map rowOutput) ∧
      e.db.view.tables.unspentElements.Perm e'.db.view.tables.unspentElements :=
  ⟨_, _, _, _, rfl, by decide, .inl rfl, rfl, by decide, .inl rfl,
    @state_of_chain coinGenesis.State coinGenesis.State emptyHashStore emptyHashStore
      [(.apply coinGenesis true, Faults.never)]
      [(.apply coinGenesis true, Faults.never), (.apply spendBlock true, Faults.never),
        (.revert spendRevert, Faults.never)]
      ⟨[coinGenesis], [coinGenesis]⟩ ⟨[coinGenesis], [coinGenesis, spendBlock]⟩ _ _ _ _
      (Ledger.replay_run rfl) rfl (by decide) (.inl rfl) (Ledger.replay_run rfl) rfl (by decide)
      (.inl rfl) rfl⟩

/-- **Apply, then revert.** From the state a run of valid calls all returning `nil` reaches,
apply with `mayCommit` a valid block extending the chain, then revert it, both returning `nil`.
The cached stats come back, and so do the Store's elements, each with its ID and what it holds,
and its unspent rows, up to order. The block's `transactions`, `states` and `chainstats` rows
stay, after those that were there. -/
theorem apply_revert_restores {cs : State} {hs : HashStore} {evfs : List (Event × Faults)}
    {g : Ledger} {e : Explorer} {errs : List (Option GoError)}
    (hrun : Ledger.Run {} (evfs.map (·.1)) g)
    (he : (NewExplorer cs NewEphemeralStore hs).run evfs = .ok (e, errs))
    (hnil : ∀ err ∈ errs, err = none) {parent cau : ApplyUpdate}
    (hparent : g.chain.getLast? = some parent) (hv : cau.Valid g.chain) {cru : RevertUpdate}
    (hu : cru.Undoes cau parent.State) {e₁ e₂ : Explorer} {f₁ f₂ : Faults}
    (h₁ : e.ProcessChainApplyUpdate f₁ cau true = .ok (e₁, none))
    (h₂ : e₁.ProcessChainRevertUpdate f₂ cru = .ok (e₂, none)) :
    e₂.tipStats = e.tipStats ∧
      (e₂.db.view.tables.elements.map rowOutput).Perm (e.db.view.tables.elements.map rowOutput) ∧
      e₂.db.view.tables.unspentElements.Perm e.db.view.tables.unspentElements ∧
      e₂.db.view.tables.transactions.map (·.1) =
        e.db.view.tables.transactions.map (·.1) ++ cau.Block.Transactions.map (·.ID) ∧
      e₂.db.view.tables.states.map (·.1) =
        e.db.view.tables.states.map (·.1) ++ [cau.Block.Header.Index] ∧
      e₂.db.view.tables.chainstats.map (·.1) =
        e.db.view.tables.chainstats.map (·.1) ++ [cau.State.Index.String] := by
  obtain ⟨pre, hpre⟩ := List.getLast?_eq_some_iff.1 hparent
  have hf := (Follows.run hrun (Follows.init cs hs) he hnil).1
  have ho := HoldsOutputs.run hrun (Follows.init cs hs) (HoldsOutputs.init cs hs) he hnil
  -- the Store is clean: a latched error would have failed the apply
  have hc : e.db.Clean := (SQLiteStore.clean_or_poisoned e.db).resolve_right fun hp => by
    simpa using (Explorer.ProcessChainApplyUpdate_of_poisoned hp h₁).1
  -- the apply and the revert lead to a ledger with the same chain and the block applied
  have hf₁ := (hf.apply hv h₁).1
  have ho₁ := HoldsOutputs.apply hf ho hv h₁
  simp only [hpre, List.append_assoc, List.singleton_append] at hf₁ ho₁
  obtain ⟨hf₂, htx, herr⟩ := hf₁.revert hu h₂
  have ho₂ := HoldsOutputs.revert hf₁ ho₁ hu h₂
  have hc₂ : e₂.db.Clean := .inl htx
  obtain ⟨hst, hel, hun⟩ := hf.snapshot hc (ho hc).1
  obtain ⟨hst₂, hel₂, hun₂⟩ := hf₂.snapshot hc₂ (ho₂ hc₂).1
  rw [hpre] at hst hel hun
  have ha := hf.store.agrees hc
  have ha₂ := hf₂.store.agrees hc₂
  refine ⟨Except.ok.inj (hst₂.symm.trans hst), hel₂.trans hel.symm, hun₂.trans hun.symm, ?_, ?_, ?_⟩
  · rw [ha₂.transactions, ha.transactions, List.flatMap_append, List.flatMap_singleton]
  · rw [ha₂.states, ha.states, List.map_append, List.map_singleton]
  · rw [ha₂.chainstatsKeys, ha.chainstatsKeys, List.map_append, List.map_singleton]

theorem apply_revert_restores_spendBlock :
    ∃ e e₁ e₂ errs, (NewExplorer coinGenesis.State NewEphemeralStore emptyHashStore).run
        [(.apply coinGenesis true, Faults.never)] = .ok (e, errs) ∧ (∀ err ∈ errs, err = none) ∧
      [coinGenesis].getLast? = some coinGenesis ∧ spendBlock.Valid [coinGenesis] ∧
      spendRevert.Undoes spendBlock coinGenesis.State ∧
      e.ProcessChainApplyUpdate Faults.never spendBlock true = .ok (e₁, none) ∧
      e₁.ProcessChainRevertUpdate Faults.never spendRevert = .ok (e₂, none) ∧
      e₂.tipStats = e.tipStats ∧
      (e₂.db.view.tables.elements.map rowOutput).Perm (e.db.view.tables.elements.map rowOutput) ∧
      e₂.db.view.tables.unspentElements.Perm e.db.view.tables.unspentElements ∧
      e₂.db.view.tables.transactions.map (·.1) =
        e.db.view.tables.transactions.map (·.1) ++ spendBlock.Block.Transactions.map (·.ID) ∧
      e₂.db.view.tables.states.map (·.1) =
        e.db.view.tables.states.map (·.1) ++ [spendBlock.Block.Header.Index] ∧
      e₂.db.view.tables.chainstats.map (·.1) =
        e.db.view.tables.chainstats.map (·.1) ++ [spendBlock.State.Index.String] :=
  ⟨_, _, _, _, rfl, by decide, rfl, ApplyUpdate.check_valid rfl, RevertUpdate.check_undoes rfl,
    rfl, rfl, @apply_revert_restores coinGenesis.State emptyHashStore
      [(.apply coinGenesis true, Faults.never)] ⟨[coinGenesis], [coinGenesis]⟩ _ _
      (Ledger.replay_run rfl) rfl (by decide) coinGenesis spendBlock rfl
      (ApplyUpdate.check_valid rfl) spendRevert (RevertUpdate.check_undoes rfl) _ _
      Faults.never Faults.never rfl rfl⟩

end SiaExplorer
