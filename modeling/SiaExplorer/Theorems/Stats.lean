import SiaExplorer.Theorems.Elements

/-!
# The stats the explorer keeps

* `committed_stats_fold`: after a run of valid calls all returning `nil` whose last call
  commits, the cached `tipStats` and every `chainstats` row of the current chain are the fold of
  `ProcessChainApplyUpdate`'s stats step over the chain's prefixes; re-applying a reverted block
  without `mayCommit` latches a key conflict that every later read returns
  (`reapplied_block_stats_unreadable`);
* `tipStats_active_counts`: on such a run whose revisions keep their contracts' file sizes and
  payouts, the active-contract counters count the live contracts, and the next block's stats
  do not underflow; a revision that changes either, or a revert that fails, breaks them
  (`revisions_break_counters`);
* `restart_counts_from_zero`: `NewExplorer` starts from the zero stats whatever its Store holds,
  so the next block's stats are folded from zero (`restart_forgets_stats`).
-/

namespace SiaExplorer

/-- A `ChainStats` read with no transaction open returns the committed row of the index. -/
theorem SQLiteStore.ChainStats_committed {st : SQLiteStore} (htx : st.tx = none)
    {index : ChainIndex} {s : SiaExplorer.ChainStats}
    (hrow : (index.String, s) ∈ st.db.tables.chainstats) :
    (st.ChainStats index).2 = .ok s := by
  have hview : st.view = st.db := by simp [view, htx]
  rw [SQLiteStore.ChainStats, queryRow_found (.inl htx) (by
    rw [hview, find?_key_of_mem st.db.keysUnique.chainstats hrow]; rfl) rfl]

/-! ## The rows of the chain -/

/-- The cached stats and the `chainstats` rows of the Store follow the chain `g.chain`. -/
structure StatsFollow (g : Ledger) (e : Explorer) : Prop where
  /-- the cached stats are the fold over the chain -/
  tipStats : chainStatsOf g.chain = .ok e.tipStats
  /-- the row of each block is the fold over the chain up to it -/
  rows : ∀ k (hk : k < g.chain.length), ∃ s, chainStatsOf (g.chain.take (k + 1)) = .ok s ∧
    (e.db.ChainStats g.chain[k].State.Index).2 = .ok s
  /-- the row of the tip is the cached stats -/
  tipRow : ∀ hne : g.chain ≠ [],
    (e.db.ChainStats (g.chain.getLast hne).State.Index).2 = .ok e.tipStats

/-- **The stats are the fold over the chain.** After a run of valid calls from genesis that
all return `nil` and whose last call commits, the cached `tipStats` and the `chainstats` row of
every block of the current chain are `ProcessChainApplyUpdate`'s stats step folded over the
chain up to that block. -/
theorem committed_stats_fold {cs : State} {hs : HashStore} {evfs : List (Event × Faults)}
    {g : Ledger} {e : Explorer} {errs : List (Option GoError)}
    (hrun : Ledger.Run {} (evfs.map (·.1)) g)
    (he : (NewExplorer cs NewEphemeralStore hs).run evfs = .ok (e, errs))
    (hnil : ∀ err ∈ errs, err = none) (hlast : ∀ last ∈ evfs.getLast?, last.1.commits = true) :
    StatsFollow g e := by
  obtain ⟨hf, htx, ha⟩ := Follows.committed hrun he hnil hlast
  have rows : ∀ k (hk : k < g.chain.length), ∃ s, chainStatsOf (g.chain.take (k + 1)) = .ok s ∧
      (e.db.ChainStats g.chain[k].State.Index).2 = .ok s := fun k hk => by
    obtain ⟨s, hs, hrow⟩ := ha.chainstats k hk
    exact ⟨s, hs, SQLiteStore.ChainStats_committed htx hrow⟩
  refine ⟨hf.tipStats, rows, fun hne => ?_⟩
  have hlen : g.chain.length - 1 < g.chain.length := by
    have := List.length_pos.2 hne
    omega
  obtain ⟨s, hs, hread⟩ := rows _ hlen
  rw [List.take_of_length_le (by omega), hf.tipStats] at hs
  rw [List.getLast_eq_getElem, hread, ← Except.ok.inj hs]

/-- The empty block at height `h`, with ID `h`, and the state after it. -/
def emptyBlock (h : Nat) : ApplyUpdate :=
  { Block := { Header := ⟨h, ⟨h⟩⟩ }, State := ⟨⟨h, ⟨h⟩⟩, ⟨[]⟩⟩ }

/-- The revert of `emptyBlock h` onto `emptyBlock (h - 1)`. -/
def emptyRevert (h : Nat) : RevertUpdate :=
  { Block := (emptyBlock h).Block, State := (emptyBlock (h - 1)).State }

theorem committed_stats_fold_emptyBlocks :
    ∃ e errs, (NewExplorer (emptyBlock 0).State NewEphemeralStore emptyHashStore).run
        [(.apply (emptyBlock 0) true, Faults.never), (.apply (emptyBlock 1) true, Faults.never)] =
        .ok (e, errs) ∧
      (∀ err ∈ errs, err = none) ∧ StatsFollow ⟨[emptyBlock 0, emptyBlock 1],
        [emptyBlock 0, emptyBlock 1]⟩ e :=
  ⟨_, _, rfl, by decide, @committed_stats_fold (emptyBlock 0).State emptyHashStore
    [(.apply (emptyBlock 0) true, Faults.never), (.apply (emptyBlock 1) true, Faults.never)]
    _ _ _ (Ledger.replay_run rfl) rfl (by decide) (by decide)⟩

/-- Apply, revert and re-apply without `mayCommit` an empty block: every call returns `nil`, but
the re-applied block's `states` row is already there, and the Store's `ChainStats` read of the
tip returns the latched conflict instead of the tip's stats. -/
theorem reapplied_block_stats_unreadable :
    Ledger.replay {} [.apply (emptyBlock 0) true, .apply (emptyBlock 1) true,
        .revert (emptyRevert 1), .apply (emptyBlock 1) false] =
      some ⟨[emptyBlock 0, emptyBlock 1], [emptyBlock 0, emptyBlock 1, emptyBlock 1]⟩ ∧
    ∃ e, (NewExplorer (emptyBlock 0).State NewEphemeralStore emptyHashStore).run
        [(.apply (emptyBlock 0) true, Faults.never), (.apply (emptyBlock 1) true, Faults.never),
          (.revert (emptyRevert 1), Faults.never), (.apply (emptyBlock 1) false, Faults.never)] =
        .ok (e, [none, none, none, none]) ∧
      (e.db.ChainStats (emptyBlock 1).State.Index).2 = .error (.constraint "states.id") :=
  ⟨rfl, _, rfl, rfl⟩

/-! ## The active-contract counters -/

/-- The active-contract counters of `s` count the contracts live on `chain`, their payouts and
their file sizes. -/
structure CountsLive (chain : List ApplyUpdate) (s : ChainStats) : Prop where
  count : s.ActiveContractCount = BitVec.ofNat 64 (liveContracts chain).length
  cost : s.ActiveContractCost.val = ((liveContracts chain).map (·.payout.val)).sum
  size : s.ActiveContractSize = ((liveContracts chain).map (·.Filesize)).sum

theorem ActiveSums.countsLive {s : ChainStats} {chain : List ApplyUpdate}
    (h : ActiveSums s (liveOf chain)) : CountsLive chain s :=
  let ⟨hc, hp, hs⟩ := h.counters
  ⟨hc, hp, hs⟩

/-- A chain without revisions keeps every contract's terms. -/
theorem KeepsTermsChain.of_no_revisions {chain : List ApplyUpdate}
    (h : ∀ cau ∈ chain, cau.RevisedFileContracts = []) : KeepsTermsChain chain := by
  intro pre cau post hc fce hfce
  rw [h cau (by simp [hc])] at hfce
  cases hfce

/-- **The active-contract counters count the live contracts.** After a run of valid calls from
genesis that all return `nil`, on a chain whose revisions keep their contracts' file sizes and
payouts, `tipStats` counts the live contracts, their payouts and their sizes; and the stats of
a next valid block with such revisions exist, so its resolved-contract loop does not underflow,
and count the contracts live after it. -/
theorem tipStats_active_counts {cs : State} {hs : HashStore} {evfs : List (Event × Faults)}
    {g : Ledger} {e : Explorer} {errs : List (Option GoError)}
    (hrun : Ledger.Run {} (evfs.map (·.1)) g)
    (he : (NewExplorer cs NewEphemeralStore hs).run evfs = .ok (e, errs))
    (hnil : ∀ err ∈ errs, err = none) (hkeep : KeepsTermsChain g.chain) :
    CountsLive g.chain e.tipStats ∧ ∀ cau, cau.Valid g.chain → cau.KeepsTerms g.chain →
      ∃ s, applyStats e.tipStats cau = .ok s ∧ CountsLive (g.chain ++ [cau]) s := by
  obtain ⟨hf, -⟩ := Follows.run hrun (Follows.init cs hs) he hnil
  obtain ⟨s, hs, hsum⟩ := chainStatsOf_activeSums hf.validChain hkeep
  obtain rfl : s = e.tipStats := Except.ok.inj (hs.symm.trans hf.tipStats)
  refine ⟨hsum.countsLive, fun cau hv hk => ?_⟩
  obtain ⟨s', hs', hsum'⟩ := applyStats_activeSums hf.validChain hv hk hsum
  rw [← liveOf_snoc] at hsum'
  exact ⟨s', hs', hsum'.countsLive⟩

/-- A contract with a payout of 5 and a file of 10 bytes. -/
def contract5 : FileContract :=
  { Filesize := 10, RenterOutput := ⟨⟨5⟩, ⟨2⟩⟩, HostOutput := ⟨⟨0⟩, ⟨3⟩⟩ }

/-- Contract element 7, with the terms `fc`. -/
def contractElement (fc : FileContract) : FileContractElement :=
  { ID := ⟨7⟩, LeafIndex := 0, MerkleProof := [], FileContract := fc }

/-- A genesis block forming contract element 7 with `contract5`. -/
def contractGenesis : ApplyUpdate :=
  { emptyBlock 0 with NewFileContracts := [contractElement contract5] }

/-- Block 1 revising contract element 7 to the terms `fc`. -/
def revisionBlock (fc : FileContract) : ApplyUpdate :=
  { emptyBlock 1 with
    Block := { Header := ⟨1, ⟨1⟩⟩, Transactions :=
      [{ ID := ⟨1⟩, FileContractRevisions := [⟨contractElement contract5, fc⟩] }] }
    RevisedFileContracts := [contractElement fc] }

theorem tipStats_active_counts_contractGenesis :
    ∃ e errs, (NewExplorer contractGenesis.State NewEphemeralStore emptyHashStore).run
        [(.apply contractGenesis true, Faults.never)] = .ok (e, errs) ∧
      (∀ err ∈ errs, err = none) ∧ KeepsTermsChain [contractGenesis] ∧
      CountsLive [contractGenesis] e.tipStats ∧
      ∀ cau, cau.Valid [contractGenesis] → cau.KeepsTerms [contractGenesis] →
        ∃ s, applyStats e.tipStats cau = .ok s ∧ CountsLive ([contractGenesis] ++ [cau]) s := by
  have hkeep : KeepsTermsChain [contractGenesis] :=
    KeepsTermsChain.of_no_revisions (by simp [contractGenesis, emptyBlock])
  exact ⟨_, _, rfl, by decide, hkeep, @tipStats_active_counts contractGenesis.State emptyHashStore
    [(.apply contractGenesis true, Faults.never)] _ _ _ (Ledger.replay_run rfl) rfl (by decide)
    hkeep⟩

/-- Three runs of valid updates. A revision doubling contract 7's file size, applied without
`mayCommit`: both calls return `nil`, but `ActiveContractSize` keeps the old size. A revision
doubling its payout, then its resolution: the resolved-contract loop's `Sub` panics. A block
forming a contract, reverted, re-applied without `mayCommit` and reverted again: the last revert
fails its `ChainStats` read, and `tipStats` still counts the contract of the reverted block. -/
theorem revisions_break_counters :
    (Ledger.replay {} [.apply contractGenesis true,
        .apply (revisionBlock { contract5 with Filesize := 20 }) false] =
      some ⟨[contractGenesis, revisionBlock { contract5 with Filesize := 20 }],
        [contractGenesis, revisionBlock { contract5 with Filesize := 20 }]⟩ ∧
      (liveContracts [contractGenesis, revisionBlock { contract5 with Filesize := 20 }]).map
        (·.Filesize) = [20] ∧
      ∃ e, (NewExplorer contractGenesis.State NewEphemeralStore emptyHashStore).run
          [(.apply contractGenesis true, Faults.never),
            (.apply (revisionBlock { contract5 with Filesize := 20 }) false, Faults.never)] =
          .ok (e, [none, none]) ∧ e.tipStats.ActiveContractSize = 10) ∧
    ((Ledger.replay {} [.apply contractGenesis true,
        .apply (revisionBlock { contract5 with HostOutput := ⟨⟨5⟩, ⟨3⟩⟩ }) false,
        .apply { emptyBlock 2 with
          ResolvedFileContracts := [contractElement { contract5 with HostOutput := ⟨⟨5⟩, ⟨3⟩⟩ }] }
          false]).isSome ∧
      (NewExplorer contractGenesis.State NewEphemeralStore emptyHashStore).run
          [(.apply contractGenesis true, Faults.never),
            (.apply (revisionBlock { contract5 with HostOutput := ⟨⟨5⟩, ⟨3⟩⟩ }) false,
              Faults.never),
            (.apply { emptyBlock 2 with
              ResolvedFileContracts :=
                [contractElement { contract5 with HostOutput := ⟨⟨5⟩, ⟨3⟩⟩ }] }
              false, Faults.never)] = .error "underflow") ∧
    (Ledger.replay {} [.apply (emptyBlock 0) true,
        .apply { emptyBlock 1 with NewFileContracts := [contractElement contract5] } true,
        .revert { emptyRevert 1 with NewFileContracts := [contractElement contract5] },
        .apply { emptyBlock 1 with NewFileContracts := [contractElement contract5] } false,
        .revert { emptyRevert 1 with NewFileContracts := [contractElement contract5] }] =
      some ⟨[emptyBlock 0], [emptyBlock 0,
        { emptyBlock 1 with NewFileContracts := [contractElement contract5] },
        { emptyBlock 1 with NewFileContracts := [contractElement contract5] }]⟩ ∧
      liveContracts [emptyBlock 0] = [] ∧
      ∃ e, (NewExplorer (emptyBlock 0).State NewEphemeralStore emptyHashStore).run
          [(.apply (emptyBlock 0) true, Faults.never),
            (.apply { emptyBlock 1 with NewFileContracts := [contractElement contract5] } true,
              Faults.never),
            (.revert { emptyRevert 1 with NewFileContracts := [contractElement contract5] },
              Faults.never),
            (.apply { emptyBlock 1 with NewFileContracts := [contractElement contract5] } false,
              Faults.never),
            (.revert { emptyRevert 1 with NewFileContracts := [contractElement contract5] },
              Faults.never)] =
          .ok (e, [none, none, none, none, some (.constraint "states.id")]) ∧
        e.tipStats.ActiveContractCount = 1) :=
  ⟨⟨rfl, rfl, _, rfl, rfl⟩, ⟨rfl, rfl⟩, ⟨rfl, rfl, _, rfl, rfl⟩⟩

/-! ## A restart -/

/-- Every store is clean or poisoned. -/
theorem SQLiteStore.clean_or_poisoned (s : SQLiteStore) : s.Clean ∨ s.Poisoned := by
  rcases htx : s.tx with _ | db
  · exact .inl (.inl htx)
  · rcases herr : s.txErr with _ | err
    · exact .inl (.inr herr)
    · exact .inr ⟨by simp [htx], by simp [herr]⟩

/-- After a committed genesis block forming a contract, the Store's stats row for it counts one
active contract, but an explorer restarted on that Store and HashStore caches zero; on the next
empty block, the restarted explorer counts no active contract where the uninterrupted one counts
one. -/
theorem restart_forgets_stats :
    ∃ e, (NewExplorer contractGenesis.State NewEphemeralStore emptyHashStore).run
        [(.apply contractGenesis true, Faults.never)] = .ok (e, [none]) ∧
      (e.db.ChainStats contractGenesis.State.Index).2.map (·.ActiveContractCount) = .ok 1 ∧
      (NewExplorer contractGenesis.State e.db e.hs).tipStats.ActiveContractCount = 0 ∧
      ∃ e₁ e₂, e.ProcessChainApplyUpdate Faults.never (emptyBlock 1) true = .ok (e₁, none) ∧
        (NewExplorer contractGenesis.State e.db e.hs).ProcessChainApplyUpdate Faults.never
          (emptyBlock 1) true = .ok (e₂, none) ∧
        e₁.tipStats.ActiveContractCount = 1 ∧ e₂.tipStats.ActiveContractCount = 0 :=
  ⟨_, rfl, rfl, rfl, _, _, rfl, rfl, rfl, rfl⟩

end SiaExplorer
