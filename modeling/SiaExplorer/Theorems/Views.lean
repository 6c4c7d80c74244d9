import SiaExplorer.Theorems.Outputs
import SiaExplorer.Theorems.Wallet

/-!
# The explorer and the wallet see one chain

The package's tests subscribe an explorer and a `TestingWallet` to one chain manager, and check
the explorer's answers for the wallet's addresses against the wallet. Both refine the chain's
live elements: the explorer's Store holds all of them (`Explorer.HoldsChain`), and the wallet's
store keeps those at its addresses (`Walletutil.Follows`). So the two agree.

* **They agree on the wallet's elements** (`explorer_wallet_agree`): post the wallet's
  `Addresses` to the explorer's `/batch/addresses/siacoins` and `/batch/addresses/siafunds`; the
  elements answered, all addresses together, are the wallet's `UnspentSiacoinElements` and
  `UnspentSiafundElements`, with the same IDs and outputs, up to order.
* **The explorer's history covers the wallet's** (`explorer_history_covers_wallet`): post one
  request per address of the wallet's `Addresses` to `/batch/addresses/transactions`. Every
  transaction the wallet's `Transactions` lists involves one of those addresses, and for each
  address the wallet's transactions involving it come, in order, among those answered. The
  converse fails (`wallet_history_misses_siafunds`): the explorer files a transaction under
  every address of its inputs and outputs, siafunds included, while the wallet records only
  those moving siacoins to or from it.
-/

namespace SiaExplorer

open Walletutil

theorem AddressMap.Has_iff (m : AddressMap) (addr : Address) :
    m.Has addr = true ↔ ∃ info, (addr, info) ∈ m.entries := by
  simp only [AddressMap.Has, AddressMap.lookup, Option.isSome_map', List.find?_isSome,
    beq_iff_eq, Prod.exists, exists_and_right, exists_eq_right]

/-- The live elements of a kind paying to each address of a wallet, all together, are the live
elements of that kind it owns. -/
theorem flatMap_liveOutputsAt {chain : List ApplyUpdate} (hg : ValidChain chain)
    (type : ElementType) (m : AddressMap) :
    ((m.entries.map (·.1)).flatMap (liveOutputsAt chain type)).Perm
      ((liveOf chain).filter (Owned m type)) := by
  have hL : (liveOf chain).Nodup := hg.nodup.of_map _
  -- the addresses are distinct, so no live element pays to two of them
  have hdisj : (m.entries.map (·.1)).Pairwise
      (fun a b => (liveOutputsAt chain type a).Disjoint (liveOutputsAt chain type b)) :=
    m.keys_nodup.imp fun hne p hpa hpb => hne (by
      simp only [liveOutputsAt, List.mem_filter, Bool.and_eq_true, beq_iff_eq] at hpa hpb
      exact Option.some.inj (hpa.2.2.symm.trans hpb.2.2))
  refine (List.perm_ext_iff_of_nodup (List.nodup_flatMap.2 ⟨fun _ _ => hL.filter _, hdisj⟩)
    (hL.filter _)).2 fun p => ?_
  obtain ⟨id, o⟩ := p
  cases o <;>
    simp only [List.mem_flatMap, List.mem_map, liveOutputsAt, List.mem_filter, Owned,
      Output.address, Output.type, Bool.and_eq_true, beq_iff_eq, Option.any_some,
      Option.some.injEq, AddressMap.Has_iff, Prod.exists, exists_and_right, exists_eq_right,
      reduceCtorEq, and_false, false_and, exists_false, Option.any_none, Bool.false_eq_true]
  all_goals
    exact ⟨fun ⟨a, ha, hl, ht, hc⟩ => ⟨hl, ht, hc ▸ ha⟩, fun ⟨hl, ht, ha⟩ => ⟨_, ha, hl, ht, rfl⟩⟩

/-- A batch's answers, each a permutation of what its item stands for, are all together a
permutation of what the items stand for. -/
theorem perm_flatten_of_forall₂ {α β γ : Type} (f : β → γ) (F : α → List γ) {as : List α}
    {bss : List (List β)} (h : List.Forall₂ (fun a bs => (bs.map f).Perm (F a)) as bss) :
    (bss.flatten.map f).Perm (as.flatMap F) := by
  have h' : List.Forall₂ (fun bs a => (bs.map f).Perm (F a)) bss as := List.Forall₂.flip h
  rw [List.map_flatten, List.flatMap_def]
  exact List.Perm.flatten_congr (List.forall₂_map_left_iff.2 (List.forall₂_map_right_iff.2 h'))

/-- **The explorer and the wallet agree.** Run a new explorer on an empty Store, and a wallet
store holding no elements and no transactions, through the same valid calls, all returning `nil`
on the explorer, whose Store is left clean. Post the wallet's `Addresses` to the explorer's
`/batch/addresses/siacoins`: the elements answered, all addresses together, are the wallet's
`UnspentSiacoinElements`, with the same IDs and outputs, up to order; and likewise for
`/batch/addresses/siafunds` and `UnspentSiafundElements`. -/
theorem explorer_wallet_agree {cs : State} {hs : HashStore} {evfs : List (Event × Faults)}
    {g : Ledger} {e : Explorer} {errs : List (Option GoError)}
    (hrun : Ledger.Run {} (evfs.map (·.1)) g)
    (he : (NewExplorer cs NewEphemeralStore hs).run evfs = .ok (e, errs))
    (hnil : ∀ err ∈ errs, err = none) (hc : e.db.Clean) (pu : ProofUpdates)
    (Timestamp : BlockHeader → Nat) {s : EphemeralStore}
    (hs₀ : s.scElems = [] ∧ s.sfElems = [] ∧ s.txns = []) (sy : Api.Syncer Explorer)
    (tp : Api.TransactionPool Explorer)
    (scb : Explorer → Address → Explorer × Except GoError Currency)
    (sfb : Explorer → Address → Explorer × Except GoError (BitVec 64)) (c : Api.Codec)
    (body : String)
    (hbody : c.addresses body = .ok (s.run pu Timestamp (evfs.map (·.1))).Addresses.1) :
    (∃ elemss, (Api.NewServer ⟨sy, Explorer.api scb sfb, tp⟩ c e
        { method := "POST", path := ["batch", "addresses", "siacoins"], body }).2 =
        .json (.siacoinElements elemss) ∧
      (coinOutputs elemss.flatten).Perm
        (coinOutputs (s.run pu Timestamp (evfs.map (·.1))).UnspentSiacoinElements.1)) ∧
    ∃ elemss, (Api.NewServer ⟨sy, Explorer.api scb sfb, tp⟩ c e
        { method := "POST", path := ["batch", "addresses", "siafunds"], body }).2 =
        .json (.siafundElements elemss) ∧
      (fundOutputs elemss.flatten).Perm
        (fundOutputs (s.run pu Timestamp (evfs.map (·.1))).UnspentSiafundElements.1) := by
  have h := Explorer.HoldsChain.of_run hrun he hnil hc
  have hw := (Walletutil.Follows.init Timestamp hs₀).run pu Timestamp hrun
  obtain ⟨elemss, hres, hall⟩ := h.batchSiacoins sy tp scb sfb c body hbody
  obtain ⟨elemss', hres', hall'⟩ := h.batchSiafunds sy tp scb sfb c body hbody
  -- each side is the chain's live elements of the kind at the wallet's addresses
  refine ⟨⟨elemss, hres, ?_⟩, elemss', hres', ?_⟩
  · exact (perm_flatten_of_forall₂ _ _ hall).trans
      ((flatMap_liveOutputsAt h.validChain _ _).trans hw.coins.symm)
  · exact (perm_flatten_of_forall₂ _ _ hall').trans
      ((flatMap_liveOutputsAt h.validChain _ _).trans hw.funds.symm)

theorem explorer_wallet_agree_coinGenesis :
    ∃ e errs, (NewExplorer coinGenesis.State NewEphemeralStore emptyHashStore).run
        [(.apply coinGenesis true, Faults.never)] = .ok (e, errs) ∧
      (∀ err ∈ errs, err = none) ∧ e.db.Clean ∧
      coinCodec.addresses "" =
        .ok (oneAddressStore.run keepProofs (fun _ => 5) [.apply coinGenesis true]).Addresses.1 ∧
      (∃ elemss, (Api.NewServer ⟨idleSyncer, Explorer.api noBalance noBalance, idlePool⟩
          coinCodec e { method := "POST", path := ["batch", "addresses", "siacoins"] }).2 =
          .json (.siacoinElements elemss) ∧
        (coinOutputs elemss.flatten).Perm (coinOutputs (oneAddressStore.run keepProofs
          (fun _ => 5) [.apply coinGenesis true]).UnspentSiacoinElements.1)) ∧
      ∃ elemss, (Api.NewServer ⟨idleSyncer, Explorer.api noBalance noBalance, idlePool⟩
          coinCodec e { method := "POST", path := ["batch", "addresses", "siafunds"] }).2 =
          .json (.siafundElements elemss) ∧
        (fundOutputs elemss.flatten).Perm (fundOutputs (oneAddressStore.run keepProofs
          (fun _ => 5) [.apply coinGenesis true]).UnspentSiafundElements.1) :=
  ⟨_, _, rfl, by decide, .inl rfl, rfl, @explorer_wallet_agree coinGenesis.State emptyHashStore
    [(.apply coinGenesis true, Faults.never)] ⟨[coinGenesis], [coinGenesis]⟩ _ _
    (Ledger.replay_run rfl) rfl (by decide) (.inl rfl) keepProofs (fun _ => 5) oneAddressStore
    oneAddressStore_empty idleSyncer idlePool noBalance noBalance coinCodec "" rfl⟩

/-! ## Transaction history -/

/-- The condition of `relevantTransaction`: the transaction moves siacoins to or from the
wallet. -/
def Walletutil.moves (addrs : AddressMap) (txn : Transaction) : Bool :=
  !(flows addrs txn).1.IsZero || !(flows addrs txn).2.IsZero

/-- A record of `relevantTransaction` holds the transaction it was made for. -/
theorem relevantTransaction_eq_some {Timestamp : BlockHeader → Nat} {addrs : AddressMap}
    {cau : ApplyUpdate} {txn : Transaction} {r : Wallet.Transaction}
    (h : relevantTransaction Timestamp addrs cau txn = some r) :
    r.Raw = txn ∧ moves addrs txn = true := by
  simp only [relevantTransaction] at h
  split at h
  · cases h; exact ⟨rfl, by assumption⟩
  · cases h

/-- A transaction moving siacoins to or from the wallet involves one of its addresses. -/
theorem moves_address {addrs : AddressMap} {txn : Transaction} (h : moves addrs txn = true) :
    ∃ a, addrs.Has a = true ∧ a ∈ txnAddresses txn := by
  have hin := foldl_add_ite (fun out : SiacoinOutput => addrs.Has out.Address) (·.Value)
    txn.SiacoinOutputs ⟨0⟩
  have hout := foldl_add_ite (fun i : SiacoinInput => addrs.Has i.Parent.Address)
    (·.Parent.Value) txn.SiacoinInputs ⟨0⟩
  simp only [moves, flows, Currency.IsZero, hin, hout, Nat.zero_add, Bool.or_eq_true,
    Bool.not_eq_true', beq_eq_false_iff_ne, ne_eq, List.sum_eq_zero_iff, List.mem_map,
    not_forall, exists_prop] at h
  simp only [txnAddresses, List.mem_dedup, List.mem_append, List.mem_map]
  rcases h with ⟨_, ⟨out, hmem, rfl⟩, hne⟩ | ⟨_, ⟨i, hmem, rfl⟩, hne⟩
  · exact ⟨_, of_not_not fun hn => hne (if_neg hn), .inl (.inl (.inr ⟨out, hmem, rfl⟩))⟩
  · exact ⟨_, of_not_not fun hn => hne (if_neg hn), .inl (.inl (.inl ⟨i, hmem, rfl⟩))⟩

/-- The transactions the wallet records are those of the chain's blocks that move its
siacoins. -/
theorem records_Raw (Timestamp : BlockHeader → Nat) (addrs : AddressMap)
    (chain : List ApplyUpdate) :
    (records Timestamp addrs chain).map (·.Raw) =
      (chain.flatMap (·.Block.Transactions)).filter (moves addrs) := by
  have hraw : ∀ cau txn, (relevantTransaction Timestamp addrs cau txn).map (·.Raw) =
      Option.guard (moves addrs ·) txn := fun cau txn => by
    simp only [relevantTransaction, moves, Option.guard]
    split <;> simp_all
  simp only [records, List.map_flatMap, List.map_filterMap, hraw, List.filterMap_eq_filter,
    List.filter_flatMap]

/-- Each transaction the wallet records moves its siacoins. -/
theorem moves_of_mem_records {Timestamp : BlockHeader → Nat} {addrs : AddressMap}
    {chain : List ApplyUpdate} {r : Wallet.Transaction}
    (hr : r ∈ records Timestamp addrs chain) : moves addrs r.Raw = true := by
  obtain ⟨cau, -, hr⟩ := List.mem_flatMap.1 hr
  obtain ⟨txn, -, hrel⟩ := List.mem_filterMap.1 hr
  obtain ⟨rfl, h⟩ := relevantTransaction_eq_some hrel
  exact h

theorem sublist_flatMap {α β : Type} {l₁ l₂ : List α} (h : l₁.Sublist l₂) (f : α → List β) :
    (l₁.flatMap f).Sublist (l₂.flatMap f) := by
  induction h with
  | slnil => exact .slnil
  | cons a _ ih => exact ih.trans (by simp)
  | cons₂ a _ ih => simp only [List.flatMap_cons]; exact ih.append_left (f a)

/-- The chain is a subsequence of the applied blocks: a revert drops the tip from the chain
only. -/
theorem Ledger.Run.chain_sublist {g g' : Ledger} {evs : List Event} (hrun : Ledger.Run g evs g')
    (h : g.chain.Sublist g.applied) : g'.chain.Sublist g'.applied := by
  induction hrun with
  | nil => exact h
  | cons hstep _ ih =>
    apply ih
    cases hstep with
    | apply => exact h.append (List.Sublist.refl _)
    | @revert pre applied parent tip =>
      have hsub : (pre ++ [parent]).Sublist (pre ++ [parent, tip]) := by simp
      exact hsub.trans h

/-- The wallet's records involving an address are, in order, among the applied transactions
involving it. -/
theorem records_sublist_history (Timestamp : BlockHeader → Nat) (addrs : AddressMap) {g : Ledger}
    (hsub : g.chain.Sublist g.applied) (address : Address) :
    (((records Timestamp addrs g.chain).filter (address ∈ txnAddresses ·.Raw)).map (·.Raw)).Sublist
      ((appliedTransactions g).filter (address ∈ txnAddresses ·)) := by
  have hraw : ((records Timestamp addrs g.chain).filter (address ∈ txnAddresses ·.Raw)).map
      (·.Raw) = ((records Timestamp addrs g.chain).map (·.Raw)).filter (address ∈ txnAddresses ·) :=
    by rw [List.filter_map]; rfl
  rw [hraw, records_Raw]
  exact ((List.filter_sublist _).trans (sublist_flatMap hsub _)).filter _

/-- **The explorer's history covers the wallet's.** Run a new explorer on an empty Store, and a
wallet store holding no elements and no transactions, through the same valid calls, all returning
`nil` on the explorer, whose Store is left clean. Post to the explorer's
`/batch/addresses/transactions` a request for all the transactions (`amount` -1, `offset` 0) of
each of the wallet's `Addresses`. For any
`since` and `max`, every transaction the wallet's `Transactions(since, max)` lists involves one
of those addresses, and for each address those of them involving it come, in order, among the
transactions answered for it. -/
theorem explorer_history_covers_wallet {cs : State} {hs : HashStore}
    {evfs : List (Event × Faults)} {g : Ledger} {e : Explorer} {errs : List (Option GoError)}
    (hrun : Ledger.Run {} (evfs.map (·.1)) g)
    (he : (NewExplorer cs NewEphemeralStore hs).run evfs = .ok (e, errs))
    (hnil : ∀ err ∈ errs, err = none) (hc : e.db.Clean) (pu : ProofUpdates)
    (Timestamp : BlockHeader → Nat) {s : EphemeralStore}
    (hs₀ : s.scElems = [] ∧ s.sfElems = [] ∧ s.txns = []) (sy : Api.Syncer Explorer)
    (tp : Api.TransactionPool Explorer)
    (scb : Explorer → Address → Explorer × Except GoError Currency)
    (sfb : Explorer → Address → Explorer × Except GoError (BitVec 64)) (c : Api.Codec)
    (body : String)
    (hbody : c.transactionsRequests body =
      .ok ((s.run pu Timestamp (evfs.map (·.1))).Addresses.1.map fun a => ⟨a, -1, 0⟩)) :
    ∃ lists, (Api.NewServer ⟨sy, Explorer.api scb sfb, tp⟩ c e
        { method := "POST", path := ["batch", "addresses", "transactions"], body }).2 =
        .json (.transactionLists lists) ∧
      ∀ since max,
        List.Forall₂ (fun a txns => ((((s.run pu Timestamp (evfs.map (·.1))).Transactions since
          max).1.filter (a ∈ txnAddresses ·.Raw)).map (·.Raw)).Sublist txns)
          (s.run pu Timestamp (evfs.map (·.1))).Addresses.1 lists ∧
        ∀ r ∈ ((s.run pu Timestamp (evfs.map (·.1))).Transactions since max).1,
          ∃ a ∈ (s.run pu Timestamp (evfs.map (·.1))).Addresses.1, a ∈ txnAddresses r.Raw := by
  have h := Explorer.HoldsChain.of_run hrun he hnil hc
  have hw := (Walletutil.Follows.init Timestamp hs₀).run pu Timestamp hrun
  have hreads : e.ReadsLedger (evfs.map (·.1)) g :=
    ⟨hc, h.agrees, (Explorer.run_rowsFrom (.of_committed rfl RowsFrom.empty) he).view⟩
  refine ⟨_, hreads.batchTransactions scb sfb hrun sy tp c body _ hbody, fun since max => ?_⟩
  -- what `Transactions` returns is among the wallet's records
  have hsub : ((s.run pu Timestamp (evfs.map (·.1))).Transactions since max).1.Sublist
      (records Timestamp s.addrs g.chain) := by
    rw [Transactions_eq, hw.txns, run_addrs]
    split
    · exact List.filter_sublist _
    · exact (List.take_sublist _ _).trans (List.filter_sublist _)
  refine ⟨?_, fun r hr => ?_⟩
  · rw [List.map_map]
    refine List.forall₂_map_right_iff.2 (List.forall₂_same.2 fun a _ => ?_)
    exact ((hsub.filter _).map _).trans
      (records_sublist_history Timestamp s.addrs (hrun.chain_sublist .slnil) a)
  · obtain ⟨a, hhas, ha⟩ := moves_address (moves_of_mem_records (hsub.subset hr))
    obtain ⟨info, hinfo⟩ := (AddressMap.Has_iff _ _).1 hhas
    exact ⟨a, List.mem_map.2 ⟨(a, info), by rw [run_addrs]; exact hinfo, rfl⟩, ha⟩

/-- A codec whose batch of transaction requests asks for all of address 1's history. -/
def historyCodec : Api.Codec :=
  { pageCodec with transactionsRequests := fun _ => .ok [⟨⟨1⟩, -1, 0⟩] }

theorem explorer_history_covers_wallet_walletBlocks :
    ∃ e errs, (NewExplorer coinGenesis.State NewEphemeralStore emptyHashStore).run
        (walletBlocks.map fun cau => (.apply cau true, Faults.never)) = .ok (e, errs) ∧
      (∀ err ∈ errs, err = none) ∧ e.db.Clean ∧
      historyCodec.transactionsRequests "" = .ok ((oneAddressStore.run keepProofs (fun _ => 5)
        (walletBlocks.map (.apply · true))).Addresses.1.map fun a => ⟨a, -1, 0⟩) ∧
      ∃ lists, (Api.NewServer ⟨idleSyncer, Explorer.api noBalance noBalance, idlePool⟩
          historyCodec e { method := "POST", path := ["batch", "addresses", "transactions"] }).2 =
          .json (.transactionLists lists) ∧
        ∀ since max,
          List.Forall₂ (fun a txns => ((((oneAddressStore.run keepProofs (fun _ => 5)
            (walletBlocks.map (.apply · true))).Transactions since max).1.filter
            (a ∈ txnAddresses ·.Raw)).map (·.Raw)).Sublist txns)
            (oneAddressStore.run keepProofs (fun _ => 5)
              (walletBlocks.map (.apply · true))).Addresses.1 lists ∧
          ∀ r ∈ ((oneAddressStore.run keepProofs (fun _ => 5)
              (walletBlocks.map (.apply · true))).Transactions since max).1,
            ∃ a ∈ (oneAddressStore.run keepProofs (fun _ => 5)
              (walletBlocks.map (.apply · true))).Addresses.1, a ∈ txnAddresses r.Raw :=
  ⟨_, _, rfl, by decide, .inl rfl, rfl, @explorer_history_covers_wallet coinGenesis.State
    emptyHashStore (walletBlocks.map fun cau => (.apply cau true, Faults.never))
    ⟨walletBlocks, walletBlocks⟩ _ _ walletBlocks_run rfl (by decide) (.inl rfl) keepProofs
    (fun _ => 5) oneAddressStore oneAddressStore_empty idleSyncer idlePool noBalance noBalance
    historyCodec "" rfl⟩

/-- A genesis block whose one transaction, 7, pays a siafund to address 1 and nothing else. -/
def fundBlock : ApplyUpdate :=
  { emptyBlock 0 with
    Block := { Header := ⟨0, ⟨0⟩⟩,
               Transactions := [{ ID := ⟨7⟩, SiafundOutputs := [⟨1, ⟨1⟩⟩] }] } }

/-- The converse fails: after a block whose one transaction pays only a siafund to the wallet's
address, the explorer answers that transaction for the address, while the wallet's
`Transactions` lists nothing. -/
theorem wallet_history_misses_siafunds :
    ∃ e, (NewExplorer fundBlock.State NewEphemeralStore emptyHashStore).run
        [(.apply fundBlock true, Faults.never)] = .ok (e, [none]) ∧ e.db.Clean ∧
      (Api.NewServer ⟨idleSyncer, Explorer.api noBalance noBalance, idlePool⟩ historyCodec e
          { method := "POST", path := ["batch", "addresses", "transactions"] }).2 =
        .json (.transactionLists [[{ ID := ⟨7⟩, SiafundOutputs := [⟨1, ⟨1⟩⟩] }]]) ∧
      (oneAddressStore.run keepProofs (fun _ => 5) [.apply fundBlock true]).Addresses.1 =
        [⟨1⟩] ∧
      (oneAddressStore.run keepProofs (fun _ => 5) [.apply fundBlock true]).Transactions 0 (-1) =
        ([], none) :=
  ⟨_, rfl, .inl rfl, rfl, rfl, rfl⟩

end SiaExplorer
