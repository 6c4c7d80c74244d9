import SiaExplorer.Model.Wallet
import SiaExplorer.Theorems.Elements
import SiaExplorer.Theorems.History

/-!
# The wallet store follows the chain

`EphemeralStore` is a wallet's view of the chain, and `Walletutil.Follows g s` says what that
view is for: over the chain of a ledger `g`, the store's siacoin and siafund elements are, up to
order, the live elements of the chain at the wallet's addresses; its transactions are the
records of the chain's blocks in order, none from a reverted block; and its tip is the chain's.

* **The store follows the chain** (`wallet_follows_chain`): from a store holding no elements and
  no transactions, every run of valid updates keeps `Follows`. Each kind of element is one
  instance of `applyLoops_perm` and `revertLoops_perm`: an owned live element leaves with an
  update exactly when the update spends it (`owned_leaves_iff`). A revert's `takeWhile` cuts
  exactly the reverted block's records, since heights grow along a valid chain.
* **Balance** (`wallet_balance_follows`): the balance is the sum of the chain's live outputs at
  the wallet's addresses, siacoins counted once they mature.
* **History** (`wallet_transactions_follow`): `Transactions(since, max)` returns the first `max`
  records of the chain's blocks stamped after `since`, all of them when `max` is negative.
* **Seed indices** (`seed_indices_below`): over any `AddAddress` calls whose indices are below
  `2^64 - 1`, every address the store holds was derived below `SeedIndex`.
-/

namespace SiaExplorer

theorem Listed_eq {α : Type} (ID : α → ElementID) (es : List α) (id : ElementID) :
    Listed ID es id = decide (id ∈ es.map ID) := by
  simp [Listed, List.any_eq]

theorem Listed_coinOutputs (es : List SiacoinElement) (id : ElementID) :
    Listed (·.ID) es id = decide (id ∈ (coinOutputs es).map (·.1)) := by
  rw [Listed_eq, coinOutputs, List.map_map]
  rfl

theorem Listed_fundOutputs (es : List SiafundElement) (id : ElementID) :
    Listed (·.ID) es id = decide (id ∈ (fundOutputs es).map (·.1)) := by
  rw [Listed_eq, fundOutputs, List.map_map]
  rfl

/-- Along a valid chain, no block before the tip has the tip's index: heights grow. -/
theorem ValidChain.index_ne {chain : List ApplyUpdate} {tip : ApplyUpdate}
    (h : ValidChain (chain ++ [tip])) {c : ApplyUpdate} (hc : c ∈ chain) :
    c.State.Index ≠ tip.Block.Header.Index := by
  obtain ⟨pre, post, rfl⟩ := List.append_of_mem hc
  have hvc : c.Valid pre := h pre c (post ++ [tip]) (by simp)
  intro heq
  have hheight := congrArg ChainIndex.Height heq
  rw [hvc.stateIndex] at hheight
  simp [BlockHeader.Index, hvc.height, h.last.height] at hheight

/-- An entry of `m[addr] = info` was an entry of `m`, or is the new one. -/
theorem AddressMap.mem_set {m : AddressMap} {addr : Address} {info : Wallet.AddressInfo}
    {e : Address × Wallet.AddressInfo} (h : e ∈ (m.set addr info).entries) :
    e ∈ m.entries ∨ e = (addr, info) := by
  unfold AddressMap.set at h
  split at h
  · obtain ⟨e', he', rfl⟩ := List.mem_map.1 h
    by_cases hk : e'.1 = addr
    · exact .inr (by simp [hk])
    · exact .inl (by simpa [hk] using he')
  · simpa using h

namespace Walletutil

/-! ## The wallet's live elements -/

/-- Whether a live element is of kind `type` and at one of the wallet's addresses. -/
def Owned (addrs : AddressMap) (type : ElementType) (p : ElementID × Output) : Bool :=
  p.2.type == type && p.2.address.any addrs.Has

theorem Owned.type {addrs : AddressMap} {type : ElementType} {p : ElementID × Output}
    (h : Owned addrs type p) : p.2.type = type := by
  simp only [Owned, Bool.and_eq_true, beq_iff_eq] at h
  exact h.1

@[simp] theorem Owned.contract (addrs : AddressMap) (type : ElementType) (id : ElementID)
    (fc : FileContract) : Owned addrs type (id, .contract fc) = false := by
  simp [Owned, Output.address]

@[simp] theorem Owned.siacoin (addrs : AddressMap) (id : ElementID) (o : SiacoinOutput) :
    Owned addrs .siacoin (id, .siacoin o) = addrs.Has o.Address := by
  simp [Owned, Output.address]

@[simp] theorem Owned.siafund (addrs : AddressMap) (id : ElementID) (o : SiafundOutput) :
    Owned addrs .siafund (id, .siafund o) = addrs.Has o.Address := by
  simp [Owned, Output.address]

/-- The elements of kind `type` an update removes. -/
def removedOf (cau : ApplyUpdate) (type : ElementType) : List (ElementID × Output) :=
  cau.removed.filter (·.2.type == type)

/-- The elements of kind `type` an update adds. -/
def addedOf (cau : ApplyUpdate) (type : ElementType) : List (ElementID × Output) :=
  cau.added.filter (·.2.type == type)

@[simp] theorem removedOf_siacoin (cau : ApplyUpdate) :
    removedOf cau .siacoin = coinOutputs cau.SpentSiacoins := by
  simp [removedOf, ApplyUpdate.removed, coinOutputs, fundOutputs, contractOutputs,
    List.filter_map, Function.comp_def, beq_eq_decide]

@[simp] theorem removedOf_siafund (cau : ApplyUpdate) :
    removedOf cau .siafund = fundOutputs cau.SpentSiafunds := by
  simp [removedOf, ApplyUpdate.removed, coinOutputs, fundOutputs, contractOutputs,
    List.filter_map, Function.comp_def, beq_eq_decide]

@[simp] theorem addedOf_siacoin (cau : ApplyUpdate) :
    addedOf cau .siacoin = coinOutputs cau.NewSiacoinElements := by
  simp [addedOf, ApplyUpdate.added, coinOutputs, fundOutputs, contractOutputs,
    List.filter_map, Function.comp_def, beq_eq_decide]

@[simp] theorem addedOf_siafund (cau : ApplyUpdate) :
    addedOf cau .siafund = fundOutputs cau.NewSiafundElements := by
  simp [addedOf, ApplyUpdate.added, coinOutputs, fundOutputs, contractOutputs,
    List.filter_map, Function.comp_def, beq_eq_decide]

/-- Filtering the elements of a kind by ownership is filtering by ownership. -/
theorem filter_owned_of_type (addrs : AddressMap) (type : ElementType)
    (l : List (ElementID × Output)) :
    (l.filter (·.2.type == type)).filter (Owned addrs type) = l.filter (Owned addrs type) := by
  rw [List.filter_filter]
  exact List.filter_congr fun p _ => by
    cases h : Owned addrs type p
    · rfl
    · simp [h, Owned.type h]

/-- A revision is of a contract, which the wallet never owns. -/
theorem revised_filter_owned (addrs : AddressMap) (type : ElementType) (cau : ApplyUpdate) :
    cau.revised.filter (Owned addrs type) = [] := by
  simp [ApplyUpdate.revised, contractOutputs, List.filter_map, Function.comp_def]

/-! ## One kind of element through an update -/

section Loops

variable {L : List (ElementID × Output)} {cau : ApplyUpdate} {addrs : AddressMap}
  {type : ElementType} (hL : (L.map (·.1)).Nodup) (hrem : ∀ p ∈ cau.removed, p ∈ L)
  (hrev : ∀ p ∈ cau.revised, ∃ fc, (p.1, Output.contract fc) ∈ L)
  {α : Type} {pair : α → ElementID × Output} {upd : α → α} {ours : α → Bool}
  (hupd : ∀ e, pair (upd e) = pair e) (hours : ∀ e, ours e = Owned addrs type (pair e))

include hL hrem hrev in
/-- A live element of the wallet leaves with an update exactly when the update removes it, and
then it is among the removed elements of its kind. -/
theorem owned_leaves_iff {p : ElementID × Output} (hp : p ∈ L) (ho : Owned addrs type p) :
    (p.1 ∈ (cau.removed ++ cau.revised).map (·.1) ↔ p ∈ cau.removed) ∧
      (p.1 ∈ (removedOf cau type).map (·.1) ↔ p ∈ cau.removed) := by
  have hsame : ∀ q ∈ cau.removed, q.1 = p.1 → q = p := fun q hq hqp =>
    List.inj_on_of_nodup_map hL (hrem q hq) hp hqp
  refine ⟨⟨fun h => ?_, fun h => List.mem_map_of_mem _ (List.mem_append_left _ h)⟩,
    ⟨fun h => ?_, fun h => List.mem_map_of_mem _ (List.mem_filter.2 ⟨h, by simp [Owned.type ho]⟩)⟩⟩
  · obtain ⟨q, hq, hqp⟩ := List.mem_map.1 h
    rcases List.mem_append.1 hq with hq | hq
    · exact hsame q hq hqp ▸ hq
    · -- a revised element is a live contract, which the wallet does not own
      obtain ⟨fc, hfc⟩ := hrev q hq
      obtain rfl := List.inj_on_of_nodup_map hL hfc hp hqp
      simp at ho
  · obtain ⟨q, hq, hqp⟩ := List.mem_map.1 h
    exact hsame q (List.mem_filter.1 hq).1 hqp ▸ (List.mem_filter.1 hq).1

include hupd in
/-- The elements a loop keeps, seen as live elements, are the kept live elements. -/
theorem map_filter_pair (keep : α → Bool) (q : ElementID × Output → Bool) (elems : List α)
    (hkeep : ∀ e ∈ elems, keep e = q (pair e)) :
    ((elems.filter keep).map upd).map pair = (elems.map pair).filter q := by
  rw [List.map_map, show pair ∘ upd = pair from funext hupd, List.filter_map,
    List.filter_congr hkeep]
  rfl

include hours in
/-- The new elements a loop adds are the added ones the wallet owns. -/
theorem map_filter_ours {new : List α} (hnew : new.map pair = addedOf cau type) :
    (new.filter ours).map pair = (cau.added ++ cau.revised).filter (Owned addrs type) := by
  rw [List.filter_append, revised_filter_owned, List.append_nil, ← filter_owned_of_type,
    ← addedOf, ← hnew, List.filter_map]
  exact congrArg _ (List.filter_congr fun e _ => hours e)

include hL hrem hrev hupd hours in
/-- **One kind through an apply.** If the wallet's elements of a kind are the live ones it owns,
so are they after `ProcessChainApplyUpdate`'s loops for that kind. -/
theorem applyLoops_perm {wasSpent : α → Bool} {elems new : List α}
    (hspent : ∀ e, wasSpent e = decide ((pair e).1 ∈ (removedOf cau type).map (·.1)))
    (hnew : new.map pair = addedOf cau type)
    (h : (elems.map pair).Perm (L.filter (Owned addrs type))) :
    ((applyLoops wasSpent upd ours elems new).map pair).Perm
      ((liveAfter L cau).filter (Owned addrs type)) := by
  have hmem : ∀ e ∈ elems, pair e ∈ L ∧ Owned addrs type (pair e) := fun e he =>
    List.mem_filter.1 (h.subset (List.mem_map_of_mem _ he))
  -- the elements kept are the live ones the update leaves, as the spent are removed
  have hkept := map_filter_pair hupd (!wasSpent ·)
    (fun p => !decide (p.1 ∈ (removedOf cau type).map (·.1))) elems
    fun e _ => congrArg (!·) (hspent e)
  have hleft : (L.filter (Owned addrs type)).filter
      (fun p => !decide (p.1 ∈ (removedOf cau type).map (·.1))) =
      (L.filter fun p => p.1 ∉ (cau.removed ++ cau.revised).map (·.1)).filter
        (Owned addrs type) := by
    rw [List.filter_filter, List.filter_filter]
    refine List.filter_congr fun p hp => ?_
    cases ho : Owned addrs type p
    · simp
    · have hiff := owned_leaves_iff hL hrem hrev hp ho
      simp only [Bool.and_true, Bool.true_and, hiff.1, hiff.2, decide_not]
  rw [applyLoops, List.map_append, liveAfter, List.filter_append, map_filter_ours hours hnew,
    hkept, ← hleft]
  exact (h.filter _).append_right _

include hL hrem hrev hupd hours in
/-- **One kind through a revert.** If the wallet's elements of a kind are the live ones it owns
after an update, then after `ProcessChainRevertUpdate`'s loops for that kind they are the live
ones it owns before it. -/
theorem revertLoops_perm (hfresh : ∀ p ∈ cau.added, p.1 ∉ L.map (·.1))
    (hnd : (cau.removed.map (·.1)).Nodup) {wasRemoved : α → Bool} {elems spent : List α}
    (hremoved : ∀ e, wasRemoved e = decide ((pair e).1 ∈ (addedOf cau type).map (·.1)))
    (hspent : spent.map pair = removedOf cau type)
    (h : (elems.map pair).Perm ((liveAfter L cau).filter (Owned addrs type))) :
    ((revertLoops wasRemoved ours upd elems spent).map pair).Perm
      (L.filter (Owned addrs type)) := by
  let R : ElementID × Output → Bool := fun p => p.1 ∉ (cau.removed ++ cau.revised).map (·.1)
  let A : ElementID × Output → Bool := fun p => !decide (p.1 ∈ (addedOf cau type).map (·.1))
  -- dropping the created elements leaves the live elements the update kept
  have hcreated : ((liveAfter L cau).filter (Owned addrs type)).filter A =
      (L.filter R).filter (Owned addrs type) := by
    have hL' : ((L.filter R).filter (Owned addrs type)).filter A =
        (L.filter R).filter (Owned addrs type) := List.filter_eq_self.2 fun p hp => by
      have hpL := (List.mem_filter.1 (List.mem_filter.1 hp).1).1
      simp only [A, Bool.not_eq_true', decide_eq_false_iff_not, List.mem_map, not_exists,
        not_and]
      intro q hq hqp
      exact hfresh q (List.mem_filter.1 hq).1 (hqp ▸ List.mem_map_of_mem _ hpL)
    have hA : ((cau.added ++ cau.revised).filter (Owned addrs type)).filter A = [] := by
      rw [List.filter_append, revised_filter_owned, List.append_nil, List.filter_eq_nil_iff]
      intro p hp
      obtain ⟨hadd, ho⟩ := List.mem_filter.1 hp
      have : p ∈ addedOf cau type := List.mem_filter.2 ⟨hadd, by simp [Owned.type ho]⟩
      simp only [A, Bool.not_eq_true', decide_eq_false_iff_not, not_not]
      exact List.mem_map_of_mem _ this
    rw [liveAfter, List.filter_append, List.filter_append, hL', hA, List.append_nil]
  -- the owned elements the update removed are the spent ones of the wallet
  have hgone : ((L.filter (Owned addrs type)).filter (!R ·)).Perm
      (cau.removed.filter (Owned addrs type)) := by
    refine (List.perm_ext_iff_of_nodup ((hL.of_map _).filter _ |>.filter _)
      ((hnd.of_map _).filter _)).2 fun p => ?_
    simp only [List.mem_filter, R, decide_not, Bool.not_not, decide_eq_true_eq]
    constructor
    · rintro ⟨⟨hp, ho⟩, hx⟩
      exact ⟨(owned_leaves_iff hL hrem hrev hp ho).1.1 hx, ho⟩
    · rintro ⟨hp, ho⟩
      exact ⟨⟨hrem p hp, ho⟩, List.mem_map_of_mem Prod.fst (List.mem_append_left _ hp)⟩
  have hkept := map_filter_pair hupd (!wasRemoved ·) A elems fun e _ => congrArg (!·) (hremoved e)
  have hback : ((spent.filter ours).map upd).map pair = cau.removed.filter (Owned addrs type) := by
    rw [map_filter_pair hupd ours _ spent fun e _ => hours e, hspent, removedOf,
      filter_owned_of_type]
  have hcomm : (L.filter R).filter (Owned addrs type) = (L.filter (Owned addrs type)).filter R := by
    rw [List.filter_filter, List.filter_filter]
    exact List.filter_congr fun p _ => Bool.and_comm _ _
  rw [revertLoops, List.map_append, List.map_append, hkept, hback]
  calc List.Perm ((elems.map pair).filter A ++ cau.removed.filter (Owned addrs type))
        (((liveAfter L cau).filter (Owned addrs type)).filter A ++
          cau.removed.filter (Owned addrs type)) := (h.filter A).append_right _
    _ = (L.filter (Owned addrs type)).filter R ++ cau.removed.filter (Owned addrs type) := by
      rw [hcreated, hcomm]
    List.Perm _ ((L.filter (Owned addrs type)).filter R ++
        (L.filter (Owned addrs type)).filter (!R ·)) := hgone.symm.append_left _
    List.Perm _ (L.filter (Owned addrs type)) := List.filter_append_perm R _

end Loops

/-! ## The records of a chain's blocks -/

theorem relevantTransaction_Index {Timestamp : BlockHeader → Nat} {addrs : AddressMap}
    {cau : ApplyUpdate} {txn : Transaction} {r : Wallet.Transaction}
    (h : relevantTransaction Timestamp addrs cau txn = some r) : r.Index = cau.State.Index := by
  simp only [relevantTransaction] at h
  split at h
  · cases h
    rfl
  · cases h

/-- A revert's cut of the records, at the first one of the tip's block, leaves the records of
the blocks before the tip. -/
theorem takeWhile_records (F : ApplyUpdate → List Wallet.Transaction)
    (hF : ∀ c, ∀ r ∈ F c, r.Index = c.State.Index) {chain : List ApplyUpdate}
    {tip : ApplyUpdate} (hvc : ValidChain (chain ++ [tip])) :
    ((chain ++ [tip]).flatMap F).takeWhile (·.Index != tip.Block.Header.Index) =
      chain.flatMap F := by
  rw [List.flatMap_append, List.takeWhile_append_of_pos]
  · -- every record of the tip's block carries its index
    cases hFt : F tip with
    | nil => simp [hFt]
    | cons r rs =>
      have hr : r.Index = tip.Block.Header.Index :=
        (hF tip r (by simp [hFt])).trans hvc.last.stateIndex
      simp [hFt, hr]
  · intro r hr
    obtain ⟨c, hc, hrc⟩ := List.mem_flatMap.1 hr
    simpa [hF c r hrc] using hvc.index_ne hc

/-! ## The store follows the chain -/

/-- The records a wallet with addresses `addrs` keeps of a chain's blocks, in order. -/
def records (Timestamp : BlockHeader → Nat) (addrs : AddressMap) (chain : List ApplyUpdate) :
    List Wallet.Transaction :=
  chain.flatMap fun cau =>
    cau.Block.Transactions.filterMap (relevantTransaction Timestamp addrs cau)

/-- **What the store is for.** Over the chain of `g`: the store's siacoin and siafund elements
are, up to order, the chain's live elements of each kind at the store's addresses; its
transactions are the records of the chain's blocks, in order; its tip is the chain's. -/
structure Follows (Timestamp : BlockHeader → Nat) (g : Ledger) (s : EphemeralStore) : Prop where
  validChain : ValidChain g.chain
  coins : (coinOutputs s.scElems).Perm ((liveOf g.chain).filter (Owned s.addrs .siacoin))
  funds : (fundOutputs s.sfElems).Perm ((liveOf g.chain).filter (Owned s.addrs .siafund))
  txns : s.txns = records Timestamp s.addrs g.chain
  tip : ∀ last ∈ g.chain.getLast?, s.tip = last.State.Index

variable (pu : ProofUpdates) (Timestamp : BlockHeader → Nat)

/-- A store with no elements and no transactions follows the empty chain. -/
theorem Follows.init {s : EphemeralStore}
    (hs : s.scElems = [] ∧ s.sfElems = [] ∧ s.txns = []) : Follows Timestamp {} s where
  validChain := ValidChain.nil
  coins := by simp [hs.1, coinOutputs, liveOf_nil]
  funds := by simp [hs.2.1, fundOutputs, liveOf_nil]
  txns := hs.2.2
  tip := nofun

/-- `ProcessChainApplyUpdate` of a valid update keeps `Follows`. -/
theorem Follows.apply {g : Ledger} {s : EphemeralStore} {cau : ApplyUpdate}
    (h : Follows Timestamp g s) (hv : cau.Valid g.chain) (mayCommit : Bool) :
    Follows Timestamp ⟨g.chain ++ [cau], g.applied ++ [cau]⟩
      (s.ProcessChainApplyUpdate pu Timestamp cau mayCommit).1 where
  validChain := h.validChain.snoc hv
  coins := by
    rw [liveOf_snoc]
    refine applyLoops_perm h.validChain.nodup hv.removedLive hv.revisedLive ?_ ?_ ?_
      (addedOf_siacoin cau).symm h.coins <;> intro sce
    · exact Prod.ext (pu.apply_ID cau _) rfl
    · exact (Owned.siacoin _ _ _).symm
    · simp only [ApplyUpdate.SiacoinElementWasSpent, Listed_coinOutputs, removedOf_siacoin]
  funds := by
    rw [liveOf_snoc]
    refine applyLoops_perm h.validChain.nodup hv.removedLive hv.revisedLive ?_ ?_ ?_
      (addedOf_siafund cau).symm h.funds <;> intro sfe
    · exact Prod.ext (pu.apply_ID cau _) rfl
    · exact (Owned.siafund _ _ _).symm
    · simp only [ApplyUpdate.SiafundElementWasSpent, Listed_fundOutputs, removedOf_siafund]
  txns := by simp [EphemeralStore.ProcessChainApplyUpdate, h.txns, records, List.flatMap_append]
  tip := by simp [EphemeralStore.ProcessChainApplyUpdate]

/-- `ProcessChainRevertUpdate` of the update undoing the tip keeps `Follows`. -/
theorem Follows.revert {pre applied : List ApplyUpdate} {parent tip : ApplyUpdate}
    {cru : RevertUpdate} {s : EphemeralStore}
    (h : Follows Timestamp ⟨pre ++ [parent, tip], applied⟩ s) (hu : cru.Undoes tip parent.State) :
    Follows Timestamp ⟨pre ++ [parent], applied⟩ (s.ProcessChainRevertUpdate pu cru).1 := by
  have hvc : ValidChain ((pre ++ [parent]) ++ [tip]) := by simpa using h.validChain
  have hv := hvc.last
  have hlive : liveOf (pre ++ [parent, tip]) = liveAfter (liveOf (pre ++ [parent])) tip := by
    rw [← liveOf_snoc]
    simp
  have hnd : (tip.removed.map (·.1)).Nodup := by
    have := hv.distinct
    rw [List.map_append, List.map_append] at this
    exact this.of_append_left.of_append_left
  refine ⟨hvc.append, ?_, ?_, ?_, ?_⟩
  · refine revertLoops_perm hvc.append.nodup hv.removedLive hv.revisedLive ?_ ?_ hv.addedFresh
      hnd ?_ (hu.spentSiacoins.trans (removedOf_siacoin tip).symm) (hlive ▸ h.coins) <;> intro sce
    · exact Prod.ext (pu.revert_ID cru _) rfl
    · exact (Owned.siacoin _ _ _).symm
    · simp only [RevertUpdate.SiacoinElementWasRemoved, Listed_coinOutputs, hu.newSiacoins,
        addedOf_siacoin]
  · refine revertLoops_perm hvc.append.nodup hv.removedLive hv.revisedLive ?_ ?_ hv.addedFresh
      hnd ?_ (hu.spentSiafunds.trans (removedOf_siafund tip).symm) (hlive ▸ h.funds) <;> intro sfe
    · exact Prod.ext (pu.revert_ID cru _) rfl
    · exact (Owned.siafund _ _ _).symm
    · simp only [RevertUpdate.SiafundElementWasRemoved, Listed_fundOutputs, hu.newSiafunds,
        addedOf_siafund]
  · -- the cut at the reverted block's index leaves the records of the blocks before it
    show s.txns.takeWhile (·.Index != cru.Block.Header.Index) = records Timestamp s.addrs _
    rw [h.txns, hu.block, records, records, ← List.singleton_append, ← List.append_assoc]
    exact takeWhile_records _ (fun c r hr => by
      obtain ⟨txn, -, hrt⟩ := List.mem_filterMap.1 hr
      exact relevantTransaction_Index hrt) hvc
  · intro last hl
    obtain rfl : parent = last := by simpa using hl
    exact congrArg State.Index hu.state

/-- Every run of valid updates keeps `Follows`. -/
theorem Follows.run {g g' : Ledger} {evs : List Event} (hrun : Ledger.Run g evs g')
    {s : EphemeralStore} (h : Follows Timestamp g s) :
    Follows Timestamp g' (s.run pu Timestamp evs) := by
  induction hrun generalizing s with
  | nil => exact h
  | cons hstep _ ih =>
    cases hstep with
    | apply mayCommit hv => exact ih (h.apply pu Timestamp hv mayCommit)
    | revert hu => exact ih (h.revert pu Timestamp hu)

/-- A run never changes the store's addresses. -/
@[simp] theorem run_addrs (s : EphemeralStore) (evs : List Event) :
    (s.run pu Timestamp evs).addrs = s.addrs := by
  induction evs generalizing s with
  | nil => rfl
  | cons ev evs ih =>
    rw [EphemeralStore.run, List.foldl_cons, ← EphemeralStore.run, ih]
    cases ev <;> rfl

/-- **The wallet store follows the chain.** From a store holding no elements and no
transactions, such as a new store whose addresses were then added, every run of valid updates
leads to a store that follows the chain the run leads to: its siacoin and siafund elements are,
up to order, the chain's live elements at its addresses; its transactions are the records of
the chain's blocks, in order, none from a reverted block; and its tip is the chain's. -/
theorem wallet_follows_chain {evs : List Event} {g : Ledger} (hrun : Ledger.Run {} evs g)
    {s : EphemeralStore} (hs : s.scElems = [] ∧ s.sfElems = [] ∧ s.txns = []) :
    Follows Timestamp g (s.run pu Timestamp evs) :=
  (Follows.init Timestamp hs).run pu Timestamp hrun

/-- Proof updates that leave every proof as it is. -/
def keepProofs : ProofUpdates := ⟨fun _ se => se, fun _ se => se, fun _ _ => rfl, fun _ _ => rfl⟩

/-- A new store at genesis that owns address 1, at seed index 0. -/
def oneAddressStore : EphemeralStore := ((NewEphemeralStore ⟨0, ⟨0⟩⟩).AddAddress ⟨1⟩ ⟨0⟩).1

theorem oneAddressStore_empty :
    oneAddressStore.scElems = [] ∧ oneAddressStore.sfElems = [] ∧ oneAddressStore.txns = [] :=
  ⟨rfl, rfl, rfl⟩

/-- Genesis creating coin 1 of value 1 at address 1, then block 1 with transaction 6 paying 1
to address 1. -/
def walletBlocks : List ApplyUpdate := [coinGenesis, txnBlock 1 6]

theorem walletBlocks_run :
    Ledger.Run {} (walletBlocks.map (.apply · true)) ⟨walletBlocks, walletBlocks⟩ :=
  Ledger.replay_run rfl

theorem wallet_follows_chain_walletBlocks :
    Follows (fun _ => 5) ⟨walletBlocks, walletBlocks⟩
      (oneAddressStore.run keepProofs (fun _ => 5) (walletBlocks.map (.apply · true))) :=
  wallet_follows_chain keepProofs (fun _ => 5) walletBlocks_run oneAddressStore_empty

/-! ## What the store answers -/

/-- What a live element adds to a wallet's siacoin balance at height `height`: a siacoin
output's value, once it has matured. -/
def matureValue (MaturityHeight : ElementID → Nat) (height : Nat) : ElementID × Output → Nat
  | (id, .siacoin o) => if MaturityHeight id < height then o.Value.val else 0
  | _ => 0

/-- What a live element adds to a wallet's siafund balance. -/
def fundValue : ElementID × Output → BitVec 64
  | (_, .siafund o) => o.Value
  | _ => 0

/-- A loop adding up `v x` over the `x` that satisfy `P`, as `Balance` and the flows do. -/
theorem foldl_add_ite {β : Type} (P : β → Prop) [DecidablePred P] (v : β → Currency)
    (l : List β) (c : Currency) :
    (l.foldl (fun acc x => if P x then acc.Add (v x) else acc) c).val =
      c.val + (l.map fun x => if P x then (v x).val else 0).sum := by
  induction l generalizing c with
  | nil => simp
  | cons x l ih =>
    rw [List.foldl_cons, ih]
    by_cases hx : P x <;> simp [hx, Nat.add_assoc]

theorem foldl_add_value (l : List SiafundElement) (c : BitVec 64) :
    l.foldl (fun sf sfe => sf + sfe.Value) c = c + ((fundOutputs l).map fundValue).sum := by
  induction l generalizing c with
  | nil => simp [fundOutputs]
  | cons sfe l ih =>
    rw [List.foldl_cons, ih]
    simp [fundOutputs, fundValue, add_assoc]

/-- On a store that follows the chain, `Balance` sums the chain's live outputs at its addresses:
siacoins once they have matured before the tip, siafunds all. -/
theorem Follows.balance {g : Ledger} {s : EphemeralStore} (h : Follows Timestamp g s)
    (MaturityHeight : ElementID → Nat) :
    (s.Balance MaturityHeight).1.val = (((liveOf g.chain).filter (Owned s.addrs .siacoin)).map
        (matureValue MaturityHeight s.tip.Height)).sum ∧
      (s.Balance MaturityHeight).2 =
        (((liveOf g.chain).filter (Owned s.addrs .siafund)).map fundValue).sum := by
  simp only [EphemeralStore.Balance]
  refine ⟨?_, ?_⟩
  · rw [foldl_add_ite, ← (h.coins.map _).sum_eq]
    simp [coinOutputs, matureValue, Function.comp_def]
  · rw [foldl_add_value, ← (h.funds.map _).sum_eq, zero_add]

/-- **The wallet's balance is the chain's.** After any run of valid updates from a store holding
no elements and no transactions, `Balance` returns the sum of the values of the chain's live
siacoin outputs at the wallet's addresses that matured before the tip, and the sum, wrapping at
`2^64`, of the values of its live siafund outputs there; the tip is the chain's. -/
theorem wallet_balance_follows {evs : List Event} {g : Ledger} (hrun : Ledger.Run {} evs g)
    {s : EphemeralStore} (hs : s.scElems = [] ∧ s.sfElems = [] ∧ s.txns = [])
    (MaturityHeight : ElementID → Nat) :
    ((s.run pu Timestamp evs).Balance MaturityHeight).1.val =
        (((liveOf g.chain).filter (Owned s.addrs .siacoin)).map
          (matureValue MaturityHeight (s.run pu Timestamp evs).tip.Height)).sum ∧
      ((s.run pu Timestamp evs).Balance MaturityHeight).2 =
        (((liveOf g.chain).filter (Owned s.addrs .siafund)).map fundValue).sum ∧
      ∀ last ∈ g.chain.getLast?, (s.run pu Timestamp evs).tip = last.State.Index := by
  have h := (Follows.init Timestamp hs).run pu Timestamp hrun
  have hb := h.balance Timestamp MaturityHeight
  rw [run_addrs] at hb
  exact ⟨hb.1, hb.2, h.tip⟩

theorem wallet_balance_follows_walletBlocks :
    ((oneAddressStore.run keepProofs (fun _ => 5) (walletBlocks.map (.apply · true))).Balance
        fun _ => 0).1.val = 1 ∧
      ((oneAddressStore.run keepProofs (fun _ => 5) (walletBlocks.map (.apply · true))).Balance
        fun _ => 0).2 = 0 :=
  have h := wallet_balance_follows keepProofs (fun _ => 5) walletBlocks_run
    oneAddressStore_empty fun _ => 0
  ⟨h.1.trans (by decide), h.2.1.trans (by decide)⟩

/-- The loop of `Transactions` keeps, after `kept`, the records after `since`, up to `max`. -/
theorem transactionsLoop_eq (since : Nat) (max : Int) :
    ∀ kept rest : List Wallet.Transaction, (max < 0 ∨ (kept.length : Int) ≤ max) →
      EphemeralStore.transactionsLoop since max kept rest =
        if max < 0 then kept ++ rest.filter (since < ·.Timestamp)
        else (kept ++ rest.filter (since < ·.Timestamp)).take max.toNat
  | kept, [], h => by
    rw [EphemeralStore.transactionsLoop, List.filter_nil, List.append_nil]
    split
    · rfl
    · rw [List.take_of_length_le (by omega)]
  | kept, txn :: rest, h => by
    rw [EphemeralStore.transactionsLoop]
    split
    · -- `kept` holds `max` records
      rename_i hmax
      rw [if_neg (by omega), List.take_append_of_le_length (by omega),
        List.take_of_length_le (by omega)]
    · rename_i hmax
      split
      · rename_i hnew
        rw [transactionsLoop_eq since max (kept ++ [txn]) rest (by simp; omega)]
        simp [List.filter_cons, hnew]
      · rename_i hold
        rw [transactionsLoop_eq since max kept rest h]
        simp [List.filter_cons, hold]

/-- `Transactions(since, max)` returns the first `max` records after `since`, all of them when
`max` is negative. -/
theorem Transactions_eq (s : EphemeralStore) (since : Nat) (max : Int) :
    s.Transactions since max =
      (if max < 0 then s.txns.filter (since < ·.Timestamp)
        else (s.txns.filter (since < ·.Timestamp)).take max.toNat, none) := by
  rw [EphemeralStore.Transactions, transactionsLoop_eq since max [] s.txns (by simp; omega)]
  simp

/-- **The wallet's history is the chain's.** After any run of valid updates from a store holding
no elements and no transactions, `Transactions(since, max)` returns, in chain order, the first
`max` (all when `max` is negative) of the records of the chain's blocks stamped after `since`:
one per transaction moving siacoins to or from the wallet, none from a reverted block. -/
theorem wallet_transactions_follow {evs : List Event} {g : Ledger} (hrun : Ledger.Run {} evs g)
    {s : EphemeralStore} (hs : s.scElems = [] ∧ s.sfElems = [] ∧ s.txns = []) (since : Nat)
    (max : Int) :
    (s.run pu Timestamp evs).Transactions since max =
      (if max < 0 then (records Timestamp s.addrs g.chain).filter (since < ·.Timestamp)
        else ((records Timestamp s.addrs g.chain).filter (since < ·.Timestamp)).take max.toNat,
        none) := by
  have h := (Follows.init Timestamp hs).run pu Timestamp hrun
  rw [Transactions_eq, h.txns, run_addrs]

theorem wallet_transactions_follow_walletBlocks :
    (oneAddressStore.run keepProofs (fun _ => 5) (walletBlocks.map (.apply · true))).Transactions
        0 (-1) =
      ([{ Raw := { ID := ⟨6⟩, SiacoinOutputs := [⟨⟨1⟩, ⟨1⟩⟩] }, Index := ⟨1, ⟨1⟩⟩, ID := ⟨6⟩,
          Inflow := ⟨1⟩, Outflow := ⟨0⟩, Timestamp := 5 }], none) :=
  (wallet_transactions_follow keepProofs (fun _ => 5) walletBlocks_run
    oneAddressStore_empty 0 (-1)).trans (by decide)

/-! ## Seed indices -/

/-- Every address the store holds was derived below its seed index. -/
def EphemeralStore.IndicesBelow (s : EphemeralStore) : Prop :=
  ∀ e ∈ s.addrs.entries, e.2.Index < s.seedIndex

/-- `AddAddress` keeps every index below the seed index, unless the index added is `2^64 - 1`,
where `info.Index + 1` wraps to 0. -/
theorem EphemeralStore.IndicesBelow.AddAddress {s : EphemeralStore} (h : s.IndicesBelow)
    (addr : Address) {info : Wallet.AddressInfo} (hmax : info.Index ≠ BitVec.allOnes 64) :
    (s.AddAddress addr info).1.IndicesBelow := by
  have hmax' : info.Index.toNat ≠ 2 ^ 64 - 1 := fun hx =>
    hmax (BitVec.eq_of_toNat_eq (by simp [hx]))
  intro e he
  simp only [EphemeralStore.AddAddress] at he ⊢
  rcases AddressMap.mem_set he with he | rfl
  · have := h e he
    split <;> bv_omega
  · split <;> bv_omega

/-- `k` calls of `NewAddress`, with the addresses they return. -/
def newAddresses (w : TestingWallet) : Nat → TestingWallet × List Address
  | 0 => (w, [])
  | k + 1 =>
    let (w', a) := w.NewAddress
    let (w'', as) := newAddresses w' k
    (w'', a :: as)

theorem NewAddress_store (w : TestingWallet) :
    w.NewAddress.1.addressAt = w.addressAt ∧
      w.NewAddress.1.store.SeedIndex = w.store.SeedIndex + 1 ∧
      w.NewAddress.2 = w.addressAt w.store.SeedIndex := by
  simp [TestingWallet.NewAddress, EphemeralStore.AddAddress, EphemeralStore.SeedIndex]

/-- The `i`-th of `k` calls of `NewAddress` derives the address at the seed index plus `i`. -/
theorem newAddresses_eq (w : TestingWallet) (k : Nat) :
    (newAddresses w k).2 =
        (List.range k).map (fun i => w.addressAt (w.store.SeedIndex + BitVec.ofNat 64 i)) ∧
      (newAddresses w k).1.store.SeedIndex = w.store.SeedIndex + BitVec.ofNat 64 k := by
  induction k generalizing w with
  | zero => simp [newAddresses]
  | succ k ih =>
    obtain ⟨hat, hseed, hret⟩ := NewAddress_store w
    obtain ⟨has, hk⟩ := ih w.NewAddress.1
    -- the next call's indices are this call's, one further
    have hsucc : ∀ i, w.store.SeedIndex + 1 + BitVec.ofNat 64 i =
        w.store.SeedIndex + BitVec.ofNat 64 (i + 1) := fun i => by
      rw [BitVec.add_assoc, BitVec.ofNat_add, BitVec.add_comm (BitVec.ofNat 64 i)]
      rfl
    simp only [newAddresses, has, hk, hat, hseed, hret, List.range_succ_eq_map, List.map_cons,
      List.map_map, hsucc, Function.comp_def, Nat.succ_eq_add_one, BitVec.add_zero, and_self]

/-- **`NewAddress` derives index after index.** From a new `TestingWallet`, the `i`-th call of
`NewAddress` returns the address at seed index `i` modulo `2^64`, and the store's `SeedIndex`
counts the calls: `2^64` calls derive distinct indices, and the next derives index 0 again. -/
theorem NewAddress_indices (cs : State) (addressAt : BitVec 64 → Address) (k : Nat) :
    (newAddresses (TestingWallet.NewTestingWallet cs addressAt) k).2 =
        (List.range k).map (fun i => addressAt (BitVec.ofNat 64 i)) ∧
      (newAddresses (TestingWallet.NewTestingWallet cs addressAt) k).1.store.SeedIndex =
        BitVec.ofNat 64 k := by
  obtain ⟨h1, h2⟩ := newAddresses_eq (TestingWallet.NewTestingWallet cs addressAt) k
  refine ⟨h1.trans (List.map_congr_left fun i _ => ?_), h2.trans ?_⟩ <;>
    simp [TestingWallet.NewTestingWallet, NewEphemeralStore, EphemeralStore.SeedIndex]

/-- `AddAddress` calls in order. -/
def addAddresses (s : EphemeralStore) (l : List (Address × Wallet.AddressInfo)) :
    EphemeralStore :=
  l.foldl (fun s e => (s.AddAddress e.1 e.2).1) s

/-- **Seed indices.** Over any `AddAddress` calls whose indices are below `2^64 - 1`, from a
store whose addresses were all derived below its seed index (a new store holds none), every
address held was derived below `SeedIndex`, the index `NewAddress` derives next. -/
theorem seed_indices_below (s : EphemeralStore) (hs : s.IndicesBelow)
    (l : List (Address × Wallet.AddressInfo)) (hl : ∀ e ∈ l, e.2.Index ≠ BitVec.allOnes 64) :
    (addAddresses s l).IndicesBelow := by
  induction l generalizing s with
  | nil => exact hs
  | cons e l ih =>
    exact ih _ (hs.AddAddress e.1 (hl e (.head _))) fun e he => hl e (.tail _ he)

theorem seed_indices_below_oneAddress :
    (NewEphemeralStore ⟨0, ⟨0⟩⟩).IndicesBelow ∧
      (∀ e ∈ [((⟨1⟩ : Address), (⟨0⟩ : Wallet.AddressInfo))], e.2.Index ≠ BitVec.allOnes 64) ∧
      (addAddresses (NewEphemeralStore ⟨0, ⟨0⟩⟩) [(⟨1⟩, ⟨0⟩)]).IndicesBelow :=
  have hnew : (NewEphemeralStore ⟨0, ⟨0⟩⟩).IndicesBelow := fun _ he => by
    simp [NewEphemeralStore, AddressMap.empty] at he
  ⟨hnew, by decide, seed_indices_below _ hnew [(⟨1⟩, ⟨0⟩)] (by decide)⟩

end Walletutil

end SiaExplorer
