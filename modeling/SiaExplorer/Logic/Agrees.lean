import SiaExplorer.Logic.Tables
import SiaExplorer.Ledger.Live

/-!
# The Store agrees with the chain

`Agrees g t`: the tables `t` are what the updates of the ledger `g` should leave,

* the keys of `elements` are the live elements with their types, and `unspentElements` is one
  row per live coin and fund with its address;
* `states` and `chainstats` have one row per applied block, and `chainstats` holds the stats of
  every prefix of the current chain;
* `transactions` and `addressTransactions` hold the rows of every applied block, reverted ones
  included, in order.

A batch of an update's statements that runs without an error keeps it (`Agrees.apply`,
`Agrees.revert`).
-/

namespace SiaExplorer

/-! ## What the handlers' statements do to the tables -/

/-- The tables after `ProcessChainApplyUpdate`'s statements. -/
theorem applyAll_applyStatements (cau : ApplyUpdate) (stats : ChainStats) (t : Tables) :
    applyAll (cau.statements stats) t =
      { elements :=
          ((t.elements.filter fun r => r.1 ∉ cau.SpentSiacoins.map (·.ID)).filter
              fun r => r.1 ∉ cau.SpentSiafunds.map (·.ID)).filter
              (fun r => r.1 ∉ cau.ResolvedFileContracts.map (·.ID)) ++
            (cau.NewSiacoinElements.map fun e => (e.ID, .siacoin, .siacoin e)) ++
            (cau.NewSiafundElements.map fun e => (e.ID, .siafund, .siafund e)) ++
            (cau.RevisedFileContracts.map fun e => (e.ID, .contract, .contract e)) ++
            (cau.NewFileContracts.map fun e => (e.ID, .contract, .contract e))
        states := t.states ++ [(cau.Block.Header.Index, cau.State)]
        chainstats := t.chainstats ++ [(cau.State.Index.String, stats)]
        unspentElements :=
          (t.unspentElements.filter fun r =>
              r ∉ cau.SpentSiacoins.map fun e => (e.ID, .siacoin, e.Address)).filter
              (fun r => r ∉ cau.SpentSiafunds.map fun e => (e.ID, .siafund, e.Address)) ++
            (cau.NewSiacoinElements.map fun e => (e.ID, .siacoin, e.Address)) ++
            (cau.NewSiafundElements.map fun e => (e.ID, .siafund, e.Address))
        transactions := t.transactions ++ cau.Block.Transactions.map fun txn => (txn.ID, txn)
        addressTransactions := t.addressTransactions ++
          cau.Block.Transactions.flatMap fun txn => (txnAddresses txn).map (txn.ID, ·) } := by
  simp only [ApplyUpdate.statements, applyAll_append, applyAll_cons, applyAll_nil,
    applyAll_transactions, applyAll_deleteWithUnspent, applyAll_deleteElements,
    applyAll_insertWithUnspent, applyAll_insertElements, Statement.apply, List.append_assoc]

/-- The tables after `ProcessChainRevertUpdate`'s statements: only `elements` and
`unspentElements` change. -/
theorem applyAll_revertStatements (cru : RevertUpdate) (t : Tables) :
    applyAll cru.statements t =
      { t with
        elements :=
          ((((t.elements ++
                      (cru.SpentSiacoins.map fun e =>
                        (e.ID, ElementType.siacoin, Element.siacoin e)) ++
                      (cru.SpentSiafunds.map fun e =>
                        (e.ID, ElementType.siafund, Element.siafund e)) ++
                      (cru.ResolvedFileContracts.map fun e =>
                        (e.ID, ElementType.contract, Element.contract e))).filter
                    fun r => r.1 ∉ cru.NewSiacoinElements.map (·.ID)).filter
                  fun r => r.1 ∉ cru.NewSiafundElements.map (·.ID)).filter
                (fun r => r.1 ∉ cru.RevisedFileContracts.map (·.ID)) ++
              (cru.Block.revisions.map fun rev =>
                (rev.Parent.ID, ElementType.contract, Element.contract rev.Parent))).filter
            fun r => r.1 ∉ cru.NewFileContracts.map (·.ID)
        unspentElements :=
          ((t.unspentElements ++
                  (cru.SpentSiacoins.map fun e => (e.ID, ElementType.siacoin, e.Address)) ++
                  (cru.SpentSiafunds.map fun e => (e.ID, ElementType.siafund, e.Address))).filter
                fun r => r ∉ cru.NewSiacoinElements.map fun e =>
                  (e.ID, ElementType.siacoin, e.Address)).filter
            fun r => r ∉ cru.NewSiafundElements.map fun e =>
              (e.ID, ElementType.siafund, e.Address) } := by
  simp only [RevertUpdate.statements, applyAll_append, applyAll_deleteWithUnspent,
    applyAll_deleteElements, applyAll_insertWithUnspent, applyAll_insertElements,
    List.append_assoc]

/-! ## Keys and rows of live elements -/

/-- An `elements` row's key: its ID and type. -/
def rowKey (r : ElementID × ElementType × Element) : ElementID × ElementType := (r.1, r.2.1)

/-- A live element's key: its ID and the type it is filed under. -/
def liveKey (p : ElementID × Output) : ElementID × ElementType := (p.1, p.2.type)

/-- The `unspentElements` row of a live coin or fund. -/
def unspentRow (p : ElementID × Output) : Option (ElementID × ElementType × Address) :=
  p.2.address.map fun a => (p.1, p.2.type, a)

@[simp] theorem rowKeys_siacoin (xs : List SiacoinElement) :
    (xs.map fun e => (e.ID, ElementType.siacoin, Element.siacoin e)).map rowKey =
      (coinOutputs xs).map liveKey := by
  simp [coinOutputs, rowKey, liveKey, Output.type]

@[simp] theorem rowKeys_siafund (xs : List SiafundElement) :
    (xs.map fun e => (e.ID, ElementType.siafund, Element.siafund e)).map rowKey =
      (fundOutputs xs).map liveKey := by
  simp [fundOutputs, rowKey, liveKey, Output.type]

@[simp] theorem rowKeys_contract (xs : List FileContractElement) :
    (xs.map fun e => (e.ID, ElementType.contract, Element.contract e)).map rowKey =
      (contractOutputs xs).map liveKey := by
  simp [contractOutputs, rowKey, liveKey, Output.type]

@[simp] theorem ids_siacoin (xs : List SiacoinElement) :
    xs.map (·.ID) = (coinOutputs xs).map (·.1) := by
  simp [coinOutputs]

@[simp] theorem ids_siafund (xs : List SiafundElement) :
    xs.map (·.ID) = (fundOutputs xs).map (·.1) := by
  simp [fundOutputs]

@[simp] theorem ids_contract (xs : List FileContractElement) :
    xs.map (·.ID) = (contractOutputs xs).map (·.1) := by
  simp [contractOutputs]

@[simp] theorem unspentRows_siacoin (xs : List SiacoinElement) :
    xs.map (fun e => (e.ID, ElementType.siacoin, e.Address)) =
      (coinOutputs xs).filterMap unspentRow := by
  simp [coinOutputs, unspentRow, Output.address, Output.type, List.filterMap_map,
    Function.comp_def]

@[simp] theorem unspentRows_siafund (xs : List SiafundElement) :
    xs.map (fun e => (e.ID, ElementType.siafund, e.Address)) =
      (fundOutputs xs).filterMap unspentRow := by
  simp [fundOutputs, unspentRow, Output.address, Output.type, List.filterMap_map,
    Function.comp_def]

@[simp] theorem unspentRows_contract (xs : List FileContractElement) :
    (contractOutputs xs).filterMap unspentRow = [] := by
  simp [contractOutputs, unspentRow, Output.address, List.filterMap_map, Function.comp_def]

theorem mem_rowKeys_filter {l : List (ElementID × ElementType × Element)} {X : List ElementID}
    {k : ElementID × ElementType} :
    k ∈ (l.filter fun r => r.1 ∉ X).map rowKey ↔ k ∈ l.map rowKey ∧ k.1 ∉ X := by
  simp only [List.mem_map, List.mem_filter, decide_eq_true_eq]
  constructor
  · rintro ⟨r, ⟨hr, hx⟩, rfl⟩; exact ⟨⟨r, hr, rfl⟩, hx⟩
  · rintro ⟨⟨r, hr, rfl⟩, hx⟩; exact ⟨r, ⟨hr, hx⟩, rfl⟩

theorem mem_liveKeys_id {X : List (ElementID × Output)} {k : ElementID × ElementType}
    (h : k ∈ X.map liveKey) : k.1 ∈ X.map (·.1) := by
  obtain ⟨p, hp, rfl⟩ := List.mem_map.1 h
  exact List.mem_map_of_mem _ hp

theorem mem_liveAfter_keys {L : List (ElementID × Output)} {cau : ApplyUpdate}
    {k : ElementID × ElementType} :
    k ∈ (liveAfter L cau).map liveKey ↔
      (k ∈ L.map liveKey ∧ k.1 ∉ (cau.removed ++ cau.revised).map (·.1)) ∨
        k ∈ cau.added.map liveKey ∨ k ∈ cau.revised.map liveKey := by
  simp only [List.mem_map, mem_liveAfter]
  constructor
  · rintro ⟨p, hp | hp | hp, rfl⟩
    · exact .inl ⟨⟨p, hp.1, rfl⟩, hp.2⟩
    · exact .inr (.inl ⟨p, hp, rfl⟩)
    · exact .inr (.inr ⟨p, hp, rfl⟩)
  · rintro (⟨⟨p, hp, rfl⟩, hx⟩ | ⟨p, hp, rfl⟩ | ⟨p, hp, rfl⟩)
    · exact ⟨p, .inl ⟨hp, hx⟩, rfl⟩
    · exact ⟨p, .inr (.inl hp), rfl⟩
    · exact ⟨p, .inr (.inr hp), rfl⟩

/-! ## What a valid update removes and revises is live -/

section ValidUpdate

variable {L : List (ElementID × Output)} {cau : ApplyUpdate} (hL : (L.map (·.1)).Nodup)
  (hrem : ∀ p ∈ cau.removed, p ∈ L)
  (hrev : ∀ p ∈ cau.revised, ∃ fc, (p.1, Output.contract fc) ∈ L)
  {k : ElementID × ElementType}

include hrem in
theorem removed_key_live (h : k ∈ cau.removed.map liveKey) : k ∈ L.map liveKey := by
  obtain ⟨p, hp, rfl⟩ := List.mem_map.1 h
  exact List.mem_map_of_mem _ (hrem p hp)

include hL hrem in
theorem live_key_removed (h : k ∈ L.map liveKey) (hid : k.1 ∈ cau.removed.map (·.1)) :
    k ∈ cau.removed.map liveKey := by
  obtain ⟨p, hp, rfl⟩ := List.mem_map.1 h
  obtain ⟨q, hq, hqp⟩ := List.mem_map.1 hid
  rw [List.inj_on_of_nodup_map hL hp (hrem q hq) hqp.symm]
  exact List.mem_map_of_mem _ hq

include hL hrev in
/-- A revised contract is live under the same key. -/
theorem revised_key_iff :
    k ∈ cau.revised.map liveKey ↔ k ∈ L.map liveKey ∧ k.1 ∈ cau.revised.map (·.1) := by
  constructor
  · intro h
    obtain ⟨p, hp, rfl⟩ := List.mem_map.1 h
    obtain ⟨fc, hfc⟩ := hrev p hp
    obtain ⟨e, -, rfl⟩ := List.mem_map.1 hp
    exact ⟨List.mem_map.2 ⟨_, hfc, rfl⟩, List.mem_map_of_mem _ hp⟩
  · rintro ⟨h, h'⟩
    obtain ⟨p, hp, rfl⟩ := List.mem_map.1 h
    obtain ⟨q, hq, hqp⟩ := List.mem_map.1 h'
    obtain ⟨fc, hfc⟩ := hrev q hq
    have hpq := List.inj_on_of_nodup_map hL hp hfc hqp.symm
    obtain ⟨e, -, rfl⟩ := List.mem_map.1 hq
    exact List.mem_map.2 ⟨_, hq, by rw [hpq]; rfl⟩

include hL hrem hrev in
/-- A live coin or fund that an update removes has its unspent row among the removed ones; a
removed contract and a revised one have none. -/
theorem unspentRow_of_removed {p : ElementID × Output} (hp : p ∈ L)
    {r : ElementID × ElementType × Address} (hr : unspentRow p = some r)
    (hx : p.1 ∈ (cau.removed ++ cau.revised).map (·.1)) :
    r ∈ cau.removed.filterMap unspentRow := by
  obtain ⟨q, hq, hqp⟩ := List.mem_map.1 hx
  rcases List.mem_append.1 hq with hq | hq
  · rw [List.inj_on_of_nodup_map hL hp (hrem q hq) hqp.symm] at hr
    exact List.mem_filterMap.2 ⟨q, hq, hr⟩
  · obtain ⟨fc, hfc⟩ := hrev q hq
    rw [List.inj_on_of_nodup_map hL hp hfc hqp.symm] at hr
    simp [unspentRow, Output.address] at hr

end ValidUpdate

theorem unspentRow_fst {p : ElementID × Output} {r : ElementID × ElementType × Address}
    (h : unspentRow p = some r) : r.1 = p.1 := by
  simp only [unspentRow, Option.map_eq_some'] at h
  obtain ⟨a, -, rfl⟩ := h
  rfl

/-- The revision parents a revert re-inserts are the revised contracts, under the same keys. -/
theorem parentKeys {cru : RevertUpdate} {cau : ApplyUpdate} {parent : SiaExplorer.State}
    (hu : cru.Undoes cau parent)
    (hrevs : cau.Block.revisions.map (·.Parent.ID) = cau.RevisedFileContracts.map (·.ID)) :
    (cru.Block.revisions.map fun rev =>
        (rev.Parent.ID, ElementType.contract, Element.contract rev.Parent)).map rowKey =
      cau.revised.map liveKey := by
  have := congrArg (List.map fun id => (id, ElementType.contract)) hrevs
  simp only [List.map_map] at this
  simpa [hu.block, ApplyUpdate.revised, contractOutputs, rowKey, liveKey, Output.type,
    Function.comp_def] using this

/-- The order of a revert's writes on one key: re-add the removed, delete the new coins and
funds and the revised, re-add the revision parents, delete the new contracts. It leaves the
key present exactly when it was live before the block. -/
theorem revertKey_iff {kL iR iV kA kV kR1 kR2 kR3 iA1 iA2 iA3 : Prop}
    (hA : kA → iA1 ∨ iA2 ∨ iA3) (hV : kV → iV) (hRL : kR1 ∨ kR2 ∨ kR3 → kL)
    (hLR : kL → iR → kR1 ∨ kR2 ∨ kR3) (hVL : kV ↔ kL ∧ iV) (hAL : iA1 ∨ iA2 ∨ iA3 → ¬kL) :
    (((((((kL ∧ ¬(iR ∨ iV) ∨ kA ∨ kV) ∨ kR1) ∨ kR2) ∨ kR3) ∧ ¬iA1) ∧ ¬iA2) ∧ ¬iV ∨ kV) ∧ ¬iA3 ↔
      kL := by
  constructor
  · rintro ⟨⟨⟨⟨(((⟨hL, -⟩ | hkA | hkV) | h1) | h2) | h3, hA1⟩, hA2⟩, hnV⟩ | hkV, hA3⟩
    · exact hL
    · rcases hA hkA with h | h | h
      exacts [absurd h hA1, absurd h hA2, absurd h hA3]
    · exact absurd (hV hkV) hnV
    · exact hRL (.inl h1)
    · exact hRL (.inr (.inl h2))
    · exact hRL (.inr (.inr h3))
    · exact (hVL.1 hkV).1
  · intro hL
    have hnA : ¬(iA1 ∨ iA2 ∨ iA3) := fun h => hAL h hL
    refine ⟨?_, fun h => hnA (.inr (.inr h))⟩
    by_cases hiV : iV
    · exact .inr (hVL.2 ⟨hL, hiV⟩)
    · refine .inl ⟨⟨⟨?_, fun h => hnA (.inl h)⟩, fun h => hnA (.inr (.inl h))⟩, hiV⟩
      by_cases hiR : iR
      · rcases hLR hL hiR with h | h | h
        exacts [.inl (.inl (.inr h)), .inl (.inr h), .inr h]
      · exact .inl (.inl (.inl (.inl ⟨hL, fun h => h.elim hiR hiV⟩)))

/-- The order of an apply's writes on one key: delete the removed, insert the new coins and
funds, the revised and the new contracts. It leaves the key present exactly when it is live
after the block, a revised contract's key being live before it. -/
theorem applyKey_iff {L S1 S2 S3 N1 N2 R C I : Prop} (hrk : L ∧ I → R) :
    (((((L ∧ S1) ∧ S2) ∧ S3 ∨ N1) ∨ N2) ∨ R) ∨ C ↔
      L ∧ ((S1 ∧ S2) ∧ S3) ∧ ¬I ∨ ((N1 ∨ N2) ∨ C) ∨ R := by
  constructor
  · rintro ((((⟨⟨⟨hL, h1⟩, h2⟩, h3⟩ | hN1) | hN2) | hR) | hC)
    · by_cases hI : I
      · exact .inr (.inr (hrk ⟨hL, hI⟩))
      · exact .inl ⟨hL, ⟨⟨h1, h2⟩, h3⟩, hI⟩
    · exact .inr (.inl (.inl (.inl hN1)))
    · exact .inr (.inl (.inl (.inr hN2)))
    · exact .inr (.inr hR)
    · exact .inr (.inl (.inr hC))
  · rintro (⟨hL, ⟨⟨h1, h2⟩, h3⟩, -⟩ | ((hN1 | hN2) | hC) | hR)
    · exact .inl (.inl (.inl (.inl ⟨⟨⟨hL, h1⟩, h2⟩, h3⟩)))
    · exact .inl (.inl (.inl (.inr hN1)))
    · exact .inl (.inl (.inr hN2))
    · exact .inr hC
    · exact .inl (.inr hR)

/-! ## The invariant -/

/-- The tables agree with the ledger `g`. -/
structure Agrees (g : Ledger) (t : Tables) : Prop where
  /-- the keys of `elements` are the live elements, each under its type -/
  elements : ∀ k, k ∈ t.elements.map rowKey ↔ k ∈ (liveOf g.chain).map liveKey
  /-- `unspentElements` is one row per live coin and fund, with its address -/
  unspent : ∀ r, r ∈ t.unspentElements ↔ r ∈ (liveOf g.chain).filterMap unspentRow
  /-- one `states` row per applied block -/
  states : t.states.map (·.1) = g.applied.map (·.Block.Header.Index)
  /-- one `chainstats` row per applied block, keyed by the text of its index -/
  chainstatsKeys : t.chainstats.map (·.1) = g.applied.map (·.State.Index.String)
  /-- the stats of every prefix of the chain, under the index of its last block -/
  chainstats : ∀ k (hk : k < g.chain.length), ∃ s, chainStatsOf (g.chain.take (k + 1)) = .ok s ∧
    (g.chain[k].State.Index.String, s) ∈ t.chainstats
  /-- one `transactions` row per transaction of an applied block -/
  transactions :
    t.transactions.map (·.1) = g.applied.flatMap fun cau => cau.Block.Transactions.map (·.ID)
  /-- one `addressTransactions` row per transaction and address, in order -/
  addressTransactions : t.addressTransactions = g.applied.flatMap fun cau =>
    cau.Block.Transactions.flatMap fun txn => (txnAddresses txn).map (txn.ID, ·)

theorem Agrees.empty : Agrees {} {} :=
  ⟨by simp [liveOf_nil], by simp [liveOf_nil], rfl, rfl, fun _ hk => absurd hk (by simp), rfl, rfl⟩

/-- The statements of a valid apply, run without an error, keep the tables in agreement. -/
theorem Agrees.apply {g : Ledger} {t : Tables} {cau : ApplyUpdate} {stats : ChainStats}
    (h : Agrees g t) (hg : ValidChain g.chain) (hv : cau.Valid g.chain)
    (hstats : chainStatsOf (g.chain ++ [cau]) = .ok stats) :
    Agrees ⟨g.chain ++ [cau], g.applied ++ [cau]⟩ (applyAll (cau.statements stats) t) := by
  have hL := hg.nodup
  rw [applyAll_applyStatements]
  constructor
  · -- elements: the removed leave, the added and revised come in
    intro k
    have hrk := fun h => (revised_key_iff hL hv.revisedLive (k := k)).2 h
    simp only [liveOf_snoc, mem_liveAfter_keys, List.map_append, List.mem_append,
      mem_rowKeys_filter, h.elements, rowKeys_siacoin, rowKeys_siafund, rowKeys_contract,
      ids_siacoin, ids_siafund, ids_contract]
    simp only [ApplyUpdate.removed, ApplyUpdate.added, ApplyUpdate.revised, List.map_append,
      List.mem_append, not_or] at hrk ⊢
    exact applyKey_iff hrk
  · -- unspent: the spent rows leave, the new coins and funds come in
    intro r
    have hsp : r ∈ cau.removed.filterMap unspentRow ↔
        r ∈ (coinOutputs cau.SpentSiacoins).filterMap unspentRow ∨
          r ∈ (fundOutputs cau.SpentSiafunds).filterMap unspentRow := by
      simp [ApplyUpdate.removed, List.filterMap_append, or_assoc]
    have hcr : r ∈ (cau.added ++ cau.revised).filterMap unspentRow ↔
        r ∈ (coinOutputs cau.NewSiacoinElements).filterMap unspentRow ∨
          r ∈ (fundOutputs cau.NewSiafundElements).filterMap unspentRow := by
      simp [ApplyUpdate.added, ApplyUpdate.revised, List.filterMap_append, or_assoc]
    have hids : ∀ p, unspentRow p = some r → r ∈ cau.removed.filterMap unspentRow →
        p.1 ∈ (cau.removed ++ cau.revised).map (·.1) := by
      intro p hp h
      obtain ⟨q, hq, hqr⟩ := List.mem_filterMap.1 h
      simp only [unspentRow, Option.map_eq_some'] at hp hqr
      obtain ⟨a, -, rfl⟩ := hp
      obtain ⟨b, -, hb⟩ := hqr
      exact List.mem_map.2 ⟨q, List.mem_append_left _ hq, congrArg (·.1) hb⟩
    simp only [unspentRows_siacoin, unspentRows_siafund, List.mem_append, List.mem_filter,
      decide_eq_true_eq, h.unspent, liveOf_snoc]
    constructor
    · rintro ((⟨⟨hr, hsc⟩, hsf⟩ | hnc) | hnf)
      · obtain ⟨p, hp, hpr⟩ := List.mem_filterMap.1 hr
        refine List.mem_filterMap.2 ⟨p, mem_liveAfter.2 (.inl ⟨hp, fun hx => ?_⟩), hpr⟩
        rcases hsp.1 (unspentRow_of_removed hL hv.removedLive hv.revisedLive hp hpr hx) with h | h
        exacts [hsc h, hsf h]
      all_goals
        obtain ⟨p, hp, hpr⟩ := List.mem_filterMap.1 (hcr.2 (by simp [*]))
        exact List.mem_filterMap.2 ⟨p, mem_liveAfter.2 (.inr (List.mem_append.1 hp)), hpr⟩
    · intro hr
      obtain ⟨p, hp, hpr⟩ := List.mem_filterMap.1 hr
      rcases mem_liveAfter.1 hp with ⟨hp, hx⟩ | hp | hp
      · exact .inl (.inl ⟨⟨List.mem_filterMap.2 ⟨p, hp, hpr⟩,
          fun h => hx (hids p hpr (hsp.2 (.inl h)))⟩, fun h => hx (hids p hpr (hsp.2 (.inr h)))⟩)
      all_goals
        rcases hcr.1 (List.mem_filterMap.2 ⟨p, by simp [hp], hpr⟩) with h | h
        exacts [.inl (.inr h), .inr h]
  · simp [h.states]
  · simp [h.chainstatsKeys]
  · -- chainstats: the old rows stay, the new block's row comes in
    intro k hk
    simp only [List.length_append, List.length_singleton] at hk
    rcases Nat.lt_or_eq_of_le (Nat.lt_succ_iff.1 hk) with hk | rfl
    · obtain ⟨s, hs, hrow⟩ := h.chainstats k hk
      refine ⟨s, ?_, ?_⟩
      · rwa [List.take_append_of_le_length (by omega)]
      · rw [List.getElem_append_left hk]; exact List.mem_append_left _ hrow
    · refine ⟨stats, by rwa [List.take_of_length_le (by simp)], ?_⟩
      simp
  · simp [h.transactions]
  · simp [h.addressTransactions]

/-- The statements of the revert of the tip, run without an error, bring the tables back to
agreement with the chain without the tip. -/
theorem Agrees.revert {pre applied : List ApplyUpdate} {parent tip : ApplyUpdate}
    {cru : RevertUpdate} {t : Tables} (h : Agrees ⟨pre ++ [parent, tip], applied⟩ t)
    (hg : ValidChain (pre ++ [parent, tip])) (hu : cru.Undoes tip parent.State) :
    Agrees ⟨pre ++ [parent], applied⟩ (applyAll cru.statements t) := by
  have hsplit : pre ++ [parent, tip] = (pre ++ [parent]) ++ [tip] := by simp
  rw [hsplit] at hg
  have hv := hg.last
  have hL := hg.append.nodup
  have hlive : liveOf (pre ++ [parent, tip]) = liveAfter (liveOf (pre ++ [parent])) tip := by
    rw [hsplit, liveOf_snoc]
  rw [applyAll_revertStatements]
  constructor
  · -- elements
    intro k
    simp only [mem_rowKeys_filter, List.map_append, List.mem_append, h.elements, hlive,
      mem_liveAfter_keys, parentKeys hu hv.revisions, rowKeys_siacoin, rowKeys_siafund,
      rowKeys_contract, ids_siacoin, ids_siafund, ids_contract, hu.spentSiacoins,
      hu.spentSiafunds, hu.resolved, hu.newSiacoins, hu.newSiafunds, hu.newContracts, hu.revised]
    refine revertKey_iff (fun hk => ?_) mem_liveKeys_id (fun hk => ?_) (fun hk hid => ?_)
      (revised_key_iff hL hv.revisedLive) (fun hid hk => ?_)
    · exact ApplyUpdate.mem_added_map.1 (mem_liveKeys_id hk)
    · exact removed_key_live hv.removedLive (ApplyUpdate.mem_removed_map.2 hk)
    · exact ApplyUpdate.mem_removed_map.1 (live_key_removed hL hv.removedLive hk hid)
    · obtain ⟨p, hp, hpk⟩ := List.mem_map.1 (ApplyUpdate.mem_added_map.2 hid)
      exact hv.addedFresh p hp (hpk ▸ mem_liveKeys_id hk)
  · -- unspent: the spent rows come back, the new coins' and funds' rows leave
    intro r
    have hrem : r ∈ (coinOutputs tip.SpentSiacoins).filterMap unspentRow ∨
          r ∈ (fundOutputs tip.SpentSiafunds).filterMap unspentRow ↔
        r ∈ tip.removed.filterMap unspentRow := by
      simp [ApplyUpdate.removed, List.filterMap_append, or_assoc]
    have hadd : r ∈ tip.added.filterMap unspentRow ↔
        r ∈ (coinOutputs tip.NewSiacoinElements).filterMap unspentRow ∨
          r ∈ (fundOutputs tip.NewSiafundElements).filterMap unspentRow := by
      simp [ApplyUpdate.added, List.filterMap_append, or_assoc]
    simp only [unspentRows_siacoin, unspentRows_siafund, hu.spentSiacoins, hu.spentSiafunds,
      hu.newSiacoins, hu.newSiafunds, List.mem_append, List.mem_filter, decide_eq_true_eq,
      h.unspent, hlive, or_assoc, hrem]
    constructor
    · rintro ⟨⟨hr | hr, hnc⟩, hnf⟩
      · obtain ⟨p, hp, hpr⟩ := List.mem_filterMap.1 hr
        rcases mem_liveAfter.1 hp with ⟨hp, -⟩ | hp | hp
        · exact List.mem_filterMap.2 ⟨p, hp, hpr⟩
        · rcases hadd.1 (List.mem_filterMap.2 ⟨p, hp, hpr⟩) with h | h
          exacts [absurd h hnc, absurd h hnf]
        · -- a revised contract has no unspent row
          have : r ∈ tip.revised.filterMap unspentRow := List.mem_filterMap.2 ⟨p, hp, hpr⟩
          simp [ApplyUpdate.revised] at this
      · obtain ⟨p, hp, hpr⟩ := List.mem_filterMap.1 hr
        exact List.mem_filterMap.2 ⟨p, hv.removedLive p hp, hpr⟩
    · intro hr
      obtain ⟨p, hp, hpr⟩ := List.mem_filterMap.1 hr
      have hna : r ∉ tip.added.filterMap unspentRow := fun hr' => by
        obtain ⟨q, hq, hqr⟩ := List.mem_filterMap.1 hr'
        have hqp : q.1 = p.1 := (unspentRow_fst hqr).symm.trans (unspentRow_fst hpr)
        exact hv.addedFresh q hq (by rw [hqp]; exact List.mem_map_of_mem _ hp)
      refine ⟨⟨?_, fun h => hna (hadd.2 (.inl h))⟩, fun h => hna (hadd.2 (.inr h))⟩
      by_cases hx : p.1 ∈ (tip.removed ++ tip.revised).map (·.1)
      · exact .inr (unspentRow_of_removed hL hv.removedLive hv.revisedLive hp hpr hx)
      · exact .inl (List.mem_filterMap.2 ⟨p, mem_liveAfter.2 (.inl ⟨hp, hx⟩), hpr⟩)
  · exact h.states
  · exact h.chainstatsKeys
  · -- chainstats: the rows stay, and the prefixes of the shorter chain are prefixes of the longer
    intro k hk
    change k < (pre ++ [parent]).length at hk
    have hk' : k < (pre ++ [parent, tip]).length := by
      simp only [List.length_append, List.length_cons, List.length_nil] at hk ⊢; omega
    obtain ⟨s, hs, hrow⟩ := h.chainstats k hk'
    refine ⟨s, ?_, ?_⟩
    · rwa [hsplit, List.take_append_of_le_length (by omega)] at hs
    · simp only [hsplit, List.getElem_append_left hk] at hrow; exact hrow
  · exact h.transactions
  · exact h.addressTransactions

end SiaExplorer
