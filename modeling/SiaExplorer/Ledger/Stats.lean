import SiaExplorer.Ledger.Live

/-!
# The active-contract counters

`ProcessChainApplyUpdate` keeps three running counters of the contracts live at the tip:
`ActiveContractCount`, `ActiveContractCost` (their payouts) and `ActiveContractSize` (their file
sizes). A revision changes neither counter.

* a sum over the live elements (`measure`) is conserved by a valid update whose revisions keep
  it (`sum_live_split`, `sum_liveAfter`);
* the stats of a valid chain whose revisions keep every contract's file size and payout exist,
  so no `Sub` in the resolved-contract loop underflows, and they hold the sums over the live
  contracts (`chainStatsOf_activeSums`).
-/

namespace SiaExplorer

/-- The terms of a contract; `none` for a coin or a fund. -/
def Output.contract? : Output → Option FileContract
  | .contract fc => some fc
  | _ => none

/-- The contracts live on a chain, each in its latest revision. -/
def liveContracts (chain : List ApplyUpdate) : List FileContract :=
  (liveOf chain).filterMap (·.2.contract?)

@[simp] theorem contract?_coinOutputs (xs : List SiacoinElement) :
    (coinOutputs xs).filterMap (·.2.contract?) = [] := by
  simp [coinOutputs, Output.contract?, List.filterMap_map, Function.comp_def]

@[simp] theorem contract?_fundOutputs (xs : List SiafundElement) :
    (fundOutputs xs).filterMap (·.2.contract?) = [] := by
  simp [fundOutputs, Output.contract?, List.filterMap_map, Function.comp_def]

@[simp] theorem contract?_contractOutputs (xs : List FileContractElement) :
    (contractOutputs xs).filterMap (·.2.contract?) = xs.map (·.FileContract) := by
  simp [contractOutputs, Output.contract?, List.filterMap_map, Function.comp_def]

/-! ## Sums over live elements -/

section Measure

variable {M : Type} [AddCommMonoid M]

/-- What a live element adds to a sum over the live contracts. -/
def measure (ν : FileContract → M) (p : ElementID × Output) : M := (p.2.contract?.map ν).getD 0

theorem sum_measure (ν : FileContract → M) (L : List (ElementID × Output)) :
    (L.map (measure ν)).sum = ((L.filterMap (·.2.contract?)).map ν).sum := by
  induction L with
  | nil => rfl
  | cons p L ih =>
    obtain ⟨id, o⟩ := p
    cases o <;> simp [measure, Output.contract?, ih]

/-- Over the live elements with the IDs of `K`, a sum is the sum over `K`, when each element of
`K` has a live element with its ID adding the same. -/
theorem sum_filter_mem_keys {L K : List (ElementID × Output)} (hL : (L.map (·.1)).Nodup)
    (hK : (K.map (·.1)).Nodup) (μ : ElementID × Output → M)
    (hsame : ∀ q ∈ K, ∃ p ∈ L, p.1 = q.1 ∧ μ p = μ q) :
    ((L.filter (·.1 ∈ K.map (·.1))).map μ).sum = (K.map μ).sum := by
  -- both sides are sums over the IDs of `K` of what the live element with that ID adds
  let at_ : ElementID → M := fun k => ((L.find? (·.1 == k)).map μ).getD 0
  have hat : ∀ p ∈ L, at_ p.1 = μ p := fun p hp => by
    simp only [at_, find?_key_of_mem hL (show (p.1, p.2) ∈ L from hp), Option.map_some',
      Option.getD_some]
  have hleft : (L.filter (·.1 ∈ K.map (·.1))).map μ =
      ((L.filter (·.1 ∈ K.map (·.1))).map (·.1)).map at_ := by
    rw [List.map_map]
    exact List.map_congr_left fun p hp => (hat p (List.mem_of_mem_filter hp)).symm
  have hright : K.map μ = (K.map (·.1)).map at_ := by
    rw [List.map_map]
    refine List.map_congr_left fun q hq => ?_
    obtain ⟨p, hp, hpq, hμ⟩ := hsame q hq
    simp only [Function.comp_apply, ← hpq, hat p hp, hμ]
  have hperm : ((L.filter (·.1 ∈ K.map (·.1))).map (·.1)).Perm (K.map (·.1)) := by
    refine (List.perm_ext_iff_of_nodup (hL.sublist ((List.filter_sublist _).map _)) hK).2
      fun k => ?_
    simp only [List.mem_map, List.mem_filter, decide_eq_true_eq]
    constructor
    · rintro ⟨p, ⟨-, q, hq, hqp⟩, rfl⟩
      exact ⟨q, hq, hqp⟩
    · rintro ⟨q, hq, rfl⟩
      obtain ⟨p, hp, hpq, -⟩ := hsame q hq
      exact ⟨p, ⟨hp, q, hq, hpq.symm⟩, hpq⟩
  rw [hleft, hright]
  exact (hperm.map at_).sum_eq

variable {L : List (ElementID × Output)} {cau : ApplyUpdate}

/-- Before a valid update, the live elements are those it keeps, those it removes, and the old
terms of those it revises. -/
theorem sum_live_split (μ : ElementID × Output → M) (hL : (L.map (·.1)).Nodup)
    (hrem : ∀ p ∈ cau.removed, p ∈ L)
    (hrev : ∀ q ∈ cau.revised, ∃ p ∈ L, p.1 = q.1 ∧ μ p = μ q)
    (hdistinct : ((cau.removed ++ cau.revised ++ cau.added).map (·.1)).Nodup) :
    (L.map μ).sum =
      ((L.filter (·.1 ∉ (cau.removed ++ cau.revised).map (·.1))).map μ).sum +
        (cau.removed.map μ).sum + (cau.revised.map μ).sum := by
  have hK : ((cau.removed ++ cau.revised).map (·.1)).Nodup :=
    hdistinct.sublist ((List.sublist_append_left _ _).map _)
  have hsplit := sum_filter_mem_keys hL hK μ fun q hq => by
    rcases List.mem_append.1 hq with hq | hq
    exacts [⟨q, hrem q hq, rfl, rfl⟩, hrev q hq]
  have hperm := ((List.filter_append_perm
    (fun p => decide (p.1 ∈ (cau.removed ++ cau.revised).map (·.1))) L).map μ).sum_eq
  rw [List.map_append μ cau.removed, List.sum_append] at hsplit
  rw [List.map_append μ, List.sum_append, hsplit] at hperm
  simp only [decide_not]
  rw [← hperm]
  abel

/-- After the update, the live elements are those it keeps, those it adds, and the new terms of
those it revises. -/
theorem sum_liveAfter (μ : ElementID × Output → M) :
    ((liveAfter L cau).map μ).sum =
      ((L.filter (·.1 ∉ (cau.removed ++ cau.revised).map (·.1))).map μ).sum +
        (cau.added.map μ).sum + (cau.revised.map μ).sum := by
  simp only [liveAfter, List.map_append, List.sum_append, add_assoc]

end Measure

/-! ## The stats loops -/

/-- The three active-contract counters. -/
def ChainStats.active (s : ChainStats) : BitVec 64 × Nat × BitVec 64 :=
  (s.ActiveContractCount, s.ActiveContractCost.val, s.ActiveContractSize)

theorem List.foldlM_except_pure {ε σ α : Type} (g : σ → α → σ) (xs : List α) (s : σ) :
    xs.foldlM (fun s x => (pure (g s x) : Except ε σ)) s = .ok (xs.foldl g s) := by
  induction xs generalizing s with
  | nil => rfl
  | cons x xs ih => exact ih (g s x)

/-- A loop whose step leaves the active counters leaves them. -/
theorem active_foldl {α : Type} (g : ChainStats → α → ChainStats)
    (hg : ∀ s x, (g s x).active = s.active) (xs : List α) (s : ChainStats) :
    (xs.foldl g s).active = s.active := by
  induction xs generalizing s with
  | nil => rfl
  | cons x xs ih => rw [List.foldl_cons, ih, hg]

theorem Currency.Sub_of_le {c v : Currency} (h : v.val ≤ c.val) :
    c.Sub v = .ok ⟨c.val - v.val⟩ := by
  simp [Currency.Sub, h, pure, Except.pure]

/-- The resolved-contract loop: when the cost covers every payout, it takes each contract off
the three counters. -/
theorem foldlM_resolve (xs : List FileContractElement) (s : ChainStats)
    (h : (xs.map (·.FileContract.payout.val)).sum ≤ s.ActiveContractCost.val) :
    ∃ s', xs.foldlM (fun s elem => s.resolve elem.FileContract) s = .ok s' ∧
      s'.ActiveContractCount = s.ActiveContractCount - (xs.map fun _ => 1).sum ∧
      s'.ActiveContractCost.val =
        s.ActiveContractCost.val - (xs.map (·.FileContract.payout.val)).sum ∧
      s'.ActiveContractSize = s.ActiveContractSize - (xs.map (·.FileContract.Filesize)).sum := by
  induction xs generalizing s with
  | nil => exact ⟨s, rfl, by simp, by simp, by simp⟩
  | cons x xs ih =>
    simp only [List.map_cons, List.sum_cons] at h ⊢
    have hle : x.FileContract.payout.val ≤ s.ActiveContractCost.val := by omega
    obtain ⟨s', hs', hcount, hcost, hsize⟩ :=
      ih { s with
        ActiveContractCount := s.ActiveContractCount - 1
        ActiveContractCost := ⟨s.ActiveContractCost.val - x.FileContract.payout.val⟩
        ActiveContractSize := s.ActiveContractSize - x.FileContract.Filesize } (by simp; omega)
    refine ⟨s', ?_, ?_, ?_, ?_⟩
    · simp only [List.foldlM_cons, ChainStats.resolve, Currency.Sub_of_le hle, bind, Except.bind,
        pure, Except.pure]
      exact hs'
    · rw [hcount, sub_sub]
    · rw [hcost]; simp only; omega
    · rw [hsize, sub_sub]

/-- The new-contract loop puts each contract on the three counters. -/
theorem foldl_form (xs : List FileContractElement) (s : ChainStats) :
    (xs.foldl (fun s elem => s.form elem.FileContract) s).active =
      (s.ActiveContractCount + (xs.map fun _ => 1).sum,
        s.ActiveContractCost.val + (xs.map (·.FileContract.payout.val)).sum,
        s.ActiveContractSize + (xs.map (·.FileContract.Filesize)).sum) := by
  induction xs generalizing s with
  | nil => simp [ChainStats.active]
  | cons x xs ih =>
    rw [List.foldl_cons, ih]
    simp only [ChainStats.form, Currency.Add_val, List.map_cons, List.sum_cons, add_assoc]

/-! ## The invariant -/

/-- The active-contract counters of `s` are the sums over the contracts live in `L`. -/
structure ActiveSums (s : ChainStats) (L : List (ElementID × Output)) : Prop where
  count : s.ActiveContractCount = (L.map (measure fun _ => 1)).sum
  cost : s.ActiveContractCost.val = (L.map (measure (·.payout.val))).sum
  size : s.ActiveContractSize = (L.map (measure (·.Filesize))).sum

/-- Every revision of the update keeps its contract's file size and payout. -/
def ApplyUpdate.KeepsTerms (cau : ApplyUpdate) (chain : List ApplyUpdate) : Prop :=
  ∀ fce ∈ cau.RevisedFileContracts, ∀ fc, (fce.ID, Output.contract fc) ∈ liveOf chain →
    fc.Filesize = fce.FileContract.Filesize ∧ fc.payout = fce.FileContract.payout

/-- A revised contract's old terms add what its new terms add, to each counter. -/
theorem KeepsTerms.same {chain : List ApplyUpdate} {cau : ApplyUpdate}
    (hv : cau.Valid chain) (hk : cau.KeepsTerms chain) {M : Type} [AddCommMonoid M]
    (ν : FileContract → M) (hν : ∀ fc fc' : FileContract, fc.Filesize = fc'.Filesize →
      fc.payout = fc'.payout → ν fc = ν fc') :
    ∀ q ∈ cau.revised, ∃ p ∈ liveOf chain, p.1 = q.1 ∧ measure ν p = measure ν q := by
  intro q hq
  obtain ⟨fc, hfc⟩ := hv.revisedLive q hq
  obtain ⟨fce, hfce, rfl⟩ := List.mem_map.1 hq
  obtain ⟨h1, h2⟩ := hk fce hfce fc hfc
  exact ⟨_, hfc, rfl, by simp [measure, Output.contract?, hν _ _ h1 h2]⟩

theorem chainStatsOf_snoc (chain : List ApplyUpdate) (cau : ApplyUpdate) :
    chainStatsOf (chain ++ [cau]) = chainStatsOf chain >>= (applyStats · cau) := by
  simp only [chainStatsOf, List.foldlM_append, List.foldlM_cons, List.foldlM_nil, bind_pure]

/-- `applyStats`, its pure loops folded: the spent counts, then the resolved contracts (which
may panic), then the revised and new contracts. -/
theorem applyStats_eq (tip : ChainStats) (cau : ApplyUpdate) :
    applyStats tip cau =
      cau.ResolvedFileContracts.foldlM (fun s elem => s.resolve elem.FileContract)
          (cau.SpentSiafunds.foldl (fun s _ => s.spendSiafund)
            (cau.SpentSiacoins.foldl (fun s _ => s.spendSiacoin) (tip.seed cau.Block))) >>=
        fun s => .ok (cau.NewFileContracts.foldl (fun s elem => s.form elem.FileContract)
          (cau.RevisedFileContracts.foldl (fun s elem => s.revise elem.FileContract) s)) := by
  simp only [applyStats, List.foldlM_except_pure]
  rfl

section Update

variable {M : Type} [AddCommMonoid M] (ν : FileContract → M) (cau : ApplyUpdate)

theorem sum_removed :
    (cau.removed.map (measure ν)).sum =
      (cau.ResolvedFileContracts.map fun e => ν e.FileContract).sum := by
  simp [ApplyUpdate.removed, sum_measure, List.filterMap_append, Function.comp_def]

theorem sum_added :
    (cau.added.map (measure ν)).sum =
      (cau.NewFileContracts.map fun e => ν e.FileContract).sum := by
  simp [ApplyUpdate.added, sum_measure, List.filterMap_append, Function.comp_def]

end Update

/-- One valid update whose revisions keep their terms: its stats exist and hold the sums over
the live contracts after it. -/
theorem applyStats_activeSums {chain : List ApplyUpdate} {cau : ApplyUpdate} {s : ChainStats}
    (hg : ValidChain chain) (hv : cau.Valid chain) (hk : cau.KeepsTerms chain)
    (h : ActiveSums s (liveOf chain)) :
    ∃ s', applyStats s cau = .ok s' ∧ ActiveSums s' (liveAfter (liveOf chain) cau) := by
  -- each counter splits over the live elements into kept, removed and revised
  have split := fun {M : Type} [AddCommMonoid M] (ν : FileContract → M) hν =>
    sum_live_split (measure ν) hg.nodup hv.removedLive (KeepsTerms.same hv hk ν hν) hv.distinct
  have hc := split (fun _ => (1 : BitVec 64)) (fun _ _ _ _ => rfl)
  have hp := split (·.payout.val) (fun _ _ _ h => congrArg Currency.val h)
  have hs := split (·.Filesize) (fun _ _ h _ => h)
  rw [sum_removed] at hc hp hs
  -- the spent loops leave the counters
  have h₂ : (cau.SpentSiafunds.foldl (fun s _ => s.spendSiafund)
      (cau.SpentSiacoins.foldl (fun s _ => s.spendSiacoin) (s.seed cau.Block))).active =
        s.active := by
    rw [active_foldl (fun s _ => s.spendSiafund) (fun _ _ => rfl),
      active_foldl (fun s _ => s.spendSiacoin) (fun _ _ => rfl)]
    rfl
  simp only [ChainStats.active, Prod.mk.injEq] at h₂
  obtain ⟨h₂c, h₂p, h₂s⟩ := h₂
  obtain ⟨s₃, hs₃, hcount, hcost, hsize⟩ := foldlM_resolve cau.ResolvedFileContracts _
    (by rw [h₂p, h.cost, hp]; omega)
  -- the revised loop leaves the counters, the new loop adds to them
  have h₄ := active_foldl (fun s elem => s.revise elem.FileContract) (fun _ _ => rfl)
    cau.RevisedFileContracts s₃
  have h₅ := foldl_form cau.NewFileContracts
    (cau.RevisedFileContracts.foldl (fun s elem => s.revise elem.FileContract) s₃)
  simp only [ChainStats.active, Prod.mk.injEq] at h₄ h₅
  obtain ⟨h₄c, h₄p, h₄s⟩ := h₄
  obtain ⟨h₅c, h₅p, h₅s⟩ := h₅
  rw [h₄c, h₄p, h₄s] at *
  refine ⟨_, by rw [applyStats_eq, hs₃]; rfl, ?_, ?_, ?_⟩ <;>
    rw [sum_liveAfter, sum_added]
  · rw [h₅c, hcount, h₂c, h.count, hc]; abel
  · rw [h₅p, hcost, h₂p, h.cost, hp]; omega
  · rw [h₅s, hsize, h₂s, h.size, hs]; abel

/-- Every revision on the chain kept its contract's file size and payout. -/
def KeepsTermsChain (chain : List ApplyUpdate) : Prop :=
  ∀ pre cau post, chain = pre ++ cau :: post → cau.KeepsTerms pre

/-- The stats of a valid chain whose revisions keep their contracts' terms exist, and their
active-contract counters are the sums over the live contracts. -/
theorem chainStatsOf_activeSums {chain : List ApplyUpdate} (hg : ValidChain chain)
    (hk : KeepsTermsChain chain) :
    ∃ s, chainStatsOf chain = .ok s ∧ ActiveSums s (liveOf chain) := by
  induction chain using List.reverseRecOn with
  | nil => exact ⟨ChainStats.zero, rfl, rfl, rfl, rfl⟩
  | append_singleton chain cau ih =>
    obtain ⟨s, hs, hsum⟩ :=
      ih hg.append fun pre c post h => hk pre c (post ++ [cau]) (by simp [h])
    obtain ⟨s', hs', hsum'⟩ :=
      applyStats_activeSums hg.append hg.last (hk chain cau [] rfl) hsum
    refine ⟨s', ?_, ?_⟩
    · rw [chainStatsOf_snoc, hs]; exact hs'
    · rw [liveOf_snoc]; exact hsum'

/-- The sums of `ActiveSums`, as the count, total payout and total size of the live
contracts. -/
theorem ActiveSums.counters {s : ChainStats} {chain : List ApplyUpdate}
    (h : ActiveSums s (liveOf chain)) :
    s.ActiveContractCount = BitVec.ofNat 64 (liveContracts chain).length ∧
      s.ActiveContractCost.val = ((liveContracts chain).map (·.payout.val)).sum ∧
      s.ActiveContractSize = ((liveContracts chain).map (·.Filesize)).sum := by
  refine ⟨?_, by rw [h.cost, sum_measure]; rfl, by rw [h.size, sum_measure]; rfl⟩
  rw [h.count, sum_measure, liveContracts]
  induction (liveOf chain).filterMap (·.2.contract?) with
  | nil => rfl
  | cons fc fcs ih => simp [ih, BitVec.ofNat_add_ofNat, add_comm]

end SiaExplorer
