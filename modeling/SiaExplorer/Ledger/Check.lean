import SiaExplorer.Ledger.Stats

/-!
# Checking a run of updates

The conditions of `ApplyUpdate.Valid` and `RevertUpdate.Undoes`, computed, and the ledger a
sequence of calls leads to when each is valid (`Ledger.replay`). Each computation implies its
relation (`ApplyUpdate.check_valid`, `RevertUpdate.check_undoes`, `Ledger.replay_run`), so a
concrete run of updates is shown valid by evaluation.
-/

namespace SiaExplorer

/-- Whether `cau` is a valid update for a block extending `chain`. -/
def ApplyUpdate.check (cau : ApplyUpdate) (chain : List ApplyUpdate) : Bool :=
  cau.Block.Header.Height == chain.length && cau.State.Index == cau.Block.Header.Index &&
    cau.removed.all (· ∈ liveOf chain) &&
    cau.revised.all (fun p => (liveOf chain).any fun q => q.1 == p.1 && q.2.contract?.isSome) &&
    cau.added.all (fun p => p.1 ∉ (liveOf chain).map (·.1)) &&
    decide ((cau.removed ++ cau.revised ++ cau.added).map (·.1)).Nodup &&
    cau.Block.revisions.map (·.Parent.ID) == cau.RevisedFileContracts.map (·.ID) &&
    cau.leaves.all (·.MerkleProof.length ≤ 64)

theorem ApplyUpdate.check_valid {cau : ApplyUpdate} {chain : List ApplyUpdate}
    (h : cau.check chain = true) : cau.Valid chain := by
  simp only [check, Bool.and_eq_true, beq_iff_eq, List.all_eq_true, decide_eq_true_eq,
    List.any_eq_true] at h
  obtain ⟨⟨⟨⟨⟨⟨⟨hheight, hindex⟩, hrem⟩, hrev⟩, hadd⟩, hdist⟩, hrevs⟩, hproofs⟩ := h
  refine ⟨hheight, hindex, hrem, fun p hp => ?_, hadd, hdist, hrevs, hproofs⟩
  obtain ⟨⟨id, o⟩, hq, hid, hc⟩ := hrev p hp
  cases o with
  | contract fc => exact ⟨fc, by simpa [← hid] using hq⟩
  | _ => simp [Output.contract?] at hc

/-- Whether `cru` undoes `cau`, the parent's state being `parent`. -/
def RevertUpdate.check (cru : RevertUpdate) (cau : ApplyUpdate) (parent : SiaExplorer.State) :
    Bool :=
  cru.Block == cau.Block && cru.State == parent &&
    coinOutputs cru.SpentSiacoins == coinOutputs cau.SpentSiacoins &&
    fundOutputs cru.SpentSiafunds == fundOutputs cau.SpentSiafunds &&
    contractOutputs cru.ResolvedFileContracts == contractOutputs cau.ResolvedFileContracts &&
    coinOutputs cru.NewSiacoinElements == coinOutputs cau.NewSiacoinElements &&
    fundOutputs cru.NewSiafundElements == fundOutputs cau.NewSiafundElements &&
    contractOutputs cru.NewFileContracts == contractOutputs cau.NewFileContracts &&
    contractOutputs cru.RevisedFileContracts == contractOutputs cau.RevisedFileContracts &&
    cru.leaves.all (·.MerkleProof.length ≤ 64)

theorem RevertUpdate.check_undoes {cru : RevertUpdate} {cau : ApplyUpdate}
    {parent : SiaExplorer.State} (h : cru.check cau parent = true) : cru.Undoes cau parent := by
  simp only [check, Bool.and_eq_true, beq_iff_eq, List.all_eq_true, decide_eq_true_eq] at h
  obtain ⟨⟨⟨⟨⟨⟨⟨⟨⟨hb, hs⟩, h1⟩, h2⟩, h3⟩, h4⟩, h5⟩, h6⟩, h7⟩, h8⟩ := h
  exact ⟨hb, hs, h1, h2, h3, h4, h5, h6, h7, h8⟩

/-- The ledger the calls `evs` lead to from `g`, when each is valid for the chain it meets. -/
def Ledger.replay (g : Ledger) : List Event → Option Ledger
  | [] => some g
  | .apply cau _ :: evs =>
    if cau.check g.chain then Ledger.replay ⟨g.chain ++ [cau], g.applied ++ [cau]⟩ evs else none
  | .revert cru :: evs =>
    match g.chain.reverse with
    | tip :: parent :: rpre =>
      if cru.check tip parent.State then Ledger.replay ⟨rpre.reverse ++ [parent], g.applied⟩ evs
      else none
    | _ => none

theorem Ledger.replay_run {g g' : Ledger} {evs : List Event} (h : g.replay evs = some g') :
    Ledger.Run g evs g' := by
  induction evs generalizing g with
  | nil => cases h; exact .nil _
  | cons ev evs ih =>
    cases ev with
    | apply cau m =>
      simp only [replay] at h
      split at h
      · exact .cons (.apply m (ApplyUpdate.check_valid (by assumption))) (ih h)
      · cases h
    | revert cru =>
      obtain ⟨chain, applied⟩ := g
      simp only [replay] at h
      split at h
      · rename_i tip parent rpre hrev
        split at h
        · have hchain : chain = rpre.reverse ++ [parent, tip] := by
            simpa using congrArg List.reverse hrev
          subst hchain
          exact .cons (.revert (RevertUpdate.check_undoes (by assumption))) (ih h)
        · cases h
      · cases h

end SiaExplorer
