import SiaExplorer.Logic.Explorer

/-!
# The chain the explorer follows

Modelled from the spec: the chain manager and consensus are outside this repository; the spec
fixes only the contract of the updates they deliver (§4.4, §6). This module states it.

* `liveOf`: the elements live on a chain, each with what it holds; an update removes its spent
  and resolved elements, replaces its revised contracts, and adds its new elements;
* `ApplyUpdate.Valid`: an update for a block extending the tip, whose removed elements are live,
  whose new elements are new, and whose lists are disjoint;
* `RevertUpdate.Undoes`: the update reverting the tip carries the tip's block, its parent's
  state, and the same element lists;
* `ValidChain`: every block of a chain was valid on the chain before it.
* `Ledger.Run`: the calls of a run, each valid for the chain it meets, and the chain it leaves,
  together with every update applied so far (`applied`, reverted ones included);
* `chainStatsOf`: the stats of a chain, as `ProcessChainApplyUpdate`'s stats step folded over it.
-/

namespace SiaExplorer

/-- What an element holds, apart from its place in the accumulator. -/
inductive Output where
  | siacoin (o : SiacoinOutput)
  | siafund (o : SiafundOutput)
  | contract (fc : FileContract)
  deriving DecidableEq, Repr

/-- The `type` the Store files an element under. -/
def Output.type : Output → ElementType
  | .siacoin _ => .siacoin
  | .siafund _ => .siafund
  | .contract _ => .contract

/-- The address an unspent row records: the output's, for coins and funds. -/
def Output.address : Output → Option Address
  | .siacoin o => some o.Address
  | .siafund o => some o.Address
  | .contract _ => none

@[simp] theorem Output.type_siacoin (o : SiacoinOutput) : (Output.siacoin o).type = .siacoin := rfl
@[simp] theorem Output.type_siafund (o : SiafundOutput) : (Output.siafund o).type = .siafund := rfl
@[simp] theorem Output.type_contract (fc : FileContract) :
    (Output.contract fc).type = .contract := rfl
@[simp] theorem Output.address_siacoin (o : SiacoinOutput) :
    (Output.siacoin o).address = some o.Address := rfl
@[simp] theorem Output.address_siafund (o : SiafundOutput) :
    (Output.siafund o).address = some o.Address := rfl
@[simp] theorem Output.address_contract (fc : FileContract) : (Output.contract fc).address = none :=
  rfl

/-- Siacoin elements with what they hold. -/
def coinOutputs (es : List SiacoinElement) : List (ElementID × Output) :=
  es.map fun e => (e.ID, .siacoin e.toSiacoinOutput)

/-- Siafund elements with what they hold. -/
def fundOutputs (es : List SiafundElement) : List (ElementID × Output) :=
  es.map fun e => (e.ID, .siafund e.toSiafundOutput)

/-- Contract elements with their terms. -/
def contractOutputs (es : List FileContractElement) : List (ElementID × Output) :=
  es.map fun e => (e.ID, .contract e.FileContract)

namespace ApplyUpdate

/-- The elements the update spends or resolves. -/
def removed (cau : ApplyUpdate) : List (ElementID × Output) :=
  coinOutputs cau.SpentSiacoins ++ fundOutputs cau.SpentSiafunds ++
    contractOutputs cau.ResolvedFileContracts

/-- The elements the update creates. -/
def added (cau : ApplyUpdate) : List (ElementID × Output) :=
  coinOutputs cau.NewSiacoinElements ++ fundOutputs cau.NewSiafundElements ++
    contractOutputs cau.NewFileContracts

/-- The contracts the update revises, with their new terms. -/
def revised (cau : ApplyUpdate) : List (ElementID × Output) :=
  contractOutputs cau.RevisedFileContracts

theorem mem_removed_map {β : Type} {cau : ApplyUpdate} {f : ElementID × Output → β} {x : β} :
    x ∈ cau.removed.map f ↔ x ∈ (coinOutputs cau.SpentSiacoins).map f ∨
      x ∈ (fundOutputs cau.SpentSiafunds).map f ∨
        x ∈ (contractOutputs cau.ResolvedFileContracts).map f := by
  simp only [removed, List.map_append, List.mem_append, or_assoc]

theorem mem_added_map {β : Type} {cau : ApplyUpdate} {f : ElementID × Output → β} {x : β} :
    x ∈ cau.added.map f ↔ x ∈ (coinOutputs cau.NewSiacoinElements).map f ∨
      x ∈ (fundOutputs cau.NewSiafundElements).map f ∨
        x ∈ (contractOutputs cau.NewFileContracts).map f := by
  simp only [added, List.map_append, List.mem_append, or_assoc]

end ApplyUpdate

/-- The live elements after `cau`: its removed and revised elements leave, its new and revised
ones come in. -/
def liveAfter (live : List (ElementID × Output)) (cau : ApplyUpdate) :
    List (ElementID × Output) :=
  live.filter (fun p => p.1 ∉ (cau.removed ++ cau.revised).map (·.1)) ++
    (cau.added ++ cau.revised)

/-- The elements live on a chain. -/
def liveOf (chain : List ApplyUpdate) : List (ElementID × Output) :=
  chain.foldl liveAfter []

/-- An update the chain manager may deliver for a block extending `chain`. -/
structure ApplyUpdate.Valid (cau : ApplyUpdate) (chain : List ApplyUpdate) : Prop where
  /-- genesis has height 0 and each block is one higher than its parent -/
  height : cau.Block.Header.Height = chain.length
  /-- the state after the block is the block's -/
  stateIndex : cau.State.Index = cau.Block.Header.Index
  /-- spent and resolved elements are live, as they are -/
  removedLive : ∀ p ∈ cau.removed, p ∈ liveOf chain
  /-- revised contracts are live contracts -/
  revisedLive : ∀ p ∈ cau.revised, ∃ fc, (p.1, Output.contract fc) ∈ liveOf chain
  /-- new elements are not live -/
  addedFresh : ∀ p ∈ cau.added, p.1 ∉ (liveOf chain).map (·.1)
  /-- no element is in two lists, or twice in one -/
  distinct : ((cau.removed ++ cau.revised ++ cau.added).map (·.1)).Nodup
  /-- the block's revisions are those of the revised contracts -/
  revisions : cau.Block.revisions.map (·.Parent.ID) = cau.RevisedFileContracts.map (·.ID)
  /-- every proof has at most 64 hashes -/
  proofs : ∀ se ∈ cau.leaves, se.MerkleProof.length ≤ 64

/-- The update reverting the block of `cau`, whose parent's state is `parent`: the same block
and element lists, each element holding what it held. -/
structure RevertUpdate.Undoes (cru : RevertUpdate) (cau : ApplyUpdate)
    (parent : SiaExplorer.State) : Prop where
  block : cru.Block = cau.Block
  state : cru.State = parent
  spentSiacoins : coinOutputs cru.SpentSiacoins = coinOutputs cau.SpentSiacoins
  spentSiafunds : fundOutputs cru.SpentSiafunds = fundOutputs cau.SpentSiafunds
  resolved : contractOutputs cru.ResolvedFileContracts = contractOutputs cau.ResolvedFileContracts
  newSiacoins : coinOutputs cru.NewSiacoinElements = coinOutputs cau.NewSiacoinElements
  newSiafunds : fundOutputs cru.NewSiafundElements = fundOutputs cau.NewSiafundElements
  newContracts : contractOutputs cru.NewFileContracts = contractOutputs cau.NewFileContracts
  revised : contractOutputs cru.RevisedFileContracts = contractOutputs cau.RevisedFileContracts
  /-- every proof has at most 64 hashes -/
  proofs : ∀ se ∈ cru.leaves, se.MerkleProof.length ≤ 64

/-- The chain manager's side of a run: the current chain, genesis first, and every update
applied so far, in order. -/
structure Ledger where
  chain : List ApplyUpdate := []
  applied : List ApplyUpdate := []

/-- One valid call: apply a block extending the tip, or revert the tip (never genesis). -/
inductive Ledger.Step : Ledger → Event → Ledger → Prop
  | apply {g : Ledger} {cau : ApplyUpdate} (mayCommit : Bool) (valid : cau.Valid g.chain) :
      Ledger.Step g (.apply cau mayCommit) ⟨g.chain ++ [cau], g.applied ++ [cau]⟩
  | revert {pre applied : List ApplyUpdate} {parent tip : ApplyUpdate} {cru : RevertUpdate}
      (undoes : cru.Undoes tip parent.State) :
      Ledger.Step ⟨pre ++ [parent, tip], applied⟩ (.revert cru) ⟨pre ++ [parent], applied⟩

/-- A sequence of valid calls and the ledger it leads to. -/
inductive Ledger.Run : Ledger → List Event → Ledger → Prop
  | nil (g : Ledger) : Ledger.Run g [] g
  | cons {g g' g'' : Ledger} {ev : Event} {evs : List Event} :
      Ledger.Step g ev g' → Ledger.Run g' evs g'' → Ledger.Run g (ev :: evs) g''

/-- Every block of the chain was delivered by a valid update on the blocks before it. -/
def ValidChain (chain : List ApplyUpdate) : Prop :=
  ∀ pre cau post, chain = pre ++ cau :: post → cau.Valid pre

/-- The stats of a chain: `ProcessChainApplyUpdate`'s stats step folded over its blocks from
the zero `ChainStats`. -/
def chainStatsOf (chain : List ApplyUpdate) : Except Panic ChainStats :=
  chain.foldlM applyStats ChainStats.zero

end SiaExplorer
