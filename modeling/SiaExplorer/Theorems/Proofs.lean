import SiaExplorer.Theorems.Elements

/-!
# Merkle proofs after a run

The handlers pass `ModifyLeaf` the `StateElement` of every element an update touches, and
`ModifyLeaf` writes the hashes of that element's proof, never the element's own leaf hash.

* `run_hashStore`: after a run with no disk failure, the explorer's HashStore is what
  `ModifyLeaf` builds from every `StateElement` the calls passed, in order, whatever the calls
  returned;
* `run_merkleProofs_readBack`: so `MerkleProof` of a leaf whose path the passed elements wrote
  returns, at each level, the hash of the last element that wrote it (`ReadsBack`);
* `oldLeaf_proof_unreadable`: the genesis coin stays live when block 1 adds a leaf beside it, but
  no element passed to `ModifyLeaf` carries the new leaf's hash, and `MerkleProof` of the genesis
  coin reads past the end of level 0.
-/

namespace SiaExplorer

/-- The `StateElement`s a call passes to `ModifyLeaf`, in order. -/
def Event.leaves : Event → List StateElement
  | .apply cau _ => cau.leaves
  | .revert cru => cru.leaves

/-- A valid call passes proofs of at most 64 hashes. -/
theorem Ledger.Step.proofs {g g' : Ledger} {ev : Event} (h : Ledger.Step g ev g') :
    ∀ l ∈ ev.leaves, l.MerkleProof.length ≤ 64 := by
  cases h with
  | apply _ hv => exact hv.proofs
  | revert hu => exact hu.proofs

/-- A run of valid calls passes proofs of at most 64 hashes. -/
theorem Ledger.Run.proofs {g g' : Ledger} {evs : List Event} (h : Ledger.Run g evs g') :
    ∀ l ∈ evs.flatMap Event.leaves, l.MerkleProof.length ≤ 64 := by
  induction h with
  | nil => simp
  | cons hstep _ ih =>
    simp only [List.flatMap_cons, List.mem_append]
    rintro l (hl | hl)
    exacts [hstep.proofs l hl, ih l hl]

theorem Explorer.commitApply_hs {e e' : Explorer} {f : Faults} {m : Bool} {err : Option GoError}
    (h : e.commitApply f m = .ok (e', err)) : e'.hs = e.hs := by
  cases m with
  | false => cases h; rfl
  | true =>
    rcases Explorer.commitApply_true_cases h with ⟨_, -, h⟩ | ⟨_, _, -, h⟩ <;> cases h <;> rfl

theorem Explorer.reloadTip_hs {e e' : Explorer} {f : Faults} {cru : RevertUpdate}
    {err : Option GoError} (h : e.reloadTip f cru = .ok (e', err)) : e'.hs = e.hs := by
  rcases Explorer.reloadTip_cases h with ⟨_, -, h⟩ | ⟨_, _, _, -, -, h⟩ <;> cases h <;> rfl

/-- The HashStore a call leaves is what its `ModifyLeaf` calls build, whatever it returns. -/
theorem process_modifyLeaves {e e' : Explorer} {f : Faults} {ev : Event} {err : Option GoError}
    (h : e.process f ev = .ok (e', err)) : e.hs.modifyLeaves f.disk ev.leaves = .ok e'.hs := by
  cases ev with
  | apply cau m =>
    obtain ⟨stats, hs, -, hleaves, hc⟩ := ProcessChainApplyUpdate_eq_ok.1 h
    rw [Explorer.commitApply_hs hc]
    exact hleaves
  | revert cru =>
    obtain ⟨hs, hleaves, hr⟩ := ProcessChainRevertUpdate_eq_ok.1 h
    rw [Explorer.reloadTip_hs hr]
    exact hleaves

/-- One call with no disk failure leaves the HashStore its `ModifyLeaf` calls build, whatever
it returns. -/
theorem process_hs {e e' : Explorer} {f : Faults} {ev : Event} {err : Option GoError}
    (h : e.process f ev = .ok (e', err)) (hdisk : f.disk = DiskFaults.never)
    (small : ∀ l ∈ ev.leaves, l.LeafIndex.toNat < 2 ^ 58)
    (short : ∀ l ∈ ev.leaves, l.MerkleProof.length ≤ 64) :
    e'.hs = ev.leaves.foldl modifiedStore e.hs := by
  have hleaves := process_modifyLeaves h
  rw [hdisk, modifyLeaves_eq _ ev.leaves small short] at hleaves
  exact (Except.ok.inj hleaves).symm

/-- **The HashStore after a run.** After a run of valid calls with no disk failure, the
explorer's HashStore is what `ModifyLeaf` builds from every `StateElement` the calls passed, in
order. -/
theorem run_hashStore {g g' : Ledger} {evfs : List (Event × Faults)} {e e' : Explorer}
    {errs : List (Option GoError)} (hrun : Ledger.Run g (evfs.map (·.1)) g')
    (he : e.run evfs = .ok (e', errs)) (hdisk : ∀ evf ∈ evfs, evf.2.disk = DiskFaults.never)
    (hsmall : ∀ l ∈ (evfs.map (·.1)).flatMap Event.leaves, l.LeafIndex.toNat < 2 ^ 58) :
    e'.hs = ((evfs.map (·.1)).flatMap Event.leaves).foldl modifiedStore e.hs := by
  induction evfs generalizing g e errs with
  | nil => cases he; rfl
  | cons evf rest ih =>
    obtain ⟨ev, f⟩ := evf
    obtain ⟨e₁, err, e₂, errs', hp, hq, hr⟩ := Explorer.run_cons_eq_ok.1 he
    cases hr
    cases hrun with
    | cons hstep hrest =>
      simp only [List.map_cons, List.flatMap_cons, List.mem_append, List.mem_cons,
        forall_eq_or_imp] at hsmall hdisk ⊢
      rw [List.foldl_append, ← process_hs hp hdisk.1 (fun l hl => hsmall l (.inl hl))
        hstep.proofs]
      exact ih hrest hq hdisk.2 fun l hl => hsmall l (.inr hl)

/-- **Merkle proofs after a run.** After a run of valid calls from genesis with no disk failure
and leaf indices below `2^58`, `MerkleProof` of every leaf whose path levels were all written by
the `StateElement`s the calls passed returns, at each level, the hash of the last one that wrote
it (`ReadsBack`). -/
theorem run_merkleProofs_readBack {cs : State} {hs : HashStore} {evfs : List (Event × Faults)}
    {g : Ledger} {e : Explorer} {errs : List (Option GoError)}
    (hrun : Ledger.Run {} (evfs.map (·.1)) g)
    (he : (NewExplorer cs NewEphemeralStore hs).run evfs = .ok (e, errs))
    (hdisk : ∀ evf ∈ evfs, evf.2.disk = DiskFaults.never)
    (hsmall : ∀ l ∈ (evfs.map (·.1)).flatMap Event.leaves, l.LeafIndex.toNat < 2 ^ 58) :
    ReadsBack ((evfs.map (·.1)).flatMap Event.leaves) e.hs := by
  obtain ⟨hs', hmod, hback⟩ := merkleProof_after_modifyLeaves hs _ hsmall hrun.proofs
  rw [modifyLeaves_eq _ _ hsmall hrun.proofs] at hmod
  cases Except.ok.inj hmod
  rw [run_hashStore hrun he hdisk hsmall]
  exact hback

theorem run_merkleProofs_readBack_coinGenesis :
    ∃ e errs, (NewExplorer coinGenesis.State NewEphemeralStore emptyHashStore).run
        [(.apply coinGenesis true, Faults.never)] = .ok (e, errs) ∧
      ReadsBack coinGenesis.leaves e.hs :=
  ⟨_, _, rfl, @run_merkleProofs_readBack coinGenesis.State emptyHashStore
    [(.apply coinGenesis true, Faults.never)] _ _ _ (Ledger.replay_run rfl) rfl
    (fun _ h => by rw [List.mem_singleton.1 h]; rfl) (by decide)⟩

/-! ## The accumulator's proofs -/

/-- Modelled from the spec: the root of the perfect subtree of height `k` over the leaves
`j * 2^k` to `(j + 1) * 2^k - 1` of the accumulator, each pair hashed with `node`. -/
def subtreeRoot (node : Hash256 → Hash256 → Hash256) (leaves : List Hash256) :
    Nat → Nat → Hash256
  | 0, j => leaves.getD j 0
  | k + 1, j => node (subtreeRoot node leaves k (2 * j)) (subtreeRoot node leaves k (2 * j + 1))

/-- Modelled from the spec: the proof the accumulator assigns to leaf `i`, the sibling subtree
root at each height below the perfect subtree holding `i`. -/
def ElementAccumulator.proof (acc : ElementAccumulator) (node : Hash256 → Hash256 → Hash256)
    (i : Nat) : List Hash256 :=
  (List.range (Len64 (BitVec.ofNat 64 i ^^^ BitVec.ofNat 64 acc.leaves.length) - 1)).map
    fun k => subtreeRoot node acc.leaves k (i / 2 ^ k ^^^ 1)

/-- Block 1, adding siacoin element 2 as leaf 1, beside the genesis coin's leaf. -/
def coinBlock1 : ApplyUpdate :=
  { Block := { Header := ⟨1, ⟨1⟩⟩ }
    State := ⟨⟨1, ⟨1⟩⟩, ⟨[1, 2]⟩⟩
    NewSiacoinElements :=
      [{ ID := ⟨2⟩, LeafIndex := 1, MerkleProof := [1], Value := ⟨1⟩, Address := ⟨1⟩ }] }

/-- Apply the genesis coin, then block 1 adding a leaf beside it, each update carrying the
proofs its accumulator assigns, whatever the hashing rule: the genesis coin stays live and its
proof is now the new leaf's hash, yet `MerkleProof` of leaf 0 reads a slot no call wrote and
fails with `io.EOF`. -/
theorem oldLeaf_proof_unreadable :
    Ledger.replay {} [.apply coinGenesis true, .apply coinBlock1 true] =
      some ⟨[coinGenesis, coinBlock1], [coinGenesis, coinBlock1]⟩ ∧
    (∀ node : Hash256 → Hash256 → Hash256,
      (∀ l ∈ coinGenesis.leaves,
        l.MerkleProof = coinGenesis.State.Elements.proof node l.LeafIndex.toNat) ∧
      (∀ l ∈ coinBlock1.leaves,
        l.MerkleProof = coinBlock1.State.Elements.proof node l.LeafIndex.toNat) ∧
      coinBlock1.State.Elements.proof node 0 = [2]) ∧
    (liveOf [coinGenesis, coinBlock1]).map liveKey = [(⟨1⟩, .siacoin), (⟨2⟩, .siacoin)] ∧
    ∃ e, (NewExplorer coinGenesis.State NewEphemeralStore emptyHashStore).run
        [(.apply coinGenesis true, Faults.never), (.apply coinBlock1 true, Faults.never)] =
        .ok (e, [none, none]) ∧
      e.hs.MerkleProof 0 = .ok (.error .eof) := by
  refine ⟨rfl, fun node => ⟨?_, ?_, rfl⟩, rfl, _, rfl, rfl⟩ <;>
    simp [ApplyUpdate.leaves, coinGenesis, coinBlock1] <;> rfl

end SiaExplorer
