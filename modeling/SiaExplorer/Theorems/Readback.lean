import SiaExplorer.Logic.HashStore

/-!
# Reading back what `ModifyLeaf` wrote

After any sequence of `ModifyLeaf` calls (leaf indices below `2^58`, at most 64 hashes, no disk
failure), `MerkleProof b` succeeds whenever every level of `b`'s proof has been written by some
call, and returns at each level the hash of the *last* call that wrote it
(`merkleProof_after_modifyLeaves`). The last-writer rule (`foldl_modifiedStore_getElem?`) holds
because two leaves write the same slot of a level exactly when they share their ancestor there
(`siblingSlot_eq_iff`).
-/

namespace SiaExplorer


/-- `e` writes slot `k` of level `j`. -/
def writesSlot (j : Fin 64) (k : Nat) (e : StateElement) : Bool :=
  decide (j.val < e.MerkleProof.length ∧ k = (siblingSlot e.LeafIndex j).toNat)

theorem modifyLeaves_eq (hs : HashStore) (es : List StateElement)
    (small : ∀ e ∈ es, e.LeafIndex.toNat < 2 ^ 58) (short : ∀ e ∈ es, e.MerkleProof.length ≤ 64) :
    hs.modifyLeaves DiskFaults.never es = .ok (es.foldl modifiedStore hs) := by
  induction es generalizing hs with
  | nil => rfl
  | cons e rest ih =>
    simp only [List.mem_cons, forall_eq_or_imp] at small short
    simp only [HashStore.modifyLeaves, modifyLeaf_eq hs e small.1 short.1, List.foldl_cons]
    exact ih _ small.2 short.2

/-- The last write to a slot is what the slot holds. -/
theorem foldl_modifiedStore_getElem? (hs : HashStore) (es : List StateElement) (j : Fin 64)
    (k : Nat) (e : StateElement) (hlast : es.reverse.find? (writesSlot j k) = some e) :
    ((es.foldl modifiedStore hs).hashFiles j).hashes[k]? = e.MerkleProof[j.val]? := by
  induction es using List.reverseRecOn generalizing e with
  | nil => cases hlast
  | append_singleton init e' ih =>
    rw [List.foldl_append, List.foldl_cons, List.foldl_nil]
    rw [List.reverse_append, List.reverse_singleton, List.singleton_append,
      List.find?_cons] at hlast
    by_cases hw : writesSlot j k e' = true
    · rw [hw] at hlast
      cases hlast
      simp only [writesSlot, decide_eq_true_eq] at hw
      rw [hw.2]
      exact written_getElem?_slot _ _ _ j hw.1
    · rw [Bool.not_eq_true] at hw
      rw [hw] at hlast
      have hprev := ih e hlast
      have hlen : j.val < e.MerkleProof.length := by
        have := List.find?_some hlast
        simp only [writesSlot, decide_eq_true_eq] at this
        exact this.1
      rw [List.getElem?_eq_getElem hlen] at hprev ⊢
      exact written_getElem?_of_ne _ _ _ j k _ hprev (by simpa [writesSlot] using hw)

theorem writesSlot_sibling (i : Fin 64) (b : BitVec 64) :
    writesSlot i (siblingSlot b i).toNat =
      fun e : StateElement =>
        decide (i.val < e.MerkleProof.length ∧ e.LeafIndex >>> i.val = b >>> i.val) := by
  funext e
  simp only [writesSlot, ← BitVec.toNat_eq, siblingSlot_eq_iff, eq_comm]

/-- What `MerkleProof` returns after the calls `es` left the store `hs`: for every leaf `b`
below `numLeaves` all of whose proof levels some call wrote (same level, same ancestor), it
succeeds, with the level-`i` hash of the last call that wrote level `i` of `b`'s path. -/
def ReadsBack (es : List StateElement) (hs : HashStore) : Prop :=
  ∀ b, b < hs.numLeaves →
    (∀ i < Len64 (b ^^^ hs.numLeaves) - 1,
      ∃ e ∈ es, i < e.MerkleProof.length ∧ e.LeafIndex >>> i = b >>> i) →
    ∃ proof, hs.MerkleProof b = .ok (.ok proof) ∧
      proof.length = Len64 (b ^^^ hs.numLeaves) - 1 ∧
      ∀ i < proof.length, proof[i]? =
        (es.reverse.find? (fun e : StateElement => decide (i < e.MerkleProof.length ∧
          e.LeafIndex >>> i = b >>> i))).bind (fun e => e.MerkleProof[i]?)

theorem merkleProof_after_modifyLeaves (hs : HashStore) (es : List StateElement)
    (small : ∀ e ∈ es, e.LeafIndex.toNat < 2 ^ 58) (short : ∀ e ∈ es, e.MerkleProof.length ≤ 64) :
    ∃ hs', hs.modifyLeaves DiskFaults.never es = .ok hs' ∧ ReadsBack es hs' := by
  refine ⟨es.foldl modifiedStore hs, modifyLeaves_eq hs es small short, ?_⟩
  intro b hb hcov
  set hs' := es.foldl modifiedStore hs
  set n := Len64 (b ^^^ hs'.numLeaves) - 1 with hn
  have hlen : Len64 (b ^^^ hs'.numLeaves) ≠ 0 := by
    rw [Ne, Len64_eq_zero_iff, xor_eq_zero_iff]
    rintro rfl
    exact lt_irrefl _ (BitVec.lt_def.1 hb)
  have hn64 : n ≤ 64 := by have := Len64_le (b ^^^ hs'.numLeaves); omega
  -- the last writer of each level's sibling slot of `b`
  let g : Fin 64 → Hash256 := fun j =>
    ((es.reverse.find? (writesSlot j (siblingSlot b j).toNat)).bind
      (fun e => e.MerkleProof[j.val]?)).getD 0
  have hwritten : ∀ j : Fin 64, j.val < n →
      ∃ e, es.reverse.find? (writesSlot j (siblingSlot b j).toNat) = some e ∧
        j.val < e.MerkleProof.length := by
    intro j hj
    obtain ⟨e, he, hlen, hanc⟩ := hcov j hj
    cases hf : es.reverse.find? (writesSlot j (siblingSlot b j).toNat) with
    | none =>
      have := List.find?_eq_none.1 hf e (List.mem_reverse.2 he)
      rw [writesSlot_sibling] at this
      simp [hlen, hanc] at this
    | some e' =>
      have := List.find?_some hf
      simp only [writesSlot, decide_eq_true_eq] at this
      exact ⟨e', rfl, this.1⟩
  have hread : ∀ j ∈ (List.finRange 64).take n,
      (hs'.hashFiles j).hashes[(siblingSlot b j).toNat]? = some (g j) := by
    intro j hj
    have hjn : j.val < n := by
      have := List.mem_map_of_mem Fin.val hj
      rw [map_val_take_finRange n hn64, List.mem_range'] at this
      omega
    obtain ⟨e, hf, hj⟩ := hwritten j hjn
    rw [foldl_modifiedStore_getElem? hs es j _ e hf]
    simp [g, hf, List.getElem?_eq_getElem hj]
  by_cases hn0 : n = 0
  · refine ⟨[], ?_, by simp [hn0], by simp⟩
    rw [HashStore.MerkleProof, if_neg hlen, ← hn, hn0]
    rfl
  have hbsmall : b.toNat < 2 ^ 58 := by
    obtain ⟨e, he, _, hanc⟩ := hcov 0 (by omega)
    simp only [BitVec.ushiftRight_zero] at hanc
    exact hanc ▸ small e he
  refine ⟨((List.finRange 64).take n).map g, ?_, ?_, ?_⟩
  · have := readLevels_eq hs' b hbsmall g _ 0
      (by rw [map_val_take_finRange n hn64]; simp [hn64]) hread
    rw [xor_mask_zero] at this
    rw [HashStore.MerkleProof, if_neg hlen, ← hn, this]
    rfl
  · simp; omega
  · intro i hi
    simp at hi
    have hi64 : i < 64 := by omega
    obtain ⟨e, hf, he⟩ := hwritten ⟨i, hi64⟩ (by simp; omega)
    rw [← writesSlot_sibling ⟨i, hi64⟩ b, hf]
    have hfin : (List.finRange 64)[i]? = some ⟨i, hi64⟩ := by
      rw [List.getElem?_eq_getElem (by rw [List.length_finRange]; exact hi64),
        List.getElem_finRange]
      rfl
    rw [List.getElem?_map, List.getElem?_take_of_lt hi.1, hfin]
    simp [g, hf, List.getElem?_eq_getElem he]

/-- `MerkleProof` right after a `ModifyLeaf` returns that element's proof when the proof has
the length `MerkleProof` computes. -/
theorem merkleProof_after_modifyLeaf (hs : HashStore) (e : StateElement)
    (small : e.LeafIndex.toNat < 2 ^ 58) (short : e.MerkleProof.length ≤ 64) :
    ∃ hs', hs.ModifyLeaf DiskFaults.never e = .ok (hs', none) ∧
      (e.MerkleProof.length = Len64 (e.LeafIndex ^^^ hs'.numLeaves) - 1 →
        hs'.MerkleProof e.LeafIndex = .ok (.ok e.MerkleProof)) := by
  refine ⟨modifiedStore hs e, modifyLeaf_eq hs e small short, fun hlen => ?_⟩
  obtain ⟨hs', hrun, hback⟩ := merkleProof_after_modifyLeaves hs [e]
    (by simpa using small) (by simpa using short)
  have hs'_eq : hs' = modifiedStore hs e := by
    rw [modifyLeaves_eq hs [e] (by simpa using small) (by simpa using short)] at hrun
    exact (Except.ok.inj hrun).symm
  subst hs'_eq
  have hlt : e.LeafIndex < (modifiedStore hs e).numLeaves := lt_raisedLeaves _ _ (by omega)
  obtain ⟨proof, hproof, hplen, hpget⟩ := hback e.LeafIndex hlt
    (fun i hi => ⟨e, List.mem_singleton_self e, by omega, rfl⟩)
  rw [hproof]
  congr 2
  apply List.ext_getElem?
  intro i
  by_cases hi : i < proof.length
  · rw [hpget i hi]
    have : i < e.MerkleProof.length := by omega
    simp [this]
  · rw [List.getElem?_eq_none (by omega), List.getElem?_eq_none (by omega)]

/-- **Read-back of the hash store.** Any sequence of `ModifyLeaf` calls with leaf indices
below `2^58` and at most 64 hashes makes `MerkleProof` return, at each level, the hash of the
last call that wrote that level of the leaf's path; in particular a proof of the length
`MerkleProof` computes reads back right after its own `ModifyLeaf`. -/
theorem modifyLeaf_readback :
    (∀ (hs : HashStore) (es : List StateElement),
      (∀ e ∈ es, e.LeafIndex.toNat < 2 ^ 58) → (∀ e ∈ es, e.MerkleProof.length ≤ 64) →
      ∃ hs', hs.modifyLeaves DiskFaults.never es = .ok hs' ∧ ReadsBack es hs') ∧
    (∀ (hs : HashStore) (e : StateElement),
      e.LeafIndex.toNat < 2 ^ 58 → e.MerkleProof.length ≤ 64 →
      ∃ hs', hs.ModifyLeaf DiskFaults.never e = .ok (hs', none) ∧
        (e.MerkleProof.length = Len64 (e.LeafIndex ^^^ hs'.numLeaves) - 1 →
          hs'.MerkleProof e.LeafIndex = .ok (.ok e.MerkleProof))) :=
  ⟨merkleProof_after_modifyLeaves, merkleProof_after_modifyLeaf⟩

/-- The two leaves of a two-leaf tree, each carrying the other's hash. -/
def twoLeaves : List StateElement := [⟨⟨0⟩, 0, [11]⟩, ⟨⟨1⟩, 1, [10]⟩]

/-- An empty hash store. -/
def emptyHashStore : HashStore := ⟨fun _ => ⟨[]⟩, 0⟩

theorem modifyLeaf_readback_twoLeaves :
    (∀ e ∈ twoLeaves, e.LeafIndex.toNat < 2 ^ 58) ∧ (∀ e ∈ twoLeaves, e.MerkleProof.length ≤ 64) ∧
      ∃ hs', emptyHashStore.modifyLeaves DiskFaults.never twoLeaves = .ok hs' ∧
        ReadsBack twoLeaves hs' :=
  ⟨by decide, by decide, modifyLeaf_readback.1 _ _ (by decide) (by decide)⟩

end SiaExplorer
