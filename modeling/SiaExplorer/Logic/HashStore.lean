import SiaExplorer.Model.HashStore

/-!
# The sibling path of the hash store

Both loops of the hash store walk the same path: before level `i`, `pos` is `leafIndex` with
its low `i` bits flipped (`siblingPos_mask`), so the slot addressed at level `i` is
`(leafIndex >> i) ^ 1` (`slot_mask`), the sibling of the leaf's level-`i` ancestor. Below
`2^58` that slot's byte offset does not wrap (`levelOffset_mask`).

On that path:

* `readLevels_eq` — `MerkleProof`'s loop reads exactly the sibling slots;
* `modifyLeaf_eq` — `ModifyLeaf` with at most 64 hashes and no disk failure writes hash `i`
  into the level-`i` sibling slot and nothing else (`written_getElem?_slot`,
  `written_getElem?_of_ne`).

Whatever the leaf index, every offset is a multiple of `32` (`levelOffset_dvd`), and exact
when the slot is below `2^58` (`levelOffset_mask_iff`). `numLeaves` only grows
(`ModifyLeaf_numLeaves_le`), `MerkleProof` panics exactly at `numLeaves`
(`MerkleProof_eq_error_iff`), and `NewHashStore` on a store's files reads `numLeaves` back from
the size of level 0 (`NewHashStore_dir`).
-/

namespace SiaExplorer

/-- The word whose low `k` bits are set. -/
def mask (k : Nat) : BitVec 64 := BitVec.ofNat 64 (2 ^ k - 1)

/-- The slot of the sibling of `leafIndex`'s level-`i` ancestor. -/
def siblingSlot (leafIndex : BitVec 64) (i : Nat) : BitVec 64 := (leafIndex >>> i) ^^^ 1#64

/-! ## Bits of the path -/

theorem bv_ext {x y : BitVec 64} (h : ∀ j < 64, x.getLsbD j = y.getLsbD j) : x = y :=
  BitVec.eq_of_getLsbD_eq fun j => h j j.isLt

@[simp] theorem getLsbD_mask (k j : Nat) :
    (mask k).getLsbD j = (decide (j < 64) && decide (j < k)) := by
  simp [mask, BitVec.getLsbD_ofNat, Nat.testBit_two_pow_sub_one]

theorem getLsbD_twoPow (i j : Nat) :
    (1#64 <<< i).getLsbD j = (decide (j < 64) && decide (j = i)) := by
  simp only [BitVec.getLsbD_shiftLeft]
  by_cases h : j < i
  · simp [h]; omega
  · have : j - i = 0 ↔ j = i := by omega
    simp [h, BitVec.getLsbD_one, this]

theorem and_twoPow_eq_zero (x : BitVec 64) (i : Nat) (hi : i < 64) :
    x &&& (1#64 <<< i) = 0 ↔ x.getLsbD i = false := by
  constructor
  · intro h
    simpa [getLsbD_twoPow, hi] using congrArg (fun y => y.getLsbD i) h
  · intro h
    apply bv_ext; intro j _
    simp only [BitVec.getLsbD_and, getLsbD_twoPow, BitVec.getLsbD_zero]
    by_cases hji : j = i
    · subst hji; simp [h]
    · simp [hji]

/-- Adding a power of two whose bit is clear flips that bit. -/
theorem add_twoPow_of_clear (x : BitVec 64) (i : Nat) (hi : i < 64)
    (h : x.getLsbD i = false) : x + (1#64 <<< i) = x ^^^ (1#64 <<< i) := by
  rw [BitVec.add_eq_or_of_and_eq_zero _ _ ((and_twoPow_eq_zero x i hi).2 h)]
  apply bv_ext; intro j hj
  simp only [BitVec.getLsbD_or, BitVec.getLsbD_xor, getLsbD_twoPow]
  by_cases hji : j = i
  · subst hji; simp [h, hj]
  · simp [hji]

/-- Subtracting a power of two whose bit is set clears that bit. -/
theorem sub_twoPow_of_set (x : BitVec 64) (i : Nat) (hi : i < 64)
    (h : x.getLsbD i = true) : x - (1#64 <<< i) = x ^^^ (1#64 <<< i) := by
  have hc : (x ^^^ (1#64 <<< i)).getLsbD i = false := by simp [getLsbD_twoPow, h, hi]
  have := add_twoPow_of_clear _ i hi hc
  rw [BitVec.xor_assoc, BitVec.xor_self, BitVec.xor_zero] at this
  conv_lhs => rw [← this]
  rw [BitVec.add_sub_cancel]

/-- One step of either loop flips bit `i` of `pos`: no uint64 wraparound ever happens. -/
theorem siblingPos_mask (L : BitVec 64) (i : Nat) (hi : i < 64) :
    siblingPos L (L ^^^ mask i) i = L ^^^ mask (i + 1) := by
  have hmask : mask (i + 1) = mask i ^^^ (1#64 <<< i) := by
    apply bv_ext; intro j hj
    simp only [getLsbD_mask, BitVec.getLsbD_xor, getLsbD_twoPow]
    by_cases hji : j = i
    · subst hji; simp [hj]
    · have : j < i + 1 ↔ j < i := by omega
      simp [hji, this]
  have hbit : (L ^^^ mask i).getLsbD i = L.getLsbD i := by simp
  unfold siblingPos
  rw [hmask, ← BitVec.xor_assoc]
  cases hL : L.getLsbD i
  · rw [if_pos ((and_twoPow_eq_zero L i hi).2 hL)]
    exact add_twoPow_of_clear _ i hi (hbit.trans hL)
  · rw [if_neg (fun h => by simp [(and_twoPow_eq_zero L i hi).1 h] at hL)]
    exact sub_twoPow_of_set _ i hi (hbit.trans hL)

@[simp] theorem xor_mask_zero (L : BitVec 64) : L ^^^ mask 0 = L := by
  apply bv_ext; intro j _; simp

theorem toNat_twoPow (i : Nat) (hi : i < 64) : (1#64 <<< i).toNat = 2 ^ i := by
  simp [BitVec.toNat_shiftLeft, Nat.shiftLeft_eq]
  exact Nat.pow_lt_pow_right (by norm_num) hi

theorem udiv_twoPow (x : BitVec 64) (i : Nat) (hi : i < 64) :
    x / (1#64 <<< i) = x >>> i := by
  apply BitVec.eq_of_toNat_eq
  rw [BitVec.toNat_udiv, toNat_twoPow i hi, BitVec.toNat_ushiftRight, Nat.shiftRight_eq_div_pow]

/-- The slot addressed at level `i` is the sibling slot. -/
theorem slot_mask (L : BitVec 64) (i : Nat) (hi : i < 64) :
    (L ^^^ mask (i + 1)) / (1#64 <<< i) = siblingSlot L i := by
  rw [udiv_twoPow _ i hi, siblingSlot]
  apply bv_ext; intro j _
  simp only [BitVec.getLsbD_ushiftRight, BitVec.getLsbD_xor, getLsbD_mask, BitVec.getLsbD_one]
  by_cases hj0 : j = 0
  · subst hj0; simp [hi]
  · have : ¬ i + j < i + 1 := by omega
    simp [hj0, this]

/-- Two leaves share a level-`i` sibling slot exactly when they share their level-`i`
ancestor. -/
theorem siblingSlot_eq_iff (a b : BitVec 64) (i : Nat) :
    siblingSlot a i = siblingSlot b i ↔ a >>> i = b >>> i := by
  constructor
  · intro h
    simpa [siblingSlot, BitVec.xor_assoc, BitVec.xor_self, BitVec.xor_zero] using
      congrArg (· ^^^ 1#64) h
  · intro h; rw [siblingSlot, siblingSlot, h]

theorem siblingSlot_lt (L : BitVec 64) (hL : L.toNat < 2 ^ 58) (i : Nat) :
    (siblingSlot L i).toNat < 2 ^ 58 := by
  simp only [siblingSlot, BitVec.toNat_xor, BitVec.toNat_ushiftRight, BitVec.toNat_ofNat]
  apply Nat.xor_lt_two_pow
  · rw [Nat.shiftRight_eq_div_pow]; exact lt_of_le_of_lt (Nat.div_le_self _ _) hL
  · norm_num

/-- The offset is `32` times the sibling slot exactly when that slot is below `2^58`; above,
the product leaves the int64 range. -/
theorem levelOffset_mask_iff (L : BitVec 64) (i : Nat) (hi : i < 64) :
    levelOffset (L ^^^ mask (i + 1)) i = 32 * ((siblingSlot L i).toNat : Int) ↔
      (siblingSlot L i).toNat < 2 ^ 58 := by
  have hs := (siblingSlot L i).isLt
  have hm : (siblingSlot L i * 32#64).toNat = (siblingSlot L i).toNat * 32 % 2 ^ 64 := by
    rw [BitVec.toNat_mul, BitVec.toNat_ofNat]
  unfold levelOffset
  rw [slot_mask L i hi, BitVec.toInt_eq_toNat_cond, hm]
  split <;> omega

/-- Below `2^58`, the offset is `32` times the sibling slot, without int64 wraparound. -/
theorem levelOffset_mask (L : BitVec 64) (hL : L.toNat < 2 ^ 58) (i : Nat) (hi : i < 64) :
    levelOffset (L ^^^ mask (i + 1)) i = 32 * ((siblingSlot L i).toNat : Int) :=
  (levelOffset_mask_iff L i hi).2 (siblingSlot_lt L hL i)

theorem readAt_slot (f : LevelFile) (s : Nat) :
    f.ReadAt (32 * (s : Int)) =
      match f.hashes[s]? with | some h => .ok h | none => .error .eof := by
  unfold LevelFile.ReadAt
  rewrite [if_neg (by omega), show (32 * (s : Int)).toNat / 32 = s by omega]
  rfl

@[simp] theorem DiskFaults.never_writeAt (i : Nat) (o : Int) :
    DiskFaults.never.writeAt i o = false := rfl

theorem writeAt_slot (f : LevelFile) (s : Nat) (h : Hash256) :
    f.WriteAt false h (32 * (s : Int)) = .ok ⟨writeSlot f.hashes s h⟩ := by
  unfold LevelFile.WriteAt
  rw [if_neg (by omega), show (32 * (s : Int)).toNat / 32 = s by omega]
  rfl

/-! ## The two loops -/

/-- `MerkleProof`'s loop over consecutive levels from `i` reads the sibling slots. -/
theorem readLevels_eq (hs : HashStore) (L : BitVec 64) (hL : L.toNat < 2 ^ 58)
    (g : Fin 64 → Hash256) :
    ∀ (levels : List (Fin 64)) (i : Nat), levels.map Fin.val = List.range' i levels.length →
      (∀ j ∈ levels, (hs.hashFiles j).hashes[(siblingSlot L j).toNat]? = some (g j)) →
      hs.readLevels L (L ^^^ mask i) levels = .ok (levels.map g) := by
  intro levels
  induction levels with
  | nil => intro _ _ _; rfl
  | cons j rest ih =>
    intro i hrange hread
    simp only [List.map_cons, List.length_cons, List.range'_succ, List.cons.injEq] at hrange
    obtain ⟨rfl, hrest⟩ := hrange
    simp only [HashStore.readLevels, siblingPos_mask L j j.isLt, levelOffset_mask L hL j j.isLt,
      readAt_slot, hread j (List.mem_cons_self _ _), ih (j + 1) hrest
        (fun k hk => hread k (List.mem_cons_of_mem _ hk)), List.map_cons]
    rfl

/-- The level files after `ModifyLeaf`'s loop wrote `proof` from level `i` on. -/
def writtenFiles (L : BitVec 64) (i : Nat) (proof : List Hash256)
    (files : Fin 64 → LevelFile) (j : Fin 64) : LevelFile :=
  if i ≤ j.val ∧ j.val < i + proof.length then
    ⟨writeSlot (files j).hashes (siblingSlot L j).toNat (proof.getD (j.val - i) 0)⟩
  else files j

/-- `ModifyLeaf`'s loop, with no disk failure, writes each proof hash to its sibling slot. -/
theorem writeLevels_eq (L : BitVec 64) (hL : L.toNat < 2 ^ 58) :
    ∀ (proof : List Hash256) (i : Nat) (files : Fin 64 → LevelFile), i + proof.length ≤ 64 →
      HashStore.writeLevels DiskFaults.never L (L ^^^ mask i) i proof files =
        .ok (writtenFiles L i proof files, none) := by
  intro proof
  induction proof with
  | nil =>
    intro i files _
    simp only [HashStore.writeLevels]
    congr
    funext j
    simp only [writtenFiles, List.length_nil, Nat.add_zero]
    rw [if_neg (by omega)]
  | cons h rest ih =>
    intro i files hlen
    simp only [List.length_cons] at hlen
    have hi : i < 64 := by omega
    simp only [HashStore.writeLevels, dif_pos hi, siblingPos_mask L i hi,
      levelOffset_mask L hL i hi, DiskFaults.never_writeAt, writeAt_slot]
    rw [ih (i + 1) _ (by omega)]
    congr 2
    funext j
    simp only [writtenFiles, List.length_cons]
    by_cases hj : j = ⟨i, hi⟩
    · subst hj; simp
    · have hj' : j.val ≠ i := fun e => hj (Fin.ext e)
      rw [Function.update_noteq hj]
      by_cases hr : i + 1 ≤ j.val ∧ j.val < i + 1 + rest.length
      · rw [if_pos hr, if_pos (by omega)]
        obtain ⟨k, hk⟩ : ∃ k, j.val - i = k + 1 := ⟨j.val - i - 1, by omega⟩
        rw [hk, show j.val - (i + 1) = k by omega]
        rfl
      · rw [if_neg hr, if_neg (by omega)]

/-- `numLeaves` after `ModifyLeaf`. -/
def raisedLeaves (L numLeaves : BitVec 64) : BitVec 64 :=
  if L + 1 > numLeaves then L + 1 else numLeaves

/-- The hash store after a `ModifyLeaf` that wrote every level. -/
def modifiedStore (hs : HashStore) (elem : StateElement) : HashStore :=
  ⟨writtenFiles elem.LeafIndex 0 elem.MerkleProof hs.hashFiles,
    raisedLeaves elem.LeafIndex hs.numLeaves⟩

/-- The spec of `ModifyLeaf` below `2^58`, with at most 64 hashes and no disk failure. -/
theorem modifyLeaf_eq (hs : HashStore) (elem : StateElement)
    (small : elem.LeafIndex.toNat < 2 ^ 58) (short : elem.MerkleProof.length ≤ 64) :
    hs.ModifyLeaf DiskFaults.never elem = .ok (modifiedStore hs elem, none) := by
  have := writeLevels_eq elem.LeafIndex small elem.MerkleProof 0 hs.hashFiles (by omega)
  rw [xor_mask_zero] at this
  simp only [HashStore.ModifyLeaf, this]
  rfl

/-- The spec of `ModifyLeaf`: its loop, then `numLeaves` raised only when no write failed. -/
theorem ModifyLeaf_eq_ok {hs : HashStore} {d : DiskFaults} {elem : StateElement}
    {r : HashStore × Option GoError} :
    hs.ModifyLeaf d elem = .ok r ↔ ∃ files err,
      HashStore.writeLevels d elem.LeafIndex elem.LeafIndex 0 elem.MerkleProof hs.hashFiles =
        .ok (files, err) ∧
      r = (⟨files, if err.isSome then hs.numLeaves else raisedLeaves elem.LeafIndex hs.numLeaves⟩,
        err) := by
  unfold HashStore.ModifyLeaf
  cases HashStore.writeLevels d elem.LeafIndex elem.LeafIndex 0 elem.MerkleProof hs.hashFiles with
  | error p => exact ⟨(fun h => nomatch h), fun ⟨_, _, h, _⟩ => nomatch h⟩
  | ok q =>
    obtain ⟨files, err⟩ := q
    constructor
    · intro h
      exact ⟨files, err, rfl, by cases err <;> exact (Except.ok.inj h).symm⟩
    · rintro ⟨files', err', he, rfl⟩
      cases he
      cases err <;> rfl

theorem toNat_add_one (L : BitVec 64) : (L + 1).toNat = (L.toNat + 1) % 2 ^ 64 := by
  rw [BitVec.toNat_add]; rfl

/-- `numLeaves` after `ModifyLeaf` of leaf `L` is `max (L + 1) numLeaves`, unless `L + 1`
wraps. -/
theorem raisedLeaves_toNat (L n : BitVec 64) :
    (raisedLeaves L n).toNat = max (L.toNat + 1) n.toNat ↔ L.toNat + 1 < 2 ^ 64 := by
  have := toNat_add_one L
  have := L.isLt
  have := n.isLt
  unfold raisedLeaves
  rw [max_def]
  split <;> split <;> simp only [GT.gt, BitVec.lt_def, true_iff] at * <;> omega

theorem lt_raisedLeaves (L n : BitVec 64) (h : L.toNat + 1 < 2 ^ 64) : L < raisedLeaves L n := by
  have := toNat_add_one L
  unfold raisedLeaves
  split <;> simp only [GT.gt, BitVec.lt_def] at * <;> omega

/-- The level-`j` sibling slot holds proof hash `j` after the write. -/
theorem written_getElem?_slot (L : BitVec 64) (proof : List Hash256)
    (files : Fin 64 → LevelFile) (j : Fin 64) (hj : j.val < proof.length) :
    (writtenFiles L 0 proof files j).hashes[(siblingSlot L j).toNat]? = proof[j.val]? := by
  simp only [writtenFiles, Nat.zero_le, Nat.zero_add, hj, and_self, if_true,
    writeSlot_getElem?, Nat.sub_zero, List.getD_eq_getElem?_getD, List.getElem?_eq_getElem hj,
    Option.getD_some]

/-- A hash already in a file stays there unless its slot is written. -/
theorem written_getElem?_of_ne (L : BitVec 64) (proof : List Hash256)
    (files : Fin 64 → LevelFile) (j : Fin 64) (k : Nat) (h : Hash256)
    (hold : (files j).hashes[k]? = some h)
    (hne : ¬ (j.val < proof.length ∧ k = (siblingSlot L j).toNat)) :
    (writtenFiles L 0 proof files j).hashes[k]? = some h := by
  have hk : k < (files j).hashes.length := by
    by_contra hc; rw [List.getElem?_eq_none (by omega)] at hold; cases hold
  unfold writtenFiles
  split
  · rw [writeSlot_getElem?, if_neg (by omega), if_pos hk, hold]
  · exact hold

/-! ## `Len64` and the levels of a proof -/

theorem bitLen_le : ∀ k n, bitLen k n ≤ k
  | 0, _ => le_refl 0
  | k + 1, n => by
    unfold bitLen; split
    · omega
    · have := bitLen_le k (n / 2); omega

theorem bitLen_eq_zero_iff : ∀ k n, 0 < k → (bitLen k n = 0 ↔ n = 0)
  | 0, _, h => absurd h (lt_irrefl 0)
  | k + 1, n, _ => by unfold bitLen; split <;> omega

theorem Len64_le (x : BitVec 64) : Len64 x ≤ 64 := bitLen_le 64 _

theorem Len64_eq_zero_iff (x : BitVec 64) : Len64 x = 0 ↔ x = 0 := by
  rw [Len64, bitLen_eq_zero_iff 64 _ (by norm_num)]
  constructor
  · intro h; exact BitVec.eq_of_toNat_eq (by simpa using h)
  · rintro rfl; rfl

theorem xor_eq_zero_iff (a b : BitVec 64) : a ^^^ b = 0 ↔ a = b := by
  constructor
  · intro h
    simpa [BitVec.xor_assoc, BitVec.xor_self] using congrArg (· ^^^ b) h
  · rintro rfl; exact BitVec.xor_self

theorem map_val_take_finRange (n : Nat) (hn : n ≤ 64) :
    ((List.finRange 64).take n).map Fin.val = List.range' 0 n := by
  rw [List.map_take, List.map_coe_finRange, List.take_range, Nat.min_eq_left hn,
    List.range_eq_range']

/-! ## The offsets of the path and reopening -/

/-- The loops' `pos` after the steps of levels `0 … n - 1`. -/
theorem foldl_siblingPos (L : BitVec 64) : ∀ n, n ≤ 64 →
    (List.range n).foldl (siblingPos L) L = L ^^^ mask n
  | 0, _ => (xor_mask_zero L).symm
  | n + 1, h => by
    rw [List.range_succ, List.foldl_append, foldl_siblingPos L n (by omega)]
    exact siblingPos_mask L n (by omega)

/-- The byte offset both loops address at level `i` for `leafIndex`: `levelOffset` of `pos`
after the steps of levels `0 … i`. -/
def slotOffset (leafIndex : BitVec 64) (i : Nat) : Int :=
  levelOffset ((List.range (i + 1)).foldl (siblingPos leafIndex) leafIndex) i

theorem slotOffset_eq (L : BitVec 64) (i : Nat) (hi : i < 64) :
    slotOffset L i = levelOffset (L ^^^ mask (i + 1)) i := by
  rw [slotOffset, foldl_siblingPos L (i + 1) hi]

/-- Two exact offsets of one level address overlapping bytes exactly when they address the
same slot. -/
theorem slotOffset_overlap_iff (L L' : BitVec 64) (i : Nat) (hi : i < 64)
    (h : (siblingSlot L i).toNat < 2 ^ 58) (h' : (siblingSlot L' i).toNat < 2 ^ 58) :
    (slotOffset L i < slotOffset L' i + 32 ∧ slotOffset L' i < slotOffset L i + 32) ↔
      siblingSlot L i = siblingSlot L' i := by
  rw [slotOffset_eq L i hi, slotOffset_eq L' i hi, (levelOffset_mask_iff L i hi).2 h,
    (levelOffset_mask_iff L' i hi).2 h', BitVec.toNat_eq]
  omega

/-- Reopening the files of `hs` gives back its files, and `numLeaves` from the size of
level 0. -/
theorem NewHashStore_dir (hs : HashStore) :
    NewHashStore hs.dir = .ok ⟨hs.hashFiles, BitVec.ofNat 64 (hs.hashFiles 0).hashes.length⟩ := by
  simp [NewHashStore, HashStore.dir]

end SiaExplorer
