import SiaExplorer.Model.Types

/-!
# The hash store (`internal/explorerutil/hashstore.go`)

Sixty-four level files, file `i` holding the roots of the size-`2^i` subtrees of the
accumulator, and the leaf count `numLeaves`.

* `MerkleProof` reads, at each level `i` below `Len64(leafIndex ^ numLeaves) - 1`, the hash of
  the sibling subtree on the path from `leafIndex`;
* `ModifyLeaf` writes the hashes of a `StateElement`'s proof into the same slots, and raises
  `numLeaves` to `LeafIndex + 1`;
* both loops step `pos` with `siblingPos` and address the byte offset `levelOffset`, which is
  Go's `int64(pos/subtreeSize)*hashSize` with its 64-bit wraparound.

Every offset the store uses is a multiple of `hashSize`, so a level file is modelled as the
sequence of 32-byte hashes it holds; a write past the end fills the gap with zero hashes, as
`WriteAt` on a file does.
-/

namespace SiaExplorer

/-- Where the disk fails during one call. -/
structure DiskFaults where
  /-- level files whose `Sync` fails -/
  sync : Fin 64 → Bool
  /-- `(level, offset)` pairs whose `WriteAt` fails -/
  writeAt : Nat → Int → Bool

/-- A disk that never fails. -/
def DiskFaults.never : DiskFaults := ⟨fun _ => false, fun _ _ => false⟩

/-- One `tree_level_<i>.dat` file, as the 32-byte hashes it holds. -/
structure LevelFile where
  hashes : List Hash256
  deriving DecidableEq, Repr

/-- Overwrite hash `k` of `l`, padding with zero hashes when `k` is past the end. -/
def writeSlot (l : List Hash256) (k : Nat) (h : Hash256) : List Hash256 :=
  if k < l.length then l.set k h else l ++ List.replicate (k - l.length) 0 ++ [h]

theorem writeSlot_getElem? (l : List Hash256) (k j : Nat) (h : Hash256) :
    (writeSlot l k h)[j]? =
      if j = k then some h else if j < l.length then l[j]? else if j < k then some 0 else none := by
  unfold writeSlot
  split
  · rw [List.getElem?_set]
    by_cases hj : j = k
    · subst hj; simp_all
    · simp only [if_neg (Ne.symm hj), if_neg hj]
      split
      · rfl
      · rw [List.getElem?_eq_none (by omega)]; split <;> first | rfl | omega
  · by_cases hj : j < l.length
    · simp only [List.append_assoc, List.getElem?_append_left hj, hj, if_true]
      rw [if_neg (by omega)]
    · rw [List.append_assoc, List.getElem?_append_right (by omega), if_neg hj]
      by_cases hjk : j < k
      · rw [List.getElem?_append_left (by simp; omega), List.getElem?_replicate]
        simp only [if_neg (Nat.ne_of_lt hjk), hjk, if_true]
        rw [if_pos (by omega)]
      · rw [List.getElem?_append_right (by simp; omega)]
        simp only [List.length_replicate, if_neg hjk]
        by_cases hjk' : j = k
        · simp [hjk']
        · rw [if_neg hjk', List.getElem?_eq_none (by simp; omega)]

namespace LevelFile

/-- `(*os.File).ReadAt` of one hash at byte offset `off`: `io.EOF` when the file ends first. -/
def ReadAt (f : LevelFile) (off : Int) : Except GoError Hash256 :=
  if off < 0 then .error .negativeOffset
  else match f.hashes[off.toNat / 32]? with
    | some h => .ok h
    | none => .error .eof

/-- `(*os.File).WriteAt` of one hash at byte offset `off`; `fails` is the disk's answer. -/
def WriteAt (f : LevelFile) (fails : Bool) (h : Hash256) (off : Int) :
    Except GoError LevelFile :=
  if off < 0 then .error .negativeOffset
  else if fails then .error .io
  else .ok ⟨writeSlot f.hashes (off.toNat / 32) h⟩

end LevelFile

/-- `HashStore`: the open level files and the leaf count. -/
structure HashStore where
  hashFiles : Fin 64 → LevelFile
  numLeaves : BitVec 64

/-- The number of bits of `n`, counting at most `k` of them. -/
def bitLen : Nat → Nat → Nat
  | 0, _ => 0
  | k + 1, n => if n = 0 then 0 else bitLen k (n / 2) + 1

/-- `bits.Len64`. -/
def Len64 (x : BitVec 64) : Nat := bitLen 64 x.toNat

/-- One step of the loops of `MerkleProof` and `ModifyLeaf`: at level `i`, move `pos` by
`subtreeSize = 1 << i` towards the sibling subtree of `leafIndex`'s ancestor. -/
def siblingPos (leafIndex pos : BitVec 64) (i : Nat) : BitVec 64 :=
  if leafIndex &&& (1#64 <<< i) = 0 then pos + (1#64 <<< i) else pos - (1#64 <<< i)

/-- `int64(pos/subtreeSize)*hashSize`: the byte offset at level `i`, with Go's int64
wraparound. -/
def levelOffset (pos : BitVec 64) (i : Nat) : Int :=
  ((pos / (1#64 <<< i)) * 32#64).toInt

namespace HashStore

/-- The loop of `MerkleProof`: at each level, step `pos` and read the hash there. -/
def readLevels (hs : HashStore) (leafIndex : BitVec 64) :
    BitVec 64 → List (Fin 64) → Except GoError (List Hash256)
  | _, [] => .ok []
  | pos, i :: levels => do
    let pos := siblingPos leafIndex pos i
    let h ← (hs.hashFiles i).ReadAt (levelOffset pos i)
    let rest ← readLevels hs leafIndex pos levels
    pure (h :: rest)

/-- `MerkleProof`: `make` panics on the length `-1`, when `leafIndex = numLeaves`; the loop
runs over levels `0 … Len64 - 2`, all below 64. -/
def MerkleProof (hs : HashStore) (leafIndex : BitVec 64) :
    Except Panic (Except GoError (List Hash256)) :=
  if Len64 (leafIndex ^^^ hs.numLeaves) = 0 then throw "makeslice: len out of range"
  else pure (hs.readLevels leafIndex leafIndex
    ((List.finRange 64).take (Len64 (leafIndex ^^^ hs.numLeaves) - 1)))

/-- The loop of `ModifyLeaf`: at level `i`, step `pos` and write proof hash `i` there. A
failed `WriteAt` ends the loop with the files written so far; level 64 is out of range of
`hashFiles`. -/
def writeLevels (d : DiskFaults) (leafIndex : BitVec 64) :
    BitVec 64 → Nat → List Hash256 → (Fin 64 → LevelFile) →
      Except Panic ((Fin 64 → LevelFile) × Option GoError)
  | _, _, [], files => pure (files, none)
  | pos, i, h :: rest, files =>
    if hi : i < 64 then
      let pos := siblingPos leafIndex pos i
      match (files ⟨i, hi⟩).WriteAt (d.writeAt i (levelOffset pos i)) h (levelOffset pos i) with
      | .error err => pure (files, some err)
      | .ok file => writeLevels d leafIndex pos (i + 1) rest (Function.update files ⟨i, hi⟩ file)
    else throw "index out of range"

/-- `ModifyLeaf`: write the proof hashes, then raise `numLeaves` to `LeafIndex + 1` (with
uint64 wraparound). -/
def ModifyLeaf (hs : HashStore) (d : DiskFaults) (elem : StateElement) :
    Except Panic (HashStore × Option GoError) := do
  let (files, err) ← writeLevels d elem.LeafIndex elem.LeafIndex 0 elem.MerkleProof hs.hashFiles
  match err with
  | some err => pure ({ hs with hashFiles := files }, some err)
  | none =>
    let numLeaves := if elem.LeafIndex + 1 > hs.numLeaves then elem.LeafIndex + 1 else hs.numLeaves
    pure (⟨files, numLeaves⟩, none)

/-- A sequence of `ModifyLeaf` calls whose errors are ignored, as the explorer ignores them; a
panic ends it. -/
def modifyLeaves (hs : HashStore) (d : DiskFaults) : List StateElement → Except Panic HashStore
  | [] => pure hs
  | elem :: rest => do
    let (hs, _) ← hs.ModifyLeaf d elem
    modifyLeaves hs d rest

/-- `Commit`: `Sync` every level file, returning the first failure. -/
def Commit (_hs : HashStore) (d : DiskFaults) : Option GoError :=
  if (List.finRange 64).any d.sync then some .io else none

end HashStore

/-- A `tree_level_<i>.dat` file before it is opened: the whole hashes it holds and the bytes
of a partially-written one after them. -/
structure DiskFile where
  hashes : List Hash256
  tail : Nat

/-- `NewHashStore`: open the 64 level files, refusing one whose size is not a multiple of
`hashSize`; `numLeaves` is the size of level 0 over `hashSize`. -/
def NewHashStore (dir : Fin 64 → DiskFile) : Except GoError HashStore :=
  if (List.finRange 64).any (fun i => (dir i).tail % 32 ≠ 0) then
    .error (.msg "tree contains a partially-written hash")
  else .ok ⟨fun i => ⟨(dir i).hashes⟩,
    BitVec.ofNat 64 ((32 * (dir 0).hashes.length + (dir 0).tail) / 32)⟩

/-- A fresh directory: every level file is created empty. -/
def emptyDir : Fin 64 → DiskFile := fun _ => ⟨[], 0⟩

/-- The directory the level files of `hs` leave behind, for a later `NewHashStore`. -/
def HashStore.dir (hs : HashStore) : Fin 64 → DiskFile := fun i => ⟨(hs.hashFiles i).hashes, 0⟩

end SiaExplorer
