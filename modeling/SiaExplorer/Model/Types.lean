import Mathlib

/-!
# Domain types

The consensus types the explorer reads (`go.sia.tech/core/types`, `consensus`, `chain`) and
the explorer's own `ChainStats`, with only the fields that a modelled function uses.

* identifiers and hashes are opaque: an `ElementID`, `TransactionID`, `BlockID` or `Address`
  is a number, a `Hash256` is 256 bits;
* a Go `uint64` is a `BitVec 64`, so counters wrap as they do in Go;
* a `types.Currency` is a natural number: `Sub` panics on underflow as in `core`; the 128-bit
  overflow of `Add` is not modelled;
* a Go panic is the error channel of `Except Panic`, and a returned Go `error` is a `GoError`
  value (`none` for `nil`).
-/

namespace SiaExplorer

/-- Results of Go calls are compared in statements and tests. -/
instance instDecidableEqExcept {ε α : Type} [DecidableEq ε] [DecidableEq α] :
    DecidableEq (Except ε α)
  | .error a, .error b =>
    if h : a = b then isTrue (congrArg _ h) else isFalse fun e => h (Except.error.inj e)
  | .ok a, .ok b =>
    if h : a = b then isTrue (congrArg _ h) else isFalse fun e => h (Except.ok.inj e)
  | .error _, .ok _ => isFalse nofun
  | .ok _, .error _ => isFalse nofun

/-- A Go runtime panic, by its message. -/
abbrev Panic := String

/-- The Go errors the modelled code can return. -/
inductive GoError where
  /-- `sql.ErrNoRows`: a `QueryRow` found no row. -/
  | noRows
  /-- `UNIQUE constraint failed: <table>.<column>`. -/
  | constraint (column : String)
  /-- a stored blob does not decode as the requested type -/
  | decode
  /-- `io.EOF`: `ReadAt` reached the end of the file before filling the buffer. -/
  | eof
  /-- `ReadAt`/`WriteAt` with a negative offset. -/
  | negativeOffset
  /-- an I/O failure of the disk or the database driver -/
  | io
  /-- an error made with `errors.New` -/
  | msg (text : String)
  deriving DecidableEq, Repr

/-- `types.Hash256`. -/
abbrev Hash256 := BitVec 256

/-- `types.Address`. -/
structure Address where
  val : Nat
  deriving DecidableEq, Repr

/-- `types.ElementID`. -/
structure ElementID where
  val : Nat
  deriving DecidableEq, Repr

/-- `types.TransactionID`. -/
structure TransactionID where
  val : Nat
  deriving DecidableEq, Repr

/-- `types.BlockID`. -/
structure BlockID where
  val : Nat
  deriving DecidableEq, Repr

/-- `types.Currency`, in hastings. -/
@[ext] structure Currency where
  val : Nat
  deriving DecidableEq, Repr

namespace Currency

/-- `Currency.Add`. -/
def Add (c v : Currency) : Currency := ⟨c.val + v.val⟩

/-- `Currency.Sub`: panics if the subtraction underflows. -/
def Sub (c v : Currency) : Except Panic Currency :=
  if v.val ≤ c.val then pure ⟨c.val - v.val⟩ else throw "underflow"

@[simp] theorem Add_val (c v : Currency) : (c.Add v).val = c.val + v.val := rfl

theorem Sub_eq_ok {c v r : Currency} : c.Sub v = .ok r ↔ v.val ≤ c.val ∧ r.val = c.val - v.val := by
  unfold Sub
  split <;> simp_all [pure, Except.pure, Currency.ext_iff, eq_comm]

end Currency

/-- `types.StateElement`: an accumulator leaf and its Merkle proof. -/
structure StateElement where
  ID : ElementID
  LeafIndex : BitVec 64
  MerkleProof : List Hash256
  deriving DecidableEq, Repr

/-- `types.SiacoinOutput`. -/
structure SiacoinOutput where
  Value : Currency
  Address : Address
  deriving DecidableEq, Repr

/-- `types.SiafundOutput`. -/
structure SiafundOutput where
  Value : BitVec 64
  Address : Address
  deriving DecidableEq, Repr

/-- `types.SiacoinElement`. -/
structure SiacoinElement extends StateElement, SiacoinOutput
  deriving DecidableEq, Repr

/-- `types.SiafundElement`. -/
structure SiafundElement extends StateElement, SiafundOutput
  deriving DecidableEq, Repr

/-- `types.FileContract`: the payouts and the file size. -/
structure FileContract where
  Filesize : BitVec 64
  RenterOutput : SiacoinOutput
  HostOutput : SiacoinOutput
  deriving DecidableEq, Repr

/-- `RenterOutput.Value.Add(HostOutput.Value)`, the payout the explorer adds and subtracts. -/
def FileContract.payout (fc : FileContract) : Currency :=
  fc.RenterOutput.Value.Add fc.HostOutput.Value

/-- `types.FileContractElement`. -/
structure FileContractElement extends StateElement where
  FileContract : FileContract
  deriving DecidableEq, Repr

/-- `types.SiacoinInput`: the spent element. -/
structure SiacoinInput where
  Parent : SiacoinElement
  deriving DecidableEq, Repr

/-- `types.SiafundInput`: the spent element. -/
structure SiafundInput where
  Parent : SiafundElement
  deriving DecidableEq, Repr

/-- `types.FileContractRevision`: the contract as it was, and its new terms. -/
structure FileContractRevision where
  Parent : FileContractElement
  Revision : FileContract
  deriving DecidableEq, Repr

/-- `types.Transaction`; `ID` stands for the hash `txn.ID()`. -/
structure Transaction where
  ID : TransactionID
  SiacoinInputs : List SiacoinInput := []
  SiacoinOutputs : List SiacoinOutput := []
  SiafundInputs : List SiafundInput := []
  SiafundOutputs : List SiafundOutput := []
  FileContractRevisions : List FileContractRevision := []
  deriving DecidableEq, Repr

/-- `types.ChainIndex`. -/
structure ChainIndex where
  Height : Nat
  ID : BlockID
  deriving DecidableEq, Repr

/-- The `width` lowercase hex digits `%x` writes for `n`, most significant first. -/
def hexDigits (width n : Nat) : String :=
  ⟨(List.range width).reverse.map fun j => Nat.digitChar (n / 16 ^ j % 16)⟩

/-- `ChainIndex.String` of `core/types`, `fmt.Sprintf("%d::%x", ci.Height, ci.ID[:4])`: the
height and the first four of the ID's 32 bytes, the number of a `BlockID` read big-endian. -/
def ChainIndex.String (ci : ChainIndex) : String :=
  toString ci.Height ++ "::" ++ hexDigits 8 (ci.ID.val / 2 ^ 224 % 2 ^ 32)

/-- `types.BlockHeader`; `ID` stands for the hash `h.ID()`. -/
structure BlockHeader where
  Height : Nat
  ID : BlockID
  deriving DecidableEq, Repr

/-- `BlockHeader.Index`. -/
def BlockHeader.Index (h : BlockHeader) : ChainIndex := ⟨h.Height, h.ID⟩

/-- `types.Block`. -/
structure Block where
  Header : BlockHeader
  Transactions : List Transaction := []
  deriving DecidableEq, Repr

/-- The element accumulator of a consensus state, as the sequence of its leaf hashes
(`NumLeaves` is the length). -/
structure ElementAccumulator where
  leaves : List Hash256
  deriving DecidableEq, Repr

/-- `consensus.State`: its chain index and its accumulator. -/
structure State where
  Index : ChainIndex
  Elements : ElementAccumulator
  deriving DecidableEq, Repr

/-- `chain.ApplyUpdate`: the applied block, the state after it and its element diff. -/
structure ApplyUpdate where
  Block : Block
  State : State
  NewSiacoinElements : List SiacoinElement := []
  NewSiafundElements : List SiafundElement := []
  NewFileContracts : List FileContractElement := []
  RevisedFileContracts : List FileContractElement := []
  SpentSiacoins : List SiacoinElement := []
  SpentSiafunds : List SiafundElement := []
  ResolvedFileContracts : List FileContractElement := []
  deriving DecidableEq, Repr

/-- `chain.RevertUpdate`: the reverted block, the state after the revert and the diff being
undone. -/
structure RevertUpdate where
  Block : Block
  State : State
  NewSiacoinElements : List SiacoinElement := []
  NewSiafundElements : List SiafundElement := []
  NewFileContracts : List FileContractElement := []
  RevisedFileContracts : List FileContractElement := []
  SpentSiacoins : List SiacoinElement := []
  SpentSiafunds : List SiafundElement := []
  ResolvedFileContracts : List FileContractElement := []
  deriving DecidableEq, Repr

/-- Modelled from the spec: `explorer.ChainStats` is declared outside `src/`. Its fields are
the ones `ProcessChainApplyUpdate` and the tests set: per-block spent counts, the active and
total contract counters, and the block itself. -/
structure ChainStats where
  Block : Block
  SpentSiacoinsCount : BitVec 64 := 0
  SpentSiafundsCount : BitVec 64 := 0
  ActiveContractCost : Currency := ⟨0⟩
  ActiveContractCount : BitVec 64 := 0
  ActiveContractSize : BitVec 64 := 0
  TotalContractCost : Currency := ⟨0⟩
  TotalContractSize : BitVec 64 := 0
  TotalRevisionVolume : BitVec 64 := 0
  deriving DecidableEq, Repr

/-- The Go zero `Block`. -/
def Block.zero : Block := { Header := ⟨0, ⟨0⟩⟩ }

/-- The Go zero `ChainStats{}`. -/
def ChainStats.zero : ChainStats := { Block := Block.zero }

end SiaExplorer
