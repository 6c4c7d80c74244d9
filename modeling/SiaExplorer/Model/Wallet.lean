import SiaExplorer.Model.Explorer

/-!
# The wallet store (`internal/walletutil/store.go`)

`EphemeralStore` keeps in memory what a wallet needs from the chain: the addresses it owns,
each with the seed index it was derived at, its unspent siacoin and siafund elements, and the
transactions that move siacoins to or from its addresses. It subscribes to the apply and revert
updates the explorer gets; `TestingWallet` derives its addresses from a seed.

* `addrs`, a Go map, is an association list whose keys stay distinct (`AddressMap`); `Addresses`
  returns them in list order, one of the orders Go's map iteration may take.
* A `time.Time` is a number of nanoseconds. A block header's `Timestamp` and an element's
  `MaturityHeight` are fields the types leave out: the functions reading them are given them.
* The methods of `chain.ApplyUpdate` and `chain.RevertUpdate` the store calls are outside
  `src/`. An element was spent, or removed, when the update lists an element with its ID; a proof
  update (`ProofUpdates`) rewrites an element's Merkle proof and keeps its ID.
* Copies of Merkle proofs (`append([]types.Hash256(nil), ...)`) are values here, and the mutexes
  are left out: calls are modelled one at a time.
-/

namespace SiaExplorer

/-- `Currency.IsZero`. -/
def Currency.IsZero (c : Currency) : Bool := c.val == 0

namespace Wallet

/-- `wallet.AddressInfo`; only `Index`, the seed index the address was derived at, is read. -/
structure AddressInfo where
  Index : BitVec 64
  deriving DecidableEq, Repr

/-- `wallet.Transaction`. -/
structure Transaction where
  Raw : SiaExplorer.Transaction
  Index : ChainIndex
  ID : TransactionID
  Inflow : Currency
  Outflow : Currency
  Timestamp : Nat
  deriving DecidableEq, Repr

/-- `wallet.ErrUnknownAddress`, declared outside `src/`; the model names it by its identifier. -/
def ErrUnknownAddress : GoError := .msg "ErrUnknownAddress"

end Wallet

/-! ## The address map -/

/-- A Go `map[types.Address]wallet.AddressInfo`: its entries, one per address. -/
structure AddressMap where
  entries : List (Address × Wallet.AddressInfo)
  keys_nodup : (entries.map (·.1)).Nodup

namespace AddressMap

/-- `make(map[types.Address]wallet.AddressInfo)`. -/
def empty : AddressMap := ⟨[], List.nodup_nil⟩

/-- `m[addr]`, with `ok`. -/
def lookup (m : AddressMap) (addr : Address) : Option Wallet.AddressInfo :=
  (m.entries.find? (·.1 == addr)).map (·.2)

/-- Whether `m` has an entry for `addr`: the `ok` of `_, ok := m[addr]`. -/
def Has (m : AddressMap) (addr : Address) : Bool := (m.lookup addr).isSome

theorem keys_replace (es : List (Address × Wallet.AddressInfo)) (addr : Address)
    (info : Wallet.AddressInfo) :
    (es.map fun e => if e.1 = addr then (addr, info) else e).map (·.1) = es.map (·.1) := by
  simp only [List.map_map]
  exact List.map_congr_left fun e _ => by by_cases h : e.1 = addr <;> simp [h]

/-- `m[addr] = info`: the entry of `addr` is replaced, or a new one added last. -/
def set (m : AddressMap) (addr : Address) (info : Wallet.AddressInfo) : AddressMap :=
  if h : addr ∈ m.entries.map (·.1) then
    ⟨m.entries.map fun e => if e.1 = addr then (addr, info) else e,
      (keys_replace m.entries addr info).symm ▸ m.keys_nodup⟩
  else
    ⟨m.entries ++ [(addr, info)], by
      rw [List.map_append]
      exact m.keys_nodup.append (List.nodup_singleton _) (List.disjoint_singleton.2 h)⟩

end AddressMap

/-! ## What the store calls on an update (outside `src/`) -/

/-- Whether an element with ID `id` is among `es`. -/
def Listed {α : Type} (ID : α → ElementID) (es : List α) (id : ElementID) : Bool :=
  es.any (ID · == id)

/-- `(*chain.ApplyUpdate).SiacoinElementWasSpent`: the update spends an element with its ID. -/
def ApplyUpdate.SiacoinElementWasSpent (cau : ApplyUpdate) (sce : SiacoinElement) : Bool :=
  Listed (·.ID) cau.SpentSiacoins sce.ID

/-- `(*chain.ApplyUpdate).SiafundElementWasSpent`. -/
def ApplyUpdate.SiafundElementWasSpent (cau : ApplyUpdate) (sfe : SiafundElement) : Bool :=
  Listed (·.ID) cau.SpentSiafunds sfe.ID

/-- `(*chain.RevertUpdate).SiacoinElementWasRemoved`: the reverted block created an element
with its ID. -/
def RevertUpdate.SiacoinElementWasRemoved (cru : RevertUpdate) (sce : SiacoinElement) : Bool :=
  Listed (·.ID) cru.NewSiacoinElements sce.ID

/-- `(*chain.RevertUpdate).SiafundElementWasRemoved`. -/
def RevertUpdate.SiafundElementWasRemoved (cru : RevertUpdate) (sfe : SiafundElement) : Bool :=
  Listed (·.ID) cru.NewSiafundElements sfe.ID

/-- `UpdateElementProof` of `chain.ApplyUpdate` and of `chain.RevertUpdate`: each rewrites an
element's Merkle proof for the accumulator after the update, and keeps its ID. -/
structure ProofUpdates where
  apply : ApplyUpdate → StateElement → StateElement
  revert : RevertUpdate → StateElement → StateElement
  apply_ID : ∀ cau se, (apply cau se).ID = se.ID
  revert_ID : ∀ cru se, (revert cru se).ID = se.ID

/-! ## `EphemeralStore` -/

namespace Walletutil

/-- `EphemeralStore`. -/
structure EphemeralStore where
  tip : ChainIndex
  seedIndex : BitVec 64
  addrs : AddressMap
  scElems : List SiacoinElement
  sfElems : List SiafundElement
  txns : List Wallet.Transaction

/-- `NewEphemeralStore`. -/
def NewEphemeralStore (tip : ChainIndex) : EphemeralStore :=
  { tip, seedIndex := 0, addrs := .empty, scElems := [], sfElems := [], txns := [] }

/-- One kind's loops in `ProcessChainApplyUpdate`: delete the spent elements, update the proofs
of the others, add the new elements of the wallet's addresses. -/
def applyLoops {α : Type} (wasSpent : α → Bool) (updateProof : α → α) (ours : α → Bool)
    (elems new : List α) : List α :=
  (elems.filter (!wasSpent ·)).map updateProof ++ new.filter ours

/-- One kind's loops in `ProcessChainRevertUpdate`: delete the removed elements, re-add the
spent elements of the wallet's addresses, update every proof. -/
def revertLoops {α : Type} (wasRemoved : α → Bool) (ours : α → Bool) (updateProof : α → α)
    (elems spent : List α) : List α :=
  (elems.filter (!wasRemoved ·) ++ spent.filter ours).map updateProof

/-- The siacoins a transaction pays to the wallet's addresses, and those it spends from them:
the `inflow` and `outflow` of `ProcessChainApplyUpdate`. -/
def flows (addrs : AddressMap) (txn : Transaction) : Currency × Currency :=
  (txn.SiacoinOutputs.foldl
      (fun inflow out => if addrs.Has out.Address then inflow.Add out.Value else inflow) ⟨0⟩,
    txn.SiacoinInputs.foldl
      (fun outflow i => if addrs.Has i.Parent.Address then outflow.Add i.Parent.Value
        else outflow) ⟨0⟩)

/-- The record `ProcessChainApplyUpdate` appends for a transaction of `cau`'s block, when it moves
siacoins to or from the wallet. -/
def relevantTransaction (Timestamp : BlockHeader → Nat) (addrs : AddressMap) (cau : ApplyUpdate)
    (txn : Transaction) : Option Wallet.Transaction :=
  let (inflow, outflow) := flows addrs txn
  if !inflow.IsZero || !outflow.IsZero then
    some { Raw := txn, Index := cau.State.Index, ID := txn.ID, Inflow := inflow,
           Outflow := outflow, Timestamp := Timestamp cau.Block.Header }
  else none

namespace EphemeralStore

/-- `SeedIndex`. -/
def SeedIndex (s : EphemeralStore) : BitVec 64 := s.seedIndex

/-- `Balance`: the siacoins of the elements that matured before the tip, and all siafunds;
`MaturityHeight` gives each element's, by ID. -/
def Balance (MaturityHeight : ElementID → Nat) (s : EphemeralStore) : Currency × BitVec 64 :=
  (s.scElems.foldl
      (fun sc sce => if MaturityHeight sce.ID < s.tip.Height then sc.Add sce.Value else sc) ⟨0⟩,
    s.sfElems.foldl (fun sf sfe => sf + sfe.Value) 0)

/-- `AddAddress`. -/
def AddAddress (s : EphemeralStore) (addr : Address) (info : Wallet.AddressInfo) :
    EphemeralStore × Option GoError :=
  ({ s with addrs := s.addrs.set addr info,
            seedIndex := if s.seedIndex ≤ info.Index then info.Index + 1 else s.seedIndex }, none)

/-- `AddressInfo`. -/
def AddressInfo (s : EphemeralStore) (addr : Address) : Except GoError Wallet.AddressInfo :=
  match s.addrs.lookup addr with
  | some info => .ok info
  | none => .error Wallet.ErrUnknownAddress

/-- `Addresses`. -/
def Addresses (s : EphemeralStore) : List Address × Option GoError :=
  (s.addrs.entries.map (·.1), none)

/-- `UnspentSiacoinElements`. -/
def UnspentSiacoinElements (s : EphemeralStore) : List SiacoinElement × Option GoError :=
  (s.scElems, none)

/-- `UnspentSiafundElements`. -/
def UnspentSiafundElements (s : EphemeralStore) : List SiafundElement × Option GoError :=
  (s.sfElems, none)

/-- The loop of `Transactions`: it stops once it holds `max` transactions, and keeps those after
`since`. -/
def transactionsLoop (since : Nat) (max : Int) :
    List Wallet.Transaction → List Wallet.Transaction → List Wallet.Transaction
  | kept, [] => kept
  | kept, txn :: rest =>
    if (kept.length : Int) = max then kept
    else if since < txn.Timestamp then transactionsLoop since max (kept ++ [txn]) rest
    else transactionsLoop since max kept rest

/-- `Transactions`. -/
def Transactions (s : EphemeralStore) (since : Nat) (max : Int) :
    List Wallet.Transaction × Option GoError :=
  (transactionsLoop since max [] s.txns, none)

variable (pu : ProofUpdates) (Timestamp : BlockHeader → Nat)

/-- `ProcessChainApplyUpdate`. -/
def ProcessChainApplyUpdate (s : EphemeralStore) (cau : ApplyUpdate) (_mayCommit : Bool) :
    EphemeralStore × Option GoError :=
  let scElems := applyLoops cau.SiacoinElementWasSpent
    (fun sce => { sce with toStateElement := pu.apply cau sce.toStateElement })
    (s.addrs.Has ·.Address) s.scElems cau.NewSiacoinElements
  let sfElems := applyLoops cau.SiafundElementWasSpent
    (fun sfe => { sfe with toStateElement := pu.apply cau sfe.toStateElement })
    (s.addrs.Has ·.Address) s.sfElems cau.NewSiafundElements
  let txns := s.txns ++ cau.Block.Transactions.filterMap (relevantTransaction Timestamp s.addrs cau)
  ({ s with scElems, sfElems, txns, tip := cau.State.Index }, none)

/-- `ProcessChainRevertUpdate`. -/
def ProcessChainRevertUpdate (s : EphemeralStore) (cru : RevertUpdate) :
    EphemeralStore × Option GoError :=
  let scElems := revertLoops cru.SiacoinElementWasRemoved (s.addrs.Has ·.Address)
    (fun sce => { sce with toStateElement := pu.revert cru sce.toStateElement })
    s.scElems cru.SpentSiacoins
  let sfElems := revertLoops cru.SiafundElementWasRemoved (s.addrs.Has ·.Address)
    (fun sfe => { sfe with toStateElement := pu.revert cru sfe.toStateElement })
    s.sfElems cru.SpentSiafunds
  -- delete transactions originating in this block
  let index := cru.Block.Header.Index
  let txns := s.txns.takeWhile (·.Index != index)
  ({ s with scElems, sfElems, txns, tip := cru.State.Index }, none)

/-- One update, as the chain manager delivers it; the store returns `nil` to each. -/
def process (s : EphemeralStore) : Event → EphemeralStore
  | .apply cau mayCommit => (s.ProcessChainApplyUpdate pu Timestamp cau mayCommit).1
  | .revert cru => (s.ProcessChainRevertUpdate pu cru).1

/-- A sequence of updates. -/
def run (s : EphemeralStore) (evs : List Event) : EphemeralStore :=
  evs.foldl (process pu Timestamp) s

end EphemeralStore

/-! ## `TestingWallet` -/

/-- `TestingWallet`: its store and consensus state. The seed is read only through the address it
derives at each index (`types.StandardAddress(w.Seed.PublicKey(i))`, outside `src/`), and the
transaction builder, outside `src/` too, is left out. -/
structure TestingWallet where
  store : EphemeralStore
  addressAt : BitVec 64 → Address
  cs : State

namespace TestingWallet

/-- `NewTestingWallet`, with the seed's addresses. -/
def NewTestingWallet (cs : State) (addressAt : BitVec 64 → Address) : TestingWallet :=
  { store := NewEphemeralStore cs.Index, addressAt, cs }

/-- `Address`: the address at the store's seed index. -/
def Address (w : TestingWallet) : SiaExplorer.Address := w.addressAt w.store.SeedIndex

/-- `NewAddress`: derive the address at the seed index and add it to the store. -/
def NewAddress (w : TestingWallet) : TestingWallet × SiaExplorer.Address :=
  let info : Wallet.AddressInfo := { Index := w.store.SeedIndex }
  let addr := w.addressAt info.Index
  ({ w with store := (w.store.AddAddress addr info).1 }, addr)

/-- `Balance`: the store's siacoin balance. -/
def Balance (MaturityHeight : ElementID → Nat) (w : TestingWallet) : Currency :=
  (w.store.Balance MaturityHeight).1

variable (pu : ProofUpdates) (Timestamp : BlockHeader → Nat)

/-- `ProcessChainApplyUpdate`: the store's, then the consensus state. -/
def ProcessChainApplyUpdate (w : TestingWallet) (cau : ApplyUpdate) (mayCommit : Bool) :
    TestingWallet × Option GoError :=
  ({ w with store := (w.store.ProcessChainApplyUpdate pu Timestamp cau mayCommit).1,
            cs := cau.State }, none)

/-- `ProcessChainRevertUpdate`: the store's, then the consensus state. -/
def ProcessChainRevertUpdate (w : TestingWallet) (cru : RevertUpdate) :
    TestingWallet × Option GoError :=
  ({ w with store := (w.store.ProcessChainRevertUpdate pu cru).1, cs := cru.State }, none)

end TestingWallet

end Walletutil

end SiaExplorer
