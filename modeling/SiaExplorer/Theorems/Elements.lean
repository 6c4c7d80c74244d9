import SiaExplorer.Logic.Follows
import SiaExplorer.Ledger.Check
import SiaExplorer.Theorems.Readback

/-!
# The committed elements are the live ones

After a run of valid calls from genesis that all return `nil` and whose last call commits, the
committed `elements` rows are keyed by the live elements with their types, `unspentElements`
holds one row per live coin and fund, and the unspent reads list the live elements paying to an
address (`committed_elements_live`). A run whose last call is an apply without `mayCommit`
leaves its block's writes uncommitted (`uncommitted_genesis_lags`).
-/

namespace SiaExplorer

/-- The IDs of the live elements of type `type` paying to `address`. -/
def liveAt (chain : List ApplyUpdate) (type : ElementType) (address : Address) :
    List ElementID :=
  ((liveOf chain).filter fun p => p.2.type == type && p.2.address == some address).map (·.1)

theorem unspentRow_ids (L : List (ElementID × Output)) :
    (L.filterMap unspentRow).map (·.1) = (L.filter (·.2.address.isSome)).map (·.1) := by
  induction L with
  | nil => rfl
  | cons p L ih =>
    obtain ⟨id, o⟩ := p
    cases o <;> simp [unspentRow, List.filter_cons, ih]

theorem unspentRows_live (L : List (ElementID × Output)) (type : ElementType)
    (address : Address) :
    ((L.filterMap unspentRow).filter fun r => r.2.2 == address && r.2.1 == type).map (·.1) =
      (L.filter fun p => p.2.type == type && p.2.address == some address).map (·.1) := by
  induction L with
  | nil => rfl
  | cons p L ih =>
    obtain ⟨id, o⟩ := p
    cases o <;> simp [unspentRow, List.filter_cons, and_comm]
    all_goals first | exact ih | split <;> simp [ih]

/-- A list without duplicates whose elements are all `k` has at most one element. -/
theorem length_le_one_of_nodup_const {α : Type} {l : List α} {k : α} (hnd : l.Nodup)
    (h : ∀ x ∈ l, x = k) : l.length ≤ 1 := by
  rw [List.eq_replicate_iff.2 ⟨rfl, h⟩] at hnd
  exact List.nodup_replicate.1 hnd

section Agreeing

variable {g : Ledger} {db : Database} (h : Agrees g db.tables) (hg : ValidChain g.chain)

include h hg in
/-- The unspent rows are the live coins' and funds', without duplicates on either side. -/
theorem unspent_perm :
    db.tables.unspentElements.Perm ((liveOf g.chain).filterMap unspentRow) := by
  refine (List.perm_ext_iff_of_nodup (db.keysUnique.unspentElements.of_map _) ?_).2 h.unspent
  refine List.Nodup.of_map (·.1) ?_
  rw [unspentRow_ids]
  exact hg.nodup.sublist ((List.filter_sublist _).map _)

include h in
/-- Each unspent row has exactly one `elements` row with its ID and type. -/
theorem unspent_has_element {r : ElementID × ElementType × Address}
    (hr : r ∈ db.tables.unspentElements) :
    (db.tables.elements.filter fun row => row.1 == r.1 && row.2.1 == r.2.1).length = 1 := by
  obtain ⟨p, hp, hpr⟩ := List.mem_filterMap.1 ((h.unspent r).1 hr)
  have hkey : (r.1, r.2.1) ∈ db.tables.elements.map rowKey := by
    refine (h.elements _).2 (List.mem_map.2 ⟨p, hp, ?_⟩)
    simp only [unspentRow, Option.map_eq_some'] at hpr
    obtain ⟨a, -, rfl⟩ := hpr
    rfl
  obtain ⟨row, hrow, hrk⟩ := List.mem_map.1 hkey
  have hle : (db.tables.elements.filter fun row => row.1 == r.1 && row.2.1 == r.2.1).length ≤ 1 :=
    by
    have hsub : ((db.tables.elements.filter fun row => row.1 == r.1 && row.2.1 == r.2.1).map
        (·.1)).Sublist (db.tables.elements.map (·.1)) := (List.filter_sublist _).map _
    have hnd := db.keysUnique.elements.sublist hsub
    have hall : ∀ x ∈ (db.tables.elements.filter fun row => row.1 == r.1 && row.2.1 == r.2.1).map
        (·.1), x = r.1 := fun x hx => by
      obtain ⟨y, hy, rfl⟩ := List.mem_map.1 hx
      have := (List.mem_filter.1 hy).2
      simp only [Bool.and_eq_true, beq_iff_eq] at this
      exact this.1
    simpa using length_le_one_of_nodup_const hnd hall
  have hpos : 0 < (db.tables.elements.filter fun row => row.1 == r.1 && row.2.1 == r.2.1).length :=
    List.length_pos_of_mem (List.mem_filter.2 ⟨hrow, by
      simp only [rowKey, Prod.mk.injEq] at hrk
      simp [hrk.1, hrk.2]⟩)
  omega

include h hg in
/-- The unspent reads of a clean committed Store list the live elements paying to the
address. -/
theorem unspentRows_perm (type : ElementType) (address : Address) :
    (SQLiteStore.unspentRows address type db.tables).Perm (liveAt g.chain type address) := by
  rw [SQLiteStore.unspentRows, liveAt, ← unspentRows_live]
  exact ((unspent_perm h hg).filter _).map _

end Agreeing

/-- The committed tables of `s` hold the live elements of the ledger `g`. -/
structure HoldsLive (g : Ledger) (s : SQLiteStore) : Prop where
  /-- the `elements` rows are keyed by the live elements with their types -/
  elements : ∀ k, k ∈ s.db.tables.elements.map rowKey ↔ k ∈ (liveOf g.chain).map liveKey
  /-- `unspentElements` is one row per live coin and fund, with its address -/
  unspent : ∀ r, r ∈ s.db.tables.unspentElements ↔ r ∈ (liveOf g.chain).filterMap unspentRow
  /-- each unspent row has exactly one `elements` row with its ID and type -/
  unspentElement : ∀ r ∈ s.db.tables.unspentElements,
    (s.db.tables.elements.filter fun row => row.1 == r.1 && row.2.1 == r.2.1).length = 1
  /-- `UnspentSiacoinElements` returns the live siacoin elements paying to the address -/
  unspentSiacoins : ∀ address, ∃ ids, (s.UnspentSiacoinElements address).2 = .ok ids ∧
    ids.Perm (liveAt g.chain .siacoin address)
  /-- `UnspentSiafundElements` returns the live siafund elements paying to the address -/
  unspentSiafunds : ∀ address, ∃ ids, (s.UnspentSiafundElements address).2 = .ok ids ∧
    ids.Perm (liveAt g.chain .siafund address)

/-- **The committed Store holds the live elements.** After a run of valid calls from genesis
that all return `nil` and whose last call commits, the committed tables hold the live elements
(`HoldsLive`). -/
theorem committed_elements_live {cs : State} {hs : HashStore} {evfs : List (Event × Faults)}
    {g : Ledger} {e : Explorer} {errs : List (Option GoError)}
    (hrun : Ledger.Run {} (evfs.map (·.1)) g)
    (he : (NewExplorer cs NewEphemeralStore hs).run evfs = .ok (e, errs))
    (hnil : ∀ err ∈ errs, err = none) (hlast : ∀ last ∈ evfs.getLast?, last.1.commits = true) :
    HoldsLive g e.db := by
  obtain ⟨hf, htx, ha⟩ := Follows.committed hrun he hnil hlast
  have hread : ∀ address type, (e.db.query (SQLiteStore.unspentRows address type)).2 =
      .ok (SQLiteStore.unspentRows address type e.db.db.tables) := fun address type => by
    simp [SQLiteStore.query, SQLiteStore.beginTx, SQLiteStore.view, htx]
  exact ⟨ha.elements, ha.unspent, fun r hr => unspent_has_element ha hr,
    fun address => ⟨_, hread address .siacoin, unspentRows_perm ha hf.validChain _ _⟩,
    fun address => ⟨_, hread address .siafund, unspentRows_perm ha hf.validChain _ _⟩⟩

/-- A genesis update creating one siacoin element, leaf 0 of the accumulator, paying 1 to
address 1. -/
def coinGenesis : ApplyUpdate :=
  { Block := { Header := ⟨0, ⟨0⟩⟩ }
    State := ⟨⟨0, ⟨0⟩⟩, ⟨[1]⟩⟩
    NewSiacoinElements :=
      [{ ID := ⟨1⟩, LeafIndex := 0, MerkleProof := [], Value := ⟨1⟩, Address := ⟨1⟩ }] }

theorem committed_elements_live_coinGenesis :
    ∃ e errs, (NewExplorer coinGenesis.State NewEphemeralStore emptyHashStore).run
        [(.apply coinGenesis true, Faults.never)] = .ok (e, errs) ∧
      (∀ err ∈ errs, err = none) ∧ HoldsLive ⟨[coinGenesis], [coinGenesis]⟩ e.db :=
  ⟨_, _, rfl, by decide, @committed_elements_live coinGenesis.State emptyHashStore
    [(.apply coinGenesis true, Faults.never)] _ _ _ (Ledger.replay_run rfl) rfl (by decide)
    (by decide)⟩

/-- Applying the genesis block without `mayCommit` returns `nil` and makes its coin live, but
the committed `elements` table stays empty. -/
theorem uncommitted_genesis_lags :
    Ledger.replay {} [.apply coinGenesis false] = some ⟨[coinGenesis], [coinGenesis]⟩ ∧
    (liveOf [coinGenesis]).map liveKey = [(⟨1⟩, .siacoin)] ∧
    ∃ e, (NewExplorer coinGenesis.State NewEphemeralStore emptyHashStore).run
        [(.apply coinGenesis false, Faults.never)] = .ok (e, [none]) ∧
      e.db.db.tables.elements = [] :=
  ⟨rfl, rfl, _, rfl, rfl⟩

end SiaExplorer
