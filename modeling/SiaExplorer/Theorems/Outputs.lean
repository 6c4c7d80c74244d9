import SiaExplorer.Theorems.Client
import SiaExplorer.Theorems.Queries

/-!
# The Store holds the live elements as they are

`Agrees` says which keys the `elements` rows have. This module says what the rows hold.

* `ElementsLive L t`: every `elements` row holds an element of the live list `L`, with the
  output it has there.
* **A revision fails its apply** (`revisions_conflict`): `ProcessChainApplyUpdate` inserts a
  revised contract under its ID without deleting the row the Store holds for it. So the tables
  after a block that revises a contract break the `elements` key. On a clean Store, no block of
  the chain revises a contract.
* `HoldsOutputs g s`: on a clean Store, the rows hold the chain's live elements and no block of
  the chain revises a contract. Every call returning `nil` keeps it (`HoldsOutputs.step`), so a
  whole run does (`HoldsOutputs.run`).
* **Reads answer the chain** (`element_reads_answer_chain`): after a valid run from genesis whose
  calls all return `nil`, on a clean Store, an element read of `id` answers the live element of
  its kind with that ID, with what it holds on the chain, or `sql.ErrNoRows` when none is live
  (`AnswersLive`).
* **Batches of unspent elements** (`batch_unspent_live`): `POST /batch/addresses/siacoins` and
  `/batch/addresses/siafunds` answer, for each address in order, the live elements of their kind
  paying to it, with what they hold, up to order.
* **End to end** (`client_reads_chain`): the client's `SiacoinElement(id)`, served by the
  explorer under `/api/explorer`, returns the chain's live siacoin element with that ID.
-/

namespace SiaExplorer

/-! ## What a row holds -/

/-- What an `elements` row's element holds, as a live element. -/
def Element.output : Element → Output
  | .siacoin e => .siacoin e.toSiacoinOutput
  | .siafund e => .siafund e.toSiafundOutput
  | .contract e => .contract e.FileContract

/-- The live element an `elements` row stands for: its ID and what its element holds. -/
def rowOutput (r : ElementID × ElementType × Element) : ElementID × Output := (r.1, r.2.2.output)

@[simp] theorem rowOutputs_siacoin (xs : List SiacoinElement) :
    (xs.map fun e => (e.ID, ElementType.siacoin, Element.siacoin e)).map rowOutput =
      coinOutputs xs := by
  simp [rowOutput, Element.output, coinOutputs]

@[simp] theorem rowOutputs_siafund (xs : List SiafundElement) :
    (xs.map fun e => (e.ID, ElementType.siafund, Element.siafund e)).map rowOutput =
      fundOutputs xs := by
  simp [rowOutput, Element.output, fundOutputs]

@[simp] theorem rowOutputs_contract (xs : List FileContractElement) :
    (xs.map fun e => (e.ID, ElementType.contract, Element.contract e)).map rowOutput =
      contractOutputs xs := by
  simp [rowOutput, Element.output, contractOutputs]

/-- Every `elements` row holds an element of `L`, with the output it has there. -/
def ElementsLive (L : List (ElementID × Output)) (t : Tables) : Prop :=
  t.elements.map rowOutput ⊆ L

/-! ## Through one update -/

/-- The elements an update removes are not among those it revises. -/
theorem ApplyUpdate.Valid.removed_not_revised {cau : ApplyUpdate} {chain : List ApplyUpdate}
    (hv : cau.Valid chain) {id : ElementID} (hid : id ∈ cau.revised.map (·.1)) :
    id ∉ cau.removed.map (·.1) := by
  have hnd := hv.distinct
  rw [List.map_append, List.map_append] at hnd
  exact fun hrem => List.disjoint_of_nodup_append (List.nodup_append.1 hnd).1 hrem hid

/-- **A revision fails its apply.** The statements of an update insert each revised contract
under its ID, and delete no row of a revised contract: if the tables after them have unique
keys, the update revises no contract. -/
theorem revisions_conflict {g : Ledger} {t : Tables} {cau : ApplyUpdate} {stats : ChainStats}
    (ha : Agrees g t) (hv : cau.Valid g.chain)
    (hnd : ((applyAll (cau.statements stats) t).elements.map (·.1)).Nodup) :
    cau.RevisedFileContracts = [] := by
  rw [List.eq_nil_iff_forall_not_mem]
  intro e he
  have hrev : (e.ID, Output.contract e.FileContract) ∈ cau.revised :=
    List.mem_map_of_mem (fun e => (e.ID, Output.contract e.FileContract)) he
  -- the contract is live, so the Store holds a row under its ID
  obtain ⟨fc, hlive⟩ := hv.revisedLive _ hrev
  obtain ⟨r, hr, hrk⟩ := List.mem_map.1 ((ha.elements (e.ID, .contract)).2
    (List.mem_map_of_mem liveKey hlive))
  have hid : r.1 = e.ID := congrArg Prod.fst hrk
  -- which the update does not delete
  have hkept := hv.removed_not_revised (List.mem_map_of_mem (·.1) hrev)
  simp only [ApplyUpdate.mem_removed_map, not_or, ← ids_siacoin, ← ids_siafund,
    ← ids_contract, ← hid] at hkept
  rw [applyAll_applyStatements] at hnd
  simp only [List.map_append, List.append_assoc] at hnd
  -- and the revised row comes in under the same ID
  refine List.disjoint_of_nodup_append hnd ?_ (List.mem_append_right _ (List.mem_append_right _
    (List.mem_append_left _ (List.mem_map.2 ⟨_, List.mem_map_of_mem _ he, rfl⟩))))
  exact List.mem_map.2 ⟨r, List.mem_filter.2 ⟨List.mem_filter.2 ⟨List.mem_filter.2
    ⟨hr, decide_eq_true hkept.1⟩, decide_eq_true hkept.2.1⟩, decide_eq_true hkept.2.2⟩, hid⟩

/-- An update that revises no contract keeps the rows live: the rows it keeps hold elements it
leaves live, and the rows it inserts hold the elements it creates. -/
theorem ElementsLive.apply {L : List (ElementID × Output)} {t : Tables} {cau : ApplyUpdate}
    {stats : ChainStats} (h : ElementsLive L t) (hrev : cau.RevisedFileContracts = []) :
    ElementsLive (liveAfter L cau) (applyAll (cau.statements stats) t) := by
  intro p hp
  rw [applyAll_applyStatements] at hp
  simp only [hrev, List.map_nil, List.append_nil, List.map_append, rowOutputs_siacoin,
    rowOutputs_siafund, rowOutputs_contract, List.mem_append] at hp
  rcases hp with ((hp | hp) | hp) | hp
  · -- a row the update keeps: its element is live and not removed
    obtain ⟨r, hr, rfl⟩ := List.mem_map.1 hp
    simp only [List.mem_filter, decide_eq_true_eq] at hr
    obtain ⟨⟨⟨hr, hsc⟩, hsf⟩, hfc⟩ := hr
    refine List.mem_append_left _ (List.mem_filter.2 ⟨h (List.mem_map_of_mem _ hr), ?_⟩)
    simp only [ApplyUpdate.removed, ApplyUpdate.revised, hrev, List.map_append, ← ids_siacoin,
      ← ids_siafund, ← ids_contract, List.map_nil, List.append_nil, List.mem_append, not_or,
      decide_eq_true_eq, rowOutput]
    exact ⟨⟨hsc, hsf⟩, hfc⟩
  all_goals
    -- a row the update inserts holds an element it creates
    refine List.mem_append_right _ (List.mem_append_left _ ?_)
    simp only [ApplyUpdate.added, List.mem_append]
    tauto

/-- A revert of a block that revises no contract brings the rows back to the parent's live
elements: the rows it keeps hold elements live before the block, and the rows it inserts hold
the elements the block spent or resolved. -/
theorem ElementsLive.revert {L : List (ElementID × Output)} {t : Tables} {tip : ApplyUpdate}
    {cru : RevertUpdate} {parent : State} (h : ElementsLive (liveAfter L tip) t)
    (hu : cru.Undoes tip parent) (hrem : ∀ p ∈ tip.removed, p ∈ L)
    (hrev : tip.RevisedFileContracts = []) (hblock : cru.Block.revisions = []) :
    ElementsLive L (applyAll cru.statements t) := by
  have hcrev : cru.RevisedFileContracts = [] := by
    simpa [contractOutputs, hrev] using hu.revised
  intro p hp
  rw [applyAll_revertStatements] at hp
  simp only [hblock, hcrev, List.map_nil, List.append_nil, List.mem_map, List.mem_filter,
    List.mem_append, decide_eq_true_eq, List.not_mem_nil, not_false_eq_true, and_true] at hp
  obtain ⟨r, ⟨⟨⟨hr, hsc⟩, hsf⟩, hfc⟩, rfl⟩ := hp
  rcases hr with ((hr | hr) | hr) | hr
  · -- a row kept from the tip: live after it, and not one it created
    have hlive := h (List.mem_map_of_mem rowOutput hr)
    simp only [liveAfter, ApplyUpdate.revised, hrev, contractOutputs, List.map_nil,
      List.append_nil, List.mem_append, List.mem_filter] at hlive
    rcases hlive with hlive | hadded
    · exact hlive.1
    · simp only [ApplyUpdate.added, List.mem_append, ← hu.newSiacoins, ← hu.newSiafunds,
        ← hu.newContracts] at hadded
      rcases hadded with (hadded | hadded) | hadded <;>
        obtain ⟨e, he, hre⟩ := List.mem_map.1 hadded
      · exact absurd ⟨e, he, congrArg Prod.fst hre⟩ hsc
      · exact absurd ⟨e, he, congrArg Prod.fst hre⟩ hsf
      · exact absurd ⟨e, he, congrArg Prod.fst hre⟩ hfc
  all_goals
    -- a row the revert inserts: an element the tip spent or resolved, live before it
    obtain ⟨a, ha, rfl⟩ := hr
    apply hrem
    simp only [ApplyUpdate.removed, List.mem_append, ← hu.spentSiacoins, ← hu.spentSiafunds,
      ← hu.resolved]
    first
    | exact .inl (.inl (List.mem_map.2 ⟨a, ha, rfl⟩))
    | exact .inl (.inr (List.mem_map.2 ⟨a, ha, rfl⟩))
    | exact .inr (List.mem_map.2 ⟨a, ha, rfl⟩)

/-! ## The Store's side -/

namespace SQLiteStore

theorem Clean.not_poisoned {s : SQLiteStore} (h : s.Clean) : ¬s.Poisoned := by
  rintro ⟨htx, herr⟩
  rcases h with h | h <;> simp [h] at htx herr

/-- A batch of writes that leaves a clean store started from a clean one, and ran every
statement. -/
theorem execStatements_of_clean {s : SQLiteStore} {f : DbFaults} {sts : List Statement}
    (h : (s.execStatements f sts).Clean) :
    s.Clean ∧ (s.execStatements f sts).view.tables = applyAll sts s.view.tables := by
  refine ⟨(clean_or_poisoned s).resolve_right fun hp => ?_, execStatements_view h.not_poisoned⟩
  rw [execStatements_poisoned hp] at h
  exact h.not_poisoned hp

/-- A `Commit` returning `nil` was made on a clean store, and publishes the tables it saw. -/
theorem Commit_view {s s' : SQLiteStore} {f : DbFaults} (h : s.Commit f = .ok (s', none)) :
    s.Clean ∧ s'.view = s.view := by
  obtain ⟨db, htx, herr, -, rfl⟩ := Commit_eq_ok_none h
  exact ⟨.inr herr, by simp [view, htx]⟩

/-- A `QueryRow` that answers was made on a clean store, and leaves the tables it saw. -/
theorem queryRow_view {β α : Type} {s s' : SQLiteStore} {row : Tables → Option β}
    {decode : β → Except GoError α} {a : α} (h : s.queryRow row decode = (s', .ok a)) :
    s.Clean ∧ s'.view = s.view := by
  obtain ⟨rfl, herr⟩ := queryRow_eq_ok h
  refine ⟨(clean_or_poisoned s).resolve_right fun hp => ?_, beginTx_view s⟩
  rw [beginTx_of_isSome hp.1] at herr
  exact not_poisoned_of_txErr herr hp

end SQLiteStore

/-- A store that tracks `g` and is clean agrees with `g`. -/
theorem Tracks.agrees {g : Ledger} {s : SQLiteStore} (h : Tracks g s) (hc : s.Clean) :
    Agrees g s.view.tables :=
  h.elim And.right fun hp => absurd hp hc.not_poisoned

/-! ## The invariant -/

/-- On a clean Store the rows hold the chain's live elements, and no block of the chain revises
a contract. -/
def HoldsOutputs (g : Ledger) (s : SQLiteStore) : Prop :=
  s.Clean → ElementsLive (liveOf g.chain) s.view.tables ∧
    ∀ cau ∈ g.chain, cau.RevisedFileContracts = []

/-- A new explorer's empty Store holds the empty ledger's outputs. -/
theorem HoldsOutputs.init (cs : State) (hs : HashStore) :
    HoldsOutputs {} (NewExplorer cs NewEphemeralStore hs).db :=
  fun _ => ⟨fun _ hp => (by cases hp), nofun⟩

/-- An apply returning `nil` keeps `HoldsOutputs`: on a clean Store its statements ran, so the
block revises no contract and the rows move with the live elements. -/
theorem HoldsOutputs.apply {g : Ledger} {e e' : Explorer} {f : Faults} {cau : ApplyUpdate}
    {m : Bool} (hf : Follows g e) (h : HoldsOutputs g e.db) (hv : cau.Valid g.chain)
    (he : e.ProcessChainApplyUpdate f cau m = .ok (e', none)) :
    HoldsOutputs ⟨g.chain ++ [cau], g.applied ++ [cau]⟩ e'.db := by
  obtain ⟨stats, hs, -, -, hc⟩ := ProcessChainApplyUpdate_eq_ok.1 he
  obtain ⟨-, -, hcommit, hkeep⟩ := Explorer.commitApply_eq_ok_none hc
  dsimp only at hcommit hkeep
  -- the Store after the block's statements, which the call commits or leaves
  suffices h₁ : HoldsOutputs ⟨g.chain ++ [cau], g.applied ++ [cau]⟩
      (e.db.execStatements f.db (cau.statements stats)) by
    cases m with
    | false => rw [hkeep rfl]; exact h₁
    | true =>
      obtain ⟨hc₁, hview⟩ := SQLiteStore.Commit_view (hcommit rfl)
      intro _
      rw [hview]
      exact h₁ hc₁
  intro hc₁
  obtain ⟨hc, hview⟩ := SQLiteStore.execStatements_of_clean hc₁
  obtain ⟨hlive, hrevs⟩ := h hc
  have hnd := (e.db.execStatements f.db (cau.statements stats)).view.keysUnique.elements
  rw [hview] at hnd ⊢
  have hrev := revisions_conflict (hf.store.agrees hc) hv hnd
  refine ⟨liveOf_snoc g.chain cau ▸ hlive.apply hrev, fun c hc => ?_⟩
  rcases List.mem_append.1 hc with hc | hc
  · exact hrevs c hc
  · exact List.mem_singleton.1 hc ▸ hrev

/-- A revert returning `nil` keeps `HoldsOutputs`: the tip revised no contract, so the rows go
back to the parent's live elements. -/
theorem HoldsOutputs.revert {pre applied : List ApplyUpdate} {parent tip : ApplyUpdate}
    {cru : RevertUpdate} {e e' : Explorer} {f : Faults}
    (hf : Follows ⟨pre ++ [parent, tip], applied⟩ e)
    (h : HoldsOutputs ⟨pre ++ [parent, tip], applied⟩ e.db) (hu : cru.Undoes tip parent.State)
    (he : e.ProcessChainRevertUpdate f cru = .ok (e', none)) :
    HoldsOutputs ⟨pre ++ [parent], applied⟩ e'.db := by
  obtain ⟨hs, -, hr⟩ := ProcessChainRevertUpdate_eq_ok.1 he
  obtain ⟨s, stats, hread, hcommit, -, -⟩ := Explorer.reloadTip_eq_ok_none hr
  obtain ⟨hcs, hview⟩ := SQLiteStore.Commit_view hcommit
  obtain ⟨hc₁, hview₁⟩ := SQLiteStore.queryRow_view hread
  obtain ⟨hc, hview₀⟩ := SQLiteStore.execStatements_of_clean hc₁
  intro _
  have hchain : pre ++ [parent, tip] = (pre ++ [parent]) ++ [tip] := by simp
  have hv : tip.Valid (pre ++ [parent]) := (hchain ▸ hf.validChain).last
  obtain ⟨hlive, hrevs⟩ := h hc
  have hrev : tip.RevisedFileContracts = [] := hrevs tip (by simp)
  have hblock : cru.Block.revisions = [] := by
    simpa [hu.block, hrev] using hv.revisions
  rw [hchain, liveOf_snoc] at hlive
  refine ⟨?_, fun c hc => hrevs c (hchain ▸ List.mem_append_left _ hc)⟩
  rw [hview, hview₁, hview₀]
  exact hlive.revert hu hv.removedLive hrev hblock

/-- One valid call returning `nil` keeps `HoldsOutputs`. -/
theorem HoldsOutputs.step {g g' : Ledger} {ev : Event} {e e' : Explorer} {f : Faults}
    (hstep : Ledger.Step g ev g') (hf : Follows g e) (h : HoldsOutputs g e.db)
    (he : e.process f ev = .ok (e', none)) : HoldsOutputs g' e'.db := by
  cases hstep with
  | apply mayCommit hv => exact HoldsOutputs.apply hf h hv he
  | revert hu => exact HoldsOutputs.revert hf h hu he

/-- A run of valid calls all returning `nil` keeps `HoldsOutputs`. -/
theorem HoldsOutputs.run {g g' : Ledger} {evfs : List (Event × Faults)} {e e' : Explorer}
    {errs : List (Option GoError)} (hrun : Ledger.Run g (evfs.map (·.1)) g') (hf : Follows g e)
    (h : HoldsOutputs g e.db) (he : e.run evfs = .ok (e', errs))
    (hnil : ∀ err ∈ errs, err = none) : HoldsOutputs g' e'.db := by
  induction evfs generalizing g e errs with
  | nil =>
    cases hrun
    cases he
    exact h
  | cons evf rest ih =>
    obtain ⟨e₁, err, e₂, errs', hp, hq, hr⟩ := Explorer.run_cons_eq_ok.1 he
    cases hr
    cases hrun with
    | cons hstep hrest =>
      obtain rfl : err = none := hnil err (List.mem_cons_self _ _)
      exact ih hrest (Follows.step hstep hf hp).1 (HoldsOutputs.step hstep hf h hp) hq
        fun err h => hnil err (List.mem_cons_of_mem _ h)

/-! ## Reads answer the chain -/

/-- A typed element read of `id` answers the live elements `L`: what it returns is the element
with that ID, live with what it holds (`sound`); it returns every live element of its type with
that ID (`complete`); and it fails only with `sql.ErrNoRows` (`noRows`). -/
structure AnswersLive {α : Type} (L : List (ElementID × Output)) (id : ElementID)
    (type : ElementType) (ID : α → ElementID) (out : α → Output) (r : Except GoError α) :
    Prop where
  sound : ∀ a, r = .ok a → ID a = id ∧ (id, out a) ∈ L
  complete : ∀ o, (id, o) ∈ L → o.type = type → ∃ a, r = .ok a ∧ out a = o
  noRows : ∀ err, r = .error err → err = .noRows

/-- The row an element read finds is filed under the ID and type asked for, and holds a live
element. -/
theorem elementRow_live {L : List (ElementID × Output)} {t : Tables}
    (hwf : ElementRowsWellFormed t) (hl : ElementsLive L t) {id : ElementID}
    {type : ElementType} {data : Element} (h : SQLiteStore.elementRow id type t = some data) :
    data.ID = id ∧ data.type = type ∧ (id, data.output) ∈ L := by
  obtain ⟨r, hr, rfl⟩ := Option.map_eq_some'.1 h
  have hkey : r.1 = id ∧ r.2.1 = type := by simpa using List.find?_some hr
  have hmem := List.mem_of_find?_eq_some hr
  obtain ⟨hid, htype⟩ := hwf r hmem
  refine ⟨hid.trans hkey.1, htype.trans hkey.2, ?_⟩
  rw [← hkey.1]
  exact hl (List.mem_map_of_mem rowOutput hmem)

/-- An element read finds a row for every live element of its type. -/
theorem elementRow_of_live {g : Ledger} {t : Tables} (ha : Agrees g t) {id : ElementID}
    {o : Output} (h : (id, o) ∈ liveOf g.chain) :
    ∃ data, SQLiteStore.elementRow id o.type t = some data := by
  obtain ⟨r, hr, hrk⟩ :=
    List.mem_map.1 ((ha.elements (id, o.type)).2 (List.mem_map_of_mem liveKey h))
  simp only [rowKey, Prod.mk.injEq] at hrk
  have hfound : (t.elements.find? fun r => r.1 == id && r.2.1 == o.type).isSome :=
    List.find?_isSome.2 ⟨r, hr, by simp [hrk.1, hrk.2]⟩
  obtain ⟨r', hr'⟩ := Option.isSome_iff_exists.1 hfound
  exact ⟨r'.2.2, by rw [SQLiteStore.elementRow, hr', Option.map_some']⟩

/-- The explorer's Store has no error latched, and reads tables that agree with the valid chain
of `g`, hold its live elements, and file each row under its own ID and type. -/
structure Explorer.HoldsChain (g : Ledger) (e : Explorer) : Prop where
  clean : e.db.Clean
  validChain : ValidChain g.chain
  agrees : Agrees g e.db.view.tables
  live : ElementsLive (liveOf g.chain) e.db.view.tables
  wellFormed : ElementRowsWellFormed e.db.view.tables

/-- After a run of valid calls from genesis that all return `nil`, a clean Store holds the
chain. -/
theorem Explorer.HoldsChain.of_run {cs : State} {hs : HashStore} {evfs : List (Event × Faults)}
    {g : Ledger} {e : Explorer} {errs : List (Option GoError)}
    (hrun : Ledger.Run {} (evfs.map (·.1)) g)
    (he : (NewExplorer cs NewEphemeralStore hs).run evfs = .ok (e, errs))
    (hnil : ∀ err ∈ errs, err = none) (hc : e.db.Clean) : e.HoldsChain g :=
  have hf := (Follows.run hrun (Follows.init cs hs) he hnil).1
  ⟨hc, hf.validChain, hf.store.agrees hc,
    (HoldsOutputs.run hrun (Follows.init cs hs) (HoldsOutputs.init cs hs) he hnil hc).1,
    (Explorer.run_rowsFrom (.of_committed rfl RowsFrom.empty) he).view.elementRowsWellFormed⟩

/-- A read's `beginTx` keeps the Store holding the chain. -/
theorem Explorer.HoldsChain.beginTx {g : Ledger} {e : Explorer} (h : e.HoldsChain g) :
    ({ e with db := e.db.beginTx } : Explorer).HoldsChain g := by
  obtain ⟨hc, hg, ha, hl, hwf⟩ := h
  exact ⟨SQLiteStore.beginTx_clean hc, hg, by simpa using ha, by simpa using hl,
    by simpa using hwf⟩

/-- On a Store holding the chain, a typed element read answers the live elements, when its
decoder reads every element of its type. -/
theorem Explorer.HoldsChain.answersLive {g : Ledger} {e : Explorer} (h : e.HoldsChain g)
    {α : Type} {type : ElementType} {decode : Element → Except GoError α} {ID : α → ElementID}
    {out : α → Output}
    (hdec : ∀ data, data.type = type →
      ∃ a, decode data = .ok a ∧ ID a = data.ID ∧ out a = data.output) (id : ElementID) :
    AnswersLive (liveOf g.chain) id type ID out
      (e.db.queryRow (SQLiteStore.elementRow id type) decode).2 where
  sound a hr := by
    obtain ⟨data, hrow, hd⟩ := SQLiteStore.queryRow_ok_row hr
    obtain ⟨hid, htype, hlive⟩ := elementRow_live h.wellFormed h.live hrow
    obtain ⟨a', ha', hID, hout⟩ := hdec data htype
    obtain rfl : a' = a := Except.ok.inj (ha'.symm.trans hd)
    exact ⟨hID.trans hid, hout ▸ hlive⟩
  complete o hlive htype := by
    obtain ⟨data, hrow⟩ := elementRow_of_live h.agrees hlive
    obtain ⟨-, htype', hlive'⟩ := elementRow_live h.wellFormed h.live hrow
    obtain ⟨a, hd, -, hout⟩ := hdec data (htype'.trans htype)
    rw [htype] at hrow
    refine ⟨a, by rw [SQLiteStore.queryRow_found h.clean hrow hd], ?_⟩
    rw [hout]
    exact live_unique h.validChain.nodup hlive' hlive
  noRows err hr := by
    rcases SQLiteStore.queryRow_failed hr with ⟨-, rfl⟩ | ⟨data, hrow, hd⟩ | ⟨htx, herr⟩
    · rfl
    · obtain ⟨a, ha, -⟩ := hdec data (elementRow_live h.wellFormed h.live hrow).2.1
      cases ha.symm.trans hd
    · exact (h.clean.not_poisoned ⟨htx, by simp [herr]⟩).elim

/-- **Reads answer the chain.** After a run of valid calls from genesis that all return `nil`,
on a clean Store (as when the last call committed), each typed element read of `id` answers the
live element of its kind with that ID, holding what it holds on the chain, or `sql.ErrNoRows`
when none is live. -/
theorem element_reads_answer_chain {cs : State} {hs : HashStore} {evfs : List (Event × Faults)}
    {g : Ledger} {e : Explorer} {errs : List (Option GoError)}
    (hrun : Ledger.Run {} (evfs.map (·.1)) g)
    (he : (NewExplorer cs NewEphemeralStore hs).run evfs = .ok (e, errs))
    (hnil : ∀ err ∈ errs, err = none) (hc : e.db.Clean) (id : ElementID) :
    AnswersLive (liveOf g.chain) id .siacoin (·.ID) (fun sce => .siacoin sce.toSiacoinOutput)
        (e.db.SiacoinElement id).2 ∧
      AnswersLive (liveOf g.chain) id .siafund (·.ID) (fun sfe => .siafund sfe.toSiafundOutput)
        (e.db.SiafundElement id).2 ∧
      AnswersLive (liveOf g.chain) id .contract (·.ID) (fun fce => .contract fce.FileContract)
        (e.db.FileContractElement id).2 := by
  have h := Explorer.HoldsChain.of_run hrun he hnil hc
  refine ⟨h.answersLive ?_ id, h.answersLive ?_ id, h.answersLive ?_ id⟩ <;>
    intro data htype <;> cases data <;> cases htype <;> exact ⟨_, rfl, rfl, rfl⟩

theorem element_reads_answer_chain_coinGenesis :
    ∃ e errs, (NewExplorer coinGenesis.State NewEphemeralStore emptyHashStore).run
        [(.apply coinGenesis true, Faults.never)] = .ok (e, errs) ∧
      (∀ err ∈ errs, err = none) ∧ e.db.Clean ∧
      AnswersLive (liveOf [coinGenesis]) ⟨1⟩ .siacoin (·.ID)
          (fun sce => .siacoin sce.toSiacoinOutput) (e.db.SiacoinElement ⟨1⟩).2 ∧
        AnswersLive (liveOf [coinGenesis]) ⟨1⟩ .siafund (·.ID)
          (fun sfe => .siafund sfe.toSiafundOutput) (e.db.SiafundElement ⟨1⟩).2 ∧
        AnswersLive (liveOf [coinGenesis]) ⟨1⟩ .contract (·.ID)
          (fun fce => .contract fce.FileContract) (e.db.FileContractElement ⟨1⟩).2 :=
  ⟨_, _, rfl, by decide, .inl rfl, @element_reads_answer_chain coinGenesis.State emptyHashStore
    [(.apply coinGenesis true, Faults.never)] ⟨[coinGenesis], [coinGenesis]⟩ _ _
    (Ledger.replay_run rfl) rfl (by decide) (.inl rfl) ⟨1⟩⟩

/-! ## Batches of unspent elements -/

/-- The live elements of kind `type` paying to `address`, with what they hold. -/
def liveOutputsAt (chain : List ApplyUpdate) (type : ElementType) (address : Address) :
    List (ElementID × Output) :=
  (liveOf chain).filter fun p => p.2.type == type && p.2.address == some address

/-- Lists of entries of `L`, whose keys are distinct, with the same keys up to order are the same
up to order. -/
theorem perm_of_keys_perm {L l₁ l₂ : List (ElementID × Output)} (hL : (L.map (·.1)).Nodup)
    (h₁ : ∀ x ∈ l₁, x ∈ L) (h₂ : l₂.Sublist L) (hk : (l₁.map (·.1)).Perm (l₂.map (·.1))) :
    l₁.Perm l₂ := by
  have hnd₂ : (l₂.map (·.1)).Nodup := hL.sublist (h₂.map _)
  have hnd₁ : (l₁.map (·.1)).Nodup := hk.nodup_iff.2 hnd₂
  -- an entry of `L` is the only one with its key
  have hsame : ∀ {x y}, x ∈ L → y ∈ L → x.1 = y.1 → x = y := fun hx hy h =>
    List.inj_on_of_nodup_map hL hx hy h
  refine (List.perm_ext_iff_of_nodup hnd₁.of_map hnd₂.of_map).2 fun x =>
    ⟨fun hx => ?_, fun hx => ?_⟩
  · obtain ⟨y, hy, hxy⟩ := List.mem_map.1 (hk.subset (List.mem_map_of_mem _ hx))
    rw [hsame (h₁ x hx) (h₂.subset hy) hxy.symm]
    exact hy
  · obtain ⟨y, hy, hxy⟩ := List.mem_map.1 (hk.symm.subset (List.mem_map_of_mem _ hx))
    rw [hsame (h₂.subset hx) (h₁ y hy) hxy.symm]
    exact hy

/-- A loop returns a result for each item when each item, from any state satisfying `P`, keeps
`P` and returns a result related to it. -/
theorem Api.forItems_exists {σ α β : Type} (P : σ → Prop) (R : α → β → Prop)
    {step : σ → α → σ × Except Api.Failure β} {xs : List α}
    (h : ∀ x ∈ xs, ∀ st, P st → P (step st x).1 ∧ ∃ y, (step st x).2 = .ok y ∧ R x y)
    {st : σ} (hst : P st) :
    P (Api.forItems step st xs).1 ∧
      ∃ ys, (Api.forItems step st xs).2 = .ok ys ∧ List.Forall₂ R xs ys := by
  induction xs generalizing st with
  | nil => exact ⟨hst, [], rfl, .nil⟩
  | cons x xs ih =>
    obtain ⟨hP, y, hy, hxy⟩ := h x (List.mem_cons_self _ _) st hst
    simp only [Api.forItems]
    rcases hsx : step st x with ⟨st₁, r⟩
    rw [hsx] at hP hy
    cases hy
    obtain ⟨hP', ys, hys, hxys⟩ := ih (fun x hx => h x (List.mem_cons_of_mem _ hx)) hP
    dsimp only
    rcases hrest : Api.forItems step st₁ xs with ⟨st₂, r₂⟩
    rw [hrest] at hP' hys
    cases hys
    exact ⟨hP', _, rfl, .cons hxy hxys⟩

section Unspent

variable {g : Ledger} {α : Type} {type : ElementType} {decode : Element → Except GoError α}
  {ID : α → ElementID} {out : α → Output}
  (hdec : ∀ data, data.type = type →
    ∃ a, decode data = .ok a ∧ ID a = data.ID ∧ out a = data.output)

include hdec in
/-- An element read of a live element's ID, on a Store holding the chain, returns that element
and keeps the Store holding the chain. -/
theorem Explorer.HoldsChain.elementRead {e : Explorer} (h : e.HoldsChain g) {id : ElementID}
    {o : Output} (hlive : (id, o) ∈ liveOf g.chain) (htype : o.type = type) :
    (e.onStore (·.queryRow (SQLiteStore.elementRow id type) decode)).1.HoldsChain g ∧
      ∃ a, (e.onStore (·.queryRow (SQLiteStore.elementRow id type) decode)).2 = .ok a ∧
        (id, out a) ∈ liveOf g.chain ∧ ID a = id := by
  have hans := h.answersLive hdec id
  obtain ⟨a, hr, -⟩ := hans.complete o hlive htype
  obtain ⟨hbegin, -⟩ := SQLiteStore.queryRow_eq_ok (Prod.ext rfl hr :
    e.db.queryRow (SQLiteStore.elementRow id type) decode = (_, .ok a))
  have hq : e.db.queryRow (SQLiteStore.elementRow id type) decode = (e.db.beginTx, .ok a) :=
    Prod.ext hbegin hr
  simp only [Explorer.onStore, hq]
  exact ⟨h.beginTx, a, rfl, (hans.sound a hr).2, (hans.sound a hr).1⟩

include hdec in
/-- One address of a batch of unspent elements, on a Store holding the chain: its unspent IDs,
then each element, are the live elements of the kind paying to it, up to order, and the reads
keep the Store holding the chain. -/
theorem Explorer.HoldsChain.unspentElements
    (U : Explorer → Address → Explorer × Except GoError (List ElementID))
    (hU : ∀ e address, U e address = e.onStore (·.query (SQLiteStore.unspentRows address type)))
    (Rd : Explorer → ElementID → Explorer × Except GoError α)
    (hRd : ∀ e id, Rd e id = e.onStore (·.queryRow (SQLiteStore.elementRow id type) decode))
    (address : Address) {e : Explorer} (h : e.HoldsChain g) :
    (Api.unspentElements U Rd e address).1.HoldsChain g ∧
      ∃ elems, (Api.unspentElements U Rd e address).2 = .ok elems ∧
        (elems.map fun a => (ID a, out a)).Perm (liveOutputsAt g.chain type address) := by
  -- the unspent read answers the live IDs of the kind paying to the address
  have hids : (SQLiteStore.unspentRows address type e.db.view.tables).Perm
      ((liveOutputsAt g.chain type address).map (·.1)) :=
    unspentRows_perm h.agrees h.validChain type address
  have hU' : U e address = ({ e with db := e.db.beginTx },
      .ok (SQLiteStore.unspentRows address type e.db.view.tables)) := by
    simp only [hU, Explorer.onStore, SQLiteStore.query, SQLiteStore.beginTx_txErr h.clean,
      SQLiteStore.beginTx_view]
  simp only [Api.unspentElements, hU', Api.asFailure, Api.lookupAll]
  -- each ID's read returns the live element with that ID
  obtain ⟨hP, elems, hres, hall⟩ := @Api.forItems_exists _ _ _ (Explorer.HoldsChain g)
    (fun id a => (ID a, out a) ∈ liveOf g.chain ∧ ID a = id)
    (fun st id => Api.asFailure (Rd st id)) _ (fun id hid st hst => by
      obtain ⟨p, hp, rfl⟩ := List.mem_map.1 (hids.subset hid)
      simp only [liveOutputsAt, List.mem_filter, Bool.and_eq_true, beq_iff_eq] at hp
      obtain ⟨hP, a, hr, hrel⟩ := hst.elementRead hdec hp.1 hp.2.1
      refine ⟨by simpa only [Api.asFailure, hRd] using hP, a, ?_, hrel.2 ▸ hrel.1, hrel.2⟩
      simp only [Api.asFailure, hRd, hr])
    _ h.beginTx
  refine ⟨hP, elems, hres, ?_⟩
  -- the elements returned are live, with the IDs the unspent read listed
  have hall' : List.Forall₂ (fun a id => (ID a, out a) ∈ liveOf g.chain ∧ ID a = id) elems
      (SQLiteStore.unspentRows address type e.db.view.tables) := List.Forall₂.flip hall
  obtain ⟨hmem, hkeys⟩ := (List.forall₂_and_left _ _).1 hall'
  have hmap := List.forall₂_map_left_iff.2 hkeys
  rw [List.forall₂_eq_eq_eq] at hmap
  refine perm_of_keys_perm h.validChain.nodup (fun x hx => ?_) (List.filter_sublist _) ?_
  · obtain ⟨a, ha, rfl⟩ := List.mem_map.1 hx
    exact hmem a ha
  · rw [List.map_map]
    show (elems.map ID).Perm _
    rw [hmap]
    exact hids

include hdec in
/-- A batch of unspent elements, on a Store holding the chain, answers for each address in order
the live elements of the kind paying to it, up to order. -/
theorem Explorer.HoldsChain.batchUnspent
    (U : Explorer → Address → Explorer × Except GoError (List ElementID))
    (hU : ∀ e address, U e address = e.onStore (·.query (SQLiteStore.unspentRows address type)))
    (Rd : Explorer → ElementID → Explorer × Except GoError α)
    (hRd : ∀ e id, Rd e id = e.onStore (·.queryRow (SQLiteStore.elementRow id type) decode))
    (json : List (List α) → Api.Json) (addresses : List Address) {e : Explorer}
    (h : e.HoldsChain g) :
    ∃ elemss, (Api.writeItems (Api.forItems (Api.unspentElements U Rd) e addresses) json).2 =
        .json (json elemss) ∧
      List.Forall₂ (fun address elems => (elems.map fun a => (ID a, out a)).Perm
        (liveOutputsAt g.chain type address)) addresses elemss := by
  obtain ⟨-, elemss, hres, hall⟩ := Api.forItems_exists (Explorer.HoldsChain g) _
    (fun address _ st hst => hst.unspentElements hdec U hU Rd hRd address) h
  exact ⟨elemss, by rw [Api.writeItems, hres], hall⟩

end Unspent

section Batch

variable {g : Ledger} {e : Explorer} (h : e.HoldsChain g) (sy : Api.Syncer Explorer)
  (tp : Api.TransactionPool Explorer)
  (scb : Explorer → Address → Explorer × Except GoError Currency)
  (sfb : Explorer → Address → Explorer × Except GoError (BitVec 64)) (c : Api.Codec)
  (body : String) {addresses : List Address} (hbody : c.addresses body = .ok addresses)

include h hbody in
/-- `POST /batch/addresses/siacoins`, on a Store holding the chain, answers for each address of
its body in order the live siacoin elements paying to it, up to order. -/
theorem Explorer.HoldsChain.batchSiacoins :
    ∃ elemss, (Api.NewServer ⟨sy, Explorer.api scb sfb, tp⟩ c e
        { method := "POST", path := ["batch", "addresses", "siacoins"], body }).2 =
        .json (.siacoinElements elemss) ∧
      List.Forall₂ (fun address elems =>
        (coinOutputs elems).Perm (liveOutputsAt g.chain .siacoin address)) addresses elemss := by
  have hroute : Api.lookup "POST" ["batch", "addresses", "siacoins"] =
      some (.batchAddressesSiacoinsHandler, []) := by decide
  simp only [Api.NewServer, hroute, Api.HandlerName.run, Api.batchAddressesSiacoinsHandler,
    Api.decodeOr, hbody]
  exact h.batchUnspent (fun data htype => by cases data <;> cases htype; exact ⟨_, rfl, rfl, rfl⟩)
    _ (fun _ _ => rfl) _ (fun _ _ => rfl) _ _

include h hbody in
/-- `POST /batch/addresses/siafunds`, on a Store holding the chain, answers for each address of
its body in order the live siafund elements paying to it, up to order. -/
theorem Explorer.HoldsChain.batchSiafunds :
    ∃ elemss, (Api.NewServer ⟨sy, Explorer.api scb sfb, tp⟩ c e
        { method := "POST", path := ["batch", "addresses", "siafunds"], body }).2 =
        .json (.siafundElements elemss) ∧
      List.Forall₂ (fun address elems =>
        (fundOutputs elems).Perm (liveOutputsAt g.chain .siafund address)) addresses elemss := by
  have hroute : Api.lookup "POST" ["batch", "addresses", "siafunds"] =
      some (.batchAddressesSiafundsHandler, []) := by decide
  simp only [Api.NewServer, hroute, Api.HandlerName.run, Api.batchAddressesSiafundsHandler,
    Api.decodeOr, hbody]
  exact h.batchUnspent (fun data htype => by cases data <;> cases htype; exact ⟨_, rfl, rfl, rfl⟩)
    _ (fun _ _ => rfl) _ (fun _ _ => rfl) _ _

end Batch

/-- **Batches of unspent elements answer the chain.** After a run of valid calls from genesis
that all return `nil`, on a clean Store, `POST /batch/addresses/siacoins` answers, for each
address of its body in order, the live siacoin elements paying to it, each holding what it holds
on the chain, up to order; `POST /batch/addresses/siafunds` answers the same of siafunds. -/
theorem batch_unspent_live {cs : State} {hs : HashStore} {evfs : List (Event × Faults)}
    {g : Ledger} {e : Explorer} {errs : List (Option GoError)}
    (hrun : Ledger.Run {} (evfs.map (·.1)) g)
    (he : (NewExplorer cs NewEphemeralStore hs).run evfs = .ok (e, errs))
    (hnil : ∀ err ∈ errs, err = none) (hc : e.db.Clean) (sy : Api.Syncer Explorer)
    (tp : Api.TransactionPool Explorer)
    (scb : Explorer → Address → Explorer × Except GoError Currency)
    (sfb : Explorer → Address → Explorer × Except GoError (BitVec 64)) (c : Api.Codec)
    (body : String) (addresses : List Address) (hbody : c.addresses body = .ok addresses) :
    (∃ elemss, (Api.NewServer ⟨sy, Explorer.api scb sfb, tp⟩ c e
        { method := "POST", path := ["batch", "addresses", "siacoins"], body }).2 =
        .json (.siacoinElements elemss) ∧
      List.Forall₂ (fun address elems =>
        (coinOutputs elems).Perm (liveOutputsAt g.chain .siacoin address)) addresses elemss) ∧
    ∃ elemss, (Api.NewServer ⟨sy, Explorer.api scb sfb, tp⟩ c e
        { method := "POST", path := ["batch", "addresses", "siafunds"], body }).2 =
        .json (.siafundElements elemss) ∧
      List.Forall₂ (fun address elems =>
        (fundOutputs elems).Perm (liveOutputsAt g.chain .siafund address)) addresses elemss := by
  have h := Explorer.HoldsChain.of_run hrun he hnil hc
  exact ⟨h.batchSiacoins sy tp scb sfb c body hbody, h.batchSiafunds sy tp scb sfb c body hbody⟩

/-- A codec that decodes every element ID as `1` and every list of addresses as `[1]`: the coin of
`coinGenesis` and the address it pays to. -/
def coinCodec : Api.Codec :=
  { pageCodec with elementID := fun _ => .ok ⟨1⟩, addresses := fun _ => .ok [⟨1⟩] }

theorem batch_unspent_live_coinGenesis :
    ∃ e errs, (NewExplorer coinGenesis.State NewEphemeralStore emptyHashStore).run
        [(.apply coinGenesis true, Faults.never)] = .ok (e, errs) ∧
      (∀ err ∈ errs, err = none) ∧ e.db.Clean ∧ coinCodec.addresses "" = .ok [⟨1⟩] ∧
      (∃ elemss, (Api.NewServer ⟨idleSyncer, Explorer.api noBalance noBalance, idlePool⟩
          coinCodec e { method := "POST", path := ["batch", "addresses", "siacoins"] }).2 =
          .json (.siacoinElements elemss) ∧
        List.Forall₂ (fun address elems =>
          (coinOutputs elems).Perm (liveOutputsAt [coinGenesis] .siacoin address)) [⟨1⟩] elemss) ∧
      ∃ elemss, (Api.NewServer ⟨idleSyncer, Explorer.api noBalance noBalance, idlePool⟩
          coinCodec e { method := "POST", path := ["batch", "addresses", "siafunds"] }).2 =
          .json (.siafundElements elemss) ∧
        List.Forall₂ (fun address elems =>
          (fundOutputs elems).Perm (liveOutputsAt [coinGenesis] .siafund address)) [⟨1⟩] elemss :=
  ⟨_, _, rfl, by decide, .inl rfl, rfl, @batch_unspent_live coinGenesis.State emptyHashStore
    [(.apply coinGenesis true, Faults.never)] ⟨[coinGenesis], [coinGenesis]⟩ _ _
    (Ledger.replay_run rfl) rfl (by decide) (.inl rfl) idleSyncer idlePool noBalance noBalance
    coinCodec "" [⟨1⟩] rfl⟩

/-! ## End to end -/

/-- The client's `SiacoinElement`, sent to the explorer's server mounted under `/api/explorer`
with the client's password, answers the JSON of the Store's read, or its error as the server
reports it. -/
theorem Api.Client.SiacoinElement_served (cl : Api.Client) (t : Api.Text) (c : Api.Codec)
    (srv : Api.server SiaExplorer.Explorer) (e : SiaExplorer.Explorer) (id : ElementID)
    (hp : t.elementID id ≠ "")
    (hr : c.elementID (t.elementID id) = .ok id) :
    cl.SiacoinElement (Api.serveUnder ["api", "explorer"] cl.AuthPassword srv c) e t id =
      Api.answerCall (srv.e.SiacoinElement e id) .siacoinElement := by
  have hroute : (Api.Method.SiacoinElement id).Routable t := by
    simpa [Api.Method.Routable, Api.Method.call] using hp
  show (Api.Method.SiacoinElement id).run cl (Api.serveUnder (Api.Method.SiacoinElement id).mount
    cl.AuthPassword srv c) e t = _
  rw [Api.Method.run_eq, Api.Client.req, Api.serveUnder_of_lookup
    ((Api.Method.SiacoinElement id).call_take t)
    ((Api.Method.SiacoinElement id).lookup_call t hroute)]
  exact Api.lookupHandler_answer hr _ _ _

/-- **The client reads the chain.** After a run of valid calls from genesis that all return
`nil`, on a clean Store: the client's `SiacoinElement(id)`, sent to the explorer's server mounted
under `/api/explorer` with the client's password, returns the JSON of a siacoin element with
that ID holding `o` exactly when `(id, o)` is a live siacoin output of the chain, and the server's
report of `sql.ErrNoRows` when no siacoin output with that ID is live. -/
theorem client_reads_chain {cs : State} {hs : HashStore} {evfs : List (Event × Faults)}
    {g : Ledger} {e : Explorer} {errs : List (Option GoError)}
    (hrun : Ledger.Run {} (evfs.map (·.1)) g)
    (he : (NewExplorer cs NewEphemeralStore hs).run evfs = .ok (e, errs))
    (hnil : ∀ err ∈ errs, err = none) (hc : e.db.Clean) (cl : Api.Client) (t : Api.Text)
    (c : Api.Codec) (sy : Api.Syncer Explorer) (tp : Api.TransactionPool Explorer)
    (scb : Explorer → Address → Explorer × Except GoError Currency)
    (sfb : Explorer → Address → Explorer × Except GoError (BitVec 64)) (id : ElementID)
    (hp : t.elementID id ≠ "") (hr : c.elementID (t.elementID id) = .ok id) :
    (∀ o, (id, Output.siacoin o) ∈ liveOf g.chain ↔
      ∃ sce, (cl.SiacoinElement (Api.serveUnder ["api", "explorer"] cl.AuthPassword
          ⟨sy, Explorer.api scb sfb, tp⟩ c) e t id).2 = .ok (some (.siacoinElement sce)) ∧
        sce.ID = id ∧ sce.toSiacoinOutput = o) ∧
      ((∀ o, (id, Output.siacoin o) ∉ liveOf g.chain) →
        (cl.SiacoinElement (Api.serveUnder ["api", "explorer"] cl.AuthPassword
          ⟨sy, Explorer.api scb sfb, tp⟩ c) e t id).2 =
          .error (.status (.badRequest (.call .noRows)))) := by
  have hans : AnswersLive (liveOf g.chain) id .siacoin (·.ID)
      (fun sce => .siacoin sce.toSiacoinOutput) (e.db.SiacoinElement id).2 :=
    (Explorer.HoldsChain.of_run hrun he hnil hc).answersLive
      (fun data htype => by cases data <;> cases htype; exact ⟨_, rfl, rfl, rfl⟩) id
  obtain ⟨hsound, hcomplete, hnoRows⟩ := hans
  have hread : ((Explorer.api scb sfb).SiacoinElement e id).2 = (e.db.SiacoinElement id).2 := rfl
  rw [Api.Client.SiacoinElement_served cl t c _ e id hp hr, Api.answerCall, hread]
  cases hq : (e.db.SiacoinElement id).2 with
  | ok sce =>
    -- the read found the live element with that ID
    obtain ⟨hid, hlive⟩ := hsound sce hq
    refine ⟨fun o => ⟨fun h => ?_, ?_⟩, fun hnone => absurd hlive (hnone _)⟩
    · obtain ⟨a, ha, hout⟩ := hcomplete _ h rfl
      cases hq.symm.trans ha
      exact ⟨sce, rfl, hid, Output.siacoin.inj hout⟩
    · rintro ⟨sce', hsce, -, rfl⟩
      cases hsce
      exact hlive
  | error err =>
    -- the read failed, so nothing of that ID is live
    refine ⟨fun o => ⟨fun h => ?_, nofun⟩, fun _ => by rw [hnoRows err hq]⟩
    obtain ⟨a, ha, -⟩ := hcomplete _ h rfl
    cases hq.symm.trans ha

theorem client_reads_chain_coinGenesis :
    ∃ e errs, (NewExplorer coinGenesis.State NewEphemeralStore emptyHashStore).run
        [(.apply coinGenesis true, Faults.never)] = .ok (e, errs) ∧
      (∀ err ∈ errs, err = none) ∧ e.db.Clean ∧ Api.plainText.elementID ⟨1⟩ ≠ "" ∧
      coinCodec.elementID (Api.plainText.elementID ⟨1⟩) = .ok ⟨1⟩ ∧
      (∀ o, (⟨1⟩, Output.siacoin o) ∈ liveOf [coinGenesis] ↔
        ∃ sce, ((Api.NewClient "localhost:9980" "pw").SiacoinElement
            (Api.serveUnder ["api", "explorer"] "pw" ⟨idleSyncer, Explorer.api noBalance noBalance,
              idlePool⟩ coinCodec) e Api.plainText ⟨1⟩).2 = .ok (some (.siacoinElement sce)) ∧
          sce.ID = ⟨1⟩ ∧ sce.toSiacoinOutput = o) ∧
      ((∀ o, (⟨1⟩, Output.siacoin o) ∉ liveOf [coinGenesis]) →
        ((Api.NewClient "localhost:9980" "pw").SiacoinElement
          (Api.serveUnder ["api", "explorer"] "pw" ⟨idleSyncer, Explorer.api noBalance noBalance,
            idlePool⟩ coinCodec) e Api.plainText ⟨1⟩).2 =
          .error (.status (.badRequest (.call .noRows)))) :=
  ⟨_, _, rfl, by decide, .inl rfl, by decide, rfl, @client_reads_chain coinGenesis.State
    emptyHashStore [(.apply coinGenesis true, Faults.never)] ⟨[coinGenesis], [coinGenesis]⟩ _ _
    (Ledger.replay_run rfl) rfl (by decide) (.inl rfl) (Api.NewClient "localhost:9980" "pw")
    Api.plainText coinCodec idleSyncer idlePool noBalance noBalance ⟨1⟩ (by decide) rfl⟩

end SiaExplorer
