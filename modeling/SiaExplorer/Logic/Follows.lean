import SiaExplorer.Logic.Agrees
import SiaExplorer.Ledger.Stats

/-!
# The explorer follows the chain

`Follows g e`: the explorer `e` is where valid calls returning `nil` left it, for the ledger
`g` they led to:

* the chain is valid and the cached `tipStats` are its stats (`chainStatsOf`);
* the Store `Tracks` the ledger: it is clean and its tables agree with `g` (`Agrees`), or a
  write of a batch not yet committed failed and its error is latched (`Poisoned`).

A new explorer on an empty Store follows the empty ledger (`Follows.init`); a call that returns
`nil` keeps `Follows` (`Follows.step`), so a whole run of them does (`Follows.run`), and when its
last call commits, no transaction is left open (`Follows.committed`).
-/


namespace SiaExplorer

/-! ## The Store's side -/

namespace SQLiteStore

/-- A batch of writes from a clean store: either the transaction holds the tables the statements
produce, or a write failed and its error is latched. -/
theorem execStatements_outcome {s : SQLiteStore} (h : s.Clean) (f : DbFaults)
    (sts : List Statement) :
    ((s.execStatements f sts).Clean ∧
        (s.execStatements f sts).view.tables = applyAll sts s.view.tables) ∨
      (s.execStatements f sts).Poisoned := by
  rcases eq_or_ne sts [] with rfl | hne
  · exact .inl ⟨h, rfl⟩
  rw [execStatements_clean h f hne]
  cases hex : (execAll f sts s.view).2 with
  | none => exact .inl ⟨.inr (by simp [hex]), execAll_tables hex⟩
  | some err => exact .inr ⟨rfl, by simp [hex]⟩

theorem beginTx_clean {s : SQLiteStore} (h : s.Clean) : s.beginTx.Clean :=
  .inr (beginTx_txErr h)

/-- A `QueryRow` on a clean store that finds and decodes its row returns it and latches
nothing. -/
theorem queryRow_found {β α : Type} {s : SQLiteStore} (h : s.Clean) {row : Tables → Option β}
    {decode : β → Except GoError α} {data : β} {a : α} (hrow : row s.view.tables = some data)
    (hdec : decode data = .ok a) : s.queryRow row decode = (s.beginTx, .ok a) := by
  simp only [queryRow, beginTx_txErr h, beginTx_view, hrow, hdec]

/-- A `QueryRow` on a poisoned store returns the latched error. -/
theorem queryRow_poisoned {β α : Type} {s : SQLiteStore} (h : s.Poisoned) (row : Tables → Option β)
    (decode : β → Except GoError α) : ∃ err, (s.queryRow row decode).2 = .error err := by
  obtain ⟨htx, herr⟩ := h
  obtain ⟨err, herr⟩ := Option.isSome_iff_exists.1 herr
  exact ⟨err, by simp [queryRow, beginTx_of_isSome htx, herr]⟩

end SQLiteStore

/-- The Store's side of `Follows`: clean and agreeing with `g`, or poisoned. -/
def Tracks (g : Ledger) (s : SQLiteStore) : Prop :=
  (s.Clean ∧ Agrees g s.view.tables) ∨ s.Poisoned

/-- A batch whose table effect keeps the agreement keeps `Tracks`. -/
theorem Tracks.execStatements {g g' : Ledger} {s : SQLiteStore} (h : Tracks g s)
    {sts : List Statement} (hsts : ∀ t, Agrees g t → Agrees g' (applyAll sts t)) (f : DbFaults) :
    Tracks g' (s.execStatements f sts) := by
  rcases h with ⟨hc, ha⟩ | hp
  · rcases SQLiteStore.execStatements_outcome hc f sts with ⟨hc', hv⟩ | hp
    · exact .inl ⟨hc', hv ▸ hsts _ ha⟩
    · exact .inr hp
  · rw [SQLiteStore.execStatements_poisoned hp]
    exact .inr hp

/-- A `Commit` returning `nil` on a store that tracks `g` publishes tables agreeing with `g`. -/
theorem Tracks.commit {g : Ledger} {s s' : SQLiteStore} {f : DbFaults} (h : Tracks g s)
    (hc : s.Commit f = .ok (s', none)) :
    Agrees g s'.db.tables ∧ s'.tx = none ∧ s'.txErr = none := by
  obtain ⟨db, htx, herr, -, rfl⟩ := SQLiteStore.Commit_eq_ok_none hc
  rcases h with ⟨-, ha⟩ | ⟨-, hp⟩
  · simp only [SQLiteStore.view, htx, Option.getD_some] at ha
    exact ⟨ha, rfl, herr⟩
  · simp [herr] at hp

/-- A store with no open transaction and tables agreeing with `g` tracks `g`. -/
theorem Tracks.of_committed {g : Ledger} {s : SQLiteStore} (htx : s.tx = none)
    (ha : Agrees g s.db.tables) : Tracks g s :=
  .inl ⟨.inl htx, by simpa [SQLiteStore.view, htx] using ha⟩

/-- On a clean store agreeing with a ledger whose tip is `parent`, `ChainStats` of the tip's
index returns the chain's stats and latches nothing. -/
theorem SQLiteStore.ChainStats_tip {pre applied : List ApplyUpdate} {parent : ApplyUpdate}
    {s : SQLiteStore} (hc : s.Clean) (ha : Agrees ⟨pre ++ [parent], applied⟩ s.view.tables) :
    ∃ stats, chainStatsOf (pre ++ [parent]) = .ok stats ∧
      s.ChainStats parent.State.Index = (s.beginTx, .ok stats) := by
  obtain ⟨sp, hsp, hrow⟩ := ha.chainstats pre.length (by simp)
  have htake : (pre ++ [parent]).take (pre.length + 1) = pre ++ [parent] :=
    List.take_of_length_le (by simp)
  simp only [htake, List.getElem_concat_length] at hsp hrow
  refine ⟨sp, hsp, ?_⟩
  rw [SQLiteStore.ChainStats]
  exact SQLiteStore.queryRow_found hc
    (by rw [find?_key_of_mem s.view.keysUnique.chainstats hrow]; rfl) rfl

/-! ## The explorer's tails -/

/-- `commitApply` returning `nil` leaves the caches, and either commits the Store (with
`mayCommit`) or leaves it. -/
theorem Explorer.commitApply_eq_ok_none {e e' : Explorer} {f : Faults} {m : Bool}
    (h : e.commitApply f m = .ok (e', none)) :
    e'.tipStats = e.tipStats ∧ e'.cs = e.cs ∧
      (m = true → e.db.Commit f.db = .ok (e'.db, none)) ∧ (m = false → e'.db = e.db) := by
  cases m with
  | false => cases h; exact ⟨rfl, rfl, nofun, fun _ => rfl⟩
  | true =>
    rcases Explorer.commitApply_true_cases h with ⟨_, -, h⟩ | ⟨db, err, hc, h⟩
    · cases h
    · cases h
      exact ⟨rfl, rfl, fun _ => hc, nofun⟩

/-- `reloadTip` returning `nil`: the `ChainStats` read found the stats it caches, and the Store
committed. -/
theorem Explorer.reloadTip_eq_ok_none {e e' : Explorer} {f : Faults} {cru : RevertUpdate}
    (h : e.reloadTip f cru = .ok (e', none)) :
    ∃ s stats, e.db.ChainStats cru.State.Index = (s, .ok stats) ∧
      s.Commit f.db = .ok (e'.db, none) ∧ e'.tipStats = stats ∧ e'.cs = cru.State := by
  rcases Explorer.reloadTip_cases h with ⟨_, -, h⟩ | ⟨stats, db, err, hq, hc, h⟩
  · cases h
  · cases h
    exact ⟨_, stats, Prod.ext rfl hq, hc, rfl, rfl⟩

/-! ## The invariant -/

/-- Whether a call ends with a `Commit` of the Store when it returns `nil`. -/
def Event.commits : Event → Bool
  | .apply _ mayCommit => mayCommit
  | .revert _ => true

/-- The explorer `e` follows the ledger `g`. -/
structure Follows (g : Ledger) (e : Explorer) : Prop where
  /-- every block of the chain was valid when it was applied -/
  validChain : ValidChain g.chain
  /-- the cached stats are the chain's -/
  tipStats : chainStatsOf g.chain = .ok e.tipStats
  /-- the Store agrees with the ledger, unless a latched error will fail its next commit -/
  store : Tracks g e.db

/-- A new explorer on an empty Store follows the empty ledger. -/
theorem Follows.init (cs : State) (hs : HashStore) :
    Follows {} (NewExplorer cs NewEphemeralStore hs) :=
  ⟨ValidChain.nil, rfl, Tracks.of_committed rfl Agrees.empty⟩

/-- An apply returning `nil` keeps `Follows`, and leaves no transaction open when it commits. -/
theorem Follows.apply {g : Ledger} {e e' : Explorer} {f : Faults} {cau : ApplyUpdate} {m : Bool}
    (h : Follows g e) (hv : cau.Valid g.chain)
    (he : e.ProcessChainApplyUpdate f cau m = .ok (e', none)) :
    Follows ⟨g.chain ++ [cau], g.applied ++ [cau]⟩ e' ∧
      (m = true → e'.db.tx = none ∧ e'.db.txErr = none) := by
  obtain ⟨stats, hs, hstats, -, hc⟩ := ProcessChainApplyUpdate_eq_ok.1 he
  obtain ⟨htip, -, hcommit, hkeep⟩ := Explorer.commitApply_eq_ok_none hc
  dsimp only at hcommit hkeep
  have hchain : chainStatsOf (g.chain ++ [cau]) = .ok stats := by
    rw [chainStatsOf_snoc, h.tipStats]; exact hstats
  have htr : Tracks ⟨g.chain ++ [cau], g.applied ++ [cau]⟩
      (e.db.execStatements f.db (cau.statements stats)) :=
    h.store.execStatements (fun t ht => ht.apply h.validChain hv hchain) f.db
  refine ⟨⟨h.validChain.snoc hv, htip ▸ hchain, ?_⟩, fun hm => ?_⟩
  · cases m with
    | false => exact hkeep rfl ▸ htr
    | true =>
      obtain ⟨ha, htx, -⟩ := htr.commit (hcommit rfl)
      exact Tracks.of_committed htx ha
  · exact (htr.commit (hcommit hm)).2

/-- A revert returning `nil` keeps `Follows`, reloading the parent's stats from the Store, and
leaves no transaction open. -/
theorem Follows.revert {pre applied : List ApplyUpdate} {parent tip : ApplyUpdate}
    {cru : RevertUpdate} {e e' : Explorer} {f : Faults}
    (h : Follows ⟨pre ++ [parent, tip], applied⟩ e) (hu : cru.Undoes tip parent.State)
    (he : e.ProcessChainRevertUpdate f cru = .ok (e', none)) :
    Follows ⟨pre ++ [parent], applied⟩ e' ∧ e'.db.tx = none ∧ e'.db.txErr = none := by
  obtain ⟨hs, -, hr⟩ := ProcessChainRevertUpdate_eq_ok.1 he
  obtain ⟨s, stats, hread, hcommit, htip, -⟩ := Explorer.reloadTip_eq_ok_none hr
  have htr : Tracks ⟨pre ++ [parent], applied⟩ (e.db.execStatements f.db cru.statements) :=
    h.store.execStatements (fun t ht => ht.revert h.validChain hu) f.db
  rcases htr with ⟨hc, ha⟩ | hp
  · -- the parent's stats row is found, so the read returns the parent's stats
    obtain ⟨sp, hsp, hrd⟩ := SQLiteStore.ChainStats_tip hc ha
    rw [hu.state, hrd] at hread
    obtain ⟨rfl, hst⟩ := Prod.mk.inj hread
    obtain rfl : sp = stats := Except.ok.inj hst
    have htr' :
        Tracks ⟨pre ++ [parent], applied⟩ (e.db.execStatements f.db cru.statements).beginTx :=
      .inl ⟨SQLiteStore.beginTx_clean hc, by simpa using ha⟩
    obtain ⟨ha', htx, herr⟩ := htr'.commit hcommit
    have hg : ValidChain (pre ++ [parent]) :=
      (show ValidChain ((pre ++ [parent]) ++ [tip]) by simpa using h.validChain).append
    exact ⟨⟨hg, htip ▸ hsp, Tracks.of_committed htx ha'⟩, htx, herr⟩
  · -- a latched error fails the read
    obtain ⟨err, herr⟩ := SQLiteStore.queryRow_poisoned hp
      (fun t => (t.chainstats.find? (·.1 == cru.State.Index.String)).map (·.2)) Except.ok
    simp only [SQLiteStore.ChainStats] at hread
    rw [hread] at herr
    cases herr

/-- One valid call returning `nil` keeps `Follows`; a committing one leaves no transaction
open. -/
theorem Follows.step {g g' : Ledger} {ev : Event} {e e' : Explorer} {f : Faults}
    (hstep : Ledger.Step g ev g') (h : Follows g e) (he : e.process f ev = .ok (e', none)) :
    Follows g' e' ∧ (ev.commits = true → e'.db.tx = none ∧ e'.db.txErr = none) := by
  cases hstep with
  | apply mayCommit hv => exact Follows.apply h hv he
  | revert hu =>
    obtain ⟨h', htx⟩ := Follows.revert h hu he
    exact ⟨h', fun _ => htx⟩

theorem Explorer.run_cons_eq_ok {e : Explorer} {ev : Event} {f : Faults}
    {rest : List (Event × Faults)} {r : Explorer × List (Option GoError)} :
    e.run ((ev, f) :: rest) = .ok r ↔
      ∃ e₁ err e₂ errs, e.process f ev = .ok (e₁, err) ∧ e₁.run rest = .ok (e₂, errs) ∧
        r = (e₂, err :: errs) := by
  simp only [Explorer.run, bind, Except.bind]
  constructor
  · intro h
    split at h
    · cases h
    · rename_i p hp
      split at h
      · cases h
      · rename_i q hq
        cases h
        exact ⟨p.1, p.2, q.1, q.2, hp, hq, rfl⟩
  · rintro ⟨e₁, err, e₂, errs, hp, hq, rfl⟩
    simp [hp, hq, pure, Except.pure]

/-- A run of valid calls all returning `nil` keeps `Follows`; when its last call commits, no
transaction is left open. -/
theorem Follows.run {g g' : Ledger} {evfs : List (Event × Faults)} {e e' : Explorer}
    {errs : List (Option GoError)} (hrun : Ledger.Run g (evfs.map (·.1)) g') (h : Follows g e)
    (he : e.run evfs = .ok (e', errs)) (hnil : ∀ err ∈ errs, err = none) :
    Follows g' e' ∧ ∀ last ∈ evfs.getLast?, last.1.commits = true →
      e'.db.tx = none ∧ e'.db.txErr = none := by
  induction evfs generalizing g e errs with
  | nil =>
    cases hrun
    cases he
    exact ⟨h, nofun⟩
  | cons evf rest ih =>
    obtain ⟨ev, f⟩ := evf
    obtain ⟨e₁, err, e₂, errs', hp, hq, hr⟩ := Explorer.run_cons_eq_ok.1 he
    cases hr
    cases hrun with
    | cons hstep hrest =>
      obtain rfl : err = none := hnil err (List.mem_cons_self _ _)
      obtain ⟨h₁, hcommit⟩ := Follows.step hstep h hp
      obtain ⟨h₂, hlast⟩ := ih hrest h₁ hq (fun err h => hnil err (List.mem_cons_of_mem _ h))
      refine ⟨h₂, ?_⟩
      cases rest with
      | nil =>
        cases hq
        rintro _ ⟨⟩
        exact hcommit
      | cons evf' rest' =>
        intro last hl
        exact hlast last (by simpa [List.getLast?_cons_cons] using hl)

/-- A run from a new explorer on an empty Store whose calls all return `nil` and whose last
call commits: the explorer follows the ledger, with no transaction open. -/
theorem Follows.committed {cs : State} {hs : HashStore} {evfs : List (Event × Faults)}
    {g : Ledger} {e : Explorer} {errs : List (Option GoError)}
    (hrun : Ledger.Run {} (evfs.map (·.1)) g)
    (he : (NewExplorer cs NewEphemeralStore hs).run evfs = .ok (e, errs))
    (hnil : ∀ err ∈ errs, err = none) (hlast : ∀ last ∈ evfs.getLast?, last.1.commits = true) :
    Follows g e ∧ e.db.tx = none ∧ Agrees g e.db.db.tables := by
  obtain ⟨hf, hcommit⟩ := Follows.run hrun (Follows.init cs hs) he hnil
  have htx : e.db.tx = none := by
    cases hl : evfs.getLast? with
    | some last => exact (hcommit last hl (hlast last hl)).1
    | none =>
      obtain rfl := List.getLast?_eq_none_iff.1 hl
      cases he
      rfl
  refine ⟨hf, htx, ?_⟩
  rcases hf.store with ⟨-, ha⟩ | ⟨hp, -⟩
  · simpa [SQLiteStore.view, htx] using ha
  · simp [htx] at hp

end SiaExplorer
