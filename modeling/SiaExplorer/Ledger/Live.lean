import SiaExplorer.Ledger.Chain

/-!
# Live elements on a valid chain

* `ValidChain` holds of the chain of every valid run (`Ledger.Run.validChain`);
* on a valid chain, live elements have distinct IDs (`ValidChain.nodup`), so an ID determines
  what it holds (`live_unique`).
-/

namespace SiaExplorer

theorem mem_liveAfter {L : List (ElementID × Output)} {cau : ApplyUpdate}
    {p : ElementID × Output} :
    p ∈ liveAfter L cau ↔
      (p ∈ L ∧ p.1 ∉ (cau.removed ++ cau.revised).map (·.1)) ∨ p ∈ cau.added ∨
        p ∈ cau.revised := by
  simp [liveAfter, or_assoc]

theorem liveOf_nil : liveOf [] = [] := rfl

theorem liveOf_snoc (chain : List ApplyUpdate) (cau : ApplyUpdate) :
    liveOf (chain ++ [cau]) = liveAfter (liveOf chain) cau := by
  simp [liveOf, List.foldl_append]

/-- Two live entries with one ID are one entry. -/
theorem live_unique {L : List (ElementID × Output)} (hL : (L.map (·.1)).Nodup)
    {id : ElementID} {o o' : Output} (h : (id, o) ∈ L) (h' : (id, o') ∈ L) : o = o' :=
  (Prod.ext_iff.1 (List.inj_on_of_nodup_map hL h h' rfl)).2

/-- The row a key finds in a table whose keys are unique. -/
theorem find?_key_of_mem {κ ρ : Type} [DecidableEq κ] {rows : List (κ × ρ)} {k : κ} {v : ρ}
    (hnd : (rows.map (·.1)).Nodup) (hmem : (k, v) ∈ rows) :
    rows.find? (·.1 == k) = some (k, v) := by
  have hsome : (rows.find? (·.1 == k)).isSome :=
    List.find?_isSome.2 ⟨(k, v), hmem, beq_self_eq_true k⟩
  obtain ⟨r, hr⟩ := Option.isSome_iff_exists.1 hsome
  have hk : r.1 = k := by simpa using List.find?_some hr
  rw [hr, List.inj_on_of_nodup_map hnd (List.mem_of_find?_eq_some hr) hmem hk]

/-- A valid update keeps live IDs distinct. -/
theorem liveAfter_nodup {L : List (ElementID × Output)} {cau : ApplyUpdate}
    (hL : (L.map (·.1)).Nodup) (hfresh : ∀ p ∈ cau.added, p.1 ∉ L.map (·.1))
    (hdistinct : ((cau.removed ++ cau.revised ++ cau.added).map (·.1)).Nodup) :
    ((liveAfter L cau).map (·.1)).Nodup := by
  have hnew : ((cau.added ++ cau.revised).map (·.1)).Nodup := by
    have := (List.nodup_append.1 (by simpa [List.append_assoc] using hdistinct)).2.1
    simpa [List.map_append] using (List.nodup_append_comm.1 this)
  rw [liveAfter, List.map_append, List.nodup_append]
  refine ⟨hL.sublist ((List.filter_sublist _).map _), hnew, ?_⟩
  intro a ha hb
  obtain ⟨p, hp, rfl⟩ := List.mem_map.1 ha
  obtain ⟨q, hq, hqp⟩ := List.mem_map.1 hb
  simp only [List.mem_filter, decide_eq_true_eq] at hp
  rcases List.mem_append.1 hq with hq | hq
  · exact hfresh q hq (hqp ▸ List.mem_map_of_mem _ hp.1)
  · exact hp.2 (hqp ▸ List.mem_map_of_mem _ (List.mem_append_right _ hq))

namespace ValidChain

theorem nil : ValidChain [] := by
  intro pre cau post h
  exact absurd h.symm (by simp)

theorem snoc {chain : List ApplyUpdate} {cau : ApplyUpdate} (h : ValidChain chain)
    (hv : cau.Valid chain) : ValidChain (chain ++ [cau]) := by
  intro pre c post hc
  rcases List.eq_nil_or_concat post with rfl | ⟨post', x, rfl⟩
  · obtain ⟨rfl, h1⟩ := List.append_inj' hc rfl
    cases h1
    exact hv
  · have : chain ++ [cau] = (pre ++ c :: post') ++ [x] := by simpa using hc
    obtain ⟨hpre, -⟩ := List.append_inj' this rfl
    exact h pre c post' hpre

theorem append {chain rest : List ApplyUpdate} (h : ValidChain (chain ++ rest)) :
    ValidChain chain :=
  fun pre c post hc => h pre c (post ++ rest) (by simp [hc])

theorem last {chain : List ApplyUpdate} {cau : ApplyUpdate} (h : ValidChain (chain ++ [cau])) :
    cau.Valid chain :=
  h chain cau [] rfl

/-- On a valid chain live elements have distinct IDs. -/
theorem nodup {chain : List ApplyUpdate} (h : ValidChain chain) :
    ((liveOf chain).map (·.1)).Nodup := by
  induction chain using List.reverseRecOn with
  | nil => exact List.nodup_nil
  | append_singleton chain cau ih =>
    have hv := h.last
    rw [liveOf_snoc]
    exact liveAfter_nodup (ih h.append) hv.addedFresh hv.distinct

end ValidChain

/-- Every valid run from a valid chain ends on a valid chain. -/
theorem Ledger.Run.validChain {g g' : Ledger} {evs : List Event} (hrun : Ledger.Run g evs g')
    (h : ValidChain g.chain) : ValidChain g'.chain := by
  induction hrun with
  | nil => exact h
  | cons hstep _ ih =>
    apply ih
    cases hstep with
    | apply _ hv => exact h.snoc hv
    | revert _ => exact (show ValidChain (_ ++ [_]) by simpa using h).append

end SiaExplorer
