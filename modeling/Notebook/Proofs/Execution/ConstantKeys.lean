import Notebook.Proofs.Engine.Arrival
import Notebook.Proofs.Evaluation.Constant
import Notebook.Proofs.Execution.Run
import Notebook.Proofs.Value.Symmetry

/-!
# Sorting by nothing

Without sort keys nothing is sorted: the candidates stay in the order of the collection, and those
of one note in the order of their lines. With sort keys a comparison decides, and where the keys
leave two candidates equal it looks at their paths and their lines
(`Notebook.Execution.placeOrder`). These are two descriptions of one order when notes have paths of
their own: the candidates of a collection are ranked by their places from the start
(`Notebook.Execution.pairwise_placeOrder`). So a query without sort keys has the same outcome with
constant ones, and an outcome is all of it, the records of what is skipped and the failures of whole
queries included (`Notebook.Engine.execute_constantKeys`).

Two notes that share a path part the two: their tasks come note by note without keys, and are sorted
by line together with them.
-/

namespace Notebook

open Evaluation Query

namespace Collection

variable {collection : Collection}

/-- Notes with paths of their own come in the strict order of their paths. -/
theorem pairwise_path_lt (hpaths : (collection.notes.map Note.path).Nodup) :
    collection.notes.Pairwise fun a b => compare a.path b.path = .lt := by
  refine (collection.ordered.and (List.pairwise_map.mp hpaths)).imp fun {a b} ⟨hle, hne⟩ => ?_
  cases hcompare : compare a.path b.path with
  | lt => rfl
  | eq => exact absurd (Std.LawfulEqOrd.eq_of_compare hcompare) hne
  | gt =>
    rw [Note.pathLe, hcompare] at hle
    cases hle

end Collection

namespace Execution

variable {functions : Registry} {query : Query} {notes : List Note} {c d : Candidate}

/-! ### Places -/

/-- **Candidates come in the order of their places** when their notes come in the order of their
paths. -/
theorem pairwise_placeOrder (query : Query)
    (hnotes : notes.Pairwise fun a b => compare a.path b.path = .lt) :
    (candidates query notes).Pairwise fun c d => placeOrder c d = .lt := by
  rw [candidates_eq_flatMap]
  refine List.pairwise_flatMap.mpr ⟨fun note _ => ?_, hnotes.imp fun {a b} hlt c hc d hd => ?_⟩
  · refine (pairwise_candidatesOf query note).imp_of_mem fun {c d} hc hd hlt => ?_
    rw [placeOrder, owner_of_mem_candidatesOf hc, owner_of_mem_candidatesOf hd, hlt,
      Std.ReflOrd.compare_self]
    rfl
  · rw [placeOrder, owner_of_mem_candidatesOf hc, owner_of_mem_candidatesOf hd, hlt]
    rfl

/-! ### Keys without a difference -/

/-- What has the same values for all keys is equal to them. -/
theorem keyOrder_self (keys : List SortKey) (values : List Value) :
    keyOrder keys values values = .eq := by
  induction keys generalizing values with
  | nil => rfl
  | cons key keys ih =>
    rcases values with _ | ⟨v, values⟩
    · rfl
    · have hkey : directed key.direction v v = .eq := by
        cases key.direction <;> exact Value.sortOrder_self v
      rw [keyOrder, hkey, ih]
      rfl

/-- **Constant keys leave it to the places.** -/
theorem order_of_isConstant
    (hkeys : ∀ key ∈ query.sort, IsConstant functions key.expression) (c d : Candidate) :
    order functions query c d = placeOrder c d := by
  obtain ⟨values, hvalues⟩ := exists_values_of_isConstant hkeys
  rw [order, withKeys_of_hasKeys (hvalues c.environment),
    withKeys_of_hasKeys (hvalues d.environment), candidateOrder, keyOrder_self]
  rfl

/-- Candidates in the order of their places stay as they are under constant keys. -/
theorem sortStage_of_isConstant {cs : List Candidate}
    (hkeys : ∀ key ∈ query.sort, IsConstant functions key.expression)
    (hplaces : cs.Pairwise fun c d => placeOrder c d = .lt) :
    sortStage functions query cs = .ok cs := by
  by_cases hsort : query.sort = []
  · exact sortStage_of_nil hsort cs
  obtain ⟨values, hvalues⟩ := exists_values_of_isConstant hkeys
  have hranks : Ranks (order functions query) fun _ => True :=
    ranks_placeOrder.of_key id (fun _ h => h) fun c d _ _ => order_of_isConstant hkeys c d
  have hstays : cs.Pairwise fun c d => (order functions query d c == .lt) = false := by
    refine hplaces.imp fun {c d} hlt => ?_
    rw [order_of_isConstant hkeys, ranks_placeOrder.swap trivial trivial, hlt]
    rfl
  refine (sortStage_eq_ok_iff_of_ranks hranks hsort fun _ _ _ => trivial).mpr
    ⟨fun c _ => ⟨values, hvalues c.environment⟩, ?_⟩
  exact (Sorting.sorts_byInsertion fun _ _ => trivial).eq (.of_ranks hranks) (fun _ _ => trivial)
    (.of_pairwise fun _ => hstays)

/-! ### The outcome -/

/-- Constant keys add nothing to what the check of the calls finds. -/
theorem checkQuery_constantKeys (hsort : query.sort = []) {keys : List SortKey}
    (hkeys : ∀ key ∈ keys, IsConstant functions key.expression) :
    checkQuery functions { query with sort := keys } = checkQuery functions query := by
  have hconstants : ∀ e ∈ keys.map SortKey.expression, IsConstant functions e :=
    List.forall_mem_map.mpr hkeys
  unfold checkQuery expressions
  rw [checkAllCalls_append hconstants, hsort, List.map_nil, List.append_nil]

/-- **Constant keys change nothing** over notes in the strict order of their paths. -/
theorem execute_constantKeys_of_pairwise (hsort : query.sort = []) {keys : List SortKey}
    (hkeys : ∀ key ∈ keys, IsConstant functions key.expression)
    (hnotes : notes.Pairwise fun a b => compare a.path b.path = .lt) :
    execute functions { query with sort := keys } notes = execute functions query notes := by
  have hfilter : filterStage functions { query with sort := keys }
      (candidates { query with sort := keys } notes) =
      filterStage functions query (candidates query notes) := rfl
  rw [execute, execute, checkQuery_constantKeys hsort hkeys, hfilter]
  refine congrArg (checkQuery functions query >>= ·) (funext fun _ => ?_)
  cases hstage : filterStage functions query (candidates query notes) with
  | error e =>
    dsimp only [bind, Except.bind]
  | ok filtered =>
    obtain ⟨-, hkept, -⟩ := filterStage_eq_ok_iff.mp hstage
    have hplaces : filtered.1.Pairwise fun c d => placeOrder c d = .lt :=
      hkept ▸ (pairwise_placeOrder query hnotes).sublist List.filter_sublist
    have hsorted : sortStage functions { query with sort := keys } filtered.1 =
        sortStage functions query filtered.1 :=
      (sortStage_of_isConstant hkeys hplaces).trans (sortStage_of_nil hsort _).symm
    dsimp only [bind, Except.bind]
    rw [hsorted]
    rfl

end Execution

namespace Engine

theorem bounded_sublist (engine : Engine) (collection : Collection) :
    (engine.bounded collection).Sublist collection.notes := by
  unfold bounded
  split
  · exact List.take_sublist ..
  · exact .refl _

/-- **A query without sort keys has the same outcome with constant ones**, over notes with paths of
their own: the same rows, the same records of what is skipped and the same links, or the same
failure. -/
theorem execute_constantKeys (engine : Engine) {query : Query} (hsort : query.sort = [])
    {keys : List SortKey} (hkeys : ∀ key ∈ keys, IsConstant engine.functions key.expression)
    {collection : Collection} (hpaths : (collection.notes.map Note.path).Nodup) :
    engine.execute { query with sort := keys } collection = engine.execute query collection :=
  Execution.execute_constantKeys_of_pairwise hsort hkeys
    ((Collection.pairwise_path_lt hpaths).sublist (engine.bounded_sublist collection))

/-- The first two of three tasks are the same ones under `SORT null ASC, length("key") DESC`. -/
theorem execute_constantKeys_threeTasks :
    let engine := ofConfiguration {}
    let a := Note.ofBody "a.md" "- [ ] one\n- [ ] two"
    let b := Note.ofBody "b.md" "- [ ] three"
    let query : Query := ⟨.task, [], none, none, [], some 2⟩
    let keys : List SortKey :=
      [⟨.literal .null, .ascending⟩, ⟨.call "length" [.literal (.string "key")], .descending⟩]
    query.sort = [] ∧ (∀ key ∈ keys, IsConstant engine.functions key.expression) ∧
      ∃ collection : Collection, collection.notes = [a, b] ∧
        (collection.notes.map Note.path).Nodup ∧
        engine.execute { query with sort := keys } collection = engine.execute query collection ∧
        (engine.execute query collection).toOption.map Execution.Result.count = some 2 := by
  intro engine a b query keys
  have hlength : IsConstant engine.functions (.call "length" [.literal (.string "key")]) := by
    have hsome : (evaluate builtins (fun _ => .absent)
        (.call "length" [.literal (.string "key")])).toOption.isSome := by decide +kernel
    obtain ⟨v, hvalue⟩ := Option.isSome_iff_exists.mp hsome
    exact isConstant_of_fieldless (by simp [Expression.parts, Expression.partsOfAll])
      (by decide +kernel) (Execution.toOption_eq_some_iff.mp hvalue)
  have hkeys : ∀ key ∈ keys, IsConstant engine.functions key.expression := by
    simpa [keys] using ⟨isConstant_literal engine.functions .null, hlength⟩
  have hpaths : ([a, b].map Note.path).Nodup := by decide +kernel
  exact ⟨rfl, hkeys, ⟨[a, b], by decide +kernel⟩, rfl, hpaths,
    execute_constantKeys engine rfl hkeys hpaths, by decide +kernel⟩

end Engine

end Notebook
