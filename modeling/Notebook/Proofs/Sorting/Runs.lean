import Notebook.Proofs.Sorting.Halves
import Notebook.Sorting.Runs

/-!
# What sorting by runs gives

A run stands for the items that it was taken from: it has them sorted, or as they came
(`Notebook.Sorting.Run.StandsFor`). The runs of a list stand for it part by part
(`Notebook.Sorting.StandFor`), joining two of them is one that stands for both parts, and the runs
that wait to be joined stand for what comes before (`Notebook.Sorting.WaitFor`). So whatever the
tree is along which they are joined, the last run stands for the whole list
(`Notebook.Sorting.delivers_byRuns?`).
-/

namespace Notebook.Sorting

variable {α : Type} {less : α → α → Bool} {S : α → Prop} {items left right xs ys : List α}

/-! ### Runs and what they stand for -/

/-- A run **stands for** items. -/
structure Run.StandsFor (less : α → α → Bool) (S : α → Prop) (items : List α) (run : Run α) :
    Prop where
  /-- A sorted run has them sorted. -/
  sorts : run.sorted = true → Sorts less S items run.items
  /-- Another one has them as they came. -/
  eq : run.sorted = false → run.items = items

theorem Run.StandsFor.of_sorts (h : Sorts less S items xs) : StandsFor less S items ⟨xs, true⟩ :=
  ⟨fun _ => h, nofun⟩

/-- Runs **stand for** items part by part. -/
inductive StandFor (less : α → α → Bool) (S : α → Prop) : List (Run α) → List α → Prop
  /-- No runs stand for no items. -/
  | nil : StandFor less S [] []
  /-- The first run stands for some items, and the other ones for the rest. -/
  | cons {run : Run α} {runs : List (Run α)} {part rest : List α}
    (hrun : run.StandsFor less S part) (hruns : StandFor less S runs rest) :
    StandFor less S (run :: runs) (part ++ rest)

/-- Runs that wait, the last one of which comes first, **stand for** items part by part. -/
inductive WaitFor (less : α → α → Bool) (S : α → Prop) : List (Run α × Nat) → List α → Prop
  /-- No runs stand for no items. -/
  | nil : WaitFor less S [] []
  /-- The last run stands for the last items, and the other ones for those before. -/
  | cons {run : Run α} {border : Nat} {runs : List (Run α × Nat)} {before part : List α}
    (hruns : WaitFor less S runs before) (hrun : run.StandsFor less S part) :
    WaitFor less S ((run, border) :: runs) (before ++ part)

/-! ### Finding runs -/

/-- Each item of a chain goes on from all before it, not only from the last one. -/
theorem pairwise_splitChain {goesOn : α → α → Bool} {x : α} {ys : List α}
    (htrans : ∀ {x y z}, S x → S y → S z → goesOn x y = true → goesOn y z = true →
      goesOn x z = true)
    (hS : ∀ z ∈ x :: ys, S z) :
    (x :: (splitChain goesOn x ys).1).Pairwise fun y z => goesOn y z = true := by
  induction ys generalizing x with
  | nil => exact List.pairwise_singleton ..
  | cons y ys ih =>
    obtain ⟨hx, hys⟩ := List.forall_mem_cons.mp hS
    unfold splitChain
    split
    · next hxy =>
      have hchain := ih hys
      have hmem : ∀ z ∈ (splitChain goesOn y ys).1, z ∈ ys := fun z hz =>
        splitChain_append goesOn y ys ▸ List.mem_append_left _ hz
      refine List.pairwise_cons.mpr ⟨List.forall_mem_cons.mpr ⟨hxy, fun z hz => ?_⟩, hchain⟩
      exact htrans hx (hys y (List.mem_cons_self ..)) (hys z (List.mem_cons_of_mem _ (hmem z hz)))
        hxy ((List.pairwise_cons.mp hchain).1 z hz)
    · exact List.pairwise_singleton ..

/-- **The items at the start that go up or down** are sorted. -/
theorem exists_sorts_splitRun (hS : ∀ x ∈ items, S x) :
    ∃ part, items = part ++ (splitRun less items).2 ∧
      Sorts less S part (splitRun less items).1 := by
  unfold splitRun
  split
  · next x y ys =>
    split
    · have hsplit := splitChain_append (fun a b => less b a) x (y :: ys)
      refine ⟨x :: (splitChain (fun a b => less b a) x (y :: ys)).1, ?_, ?_⟩
      · rw [List.cons_append, hsplit]
      · refine .of_descending (fun z hz => hS z ?_) fun horders => ?_
        · rw [← hsplit, ← List.cons_append]
          exact List.mem_append_left _ hz
        · refine pairwise_splitChain (fun {a b c} ha hb hc hab hbc => ?_) hS
          exact horders.less_of_less_of_not_less hc hb ha hbc (horders.asymm hb ha hab)
    · have hsplit := splitChain_append (fun a b => !less b a) x (y :: ys)
      refine ⟨x :: (splitChain (fun a b => !less b a) x (y :: ys)).1, ?_, ?_⟩
      · rw [List.cons_append, hsplit]
      · refine .of_pairwise fun horders => ?_
        have hchain : (x :: (splitChain (fun a b => !less b a) x (y :: ys)).1).Pairwise
            fun a b => (!less b a) = true :=
          pairwise_splitChain (fun ha hb hc hab hbc => by
            simpa using horders.trans ha hb hc (by simpa using hab) (by simpa using hbc)) hS
        simpa using hchain
  · next hshort =>
    refine ⟨items, (List.append_nil items).symm, .of_pairwise fun _ => ?_⟩
    match items, hshort with
    | [], _ => exact .nil
    | [x], _ => exact List.pairwise_singleton ..
    | x :: y :: ys, hshort => exact (hshort x y ys rfl).elim

/-- **The first run** stands for the items that it leaves the rest of. -/
theorem delivers_firstRun? (good : Nat) (eager : Bool) (hS : ∀ x ∈ items, S x) :
    Delivers (Orders less S) (firstRun? less good eager items) fun found =>
      ∃ part, items = part ++ found.2 ∧ found.1.StandsFor less S part := by
  obtain ⟨part, hpart, hsorts⟩ : ∃ part, items = part ++ (splitRun less items).2 ∧
      Sorts less S part (splitRun less items).1 := exists_sorts_splitRun hS
  unfold firstRun?
  dsimp only
  split
  · exact .some ⟨part, hpart, .of_sorts hsorts⟩
  · split
    · refine (delivers_byHalves? fun x hx => hS x (List.mem_of_mem_take hx)).map fun sorted h => ?_
      exact ⟨_, (List.take_append_drop 32 items).symm, .of_sorts h⟩
    · exact .some ⟨_, (List.take_append_drop good items).symm, nofun, fun _ => rfl⟩

/-- **The runs of a list** stand for it. -/
theorem delivers_runs? {good : Nat} (hgood : 0 < good) (eager : Bool) (hS : ∀ x ∈ items, S x) :
    Delivers (Orders less S) (runs? less good hgood eager items) (StandFor less S · items) := by
  fun_induction runs? less good hgood eager items with
  | case1 => exact .some .nil
  | case2 x xs hnone =>
    exact ⟨nofun, fun horders => nomatch hnone ▸ (delivers_firstRun? good eager hS).isSome horders⟩
  | case3 x xs run rest hfirst ih =>
    obtain ⟨part, hpart, hrun⟩ := (delivers_firstRun? good eager hS).good hfirst
    rw [hpart] at hS ⊢
    exact (ih (List.forall_mem_append.mp hS).2).map fun runs hruns => .cons hrun hruns

/-! ### Joining runs -/

/-- **Merging**, whichever list is the longer one. -/
theorem sorts_mergeSorted (hS : ∀ x ∈ left ++ right, S x) (hxs : Sorts less S left xs)
    (hys : Sorts less S right ys) : Sorts less S (left ++ right) (mergeSorted less xs ys) := by
  unfold mergeSorted
  split
  · exact hxs.merge hS hys
  · exact hxs.mergeBackwards hS hys

section

variable {later : List α → Option (List α)}
  (hlater : ∀ items, (∀ x ∈ items, S x) →
    Delivers (Orders less S) (later items) (Sorts less S items))

include hlater

/-- A run has the items that it stands for sorted, at once or later. -/
theorem Run.StandsFor.delivers_settle? {run : Run α} (h : run.StandsFor less S items)
    (hS : ∀ x ∈ items, S x) :
    Delivers (Orders less S) (run.settle? later) (Sorts less S items) := by
  unfold Run.settle?
  split
  · next hsorted => exact .some (h.sorts hsorted)
  · next hsorted => exact h.eq (Bool.eq_false_iff.mpr hsorted) ▸ hlater items hS

/-- **Two runs as one** stand for the items of both. -/
theorem delivers_joinRuns? (room : Nat) {first second : Run α} (hS : ∀ x ∈ left ++ right, S x)
    (hfirst : first.StandsFor less S left) (hsecond : second.StandsFor less S right) :
    Delivers (Orders less S) (joinRuns? less later room first second)
      (Run.StandsFor less S (left ++ right)) := by
  obtain ⟨hleft, hright⟩ := List.forall_mem_append.mp hS
  unfold joinRuns?
  split
  · refine (hfirst.delivers_settle? hlater hleft).bind fun xs hxs => ?_
    refine (hsecond.delivers_settle? hlater hright).bind fun ys hys => ?_
    exact .some (.of_sorts (sorts_mergeSorted hS hxs hys))
  · next hroom =>
    have hunsorted : first.sorted = false ∧ second.sorted = false := by simpa using hroom ∘ .inr
    refine .some ⟨nofun, fun _ => ?_⟩
    exact congrArg₂ (· ++ ·) (hfirst.eq hunsorted.1) (hsecond.eq hunsorted.2)

end

section

variable {join : Run α → Run α → Option (Run α)}
  (hjoin : ∀ {first second : Run α} {left right : List α}, (∀ x ∈ left ++ right, S x) →
    first.StandsFor less S left → second.StandsFor less S right →
    Delivers (Orders less S) (join first second) (Run.StandsFor less S (left ++ right)))

include hjoin

/-- **A run is joined with those before it** that wait at borders deep enough; at depth zero these
are all of them. -/
theorem delivers_joinDeeper? (depth : Nat) {waiting : List (Run α × Nat)} {run : Run α}
    {before part : List α} (hS : ∀ x ∈ before ++ part, S x)
    (hwaiting : WaitFor less S waiting before) (hrun : run.StandsFor less S part) :
    Delivers (Orders less S) (joinDeeper? join depth waiting run) fun joined =>
      ∃ before' part', before ++ part = before' ++ part' ∧ WaitFor less S joined.1 before' ∧
        joined.2.StandsFor less S part' ∧ (depth = 0 → joined.1 = []) := by
  induction hwaiting generalizing run part with
  | nil => exact .some ⟨[], part, rfl, .nil, hrun, fun _ => rfl⟩
  | @cons left border waiting before part' hwaiting hleft ih =>
    unfold joinDeeper?
    split
    · rw [List.append_assoc] at hS ⊢
      exact (hjoin (List.forall_mem_append.mp hS).2 hleft hrun).bind fun joined hjoined =>
        ih hS hjoined
    · next hborder =>
      exact .some ⟨_, part, rfl, hwaiting.cons hleft, hrun, fun hdepth => by omega⟩

/-- **All runs are joined**: those that wait, one more, and those after it. -/
theorem delivers_joinAll? (total start : Nat) {waiting : List (Run α × Nat)} {run : Run α}
    {after : List (Run α)} {before part rest : List α} (hS : ∀ x ∈ before ++ part ++ rest, S x)
    (hwaiting : WaitFor less S waiting before) (hrun : run.StandsFor less S part)
    (hafter : StandFor less S after rest) :
    Delivers (Orders less S) (joinAll? join total waiting start run after)
      (Run.StandsFor less S (before ++ part ++ rest)) := by
  induction hafter generalizing waiting start run before part with
  | nil =>
    rw [List.append_nil] at hS ⊢
    refine (delivers_joinDeeper? hjoin 0 hS hwaiting hrun).map fun joined h => ?_
    obtain ⟨before', part', hsplit, hwaiting', hjoined, hnone⟩ := h
    rw [hnone rfl] at hwaiting'
    cases hwaiting'
    exact hsplit ▸ hjoined
  | @cons next after part' rest hnext hafter ih =>
    obtain ⟨hbefore, -⟩ := List.forall_mem_append.mp hS
    refine (delivers_joinDeeper? hjoin _ hbefore hwaiting hrun).bind fun joined h => ?_
    obtain ⟨before', part'', hsplit, hwaiting', hjoined, -⟩ := h
    rw [hsplit, ← List.append_assoc] at hS ⊢
    exact ih _ hS (hwaiting'.cons hjoined) hnext

end

/-- **Sorting by runs** delivers the items sorted, if those that are sorted later are. -/
theorem delivers_byRuns? {later : List α → Option (List α)} (eager : Bool)
    (hlater : ∀ items, (∀ x ∈ items, S x) →
      Delivers (Orders less S) (later items) (Sorts less S items))
    (hS : ∀ x ∈ items, S x) :
    Delivers (Orders less S) (byRuns? less later eager items) (Sorts less S items) := by
  unfold byRuns?
  refine (delivers_runs? (goodLength_pos items.length) eager hS).bind fun runs hruns => ?_
  cases hruns with
  | nil => exact .some (.of_pairwise fun _ => .nil)
  | cons hrun hafter =>
    refine (delivers_joinAll? (delivers_joinRuns? hlater _) _ 0 hS .nil hrun hafter).bind ?_
    exact fun run hrun => hrun.delivers_settle? hlater hS

end Notebook.Sorting
