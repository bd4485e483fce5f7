import Notebook.Proofs.Evaluation.Several
import Notebook.Proofs.Execution.Candidates
import Notebook.Proofs.Sorting.Basic
import Notebook.Proofs.Value.SortOrder

/-!
# Which candidate comes first

With sort keys, a candidate **precedes** another one (`Notebook.Execution.Precedes`) when the first
key on which they differ says so, or when they differ on none and its path and its line come first.
The sort of a query compares the values of the keys, which the candidates are given beforehand; this
file says of it what it does to candidates alone
(`Notebook.Execution.sortStage_eq_ok_iff_of_ranks`), that each one it gives precedes all later ones
(`Notebook.Execution.pairwise_precedes_of_sortStage`), and that leaving out candidates before it is
leaving them out after it (`Notebook.Execution.sortStage_filter`).

All this needs that no key has not-a-number for its value, at any depth
(`Notebook.Execution.KeysOrdered`): next to that value the order is none, and sorting may break
down.
-/

namespace Notebook.Execution

open Evaluation Query

variable (functions : Registry) (query : Query)

/-! ### The values of the keys -/

/-- The values of the sort keys of a candidate. -/
def keyValues (c : Candidate) : Except Stop (List Value) :=
  evaluateAll functions c.environment (query.sort.map SortKey.expression)

/-- A candidate **has keys**: each sort key has its value. -/
def HasKeys (c : Candidate) (values : List Value) : Prop :=
  List.Forall₂ (fun key v => evaluate functions c.environment key.expression = .ok v)
    query.sort values

/-- The sort keys of a candidate are **without not-a-number**. -/
def KeysOrdered (c : Candidate) : Prop :=
  ∀ key ∈ query.sort, ∀ v, evaluate functions c.environment key.expression = .ok v → v.IsOrdered

instance (c : Candidate) : Decidable (KeysOrdered functions query c) :=
  have (key : SortKey) : Decidable (∀ v, evaluate functions c.environment key.expression = .ok v →
      v.IsOrdered) :=
    match evaluate functions c.environment key.expression with
    | .ok v => decidable_of_iff v.IsOrdered (by simp)
    | .error _ => .isTrue nofun
  inferInstanceAs (Decidable (∀ key ∈ query.sort, _))

/-- A candidate **is ranked**: its sort keys have values, and these are without not-a-number. -/
def IsRanked (c : Candidate) : Prop :=
  (∃ values, HasKeys functions query c values) ∧ KeysOrdered functions query c

/-- A candidate with the values of its sort keys; with none when they have no values. -/
def withKeys (c : Candidate) : List Value × Candidate :=
  ((keyValues functions query c).toOption.getD [], c)

/-- **The order of two candidates** of a query. -/
def order (c d : Candidate) : Ordering :=
  candidateOrder query.sort (withKeys functions query c) (withKeys functions query d)

variable {functions query} {cs : List Candidate} {c d : Candidate}

theorem keyValues_eq_ok_iff {values : List Value} :
    keyValues functions query c = .ok values ↔ HasKeys functions query c values :=
  evaluateAll_map_eq_ok_iff

/-- Each key with its value, which is without not-a-number. -/
theorem HasKeys.and_isOrdered {values : List Value} (h : HasKeys functions query c values)
    (hordered : KeysOrdered functions query c) : List.Forall₂ (fun key v =>
      evaluate functions c.environment key.expression = .ok v ∧ v.IsOrdered) query.sort values :=
  ((List.forall₂_and_left _ _).mpr ⟨hordered, h⟩).imp fun _ v h => ⟨h.2, h.1 v h.2⟩

theorem HasKeys.isOrdered {values : List Value} (h : HasKeys functions query c values)
    (hordered : KeysOrdered functions query c) : ∀ v ∈ values, v.IsOrdered :=
  have hvalues := (h.and_isOrdered hordered).flip.imp fun _ _ hkey => ⟨hkey.2, hkey.1⟩
  ((List.forall₂_and_left _ _).mp hvalues).1

theorem withKeys_of_hasKeys {values : List Value} (h : HasKeys functions query c values) :
    withKeys functions query c = (values, c) := by
  rw [withKeys, keyValues_eq_ok_iff.mpr h]
  rfl

/-- The values of the keys of several candidates: there are such when each candidate has keys. -/
theorem sortValues_eq_ok_iff {keyed : List (List Value × Candidate)} :
    sortValues functions query cs = .ok keyed ↔
      (∀ c ∈ cs, ∃ values, HasKeys functions query c values) ∧
        keyed = cs.map (withKeys functions query) := by
  induction cs generalizing keyed with
  | nil => simp [sortValues, eq_comm]
  | cons c cs ih =>
    simp only [sortValues, bind_eq_ok_iff, mapError_eq_ok_iff, evaluateAll_map_eq_ok_iff, pure,
      Except.pure, Except.ok.injEq, ih, List.forall_mem_cons, List.map_cons]
    constructor
    · rintro ⟨values, hkeys, _, ⟨hcs, rfl⟩, rfl⟩
      exact ⟨⟨⟨values, hkeys⟩, hcs⟩, by rw [withKeys_of_hasKeys hkeys]⟩
    · rintro ⟨⟨⟨values, hkeys⟩, hcs⟩, rfl⟩
      exact ⟨values, hkeys, _, ⟨hcs, rfl⟩, by rw [withKeys_of_hasKeys hkeys]⟩

/-! ### Sorting -/

/-- Without sort keys nothing is sorted. -/
theorem sortStage_of_nil (hsort : query.sort = []) (cs : List Candidate) :
    sortStage functions query cs = .ok cs := by
  rw [sortStage, hsort]
  rfl

theorem sortKeyed_eq_ok_iff {keys : List SortKey} {keyed sorted : List (List Value × Candidate)} :
    sortKeyed keys keyed = .ok sorted ↔
      Sorting.sort? (fun a b => candidateOrder keys a b == .lt) keyed = some sorted := by
  unfold sortKeyed
  split
  · next heq => rw [heq, Except.ok.injEq, Option.some.injEq]
  · next heq => simp [heq]

/-- **What sorting candidates gives** when there are sort keys. -/
theorem sortStage_eq_ok_iff {sorted : List Candidate} (hsort : query.sort ≠ []) :
    sortStage functions query cs = .ok sorted ↔
      (∀ c ∈ cs, ∃ values, HasKeys functions query c values) ∧
        ∃ keyed, Sorting.sort? (fun a b => candidateOrder query.sort a b == .lt)
          (cs.map (withKeys functions query)) = some keyed ∧ keyed.map Prod.snd = sorted := by
  unfold sortStage
  rw [if_neg (by simpa using hsort)]
  simp only [bind_eq_ok_iff, sortValues_eq_ok_iff, sortKeyed_eq_ok_iff, pure, Except.pure,
    Except.ok.injEq]
  constructor
  · rintro ⟨_, ⟨hkeys, rfl⟩, hsorted⟩
    exact ⟨hkeys, hsorted⟩
  · rintro ⟨hkeys, hsorted⟩
    exact ⟨_, ⟨hkeys, rfl⟩, hsorted⟩

theorem map_snd_withKeys (cs : List Candidate) :
    (cs.map (withKeys functions query)).map Prod.snd = cs := by
  rw [List.map_map]
  exact List.map_id _

theorem perm_sortStage {sorted : List Candidate} (h : sortStage functions query cs = .ok sorted) :
    sorted.Perm cs := by
  by_cases hsort : query.sort = []
  · rw [Except.ok.inj ((sortStage_of_nil hsort cs).symm.trans h)]
  · obtain ⟨-, keyed, hsorted, rfl⟩ := (sortStage_eq_ok_iff hsort).mp h
    have hperm := (Sorting.perm_of_sort? hsorted).map Prod.snd
    rwa [map_snd_withKeys] at hperm

/-- **Where the order ranks the candidates**, sorting gives them in this order. -/
theorem sortStage_eq_ok_iff_of_ranks {S : Candidate → Prop} {sorted : List Candidate}
    (hranks : Ranks (order functions query) S) (hsort : query.sort ≠ [])
    (hS : (∀ c ∈ cs, ∃ values, HasKeys functions query c values) → ∀ c ∈ cs, S c) :
    sortStage functions query cs = .ok sorted ↔
      (∀ c ∈ cs, ∃ values, HasKeys functions query c values) ∧
        Sorting.byInsertion (fun c d => order functions query c d == .lt) cs = sorted := by
  rw [sortStage_eq_ok_iff hsort]
  refine and_congr_right fun hkeys => ?_
  have hkeyed : Ranks (candidateOrder query.sort)
      fun p => ∃ c, S c ∧ p = withKeys functions query c :=
    hranks.of_image (withKeys functions query) (fun _ hp => hp) fun _ _ => rfl
  have hsort? : Sorting.sort? (fun a b => candidateOrder query.sort a b == .lt)
      (cs.map (withKeys functions query)) =
      some ((Sorting.byInsertion (fun c d => order functions query c d == .lt) cs).map
        (withKeys functions query)) := by
    rw [Sorting.sort?_eq_byInsertion (.of_ranks hkeyed)
      (List.forall_mem_map.mpr fun c hc => ⟨c, hS hkeys c hc, rfl⟩), Sorting.byInsertion_map]
    rfl
  rw [hsort?]
  constructor
  · rintro ⟨_, ⟨⟩, rfl⟩
    exact (map_snd_withKeys _).symm
  · rintro rfl
    exact ⟨_, rfl, map_snd_withKeys _⟩

/-! ### The order -/

theorem ranks_directed (direction : Direction) : Ranks (directed direction) Value.IsOrdered := by
  cases direction with
  | ascending => exact Value.ranks_sortOrder
  | descending => exact Value.ranks_sortOrder.backwards

/-- The order of lists of values, one for each key. -/
theorem ranks_keyOrder (keys : List SortKey) :
    Ranks (keyOrder keys) fun values =>
      values.length = keys.length ∧ ∀ v ∈ values, v.IsOrdered := by
  induction keys with
  | nil => exact .of_eq fun _ _ _ _ => rfl
  | cons key keys ih =>
    have hpairs : Ranks (fun p q : Value × List Value =>
        (directed key.direction p.1 q.1).then (keyOrder keys p.2 q.2)) fun p =>
        p.1.IsOrdered ∧ p.2.length = keys.length ∧ ∀ v ∈ p.2, v.IsOrdered :=
      .lexicographic
        ((ranks_directed key.direction).of_key Prod.fst (fun _ h => h.1) fun _ _ _ _ => rfl)
        (ih.of_key Prod.snd (fun _ h => h.2) fun _ _ _ _ => rfl)
    refine hpairs.of_image (fun p => p.1 :: p.2) ?_ fun _ _ => rfl
    rintro values ⟨hlength, hordered⟩
    match values with
    | v :: rest =>
      obtain ⟨hv, hrest⟩ := List.forall_mem_cons.mp hordered
      exact ⟨(v, rest), ⟨hv, Nat.succ.inj hlength, hrest⟩, rfl⟩

/-- **The order of the places of two candidates**: that of their paths, and in one note that of
their lines. -/
def placeOrder (c d : Candidate) : Ordering :=
  (compare c.owner.path d.owner.path).then (lineOrder c.line? d.line?)

theorem ranks_placeOrder : Ranks placeOrder fun _ => True :=
  (Ranks.of_compare fun c : Candidate => c.owner.path).lexicographic
    ((ranks_lineOrder fun _ => True).of_key (fun c : Candidate => c.line?) (fun _ h => h)
      fun _ _ _ _ => rfl)

theorem ranks_candidateOrder (keys : List SortKey) : Ranks (candidateOrder keys) fun p =>
    p.1.length = keys.length ∧ ∀ v ∈ p.1, v.IsOrdered :=
  ((ranks_keyOrder keys).of_key Prod.fst (fun _ h => h) fun _ _ _ _ => rfl).lexicographic
    (ranks_placeOrder.of_key Prod.snd (fun _ _ => trivial) fun _ _ _ _ => rfl)

/-- **The order ranks the candidates** whose keys have values without not-a-number. -/
theorem ranks_order : Ranks (order functions query) (IsRanked functions query) := by
  refine (ranks_candidateOrder query.sort).of_key (withKeys functions query) ?_ fun _ _ _ _ => rfl
  rintro c ⟨⟨values, hkeys⟩, hordered⟩
  rw [withKeys_of_hasKeys hkeys]
  exact ⟨hkeys.length_eq.symm, hkeys.isOrdered hordered⟩

/-! ### Precedence -/

/-- Two candidates are **the same at a key**: its two values are equal to the order of sorting. -/
def SameAt (functions : Registry) (key : SortKey) (c d : Candidate) : Prop :=
  ∃ v w, evaluate functions c.environment key.expression = .ok v ∧
    evaluate functions d.environment key.expression = .ok w ∧ v.sortOrder w = .eq

/-- A candidate is **before another one at a key**: its value is the smaller one where the key is
ascending, and the greater one where it is descending. -/
def BeforeAt (functions : Registry) (key : SortKey) (c d : Candidate) : Prop :=
  ∃ v w, evaluate functions c.environment key.expression = .ok v ∧
    evaluate functions d.environment key.expression = .ok w ∧
    v.sortOrder w = match key.direction with
      | .ascending => .lt
      | .descending => .gt

/-- A candidate is **placed before or with another one**: by the paths of their notes, and in one
note by their lines. -/
def PlacedFirst (c d : Candidate) : Prop :=
  c.owner.path < d.owner.path ∨
    c.owner.path = d.owner.path ∧ (lineOrder c.line? d.line?).isLE = true

/-- A candidate **precedes** another one under sort keys. -/
inductive Precedes (functions : Registry) (keys : List SortKey) (c d : Candidate) : Prop
  /-- The first key at which they are not the same decides. -/
  | decided (before : List SortKey) (key : SortKey) (after : List SortKey)
    (hsplit : keys = before ++ key :: after) (hsame : ∀ k ∈ before, SameAt functions k c d)
    (hbefore : BeforeAt functions key c d)
  /-- They are the same at all keys, and their places decide. -/
  | tied (hsame : ∀ key ∈ keys, SameAt functions key c d) (hplace : PlacedFirst c d)

theorem Precedes.cons {key : SortKey} {keys : List SortKey} (hkey : SameAt functions key c d)
    (h : Precedes functions keys c d) : Precedes functions (key :: keys) c d := by
  cases h with
  | decided before key' after hsplit hsame hbefore =>
    exact .decided (key :: before) key' after (by rw [hsplit, List.cons_append])
      (List.forall_mem_cons.mpr ⟨hkey, hsame⟩) hbefore
  | tied hsame hplace => exact .tied (List.forall_mem_cons.mpr ⟨hkey, hsame⟩) hplace

theorem placedFirst_of_isLE (h : (placeOrder c d).isLE = true) : PlacedFirst c d := by
  obtain ⟨hpath, hline⟩ := Ordering.isLE_then_iff_and.mp h
  cases hcompare : compare c.owner.path d.owner.path with
  | lt => exact .inl (compareOfLessAndEq_eq_lt.mp hcompare)
  | eq =>
    rw [hcompare] at hline
    exact .inr ⟨Std.LawfulEqOrd.eq_of_compare hcompare, hline.resolve_left nofun⟩
  | gt =>
    rw [hcompare] at hpath
    cases hpath

/-- One key settles two candidates or leaves them to the next one. -/
theorem before_or_same {key : SortKey} {v w : Value}
    (hv : evaluate functions c.environment key.expression = .ok v)
    (hw : evaluate functions d.environment key.expression = .ok w) (hvo : v.IsOrdered)
    (hwo : w.IsOrdered) (h : (directed key.direction v w).isLE = true) :
    BeforeAt functions key c d ∨ (directed key.direction v w = .eq ∧ SameAt functions key c d) := by
  have hswap : w.sortOrder v = (v.sortOrder w).swap := Value.ranks_sortOrder.swap hvo hwo
  cases hdirection : key.direction with
  | ascending =>
    rw [hdirection, directed] at h
    cases hcmp : v.sortOrder w with
    | lt => exact .inl ⟨v, w, hv, hw, by rw [hcmp, hdirection]⟩
    | eq => exact .inr ⟨hcmp, v, w, hv, hw, hcmp⟩
    | gt => simp [hcmp] at h
  | descending =>
    rw [hdirection, directed, hswap] at h
    cases hcmp : v.sortOrder w with
    | lt => simp [hcmp] at h
    | eq => exact .inr ⟨by rw [directed, hswap, hcmp]; rfl, v, w, hv, hw, hcmp⟩
    | gt => exact .inl ⟨v, w, hv, hw, by rw [hcmp, hdirection]⟩

theorem precedes_of_isLE {keys : List SortKey} {vs ws : List Value} {place : Ordering}
    (hplace : place.isLE = true → PlacedFirst c d)
    (hvs : List.Forall₂ (fun key v =>
      evaluate functions c.environment key.expression = .ok v ∧ v.IsOrdered) keys vs)
    (hws : List.Forall₂ (fun key w =>
      evaluate functions d.environment key.expression = .ok w ∧ w.IsOrdered) keys ws)
    (h : ((keyOrder keys vs ws).then place).isLE = true) : Precedes functions keys c d := by
  induction hvs generalizing ws with
  | nil =>
    cases hws
    exact .tied (by simp) (hplace h)
  | @cons key v keys vs hv hvs ih =>
    obtain _ | ⟨hw, hws⟩ := hws
    rw [keyOrder, Ordering.then_assoc] at h
    obtain ⟨hkey, hrest⟩ := Ordering.isLE_then_iff_and.mp h
    rcases before_or_same hv.1 hw.1 hv.2 hw.2 hkey with hbefore | ⟨heq, hsame⟩
    · exact .decided [] key keys rfl (by simp) hbefore
    · rw [heq] at hrest
      exact (ih hws (hrest.resolve_left nofun)).cons hsame

/-- **What comes first in the order precedes.** -/
theorem precedes_of_order {vs ws : List Value} (hvs : HasKeys functions query c vs)
    (hws : HasKeys functions query d ws) (hc : KeysOrdered functions query c)
    (hd : KeysOrdered functions query d) (h : (order functions query c d).isLE = true) :
    Precedes functions query.sort c d := by
  rw [order, withKeys_of_hasKeys hvs, withKeys_of_hasKeys hws] at h
  exact precedes_of_isLE placedFirst_of_isLE (hvs.and_isOrdered hc) (hws.and_isOrdered hd) h

/-! ### What comes out sorted -/

section

variable {sorted : List Candidate} (hsort : query.sort ≠ [])
  (hordered : ∀ c ∈ cs, KeysOrdered functions query c)

include hsort hordered

/-- **Without not-a-number among the keys**, sorting gives the candidates in their order. -/
theorem sortStage_eq_ok_iff_of_keysOrdered : sortStage functions query cs = .ok sorted ↔
    (∀ c ∈ cs, IsRanked functions query c) ∧
      Sorting.byInsertion (fun c d => order functions query c d == .lt) cs = sorted := by
  rw [sortStage_eq_ok_iff_of_ranks ranks_order hsort
    fun hkeys c hc => ⟨hkeys c hc, hordered c hc⟩]
  exact and_congr_left fun _ => ⟨fun hkeys c hc => ⟨hkeys c hc, hordered c hc⟩,
    fun hranked c hc => (hranked c hc).1⟩

/-- **Sorted candidates precede all later ones.** -/
theorem pairwise_precedes_of_sortStage (h : sortStage functions query cs = .ok sorted) :
    sorted.Pairwise (Precedes functions query.sort) := by
  have hmem : ∀ c ∈ sorted, c ∈ cs := fun c hc => (perm_sortStage h).mem_iff.mp hc
  obtain ⟨hranked, rfl⟩ := (sortStage_eq_ok_iff_of_keysOrdered hsort hordered).mp h
  have hpairwise := (Sorting.sorts_byInsertion hranked).pairwise (.of_ranks ranks_order)
  refine hpairwise.imp_of_mem fun {c d} hc hd hnot => ?_
  have hc := hranked c (hmem c hc)
  have hd := hranked d (hmem d hd)
  have hle : (order functions query c d).isLE = true :=
    ranks_order.isLE_of_ne_lt hd hc (beq_eq_false_iff_ne.mp hnot)
  obtain ⟨⟨vs, hvs⟩, hcordered⟩ := hc
  obtain ⟨⟨ws, hws⟩, hdordered⟩ := hd
  exact precedes_of_order hvs hws hcordered hdordered hle

end

/-- **Leaving out candidates does not disturb their order.** -/
theorem sortStage_filter {sorted : List Candidate} (p : Candidate → Bool)
    (hordered : ∀ c ∈ cs, KeysOrdered functions query c)
    (h : sortStage functions query cs = .ok sorted) :
    sortStage functions query (cs.filter p) = .ok (sorted.filter p) := by
  by_cases hsort : query.sort = []
  · rw [sortStage_of_nil hsort, Except.ok.inj ((sortStage_of_nil hsort cs).symm.trans h)]
  · obtain ⟨hranked, rfl⟩ := (sortStage_eq_ok_iff_of_keysOrdered hsort hordered).mp h
    have hfewer : ∀ c ∈ cs.filter p, IsRanked functions query c := fun c hc =>
      hranked c (List.mem_filter.mp hc).1
    refine (sortStage_eq_ok_iff_of_keysOrdered hsort fun c hc => (hfewer c hc).2).mpr ⟨hfewer, ?_⟩
    exact (Sorting.sorts_byInsertion hfewer).eq (.of_ranks ranks_order) hfewer
      ((Sorting.sorts_byInsertion hranked).filter p)

end Notebook.Execution
