import Mathlib.Data.List.Basic
import Mathlib.Tactic.ByContra
import Notebook.Proofs.Order.Ranking

/-!
# Sorted lists

What it is to sort does not depend on how it is done: the items stay the same ones, none of them is
less than one before it, and those that are tied keep their order (`Notebook.Sorting.Sorts`). The
last two are asked only of a comparison that orders the items (`Notebook.Sorting.Orders`), as with
another one there may be no such list. Where the comparison does order them there is one such list
and no other (`Notebook.Sorting.Sorts.eq`), so that all ways to sort agree.

The rest of this file has the ways in which sorted lists are made of others: turned around, merged,
put one after the other, thinned out. At its end is what is said of a step that may have no outcome
(`Notebook.Sorting.Delivers`).
-/

namespace Notebook.Sorting

variable {α : Type}

/-! ### Comparisons that order -/

/-- A comparison **orders** the things with a property: it is asymmetric there, and what is not less
than a thing is not less than anything that the thing is not less than. -/
structure Orders (less : α → α → Bool) (S : α → Prop) : Prop where
  /-- Two things are not less than each other. -/
  asymm : ∀ {x y}, S x → S y → less x y = true → less y x = false
  /-- The relation “not less” is transitive. -/
  trans : ∀ {x y z}, S x → S y → S z → less y x = false → less z y = false → less z x = false

/-- Whether two things are **tied**: neither of them is less than the other. -/
def tied (less : α → α → Bool) (x y : α) : Bool := !less x y && !less y x

theorem tied_iff {less : α → α → Bool} {x y : α} :
    tied less x y = true ↔ less x y = false ∧ less y x = false := by
  simp [tied]

namespace Orders

variable {less : α → α → Bool} {S : α → Prop} {x y z : α}

/-- What ranks things orders them. -/
theorem of_ranks {cmp : α → α → Ordering} (h : Ranks cmp S) :
    Orders (fun x y => cmp x y == .lt) S where
  asymm {x y} hx hy hlt := by
    rw [h.swap hx hy, beq_iff_eq.mp hlt]
    rfl
  trans {x y z} hx hy hz hyx hzy := by
    have hle : (cmp x z).isLE = true :=
      h.trans hx hy hz (h.isLE_of_ne_lt hy hx (beq_eq_false_iff_ne.mp hyx))
        (h.isLE_of_ne_lt hz hy (beq_eq_false_iff_ne.mp hzy))
    rw [h.swap hx hz]
    cases hcmp : cmp x z with
    | lt => rfl
    | eq => rfl
    | gt => simp [hcmp] at hle

theorem irrefl (h : Orders less S) (hx : S x) : less x x = false := by
  cases hxx : less x x with
  | false => rfl
  | true => exact hxx.symm.trans (h.asymm hx hx hxx)

/-- Backwards. -/
theorem backwards (h : Orders less S) : Orders (fun x y => less y x) S where
  asymm hx hy hless := h.asymm hy hx hless
  trans hx hy hz hxy hyz := h.trans hz hy hx hyz hxy

theorem less_of_less_of_not_less (h : Orders less S) (hx : S x) (hy : S y) (hz : S z)
    (hxy : less x y = true) (hzy : less z y = false) : less x z = true := by
  by_contra hxz
  exact absurd hxy (Bool.eq_false_iff.mp (h.trans hy hz hx hzy (Bool.eq_false_iff.mpr hxz)))

theorem less_of_not_less_of_less (h : Orders less S) (hx : S x) (hy : S y) (hz : S z)
    (hyx : less y x = false) (hyz : less y z = true) : less x z = true := by
  by_contra hxz
  exact absurd hyz (Bool.eq_false_iff.mp (h.trans hz hx hy (Bool.eq_false_iff.mpr hxz) hyx))

/-- Two things that are tied with a third one are not less than each other. -/
theorem not_less_of_tied (h : Orders less S) (hx : S x) (hy : S y) (hz : S z)
    (hzx : tied less z x = true) (hzy : tied less z y = true) : less x y = false :=
  h.trans hy hz hx (tied_iff.mp hzy).1 (tied_iff.mp hzx).2

end Orders

/-! ### Sorted lists -/

/-- A list has **the items of another one sorted**. -/
structure Sorts (less : α → α → Bool) (S : α → Prop) (items sorted : List α) : Prop where
  /-- The items are the same ones, whatever the comparison is. -/
  perm : sorted.Perm items
  /-- None is less than one before it. -/
  pairwise : Orders less S → sorted.Pairwise fun x y => less y x = false
  /-- Those that are tied with each other come as they came. -/
  stable : Orders less S → ∀ z, S z → sorted.filter (tied less z) = items.filter (tied less z)

variable {less : α → α → Bool} {S : α → Prop} {items sorted left right xs ys : List α}

/-- **There is one sorted list only.** -/
theorem eq_of_pairwise (h : Orders less S) (hS : ∀ x ∈ xs, S x) (hperm : xs.Perm ys)
    (hxs : xs.Pairwise fun x y => less y x = false) (hys : ys.Pairwise fun x y => less y x = false)
    (hstable : ∀ z, S z → xs.filter (tied less z) = ys.filter (tied less z)) : xs = ys := by
  induction xs generalizing ys with
  | nil => exact hperm.nil_eq
  | cons x xs ih =>
    match ys with
    | [] => exact absurd hperm.length_eq (by simp)
    | y :: ys =>
      obtain ⟨hx, hrest⟩ := List.forall_mem_cons.mp hS
      obtain ⟨hxfirst, hxs'⟩ := List.pairwise_cons.mp hxs
      obtain ⟨hyfirst, hys'⟩ := List.pairwise_cons.mp hys
      have hyx : less y x = false := by
        rcases List.mem_cons.mp (hperm.mem_iff.mpr (List.mem_cons_self ..)) with rfl | hy
        · exact h.irrefl hx
        · exact hxfirst y hy
      have hxy : less x y = false := by
        rcases List.mem_cons.mp (hperm.mem_iff.mp (List.mem_cons_self ..)) with rfl | hx'
        · exact h.irrefl hx
        · exact hyfirst x hx'
      -- both lists begin with an item that is tied with `x`, and these come in one order
      have hheads := hstable x hx
      rw [List.filter_cons_of_pos (tied_iff.mpr ⟨h.irrefl hx, h.irrefl hx⟩),
        List.filter_cons_of_pos (tied_iff.mpr ⟨hxy, hyx⟩)] at hheads
      obtain rfl := (List.cons.inj hheads).1
      refine congrArg (x :: ·) (ih hrest hperm.cons_inv hxs' hys' fun z hz => ?_)
      have hfilter := hstable z hz
      rw [List.filter_cons, List.filter_cons] at hfilter
      split at hfilter
      · exact (List.cons.inj hfilter).2
      · exact hfilter

/-- Items that agree on a property are all on one of its sides. -/
theorem filter_append_filter_not {p : α → Bool}
    (h : ∀ x ∈ items, ∀ y ∈ items, p x = true → p y = true) :
    items.filter p ++ items.filter (!p ·) = items := by
  by_cases hany : ∃ x ∈ items, p x = true
  · obtain ⟨x, hx, hpx⟩ := hany
    have hall : ∀ y ∈ items, p y = true := fun y hy => h x hx y hy hpx
    rw [List.filter_eq_self.mpr hall, List.filter_eq_nil_iff.mpr (by simpa using hall),
      List.append_nil]
  · have hnone : ∀ y ∈ items, ¬p y = true := fun y hy hpy => hany ⟨y, hy, hpy⟩
    rw [List.filter_eq_nil_iff.mpr hnone, List.filter_eq_self.mpr (by simpa using hnone),
      List.nil_append]

namespace Sorts

theorem mem_iff (h : Sorts less S items sorted) {x : α} : x ∈ sorted ↔ x ∈ items := h.perm.mem_iff

/-- **All ways to sort agree.** -/
theorem eq (horders : Orders less S) (hS : ∀ x ∈ items, S x) (hxs : Sorts less S items xs)
    (hys : Sorts less S items ys) : xs = ys :=
  eq_of_pairwise horders (fun x hx => hS x (hxs.mem_iff.mp hx)) (hxs.perm.trans hys.perm.symm)
    (hxs.pairwise horders) (hys.pairwise horders) fun z hz =>
      (hxs.stable horders z hz).trans (hys.stable horders z hz).symm

/-- It is enough to look at a comparison that orders, once the items are known to stay. -/
theorem of_perm (hperm : sorted.Perm items) (h : Orders less S → Sorts less S items sorted) :
    Sorts less S items sorted :=
  ⟨hperm, fun horders => (h horders).pairwise horders, fun horders => (h horders).stable horders⟩

/-- Items in order are sorted as they are. -/
theorem of_pairwise (h : Orders less S → items.Pairwise fun x y => less y x = false) :
    Sorts less S items items :=
  ⟨.refl _, h, fun _ _ _ => rfl⟩

/-- Items each of which is less than all before it are sorted backwards. -/
theorem of_descending (hS : ∀ x ∈ items, S x)
    (h : Orders less S → items.Pairwise fun x y => less y x = true) :
    Sorts less S items items.reverse where
  perm := List.reverse_perm items
  pairwise horders := by
    refine List.pairwise_reverse.mpr ((h horders).imp_of_mem fun hx hy hless => ?_)
    exact horders.asymm (hS _ hy) (hS _ hx) hless
  stable horders z hz := by
    -- no two of the items are tied with the same one
    have hpairwise := (h horders).filter (tied less z)
    rw [List.filter_reverse]
    match hfilter : items.filter (tied less z), hpairwise with
    | [], _ => rfl
    | [_], _ => rfl
    | x :: y :: rest, hpairwise =>
      have hxmem : x ∈ items.filter (tied less z) := by simp [hfilter]
      have hymem : y ∈ items.filter (tied less z) := by simp [hfilter]
      obtain ⟨hx, hzx⟩ := List.mem_filter.mp hxmem
      obtain ⟨hy, hzy⟩ := List.mem_filter.mp hymem
      have hless : less y x = true := (List.pairwise_cons.mp hpairwise).1 y (List.mem_cons_self ..)
      cases hless.symm.trans (horders.not_less_of_tied (hS y hy) (hS x hx) hz hzy hzx)

/-- Sorting twice is sorting. -/
theorem trans (hxs : Sorts less S items xs) (hys : Sorts less S xs ys) : Sorts less S items ys where
  perm := hys.perm.trans hxs.perm
  pairwise := hys.pairwise
  stable horders z hz := (hys.stable horders z hz).trans (hxs.stable horders z hz)

/-- **Turned around**, a list is sorted backwards. -/
theorem reverse (h : Sorts less S items sorted) :
    Sorts (fun x y => less y x) S items.reverse sorted.reverse where
  perm := (List.reverse_perm sorted).trans (h.perm.trans (List.reverse_perm items).symm)
  pairwise horders := List.pairwise_reverse.mpr (h.pairwise horders.backwards)
  stable horders z hz := by
    have htied : tied (fun x y => less y x) z = tied less z := funext fun x => Bool.and_comm ..
    rw [htied, List.filter_reverse, List.filter_reverse, h.stable horders.backwards z hz]

/-- **Leaving out items** does not disturb their order. -/
theorem filter (h : Sorts less S items sorted) (p : α → Bool) :
    Sorts less S (items.filter p) (sorted.filter p) where
  perm := h.perm.filter p
  pairwise horders := (h.pairwise horders).filter p
  stable horders z hz := by
    rw [List.filter_comm, h.stable horders z hz, List.filter_comm]

/-- **Two parts one after the other**, all items of one of them less than those of the other. -/
theorem append {p : α → Bool} (hperm : (left ++ right).Perm items)
    (hleft : Orders less S → left = items.filter p)
    (hright : Orders less S → right = items.filter (!p ·)) (hS : ∀ x ∈ items, S x)
    (hapart : Orders less S → ∀ x ∈ left, ∀ y ∈ right, less x y = true)
    (hxs : Sorts less S left xs) (hys : Sorts less S right ys) :
    Sorts less S items (xs ++ ys) := by
  obtain ⟨hSleft, hSright⟩ := List.forall_mem_append.mp
    fun x (hx : x ∈ left ++ right) => hS x (hperm.mem_iff.mp hx)
  constructor
  case perm => exact (hxs.perm.append hys.perm).trans hperm
  case pairwise =>
    intro horders
    refine List.pairwise_append.mpr ⟨hxs.pairwise horders, hys.pairwise horders, ?_⟩
    intro x hx y hy
    have hx := hxs.mem_iff.mp hx
    have hy := hys.mem_iff.mp hy
    exact horders.asymm (hSleft x hx) (hSright y hy) (hapart horders x hx y hy)
  case stable =>
    intro horders z hz
    have hless : ∀ x ∈ items, ∀ y ∈ items, p x = true → p y = false → less x y = true := by
      intro x hx y hy hpx hpy
      refine hapart horders x ?_ y ?_
      · exact hleft horders ▸ List.mem_filter.mpr ⟨hx, hpx⟩
      · exact hright horders ▸ List.mem_filter.mpr ⟨hy, by simp [hpy]⟩
    rw [List.filter_append, hxs.stable horders z hz, hys.stable horders z hz, hleft horders,
      hright horders, List.filter_comm, List.filter_comm _ (!p ·)]
    refine filter_append_filter_not fun x hx y hy hpx => ?_
    obtain ⟨hx, hzx⟩ := List.mem_filter.mp hx
    obtain ⟨hy, hzy⟩ := List.mem_filter.mp hy
    by_contra hpy
    cases (hless x hx y hy hpx (Bool.eq_false_iff.mpr hpy)).symm.trans
      (horders.not_less_of_tied (hS x hx) (hS y hy) hz hzx hzy)

end Sorts

/-! ### Merging -/

section

variable (horders : Orders less S)

include horders

/-- Merging keeps the order. (`List.pairwise_merge` asks for a comparison that orders a whole
type.) -/
theorem pairwise_merge (hxs : ∀ x ∈ xs, S x) (hys : ∀ y ∈ ys, S y)
    (hleft : xs.Pairwise fun x y => less y x = false)
    (hright : ys.Pairwise fun x y => less y x = false) :
    (xs.merge ys fun x y => !less y x).Pairwise fun x y => less y x = false := by
  induction xs generalizing ys with
  | nil => simpa using hright
  | cons x xs ihx =>
    induction ys with
    | nil => simpa using hleft
    | cons y ys ihy =>
      obtain ⟨hx, hSxs⟩ := List.forall_mem_cons.mp hxs
      obtain ⟨hy, hSys⟩ := List.forall_mem_cons.mp hys
      obtain ⟨hxfirst, hleft'⟩ := List.pairwise_cons.mp hleft
      obtain ⟨hyfirst, hright'⟩ := List.pairwise_cons.mp hright
      rw [List.cons_merge_cons]
      split
      · next hle =>
        have hyx : less y x = false := by simpa using hle
        refine List.pairwise_cons.mpr ⟨fun z hz => ?_, ihx hSxs hys hleft' hright⟩
        rcases List.mem_merge.mp hz with hz | hz
        · exact hxfirst z hz
        · rcases List.mem_cons.mp hz with rfl | hz
          · exact hyx
          · exact horders.trans hx hy (hSys z hz) hyx (hyfirst z hz)
      · next hle =>
        have hxy : less x y = false := horders.asymm hy hx (by simpa using hle)
        refine List.pairwise_cons.mpr ⟨fun z hz => ?_, ihy hSys hright'⟩
        rcases List.mem_merge.mp hz with hz | hz
        · rcases List.mem_cons.mp hz with rfl | hz
          · exact hxy
          · exact horders.trans hy hx (hSxs z hz) hxy (hxfirst z hz)
        · exact hyfirst z hz

/-- Merging leaves tied items in their order. -/
theorem filter_tied_merge (hxs : ∀ x ∈ xs, S x) (hys : ∀ y ∈ ys, S y)
    (hleft : xs.Pairwise fun x y => less y x = false) {z : α} (hz : S z) :
    (xs.merge ys fun x y => !less y x).filter (tied less z) =
      xs.filter (tied less z) ++ ys.filter (tied less z) := by
  induction xs generalizing ys with
  | nil => simp
  | cons x xs ihx =>
    induction ys with
    | nil => simp
    | cons y ys ihy =>
      obtain ⟨hx, hSxs⟩ := List.forall_mem_cons.mp hxs
      obtain ⟨hy, hSys⟩ := List.forall_mem_cons.mp hys
      obtain ⟨hxfirst, hleft'⟩ := List.pairwise_cons.mp hleft
      rw [List.cons_merge_cons]
      split
      · rw [List.filter_cons, ihx hSxs hys hleft', @List.filter_cons _ x xs]
        split <;> rfl
      · next hle =>
        have hyx : less y x = true := by simpa using hle
        rw [List.filter_cons, ihy hSys, @List.filter_cons _ y ys]
        split
        · next hzy =>
          -- what is left of the first list is greater than `y`
          have hnone : (x :: xs).filter (tied less z) = [] := by
            refine List.filter_eq_nil_iff.mpr fun x' hx' hzx' => ?_
            have hless : less y x' = true := by
              rcases List.mem_cons.mp hx' with rfl | hx'
              · exact hyx
              · exact horders.less_of_less_of_not_less hy hx (hSxs x' hx') hyx (hxfirst x' hx')
            cases hless.symm.trans (horders.not_less_of_tied hy (hxs x' hx') hz hzy hzx')
          rw [hnone, List.nil_append, List.nil_append]
        · rfl

end

/-- **Merging two sorted lists** sorts the items of both. -/
theorem Sorts.merge (hS : ∀ x ∈ left ++ right, S x) (hxs : Sorts less S left xs)
    (hys : Sorts less S right ys) :
    Sorts less S (left ++ right) (xs.merge ys fun x y => !less y x) := by
  obtain ⟨hSleft, hSright⟩ := List.forall_mem_append.mp hS
  have hSxs : ∀ x ∈ xs, S x := fun x hx => hSleft x (hxs.mem_iff.mp hx)
  have hSys : ∀ y ∈ ys, S y := fun y hy => hSright y (hys.mem_iff.mp hy)
  constructor
  case perm => exact (List.merge_perm_append _).trans (hxs.perm.append hys.perm)
  case pairwise =>
    exact fun horders => pairwise_merge horders hSxs hSys (hxs.pairwise horders)
      (hys.pairwise horders)
  case stable =>
    intro horders z hz
    rw [filter_tied_merge horders hSxs hSys (hxs.pairwise horders) hz, List.filter_append,
      hxs.stable horders z hz, hys.stable horders z hz]

/-- Merging from the back sorts them too. -/
theorem Sorts.mergeBackwards (hS : ∀ x ∈ left ++ right, S x) (hxs : Sorts less S left xs)
    (hys : Sorts less S right ys) :
    Sorts less S (left ++ right) (ys.reverse.merge xs.reverse fun y x => !less y x).reverse := by
  have hS' : ∀ x ∈ right.reverse ++ left.reverse, S x := fun x hx =>
    hS x (by simpa [or_comm] using hx)
  have hmerge := (Sorts.merge hS' hys.reverse hxs.reverse).reverse
  rwa [List.reverse_append, List.reverse_reverse, List.reverse_reverse] at hmerge

theorem merge_eq_mergeBackwards (horders : Orders less S) (hS : ∀ x ∈ xs ++ ys, S x)
    (hxs : xs.Pairwise fun x y => less y x = false)
    (hys : ys.Pairwise fun x y => less y x = false) :
    (xs.merge ys fun x y => !less y x) =
      (ys.reverse.merge xs.reverse fun y x => !less y x).reverse :=
  have hxs : Sorts less S xs xs := .of_pairwise fun _ => hxs
  have hys : Sorts less S ys ys := .of_pairwise fun _ => hys
  (hxs.merge hS hys).eq horders hS (hxs.mergeBackwards hS hys)

/-! ### Outcomes that may be missing -/

section

variable {β γ : Type} {ordered : Prop} {good : β → Prop} {better : γ → Prop}

/-- A step **delivers** something good: its outcome is, if there is one, and there is one where
things are ordered. -/
structure Delivers (ordered : Prop) (outcome : Option β) (good : β → Prop) : Prop where
  /-- An outcome is good. -/
  good : ∀ {b}, outcome = some b → good b
  /-- Where things are ordered, there is an outcome. -/
  isSome : ordered → outcome.isSome = true

namespace Delivers

theorem some {b : β} (h : good b) : Delivers ordered (some b) good where
  good heq := Option.some.inj heq ▸ h
  isSome _ := rfl

theorem bind {outcome : Option β} {next : β → Option γ} (h : Delivers ordered outcome good)
    (hnext : ∀ b, good b → Delivers ordered (next b) better) :
    Delivers ordered (outcome >>= next) better := by
  cases outcome with
  | none => exact ⟨nofun, fun horders => nomatch h.isSome horders⟩
  | some b => exact hnext b (h.good rfl)

theorem map {outcome : Option β} {f : β → γ} (h : Delivers ordered outcome good)
    (hf : ∀ b, good b → better (f b)) : Delivers ordered (outcome.map f) better := by
  cases outcome with
  | none => exact ⟨nofun, fun horders => nomatch h.isSome horders⟩
  | some b => exact some (hf b (h.good rfl))

theorem imp {outcome : Option β} {fine : β → Prop} (h : Delivers ordered outcome good)
    (hfine : ∀ b, good b → fine b) : Delivers ordered outcome fine :=
  ⟨fun heq => hfine _ (h.good heq), h.isSome⟩

/-- What is never lost and sorts where things are ordered delivers sorted lists. -/
theorem of_perm {outcome : Option (List α)}
    (hperm : ∀ {sorted}, outcome = .some sorted → sorted.Perm items)
    (hsorts : Orders less S → ∃ sorted, outcome = .some sorted ∧ Sorts less S items sorted) :
    Delivers (Orders less S) outcome (Sorts less S items) where
  good heq := .of_perm (hperm heq) fun horders => by
    obtain ⟨_, heq', hsorted⟩ := hsorts horders
    exact Option.some.inj (heq'.symm.trans heq) ▸ hsorted
  isSome horders := by
    obtain ⟨_, heq, -⟩ := hsorts horders
    rw [heq]
    rfl

end Delivers

end

end Notebook.Sorting
