/-!
# Comparisons that rank

Values are sorted by comparisons that are no orders of a whole type: a number that is not-a-number
counts as equal to every other one, so that “at most” is transitive only where there is none.
`Notebook.Ranks` says of a comparison that it is a total preorder on the things with a property, and
this file has the ways in which one such comparison is made of others: by a key, by first one thing
and then another, backwards, by the rank of a kind before everything else.
-/

namespace Notebook

variable {α β : Type}

/-- A comparison **ranks** the things with a property: the other way around it gives the opposite
outcome, and what is at most a thing is at most everything that the thing is at most. -/
structure Ranks (cmp : α → α → Ordering) (S : α → Prop) : Prop where
  /-- Two things turned around have the opposite outcome. -/
  swap : ∀ {a b}, S a → S b → cmp b a = (cmp a b).swap
  /-- The relation “at most” is transitive. -/
  trans : ∀ {a b c}, S a → S b → S c →
    (cmp a b).isLE = true → (cmp b c).isLE = true → (cmp a c).isLE = true

namespace Ranks

variable {cmp : α → α → Ordering} {S : α → Prop}

/-! ### Consequences -/

/-- Two things of which each is at most the other are equal to the comparison. -/
theorem eq_of_isLE (h : Ranks cmp S) {a b : α} (ha : S a) (hb : S b)
    (hab : (cmp a b).isLE = true) (hba : (cmp b a).isLE = true) : cmp a b = .eq := by
  rw [h.swap ha hb] at hba
  cases hcmp : cmp a b with
  | lt => simp [hcmp] at hba
  | eq => rfl
  | gt => simp [hcmp] at hab

/-- What is not before a thing comes at or after it. -/
theorem isLE_of_ne_lt (h : Ranks cmp S) {a b : α} (ha : S a) (hb : S b) (hab : cmp a b ≠ .lt) :
    (cmp b a).isLE = true := by
  rw [h.swap ha hb]
  cases hcmp : cmp a b with
  | lt => exact absurd hcmp hab
  | eq => rfl
  | gt => rfl

/-! ### Making comparisons -/

/-- Things are ranked by a part of them that is ordered. -/
theorem of_compare [Ord β] [Std.TransOrd β] (f : α → β) :
    Ranks (fun a b => compare (f a) (f b)) S where
  swap _ _ := Std.OrientedCmp.eq_swap
  trans _ _ _ := Std.TransCmp.isLE_trans

/-- A comparison without a difference. -/
theorem of_eq (h : ∀ a b, S a → S b → cmp a b = .eq) : Ranks cmp S where
  swap ha hb := by rw [h _ _ ha hb, h _ _ hb ha]; rfl
  trans ha _ hc _ _ := by rw [h _ _ ha hc]; rfl

/-- Things are ranked by a key. -/
theorem of_key {cmp' : β → β → Ordering} {T : β → Prop} (h : Ranks cmp' T) (f : α → β)
    (hT : ∀ a, S a → T (f a)) (heq : ∀ a b, S a → S b → cmp a b = cmp' (f a) (f b)) :
    Ranks cmp S where
  swap ha hb := by
    rw [heq _ _ ha hb, heq _ _ hb ha]
    exact h.swap (hT _ ha) (hT _ hb)
  trans ha hb hc := by
    rw [heq _ _ ha hb, heq _ _ hb hc, heq _ _ ha hc]
    exact h.trans (hT _ ha) (hT _ hb) (hT _ hc)

/-- Things that are made in one way are ranked by what they are made of. -/
theorem of_image {cmp' : β → β → Ordering} {T : β → Prop} (h : Ranks cmp' T) (f : β → α)
    (hS : ∀ a, S a → ∃ x, T x ∧ a = f x) (heq : ∀ x y, cmp (f x) (f y) = cmp' x y) :
    Ranks cmp S where
  swap ha hb := by
    obtain ⟨x, hx, rfl⟩ := hS _ ha
    obtain ⟨y, hy, rfl⟩ := hS _ hb
    rw [heq, heq]
    exact h.swap hx hy
  trans ha hb hc := by
    obtain ⟨x, hx, rfl⟩ := hS _ ha
    obtain ⟨y, hy, rfl⟩ := hS _ hb
    obtain ⟨z, hz, rfl⟩ := hS _ hc
    rw [heq, heq, heq]
    exact h.trans hx hy hz

/-- Backwards. -/
theorem backwards (h : Ranks cmp S) : Ranks (fun a b => cmp b a) S where
  swap ha hb := h.swap hb ha
  trans ha hb hc hab hbc := h.trans hc hb ha hbc hab

/-- **First one comparison, then another**: where the first one does not decide on either side, it
does not decide on the whole. -/
theorem isLE_then (h : Ranks cmp S) {a b c : α} (ha : S a) (hb : S b) (hc : S c) {p q r : Ordering}
    (hrest : p.isLE = true → q.isLE = true → r.isLE = true)
    (hab : ((cmp a b).then p).isLE = true) (hbc : ((cmp b c).then q).isLE = true) :
    ((cmp a c).then r).isLE = true := by
  obtain ⟨hab, hp⟩ := Ordering.isLE_then_iff_and.mp hab
  obtain ⟨hbc, hq⟩ := Ordering.isLE_then_iff_and.mp hbc
  refine Ordering.isLE_then_iff_and.mpr ⟨h.trans ha hb hc hab hbc, ?_⟩
  by_cases hac : cmp a c = .lt
  · exact .inl hac
  · have hca : (cmp c a).isLE = true := h.isLE_of_ne_lt ha hc hac
    have hab_eq : cmp a b = .eq := h.eq_of_isLE ha hb hab (h.trans hb hc ha hbc hca)
    have hbc_eq : cmp b c = .eq := h.eq_of_isLE hb hc hbc (h.trans hc ha hb hca hab)
    rw [hab_eq] at hp
    rw [hbc_eq] at hq
    exact .inr (hrest (hp.resolve_left nofun) (hq.resolve_left nofun))

theorem lexicographic {cmp₁ cmp₂ : α → α → Ordering} (h₁ : Ranks cmp₁ S) (h₂ : Ranks cmp₂ S) :
    Ranks (fun a b => (cmp₁ a b).then (cmp₂ a b)) S where
  swap ha hb := by rw [h₁.swap ha hb, h₂.swap ha hb, Ordering.swap_then]
  trans ha hb hc := h₁.isLE_then ha hb hc (h₂.trans ha hb hc)

/-- **Kinds before everything else**: a comparison that goes by the rank of kinds, and ranks the
things of each kind. -/
theorem of_kinds (kind : α → Nat)
    (hkind : ∀ a b, S a → S b → kind a ≠ kind b → cmp a b = compare (kind a) (kind b))
    (heach : ∀ k, Ranks cmp fun a => S a ∧ kind a = k) : Ranks cmp S where
  swap {a b} ha hb := by
    by_cases hab : kind a = kind b
    · exact (heach (kind b)).swap ⟨ha, hab⟩ ⟨hb, rfl⟩
    · rw [hkind a b ha hb hab, hkind b a hb ha (Ne.symm hab)]
      exact Std.OrientedCmp.eq_swap
  trans {a b c} ha hb hc hab hbc := by
    have hle : ∀ x y, S x → S y → (cmp x y).isLE = true → kind x ≤ kind y := by
      intro x y hx hy hxy
      by_cases heq : kind x = kind y
      · exact Nat.le_of_eq heq
      · rw [hkind x y hx hy heq] at hxy
        exact Nat.isLE_compare.mp hxy
    have hkab := hle a b ha hb hab
    have hkbc := hle b c hb hc hbc
    by_cases hac : kind a = kind c
    · exact (heach (kind c)).trans ⟨ha, hac⟩ ⟨hb, by omega⟩ ⟨hc, rfl⟩ hab hbc
    · rw [hkind a c ha hc hac]
      exact Nat.isLE_compare.mpr (Nat.le_trans hkab hkbc)

end Ranks

end Notebook
