import Mathlib.Data.List.Forall2
import Notebook.Proofs.Markdown.Places

/-!
# Fenced code is opaque

What a line inside of a region of fenced code says has no influence on the other passages of the
text, as long as it does not close the region. The tracker of fenced code remembers nothing of such
a line but that the fence is still open (`Notebook.Markdown.openAfter`), so two texts whose lines
differ there alone have passages that are alike (`Notebook.Markdown.Alike`): the same ones, but for
regions of that fence, which may differ in what is inside (`Notebook.Markdown.passagesFrom_alike`).
-/

namespace Notebook.Markdown

deriving instance DecidableEq for Region, Passage

/-! ### What is inside a region -/

namespace Fence

variable {fence : Fence} {number : Nat} {before after : List (List Char)}

@[simp] theorem fence_region : (fence.region number after).fence = fence := by
  unfold region
  split <;> rfl

/-- Inside a region are the first lines after its fence. -/
theorem inside_prefix : (fence.region number after).inside <+: after := by
  unfold region
  split
  · exact List.take_prefix _ _
  · exact List.prefix_refl _

theorem not_closedBy_of_mem_inside {line : List Char}
    (h : line ∈ (fence.region number after).inside) : fence.closedBy line = false := by
  unfold region at h
  split at h
  · next index heq =>
    obtain ⟨hlt, -, hnot⟩ := List.findIdx?_eq_some_iff_getElem.mp heq
    obtain ⟨i, hi, rfl⟩ := List.mem_take_iff_getElem.mp h
    exact Bool.eq_false_iff.mpr (hnot i (by omega))
  · next heq => exact List.findIdx?_eq_none_iff.mp heq line h

/-- Where a region reaches further than some lines, none of them closes it, and one line more does
not either. -/
theorem not_closedBy_of_lt_length
    (h : before.length < (fence.region number (before ++ after)).inside.length) :
    (∀ line ∈ before, fence.closedBy line = false) ∧
      ∃ line rest, after = line :: rest ∧ fence.closedBy line = false := by
  have hbefore : before <+: (fence.region number (before ++ after)).inside :=
    List.prefix_of_prefix_length_le (List.prefix_append before after) inside_prefix (Nat.le_of_lt h)
  obtain ⟨others, hinside⟩ := hbefore
  have hnot : ∀ line ∈ before ++ others, fence.closedBy line = false := by
    rw [hinside]
    exact fun line => not_closedBy_of_mem_inside
  have hprefix : before ++ others <+: before ++ after := hinside ▸ inside_prefix
  rcases others with _ | ⟨line, others⟩
  · rw [← hinside, List.append_nil] at h
    exact absurd h (Nat.lt_irrefl _)
  · obtain ⟨rest, rfl⟩ := (List.prefix_append_right_inj before).mp hprefix
    exact ⟨fun l hl => hnot l (List.mem_append_left _ hl), line, others ++ rest, rfl,
      hnot line (List.mem_append_right _ (List.mem_cons_self ..))⟩

/-- A region that is closed does not reach what comes after. -/
theorem region_append (h : ∃ line ∈ before, fence.closedBy line = true)
    (after : List (List Char)) :
    fence.region number (before ++ after) = fence.region number before := by
  obtain ⟨index, hindex⟩ := Option.isSome_iff_exists.mp
    (by rwa [List.findIdx?_isSome, List.any_eq_true] : (before.findIdx? fence.closedBy).isSome)
  have hlt := (List.findIdx?_eq_some_iff_findIdx_eq.mp hindex).1
  have happend : (before ++ after).findIdx? fence.closedBy = some index := by
    rw [List.findIdx?_append, hindex, Option.some_or]
  simp only [region, hindex, happend, List.take_append_of_le_length (Nat.le_of_lt hlt)]

end Fence

/-! ### The fence that lines leave open -/

/-- **The fence that is open after some lines**, where one may be open before them. -/
def openAfter (open? : Option Fence) (lines : List (List Char)) : Option Fence :=
  lines.foldl (fun open? line => (placeLine open? line).2) open?

section Open

variable {all others lines : List (List Char)} {line : List Char} {fence : Fence} {number : Nat}
  {open? : Option Fence}

theorem openAfter_cons :
    openAfter open? (line :: lines) = openAfter (placeLine open? line).2 lines := rfl

/-- Lines that do not close a region leave it open. -/
theorem openAfter_of_not_closedBy (h : ∀ line ∈ lines, fence.closedBy line = false) :
    openAfter (some fence) lines = some fence := by
  induction lines with
  | nil => rfl
  | cons line lines ih =>
    obtain ⟨hline, hlines⟩ := List.forall_mem_cons.mp h
    simp only [openAfter_cons, placeLine, hline, Bool.false_eq_true, if_false, ih hlines]

/-- The passages to come depend on the lines to come alone. -/
theorem passagesFrom_congr (h : all.drop number = others.drop number) :
    passagesFrom all (number + 1) open? lines = passagesFrom others (number + 1) open? lines := by
  refine List.filterMap_congr fun entry hentry => ?_
  have hle : number + 1 ≤ entry.1 := le_of_mem_placeLines hentry
  have hdrop : all.drop entry.1 = others.drop entry.1 := by
    rw [← Nat.add_sub_cancel' (Nat.le_of_succ_le hle), ← List.drop_drop, h, List.drop_drop]
  match entry with
  | (n, .plain, line) => rfl
  | (n, .opening, line) =>
    rw [passageAt?, passageAt?, show all.drop n = others.drop n from hdrop]
  | (n, .inside, line) => rfl
  | (n, .closing, line) => rfl

theorem passagesFrom_cons : passagesFrom all number open? (line :: lines) =
    (passageAt? all (number, (placeLine open? line).1, line)).toList ++
      passagesFrom all (number + 1) (placeLine open? line).2 lines := by
  rw [passagesFrom, placeLines, List.filterMap_cons, passagesFrom]
  cases passageAt? all (number, (placeLine open? line).1, line) <;> rfl

/-- One line for another inside of a region. -/
theorem passagesFrom_inside {other : List Char} (hline : fence.closedBy line = false)
    (hother : fence.closedBy other = false) (hall : all.drop number = line :: lines)
    (hothers : others.drop number = other :: lines) :
    passagesFrom all (number + 1) (some fence) (line :: lines) =
      passagesFrom others (number + 1) (some fence) (other :: lines) := by
  rw [passagesFrom_of_not_closedBy hline, passagesFrom_of_not_closedBy hother]
  exact passagesFrom_congr (by rw [drop_succ_of_drop hall, drop_succ_of_drop hothers])

/-- Lines that do not close a region start no passage. -/
theorem passagesFrom_of_forall (h : ∀ line ∈ lines, fence.closedBy line = false) :
    passagesFrom all number (some fence) lines = [] := by
  induction lines generalizing number with
  | nil => rfl
  | cons line lines ih =>
    obtain ⟨hline, hlines⟩ := List.forall_mem_cons.mp h
    rw [passagesFrom_of_not_closedBy hline, ih hlines]

/-- A line that opens a region has its fence. -/
theorem fence?_of_opening (h : (placeLine open? line).1 = .opening) :
    ∃ fence, fence? line = some fence ∧ (placeLine open? line).2 = some fence := by
  unfold placeLine at h ⊢
  split at h
  · split at h <;> cases h
  · split at h
    · next fence heq => exact ⟨fence, heq, rfl⟩
    · cases h

/-- A passage that is a region comes of the line with its fence. -/
theorem passageAt?_eq_code {place : Place} {region : Region}
    (h : passageAt? all (number, place, line) = some (.code region)) :
    place = .opening ∧
      ∃ fence, fence? line = some fence ∧ region = fence.region number (all.drop number) := by
  rcases place with _ | _ | _ | _
  · cases h
  · obtain ⟨fence, hfence, hregion⟩ := Option.map_eq_some_iff.mp h
    exact ⟨rfl, fence, hfence, (Passage.code.inj hregion).symm⟩
  · cases h
  · cases h

/-- **A line inside of a region** comes when the fence of the region is open, and does not close
it. -/
theorem openAfter_of_inside {tail : List (List Char)} {region : Region}
    (hdrop : all.drop number = lines ++ tail)
    (hmem : .code region ∈ passagesFrom all (number + 1) open? (lines ++ tail))
    (hfirst : region.first ≤ number + lines.length)
    (hinside : number + lines.length + 1 ≤ region.first + region.inside.length) :
    openAfter open? lines = some region.fence ∧
      ∃ line rest, tail = line :: rest ∧ region.fence.closedBy line = false := by
  induction lines generalizing number open? with
  | nil =>
    have hle : number + 1 ≤ region.first := le_first_of_mem_passagesFrom hmem
    exact absurd hfirst (Nat.not_le.mpr hle)
  | cons line lines ih =>
    have hdrop' : all.drop (number + 1) = lines ++ tail := drop_succ_of_drop hdrop
    rw [List.length_cons] at hfirst hinside
    rw [List.cons_append, passagesFrom_cons, List.mem_append] at hmem
    rw [openAfter_cons]
    -- the region starts with this line, or with one that is still to come
    rcases hmem with hhere | hlater
    · obtain ⟨hplace, fence, hfence, hregion⟩ := passageAt?_eq_code (Option.mem_toList.mp hhere)
      obtain ⟨opening, hopening, hopen⟩ := fence?_of_opening hplace
      obtain rfl : opening = fence := Option.some.inj (hopening.symm.trans hfence)
      rw [hdrop'] at hregion
      subst hregion
      rw [Fence.first_region] at hinside
      have hlength :
          lines.length < (opening.region (number + 1) (lines ++ tail)).inside.length := by
        omega
      obtain ⟨hlines, hnext⟩ := Fence.not_closedBy_of_lt_length hlength
      rw [hopen, Fence.fence_region]
      exact ⟨openAfter_of_not_closedBy hlines, hnext⟩
    · exact ih hdrop' hlater (by omega) (by omega)

end Open

/-! ### Passages that are alike -/

/-- **Passages that are alike** but for what is inside the regions of a fence. -/
inductive Alike (fence : Fence) : Passage → Passage → Prop
  /-- The same passage. -/
  | same (passage : Passage) : Alike fence passage passage
  /-- Regions of the fence. -/
  | code {a b : Region} : a.fence = fence → b.fence = fence → Alike fence (.code a) (.code b)

theorem filterMap_line?_of_alike {fence : Fence} {ps qs : List Passage}
    (h : List.Forall₂ (Alike fence) ps qs) :
    ps.filterMap Passage.line? = qs.filterMap Passage.line? := by
  induction h with
  | nil => rfl
  | cons hpq _ ih =>
    rw [List.filterMap_cons, List.filterMap_cons, ih]
    rcases hpq with _ | _ <;> rfl

/-- The region of a fence that is open after some lines or closed among them. -/
theorem alike_region {opening fence : Fence} {number : Nat} {lines tail tail' : List (List Char)}
    (hopen : openAfter (some opening) lines = some fence) :
    Alike fence (.code (opening.region number (lines ++ tail)))
      (.code (opening.region number (lines ++ tail'))) := by
  -- a region that is closed among the lines does not see the tails
  by_cases hclosed : ∃ line ∈ lines, opening.closedBy line = true
  · rw [Fence.region_append hclosed, Fence.region_append hclosed]
    exact .same _
  · have hnot : ∀ line ∈ lines, opening.closedBy line = false := by
      simpa only [not_exists, not_and, Bool.not_eq_true] using hclosed
    rw [openAfter_of_not_closedBy hnot, Option.some.injEq] at hopen
    exact .code (Fence.fence_region.trans hopen) (Fence.fence_region.trans hopen)

/-- **What comes while a fence is open makes no difference** to the passages, up to what is inside
the regions of the fence, if the passages after it are the same. -/
theorem passagesFrom_alike {all others lines tail tail' : List (List Char)} {fence : Fence}
    {number : Nat} {open? : Option Fence} (hall : all.drop number = lines ++ tail)
    (hothers : others.drop number = lines ++ tail') (hopen : openAfter open? lines = some fence)
    (htail : ∀ n, all.drop n = tail → others.drop n = tail' →
      passagesFrom all (n + 1) (some fence) tail = passagesFrom others (n + 1) (some fence) tail') :
    List.Forall₂ (Alike fence) (passagesFrom all (number + 1) open? (lines ++ tail))
      (passagesFrom others (number + 1) open? (lines ++ tail')) := by
  induction lines generalizing number open? with
  | nil =>
    obtain rfl : open? = some fence := hopen
    rw [List.nil_append, List.nil_append, htail number hall hothers]
    exact List.forall₂_same.mpr fun passage _ => .same passage
  | cons line lines ih =>
    have hall' : all.drop (number + 1) = lines ++ tail := drop_succ_of_drop hall
    have hothers' : others.drop (number + 1) = lines ++ tail' := drop_succ_of_drop hothers
    rw [openAfter_cons] at hopen
    rw [List.cons_append, List.cons_append, passagesFrom_cons, passagesFrom_cons]
    refine List.rel_append ?_ (ih hall' hothers' hopen)
    rcases hplace : (placeLine open? line).1 with _ | _ | _ | _
    · exact .cons (.same _) .nil
    · obtain ⟨opening, hfence, hopening⟩ := fence?_of_opening hplace
      rw [hopening] at hopen
      simp only [passageAt?, hfence, Option.map_some, hall', hothers', Option.toList_some]
      exact .cons (alike_region hopen) .nil
    · exact .nil
    · exact .nil

end Notebook.Markdown
