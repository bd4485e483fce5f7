import Notebook.Markdown.Fence

/-!
# Places of lines

`Notebook.Markdown.placeLines` goes through lines one by one and remembers the fence that is open.
Here is what it comes to. The lines of a text fall into passages (`Notebook.Markdown.passages`),
each of them a plain line or a region of fenced code, and a region is told by its fence and by the
lines after it alone (`Notebook.Markdown.Fence.region`): it runs through the first of them that
closes the fence, or through the last one.

The lines that are not plain are those that a region covers
(`Notebook.Markdown.place_ne_plain_iff`), and the passages that are plain are the plain lines
(`Notebook.Markdown.plainLines_eq_passages`). The numbers of lines and of passages go up.
-/

namespace Notebook.Markdown

/-! ### Numbers of lines -/

theorem le_of_mem_placeLines {number : Nat} {region : Option Fence} {lines : List (List Char)}
    {entry : Nat × Place × List Char} (h : entry ∈ placeLines number region lines) :
    number ≤ entry.1 := by
  induction lines generalizing number region with
  | nil => cases h
  | cons line lines ih =>
    rcases List.mem_cons.mp h with rfl | h
    · exact Nat.le_refl _
    · exact Nat.le_of_succ_le (ih h)

/-- The numbers of lines go up. -/
theorem pairwise_placeLines (number : Nat) (region : Option Fence) (lines : List (List Char)) :
    (placeLines number region lines).Pairwise fun a b => a.1 < b.1 := by
  induction lines generalizing number region with
  | nil => exact .nil
  | cons line lines ih =>
    exact List.pairwise_cons.mpr ⟨fun entry h => le_of_mem_placeLines h, ih _ _⟩

theorem pairwise_plainLines (body : List Char) :
    (plainLines body).Pairwise fun a b => a.1 < b.1 := by
  refine (pairwise_placeLines 1 none (Text.lines body)).filterMap _ ?_
  rintro ⟨m, place, line⟩ ⟨n, place', line'⟩ hlt a ha b hb
  simp only [Option.ite_none_right_eq_some, Option.some.injEq] at ha hb
  obtain ⟨-, rfl⟩ := ha
  obtain ⟨-, rfl⟩ := hb
  exact hlt

theorem map_line_placeLines (number : Nat) (region : Option Fence) (lines : List (List Char)) :
    (placeLines number region lines).map (·.2.2) = lines := by
  induction lines generalizing number region with
  | nil => rfl
  | cons line lines ih => exact congrArg (line :: ·) (ih _ _)

/-- A body of one line that is no fence. -/
theorem plainLines_of_lines {body line : List Char} (hlines : Text.lines body = [line])
    (hfence : fence? line = none) : plainLines body = [(1, line)] := by
  simp [plainLines, hlines, placeLines, placeLine, hfence]

/-- A plain line is a line of the body. -/
theorem mem_lines_of_mem_plainLines {body : List Char} {entry : Nat × List Char}
    (h : entry ∈ plainLines body) : entry.2 ∈ Text.lines body := by
  obtain ⟨⟨number, place, line⟩, hplaced, hentry⟩ := List.mem_filterMap.mp h
  rw [← map_line_placeLines 1 none (Text.lines body)]
  simp only [Option.ite_none_right_eq_some, Option.some.injEq] at hentry
  obtain ⟨-, rfl⟩ := hentry
  exact List.mem_map_of_mem hplaced

/-! ### Regions -/

/-- **A region of fenced code** in a text. -/
structure Region where
  /-- Its fence. -/
  fence : Fence
  /-- The number of its first line, the line of the fence. -/
  first : Nat
  /-- The number of its last line. -/
  last : Nat
  /-- The lines strictly inside it; where nothing closes it, up to the last line of the text. -/
  inside : List (List Char)

/-- **The region that a fence opens** on a line with a number, where the lines after it are given:
it runs through the first of them that closes it, or through the last one. -/
def Fence.region (fence : Fence) (number : Nat) (after : List (List Char)) : Region :=
  match after.findIdx? fence.closedBy with
  | some index => ⟨fence, number, number + index + 1, after.take index⟩
  | none => ⟨fence, number, number + after.length, after⟩

namespace Fence

variable {fence : Fence} {number : Nat} {line : List Char} {lines : List (List Char)}

theorem region_nil : fence.region number [] = ⟨fence, number, number, []⟩ := rfl

theorem region_of_closedBy (h : fence.closedBy line = true) :
    fence.region number (line :: lines) = ⟨fence, number, number + 1, []⟩ := by
  simp [region, List.findIdx?_cons, h]

/-- A line that does not close a region goes inside it. -/
theorem region_of_not_closedBy (h : fence.closedBy line = false) :
    fence.region number (line :: lines) =
      ⟨fence, number, (fence.region (number + 1) lines).last,
        line :: (fence.region (number + 1) lines).inside⟩ := by
  cases hindex : lines.findIdx? fence.closedBy with
  | some index => simp [region, List.findIdx?_cons, h, hindex]; omega
  | none => simp [region, List.findIdx?_cons, h, hindex]; omega

theorem first_region : (fence.region number lines).first = number := by
  unfold region
  split <;> rfl

theorem le_last_region : number ≤ (fence.region number lines).last := by
  unfold region
  split <;> dsimp only <;> omega

end Fence

/-! ### Passages -/

/-- **A passage** of a text. -/
inductive Passage
  /-- A line outside of every region, with its number. -/
  | plain (number : Nat) (line : List Char)
  /-- A region of fenced code. -/
  | code (region : Region)

/-- The number of the first line of a passage. -/
def Passage.first : Passage → Nat
  | plain number _ => number
  | code region => region.first

/-- The passage that starts with a line in its place, where all lines of the text are given. -/
def passageAt? (lines : List (List Char)) : Nat × Place × List Char → Option Passage
  | (number, .plain, line) => some (.plain number line)
  | (number, .opening, line) =>
    (fence? line).map fun fence => .code (fence.region number (lines.drop number))
  | _ => none

/-- The passages that start with the given lines of a text, which are counted from `number`. -/
def passagesFrom (all : List (List Char)) (number : Nat) (open? : Option Fence)
    (lines : List (List Char)) : List Passage :=
  (placeLines number open? lines).filterMap (passageAt? all)

/-- **The passages of a text** in order: its plain lines, and a region wherever a fence is met
outside of every region. -/
def passages (lines : List (List Char)) : List Passage := passagesFrom lines 1 none lines

theorem first_of_passageAt? {lines : List (List Char)} {entry : Nat × Place × List Char}
    {passage : Passage} (h : passageAt? lines entry = some passage) : passage.first = entry.1 := by
  match entry with
  | (number, .plain, line) =>
    obtain rfl := Option.some.inj h
    rfl
  | (number, .opening, line) =>
    obtain ⟨fence, -, rfl⟩ := Option.map_eq_some_iff.mp h
    exact Fence.first_region

theorem le_first_of_mem_passagesFrom {all lines : List (List Char)} {number : Nat}
    {open? : Option Fence} {passage : Passage} (h : passage ∈ passagesFrom all number open? lines) :
    number ≤ passage.first := by
  obtain ⟨entry, hentry, hpassage⟩ := List.mem_filterMap.mp h
  rw [first_of_passageAt? hpassage]
  exact le_of_mem_placeLines hentry

/-- The first lines of passages go up. -/
theorem pairwise_passages (lines : List (List Char)) :
    (passages lines).Pairwise fun p q => p.first < q.first := by
  refine (pairwise_placeLines 1 none lines).filterMap _ fun a b hlt p hp q hq => ?_
  rw [first_of_passageAt? hp, first_of_passageAt? hq]
  exact hlt

/-- The plain line that a passage is, if it is one. -/
def Passage.line? : Passage → Option (Nat × List Char)
  | plain number line => some (number, line)
  | code _ => none

/-- **The plain passages are the plain lines**, where tags, links and tasks are looked for. -/
theorem plainLines_eq_passages (body : List Char) :
    plainLines body = (passages (Text.lines body)).filterMap Passage.line? := by
  rw [plainLines, passages, passagesFrom, List.filterMap_filterMap]
  refine congrArg (List.filterMap · _) (funext fun entry => ?_)
  match entry with
  | (number, .plain, line) => rfl
  | (number, .opening, line) => cases h : fence? line <;> simp [passageAt?, h, Passage.line?]
  | (number, .inside, line) => rfl
  | (number, .closing, line) => rfl

/-! ### One line after the other -/

section Lines

variable {all lines : List (List Char)} {line : List Char} {number : Nat} {fence : Fence}

theorem placeLines_of_closedBy (h : fence.closedBy line = true) :
    placeLines number (some fence) (line :: lines) =
      (number, .closing, line) :: placeLines (number + 1) none lines := by
  simp [placeLines, placeLine, h]

theorem placeLines_of_not_closedBy (h : fence.closedBy line = false) :
    placeLines number (some fence) (line :: lines) =
      (number, .inside, line) :: placeLines (number + 1) (some fence) lines := by
  simp [placeLines, placeLine, h]

theorem placeLines_of_fence (h : fence? line = some fence) :
    placeLines number none (line :: lines) =
      (number, .opening, line) :: placeLines (number + 1) (some fence) lines := by
  simp [placeLines, placeLine, h]

theorem placeLines_of_no_fence (h : fence? line = none) :
    placeLines number none (line :: lines) =
      (number, .plain, line) :: placeLines (number + 1) none lines := by
  simp [placeLines, placeLine, h]

theorem passagesFrom_of_closedBy (h : fence.closedBy line = true) :
    passagesFrom all number (some fence) (line :: lines) =
      passagesFrom all (number + 1) none lines := by
  rw [passagesFrom, placeLines_of_closedBy h, List.filterMap_cons_none rfl, passagesFrom]

theorem passagesFrom_of_not_closedBy (h : fence.closedBy line = false) :
    passagesFrom all number (some fence) (line :: lines) =
      passagesFrom all (number + 1) (some fence) lines := by
  rw [passagesFrom, placeLines_of_not_closedBy h, List.filterMap_cons_none rfl, passagesFrom]

theorem passagesFrom_of_fence (h : fence? line = some fence) :
    passagesFrom all number none (line :: lines) =
      .code (fence.region number (all.drop number)) ::
        passagesFrom all (number + 1) (some fence) lines := by
  have hpassage : passageAt? all (number, .opening, line) =
      some (.code (fence.region number (all.drop number))) := by rw [passageAt?, h, Option.map_some]
  rw [passagesFrom, placeLines_of_fence h, List.filterMap_cons_some hpassage, passagesFrom]

theorem passagesFrom_of_no_fence (h : fence? line = none) :
    passagesFrom all number none (line :: lines) =
      .plain number line :: passagesFrom all (number + 1) none lines := by
  have hpassage : passageAt? all (number, .plain, line) = some (.plain number line) := rfl
  rw [passagesFrom, placeLines_of_no_fence h, List.filterMap_cons_some hpassage, passagesFrom]

theorem drop_succ_of_drop (h : all.drop number = line :: lines) :
    all.drop (number + 1) = lines := by
  rw [← List.drop_drop, h, List.drop_one, List.tail_cons]

end Lines

/-! ### Which lines are code -/

/-- That a region **covers** the line with a number. -/
def Region.Covers (region : Region) (number : Nat) : Prop :=
  region.first ≤ number ∧ number ≤ region.last

/-- Whether one of several passages is a region that covers the line with a number. -/
def CoveredBy (passages : List Passage) (number : Nat) : Prop :=
  ∃ region, .code region ∈ passages ∧ region.Covers number

theorem coveredBy_plain_cons {passages : List Passage} {n number : Nat} {line : List Char} :
    CoveredBy (.plain n line :: passages) number ↔ CoveredBy passages number := by
  simp [CoveredBy]

theorem coveredBy_code_cons {passages : List Passage} {region : Region} {number : Nat} :
    CoveredBy (.code region :: passages) number ↔
      region.Covers number ∨ CoveredBy passages number := by
  simp [CoveredBy, or_and_right, exists_or]

/-- The passages to come cover no line before them. -/
theorem not_coveredBy_of_lt {all lines : List (List Char)} {number n : Nat} {open? : Option Fence}
    (h : n < number) : ¬CoveredBy (passagesFrom all number open? lines) n := by
  rintro ⟨region, hmem, hfirst, -⟩
  have hle : number ≤ region.first := le_first_of_mem_passagesFrom hmem
  omega

/-- The last line of the region that is open after the line with a number, or that line itself when
none is. -/
def lastOpen (number : Nat) (open? : Option Fence) (after : List (List Char)) : Nat :=
  match open? with
  | some fence => (fence.region number after).last
  | none => number

/-- Of the lines that are left, those that are not plain are the rest of the region that is open and
the lines of the regions to come. -/
theorem place_ne_plain_iff_of_drop {all lines : List (List Char)} {number : Nat}
    {open? : Option Fence} (h : all.drop number = lines) {entry : Nat × Place × List Char}
    (hentry : entry ∈ placeLines (number + 1) open? lines) :
    entry.2.1 ≠ .plain ↔ entry.1 ≤ lastOpen number open? lines ∨
      CoveredBy (passagesFrom all (number + 1) open? lines) entry.1 := by
  induction lines generalizing number open? with
  | nil => cases hentry
  | cons line lines ih =>
    have hdrop : all.drop (number + 1) = lines := drop_succ_of_drop h
    cases open? with
    | some fence =>
      -- Closed or not, the line belongs to the region, and no passage starts with it.
      cases hclosed : fence.closedBy line with
      | true =>
        have hlast : lastOpen number (some fence) (line :: lines) = number + 1 :=
          congrArg Region.last (Fence.region_of_closedBy hclosed)
        rw [placeLines_of_closedBy hclosed] at hentry
        rw [passagesFrom_of_closedBy hclosed, hlast]
        rcases List.mem_cons.mp hentry with rfl | htail
        · exact iff_of_true nofun (.inl (Nat.le_refl _))
        · exact ih hdrop htail
      | false =>
        have hlast : lastOpen number (some fence) (line :: lines) =
            lastOpen (number + 1) (some fence) lines := by
          rw [lastOpen, Fence.region_of_not_closedBy hclosed, lastOpen]
        rw [placeLines_of_not_closedBy hclosed] at hentry
        rw [passagesFrom_of_not_closedBy hclosed, hlast]
        rcases List.mem_cons.mp hentry with rfl | htail
        · exact iff_of_true nofun (.inl Fence.le_last_region)
        · exact ih hdrop htail
    | none =>
      cases hfence : fence? line with
      | some fence =>
        have hfirst : (fence.region (number + 1) lines).first = number + 1 := Fence.first_region
        have hlast : number + 1 ≤ (fence.region (number + 1) lines).last := Fence.le_last_region
        rw [placeLines_of_fence hfence] at hentry
        rw [passagesFrom_of_fence hfence, hdrop, coveredBy_code_cons, Region.Covers, hfirst]
        rcases List.mem_cons.mp hentry with rfl | htail
        · exact iff_of_true nofun (.inr (.inl ⟨Nat.le_refl _, hlast⟩))
        · have hle : number + 1 < entry.1 := le_of_mem_placeLines htail
          have hbefore : ¬entry.1 ≤ number := by omega
          rw [ih hdrop htail, lastOpen, lastOpen, or_iff_right hbefore,
            and_iff_right (Nat.le_of_lt hle)]
      | none =>
        rw [placeLines_of_no_fence hfence] at hentry
        rw [passagesFrom_of_no_fence hfence, coveredBy_plain_cons]
        rcases List.mem_cons.mp hentry with rfl | htail
        · refine iff_of_false (not_not_intro rfl) (not_or_intro (Nat.not_succ_le_self _) ?_)
          exact not_coveredBy_of_lt (Nat.lt_succ_self _)
        · have hle : number + 1 < entry.1 := le_of_mem_placeLines htail
          have hbefore : ¬entry.1 ≤ number := by omega
          rw [ih hdrop htail, lastOpen, lastOpen, or_iff_right (Nat.not_le.mpr hle),
            or_iff_right hbefore]

/-- **What is not plain is covered by a region**, and no plain line is. -/
theorem place_ne_plain_iff {lines : List (List Char)} {entry : Nat × Place × List Char}
    (h : entry ∈ placeLines 1 none lines) :
    entry.2.1 ≠ .plain ↔ CoveredBy (passages lines) entry.1 := by
  have hle : ¬entry.1 ≤ lastOpen 0 none lines := Nat.not_le.mpr (le_of_mem_placeLines h)
  rw [place_ne_plain_iff_of_drop List.drop_zero h, or_iff_right hle, passages]

end Notebook.Markdown
