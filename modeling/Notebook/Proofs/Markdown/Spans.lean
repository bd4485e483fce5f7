import Notebook.Proofs.Markdown.LineEnds

/-!
# Runs of backticks and the spans between them

The rule for code spans reads a line from left to right, one run of backticks after another. If
there is a run of the same length to the right, the next such run closes a span, and the reading
goes on after it; otherwise the run stands alone, is text, and the reading goes on right after the
run. So a line **falls into** spans and runs that stand alone (`Notebook.Markdown.FallsInto`), in
one way only (`Notebook.Markdown.fallsInto_iff`).

The search for the spans of a line (`Notebook.Markdown.codeSpans`) finds them in this order, but
ends at the first run that stands alone (`Notebook.Markdown.codeSpans_eq_contents`). It finds all of
them exactly when no span comes after such a run.
-/

namespace Notebook.Markdown

open Text

/-! ### Runs -/

/-- That there is **a run of backticks** in a text, of a given length, with no backtick right before
or after it. -/
structure HasRun (run : Nat) (cs before after : List Char) : Prop where
  /-- There is at least one backtick. -/
  pos : 0 < run
  /-- The text is what is before the run, the run, and what is after it. -/
  eq : cs = before ++ (List.replicate run '`' ++ after)
  /-- No backtick is right before the run. -/
  before_ends : before.getLast? ≠ some '`'
  /-- No backtick is right after the run. -/
  after_starts : after.head? ≠ some '`'

/-- That the **next run** of a length is where it is: there is such a run, and none further left. -/
structure NextRun (run : Nat) (cs before after : List Char) : Prop extends
    HasRun run cs before after where
  /-- No run of this length comes earlier. -/
  first : ∀ earlier rest, HasRun run cs earlier rest → before.length ≤ earlier.length

variable {run n : Nat} {c : Char} {cs before after rest : List Char}

theorem NextRun.unique {other others : List Char} (h : NextRun run cs before after)
    (h' : NextRun run cs other others) : other = before ∧ others = after := by
  have hlength : before.length = other.length :=
    Nat.le_antisymm (h.first _ _ h'.toHasRun) (h'.first _ _ h.toHasRun)
  obtain ⟨hbefore, hrest⟩ := List.append_inj (h.eq.symm.trans h'.eq) hlength
  exact ⟨hbefore.symm, (List.append_cancel_left hrest).symm⟩

theorem not_hasRun_nil : ¬HasRun run [] before after := by
  intro h
  have hlength := congrArg List.length h.eq
  simp only [List.length_nil, List.length_append, List.length_replicate] at hlength
  have := h.pos
  omega

/-- Where a text does not start with a backtick, its runs are those of the rest. -/
theorem hasRun_cons_iff (hc : c ≠ '`') : HasRun run (c :: cs) before after ↔
    ∃ others, before = c :: others ∧ HasRun run cs others after := by
  constructor
  · intro h
    obtain ⟨m, rfl⟩ := Nat.exists_eq_succ_of_ne_zero (Nat.ne_of_gt h.pos)
    rcases before with _ | ⟨d, others⟩
    · exact absurd (List.cons.inj h.eq).1 hc
    · obtain ⟨rfl, heq⟩ := List.cons.inj h.eq
      refine ⟨others, rfl, h.pos, heq, fun hends => h.before_ends ?_, h.after_starts⟩
      rw [List.getLast?_cons, hends, Option.getD_some]
  · rintro ⟨others, rfl, h⟩
    refine ⟨h.pos, by rw [h.eq, List.cons_append], fun hends => ?_, h.after_starts⟩
    rcases hlast : others.getLast? with _ | d
    · rw [List.getLast?_cons, hlast, Option.getD_none] at hends
      exact hc (Option.some.inj hends)
    · rw [List.getLast?_cons, hlast, Option.getD_some] at hends
      exact h.before_ends (hlast.trans hends)

/-- Two runs at the start of one text are the same. -/
theorem replicate_append_inj (hcs : cs.head? ≠ some '`') (hafter : after.head? ≠ some '`')
    (h : List.replicate n '`' ++ cs = List.replicate run '`' ++ after) : n = run ∧ cs = after := by
  induction n generalizing run with
  | zero =>
    rcases run with _ | run
    · exact ⟨rfl, h⟩
    · exact absurd (congrArg List.head? h) hcs
  | succ n ih =>
    rcases run with _ | run
    · exact absurd (congrArg List.head? h).symm hafter
    · obtain ⟨rfl, rfl⟩ := ih (List.cons.inj h).2
      exact ⟨rfl, rfl⟩

/-- Where a text starts with a run, this is one of its runs, and the others are those of the
rest. -/
theorem hasRun_replicate_append_iff (hn : 0 < n) (hcs : cs.head? ≠ some '`') :
    HasRun run (List.replicate n '`' ++ cs) before after ↔
      (before = [] ∧ n = run ∧ cs = after) ∨
        ∃ others, before = List.replicate n '`' ++ others ∧ HasRun run cs others after := by
  constructor
  · intro h
    rcases List.append_eq_append_iff.mp h.eq with ⟨others, rfl, heq⟩ | ⟨ticks, hticks, heq⟩
    · -- the run comes after the first one
      refine .inr ⟨others, rfl, h.pos, heq, fun hends => h.before_ends ?_, h.after_starts⟩
      rw [List.getLast?_append, hends, Option.some_or]
    · -- it starts among the backticks of the first one, so at the first of them
      have hbefore : before = [] := by
        by_contra hne
        have hlast : before.getLast hne = '`' := List.eq_of_mem_replicate
          (hticks ▸ List.mem_append_left ticks (List.getLast_mem hne))
        exact h.before_ends (by rw [List.getLast?_eq_some_getLast hne, hlast])
      subst hbefore
      rw [List.nil_append] at hticks
      rw [← hticks] at heq
      obtain ⟨hrun, hafter⟩ := replicate_append_inj hcs h.after_starts heq.symm
      exact .inl ⟨rfl, hrun, hafter⟩
  · rintro (⟨rfl, rfl, rfl⟩ | ⟨others, rfl, h⟩)
    · exact ⟨hn, rfl, nofun, hcs⟩
    · refine ⟨h.pos, by rw [h.eq, List.append_assoc], fun hends => ?_, h.after_starts⟩
      rcases hlast : others.getLast? with _ | d
      · -- then the second run would stand right after the first one
        obtain ⟨m, rfl⟩ := Nat.exists_eq_succ_of_ne_zero (Nat.ne_of_gt h.pos)
        rw [h.eq, List.getLast?_eq_none_iff.mp hlast] at hcs
        exact hcs rfl
      · rw [List.getLast?_append, hlast, Option.some_or] at hends
        exact h.before_ends (hlast.trans hends)

theorem dropWhile_eq_afterRun (rest : List Char) :
    ('`' :: rest).dropWhile (· == '`') = afterRun rest := by
  have hsplit := congrArg (List.drop (backticks ('`' :: rest)))
    (List.takeWhile_append_dropWhile (p := (· == '`')) (l := '`' :: rest))
  rw [backticks, List.drop_left, ← backticks] at hsplit
  rw [hsplit, afterRun]
  rfl

theorem head?_afterRun (rest : List Char) : (afterRun rest).head? ≠ some '`' := by
  intro h
  have hany := head?_dropWhile_any (· == '`') ('`' :: rest)
  rw [dropWhile_eq_afterRun, h] at hany
  exact absurd hany (by decide)

/-- A text that starts with a backtick starts with a run. -/
theorem hasRun_start (rest : List Char) :
    HasRun (backticks ('`' :: rest)) ('`' :: rest) [] (afterRun rest) where
  pos := by
    rw [backticks, List.takeWhile_cons, if_pos (by decide)]
    exact Nat.succ_pos _
  eq := by
    have htake : ('`' :: rest).takeWhile (· == '`') =
        List.replicate (backticks ('`' :: rest)) '`' := by
      refine List.eq_replicate_iff.mpr ⟨rfl, fun d hd => ?_⟩
      exact beq_iff_eq.mp (List.all_eq_true.mp List.all_takeWhile d hd)
    rw [List.nil_append, ← htake, ← dropWhile_eq_afterRun, List.takeWhile_append_dropWhile]
  before_ends := nofun
  after_starts := head?_afterRun rest

/-- The runs of a text that starts with a backtick: the one at its start, and those after it. -/
theorem hasRun_tick_iff (rest : List Char) : HasRun run ('`' :: rest) before after ↔
    (before = [] ∧ backticks ('`' :: rest) = run ∧ afterRun rest = after) ∨
      ∃ others, before = List.replicate (backticks ('`' :: rest)) '`' ++ others ∧
        HasRun run (afterRun rest) others after := by
  have hstart := hasRun_start rest
  conv_lhs => rw [hstart.eq]
  exact hasRun_replicate_append_iff hstart.pos hstart.after_starts

/-- The run at the start of a text, and what is after it. -/
theorem HasRun.eq_start (h : HasRun run ('`' :: rest) [] after) :
    backticks ('`' :: rest) = run ∧ afterRun rest = after :=
  replicate_append_inj (head?_afterRun rest) h.after_starts
    ((hasRun_start rest).eq.symm.trans h.eq)

/-! ### The run that closes a span -/

/-- **The search for the end of a span** finds the next run of the length that is asked for. -/
theorem nextRun_of_closeSpan? (run : Nat) (cs : List Char) :
    ∀ before after, closeSpan? run cs = some (before, after) → NextRun run cs before after := by
  fun_induction closeSpan? run cs with
  | case1 =>
    intro before after h
    cases h
  | case2 rest found tail hfound =>
    rintro before after ⟨⟩
    subst hfound
    exact ⟨hasRun_start rest, fun _ _ _ => Nat.zero_le _⟩
  | case3 rest found tail hfound ih =>
    intro before after h
    obtain ⟨⟨content, others⟩, hclose, heq⟩ := Option.map_eq_some_iff.mp h
    cases heq
    have hnext := ih _ _ hclose
    refine ⟨(hasRun_tick_iff rest).mpr (.inr ⟨content, rfl, hnext.toHasRun⟩), fun _ _ hrun => ?_⟩
    rcases (hasRun_tick_iff rest).mp hrun with ⟨-, hsame, -⟩ | ⟨others, rfl, hrest⟩
    · exact absurd hsame hfound
    · rw [List.length_append, List.length_append]
      exact Nat.add_le_add_left (hnext.first _ _ hrest) _
  | case4 c rest hc ih =>
    intro before after h
    obtain ⟨⟨content, others⟩, hclose, heq⟩ := Option.map_eq_some_iff.mp h
    cases heq
    have hnext := ih _ _ hclose
    refine ⟨(hasRun_cons_iff hc).mpr ⟨content, rfl, hnext.toHasRun⟩, fun _ _ hrun => ?_⟩
    obtain ⟨others, rfl, hrest⟩ := (hasRun_cons_iff hc).mp hrun
    exact Nat.succ_le_succ (hnext.first _ _ hrest)

/-- It fails only where there is no such run. -/
theorem not_hasRun_of_closeSpan? (run : Nat) (cs : List Char) :
    closeSpan? run cs = none → ∀ before after, ¬HasRun run cs before after := by
  fun_induction closeSpan? run cs with
  | case1 => exact fun _ _ _ => not_hasRun_nil
  | case2 rest found tail hfound =>
    intro h
    cases h
  | case3 rest found tail hfound ih =>
    intro h before after hrun
    rcases (hasRun_tick_iff rest).mp hrun with ⟨-, hsame, -⟩ | ⟨others, -, hrest⟩
    · exact hfound hsame
    · exact ih (Option.map_eq_none_iff.mp h) _ _ hrest
  | case4 c rest hc ih =>
    intro h before after hrun
    obtain ⟨others, -, hrest⟩ := (hasRun_cons_iff hc).mp hrun
    exact ih (Option.map_eq_none_iff.mp h) _ _ hrest

theorem closeSpan?_eq_some_iff :
    closeSpan? run cs = some (before, after) ↔ NextRun run cs before after := by
  refine ⟨nextRun_of_closeSpan? run cs before after, fun h => ?_⟩
  rcases hclose : closeSpan? run cs with _ | ⟨content, others⟩
  · exact absurd h.toHasRun (not_hasRun_of_closeSpan? run cs hclose _ _)
  · obtain ⟨rfl, rfl⟩ := h.unique (nextRun_of_closeSpan? run cs _ _ hclose)
    rfl

theorem closeSpan?_eq_none_iff :
    closeSpan? run cs = none ↔ ∀ before after, ¬HasRun run cs before after := by
  refine ⟨not_hasRun_of_closeSpan? run cs, fun h => ?_⟩
  rcases hclose : closeSpan? run cs with _ | ⟨content, others⟩
  · rfl
  · exact absurd (nextRun_of_closeSpan? run cs _ _ hclose).toHasRun (h _ _)

/-! ### The pieces of a line -/

/-- **A piece** of a line. -/
inductive Piece
  /-- A code span, with what is in it. -/
  | span (content : List Char)
  /-- A run of backticks that stands alone, with its length. -/
  | alone (run : Nat)
  deriving DecidableEq

/-- Whether a piece is a code span. -/
def Piece.isSpan (piece : Piece) : Bool := piece matches span _

/-- What is in a code span. -/
def Piece.content? : Piece → Option (List Char)
  | span content => some content
  | alone _ => none

/-- The contents of the code spans among pieces. -/
def contents (pieces : List Piece) : List (List Char) := pieces.filterMap Piece.content?

/-- That a line **falls into pieces**, from the left to the right. -/
inductive FallsInto : List Char → List Piece → Prop
  /-- A text without a backtick. -/
  | plain {line : List Char} : '`' ∉ line → FallsInto line []
  /-- The leftmost run, and a span from there to the next run of its length. -/
  | span {line before rest content after : List Char} {run : Nat} {pieces : List Piece} :
      '`' ∉ before → HasRun run line before rest → NextRun run rest content after →
      FallsInto after pieces → FallsInto line (.span content :: pieces)
  /-- The leftmost run, if there is no further one of its length. -/
  | alone {line before rest : List Char} {run : Nat} {pieces : List Piece} :
      '`' ∉ before → HasRun run line before rest →
      (∀ content after, ¬HasRun run rest content after) →
      FallsInto rest pieces → FallsInto line (.alone run :: pieces)

/-- **The pieces of a line.** -/
def piecesOf (line : List Char) : List Piece :=
  match line with
  | [] => []
  | c :: rest =>
    if c = '`' then
      match _h : closeSpan? (backticks ('`' :: rest)) (afterRun rest) with
      | some (content, after) => .span content :: piecesOf after
      | none => .alone (backticks ('`' :: rest)) :: piecesOf (afterRun rest)
    else piecesOf rest
termination_by line.length
decreasing_by
  · have := length_of_closeSpan? _h
    simp only [afterRun, List.length_drop] at this
    simp only [List.length_cons]
    omega
  · simp only [afterRun, List.length_drop, List.length_cons]
    omega
  · simp

/-- A character that is no backtick is in front of the first run. -/
theorem FallsInto.cons {line : List Char} {pieces : List Piece} (hc : c ≠ '`')
    (h : FallsInto line pieces) : FallsInto (c :: line) pieces := by
  have hnot : ∀ {before : List Char}, '`' ∉ before → '`' ∉ c :: before :=
    fun hbefore => List.not_mem_cons_of_ne_of_not_mem hc.symm hbefore
  cases h with
  | plain hline => exact .plain (hnot hline)
  | span hbefore hrun hnext hafter =>
    exact .span (hnot hbefore) ((hasRun_cons_iff hc).mpr ⟨_, rfl, hrun⟩) hnext hafter
  | alone hbefore hrun hno hrest =>
    exact .alone (hnot hbefore) ((hasRun_cons_iff hc).mpr ⟨_, rfl, hrun⟩) hno hrest

theorem fallsInto_piecesOf (line : List Char) : FallsInto line (piecesOf line) := by
  fun_induction piecesOf line with
  | case1 => exact .plain List.not_mem_nil
  | case2 rest content after hclose ih =>
    exact .span List.not_mem_nil (hasRun_start rest) (closeSpan?_eq_some_iff.mp hclose) ih
  | case3 rest hclose ih =>
    exact .alone List.not_mem_nil (hasRun_start rest) (closeSpan?_eq_none_iff.mp hclose) ih
  | case4 c rest hc ih => exact ih.cons hc

theorem piecesOf_append (hbefore : '`' ∉ before) (cs : List Char) :
    piecesOf (before ++ cs) = piecesOf cs := by
  induction before with
  | nil => rfl
  | cons d before ih =>
    obtain ⟨hd, hbefore⟩ := not_or.mp (List.mem_cons.not.mp hbefore)
    rw [List.cons_append, piecesOf, if_neg (Ne.symm hd), ih hbefore]

theorem piecesOf_start (rest : List Char) : piecesOf ('`' :: rest) =
    match closeSpan? (backticks ('`' :: rest)) (afterRun rest) with
    | some (content, after) => .span content :: piecesOf after
    | none => .alone (backticks ('`' :: rest)) :: piecesOf (afterRun rest) := by
  rw [piecesOf, if_pos rfl]
  split <;> rename_i h <;> rw [h]

/-- The pieces of a line are told by its leftmost run. -/
theorem HasRun.piecesOf_eq {line : List Char} (h : HasRun run line before rest)
    (hbefore : '`' ∉ before) : piecesOf line =
      match closeSpan? run rest with
      | some (content, after) => .span content :: piecesOf after
      | none => .alone run :: piecesOf rest := by
  obtain ⟨m, rfl⟩ := Nat.exists_eq_succ_of_ne_zero (Nat.ne_of_gt h.pos)
  have hstart : HasRun (m + 1) ('`' :: (List.replicate m '`' ++ rest)) [] rest :=
    ⟨h.pos, rfl, nofun, h.after_starts⟩
  obtain ⟨hrun, hafter⟩ := hstart.eq_start
  rw [h.eq, piecesOf_append hbefore, List.replicate_succ, List.cons_append, piecesOf_start, hrun,
    hafter]

/-- **A line falls into its pieces**, and in no other way. -/
theorem fallsInto_iff {line : List Char} {pieces : List Piece} :
    FallsInto line pieces ↔ pieces = piecesOf line := by
  refine ⟨fun h => ?_, fun h => h ▸ fallsInto_piecesOf line⟩
  induction h with
  | @plain line hline =>
    have hnone := piecesOf_append hline []
    rw [List.append_nil, piecesOf] at hnone
    exact hnone.symm
  | span hbefore hrun hnext _ ih =>
    rw [hrun.piecesOf_eq hbefore, closeSpan?_eq_some_iff.mpr hnext, ih]
  | alone hbefore hrun hno _ ih =>
    rw [hrun.piecesOf_eq hbefore, closeSpan?_eq_none_iff.mpr hno, ih]

/-! ### The spans that are found -/

/-- **The spans that stay hidden**: those after a run that stands alone. -/
def hiddenSpans (line : List Char) : List (List Char) :=
  contents ((piecesOf line).dropWhile Piece.isSpan)

/-- **The search for code spans** finds the spans in front of the first run that stands alone. -/
theorem codeSpans_eq_contents (line : List Char) :
    codeSpans line = contents ((piecesOf line).takeWhile Piece.isSpan) := by
  fun_induction piecesOf line with
  | case1 => rw [codeSpans]; rfl
  | case2 rest content after hclose ih =>
    rw [codeSpans_of_closed hclose, ih]
    rfl
  | case3 rest hclose ih =>
    rw [codeSpans_of_unclosed hclose]
    rfl
  | case4 c rest hc ih => rw [codeSpans, if_neg hc, ih]

/-- The spans of a line are those that are found and then those that stay hidden. -/
theorem codeSpans_append_hiddenSpans (line : List Char) :
    codeSpans line ++ hiddenSpans line = contents (piecesOf line) := by
  rw [codeSpans_eq_contents, hiddenSpans, contents, contents, ← List.filterMap_append,
    List.takeWhile_append_dropWhile, contents]

theorem codeSpans_eq_iff (line : List Char) :
    codeSpans line = contents (piecesOf line) ↔ hiddenSpans line = [] := by
  rw [← codeSpans_append_hiddenSpans, List.self_eq_append_right]

end Notebook.Markdown
