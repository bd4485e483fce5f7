import Notebook.Proofs.Query.Blame

/-!
# What has been read can be completed

Every reader of queries tracks what it reads (`Notebook.Query.Reading.Tracks`): wherever it fails,
the tokens up to the place to blame begin an item of its kind. So nothing in front of that place is
at fault. For whole queries this is `Notebook.Query.Cursor.tracks_query`.

The argument follows the readers, and as for their soundness it is one strong induction on how much
is left (`Notebook.Query.Cursor.TracksBelow`). At every step it says which tokens complete what has
been read: mostly a name, a tag or a closing parenthesis.
-/

namespace Notebook.Query

/-- That tokens **spell something** of a kind. -/
def Spells {α : Type} (Item : List Token → α → Prop) (ts : List Token) : Prop := ∃ x, Item ts x

/-- What spells a part spells the beginning of a whole that is made of it alone. -/
theorem begins_of_spells {α β : Type} {Item : List Token → α → Prop} {Whole : List Token → β → Prop}
    (make : α → β) (h : ∀ {us x}, Item us x → Whole us (make x)) :
    ∀ us, Spells Item us → Begins (Spells Whole) us := by
  rintro us ⟨x, hx⟩
  exact begins_self ⟨make x, h hx⟩

/-! ### Completions -/

theorem spelled_name (rank : Rank) :
    Expression.Spelled rank [.identifier "x"] (.field ⟨["x"]⟩) := by
  have hname : Expression.Spelled .operand [.identifier "x"] (.field ⟨["x"]⟩) := .field "x" []
  rcases rank with _ | _ | _ | _ | _
  · exact hname
  · exact .alone hname
  · exact .plain (.alone hname)
  · exact .condition (.plain (.alone hname))
  · exact .single (.condition (.plain (.alone hname)))

theorem begins_expression (rank : Rank) : Begins (Spells (Expression.Spelled rank)) [] :=
  begins_of_one writable_name ⟨_, spelled_name rank⟩

theorem spells_tag : Source.Spelled .operand [.tag "x"] (.tag "x") := .tag "x"

theorem begins_sourceOperand : Begins (Spells (Source.Spelled .operand)) [] :=
  begins_of_one writable_tag ⟨_, spells_tag⟩

theorem begins_sourceConjunction : Begins (Spells (Source.Spelled .conjunction)) [] :=
  begins_of_one writable_tag ⟨_, .alone spells_tag⟩

namespace Cursor

variable {α : Type} {n : Nat} {ts : List Token}

/-! ### Chains and lists -/

/-- **The tail of a chain tracks the chain**, if its items track theirs. -/
theorem tracks_tail {word : Keyword} {item : (c : Cursor) → Reading α c.size} {join : α → α → α}
    {tail : α → (c : Cursor) → c.size < n → Reading α n}
    (heq : ∀ left c hc, tail left c hc =
      if hk : c.token = .keyword word then
        (c.pass (ne_endOfInput_of_keyword hk)).andThen fun _ c₁ h₁ =>
          (item c₁).andThen fun right c₂ h₂ =>
            tail (join left right) c₂ (Nat.lt_trans h₂ (Nat.lt_trans h₁ hc))
      else .ok left c hc)
    {Whole Item : List Token → α → Prop}
    (hjoin : ∀ {ts us left right}, Whole ts left → Item us right →
      Whole (ts ++ .keyword word :: us) (join left right))
    (hbegins : Begins (Spells Item) [])
    (hitem : ∀ c, c.size < n → (item c).Tracks c (Spells Item))
    (hsound : ∀ c x c', c.size < n → (item c).Gives x c' → Across Item c x c')
    {left : α} {start c : Cursor} {hc : c.size < n} (hts : start.Reads ts c)
    (hleft : Whole ts left) : (tail left c hc).Tracks start (Spells Whole) := by
  induction hs : c.size using Nat.strongRecOn generalizing left c ts with
  | ind size ih =>
    have hmore : ∀ us, Spells Item us → Begins (Spells Whole) (ts ++ [.keyword word] ++ us) := by
      rintro us ⟨right, hright⟩
      refine begins_self ⟨join left right, ?_⟩
      rw [List.append_assoc]
      exact hjoin hleft hright
    rw [heq]
    split
    · next hk =>
      refine tracks_advance_andThen hts hk (by simpa using hbegins.part hmore) fun c₁ h₁ hword => ?_
      have hlt₁ : c₁.size < n := Nat.lt_trans h₁ hc
      refine .andThen ((hitem c₁ hlt₁).after hword hmore) fun right c₂ h₂ => ?_
      obtain ⟨us, hus, hright⟩ := hsound c₁ right c₂ hlt₁ h₂
      have hlt₂ : c₂.size < size := hs ▸ Nat.lt_trans h₂.size_lt h₁
      refine ih c₂.size hlt₂ (reads_append.mpr ⟨c₁, hword, hus⟩) ?_ rfl
      rw [List.append_assoc]
      exact hjoin hleft hright
    · exact Reading.tracks_ok

/-- That tokens spell items with commas between them, one at least. -/
def Several (Item : List Token → α → Prop) (ts : List Token) (xs : List α) : Prop :=
  xs ≠ [] ∧ Listed Item ts xs

theorem several_singleton {Item : List Token → α → Prop} {x : α} (h : Item ts x) :
    Several Item ts [x] := ⟨List.cons_ne_nil _ _, listed_singleton h⟩

theorem Several.cons {Item : List Token → α → Prop} {us : List Token} {x : α} {xs : List α}
    (h : Item ts x) (hxs : Several Item us xs) : Several Item (ts ++ .comma :: us) (x :: xs) :=
  ⟨List.cons_ne_nil _ _, Listed.cons h hxs.2 hxs.1⟩

/-- **A list of expressions with something after each tracks such a list**, if what comes after them
tracks an item with what comes before it. -/
theorem tracks_list {β : Type} (extra : {n : Nat} → (c : Cursor) → c.size < n → Reading β n)
    (make : Expression → β → α) {list : (c : Cursor) → Reading (List α) c.size}
    (heq : ∀ c, list c = (expression c).andThen fun e c₁ h₁ =>
      (extra c₁ h₁).andThen fun x c₂ h₂ =>
        if hc : c₂.token = .comma then
          (c₂.pass (ne_endOfInput_of_comma hc)).andThen fun _ c₃ h₃ =>
            (list c₃).andThen fun others c₄ h₄ => .ok (make e x :: others) c₄
              (Nat.lt_trans h₄ (Nat.lt_trans h₃ h₂))
        else .ok [make e x] c₂ h₂)
    {Item : List Token → α → Prop}
    (hexpression : ∀ c, (expression c).Tracks c (Spells (Expression.Spelled .disjunction)))
    (hplain : ∀ {ts e}, Expression.Spelled .disjunction ts e → Spells Item ts)
    (hextra : ∀ {m : Nat} {start c : Cursor} {ts e} {h : c.size < m}, start.Reads ts c →
      Expression.Spelled .disjunction ts e → (extra c h).Tracks start (Spells Item))
    (hsound : ∀ {m : Nat} {start c c' : Cursor} {ts e x} {h : c.size < m}, start.Reads ts c →
      Expression.Spelled .disjunction ts e → (extra c h).Gives x c' →
      Across Item start (make e x) c')
    (c : Cursor) : (list c).Tracks c (Spells (Several Item)) := by
  have halone : ∀ us, Spells Item us → Begins (Spells (Several Item)) us :=
    begins_of_spells (fun x => [x]) several_singleton
  obtain ⟨size, hs⟩ : ∃ size, c.size = size := ⟨_, rfl⟩
  induction size using Nat.strongRecOn generalizing c with
  | ind size ih =>
    rw [heq]
    refine .andThen ((hexpression c).first ?_) fun e c₁ h₁ => ?_
    · rintro us ⟨e, he⟩
      exact halone us (hplain he)
    obtain ⟨ts, hts, he⟩ := expression_spelled h₁
    refine .andThen ((hextra hts he).first halone) fun x c₂ h₂ => ?_
    obtain ⟨us, hus, hx⟩ := hsound hts he h₂
    have hmore : ∀ vs, Spells (Several Item) vs →
        Begins (Spells (Several Item)) (us ++ [.comma] ++ vs) := by
      rintro vs ⟨xs, hxs⟩
      refine begins_self ⟨make e x :: xs, ?_⟩
      rw [List.append_assoc]
      exact Several.cons hx hxs
    split
    · next hcomma =>
      obtain ⟨y, hy⟩ := hplain (spelled_name .disjunction)
      have hname : Begins (Spells (Several Item)) (us ++ [.comma] ++ [.identifier "x"]) :=
        hmore _ ⟨[y], several_singleton hy⟩
      refine tracks_advance_andThen hus hcomma (hname.of_concat writable_name)
        fun c₃ h₃ hcommas => ?_
      have hlt : c₃.size < c.size := Nat.lt_trans h₃ h₂.size_lt
      exact .andThen (.after hcommas (ih c₃.size (hs ▸ hlt) c₃ rfl) hmore)
        fun _ _ _ => Reading.tracks_ok
    · exact Reading.tracks_ok

/-! ### Expressions -/

/-- **All readers of expressions track them** at the cursors where less than a bound is left. -/
def TracksBelow (bound : Nat) : Prop :=
  ∀ (rank : Rank) (c : Cursor), c.size < bound →
    (reader rank c).Tracks c (Spells (Expression.Spelled rank))

/-- What is read at a rank is spelled at that rank. -/
theorem reader_spelled (rank : Rank) {c c' : Cursor} {e : Expression}
    (hg : (reader rank c).Gives e c') : Across (Expression.Spelled rank) c e c' :=
  soundBelow (c.size + 1) rank c e c' (Nat.lt_succ_self _) hg

/-- The further segments of a field path. -/
def Segments (ts : List Token) (names : List String) : Prop :=
  ts = names.flatMap fun name => [.dot, .identifier name]

theorem tracks_pathTail {segments : List String} {c : Cursor} {h : c.size < n} :
    (pathTail segments c h).Tracks c (Spells Segments) := by
  induction hs : c.size using Nat.strongRecOn generalizing segments c with
  | ind size ih =>
    rw [pathTail]
    split
    · next hd =>
      have hname : Begins (Spells Segments) [.dot] :=
        begins_of_one writable_name ⟨["x"], rfl⟩
      refine tracks_advance_andThen (reads_nil.mpr rfl) hd hname fun c₁ h₁ hdot => ?_
      split
      · next name ht =>
        refine tracks_advance_andThen hdot ht (begins_self ⟨[name], rfl⟩) fun c₂ h₂ hsegment => ?_
        refine .after hsegment (ih c₂.size (hs ▸ Nat.lt_trans h₂ h₁) rfl) ?_
        rintro us ⟨names, rfl⟩
        exact begins_self ⟨name :: names, rfl⟩
      · exact Reading.tracks_error hdot hname
    · exact Reading.tracks_ok

theorem tracks_fieldPath {name : String} {c : Cursor} {h : c.size < n} :
    (fieldPath name c h).Tracks c (Spells Segments) := by
  rw [fieldPath]
  refine .andThen tracks_pathTail fun segments c₁ h₁ => ?_
  obtain ⟨others, -, hreads⟩ := pathTail_sound h₁
  split
  · exact Reading.tracks_error hreads (begins_self ⟨others, rfl⟩)
  · exact Reading.tracks_ok

/-- Arguments with commas between them, one at least, and a closing parenthesis. -/
def ClosedArguments (ts : List Token) : Prop :=
  ∃ us values, Several (Expression.Spelled .disjunction) us values ∧ ts = us ++ [.closeParen]

theorem begins_closedArguments {us : List Token} {values : List Expression}
    (h : Several (Expression.Spelled .disjunction) us values) : Begins ClosedArguments us :=
  begins_of_one writable_closeParen ⟨us, values, h, rfl⟩

theorem tracks_argumentList (ih : TracksBelow n) {c : Cursor} (hc : c.size < n) :
    (argumentList c).Tracks c ClosedArguments := by
  obtain ⟨size, hs⟩ : ∃ size, c.size = size := ⟨_, rfl⟩
  induction size using Nat.strongRecOn generalizing c with
  | ind size ih' =>
    rw [argumentList]
    refine .andThen ((ih .disjunction c hc).first ?_) fun value c₁ h₁ => ?_
    · rintro us ⟨e, he⟩
      exact begins_closedArguments (several_singleton he)
    obtain ⟨ts, hts, hvalue⟩ := expression_spelled h₁
    have hmore : ∀ us, ClosedArguments us → Begins ClosedArguments (ts ++ [.comma] ++ us) := by
      rintro _ ⟨us, values, hvalues, rfl⟩
      refine begins_self ⟨ts ++ .comma :: us, value :: values, Several.cons hvalue hvalues, ?_⟩
      simp
    split
    · next hcomma =>
      have hname := begins_closedArguments (several_singleton (spelled_name .disjunction))
      have hlast : Begins ClosedArguments (ts ++ [.comma] ++ [.identifier "x"]) := hname.part hmore
      refine tracks_advance_andThen hts hcomma (hlast.of_concat writable_name)
        fun c₂ h₂ hcommas => ?_
      have hlt := h₁.size_lt
      exact .andThen (.after hcommas (ih' c₂.size (by omega) (by omega) rfl) hmore)
        fun _ _ _ => Reading.tracks_ok
    · exact .andThen (tracks_expect writable_closeParen hts
        (begins_self ⟨ts, _, several_singleton hvalue, rfl⟩)) fun _ _ _ => Reading.tracks_ok

/-- An argument list after its opening parenthesis. -/
theorem tracks_arguments (ih : TracksBelow n) {c : Cursor} (hc : c.size < n) (name : String) :
    (arguments c).Tracks c fun ts =>
      Spells (Expression.Spelled .operand) (.identifier name :: .openParen :: ts) := by
  rw [arguments]
  split
  · next hp =>
    refine (tracks_pass (reads_nil.mpr rfl) (begins_self ⟨.call name [], ?_⟩)).map
    rw [hp]
    exact .call name [] (by simp)
  · refine (tracks_argumentList ih hc).first ?_
    rintro _ ⟨us, values, ⟨-, parts, hparts, rfl, rfl⟩, rfl⟩
    exact begins_self ⟨_, .call name parts hparts⟩

theorem tracks_operand {c : Cursor} (ih : TracksBelow c.size) :
    (operand c).Tracks c (Spells (Expression.Spelled .operand)) := by
  rw [operand]
  split
  · next value hl =>
    exact (tracks_take (reads_nil.mpr rfl)
      (begins_self ⟨_, .literal (Token.literal?_eq_some_iff.mp hl)⟩)).map
  · split
    · next ht =>
      have hgroup : ∀ us, Spells (Expression.Spelled .disjunction) us →
          Begins (Spells (Expression.Spelled .operand)) ([.openParen] ++ us) := by
        rintro us ⟨e, he⟩
        exact begins_of_one writable_closeParen ⟨e, .group he⟩
      refine tracks_advance_andThen (reads_nil.mpr rfl) ht
        ((begins_expression .disjunction).part hgroup) fun c₁ h₁ hopen => ?_
      refine .andThen (.after hopen (ih .disjunction c₁ h₁) hgroup)
        fun e c₂ h₂ => ?_
      obtain ⟨ts, hts, he⟩ := expression_spelled h₂
      have hinner : c.Reads (.openParen :: ts) c₂ := reads_append.mpr ⟨c₁, hopen, hts⟩
      exact .andThen (tracks_expect writable_closeParen hinner (begins_self ⟨e, .group he⟩))
        fun _ _ _ => Reading.tracks_ok
    · next name ht =>
      refine tracks_advance_andThen (reads_nil.mpr rfl) ht (begins_self ⟨_, .field name []⟩)
        fun c₁ h₁ hname => ?_
      split
      · next hp =>
        refine tracks_advance_andThen hname hp
          (begins_of_one writable_closeParen ⟨_, .call name [] (by simp)⟩) fun c₂ h₂ hcall => ?_
        exact .andThen (.after hcall (tracks_arguments ih (Nat.lt_trans h₂ h₁) name)
          fun us hus => begins_self hus) fun _ _ _ => Reading.tracks_ok
      · refine .after hname tracks_fieldPath ?_
        rintro us ⟨names, rfl⟩
        exact begins_self ⟨_, .field name names⟩
    · exact Reading.tracks_error (reads_nil.mpr rfl) (begins_expression .operand)

theorem tracks_comparison {c : Cursor} (ih : TracksBelow c.size) :
    (comparison c).Tracks c (Spells (Expression.Spelled .comparison)) := by
  rw [comparison]
  refine .andThen ((tracks_operand ih).first (begins_of_spells id .alone)) fun left c₁ h₁ => ?_
  obtain ⟨ts, hts, hleft⟩ := reader_spelled .operand h₁
  split
  · next operator hop =>
    have hright : ∀ us, Spells (Expression.Spelled .operand) us →
        Begins (Spells (Expression.Spelled .comparison)) (ts ++ [c₁.token] ++ us) := by
      rintro us ⟨right, hright⟩
      refine begins_self ⟨.comparison operator left right, ?_⟩
      rw [List.append_assoc]
      exact .comparison (Token.comparison?_eq_some_iff.mp hop) hleft hright
    have hbegins : Begins (Spells (Expression.Spelled .comparison)) (ts ++ [c₁.token]) := by
      simpa using (begins_expression .operand).part hright
    refine tracks_advance_andThen hts rfl hbegins fun c₂ h₂ hsign => ?_
    have hlt : c₂.size < c.size := Nat.lt_trans h₂ h₁.size_lt
    exact .andThen (.after hsign (ih .operand c₂ hlt) hright) fun _ _ _ => Reading.tracks_ok
  · exact Reading.tracks_ok

theorem tracks_condition {c : Cursor} (ih : TracksBelow c.size) :
    (condition c).Tracks c (Spells (Expression.Spelled .condition)) := by
  rw [condition]
  split
  · next hk =>
    have hmore : ∀ us, Spells (Expression.Spelled .condition) us →
        Begins (Spells (Expression.Spelled .condition)) ([c.token] ++ us) := by
      rintro us ⟨e, he⟩
      exact begins_self ⟨_, .negation hk he⟩
    refine tracks_advance_andThen (reads_nil.mpr rfl) rfl
      ((begins_expression .condition).part hmore) fun c₁ h₁ hsign => ?_
    exact .andThen (.after hsign (ih .condition c₁ h₁) hmore)
      fun _ _ _ => Reading.tracks_ok
  · exact (tracks_comparison ih).first (begins_of_spells id .plain)

theorem tracks_conjunction {c : Cursor} (ih : TracksBelow c.size) :
    (conjunction c).Tracks c (Spells (Expression.Spelled .conjunction)) := by
  rw [conjunction]
  refine .andThen ((tracks_condition ih).first (begins_of_spells id .condition))
    fun left c₁ h₁ => ?_
  obtain ⟨ts, hts, hleft⟩ := reader_spelled .condition h₁
  exact tracks_tail (fun left c hc => by rw [conjunctionTail]; rfl) .conjunction
    (begins_expression .condition) (ih .condition) (fun _ _ _ _ hg => reader_spelled _ hg) hts
    (.condition hleft)

theorem tracks_disjunction {c : Cursor} (ih : TracksBelow c.size) :
    (expression c).Tracks c (Spells (Expression.Spelled .disjunction)) := by
  rw [expression]
  refine .andThen ((tracks_conjunction ih).first (begins_of_spells id .single)) fun left c₁ h₁ => ?_
  obtain ⟨ts, hts, hleft⟩ := reader_spelled .conjunction h₁
  exact tracks_tail (fun left c hc => by rw [disjunctionTail]; rfl) .disjunction
    (begins_expression .conjunction) (ih .conjunction) (fun _ _ _ _ hg => reader_spelled _ hg) hts
    (.single hleft)

theorem tracksBelow (bound : Nat) : TracksBelow bound := by
  induction bound using Nat.strongRecOn with
  | ind bound ih =>
    intro rank c hc
    -- the readers of the tighter ranks start at the same cursor, so only less than here is assumed
    have ih := ih c.size hc
    rcases rank with _ | _ | _ | _ | _
    · exact tracks_operand ih
    · exact tracks_comparison ih
    · exact tracks_condition ih
    · exact tracks_conjunction ih
    · exact tracks_disjunction ih

/-- **Reading an expression tracks it.** -/
theorem tracks_expression (c : Cursor) :
    (expression c).Tracks c (Spells (Expression.Spelled .disjunction)) :=
  tracksBelow (c.size + 1) .disjunction c (Nat.lt_succ_self _)

/-! ### Sources -/

/-- **The reader of source operands tracks them** at the cursors where less than a bound is left. -/
def SourceTracksBelow (bound : Nat) : Prop :=
  ∀ c : Cursor, c.size < bound → (sourceOperand c).Tracks c (Spells (Source.Spelled .operand))

theorem sourceOperand_spelled {c c' : Cursor} {s : Source} (hg : (sourceOperand c).Gives s c') :
    Across (Source.Spelled .operand) c s c' :=
  sourceSoundBelow (c.size + 1) c s c' (Nat.lt_succ_self _) hg

theorem sourceConjunction_spelled {c c' : Cursor} {s : Source}
    (hg : (sourceConjunction c).Gives s c') : Across (Source.Spelled .conjunction) c s c' :=
  sourceConjunction_sound (sourceSoundBelow (c.size + 1)) (Nat.lt_succ_self _) hg

theorem tracks_sourceConjunction (ih : SourceTracksBelow n) {c : Cursor} (hc : c.size < n) :
    (sourceConjunction c).Tracks c (Spells (Source.Spelled .conjunction)) := by
  rw [sourceConjunction]
  refine .andThen ((ih c hc).first (begins_of_spells id .alone)) fun left c₁ h₁ => ?_
  obtain ⟨ts, hts, hleft⟩ := sourceOperand_spelled h₁
  exact tracks_tail (fun left c hc => by rw [sourceConjunctionTail]) .conjunction
    begins_sourceOperand (fun c₁ hlt => ih c₁ (Nat.lt_trans hlt hc))
    (fun _ _ _ _ hg => sourceOperand_spelled hg) hts (.alone hleft)

theorem tracks_sourceDisjunction (ih : SourceTracksBelow n) {c : Cursor} (hc : c.size < n) :
    (source c).Tracks c (Spells (Source.Spelled .disjunction)) := by
  rw [source]
  refine .andThen ((tracks_sourceConjunction ih hc).first (begins_of_spells id .single))
    fun left c₁ h₁ => ?_
  obtain ⟨ts, hts, hleft⟩ := sourceConjunction_spelled h₁
  exact tracks_tail (fun left c hc => by rw [sourceDisjunctionTail]) .disjunction
    begins_sourceConjunction (fun c₁ hlt => tracks_sourceConjunction ih (Nat.lt_trans hlt hc))
    (fun _ _ _ _ hg => sourceConjunction_spelled hg) hts (.single hleft)

theorem tracks_negatedSource {c : Cursor} (ih : SourceTracksBelow c.size)
    (hk : c.token = .minus ∨ c.token = .keyword .negation) {hc : c.token ≠ .endOfInput} :
    (negatedSource c hc).Tracks c (Spells (Source.Spelled .operand)) := by
  rw [negatedSource]
  have hmore : ∀ us, Spells (Source.Spelled .operand) us →
      Begins (Spells (Source.Spelled .operand)) ([c.token] ++ us) := by
    rintro us ⟨s, hs⟩
    exact begins_self ⟨_, .negation hk hs⟩
  refine tracks_advance_andThen (reads_nil.mpr rfl) rfl (begins_sourceOperand.part hmore)
    fun c₁ h₁ hsign => ?_
  exact .andThen (.after hsign (ih c₁ h₁) hmore)
    fun _ _ _ => Reading.tracks_ok

theorem tracks_sourceOperand {c : Cursor} (ih : SourceTracksBelow c.size) :
    (sourceOperand c).Tracks c (Spells (Source.Spelled .operand)) := by
  rw [sourceOperand]
  split
  · next ht => exact tracks_negatedSource ih (.inl ht)
  · next ht => exact tracks_negatedSource ih (.inr ht)
  · next path ht =>
    obtain ⟨slashes, hpath, hlast⟩ := toList_folderOf path
    exact (tracks_take (reads_nil.mpr rfl)
      (begins_self ⟨_, by rw [ht]; exact .folder slashes hpath hlast⟩)).map
  · next name ht =>
    exact (tracks_take (reads_nil.mpr rfl) (begins_self ⟨_, by rw [ht]; exact .tag name⟩)).map
  · next target ht =>
    exact (tracks_take (reads_nil.mpr rfl) (begins_self ⟨_, by rw [ht]; exact .link target⟩)).map
  · next ht =>
    have hgroup : ∀ us, Spells (Source.Spelled .disjunction) us →
        Begins (Spells (Source.Spelled .operand)) ([.openParen] ++ us) := by
      rintro us ⟨s, hs⟩
      exact begins_of_one writable_closeParen ⟨s, .group hs⟩
    have htag : Begins (Spells (Source.Spelled .operand)) ([.openParen] ++ [.tag "x"]) :=
      hgroup _ ⟨_, .single (.alone spells_tag)⟩
    refine tracks_advance_andThen (reads_nil.mpr rfl) ht (htag.of_concat writable_tag)
      fun c₁ h₁ hopen => ?_
    refine .andThen (.after hopen (tracks_sourceDisjunction ih h₁) hgroup) fun s c₂ h₂ => ?_
    obtain ⟨ts, hts, hs⟩ := source_spelled h₂
    have hinner : c.Reads (.openParen :: ts) c₂ := reads_append.mpr ⟨c₁, hopen, hts⟩
    exact .andThen (tracks_expect writable_closeParen hinner (begins_self ⟨s, .group hs⟩))
      fun _ _ _ => Reading.tracks_ok
  · exact Reading.tracks_error (reads_nil.mpr rfl) begins_sourceOperand

theorem sourceTracksBelow (bound : Nat) : SourceTracksBelow bound := by
  induction bound using Nat.strongRecOn with
  | ind bound ih => exact fun c hc => tracks_sourceOperand (ih c.size hc)

/-- **Reading a source tracks it.** -/
theorem tracks_source (c : Cursor) :
    (source c).Tracks c (Spells (Source.Spelled .disjunction)) :=
  tracks_sourceDisjunction (sourceTracksBelow (c.size + 1)) (Nat.lt_succ_self _)

/-! ### Queries -/

theorem tracks_givenName {start c : Cursor} {e : Expression} {h : c.size < n}
    (hts : start.Reads ts c) (he : e.Spelled .disjunction ts) :
    (givenName c h).Tracks start (Spells Column.Spelled) := by
  rw [givenName]
  split
  · next hk =>
    have hnaming : Begins (Spells Column.Spelled) (ts ++ [.keyword .naming]) := by
      refine begins_of_one writable_name ⟨⟨e, some "x"⟩, ?_⟩
      rw [List.append_assoc]
      exact .named he (.identifier "x")
    refine tracks_advance_andThen hts hk hnaming fun c₁ h₁ hword => ?_
    split
    · next name ha =>
      refine .andThen (tracks_take hword (begins_self ⟨⟨e, some name⟩, ?_⟩))
        fun _ _ _ => Reading.tracks_ok
      rw [List.append_assoc]
      exact .named he (Token.givenName?_eq_some_iff.mp ha)
    · exact Reading.tracks_error hword hnaming
  · exact Reading.tracks_ok

theorem tracks_columns (c : Cursor) : (columns c).Tracks c (Spells (Several Column.Spelled)) :=
  tracks_list givenName Column.mk (fun c => by rw [columns]) tracks_expression
    (fun he => ⟨_, .plain he⟩) tracks_givenName givenName_spelled c

theorem tracks_direction {start c : Cursor} {e : Expression} {h : c.size < n}
    (hts : start.Reads ts c) (he : e.Spelled .disjunction ts) :
    (direction c h).Tracks start (Spells SortKey.Spelled) := by
  rw [direction]
  split
  · next hk =>
    exact .andThen (tracks_pass hts (begins_self ⟨_, by rw [hk]; exact .ascending he⟩))
      fun _ _ _ => Reading.tracks_ok
  · split
    · next hk =>
      exact .andThen (tracks_pass hts (begins_self ⟨_, by rw [hk]; exact .descending he⟩))
        fun _ _ _ => Reading.tracks_ok
    · exact Reading.tracks_ok

theorem tracks_sortKeys (c : Cursor) : (sortKeys c).Tracks c (Spells SortSpelled) :=
  tracks_list direction SortKey.mk (fun c => by rw [sortKeys]) tracks_expression
    (fun he => ⟨_, .plain he⟩) tracks_direction direction_spelled c

theorem begins_limit : Begins (Spells LimitSpelled) [] :=
  begins_of_one writable_one ⟨_, limitSpelled_of_pos (by decide)⟩

theorem tracks_limitNumber (c : Cursor) : (limitNumber c).Tracks c (Spells LimitSpelled) := by
  rw [limitNumber]
  split
  · next k ht =>
    split
    · next hpos =>
      exact (tracks_pass (reads_nil.mpr rfl)
        (begins_self ⟨_, by rw [ht]; exact limitSpelled_of_pos hpos⟩)).map
    · exact Reading.tracks_error (reads_nil.mpr rfl) begins_limit
  · exact Reading.tracks_error (reads_nil.mpr rfl) begins_limit

/-- **A clause tracks itself**, if its body does and there is a body. -/
theorem tracks_clause {word : Keyword} {read : (c : Cursor) → Reading α c.size}
    {Body : List Token → α → Prop} (hread : ∀ c, (read c).Tracks c (Spells Body))
    (hbegins : Begins (Spells Body) []) {c : Cursor} {h : c.size < n} :
    (clause word read c h).Tracks c (Spells (Clause word Body)) := by
  rw [clause]
  split
  · next hk =>
    have hbody : ∀ us, Spells Body us →
        Begins (Spells (Clause word Body)) ([.keyword word] ++ us) := by
      rintro us ⟨x, hx⟩
      exact begins_self ⟨some x, us, rfl, hx⟩
    refine tracks_advance_andThen (reads_nil.mpr rfl) hk (hbegins.part hbody) fun c₁ h₁ hword => ?_
    exact .andThen (.after hword (hread c₁) hbody) fun _ _ _ => Reading.tracks_ok
  · exact Reading.tracks_ok

theorem tracks_formColumns {form : Form} {c : Cursor} {h : c.size < n} :
    (formColumns form c h).Tracks c (Spells (ColumnsSpelled form)) := by
  rw [formColumns]
  split
  · exact Reading.tracks_ok
  · split
    · next hform =>
      exact .andThen ((tracks_columns c).first (begins_of_spells id fun h => .inr ⟨hform, h⟩))
        fun _ _ _ => Reading.tracks_ok
    · exact Reading.tracks_error (reads_nil.mpr rfl) (begins_self ⟨[], .inl ⟨rfl, rfl⟩⟩)

theorem begins_sortKeys : Begins (Spells SortSpelled) [] :=
  begins_of_one writable_name ⟨_, several_singleton (.plain (spelled_name .disjunction))⟩

theorem begins_source : Begins (Spells (Source.Spelled .disjunction)) [] :=
  begins_of_one writable_tag ⟨_, .single (.alone spells_tag)⟩

/-- The tokens of a query in front of the end. -/
def IsQuery (ts : List Token) : Prop := ∃ q : Query, q.Spelled (ts ++ [.endOfInput])

/-- A clause that is left out. -/
theorem spells_no_clause {word : Keyword} {Body : List Token → α → Prop} :
    Spells (Clause word Body) [] := ⟨none, rfl⟩

/-- The parts of a query, each of which may be left out but the first. -/
theorem isQuery_of_parts {t : Token} {form : Form} {cs ss ws ks ls : List Token}
    (hform : form.Spelled t) (hcolumns : Spells (ColumnsSpelled form) cs)
    (hsource : Spells (Clause .source (Source.Spelled .disjunction)) ss)
    (hcondition : Spells (Clause .condition (Expression.Spelled .disjunction)) ws)
    (hsort : Spells (Clause .sort SortSpelled) ks)
    (hlimit : Spells (Clause .limit LimitSpelled) ls) :
    IsQuery ([t] ++ cs ++ ss ++ ws ++ ks ++ ls) := by
  obtain ⟨columns, hcolumns⟩ := hcolumns
  obtain ⟨source, hsource⟩ := hsource
  obtain ⟨condition, hcondition⟩ := hcondition
  obtain ⟨sort, hsort⟩ := hsort
  obtain ⟨limit, hlimit⟩ := hlimit
  refine ⟨⟨form, columns, source, condition, sort.getD [], limit⟩, ?_⟩
  simpa using Query.Spelled.query hform hcolumns hsource hcondition hsort hlimit

/-- The form of a query alone is a query. -/
theorem isQuery_of_form {t : Token} {form : Form} (hform : form.Spelled t) : IsQuery [t] := by
  simpa using isQuery_of_parts hform ⟨[], .inl ⟨rfl, rfl⟩⟩ spells_no_clause spells_no_clause
    spells_no_clause spells_no_clause

theorem begins_query : Begins IsQuery [] := begins_of_one writable_list (isQuery_of_form .list)

/-- **Reading a query tracks it.** -/
theorem tracks_query (c : Cursor) : (query c).Tracks c IsQuery := by
  rw [query]
  split
  · split
    · exact Reading.tracks_error (reads_nil.mpr rfl) begins_query
    · exact Reading.tracks_error (reads_nil.mpr rfl) begins_query
  · next form hf =>
    have hform : form.Spelled c.token := Token.form?_eq_some_iff.mp hf
    refine tracks_advance_andThen (reads_nil.mpr rfl) rfl (begins_self (isQuery_of_form hform))
      fun c₁ h₁ hword => ?_
    refine .andThen (.after hword tracks_formColumns fun cs hcs => begins_self ?_) fun _ c₂ h₂ => ?_
    · simpa using isQuery_of_parts hform hcs spells_no_clause spells_no_clause spells_no_clause
        spells_no_clause
    obtain ⟨cs, hcs, hcolumns⟩ := formColumns_spelled h₂
    have hreads := reads_append.mpr ⟨c₁, hword, hcs⟩
    refine .andThen (.after hreads (tracks_clause tracks_source begins_source)
      fun ss hss => begins_self ?_) fun _ c₃ h₃ => ?_
    · simpa using isQuery_of_parts hform ⟨_, hcolumns⟩ hss spells_no_clause spells_no_clause
        spells_no_clause
    obtain ⟨ss, hss, hsource⟩ := clause_spelled source_spelled h₃
    have hreads := reads_append.mpr ⟨c₂, hreads, hss⟩
    refine .andThen (.after hreads (tracks_clause tracks_expression (begins_expression _))
      fun ws hws => begins_self ?_) fun _ c₄ h₄ => ?_
    · simpa using isQuery_of_parts hform ⟨_, hcolumns⟩ ⟨_, hsource⟩ hws spells_no_clause
        spells_no_clause
    obtain ⟨ws, hws, hcondition⟩ := clause_spelled expression_spelled h₄
    have hreads := reads_append.mpr ⟨c₃, hreads, hws⟩
    refine .andThen (.after hreads (tracks_clause tracks_sortKeys begins_sortKeys)
      fun ks hks => begins_self ?_) fun _ c₅ h₅ => ?_
    · simpa using isQuery_of_parts hform ⟨_, hcolumns⟩ ⟨_, hsource⟩ ⟨_, hcondition⟩ hks
        spells_no_clause
    obtain ⟨ks, hks, hsort⟩ := clause_spelled sortKeys_spelled h₅
    have hreads := reads_append.mpr ⟨c₄, hreads, hks⟩
    refine .andThen (.after hreads (tracks_clause tracks_limitNumber begins_limit)
      fun ls hls => begins_self ?_) fun _ c₆ h₆ => ?_
    · simpa using isQuery_of_parts hform ⟨_, hcolumns⟩ ⟨_, hsource⟩ ⟨_, hcondition⟩ ⟨_, hsort⟩ hls
    obtain ⟨ls, hls, hlimit⟩ := clause_spelled limitNumber_spelled h₆
    have hreads := reads_append.mpr ⟨c₅, hreads, hls⟩
    split
    · exact Reading.tracks_ok
    · exact Reading.tracks_error hreads (begins_self (isQuery_of_parts hform ⟨_, hcolumns⟩
        ⟨_, hsource⟩ ⟨_, hcondition⟩ ⟨_, hsort⟩ ⟨_, hlimit⟩))

end Cursor

end Notebook.Query
