import Notebook.Proofs.Query.Tokens

/-!
# What is read is spelled

Every reader that gives a value has read tokens that spell the value. The argument is one strong
induction on how much is left (`Notebook.Query.Cursor.SoundBelow`): a reader of some rank calls the
one of the next tighter rank at its own cursor, and all readers only at cursors where less is left.

Two shapes occur several times and are settled once each: a chain of a connective, where what is
already read grows to the left (`Notebook.Query.Cursor.Extends.sound`), and a list with commas
(`Notebook.Query.Cursor.Lists.sound`).
-/

namespace Notebook.Query

namespace Cursor

variable {α : Type} {n : Nat}

/-- The tokens between two cursors are as `Item` asks. -/
def Across (Item : List Token → α → Prop) (c : Cursor) (x : α) (c' : Cursor) : Prop :=
  ∃ ts, c.Reads ts c' ∧ Item ts x

/-! ### Chains and lists -/

/-- **A chain of a connective is sound**: if the items are, and joining one more item to a spelling
gives a spelling, then the whole is spelled by what was there before and what is read. -/
theorem Extends.sound {word : Keyword} {item : (c : Cursor) → Reading α c.size}
    {join : α → α → α} {tail : α → (c : Cursor) → c.size < n → Reading α n}
    (hx : Extends word item join tail) (Whole Item : List Token → α → Prop)
    (hjoin : ∀ {ts us left right}, Whole ts left → Item us right →
      Whole (ts ++ .keyword word :: us) (join left right))
    (hitem : ∀ c₁ x c₂, c₁.size < n → (item c₁).Gives x c₂ → Across Item c₁ x c₂)
    {left value : α} {c c' : Cursor} {h : c.size < n} {ts : List Token}
    (hg : (tail left c h).Gives value c') (hleft : Whole ts left) :
    ∃ us, c.Reads us c' ∧ Whole (ts ++ us) value := by
  -- the induction is on how much is left, and the part already read grows
  induction hs : c.size using Nat.strongRecOn generalizing left c ts with
  | ind size ih =>
    rcases (hx left c h value c').mp hg with
      ⟨hk, c₁, right, c₂, h₁, h₂, hc₂, hg⟩ | ⟨-, rfl, rfl⟩
    · have hlt : c₁.size < c.size := h₁.size_lt
      obtain ⟨us, hus, hright⟩ := hitem c₁ right c₂ (by omega) h₂
      have hlt₂ : c₂.size < c₁.size := h₂.size_lt
      obtain ⟨vs, hvs, hvalue⟩ := ih c₂.size (by omega) hg (hjoin hleft hright) rfl
      refine ⟨.keyword word :: (us ++ vs), ?_, by simpa using hvalue⟩
      exact reads_cons.mpr ⟨hk, c₁, h₁, reads_append.mpr ⟨c₂, hus, hvs⟩⟩
    · exact ⟨[], rfl, by simpa using hleft⟩

theorem listed_singleton {Item : List Token → α → Prop} {ts : List Token} {x : α} (h : Item ts x) :
    Listed Item ts [x] :=
  ⟨[(ts, x)], by simpa using h, by simp, rfl⟩

theorem Listed.cons {Item : List Token → α → Prop} {ts us : List Token} {x : α} {xs : List α}
    (h : Item ts x) (hxs : Listed Item us xs) (hne : xs ≠ []) :
    Listed Item (ts ++ .comma :: us) (x :: xs) := by
  obtain ⟨parts, hparts, rfl, rfl⟩ := hxs
  refine ⟨(ts, x) :: parts, List.forall_mem_cons.mpr ⟨h, hparts⟩, ?_, rfl⟩
  rw [List.map_cons, List.intercalate_cons_of_ne_nil (by simpa using hne)]
  simp

/-- **A list with commas is sound** if its items are; what is left at the end is up to its stop. -/
theorem Lists.sound {Item : Cursor → α → Cursor → Prop} {Stop : Cursor → Cursor → Prop}
    {All : Cursor → List α → Cursor → Prop} (hl : Lists Item Stop All)
    (Spelled : List Token → α → Prop)
    (hitem : ∀ c₁ x c₂, c₁.size < n → Item c₁ x c₂ →
      c₂.size < c₁.size ∧ Across Spelled c₁ x c₂)
    {c c' : Cursor} {xs : List α} (hc : c.size < n) (hall : All c xs c') :
    xs ≠ [] ∧ ∃ c₁, Across (Listed Spelled) c xs c₁ ∧ Stop c₁ c' := by
  induction hs : c.size using Nat.strongRecOn generalizing c xs with
  | ind size ih =>
    obtain ⟨x, c₁, h₁, hrest⟩ := (hl c xs c').mp hall
    obtain ⟨hlt, ts, hts, hx⟩ := hitem c x c₁ hc h₁
    rcases hrest with ⟨hcomma, c₂, others, h₂, hothers, rfl⟩ | ⟨hstop, rfl⟩
    · have hlt₂ : c₂.size < c₁.size := h₂.size_lt
      obtain ⟨hne, c₃, ⟨us, hus, hlisted⟩, hstop⟩ := ih c₂.size (by omega) (by omega) hothers rfl
      refine ⟨by simp, c₃, ⟨ts ++ .comma :: us, ?_, Listed.cons hx hlisted hne⟩, hstop⟩
      exact reads_append.mpr ⟨c₁, hts, hcomma, c₂, h₂, hus⟩
    · exact ⟨by simp, c₁, ⟨ts, hts, listed_singleton hx⟩, hstop⟩

/-! ### Expressions -/

/-- The reader of a rank. -/
def reader : Rank → (c : Cursor) → Reading Expression c.size
  | .operand => operand
  | .comparison => comparison
  | .condition => condition
  | .conjunction => conjunction
  | .disjunction => expression

/-- **All readers of expressions are sound** at the cursors where less than a bound is left. -/
def SoundBelow (bound : Nat) : Prop :=
  ∀ (rank : Rank) (c : Cursor) (e : Expression) (c' : Cursor), c.size < bound →
    (reader rank c).Gives e c' → Across (Expression.Spelled rank) c e c'

theorem pathTail_sound {segments names : List String} {c c' : Cursor} {h : c.size < n}
    (hg : (pathTail segments c h).Gives names c') :
    ∃ others, names = segments ++ others ∧
      c.Reads (others.flatMap fun name => [.dot, .identifier name]) c' := by
  induction hs : c.size using Nat.strongRecOn generalizing segments c with
  | ind size ih =>
    rcases gives_pathTail.mp hg with ⟨hd, c₁, name, c₂, h₁, ht, h₂, hc₂, hg⟩ | ⟨-, rfl, rfl⟩
    · have hlt₁ := h₁.size_lt
      have hlt₂ := h₂.size_lt
      obtain ⟨others, hnames, hreads⟩ := ih c₂.size (by omega) hg rfl
      refine ⟨name :: others, by simp [hnames], ?_⟩
      exact ⟨hd, c₁, h₁, ht, c₂, h₂, hreads⟩
    · exact ⟨[], by simp, rfl⟩

theorem arguments_sound {c c' : Cursor} {values : List Expression} (ih : SoundBelow n)
    (hc : c.size < n) (hg : (arguments c).Gives values c') :
    ∃ c₁, Across (Listed (Expression.Spelled .disjunction)) c values c₁ ∧
      c₁.token = .closeParen ∧ c₁.Steps c' := by
  rcases gives_arguments.mp hg with ⟨hp, hs, rfl⟩ | ⟨-, hg⟩
  · exact ⟨c, ⟨[], rfl, [], by simp, rfl, rfl⟩, hp, hs⟩
  · have hitem : ∀ c₁ e c₂, c₁.size < n → (expression c₁).Gives e c₂ →
        c₂.size < c₁.size ∧ Across (Expression.Spelled .disjunction) c₁ e c₂ :=
      fun c₁ e c₂ hlt he => ⟨he.size_lt, ih .disjunction c₁ e c₂ hlt he⟩
    exact (lists_argumentList.sound _ hitem hc hg).2

theorem operand_sound {c c' : Cursor} {e : Expression} (ih : SoundBelow c.size)
    (hg : (operand c).Gives e c') : Across (Expression.Spelled .operand) c e c' := by
  rcases gives_operand.mp hg with ⟨value, hl, hs, rfl⟩ | ⟨ht, c₁, c₂, h₁, he, hp, h₂⟩ |
    ⟨name, c₁, ht, h₁, ⟨hp, c₂, values, h₂, hvalues, rfl⟩ | ⟨-, hlt, hf⟩⟩
  · exact ⟨[c.token], hs.reads rfl, .literal (Token.literal?_eq_some_iff.mp hl)⟩
  · obtain ⟨ts, hts, hspelled⟩ := ih .disjunction c₁ e c₂ h₁.size_lt he
    refine ⟨.openParen :: (ts ++ [.closeParen]), ?_, .group hspelled⟩
    exact ⟨ht, c₁, h₁, reads_append.mpr ⟨c₂, hts, h₂.reads hp⟩⟩
  · have hlt : c₂.size < c.size := Nat.lt_trans h₂.size_lt h₁.size_lt
    obtain ⟨c₃, ⟨ts, hts, parts, hparts, rfl, rfl⟩, hp', h₃⟩ := arguments_sound ih hlt hvalues
    refine ⟨_, ?_, .call name parts hparts⟩
    exact ⟨ht, c₁, h₁, hp, c₂, h₂, reads_append.mpr ⟨c₃, hts, h₃.reads hp'⟩⟩
  · obtain ⟨segments, hpath, -, rfl⟩ := gives_fieldPath.mp hf
    obtain ⟨others, rfl, hreads⟩ := pathTail_sound hpath
    exact ⟨pathTokens name others, ⟨ht, c₁, h₁, hreads⟩, .field name others⟩

theorem comparison_sound {c c' : Cursor} {e : Expression} (ih : SoundBelow c.size)
    (hg : (comparison c).Gives e c') : Across (Expression.Spelled .comparison) c e c' := by
  obtain ⟨left, c₁, hleft, ⟨operator, c₂, right, hop, h₁, hright, rfl⟩ | ⟨-, rfl, rfl⟩⟩ :=
    gives_comparison.mp hg
  · obtain ⟨ts, hts, hl⟩ := operand_sound ih hleft
    have hlt : c₂.size < c.size := Nat.lt_trans h₁.size_lt hleft.size_lt
    obtain ⟨us, hus, hr⟩ := ih .operand c₂ right c' hlt hright
    refine ⟨ts ++ c₁.token :: us, ?_, .comparison (Token.comparison?_eq_some_iff.mp hop) hl hr⟩
    exact reads_append.mpr ⟨c₁, hts, rfl, c₂, h₁, hus⟩
  · obtain ⟨ts, hts, hl⟩ := operand_sound ih hleft
    exact ⟨ts, hts, .alone hl⟩

theorem condition_sound {c c' : Cursor} {e : Expression} (ih : SoundBelow c.size)
    (hg : (condition c).Gives e c') : Across (Expression.Spelled .condition) c e c' := by
  rcases gives_condition.mp hg with ⟨hn, c₁, operand, h₁, hoperand, rfl⟩ | ⟨-, hg⟩
  · obtain ⟨ts, hts, hspelled⟩ := ih .condition c₁ operand c' h₁.size_lt hoperand
    exact ⟨c.token :: ts, ⟨rfl, c₁, h₁, hts⟩, .negation hn hspelled⟩
  · obtain ⟨ts, hts, hspelled⟩ := comparison_sound ih hg
    exact ⟨ts, hts, .plain hspelled⟩

theorem conjunction_sound {c c' : Cursor} {e : Expression} (ih : SoundBelow c.size)
    (hg : (conjunction c).Gives e c') : Across (Expression.Spelled .conjunction) c e c' := by
  obtain ⟨left, c₁, hleft, htail⟩ := gives_conjunction.mp hg
  obtain ⟨ts, hts, hl⟩ := condition_sound ih hleft
  obtain ⟨us, hus, he⟩ := extends_conjunctionTail.sound (Expression.Spelled .conjunction)
    (Expression.Spelled .condition) .conjunction (ih .condition) htail (.condition hl)
  exact ⟨ts ++ us, reads_append.mpr ⟨c₁, hts, hus⟩, he⟩

theorem expression_sound {c c' : Cursor} {e : Expression} (ih : SoundBelow c.size)
    (hg : (expression c).Gives e c') : Across (Expression.Spelled .disjunction) c e c' := by
  obtain ⟨left, c₁, hleft, htail⟩ := gives_expression.mp hg
  obtain ⟨ts, hts, hl⟩ := conjunction_sound ih hleft
  obtain ⟨us, hus, he⟩ := extends_disjunctionTail.sound (Expression.Spelled .disjunction)
    (Expression.Spelled .conjunction) .disjunction (ih .conjunction) htail (.single hl)
  exact ⟨ts ++ us, reads_append.mpr ⟨c₁, hts, hus⟩, he⟩

/-- **Every reader of expressions is sound.** -/
theorem soundBelow (bound : Nat) : SoundBelow bound := by
  induction bound using Nat.strongRecOn with
  | ind bound ih =>
    intro rank c e c' hc hg
    -- the readers of the tighter ranks start at the same cursor, so only less than here is assumed
    have ih := ih c.size hc
    cases rank with
    | operand => exact operand_sound ih hg
    | comparison => exact comparison_sound ih hg
    | condition => exact condition_sound ih hg
    | conjunction => exact conjunction_sound ih hg
    | disjunction => exact expression_sound ih hg

/-- **What is read as an expression is spelled.** -/
theorem expression_spelled {c c' : Cursor} {e : Expression} (hg : (expression c).Gives e c') :
    Across (Expression.Spelled .disjunction) c e c' :=
  soundBelow (c.size + 1) .disjunction c e c' (Nat.lt_succ_self _) hg

/-! ### Sources -/

theorem toList_folderOf (path : String) :
    ∃ slashes, path.toList = (folderOf path).toList ++ List.replicate slashes '/' ∧
      (folderOf path).toList.getLast? ≠ some '/' := by
  have hsplit := List.takeWhile_append_dropWhile (p := (· == '/')) (l := path.toList.reverse)
  refine ⟨(path.toList.reverse.takeWhile (· == '/')).length, ?_, ?_⟩
  · have htake : path.toList.reverse.takeWhile (· == '/') =
        List.replicate (path.toList.reverse.takeWhile (· == '/')).length '/' :=
      List.eq_replicate_of_mem fun c hc => by
        simpa using List.all_eq_true.mp List.all_takeWhile c hc
    rw [← List.reverse_inj, folderOf, Text.dropEndWhile, String.toList_ofList, List.reverse_append,
      List.reverse_reverse, List.reverse_replicate, ← htake, hsplit]
  · rw [folderOf, Text.dropEndWhile, String.toList_ofList, List.getLast?_reverse]
    intro h
    have := List.head?_dropWhile_not (· == '/') path.toList.reverse
    simp [h] at this

/-- **The reader of source operands is sound** at the cursors where less than a bound is left. -/
def SourceSoundBelow (bound : Nat) : Prop :=
  ∀ (c : Cursor) (s : Source) (c' : Cursor), c.size < bound →
    (sourceOperand c).Gives s c' → Across (Source.Spelled .operand) c s c'

theorem sourceConjunction_sound {c c' : Cursor} {s : Source} (ih : SourceSoundBelow n)
    (hc : c.size < n) (hg : (sourceConjunction c).Gives s c') :
    Across (Source.Spelled .conjunction) c s c' := by
  obtain ⟨left, c₁, hleft, htail⟩ := gives_sourceConjunction.mp hg
  obtain ⟨ts, hts, hl⟩ := ih c left c₁ hc hleft
  obtain ⟨us, hus, hs⟩ := extends_sourceConjunctionTail.sound (Source.Spelled .conjunction)
    (Source.Spelled .operand) .conjunction
    (fun c₁ x c₂ hlt hx => ih c₁ x c₂ (Nat.lt_trans hlt hc) hx) htail (.alone hl)
  exact ⟨ts ++ us, reads_append.mpr ⟨c₁, hts, hus⟩, hs⟩

theorem source_sound {c c' : Cursor} {s : Source} (ih : SourceSoundBelow n) (hc : c.size < n)
    (hg : (source c).Gives s c') : Across (Source.Spelled .disjunction) c s c' := by
  obtain ⟨left, c₁, hleft, htail⟩ := gives_source.mp hg
  obtain ⟨ts, hts, hl⟩ := sourceConjunction_sound ih hc hleft
  obtain ⟨us, hus, hs⟩ := extends_sourceDisjunctionTail.sound (Source.Spelled .disjunction)
    (Source.Spelled .conjunction) .disjunction
    (fun c₁ x c₂ hlt hx => sourceConjunction_sound ih (Nat.lt_trans hlt hc) hx) htail (.single hl)
  exact ⟨ts ++ us, reads_append.mpr ⟨c₁, hts, hus⟩, hs⟩

theorem sourceOperand_sound {c c' : Cursor} {s : Source} (ih : SourceSoundBelow c.size)
    (hg : (sourceOperand c).Gives s c') : Across (Source.Spelled .operand) c s c' := by
  rcases gives_sourceOperand.mp hg with ⟨hn, c₁, inner, h₁, hinner, rfl⟩ | ⟨path, ht, hs, rfl⟩ |
    ⟨name, ht, hs, rfl⟩ | ⟨target, ht, hs, rfl⟩ | ⟨ht, c₁, c₂, h₁, hsource, hp, h₂⟩
  · obtain ⟨ts, hts, hspelled⟩ := ih c₁ inner c' h₁.size_lt hinner
    exact ⟨c.token :: ts, ⟨rfl, c₁, h₁, hts⟩, .negation hn hspelled⟩
  · obtain ⟨slashes, hpath, hlast⟩ := toList_folderOf path
    exact ⟨[.string path], hs.reads ht, .folder slashes hpath hlast⟩
  · exact ⟨[.tag name], hs.reads ht, .tag name⟩
  · exact ⟨[.link target], hs.reads ht, .link target⟩
  · obtain ⟨ts, hts, hspelled⟩ := source_sound ih h₁.size_lt hsource
    refine ⟨.openParen :: (ts ++ [.closeParen]), ?_, .group hspelled⟩
    exact ⟨ht, c₁, h₁, reads_append.mpr ⟨c₂, hts, h₂.reads hp⟩⟩

theorem sourceSoundBelow (bound : Nat) : SourceSoundBelow bound := by
  induction bound using Nat.strongRecOn with
  | ind bound ih => exact fun c s c' hc hg => sourceOperand_sound (ih c.size hc) hg

/-- **What is read as a source is spelled.** -/
theorem source_spelled {c c' : Cursor} {s : Source} (hg : (source c).Gives s c') :
    Across (Source.Spelled .disjunction) c s c' :=
  source_sound (sourceSoundBelow (c.size + 1)) (Nat.lt_succ_self _) hg

/-! ### Queries -/

theorem givenName_spelled {ts : List Token} {c c₁ c' : Cursor} {e : Expression}
    {name : Option String} {h : c₁.size < n} (hts : c.Reads ts c₁) (he : e.Spelled .disjunction ts)
    (hg : (givenName c₁ h).Gives name c') : Across Column.Spelled c ⟨e, name⟩ c' := by
  rcases gives_givenName.mp hg with ⟨hk, c₂, s, h₁, ha, h₂, rfl⟩ | ⟨-, rfl, rfl⟩
  · refine ⟨ts ++ [.keyword .naming, c₂.token], ?_,
      .named he (Token.givenName?_eq_some_iff.mp ha)⟩
    exact reads_append.mpr ⟨c₁, hts, hk, c₂, h₁, h₂.reads rfl⟩
  · exact ⟨ts, hts, .plain he⟩

theorem columns_spelled {c c' : Cursor} {cs : List Column} (hg : (columns c).Gives cs c') :
    cs ≠ [] ∧ Across (Listed Column.Spelled) c cs c' := by
  obtain ⟨hne, c₁, hlisted, -, rfl⟩ := lists_columns.sound Column.Spelled
    (fun c₁ column c₂ _ ⟨e, name, d, he, hname, hcolumn⟩ => by
      obtain ⟨ts, hts, hspelled⟩ := expression_spelled he
      exact ⟨hname.size_lt, hcolumn ▸ givenName_spelled hts hspelled hname⟩)
    (Nat.lt_succ_self c.size) hg
  exact ⟨hne, hlisted⟩

theorem direction_spelled {ts : List Token} {c c₁ c' : Cursor} {e : Expression} {d : Direction}
    {h : c₁.size < n} (hts : c.Reads ts c₁) (he : e.Spelled .disjunction ts)
    (hg : (direction c₁ h).Gives d c') : Across SortKey.Spelled c ⟨e, d⟩ c' := by
  rcases gives_direction.mp hg with ⟨hk, hs, rfl⟩ | ⟨hk, hs, rfl⟩ | ⟨-, -, rfl, rfl⟩
  · exact ⟨_, reads_append.mpr ⟨c₁, hts, hs.reads hk⟩, .ascending he⟩
  · exact ⟨_, reads_append.mpr ⟨c₁, hts, hs.reads hk⟩, .descending he⟩
  · exact ⟨ts, hts, .plain he⟩

theorem sortKeys_spelled {c c' : Cursor} {keys : List SortKey} (hg : (sortKeys c).Gives keys c') :
    Across SortSpelled c keys c' := by
  obtain ⟨hne, c₁, ⟨ts, hts, hlisted⟩, -, rfl⟩ := lists_sortKeys.sound SortKey.Spelled
    (fun c₁ key c₂ _ ⟨e, d, d₁, he, hd, hkey⟩ => by
      obtain ⟨ts, hts, hspelled⟩ := expression_spelled he
      exact ⟨hd.size_lt, hkey ▸ direction_spelled hts hspelled hd⟩)
    (Nat.lt_succ_self c.size) hg
  exact ⟨ts, hts, hne, hlisted⟩

theorem limitSpelled_of_pos {k : Int64} (hpos : 0 < k) :
    LimitSpelled [.integer k] k.toNatClampNeg := by
  have hk : 0 < k.toInt := Int64.lt_iff_toInt_lt.mp hpos
  have hn : (k.toNatClampNeg : Int) = k.toInt := by
    rw [← Int64.toNat_toInt]
    exact Int.toNat_of_nonneg (Int.le_of_lt hk)
  exact ⟨by omega, k, rfl, hn.symm⟩

theorem limitNumber_spelled {c c' : Cursor} {limit : Nat} (hg : (limitNumber c).Gives limit c') :
    Across LimitSpelled c limit c' := by
  obtain ⟨k, ht, hpos, hs, rfl⟩ := gives_limitNumber.mp hg
  exact ⟨[.integer k], hs.reads ht, limitSpelled_of_pos hpos⟩

/-- A clause is sound if its body is. -/
theorem clause_spelled {word : Keyword} {read : (c : Cursor) → Reading α c.size}
    {Body : List Token → α → Prop}
    (hread : ∀ {c₁ x c₂}, (read c₁).Gives x c₂ → Across Body c₁ x c₂)
    {c c' : Cursor} {value : Option α} {h : c.size < n}
    (hg : (clause word read c h).Gives value c') : Across (Clause word Body) c value c' := by
  rcases gives_clause.mp hg with ⟨hk, c₁, x, h₁, hx, rfl⟩ | ⟨-, rfl, rfl⟩
  · obtain ⟨ts, hts, hbody⟩ := hread hx
    exact ⟨.keyword word :: ts, ⟨hk, c₁, h₁, hts⟩, ts, rfl, hbody⟩
  · exact ⟨[], rfl, rfl⟩

theorem formColumns_spelled {form : Form} {c c' : Cursor} {cs : List Column} {h : c.size < n}
    (hg : (formColumns form c h).Gives cs c') : Across (ColumnsSpelled form) c cs c' := by
  rcases gives_formColumns.mp hg with ⟨-, rfl, rfl⟩ | ⟨-, hform, hg⟩
  · exact ⟨[], rfl, Or.inl ⟨rfl, rfl⟩⟩
  · obtain ⟨hne, ts, hts, hlisted⟩ := columns_spelled hg
    exact ⟨ts, hts, Or.inr ⟨hform, hne, hlisted⟩⟩

/-- **What is read as a query is spelled**, through the end of the text. -/
theorem query_spelled {c c' : Cursor} {q : Query} (hg : (query c).Gives q c') :
    c'.token = .endOfInput ∧ ∃ ts, c.Reads ts c' ∧ q.Spelled (ts ++ [.endOfInput]) := by
  obtain ⟨form, columns, source, condition, sort, limit, c₁, c₂, c₃, c₄, c₅, _, _, _, _, _, hform,
    h₁, hcolumns, hsource, hcondition, hsort, hlimit, he, rfl⟩ := gives_query.mp hg
  obtain ⟨cs, hcs, hcolumns⟩ := formColumns_spelled hcolumns
  obtain ⟨ss, hss, hsource⟩ := clause_spelled source_spelled hsource
  obtain ⟨ws, hws, hcondition⟩ := clause_spelled expression_spelled hcondition
  obtain ⟨ks, hks, hsort⟩ := clause_spelled sortKeys_spelled hsort
  obtain ⟨ls, hls, hlimit⟩ := clause_spelled limitNumber_spelled hlimit
  refine ⟨he, c.token :: (cs ++ (ss ++ (ws ++ (ks ++ ls)))), ?_, ?_⟩
  · refine ⟨rfl, c₁, h₁, ?_⟩
    simp only [reads_append]
    exact ⟨c₂, hcs, c₃, hss, c₄, hws, c₅, hks, hls⟩
  · simpa using Query.Spelled.query (Token.form?_eq_some_iff.mp hform) hcolumns hsource hcondition
      hsort hlimit

end Cursor

end Notebook.Query
