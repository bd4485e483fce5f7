import Notebook.Proofs.Query.ExpressionText
import Notebook.Proofs.Query.SourceText

/-!
# The text of a query

A query that is put together in a program can hold anything: a limit of zero, a name with blanks in
it, a comparison of comparisons. Its canonical text is read as the query itself when it holds none
of what the language cannot say (`Notebook.Query.Unambiguous`), however deep its expressions and
its source are nested. That is `Notebook.Query.parse_text`.
-/

namespace Notebook.Query

open Number

/-! ### Tokens -/

/-- The word of a form. -/
def Form.word : Form → Keyword
  | table => .table
  | list => .list
  | task => .task

theorem Form.text_word (form : Form) : form.word.text = form.text := by cases form <;> rfl

/-- The word of a direction. -/
def Direction.word : Direction → Keyword
  | ascending => .ascending
  | descending => .descending

theorem Direction.text_word (direction : Direction) : direction.word.text = direction.text := by
  cases direction <;> rfl

/-- The tokens of a column. -/
def Column.tokens (column : Column) : List Token :=
  column.expression.tokens ++
    match column.givenName with
    | some name => [.keyword .naming, .string name]
    | none => []

/-- The tokens of a sort key. -/
def SortKey.tokens (key : SortKey) : List Token :=
  key.expression.tokens ++ [.keyword key.direction.word]

/-- The tokens of a clause with its first word, when it is there. -/
def clauseTokens {α : Type} (word : Keyword) (tokens : α → List Token) : Option α → List Token
  | some x => .keyword word :: tokens x
  | none => []

/-- The tokens of a list clause with those that come before it, when there are items. -/
def listTokens {α : Type} (before : List Token) (tokens : α → List Token) (items : List α) :
    List Token :=
  if items.isEmpty then [] else before ++ [Token.comma].intercalate (items.map tokens)

/-- **The tokens of the canonical text** of a query, without the end. -/
def tokens (query : Query) : List Token :=
  .keyword query.form.word :: (listTokens [] Column.tokens query.columns ++
    (clauseTokens .source Source.tokens query.source ++
      (clauseTokens .condition Expression.tokens query.condition ++
        (listTokens [.keyword .sort] SortKey.tokens query.sort ++
          clauseTokens .limit (fun n => [.integer (.ofNat n)]) query.limit))))

/-! ### Unambiguous queries -/

/-- **A query whose canonical text can only be read as the query**: it says nothing that the
language cannot say. -/
structure Unambiguous (query : Query) : Prop where
  /-- Only a table has columns. -/
  columns : query.columns ≠ [] → query.form = .table
  /-- The limit is a positive integer. -/
  limit : ∀ n ∈ query.limit, 0 < n ∧ fitsInteger n = true
  /-- Names and numbers are read again from their texts, at any depth. -/
  legible : ∀ e ∈ query.expressions, ∀ part ∈ e.parts, part.IsLegible
  /-- Comparisons compare fields, literals and calls, at any depth. -/
  comparisons : ∀ e ∈ query.expressions, ∀ part ∈ e.parts, part.ComparesPrimaries
  /-- Folders, tags and links are read again from their texts. -/
  source : ∀ s ∈ query.source, ∀ leaf ∈ s.leaves, leaf.IsClear

/-! ### Reading the text -/

/-- A piece of text that is missing, or is read as some tokens after a blank. -/
def ReadAfter (piece : List Char) (ts : List Token) : Prop :=
  (piece = [] ∧ ts = []) ∨ ∃ others, piece = ' ' :: others ∧ ReadAs others ts

theorem ReadAs.after {piece other : List Char} {ts us : List Token} (h : ReadAs piece ts)
    (h' : ReadAfter other us) : ReadAs (piece ++ other) (ts ++ us) := by
  obtain ⟨rfl, rfl⟩ | ⟨others, rfl, hothers⟩ := h'
  · simpa using h
  · exact h.blank hothers

theorem readAfter_clause {α : Type} (word : Keyword) {text : α → String} {tokens : α → List Token}
    {x : Option α} (h : ∀ y ∈ x, ReadAs (text y).toList (tokens y)) :
    ReadAfter (clauseText word.text text x).toList (clauseTokens word tokens x) := by
  cases x with
  | none => exact .inl ⟨rfl, rfl⟩
  | some y =>
    have hpiece := (readAs_keyword word).blank (h y rfl)
    exact .inr ⟨_, by simp [clauseText], hpiece⟩

theorem readAfter_list {α : Type} {before : String} {us : List Token}
    (hbefore : ∀ {piece ts}, ReadAs piece ts → ReadAfter (before.toList ++ piece) (us ++ ts))
    {text : α → String} {tokens : α → List Token} {items : List α}
    (h : ∀ item ∈ items, ReadAs (text item).toList (tokens item)) :
    ReadAfter (listText before text items).toList (listTokens us tokens items) := by
  unfold listText listTokens
  split
  · exact .inl ⟨rfl, rfl⟩
  · rw [String.toList_append]
    exact hbefore (ReadAs.list h)

theorem readAs_column {column : Column} (h : ∀ part ∈ column.expression.parts, part.IsLegible) :
    ReadAs column.text.toList column.tokens := by
  have hexpression := Expression.readAs_text h
  obtain ⟨expression, _ | name⟩ := column
  · simpa [Column.text, Column.tokens] using hexpression
  · have hpiece := hexpression.blank ((readAs_keyword .naming).blank (readAs_quotedText name))
    simpa [Column.text, Column.tokens, Keyword.text] using hpiece

theorem readAs_sortKey {key : SortKey} (h : ∀ part ∈ key.expression.parts, part.IsLegible) :
    ReadAs key.text.toList key.tokens := by
  obtain ⟨expression, direction⟩ := key
  have hpiece := (Expression.readAs_text h).blank (readAs_keyword direction.word)
  rw [direction.text_word] at hpiece
  simpa [SortKey.text, SortKey.tokens] using hpiece

theorem toInt_ofNat {n : Nat} (h : fitsInteger n = true) : (Int64.ofNat n).toInt = n := by
  simp only [fitsInteger, Bool.and_eq_true, decide_eq_true_eq] at h
  exact Int64.toInt_ofNat_of_lt (Int.ofNat_lt.mp h.2)

theorem readAs_limit {n : Nat} (h : fitsInteger n = true) :
    ReadAs (digitsOf n).toList [.integer (.ofNat n)] := by
  have hpiece := readAs_integer (.ofNat n)
  rw [toInt_ofNat h] at hpiece
  have htext : integerText n = digitsOf n := by
    simp [integerText, show ¬(n : Int) < 0 by omega]
  rwa [htext] at hpiece

/-- **The text of a query is read as its tokens** when it is unambiguous. -/
theorem readAs_text {query : Query} (h : query.Unambiguous) :
    ReadAs query.text.toList query.tokens := by
  -- each clause with the blank in front of it, in the order of the text
  have hform := readAs_keyword query.form.word
  have hcolumns : ReadAfter (listText " " Column.text query.columns).toList
      (listTokens [] Column.tokens query.columns) := by
    refine readAfter_list (fun hpiece => .inr ⟨_, rfl, hpiece⟩) fun column hcolumn => ?_
    exact readAs_column (h.legible _ (mem_expressions_of_column hcolumn))
  have hsource := readAfter_clause .source (x := query.source) fun s hs =>
    Source.readAs_text (h.source s hs)
  have hcondition := readAfter_clause .condition (x := query.condition) fun e he =>
    Expression.readAs_text (h.legible e (mem_expressions_of_condition he))
  have hsort : ReadAfter (listText " SORT " SortKey.text query.sort).toList
      (listTokens [.keyword .sort] SortKey.tokens query.sort) := by
    refine readAfter_list (fun hpiece => .inr ⟨_, rfl, (readAs_keyword .sort).blank hpiece⟩)
      fun key hkey => ?_
    exact readAs_sortKey (h.legible _ (mem_expressions_of_sort hkey))
  have hlimit := readAfter_clause .limit (x := query.limit) fun n hn =>
    readAs_limit (h.limit n hn).2
  have hpiece :=
    ((((hform.after hcolumns).after hsource).after hcondition).after hsort).after hlimit
  rw [query.form.text_word] at hpiece
  simpa [text, tokens, Keyword.text] using hpiece

/-! ### Spelling the query -/

theorem listed_map {α : Type} (Item : List Token → α → Prop) {tokens : α → List Token}
    {items : List α} (h : ∀ item ∈ items, Item (tokens item) item) :
    Listed Item ([Token.comma].intercalate (items.map tokens)) items := by
  refine ⟨items.map fun item => (tokens item, item), ?_, ?_, ?_⟩
  · intro part hpart
    obtain ⟨item, hitem, rfl⟩ := List.mem_map.mp hpart
    exact h item hitem
  · simp only [List.map_map, Function.comp_def]
  · simp only [List.map_map, Function.comp_def, List.map_id']

theorem clause_map {α : Type} (word : Keyword) (Body : List Token → α → Prop)
    (tokens : α → List Token) {x : Option α} (h : ∀ y ∈ x, Body (tokens y) y) :
    Clause word Body (clauseTokens word tokens x) x := by
  cases x with
  | none => rfl
  | some y => exact ⟨tokens y, rfl, h y rfl⟩

theorem Form.spelled_word (form : Form) : form.Spelled (.keyword form.word) := by
  cases form <;> constructor

theorem Column.spelled_tokens {column : Column}
    (h : column.expression.Spelled .disjunction column.expression.tokens) :
    column.Spelled column.tokens := by
  obtain ⟨expression, _ | name⟩ := column
  · simpa [tokens] using Column.Spelled.plain h
  · exact .named h (.string name)

theorem SortKey.spelled_tokens {key : SortKey}
    (h : key.expression.Spelled .disjunction key.expression.tokens) : key.Spelled key.tokens := by
  obtain ⟨expression, direction⟩ := key
  cases direction with
  | ascending => exact .ascending h
  | descending => exact .descending h

/-- The sort keys of a query as a clause: there is none without keys. -/
def sortClause (keys : List SortKey) : Option (List SortKey) :=
  if keys.isEmpty then none else some keys

theorem getD_sortClause (keys : List SortKey) : (sortClause keys).getD [] = keys := by
  cases keys <;> rfl

theorem sortClause_spelled {keys : List SortKey} (h : ∀ key ∈ keys, key.Spelled key.tokens) :
    Clause .sort SortSpelled (listTokens [.keyword .sort] SortKey.tokens keys)
      (sortClause keys) := by
  cases keys with
  | nil => rfl
  | cons key keys => exact ⟨_, rfl, List.cons_ne_nil _ _, listed_map SortKey.Spelled h⟩

/-- **The tokens of a query spell it** when it is unambiguous. -/
theorem spelled_tokens {query : Query} (h : query.Unambiguous) :
    query.Spelled (query.tokens ++ [.endOfInput]) := by
  have hexpression : ∀ e ∈ query.expressions, e.Spelled .disjunction e.tokens := fun e he =>
    (Expression.spelled_tokens (h.legible e he) (h.comparisons e he)).disjunction_of
  have hcolumns : ColumnsSpelled query.form (listTokens [] Column.tokens query.columns)
      query.columns := by
    by_cases hempty : query.columns = []
    · exact .inl ⟨by simp [listTokens, hempty], hempty⟩
    · refine .inr ⟨h.columns hempty, hempty, ?_⟩
      have hlisted := listed_map Column.Spelled fun column hcolumn =>
        column.spelled_tokens (hexpression _ (mem_expressions_of_column hcolumn))
      simpa [listTokens, hempty] using hlisted
  have hsource : Clause .source (Source.Spelled .disjunction) _ query.source :=
    clause_map .source _ Source.tokens fun s hs => Source.spelled_disjunction
      (Source.spelled_tokens fun leaf hleaf => (h.source s hs leaf hleaf).1)
  have hcondition : Clause .condition (Expression.Spelled .disjunction) _ query.condition :=
    clause_map .condition _ Expression.tokens fun e he =>
      hexpression e (mem_expressions_of_condition he)
  have hsort := sortClause_spelled fun key (hkey : key ∈ query.sort) =>
    key.spelled_tokens (hexpression _ (mem_expressions_of_sort hkey))
  have hlimit : Clause .limit LimitSpelled _ query.limit :=
    clause_map .limit _ (fun n => [.integer (.ofNat n)]) fun n hn =>
      ⟨(h.limit n hn).1, _, rfl, toInt_ofNat (h.limit n hn).2⟩
  have hquery := Spelled.query query.form.spelled_word hcolumns hsource hcondition hsort hlimit
  rw [getD_sortClause] at hquery
  simpa [tokens] using hquery

/-- **The canonical text of an unambiguous query is read as the query.** -/
theorem parse_text {query : Query} (h : query.Unambiguous) : parse query.text = .ok query :=
  parse_eq_ok_iff.mpr ⟨query.tokens, (readAs_text h).tokensOf, spelled_tokens h⟩

/-- Two and a half. -/
def twoAndHalf : Finite := ⟨false, 5 * Nat.pow 2 50, -51, by decide⟩

/-- A query with every clause, of which some hold what would be read otherwise without its quotes or
parentheses. -/
def sample : Query where
  form := .table
  columns := [⟨.field ⟨["file", "name"]⟩, some "\"note\" \\ page"⟩,
    ⟨.call "length" [.field ⟨["tags"]⟩], none⟩]
  source := some (.both (.folder "Daily Notes") (.other (.either (.tag "work/now") (.link "Home"))))
  condition := some (.logical .conjunction
    (.logical .disjunction
      (.comparison .less (.field ⟨["rating"]⟩) (.literal (.real (.finite twoAndHalf))))
      (.negation (.comparison .notEqual (.field ⟨["due"]⟩) (.literal .null))))
    (.negation (.negation (.literal (.boolean false)))))
  sort := [⟨.field ⟨["rating"]⟩, .descending⟩, ⟨.field ⟨["due"]⟩, .ascending⟩]
  limit := some 10

theorem unambiguous_sample : sample.Unambiguous where
  columns _ := rfl
  limit n hn := by
    obtain rfl := Option.some.inj hn
    exact ⟨by decide, by decide⟩
  legible := by
    have hname : ∀ name ∈ ["file", "name", "length", "tags", "rating", "due"],
        LexesAs name (.identifier name) := by
      simp only [List.forall_mem_cons, lexesAs_identifier_iff]
      decide
    simp only [List.forall_mem_cons] at hname
    have hfraction : ¬twoAndHalf.IsWhole := by decide
    simp [sample, expressions, Expression.parts, Expression.partsOfAll, Expression.IsLegible, hname,
      hfraction]
  comparisons := by
    simp [sample, expressions, Expression.parts, Expression.partsOfAll,
      Expression.ComparesPrimaries, Expression.IsPrimary]
  source s hs := by
    obtain rfl := Option.some.inj hs
    have htag : isTagName "work/now".toList = true := by decide
    have htrim : Text.trim "Home".toList = "Home".toList := by decide
    have hclose : ¬[']', ']'] <:+: "Home".toList := by decide
    simpa [Source.leaves, Source.IsClear, Source.IsLegible, Source.IsDelimited, lexesAs_tag_iff,
      IsPlain, IsTarget] using ⟨htag, htrim, hclose⟩

/-- The sample is read from its text. -/
theorem parse_text_sample : sample.Unambiguous ∧ parse sample.text = .ok sample :=
  ⟨unambiguous_sample, parse_text unambiguous_sample⟩

end Notebook.Query
