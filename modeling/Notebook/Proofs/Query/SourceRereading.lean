import Notebook.Proofs.Query.SourceText

/-!
# Sources that are read again

A source that was read is written and read again behind `LIST FROM`. Its connectives and negations
come back, since the text has all their parentheses, and so does every tag. A folder with a quote
or a backslash in it does not, and neither does a link that ends in a closing bracket: the text
does not escape them. That is all (`Notebook.Query.parse_source_text_iff`).

The leaves of a source can be read off its tokens in order
(`Notebook.Query.Source.leaves_of_spelled`). So if the text is read as the same source, every leaf
is read as itself where it stands, also when something before it should have gone wrong; a leaf
that runs over its end is not.
-/

namespace Notebook.Query

/-- The leaf that a token is read as. -/
def Token.leaf? : Token → Option Source
  | .string text => some (.folder (Cursor.folderOf text))
  | .tag name => some (.tag name)
  | .link target => some (.link target)
  | _ => none

namespace Source

/-! ### Leaves that were read -/

/-- **The leaves of a source are those of its tokens**, in order. -/
theorem leaves_of_spelled {rank : Rank} {ts : List Token} {s : Source} (h : s.Spelled rank ts) :
    ts.filterMap Token.leaf? = s.leaves := by
  induction h with
  | folder slashes htext hlast => simp [Token.leaf?, leaves, Cursor.folderOf_eq htext hlast]
  | tag name => rfl
  | link target => rfl
  | group _ ih => simpa [List.filterMap_cons, Token.leaf?] using ih
  | negation hsign _ ih => rcases hsign with rfl | rfl <;> exact ih
  | alone _ ih | single _ ih => exact ih
  | conjunction _ _ ihleft ihright | disjunction _ _ ihleft ihright =>
    simp [List.filterMap_cons, Token.leaf?, leaves, ihleft, ihright]

/-- **The leaves of a source that was read** are such as are read. -/
theorem isLegible_of_spelled {rank : Rank} {cs : List Char} {ts us : List Token} {s : Source}
    (hcs : tokensOf cs = some us) (h : s.Spelled rank ts) (hts : ts ⊆ us) :
    ∀ leaf ∈ s.leaves, leaf.IsLegible := by
  induction h with
  | folder slashes _ hlast => simpa [leaves, IsLegible] using hlast
  | tag name =>
    have hname := isTagName_of_tag hcs (hts (List.mem_singleton_self _))
    simpa [leaves, IsLegible, lexesAs_tag_iff] using hname
  | link target =>
    simpa [leaves, IsLegible] using isTarget_of_link hcs (hts (List.mem_singleton_self _))
  | group _ ih => exact ih fun t ht => hts (by simp [ht])
  | negation _ _ ih => exact ih fun t ht => hts (by simp [ht])
  | alone _ ih | single _ ih => exact ih hts
  | conjunction _ _ ihleft ihright | disjunction _ _ ihleft ihright =>
    exact List.forall_mem_append.mpr
      ⟨ihleft fun t ht => hts (by simp [ht]), ihright fun t ht => hts (by simp [ht])⟩

/-- The canonical tokens of a source have its leaves. -/
theorem leaves_tokens {s : Source} (h : ∀ leaf ∈ s.leaves, leaf.IsLegible) :
    s.tokens.filterMap Token.leaf? = s.leaves := leaves_of_spelled (spelled_tokens h)

/-! ### Leaves that are read as themselves -/

theorem isPlain_of_tokensOf {path : String} {rest : List Char} {ts : List Token}
    {leaves : List Source} (h : tokensOf ('"' :: (path.toList ++ '"' :: rest)) = some ts)
    (hts : ts.filterMap Token.leaf? = .folder path :: leaves) : IsPlain path.toList := by
  obtain ⟨value, others, hcloses⟩ := closes_of_tokensOf h
  rw [tokensOf_quote hcloses] at h
  obtain ⟨us, -, rfl⟩ := Option.map_eq_some_iff.mp h
  have hpath : Cursor.folderOf (String.ofList value) = path := by
    simpa [Token.leaf?] using (List.cons.inj hts).1
  -- the text that was read is the folder and slashes after it
  obtain ⟨slashes, hvalue, -⟩ := Cursor.toList_folderOf (String.ofList value)
  rw [String.toList_ofList, hpath] at hvalue
  apply Classical.byContradiction
  intro hplain
  exact not_closes_raw hplain _ rest others (hvalue ▸ hcloses)

theorem getLast?_of_tokensOf {target : String} (htarget : IsTarget target.toList) {rest : List Char}
    {ts : List Token} {leaves : List Source}
    (h : tokensOf ('[' :: '[' :: (target.toList ++ ']' :: ']' :: rest)) = some ts)
    (hts : ts.filterMap Token.leaf? = .link target :: leaves) :
    target.toList.getLast? ≠ some ']' := by
  intro hlast
  obtain ⟨front, hfront⟩ := List.getLast?_eq_some_iff.mp hlast
  rw [hfront] at h htarget
  rw [tokensOf_link_of_bracket htarget] at h
  obtain ⟨us, -, rfl⟩ := Option.map_eq_some_iff.mp h
  have hlink : String.ofList (Text.trim front) = target := by
    simpa [Token.leaf?] using (List.cons.inj hts).1
  -- the target would be shorter than itself
  have hlength := (Text.isInfix_trim front).length_le
  rw [← hlink, String.toList_ofList] at hfront
  rw [hfront, List.length_append, List.length_singleton] at hlength
  omega

/-- **A source is told by its leaves**: when the leaves that are read from its text are, at first,
its own, then they keep within their delimiters. -/
def ToldByLeaves (s : Source) : Prop :=
  ∀ (rest : List Char) (ts : List Token) (others : List Source), Bounded rest →
    tokensOf (s.text.toList ++ rest) = some ts → ts.filterMap Token.leaf? = s.leaves ++ others →
    ∀ leaf ∈ s.leaves, leaf.IsDelimited

/-- The left source is read as it is, so the right one is where it should be. -/
theorem toldByLeaves_joined (word : Keyword) {left right : Source} {rest : List Char}
    {ts : List Token} {others : List Source} (hleft : left.ToldByLeaves)
    (hright : right.ToldByLeaves) (hlegible : ∀ leaf ∈ left.leaves, leaf.IsLegible)
    (h : tokensOf ('(' :: (left.text.toList ++ ' ' :: (word.text.toList ++
      ' ' :: (right.text.toList ++ ')' :: rest)))) = some ts)
    (hts : ts.filterMap Token.leaf? = left.leaves ++ right.leaves ++ others) :
    ∀ leaf ∈ left.leaves ++ right.leaves, leaf.IsDelimited := by
  rw [tokensOf_openParen] at h
  obtain ⟨us, hus, rfl⟩ := Option.map_eq_some_iff.mp h
  rw [List.append_assoc] at hts
  have hdelimited := hleft _ us _ (by simp) hus hts
  -- so the left text is read as the left source, and the right one starts where it should
  have hpiece := readAs_text fun leaf hleaf => ⟨hlegible leaf hleaf, hdelimited leaf hleaf⟩
  rw [hpiece _ (by simp), tokensOf_blank, readAs_keyword word _ (by simp), tokensOf_blank] at hus
  obtain ⟨vs, hvs, rfl⟩ := Option.map_eq_some_iff.mp hus
  obtain ⟨ws, hws, rfl⟩ := Option.map_eq_some_iff.mp hvs
  have hrest : ws.filterMap Token.leaf? = right.leaves ++ others := by
    have hleaves := leaves_tokens hlegible
    simpa [List.filterMap_cons, Token.leaf?, hleaves] using hts
  exact List.forall_mem_append.mpr ⟨hdelimited, hright _ ws _ (by simp) hws hrest⟩

/-- **Every source whose leaves are such as are read is told by them.** -/
theorem toldByLeaves {s : Source} (hlegible : ∀ leaf ∈ s.leaves, leaf.IsLegible) :
    s.ToldByLeaves := by
  induction s with
  | folder path =>
    intro rest ts others _ h hts
    have hplain : IsPlain path.toList := isPlain_of_tokensOf (by simpa [text] using h) hts
    simpa [leaves, IsDelimited] using hplain
  | tag name => simp [ToldByLeaves, leaves, IsDelimited]
  | link target =>
    intro rest ts others _ h hts
    have htarget : IsTarget target.toList := hlegible (.link target) (List.mem_singleton_self _)
    have hlast := getLast?_of_tokensOf htarget (by simpa [text] using h) hts
    simpa [leaves, IsDelimited] using hlast
  | both left right ihleft ihright =>
    obtain ⟨hleft, hright⟩ := List.forall_mem_append.mp hlegible
    intro rest ts others _ h hts
    exact toldByLeaves_joined .conjunction (ihleft hleft) (ihright hright) hleft
      (by simpa [text, Keyword.text] using h) hts
  | either left right ihleft ihright =>
    obtain ⟨hleft, hright⟩ := List.forall_mem_append.mp hlegible
    intro rest ts others _ h hts
    exact toldByLeaves_joined .disjunction (ihleft hleft) (ihright hright) hleft
      (by simpa [text, Keyword.text] using h) hts
  | other source ih =>
    intro rest ts others hrest h hts
    have hminus : tokensOf ('-' :: (source.text.toList ++ rest)) = some ts := by
      simpa [text] using h
    rw [tokensOf_minus (source.head?_text rest)] at hminus
    obtain ⟨us, hus, rfl⟩ := Option.map_eq_some_iff.mp hminus
    exact ih hlegible rest us others hrest hus hts

end Source

/-! ### Reading twice -/

theorem tokensOf_listFrom (s : Source) : tokensOf ("LIST FROM " ++ s.text).toList =
    (tokensOf s.text.toList).map ([.keyword .list, .keyword .source] ++ ·) := by
  have htext : ("LIST FROM " ++ s.text).toList =
      Keyword.list.text.toList ++ ' ' :: (Keyword.source.text.toList ++ ' ' :: s.text.toList) := by
    simp [Keyword.text]
  rw [htext, readAs_keyword .list _ (by simp), tokensOf_blank, readAs_keyword .source _ (by simp),
    tokensOf_blank]
  simp [Function.comp_def]

/-- The source of a query is spelled by a part of its tokens; in a list it comes right after the
first two. -/
theorem exists_spelled_source {q : Query} {s : Source} {us : List Token}
    (h : q.Spelled (us ++ [.endOfInput])) (hs : q.source = some s) :
    ∃ before ts after, us = before ++ (ts ++ after) ∧ s.Spelled .disjunction ts ∧
      (us.head? = some (.keyword .list) → before = [.keyword .list, .keyword .source]) := by
  generalize heq : us ++ [Token.endOfInput] = vs at h
  obtain @⟨t, cs, _, ws, ks, ls, form, columns, source, _, _, _, hform, hcolumns, hsource, -, -,
    -⟩ := h
  obtain rfl : source = some s := hs
  obtain ⟨ts, rfl, hts⟩ := hsource
  have hend : us ++ [.endOfInput] =
      (t :: (cs ++ [.keyword .source])) ++ (ts ++ (ws ++ (ks ++ ls))) ++ [.endOfInput] := by
    simpa using heq
  have hus := List.append_cancel_right hend
  refine ⟨_, ts, _, hus, hts, fun hhead => ?_⟩
  obtain rfl : t = .keyword .list := by simpa [hus] using hhead
  cases hform
  -- only a table has columns between its form and its source
  obtain ⟨rfl, -⟩ | ⟨hform, -⟩ := hcolumns
  · rfl
  · cases hform

/-- The leaves of a source that was read are such as are read. -/
theorem isLegible_of_parse {source : String} {q : Query} {s : Source} (h : parse source = .ok q)
    (hs : q.source = some s) : ∀ leaf ∈ s.leaves, leaf.IsLegible := by
  obtain ⟨us, hus, hspelled⟩ := parse_eq_ok_iff.mp h
  obtain ⟨before, ts, after, rfl, hts, -⟩ := exists_spelled_source hspelled hs
  exact Source.isLegible_of_spelled hus hts fun t ht => by simp [ht]

theorem spelled_listFrom {s : Source} {ts : List Token} (h : s.Spelled .disjunction ts) :
    Query.Spelled (.keyword .list :: .keyword .source :: (ts ++ [.endOfInput]))
      ⟨.list, [], some s, none, [], none⟩ :=
  @Spelled.query _ [] (.keyword .source :: ts) [] [] [] .list [] (some s) none none none .list
    (.inl ⟨rfl, rfl⟩) ⟨ts, rfl, h⟩ rfl rfl rfl

/-- Behind `LIST FROM`, a source whose leaves are such as are read is read from its text exactly
when they keep within their delimiters. -/
theorem parse_listFrom_iff {s : Source} (hlegible : ∀ leaf ∈ s.leaves, leaf.IsLegible) :
    (∃ q, parse ("LIST FROM " ++ s.text) = .ok q ∧ q.source = some s) ↔
      ∀ leaf ∈ s.leaves, leaf.IsDelimited := by
  constructor
  · rintro ⟨q, hq, hs⟩
    obtain ⟨us, hus, hspelled⟩ := parse_eq_ok_iff.mp hq
    rw [tokensOf_listFrom] at hus
    obtain ⟨vs, hvs, rfl⟩ := Option.map_eq_some_iff.mp hus
    obtain ⟨before, ts, after, heq, hts, hbefore⟩ := exists_spelled_source hspelled hs
    rw [hbefore rfl] at heq
    obtain rfl := List.append_cancel_left heq
    refine Source.toldByLeaves hlegible [] (ts ++ after) (after.filterMap Token.leaf?)
      bounded_nil ?_ ?_
    · rwa [List.append_nil]
    · rw [List.filterMap_append, Source.leaves_of_spelled hts]
  · intro hdelimited
    have hpiece := Source.readAs_text fun leaf hleaf => ⟨hlegible leaf hleaf, hdelimited leaf hleaf⟩
    refine ⟨⟨.list, [], some s, none, [], none⟩, parse_eq_ok_iff.mpr
      ⟨[.keyword .list, .keyword .source] ++ s.tokens, ?_, ?_⟩, rfl⟩
    · rw [tokensOf_listFrom, hpiece.tokensOf, Option.map_some]
    · exact spelled_listFrom (Source.spelled_disjunction (Source.spelled_tokens hlegible))

/-- **A source that was read is read again from its own text** exactly when every leaf keeps within
its delimiters, whatever its connectives and negations are. -/
theorem parse_source_text_iff {source : String} {q : Query} {s : Source} (h : parse source = .ok q)
    (hs : q.source = some s) :
    (∃ q', parse ("LIST FROM " ++ s.text) = .ok q' ∧ q'.source = some s) ↔
      ∀ leaf ∈ s.leaves, leaf.IsDelimited :=
  parse_listFrom_iff (isLegible_of_parse h hs)

/-- A folder and a tag are read again. -/
theorem parse_source_text_of_plain :
    parse "LIST FROM \"a b\" AND #c" =
        .ok ⟨.list, [], some (.both (.folder "a b") (.tag "c")), none, [], none⟩ ∧
      ((∃ q', parse ("LIST FROM " ++ (Source.both (.folder "a b") (.tag "c")).text) = .ok q' ∧
        q'.source = some (.both (.folder "a b") (.tag "c"))) ↔
      ∀ leaf ∈ (Source.both (.folder "a b") (.tag "c")).leaves, leaf.IsDelimited) := by
  have hpiece : ReadAs "LIST FROM \"a b\" AND #c".toList [.keyword .list, .keyword .source,
      .string "a b", .keyword .conjunction, .tag "c"] :=
    (readAs_keyword .list).blank ((readAs_keyword .source).blank ((readAs_quotedText "a b").blank
      ((readAs_keyword .conjunction).blank (@readAs_tag ['c'] rfl))))
  have hspelled : (Source.both (.folder "a b") (.tag "c")).Spelled .disjunction
      [.string "a b", .keyword .conjunction, .tag "c"] :=
    .single (.conjunction (.alone (.folder 0 (by simp) (by simp))) (.tag "c"))
  have hparse := parse_eq_ok_iff.mpr ⟨_, hpiece.tokensOf, spelled_listFrom hspelled⟩
  exact ⟨hparse, parse_source_text_iff hparse rfl⟩

/-- **A folder with a quote in it is not read again**: its text ends at the quote. -/
theorem parse_source_text_of_quote :
    parse "LIST FROM \"a\\\"b\"" = .ok ⟨.list, [], some (.folder "a\"b"), none, [], none⟩ ∧
      ¬∃ q, parse ("LIST FROM " ++ (Source.folder "a\"b").text) = .ok q ∧
        q.source = some (.folder "a\"b") := by
  have hpiece : ReadAs "LIST FROM \"a\\\"b\"".toList [.keyword .list, .keyword .source,
      .string "a\"b"] :=
    (readAs_keyword .list).blank ((readAs_keyword .source).blank (readAs_quotedText "a\"b"))
  refine ⟨parse_eq_ok_iff.mpr ⟨_, hpiece.tokensOf, spelled_listFrom (Source.spelled_disjunction
    (.folder 0 (by simp) (by simp)))⟩, ?_⟩
  rw [parse_listFrom_iff (by simp [Source.leaves, Source.IsLegible])]
  simp [Source.leaves, Source.IsDelimited, IsPlain]

end Notebook.Query
