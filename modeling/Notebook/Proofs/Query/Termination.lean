import Notebook.Proofs.Query.Branches
import Notebook.Proofs.Query.Descent
import Notebook.Proofs.Query.Places
import Notebook.Proofs.Query.Soundness

/-!
# Reading comes to an end

A token takes characters off the text, a reader takes tokens off it, and a call is made where less
is left or by a looser reader. So reading a text comes to an end, also when the text is no query:
there is a bound on how many tokens are asked for, and one on how deep calls are nested
(`Notebook.Query.progresses`).

For that the two recursions are stated without a measure: `Notebook.Query.Lexer.tokensWithin` asks
for so many tokens at most, and `Notebook.Query.Reader.within` follows the plans of the readers with
calls nested so deep at most. Both have no answer when the bound is reached, and a bound that is
linear in the length of the text is enough for both.
-/

namespace Notebook.Query

/-! ### Tokens take characters -/

namespace Lexer

variable {lexer after : Lexer} {lexeme : Lexeme}

/-- **A token takes characters**, unless it is the end of the text and nothing is left there. -/
theorem exists_taken (h : lexer.next = (.ok lexeme, after)) : ∃ taken,
    lexer.rest = taken ++ after.rest ∧ after.position = lexer.position.advance taken ∧
      (lexeme.token ≠ .endOfInput ∧ taken ≠ [] ∨ lexeme.token = .endOfInput ∧ after.rest = []) := by
  obtain ⟨hdrop, hscan, hplace, hafter⟩ := next_eq_ok h
  refine ⟨lexer.rest.takeWhile Unicode.isWhiteSpace ++ lexeme.text, ?_, ?_, ?_⟩
  · rw [List.append_assoc, ← hdrop, List.takeWhile_append_dropWhile]
  · rw [advance_append, ← hplace, hafter]
  · by_cases hend : lexeme.token = .endOfInput
    · have hnil := eq_nil_of_scan_end (congrArg Scan.outcome (hend ▸ hscan))
      exact .inr ⟨hend, (List.append_eq_nil_iff.mp hnil).2⟩
    · have htext := text_ne_nil h hend
      exact .inl ⟨hend, by simp [htext]⟩

theorem length_rest_lt (h : lexer.next = (.ok lexeme, after)) (hne : lexeme.token ≠ .endOfInput) :
    after.rest.length < lexer.rest.length := by
  have hlt := length_rest_next_lt (congrArg Prod.fst h) hne
  rwa [h] at hlt

/-- The tokens from a place on, when so many at most are asked for. -/
def tokensWithin : Nat → Lexer → Option (Except SyntaxError (List Lexeme))
  | 0, _ => none
  | count + 1, lexer =>
    match lexer.next with
    | (.error e, _) => some (.error e)
    | (.ok lexeme, after) =>
      if lexeme.token = .endOfInput then some (.ok [lexeme])
      else (tokensWithin count after).map (Except.map (lexeme :: ·))

/-- **All tokens are read** when one more may be asked for than there are characters. -/
theorem tokensWithin_eq {count : Nat} (h : lexer.rest.length < count) :
    lexer.tokensWithin count = some lexer.tokens := by
  fun_induction Lexer.tokens lexer generalizing count <;>
    obtain ⟨count, rfl⟩ := Nat.exists_eq_add_one_of_ne_zero (Nat.ne_zero_of_lt h)
  case case1 lexer e after heq => rw [tokensWithin, heq]
  case case2 lexer lexeme after heq hend =>
    rw [tokensWithin, heq]
    exact if_pos hend
  case case3 lexer lexeme after heq hend lexemes hok ih =>
    have hlt := length_rest_lt heq hend
    rw [tokensWithin, heq]
    dsimp only
    rw [if_neg hend, ih (by omega), hok]
    rfl
  case case4 lexer lexeme after heq hend e herr ih =>
    have hlt := length_rest_lt heq hend
    rw [tokensWithin, heq]
    dsimp only
    rw [if_neg hend, ih (by omega), herr]
    rfl

end Lexer

/-! ### Readers take tokens -/

namespace Cursor

variable {c c' : Cursor}

/-- The end is not among the tokens that are read. -/
theorem Reads.ne_endOfInput {ts : List Token} (h : c.Reads ts c') : ∀ t ∈ ts, t ≠ .endOfInput := by
  induction ts generalizing c with
  | nil => simp
  | cons t ts ih =>
    obtain ⟨rfl, c₁, hstep, hreads⟩ := h
    exact List.forall_mem_cons.mpr ⟨hstep.1, ih hreads⟩

/-- What is read across is read. -/
theorem Across.exists_reads {α : Type} {Item : List Token → α → Prop} {x : α}
    (h : Across Item c x c') : ∃ ts, c.Reads ts c' :=
  let ⟨ts, hts, _⟩ := h
  ⟨ts, hts⟩

/-- A chain of a connective reads tokens if its items do. -/
theorem Extends.exists_reads {α : Type} {n : Nat} {word : Keyword}
    {item : (c : Cursor) → Reading α c.size} {join : α → α → α}
    {tail : α → (c : Cursor) → c.size < n → Reading α n} (hx : Extends word item join tail)
    (hitem : ∀ c₁ x c₂, (item c₁).Gives x c₂ → ∃ ts, c₁.Reads ts c₂) {left value : α}
    {h : c.size < n} (hg : (tail left c h).Gives value c') : ∃ ts, c.Reads ts c' := by
  -- what the tokens spell does not matter
  obtain ⟨Any, hany⟩ : ∃ Any : List Token → α → Prop, ∀ ts x, Any ts x :=
    ⟨fun _ _ => True, fun _ _ => trivial⟩
  have hacross : ∀ c₁ x c₂, c₁.size < n → (item c₁).Gives x c₂ → Across Any c₁ x c₂ := by
    intro c₁ x c₂ _ hgives
    obtain ⟨ts, hts⟩ := hitem c₁ x c₂ hgives
    exact ⟨ts, hts, hany ts x⟩
  obtain ⟨ts, hts, -⟩ := hx.sound Any Any (fun _ _ => hany _ _) hacross hg (hany [] left)
  exact ⟨ts, hts⟩

end Cursor

namespace Reader

open Cursor

variable {r : Reader} {c c' : Cursor}

/-- **What is between the cursor and the one that is left is tokens.** -/
theorem exists_reads {value : r.Value} (hg : (r.reading c).Gives value c') :
    ∃ ts, c.Reads ts c' := by
  have hlt : c.size < c.size + 1 := Nat.lt_succ_self _
  -- the readers of expressions are the ones of a rank
  have hrank : ∀ (rank : Rank) (c₁ : Cursor) (e : Expression) (c₂ : Cursor),
      (reader rank c₁).Gives e c₂ → ∃ ts, c₁.Reads ts c₂ := fun rank c₁ e c₂ he =>
    (soundBelow (c₁.size + 1) rank c₁ e c₂ (Nat.lt_succ_self _) he).exists_reads
  cases r with
  | query =>
    obtain ⟨-, ts, hts, -⟩ := query_spelled hg
    exact ⟨ts, hts⟩
  | columns => exact (columns_spelled hg).2.exists_reads
  | sortKeys => exact (sortKeys_spelled hg).exists_reads
  | arguments =>
    obtain ⟨c₁, ⟨ts, hts, -⟩, hparen, hstep⟩ := arguments_sound (soundBelow _) hlt hg
    exact ⟨ts ++ [.closeParen], reads_append.mpr ⟨c₁, hts, hstep.reads hparen⟩⟩
  | argumentList =>
    obtain ⟨-, c₁, ⟨ts, hts, -⟩, hparen, hstep⟩ := lists_argumentList.sound
      (Expression.Spelled .disjunction)
      (fun c₁ e c₂ _ he => ⟨he.size_lt, expression_spelled he⟩) hlt hg
    exact ⟨ts ++ [.closeParen], reads_append.mpr ⟨c₁, hts, hstep.reads hparen⟩⟩
  | expression => exact hrank .disjunction c value c' hg
  | disjunctionTail left => exact extends_disjunctionTail.exists_reads (hrank .conjunction) hg
  | conjunction => exact hrank .conjunction c value c' hg
  | conjunctionTail left => exact extends_conjunctionTail.exists_reads (hrank .condition) hg
  | condition => exact hrank .condition c value c' hg
  | comparison => exact hrank .comparison c value c' hg
  | operand => exact hrank .operand c value c' hg
  | pathTail segments =>
    obtain ⟨others, -, hreads⟩ := pathTail_sound hg
    exact ⟨_, hreads⟩
  | source => exact (source_spelled hg).exists_reads
  | sourceDisjunctionTail left =>
    refine extends_sourceDisjunctionTail.exists_reads (fun c₁ s c₂ hs => ?_) hg
    exact (sourceConjunction_sound (sourceSoundBelow _) (Nat.lt_succ_self _) hs).exists_reads
  | sourceConjunction =>
    exact (sourceConjunction_sound (sourceSoundBelow _) hlt hg).exists_reads
  | sourceConjunctionTail left =>
    refine extends_sourceConjunctionTail.exists_reads (fun c₁ s c₂ hs => ?_) hg
    exact (sourceSoundBelow _ c₁ s c₂ (Nat.lt_succ_self _) hs).exists_reads
  | sourceOperand => exact (sourceSoundBelow _ c value c' hlt hg).exists_reads

/-- **Whether a reader is a loop**: it gives what has been read before it when nothing more
follows. -/
def isLoop : Reader → Bool
  | disjunctionTail _ | conjunctionTail _ | pathTail _ => true
  | sourceDisjunctionTail _ | sourceConjunctionTail _ => true
  | _ => false

theorem bound_eq_size (h : r.isLoop = false) : r.bound c = c.size := by
  cases r <;> cases h <;> rfl

/-- **A reader takes a token** when it gives a value, unless it is a loop. -/
theorem exists_reads_cons (h : r.isLoop = false) {value : r.Value}
    (hg : (r.reading c).Gives value c') :
    ∃ t ts, c.Reads (t :: ts) c' ∧ ∀ u ∈ t :: ts, u ≠ .endOfInput := by
  obtain ⟨ts, hreads⟩ := exists_reads hg
  cases ts with
  | nil =>
    -- nothing would have been read then, but less is left
    have hlt : c'.size < c.size := bound_eq_size (c := c) h ▸ hg.size_lt
    exact absurd (congrArg size (reads_nil.mp hreads)) (Nat.ne_of_lt hlt)
  | cons t ts => exact ⟨t, ts, hreads, hreads.ne_endOfInput⟩

end Reader

/-! ### Nested calls -/

namespace Reader

variable {r r' : Reader} {c c' : Cursor} {depth : Nat}

/-- **The answers of the readers**, each one following its plan, when calls may be nested so
deep. -/
def within : Nat → Answers
  | 0 => fun _ _ => none
  | depth + 1 => fun r c => (r.plan c).run (within depth)

/-- **How deep the calls of a reader are nested** at most: seven levels for each token or character
that is left, and the levels from its own one on. -/
def nesting (r : Reader) (c : Cursor) : Nat := 7 * c.size + (7 - r.level)

theorem level_lt (r : Reader) : r.level < 7 := by
  unfold level
  split <;> decide

/-- A call that goes down may be nested less deep. -/
theorem Descends.nesting_lt (h : r.Descends c r' c') : r'.nesting c' < r.nesting c := by
  have hr := r.level_lt
  have hr' := r'.level_lt
  unfold Reader.nesting
  rcases h with hsize | ⟨hsize, hlevel⟩
  · omega
  · omega

/-- **So deep is enough**: following the plans gives what the reader gives. -/
theorem within_eq (h : r.nesting c ≤ depth) : within depth r c = some (r.reading c).result := by
  induction depth generalizing r c with
  | zero =>
    have hlevel := r.level_lt
    unfold Reader.nesting at h
    omega
  | succ depth ih =>
    have hfollows := r.follows c
    rw [within, ← hfollows.run]
    refine Plan.run_eq_of_calls fun r' c' hcall => ih ?_
    have hlt : r'.nesting c' < r.nesting c := (hfollows.calls r' c' hcall).nesting_lt
    omega

end Reader

/-! ### Whole texts -/

/-- How much is left at the first cursor is bounded by the text. -/
theorem Cursor.size_ofText_le {source : String} {c : Cursor} (h : Cursor.ofText source = .ok c) :
    c.size ≤ source.length := by
  have hnext := Cursor.ofText_eq_ok.mp h
  unfold Cursor.size Cursor.token
  split
  · have hle := (Lexer.ofText source).length_rest_next
    rw [hnext] at hle
    exact hle
  · next hend => exact Lexer.length_rest_lt hnext hend

/-- The query that a text spells, when calls may be nested so deep. -/
def parseWithin (depth : Nat) (source : String) : Option (Except SyntaxError Query) :=
  match Cursor.ofText source with
  | .ok c => (Reader.within depth .query c).map Prod.fst
  | .error e => some (.error e)

/-- **Calls are nested no deeper** than seven for each character of the text, and seven more. -/
theorem parseWithin_eq {depth : Nat} {source : String} (h : 7 * (source.length + 1) ≤ depth) :
    parseWithin depth source = some (parse source) := by
  unfold parseWithin parse
  cases hc : Cursor.ofText source with
  | error e => rfl
  | ok c =>
    have hsize := Cursor.size_ofText_le hc
    have hdepth : Reader.query.nesting c ≤ depth := by
      unfold Reader.nesting Reader.level
      omega
    change (Reader.within depth .query c).map Prod.fst = _
    rw [Reader.within_eq hdepth]
    rfl

/-- A path is eight calls deep: the query, its columns, an expression, four readers that bind more
tightly, and the path itself. -/
example : (parseWithin 7 "TABLE a").isNone ∧ (parseWithin 8 "TABLE a").isSome := by decide +kernel

/-! ### Progress -/

/-- **Reading makes progress**, at every place and on every text. -/
structure Progresses : Prop where
  /-- A token takes characters off what is left, unless it is the end and nothing is left. -/
  token {lexer after : Lexer} {lexeme : Lexeme} : lexer.next = (.ok lexeme, after) →
    ∃ taken, lexer.rest = taken ++ after.rest ∧ after.position = lexer.position.advance taken ∧
      (lexeme.token ≠ .endOfInput ∧ taken ≠ [] ∨ lexeme.token = .endOfInput ∧ after.rest = [])
  /-- A reader that is no loop and gives a value has taken a token, and never the end. -/
  reader {r : Reader} {c c' : Cursor} {value : r.Value} : r.isLoop = false →
    (r.reading c).Gives value c' → ∃ t ts, c.Reads (t :: ts) c' ∧ ∀ u ∈ t :: ts, u ≠ .endOfInput
  /-- A plan says what its reader does. -/
  plan (r : Reader) (c : Cursor) : (r.plan c).run .actual = some (r.reading c).result
  /-- A call is made where less is left, or where as much is left and of a tighter reader. -/
  call {r r' : Reader} {c c' : Cursor} : (r.plan c).Calls r' c' →
    c'.size < c.size ∨ c'.size = c.size ∧ r.level < r'.level
  /-- The tokens of a text are found when one more is asked for than there are characters. -/
  tokens (source : String) :
    (Lexer.ofText source).tokensWithin (source.length + 1) = some (tokenize source)
  /-- A text is read, or found not to be a query, with calls nested so deep only. -/
  query (source : String) : parseWithin (7 * (source.length + 1)) source = some (parse source)

/-- **Reading makes progress, and so it comes to an end**, also on a text that is no query. -/
theorem progresses : Progresses where
  token h := Lexer.exists_taken h
  reader hr hg := Reader.exists_reads_cons hr hg
  plan r c := (r.follows c).run
  call h := (Reader.follows _ _).calls _ _ h
  tokens _ := Lexer.tokensWithin_eq (Nat.lt_succ_self _)
  query _ := parseWithin_eq (Nat.le_refl _)

end Notebook.Query
