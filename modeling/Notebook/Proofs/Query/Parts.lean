import Notebook.Proofs.Query.Names
import Notebook.Proofs.Number.Quotient

/-!
# The parts of an expression

An expression is a tree with lists of arguments in it. Its parts
(`Notebook.Query.Expression.parts`) are all the trees in it, itself among them; what has to hold of
an expression at any depth is said of its parts, one node at a time.

Two such conditions matter for reading an expression again from its text. The one is about what a
node holds, names and numbers (`Notebook.Query.Expression.IsLegible`), and an expression that was
read has it unless it holds numbers with a point. The other is about what a comparison compares
(`Notebook.Query.Expression.ComparesPrimaries`), and that is no matter of reading at all.
-/

namespace Notebook.Query

namespace Expression

/-! ### Induction -/

/-- Induction on an expression, with the arguments of a call as its children. -/
@[elab_as_elim, induction_eliminator]
theorem inductionOn {motive : Expression → Prop} (e : Expression)
    (field : ∀ path, motive (.field path)) (literal : ∀ value, motive (.literal value))
    (call : ∀ name arguments, (∀ argument ∈ arguments, motive argument) →
      motive (.call name arguments))
    (comparison : ∀ operator left right, motive left → motive right →
      motive (.comparison operator left right))
    (logical : ∀ connective left right, motive left → motive right →
      motive (.logical connective left right))
    (negation : ∀ operand, motive operand → motive (.negation operand)) : motive e :=
  @Expression.rec motive (fun arguments => ∀ argument ∈ arguments, motive argument) field literal
    call comparison logical negation (by simp)
    (fun _ _ h hs => List.forall_mem_cons.mpr ⟨h, hs⟩) e

/-! ### Parts -/

mutual

/-- **The parts of an expression**: itself, and the parts of what it is made of. -/
def parts : Expression → List Expression
  | field path => [field path]
  | literal value => [literal value]
  | call name arguments => call name arguments :: partsOfAll arguments
  | comparison operator left right => comparison operator left right :: (left.parts ++ right.parts)
  | logical connective left right => logical connective left right :: (left.parts ++ right.parts)
  | negation operand => negation operand :: operand.parts

/-- The parts of several expressions. -/
def partsOfAll : List Expression → List Expression
  | [] => []
  | e :: es => e.parts ++ partsOfAll es

end

theorem partsOfAll_eq_flatMap (es : List Expression) : partsOfAll es = es.flatMap parts := by
  induction es with
  | nil => rfl
  | cons e es ih => rw [partsOfAll, List.flatMap_cons, ih]

section

variable {P : Expression → Prop}

theorem forall_parts_field {path : FieldPath} :
    (∀ part ∈ (field path).parts, P part) ↔ P (field path) := by simp [parts]

theorem forall_parts_literal {value : Literal} :
    (∀ part ∈ (literal value).parts, P part) ↔ P (literal value) := by simp [parts]

theorem forall_parts_call {name : String} {arguments : List Expression} :
    (∀ part ∈ (call name arguments).parts, P part) ↔
      P (call name arguments) ∧ ∀ argument ∈ arguments, ∀ part ∈ argument.parts, P part := by
  rw [parts, partsOfAll_eq_flatMap, List.forall_mem_cons, List.forall_mem_flatMap]

theorem forall_parts_comparison {operator : Comparison} {left right : Expression} :
    (∀ part ∈ (comparison operator left right).parts, P part) ↔ P (comparison operator left right) ∧
      (∀ part ∈ left.parts, P part) ∧ ∀ part ∈ right.parts, P part := by
  rw [parts, List.forall_mem_cons, List.forall_mem_append]

theorem forall_parts_logical {connective : Connective} {left right : Expression} :
    (∀ part ∈ (logical connective left right).parts, P part) ↔ P (logical connective left right) ∧
      (∀ part ∈ left.parts, P part) ∧ ∀ part ∈ right.parts, P part := by
  rw [parts, List.forall_mem_cons, List.forall_mem_append]

theorem forall_parts_negation {operand : Expression} :
    (∀ part ∈ (negation operand).parts, P part) ↔
      P (negation operand) ∧ ∀ part ∈ operand.parts, P part := by
  rw [parts, List.forall_mem_cons]

end

/-! ### Conditions on a part -/

/-- **Expressions that a comparison takes as they are**: fields, literals and calls. -/
def IsPrimary : Expression → Prop
  | field _ | literal _ | call _ _ => True
  | _ => False

/-- **A part whose comparison, if it is one, compares fields, literals and calls.** -/
def ComparesPrimaries : Expression → Prop
  | comparison _ left right => left.IsPrimary ∧ right.IsPrimary
  | _ => True

/-- **A part that holds only what is read again from its text**: names that are read as themselves,
one at least in a field path, and numbers with a point that have a fraction. -/
def IsLegible : Expression → Prop
  | field path => path.segments ≠ [] ∧ ∀ name ∈ path.segments, LexesAs name (.identifier name)
  | call name _ => LexesAs name (.identifier name)
  | literal (.real x) => ∃ number, x = .finite number ∧ ¬number.IsWhole
  | _ => True

end Expression

/-- **A token that makes a part legible**: a name that is read as itself, a number with a point
that has a fraction, or anything that is neither. -/
def Token.IsLegible : Token → Prop
  | .identifier name => LexesAs name (.identifier name)
  | .real x => ∃ number, x = .finite number ∧ ¬number.IsWhole
  | _ => True

theorem mem_intercalate {α : Type} {sep us : List α} {tss : List (List α)} {t : α} (hus : us ∈ tss)
    (ht : t ∈ us) : t ∈ sep.intercalate tss := by
  induction tss with
  | nil => cases hus
  | cons vs tss ih =>
    by_cases htss : tss = []
    · subst htss
      obtain rfl := List.mem_singleton.mp hus
      simpa using ht
    · rw [List.intercalate_cons_of_ne_nil htss, List.mem_append, List.mem_append]
      rcases List.mem_cons.mp hus with rfl | hus
      · exact .inl (.inl ht)
      · exact .inr (ih hus)

namespace Expression

/-- **What is spelled is legible** when its tokens are. -/
theorem isLegible_of_spelled {rank : Rank} {ts : List Token} {e : Expression}
    (h : e.Spelled rank ts) (hts : ∀ t ∈ ts, t.IsLegible) :
    ∀ part ∈ e.parts, part.IsLegible := by
  induction h with
  | literal h =>
    rw [forall_parts_literal]
    cases h with
    | real x => exact hts (.real x) (List.mem_singleton_self _)
    | _ => trivial
  | field first others =>
    rw [forall_parts_field]
    refine ⟨List.cons_ne_nil _ _, fun name hmem => hts (.identifier name) ?_⟩
    rcases List.mem_cons.mp hmem with rfl | hmem
    · exact List.mem_cons_self ..
    · exact List.mem_cons_of_mem _ (List.mem_flatMap.mpr ⟨name, hmem, by simp⟩)
  | call name arguments harguments ih =>
    rw [forall_parts_call]
    refine ⟨hts (.identifier name) (List.mem_cons_self ..), fun argument hargument => ?_⟩
    obtain ⟨argument, hmem, rfl⟩ := List.mem_map.mp hargument
    refine ih argument hmem fun t ht => hts t ?_
    -- the tokens of one argument are among those of the call
    have hlist : t ∈ [Token.comma].intercalate (arguments.map Prod.fst) :=
      mem_intercalate (List.mem_map_of_mem hmem) ht
    simp [hlist]
  | group h ih => exact ih fun t ht => hts t (by simp [ht])
  | alone h ih => exact ih hts
  | comparison hoperator hleft hright ihleft ihright =>
    rw [forall_parts_comparison]
    have hl := ihleft fun t ht => hts t (by simp [ht])
    have hr := ihright fun t ht => hts t (by simp [ht])
    exact ⟨trivial, hl, hr⟩
  | plain h ih => exact ih hts
  | negation hsign h ih =>
    rw [forall_parts_negation]
    exact ⟨trivial, ih fun t ht => hts t (by simp [ht])⟩
  | condition h ih => exact ih hts
  | conjunction hleft hright ihleft ihright =>
    rw [forall_parts_logical]
    have hl := ihleft fun t ht => hts t (by simp [ht])
    have hr := ihright fun t ht => hts t (by simp [ht])
    exact ⟨trivial, hl, hr⟩
  | single h ih => exact ih hts
  | disjunction hleft hright ihleft ihright =>
    rw [forall_parts_logical]
    have hl := ihleft fun t ht => hts t (by simp [ht])
    have hr := ihright fun t ht => hts t (by simp [ht])
    exact ⟨trivial, hl, hr⟩

end Expression

/-! ### The expressions of a query -/

theorem mem_expressions_of_column {query : Query} {column : Column} (h : column ∈ query.columns) :
    column.expression ∈ query.expressions := by
  simp only [expressions, List.mem_append, List.mem_map]
  exact .inl (.inl ⟨column, h, rfl⟩)

theorem mem_expressions_of_condition {query : Query} {e : Expression} (h : e ∈ query.condition) :
    e ∈ query.expressions := by
  simp only [expressions, List.mem_append, Option.mem_toList]
  exact .inl (.inr h)

theorem mem_expressions_of_sort {query : Query} {key : SortKey} (h : key ∈ query.sort) :
    key.expression ∈ query.expressions := by
  simp only [expressions, List.mem_append, List.mem_map]
  exact .inr ⟨key, h, rfl⟩

end Notebook.Query
