import Notebook.Evaluation.Comparison
import Notebook.Proofs.Evaluation.Several
import Notebook.Proofs.Value.Symmetry

/-!
# Less, equal, greater

Of two values that a condition can order, one would expect exactly one of three: that the first is
less than the second one, equal to it, or greater (`Notebook.Evaluation.Trichotomy`). Order and
equality are two rules, and they part in two places (`Notebook.Evaluation.Discordant`). A text that
spells a number is compared with a number that is no decimal as if they were equal, which they are
not. And lists are ordered as they are sorted but are equal as values are equal, so that a list with
a text in it can equal one with a number there and yet come after it.

Everywhere else exactly one of the three holds (`Notebook.Evaluation.trichotomy_iff`).
-/

namespace Notebook.Evaluation

open Number Value

/-! ### One of three -/

/-- Exactly one of three statements holds. -/
def ExactlyOne (p q r : Prop) : Prop := (p ∧ ¬q ∧ ¬r) ∨ (¬p ∧ q ∧ ¬r) ∨ (¬p ∧ ¬q ∧ r)

/-- **Exactly one** of less, equal and greater holds of two values, and the two operators between
them say what they should. -/
structure Trichotomy (a b : Value) : Prop where
  /-- One of three. -/
  one : ExactlyOne (compareValues .less a b = .ok true) (compareValues .equal a b = .ok true)
    (compareValues .greater a b = .ok true)
  /-- Less or equal. -/
  lessEqual : compareValues .lessEqual a b = .ok true ↔
    compareValues .less a b = .ok true ∨ compareValues .equal a b = .ok true
  /-- Greater or equal. -/
  greaterEqual : compareValues .greaterEqual a b = .ok true ↔
    compareValues .greater a b = .ok true ∨ compareValues .equal a b = .ok true

/-- Two values **on which order and equality part**. -/
inductive Discordant : Value → Value → Prop
  /-- A number that is no decimal, and a text. -/
  | realText {x : Binary64} {s : String} (h : (real x).decimal? = none) :
    Discordant (real x) (string s)
  /-- A text, and a number that is no decimal. -/
  | textReal {s : String} {x : Binary64} (h : (real x).decimal? = none) :
    Discordant (string s) (real x)
  /-- Two lists with unlike items at the same place, which are equal in a query or to the order of
  sorting. -/
  | lists {xs ys : List Value} (hunlike : anyUnlike xs ys = true)
    (hequal : allLooselyEqual xs ys = true ∨ listOrder xs ys = .eq) :
    Discordant (list xs) (list ys)

variable {a b : Value} {o : Ordering}

/-- The operators do not fail on two values with an order between them. -/
theorem exists_compareValues_of_order (h : order a b = .ok o) (operator : Query.Comparison) :
    ∃ holds, compareValues operator a b = .ok holds := by
  by_cases hmissing : a.isMissing = true ∨ b.isMissing = true
  · cases operator <;> simp [compareValues, hmissing]
  · cases operator <;> simp [compareValues, hmissing, h, Except.map]

/-- With an order between them, exactly one of three holds of two values as soon as equality is what
the order says. -/
theorem trichotomy_iff_of_order (ha : a.isMissing = false) (hb : b.isMissing = false)
    (h : order a b = .ok o) : Trichotomy a b ↔ (a.looselyEquals b = true ↔ o = .eq) := by
  have hequal : compareValues .equal a b = .ok true ↔ a.looselyEquals b = true := by
    simp [compareValues]
  have haccepts : ∀ operator, operator ≠ .equal → operator ≠ .notEqual →
      (compareValues operator a b = .ok true ↔ accepts operator o = true) := by
    intro operator hne hne'
    cases operator <;> first | contradiction | simp [compareValues, ha, hb, h, Except.map]
  have hless := haccepts .less nofun nofun
  have hgreater := haccepts .greater nofun nofun
  have hlessEqual := haccepts .lessEqual nofun nofun
  have hgreaterEqual := haccepts .greaterEqual nofun nofun
  constructor
  · rintro ⟨hone, -, -⟩
    rw [ExactlyOne, hless, hequal, hgreater] at hone
    cases o <;> simpa [accepts] using hone
  · intro hiff
    constructor
    · rw [ExactlyOne, hless, hequal, hgreater, hiff]
      cases o <;> simp [accepts]
    · rw [hlessEqual, hless, hequal, hiff]
      cases o <;> simp [accepts]
    · rw [hgreaterEqual, hgreater, hequal, hiff]
      cases o <;> simp [accepts]

/-! ### What a condition orders -/

/-- **The order of two values** in a condition, by how they come to be ordered. -/
inductive Compares : Value → Value → Ordering → Prop
  /-- Two texts. -/
  | texts (s t : String) : Compares (string s) (string t) (compare s t)
  /-- Two truth values. -/
  | booleans (p q : Bool) : Compares (boolean p) (boolean q) (compare p q)
  /-- Two lists. -/
  | lists (xs ys : List Value) : Compares (list xs) (list ys) (listOrder xs ys)
  /-- A number, and a number or a text that spells one. -/
  | numbers {a b : Value} (hnumber : a.isNumber = true ∨ b.isNumber = true)
    (ha : isNumeric a = true) (hb : isNumeric b = true) : Compares a b (a.compareNumbers b)
  /-- A date, and a date or a text that names one. -/
  | dates {a b : Value} {t u : Calendar.Instant} (hdate : a.isDate = true ∨ b.isDate = true)
    (ha : a.date? = some t) (hb : b.date? = some u) : Compares a b (t.order u)

theorem compares_of_order (h : order a b = .ok o) : Compares a b o := by
  rw [order.eq_def] at h
  split at h
  · obtain rfl := Except.ok.inj h
    exact .texts ..
  · obtain rfl := Except.ok.inj h
    exact .booleans ..
  · obtain rfl := Except.ok.inj h
    exact .lists ..
  · split at h
    · next hnumber =>
      split at h
      · next hnumeric =>
        obtain rfl := Except.ok.inj h
        rw [Bool.and_eq_true] at hnumeric
        exact .numbers (Bool.or_eq_true_iff.mp hnumber) hnumeric.1 hnumeric.2
      · exact nomatch h
    · split at h
      · next hdate =>
        split at h
        · next t u ht hu =>
          obtain rfl := Except.ok.inj h
          exact .dates (Bool.or_eq_true_iff.mp hdate) ht hu
        · exact nomatch h
      · exact nomatch h

/-- What spells a number without being one is a text. -/
theorem exists_text_of_isNumeric (h : isNumeric a = true) (hnumber : a.isNumber = false) :
    ∃ s d, a = string s ∧ a.decimal? = some d := by
  rw [isNumeric, hnumber, Bool.false_or] at h
  obtain ⟨d, hd⟩ := Option.isSome_iff_exists.mp h
  cases a with
  | string s => exact ⟨s, d, rfl, hd⟩
  | integer | real => cases hnumber
  | _ => cases hd

/-- A number that is no decimal is a binary one. -/
theorem exists_real_of_decimal?_eq_none (hnumber : a.isNumber = true) (h : a.decimal? = none) :
    ∃ x, a = real x := by
  cases a with
  | real x => exact ⟨x, rfl⟩
  | integer => cases h
  | _ => cases hnumber

theorem looselyEquals_of_dates (hdate : a.isDate = true ∨ b.isDate = true)
    {t u : Calendar.Instant} (ha : a.date? = some t) (hb : b.date? = some u) :
    a.looselyEquals b = (t == u) := by
  have hnumber : ∀ {v : Value} {t : Calendar.Instant}, v.date? = some t → ¬v.isNumber = true := by
    intro v t ht
    cases v <;> first | exact Bool.false_ne_true | cases ht
  rw [looselyEquals_of_isDate hdate (not_or.mpr ⟨hnumber ha, hnumber hb⟩), datesEqual, ha, hb]

/-! ### Where order and equality part -/

/-- Without a view that both values have, they are not the same number, and yet the order of numbers
does not tell them apart. -/
theorem numbersEqual_of_no_view (hdecimal : a.decimal? = none ∨ b.decimal? = none)
    (hbinary : a.binary? = none ∨ b.binary? = none) :
    a.numbersEqual b = false ∧ a.compareNumbers b = .eq := by
  rcases hdecimal with hd | hd <;> rcases hbinary with hx | hx <;>
    simp [numbersEqual, compareNumbers, hd, hx]

/-- **Numbers agree** unless one of them is a text and the other one is no decimal. -/
theorem numbers_agree (hnumber : a.isNumber = true ∨ b.isNumber = true)
    (ha : isNumeric a = true) (hb : isNumeric b = true) (hao : a.IsOrdered) (hbo : b.IsOrdered) :
    (a.numbersEqual b = true ↔ a.compareNumbers b = .eq) ↔ ¬Discordant a b := by
  have hfar : a.decimal? = none ∨ b.decimal? = none → a.binary? = none ∨ b.binary? = none →
      Discordant a b →
        ((a.numbersEqual b = true ↔ a.compareNumbers b = .eq) ↔ ¬Discordant a b) := by
    intro hdecimal hbinary hdiscordant
    obtain ⟨hequal, hsame⟩ := numbersEqual_of_no_view hdecimal hbinary
    simp [hequal, hsame, hdiscordant]
  cases hda : a.isNumber with
  | true =>
    cases hdb : b.isNumber with
    | true =>
      refine iff_of_true (numbersEqual_iff hda hdb hao hbo) fun hdiscordant => ?_
      rcases hdiscordant with h | h | ⟨h, h'⟩
      · cases hdb
      · cases hda
      · cases hda
    | false =>
      obtain ⟨s, e, rfl, he⟩ := exists_text_of_isNumeric hb hdb
      cases hd : a.decimal? with
      | some d =>
        refine iff_of_true (numbersEqual_iff_of_decimals hd he) fun hdiscordant => ?_
        cases hdiscordant with
        | realText h => exact nomatch hd.symm.trans h
      | none =>
        obtain ⟨x, rfl⟩ := exists_real_of_decimal?_eq_none hda hd
        exact hfar (.inl hd) (.inr rfl) (.realText hd)
  | false =>
    obtain ⟨s, d, rfl, hd⟩ := exists_text_of_isNumeric ha hda
    have hdb : b.isNumber = true := hnumber.resolve_left (by simp [hda])
    cases he : b.decimal? with
    | some e =>
      refine iff_of_true (numbersEqual_iff_of_decimals hd he) fun hdiscordant => ?_
      cases hdiscordant with
      | textReal h => exact nomatch he.symm.trans h
    | none =>
      obtain ⟨x, rfl⟩ := exists_real_of_decimal?_eq_none hdb he
      exact hfar (.inr he) (.inl rfl) (.textReal he)

/-- **Order and equality agree** on two values that are ordered in a condition, unless they are
discordant. -/
theorem looselyEquals_iff (hao : a.IsOrdered) (hbo : b.IsOrdered) (h : Compares a b o)
    (ha : a.isMissing = false) (hb : b.isMissing = false) :
    (a.looselyEquals b = true ↔ o = .eq) ↔ ¬Discordant a b := by
  cases h with
  | texts s t =>
    refine iff_of_true ?_ (by rintro ⟨⟩)
    rw [looselyEquals, beq_iff_eq, Std.LawfulEqCmp.compare_eq_iff_eq]
  | booleans p q =>
    refine iff_of_true ?_ (by rintro ⟨⟩)
    cases p <;> cases q <;> decide
  | lists xs ys =>
    have hagrees := (agrees hao hbo).iff_iff
    rw [looselyEquals, sortOrder, unlike] at hagrees
    rw [looselyEquals, hagrees]
    refine not_congr ⟨fun h => .lists h.1 h.2, fun hdiscordant => ?_⟩
    cases hdiscordant with
    | lists hunlike hequal => exact ⟨hunlike, hequal⟩
  | numbers hnumber hna hnb =>
    rw [looselyEquals_of_isNumber hnumber]
    exact numbers_agree hnumber hna hnb hao hbo
  | dates hdate ht hu =>
    rw [looselyEquals_of_dates hdate ht hu, beq_iff_eq]
    refine iff_of_true order_eq_iff.symm fun hdiscordant => ?_
    rcases hdiscordant with h | h | ⟨h, h'⟩
    · cases ht
    · cases hu
    · cases ht

/-- **Exactly one of less, equal and greater** holds of two values that the operators of order do
not fail on, precisely when the values are not discordant. -/
theorem trichotomy_iff (ha : a.isMissing = false) (hb : b.isMissing = false) (hao : a.IsOrdered)
    (hbo : b.IsOrdered)
    (hordered : ∀ operator, ∃ holds, compareValues operator a b = .ok holds) :
    Trichotomy a b ↔ ¬Discordant a b := by
  obtain ⟨o, horder⟩ : ∃ o, order a b = .ok o := by
    obtain ⟨holds, hless⟩ := hordered .less
    rw [compareValues, ha, hb] at hless
    cases horder : order a b with
    | ok o => exact ⟨o, rfl⟩
    | error e =>
      rw [horder] at hless
      exact nomatch hless
    all_goals exact nofun
  rw [trichotomy_iff_of_order ha hb horder]
  exact looselyEquals_iff hao hbo (compares_of_order horder) ha hb

/-- A text that spells a number, and a number below it. -/
theorem trichotomy_iff_of_numericText :
    Trichotomy (string "10") (integer 9) ↔ ¬Discordant (string "10") (integer 9) := by
  refine trichotomy_iff rfl rfl rfl rfl fun operator => ?_
  cases operator <;> exact ⟨_, rfl⟩

/-- **Order and equality part** at a text that spells a number next to a number beyond the decimals,
where neither less nor equal holds and yet less or equal does, and at two lists, where both less and
equal hold. The operators fail on neither pair. -/
theorem not_trichotomy_of_far_of_lists :
    let far := real (.ofDecimal false 1 30)
    far.IsOrdered ∧ (∀ operator, ∃ holds, compareValues operator (string "5") far = .ok holds) ∧
      ¬Trichotomy (string "5") far ∧
      (∀ operator, ∃ holds,
        compareValues operator (list [integer 1]) (list [string "1"]) = .ok holds) ∧
      ¬Trichotomy (list [integer 1]) (list [string "1"]) := by
  intro far
  have hfar : order (string "5") far = .ok .eq := by decide +kernel
  have hfarEqual : (string "5").looselyEquals far = false := by decide +kernel
  have hlists : order (list [integer 1]) (list [string "1"]) = .ok .lt := rfl
  have hlistsEqual : (list [integer 1]).looselyEquals (list [string "1"]) = true := by
    decide +kernel
  refine ⟨by decide +kernel, exists_compareValues_of_order hfar, ?_,
    exists_compareValues_of_order hlists, ?_⟩
  · rw [trichotomy_iff_of_order rfl rfl hfar, hfarEqual]
    decide
  · rw [trichotomy_iff_of_order rfl rfl hlists, hlistsEqual]
    decide

end Notebook.Evaluation
