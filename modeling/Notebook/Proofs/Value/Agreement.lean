import Notebook.Proofs.Value.SortOrder

/-!
# Where equality and order agree

Two values without not-a-number that are of one kind are equal in a query exactly when neither comes
before the other in the order of sorting. Between kinds the two part: equality looks through a text
for a number or a date, and the order does not; and an absent value equals nothing, while the order
puts all missing values in one place. Such pairs are `Notebook.Value.unlike`, in lists also where
they stand at the same place of both, at any depth.

For all other pairs equality and order say the same, and for these they never do
(`Notebook.Value.agrees`): two values that are equal in both ways are never unlike, and two that are
equal in one way and not unlike are equal in the other.
-/

namespace Notebook.Value

open Number

/-! ### Unlike values -/

mutual

/-- Whether equality and order see two values **differently**: a text beside a number or a date, a
missing value beside an absent one, or two lists with such a pair at the same place. -/
def unlike : Value → Value → Bool
  | string _, b => b.isNumber || b.isDate
  | a, string _ => a.isNumber || a.isDate
  | absent, b => b.isMissing
  | a, absent => a.isMissing
  | list xs, list ys => anyUnlike xs ys
  | _, _ => false

/-- Whether two lists have unlike items at the same place. -/
def anyUnlike : List Value → List Value → Bool
  | x :: xs, y :: ys => unlike x y || anyUnlike xs ys
  | _, _ => false

end

/-! ### Two ways of being equal -/

/-- How two ways of being equal stand to each other: where either holds, the other one holds unless
the two things are apart. -/
structure Agrees (equal same apart : Prop) : Prop where
  /-- What is equal in the first way is equal in the second one unless it is apart. -/
  same_iff : equal → (same ↔ ¬apart)
  /-- What is equal in the second way is equal in the first one unless it is apart. -/
  equal_iff : same → (equal ↔ ¬apart)

namespace Agrees

variable {equal same apart equal' same' apart' : Prop}

theorem of_iff (h : equal ↔ same) (hapart : ¬apart) : Agrees equal same apart where
  same_iff hequal := iff_of_true (h.mp hequal) hapart
  equal_iff hsame := iff_of_true (h.mpr hsame) hapart

/-- Things that are made of two parts each. -/
theorem and (h : Agrees equal same apart) (h' : Agrees equal' same' apart') :
    Agrees (equal ∧ equal') (same ∧ same') (apart ∨ apart') where
  same_iff hequal := by rw [h.same_iff hequal.1, h'.same_iff hequal.2, not_or]
  equal_iff hsame := by rw [h.equal_iff hsame.1, h'.equal_iff hsame.2, not_or]

/-- **The two ways agree** unless one of them holds of things that are apart. -/
theorem iff_iff (h : Agrees equal same apart) : (equal ↔ same) ↔ ¬(apart ∧ (equal ∨ same)) := by
  constructor
  · rintro hiff ⟨hapart, hequal | hsame⟩
    · exact (h.same_iff hequal).mp (hiff.mp hequal) hapart
    · exact (h.equal_iff hsame).mp (hiff.mpr hsame) hapart
  · intro hnot
    constructor
    · exact fun hequal => (h.same_iff hequal).mpr fun hapart => hnot ⟨hapart, .inl hequal⟩
    · exact fun hsame => (h.equal_iff hsame).mpr fun hapart => hnot ⟨hapart, .inr hsame⟩

end Agrees

/-! ### Numbers and dates -/

variable {a b : Value}

/-- Two values that are decimals are the same number exactly when the order of numbers says so. -/
theorem numbersEqual_iff_of_decimals {d e : Decimal} (ha : a.decimal? = some d)
    (hb : b.decimal? = some e) : a.numbersEqual b = true ↔ a.compareNumbers b = .eq := by
  rw [numbersEqual, compareNumbers, ha, hb]
  have horder : d.order e = .eq ↔ d.units = e.units := Int.compare_eq_eq
  obtain ⟨u⟩ := d
  obtain ⟨v⟩ := e
  simp only [horder, beq_iff_eq, Decimal.mk.injEq]

theorem exists_binary (hnumber : a.isNumber = true) (h : a.IsOrdered) :
    ∃ x, a.binary? = some x ∧ x ≠ .nan := by
  rcases stands hnumber h with ⟨d, x, -, hx, -⟩ | ⟨x, -, hx, hfar⟩
  · exact ⟨_, hx, nofun⟩
  · exact ⟨x, hx, fun hnan => nomatch hnan ▸ hfar⟩

/-- **Two numbers are the same** exactly when the order of numbers says so. -/
theorem numbersEqual_iff (ha : a.isNumber = true) (hb : b.isNumber = true) (hao : a.IsOrdered)
    (hbo : b.IsOrdered) : a.numbersEqual b = true ↔ a.compareNumbers b = .eq := by
  obtain ⟨x, hx, hxnan⟩ := exists_binary ha hao
  obtain ⟨y, hy, hynan⟩ := exists_binary hb hbo
  have hequals : x.equals y = true ↔ (x.compare? y).getD .eq = .eq := by
    have hsome : ∃ o, x.compare? y = some o := by
      cases x with
      | nan => exact absurd rfl hxnan
      | infinite s => cases y <;> first | exact absurd rfl hynan | exact ⟨_, rfl⟩
      | finite x => cases y <;> first | exact absurd rfl hynan | exact ⟨_, rfl⟩
    obtain ⟨o, ho⟩ := hsome
    simp [Binary64.equals, ho]
  cases had : a.decimal? with
  | some d =>
    cases hbd : b.decimal? with
    | some e => exact numbersEqual_iff_of_decimals had hbd
    | none => simpa [numbersEqual, compareNumbers, had, hbd, hx, hy] using hequals
  | none => simpa [numbersEqual, compareNumbers, had, hx, hy] using hequals

theorem order_eq_iff {t u : Calendar.Instant} : t.order u = .eq ↔ t = u := by
  obtain ⟨⟨year, month, day, hday⟩, second, nano, hmoment⟩ := t
  obtain ⟨⟨year', month', day', hday'⟩, second', nano', hmoment'⟩ := u
  simp [Calendar.Instant.order, Calendar.Day.order, Ordering.then_eq_eq, and_assoc]

/-! ### Values -/

/-- Values of different kinds that are equal in a query are unlike. -/
theorem unlike_of_looselyEquals (hrank : a.rank ≠ b.rank) (h : a.looselyEquals b = true) :
    a.unlike b = true := by
  -- only texts, numbers and dates have the views that equality compares
  cases a <;> cases b <;>
    simp_all [looselyEquals, unlike, numbersEqual, datesEqual, decimal?, binary?, date?, isNumber,
      isDate, rank]

theorem agrees_of_rank_ne (hrank : a.rank ≠ b.rank) :
    Agrees (a.looselyEquals b = true) (a.sortOrder b = .eq) (a.unlike b = true) := by
  have hsort : a.sortOrder b ≠ .eq := by
    rw [sortOrder_of_rank_ne hrank, ne_eq, Nat.compare_eq_eq]
    exact hrank
  constructor
  · exact fun h => iff_of_false hsort (not_not_intro (unlike_of_looselyEquals hrank h))
  · exact fun h => absurd h hsort

theorem isMissing_iff : a.isMissing = true ↔ a.rank = 0 := by cases a <;> simp [isMissing, rank]

/-- Missing values are one to the order; to equality only nulls are. -/
theorem agrees_missing (ha : a.isMissing = true) (hb : b.isMissing = true) :
    Agrees (a.looselyEquals b = true) (a.sortOrder b = .eq) (a.unlike b = true) := by
  cases a <;> cases ha <;> cases b <;> cases hb <;>
    constructor <;> simp [looselyEquals, sortOrder, unlike, isMissing, isNumber, rank]

theorem agrees_numbers (ha : a.isNumber = true) (hb : b.isNumber = true) (hao : a.IsOrdered)
    (hbo : b.IsOrdered) :
    Agrees (a.looselyEquals b = true) (a.sortOrder b = .eq) (a.unlike b = true) := by
  have hequal : a.looselyEquals b = a.numbersEqual b := by
    cases a <;> cases ha <;> cases b <;> cases hb <;> rfl
  have hunlike : ¬a.unlike b = true := by
    cases a <;> cases ha <;> cases b <;> cases hb <;> exact Bool.false_ne_true
  rw [hequal, sortOrder_of_numbers ha hb]
  exact .of_iff (numbersEqual_iff ha hb hao hbo) hunlike

/-- Lists are made of their items. -/
theorem agrees_lists {xs ys : List Value} (h : ∀ x ∈ xs, ∀ y ∈ ys,
    Agrees (x.looselyEquals y = true) (x.sortOrder y = .eq) (x.unlike y = true)) :
    Agrees (allLooselyEqual xs ys = true) (listOrder xs ys = .eq) (anyUnlike xs ys = true) := by
  induction xs generalizing ys with
  | nil =>
    cases ys with
    | nil => exact .of_iff (iff_of_true rfl rfl) Bool.false_ne_true
    | cons y ys => exact .of_iff (iff_of_false nofun nofun) Bool.false_ne_true
  | cons x xs ih =>
    cases ys with
    | nil => exact .of_iff (iff_of_false nofun nofun) Bool.false_ne_true
    | cons y ys =>
      have hitem := h x (List.mem_cons_self ..) y (List.mem_cons_self ..)
      have hrest := ih fun z hz w hw =>
        h z (List.mem_cons_of_mem _ hz) w (List.mem_cons_of_mem _ hw)
      rw [allLooselyEqual, listOrder, anyUnlike, Bool.and_eq_true, Bool.or_eq_true,
        Ordering.then_eq_eq]
      exact hitem.and hrest

/-- Induction on a value, with the items of a list as its children. -/
@[elab_as_elim]
theorem inductionOn {motive : Value → Prop} (v : Value) (absent : motive .absent)
    (null : motive .null) (boolean : ∀ p, motive (.boolean p)) (integer : ∀ n, motive (.integer n))
    (real : ∀ x, motive (.real x)) (string : ∀ s, motive (.string s))
    (date : ∀ t, motive (.date t))
    (list : ∀ items, (∀ item ∈ items, motive item) → motive (.list items)) : motive v :=
  @Value.rec motive (fun items => ∀ item ∈ items, motive item) absent null boolean integer real
    string date list (by simp) (fun _ _ h hs => List.forall_mem_cons.mpr ⟨h, hs⟩) v

/-- **Equality and order agree** on two values that are not unlike, and unlike ones are never equal
to both. -/
theorem agrees (ha : a.IsOrdered) (hb : b.IsOrdered) :
    Agrees (a.looselyEquals b = true) (a.sortOrder b = .eq) (a.unlike b = true) := by
  induction a using inductionOn generalizing b with
  | absent | null =>
    by_cases hmissing : b.isMissing = true
    · exact agrees_missing rfl hmissing
    · exact agrees_of_rank_ne fun hrank => hmissing (isMissing_iff.mpr hrank.symm)
  | integer n | real x =>
    by_cases hnumber : b.isNumber = true
    · exact agrees_numbers rfl hnumber ha hb
    · exact agrees_of_rank_ne fun hrank => hnumber (isNumber_iff.mpr hrank.symm)
  | boolean p =>
    cases b with
    | boolean q =>
      refine .of_iff ?_ Bool.false_ne_true
      cases p <;> cases q <;> decide
    | _ => exact agrees_of_rank_ne (by simp [rank])
  | string s =>
    cases b with
    | string t =>
      refine .of_iff ?_ Bool.false_ne_true
      rw [looselyEquals, sortOrder, beq_iff_eq, Std.LawfulEqCmp.compare_eq_iff_eq]
    | _ => exact agrees_of_rank_ne (by simp [rank])
  | date t =>
    cases b with
    | date u =>
      refine .of_iff ?_ Bool.false_ne_true
      rw [sortOrder, order_eq_iff]
      exact beq_iff_eq
    | _ => exact agrees_of_rank_ne (by simp [rank])
  | list xs ih =>
    cases b with
    | list ys =>
      rw [looselyEquals, sortOrder, unlike]
      have hxs := isOrdered_list.mp ha
      have hys := isOrdered_list.mp hb
      exact agrees_lists fun x hx y hy => ih x hx (hxs x hx) (hys y hy)
    | _ => exact agrees_of_rank_ne (by simp [rank])

end Notebook.Value
