import Notebook.Execution.Basic
import Notebook.Proofs.Evaluation.Several

/-!
# Stages

A stage asks one thing of each candidate: whether it meets the condition, what the values of its
columns are. When nothing breaks down it goes through with all of them: those with an answer pass
(`Notebook.Execution.passed`), those with an error fail (`Notebook.Execution.failed`) and leave a
record, both in the order in which they came (`Notebook.Execution.stage_eq_ok_iff`). So a stage does
the same for a candidate whatever the others are: running it on some of the candidates is running it
on all and leaving out the others (`Notebook.Execution.passed_filter`,
`Notebook.Execution.failed_filter`).

What the two stages of a query ask is said here in terms of the values of its expressions alone:
`Notebook.Execution.Accepts`, `Notebook.Execution.Rejects` and `Notebook.Execution.ConditionFails`
for the condition, `Notebook.Execution.HasColumns` and `Notebook.Execution.ColumnFails` for the
columns.
-/

namespace Notebook.Execution

open Evaluation Query

/-! ### Candidates with something to them -/

section

variable {β : Type} {give : Candidate → Option β} {cs : List Candidate}

/-- **The candidates that are given something**, with what it is. -/
def paired (give : Candidate → Option β) (cs : List Candidate) : List (Candidate × β) :=
  cs.filterMap fun c => (give c).map (c, ·)

theorem mem_paired {p : Candidate × β} : p ∈ paired give cs ↔ p.1 ∈ cs ∧ give p.1 = some p.2 := by
  obtain ⟨c, b⟩ := p
  unfold paired
  simp only [List.mem_filterMap, Option.map_eq_some_iff, Prod.mk.injEq]
  constructor
  · rintro ⟨_, hc, _, hgive, rfl, rfl⟩
    exact ⟨hc, hgive⟩
  · rintro ⟨hc, hgive⟩
    exact ⟨c, hc, b, hgive, rfl, rfl⟩

/-- What a candidate is given does not depend on the other ones. -/
theorem paired_filter (p : Candidate → Bool) (cs : List Candidate) :
    paired give (cs.filter p) = (paired give cs).filter (p ·.1) := by
  unfold paired
  rw [List.filterMap_filter, List.filter_filterMap]
  refine List.filterMap_congr fun c _ => ?_
  cases give c <;> simp [Option.filter]

theorem paired_map_fst (cs : List Candidate) :
    (paired give cs).map Prod.fst = cs.filter fun c => (give c).isSome := by
  induction cs with
  | nil => rfl
  | cons c cs ih =>
    unfold paired at ih ⊢
    cases hgive : give c <;> simp [hgive, ih]

theorem paired_cons_of_some {c : Candidate} {b : β} (h : give c = some b) (cs : List Candidate) :
    paired give (c :: cs) = (c, b) :: paired give cs :=
  List.filterMap_cons_some (by rw [h]; rfl)

theorem paired_cons_of_none {c : Candidate} (h : give c = none) (cs : List Candidate) :
    paired give (c :: cs) = paired give cs :=
  List.filterMap_cons_none (by rw [h]; rfl)

theorem paired_append (cs ds : List Candidate) :
    paired give (cs ++ ds) = paired give cs ++ paired give ds :=
  List.filterMap_append

end

/-! ### One question to each candidate -/

section

variable {α : Type} (ask : Candidate → Except Stop α)

/-- The error in an answer. -/
def error? : Except Stop α → Option EvaluationError
  | .error (.error e) => some e
  | _ => none

/-- **The candidates that pass** a question, with their answers. -/
def passed : List Candidate → List (Candidate × α) := paired fun c => (ask c).toOption

/-- **The candidates that fail** a question, with their errors. -/
def failed : List Candidate → List (Candidate × EvaluationError) := paired fun c => error? (ask c)

/-- A question **is answered** by candidates when each has a value or an error for it, and none
breaks down. -/
def Answered (cs : List Candidate) : Prop :=
  ∀ c ∈ cs, ∀ message, ask c ≠ .error (.breakdown message)

/-- The records of candidates that failed. -/
def records (failures : List (Candidate × EvaluationError)) : List Skipped :=
  failures.map fun failure => failure.1.skip failure.2

variable {ask} {cs : List Candidate} {c : Candidate} {a : α} {e : EvaluationError}

theorem toOption_eq_some_iff {ε : Type} {answer : Except ε α} :
    answer.toOption = some a ↔ answer = .ok a := by
  cases answer <;> simp [Except.toOption]

/-- What is seen of an answer that succeeds. -/
theorem exists_ok_of_toOption_map {ε β : Type} {answer : Except ε α} {f : α → β} {b : β}
    (h : answer.toOption.map f = some b) : ∃ a, answer = .ok a ∧ f a = b := by
  obtain ⟨a, hanswer, hb⟩ := Option.map_eq_some_iff.mp h
  exact ⟨a, toOption_eq_some_iff.mp hanswer, hb⟩

theorem error?_eq_some_iff {answer : Except Stop α} :
    error? answer = some e ↔ answer = .error (.error e) := by
  rcases answer with (e' | message) | a <;> simp [error?]

theorem passed_filter (p : Candidate → Bool) (cs : List Candidate) :
    passed ask (cs.filter p) = (passed ask cs).filter (p ·.1) :=
  paired_filter p cs

theorem failed_filter (p : Candidate → Bool) (cs : List Candidate) :
    failed ask (cs.filter p) = (failed ask cs).filter (p ·.1) :=
  paired_filter p cs

theorem mem_passed {p : Candidate × α} : p ∈ passed ask cs ↔ p.1 ∈ cs ∧ ask p.1 = .ok p.2 := by
  rw [passed, mem_paired, toOption_eq_some_iff]

theorem mem_failed {p : Candidate × EvaluationError} :
    p ∈ failed ask cs ↔ p.1 ∈ cs ∧ ask p.1 = .error (.error p.2) := by
  rw [failed, mem_paired, error?_eq_some_iff]

/-- Where all answer, each candidate passes or fails, and none does both. -/
theorem perm_passed_failed (h : Answered ask cs) :
    ((passed ask cs).map Prod.fst ++ (failed ask cs).map Prod.fst).Perm cs := by
  unfold passed failed
  have heq : cs.filter (fun c => (error? (ask c)).isSome) =
      cs.filter fun c => !(ask c).toOption.isSome := by
    refine List.filter_congr fun c hc => ?_
    match hask : ask c with
    | .ok a => rfl
    | .error (.error e) => rfl
    | .error (.breakdown message) => exact absurd hask (h c hc message)
  rw [paired_map_fst, paired_map_fst, heq]
  exact List.filter_append_perm _ cs

/-- A stage goes through with candidates that all answer. -/
theorem stage_of_answered (h : Answered ask cs) :
    stage (fun c => (ask c).map (c, ·)) cs = .ok (passed ask cs, records (failed ask cs)) := by
  induction cs with
  | nil => rfl
  | cons c cs ih =>
    obtain ⟨hc, hcs⟩ := List.forall_mem_cons.mp h
    unfold stage passed failed
    match hask : ask c with
    | .ok a =>
      rw [ih hcs, paired_cons_of_some (toOption_eq_some_iff.mpr hask),
        paired_cons_of_none (by rw [hask]; rfl)]
      rfl
    | .error (.error e) =>
      rw [ih hcs, paired_cons_of_none (by rw [hask]; rfl),
        paired_cons_of_some (error?_eq_some_iff.mpr hask)]
      rfl
    | .error (.breakdown message) => exact absurd hask (hc message)

/-- A stage that does not go through ends in a breakdown. -/
theorem stage_of_not_answered (h : ¬Answered ask cs) : ∃ message,
    stage (fun c => (ask c).map (c, ·)) cs = .error (.unexpected message) := by
  induction cs with
  | nil => exact absurd (fun c hc => by cases hc) h
  | cons c cs ih =>
    have hrest : (∀ message, ask c ≠ .error (.breakdown message)) → ¬Answered ask cs :=
      fun hc hcs => h (List.forall_mem_cons.mpr ⟨hc, hcs⟩)
    unfold stage
    match hask : ask c with
    | .ok a =>
      obtain ⟨message, hstage⟩ := ih (hrest (by simp [hask]))
      exact ⟨message, by rw [hstage]; rfl⟩
    | .error (.error e) =>
      obtain ⟨message, hstage⟩ := ih (hrest (by simp [hask]))
      exact ⟨message, by rw [hstage]; rfl⟩
    | .error (.breakdown message) => exact ⟨message, rfl⟩

/-- **What a stage gives.** -/
theorem stage_eq_ok_iff {done : List (Candidate × α)} {skipped : List Skipped} :
    stage (fun c => (ask c).map (c, ·)) cs = .ok (done, skipped) ↔
      Answered ask cs ∧ done = passed ask cs ∧ skipped = records (failed ask cs) := by
  by_cases h : Answered ask cs
  · rw [stage_of_answered h, Except.ok.injEq, Prod.mk.injEq]
    exact ⟨fun ⟨hdone, hskipped⟩ => ⟨h, hdone.symm, hskipped.symm⟩,
      fun ⟨_, hdone, hskipped⟩ => ⟨hdone.symm, hskipped.symm⟩⟩
  · obtain ⟨message, hstage⟩ := stage_of_not_answered h
    rw [hstage]
    exact ⟨nofun, fun h' => absurd h'.1 h⟩

end

/-! ### The condition -/

section

variable (functions : Registry) (query : Query) (c : Candidate)

/-- A candidate **is accepted**: the condition is truthy for it, or there is none. -/
def Accepts : Prop :=
  ∀ condition ∈ query.condition, ∃ v,
    evaluate functions c.environment condition = .ok v ∧ v.isTruthy = true

/-- A candidate **is rejected**: there is a condition, and it is not truthy for it. -/
def Rejects : Prop :=
  ∃ condition ∈ query.condition, ∃ v,
    evaluate functions c.environment condition = .ok v ∧ v.isTruthy = false

/-- **The condition fails** for a candidate with an error. -/
def ConditionFails (e : EvaluationError) : Prop :=
  ∃ condition ∈ query.condition, evaluate functions c.environment condition = .error (.error e)

/-- Whether the condition keeps a candidate. -/
def keeps : Bool := (meets functions query c).toOption == some true

end

variable {functions : Registry} {query : Query} {c : Candidate} {cs : List Candidate}
  {e : EvaluationError} {values : List Value}

theorem meets_eq_ok_true_iff :
    meets functions query c = .ok true ↔ Accepts functions query c := by
  unfold meets Accepts holds
  cases query.condition with
  | none => simp
  | some condition =>
    cases hvalue : evaluate functions c.environment condition <;> simp [hvalue, Except.map]

theorem meets_eq_ok_false_iff :
    meets functions query c = .ok false ↔ Rejects functions query c := by
  unfold meets Rejects holds
  cases query.condition with
  | none => simp
  | some condition =>
    cases hvalue : evaluate functions c.environment condition <;> simp [hvalue, Except.map]

theorem meets_eq_error_iff :
    meets functions query c = .error (.error e) ↔ ConditionFails functions query c e := by
  unfold meets ConditionFails holds
  cases query.condition with
  | none => simp
  | some condition =>
    cases hvalue : evaluate functions c.environment condition <;> simp [hvalue, Except.map]

theorem keeps_iff : keeps functions query c = true ↔ Accepts functions query c := by
  rw [← meets_eq_ok_true_iff, keeps, beq_iff_eq, toOption_eq_some_iff]

/-- **What the condition leaves**: the candidates that it accepts, and the records of those for
which it fails. -/
theorem filterStage_eq_ok_iff {kept : List Candidate} {skipped : List Skipped} :
    filterStage functions query cs = .ok (kept, skipped) ↔
      Answered (meets functions query) cs ∧ kept = cs.filter (keeps functions query) ∧
        skipped = records (failed (meets functions query) cs) := by
  have hkept : (passed (meets functions query) cs).filterMap
      (fun p => if p.2 then some p.1 else none) = cs.filter (keeps functions query) := by
    unfold passed paired
    rw [List.filterMap_filterMap, ← List.filterMap_eq_filter]
    refine List.filterMap_congr fun c _ => ?_
    rcases hanswer : (meets functions query c).toOption with _ | _ | _ <;>
      simp [hanswer, Option.guard, keeps]
  unfold filterStage
  simp only [bind_eq_ok_iff, Prod.exists, stage_eq_ok_iff, pure, Except.pure, Except.ok.injEq,
    Prod.mk.injEq]
  constructor
  · rintro ⟨_, _, ⟨hanswered, rfl, rfl⟩, rfl, rfl⟩
    exact ⟨hanswered, hkept, rfl⟩
  · rintro ⟨hanswered, rfl, rfl⟩
    exact ⟨_, _, ⟨hanswered, rfl, rfl⟩, hkept, rfl⟩

/-- Where the condition is answered, each candidate is accepted, or rejected, or the condition fails
for it, and no two of these. -/
theorem exists_perm_filter (h : Answered (meets functions query) cs) : ∃ rejected,
    (∀ c, c ∈ rejected ↔ c ∈ cs ∧ Rejects functions query c) ∧
      (cs.filter (keeps functions query) ++ (failed (meets functions query) cs).map Prod.fst ++
        rejected).Perm cs := by
  let judged := cs.filter fun c => (meets functions query c).toOption.isSome
  let undecided := (failed (meets functions query) cs).map Prod.fst
  let rejected := judged.filter fun c => !keeps functions query c
  have hkept : judged.filter (keeps functions query) = cs.filter (keeps functions query) := by
    rw [List.filter_filter]
    refine List.filter_congr fun c _ => ?_
    rcases hanswer : (meets functions query c).toOption with _ | _ | _ <;> simp [keeps, hanswer]
  have hpassed : (passed (meets functions query) cs).map Prod.fst = judged := paired_map_fst cs
  refine ⟨rejected, fun c => ?_, ?_⟩
  · rw [← meets_eq_ok_false_iff, ← toOption_eq_some_iff, List.mem_filter, List.mem_filter,
      and_assoc]
    rcases hanswer : (meets functions query c).toOption with _ | _ | _ <;> simp [keeps, hanswer]
  · rw [← hkept]
    calc (judged.filter (keeps functions query) ++ undecided ++ rejected).Perm
          (judged.filter (keeps functions query) ++ rejected ++ undecided) := by
          rw [List.append_assoc, List.append_assoc]
          exact List.perm_append_comm.append_left _
      _ |>.Perm (judged ++ undecided) := (List.filter_append_perm _ judged).append_right _
      _ |>.Perm cs := hpassed ▸ perm_passed_failed h

/-! ### The columns -/

section

variable (functions query c)

/-- The values of the columns of a candidate. -/
def columnValues : Except Stop (List Value) :=
  evaluateAll functions c.environment (query.columns.map Column.expression)

/-- A candidate **has columns**: each has its value. -/
def HasColumns (values : List Value) : Prop :=
  List.Forall₂ (fun column v => evaluate functions c.environment column.expression = .ok v)
    query.columns values

/-- **A column fails** for a candidate: the columns before it have values, and it has an error. -/
def ColumnFails (e : EvaluationError) : Prop :=
  ∃ before column after, query.columns = before ++ column :: after ∧
    (∀ other ∈ before, ∃ v, evaluate functions c.environment other.expression = .ok v) ∧
    evaluate functions c.environment column.expression = .error (.error e)

end

theorem columnValues_eq_ok_iff :
    columnValues functions query c = .ok values ↔ HasColumns functions query c values :=
  evaluateAll_map_eq_ok_iff

theorem columnValues_eq_error_iff :
    columnValues functions query c = .error (.error e) ↔ ColumnFails functions query c e := by
  rw [columnValues, evaluateAll_eq_error_iff]
  constructor
  · rintro ⟨before, failing, after, hsplit, hbefore, hfailing⟩
    obtain ⟨columns, rest, hcolumns, rfl, hrest⟩ := List.map_eq_append_iff.mp hsplit
    obtain ⟨column, after, rfl, rfl, rfl⟩ := List.map_eq_cons_iff.mp hrest
    exact ⟨columns, column, after, hcolumns, fun other h => hbefore _ (List.mem_map_of_mem h),
      hfailing⟩
  · rintro ⟨before, column, after, hsplit, hbefore, hfailing⟩
    refine ⟨before.map Column.expression, column.expression, after.map Column.expression,
      by rw [hsplit, List.map_append, List.map_cons], fun b hb => ?_, hfailing⟩
    obtain ⟨other, hother, rfl⟩ := List.mem_map.mp hb
    exact hbefore other hother

/-- **What the columns leave**: the candidates that have them, and the records of those for which a
column fails. -/
theorem columnStage_eq_ok_iff {shown : List (Candidate × List Value)} {skipped : List Skipped} :
    columnStage functions query cs = .ok (shown, skipped) ↔
      Answered (columnValues functions query) cs ∧
        shown = passed (columnValues functions query) cs ∧
        skipped = records (failed (columnValues functions query) cs) :=
  stage_eq_ok_iff

end Notebook.Execution
