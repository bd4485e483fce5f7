import Notebook.Json.Record
import Notebook.Proofs.Evaluation.Several

/-!
# What reading a record keeps

An object is read member by member, so that what each step keeps holds of the record in the end
(`Notebook.Json.foldMembers_keeps`). A field that has been read is not read again: another member
with its key is refused, and one with another key is put in another place. So what no other field
changes stays as it is once it is read (`Notebook.Json.readField_keeps`).
-/

namespace Notebook.Json

open Evaluation (bind_eq_ok_iff)

variable {σ : Type} {s rest : List Char}

/-! ### Objects -/

section Objects

variable {strict first : Bool} {step : σ → String → Reader σ} {state final : σ}

/-- **A member that was read**: its key, what the step made of its value, and what comes after it.
-/
theorem exists_member {n : Nat} {next : σ → List Char → Except Fault (σ × List Char)}
    (h : (match readQuoted strict [] s with
      | .error fault => Except.error fault
      | .ok (key, rest) =>
        match step state key rest with
        | .error fault => .error fault
        | .ok (state, rest) =>
          if _h : rest.length < n then next state rest else .error .malformed) =
      .ok (final, rest)) :
    ∃ key after state' left, readQuoted strict [] s = .ok (key, after) ∧
      step state key after = .ok (state', left) ∧ left.length < n ∧
      next state' left = .ok (final, rest) := by
  split at h
  · cases h
  · next key after hkey =>
    split at h
    · cases h
    · next state' left hread =>
      split at h
      · next hlt => exact ⟨key, after, state', left, hkey, hread, hlt, h⟩
      · cases h

/-- The first member of an object is read where the object starts. -/
theorem exists_member_of_first
    (h : foldMembers strict step true state ('"' :: s) = .ok (final, rest)) :
    ∃ key after state' left, readQuoted strict [] s = .ok (key, after) ∧
      step state key after = .ok (state', left) ∧
      foldMembers strict step false state' left = .ok (final, rest) := by
  have hspace : skipSpace ('"' :: s) = '"' :: s := rfl
  rw [foldMembers, hspace] at h
  obtain ⟨key, after, state', left, hkey, hread, -, hnext⟩ := exists_member h
  exact ⟨key, after, state', left, hkey, hread, hnext⟩

/-- **What each member keeps**, all of them keep. -/
theorem foldMembers_keeps {P : σ → Prop}
    (hstep : ∀ state key s state' rest, P state → step state key s = .ok (state', rest) → P state')
    (hstate : P state) (h : foldMembers strict step first state s = .ok (final, rest)) :
    P final := by
  fun_induction foldMembers strict step first state s with
  | case2 =>
    cases h
    exact hstate
  | case3 state s member after _ ih =>
    obtain ⟨key, after, state', left, -, hread, hlt, hnext⟩ := exists_member h
    exact ih state' left hlt (hstep _ _ _ _ _ hstate hread) hnext
  | case6 first state s member c after _ _ _ _ _ _ ih =>
    obtain ⟨key, after, state', left, -, hread, hlt, hnext⟩ := exists_member h
    exact ih state' left hlt (hstep _ _ _ _ _ hstate hread) hnext
  | _ => cases h

end Objects

/-! ### Whole texts -/

/-- What is read from a whole text stands at its start. -/
theorem exists_of_readAll {α : Type} {reader : Reader α} {text : String} {a : α}
    (h : readAll reader text = .ok a) : ∃ rest, reader text.toList = .ok (a, rest) := by
  obtain ⟨⟨value, rest⟩, hread, hend⟩ := bind_eq_ok_iff.mp h
  dsimp only at hend
  split at hend
  · cases hend
    exact ⟨rest, hread⟩
  · cases hend

/-- A record in braces is what its members make of the record at the start. -/
theorem exists_of_readRecord {slots : List (Slot σ)} {start record : σ} {depth : Nat}
    (h : readRecord slots start (depth + 1) ('{' :: s) = .ok (record, rest)) :
    ∃ seen, foldMembers true (readField slots depth) true (start, []) s =
      .ok ((record, seen), rest) := by
  have hspace : skipSpace ('{' :: s) = '{' :: s := rfl
  rw [readRecord, hspace] at h
  obtain ⟨⟨⟨value, seen⟩, left⟩, hread, hend⟩ := bind_eq_ok_iff.mp h
  dsimp only at hend
  split at hend
  · cases hend
  · cases hend
    exact ⟨seen, hread⟩

/-! ### Fields -/

/-- A slot with a reader of its own puts what that reads into the record. -/
theorem Slot.exists_of_read {α : Type} {key : String} {reader : Reader α} {put : σ → α → σ}
    {depth : Nat} {record record' : σ}
    (h : (Slot.of key reader put).read depth record s = .ok (record', rest)) :
    ∃ a, reader s = .ok (a, rest) ∧ put record a = record' := by
  obtain ⟨⟨a, left⟩, hread, h⟩ := bind_eq_ok_iff.mp h
  cases h
  exact ⟨a, hread, rfl⟩

/-- **What only one field changes** stays as it is once the field has been read. -/
theorem readField_keeps {slots : List (Slot σ)} {depth : Nat} {key : String} {P : σ → Prop}
    (hslots : ∀ slot ∈ slots, slot.key ≠ key → ∀ record s record' rest, P record →
      slot.read depth record s = .ok (record', rest) → P record')
    {state state' : σ × List String} {name : String} (hstate : P state.1 ∧ key ∈ state.2)
    (h : readField slots depth state name s = .ok (state', rest)) :
    P state'.1 ∧ key ∈ state'.2 := by
  unfold readField at h
  split at h
  · obtain ⟨after, -, h⟩ := bind_eq_ok_iff.mp h
    obtain ⟨left, -, h⟩ := bind_eq_ok_iff.mp h
    cases h
    exact hstate
  · next slot hslot =>
    split at h
    · cases h
    · next hnew =>
      obtain ⟨after, -, h⟩ := bind_eq_ok_iff.mp h
      obtain ⟨⟨record, left⟩, hread, h⟩ := bind_eq_ok_iff.mp h
      cases h
      have hname : slot.key = name := by simpa using List.find?_some hslot
      have hne : slot.key ≠ key := by
        rintro rfl
        exact hnew (by simpa [hname] using hstate.2)
      exact ⟨hslots slot (List.mem_of_find?_eq_some hslot) hne _ _ _ _ hstate.1 hread,
        List.mem_cons_of_mem name hstate.2⟩

end Notebook.Json
