import Notebook.Dictionary

/-!
# Looking up in a dictionary

What a dictionary has for a key after an entry is put in (`Notebook.Dictionary.find?_insert`): the
new value for the key of the entry, and what it had before for every other one. So of a list of
entries the last one with a key counts (`Notebook.Dictionary.find?_ofList`).
-/

namespace Notebook.Dictionary

variable {α : Type} {d : Dictionary α} {key : String} {value : α}

theorem lookup_entry (entry : String × α) (entries : List (String × α)) (k : String) :
    (entry :: entries).lookup k = if k = entry.1 then some entry.2 else entries.lookup k := by
  obtain ⟨key, value⟩ := entry
  by_cases h : k = key
  · simp [h]
  · simp [List.lookup_cons, h, beq_false_of_ne h]

theorem lookup_insertEntry (key k : String) (value : α) (entries : List (String × α)) :
    (insertEntry key value entries).lookup k =
      if k = key then some value else entries.lookup k := by
  induction entries with
  | nil => exact lookup_entry (key, value) [] k
  | cons head rest ih =>
    rw [insertEntry, lookup_entry head]
    split
    · rw [lookup_entry, lookup_entry]
    split
    · next hkey =>
      rw [lookup_entry, hkey]
      split <;> rfl
    · next hkey =>
      -- an entry further back: the first one has another key
      rw [lookup_entry, ih]
      by_cases hhead : k = head.1
      · rw [if_pos hhead, if_pos hhead, if_neg fun h => hkey (h.symm.trans hhead)]
      · rw [if_neg hhead, if_neg hhead]

/-- **Putting an entry in** changes what is found for its key, and for no other one. -/
theorem find?_insert (d : Dictionary α) (key k : String) (value : α) :
    (d.insert key value).find? k = if k = key then some value else d.find? k :=
  lookup_insertEntry key k value d.entries

/-- **Of a list of entries the last one with a key counts.** -/
theorem find?_ofList (entries : List (String × α)) (key : String) :
    (ofList entries).find? key = entries.reverse.lookup key := by
  have hfold : ∀ d : Dictionary α,
      (entries.foldl (fun d entry => d.insert entry.1 entry.2) d).find? key =
        (entries.reverse.lookup key).or (d.find? key) := by
    induction entries with
    | nil => exact fun d => rfl
    | cons entry entries ih =>
      intro d
      have hone : [entry].lookup key = if key = entry.1 then some entry.2 else none :=
        lookup_entry entry [] key
      rw [List.foldl_cons, ih, List.reverse_cons, List.lookup_append, find?_insert, hone,
        Option.or_assoc]
      split <;> rfl
  rw [ofList, hfold]
  exact Option.or_none

/-- What is found for a key is the value of the one entry that has it. -/
theorem find?_eq_some_iff : d.find? key = some value ↔ (key, value) ∈ d.entries := by
  obtain ⟨entries, hsorted⟩ := d
  change entries.lookup key = some value ↔ (key, value) ∈ entries
  induction entries with
  | nil => simp
  | cons head rest ih =>
    obtain ⟨hhead, hrest⟩ := List.pairwise_cons.mp hsorted
    rw [lookup_entry, List.mem_cons]
    split
    · next hkey =>
      constructor
      · intro h
        exact .inl (Prod.ext hkey (Option.some.inj h).symm)
      · rintro (h | h)
        · rw [← h]
        · exact absurd (hkey ▸ hhead _ h) (String.lt_irrefl _)
    · next hkey =>
      rw [ih hrest]
      constructor
      · exact .inr
      · rintro (h | h)
        · exact absurd (congrArg Prod.fst h) hkey
        · exact h

end Notebook.Dictionary
