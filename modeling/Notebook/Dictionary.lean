/-!
# Dictionaries

A `Notebook.Dictionary` maps texts to values. It holds its entries in the order of their keys, by
code point, with each key once; that is the order in which they are written and searched. An entry
that is put in replaces one with the same key.
-/

namespace Notebook

/-- **A dictionary**: entries in the strict order of their keys. -/
structure Dictionary (α : Type) where
  /-- The keys and their values. -/
  entries : List (String × α)
  /-- Each key comes before the following ones. -/
  sorted : entries.Pairwise fun a b => a.1 < b.1

namespace Dictionary

variable {α : Type}

/-- The dictionary without entries. -/
def empty : Dictionary α := ⟨[], .nil⟩

/-- Entries with one more in its place, instead of one with the same key. -/
def insertEntry (key : String) (value : α) : List (String × α) → List (String × α)
  | [] => [(key, value)]
  | entry :: rest =>
    if key < entry.1 then (key, value) :: entry :: rest
    else if key = entry.1 then (key, value) :: rest
    else entry :: insertEntry key value rest

theorem mem_insertEntry {key : String} {value : α} {entries : List (String × α)}
    {entry : String × α} (h : entry ∈ insertEntry key value entries) :
    entry = (key, value) ∨ entry ∈ entries := by
  induction entries with
  | nil => exact .inl (by simpa [insertEntry] using h)
  | cons head rest ih =>
    unfold insertEntry at h
    split at h
    · exact (List.mem_cons.mp h).imp_right id
    · split at h
      · exact (List.mem_cons.mp h).imp_right (List.mem_cons_of_mem _)
      · rcases List.mem_cons.mp h with rfl | h
        · exact .inr (List.mem_cons_self ..)
        · exact (ih h).imp_right (List.mem_cons_of_mem _)

theorem lt_of_not_lt_of_ne {s t : String} (h : ¬s < t) (hne : s ≠ t) : t < s := by
  rcases Decidable.em (t < s) with hlt | hlt
  · exact hlt
  · exact absurd (String.le_antisymm (String.not_lt.mp hlt) (String.not_lt.mp h)) hne

theorem sorted_insertEntry (key : String) (value : α) {entries : List (String × α)}
    (h : entries.Pairwise fun a b => a.1 < b.1) :
    (insertEntry key value entries).Pairwise fun a b => a.1 < b.1 := by
  induction entries with
  | nil => exact List.pairwise_singleton ..
  | cons head rest ih =>
    obtain ⟨hhead, hrest⟩ := List.pairwise_cons.mp h
    unfold insertEntry
    split
    · next hlt =>
      refine List.pairwise_cons.mpr ⟨fun entry hentry => ?_, h⟩
      rcases List.mem_cons.mp hentry with rfl | hentry
      · exact hlt
      · exact String.lt_trans hlt (hhead entry hentry)
    · next hlt =>
      split
      · next heq =>
        exact List.pairwise_cons.mpr ⟨fun entry hentry => heq ▸ hhead entry hentry, hrest⟩
      · next hne =>
        refine List.pairwise_cons.mpr ⟨fun entry hentry => ?_, ih hrest⟩
        rcases mem_insertEntry hentry with rfl | hentry
        · exact lt_of_not_lt_of_ne hlt hne
        · exact hhead entry hentry

/-- **The dictionary with an entry put in.** -/
def insert (key : String) (value : α) (d : Dictionary α) : Dictionary α :=
  ⟨insertEntry key value d.entries, sorted_insertEntry key value d.sorted⟩

/-- The value of a key. -/
def find? (d : Dictionary α) (key : String) : Option α := d.entries.lookup key

/-- The keys in order. -/
def keys (d : Dictionary α) : List String := d.entries.map Prod.fst

/-- The dictionary of a list of entries, of which a later one replaces an earlier one. -/
def ofList (entries : List (String × α)) : Dictionary α :=
  entries.foldl (fun d entry => d.insert entry.1 entry.2) empty

end Dictionary

end Notebook
