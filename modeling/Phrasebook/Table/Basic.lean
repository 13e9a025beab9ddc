/-!
# Tables

A table is a finite map from strings, kept as a list of entries in strictly increasing order of
key. The order is part of the table, so listing a table lists it in byte order of its keys and
no key has two entries.

* `Table.insert`   sets the value of a key, keeping the order;
* `Table.get?`     the value of a key;
* `Table.erase`    removes a key;
* `Table.ofList`   the table of a list of entries, later entries winning.
-/

namespace Phrasebook

/-- a finite map from strings: its entries, in strictly increasing order of key -/
structure Table (α : Type) where
  entries : List (String × α)
  sorted : entries.Pairwise (fun a b => a.1 < b.1) := by decide

namespace Table

variable {α β : Type}

@[ext] theorem ext {s t : Table α} (h : s.entries = t.entries) : s = t := by
  cases s
  cases t
  cases h
  rfl

def empty : Table α := ⟨[], .nil⟩

instance : Inhabited (Table α) := ⟨empty⟩

def insertEntry (k : String) (v : α) : List (String × α) → List (String × α)
  | [] => [(k, v)]
  | (k', v') :: rest =>
    if k < k' then (k, v) :: (k', v') :: rest
    else if k = k' then (k, v) :: rest
    else (k', v') :: insertEntry k v rest

theorem mem_insertEntry {k : String} {v : α} {l : List (String × α)} {x : String × α}
    (h : x ∈ insertEntry k v l) : x = (k, v) ∨ x ∈ l := by
  induction l with
  | nil => simpa [insertEntry] using h
  | cons e rest ih =>
    obtain ⟨k', v'⟩ := e
    simp only [insertEntry] at h
    split at h
    · simpa using h
    · split at h
      · rcases List.mem_cons.1 h with rfl | h
        · exact .inl rfl
        · exact .inr (List.mem_cons_of_mem _ h)
      · rcases List.mem_cons.1 h with rfl | h
        · exact .inr List.mem_cons_self
        · exact (ih h).imp_right (List.mem_cons_of_mem _)

theorem sorted_insertEntry (k : String) (v : α) {l : List (String × α)}
    (h : l.Pairwise (fun a b => a.1 < b.1)) :
    (insertEntry k v l).Pairwise (fun a b => a.1 < b.1) := by
  induction l with
  | nil => simp [insertEntry]
  | cons e rest ih =>
    obtain ⟨k', v'⟩ := e
    obtain ⟨hhead, hrest⟩ := List.pairwise_cons.1 h
    simp only [insertEntry]
    split
    · rename_i hlt
      refine List.pairwise_cons.2 ⟨fun x hx => ?_, h⟩
      rcases List.mem_cons.1 hx with rfl | hx
      · exact hlt
      · exact String.lt_trans hlt (hhead x hx)
    · split
      · rename_i heq
        subst heq
        exact List.pairwise_cons.2 ⟨hhead, hrest⟩
      · rename_i hlt heq
        have hgt : k' < k := Std.lt_of_le_of_ne hlt (Ne.symm heq)
        refine List.pairwise_cons.2 ⟨fun x hx => ?_, ih hrest⟩
        rcases mem_insertEntry hx with rfl | hx
        · exact hgt
        · exact hhead x hx

/-- sets the value of a key -/
def insert (t : Table α) (k : String) (v : α) : Table α :=
  ⟨insertEntry k v t.entries, sorted_insertEntry k v t.sorted⟩

def lookup (k : String) : List (String × α) → Option α
  | [] => none
  | (k', v) :: rest => if k = k' then some v else lookup k rest

/-- the value of a key -/
def get? (t : Table α) (k : String) : Option α := lookup k t.entries

def contains (t : Table α) (k : String) : Bool := (t.get? k).isSome

/-- removes a key -/
def erase (t : Table α) (k : String) : Table α := ⟨t.entries.filter (·.1 != k), t.sorted.filter _⟩

def keys (t : Table α) : List String := t.entries.map (·.1)

def values (t : Table α) : List α := t.entries.map (·.2)

def toList (t : Table α) : List (String × α) := t.entries

def size (t : Table α) : Nat := t.entries.length

def isEmpty (t : Table α) : Bool := t.entries.isEmpty

/-- the table of a list of entries; of two entries with one key the later wins -/
def ofList (l : List (String × α)) : Table α := l.foldl (fun t e => t.insert e.1 e.2) empty

def alter (t : Table α) (k : String) (f : Option α → α) : Table α := t.insert k (f (t.get? k))

def map (f : α → β) (t : Table α) : Table β :=
  ⟨t.entries.map fun e => (e.1, f e.2), List.pairwise_map.2 t.sorted⟩

theorem sorted_filterMap (f : String → α → Option β) (t : Table α) :
    (t.entries.filterMap fun e => (f e.1 e.2).map (e.1, ·)).Pairwise (fun a b => a.1 < b.1) :=
  t.sorted.filterMap _ fun _ _ hlt _ hb _ hb' => by
    obtain ⟨x, -, rfl⟩ := Option.map_eq_some_iff.1 hb
    obtain ⟨y, -, rfl⟩ := Option.map_eq_some_iff.1 hb'
    exact hlt

def filterMap (f : String → α → Option β) (t : Table α) : Table β :=
  ⟨t.entries.filterMap fun e => (f e.1 e.2).map (e.1, ·), sorted_filterMap f t⟩

def filter (p : String → α → Bool) (t : Table α) : Table α :=
  ⟨t.entries.filter fun e => p e.1 e.2, t.sorted.filter _⟩

theorem lookup_insertEntry (k : String) (v : α) (l : List (String × α)) :
    lookup k (insertEntry k v l) = some v := by
  induction l with
  | nil => simp [insertEntry, lookup]
  | cons e rest ih =>
    obtain ⟨k', v'⟩ := e
    simp only [insertEntry]
    split
    · simp [lookup]
    · split
      · simp [lookup]
      · rename_i h1 h2
        simp [lookup, h2, ih]

theorem lookup_insertEntry_ne {k j : String} (v : α) (l : List (String × α)) (h : j ≠ k) :
    lookup j (insertEntry k v l) = lookup j l := by
  induction l with
  | nil => simp [insertEntry, lookup, h]
  | cons e rest ih =>
    obtain ⟨k', v'⟩ := e
    simp only [insertEntry]
    split
    · simp [lookup, h]
    · split
      · rename_i h2
        subst h2
        simp [lookup, h]
      · simp [lookup, ih]

@[simp] theorem get?_empty (k : String) : (empty : Table α).get? k = none := rfl

@[simp] theorem get?_insert (t : Table α) (k : String) (v : α) : (t.insert k v).get? k = some v :=
  lookup_insertEntry k v t.entries

theorem get?_insert_ne (t : Table α) {k j : String} (v : α) (h : j ≠ k) :
    (t.insert k v).get? j = t.get? j :=
  lookup_insertEntry_ne v t.entries h

end Table

end Phrasebook
