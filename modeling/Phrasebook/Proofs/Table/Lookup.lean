import Mathlib
import Phrasebook.Table.Basic

/-!
# Reading tables

A table's keys strictly ascend, so `get?` reads exactly its entries and two tables that read
alike are one table: a table can be reasoned about as the finite map its entries denote.

* `Table.get?_eq_some_iff`                      a table reads back its entries;
* `Table.ext_get?`                              tables that read alike are equal;
* `Table.get?_alter`, `Table.mem_keys_alter`    reads and keys through a change;
* `Table.get?_foldl_alter`                      one key read after a run of changes.
-/

namespace Phrasebook.Table

variable {α : Type}

theorem keys_sorted (t : Table α) : t.keys.Pairwise (· < ·) :=
  List.pairwise_map.2 t.sorted

theorem lookup_isSome_iff {k : String} {l : List (String × α)} :
    (lookup k l).isSome ↔ k ∈ l.map Prod.fst := by
  induction l with
  | nil => simp [lookup]
  | cons e rest ih =>
    obtain ⟨k', v'⟩ := e
    by_cases hk : k = k'
    · simp [lookup, hk]
    · simp [lookup, hk, ih]

theorem mem_keys_iff {t : Table α} {k : String} : k ∈ t.keys ↔ t.contains k = true := by
  rw [contains, get?, lookup_isSome_iff]
  rfl

theorem mem_of_lookup {k : String} {v : α} {l : List (String × α)} (h : lookup k l = some v) :
    (k, v) ∈ l := by
  induction l with
  | nil => simp [lookup] at h
  | cons e rest ih =>
    obtain ⟨k', v'⟩ := e
    by_cases hk : k = k'
    · rw [lookup, if_pos hk, Option.some.injEq] at h
      subst hk h
      exact List.mem_cons_self
    · rw [lookup, if_neg hk] at h
      exact List.mem_cons_of_mem _ (ih h)

theorem mem_of_get? {t : Table α} {k : String} {v : α} (h : t.get? k = some v) :
    (k, v) ∈ t.entries :=
  mem_of_lookup h

theorem get?_alter (t : Table α) (k j : String) (f : Option α → α) :
    (t.alter k f).get? j = if j = k then some (f (t.get? k)) else t.get? j := by
  unfold alter
  split_ifs with h
  · subst h
    exact get?_insert _ _ _
  · exact get?_insert_ne _ _ h

theorem mem_keys_alter (t : Table α) (k j : String) (f : Option α → α) :
    j ∈ (t.alter k f).keys ↔ j = k ∨ j ∈ t.keys := by
  rw [mem_keys_iff, mem_keys_iff, contains, contains, get?_alter]
  split_ifs with h <;> simp [h]

theorem lookup_of_mem {k : String} {v : α} {l : List (String × α)}
    (hs : l.Pairwise (fun a b => a.1 < b.1)) (h : (k, v) ∈ l) : lookup k l = some v := by
  induction l with
  | nil => simp at h
  | cons e rest ih =>
    obtain ⟨k', v'⟩ := e
    rw [List.pairwise_cons] at hs
    rcases List.mem_cons.1 h with he | h
    · obtain ⟨rfl, rfl⟩ := Prod.mk.inj he
      simp [lookup]
    · have hne : k ≠ k' := ne_of_gt (hs.1 _ h)
      rw [lookup, if_neg hne]
      exact ih hs.2 h

/-- reading a key gives exactly the value of its entry -/
theorem get?_eq_some_iff (t : Table α) {k : String} {v : α} :
    t.get? k = some v ↔ (k, v) ∈ t.entries :=
  ⟨mem_of_get?, lookup_of_mem t.sorted⟩

theorem nodup_entries (t : Table α) : t.entries.Nodup :=
  t.sorted.imp fun hlt => by rintro rfl; exact lt_irrefl _ hlt

/-- two tables that read alike are the same table -/
theorem ext_get? {s t : Table α} (h : ∀ k, s.get? k = t.get? k) : s = t := by
  have hmem : ∀ x, x ∈ s.entries ↔ x ∈ t.entries := fun x => by
    rw [← s.get?_eq_some_iff, ← t.get?_eq_some_iff, h]
  have hperm : s.entries.Perm t.entries :=
    (List.perm_ext_iff_of_nodup s.nodup_entries t.nodup_entries).2 hmem
  exact Table.ext (hperm.eq_of_pairwise (fun a b _ _ hab hba => absurd (lt_trans hab hba)
    (lt_irrefl _)) s.sorted t.sorted)

theorem alter_comm (t : Table α) {k k' : String} (hk : k ≠ k') (f g : Option α → α) :
    (t.alter k f).alter k' g = (t.alter k' g).alter k f := by
  refine ext_get? fun j => ?_
  simp only [get?_alter]
  by_cases hj : j = k <;> by_cases hj' : j = k' <;> simp_all [Ne.symm hk]

/-- reading one key after a run of changes: only the changes at that key count, in order -/
theorem get?_foldl_alter {β : Type} (key : β → String) (g : β → Option α → α) (k : String) :
    ∀ (l : List β) (t : Table α), (l.foldl (fun t e => t.alter (key e) (g e)) t).get? k =
      (l.filter (key · = k)).foldl (fun o e => some (g e o)) (t.get? k)
  | [], _ => rfl
  | e :: l, t => by
    rw [List.foldl_cons, get?_foldl_alter key g k l, get?_alter, List.filter_cons]
    by_cases he : key e = k
    · simp [he]
    · simp [he, Ne.symm he]

end Phrasebook.Table
