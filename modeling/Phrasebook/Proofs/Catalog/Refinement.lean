import Mathlib
import Phrasebook.Proofs.Table.Lookup
import Phrasebook.Proofs.Catalog.FlatStore

/-!
# The store refines the flat store

From the empty store, every sequence of `insertMessage`, `insertMeta`, `insertSource` and
`mergeNamespace` leaves a store that answers every query from the flat store changed alike
(`Store.run_answers_flat`). The invariant `Store.Refines` carries the lookups, the locales and
the namespaces through each change; the tables keep their keys in order, which is what makes the
listed locales, namespaces and keys ascend and the size count each key once.
-/

namespace Phrasebook

namespace Store

def find (t : Table Namespaces) (l : Locale) (ns key : String) : Option String :=
  ((t.get? l.tag).bind (·.get? ns)).bind (·.get? key)

def entriesAt (t : Table Namespaces) (l : Locale) (ns : String) : Entries :=
  ((t.get? l.tag).bind (·.get? ns)).getD Table.empty

def namespacesAt (t : Table Namespaces) (l : Locale) : List String :=
  ((t.get? l.tag).map Table.keys).getD []

def updateAt (t : Table Namespaces) (l : Locale) (ns : String) (g : Entries → Entries) :
    Table Namespaces :=
  t.alter l.tag fun old => (old.getD Table.empty).alter ns fun prev => g (prev.getD Table.empty)

theorem get?_getD_empty {α : Type} (o : Option (Table α)) (k : String) :
    (o.getD Table.empty).get? k = o.bind (·.get? k) := by
  cases o <;> rfl

theorem keys_getD_empty {α : Type} (o : Option (Table α)) :
    (o.map Table.keys).getD [] = (o.getD Table.empty).keys := by
  cases o <;> rfl

theorem find_eq_entriesAt (t : Table Namespaces) (l : Locale) (ns key : String) :
    find t l ns key = (entriesAt t l ns).get? key := by
  unfold find entriesAt
  cases (t.get? l.tag).bind (·.get? ns) <;> rfl

theorem tag_ne_of_ne {l l' : Locale} (h : l' ≠ l) : l'.tag ≠ l.tag := fun ht =>
  h (by cases l; cases l'; simp_all)

theorem find_updateAt (t : Table Namespaces) (l : Locale) (ns : String) (g : Entries → Entries)
    (l' : Locale) (ns' key : String) :
    find (updateAt t l ns g) l' ns' key =
      if l' = l ∧ ns' = ns then (g (entriesAt t l ns)).get? key else find t l' ns' key := by
  unfold find updateAt
  by_cases hl : l' = l
  · subst hl
    by_cases hns : ns' = ns
    · subst hns
      simp [Table.get?_alter, entriesAt, get?_getD_empty]
    · simp [Table.get?_alter, hns, get?_getD_empty]
  · simp [Table.get?_alter, tag_ne_of_ne hl, hl]

theorem contains_updateAt (t : Table Namespaces) (l : Locale) (ns : String) (g : Entries → Entries)
    (l' : Locale) : (updateAt t l ns g).contains l'.tag = true ↔ l' = l ∨ t.contains l'.tag = true := by
  unfold updateAt Table.contains
  by_cases hl : l' = l
  · subst hl
    simp [Table.get?_alter]
  · simp [Table.get?_alter, tag_ne_of_ne hl, hl]

theorem namespacesAt_eq (t : Table Namespaces) (l : Locale) :
    namespacesAt t l = ((t.get? l.tag).getD Table.empty).keys :=
  keys_getD_empty _

theorem mem_namespacesAt_updateAt (t : Table Namespaces) (l : Locale) (ns : String)
    (g : Entries → Entries) (l' : Locale) (ns' : String) :
    ns' ∈ namespacesAt (updateAt t l ns g) l' ↔ (l' = l ∧ ns' = ns) ∨ ns' ∈ namespacesAt t l' := by
  rw [namespacesAt_eq, namespacesAt_eq, updateAt, Table.get?_alter]
  by_cases hl : l' = l
  · subst hl
    rw [if_pos rfl, Option.getD_some, Table.mem_keys_alter]
    simp
  · rw [if_neg (tag_ne_of_ne hl)]
    simp [hl]

/-! ## Lookups through a change of one namespace -/

section
variable {t : Table Namespaces} {M N : Finmap (fun _ : Locale × String × String => String)}
  {l : Locale} {ns : String}

theorem find_updateAt_lookup {g : Entries → Entries}
    (hfind : ∀ l' ns' k, find t l' ns' k = M.lookup (l', ns', k))
    (hat : ∀ k, (g (entriesAt t l ns)).get? k = N.lookup (l, ns, k))
    (hother : ∀ l' ns' k, ¬(l' = l ∧ ns' = ns) → N.lookup (l', ns', k) = M.lookup (l', ns', k))
    (l' : Locale) (ns' k : String) : find (updateAt t l ns g) l' ns' k = N.lookup (l', ns', k) := by
  rw [find_updateAt]
  split_ifs with h
  · obtain ⟨rfl, rfl⟩ := h
    exact hat k
  · rw [hother _ _ _ h, hfind]

theorem get?_entriesAt (hfind : ∀ l' ns' k, find t l' ns' k = M.lookup (l', ns', k)) (k : String) :
    (entriesAt t l ns).get? k = M.lookup (l, ns, k) := by
  rw [← find_eq_entriesAt, hfind]

theorem get?_insert_lookup {P : Entries} (hP : ∀ k, P.get? k = M.lookup (l, ns, k))
    (key v k : String) : (P.insert key v).get? k = (M.insert (l, ns, key) v).lookup (l, ns, k) := by
  rw [FlatStore.lookup_insert_at]
  by_cases hk : k = key
  · subst hk
    simp
  · rw [Table.get?_insert_ne _ _ hk, hP]
    simp [hk]

theorem lookup_insert_other {l' : Locale} {ns' : String} (h : ¬(l' = l ∧ ns' = ns))
    (key v k : String) : (M.insert (l, ns, key) v).lookup (l', ns', k) = M.lookup (l', ns', k) := by
  rw [FlatStore.lookup_insert_at, if_neg (fun h' => h ⟨h'.1, h'.2.1⟩)]

theorem find_insert_lookup (hfind : ∀ l' ns' k, find t l' ns' k = M.lookup (l', ns', k))
    (key v : String) (l' : Locale) (ns' k : String) :
    find (updateAt t l ns (·.insert key v)) l' ns' k =
      (M.insert (l, ns, key) v).lookup (l', ns', k) :=
  find_updateAt_lookup hfind (get?_insert_lookup (get?_entriesAt hfind) key v)
    (fun _ _ k h => lookup_insert_other h key v k) l' ns' k

theorem get?_foldl_insert (es : List (String × String)) :
    ∀ (P : Entries) (M : Finmap (fun _ : Locale × String × String => String)),
      (∀ k, P.get? k = M.lookup (l, ns, k)) → ∀ k,
        (es.foldl (fun t e => t.insert e.1 e.2) P).get? k =
          (es.foldl (fun m e => m.insert (l, ns, e.1) e.2) M).lookup (l, ns, k) := by
  induction es with
  | nil => intro P M h k; exact h k
  | cons e es ih =>
    intro P M h k
    exact ih _ _ (get?_insert_lookup h e.1 e.2) k

theorem lookup_foldl_insert_other (es : List (String × String))
    (M : Finmap (fun _ : Locale × String × String => String)) {l' : Locale} {ns' : String}
    (h : ¬(l' = l ∧ ns' = ns)) (k : String) :
    (es.foldl (fun m e => m.insert (l, ns, e.1) e.2) M).lookup (l', ns', k) = M.lookup (l', ns', k) := by
  induction es generalizing M with
  | nil => rfl
  | cons e es ih =>
    rw [List.foldl_cons, ih, lookup_insert_other h]

theorem find_extend_lookup (hfind : ∀ l' ns' k, find t l' ns' k = M.lookup (l', ns', k))
    (es : Entries) (l' : Locale) (ns' k : String) :
    find (updateAt t l ns (extend · es)) l' ns' k =
      (FlatStore.entriesAt l ns es ∪ M).lookup (l', ns', k) := by
  rw [FlatStore.entriesAt_union]
  refine find_updateAt_lookup hfind (fun k => ?_) (fun l' ns' k h => ?_) l' ns' k
  · exact get?_foldl_insert _ _ _ (get?_entriesAt hfind) k
  · exact lookup_foldl_insert_other _ _ h k

end

/-! ## The store refines the flat store -/

/-- a store answers like a flat store: its locales, namespaces, templates and source keys are the
flat store's -/
structure Refines (s : Store) (F : FlatStore) : Prop where
  hasLocale_iff : ∀ l, s.hasLocale l = true ↔ l ∈ F.locales
  mem_namespaces : ∀ l ns, ns ∈ s.namespaces l ↔ (l, ns) ∈ F.namespaces
  message_eq : ∀ l ns key, s.message l ns key = F.messages.lookup (l, ns, key)
  metaKey_eq : ∀ l ns source, s.metaKey l ns source = F.sourceKeys.lookup (l, ns, source)

theorem refines_empty : Refines empty FlatStore.empty where
  hasLocale_iff _ := by simp [hasLocale, empty, FlatStore.empty, Table.contains]
  mem_namespaces _ _ := by simp [namespaces, empty, FlatStore.empty]
  message_eq _ _ _ := by simp [message, namespaceMessages, empty, FlatStore.empty]
  metaKey_eq _ _ _ := by simp [metaKey, empty, FlatStore.empty]

section
variable {s : Store} {F : FlatStore} (h : Refines s F) (l : Locale) (ns : String)
include h

theorem hasLocale_updateAt (g : Entries → Entries) (l' : Locale) :
    (updateAt s.messages l ns g).contains l'.tag = true ↔ l' ∈ insert l F.locales := by
  rw [contains_updateAt, Finset.mem_insert, ← h.hasLocale_iff]
  rfl

theorem mem_namespaces_updateAt (g : Entries → Entries) (l' : Locale) (ns' : String) :
    ns' ∈ namespacesAt (updateAt s.messages l ns g) l' ↔ (l', ns') ∈ insert (l, ns) F.namespaces := by
  rw [mem_namespacesAt_updateAt, Finset.mem_insert, Prod.mk.injEq, ← h.mem_namespaces]
  rfl

theorem refines_insertMessage (key template : String) :
    Refines (s.insertMessage l ns key template) (F.insertMessage l ns key template) where
  hasLocale_iff := hasLocale_updateAt h l ns (·.insert key template)
  mem_namespaces := mem_namespaces_updateAt h l ns (·.insert key template)
  message_eq := find_insert_lookup h.message_eq key template
  metaKey_eq := h.metaKey_eq

theorem refines_insertMeta (source key : String) :
    Refines (s.insertMeta l ns source key) (F.insertMeta l ns source key) where
  hasLocale_iff := h.hasLocale_iff
  mem_namespaces := h.mem_namespaces
  message_eq := h.message_eq
  metaKey_eq := find_insert_lookup h.metaKey_eq source key

theorem refines_insertSource (source translation : String) :
    Refines (s.insertSource l ns source translation).1 (F.insertSource l ns source translation).1 :=
  refines_insertMeta (refines_insertMessage h l ns _ _) l ns _ _

theorem refines_mergeNamespace (messages : Entries) (sources : Option Entries) :
    Refines (s.mergeNamespace l ns messages sources) (F.mergeNamespace l ns messages sources) where
  hasLocale_iff := hasLocale_updateAt h l ns (extend · messages)
  mem_namespaces := mem_namespaces_updateAt h l ns (extend · messages)
  message_eq := find_extend_lookup h.message_eq messages
  metaKey_eq := by
    cases sources with
    | none => exact h.metaKey_eq
    | some m => exact find_extend_lookup h.metaKey_eq m

end

/-! ## Sequences of changes -/

theorem refines_perform {s : Store} {F : FlatStore} (h : Refines s F) (op : Op) :
    Refines (s.perform op).1 (F.perform op).1 ∧ (s.perform op).2 = (F.perform op).2 := by
  cases op with
  | insertMessage l ns key template => exact ⟨refines_insertMessage h l ns key template, rfl⟩
  | insertMeta l ns source key => exact ⟨refines_insertMeta h l ns source key, rfl⟩
  | insertSource l ns source translation =>
    exact ⟨refines_insertSource h l ns source translation, rfl⟩
  | mergeNamespace l ns messages sources => exact ⟨refines_mergeNamespace h l ns messages sources, rfl⟩

theorem refines_run {s : Store} {F : FlatStore} (h : Refines s F) (ops : List Op) :
    Refines (s.run ops) (F.run ops) := by
  induction ops generalizing s F with
  | nil => exact h
  | cons op ops ih => exact ih (refines_perform h op).1

/-! ## Queries -/

def messageKeys (s : Store) : List (Locale × String × String) :=
  s.messages.entries.flatMap fun e =>
    e.2.entries.flatMap fun f => f.2.entries.map fun g => (⟨e.1⟩, f.1, g.1)

theorem foldl_add_eq {β : Type} (g : β → Nat) (xs : List β) (n : Nat) :
    xs.foldl (fun m x => m + g x) n = n + (xs.map g).sum := by
  induction xs generalizing n with
  | nil => simp
  | cons x xs ih =>
    rw [List.foldl_cons, ih, List.map_cons, List.sum_cons]
    omega

theorem size_eq_length (s : Store) : s.size = s.messageKeys.length := by
  have inner : ∀ (nss : Namespaces) (n : Nat),
      nss.values.foldl (fun m t => m + t.size) n = n + (nss.values.map Table.size).sum :=
    fun nss n => foldl_add_eq _ _ n
  unfold size messageKeys
  simp only [inner]
  rw [foldl_add_eq]
  simp [List.length_flatMap, Table.values, Table.size, Function.comp_def]

section
variable {s : Store}

theorem message_eq_some_iff {l : Locale} {ns k v : String} :
    s.message l ns k = some v ↔
      ∃ N E, (l.tag, N) ∈ s.messages.entries ∧ (ns, E) ∈ N.entries ∧ (k, v) ∈ E.entries := by
  simp only [message, namespaceMessages, Option.bind_eq_some_iff]
  constructor
  · rintro ⟨E, ⟨N, hN, hE⟩, hv⟩
    exact ⟨N, E, Table.mem_of_get? hN, Table.mem_of_get? hE, Table.mem_of_get? hv⟩
  · rintro ⟨N, E, hN, hE, hv⟩
    exact ⟨E, ⟨N, s.messages.get?_eq_some_iff.2 hN, N.get?_eq_some_iff.2 hE⟩,
      E.get?_eq_some_iff.2 hv⟩

theorem mem_messageKeys (l : Locale) (ns k : String) :
    (l, ns, k) ∈ s.messageKeys ↔ (s.message l ns k).isSome := by
  rw [Option.isSome_iff_exists]
  simp only [message_eq_some_iff, messageKeys, List.mem_flatMap, List.mem_map, Prod.mk.injEq]
  constructor
  · rintro ⟨⟨t, N⟩, hN, ⟨ns', E⟩, hE, ⟨k', v⟩, hv, rfl, rfl, rfl⟩
    exact ⟨v, N, E, hN, hE, hv⟩
  · rintro ⟨v, N, E, hN, hE, hv⟩
    exact ⟨⟨l.tag, N⟩, hN, ⟨ns, E⟩, hE, ⟨k, v⟩, hv, rfl, rfl, rfl⟩

theorem messageKeys_nodup : s.messageKeys.Nodup := by
  unfold messageKeys List.Nodup
  refine List.pairwise_flatMap.2 ⟨fun e he => List.pairwise_flatMap.2 ⟨fun f hf => ?_, ?_⟩, ?_⟩
  · exact List.pairwise_map.2 (f.2.sorted.imp fun hlt => by simp [ne_of_lt hlt])
  · refine e.2.sorted.imp fun hlt x hx y hy => ?_
    obtain ⟨_, _, rfl⟩ := List.mem_map.1 hx
    obtain ⟨_, _, rfl⟩ := List.mem_map.1 hy
    simp [ne_of_lt hlt]
  · have fst_of_mem : ∀ (e : String × Namespaces) x,
        x ∈ e.2.entries.flatMap (fun f => f.2.entries.map fun g => ((⟨e.1⟩ : Locale), f.1, g.1)) →
          x.1 = ⟨e.1⟩ := by
      intro e x hx
      obtain ⟨f, -, hx⟩ := List.mem_flatMap.1 hx
      obtain ⟨g, -, rfl⟩ := List.mem_map.1 hx
      rfl
    refine s.messages.sorted.imp fun {a b} hlt x hx y hy hxy => ?_
    have hxa := fst_of_mem a x hx
    rw [hxy, fst_of_mem b y hy] at hxa
    exact ne_of_lt hlt (Locale.mk.inj hxa).symm

end

/-- a list of exactly the values a predicate accepts, strictly ascending -/
structure ListsAscending {β : Type} [LT β] (xs : List β) (p : β → Prop) : Prop where
  ascending : xs.Pairwise (· < ·)
  mem_iff : ∀ x, x ∈ xs ↔ p x

/-- every query of a store answers from a flat store -/
structure Answers (s : Store) (F : FlatStore) : Prop where
  hasLocale_iff : ∀ l, s.hasLocale l = true ↔ l ∈ F.locales
  locales : ListsAscending s.locales (· ∈ F.locales)
  namespaces : ∀ l, ListsAscending (s.namespaces l) fun ns => (l, ns) ∈ F.namespaces
  keys : ∀ l ns, ListsAscending (s.keys l ns) fun k => (l, ns, k) ∈ F.messages
  message_eq : ∀ l ns key, s.message l ns key = F.messages.lookup (l, ns, key)
  metaKey_eq : ∀ l ns source, s.metaKey l ns source = F.sourceKeys.lookup (l, ns, source)
  size_eq : s.size = F.messages.keys.card
  isEmpty_iff : s.isEmpty = true ↔ F.messages = ∅

section
variable {s : Store} {F : FlatStore} (h : Refines s F)
include h

theorem Refines.locales : ListsAscending s.locales (· ∈ F.locales) where
  ascending := List.pairwise_map.2 s.messages.keys_sorted
  mem_iff l := by
    rw [← h.hasLocale_iff, hasLocale, ← Table.mem_keys_iff, Store.locales, List.mem_map]
    exact ⟨fun ⟨t, ht, hl⟩ => hl ▸ ht, fun hl => ⟨l.tag, hl, rfl⟩⟩

theorem Refines.namespaces (l : Locale) :
    ListsAscending (s.namespaces l) fun ns => (l, ns) ∈ F.namespaces where
  ascending := by
    rw [Store.namespaces, keys_getD_empty]
    exact Table.keys_sorted _
  mem_iff := h.mem_namespaces l

theorem Refines.keys (l : Locale) (ns : String) :
    ListsAscending (s.keys l ns) fun k => (l, ns, k) ∈ F.messages where
  ascending := by
    rw [Store.keys, keys_getD_empty]
    exact Table.keys_sorted _
  mem_iff k := by
    rw [← Finmap.lookup_isSome, ← h.message_eq, message, ← get?_getD_empty, ← Table.contains,
      ← Table.mem_keys_iff, Store.keys, keys_getD_empty]

theorem Refines.keys_eq_toFinset : F.messages.keys = s.messageKeys.toFinset := by
  ext ⟨l, ns, k⟩
  rw [Finmap.mem_keys, List.mem_toFinset, mem_messageKeys, h.message_eq,
    Finmap.lookup_isSome]

theorem Refines.size_eq : s.size = F.messages.keys.card := by
  rw [h.keys_eq_toFinset, List.toFinset_card_of_nodup messageKeys_nodup, size_eq_length]

theorem Refines.isEmpty_iff : s.isEmpty = true ↔ F.messages = ∅ := by
  rw [isEmpty, beq_iff_eq, h.size_eq, Finset.card_eq_zero]
  constructor
  · intro hk
    refine Finmap.ext_lookup fun x => ?_
    rw [Finmap.lookup_empty, Finmap.lookup_eq_none, ← Finmap.mem_keys, hk]
    exact Finset.notMem_empty x
  · rintro hF
    rw [hF, Finmap.keys_empty]

theorem Refines.answers : Answers s F :=
  ⟨h.hasLocale_iff, h.locales, h.namespaces, h.keys, h.message_eq, h.metaKey_eq, h.size_eq,
    h.isEmpty_iff⟩

end

/-- From the empty store, every sequence of changes leaves a store whose queries answer from the
flat store changed alike, and each next change returns what the flat store's returns. -/
theorem run_answers_flat (ops : List Op) :
    (empty.run ops).Answers (FlatStore.empty.run ops) ∧
      ∀ op, ((empty.run ops).perform op).2 = ((FlatStore.empty.run ops).perform op).2 :=
  ⟨(refines_run refines_empty ops).answers, fun op => (refines_perform (refines_run refines_empty ops) op).2⟩

/- A source key alone does not make a locale, while merging a namespace with no entries records
both the locale and the namespace. -/
example : (empty.run [.insertMeta ⟨"en"⟩ "common" "Hi" "k"]).hasLocale ⟨"en"⟩ = false ∧
    (empty.run [.mergeNamespace ⟨"en"⟩ "common" Table.empty none]).namespaces ⟨"en"⟩ =
      ["common"] := by
  decide

end Store

end Phrasebook
