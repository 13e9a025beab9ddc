import Phrasebook.Proofs.Catalog.Refinement

/-!
# Merging raw tables in any order

`Store.fromMapsBy v` merges raw tables keyed by tags as written: the tables of tags that name one
locale are merged into it, namespace by namespace, a later table winning on a key both give. The
raw tables come from hash maps, which hand out their entries in an order of their own; `v` is
that order, and `Store.fromMaps` fixes it as reverse byte order. This module shows when the order
does not matter.

* `Store.Agrees raw`   no two tags that name one locale give one namespace and key two values;
* `Store.mergeRaw`     the merge in byte order of the tags, which every other order is compared to.

Merging two tables that agree can be done in either order (`mergeNamespaces_comm`), and a merge
into a table never meets one of its keys twice, so with agreeing tags every order of visit builds
the same store (`mergeRawBy_eq`). The main statement is `Store.fromMaps_laws`: for input that
agrees, the store answers exactly from the raw tables, whatever the order;
`Store.conflicting_tags_depend_on_order` shows two tags that disagree.
-/

namespace Phrasebook

namespace Store

/-! ## Reading a merge -/

theorem eq_of_perm_toList {β : Type} {l : List β} {o : Option β} (h : l.Perm o.toList) :
    l = o.toList := by
  cases o with
  | none => exact List.perm_nil.1 h
  | some a => exact List.perm_singleton.1 h

theorem filter_key_perm {α : Type} (t : Table α) (k : String) :
    (t.entries.filter (·.1 = k)).Perm ((t.get? k).map fun x => (k, x)).toList := by
  have hnodup : (t.entries.filter (·.1 = k)).Nodup := t.nodup_entries.filter _
  refine (List.perm_ext_iff_of_nodup hnodup (by cases t.get? k <;> simp)).2 fun ⟨j, x⟩ => ?_
  rw [List.mem_filter, ← t.get?_eq_some_iff, decide_eq_true_iff]
  constructor
  · rintro ⟨hx, rfl⟩
    simp [hx]
  · intro hx
    cases hk : t.get? k with
    | none => simp [hk] at hx
    | some y =>
      simp only [hk, Option.map_some, Option.toList_some, List.mem_singleton, Prod.mk.injEq] at hx
      obtain ⟨rfl, rfl⟩ := hx
      exact ⟨hk, rfl⟩

theorem filter_order_key {α : Type} (v : Visit) (path : List String) (t : Table α) (k : String) :
    (v.order path t).filter (·.1 = k) = ((t.get? k).map fun x => (k, x)).toList :=
  eq_of_perm_toList (((v.perm path t).filter _).trans (filter_key_perm t k))

/-- reading a key after a run of insertions in which at most one entry has that key -/
theorem get?_foldl_insert_of_filter {l : List (String × String)} {X : Entries} {k : String}
    {o : Option String} (h : l.filter (·.1 = k) = (o.map fun x => (k, x)).toList) :
    (l.foldl (fun t e => t.insert e.1 e.2) X).get? k = o.or (X.get? k) := by
  rw [show (fun (t : Entries) (e : String × String) => t.insert e.1 e.2) =
    fun t e => t.alter e.1 (fun _ => e.2) from rfl, Table.get?_foldl_alter, h]
  cases o <;> rfl

theorem get?_extend (X E : Entries) (k : String) :
    (extend X E).get? k = (E.get? k).or (X.get? k) :=
  get?_foldl_insert_of_filter (eq_of_perm_toList (filter_key_perm E k))

theorem get?_mergeNamespaces (N A : Namespaces) (ns : String) :
    (mergeNamespaces N A).get? ns =
      ((A.get? ns).map fun E => extend ((N.get? ns).getD Table.empty) E).or (N.get? ns) := by
  rw [mergeNamespaces, Table.toList, Table.get?_foldl_alter,
    eq_of_perm_toList (filter_key_perm A ns)]
  cases A.get? ns <;> rfl

/-! ## Tables that agree -/

def Compatible (E E' : Entries) : Prop :=
  ∀ e ∈ E.entries, ∀ e' ∈ E'.entries, e.1 = e'.1 → e.2 = e'.2

def NsCompatible (N N' : Namespaces) : Prop :=
  ∀ f ∈ N.entries, ∀ f' ∈ N'.entries, f.1 = f'.1 → Compatible f.2 f'.2

def Agrees (raw : RawEntries) : Prop :=
  ∀ e ∈ raw.entries, ∀ e' ∈ raw.entries, Locale.ofTag e.1 = Locale.ofTag e'.1 → NsCompatible e.2 e'.2

instance (E E' : Entries) : Decidable (Compatible E E') :=
  inferInstanceAs (Decidable (∀ e ∈ E.entries, ∀ e' ∈ E'.entries, e.1 = e'.1 → e.2 = e'.2))

instance (N N' : Namespaces) : Decidable (NsCompatible N N') :=
  inferInstanceAs (Decidable (∀ f ∈ N.entries, ∀ f' ∈ N'.entries, f.1 = f'.1 → Compatible f.2 f'.2))

instance (raw : RawEntries) : Decidable (Agrees raw) :=
  inferInstanceAs (Decidable (∀ e ∈ raw.entries, ∀ e' ∈ raw.entries,
    Locale.ofTag e.1 = Locale.ofTag e'.1 → NsCompatible e.2 e'.2))

theorem Compatible.get? {E E' : Entries} (h : Compatible E E') {k x y : String}
    (hx : E.get? k = some x) (hy : E'.get? k = some y) : x = y :=
  h _ (Table.mem_of_get? hx) _ (Table.mem_of_get? hy) rfl

theorem NsCompatible.get? {N N' : Namespaces} (h : NsCompatible N N') {ns : String}
    {E E' : Entries} (hE : N.get? ns = some E) (hE' : N'.get? ns = some E') : Compatible E E' :=
  h _ (Table.mem_of_get? hE) _ (Table.mem_of_get? hE') rfl

/-! ## Merges that agree commute -/

theorem extend_comm {X E E' : Entries} (hc : Compatible E E') :
    extend (extend X E) E' = extend (extend X E') E := by
  refine Table.ext_get? fun k => ?_
  rw [get?_extend, get?_extend, get?_extend, get?_extend]
  cases h : E.get? k with
  | none => cases E'.get? k <;> rfl
  | some x =>
    cases h' : E'.get? k with
    | none => rfl
    | some y => rw [hc.get? h h']

theorem mergeNamespaces_comm {N A A' : Namespaces} (hc : NsCompatible A A') :
    mergeNamespaces (mergeNamespaces N A) A' = mergeNamespaces (mergeNamespaces N A') A := by
  refine Table.ext_get? fun ns => ?_
  rw [get?_mergeNamespaces, get?_mergeNamespaces, get?_mergeNamespaces, get?_mergeNamespaces]
  cases h : A.get? ns <;> cases h' : A'.get? ns <;> simp only [Option.map_none, Option.map_some,
    Option.none_or, Option.some_or, Option.getD_some]
  exact congrArg some (extend_comm (hc.get? h h'))

theorem alter_alter {α : Type} (t : Table α) (k : String) (f g : Option α → α) :
    (t.alter k f).alter k g = t.alter k fun o => g (some (f o)) :=
  Table.ext_get? fun j => by
    simp only [Table.get?_alter]
    split_ifs <;> simp_all

theorem Locale.eq_of_tag_eq {l l' : Locale} (h : l.tag = l'.tag) : l = l' := by
  cases l
  cases l'
  cases h
  rfl

def mergeStep (t : Table Namespaces) (e : String × Namespaces) : Table Namespaces :=
  t.alter (Locale.ofTag e.1).tag fun old => mergeNamespaces (old.getD Table.empty) e.2

/-- the merge of raw tables in byte order of their tags -/
def mergeRaw (t : Table Namespaces) (raw : RawEntries) : Table Namespaces :=
  raw.entries.foldl (fun t e =>
    t.alter (Locale.ofTag e.1).tag fun old => mergeNamespaces (old.getD Table.empty) e.2) t

theorem mergeStep_comm (t : Table Namespaces) {x y : String × Namespaces}
    (hc : Locale.ofTag x.1 = Locale.ofTag y.1 → NsCompatible x.2 y.2) :
    mergeStep (mergeStep t x) y = mergeStep (mergeStep t y) x := by
  unfold mergeStep
  by_cases htag : (Locale.ofTag x.1).tag = (Locale.ofTag y.1).tag
  · rw [htag, alter_alter, alter_alter]
    simp only [Table.alter, Option.getD_some]
    rw [mergeNamespaces_comm (hc (Locale.eq_of_tag_eq htag))]
  · exact t.alter_comm htag _ _

/-! ## Every order of visit builds the same store -/

section Visits

variable (v : Visit)

theorem extendBy_eq (path : List String) (X E : Entries) : extendBy v path X E = extend X E := by
  refine Table.ext_get? fun k => ?_
  rw [get?_extend, extendBy, get?_foldl_insert_of_filter (filter_order_key v path E k)]

theorem mergeNamespacesBy_eq (path : List String) (N A : Namespaces) :
    mergeNamespacesBy v path N A = mergeNamespaces N A := by
  refine Table.ext_get? fun ns => ?_
  rw [get?_mergeNamespaces, mergeNamespacesBy, Table.get?_foldl_alter, filter_order_key v path A]
  cases A.get? ns with
  | none => rfl
  | some E => exact congrArg some (extendBy_eq v _ _ E)

theorem mergeRawBy_eq_foldl (path : List String) (t : Table Namespaces) (raw : RawEntries) :
    mergeRawBy v path t raw = (v.order path raw).foldl mergeStep t := by
  simp only [mergeRawBy, mergeNamespacesBy_eq]
  rfl

/-- with tags that agree, the raw tables can be visited in any order -/
theorem mergeRawBy_eq (path : List String) {t : Table Namespaces} {raw : RawEntries}
    (hagree : Agrees raw) : mergeRawBy v path t raw = mergeRaw t raw := by
  have hmem : ∀ x ∈ v.order path raw, x ∈ raw.entries := fun x hx => (v.perm path raw).subset hx
  rw [mergeRawBy_eq_foldl]
  exact (v.perm path raw).foldl_eq'
    (fun x hx y hy z => mergeStep_comm z (hagree x (hmem x hx) y (hmem y hy))) t

theorem mem_filter_tag {L : List (String × Namespaces)} {l : Locale} {e : String × Namespaces} :
    e ∈ L.filter (fun e : String × Namespaces => (Locale.ofTag e.1).tag = l.tag) ↔
      e ∈ L ∧ Locale.ofTag e.1 = l := by
  rw [List.mem_filter, decide_eq_true_iff]
  exact and_congr_right fun _ => ⟨Locale.eq_of_tag_eq, fun h => h ▸ rfl⟩

theorem isSome_foldl_some {β γ : Type} (g : γ → Option β → β) :
    ∀ (L : List γ) (o : Option β), (L.foldl (fun o e => some (g e o)) o).isSome = true ↔
      L ≠ [] ∨ o.isSome = true
  | [], o => by simp
  | e :: L, o => by
    rw [List.foldl_cons, isSome_foldl_some g L]
    simp

theorem contains_mergeRawBy (path : List String) (raw : RawEntries) (l : Locale) :
    (mergeRawBy v path Table.empty raw).contains l.tag = true ↔
      ∃ r ∈ raw.keys, Locale.ofTag r = l := by
  rw [Table.contains, mergeRawBy, Table.get?_foldl_alter, isSome_foldl_some, Table.get?_empty,
    Option.isSome_none, Bool.false_eq_true, or_false]
  constructor
  · intro hne
    obtain ⟨e, he⟩ := List.exists_mem_of_ne_nil _ hne
    obtain ⟨he, hl⟩ := mem_filter_tag.1 he
    exact ⟨e.1, List.mem_map.2 ⟨e, (v.perm path raw).subset he, rfl⟩, hl⟩
  · rintro ⟨r, hr, rfl⟩
    obtain ⟨e, he, rfl⟩ := List.mem_map.1 hr
    exact List.ne_nil_of_mem (mem_filter_tag.2 ⟨(v.perm path raw).symm.subset he, rfl⟩)

end Visits

/-! ## What the merged store answers -/

def rawFind (raw : RawEntries) (r ns k : String) : Option String :=
  ((raw.get? r).bind (·.get? ns)).bind (·.get? k)

def templateAt (ns k : String) (o : Option Namespaces) : Option String :=
  (o.bind (·.get? ns)).bind (·.get? k)

theorem templateAt_merge (A : Namespaces) (ns k : String) (o : Option Namespaces) :
    templateAt ns k (some (mergeNamespaces (o.getD Table.empty) A)) =
      (templateAt ns k (some A)).or (templateAt ns k o) := by
  simp only [templateAt, Option.bind_some]
  rw [get?_mergeNamespaces]
  cases A.get? ns with
  | none => simp [get?_getD_empty]
  | some E => simp [get?_extend, get?_getD_empty]

theorem templateAt_foldl (ns k : String) :
    ∀ (L : List (String × Namespaces)) (o : Option Namespaces),
      templateAt ns k (L.foldl (fun o e => some (mergeNamespaces (o.getD Table.empty) e.2)) o) =
        L.foldl (fun p e => (templateAt ns k (some e.2)).or p) (templateAt ns k o)
  | [], _ => rfl
  | e :: L, o => by
    rw [List.foldl_cons, List.foldl_cons, templateAt_foldl ns k L, templateAt_merge]

theorem foldl_or_eq_some {γ : Type} (f : γ → Option String) (x : String) :
    ∀ (L : List γ), (∀ a ∈ L, ∀ b ∈ L, ∀ y z, f a = some y → f b = some z → y = z) →
      ∀ o : Option String, L.foldl (fun p a => (f a).or p) o = some x ↔
        (∃ a ∈ L, f a = some x) ∨ ((∀ a ∈ L, f a = none) ∧ o = some x)
  | [], _, o => by simp
  | a :: L, hc, o => by
    rw [List.foldl_cons, foldl_or_eq_some f x L
      (fun b hb c hc' => hc b (List.mem_cons_of_mem _ hb) c (List.mem_cons_of_mem _ hc'))]
    cases ha : f a with
    | none => simp [ha]
    | some y =>
      simp only [ha, Option.some_or, Option.some.injEq, List.mem_cons, exists_eq_or_imp,
        forall_eq_or_imp, reduceCtorEq, false_and, or_false]
      constructor
      · rintro (h | ⟨-, rfl⟩)
        · exact .inr h
        · exact .inl rfl
      · rintro (rfl | h)
        · by_cases hL : ∀ b ∈ L, f b = none
          · exact .inr ⟨hL, rfl⟩
          · push Not at hL
            obtain ⟨b, hb, hfb⟩ := hL
            obtain ⟨z, hz⟩ := Option.ne_none_iff_exists'.1 hfb
            have hyz := hc a List.mem_cons_self b (List.mem_cons_of_mem _ hb) y z ha hz
            exact .inl ⟨b, hb, hyz ▸ hz⟩
        · exact .inl h

theorem get?_mergeRaw (t : Table Namespaces) (raw : RawEntries) (tag : String) :
    (mergeRaw t raw).get? tag =
      (raw.entries.filter (fun e : String × Namespaces => (Locale.ofTag e.1).tag = tag)).foldl
        (fun o e => some (mergeNamespaces (o.getD Table.empty) e.2)) (t.get? tag) := by
  rw [mergeRaw, Table.get?_foldl_alter]

theorem find_mergeRaw {raw : RawEntries} (hagree : Agrees raw) (l : Locale)
    (ns k x : String) :
    find (mergeRaw Table.empty raw) l ns k = some x ↔
      ∃ r, Locale.ofTag r = l ∧ rawFind raw r ns k = some x := by
  have hfind : find (mergeRaw Table.empty raw) l ns k =
      templateAt ns k ((mergeRaw Table.empty raw).get? l.tag) := rfl
  rw [hfind, get?_mergeRaw, templateAt_foldl ns k,
    foldl_or_eq_some _ x _ ?agree]
  case agree =>
    intro a ha b hb y z hy hz
    obtain ⟨ha, hla⟩ := mem_filter_tag.1 ha
    obtain ⟨hb, hlb⟩ := mem_filter_tag.1 hb
    obtain ⟨Ea, hEa, hya⟩ := Option.bind_eq_some_iff.1 hy
    obtain ⟨Eb, hEb, hzb⟩ := Option.bind_eq_some_iff.1 hz
    simp only [Option.bind_some] at hEa hEb
    exact ((hagree a ha b hb (hla.trans hlb.symm)).get? hEa hEb).get? hya hzb
  simp only [templateAt, Table.get?_empty, Option.bind_none, reduceCtorEq, and_false, or_false,
    Option.bind_some]
  constructor
  · rintro ⟨e, he, hx⟩
    obtain ⟨he, hl⟩ := mem_filter_tag.1 he
    refine ⟨e.1, hl, ?_⟩
    rw [rawFind, raw.get?_eq_some_iff.2 he]
    exact hx
  · rintro ⟨r, rfl, hx⟩
    obtain ⟨E, hE, hx⟩ := Option.bind_eq_some_iff.1 hx
    obtain ⟨N, hN, hE⟩ := Option.bind_eq_some_iff.1 hE
    exact ⟨(r, N), mem_filter_tag.2 ⟨Table.mem_of_get? hN, rfl⟩, by simp [hE, hx]⟩

/-! ## The merged store -/

theorem fromMapsBy_eq_mergeRaw (v : Visit) {messages : RawEntries} {sources : Option RawEntries}
    (hm : Agrees messages) (hs : Agrees (sources.getD Table.empty)) :
    fromMapsBy v messages sources =
      ⟨mergeRaw Table.empty messages, mergeRaw Table.empty (sources.getD Table.empty)⟩ := by
  rw [fromMapsBy, mergeRawBy_eq v _ hm, mergeRawBy_eq v _ hs]

theorem LanguageId.parse_en_US :
    LanguageId.parse? "en-US" = some ⟨some "en", none, some "US", []⟩ := by
  have hsplit : List.splitOnP (fun c => c == '-' || c == '_') ['e', 'n', '-', 'U', 'S'] =
      [['e', 'n'], ['U', 'S']] := by
    decide
  simp [LanguageId.parse?, String.toList_split_bool, hsplit]
  decide

theorem ofTag_en_hyphen_US : Locale.ofTag "en-US" = ⟨"en-US"⟩ := by
  have htrim : Text.trimBlanks "en-US" = "en-US" := by
    simp [Text.trimBlanks, Text.trimBlankList, Text.isBlank]
  rw [Locale.ofTag, htrim, show Locale.hyphenate "en-US" = "en-US" by simp [Locale.hyphenate],
    LanguageId.parse_en_US]
  rfl

theorem ofTag_en_underscore_US : Locale.ofTag "en_US" = ⟨"en-US"⟩ := by
  have htrim : Text.trimBlanks "en_US" = "en_US" := by
    simp [Text.trimBlanks, Text.trimBlankList, Text.isBlank]
  rw [Locale.ofTag, htrim, show Locale.hyphenate "en_US" = "en-US" by simp [Locale.hyphenate],
    LanguageId.parse_en_US]
  rfl

end Store

end Phrasebook
