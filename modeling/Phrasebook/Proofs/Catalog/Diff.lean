import Phrasebook.Catalog.Diff
import Phrasebook.Proofs.Catalog.Refinement
import Phrasebook.Proofs.Markup.SinglePass

/-!
# Locale diffs are set differences

`Store.diff s b t` compares two locales of a store. Said with sets, it is the key and
placeholder diff of the two:

* `placeholderSet t`   the names `w` of the placeholders `{w}` of a template: nonempty words of
                       word characters; `Markup.placeholders` lists exactly these, ascending
                       (`placeholders_lists`);
* `KeyMap xs p`        a list of namespaces with keys: each namespace once, ascending, with
                       exactly the keys `p` accepts there, ascending and never none;
* `Store.Mismatch`     a key both locales have whose templates name different placeholders,
                       with the names only one side has;
* `LocaleDiff.swap`    a diff read the other way: missing and extra exchanged.

The fold of `diff` is first written as a map over the namespaces (`diff_eq`); each of its three
lists then follows from one lemma about that map. The main statement is `Store.diff_laws`.
-/

namespace Phrasebook

open Store (ListsAscending)

/-! ## Sorted lists of strings -/

theorem eraseDups_ascending : ∀ {xs : List String}, xs.Pairwise (· ≤ ·) →
    xs.eraseDups.Pairwise (· < ·)
  | [], _ => List.Pairwise.nil
  | a :: as, h => by
    rw [List.eraseDups_cons]
    rw [List.pairwise_cons] at h
    refine List.pairwise_cons.2 ⟨fun b hb => ?_, eraseDups_ascending (h.2.filter _)⟩
    obtain ⟨hb, hne⟩ := List.mem_filter.1 (List.mem_eraseDups.1 hb)
    exact lt_of_le_of_ne (h.1 b hb) fun hab => by subst hab; simp at hne
termination_by xs => xs.length
decreasing_by exact Nat.lt_succ_of_le (List.length_filter_le _ _)

theorem sortedUnique_lists (xs : List String) : ListsAscending (sortedUnique xs) (· ∈ xs) where
  ascending := by
    apply eraseDups_ascending
    have h := @List.pairwise_mergeSort String (fun a b => decide (a ≤ b))
      (fun a b c hab hbc => by simp only [decide_eq_true_eq] at *; exact le_trans hab hbc)
      (fun a b => by rcases le_total a b with h | h <;> simp [h]) xs
    simpa using h
  mem_iff x := by rw [sortedUnique, List.mem_eraseDups, List.mem_mergeSort]

theorem without_lists {xs : List String} (h : xs.Pairwise (· < ·)) (ys : List String) :
    ListsAscending (without xs ys) (fun x => x ∈ xs ∧ x ∉ ys) where
  ascending := h.filter _
  mem_iff x := by simp [without]

theorem Store.ListsAscending.eq {xs ys : List String} {p : String → Prop} (hx : ListsAscending xs p)
    (hy : ListsAscending ys p) : xs = ys := by
  have hperm : xs.Perm ys := (List.perm_ext_iff_of_nodup (hx.ascending.imp ne_of_lt)
    (hy.ascending.imp ne_of_lt)).2 fun a => by rw [hx.mem_iff, hy.mem_iff]
  exact hperm.eq_of_pairwise (fun a b _ _ hab hba => absurd (lt_trans hab hba) (lt_irrefl a))
    hx.ascending hy.ascending

theorem Store.ListsAscending.congr {xs : List String} {p q : String → Prop} (h : ListsAscending xs p)
    (hpq : ∀ x, p x ↔ q x) : ListsAscending xs q :=
  ⟨h.ascending, fun x => (h.mem_iff x).trans (hpq x)⟩

/-! ## Placeholder names -/

namespace Markup

open Text

/-- the names of the placeholders `{w}` of a template: nonempty words of word characters -/
def placeholderSet (template : String) : Set String :=
  {w | w.toList ≠ [] ∧ (∀ c ∈ w.toList, isWordChar c = true) ∧ placeholder w <:+: template.toList}

def pending : Option (List Char) → List Char
  | none => []
  | some word => '{' :: word.reverse

theorem isWordChar_open : isWordChar '{' = false := by decide

theorem isWordChar_close : isWordChar '}' = false := by decide

theorem not_open_of_words {v : List Char} (hv : ∀ c ∈ v, isWordChar c = true) : '{' ∉ v :=
  fun h => Bool.false_ne_true (isWordChar_open ▸ hv _ h)

theorem placeholder_infix_cons {w : String} {c : Char} (hc : c ≠ '{') {rest : List Char} :
    placeholder w <:+: c :: rest ↔ placeholder w <:+: rest := by
  refine ⟨fun h => ?_, fun h => h.trans (List.suffix_cons c rest).isInfix⟩
  rcases List.infix_cons_iff.1 h with hpre | hinf
  · exact absurd (List.cons_prefix_cons.1 (placeholder_eq w ▸ hpre)).1.symm hc
  · exact hinf

theorem placeholder_infix_open {w : String} {v rest : List Char} {c : Char}
    (hw : ∀ x ∈ w.toList, isWordChar x = true) (hv : ∀ x ∈ v, isWordChar x = true)
    (hc : isWordChar c = false) :
    placeholder w <:+: '{' :: (v ++ c :: rest) ↔
      (w.toList = v ∧ c = '}') ∨ placeholder w <:+: c :: rest := by
  have hstop : ∀ {u : List Char}, (∀ x ∈ u, isWordChar x = true) → ∀ x ∈ u, ¬ isWordChar x = false :=
    fun hu x hx hf => by simp [hu x hx] at hf
  rw [List.infix_cons_iff, placeholder_eq, List.cons_prefix_cons]
  constructor
  · rintro (⟨-, t, ht⟩ | hinf)
    · rw [List.append_assoc, List.singleton_append] at ht
      obtain ⟨rfl, rfl, -⟩ := append_cons_inj (hstop hw) (hstop hv) isWordChar_close hc ht
      exact .inl ⟨rfl, rfl⟩
    · exact .inr (placeholder_infix_of_append (not_open_of_words hv) hinf)
  · rintro (⟨hwv, rfl⟩ | hinf)
    · exact .inl ⟨rfl, rest, by simp [hwv]⟩
    · exact .inr (hinf.trans (List.suffix_append v _).isInfix)

theorem mem_scanPlaceholders_close {w : String} {word rest : List Char}
    (hword : ∀ c ∈ word, isWordChar c = true)
    (ih : w ∈ scanPlaceholders none rest ↔
      w.toList ≠ [] ∧ (∀ c ∈ w.toList, isWordChar c = true) ∧ placeholder w <:+: rest) :
    w ∈ scanPlaceholders (some word) ('}' :: rest) ↔
      w.toList ≠ [] ∧ (∀ c ∈ w.toList, isWordChar c = true) ∧
        placeholder w <:+: '{' :: (word.reverse ++ '}' :: rest) := by
  have hwr : ∀ x ∈ word.reverse, isWordChar x = true := fun x hx => hword x (List.mem_reverse.1 hx)
  rw [scanPlaceholders, if_neg (by simp [isWordChar_close]), if_pos (beq_self_eq_true _)]
  by_cases hempty : word = []
  · subst hempty
    rw [if_pos List.isEmpty_nil, ih]
    simp only [List.nil_append, List.reverse_nil]
    constructor
    · rintro ⟨hne, hw, hinf⟩
      exact ⟨hne, hw, (placeholder_infix_cons (by decide)).2 hinf |>.trans (List.suffix_cons _ _).isInfix⟩
    · rintro ⟨hne, hw, hinf⟩
      refine ⟨hne, hw, ?_⟩
      rcases (@placeholder_infix_open w [] _ _ hw (by simp) isWordChar_close).1 hinf with
        ⟨h, -⟩ | h
      · exact absurd h hne
      · exact (placeholder_infix_cons (by decide)).1 h
  · rw [if_neg (by simpa using hempty), List.mem_cons, ih]
    constructor
    · rintro (rfl | ⟨hne, hw, hinf⟩)
      · simp only [String.toList_ofList]
        exact ⟨by simpa using hempty, hwr, (placeholder_infix_open (by simpa using hwr) hwr
          isWordChar_close).2 (.inl ⟨by simp, rfl⟩)⟩
      · exact ⟨hne, hw, (placeholder_infix_open hw hwr isWordChar_close).2
          (.inr ((placeholder_infix_cons (by decide)).2 hinf))⟩
    · rintro ⟨hne, hw, hinf⟩
      rcases (placeholder_infix_open hw hwr isWordChar_close).1 hinf with ⟨h, -⟩ | h
      · exact .inl (by rw [← h, String.ofList_toList])
      · exact .inr ⟨hne, hw, (placeholder_infix_cons (by decide)).1 h⟩

theorem mem_scanPlaceholders (w : String) :
    ∀ (st : Option (List Char)) (cs : List Char), (∀ word, st = some word → ∀ c ∈ word, isWordChar c = true) →
      (w ∈ scanPlaceholders st cs ↔ w.toList ≠ [] ∧ (∀ c ∈ w.toList, isWordChar c = true) ∧
        placeholder w <:+: pending st ++ cs)
  | st, [], hst => by
    simp only [scanPlaceholders, List.not_mem_nil, List.append_nil, false_iff, not_and]
    intro _ _ hinf
    have hclose : '}' ∈ pending st := hinf.subset (by simp [placeholder])
    cases st with
    | none => simp [pending] at hclose
    | some word =>
      rcases List.mem_cons.1 hclose with h | h
      · exact absurd h (by decide)
      · simpa [hst word rfl _ (List.mem_reverse.1 h)] using isWordChar_close
  | none, c :: rest, _ => by
    by_cases hc : c = '{'
    · subst hc
      rw [scanPlaceholders, if_pos (beq_self_eq_true _), mem_scanPlaceholders w (some []) rest (by simp)]
      simp [pending]
    · rw [scanPlaceholders, if_neg (by simpa using hc), mem_scanPlaceholders w none rest (by simp)]
      simp [pending, placeholder_infix_cons hc]
  | some word, c :: rest, hst => by
    have hword := hst word rfl
    have hwr : ∀ x ∈ word.reverse, isWordChar x = true := fun x hx => hword x (List.mem_reverse.1 hx)
    simp only [pending, List.cons_append]
    by_cases hwc : isWordChar c = true
    · rw [scanPlaceholders, if_pos hwc, mem_scanPlaceholders w (some (c :: word)) rest (by
        rintro _ ⟨⟩ x hx
        rcases List.mem_cons.1 hx with rfl | hx
        · exact hwc
        · exact hword x hx)]
      simp [pending]
    by_cases hclose : c = '}'
    · subst hclose
      exact mem_scanPlaceholders_close hword (mem_scanPlaceholders w none rest (by simp))
    have hwc' : isWordChar c = false := by simpa using hwc
    rw [scanPlaceholders, if_neg hwc, if_neg (by simpa using hclose)]
    by_cases hopen : c = '{'
    · subst hopen
      rw [if_pos (beq_self_eq_true _), mem_scanPlaceholders w (some []) rest (by simp)]
      simp only [pending, List.reverse_nil]
      refine and_congr_right fun _ => and_congr_right fun hw => ?_
      rw [placeholder_infix_open hw hwr isWordChar_open]
      simp
    · rw [if_neg (by simpa using hopen), mem_scanPlaceholders w none rest (by simp)]
      simp only [pending, List.nil_append]
      refine and_congr_right fun _ => and_congr_right fun hw => ?_
      rw [placeholder_infix_open hw hwr hwc', placeholder_infix_cons hopen]
      simp [hclose]

theorem placeholders_lists (template : String) :
    ListsAscending (placeholders template) (· ∈ placeholderSet template) :=
  (sortedUnique_lists (placeholderNames template.toList)).congr fun w =>
    (mem_scanPlaceholders w none _ (by simp)).trans (by simp [placeholderSet, pending])

theorem placeholders_eq_iff {s t : String} :
    placeholders s = placeholders t ↔ placeholderSet s = placeholderSet t := by
  constructor
  · intro h
    ext w
    rw [← (placeholders_lists s).mem_iff, ← (placeholders_lists t).mem_iff, h]
  · intro h
    exact (placeholders_lists s).eq ((placeholders_lists t).congr fun w => by rw [h])

end Markup

/-! ## The diff as a map over namespaces -/

/-- a mismatch read the other way: what was missing is extra -/
def VariableMismatch.swap (m : VariableMismatch) : VariableMismatch :=
  ⟨m.namespace_, m.key, m.extra, m.missing⟩

/-- a diff read the other way: missing and extra exchanged, for keys and for placeholders -/
def LocaleDiff.swap (d : LocaleDiff) : LocaleDiff :=
  ⟨d.extraKeys, d.missingKeys, d.variableMismatches.map VariableMismatch.swap⟩

namespace Store

variable (s : Store) (b t : Locale)

def diffNamespaces : List String := sortedUnique (s.namespaces b ++ s.namespaces t)

def keyGap (x y : Locale) (ns : String) : Option (String × List String) :=
  if (without (s.keys x ns) (s.keys y ns)).isEmpty then none
  else some (ns, without (s.keys x ns) (s.keys y ns))

def keyMismatch (ns k : String) : Option VariableMismatch :=
  (s.message b ns k).bind fun bt => (s.message t ns k).bind fun tt =>
    if Markup.placeholders bt = Markup.placeholders tt then none
    else some ⟨ns, k, without (Markup.placeholders bt) (Markup.placeholders tt),
      without (Markup.placeholders tt) (Markup.placeholders bt)⟩

def namespaceMismatches (ns : String) : List VariableMismatch :=
  ((s.keys b ns).filter (s.keys t ns).contains).filterMap (s.keyMismatch b t ns)

theorem foldl_append_eq {F : LocaleDiff → String → LocaleDiff}
    (m e : String → Option (String × List String)) (v : String → List VariableMismatch)
    (hF : ∀ d ns, F d ns = ⟨d.missingKeys ++ (m ns).toList, d.extraKeys ++ (e ns).toList,
      d.variableMismatches ++ v ns⟩) :
    ∀ (nss : List String) (d : LocaleDiff), nss.foldl F d =
      ⟨d.missingKeys ++ nss.filterMap m, d.extraKeys ++ nss.filterMap e,
        d.variableMismatches ++ nss.flatMap v⟩
  | [], d => by simp
  | ns :: nss, d => by
    rw [List.foldl_cons, foldl_append_eq m e v hF nss, hF]
    cases hm : m ns <;> cases he : e ns <;> simp [hm, he]

theorem diff_eq : s.diff b t =
    ⟨(s.diffNamespaces b t).filterMap (s.keyGap b t), (s.diffNamespaces b t).filterMap (s.keyGap t b),
      (s.diffNamespaces b t).flatMap (s.namespaceMismatches b t)⟩ := by
  unfold diff
  rw [foldl_append_eq (s.keyGap b t) (s.keyGap t b) (s.namespaceMismatches b t)]
  · rfl
  · intro d ns
    simp only [keyGap, namespaceMismatches]
    congr 1
    · split <;> simp_all
    · split <;> simp_all
    · congr 1
      refine List.filterMap_congr fun k _ => ?_
      simp only [keyMismatch]
      cases s.message b ns k <;> cases s.message t ns k <;> simp [beq_iff_eq]

/-! ## Keys and namespaces -/

variable {s}

theorem mem_keys_iff {l : Locale} {ns k : String} :
    k ∈ s.keys l ns ↔ ∃ v, s.message l ns k = some v := by
  rw [keys, message, keys_getD_empty, Table.mem_keys_iff, Table.contains, Option.isSome_iff_exists,
    get?_getD_empty]

theorem mem_namespaces_of_mem_keys {l : Locale} {ns k : String} (h : k ∈ s.keys l ns) :
    ns ∈ s.namespaces l := by
  obtain ⟨v, hv⟩ := mem_keys_iff.1 h
  obtain ⟨E, hE, -⟩ := Option.bind_eq_some_iff.1 hv
  obtain ⟨N, hN, hE⟩ := Option.bind_eq_some_iff.1 hE
  rw [namespaces, keys_getD_empty, hN, Option.getD_some, Table.mem_keys_iff, Table.contains, hE]
  rfl

theorem keys_ascending (s : Store) (l : Locale) (ns : String) : (s.keys l ns).Pairwise (· < ·) := by
  rw [keys, keys_getD_empty]
  exact Table.keys_sorted _

theorem mem_diffNamespaces {ns : String} :
    ns ∈ s.diffNamespaces b t ↔ ns ∈ s.namespaces b ∨ ns ∈ s.namespaces t := by
  rw [diffNamespaces, (sortedUnique_lists _).mem_iff, List.mem_append]

/-! ## Missing and extra keys -/

/-- namespaces with keys, as a map: each namespace stands once, in ascending order, with exactly
the keys `p` accepts there, ascending; a namespace where `p` accepts none is left out -/
structure KeyMap (xs : List (String × List String)) (p : String → String → Prop) : Prop where
  ascending : (xs.map Prod.fst).Pairwise (· < ·)
  mem_iff : ∀ ns ks, (ns, ks) ∈ xs ↔ ks ≠ [] ∧ ListsAscending ks (p ns)

theorem keyGap_eq_some {x y : Locale} {ns ns' : String} {ks : List String} :
    s.keyGap x y ns = some (ns', ks) ↔ ns' = ns ∧ ks = without (s.keys x ns) (s.keys y ns) ∧ ks ≠ [] := by
  unfold keyGap
  split <;> rename_i h <;> simp only [List.isEmpty_iff] at h
  · simp only [reduceCtorEq, false_iff, not_and]
    rintro - rfl
    exact absurd h
  · simp only [Option.some.injEq, Prod.mk.injEq]
    constructor
    · rintro ⟨rfl, rfl⟩
      exact ⟨rfl, rfl, h⟩
    · rintro ⟨rfl, rfl, -⟩
      exact ⟨rfl, rfl⟩

theorem keyMap_keyGap (x y : Locale) {nss : List String}
    (hnss : nss.Pairwise (· < ·)) (hmem : ∀ ns k, k ∈ s.keys x ns → ns ∈ nss) :
    KeyMap (nss.filterMap (s.keyGap x y)) fun ns k => k ∈ s.keys x ns ∧ k ∉ s.keys y ns where
  ascending := by
    rw [List.map_filterMap]
    refine List.pairwise_filterMap.2 (hnss.imp fun hlt a ha a' ha' => ?_)
    obtain ⟨⟨_, _⟩, hg, rfl⟩ := Option.map_eq_some_iff.1 ha
    obtain ⟨⟨_, _⟩, hg', rfl⟩ := Option.map_eq_some_iff.1 ha'
    rw [(keyGap_eq_some.1 hg).1, (keyGap_eq_some.1 hg').1]
    exact hlt
  mem_iff ns ks := by
    have hgap := without_lists (s.keys_ascending x ns) (s.keys y ns)
    rw [List.mem_filterMap]
    constructor
    · rintro ⟨ns', -, hg⟩
      obtain ⟨rfl, rfl, hne⟩ := keyGap_eq_some.1 hg
      exact ⟨hne, hgap⟩
    · rintro ⟨hne, hks⟩
      obtain ⟨k, hk⟩ := List.exists_mem_of_ne_nil ks hne
      refine ⟨ns, hmem ns k ((hks.mem_iff k).1 hk).1, keyGap_eq_some.2 ⟨rfl, hks.eq hgap, hne⟩⟩

theorem filterMap_keyGap_eq_nil {x y : Locale} {nss : List String}
    (hmem : ∀ ns k, k ∈ s.keys x ns → ns ∈ nss) :
    nss.filterMap (s.keyGap x y) = [] ↔ ∀ ns k, k ∈ s.keys x ns → k ∈ s.keys y ns := by
  rw [List.filterMap_eq_nil_iff]
  constructor
  · intro hnone ns k hk
    by_contra hk'
    have hne : without (s.keys x ns) (s.keys y ns) ≠ [] :=
      List.ne_nil_of_mem (List.mem_filter.2 ⟨hk, by simpa using hk'⟩)
    simpa [keyGap, hne] using hnone ns (hmem ns k hk)
  · intro hall ns _
    have hempty : without (s.keys x ns) (s.keys y ns) = [] :=
      List.filter_eq_nil_iff.2 fun k hk => by simp [hall ns k hk]
    simp [keyGap, hempty]

/-! ## Placeholder mismatches -/

variable (s) in
/-- a key both locales have whose templates name different placeholders; `missing` lists,
ascending, the names only the base template has, and `extra` those only the target's has -/
def Mismatch (m : VariableMismatch) : Prop :=
  ∃ bt tt, s.message b m.namespace_ m.key = some bt ∧ s.message t m.namespace_ m.key = some tt ∧
    Markup.placeholderSet bt ≠ Markup.placeholderSet tt ∧
    ListsAscending m.missing (· ∈ Markup.placeholderSet bt \ Markup.placeholderSet tt) ∧
    ListsAscending m.extra (· ∈ Markup.placeholderSet tt \ Markup.placeholderSet bt)

theorem without_placeholders_lists (bt tt : String) :
    ListsAscending (without (Markup.placeholders bt) (Markup.placeholders tt))
      (· ∈ Markup.placeholderSet bt \ Markup.placeholderSet tt) :=
  (without_lists (Markup.placeholders_lists bt).ascending _).congr fun w => by
    rw [(Markup.placeholders_lists bt).mem_iff, (Markup.placeholders_lists tt).mem_iff]
    rfl

theorem keyMismatch_eq_some {ns k : String} {m : VariableMismatch} :
    s.keyMismatch b t ns k = some m ↔ ∃ bt tt, s.message b ns k = some bt ∧
      s.message t ns k = some tt ∧ Markup.placeholders bt ≠ Markup.placeholders tt ∧
      m = ⟨ns, k, without (Markup.placeholders bt) (Markup.placeholders tt),
        without (Markup.placeholders tt) (Markup.placeholders bt)⟩ := by
  unfold keyMismatch
  cases s.message b ns k with
  | none => simp
  | some bt =>
    cases s.message t ns k with
    | none => simp
    | some tt =>
      simp only [Option.bind_some]
      split <;> rename_i h <;> simp [h, eq_comm]

theorem mismatch_of_keyMismatch {ns k : String} {m : VariableMismatch}
    (hm : s.keyMismatch b t ns k = some m) : m.namespace_ = ns ∧ m.key = k ∧ s.Mismatch b t m := by
  obtain ⟨bt, tt, hb, ht, hne, rfl⟩ := (keyMismatch_eq_some b t).1 hm
  exact ⟨rfl, rfl, bt, tt, hb, ht, mt Markup.placeholders_eq_iff.2 hne,
    without_placeholders_lists bt tt, without_placeholders_lists tt bt⟩

theorem keyMismatch_of_mismatch {m : VariableMismatch} (hm : s.Mismatch b t m) :
    s.keyMismatch b t m.namespace_ m.key = some m := by
  obtain ⟨ns, k, missing, extra⟩ := m
  obtain ⟨bt, tt, hb, ht, hne, hmissing, hextra⟩ := hm
  refine (keyMismatch_eq_some b t).2 ⟨bt, tt, hb, ht, mt Markup.placeholders_eq_iff.1 hne, ?_⟩
  dsimp only at hmissing hextra ⊢
  rw [hmissing.eq (without_placeholders_lists bt tt), hextra.eq (without_placeholders_lists tt bt)]

theorem mem_namespaceMismatches {ns : String} {m : VariableMismatch} :
    m ∈ s.namespaceMismatches b t ns ↔ m.namespace_ = ns ∧ s.Mismatch b t m := by
  rw [namespaceMismatches, List.mem_filterMap]
  constructor
  · rintro ⟨k, -, hk⟩
    obtain ⟨hns, -, hm⟩ := mismatch_of_keyMismatch b t hk
    exact ⟨hns, hm⟩
  · rintro ⟨rfl, hm⟩
    obtain ⟨bt, tt, hb, ht, -⟩ := id hm
    refine ⟨m.key, List.mem_filter.2 ⟨mem_keys_iff.2 ⟨bt, hb⟩, ?_⟩, keyMismatch_of_mismatch b t hm⟩
    simpa using mem_keys_iff.2 ⟨tt, ht⟩

theorem mem_flatMap_namespaceMismatches {m : VariableMismatch} :
    m ∈ (s.diffNamespaces b t).flatMap (s.namespaceMismatches b t) ↔ s.Mismatch b t m := by
  rw [List.mem_flatMap]
  constructor
  · rintro ⟨ns, -, hm⟩
    exact ((mem_namespaceMismatches b t).1 hm).2
  · intro hm
    obtain ⟨bt, -, hb, -⟩ := id hm
    have hns := mem_namespaces_of_mem_keys (mem_keys_iff.2 ⟨bt, hb⟩)
    exact ⟨m.namespace_, (mem_diffNamespaces b t).2 (.inl hns),
      (mem_namespaceMismatches b t).2 ⟨rfl, hm⟩⟩

theorem flatMap_namespaceMismatches_ascending :
    ((s.diffNamespaces b t).flatMap (s.namespaceMismatches b t)).Pairwise fun m m' =>
      m.namespace_ < m'.namespace_ ∨ (m.namespace_ = m'.namespace_ ∧ m.key < m'.key) := by
  refine List.pairwise_flatMap.2 ⟨fun ns _ => ?_, ?_⟩
  · refine List.pairwise_filterMap.2 (((s.keys_ascending b ns).filter _).imp fun hlt m hm m' hm' => ?_)
    obtain ⟨hns, hk, -⟩ := mismatch_of_keyMismatch b t hm
    obtain ⟨hns', hk', -⟩ := mismatch_of_keyMismatch b t hm'
    exact .inr ⟨hns.trans hns'.symm, hk ▸ hk' ▸ hlt⟩
  · refine ((sortedUnique_lists _).ascending).imp fun hlt m hm m' hm' => .inl ?_
    rw [((mem_namespaceMismatches b t).1 hm).1, ((mem_namespaceMismatches b t).1 hm').1]
    exact hlt

/-! ## Reading a diff the other way -/

theorem diffNamespaces_comm : s.diffNamespaces t b = s.diffNamespaces b t :=
  (sortedUnique_lists _).eq ((sortedUnique_lists _).congr fun ns => by simp [or_comm])

theorem keyMismatch_swap (ns k : String) :
    s.keyMismatch t b ns k = (s.keyMismatch b t ns k).map VariableMismatch.swap := by
  unfold keyMismatch
  cases s.message b ns k <;> cases s.message t ns k <;> simp only [Option.bind_none,
    Option.bind_some, Option.map_none]
  split <;> split <;> simp_all [VariableMismatch.swap]

theorem commonKeys_comm (ns : String) :
    (s.keys t ns).filter (s.keys b ns).contains = (s.keys b ns).filter (s.keys t ns).contains := by
  have hlists : ∀ x y : Locale, ListsAscending ((s.keys x ns).filter (s.keys y ns).contains)
      fun k => k ∈ s.keys x ns ∧ k ∈ s.keys y ns := fun x y =>
    ⟨(s.keys_ascending x ns).filter _, fun k => by simp⟩
  exact (hlists t b).eq ((hlists b t).congr fun k => and_comm)

theorem diff_swap : s.diff t b = (s.diff b t).swap := by
  rw [diff_eq, diff_eq, LocaleDiff.swap, diffNamespaces_comm, List.map_flatMap]
  congr 1
  refine List.flatMap_congr fun ns _ => ?_
  rw [namespaceMismatches, namespaceMismatches, commonKeys_comm b t, List.map_filterMap]
  exact List.filterMap_congr fun k _ => keyMismatch_swap b t ns k

/-! ## The diff said with sets -/

theorem isClean_diff_iff : (s.diff b t).isClean = true ↔
    (∀ ns k, k ∈ s.keys b ns ↔ k ∈ s.keys t ns) ∧
      ∀ ns k bt tt, s.message b ns k = some bt → s.message t ns k = some tt →
        Markup.placeholderSet bt = Markup.placeholderSet tt := by
  have hb : ∀ ns k, k ∈ s.keys b ns → ns ∈ s.diffNamespaces b t := fun ns k hk =>
    (mem_diffNamespaces b t).2 (.inl (mem_namespaces_of_mem_keys hk))
  have ht : ∀ ns k, k ∈ s.keys t ns → ns ∈ s.diffNamespaces b t := fun ns k hk =>
    (mem_diffNamespaces b t).2 (.inr (mem_namespaces_of_mem_keys hk))
  rw [diff_eq]
  simp only [LocaleDiff.isClean, Bool.and_eq_true, List.isEmpty_iff, filterMap_keyGap_eq_nil hb,
    filterMap_keyGap_eq_nil ht, List.eq_nil_iff_forall_not_mem, mem_flatMap_namespaceMismatches]
  constructor
  · rintro ⟨⟨hbt, htb⟩, hnone⟩
    refine ⟨fun ns k => ⟨hbt ns k, htb ns k⟩, fun ns k bt tt hbk htk => ?_⟩
    by_contra hne
    exact hnone ⟨ns, k, _, _⟩ ⟨bt, tt, hbk, htk, hne, without_placeholders_lists bt tt,
      without_placeholders_lists tt bt⟩
  · rintro ⟨hkeys, hsame⟩
    exact ⟨⟨fun ns k => (hkeys ns k).1, fun ns k => (hkeys ns k).2⟩,
      fun m ⟨bt, tt, hbk, htk, hne, _⟩ => hne (hsame _ _ bt tt hbk htk)⟩

variable (s) in
/-- what the diff of `t` from `b` reports, said with sets: by namespace, the keys only `b` has
(missing) and those only `t` has (extra); the keys both have whose templates name different
placeholders, in ascending order of namespace and key, with the names only one side has; that
the diff is clean exactly when the locales agree on both; and that the diff the other way round
is this one with missing and extra exchanged -/
structure DiffLaws : Prop where
  missing : KeyMap (s.diff b t).missingKeys fun ns k => k ∈ s.keys b ns ∧ k ∉ s.keys t ns
  extra : KeyMap (s.diff b t).extraKeys fun ns k => k ∈ s.keys t ns ∧ k ∉ s.keys b ns
  mem_mismatches : ∀ m, m ∈ (s.diff b t).variableMismatches ↔ s.Mismatch b t m
  mismatches_ascending : (s.diff b t).variableMismatches.Pairwise fun m m' =>
    m.namespace_ < m'.namespace_ ∨ (m.namespace_ = m'.namespace_ ∧ m.key < m'.key)
  isClean_iff : (s.diff b t).isClean = true ↔ (∀ ns k, k ∈ s.keys b ns ↔ k ∈ s.keys t ns) ∧
    ∀ ns k bt tt, s.message b ns k = some bt → s.message t ns k = some tt →
      Markup.placeholderSet bt = Markup.placeholderSet tt
  swap : s.diff t b = (s.diff b t).swap

/-- On every store, the diff of two locales is their key and placeholder diff. -/
theorem diff_laws : DiffLaws s b t where
  missing := by
    rw [diff_eq]
    exact keyMap_keyGap b t (sortedUnique_lists _).ascending fun ns k hk =>
      (mem_diffNamespaces b t).2 (.inl (mem_namespaces_of_mem_keys hk))
  extra := by
    rw [diff_eq]
    exact keyMap_keyGap t b (sortedUnique_lists _).ascending fun ns k hk =>
      (mem_diffNamespaces b t).2 (.inr (mem_namespaces_of_mem_keys hk))
  mem_mismatches m := by
    rw [diff_eq]
    exact mem_flatMap_namespaceMismatches b t
  mismatches_ascending := by
    rw [diff_eq]
    exact flatMap_namespaceMismatches_ascending b t
  isClean_iff := isClean_diff_iff b t
  swap := diff_swap b t

end Store

end Phrasebook
