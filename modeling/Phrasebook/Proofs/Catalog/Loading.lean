import Phrasebook.Proofs.Catalog.ResourceFiles

/-!
# Loading locale directories

`Resources.loadAll` lists the base, takes its subdirectories with UTF-8 names in ascending order
of the locale each name gives and then of name (`Resources.discover_eq_ok`), and loads each into
one store: its `<ns>.json` files in order of namespace, each with the `<ns>.meta.json` beside
it, a later file winning on a key both give. It stops at the first file that does not read.

* `Resources.templateIn`, `Resources.sourceKeyIn`  what one directory answers for a key or a
                              source text;
* `Resources.loadDir_answer`  loading a directory answers from it first, then as before;
* `Resources.loadDirs_query`  a run of loads answers as one load after another;
* `Resources.foldl_or_eq_some_iff_last`  over directories in ascending order of name, that is
                              the answer of the last directory that has one;
* `Resources.loadAll_last_writer_wins`  when loading everything fails and why, and what the
                              store answers when it does not.
-/

namespace Phrasebook

namespace Store

theorem Locale.tag_eq_tag_iff {l l' : Locale} : l'.tag = l.tag ↔ l' = l :=
  ⟨Locale.eq_of_tag_eq, fun h => h ▸ rfl⟩

theorem templateAt_alter_extend (t : Table Namespaces) (es : Entries) (tag ns tag' ns' k : String) :
    templateAt ns' k ((t.alter tag fun old => (old.getD Table.empty).alter ns fun prev =>
        extend (prev.getD Table.empty) es).get? tag') =
      if tag' = tag ∧ ns' = ns then (es.get? k).or (templateAt ns' k (t.get? tag'))
      else templateAt ns' k (t.get? tag') := by
  rw [Table.get?_alter]
  by_cases htag : tag' = tag
  · subst htag
    simp only [if_true, true_and, templateAt, Option.bind_some, Table.get?_alter]
    by_cases hns : ns' = ns
    · subst hns
      simp only [if_true, Option.bind_some, get?_extend, get?_getD_empty, Option.bind_assoc]
    · simp only [hns, if_false, get?_getD_empty]
  · simp only [htag, false_and, if_false]

theorem hasLocale_mergeNamespace (s : Store) (l : Locale) (ns : String) (es : Entries)
    (sources : Option Entries) (l' : Locale) :
    (s.mergeNamespace l ns es sources).hasLocale l' = true ↔ l' = l ∨ s.hasLocale l' = true := by
  simp only [mergeNamespace, hasLocale, Table.contains, Table.get?_alter, Locale.tag_eq_tag_iff]
  by_cases h : l' = l <;> simp [h]

theorem message_mergeNamespace (s : Store) (l : Locale) (ns : String) (es : Entries)
    (sources : Option Entries) (l' : Locale) (ns' k : String) :
    (s.mergeNamespace l ns es sources).message l' ns' k =
      if l' = l ∧ ns' = ns then (es.get? k).or (s.message l' ns' k) else s.message l' ns' k := by
  have h := templateAt_alter_extend s.messages es l.tag ns l'.tag ns' k
  simp only [Locale.tag_eq_tag_iff] at h
  exact h

theorem metaKey_mergeNamespace (s : Store) (l : Locale) (ns : String) (es : Entries)
    (sources : Option Entries) (l' : Locale) (ns' source : String) :
    (s.mergeNamespace l ns es sources).metaKey l' ns' source =
      if l' = l ∧ ns' = ns then (sources.bind (·.get? source)).or (s.metaKey l' ns' source)
      else s.metaKey l' ns' source := by
  cases sources with
  | none => simp [mergeNamespace, metaKey]
  | some m =>
    have h := templateAt_alter_extend s.sourceKeys m l.tag ns l'.tag ns' source
    simp only [Locale.tag_eq_tag_iff] at h
    exact h

end Store

namespace Resources

variable (tree : Files.Tree)

/-- the template a directory gives a key of a namespace: the string at that key in its
`<ns>.json`, when it lists one -/
def templateIn (dir : Files.Place) (ns key : String) : Option String :=
  if hasNamespaceFile tree dir ns then stringAt tree (messagesPlace dir ns) key else none

/-- the key a directory gives a source text of a namespace: the string at that text in its
`<ns>.meta.json`, which is read only beside a `<ns>.json` -/
def sourceKeyIn (dir : Files.Place) (ns source : String) : Option String :=
  if hasNamespaceFile tree dir ns && tree.isFile (metaPlace dir ns).names then
    stringAt tree (metaPlace dir ns) source
  else none

def DirReads (dir : Files.Place) : Prop :=
  ∀ ns, hasNamespaceFile tree dir ns = true → ObjectFile tree (messagesPlace dir ns) ∧
    (tree.isFile (metaPlace dir ns).names = true → ObjectFile tree (metaPlace dir ns))

def DirFailure (dir : Files.Place) (e : TranslationError) : Prop :=
  ∃ ns, hasNamespaceFile tree dir ns = true ∧ (ReadFailure tree (messagesPlace dir ns) e ∨
    tree.isFile (metaPlace dir ns).names = true ∧ ReadFailure tree (metaPlace dir ns) e)

def metaEntries (dir : Files.Place) (ns : String) : Except TranslationError (Option Entries) :=
  if tree.isFile (metaPlace dir ns).names then (readEntries tree (metaPlace dir ns)).map some
  else .ok none

def LastAnswer (r : Resources) (names : List Files.Name) (l : Locale)
    (answer : Files.Place → Option String) (v : String) : Prop :=
  ∃ s, IsSubdir tree r names s ∧ Locale.ofTag s = l ∧ answer (r.dirNamed s) = some v ∧
    ∀ s', IsSubdir tree r names s' → Locale.ofTag s' = l → s < s' → answer (r.dirNamed s') = none

variable {tree}

theorem metaEntries_eq_ok {dir : Files.Place} {ns : String} {sources : Option Entries}
    (h : metaEntries tree dir ns = .ok sources) :
    ∀ source, sources.bind (·.get? source) =
      if tree.isFile (metaPlace dir ns).names then stringAt tree (metaPlace dir ns) source
      else none := by
  unfold metaEntries at h
  split at h
  · rename_i hfile
    cases hread : readEntries tree (metaPlace dir ns) with
    | error e => rw [hread] at h; cases h
    | ok m =>
      rw [hread] at h
      cases h
      obtain ⟨-, hget⟩ := readEntries_eq_ok hread
      intro source
      simp [hget, hfile]
  · rename_i hfile
    cases h
    intro source
    simp [hfile]

theorem metaEntries_eq_error_iff {dir : Files.Place} {ns : String} {e : TranslationError} :
    metaEntries tree dir ns = .error e ↔
      tree.isFile (metaPlace dir ns).names = true ∧ readEntries tree (metaPlace dir ns) = .error e := by
  unfold metaEntries
  split
  · rename_i hfile
    cases readEntries tree (metaPlace dir ns) <;> simp [hfile, Except.map]
  · rename_i hfile
    simp [hfile]

theorem metaEntries_ok_iff {dir : Files.Place} {ns : String} :
    (∃ sources, metaEntries tree dir ns = .ok sources) ↔
      (tree.isFile (metaPlace dir ns).names = true →
        ∃ m, readEntries tree (metaPlace dir ns) = .ok m) := by
  unfold metaEntries
  split
  · rename_i hfile
    cases readEntries tree (metaPlace dir ns) <;> simp [hfile, Except.map]
  · rename_i hfile
    simp [hfile]

/-! Merging one namespace file: it stops at the messages file or the meta file beside it when
either does not read, and merges both otherwise. -/

section MergeStep

variable {l : Locale} {dir : Files.Place} {store : Store} {ns : String} {p : Files.Place}
  {rest : List (String × Files.Place)}

theorem mergeFiles_cons_of_error {e : TranslationError} (h : readEntries tree p = .error e) :
    mergeFiles tree l dir store ((ns, p) :: rest) = (store, some e) := by
  simp only [mergeFiles, h]

theorem mergeFiles_cons_of_meta_error {es : Entries} {e : TranslationError}
    (hp : readEntries tree p = .ok es) (hm : metaEntries tree dir ns = .error e) :
    mergeFiles tree l dir store ((ns, p) :: rest) = (store, some e) := by
  unfold metaEntries metaPlace at hm
  simp only [mergeFiles, hp, hm]

theorem mergeFiles_cons_of_ok {es : Entries} {sources : Option Entries}
    (hp : readEntries tree p = .ok es) (hm : metaEntries tree dir ns = .ok sources) :
    mergeFiles tree l dir store ((ns, p) :: rest) =
      mergeFiles tree l dir (store.mergeNamespace l ns es sources) rest := by
  unfold metaEntries metaPlace at hm
  simp only [mergeFiles, hp, hm]

end MergeStep

theorem mergeFiles_query {β : Type} (Q : Store → β) (g : String → β → β) {l : Locale}
    {dir : Files.Place}
    (hstep : ∀ store ns es sources, readEntries tree (messagesPlace dir ns) = .ok es →
      metaEntries tree dir ns = .ok sources →
      Q (store.mergeNamespace l ns es sources) = g ns (Q store)) :
    ∀ (files : List (String × Files.Place)) (store : Store),
      (∀ f ∈ files, f.2 = messagesPlace dir f.1) → (mergeFiles tree l dir store files).2 = none →
      Q (mergeFiles tree l dir store files).1 = files.foldl (fun b f => g f.1 b) (Q store)
  | [], _, _, _ => rfl
  | (ns, p) :: rest, store, hplaces, hok => by
    have hp : p = messagesPlace dir ns := hplaces (ns, p) List.mem_cons_self
    subst hp
    have hrest : ∀ f ∈ rest, f.2 = messagesPlace dir f.1 :=
      fun f hf => hplaces f (List.mem_cons_of_mem _ hf)
    cases hread : readEntries tree (messagesPlace dir ns) with
    | error e => rw [mergeFiles_cons_of_error hread] at hok; cases hok
    | ok es =>
      cases hmeta : metaEntries tree dir ns with
      | error e => rw [mergeFiles_cons_of_meta_error hread hmeta] at hok; cases hok
      | ok sources =>
        rw [mergeFiles_cons_of_ok hread hmeta] at hok ⊢
        rw [List.foldl_cons, ← hstep store ns es sources hread hmeta]
        exact mergeFiles_query Q g hstep rest _ hrest hok

theorem mergeFiles_eq_none_iff {l : Locale} {dir : Files.Place} :
    ∀ (files : List (String × Files.Place)) (store : Store),
      (∀ f ∈ files, f.2 = messagesPlace dir f.1) →
      ((mergeFiles tree l dir store files).2 = none ↔ ∀ f ∈ files,
        (∃ es, readEntries tree (messagesPlace dir f.1) = .ok es) ∧
          ∃ sources, metaEntries tree dir f.1 = .ok sources)
  | [], _, _ => by simp [mergeFiles]
  | (ns, p) :: rest, store, hplaces => by
    have hp : p = messagesPlace dir ns := hplaces (ns, p) List.mem_cons_self
    subst hp
    have hrest : ∀ f ∈ rest, f.2 = messagesPlace dir f.1 :=
      fun f hf => hplaces f (List.mem_cons_of_mem _ hf)
    rw [List.forall_mem_cons]
    cases hread : readEntries tree (messagesPlace dir ns) with
    | error e => simp [mergeFiles_cons_of_error hread]
    | ok es =>
      cases hmeta : metaEntries tree dir ns with
      | error e => simp [mergeFiles_cons_of_meta_error hread hmeta]
      | ok sources =>
        rw [mergeFiles_cons_of_ok hread hmeta, mergeFiles_eq_none_iff rest _ hrest]
        simp

theorem mergeFiles_eq_some {l : Locale} {dir : Files.Place} {e : TranslationError} :
    ∀ (files : List (String × Files.Place)) (store : Store),
      (∀ f ∈ files, f.2 = messagesPlace dir f.1) → (mergeFiles tree l dir store files).2 = some e →
      ∃ f ∈ files, readEntries tree (messagesPlace dir f.1) = .error e ∨
        metaEntries tree dir f.1 = .error e
  | [], _, _, h => by simp [mergeFiles] at h
  | (ns, p) :: rest, store, hplaces, h => by
    have hp : p = messagesPlace dir ns := hplaces (ns, p) List.mem_cons_self
    subst hp
    have hrest : ∀ f ∈ rest, f.2 = messagesPlace dir f.1 :=
      fun f hf => hplaces f (List.mem_cons_of_mem _ hf)
    cases hread : readEntries tree (messagesPlace dir ns) with
    | error e' =>
      rw [mergeFiles_cons_of_error hread, Option.some.injEq] at h
      subst h
      exact ⟨_, List.mem_cons_self, .inl hread⟩
    | ok es =>
      cases hmeta : metaEntries tree dir ns with
      | error e' =>
        rw [mergeFiles_cons_of_meta_error hread hmeta, Option.some.injEq] at h
        subst h
        exact ⟨_, List.mem_cons_self, .inr hmeta⟩
      | ok sources =>
        rw [mergeFiles_cons_of_ok hread hmeta] at h
        obtain ⟨f, hf, hfail⟩ := mergeFiles_eq_some rest _ hrest h
        exact ⟨f, List.mem_cons_of_mem _ hf, hfail⟩

theorem namespaceFiles_places {dir : Files.Place} {files : List (String × Files.Place)}
    (h : namespaceFiles tree dir = .ok files) : ∀ f ∈ files, f.2 = messagesPlace dir f.1 :=
  fun _ hf => ((mem_namespaceFiles h).1 hf).2

theorem namespaceFiles_eq_error {dir : Files.Place} {e : TranslationError}
    (h : namespaceFiles tree dir = .error e) :
    ∃ io, tree.listDir dir.names = .error io ∧ e = .resourceLoad dir.shown io := by
  unfold namespaceFiles at h
  split at h
  · rename_i io hio
    cases h
    exact ⟨io, hio, rfl⟩
  · cases h

theorem namespaceFiles_ok_iff {dir : Files.Place} :
    (∃ files, namespaceFiles tree dir = .ok files) ↔ ∃ names, tree.listDir dir.names = .ok names := by
  unfold namespaceFiles
  split
  · simp_all
  · simp_all

theorem loadDir_eq_ok {r : Resources} {store : Store} {l : Locale} {dir : Files.Place}
    (h : (loadDir tree r store l dir).error = none) :
    ∃ files, namespaceFiles tree dir = .ok files ∧ (mergeFiles tree l dir store files).2 = none ∧
      (loadDir tree r store l dir).store =
        if (mergeFiles tree l dir store files).1.hasLocale l then (mergeFiles tree l dir store files).1
        else (mergeFiles tree l dir store files).1.mergeNamespace l defaultNamespaceName
          Table.empty none := by
  unfold loadDir at h ⊢
  cases hfiles : namespaceFiles tree dir with
  | error e => simp [hfiles] at h
  | ok files =>
    refine ⟨files, rfl, ?_⟩
    simp only [hfiles] at h ⊢
    cases hmerge : mergeFiles tree l dir store files with
    | mk store' err =>
      cases err with
      | some e => simp [hmerge] at h
      | none => exact ⟨rfl, rfl⟩

theorem loadDir_error_eq_none_iff {r : Resources} {store : Store} {l : Locale}
    {dir : Files.Place} :
    (loadDir tree r store l dir).error = none ↔
      (∃ names, tree.listDir dir.names = .ok names) ∧ DirReads tree dir := by
  rw [← namespaceFiles_ok_iff]
  constructor
  · intro h
    obtain ⟨files, hfiles, hmerge, -⟩ := loadDir_eq_ok h
    have hreads := (mergeFiles_eq_none_iff files store (namespaceFiles_places hfiles)).1 hmerge
    refine ⟨⟨files, hfiles⟩, fun ns hns => ?_⟩
    have hmem : (ns, messagesPlace dir ns) ∈ files := (mem_namespaceFiles hfiles).2 ⟨hns, rfl⟩
    obtain ⟨⟨es, hes⟩, hmeta⟩ := hreads _ hmem
    refine ⟨(readEntries_eq_ok hes).1, fun hfile => ?_⟩
    obtain ⟨m, hm⟩ := metaEntries_ok_iff.1 hmeta hfile
    exact (readEntries_eq_ok hm).1
  · rintro ⟨⟨files, hfiles⟩, hreads⟩
    have hplaces := namespaceFiles_places hfiles
    have hmerge : (mergeFiles tree l dir store files).2 = none := by
      refine (mergeFiles_eq_none_iff files store hplaces).2 fun f hf => ?_
      have hns := ((mem_namespaceFiles hfiles).1 hf).1
      obtain ⟨hobj, hmeta⟩ := hreads f.1 hns
      exact ⟨readEntries_ok_of_objectFile hobj,
        metaEntries_ok_iff.2 fun hfile => readEntries_ok_of_objectFile (hmeta hfile)⟩
    unfold loadDir
    simp only [hfiles]
    cases hm : mergeFiles tree l dir store files with
    | mk store' err =>
      rw [hm] at hmerge
      cases hmerge
      rfl

theorem loadDir_error_eq_some {r : Resources} {store : Store} {l : Locale} {dir : Files.Place}
    {e : TranslationError} (h : (loadDir tree r store l dir).error = some e) :
    (∃ io, tree.listDir dir.names = .error io ∧ e = .resourceLoad dir.shown io) ∨
      DirFailure tree dir e := by
  unfold loadDir at h
  cases hfiles : namespaceFiles tree dir with
  | error e' =>
    simp only [hfiles, Option.some.injEq] at h
    subst h
    exact .inl (namespaceFiles_eq_error hfiles)
  | ok files =>
    simp only [hfiles] at h
    cases hm : mergeFiles tree l dir store files with
    | mk store' err =>
      cases err with
      | none => simp [hm] at h
      | some e' =>
        simp only [hm, Option.some.injEq] at h
        subst h
        have hplaces := namespaceFiles_places hfiles
        obtain ⟨f, hf, hfail⟩ := mergeFiles_eq_some files store hplaces (by rw [hm])
        have hns := ((mem_namespaceFiles hfiles).1 hf).1
        refine .inr ⟨f.1, hns, ?_⟩
        rcases hfail with hread | hmeta
        · exact .inl (readEntries_eq_error_iff.1 hread)
        · obtain ⟨hfile, hread⟩ := metaEntries_eq_error_iff.1 hmeta
          exact .inr ⟨hfile, readEntries_eq_error_iff.1 hread⟩

theorem foldl_or_if {α γ : Type} (P : γ → Prop) [DecidablePred P] (c : Option α) :
    ∀ (L : List γ) (o : Option α),
      L.foldl (fun b x => if P x then c.or b else b) o = if ∃ x ∈ L, P x then c.or o else o
  | [], o => by simp
  | x :: L, o => by
    rw [List.foldl_cons, foldl_or_if P c L]
    by_cases hx : P x
    · simp [hx, ← Option.or_assoc]
    · simp [hx]

/-- loading a directory moves an answer of the store that merging namespace `ns` of locale
`l'` moves by "answer `c` first, when `C`", and that nothing else moves: it answers `c` first
when the directory has a `<ns>.json` and `C` holds -/
theorem loadDir_answer (Q : Store → Option String) {l : Locale} (l' : Locale) (ns : String)
    (C : Prop) [Decidable C] (c : Option String) {dir : Files.Place}
    (hstep : ∀ s ns' es sources, readEntries tree (messagesPlace dir ns') = .ok es →
      metaEntries tree dir ns' = .ok sources →
      Q (s.mergeNamespace l ns' es sources) = if l' = l ∧ ns = ns' ∧ C then c.or (Q s) else Q s)
    (hdefault : ∀ s : Store, Q (s.mergeNamespace l defaultNamespaceName Table.empty none) = Q s)
    {r : Resources} {store : Store} (h : (loadDir tree r store l dir).error = none) :
    Q (loadDir tree r store l dir).store =
      if l' = l ∧ hasNamespaceFile tree dir ns = true ∧ C then c.or (Q store) else Q store := by
  obtain ⟨files, hfiles, hmerge, hstore⟩ := loadDir_eq_ok h
  have hfold := mergeFiles_query Q (fun ns' b => if l' = l ∧ ns = ns' ∧ C then c.or b else b)
    hstep files store (namespaceFiles_places hfiles) hmerge
  have hnamespace : (∃ f ∈ files, l' = l ∧ ns = f.1 ∧ C) ↔
      l' = l ∧ hasNamespaceFile tree dir ns = true ∧ C := by
    constructor
    · rintro ⟨⟨ns', p⟩, hf, hl, rfl, hc⟩
      exact ⟨hl, ((mem_namespaceFiles hfiles).1 hf).1, hc⟩
    · rintro ⟨hl, hns, hc⟩
      exact ⟨_, (mem_namespaceFiles hfiles).2 ⟨hns, rfl⟩, hl, rfl, hc⟩
  have hmerged : Q (loadDir tree r store l dir).store = Q (mergeFiles tree l dir store files).1 := by
    rw [hstore]
    split_ifs
    · rfl
    · exact hdefault _
  rw [hmerged, hfold, foldl_or_if (fun f : String × Files.Place => l' = l ∧ ns = f.1 ∧ C)]
  simp only [hnamespace]

theorem loadDir_message {r : Resources} {store : Store} {l : Locale} {dir : Files.Place}
    (h : (loadDir tree r store l dir).error = none) (l' : Locale) (ns key : String) :
    (loadDir tree r store l dir).store.message l' ns key =
      if l' = l then (templateIn tree dir ns key).or (store.message l' ns key)
      else store.message l' ns key := by
  have hload := loadDir_answer (fun s => s.message l' ns key) l' ns True
    (stringAt tree (messagesPlace dir ns) key)
    (fun s ns' es sources hes _ => by
      obtain ⟨-, hget⟩ := readEntries_eq_ok hes
      rw [Store.message_mergeNamespace s l ns' es]
      split_ifs with hc hc' hc'
      · rw [hget, hc.2]
      · exact absurd ⟨hc.1, hc.2, trivial⟩ hc'
      · exact absurd ⟨hc'.1, hc'.2.1⟩ hc
      · rfl)
    (fun s => by
      rw [Store.message_mergeNamespace s l _ Table.empty]
      split <;> simp)
    h
  rw [hload, templateIn]
  by_cases hl : l' = l
  · by_cases hns : hasNamespaceFile tree dir ns = true <;> simp [hl, hns]
  · simp [hl]

theorem loadDir_metaKey {r : Resources} {store : Store} {l : Locale} {dir : Files.Place}
    (h : (loadDir tree r store l dir).error = none) (l' : Locale) (ns source : String) :
    (loadDir tree r store l dir).store.metaKey l' ns source =
      if l' = l then (sourceKeyIn tree dir ns source).or (store.metaKey l' ns source)
      else store.metaKey l' ns source := by
  have hload := loadDir_answer (fun s => s.metaKey l' ns source) l' ns
    (tree.isFile (metaPlace dir ns).names = true) (stringAt tree (metaPlace dir ns) source)
    (fun s ns' es sources _ hmeta => by
      rw [Store.metaKey_mergeNamespace s l ns' es, metaEntries_eq_ok hmeta]
      by_cases hc : l' = l ∧ ns = ns'
      · obtain ⟨hl, rfl⟩ := hc
        by_cases hfile : tree.isFile (metaPlace dir ns).names = true <;> simp [hl, hfile]
      · have hc' : ¬ (l' = l ∧ ns = ns' ∧ tree.isFile (metaPlace dir ns).names = true) :=
          fun h' => hc ⟨h'.1, h'.2.1⟩
        rw [if_neg hc, if_neg hc'])
    (fun s => by simp [Store.mergeNamespace, Store.metaKey])
    h
  rw [hload, sourceKeyIn]
  by_cases hl : l' = l
  · by_cases hns : hasNamespaceFile tree dir ns = true <;>
      by_cases hfile : tree.isFile (metaPlace dir ns).names = true <;> simp [hl, hns, hfile]
  · simp [hl]

theorem loadDir_hasLocale {r : Resources} {store : Store} {l : Locale} {dir : Files.Place}
    (h : (loadDir tree r store l dir).error = none) (l' : Locale) :
    (loadDir tree r store l dir).store.hasLocale l' = true ↔ l' = l ∨ store.hasLocale l' = true := by
  obtain ⟨files, hfiles, hmerge, hstore⟩ := loadDir_eq_ok h
  have hfold := mergeFiles_query (fun s => decide (l' = l) || s.hasLocale l') (fun _ b => b)
    (fun s ns' es sources _ _ => by
      have hmerged := Store.hasLocale_mergeNamespace s l ns' es sources l'
      rw [Bool.eq_iff_iff]
      simp only [Bool.or_eq_true, decide_eq_true_eq]
      rw [hmerged, ← or_assoc, or_self])
    files store (namespaceFiles_places hfiles) hmerge
  rw [List.foldl_fixed, Bool.eq_iff_iff] at hfold
  simp only [Bool.or_eq_true, decide_eq_true_eq] at hfold
  rw [← hfold, hstore]
  split_ifs with hknown
  · constructor
    · exact Or.inr
    · rintro (rfl | hl')
      · exact hknown
      · exact hl'
  · exact Store.hasLocale_mergeNamespace _ _ _ _ _ _

/-- a run of directory loads that goes through: an answer each load moves by `g` is moved by
all of them in turn -/
theorem loadDirs_query {β : Type} (Q : Store → β) (g : Locale → Files.Place → β → β)
    (hstep : ∀ r store l dir, (loadDir tree r store l dir).error = none →
      Q (loadDir tree r store l dir).store = g l dir (Q store)) :
    ∀ (found : List (Locale × Files.Place)) (r : Resources) (store : Store),
      (loadDirs tree r store found).error = none →
      Q (loadDirs tree r store found).store = found.foldl (fun b x => g x.1 x.2 b) (Q store)
  | [], _, _, _ => rfl
  | (l, dir) :: rest, r, store, h => by
    have hone := hstep r store l dir
    cases hload : loadDir tree r store l dir with
    | mk store' r' err =>
      cases err with
      | some e => simp [loadDirs, hload] at h
      | none =>
        rw [hload] at hone
        simp only [loadDirs, hload] at h ⊢
        rw [loadDirs_query Q g hstep rest r' store' h, List.foldl_cons, hone rfl]

theorem loadDirs_error_eq_none_iff :
    ∀ (found : List (Locale × Files.Place)) (r : Resources) (store : Store),
      (loadDirs tree r store found).error = none ↔
        ∀ x ∈ found, (∃ names, tree.listDir x.2.names = .ok names) ∧ DirReads tree x.2
  | [], _, _ => by simp [loadDirs]
  | (l, dir) :: rest, r, store => by
    have hone : (loadDir tree r store l dir).error = none ↔ _ := loadDir_error_eq_none_iff
    rw [List.forall_mem_cons]
    cases hload : loadDir tree r store l dir with
    | mk store' r' err =>
      rw [hload] at hone
      cases err with
      | some e => simp_all [loadDirs]
      | none =>
        simp only [loadDirs, hload]
        rw [loadDirs_error_eq_none_iff rest r' store']
        simp only at hone
        simp [← hone]

theorem loadDirs_error_eq_some {e : TranslationError} :
    ∀ (found : List (Locale × Files.Place)) (r : Resources) (store : Store),
      (loadDirs tree r store found).error = some e → ∃ x ∈ found,
        (∃ io, tree.listDir x.2.names = .error io ∧ e = .resourceLoad x.2.shown io) ∨
          DirFailure tree x.2 e
  | [], _, _, h => by simp [loadDirs] at h
  | (l, dir) :: rest, r, store, h => by
    cases hload : loadDir tree r store l dir with
    | mk store' r' err =>
      cases err with
      | some e' =>
        simp only [loadDirs, hload] at h
        exact ⟨(l, dir), List.mem_cons_self, loadDir_error_eq_some (by rw [hload]; exact h)⟩
      | none =>
        simp only [loadDirs, hload] at h
        obtain ⟨x, hx, hfail⟩ := loadDirs_error_eq_some rest r' store' h
        exact ⟨x, List.mem_cons_of_mem _ hx, hfail⟩

/-- on a list sorted by a key, where items of one key answer alike, a fold of "answer first"
answers what an item answers that no item of a larger key overrides -/
theorem foldl_or_eq_some_iff_last {γ : Type} (key : γ → String) (f : γ → Option String)
    (v : String) : ∀ {L : List γ}, L.Pairwise (fun a b => key a ≤ key b) →
      (∀ a ∈ L, ∀ b ∈ L, key a = key b → f a = f b) → ∀ o : Option String,
      (L.foldl (fun p a => (f a).or p) o = some v ↔
        (∃ a ∈ L, f a = some v ∧ ∀ b ∈ L, key a < key b → f b = none) ∨
          ((∀ a ∈ L, f a = none) ∧ o = some v))
  | [], _, _, o => by simp
  | a :: L, hsorted, hkey, o => by
    rw [List.pairwise_cons] at hsorted
    obtain ⟨ha, hL⟩ := hsorted
    have hkeyL : ∀ b ∈ L, ∀ c ∈ L, key b = key c → f b = f c :=
      fun b hb c hc => hkey b (List.mem_cons_of_mem _ hb) c (List.mem_cons_of_mem _ hc)
    rw [List.foldl_cons, foldl_or_eq_some_iff_last key f v hL hkeyL]
    constructor
    · rintro (⟨b, hb, hfb, hmax⟩ | ⟨hnone, hfo⟩)
      · refine .inl ⟨b, List.mem_cons_of_mem _ hb, hfb, fun c hc hlt => ?_⟩
        rcases List.mem_cons.1 hc with rfl | hc
        · exact absurd (ha b hb) (not_le.2 hlt)
        · exact hmax c hc hlt
      · cases hfa : f a with
        | none =>
          rw [hfa, Option.none_or] at hfo
          exact .inr ⟨List.forall_mem_cons.2 ⟨hfa, hnone⟩, hfo⟩
        | some w =>
          rw [hfa, Option.some_or] at hfo
          refine .inl ⟨a, List.mem_cons_self, hfa.trans hfo, fun c hc hlt => ?_⟩
          rcases List.mem_cons.1 hc with rfl | hc
          · exact absurd hlt (lt_irrefl _)
          · exact hnone c hc
    · rintro (⟨b, hb, hfb, hmax⟩ | ⟨hnone, hfo⟩)
      · rcases List.mem_cons.1 hb with rfl | hb
        · by_cases hL : ∀ c ∈ L, f c = none
          · exact .inr ⟨hL, by rw [hfb]; rfl⟩
          · push Not at hL
            obtain ⟨c, hc, hfc⟩ := hL
            have hkeq : key b = key c := le_antisymm (ha c hc)
              (not_lt.1 fun hlt => hfc (hmax c (List.mem_cons_of_mem _ hc) hlt))
            refine .inl ⟨c, hc, ?_, fun d hd hlt => hmax d (List.mem_cons_of_mem _ hd) ?_⟩
            · rw [← hkey b List.mem_cons_self c (List.mem_cons_of_mem _ hc) hkeq, hfb]
            · rw [hkeq]
              exact hlt
        · exact .inl ⟨b, hb, hfb, fun c hc hlt => hmax c (List.mem_cons_of_mem _ hc) hlt⟩
      · rw [List.forall_mem_cons] at hnone
        exact .inr ⟨hnone.2, by rw [hnone.1, Option.none_or]; exact hfo⟩

theorem foldl_found_eq_some_iff {r : Resources} {names : List Files.Name}
    {sorted : List (Locale × String × Files.Place)}
    (hmem : ∀ x, x ∈ sorted ↔
      IsSubdir tree r names x.2.1 ∧ x.1 = Locale.ofTag x.2.1 ∧ x.2.2 = r.dirNamed x.2.1)
    (hsorted : sorted.Pairwise fun a b => toLex (a.1.tag, a.2.1) ≤ toLex (b.1.tag, b.2.1))
    (l : Locale) (answer : Files.Place → Option String) (v : String) :
    (sorted.map fun x => (x.1, x.2.2)).foldl
        (fun b x => if l = x.1 then (answer x.2).or b else b) none = some v ↔
      LastAnswer tree r names l answer v := by
  have hfold : (sorted.map fun x => (x.1, x.2.2)).foldl
      (fun b x => if l = x.1 then (answer x.2).or b else b) none =
      (sorted.filter fun x => decide (l = x.1)).foldl (fun b x => (answer x.2.2).or b) none := by
    rw [List.foldl_map, List.foldl_filter]
    simp only [decide_eq_true_eq]
  have hmemL : ∀ x, x ∈ sorted.filter (fun x => decide (l = x.1)) ↔
      IsSubdir tree r names x.2.1 ∧ l = Locale.ofTag x.2.1 ∧ x = (Locale.ofTag x.2.1, x.2.1, r.dirNamed x.2.1) := by
    rintro ⟨l', s, p⟩
    rw [List.mem_filter, hmem, decide_eq_true_iff]
    simp only [Prod.mk.injEq, true_and]
    constructor
    · rintro ⟨⟨hs, rfl, rfl⟩, rfl⟩
      exact ⟨hs, rfl, rfl, rfl⟩
    · rintro ⟨hs, rfl, rfl, rfl⟩
      exact ⟨⟨hs, rfl, rfl⟩, rfl⟩
  have hnames : (sorted.filter fun x => decide (l = x.1)).Pairwise fun a b => a.2.1 ≤ b.2.1 := by
    refine (hsorted.filter _).imp_of_mem fun {a b} ha hb hab => ?_
    have htag : a.1.tag = b.1.tag := by
      rw [((hmemL a).1 ha).2.2, ((hmemL b).1 hb).2.2]
      simp only
      rw [← ((hmemL a).1 ha).2.1, ← ((hmemL b).1 hb).2.1]
    rw [Prod.Lex.toLex_le_toLex] at hab
    rcases hab with hlt | ⟨-, hle⟩
    · exact absurd htag (ne_of_lt hlt)
    · exact hle
  have hsame : ∀ a ∈ sorted.filter (fun x => decide (l = x.1)), ∀ b ∈ sorted.filter (fun x => decide (l = x.1)),
      a.2.1 = b.2.1 → answer a.2.2 = answer b.2.2 := by
    intro a ha b hb hab
    rw [((hmemL a).1 ha).2.2, ((hmemL b).1 hb).2.2, hab]
  rw [hfold]
  refine (foldl_or_eq_some_iff_last (fun x : Locale × String × Files.Place => x.2.1)
    (fun x => answer x.2.2) v hnames hsame none).trans ?_
  simp only [reduceCtorEq, and_false, or_false]
  constructor
  · rintro ⟨a, ha, hav, hmax⟩
    obtain ⟨hs, hl, ha'⟩ := (hmemL a).1 ha
    refine ⟨a.2.1, hs, hl.symm, by rw [← hav, ha'], fun s' hs' hl' hlt => ?_⟩
    have hmem' := (hmemL (Locale.ofTag s', s', r.dirNamed s')).2 ⟨hs', hl'.symm, rfl⟩
    exact hmax _ hmem' hlt
  · rintro ⟨s, hs, hl, hsv, hmax⟩
    refine ⟨(Locale.ofTag s, s, r.dirNamed s), (hmemL _).2 ⟨hs, hl.symm, rfl⟩, hsv, fun b hb hlt => ?_⟩
    obtain ⟨hb', hl', hbeq⟩ := (hmemL b).1 hb
    rw [hbeq]
    exact hmax b.2.1 hb' hl'.symm hlt

theorem foldl_decide_or {γ : Type} (P : γ → Prop) [DecidablePred P] :
    ∀ (L : List γ) (b : Bool),
      L.foldl (fun b x => decide (P x) || b) b = true ↔ (∃ x ∈ L, P x) ∨ b = true
  | [], b => by simp
  | x :: L, b => by
    rw [List.foldl_cons, foldl_decide_or P L]
    simp only [List.mem_cons, exists_eq_or_imp, Bool.or_eq_true, decide_eq_true_eq]
    rw [← or_assoc, @or_comm (∃ x ∈ L, P x)]

theorem loadAll_cases (r : Resources) :
    (∃ io, tree.listDir r.base.names = .error io ∧
      loadAll tree r = ⟨Store.empty, r, some (.resourceLoad r.base.shown io)⟩) ∨
    ∃ (names : List Files.Name) (sorted : List (Locale × String × Files.Place)),
      tree.listDir r.base.names = .ok names ∧
      (∀ x, x ∈ sorted ↔
        IsSubdir tree r names x.2.1 ∧ x.1 = Locale.ofTag x.2.1 ∧ x.2.2 = r.dirNamed x.2.1) ∧
      (sorted.Pairwise fun a b => toLex (a.1.tag, a.2.1) ≤ toLex (b.1.tag, b.2.1)) ∧
      loadAll tree r = loadDirs tree r Store.empty (sorted.map fun x => (x.1, x.2.2)) := by
  cases hbase : tree.listDir r.base.names with
  | error io =>
    refine .inl ⟨io, rfl, ?_⟩
    rw [loadAll, discover, hbase]
  | ok names =>
    obtain ⟨sorted, hdisc, hmem, hsorted⟩ := discover_eq_ok hbase
    exact .inr ⟨names, sorted, rfl, hmem, hsorted, by rw [loadAll, hdisc]⟩

section Found

/-! The directories `discover` finds, each the subdirectory of its name with the locale that
name gives. -/

variable {r : Resources} {names : List Files.Name} {found : List (Locale × Files.Place)}

theorem mem_found_iff {sorted : List (Locale × String × Files.Place)}
    (hmem : ∀ x, x ∈ sorted ↔
      IsSubdir tree r names x.2.1 ∧ x.1 = Locale.ofTag x.2.1 ∧ x.2.2 = r.dirNamed x.2.1)
    (x : Locale × Files.Place) :
    x ∈ sorted.map (fun x => (x.1, x.2.2)) ↔
      ∃ s, IsSubdir tree r names s ∧ x = (Locale.ofTag s, r.dirNamed s) := by
  constructor
  · intro hx
    obtain ⟨y, hy, rfl⟩ := List.mem_map.1 hx
    obtain ⟨hs, hl, hp⟩ := (hmem y).1 hy
    exact ⟨y.2.1, hs, by rw [hl, hp]⟩
  · rintro ⟨s, hs, rfl⟩
    exact List.mem_map.2 ⟨(Locale.ofTag s, s, r.dirNamed s), (hmem _).2 ⟨hs, rfl, rfl⟩, rfl⟩

variable (hfound : ∀ x, x ∈ found ↔
  ∃ s, IsSubdir tree r names s ∧ x = (Locale.ofTag s, r.dirNamed s))
include hfound

theorem found_error_eq_none_iff (store : Store) :
    (loadDirs tree r store found).error = none ↔
      ∀ s, IsSubdir tree r names s → DirReads tree (r.dirNamed s) := by
  rw [loadDirs_error_eq_none_iff]
  constructor
  · intro hall s hs
    exact (hall _ ((hfound _).2 ⟨s, hs, rfl⟩)).2
  · intro hreads x hx
    obtain ⟨s, hs, rfl⟩ := (hfound x).1 hx
    exact ⟨Files.Tree.listDir_ok_of_isDir hs.2, hreads s hs⟩

theorem found_error_eq_some {store : Store} {e : TranslationError}
    (h : (loadDirs tree r store found).error = some e) :
    ∃ s, IsSubdir tree r names s ∧ DirFailure tree (r.dirNamed s) e := by
  obtain ⟨x, hx, hfail⟩ := loadDirs_error_eq_some _ _ _ h
  obtain ⟨s, hs, rfl⟩ := (hfound x).1 hx
  rcases hfail with ⟨io, hio, -⟩ | hfail
  · obtain ⟨entries, hentries⟩ := Files.Tree.listDir_ok_of_isDir hs.2
    rw [hentries] at hio
    cases hio
  · exact ⟨s, hs, hfail⟩

theorem found_hasLocale (h : (loadDirs tree r Store.empty found).error = none) (l : Locale) :
    (loadDirs tree r Store.empty found).store.hasLocale l = true ↔
      ∃ s, IsSubdir tree r names s ∧ Locale.ofTag s = l := by
  have hfold := loadDirs_query (fun st => st.hasLocale l) (fun l' _ b => decide (l = l') || b)
    (fun _ st l' _ h => by
      rw [Bool.eq_iff_iff, loadDir_hasLocale h l]
      simp [Bool.or_eq_true])
    _ r Store.empty h
  rw [hfold, foldl_decide_or (fun x : Locale × Files.Place => l = x.1)]
  simp only [show Store.empty.hasLocale l = false from rfl, Bool.false_eq_true, or_false]
  constructor
  · rintro ⟨x, hx, rfl⟩
    obtain ⟨s, hs, rfl⟩ := (hfound x).1 hx
    exact ⟨s, hs, rfl⟩
  · rintro ⟨s, hs, rfl⟩
    exact ⟨_, (hfound _).2 ⟨s, hs, rfl⟩, rfl⟩

end Found

theorem loadDirs_answer_eq_some_iff {r : Resources} {names : List Files.Name}
    {sorted : List (Locale × String × Files.Place)}
    (hmem : ∀ x, x ∈ sorted ↔
      IsSubdir tree r names x.2.1 ∧ x.1 = Locale.ofTag x.2.1 ∧ x.2.2 = r.dirNamed x.2.1)
    (hsorted : sorted.Pairwise fun a b => toLex (a.1.tag, a.2.1) ≤ toLex (b.1.tag, b.2.1))
    (Q : Store → Option String) (l : Locale) (answer : Files.Place → Option String)
    (hstep : ∀ r store l' dir, (loadDir tree r store l' dir).error = none →
      Q (loadDir tree r store l' dir).store = if l = l' then (answer dir).or (Q store) else Q store)
    (hempty : Q Store.empty = none)
    (h : (loadDirs tree r Store.empty (sorted.map fun x => (x.1, x.2.2))).error = none) (v : String) :
    Q (loadDirs tree r Store.empty (sorted.map fun x => (x.1, x.2.2))).store = some v ↔
      LastAnswer tree r names l answer v := by
  rw [loadDirs_query Q (fun l' dir b => if l = l' then (answer dir).or b else b) hstep _ r
    Store.empty h, hempty]
  exact foldl_found_eq_some_iff hmem hsorted l answer v

/-- Loading every locale directory is a fold over them in ascending order of locale and then
of name, the last directory that answers winning.

It goes through exactly when the base can be listed and every file it reads in its
subdirectories holds a JSON object; when it stops, it stops at the base's listing or at a
file of one of them that cannot be read, is not JSON or is not an object, with the error that
says which. When it goes through, the store knows exactly the locales its subdirectories name,
answers a key with the last such directory's `<ns>.json` that has a string there, and a source
text with the last such directory's `<ns>.meta.json`, read beside a `<ns>.json`, that has one. -/
theorem loadAll_last_writer_wins (tree : Files.Tree) (r : Resources) :
    ((loadAll tree r).error = none ↔ ∃ names, tree.listDir r.base.names = .ok names ∧
        ∀ s, IsSubdir tree r names s → DirReads tree (r.dirNamed s)) ∧
    (∀ e, (loadAll tree r).error = some e →
        (∃ io, tree.listDir r.base.names = .error io ∧ e = .resourceLoad r.base.shown io) ∨
        ∃ names s, tree.listDir r.base.names = .ok names ∧ IsSubdir tree r names s ∧
          DirFailure tree (r.dirNamed s) e) ∧
    ((loadAll tree r).error = none → ∃ names, tree.listDir r.base.names = .ok names ∧
      (∀ l, (loadAll tree r).store.hasLocale l = true ↔
        ∃ s, IsSubdir tree r names s ∧ Locale.ofTag s = l) ∧
      (∀ l ns key v, (loadAll tree r).store.message l ns key = some v ↔
        LastAnswer tree r names l (fun dir => templateIn tree dir ns key) v) ∧
      (∀ l ns source v, (loadAll tree r).store.metaKey l ns source = some v ↔
        LastAnswer tree r names l (fun dir => sourceKeyIn tree dir ns source) v)) := by
  rcases loadAll_cases r with ⟨io, hbase, hload⟩ | ⟨names, sorted, hbase, hmem, hsorted, hload⟩
  · rw [hload]
    refine ⟨by simp [hbase], fun e he => .inl ⟨io, hbase, ?_⟩, fun h => absurd h (by simp)⟩
    simp only [Option.some.injEq] at he
    exact he.symm
  · rw [hload]
    have hfound := mem_found_iff hmem
    refine ⟨?_, fun e he => ?_, fun hok => ⟨names, hbase, found_hasLocale hfound hok,
      fun l ns key v => ?_, fun l ns source v => ?_⟩⟩
    · rw [found_error_eq_none_iff hfound]
      constructor
      · intro hreads
        exact ⟨names, hbase, hreads⟩
      · rintro ⟨names', hbase', hreads⟩
        rw [hbase] at hbase'
        cases hbase'
        exact hreads
    · obtain ⟨s, hs, hfail⟩ := found_error_eq_some hfound he
      exact .inr ⟨names, s, hbase, hs, hfail⟩
    · exact loadDirs_answer_eq_some_iff hmem hsorted (fun st => st.message l ns key) l
        (fun dir => templateIn tree dir ns key) (fun _ _ _ _ h => loadDir_message h l ns key) rfl
        hok v
    · exact loadDirs_answer_eq_some_iff hmem hsorted (fun st => st.metaKey l ns source) l
        (fun dir => sourceKeyIn tree dir ns source) (fun _ _ _ _ h => loadDir_metaKey h l ns source)
        rfl hok v

end Resources

end Phrasebook
