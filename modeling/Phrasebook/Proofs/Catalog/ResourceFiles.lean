import Phrasebook.Catalog.Resources
import Phrasebook.Proofs.Catalog.Merge

/-!
# What the loader reads from disk

The loader reads names from directory listings and string entries from JSON files. This module
says what each read gives, in terms of the tree alone:

* `Files.text?_eq_some_iff`   a listed name reads as a text exactly when it is that text's bytes;
* `Resources.mem_namespaceFiles`  the namespace files of a directory are its regular files
                              `<ns>.json` whose names do not end in `.meta.json`;
* `Resources.readEntries_eq_ok`  the entries of a file are the string fields of its JSON object,
                              the last field of a name winning (`Resources.stringAt`);
* `Resources.readEntries_eq_error_iff`  a file that gives none cannot be read, is not JSON or is
                              not an object, and the error names the file and says which;
* `Resources.discover_eq_ok`  the locale directories are the subdirectories of the base with
                              UTF-8 names, in ascending order of locale and then of name.
-/

namespace Phrasebook

namespace Files

theorem byteArray_toList_loop (bs : ByteArray) (i : Nat) (acc : List UInt8) :
    ByteArray.toList.loop bs i acc = acc.reverse ++ bs.data.toList.drop i := by
  fun_induction ByteArray.toList.loop bs i acc with
  | case1 i acc h ih =>
    have hi : i < bs.data.toList.length := by simpa using h
    have hget : bs.get! i = bs.data[i]! := by cases bs; rfl
    rw [ih, List.drop_eq_getElem_cons hi, hget, getElem!_pos bs.data i h]
    simp
  | case2 i acc h =>
    rw [List.drop_eq_nil_of_le (by simpa using Nat.le_of_not_lt h)]
    simp

theorem byteArray_toList (bs : ByteArray) : bs.toList = bs.data.toList := by
  rw [ByteArray.toList, byteArray_toList_loop]
  simp

@[simp] theorem text?_nameOf (s : String) : Name.text? (nameOf s) = some s := by
  rw [Name.text?, nameOf, byteArray_toList, Array.toArray_toList]
  simp only [String.fromUTF8?, String.toUTF8_eq_toByteArray, String.fromUTF8]
  rw [dif_pos s.isValidUTF8]

theorem nameOf_of_text? {n : Name} {s : String} (h : Name.text? n = some s) : nameOf s = n := by
  simp only [Name.text?, String.fromUTF8?, Option.dite_none_right_eq_some, Option.some.injEq] at h
  obtain ⟨_, rfl⟩ := h
  simp [nameOf, String.fromUTF8, byteArray_toList]

theorem text?_eq_some_iff {n : Name} {s : String} : Name.text? n = some s ↔ n = nameOf s :=
  ⟨fun h => (nameOf_of_text? h).symm, fun h => h ▸ text?_nameOf s⟩

namespace Tree

theorem listDir_ok_of_isDir {t : Tree} {names : List Name} (h : t.isDir names = true) :
    ∃ entries, t.listDir names = .ok entries := by
  unfold isDir at h
  split at h
  · rename_i path heq
    exact ⟨_, by simp only [listDir, heq]; rfl⟩
  · cases h

end Tree

end Files

theorem foldl_some_snd {α : Type} (L : List (String × α)) (o : Option α) :
    L.foldl (fun _ e => some e.2) o = (L.getLast?.map (·.2)).or o := by
  induction L generalizing o with
  | nil => rfl
  | cons e L ih =>
    rw [List.foldl_cons, ih, List.getLast?_cons]
    cases L.getLast? <;> rfl

theorem Table.get?_ofList {α : Type} (l : List (String × α)) (k : String) :
    (Table.ofList l).get? k = ((l.filter (·.1 = k)).getLast?).map (·.2) := by
  rw [Table.ofList, show (fun (t : Table α) (e : String × α) => t.insert e.1 e.2) =
    fun t e => t.alter e.1 (fun _ => e.2) from rfl, Table.get?_foldl_alter, Table.get?_empty,
    foldl_some_snd, Option.or_none]

namespace Json.Value

theorem filter_foldl_lastWins (key : String) :
    ∀ (fields acc : List (String × Value)),
      (fields.foldl (fun acc kv => (acc.filter (·.1 != kv.1)) ++ [kv]) acc).filter (·.1 = key) =
        ((fields.reverse.find? (·.1 == key)).map ([·])).getD (acc.filter (·.1 = key))
  | [], acc => rfl
  | kv :: fields, acc => by
    rw [List.foldl_cons, filter_foldl_lastWins key fields, List.reverse_cons, List.find?_append]
    cases fields.reverse.find? (·.1 == key) with
    | some e => rfl
    | none =>
      simp only [Option.none_or, Option.map_none, Option.getD_none, List.filter_append,
        List.filter_filter, List.find?_singleton]
      by_cases hk : kv.1 = key
      · subst hk
        simp
      · have hsame : ∀ e : String × Value, ((decide (e.1 = key)) && (e.1 != kv.1)) = decide (e.1 = key) := by
          intro e
          by_cases he : e.1 = key
          · subst he; simp [Ne.symm hk]
          · simp [he]
        simp [hsame, hk]

theorem filter_sortedFields (fields : List (String × Value)) (key : String) :
    (sortedFields fields).filter (·.1 = key) = ((fields.reverse.find? (·.1 == key))).toList := by
  apply Store.eq_of_perm_toList
  refine ((List.mergeSort_perm _ _).filter _).trans ?_
  rw [filter_foldl_lastWins]
  cases fields.reverse.find? (·.1 == key) <;> rfl

end Json.Value

theorem filterMap_filter_key {α β : Type} (f : String × α → Option (String × β))
    (hf : ∀ x y, f x = some y → y.1 = x.1) (key : String) (L : List (String × α)) :
    L.filterMap (fun x => (f x).filter (·.1 = key)) = (L.filter (·.1 = key)).filterMap f := by
  rw [List.filterMap_filter]
  congr 1
  funext x
  cases h : f x with
  | none => simp
  | some y => simp [Option.filter, hf x y h]

theorem get?_stringEntries {v : Json.Value} {context : String} {es : Entries}
    (h : Store.stringEntries v context = .ok es) (key : String) :
    es.get? key = (v.field? key).bind Json.Value.str? := by
  unfold Store.stringEntries at h
  split at h
  · rename_i fields
    cases h
    rw [Table.get?_ofList, List.filter_filterMap, filterMap_filter_key _ (by
      rintro ⟨k, v⟩ y h
      cases v <;> simp at h
      rw [← h]), Json.Value.filter_sortedFields, Json.Value.field?]
    cases fields.reverse.find? (·.1 == key) with
    | none => rfl
    | some e =>
      obtain ⟨k, v⟩ := e
      cases v <;> rfl
  · cases h


namespace Resources

variable (tree : Files.Tree)

def messagesPlace (dir : Files.Place) (ns : String) : Files.Place :=
  dir.join (Files.nameOf (ns ++ ".json"))

def metaPlace (dir : Files.Place) (ns : String) : Files.Place :=
  dir.join (Files.nameOf (ns ++ ".meta.json"))

def hasNamespaceFile (dir : Files.Place) (ns : String) : Bool :=
  match tree.listDir dir.names with
  | .ok names => names.contains (Files.nameOf (ns ++ ".json")) &&
      !(ns ++ ".json").endsWith ".meta.json" && tree.isFile (messagesPlace dir ns).names
  | .error _ => false

/-- the string a file holds at a field of its JSON object -/
def stringAt (p : Files.Place) (key : String) : Option String :=
  ((tree.readText p.names).toOption.bind fun text => (Json.Value.read text).toOption).bind
    fun v => (v.field? key).bind Json.Value.str?

def ObjectFile (p : Files.Place) : Prop :=
  ∃ text fields, tree.readText p.names = .ok text ∧ Json.Value.read text = .ok (.object fields)

/-- why a file gives no entries, and the error that says so: it cannot be read, it is not
JSON, or it is not an object -/
inductive ReadFailure (p : Files.Place) : TranslationError → Prop
  | unreadable {io : IoError} : tree.readText p.names = .error io →
      ReadFailure p (.resourceLoad p.shown io)
  | notJson {text : String} {fault : Json.Fault} : tree.readText p.names = .ok text →
      Json.Value.read text = .error fault → ReadFailure p (.resourceParse p.shown fault)
  | notObject {text : String} {v : Json.Value} : tree.readText p.names = .ok text →
      Json.Value.read text = .ok v → v.obj? = none →
      ReadFailure p (.config (p.shown ++ " must be an object of strings"))

def dirNamed (r : Resources) (s : String) : Files.Place := r.base.join (Files.nameOf s)

def IsSubdir (r : Resources) (names : List Files.Name) (s : String) : Prop :=
  Files.nameOf s ∈ names ∧ tree.isDir (r.dirNamed s).names = true

variable {tree}

theorem readEntries_eq_ok {p : Files.Place} {es : Entries} (h : readEntries tree p = .ok es) :
    ObjectFile tree p ∧ ∀ key, es.get? key = stringAt tree p key := by
  unfold readEntries at h
  split at h
  · cases h
  · rename_i text htext
    split at h
    · cases h
    · rename_i v hv
      refine ⟨?_, fun key => ?_⟩
      · unfold Store.stringEntries at h
        split at h
        · exact ⟨text, _, htext, hv⟩
        · cases h
      · rw [get?_stringEntries h, stringAt, htext]
        simp only [Except.toOption, Option.bind_some, hv]

theorem readEntries_ok_of_objectFile {p : Files.Place} (h : ObjectFile tree p) :
    ∃ es, readEntries tree p = .ok es := by
  obtain ⟨text, fields, htext, hv⟩ := h
  exact ⟨_, by rw [readEntries, htext]; simp only [hv]; rfl⟩

/-- a file fails to give entries exactly as `ReadFailure` says -/
theorem readEntries_eq_error_iff {p : Files.Place} {e : TranslationError} :
    readEntries tree p = .error e ↔ ReadFailure tree p e := by
  constructor
  · intro h
    unfold readEntries at h
    split at h
    · rename_i io hio
      cases h
      exact .unreadable hio
    · rename_i text htext
      split at h
      · rename_i fault hf
        cases h
        exact .notJson htext hf
      · rename_i v hv
        unfold Store.stringEntries at h
        split at h
        · cases h
        · cases h
          exact .notObject htext hv (by cases v <;> simp_all [Json.Value.obj?])
  · intro h
    cases h with
    | unreadable hio => rw [readEntries, hio]
    | notJson htext hf => rw [readEntries, htext]; simp only [hf]
    | @notObject text v htext hv hobj =>
      rw [readEntries, htext]
      simp only [hv, Store.stringEntries]
      cases v with
      | object fields => simp [Json.Value.obj?] at hobj
      | _ => rfl

theorem endsWith_json (ns : String) : (ns ++ ".json").endsWith ".json" = true := by
  rw [String.endsWith_eq_endsWith_toSlice, String.Slice.endsWith_string_iff]
  simp

theorem strip_json_append (ns : String) :
    String.ofList ((ns ++ ".json").toList.take ((ns ++ ".json").length - 5)) = ns := by
  rw [← String.length_toList, String.toList_append]
  simp

theorem strip_json_of_endsWith {s : String} (h : s.endsWith ".json" = true) :
    String.ofList (s.toList.take (s.length - 5)) ++ ".json" = s := by
  rw [String.endsWith_eq_endsWith_toSlice, String.Slice.endsWith_string_iff] at h
  obtain ⟨t, ht⟩ := h
  simp only [String.copy_toSlice] at ht
  have hlen : s.length - 5 = t.length := by
    rw [← String.length_toList, ← ht]
    simp
  rw [hlen, ← ht, List.take_left, ← String.toList_inj, String.toList_append, String.toList_ofList, ht]

/-- the namespace files of a directory are exactly its `<ns>.json` files -/
theorem mem_namespaceFiles {dir : Files.Place} {files : List (String × Files.Place)}
    (h : namespaceFiles tree dir = .ok files) {ns : String} {p : Files.Place} :
    (ns, p) ∈ files ↔ hasNamespaceFile tree dir ns = true ∧ p = messagesPlace dir ns := by
  unfold namespaceFiles at h
  split at h
  · cases h
  · rename_i names hnames
    cases h
    rw [List.mem_mergeSort, List.mem_filterMap, hasNamespaceFile, hnames]
    constructor
    · rintro ⟨n, hn, hsome⟩
      cases htext : Files.Name.text? n with
      | none => simp [htext] at hsome
      | some s =>
        simp only [htext] at hsome
        split at hsome
        · cases hsome
        · rename_i hkeep
          split at hsome
          · rename_i hjson
            cases hsome
            have hs := strip_json_of_endsWith hjson
            obtain rfl := Files.text?_eq_some_iff.1 htext
            simp only [Bool.or_eq_true, Bool.not_eq_true', not_or, Bool.not_eq_false] at hkeep
            rw [messagesPlace, hs]
            simp [hn, hkeep.1, hkeep.2]
          · cases hsome
    · rintro ⟨hcond, rfl⟩
      simp only [Bool.and_eq_true, List.contains_iff_mem, Bool.not_eq_true'] at hcond
      obtain ⟨⟨hn, hmeta⟩, hfile⟩ := hcond
      refine ⟨_, hn, ?_⟩
      simp only [Files.text?_nameOf, hmeta, Bool.false_or, endsWith_json, strip_json_append]
      rw [if_neg (by simpa [messagesPlace] using hfile)]
      rfl

theorem discoverOrder_eq (a b : Locale × String × Files.Place) :
    (decide (a.1.tag < b.1.tag) || (a.1.tag == b.1.tag && decide (a.2.1 ≤ b.2.1))) =
      decide (toLex (a.1.tag, a.2.1) ≤ toLex (b.1.tag, b.2.1)) := by
  rw [Bool.eq_iff_iff]
  simp [Prod.Lex.toLex_le_toLex]

/-- what `discover` finds: the base's subdirectories with UTF-8 names, each with the locale its
name gives, in ascending order of locale and then of name -/
theorem discover_eq_ok {r : Resources} {names : List Files.Name}
    (h : tree.listDir r.base.names = .ok names) :
    ∃ sorted : List (Locale × String × Files.Place),
      discover tree r = .ok (sorted.map fun x => (x.1, x.2.2)) ∧
      (∀ x, x ∈ sorted ↔
        IsSubdir tree r names x.2.1 ∧ x.1 = Locale.ofTag x.2.1 ∧ x.2.2 = r.dirNamed x.2.1) ∧
      sorted.Pairwise fun a b => toLex (a.1.tag, a.2.1) ≤ toLex (b.1.tag, b.2.1) := by
  rw [discover, h]
  refine ⟨_, rfl, fun x => ?_, ?_⟩
  · rw [List.mem_mergeSort, List.mem_filterMap]
    constructor
    · rintro ⟨n, hn, hx⟩
      dsimp only at hx
      split at hx
      · rename_i hdir
        obtain ⟨s, hs, rfl⟩ := Option.map_eq_some_iff.1 hx
        obtain rfl := Files.text?_eq_some_iff.1 hs
        exact ⟨⟨hn, hdir⟩, rfl, rfl⟩
      · cases hx
    · rintro ⟨⟨hn, hdir⟩, hl, hp⟩
      refine ⟨_, hn, ?_⟩
      obtain ⟨l, s, p⟩ := x
      simp only [dirNamed] at hl hp hdir ⊢
      subst hl hp
      rw [if_pos hdir, Files.text?_nameOf]
      rfl
  · refine List.Pairwise.imp (fun {a b} hab => ?_) (List.pairwise_mergeSort
      (fun a b c hab hbc => ?_) (fun a b => ?_) _)
    · rwa [discoverOrder_eq, decide_eq_true_iff] at hab
    · rw [discoverOrder_eq, decide_eq_true_iff] at hab hbc ⊢
      exact le_trans hab hbc
    · rw [discoverOrder_eq, discoverOrder_eq]
      rcases le_total (toLex (a.1.tag, a.2.1)) (toLex (b.1.tag, b.2.1)) with h | h <;> simp [h]

end Resources

end Phrasebook
