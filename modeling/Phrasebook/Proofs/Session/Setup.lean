import Phrasebook.Proofs.Session.Contract
import Phrasebook.Proofs.Catalog.Merge
import Phrasebook.Proofs.Locale.Normal

/-!
# Starting a session and choosing its locale

A configuration starts a session exactly when it names a locale that is not blank, gives
messages, and one of the messages' tags names the same locale (`Config.Describes`); the fallback
locale is normalised but need not have messages, and an unnamed default namespace is the
standard one. Every refusal is a configuration error. A store starts a session exactly when the
locale is named and has messages.

Choosing a locale goes through its normal form: a tag selects the locale it names, and the text
of that locale selects it again exactly when the tag is settled (`Locale.Settled`).
-/

namespace Phrasebook

/-- a configuration that starts a session, and the state it starts it in -/
def Config.Describes (c : Config) (st : State) : Prop :=
  ∃ l m, c.locale = some l ∧ Text.trimBlanks l ≠ "" ∧ c.messages = some m ∧
    (∃ r ∈ m.keys, Locale.ofTag r = Locale.ofTag l) ∧
    st = ⟨Store.fromMaps m c.sourceKeys, Locale.ofTag l, c.fallbackLocale.map Locale.ofTag,
      (c.defaultNamespace.filter fun ns => !ns.isEmpty).getD defaultNamespaceName⟩

theorem State.build_eq_ok_iff_named {store : Store} {current : Locale} {fallback : Option Locale}
    {ns : Option String} {st : State} :
    State.build store current fallback ns = .ok st ↔
      current.isEmpty = false ∧ store.hasLocale current = true ∧
        st = ⟨store, current, fallback, (ns.filter fun n => !n.isEmpty).getD defaultNamespaceName⟩ := by
  rw [State.build_eq_ok_iff]
  cases ns with
  | none => rfl
  | some n => cases h : n.isEmpty <;> simp [Option.filter, h]

theorem Store.hasLocale_fromMaps (m : RawEntries) (x : Option RawEntries) (l : Locale) :
    (Store.fromMaps m x).hasLocale l = true ↔ ∃ r ∈ m.keys, Locale.ofTag r = l :=
  Store.contains_mergeRawBy Store.Visit.reversed ["messages"] m l

theorem Store.mem_locales_iff (s : Store) (l : Locale) : l ∈ s.locales ↔ s.hasLocale l = true := by
  rw [Store.locales, Store.hasLocale, ← Table.mem_keys_iff, List.mem_map]
  constructor
  · rintro ⟨k, hk, rfl⟩
    exact hk
  · intro hk
    exact ⟨l.tag, hk, rfl⟩

theorem State.build_ok_or_config (store : Store) (current : Locale) (fallback : Option Locale)
    (ns : Option String) :
    (∃ st, State.build store current fallback ns = .ok st) ∨
      ∃ msg, State.build store current fallback ns = .error (.config msg) := by
  unfold State.build
  split
  · exact .inr ⟨_, rfl⟩
  · split
    · exact .inr ⟨_, rfl⟩
    · exact .inl ⟨_, rfl⟩

theorem Config.toState_eq_ok_iff {c : Config} {st : State} : c.toState = .ok st ↔ c.Describes st := by
  unfold Config.toState
  cases hl : c.locale with
  | none => simp [Config.Describes, hl]
  | some l =>
    by_cases hb : Text.isBlankString l = true
    · have htrim := (Text.isBlankString_iff l).1 hb
      simp [Config.Describes, hl, hb, htrim]
    · have htrim : Text.trimBlanks l ≠ "" := fun h => hb ((Text.isBlankString_iff l).2 h)
      cases hm : c.messages with
      | none => simp [Config.Describes, hl, hb, hm]
      | some m =>
        simp only [hb, Bool.false_eq_true, if_false]
        rw [State.build_eq_ok_iff_named, Locale.ofTag_isEmpty htrim, Store.hasLocale_fromMaps]
        constructor
        · rintro ⟨-, hr, rfl⟩
          exact ⟨l, m, hl, htrim, hm, hr, rfl⟩
        · rintro ⟨l', m', hl', -, hm', hr, rfl⟩
          rw [hl, Option.some.injEq] at hl'
          rw [hm, Option.some.injEq] at hm'
          subst hl' hm'
          exact ⟨rfl, hr, rfl⟩

theorem Config.toState_ok_or_config (c : Config) :
    (∃ st, c.toState = .ok st) ∨ ∃ msg, c.toState = .error (.config msg) := by
  unfold Config.toState
  split
  · exact .inr ⟨_, rfl⟩
  · split
    · exact .inr ⟨_, rfl⟩
    · split
      · exact .inr ⟨_, rfl⟩
      · exact State.build_ok_or_config _ _ _ _

theorem Except.map_ok_or_config {α β : Type} {x : Except TranslationError α} (f : α → β)
    (h : (∃ a, x = .ok a) ∨ ∃ msg, x = .error (.config msg)) :
    (∃ b, x.map f = .ok b) ∨ ∃ msg, x.map f = .error (.config msg) := by
  rcases h with ⟨a, rfl⟩ | ⟨msg, rfl⟩
  · exact .inl ⟨f a, rfl⟩
  · exact .inr ⟨msg, rfl⟩

namespace Session

/-- Setup succeeds exactly on valid configurations. A configuration starts a session, or
reconfigures one (keeping its tag handlers), exactly when it names a locale that is not blank,
gives messages, and one of their tags names the same locale; the session then has that locale,
the normalised fallback whether or not it has messages, and the configuration's default namespace
or else the standard one. Every refusal is a configuration error. A store starts a session exactly
when the locale is named and has messages. -/
theorem setup_accepts_exactly_valid :
    (∀ c s, ofConfig c = .ok s ↔ ∃ st, c.Describes st ∧ s = { state := st }) ∧
    (∀ (s : Session) c s', s.reconfigure c = .ok s' ↔ ∃ st, c.Describes st ∧ s' = { s with state := st }) ∧
    (∀ c, (∃ s, ofConfig c = .ok s) ∨ ∃ msg, ofConfig c = .error (.config msg)) ∧
    (∀ (s : Session) c, (∃ s', s.reconfigure c = .ok s') ∨ ∃ msg, s.reconfigure c = .error (.config msg)) ∧
    (∀ store l fallback s, ofStore store l fallback = .ok s ↔
      l.isEmpty = false ∧ store.hasLocale l = true ∧
        s = { state := ⟨store, l, fallback, defaultNamespaceName⟩ }) ∧
    (∀ store l fallback, (∃ s, ofStore store l fallback = .ok s) ∨
      ∃ msg, ofStore store l fallback = .error (.config msg)) := by
  refine ⟨fun c s => ?_, fun s c s' => ?_, fun c => ?_, fun s c => ?_, fun store l fallback s => ?_,
    fun store l fallback => ?_⟩
  · rw [ofConfig, map_eq_ok_iff]
    exact exists_congr fun st => and_congr Config.toState_eq_ok_iff eq_comm
  · rw [reconfigure_eq_ok_iff]
    exact exists_congr fun st => and_congr_left fun _ => Config.toState_eq_ok_iff
  · exact Except.map_ok_or_config _ (Config.toState_ok_or_config c)
  · exact Except.map_ok_or_config _ (Config.toState_ok_or_config c)
  · rw [ofStore, map_eq_ok_iff]
    constructor
    · rintro ⟨st, hst, rfl⟩
      obtain ⟨he, hl, rfl⟩ := State.build_eq_ok_iff.1 hst
      exact ⟨he, hl, rfl⟩
    · rintro ⟨he, hl, rfl⟩
      exact ⟨_, State.build_eq_ok_iff.2 ⟨he, hl, rfl⟩, rfl⟩
  · exact Except.map_ok_or_config _ (State.build_ok_or_config store l fallback none)

/-! ## Choosing a locale -/

/-- Choosing a locale by a tag is choosing it by the text of the locale the tag names, and a
listed locale is chosen by its own text, exactly when normalising the tag once more changes
nothing, which is exactly when the tag is settled. -/
theorem locale_normalisation_settles (t : String) :
    (Locale.ofTag (Locale.ofTag t).tag = Locale.ofTag t ↔ Locale.Settled t) ∧
      ∀ s : Session, Locale.Settled t →
        s.setLocale (Locale.ofTag t).tag = s.setLocale t ∧
          (Locale.ofTag t ∈ s.availableLocales →
            s.setLocale (Locale.ofTag t).tag =
              .ok { s with state := { s.state with current := Locale.ofTag t } }) := by
  refine ⟨Locale.ofTag_ofTag_iff t, fun s ht => ?_⟩
  have hsame : s.setLocale (Locale.ofTag t).tag = s.setLocale t := by
    unfold setLocale
    rw [Locale.ofTag_ofTag ht]
  refine ⟨hsame, fun hmem => ?_⟩
  rw [hsame]
  exact setLocale_eq_ok_iff.2 ⟨(Store.mem_locales_iff _ _).1 hmem, rfl⟩

/-- A padded lower-case tag is settled: it selects `pt-BR`, and so does the text `pt-BR`. -/
theorem padded_tag_selects_its_locale :
    Locale.Settled " pt-br " ∧ Locale.ofTag " pt-br " = ⟨"pt-BR"⟩ ∧
      ∀ s : Session, s.setLocale "pt-BR" = s.setLocale " pt-br " := by
  have hparse : LanguageId.parse? (Locale.hyphenate (Text.trimBlanks " pt-br ")) =
      some ⟨some "pt", none, some "BR", []⟩ := by
    rw [LanguageId.parse?_eq]
    decide
  have hrender : LanguageId.render ⟨some "pt", none, some "BR", []⟩ = "pt-BR" := rfl
  have hsettled : Locale.Settled " pt-br " := by
    intro id h
    rw [hparse, Option.some.injEq] at h
    subst h
    refine ⟨fun c hc => ?_, fun _ h => by cases h⟩
    rw [hrender, show "pt-BR".toList.getLast? = some 'R' from rfl, Option.mem_some_iff] at hc
    subst hc
    rfl
  have htag : Locale.ofTag " pt-br " = ⟨"pt-BR"⟩ := by
    rw [Locale.ofTag_of_parse hparse]
    rfl
  refine ⟨hsettled, htag, fun s => ?_⟩
  have h := ((locale_normalisation_settles " pt-br ").2 s hsettled).1
  rw [htag] at h
  exact h

def trailingBlankConfig : Config :=
  { locale := some "en-9ab -1abcd",
    messages := some (.ofList [("en-9ab -1abcd", .ofList [("common", .ofList [("k", "v")])])]) }

/-- Normalising is not idempotent: a four-character variant holding a blank sorts last and loses
the blank to trimming, and a four-letter variant sorted first is read as a script. A session
started with the first tag lists a locale that its own text does not select. -/
theorem normal_form_renormalises :
    Locale.ofTag "en-9ab -1abcd" = ⟨"en-1abcd-9ab "⟩ ∧
      Locale.ofTag "en-1abcd-9ab " = ⟨"en-1abcd-9ab"⟩ ∧
      Locale.ofTag "en-zzzzz-abcd" = ⟨"en-abcd-zzzzz"⟩ ∧
      Locale.ofTag "en-abcd-zzzzz" = ⟨"en-Abcd-zzzzz"⟩ ∧
      ∃ s, ofConfig trailingBlankConfig = .ok s ∧ s.availableLocales = [⟨"en-1abcd-9ab "⟩] ∧
        ∃ e, s.setLocale "en-1abcd-9ab " = .error e := by
  have h1 : Locale.ofTag "en-9ab -1abcd" = ⟨"en-1abcd-9ab "⟩ := by
    rw [Locale.ofTag, LanguageId.parse?_eq]
    decide
  have h2 : Locale.ofTag "en-1abcd-9ab " = ⟨"en-1abcd-9ab"⟩ := by
    rw [Locale.ofTag, LanguageId.parse?_eq]
    decide
  have h3 : Locale.ofTag "en-zzzzz-abcd" = ⟨"en-abcd-zzzzz"⟩ := by
    rw [Locale.ofTag, LanguageId.parse?_eq]
    decide
  have h4 : Locale.ofTag "en-abcd-zzzzz" = ⟨"en-Abcd-zzzzz"⟩ := by
    rw [Locale.ofTag, LanguageId.parse?_eq]
    decide
  let m : RawEntries := .ofList [("en-9ab -1abcd", .ofList [("common", .ofList [("k", "v")])])]
  have hstate : trailingBlankConfig.Describes
      ⟨Store.fromMaps m none, ⟨"en-1abcd-9ab "⟩, none, defaultNamespaceName⟩ :=
    ⟨"en-9ab -1abcd", m, rfl, by decide, rfl, ⟨"en-9ab -1abcd", List.mem_singleton_self _, rfl⟩,
      by rw [h1]; rfl⟩
  have hlocales : (Store.fromMaps m none).locales = [⟨"en-1abcd-9ab "⟩] := by
    simp only [Store.fromMaps, Store.fromMapsBy, Store.mergeRawBy, Store.Visit.reversed, m,
      Table.ofList, Table.insert, Table.empty, Table.insertEntry, List.reverse_cons,
      List.reverse_nil, List.nil_append, List.foldl_cons, List.foldl_nil, h1]
    decide
  have hmissing : (Store.fromMaps m none).hasLocale (Locale.ofTag "en-1abcd-9ab ") = false := by
    rw [Bool.eq_false_iff, ne_eq, Store.hasLocale_fromMaps, h2]
    rintro ⟨r, hr, hl⟩
    rw [List.mem_singleton.1 hr, h1] at hl
    exact absurd hl (by decide)
  let s : Session := { state := ⟨Store.fromMaps m none, ⟨"en-1abcd-9ab "⟩, none, defaultNamespaceName⟩ }
  have hfail : ∃ e, s.setLocale "en-1abcd-9ab " = .error e := by
    cases hset : s.setLocale "en-1abcd-9ab " with
    | error e => exact ⟨e, rfl⟩
    | ok s' =>
      have hknown := (setLocale_eq_ok_iff.1 hset).1
      exact absurd hknown (by rw [show s.state.store = Store.fromMaps m none from rfl, hmissing]; decide)
  have hstart : ofConfig trailingBlankConfig = .ok s := by
    rw [ofConfig, map_eq_ok_iff]
    exact ⟨_, Config.toState_eq_ok_iff.2 hstate, rfl⟩
  exact ⟨h1, h2, h3, h4, s, hstart, hlocales, hfail⟩

end Session

end Phrasebook
