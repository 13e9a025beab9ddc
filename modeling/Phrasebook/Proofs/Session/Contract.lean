import Phrasebook.Session.Setup

/-!
# The session contract

A session is used by a sequence of calls (`Session.Call`): switching the locale, reconfiguring,
registering and removing tag handlers, and the translations and queries that only read it.
`Session.perform` makes one call, keeping the session as it was when the call fails, and
`Session.run` makes a sequence of them.

Every state a session can reach is valid (`State.Valid`): its current locale has messages and its
default namespace is named. Each constructor builds a valid state, and one call keeps it valid,
since everything a call can do is listed once in `perform_cases`. The main statement is
`started_session_contract`: a session started from a configuration, a store or settings keeps
its contract (`Session.Contract`) through any sequence of calls.

The current locale need not be named: `setLocale` accepts every locale with messages, and a
configuration may give messages under a blank tag (`setLocale_blank_empties_current`). It is
named whenever the store has no messages for the empty locale.
-/

namespace Phrasebook

/-- what every session state satisfies: the current locale has messages and the default
namespace is named -/
structure State.Valid (st : State) : Prop where
  hasCurrent : st.store.hasLocale st.current = true
  namespaceNamed : st.defaultNamespace ≠ ""

theorem State.build_eq_ok_iff {store : Store} {current : Locale} {fallback : Option Locale}
    {ns : Option String} {st : State} :
    State.build store current fallback ns = .ok st ↔
      current.isEmpty = false ∧ store.hasLocale current = true ∧
        st = ⟨store, current, fallback, match ns with
          | some n => if n.isEmpty then defaultNamespaceName else n
          | none => defaultNamespaceName⟩ := by
  unfold State.build
  by_cases he : current.isEmpty = true
  · simp [he]
  · by_cases hl : store.hasLocale current = true
    · rw [if_neg he, if_neg (by simp [hl])]
      constructor
      · intro h
        cases h
        exact ⟨by simpa using he, hl, rfl⟩
      · rintro ⟨-, -, rfl⟩
        rfl
    · simp [he, hl]

theorem State.valid_of_build {store : Store} {current : Locale} {fallback : Option Locale}
    {ns : Option String} {st : State} (h : State.build store current fallback ns = .ok st) :
    st.Valid ∧ st.current.isEmpty = false := by
  obtain ⟨he, hl, rfl⟩ := build_eq_ok_iff.1 h
  refine ⟨⟨hl, ?_⟩, he⟩
  cases ns with
  | none => simp [defaultNamespaceName]
  | some n =>
    by_cases hn : n.isEmpty = true
    · simp [hn, defaultNamespaceName]
    · simp only [hn, if_false, Bool.false_eq_true]
      rintro rfl
      exact hn rfl

/-! ## Building valid states -/

theorem map_eq_ok_iff {ε α β : Type} {x : Except ε α} {f : α → β} {b : β} :
    x.map f = .ok b ↔ ∃ a, x = .ok a ∧ f a = b := by
  cases x <;> simp [Except.map]

theorem Config.valid_of_toState {c : Config} {st : State} (h : c.toState = .ok st) :
    st.Valid ∧ st.current.isEmpty = false := by
  unfold Config.toState at h
  split at h
  · cases h
  · split at h
    · cases h
    · split at h
      · cases h
      · exact State.valid_of_build h

namespace Session

def Started (s : Session) : Prop :=
  (∃ c, ofConfig c = .ok s) ∨ (∃ store l fallback, ofStore store l fallback = .ok s) ∨
    ∃ tree root settings, ofSettings tree root settings = .ok s

theorem valid_of_started {s : Session} (h : s.Started) : s.state.Valid := by
  rcases h with ⟨c, hc⟩ | ⟨store, l, fallback, hs⟩ | ⟨tree, root, settings, hs⟩
  · obtain ⟨st, hst, rfl⟩ := map_eq_ok_iff.1 hc
    exact (Config.valid_of_toState hst).1
  · obtain ⟨st, hst, rfl⟩ := map_eq_ok_iff.1 hs
    exact (State.valid_of_build hst).1
  · unfold ofSettings at hs
    split at hs
    · cases hs
    · dsimp only at hs
      split at hs
      · cases hs
      · obtain ⟨st, hst, rfl⟩ := map_eq_ok_iff.1 hs
        exact (State.valid_of_build hst).1

/-! ## Calls -/

/-- the calls a caller makes on a session, one after another -/
inductive Call where
  | setLocale (raw : String)
  | reconfigure (c : Config)
  | registerTag (name : String) (h : TagHandler)
  | unregisterTag (name : String)
  | translate (lookup : String) (vs : Values) (ns : Option String)
  | translateRich (lookup : String) (vs : Values) (ns : Option String)
  | t (lookup : String)
  | resolve (lookup : String) (ns : Option String)
  | hasTranslation (lookup : String) (ns : Option String)
  | withStore

/-- what a call answers -/
inductive Answer where
  | done (r : Except TranslationError Unit)
  | text (s : String)
  | rendered (r : Markup.Rendered)
  | resolution (template : String) (found : Bool)
  | flag (b : Bool)
  | store (s : Store)

def Call.reads : Call → Bool
  | .translate .. | .translateRich .. | .t _ | .resolve .. | .hasTranslation .. | .withStore => true
  | _ => false

/-- makes one call on a session: the session after it and the answer. The session is changed
only by what a call returns on success. -/
def perform (s : Session) : Call → Session × Answer
  | .setLocale raw =>
    match s.setLocale raw with
    | .ok s' => (s', .done (.ok ()))
    | .error e => (s, .done (.error e))
  | .reconfigure c =>
    match s.reconfigure c with
    | .ok s' => (s', .done (.ok ()))
    | .error e => (s, .done (.error e))
  | .registerTag name h => (s.registerTag name h, .done (.ok ()))
  | .unregisterTag name => ((s.unregisterTag name).1, .flag (s.unregisterTag name).2)
  | .translate lookup vs ns => (s, .text (s.translate lookup vs ns))
  | .translateRich lookup vs ns => (s, .rendered (s.translateRich lookup vs ns))
  | .t lookup => (s, .text (s.t lookup))
  | .resolve lookup ns => (s, .resolution (s.resolve lookup ns).1 (s.resolve lookup ns).2)
  | .hasTranslation lookup ns => (s, .flag (s.hasTranslation lookup ns))
  | .withStore => (s, .store s.state.store)

/-- the session after a sequence of calls -/
def run (s : Session) : List Call → Session
  | [] => s
  | c :: cs => (s.perform c).1.run cs

/-! ## What one call does -/

theorem setLocale_eq_ok_iff {s s' : Session} {raw : String} :
    s.setLocale raw = .ok s' ↔ s.state.store.hasLocale (Locale.ofTag raw) = true ∧
      s' = { s with state := { s.state with current := Locale.ofTag raw } } := by
  unfold setLocale
  by_cases hl : s.state.store.hasLocale (Locale.ofTag raw) = true
  · simp only [hl, Bool.not_true, Bool.false_eq_true, if_false, Except.ok.injEq, true_and]
    exact eq_comm
  · simp [hl]

theorem reconfigure_eq_ok_iff {s s' : Session} {c : Config} :
    s.reconfigure c = .ok s' ↔ ∃ st, c.toState = .ok st ∧ s' = { s with state := st } := by
  rw [reconfigure, map_eq_ok_iff]
  exact exists_congr fun st => and_congr_right fun _ => eq_comm

theorem reconfigure_eq_error_iff {s : Session} {c : Config} {e : TranslationError} :
    s.reconfigure c = .error e ↔ c.toState = .error e := by
  rw [reconfigure]
  cases c.toState <;> simp [Except.map]

/-- everything one call can do: leave the session as it was, switch to a locale with messages,
replace the state by a configuration's, or change only the tag handlers -/
theorem perform_cases (s : Session) (c : Call) :
    (s.perform c).1 = s ∨
    (∃ raw, c = .setLocale raw ∧ s.state.store.hasLocale (Locale.ofTag raw) = true ∧
      (s.perform c).1 = { s with state := { s.state with current := Locale.ofTag raw } }) ∨
    (∃ cfg st, c = .reconfigure cfg ∧ cfg.toState = .ok st ∧
      (s.perform c).1 = { s with state := st }) ∨
    (c.reads = false ∧ (s.perform c).1.state = s.state) := by
  cases c with
  | setLocale raw =>
    simp only [perform]
    split
    · next s' h =>
      obtain ⟨hl, rfl⟩ := setLocale_eq_ok_iff.1 h
      exact .inr (.inl ⟨raw, rfl, hl, rfl⟩)
    · exact .inl rfl
  | reconfigure cfg =>
    simp only [perform]
    split
    · next s' h =>
      obtain ⟨st, hst, rfl⟩ := reconfigure_eq_ok_iff.1 h
      exact .inr (.inr (.inl ⟨cfg, st, rfl, hst, rfl⟩))
    · exact .inl rfl
  | registerTag name h => exact .inr (.inr (.inr ⟨rfl, rfl⟩))
  | unregisterTag name => exact .inr (.inr (.inr ⟨rfl, rfl⟩))
  | translate | translateRich | t | resolve | hasTranslation | withStore => exact .inl rfl

theorem perform_setLocale_of_hasLocale {s : Session} {raw : String}
    (hl : s.state.store.hasLocale (Locale.ofTag raw) = true) :
    s.perform (.setLocale raw) =
      ({ s with state := { s.state with current := Locale.ofTag raw } }, .done (.ok ())) := by
  rw [perform, setLocale_eq_ok_iff.2 ⟨hl, rfl⟩]

theorem perform_reconfigure_of_ok {s : Session} {c : Config} {st : State}
    (h : c.toState = .ok st) : s.perform (.reconfigure c) = ({ s with state := st }, .done (.ok ())) := by
  rw [perform, reconfigure_eq_ok_iff.2 ⟨st, h, rfl⟩]

theorem perform_reconfigure_of_error {s : Session} {c : Config} {e : TranslationError}
    (h : c.toState = .error e) : s.perform (.reconfigure c) = (s, .done (.error e)) := by
  rw [perform, reconfigure_eq_error_iff.2 h]

theorem valid_perform {s : Session} (hs : s.state.Valid) (c : Call) :
    (s.perform c).1.state.Valid := by
  rcases perform_cases s c with h | ⟨raw, -, hl, h⟩ | ⟨cfg, st, -, hst, h⟩ | ⟨-, h⟩
  · rw [h]; exact hs
  · rw [h]; exact ⟨hl, hs.namespaceNamed⟩
  · rw [h]; exact (Config.valid_of_toState hst).1
  · rw [h]; exact hs

theorem valid_run {s : Session} (hs : s.state.Valid) (calls : List Call) :
    (s.run calls).state.Valid := by
  induction calls generalizing s with
  | nil => exact hs
  | cons c cs ih => exact ih (valid_perform hs c)

theorem perform_setLocale_ok_iff (s : Session) (raw : String) :
    (s.perform (.setLocale raw)).2 = .done (.ok ()) ↔
      s.state.store.hasLocale (Locale.ofTag raw) = true := by
  simp only [perform]
  split
  · next s' h => simpa using (setLocale_eq_ok_iff.1 h).1
  · next e h =>
    simp only [Answer.done.injEq, reduceCtorEq, false_iff]
    intro hl
    have hok := setLocale_eq_ok_iff.2 ⟨hl, rfl⟩
    rw [hok] at h
    cases h

theorem perform_of_error {s : Session} {c : Call} {e : TranslationError}
    (h : (s.perform c).2 = .done (.error e)) : (s.perform c).1 = s := by
  cases c with
  | setLocale raw =>
    simp only [perform] at h ⊢
    split at h
    · cases h
    · rfl
  | reconfigure cfg =>
    simp only [perform] at h ⊢
    split at h
    · cases h
    · rfl
  | registerTag | unregisterTag => simp [perform] at h
  | translate | translateRich | t | resolve | hasTranslation | withStore => rfl

theorem perform_of_reads {s : Session} {c : Call} (h : c.reads = true) : (s.perform c).1 = s := by
  cases c with
  | setLocale | reconfigure | registerTag | unregisterTag => cases h
  | translate | translateRich | t | resolve | hasTranslation | withStore => rfl

theorem current_named {st : State} (hs : st.Valid) (hblank : st.store.hasLocale ⟨""⟩ = false) :
    st.current.isEmpty = false := by
  cases he : st.current.isEmpty
  · rfl
  · have htag : st.current.tag = "" := String.isEmpty_iff.1 he
    have hcur : st.current = ⟨""⟩ := by rw [← htag]
    have h := hs.hasCurrent
    rw [hcur, hblank] at h
    cases h

/-- what a session promises before each call: a valid state, a named current locale unless the
store has messages for the empty one, and what each call does. `setLocale` succeeds exactly for
locales with messages and then changes the current locale alone; `reconfigure` installs the
state its configuration builds, keeping the tag handlers, or fails with the configuration's error
and changes nothing; the tag calls leave the state alone; a failed or reading call changes
nothing. -/
structure Contract (s : Session) : Prop where
  valid : s.state.Valid
  currentNamed : s.state.store.hasLocale ⟨""⟩ = false → s.state.current.isEmpty = false
  setLocale_ok_iff : ∀ raw, (s.perform (.setLocale raw)).2 = .done (.ok ()) ↔
    s.state.store.hasLocale (Locale.ofTag raw) = true
  setLocale_ok : ∀ raw, s.state.store.hasLocale (Locale.ofTag raw) = true →
    (s.perform (.setLocale raw)).1 = { s with state := { s.state with current := Locale.ofTag raw } }
  reconfigure_ok : ∀ cfg st, cfg.toState = .ok st →
    s.perform (.reconfigure cfg) = ({ s with state := st }, .done (.ok ()))
  reconfigure_error : ∀ cfg e, cfg.toState = .error e →
    s.perform (.reconfigure cfg) = (s, .done (.error e))
  tags_keep_state : ∀ name h, (s.perform (.registerTag name h)).1.state = s.state ∧
    (s.perform (.unregisterTag name)).1.state = s.state
  failed_unchanged : ∀ c e, (s.perform c).2 = .done (.error e) → (s.perform c).1 = s
  reads_unchanged : ∀ c, c.reads = true → (s.perform c).1 = s

theorem contract_of_valid {s : Session} (hs : s.state.Valid) : s.Contract where
  valid := hs
  currentNamed := current_named hs
  setLocale_ok_iff := perform_setLocale_ok_iff s
  setLocale_ok _ hl := congrArg Prod.fst (perform_setLocale_of_hasLocale hl)
  reconfigure_ok _ _ := perform_reconfigure_of_ok
  reconfigure_error _ _ := perform_reconfigure_of_error
  tags_keep_state _ _ := ⟨rfl, rfl⟩
  failed_unchanged _ _ := perform_of_error
  reads_unchanged _ := perform_of_reads

/-- Every session started from a configuration, a store or settings keeps its contract through
any sequence of calls. -/
theorem started_session_contract {s₀ : Session} (h₀ : s₀.Started) (calls : List Call) :
    (s₀.run calls).Contract :=
  contract_of_valid (valid_run (valid_of_started h₀) calls)

/-! ## A blank locale -/

theorem ofTag_empty : Locale.ofTag "" = ⟨""⟩ := by
  have htrim : Text.trimBlanks "" = "" := by simp [Text.trimBlanks, Text.trimBlankList]
  have hparse : LanguageId.parse? "" = none := by
    simp [LanguageId.parse?, LanguageId.languageSubtag?]
  rw [Locale.ofTag, htrim, show Locale.hyphenate "" = "" by simp [Locale.hyphenate], hparse]

theorem ofTag_en : Locale.ofTag "en" = ⟨"en"⟩ := by
  have htrim : Text.trimBlanks "en" = "en" := by
    simp [Text.trimBlanks, Text.trimBlankList, Text.isBlank]
  have hsplit : List.splitOnP (fun c => c == '-' || c == '_') ['e', 'n'] = [['e', 'n']] := by
    decide
  have hlow : List.map Char.toLower ['e', 'n'] = ['e', 'n'] := by decide
  have hparse : LanguageId.parse? "en" = some ⟨some "en", none, none, []⟩ := by
    simp [LanguageId.parse?, String.toList_split_bool, LanguageId.languageSubtag?,
      LanguageId.lowerAscii, hsplit, hlow]
    decide
  rw [Locale.ofTag, htrim, show Locale.hyphenate "en" = "en" by simp [Locale.hyphenate], hparse]
  rfl

def blankLocaleMessages : RawEntries :=
  .mk [("", .mk [("common", .mk [("k", "v")])]), ("en", .mk [("common", .mk [("k", "w")])])]

def blankLocaleConfig : Config := { locale := some "en", messages := some blankLocaleMessages }

theorem blankLocaleConfig_starts :
    ∃ s₀, ofConfig blankLocaleConfig = .ok s₀ ∧ s₀.state.store.hasLocale ⟨""⟩ = true := by
  have hstate : blankLocaleConfig.toState =
      State.build (Store.fromMaps blankLocaleMessages none) ⟨"en"⟩ none none := by
    simp [Config.toState, blankLocaleConfig, Text.isBlankString, Text.isBlank, ofTag_en]
  have hstore : (Store.fromMaps blankLocaleMessages none).hasLocale ⟨"en"⟩ = true ∧
      (Store.fromMaps blankLocaleMessages none).hasLocale ⟨""⟩ = true := by
    simp only [blankLocaleMessages, Store.fromMaps, Store.fromMapsBy, Store.mergeRawBy, Store.Visit.reversed,
      List.reverse_cons, List.reverse_nil, List.nil_append, List.cons_append, List.foldl_cons,
      List.foldl_nil, ofTag_empty, ofTag_en]
    decide
  obtain ⟨st, hst⟩ : ∃ st, blankLocaleConfig.toState = .ok st := by
    rw [hstate]
    exact ⟨_, State.build_eq_ok_iff.2 ⟨rfl, hstore.1, rfl⟩⟩
  refine ⟨{ state := st }, by rw [ofConfig, hst]; rfl, ?_⟩
  obtain ⟨-, -, rfl⟩ := State.build_eq_ok_iff.1 (hstate ▸ hst)
  exact hstore.2

/-- A session started in `en` with messages for a blank locale switches to the blank locale:
`setLocale ""` succeeds and leaves the current locale empty. -/
theorem setLocale_blank_empties_current :
    ∃ s₀ : Session, ofConfig blankLocaleConfig = .ok s₀ ∧
      (s₀.perform (.setLocale "")).2 = .done (.ok ()) ∧
      (s₀.perform (.setLocale "")).1.state.current.isEmpty = true := by
  obtain ⟨s₀, h₀, hblank⟩ := blankLocaleConfig_starts
  have hset : s₀.setLocale "" = .ok { s₀ with state := { s₀.state with current := ⟨""⟩ } } := by
    rw [← ofTag_empty]
    exact setLocale_eq_ok_iff.2 ⟨by rw [ofTag_empty]; exact hblank, rfl⟩
  have hperform : s₀.perform (.setLocale "") =
      ({ s₀ with state := { s₀.state with current := ⟨""⟩ } }, .done (.ok ())) := by
    rw [perform, hset]
  refine ⟨s₀, h₀, ?_, ?_⟩ <;> rw [hperform]
  rfl

/-- The contract at the blank-locale configuration, after switching to the blank locale. -/
theorem blank_locale_session_contract :
    ∃ s₀ : Session, ofConfig blankLocaleConfig = .ok s₀ ∧ (s₀.run [.setLocale ""]).Contract := by
  obtain ⟨s₀, h₀, -⟩ := blankLocaleConfig_starts
  exact ⟨s₀, h₀, started_session_contract (Or.inl ⟨_, h₀⟩) _⟩

end Session

end Phrasebook
