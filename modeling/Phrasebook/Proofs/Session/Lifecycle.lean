import Phrasebook.Session.Global
import Phrasebook.Proofs.Session.Contract

/-!
# The lifecycle of the shared session

The shared session is used through a sequence of calls (`Shared.Call`): `init` with any
configuration, `install`, switching the locale, registering a tag handler, and the calls that
only read it. `Shared.perform` makes one call, keeping the slot as it was when the call fails.

* `Call.starts`    the calls that fill an empty slot: every `install`, and an `init` whose
                   configuration starts a session;
* `Call.forwards`  what a call asks of the session present: `init` reconfigures it, and the
                   others are the session's own calls (`Session.Call`); `install` asks nothing;
* `Dormant g`      what the calls answer while the slot is empty;
* `Present g s`    what `init` does to the session `s` in the slot, and that every call but
                   `install` acts on `s` through its own calls.

The main statement is `shared_lifecycle`: after any sequence of calls the slot is filled exactly
when one of them started it, an empty slot is `Dormant`, and a filled one is `Present` for the
session in it.
-/

namespace Phrasebook.Shared

/-- the calls on the shared session -/
inductive Call where
  | init (c : Config)
  | install (s : Session)
  | setLocale (raw : String)
  | getLocale
  | registerTag (name : String) (h : TagHandler)
  | translate (lookup : String) (vs : Values) (ns : Option String)
  | translateRich (lookup : String) (vs : Values) (ns : Option String)
  | t (lookup : String)

/-- the shared session after one call; a call that fails changes nothing -/
def perform (g : Shared) : Call → Shared
  | .init c =>
    match g.init c with
    | .ok (g', _) => g'
    | .error _ => g
  | .install s => g.install s
  | .setLocale raw =>
    match g.setLocale raw with
    | .ok g' => g'
    | .error _ => g
  | .registerTag name h =>
    match g.registerTag name h with
    | .ok g' => g'
    | .error _ => g
  | .getLocale | .translate .. | .translateRich .. | .t _ => g

def run (g : Shared) : List Call → Shared
  | [] => g
  | c :: cs => (g.perform c).run cs

/-- the calls that fill an empty slot: an install, and an init whose configuration starts a
session -/
def Call.starts : Call → Bool
  | .install _ => true
  | .init c => (Session.ofConfig c).isOk
  | _ => false

/-- what a call asks of the session present -/
def Call.forwards : Call → List Session.Call
  | .init c => [.reconfigure c]
  | .install _ => []
  | .setLocale raw => [.setLocale raw]
  | .getLocale => []
  | .registerTag name h => [.registerTag name h]
  | .translate lookup vs ns => [.translate lookup vs ns]
  | .translateRich lookup vs ns => [.translateRich lookup vs ns]
  | .t lookup => [.t lookup]

/-! ## Filling the slot -/

theorem init_of_none {g : Shared} (h : g.current = none) (c : Config) :
    g.init c = (Session.ofConfig c).map fun s => (⟨some s⟩, s) := by
  simp [init, h]

theorem init_of_some {g : Shared} {s : Session} (h : g.current = some s) (c : Config) :
    g.init c = (s.reconfigure c).map fun s' => (⟨some s'⟩, s') := by
  simp [init, h]

theorem get_of_some {g : Shared} {s : Session} (h : g.current = some s) : g.get = .ok s := by
  simp [get, h]

theorem perform_setLocale {g : Shared} {s : Session} (h : g.current = some s) (raw : String) :
    g.perform (.setLocale raw) = ⟨some (s.perform (.setLocale raw)).1⟩ := by
  obtain ⟨cur⟩ := g
  cases h
  cases hs : s.setLocale raw <;>
    simp [perform, setLocale, get, Session.perform, hs, bind, Except.bind, pure, Except.pure]

theorem isInitialized_perform (g : Shared) (c : Call) :
    (g.perform c).isInitialized = (g.isInitialized || c.starts) := by
  cases hg : g.current with
  | none =>
    have hget : g.get = .error .notInitialized := by simp [get, hg]
    cases c with
    | init cfg =>
      simp only [perform, init_of_none hg, Call.starts]
      cases Session.ofConfig cfg <;>
        simp [Except.map, isInitialized, hg, Except.isOk, Except.toBool]
    | install s => simp [perform, install, isInitialized, Call.starts]
    | setLocale raw => simp [perform, setLocale, hget, bind, Except.bind, Call.starts]
    | registerTag name h => simp [perform, registerTag, hget, bind, Except.bind, Call.starts]
    | getLocale | translate | translateRich | t => simp [perform, Call.starts]
  | some s =>
    have hfilled : g.isInitialized = true := by simp [isInitialized, hg]
    rw [hfilled, Bool.true_or]
    cases c with
    | init cfg =>
      simp only [perform, init_of_some hg]
      cases s.reconfigure cfg <;> simp [Except.map, isInitialized, hg]
    | install s' => rfl
    | setLocale raw => simp [perform_setLocale hg, isInitialized]
    | registerTag name h =>
      simp [perform, registerTag, get_of_some hg, bind, Except.bind, pure, Except.pure,
        isInitialized]
    | getLocale | translate | translateRich | t => exact hfilled

theorem isInitialized_run (g : Shared) (calls : List Call) :
    (g.run calls).isInitialized = (g.isInitialized || calls.any Call.starts) := by
  induction calls generalizing g with
  | nil => simp [run]
  | cons c cs ih => rw [run, ih, isInitialized_perform, List.any_cons, Bool.or_assoc]

/-! ## An empty slot -/

/-- what the calls answer while the slot is empty: translations give the lookup back, the other
calls fail with `notInitialized`, and a failing `init` leaves the slot empty -/
structure Dormant (g : Shared) : Prop where
  translate : ∀ lookup vs ns, g.translate lookup vs ns = lookup
  translateRich : ∀ lookup vs ns, g.translateRich lookup vs ns = .text lookup
  t : ∀ lookup, g.t lookup = lookup
  get : g.get = .error .notInitialized
  getLocale : g.getLocale = .error .notInitialized
  setLocale : ∀ raw, g.setLocale raw = .error .notInitialized
  registerTag : ∀ name h, g.registerTag name h = .error .notInitialized
  init_error : ∀ c e, g.init c = .error e → (g.perform (.init c)).current = none

theorem dormant_of_none {g : Shared} (h : g.current = none) : g.Dormant where
  translate _ _ _ := by simp [translate, h]
  translateRich _ _ _ := by simp [translateRich, h]
  t _ := by simp [t, translate, h]
  get := by simp [get, h]
  getLocale := by simp [getLocale, get, h, Except.map]
  setLocale _ := by simp [setLocale, get, h, bind, Except.bind]
  registerTag _ _ := by simp [registerTag, get, h, bind, Except.bind]
  init_error c e he := by simp [perform, he, h]

/-! ## A session in the slot -/

/-- what happens to the session `s` in the slot: a successful `init` returns `s` with the state of
the configuration (its tag handlers kept) and leaves that session in the slot; a failing `init`
fails as reconfiguring `s` does and changes nothing; and every call but `install` leaves in the
slot the session that `s` becomes under the calls it asks of it -/
structure Present (g : Shared) (s : Session) : Prop where
  init_ok : ∀ c g' s', g.init c = .ok (g', s') ↔
    ∃ st, c.toState = .ok st ∧ s' = { s with state := st } ∧ g' = ⟨some s'⟩
  init_error : ∀ c e, g.init c = .error e →
    s.reconfigure c = .error e ∧ g.perform (.init c) = g
  forwards : ∀ c, (∀ s', c ≠ .install s') → (g.perform c).current = some (s.run c.forwards)

theorem perform_forwards {g : Shared} {s : Session} (h : g.current = some s) (c : Call)
    (hc : ∀ s', c ≠ .install s') : (g.perform c).current = some (s.run c.forwards) := by
  cases c with
  | init cfg =>
    simp only [perform, init_of_some h, Call.forwards, Session.run, Session.perform]
    cases s.reconfigure cfg <;> simp [Except.map, h]
  | install s' => exact absurd rfl (hc s')
  | setLocale raw => simp [perform_setLocale h, Call.forwards, Session.run]
  | registerTag name hd =>
    simp [perform, registerTag, get_of_some h, bind, Except.bind, pure, Except.pure,
      Call.forwards, Session.run, Session.perform]
  | getLocale => simp [perform, Call.forwards, Session.run, h]
  | translate | translateRich | t => simp [perform, Call.forwards, Session.run, Session.perform, h]

theorem present_of_some {g : Shared} {s : Session} (h : g.current = some s) : g.Present s where
  init_ok c g' s' := by
    rw [init_of_some h]
    constructor
    · intro hok
      obtain ⟨s'', hr, hpair⟩ := map_eq_ok_iff.1 hok
      obtain ⟨st, hst, rfl⟩ := Session.reconfigure_eq_ok_iff.1 hr
      cases hpair
      exact ⟨st, hst, rfl, rfl⟩
    · rintro ⟨st, hst, rfl, rfl⟩
      exact map_eq_ok_iff.2 ⟨_, Session.reconfigure_eq_ok_iff.2 ⟨st, hst, rfl⟩, rfl⟩
  init_error c e he := by
    rw [init_of_some h] at he
    have hr : s.reconfigure c = .error e := by
      cases hr : s.reconfigure c with
      | ok s' => rw [hr] at he; cases he
      | error e' => rw [hr] at he; cases he; rfl
    exact ⟨hr, by simp [perform, init_of_some h, hr, Except.map]⟩
  forwards := perform_forwards h

/-- The lifecycle of the shared session. After any sequence of calls from the empty slot, the
slot is filled exactly when one of the calls was an `install` or an `init` that started a
session; while it is empty the calls answer as `Dormant` says; and once a session is in it,
`init` reconfigures that session in place and every call but `install` acts on it, as `Present`
says. -/
theorem shared_lifecycle (calls : List Call) :
    (({} : Shared).run calls).isInitialized = calls.any Call.starts ∧
    ((({} : Shared).run calls).isInitialized = false → (({} : Shared).run calls).Dormant) ∧
    ∀ s, (({} : Shared).run calls).current = some s → (({} : Shared).run calls).Present s := by
  refine ⟨by simpa [isInitialized] using isInitialized_run {} calls, fun h => ?_,
    fun s h => present_of_some h⟩
  apply dormant_of_none
  simpa [isInitialized] using h

end Phrasebook.Shared
