import Phrasebook.Settings.Basic
import Phrasebook.Files.Tree

/-!
# Logging

How log output is set up: the filter, the output format, an optional file, and whether span
events and targets are shown. One sink serves the whole program.

* `LogConfig.filter`   the filter used: the configured one when well formed, else `info`;
* `Logging.install`    installs the sink a configuration describes: its file is opened for
                       appending first, and only one sink may ever be installed.
-/

namespace Phrasebook

/-- how log output is set up -/
structure LogConfig where
  level : String := "info"
  json : Bool := false
  pretty : Bool := false
  file : Option Files.Place := none
  spans : Bool := false
  targets : Bool := true

namespace LogConfig

def withLevel (level : String) : LogConfig := { level := level }

def ofSettings (s : Settings) : LogConfig := withLevel s.logLevel

/-- the filter used: the configured one when well formed, else `info` -/
def filter (c : LogConfig) : String := if Settings.isValidFilter c.level then c.level else "info"

end LogConfig

/-- whether the program's log sink has been installed -/
structure Logging where
  installed : Bool := false

def alreadyInstalled : String := "a global default trace dispatcher has already been set"

/-- installs the sink a configuration describes: its file must open for appending, and no
sink may be installed already -/
def Logging.install (g : Logging) (tree : Files.Tree) (c : LogConfig) : Except String Logging :=
  let opened : Except String Unit := match c.file with
    | some p =>
      match tree.openAppend p.names with
      | .ok () => .ok ()
      | .error e => .error e.text
    | none => .ok ()
  opened.bind fun _ => if g.installed then .error alreadyInstalled else .ok ⟨true⟩

theorem install_twice (g : Logging) (tree : Files.Tree) (c : LogConfig) (h : g.installed = true) :
    ∀ g', g.install tree c ≠ .ok g' := by
  intro g' e
  unfold Logging.install at e
  cases hc : c.file with
  | none => simp [hc, h, Except.bind] at e
  | some p =>
    cases ho : tree.openAppend p.names <;>
      simp [hc, ho, h, Except.bind] at e

end Phrasebook
