/-
# Settings

A setting is on or off. It may be set directly; otherwise a variable of the environment decides,
if it says something, and otherwise a default.
-/
import FeatureDoc.Text.Blank

namespace FeatureDoc

/-- The words that switch a setting on. -/
def onWords : List Text :=
  ["1", "true", "TRUE", "True", "yes", "YES", "Yes", "on", "ON", "On"]

/-- The words that switch a setting off. -/
def offWords : List Text :=
  ["0", "false", "FALSE", "False", "no", "NO", "No", "off", "OFF", "Off"]

/-- What a text says about a setting; any other text says nothing. -/
def readSwitch (t : Text) : Option Bool :=
  let word := Text.trim t
  if word ∈ onWords then some true else if word ∈ offWords then some false else none

/-- Something that is on or off. -/
structure Setting where
  /-- What it has been set to directly. -/
  override : Option Bool
  /-- The text of its variable in the environment. -/
  environment : Option Text
  /-- What holds otherwise. -/
  default : Bool

/-- Whether the setting is on. -/
def Setting.isOn (s : Setting) : Bool :=
  (s.override.or (s.environment.bind readSwitch)).getD s.default

/-- What can be set. Both settings are on by default. -/
structure Settings where
  /-- Whether documents that have been read are kept. -/
  cacheFeatures : Setting := ⟨none, none, true⟩
  /-- Whether a scenario has to be covered before it runs. -/
  validateOnBind : Setting := ⟨none, none, true⟩

end FeatureDoc
