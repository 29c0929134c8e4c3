/-
# The shared registry

A program has one registry for all its definitions. It is made when it is first asked for, and
again after it has been given up; a number tells one making from another.
-/
import FeatureDoc.Registry.Basic

namespace FeatureDoc

/-- The registry that is shared, if it has been made. -/
structure SharedRegistry where
  /-- The definitions of the program. -/
  definitions : List Definition
  /-- How often the registry has been made. -/
  made : Nat
  /-- The registry, unless it has been given up. -/
  current : Option Registry

namespace SharedRegistry

/-- The shared registry before anyone has asked for it. -/
def start (definitions : List Definition) : SharedRegistry :=
  { definitions, made := 0, current := none }

/-- The registry, which is made if need be, and what is made known about that. -/
def get (s : SharedRegistry) : Registry × SharedRegistry × Journal :=
  match s.current with
  | some r => (r, s, [])
  | none =>
    let r := Registry.ofList s.definitions
    (r, { s with made := s.made + 1, current := some r }, r.notes)

/-- Gives the registry up. -/
def reset (s : SharedRegistry) : SharedRegistry × Journal :=
  ({ s with current := none },
    if s.current.isSome then [⟨.debug, .registering, "step registry reset"⟩] else [])

end SharedRegistry

end FeatureDoc
