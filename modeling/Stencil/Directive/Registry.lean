import Stencil.Directive.Basic

/-!
# Registered directives

Further directives can be registered under names of their own. Such a directive gets the
value and the whole text of its arguments. A directive that is always there hides a
registered one of the same name.

## Main definitions

* `Registry`: the registered directives
* `Registry.register`, `Registry.get?`: names are the same in any letter case, and a later
  registration of a name replaces the earlier one
* `Registry.isActive`: whether a registered name is not hidden
-/

namespace Stencil

/-- A directive as it is registered: from a value and the text of the arguments to a value. -/
abbrev CustomDirective := Value → Text → Value

/-- The registered directives under their names in lower case, the latest first. -/
structure Registry where
  /-- The registrations, the latest first. -/
  entries : List (Text × CustomDirective) := []

namespace Registry

/-- Registers a directive. -/
def register (registry : Registry) (name : Text) (directive : CustomDirective) : Registry :=
  ⟨(Text.lower name, directive) :: registry.entries⟩

/-- The directive registered last under a name. -/
def get? (registry : Registry) (name : Text) : Option CustomDirective :=
  (registry.entries.find? fun (key, _) => key == Text.lower name).map Prod.snd

/-- Whether a registered directive of this name can be reached. -/
def isActive (name : Text) : Bool :=
  (Directive.ofName? name).isNone

/-- A registration binds its name and leaves the others. -/
theorem get?_register (registry : Registry) (key name : Text) (directive : CustomDirective) :
    (registry.register key directive).get? name =
      if Text.sameIgnoringCase key name then some directive else registry.get? name := by
  by_cases h : Text.lower key = Text.lower name <;>
    simp [register, get?, Text.sameIgnoringCase, h]

end Registry

end Stencil
