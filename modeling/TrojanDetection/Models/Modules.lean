import Mathlib.Data.List.Basic

/-!
# The modules of a network

A network is seen through `model.named_modules()`: names with modules, in the order of definition.
`finalLinear` is the search of the source for the last `nn.Linear`; it only depends on what follows
the last linear layer's definition (`finalLinear_append`).
-/

set_option autoImplicit false

namespace TrojanDetection.Models

/-- A module as `isinstance(module, nn.Linear)` sees it; `ω` is the type of weights. -/
inductive Module (ω : Type)
  | linear (weight : ω)
  | other
  deriving DecidableEq, Repr

/-- `model.named_modules()`. -/
abbrev NamedModules (ω : Type) := List (String × Module ω)

variable {ω : Type}

/-- The weight of a linear layer, with the layer's name. -/
def Module.asLinear : String × Module ω → Option (String × ω)
  | (name, .linear weight) => some (name, weight)
  | (_, .other) => none

/-- `for name, module in reversed(list(model.named_modules()))`, up to the first linear layer. -/
def finalLinear (modules : NamedModules ω) : Option (String × ω) :=
  modules.reverse.findSome? Module.asLinear

/-- The last linear layer of the later modules, or else of the earlier ones. -/
theorem finalLinear_append (body head : NamedModules ω) :
    finalLinear (body ++ head) = (finalLinear head).or (finalLinear body) := by
  rw [finalLinear, List.reverse_append, List.findSome?_append]
  rfl

/-- A network without a linear layer has no last one. -/
theorem finalLinear_eq_none_iff {modules : NamedModules ω} :
    finalLinear modules = none ↔ ∀ m ∈ modules, Module.asLinear m = none := by
  rw [finalLinear, List.findSome?_eq_none_iff]
  simp only [List.mem_reverse]

end TrojanDetection.Models
