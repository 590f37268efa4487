import Std.Data.ExtTreeMap
/-!
# Identifiers

Nodes and variables are named by the texts that the design tool gives them. Both kinds of names are
ordered as texts, which is the order of every map keyed by them.
-/

namespace SceneCompiler

/-- The name of a scene node, for instance `12:345`. -/
structure NodeId where
  text : String
deriving DecidableEq, Hashable, Repr, Inhabited

/-- The name of a design variable. -/
structure VariableId where
  text : String
deriving DecidableEq, Hashable, Repr, Inhabited

namespace NodeId

instance : Ord NodeId := ⟨compareOn NodeId.text⟩

instance : Std.TransOrd NodeId := inferInstanceAs (Std.TransCmp (compareOn NodeId.text))

instance : Std.LawfulEqOrd NodeId where
  compare_self := Std.ReflCmp.compare_self
  eq_of_compare {a b} h := by
    cases a; cases b
    exact congrArg NodeId.mk (Std.compare_eq_iff_eq.mp h)

end NodeId

namespace VariableId

instance : Ord VariableId := ⟨compareOn VariableId.text⟩

instance : Std.TransOrd VariableId := inferInstanceAs (Std.TransCmp (compareOn VariableId.text))

instance : Std.LawfulEqOrd VariableId where
  compare_self := Std.ReflCmp.compare_self
  eq_of_compare {a b} h := by
    cases a; cases b
    exact congrArg VariableId.mk (Std.compare_eq_iff_eq.mp h)

end VariableId

end SceneCompiler
