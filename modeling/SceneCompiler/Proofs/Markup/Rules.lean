import Mathlib
import SceneCompiler.Markup.Stylesheet
import SceneCompiler.Proofs.Table
/-!
# Rules of a style sheet

The style sheet of a tree has a rule for every node with declarations, under the class of the node,
and every declaration of the node has its line in that rule.

* `declares_stylesheet`: the line of a declaration.
-/

namespace SceneCompiler

/-! ## Lines of declarations -/

/-- The line of a declaration. -/
def declarationLine (property value : String) : List Char :=
  "  ".toList ++ property.toList ++ ": ".toList ++ value.toList ++ ";\n".toList

/-- The code has a rule for a class that gives a property a value. -/
def Declares (code chosen property value : String) : Prop :=
  ∃ body : List Char, styleRule ('.' :: chosen.toList) body <:+: code.toList
    ∧ declarationLine property value <:+: body

/-- Code that ends in other code has its rules. -/
theorem Declares.of_suffix {sheet code chosen property value : String}
    (h : Declares sheet chosen property value) (hsheet : sheet.toList <:+ code.toList) :
    Declares code chosen property value := by
  obtain ⟨body, hrule, hline⟩ := h
  exact ⟨body, hrule.trans hsheet.isInfix, hline⟩

theorem declarationLine_infix {d : Declarations} {property value : String}
    (h : d[property]? = some value) : declarationLine property value <:+: ruleBody d := by
  have hmem := Std.ExtTreeMap.mem_toList_iff_getElem?_eq_some.mpr h
  obtain ⟨before, after, hsplit⟩ := List.append_of_mem hmem
  unfold ruleBody
  rw [hsplit, List.flatMap_append, List.flatMap_cons]
  exact ⟨_, _, List.append_assoc _ _ _⟩

theorem not_blank_of_declarationLine {body : List Char} {property value : String}
    (h : declarationLine property value <:+: body) : body.all isWhite = false := by
  -- It has a colon, which is no white space.
  have hcolon : ':' ∈ body := by
    refine h.subset ?_
    unfold declarationLine
    simp
  rw [Bool.eq_false_iff]
  intro hblank
  have hwhite := List.all_eq_true.mp hblank ':' hcolon
  exact absurd hwhite (by decide)

/-! ## The style sheet -/

theorem infix_intercalate {separator part : List Char} {parts : List (List Char)}
    (h : part ∈ parts) : part <:+: List.intercalate separator parts := by
  induction parts with
  | nil => cases h
  | cons first rest ih =>
    cases rest with
    | nil =>
      obtain rfl := List.mem_singleton.mp h
      rw [List.intercalate_singleton]
    | cons second others =>
      rw [List.intercalate_cons_cons]
      rcases List.mem_cons.mp h with rfl | hlater
      · exact ⟨[], _, by rw [List.nil_append, List.append_assoc]⟩
      · exact (ih hlater).trans (List.suffix_append _ _).isInfix

/-- Every declaration of a node has its line in the rule of the node's class. -/
theorem declares_stylesheet {t : VisibleTree} {classes bodies : Std.ExtTreeMap NodeId String}
    {id : NodeId} {chosen property value : String} {d : Declarations} (hid : id ∈ t.order)
    (hclass : classes[id]? = some chosen)
    (hbody : bodies[id]? = some (String.ofList (ruleBody d))) (hvalue : d[property]? = some value) :
    Declares (stylesheet t classes bodies) chosen property value := by
  have hline := declarationLine_infix hvalue
  refine ⟨ruleBody d, ?_, hline⟩
  unfold stylesheet
  rw [String.toList_ofList]
  refine infix_intercalate (List.mem_filterMap.mpr ⟨id, hid, ?_⟩)
  simp only [hclass, hbody, String.toList_ofList]
  rw [not_blank_of_declarationLine hline]
  rfl

end SceneCompiler
