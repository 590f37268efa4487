import Mathlib
import SceneCompiler.Asset.Svg
import SceneCompiler.Proofs.Asset.OpeningTag
/-!
# Normalized markup

What the reader takes from a tag can be written again: a name is of name characters, and a value
lacks one of the two quotes, the one that it was read between. So a written tag is read as what it
says, and giving a root tag a size changes nothing but the tag, and changes it once.

* `writable_of_read?`: what can be read can be written.
* `read?_write`: what is written is read again.
* `SvgTag.Resized`, `resized_resize`: a tag with a new size.
* `normalizeSvg_normalized`: normalized markup.
-/

namespace SceneCompiler

/-! ## What the reader takes -/

/-- An attribute that can be written: the name is read as one, and a quote is left for the value. -/
structure SvgAttribute.Writable (a : SvgAttribute) : Prop where
  name_ne_nil : a.name.toList ≠ []
  name : ∀ c ∈ a.name.toList, SvgTag.isNameChar c = true
  value : '"' ∉ a.value.toList ∨ '\'' ∉ a.value.toList

def SvgTag.Writable (t : SvgTag) : Prop :=
  ∀ a ∈ t.attributes, a.Writable

namespace SvgTag

variable {s rest : List Char} {fuel : Nat}

/-- A quoted text is free of its quote. -/
theorem takeQuoted?_eq_some {value : List Char} (h : takeQuoted? s = some (value, rest)) :
    ('"' ∉ value ∨ '\'' ∉ value) ∧ rest <:+ s := by
  cases s with
  | nil => cases h
  | cons c s =>
    rw [takeQuoted?] at h
    split at h
    · next hquote =>
      split at h
      · next d rest' hdrop =>
        obtain ⟨rfl, rfl⟩ := Prod.mk.inj (Option.some.inj h)
        have hfree : c ∉ s.takeWhile (· ≠ c) := fun hc => by
          have := List.mem_takeWhile_imp hc
          simp at this
        have hsuffix : d :: rest' <:+ s := hdrop ▸ List.dropWhile_suffix _
        refine ⟨?_, ((List.suffix_cons d rest').trans hsuffix).trans (List.suffix_cons c s)⟩
        rcases hquote with rfl | rfl
        · exact Or.inl hfree
        · exact Or.inr hfree
      · cases h
    · cases h

/-- An attribute without a value has the empty one. -/
theorem takeValue?_eq_some {value : List Char} (h : takeValue? s = some (value, rest)) :
    ('"' ∉ value ∨ '\'' ∉ value) ∧ rest <:+ s := by
  rw [takeValue?] at h
  split at h
  · next r hdrop =>
    obtain ⟨hfree, hrest⟩ := takeQuoted?_eq_some h
    have hsuffix : '=' :: r <:+ s := hdrop ▸ List.dropWhile_suffix _
    have hblanks : r.dropWhile isBlank <:+ r := List.dropWhile_suffix _
    exact ⟨hfree, hrest.trans (hblanks.trans ((List.suffix_cons '=' r).trans hsuffix))⟩
  · obtain ⟨rfl, rfl⟩ := Prod.mk.inj (Option.some.inj h)
    exact ⟨Or.inl List.not_mem_nil, List.dropWhile_suffix _⟩

theorem takeAttribute?_eq_some {a : SvgAttribute} (h : takeAttribute? s = some (a, rest)) :
    a.Writable ∧ rest <:+ s := by
  simp only [takeAttribute?] at h
  split at h
  · cases h
  · next hne =>
    obtain ⟨⟨value, rest'⟩, hvalue, heq⟩ := Option.bind_eq_some_iff.mp h
    obtain ⟨rfl, rfl⟩ := Prod.mk.inj (Option.some.inj heq)
    obtain ⟨hfree, hrest⟩ := takeValue?_eq_some hvalue
    have hwritable : (⟨String.ofList (s.takeWhile isNameChar), String.ofList value⟩ :
        SvgAttribute).Writable := by
      refine ⟨?_, ?_, ?_⟩
      · rwa [String.toList_ofList]
      · rw [String.toList_ofList]
        exact fun c hc => List.mem_takeWhile_imp hc
      · rwa [String.toList_ofList]
    exact ⟨hwritable, hrest.trans (List.dropWhile_suffix _)⟩

/-- By induction on the attributes that are read. -/
theorem readAttributes?_eq_some {tag : SvgTag} (h : readAttributes? fuel s = some (tag, rest)) :
    tag.Writable ∧ rest <:+ s := by
  induction fuel generalizing s tag rest with
  | zero => cases h
  | succ fuel ih =>
    have hgap : s.dropWhile isWhite <:+ s := List.dropWhile_suffix _
    rw [readAttributes?] at h
    split at h
    · next rest' hdrop =>
      obtain ⟨rfl, rfl⟩ := Prod.mk.inj (Option.some.inj h)
      rw [hdrop] at hgap
      exact ⟨fun a ha => absurd ha List.not_mem_nil,
        (List.suffix_append ['/', '>'] rest').trans hgap⟩
    · next rest' hdrop =>
      obtain ⟨rfl, rfl⟩ := Prod.mk.inj (Option.some.inj h)
      rw [hdrop] at hgap
      exact ⟨fun a ha => absurd ha List.not_mem_nil, (List.suffix_cons '>' rest').trans hgap⟩
    · obtain ⟨⟨first, r⟩, hfirst, h⟩ := Option.bind_eq_some_iff.mp h
      obtain ⟨⟨tag', r'⟩, hothers, heq⟩ := Option.bind_eq_some_iff.mp h
      obtain ⟨rfl, rfl⟩ := Prod.mk.inj (Option.some.inj heq)
      obtain ⟨hwritable, hr⟩ := takeAttribute?_eq_some hfirst
      obtain ⟨hall, hr'⟩ := ih hothers
      exact ⟨List.forall_mem_cons.mpr ⟨hwritable, hall⟩, hr'.trans (hr.trans hgap)⟩

end SvgTag

/-! ## Writing and reading back -/

/-- The attribute with the quotes that are left for its value. -/
def SvgAttribute.written (a : SvgAttribute) : WrittenAttribute where
  gap := [' ']
  name := a.name.toList
  quote := if a.value.toList.contains '"' then '\'' else '"'
  value := a.value.toList

def SvgTag.opening (t : SvgTag) : OpeningTag where
  attributes := t.attributes.map SvgAttribute.written
  selfClosing := t.selfClosing

section Written

variable {a : SvgAttribute} {t : SvgTag}

theorem SvgAttribute.text_written (a : SvgAttribute) :
    a.written.text = SvgTag.writeAttribute a := by
  rw [WrittenAttribute.text, WrittenAttribute.assignment]
  rfl

theorem SvgAttribute.meaning_written (a : SvgAttribute) : a.written.meaning = a := by
  show (⟨String.ofList a.name.toList, String.ofList a.value.toList⟩ : SvgAttribute) = a
  rw [String.ofList_toList, String.ofList_toList]

theorem SvgAttribute.Writable.written (h : a.Writable) :
    a.written.WellFormed ∧ a.written.Readable := by
  have hquote : a.written.quote ∈ ['"', '\''] ∧ a.written.quote ∉ a.value.toList := by
    show (if a.value.toList.contains '"' then '\'' else '"') ∈ _
      ∧ (if a.value.toList.contains '"' then '\'' else '"') ∉ _
    -- The writer takes the double quote where it can.
    by_cases hdouble : '"' ∈ a.value.toList
    · rw [if_pos (List.contains_iff_mem.mpr hdouble)]
      exact ⟨by simp, h.value.resolve_left (not_not_intro hdouble)⟩
    · rw [if_neg (fun hcontains => hdouble (List.contains_iff_mem.mp hcontains))]
      exact ⟨by simp, hdouble⟩
  have hnone : ∀ {p : Char → Prop}, ∀ c ∈ ([] : List Char), p c := fun c hc =>
    absurd hc List.not_mem_nil
  refine ⟨?_, h.name, hnone, hnone⟩
  exact
    { gap_ne_nil := List.cons_ne_nil _ _
      gap := fun c hc => by
        rw [List.mem_singleton.mp hc]
        exact List.mem_cons_self
      name_ne_nil := h.name_ne_nil
      name := fun c hc => isMarkupNameChar_of_isNameChar (h.name c hc)
      beforeEquals := hnone
      afterEquals := hnone
      quote := hquote.1
      value := hquote.2 }

theorem SvgTag.text_opening (t : SvgTag) : t.opening.text = t.write := by
  have hattributes : (t.attributes.map SvgAttribute.written).flatMap WrittenAttribute.text
      = t.attributes.flatMap SvgTag.writeAttribute := by
    rw [List.flatMap_map]
    exact congrArg (t.attributes.flatMap ·) (funext SvgAttribute.text_written)
  have hending : OpeningTag.ending t.selfClosing
      = if t.selfClosing then "/>".toList else ">".toList := by
    cases t.selfClosing <;> rfl
  show "<svg".toList ++ ((t.attributes.map SvgAttribute.written).flatMap WrittenAttribute.text
    ++ ([] ++ OpeningTag.ending t.selfClosing)) = _
  rw [hattributes, hending, List.nil_append, SvgTag.write, List.append_assoc]

theorem SvgTag.meaning_opening (t : SvgTag) : t.opening.meaning = t := by
  show (⟨(t.attributes.map SvgAttribute.written).map WrittenAttribute.meaning, t.selfClosing⟩
    : SvgTag) = t
  have hattributes : (t.attributes.map SvgAttribute.written).map WrittenAttribute.meaning
      = t.attributes := by
    rw [List.map_map]
    exact (List.map_congr_left fun a _ => SvgAttribute.meaning_written a).trans (List.map_id _)
  rw [hattributes]

theorem SvgTag.Writable.opening (h : t.Writable) : t.opening.WellFormed ∧ t.opening.Readable := by
  have hattributes : ∀ a ∈ t.opening.attributes, a.WellFormed ∧ a.Readable := by
    intro w hw
    obtain ⟨a, ha, rfl⟩ := List.mem_map.mp hw
    exact (h a ha).written
  refine ⟨⟨fun a ha => (hattributes a ha).1, by simp [SvgTag.opening]⟩, ?_,
    fun a ha => (hattributes a ha).2⟩
  -- After the name of the tag comes a space or the end.
  intro c hc
  rcases t with ⟨_ | ⟨a, attributes⟩, _ | _⟩
  all_goals
    cases hc
    decide

end Written

namespace SvgRoot

variable {markup : String} {root : SvgRoot}

/-- What a root that is read says of its markup. -/
theorem writable_of_read? (h : read? markup = some root) : SvgTag.Untagged root.before
    ∧ root.tag.Writable ∧ ∃ text, markup = String.ofList (root.before ++ (text ++ root.after)) := by
  rw [← String.ofList_toList (s := markup), read?_ofList] at h
  obtain ⟨found, hfind, hbody⟩ := Option.bind_eq_some_iff.mp h
  obtain ⟨⟨tag, after⟩, hread, rfl⟩ := Option.map_eq_some_iff.mp hbody
  obtain ⟨hsplit, -, huntagged⟩ := SvgTag.find?_eq_some_iff.mp hfind
  obtain ⟨hwritable, body, hafter⟩ := SvgTag.readAttributes?_eq_some hread
  refine ⟨huntagged, hwritable, "<svg".toList ++ body, ?_⟩
  rw [← String.ofList_toList (s := markup), hsplit, ← hafter, List.append_assoc]

/-- A root that is written is read again. -/
theorem read?_write (hbefore : SvgTag.Untagged root.before) (htag : root.tag.Writable) :
    read? root.write = some root := by
  obtain ⟨hwell, hread⟩ := htag.opening
  have h := read?_openingTag hwell hread hbefore root.after
  rw [SvgTag.text_opening, SvgTag.meaning_opening] at h
  rw [write, List.append_assoc]
  exact h

end SvgRoot

/-! ## Texts of numbers -/

/-- Characters of written numbers and lengths. -/
def isLengthChar (c : Char) : Bool :=
  c.isAlphanum || c == '-' || c == '.'

section Lengths

variable {c : Char} {s : List Char}

theorem isLengthChar_of_isDigit (h : c.isDigit = true) : isLengthChar c = true := by
  simp [isLengthChar, Char.isAlphanum, h]

theorem isLengthChar_decimalDigits {n : Nat} (h : c ∈ decimalDigits n) : isLengthChar c = true :=
  isLengthChar_of_isDigit (Nat.isDigit_of_mem_toDigits (by decide) (by decide) h)

theorem isLengthChar_sign {negative : Prop} [Decidable negative]
    (h : c ∈ if negative then ['-'] else []) : isLengthChar c = true := by
  split at h
  · rw [List.mem_singleton.mp h]
    decide
  · cases h

theorem isLengthChar_integerText {n : Int} (h : c ∈ (integerText n).toList) :
    isLengthChar c = true := by
  rw [integerText, String.toList_ofList] at h
  exact (List.mem_append.mp h).elim isLengthChar_sign isLengthChar_decimalDigits

theorem isLengthChar_pointedDigits {places units : Nat} (h : c ∈ pointedDigits places units) :
    isLengthChar c = true := by
  rcases List.mem_append.mp h with h | h
  · exact isLengthChar_decimalDigits h
  · split at h
    · cases h
    · rcases List.mem_cons.mp h with rfl | h
      · decide
      · rcases List.mem_append.mp h with h | h
        · rw [List.eq_of_mem_replicate h]
          decide
        · exact isLengthChar_decimalDigits h

theorem isLengthChar_fixedSingle {places : Nat} {x : Float32} (h : c ∈ fixedSingle places x) :
    isLengthChar c = true := by
  have hnames : ("NaN".toList.all isLengthChar && "-inf".toList.all isLengthChar
      && "inf".toList.all isLengthChar) = true := by decide +kernel
  simp only [Bool.and_eq_true] at hnames
  rw [fixedSingle] at h
  split at h
  · rw [Exact.fixed] at h
    exact (List.mem_append.mp h).elim isLengthChar_sign isLengthChar_pointedDigits
  · split at h
    · exact List.all_eq_true.mp hnames.1.1 c h
    · split at h
      · exact List.all_eq_true.mp hnames.1.2 c h
      · exact List.all_eq_true.mp hnames.2 c h

theorem mem_of_mem_dropTrailing {d : Char} (h : c ∈ dropTrailing d s) : c ∈ s := by
  rw [dropTrailing, List.mem_reverse] at h
  exact List.mem_reverse.mp ((List.dropWhile_suffix _).subset h)

theorem isLengthChar_formatNumber {x : Float32} (h : c ∈ (formatNumber x).toList) :
    isLengthChar c = true := by
  have hwritten : c ∈ (String.ofList (dropTrailing '.' (dropTrailing '0'
      (fixedSingle 3 x)))).toList → isLengthChar c = true := by
    rw [String.toList_ofList]
    exact fun h => isLengthChar_fixedSingle (mem_of_mem_dropTrailing (mem_of_mem_dropTrailing h))
  simp only [formatNumber] at h
  split at h
  · split at h
    · exact isLengthChar_integerText h
    · exact hwritten h
  · exact hwritten h

theorem isLengthChar_formatLength {unit : LengthUnit} {x : Float32}
    (h : c ∈ (unit.formatLength x).toList) : isLengthChar c = true := by
  have hunits : ("px".toList.all isLengthChar && "rem".toList.all isLengthChar) = true := by
    decide +kernel
  rw [Bool.and_eq_true] at hunits
  have hnumber : ∀ {y : Float32} {suffix : String}, suffix.toList.all isLengthChar = true →
      c ∈ (formatNumber y ++ suffix).toList → isLengthChar c = true := by
    intro y suffix hsuffix hmem
    rw [String.toList_append] at hmem
    exact (List.mem_append.mp hmem).elim isLengthChar_formatNumber (List.all_eq_true.mp hsuffix c)
  cases unit with
  | px => exact hnumber hunits.1 h
  | rem base =>
    rw [LengthUnit.formatLength] at h
    split at h
    · exact hnumber hunits.2 h
    · exact hnumber hunits.1 h

theorem quote_not_mem (h : ∀ c ∈ s, isLengthChar c = true) : '"' ∉ s :=
  fun hmem => absurd (h '"' hmem) (by decide)

end Lengths

/-! ## Setting attributes -/

namespace SvgTag

def names (t : SvgTag) : List String :=
  t.attributes.map (·.name)

section Attributes

variable {t : SvgTag} {a : SvgAttribute} {name value : String} {p : String → Bool}

theorem isSome_attribute?_iff : (t.attribute? name).isSome = true ↔ name ∈ t.names := by
  rw [attribute?, Option.isSome_map, List.find?_isSome, names, List.mem_map]
  simp

theorem names_setAttribute : (t.setAttribute name value).names
    = t.names ++ if name ∈ t.names then [] else [name] := by
  rw [setAttribute]
  split
  · next h =>
    rw [if_pos (isSome_attribute?_iff.mp h), List.append_nil, names, List.map_map]
    refine List.map_congr_left fun a _ => ?_
    show (if a.name = name then { a with value } else a).name = a.name
    split <;> rfl
  · next h =>
    rw [if_neg (mt isSome_attribute?_iff.mpr h)]
    exact List.map_append

theorem mem_names_setAttribute {other : String} :
    other ∈ (t.setAttribute name value).names ↔ other ∈ t.names ∨ other = name := by
  rw [names_setAttribute, List.mem_append]
  split
  · next h =>
    rw [or_iff_left List.not_mem_nil]
    exact ⟨Or.inl, fun h' => h'.elim id fun heq => heq ▸ h⟩
  · rw [List.mem_singleton]

theorem names_addAttribute : (t.addAttribute name value).names
    = t.names ++ if name ∈ t.names then [] else [name] := by
  rw [addAttribute]
  split
  · next h => rw [if_pos (isSome_attribute?_iff.mp h), List.append_nil]
  · next h =>
    rw [if_neg (mt isSome_attribute?_iff.mpr h)]
    exact List.map_append

theorem mem_setAttribute (h : a ∈ (t.setAttribute name value).attributes) :
    a = ⟨name, value⟩ ∨ a ∈ t.attributes ∧ a.name ≠ name := by
  rw [setAttribute] at h
  split at h
  · obtain ⟨b, hb, heq⟩ := List.mem_map.mp h
    split at heq
    · next hname => exact Or.inl (by rw [← heq, ← hname])
    · next hname => exact Or.inr (heq ▸ ⟨hb, hname⟩)
  · next hnone =>
    rcases List.mem_append.mp h with h | h
    · refine Or.inr ⟨h, fun hname => hnone (isSome_attribute?_iff.mpr ?_)⟩
      exact List.mem_map.mpr ⟨a, h, hname⟩
    · exact Or.inl (List.mem_singleton.mp h)

theorem mem_addAttribute (h : a ∈ (t.addAttribute name value).attributes) :
    a = ⟨name, value⟩ ∨ a ∈ t.attributes := by
  rw [addAttribute] at h
  split at h
  · exact Or.inr h
  · exact (List.mem_append.mp h).symm.imp_left List.mem_singleton.mp

/-- Attributes of other names are kept, with their order. -/
theorem filter_setAttribute (hp : p name = false) :
    (t.setAttribute name value).attributes.filter (fun a => p a.name)
      = t.attributes.filter (fun a => p a.name) := by
  rw [setAttribute]
  split
  · rw [List.filter_map]
    -- A new value changes no name, and the filter leaves out what gets one.
    have hsame : ((fun a : SvgAttribute => p a.name) ∘ fun a : SvgAttribute =>
        if a.name = name then { a with value } else a) = fun a => p a.name := by
      funext a
      show p (if a.name = name then { a with value } else a).name = p a.name
      split <;> rfl
    rw [hsame]
    refine (List.map_congr_left fun a ha => if_neg fun hname => ?_).trans (List.map_id _)
    have hkept : p a.name = true := (List.mem_filter.mp ha).2
    rw [hname, hp] at hkept
    cases hkept
  · rw [List.filter_append, List.filter_cons_of_neg (by simp [hp]), List.filter_nil,
      List.append_nil]

theorem filter_addAttribute (hp : p name = true) :
    (t.addAttribute name value).attributes.filter (fun a => p a.name)
      = t.attributes.filter (fun a => p a.name) ++
        if name ∈ t.names then [] else [⟨name, value⟩] := by
  rw [addAttribute]
  split
  · next h => rw [if_pos (isSome_attribute?_iff.mp h), List.append_nil]
  · next h =>
    have hlast : [(⟨name, value⟩ : SvgAttribute)].filter (fun a => p a.name) = [⟨name, value⟩] :=
      List.filter_cons_of_pos hp
    rw [if_neg (mt isSome_attribute?_iff.mpr h), List.filter_append, hlast]

theorem selfClosing_setAttribute : (t.setAttribute name value).selfClosing = t.selfClosing := by
  rw [setAttribute]
  split <;> rfl

theorem selfClosing_addAttribute : (t.addAttribute name value).selfClosing = t.selfClosing := by
  rw [addAttribute]
  split <;> rfl

theorem setAttribute_eq_self (hname : name ∈ t.names)
    (hvalue : ∀ a ∈ t.attributes, a.name = name → a.value = value) :
    t.setAttribute name value = t := by
  have hall : t.attributes.map (fun a => if a.name = name then { a with value } else a)
      = t.attributes := by
    refine (List.map_congr_left fun a ha => ?_).trans (List.map_id _)
    split
    · next h => rw [← hvalue a ha h]; rfl
    · rfl
  rw [setAttribute, if_pos (isSome_attribute?_iff.mpr hname), hall]

theorem addAttribute_eq_self (hname : name ∈ t.names) : t.addAttribute name value = t :=
  if_pos (isSome_attribute?_iff.mpr hname)

end Attributes

/-! ## A new size -/

/-- The attributes that are no size. -/
def others (t : SvgTag) : List SvgAttribute :=
  t.attributes.filter fun a => a.name ∉ ["width", "height"]

/-- A view box of the size that the tag says in pixels, or else of the given one. -/
def viewBox (t : SvgTag) (width height : Float32) : SvgAttribute :=
  ⟨"viewBox", "0 0 " ++ formatNumber ((t.lengthOf? "width").getD width) ++ " "
    ++ formatNumber ((t.lengthOf? "height").getD height)⟩

/-- A tag is another one with a size in a unit, and with a view box. -/
structure Resized (w h : Float32) (unit : LengthUnit) (old new : SvgTag) : Prop where
  width : ∀ a ∈ new.attributes, a.name = "width" → a.value = unit.formatLength w
  height : ∀ a ∈ new.attributes, a.name = "height" → a.value = unit.formatLength h
  complete : ["width", "height", "viewBox"] ⊆ new.names
  /-- The attributes stay in their places. -/
  names : old.names <+: new.names
  /-- Only the view box may come to the other attributes. -/
  others : new.others = old.others ++
    if "viewBox" ∈ old.names then [] else [old.viewBox w h]
  selfClosing : new.selfClosing = old.selfClosing

section Resize

variable {t old : SvgTag} {width height : Float32} {unit : LengthUnit}

theorem resize_eq (t : SvgTag) (width height : Float32) (unit : LengthUnit) :
    t.resize width height unit = ((t.setAttribute "width" (unit.formatLength width)).setAttribute
      "height" (unit.formatLength height)).addAttribute "viewBox"
        (t.viewBox width height).value := rfl

/-- The attributes of a tag with a new size. -/
theorem mem_resize {a : SvgAttribute} (h : a ∈ (t.resize width height unit).attributes) :
    a = t.viewBox width height ∨ a = ⟨"height", unit.formatLength height⟩
      ∨ a = ⟨"width", unit.formatLength width⟩
      ∨ a ∈ t.attributes ∧ a.name ≠ "width" ∧ a.name ≠ "height" := by
  rw [resize_eq] at h
  rcases mem_addAttribute h with rfl | h
  · exact Or.inl rfl
  rcases mem_setAttribute h with rfl | ⟨h, hheight⟩
  · exact Or.inr (Or.inl rfl)
  rcases mem_setAttribute h with rfl | ⟨h, hwidth⟩
  · exact Or.inr (Or.inr (Or.inl rfl))
  · exact Or.inr (Or.inr (Or.inr ⟨h, hwidth, hheight⟩))

theorem viewBox_mem_names_sizes {w h : String} :
    "viewBox" ∈ ((t.setAttribute "width" w).setAttribute "height" h).names
      ↔ "viewBox" ∈ t.names := by
  rw [mem_names_setAttribute, mem_names_setAttribute, or_assoc]
  exact or_iff_left (by decide +kernel)

theorem names_resize : (t.resize width height unit).names = t.names ++
    ((if "width" ∈ t.names then [] else ["width"]) ++
      ((if "height" ∈ t.names then [] else ["height"]) ++
        if "viewBox" ∈ t.names then [] else ["viewBox"])) := by
  have hheight : "height" ∈ (t.setAttribute "width" (unit.formatLength width)).names
      ↔ "height" ∈ t.names := by
    rw [mem_names_setAttribute]
    exact or_iff_left (by decide +kernel)
  rw [resize_eq, names_addAttribute]
  simp only [viewBox_mem_names_sizes]
  rw [names_setAttribute]
  simp only [hheight]
  rw [names_setAttribute, List.append_assoc, List.append_assoc]

theorem resized_resize (t : SvgTag) (width height : Float32) (unit : LengthUnit) :
    Resized width height unit t (t.resize width height unit) where
  width := by
    have hnames : "viewBox" ≠ "width" ∧ "height" ≠ "width" := by decide +kernel
    intro a ha hname
    rcases mem_resize ha with rfl | rfl | rfl | ⟨-, hne, -⟩
    · exact absurd hname hnames.1
    · exact absurd hname hnames.2
    · rfl
    · exact absurd hname hne
  height := by
    have hnames : "viewBox" ≠ "height" ∧ "width" ≠ "height" := by decide +kernel
    intro a ha hname
    rcases mem_resize ha with rfl | rfl | rfl | ⟨-, -, hne⟩
    · exact absurd hname hnames.1
    · rfl
    · exact absurd hname hnames.2
    · exact absurd hname hne
  complete := by
    -- Each of the three names is there from the start, or it is added.
    have hadded : ∀ name, name ∈ t.names ∨ name ∈ if name ∈ t.names then [] else [name] := by
      intro name
      split
      · next h => exact Or.inl h
      · exact Or.inr List.mem_cons_self
    intro name hname
    rw [names_resize]
    simp only [List.mem_cons, List.not_mem_nil, or_false] at hname
    simp only [List.mem_append]
    rcases hname with rfl | rfl | rfl
    · exact (hadded _).imp_right Or.inl
    · exact (hadded _).imp_right fun h => Or.inr (Or.inl h)
    · exact (hadded _).imp_right fun h => Or.inr (Or.inr h)
  names := by
    rw [names_resize]
    exact List.prefix_append _ _
  others := by
    let other : String → Bool := fun name => name ∉ ["width", "height"]
    have hwidth : other "width" = false := by decide +kernel
    have hheight : other "height" = false := by decide +kernel
    have hbox : other "viewBox" = true := by decide +kernel
    show (t.resize width height unit).attributes.filter (fun a => other a.name)
      = t.attributes.filter (fun a => other a.name) ++ _
    rw [resize_eq, filter_addAttribute hbox, filter_setAttribute hheight,
      filter_setAttribute hwidth]
    simp only [viewBox_mem_names_sizes]
    rfl
  selfClosing := by
    rw [resize_eq, selfClosing_addAttribute, selfClosing_setAttribute, selfClosing_setAttribute]

/-- A tag that has the size keeps it. -/
theorem Resized.resize_eq_self (h : Resized width height unit old t) :
    t.resize width height unit = t := by
  have hwidth : t.setAttribute "width" (unit.formatLength width) = t :=
    setAttribute_eq_self (h.complete (by simp)) h.width
  have hheight : t.setAttribute "height" (unit.formatLength height) = t :=
    setAttribute_eq_self (h.complete (by simp)) h.height
  rw [resize_eq, hwidth, hheight]
  exact addAttribute_eq_self (h.complete (by simp))

theorem writable_of_quote_not_mem {name value : String} (hne : name.toList ≠ [])
    (hname : name.toList.all isNameChar = true) (hvalue : '"' ∉ value.toList) :
    (⟨name, value⟩ : SvgAttribute).Writable :=
  ⟨hne, List.all_eq_true.mp hname, Or.inl hvalue⟩

theorem quote_not_mem_viewBox : '"' ∉ (t.viewBox width height).value.toList := by
  have hnumber : ∀ x : Float32, '"' ∉ (formatNumber x).toList := fun x =>
    quote_not_mem fun c hc => isLengthChar_formatNumber hc
  have horigin : '"' ∉ "0 0 ".toList := by decide +kernel
  have hspace : '"' ∉ " ".toList := by decide +kernel
  simp only [viewBox, String.toList_append, List.mem_append, not_or]
  exact ⟨⟨⟨horigin, hnumber _⟩, hspace⟩, hnumber _⟩

/-- The new attributes are texts of lengths. -/
theorem Writable.resize (h : t.Writable) : (t.resize width height unit).Writable := by
  have hlength : ∀ x : Float32, '"' ∉ (unit.formatLength x).toList := fun x =>
    quote_not_mem fun c hc => isLengthChar_formatLength hc
  intro a ha
  rcases mem_resize ha with rfl | rfl | rfl | ⟨ha, -, -⟩
  · exact writable_of_quote_not_mem (by decide +kernel) (by decide +kernel) quote_not_mem_viewBox
  · exact writable_of_quote_not_mem (by decide +kernel) (by decide +kernel) (hlength height)
  · exact writable_of_quote_not_mem (by decide +kernel) (by decide +kernel) (hlength width)
  · exact h a ha

end Resize

end SvgTag

/-! ## Normalized markup -/

section Normalized

variable {markup : String} {width height : Float32} {unit : LengthUnit} {root : SvgRoot}

theorem normalizeSvg_of_read? (h : SvgRoot.read? markup = some root) :
    normalizeSvg markup width height unit
      = { root with tag := root.tag.resize width height unit }.write := by
  rw [normalizeSvg, h]

theorem normalizeSvg_of_read?_eq_none (h : SvgRoot.read? markup = none) :
    normalizeSvg markup width height unit = markup := by
  rw [normalizeSvg, h]

/-- Normalized markup is read as the root with its new size, and as nothing else. -/
theorem read?_normalizeSvg (markup : String) (width height : Float32) (unit : LengthUnit) :
    SvgRoot.read? (normalizeSvg markup width height unit) = (SvgRoot.read? markup).map fun root =>
      { root with tag := root.tag.resize width height unit } := by
  cases h : SvgRoot.read? markup with
  | none =>
    rw [normalizeSvg_of_read?_eq_none h, h]
    rfl
  | some root =>
    obtain ⟨hbefore, htag, -⟩ := SvgRoot.writable_of_read? h
    rw [normalizeSvg_of_read? h]
    exact SvgRoot.read?_write hbefore htag.resize

/-- Normalizing is done once. Markup without a root stays as it is. A root keeps its place and gets
its size, and what stands before and after its tag is unchanged. -/
theorem normalizeSvg_normalized (markup : String) (width height : Float32) (unit : LengthUnit) :
    normalizeSvg (normalizeSvg markup width height unit) width height unit
      = normalizeSvg markup width height unit ∧
    (SvgRoot.read? markup = none → normalizeSvg markup width height unit = markup) ∧
    ∀ root, SvgRoot.read? markup = some root → ∃ tag text,
      SvgRoot.read? (normalizeSvg markup width height unit) = some { root with tag } ∧
      SvgTag.Resized width height unit root.tag tag ∧
      markup = String.ofList (root.before ++ (text ++ root.after)) ∧
      normalizeSvg markup width height unit
        = String.ofList (root.before ++ (tag.write ++ root.after)) := by
  cases h : SvgRoot.read? markup with
  | none =>
    have hsame : normalizeSvg markup width height unit = markup := normalizeSvg_of_read?_eq_none h
    refine ⟨by rw [hsame, hsame], fun _ => hsame, fun root hroot => ?_⟩
    cases hroot
  | some root =>
    have hresized := root.tag.resized_resize width height unit
    have hwritten : normalizeSvg markup width height unit
        = { root with tag := root.tag.resize width height unit }.write := normalizeSvg_of_read? h
    have hread := read?_normalizeSvg markup width height unit
    rw [h, Option.map_some] at hread
    refine ⟨?_, fun hnone => ?_, fun root' hroot => ?_⟩
    · -- The root that is read again has its size already.
      rw [normalizeSvg_of_read? hread, hresized.resize_eq_self, hwritten]
    · cases hnone
    · obtain rfl := Option.some.inj hroot
      obtain ⟨-, -, text, hmarkup⟩ := SvgRoot.writable_of_read? h
      refine ⟨_, text, hread, hresized, hmarkup, ?_⟩
      rw [hwritten, SvgRoot.write, List.append_assoc]

/-- Markup whose root has repeated attributes and one without a value, and values with quotes of
both kinds, with angle brackets and with line ends. -/
def quotedMarkup : String :=
  "<svgs/><svg  width='\"'\r\n\twidth d=\"<a '>\n\" e='\">'\nd=''/><svg >"

def quotedRoot : SvgRoot where
  before := "<svgs/>".toList
  tag := ⟨[⟨"width", "\""⟩, ⟨"width", ""⟩, ⟨"d", "<a '>\n"⟩, ⟨"e", "\">"⟩, ⟨"d", ""⟩], true⟩
  after := "<svg >".toList

/-- The root of such markup gets its size and keeps its other attributes. -/
theorem normalizeSvg_quotedMarkup :
    (∃ tag text,
      SvgRoot.read? (normalizeSvg quotedMarkup 24 16 (.rem 16)) = some { quotedRoot with tag } ∧
      SvgTag.Resized 24 16 (.rem 16) quotedRoot.tag tag ∧
      quotedMarkup = String.ofList (quotedRoot.before ++ (text ++ quotedRoot.after)) ∧
      normalizeSvg quotedMarkup 24 16 (.rem 16)
        = String.ofList (quotedRoot.before ++ (tag.write ++ quotedRoot.after))) ∧
    normalizeSvg "<svgs/>" 24 16 .px = "<svgs/>" := by
  have hroot : SvgRoot.read? quotedMarkup = some quotedRoot := by rfl
  have hnone : SvgRoot.read? "<svgs/>" = none := by rfl
  exact ⟨(normalizeSvg_normalized quotedMarkup 24 16 (.rem 16)).2.2 quotedRoot hroot,
    (normalizeSvg_normalized "<svgs/>" 24 16 .px).2.1 hnone⟩

example : normalizeSvg quotedMarkup 24 16 (.rem 16) = "<svgs/><svg width=\"1.5rem\" " ++
    "width=\"1.5rem\" d=\"<a '>\n\" e='\">' d=\"\" height=\"1rem\" viewBox=\"0 0 24 16\"/><svg >" := by
  decide +kernel

end Normalized

end SceneCompiler
