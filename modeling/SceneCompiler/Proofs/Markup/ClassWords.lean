import Mathlib
import SceneCompiler.Proofs.Markup.Classes
import SceneCompiler.Proofs.Tree.Order
/-!
# Classes are names

Whatever a node is called, its class is made of words of small letters and digits with single dashes
between them, and starts with a letter. Numbers behind a dash keep that shape. The search for a
class that is free has no bound of its own; it ends, since every number makes another class.

* `isClassName_baseClass`, `IsClassName.numbered`: the shape of classes.
* `givesOut_iff`: the unbounded searches end, and give out the classes of the table.
* `classNames_visibleTree`: every node of a tree has a class of its own, which is a name.
-/

namespace SceneCompiler

/-! ## Words and dashes -/

/-- Small letters and digits. -/
def IsClassChar (c : Char) : Prop :=
  c.isLower = true ∨ c.isDigit = true

def IsClassWord (w : List Char) : Prop :=
  w ≠ [] ∧ ∀ c ∈ w, IsClassChar c

/-- Words joined by single dashes. -/
inductive Hyphenated : List Char → Prop where
  | word {w : List Char} (hw : IsClassWord w) : Hyphenated w
  | join {w s : List Char} (hw : IsClassWord w) (hs : Hyphenated s) : Hyphenated (w ++ '-' :: s)

/-- Words joined by single dashes, of which the first starts with a letter. -/
structure IsClassName (s : List Char) : Prop where
  hyphenated : Hyphenated s
  letter : ∃ c ∈ s.head?, c.isLower = true

section Words

variable {c : Char} {s w : List Char}

theorem isClassWord_singleton (hc : IsClassChar c) : IsClassWord [c] :=
  ⟨List.cons_ne_nil _ _, fun _ hd => List.mem_singleton.mp hd ▸ hc⟩

theorem IsClassWord.cons (hc : IsClassChar c) (hw : IsClassWord w) : IsClassWord (c :: w) :=
  ⟨List.cons_ne_nil _ _, List.forall_mem_cons.mpr ⟨hc, hw.2⟩⟩

/-- A character in front belongs to the first word. -/
theorem Hyphenated.cons (hc : IsClassChar c) (hs : Hyphenated s) : Hyphenated (c :: s) := by
  cases hs with
  | word hw => exact .word (hw.cons hc)
  | join hw hs => exact .join (hw.cons hc) hs

theorem Hyphenated.append_word (hs : Hyphenated s) (hw : IsClassWord w) :
    Hyphenated (s ++ '-' :: w) := by
  induction hs with
  | word hv => exact .join hv (.word hw)
  | join hv _ ih =>
    rw [List.append_assoc, List.cons_append]
    exact .join hv ih

theorem Hyphenated.exists_head (hs : Hyphenated s) : ∃ c ∈ s.head?, IsClassChar c := by
  have hword : ∀ {w : List Char}, IsClassWord w → ∃ c ∈ w.head?, IsClassChar c := by
    rintro (_ | ⟨c, w⟩) ⟨hne, hchars⟩
    · exact absurd rfl hne
    · exact ⟨c, rfl, hchars c List.mem_cons_self⟩
  cases hs with
  | word hw => exact hword hw
  | join hw hs =>
    obtain ⟨c, hc, hchar⟩ := hword hw
    exact ⟨c, by rw [List.head?_append, hc, Option.some_or]; rfl, hchar⟩

end Words

/-! ## Names in small letters -/

theorem isClassChar_toLower {c : Char} (h : c.isAlphanum = true) : IsClassChar c.toLower := by
  rw [Char.isAlphanum, Bool.or_eq_true] at h
  rcases h with halpha | hdigit
  · exact Or.inl (by rw [Char.isLower_toLower_eq_isAlpha, halpha])
  · have hupper : ¬ c.isUpper = true := by
      grind [Char.isUpper, Char.isDigit, UInt32.le_iff_toNat_le]
    exact Or.inr (by rwa [Char.toLower_eq_of_not_isUpper hupper])

/-- Behind a character of a word the rest of a name goes on with it, or with a dash and a word. -/
theorem hyphenated_cons_hyphenateFrom {c : Char} (hc : IsClassChar c) (pending : Bool)
    (s : List Char) : Hyphenated (c :: hyphenateFrom Char.isAlphanum true pending s) := by
  induction s generalizing c pending with
  | nil => exact .word (isClassWord_singleton hc)
  | cons d s ih =>
    rw [hyphenateFrom]
    cases hkeep : d.isAlphanum with
    | false =>
      rw [if_neg Bool.false_ne_true]
      exact ih hc true
    | true =>
      have hrest := ih (isClassChar_toLower hkeep) false
      rw [if_pos rfl]
      cases pending with
      | false => exact hrest.cons hc
      | true => exact .join (isClassWord_singleton hc) hrest

/-- A name without words comes to nothing, every other one to words with dashes. -/
theorem hyphenated_hyphenate {s : List Char} (hne : hyphenate Char.isAlphanum s ≠ []) :
    Hyphenated (hyphenate Char.isAlphanum s) := by
  have hfrom : ∀ (s : List Char) (pending : Bool),
      hyphenateFrom Char.isAlphanum false pending s ≠ [] →
        Hyphenated (hyphenateFrom Char.isAlphanum false pending s) := by
    intro s
    induction s with
    | nil => exact fun _ hne => absurd rfl hne
    | cons d s ih =>
      intro pending hne
      rw [hyphenateFrom] at hne ⊢
      cases hkeep : d.isAlphanum with
      | false =>
        rw [hkeep, if_neg Bool.false_ne_true] at hne
        rw [if_neg Bool.false_ne_true]
        exact ih true hne
      | true => exact hyphenated_cons_hyphenateFrom (isClassChar_toLower hkeep) false s
  exact hfrom s false hne

theorem hyphenated_tagName (tag : Tag) : Hyphenated tag.name.toList := by
  have hletters : tag.name.toList.all Char.isLower = true := by
    cases tag <;> decide
  refine .word ⟨?_, fun c hc => Or.inl (List.all_eq_true.mp hletters c hc)⟩
  cases tag <;> decide

/-! ## Classes -/

theorem isClassName_baseClass (n : VisibleNode) : IsClassName (baseClass n) := by
  have hwords : Hyphenated (if (hyphenate Char.isAlphanum n.name.toList).isEmpty
      then n.tag.name.toList else hyphenate Char.isAlphanum n.name.toList) := by
    split
    · exact hyphenated_tagName n.tag
    · next hne => exact hyphenated_hyphenate (by simpa using hne)
  unfold baseClass
  dsimp only
  generalize (if (hyphenate Char.isAlphanum n.name.toList).isEmpty
    then n.tag.name.toList else hyphenate Char.isAlphanum n.name.toList) = base at hwords ⊢
  obtain ⟨c, hc, hchar⟩ := hwords.exists_head
  rw [Option.mem_def] at hc
  rw [hc, Option.any_some]
  split
  · exact ⟨.join (isClassWord_singleton (Or.inl (by decide))) hwords, 'n', rfl, by decide⟩
  · next hdigit => exact ⟨hwords, c, hc, hchar.resolve_right hdigit⟩

theorem isClassWord_decimalDigits (number : Nat) : IsClassWord (decimalDigits number) := by
  refine ⟨Nat.toDigits_ne_nil, fun c hc => Or.inr ?_⟩
  exact Nat.isDigit_of_mem_toDigits (by decide) (by decide) hc

/-- A number behind a dash is one word more. -/
theorem IsClassName.numbered {base : List Char} (h : IsClassName base) (number : Nat) :
    IsClassName (numberedClass base number).toList := by
  unfold numberedClass
  rw [String.toList_ofList]
  split
  · exact h
  · obtain ⟨c, hc, hletter⟩ := h.letter
    refine ⟨h.hyphenated.append_word (isClassWord_decimalDigits number), c, ?_, hletter⟩
    rw [List.head?_append, hc, Option.some_or]
    rfl

/-! ## The search for a free class -/

/-- The search from a number on, without a bound: a class that is taken leads to the next number. -/
inductive Chooses (taken : Std.ExtTreeSet String) (base : List Char) : Nat → String → Prop where
  | free {number : Nat} (h : numberedClass base number ∉ taken) :
      Chooses taken base number (numberedClass base number)
  | next {number : Nat} {c : String} (h : numberedClass base number ∈ taken)
      (hnext : Chooses taken base (number + 1) c) : Chooses taken base number c

section Choosing

variable {taken : Std.ExtTreeSet String} {base : List Char} {number tries : Nat} {c d : String}

theorem Chooses.unique (hc : Chooses taken base number c) (hd : Chooses taken base number d) :
    c = d := by
  induction hc with
  | free h =>
    cases hd with
    | free => rfl
    | next h' => exact absurd h' h
  | next h _ ih =>
    cases hd with
    | free h' => exact absurd h h'
    | next _ hd => exact ih hd

/-- What is chosen is the class with some number. -/
theorem Chooses.exists_number (hc : Chooses taken base number c) :
    ∃ k, c = numberedClass base k := by
  induction hc with
  | free => exact ⟨_, rfl⟩
  | next _ _ ih => exact ih

/-- A bounded search that finds a free class is the start of the unbounded one. -/
theorem chooses_of_notMem (h : freshClass taken base tries number ∉ taken) :
    Chooses taken base number (freshClass taken base tries number) := by
  induction tries generalizing number with
  | zero => exact .free h
  | succ tries ih =>
    rw [freshClass] at h ⊢
    split at h
    · next htaken =>
      rw [if_pos htaken]
      exact .next htaken (ih h)
    · next hfree =>
      rw [if_neg hfree]
      exact .free hfree

/-- The unbounded search ends, with the class of the bounded one. -/
theorem chooses_iff : Chooses taken base number c ↔
    c = freshClass taken base taken.size number := by
  have hfound : Chooses taken base number (freshClass taken base taken.size number) :=
    chooses_of_notMem (freshClass_notMem taken base number)
  constructor
  · intro hc
    exact hc.unique hfound
  · rintro rfl
    exact hfound

end Choosing

/-! ## The classes of a tree -/

/-- Classes are given out to nodes, one after the other, each by a search without a bound. -/
inductive GivesOut : ClassTable → List VisibleNode → ClassTable → Prop where
  | done {table : ClassTable} : GivesOut table [] table
  | node {table last : ClassTable} {n : VisibleNode} {rest : List VisibleNode} {c : String}
      (hc : Chooses table.taken (baseClass n) 1 c)
      (hrest : GivesOut
        { classes := table.classes.insert n.id c, taken := table.taken.insert c } rest last) :
      GivesOut table (n :: rest) last

theorem givesOut_iff {table last : ClassTable} {nodes : List VisibleNode} :
    GivesOut table nodes last ↔ last = nodes.foldl ClassTable.add table := by
  constructor
  · intro h
    induction h with
    | done => rfl
    | node hc _ ih =>
      obtain rfl := chooses_iff.mp hc
      exact ih
  · rintro rfl
    induction nodes generalizing table with
    | nil => exact .done
    | cons n rest ih => exact .node (chooses_iff.mpr rfl) ih

/-- All classes of a table are names. -/
def ClassTable.Named (table : ClassTable) : Prop :=
  ∀ (id : NodeId) (c : String), table.classes[id]? = some c → IsClassName c.toList

theorem ClassTable.Named.add {table : ClassTable} (h : table.Named) (n : VisibleNode) :
    (table.add n).Named := by
  intro id c hc
  rw [classes_add] at hc
  split at hc
  · obtain ⟨k, hk⟩ := (chooses_iff.mpr (Option.some.inj hc).symm).exists_number
    rw [hk]
    exact (isClassName_baseClass n).numbered k
  · exact h id c hc

theorem ClassTable.named_foldl {table : ClassTable} (h : table.Named) (nodes : List VisibleNode) :
    (nodes.foldl ClassTable.add table).Named := by
  induction nodes generalizing table with
  | nil => exact h
  | cons n rest ih => exact ih (h.add n)

/-- The classes of a tree are given out by searches that end. Every node of the tree has a class,
every class is a name, and no two nodes have the same. -/
theorem classNames_visibleTree (g : SceneGraph) (roots : List NodeId) (policy : DepthPolicy) :
    let t := g.visibleTree roots policy
    (∃ table, (∀ last, GivesOut {} (t.order.filterMap t.find?) last ↔ last = table) ∧
      table.classes = t.classNames) ∧
    (∀ id ∈ t.order, ∃ c, t.classNames[id]? = some c) ∧
    (∀ (id : NodeId) (c : String), t.classNames[id]? = some c → IsClassName c.toList) ∧
    ∀ (id id' : NodeId) (c : String), t.classNames[id]? = some c →
      t.classNames[id']? = some c → id = id' := by
  refine ⟨⟨_, fun last => givesOut_iff, rfl⟩, fun id hid => ?_, ?_, ?_⟩
  · obtain ⟨n, hn, hname⟩ := SceneGraph.exists_find?_visibleTree hid
    exact exists_class hid hn hname
  · have hempty : ClassTable.Named {} := by simp [ClassTable.Named]
    exact ClassTable.named_foldl hempty _
  · intro id id' c hc hc'
    exact classNames_inj hc hc'

/-! ### Names that come to the same class -/

/-- A frame whose children have its name, that name with a number, a name of digits, and no name. -/
def alikeCards : SceneDocument where
  roots := [.node { id := ⟨"f"⟩, type := .frame, name := "Card" } [
    .node { id := ⟨"a"⟩, type := .text, name := "  card!" } [],
    .node { id := ⟨"b"⟩, type := .text, name := "Card 2" } [],
    .node { id := ⟨"c"⟩, type := .text, name := "2" } [],
    .node { id := ⟨"d"⟩, type := .text, name := "é" } []]]

theorem classNames_alikeCards :
    ((SceneGraph.ofDocument alikeCards).visibleTree [⟨"f"⟩] {}).classNames.toList =
      [(⟨"a"⟩, "card-2"), (⟨"b"⟩, "card-2-2"), (⟨"c"⟩, "n-2"), (⟨"d"⟩, "span"), (⟨"f"⟩, "card")]
    ∧ (∃ c, ((SceneGraph.ofDocument alikeCards).visibleTree [⟨"f"⟩] {}).classNames[NodeId.mk "b"]?
      = some c)
    ∧ IsClassName "card-2-2".toList :=
  ⟨by decide +kernel,
    (classNames_visibleTree _ _ _).2.1 ⟨"b"⟩ (by decide +kernel),
    (classNames_visibleTree (SceneGraph.ofDocument alikeCards) [⟨"f"⟩] {}).2.2.1 ⟨"b"⟩ _
      (by decide +kernel)⟩

end SceneCompiler
