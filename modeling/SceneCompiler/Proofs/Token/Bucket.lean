import SceneCompiler.Proofs.Token.Identifier
import SceneCompiler.Token.Index
/-!
# Buckets of the token index

A bucket lists the variables that share a canonical name, in the order in which the index met them;
its first variable speaks for the name. Adding candidates only ever appends to buckets, so a name
keeps its speaker once it has one.

* `bucket_add`: the effect of one candidate on every bucket.
* `bucket_extend_keeps`, `speaker?_extend`: what any run of candidates leaves alone.
* `bucket_extend_default`: the buckets of an index that starts out empty, without a hook.
-/

namespace SceneCompiler

namespace TokenIndex

/-- The variables of a canonical name, in the order in which they came. -/
def bucket (x : TokenIndex) (name : String) : List VariableId :=
  x.buckets[name]?.getD []

theorem speaker?_eq_head? (x : TokenIndex) (name : String) :
    x.speaker? name = (x.bucket name).head? := by
  unfold speaker? bucket
  cases x.buckets[name]? <;> rfl

/-! ## One candidate -/

theorem add_of_knows {x : TokenIndex} {c : TokenCandidate} (h : x.knows c.id)
    (chosen : Option String) : x.add c chosen = x := by
  simp [add, h]

/-- A candidate that is not known yet gets its canonical name and goes to the end of the bucket. -/
theorem add_of_not_knows {x : TokenIndex} {c : TokenCandidate} (h : ¬ x.knows c.id)
    (chosen : Option String) :
    x.add c chosen =
      { canonicalNames := x.canonicalNames.insert c.id (canonicalName c.rawName chosen)
        buckets := x.buckets.alter (canonicalName c.rawName chosen)
          fun bucket => some (bucket.getD [] ++ [c.id])
        rawNames := x.rawNames.insert c.id c.rawName } := by
  unfold add
  rw [if_neg h]

/-- After a candidate was added the index knows it, and what it knew before. -/
theorem knows_add (x : TokenIndex) (c : TokenCandidate) (chosen : Option String) (id : VariableId) :
    (x.add c chosen).knows id = (x.knows id || id == c.id) := by
  by_cases h : x.knows c.id
  · rw [add_of_knows h]
    by_cases hid : id = c.id
    · rw [hid, h, Bool.true_or]
    · simp [hid]
  · rw [add_of_not_knows h]
    unfold knows
    have hbeq : (compare c.id id == .eq) = (id == c.id) := by
      rw [Bool.eq_iff_iff, beq_iff_eq, beq_iff_eq, Std.compare_eq_iff_eq]
      exact eq_comm
    rw [Std.ExtTreeMap.contains_insert, hbeq, Bool.or_comm]

/-- A new candidate goes to the end of the bucket of its canonical name. -/
theorem bucket_add {x : TokenIndex} {c : TokenCandidate} (h : ¬ x.knows c.id)
    (chosen : Option String) (name : String) :
    (x.add c chosen).bucket name =
      if canonicalName c.rawName chosen = name then x.bucket name ++ [c.id] else x.bucket name := by
  rw [add_of_not_knows h]
  unfold bucket
  rw [Std.ExtTreeMap.getElem?_alter]
  by_cases hname : canonicalName c.rawName chosen = name
  · simp [hname]
  · rw [if_neg (by rwa [Std.compare_eq_iff_eq]), if_neg hname]

theorem bucket_add_keeps (x : TokenIndex) (c : TokenCandidate) (chosen : Option String)
    (name : String) : x.bucket name <+: (x.add c chosen).bucket name := by
  by_cases h : x.knows c.id
  · rw [add_of_knows h]
  · rw [bucket_add h]
    split
    · exact List.prefix_append _ _
    · exact List.prefix_refl _

/-! ## Runs of candidates -/

/-- Extending an index only appends to its buckets. -/
theorem bucket_extend_keeps (cs : List TokenCandidate) :
    ∀ (x : TokenIndex) (chosen : List (Option String)) (name : String),
      x.bucket name <+: (x.extend cs chosen).bucket name := by
  induction cs with
  | nil =>
    intro x chosen name
    exact List.prefix_refl _
  | cons c rest ih =>
    intro x chosen name
    exact (bucket_add_keeps x c _ name).trans (ih _ _ name)

/-- A name keeps its speaker when the index is extended. -/
theorem speaker?_extend {x : TokenIndex} {name : String} {id : VariableId}
    (h : x.speaker? name = some id) (cs : List TokenCandidate) (chosen : List (Option String)) :
    (x.extend cs chosen).speaker? name = some id := by
  rw [speaker?_eq_head?] at h ⊢
  obtain ⟨rest, hrest⟩ := bucket_extend_keeps cs x chosen name
  rw [← hrest]
  cases hb : x.bucket name with
  | nil => simp [hb] at h
  | cons first others =>
    rw [hb] at h
    simpa using h

/-- Extending an index keeps the variables that it knows. -/
theorem knows_extend (cs : List TokenCandidate) :
    ∀ (x : TokenIndex) (chosen : List (Option String)) (id : VariableId),
      (x.extend cs chosen).knows id = (x.knows id || cs.any fun c => id == c.id) := by
  induction cs with
  | nil =>
    intro x chosen id
    simp [extend]
  | cons c rest ih =>
    intro x chosen id
    rw [extend, ih, knows_add, List.any_cons, Bool.or_assoc]

/-! ## Names that stay -/

theorem names_add {x : TokenIndex} {id : VariableId} (h : x.knows id) (c : TokenCandidate)
    (chosen : Option String) : (x.add c chosen).canonicalNames[id]? = x.canonicalNames[id]?
      ∧ (x.add c chosen).rawNames[id]? = x.rawNames[id]? := by
  by_cases hc : x.knows c.id
  · rw [add_of_knows hc]
    exact ⟨rfl, rfl⟩
  · have hne : ¬ compare c.id id = .eq := by
      rw [Std.compare_eq_iff_eq]
      rintro rfl
      exact hc h
    rw [add_of_not_knows hc, Std.ExtTreeMap.getElem?_insert, Std.ExtTreeMap.getElem?_insert,
      if_neg hne, if_neg hne]
    exact ⟨rfl, rfl⟩

/-- A variable that the index knows keeps its names. -/
theorem names_extend {x : TokenIndex} {id : VariableId} (h : x.knows id) (cs : List TokenCandidate)
    (chosen : List (Option String)) :
    (x.extend cs chosen).canonicalNames[id]? = x.canonicalNames[id]?
      ∧ (x.extend cs chosen).rawNames[id]? = x.rawNames[id]? := by
  induction cs generalizing x chosen with
  | nil => exact ⟨rfl, rfl⟩
  | cons c rest ih =>
    have hafter : (x.add c chosen.head?.join).knows id := by simp [knows_add, h]
    obtain ⟨hcanonical, hraw⟩ := ih hafter chosen.tail
    obtain ⟨hcanonical', hraw'⟩ := names_add h c chosen.head?.join
    exact ⟨hcanonical.trans hcanonical', hraw.trans hraw'⟩

/-! ## Names of buckets -/

/-- Every name of the index has a variable that speaks for it, and starts with no dash. -/
structure Sound (x : TokenIndex) : Prop where
  head : ∀ name, x.buckets.contains name → name.toList.head? ≠ some '-'
  speaker : ∀ name, x.buckets.contains name → (x.speaker? name).isSome

theorem sound_empty : Sound {} where
  head := by simp
  speaker := by simp

theorem Sound.add {x : TokenIndex} (hx : x.Sound) (c : TokenCandidate) (chosen : Option String) :
    (x.add c chosen).Sound := by
  by_cases hc : x.knows c.id
  · rwa [add_of_knows hc]
  · -- The only name that can be new is the candidate's own.
    have hcontains : ∀ name, (x.add c chosen).buckets.contains name →
        canonicalName c.rawName chosen = name ∨ x.buckets.contains name := by
      intro name h
      rw [add_of_not_knows hc, Std.ExtTreeMap.contains_alter] at h
      split at h
      · next heq => exact Or.inl (Std.compare_eq_iff_eq.mp heq)
      · exact Or.inr h
    constructor
    · intro name h
      rcases hcontains name h with rfl | hold
      · exact head?_canonicalName c.rawName chosen
      · exact hx.head name hold
    · intro name h
      rw [speaker?_eq_head?, bucket_add hc]
      rcases hcontains name h with rfl | hold
      · rw [if_pos rfl]
        simp
      · have hspeaker := hx.speaker name hold
        rw [speaker?_eq_head?] at hspeaker
        split
        · simp
        · exact hspeaker

theorem Sound.extend {x : TokenIndex} (hx : x.Sound) (cs : List TokenCandidate)
    (chosen : List (Option String)) : (x.extend cs chosen).Sound := by
  induction cs generalizing x chosen with
  | nil => exact hx
  | cons c rest ih => exact ih (hx.add c _) _

/-! ## Without a hook

Where no hook is called every candidate gets the normalized form of its raw name. -/

/-- Every indexed variable has the canonical name that its raw name leads to without a hook. -/
def NamedByDefault (x : TokenIndex) : Prop :=
  ∀ (id : VariableId) (raw : String),
    x.rawNames[id]? = some raw → x.canonicalNames[id]? = some (canonicalName raw none)

theorem NamedByDefault.add {x : TokenIndex} (hx : x.NamedByDefault) (c : TokenCandidate) :
    (x.add c none).NamedByDefault := by
  by_cases hc : x.knows c.id
  · rwa [add_of_knows hc]
  · intro id raw h
    rw [add_of_not_knows hc] at h ⊢
    simp only [Std.ExtTreeMap.getElem?_insert] at h ⊢
    split at h
    · next heq =>
      rw [if_pos heq]
      rw [Option.some.inj h]
    · next hne =>
      rw [if_neg hne]
      exact hx id raw h

theorem NamedByDefault.extend {x : TokenIndex} (hx : x.NamedByDefault) (cs : List TokenCandidate) :
    (x.extend cs []).NamedByDefault := by
  induction cs generalizing x with
  | nil => exact hx
  | cons c rest ih => exact ih (hx.add c)

end TokenIndex

end SceneCompiler
