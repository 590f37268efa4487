import Mathlib
import SceneCompiler.Proofs.Table
import SceneCompiler.Proofs.Token.Bucket
/-!
# Extensions of the token index

An index has a table of canonical names, one of raw names, and one of buckets. However it has been
extended, its tables agree: every variable that it knows has both names, and lies once in the bucket
of its canonical name and in no other. An extension goes on from there without touching what is
there, and only the candidates that the index does not know count for it.

* `Consistent.extend`: the tables agree after every extension.
* `extends_extend`: what an extension leaves as it was.
* `extend_filter`: known candidates can be left out, together with the names chosen for them.
* `consistent_extendAll`: all of that after any extensions of the empty index.
-/

namespace SceneCompiler.TokenIndex

variable {x y : TokenIndex} {c : TokenCandidate} {cs : List TokenCandidate} {id : VariableId}

/-! ## Definitions -/

/-- The tables of an index agree. That no bucket is empty is said by its speaker. -/
structure Consistent (x : TokenIndex) : Prop extends x.Sound where
  sameIds : ∀ id, id ∈ x.canonicalNames ↔ id ∈ x.rawNames
  /-- A variable lies in the bucket of its canonical name, once, and in no other bucket. -/
  bucketed : ∀ id name, (x.bucket name).count id
    = if x.canonicalNames[id]? = some name then 1 else 0

/-- `y` has all names of `x`, and those names go on to mean in `y` what they mean in `x`. -/
structure Extends (x y : TokenIndex) : Prop where
  canonicalNames : ∀ (id : VariableId) (name : String), x.canonicalNames[id]? = some name →
    y.canonicalNames[id]? = some name
  rawNames : ∀ (id : VariableId) (raw : String), x.rawNames[id]? = some raw →
    y.rawNames[id]? = some raw
  speakers : ∀ name ∈ x.buckets, (y.bucket name).head? = (x.bucket name).head?
  literals : ∀ name ∈ x.buckets, ∀ (variableTable : VariableTable) (mode : Option String),
    y.resolveName variableTable name mode = x.resolveName variableTable name mode

/-- The choices at the places of the candidates that satisfy a condition. -/
def choicesWhere (keep : TokenCandidate → Bool) (cs : List TokenCandidate)
    (chosen : List (Option String)) : List (Option String) :=
  (cs.zipIdx.filter fun p => keep p.1).map fun p => chosen[p.2]?.join

/-- The choices at the places of the candidates that the index does not know. -/
def missingChoices (x : TokenIndex) : List TokenCandidate → List (Option String) →
    List (Option String) :=
  choicesWhere fun c => !x.knows c.id

/-- `y` names every candidate that is new to `x` by what was chosen at its first place. -/
def NamesNew (x y : TokenIndex) (cs : List TokenCandidate) (chosen : List (Option String)) : Prop :=
  ∀ (place : Nat) (c : TokenCandidate), cs[place]? = some c → ¬ x.knows c.id →
    (∀ d ∈ cs.take place, d.id ≠ c.id) →
      y.canonicalNames[c.id]? = some (canonicalName c.rawName chosen[place]?.join)
        ∧ y.rawNames[c.id]? = some c.rawName

/-- The index after several extensions, the first of them of the empty index. -/
def extendAll (calls : List (List TokenCandidate × List (Option String))) : TokenIndex :=
  calls.foldl (fun x call => x.extend call.1 call.2) {}

/-! ## Tables that agree -/

theorem knows_iff : x.knows id = true ↔ id ∈ x.canonicalNames :=
  Std.ExtTreeMap.mem_iff_contains.symm

theorem getElem?_canonicalNames_of_not_knows (h : ¬ x.knows id) : x.canonicalNames[id]? = none :=
  Std.ExtTreeMap.getElem?_eq_none (mt knows_iff.mpr h)

theorem consistent_empty : Consistent {} where
  toSound := sound_empty
  sameIds := by simp
  bucketed := by simp [bucket]

/-- One candidate comes into both tables of names, and into the bucket of its name. -/
theorem Consistent.add (hx : x.Consistent) (c : TokenCandidate) (chosen : Option String) :
    (x.add c chosen).Consistent := by
  by_cases hc : x.knows c.id
  · rwa [add_of_knows hc]
  · refine ⟨hx.toSound.add c chosen, fun id => ?_, fun id name => ?_⟩
    · rw [add_of_not_knows hc, Std.ExtTreeMap.mem_insert, Std.ExtTreeMap.mem_insert, hx.sameIds]
    · have hold := hx.bucketed id name
      rw [bucket_add hc, add_of_not_knows hc, Std.ExtTreeMap.getElem?_insert]
      by_cases hid : c.id = id
      · -- The candidate was in no bucket so far.
        subst hid
        rw [getElem?_canonicalNames_of_not_knows hc, if_neg nofun] at hold
        rw [if_pos Std.ReflCmp.compare_self]
        by_cases hname : canonicalName c.rawName chosen = name
        · simp [hname, hold]
        · simp [hname, hold]
      · have hne : ¬ compare c.id id = .eq := by rwa [Std.compare_eq_iff_eq]
        rw [if_neg hne, ← hold]
        split
        · simp [hid]
        · rfl

theorem Consistent.extend (hx : x.Consistent) (cs : List TokenCandidate)
    (chosen : List (Option String)) : (x.extend cs chosen).Consistent := by
  induction cs generalizing x chosen with
  | nil => exact hx
  | cons c rest ih => exact ih (hx.add c _) _

theorem consistent_of_extendAll (calls : List (List TokenCandidate × List (Option String))) :
    (extendAll calls).Consistent := by
  unfold extendAll
  induction calls using List.reverseRecOn with
  | nil => exact consistent_empty
  | append_singleton earlier last ih =>
    rw [List.foldl_append]
    exact ih.extend last.1 last.2

/-- Every canonical name was made from a raw name, with a choice or without. -/
def Canonical (x : TokenIndex) : Prop :=
  ∀ (id : VariableId) (name : String), x.canonicalNames[id]? = some name →
    ∃ raw chosen, name = canonicalName raw chosen

theorem Canonical.add (hx : x.Canonical) (c : TokenCandidate) (chosen : Option String) :
    (x.add c chosen).Canonical := by
  by_cases hc : x.knows c.id
  · rwa [add_of_knows hc]
  · intro id name hname
    rw [add_of_not_knows hc, Std.ExtTreeMap.getElem?_insert] at hname
    split at hname
    · exact ⟨c.rawName, chosen, (Option.some.inj hname).symm⟩
    · exact hx id name hname

theorem canonical_of_extendAll (calls : List (List TokenCandidate × List (Option String))) :
    (extendAll calls).Canonical := by
  have hextend (cs : List TokenCandidate) : ∀ (x : TokenIndex) (chosen : List (Option String)),
      x.Canonical → (x.extend cs chosen).Canonical := by
    induction cs with
    | nil => exact fun _ _ hx => hx
    | cons c rest ih => exact fun x chosen hx => ih _ _ (hx.add c _)
  unfold extendAll
  induction calls using List.reverseRecOn with
  | nil => exact fun id name hname => absurd hname (by simp)
  | append_singleton earlier last ih =>
    rw [List.foldl_append]
    exact hextend last.1 _ last.2 ih

/-! ## What stays -/

/-- An extension leaves all names, the first variable of each bucket, and so the literals of names
as they were. -/
theorem extends_extend (hx : x.Consistent) (cs : List TokenCandidate)
    (chosen : List (Option String)) : x.Extends (x.extend cs chosen) := by
  have hspeaker : ∀ name ∈ x.buckets, (x.extend cs chosen).speaker? name = x.speaker? name := by
    intro name hname
    obtain ⟨id, hid⟩ := Option.isSome_iff_exists.mp (hx.speaker name hname)
    rw [hid, speaker?_extend hid]
  constructor
  case canonicalNames =>
    intro id name hname
    have hknows : x.knows id := knows_iff.mpr (mem_iff_exists_getElem?.mpr ⟨name, hname⟩)
    rw [(names_extend hknows cs chosen).1, hname]
  case rawNames =>
    intro id raw hraw
    have hmem : id ∈ x.rawNames := mem_iff_exists_getElem?.mpr ⟨raw, hraw⟩
    rw [(names_extend (knows_iff.mpr ((hx.sameIds id).mpr hmem)) cs chosen).2, hraw]
  case speakers =>
    intro name hname
    rw [← speaker?_eq_head?, ← speaker?_eq_head?, hspeaker name hname]
  case literals =>
    intro name hname variableTable mode
    unfold resolveName
    rw [hspeaker name hname]

/-! ## What counts -/

/-- Once they have been added there are no candidates missing. -/
theorem missing_extend (x : TokenIndex) (cs : List TokenCandidate) (chosen : List (Option String)) :
    (x.extend cs chosen).missing cs = [] := by
  unfold missing
  rw [List.filter_eq_nil_iff]
  intro c hc
  have hadded : (cs.any fun d => c.id == d.id) = true :=
    List.any_eq_true.mpr ⟨c, hc, beq_self_eq_true c.id⟩
  simp [knows_extend, hadded]

theorem choicesWhere_cons (keep : TokenCandidate → Bool) (c : TokenCandidate)
    (rest : List TokenCandidate) (chosen : List (Option String)) :
    choicesWhere keep (c :: rest) chosen = if keep c
      then chosen.head?.join :: choicesWhere keep rest chosen.tail
      else choicesWhere keep rest chosen.tail := by
  unfold choicesWhere
  rw [List.zipIdx_cons', List.filter_cons, List.filter_map]
  split
  · simp [List.head?_eq_getElem?, Function.comp_def]
  · simp [Function.comp_def]

/-- Candidates that the index knows can be left out, together with the names chosen for them. -/
theorem extend_filter (keep : TokenCandidate → Bool) (cs : List TokenCandidate) :
    ∀ (x : TokenIndex) (chosen : List (Option String)),
      (∀ c ∈ cs, keep c = false → x.knows c.id) →
        x.extend cs chosen = x.extend (cs.filter keep) (choicesWhere keep cs chosen) := by
  induction cs with
  | nil => exact fun _ _ _ => rfl
  | cons c rest ih =>
    intro x chosen hknown
    have hrest : ∀ d ∈ rest, keep d = false → (x.add c chosen.head?.join).knows d.id := by
      intro d hd hskip
      rw [knows_add, hknown d (List.mem_cons_of_mem c hd) hskip, Bool.true_or]
    rw [extend, ih _ _ hrest, List.filter_cons, choicesWhere_cons]
    split
    · rfl
    · next hskip => rw [add_of_knows (hknown c List.mem_cons_self (Bool.not_eq_true _ ▸ hskip))]

/-- A new candidate is named by what was chosen at its first place. -/
theorem namesNew_extend (x : TokenIndex) (cs : List TokenCandidate)
    (chosen : List (Option String)) : x.NamesNew (x.extend cs chosen) cs chosen := by
  induction cs generalizing x chosen with
  | nil => exact fun place c hc => nomatch hc
  | cons d rest ih =>
    intro place c hc hnew hfirst
    cases place with
    | zero =>
      obtain rfl := Option.some.inj hc
      have hadded : (x.add d chosen.head?.join).knows d.id := by simp [knows_add]
      obtain ⟨hcanonical, hraw⟩ := names_extend hadded rest chosen.tail
      rw [extend, hcanonical, hraw, add_of_not_knows hnew, ← List.head?_eq_getElem?]
      exact ⟨Std.ExtTreeMap.getElem?_insert_self, Std.ExtTreeMap.getElem?_insert_self⟩
    | succ place =>
      rw [List.take_succ_cons, List.forall_mem_cons] at hfirst
      have hnew' : ¬ (x.add d chosen.head?.join).knows c.id := by
        simp [knows_add, hnew, hfirst.1.symm]
      have hnamed := ih (x.add d chosen.head?.join) chosen.tail place c hc hnew' hfirst.2
      rwa [List.getElem?_tail] at hnamed

/-- After any extensions the tables of an index agree. A further one leaves the names and the
speakers that are there as they were, and leaves no candidate missing; it comes to the same as one
by the missing candidates alone, with the names chosen at their places. -/
theorem consistent_extendAll (calls : List (List TokenCandidate × List (Option String)))
    (cs : List TokenCandidate) (chosen : List (Option String)) :
    (extendAll calls).Consistent
      ∧ (extendAll calls).Extends ((extendAll calls).extend cs chosen)
      ∧ ((extendAll calls).extend cs chosen).missing cs = []
      ∧ (extendAll calls).NamesNew ((extendAll calls).extend cs chosen) cs chosen
      ∧ (extendAll calls).extend cs chosen = (extendAll calls).extend
        ((extendAll calls).missing cs) ((extendAll calls).missingChoices cs chosen) := by
  have hconsistent := consistent_of_extendAll calls
  refine ⟨hconsistent, extends_extend hconsistent cs chosen, missing_extend _ cs chosen,
    namesNew_extend _ cs chosen, extend_filter _ cs _ chosen fun c _ hknown => ?_⟩
  rwa [Bool.not_eq_false'] at hknown

end SceneCompiler.TokenIndex
