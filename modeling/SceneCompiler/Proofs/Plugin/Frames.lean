import Mathlib
import SceneCompiler.Plugin.Frame
import SceneCompiler.Proofs.Plugin.Packing
/-!
# Streams of frames

A frame tells its length, so frames written one behind the other are read one after the other, and
the reader stands right behind each frame that it has read. What it reads is what was written, but
that a response cannot tell a result of null from none.

* `ofPack?_asRead_pack`: a packed frame unpacks to itself.
* `read_write`: one frame at the start of a stream.
* `readings_written`: a stream of frames, and frames that are cut off.
-/

namespace SceneCompiler

/-! ## Definitions -/

/-- Numbers of calls have 64 bits. -/
structure HookRequest.WellFormed (r : HookRequest) : Prop where
  id : r.id < 2 ^ 64
  payload : r.payload.WellFormed

structure HookResponse.WellFormed (r : HookResponse) : Prop where
  id : r.id < 2 ^ 64
  result : ∀ j ∈ r.result, j.WellFormed

/-- The response as it is read back. -/
def HookResponse.asRead (r : HookResponse) : HookResponse :=
  { r with
    result :=
      match r.result with
      | some .null => none
      | result => result }

namespace Frame

def WellFormed : Frame → Prop
  | batch requests => ∀ r ∈ requests, r.WellFormed
  | results responses => ∀ r ∈ responses, r.WellFormed
  | _ => True

/-- The frame as it is read back. -/
def asRead : Frame → Frame
  | results responses => results (responses.map HookResponse.asRead)
  | f => f

/-- The JSON values in a frame. -/
def values : Frame → List Json
  | batch requests => requests.map (·.payload)
  | results responses => responses.filterMap (·.result)
  | _ => []

/-- The reader gets to the bottom of all values. They lie three levels deep in the frame: in a
request or a response, in the list of these, in the frame. -/
def Shallow (f : Frame) : Prop :=
  ∀ j ∈ f.values, (Pack.ofJson j).nesting + 3 ≤ Pack.nestingLimit

instance (f : Frame) : Decidable f.Shallow :=
  inferInstanceAs (Decidable (∀ j ∈ f.values, _))

/-- What a reader makes of a frame that was written. -/
def reading (f : Frame) : Except FrameError Frame :=
  if f.Shallow then .ok f.asRead else .error .malformed

/-- Reads some frames one after the other, and gives what is left of the stream. -/
def readings : Nat → List UInt8 → List (Except FrameError Frame) × List UInt8
  | 0, stream => ([], stream)
  | count + 1, stream =>
    let (first, rest) := read stream
    let (later, rest) := readings count rest
    (first :: later, rest)

end Frame

/-! ## Packed records -/

namespace Pack

@[simp]
theorem nesting_str (s : String) : (str s).nesting = 0 := by
  simp [nesting]

@[simp]
theorem nesting_unsigned (width n : Nat) : (unsigned width n).nesting = 0 := by
  simp [nesting]

theorem nesting_optional_le {p : Option Pack} {depth : Nat} :
    (optional p).nesting ≤ depth ↔ ∀ q ∈ p, q.nesting ≤ depth := by
  cases p <;> simp [optional, nesting]

theorem nesting_arr_le {items : List Pack} {depth : Nat} :
    (arr items).nesting ≤ depth + 1 ↔ ∀ p ∈ items, p.nesting ≤ depth := by
  rw [nesting, Nat.add_le_add_iff_right]
  induction items with
  | nil => simp [nestingItems]
  | cons p rest ih => rw [nestingItems, Nat.max_le, ih, List.forall_mem_cons]

theorem nesting_record_le {fields : List (String × Pack)} {depth : Nat} :
    (record fields).nesting ≤ depth + 1 ↔ ∀ field ∈ fields, field.2.nesting ≤ depth := by
  rw [record, nesting, Nat.add_le_add_iff_right]
  induction fields with
  | nil => simp [nestingEntries]
  | cons field rest ih =>
    rw [List.map_cons, nestingEntries, Nat.max_le, ih, List.forall_mem_cons, nesting_str,
      Nat.zero_max]

theorem nesting_texts_le (items : List String) (depth : Nat) :
    (texts items).nesting ≤ depth + 1 :=
  nesting_arr_le.mpr (List.forall_mem_map.mpr fun _ _ => Nat.zero_le _)

theorem Fits.record {fields : List (String × Pack)} (h : ∀ field ∈ fields, Fits field.2) :
    Fits (record fields) :=
  .map (List.forall_mem_map.mpr fun field _ => .str field.1) (List.forall_mem_map.mpr h)

theorem Fits.optional {p : Option Pack} (h : ∀ q ∈ p, Fits q) : Fits (optional p) := by
  cases p with
  | none => exact .nil
  | some q => exact h q rfl

theorem Fits.texts (items : List String) : Fits (texts items) :=
  .arr (List.forall_mem_map.mpr fun s _ => .str s)

theorem asRead_arr (items : List Pack) : (arr items).asRead = arr (items.map asRead) := by
  rw [asRead]
  congr
  induction items with
  | nil => rfl
  | cons p rest ih => rw [asReadItems, ih, List.map_cons]

theorem asRead_record (fields : List (String × Pack)) :
    (record fields).asRead = record (fields.map fun field => (field.1, field.2.asRead)) := by
  rw [record, asRead, record, List.map_map]
  congr
  induction fields with
  | nil => rfl
  | cons field rest ih =>
    rw [List.map_cons, asReadEntries, ih, List.map_cons]
    simp [asRead]

@[simp]
theorem asRead_str (s : String) : (str s).asRead = str s := by
  simp [asRead]

/-- Items come back one by one. -/
theorem listOf?_asRead_arr {α β : Type} {read : Pack → Option β} {pack : α → Pack} {back : α → β}
    {items : List α} (h : ∀ x ∈ items, read (pack x).asRead = some (back x)) :
    (arr (items.map pack)).asRead.listOf? read = some (items.map back) := by
  rw [asRead_arr, listOf?]
  induction items with
  | nil => rfl
  | cons x rest ih =>
    obtain ⟨hx, hrest⟩ := List.forall_mem_cons.mp h
    rw [List.map_cons, List.map_cons, List.mapM_cons, hx, ih hrest]
    rfl

theorem listOf?_asRead_texts (items : List String) :
    (texts items).asRead.listOf? text? = some items := by
  have hitem : ∀ s ∈ items, text? (str s).asRead = some (id s) := fun s _ => by simp [text?]
  have := listOf?_asRead_arr hitem
  rwa [List.map_id] at this

theorem json?_asRead_ofJson {j : Json} (h : j.WellFormed) : (ofJson j).asRead.json? = some j := by
  rw [json?, toJson?_asRead_ofJson h, Option.map_some, h.canonical_eq]

theorem asRead_ofJson_eq_nil {j : Json} : (ofJson j).asRead = nil ↔ j = .null := by
  cases j with
  | int n => rw [ofJson, asRead]; split_ifs <;> simp
  | null | bool | float | str | arr | obj => simp [ofJson, asRead]

theorem nullable?_of_ne_nil {α : Type} {read : Pack → Option α} {p : Pack} (h : p ≠ nil) :
    nullable? read p = (read p).map some := by
  cases p <;> first | rfl | exact absurd rfl h

end Pack

theorem HookKind.ofName?_name (hook : HookKind) : ofName? hook.name = some hook := by
  cases hook <;> rfl

namespace HookRequest

theorem fits_pack {r : HookRequest} (h : r.WellFormed) : r.pack.Fits := by
  refine .record ?_
  simp only [List.forall_mem_cons, List.not_mem_nil, false_implies, implies_true, and_true]
  exact ⟨.unsigned 8 h.id, .str _, Pack.fits_ofJson h.payload⟩

theorem nesting_pack_le {r : HookRequest} {depth : Nat} :
    r.pack.nesting ≤ depth + 1 ↔ (Pack.ofJson r.payload).nesting ≤ depth := by
  simp [pack, Pack.nesting_record_le]

theorem ofPack?_asRead_pack {r : HookRequest} (h : r.WellFormed) :
    ofPack? r.pack.asRead = some r := by
  have hfields (id hook payload : Pack) :
      (Pack.record [("id", id), ("hook", hook), ("payload", payload)]).fields?
        ["id", "hook", "payload"] = some [some id, some hook, some payload] := rfl
  simp only [pack, Pack.asRead_record, List.map_cons, List.map_nil, ofPack?, hfields]
  simp [Pack.asRead, Pack.count?, HookKind.ofPack?, HookKind.ofName?_name,
    Pack.json?_asRead_ofJson h.payload]

end HookRequest

namespace HookResponse

theorem fits_pack {r : HookResponse} (h : r.WellFormed) : r.pack.Fits := by
  have hresult : (Pack.optional (r.result.map .ofJson)).Fits :=
    .optional (by simpa using fun j hj => Pack.fits_ofJson (h.result j hj))
  have herror : (Pack.optional (r.error.map .str)).Fits :=
    .optional (by simpa using fun s _ => Pack.Fits.str s)
  refine .record ?_
  simp only [List.forall_mem_cons, List.not_mem_nil, false_implies, implies_true, and_true]
  exact ⟨.unsigned 8 h.id, hresult, herror⟩

theorem nesting_pack_le {r : HookResponse} {depth : Nat} :
    r.pack.nesting ≤ depth + 1 ↔ ∀ j ∈ r.result, (Pack.ofJson j).nesting ≤ depth := by
  simp [pack, Pack.nesting_record_le, Pack.nesting_optional_le]

theorem optionalField?_result {r : HookResponse} (h : r.WellFormed) :
    Pack.optionalField? Pack.json? (some (Pack.optional (r.result.map .ofJson)).asRead)
      = some r.asRead.result := by
  obtain ⟨id, result, error⟩ := r
  cases result with
  | none => simp [Pack.optional, Pack.asRead, Pack.optionalField?, Pack.nullable?, asRead]
  | some j =>
    by_cases hnull : j = .null
    · subst hnull
      simp [Pack.optional, Pack.ofJson, Pack.asRead, Pack.optionalField?, Pack.nullable?, asRead]
    · have hnil : (Pack.ofJson j).asRead ≠ .nil := Pack.asRead_ofJson_eq_nil.not.mpr hnull
      simp [Pack.optional, Pack.optionalField?, Pack.nullable?_of_ne_nil hnil,
        Pack.json?_asRead_ofJson (h.result j rfl), asRead, hnull]

theorem optionalField?_error (error : Option String) :
    Pack.optionalField? Pack.text? (some (Pack.optional (error.map .str)).asRead) = some error := by
  cases error <;>
    simp [Pack.optional, Pack.asRead, Pack.optionalField?, Pack.nullable?, Pack.text?]

/-- A result of null is the one thing that a response does not keep. -/
theorem ofPack?_asRead_pack {r : HookResponse} (h : r.WellFormed) :
    ofPack? r.pack.asRead = some r.asRead := by
  have hfields (id result error : Pack) :
      (Pack.record [("id", id), ("result", result), ("error", error)]).fields?
        ["id", "result", "error"] = some [some id, some result, some error] := rfl
  simp only [pack, Pack.asRead_record, List.map_cons, List.map_nil, ofPack?, hfields]
  simp [Pack.asRead, Pack.count?, optionalField?_result h, optionalField?_error]
  rfl

end HookResponse

/-! ## Packed frames -/

namespace Frame

theorem fits_pack {f : Frame} (h : f.WellFormed) : f.pack.Fits := by
  cases f <;> refine .record ?_ <;>
    simp only [List.forall_mem_cons, List.not_mem_nil, false_implies, implies_true, and_true]
  case load code bindings => exact ⟨.str _, .str _, .texts _⟩
  case loaded hooks => exact ⟨.str _, .texts _⟩
  case failed reason => exact ⟨.str _, .str _⟩
  case batch requests =>
    exact ⟨.str _, .arr (List.forall_mem_map.mpr fun r hr => HookRequest.fits_pack (h r hr))⟩
  case results responses =>
    exact ⟨.str _, .arr (List.forall_mem_map.mpr fun r hr => HookResponse.fits_pack (h r hr))⟩

theorem nesting_pack_le {f : Frame} {depth : Nat} :
    f.pack.nesting ≤ depth + 3 ↔ ∀ j ∈ f.values, (Pack.ofJson j).nesting ≤ depth := by
  cases f with
  | load | loaded =>
    simp [pack, values, Pack.nesting_record_le, Pack.nesting_texts_le]
  | failed => simp [pack, values, Pack.nesting_record_le]
  | batch requests =>
    simp [pack, values, Pack.nesting_record_le, Pack.nesting_arr_le, HookRequest.nesting_pack_le]
  | results responses =>
    simp [pack, values, Pack.nesting_record_le, Pack.nesting_arr_le, HookResponse.nesting_pack_le]
    tauto

theorem nesting_pack_le_limit {f : Frame} : f.pack.nesting ≤ Pack.nestingLimit ↔ f.Shallow := by
  rw [show Pack.nestingLimit = 1020 + 3 from rfl, nesting_pack_le, Shallow]
  simp [Pack.nestingLimit]

theorem tagged?_record {kind : String} (known : kindOf? (.str kind) = some kind)
    {fields : List (String × Pack)} (others : ∀ field ∈ fields, field.1 ≠ "op") :
    tagged? (.record (("op", .str kind) :: fields)) = some (kind, .record fields) := by
  have htags : fields.filter (fun field => field.1 == "op") = [] := by simpa using others
  have hfields : fields.filter (fun field => !field.1 == "op") = fields := by simpa using others
  simp [tagged?, Pack.record, Pack.text?, List.filter_map, Function.comp_def, htags, hfields, known]

theorem ofPack?_asRead_pack {f : Frame} (h : f.WellFormed) :
    ofPack? f.pack.asRead = some f.asRead := by
  have single (name : String) (p : Pack) :
      (Pack.record [(name, p)]).fields? [name] = some [some p] := by
    simp [Pack.record, Pack.fields?, Pack.place?, Pack.isName, Pack.tagPlace?]
  cases f with
  | load code bindings =>
    have hkind : kindOf? (.str "load") = some "load" := rfl
    have hfields (code bindings : Pack) :
        (Pack.record [("code", code), ("bindings", bindings)]).fields? ["code", "bindings"]
          = some [some code, some bindings] := rfl
    simp [pack, Pack.asRead_record, ofPack?, tagged?_record hkind, hfields, Pack.text?,
      Pack.listOf?_asRead_texts, asRead]
  | loaded hooks =>
    have hkind : kindOf? (.str "loaded") = some "loaded" := rfl
    simp [pack, Pack.asRead_record, ofPack?, tagged?_record hkind, single,
      Pack.listOf?_asRead_texts, asRead]
  | failed reason =>
    have hkind : kindOf? (.str "failed") = some "failed" := rfl
    simp [pack, Pack.asRead_record, ofPack?, tagged?_record hkind, single, Pack.text?, asRead]
  | batch requests =>
    have hkind : kindOf? (.str "batch") = some "batch" := rfl
    have hitem : ∀ r ∈ requests, HookRequest.ofPack? r.pack.asRead = some (id r) :=
      fun r hr => HookRequest.ofPack?_asRead_pack (h r hr)
    simp [pack, Pack.asRead_record, ofPack?, tagged?_record hkind, single,
      Pack.listOf?_asRead_arr hitem, asRead]
  | results responses =>
    have hkind : kindOf? (.str "results") = some "results" := rfl
    have hitem : ∀ r ∈ responses, HookResponse.ofPack? r.pack.asRead = some r.asRead :=
      fun r hr => HookResponse.ofPack?_asRead_pack (h r hr)
    simp [pack, Pack.asRead_record, ofPack?, tagged?_record hkind, single,
      Pack.listOf?_asRead_arr hitem, asRead]

/-! ## The wire -/

theorem readNat?_length {size : Nat} (h : size < 2 ^ 32) (rest : List UInt8) :
    Pack.readNat? 4 (Pack.bigEndian 4 size ++ rest) = some (size, rest) :=
  Pack.readNat?_bigEndian h rest

theorem write_eq_ok {f : Frame} {written : List UInt8} (h : f.write = .ok written) :
    f.pack.write.length ≤ sizeLimit ∧
      written = Pack.bigEndian 4 f.pack.write.length ++ f.pack.write := by
  rw [write] at h
  split_ifs at h with hlong
  exact ⟨Nat.le_of_not_lt hlong, (Except.ok.inj h).symm⟩

/-- A frame that was written is read off the start of a stream, and the reader stands behind it. -/
theorem read_write {f : Frame} {written : List UInt8} (h : f.write = .ok written)
    (wellFormed : f.WellFormed) (rest : List UInt8) :
    read (written ++ rest) = (f.reading, rest) := by
  obtain ⟨hsize, rfl⟩ := write_eq_ok h
  have hsmall : f.pack.write.length < 2 ^ 32 := Nat.lt_of_le_of_lt hsize (by decide)
  have hbody := Pack.takeExactly?_append f.pack.write rest
  simp only [read, List.append_assoc, readNat?_length hsmall, hbody,
    if_neg (Nat.not_lt_of_le hsize), Pack.readStart?_write (fits_pack wellFormed) hsmall,
    nesting_pack_le_limit, reading]
  by_cases hshallow : f.Shallow
  · simp only [if_pos hshallow, Option.bind_some, ofPack?_asRead_pack wellFormed]
  · simp only [if_neg hshallow, Option.bind_none]

/-- A stream that ends within its first frame has no frame, and is used up. -/
theorem read_cut {f : Frame} {written cut missing : List UInt8} (h : f.write = .ok written)
    (hcut : cut ++ missing = written) (proper : missing ≠ []) :
    read cut = (.error (if cut.length < 4 then .lengthMissing else .bodyMissing), []) := by
  obtain ⟨hsize, rfl⟩ := write_eq_ok h
  have hsmall : f.pack.write.length < 2 ^ 32 := Nat.lt_of_le_of_lt hsize (by decide)
  have hmissing := List.length_pos_iff.mpr proper
  by_cases hshort : cut.length < 4
  · simp only [read, Pack.readNat?, Pack.takeExactly?_eq_none hshort, Option.map_none,
      if_pos hshort]
  · obtain ⟨body, rfl⟩ : Pack.bigEndian 4 f.pack.write.length <+: cut :=
      List.prefix_of_prefix_length_le (List.prefix_append _ _) ⟨missing, hcut⟩ (by simp; omega)
    have hbody : body.length < f.pack.write.length := by
      have := congrArg List.length hcut
      simp only [List.length_append] at this
      omega
    simp only [read, readNat?_length hsmall, if_neg (Nat.not_lt_of_le hsize),
      Pack.takeExactly?_eq_none hbody, if_neg hshort]

theorem readings_flatten {frames : List Frame} {written : List (List UInt8)}
    (accepted : List.Forall₂ (fun f bytes => f.write = .ok bytes) frames written)
    (wellFormed : ∀ f ∈ frames, f.WellFormed) (rest : List UInt8) :
    readings frames.length (written.flatten ++ rest) = (frames.map reading, rest) := by
  induction accepted with
  | nil => rfl
  | cons hfirst _ ih =>
    obtain ⟨hf, hothers⟩ := List.forall_mem_cons.mp wellFormed
    simp only [List.flatten_cons, List.append_assoc, List.length_cons, readings,
      read_write hfirst hf, ih hothers, List.map_cons]

/-- Frames that were written one behind the other are read in order, and the reader stands behind
the last of them; each comes back as it was, but for results of null, unless its values are nested
too deeply. Of a frame that is cut off nothing is read. -/
theorem readings_written {frames : List Frame} {written : List (List UInt8)}
    (accepted : List.Forall₂ (fun f bytes => f.write = .ok bytes) frames written)
    (wellFormed : ∀ f ∈ frames, f.WellFormed) :
    (∀ rest, readings frames.length (written.flatten ++ rest) = (frames.map reading, rest)) ∧
      ∀ bytes ∈ written, ∀ cut missing, cut ++ missing = bytes → missing ≠ [] →
        ∃ e, read cut = (.error e, []) := by
  refine ⟨readings_flatten accepted wellFormed, fun bytes hbytes cut missing hcut hmissing => ?_⟩
  obtain ⟨i, hi, rfl⟩ := List.getElem_of_mem hbytes
  have hwrite := accepted.get (accepted.length_eq ▸ hi) hi
  exact ⟨_, read_cut hwrite hcut hmissing⟩

/-- A batch with a nested payload, and replies of which one has a result of null. -/
def exchangeSample : List Frame :=
  [batch [⟨7, .transform, .obj [("a", .arr [.int (-5), .null]), ("b", .str "é")]⟩],
    results [⟨7, some .null, none⟩, ⟨8, some (.int 300), some "late"⟩]]

theorem exchangeSample_wellFormed : ∀ f ∈ exchangeSample, f.WellFormed := by
  have hitems : (Json.arr [.int (-5), .null]).WellFormed :=
    .arr (List.forall_mem_cons.mpr ⟨.int (by decide) (by decide), by simp [Json.WellFormed.null]⟩)
  have hpayload : (Json.obj [("a", .arr [.int (-5), .null]), ("b", .str "é")]).WellFormed :=
    .obj (by decide) (List.forall_mem_cons.mpr ⟨hitems, by simp [Json.WellFormed.str]⟩)
  have hcount : (Json.int 300).WellFormed := .int (by decide) (by decide)
  refine List.forall_mem_cons.mpr ⟨?_, List.forall_mem_singleton.mpr ?_⟩
  · exact List.forall_mem_singleton.mpr ⟨by decide, hpayload⟩
  · refine List.forall_mem_cons.mpr ⟨⟨by decide, ?_⟩, List.forall_mem_singleton.mpr ⟨by decide, ?_⟩⟩
    · simpa using Json.WellFormed.null
    · simpa using hcount

theorem readings_exchangeSample :
    ∃ written, List.Forall₂ (fun f bytes => f.write = .ok bytes) exchangeSample written ∧
      (∀ f ∈ exchangeSample, f.WellFormed) ∧
      readings 2 (written.flatten ++ [0xff]) =
        ([.ok (batch [⟨7, .transform, .obj [("a", .arr [.int (-5), .null]), ("b", .str "é")]⟩]),
          .ok (results [⟨7, none, none⟩, ⟨8, some (.int 300), some "late"⟩])], [0xff]) := by
  have accepted : List.Forall₂ (fun f bytes => f.write = .ok bytes) exchangeSample
      (exchangeSample.map fun f => Pack.bigEndian 4 f.pack.write.length ++ f.pack.write) :=
    .cons rfl (.cons rfl .nil)
  refine ⟨_, accepted, exchangeSample_wellFormed, ?_⟩
  exact (readings_written accepted exchangeSample_wellFormed).1 [0xff]

end Frame

end SceneCompiler
