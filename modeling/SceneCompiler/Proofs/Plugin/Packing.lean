import Mathlib
import SceneCompiler.Plugin.Pack
import SceneCompiler.Proofs.Table
/-!
# Reading packed values back

A written value tells where it ends, so it is read back whatever bytes come behind it, provided that
its numbers fit into 64 bits and that it is not nested deeper than the reader goes. Numbers come
back in the form that the reader gives them: one that is not negative is unsigned, and knows the
width of its written form.

* `readStart?_write`: a written value reads as itself up to the form of its numbers, and one that is
  nested too deeply does not read.
* `toJson?_asRead_ofJson`: a JSON value comes back as it was.
-/

namespace SceneCompiler

/-! ## Definitions -/

namespace Pack

/-- The count of bytes behind the marker of a natural number. -/
def naturalWidth (n : Nat) : Nat :=
  if n < 0x80 then 0 else if n < 0x100 then 1 else if n < 0x10000 then 2
  else if n < 0x100000000 then 4 else 8

mutual

/-- The value as it is read back. -/
def asRead : Pack → Pack
  | unsigned _ n => unsigned (naturalWidth n) n
  | signed n => if 0 ≤ n then unsigned (naturalWidth n.toNat) n.toNat else signed n
  | arr items => arr (asReadItems items)
  | map entries => map (asReadEntries entries)
  | p => p

def asReadItems : List Pack → List Pack
  | [] => []
  | p :: rest => asRead p :: asReadItems rest

def asReadEntries : List (Pack × Pack) → List (Pack × Pack)
  | [] => []
  | (k, v) :: rest => (asRead k, asRead v) :: asReadEntries rest

end

mutual

/-- How many arrays and maps lie inside each other. -/
def nesting : Pack → Nat
  | arr items => nestingItems items + 1
  | map entries => nestingEntries entries + 1
  | _ => 0

def nestingItems : List Pack → Nat
  | [] => 0
  | p :: rest => max (nesting p) (nestingItems rest)

def nestingEntries : List (Pack × Pack) → Nat
  | [] => 0
  | (k, v) :: rest => max (max (nesting k) (nesting v)) (nestingEntries rest)

end

/-- All numbers have a packed form. -/
inductive Fits : Pack → Prop where
  | nil : Fits nil
  | bool (b : Bool) : Fits (bool b)
  | unsigned (width : Nat) {n : Nat} (upper : n < 2 ^ 64) : Fits (unsigned width n)
  | signed {n : Int} (lower : -2 ^ 63 ≤ n) (upper : n < 2 ^ 64) : Fits (signed n)
  | float (x : Float) : Fits (float x)
  | str (s : String) : Fits (str s)
  | bytes (data : List UInt8) : Fits (bytes data)
  | arr {items : List Pack} (fits : ∀ p ∈ items, Fits p) : Fits (arr items)
  | map {entries : List (Pack × Pack)} (keys : ∀ e ∈ entries, Fits e.1)
      (values : ∀ e ∈ entries, Fits e.2) : Fits (map entries)
  | extension : Fits extension

end Pack

/-- A value as documents hold it: whole numbers have 64 bits, with a sign or without, numbers with a
fraction are finite, and the members of objects stand in the order of their keys, each once. -/
inductive Json.WellFormed : Json → Prop where
  | null : WellFormed null
  | bool (b : Bool) : WellFormed (bool b)
  | int {n : Int} (lower : -2 ^ 63 ≤ n) (upper : n < 2 ^ 64) : WellFormed (int n)
  | float {x : Float} (finite : x.isFinite = true) : WellFormed (float x)
  | str (s : String) : WellFormed (str s)
  | arr {items : List Json} (items_wf : ∀ j ∈ items, WellFormed j) : WellFormed (arr items)
  | obj {members : List (String × Json)}
      (sorted : members.Pairwise fun m later => compare m.1 later.1 = .lt)
      (values_wf : ∀ m ∈ members, WellFormed m.2) : WellFormed (obj members)

namespace Pack

/-! ## Numbers and texts in bytes -/

@[simp]
theorem length_bigEndian (width n : Nat) : (bigEndian width n).length = width := by
  induction width generalizing n with
  | zero => rfl
  | succ width ih => simp [bigEndian, ih]

theorem ofBigEndian_bigEndian {width n : Nat} (h : n < Nat.pow 256 width) :
    ofBigEndian (bigEndian width n) = n := by
  -- the digits of `n` come behind those that were read before
  suffices key : ∀ read, (bigEndian width n).foldl (fun n b => 256 * n + b.toNat) read
      = read * Nat.pow 256 width + n by simpa [ofBigEndian] using key 0
  induction width generalizing n with
  | zero => simp_all [bigEndian]
  | succ width ih =>
    intro read
    have hpos : 0 < Nat.pow 256 width := Nat.pow_pos (by decide)
    have hpow : Nat.pow 256 (width + 1) = 256 * Nat.pow 256 width := by
      simp [Nat.pow_succ, Nat.mul_comm]
    have hdigit : n / Nat.pow 256 width < 256 := Nat.div_lt_of_lt_mul (by rw [Nat.mul_comm]; omega)
    rw [bigEndian, List.foldl_cons, ih (Nat.mod_lt _ hpos), UInt8.toNat_ofNat_of_lt' hdigit, hpow]
    have := Nat.div_add_mod n (Nat.pow 256 width)
    grind

theorem takeExactly?_append (data rest : List UInt8) :
    takeExactly? data.length (data ++ rest) = some (data, rest) := by
  simp [takeExactly?]

theorem takeExactly?_eq_none {count : Nat} {data : List UInt8} (h : data.length < count) :
    takeExactly? count data = none := by
  simp [takeExactly?, Nat.min_eq_right h.le, h.ne]

theorem readNat?_bigEndian {width n : Nat} (h : n < Nat.pow 256 width) (rest : List UInt8) :
    readNat? width (bigEndian width n ++ rest) = some (n, rest) := by
  have := takeExactly?_append (bigEndian width n) rest
  rw [length_bigEndian] at this
  simp [readNat?, this, ofBigEndian_bigEndian h]

theorem textOf?_toUTF8 (s : String) : textOf? s.toUTF8.data.toList = some s := by
  simp only [textOf?, Array.toArray_toList, String.fromUTF8?, String.toUTF8_eq_toByteArray,
    dif_pos s.isValidUTF8]
  rfl

theorem readText?_toUTF8 (s : String) (rest : List UInt8) :
    readText? s.utf8ByteSize (s.toUTF8.data.toList ++ rest) = some (str s, rest) := by
  have : takeExactly? s.utf8ByteSize (s.toUTF8.data.toList ++ rest)
      = some (s.toUTF8.data.toList, rest) := takeExactly?_append _ _
  simp only [readText?, this, Option.map_some, textOf?_toUTF8]

theorem toSigned_of_neg {width : Nat} {n : Int} (lower : -(Nat.pow 256 width : Int) ≤ 2 * n)
    (upper : n < 0) : toSigned width (n + (Nat.pow 256 width : Nat)).toNat = n := by
  rw [toSigned, if_neg (by omega)]
  omega

/-! ## Headers -/

/-- The bytes start with a marker and a size that announce the header, whatever comes next. -/
def Announces (written : List UInt8) (header : Header) : Prop :=
  ∃ marker size, written = marker :: size ∧
    ∀ rest, readHeader? marker (size ++ rest) = some (header, rest)

theorem announces_short {marker : UInt8} {header : Header}
    (h : ∀ data, readHeader? marker data = some (header, data)) : Announces [marker] header :=
  ⟨marker, [], rfl, h⟩

theorem announces_marked {marker : UInt8} {header : Nat → Header} {width size : Nat}
    (h : ∀ data, readHeader? marker data
      = (readNat? width data).map fun (size, rest) => (header size, rest))
    (fits : size < Nat.pow 256 width) : Announces (marked marker width size) (header size) :=
  ⟨marker, bigEndian width size, rfl, fun rest => by simp [h, readNat?_bigEndian fits]⟩

theorem toNat_ofNat_add (base : Nat) {size limit : Nat} (h : size < limit)
    (fits : base + limit ≤ 256) : (UInt8.ofNat (base + size)).toNat = base + size :=
  UInt8.toNat_ofNat_of_lt' (by simp only [UInt8.size]; omega)

theorem announces_textHeader {size : Nat} (h : size < 2 ^ 32) :
    Announces (textHeader size) (.text size) := by
  unfold textHeader
  split_ifs with h5 h8 h16
  · refine announces_short fun data => ?_
    have hm := toNat_ofNat_add 0xa0 h5 (by decide)
    simp only [readHeader?, hm]
    rw [if_neg (by omega), if_neg (by omega), if_neg (by omega), if_pos (by omega),
      Nat.add_sub_cancel_left]
  · exact announces_marked (fun _ => rfl) h8
  · exact announces_marked (fun _ => rfl) h16
  · exact announces_marked (fun _ => rfl) h

theorem announces_bytesHeader {size : Nat} (h : size < 2 ^ 32) :
    Announces (bytesHeader size) (.bytes size) := by
  unfold bytesHeader
  split_ifs with h8 h16
  · exact announces_marked (fun _ => rfl) h8
  · exact announces_marked (fun _ => rfl) h16
  · exact announces_marked (fun _ => rfl) h

theorem announces_arrayHeader {size : Nat} (h : size < 2 ^ 32) :
    Announces (arrayHeader size) (.array size) := by
  unfold arrayHeader
  split_ifs with h4 h16
  · refine announces_short fun data => ?_
    have hm := toNat_ofNat_add 0x90 h4 (by decide)
    simp only [readHeader?, hm]
    rw [if_neg (by omega), if_neg (by omega), if_pos (by omega), Nat.add_sub_cancel_left]
  · exact announces_marked (fun _ => rfl) h16
  · exact announces_marked (fun _ => rfl) h

theorem announces_mapHeader {size : Nat} (h : size < 2 ^ 32) :
    Announces (mapHeader size) (.map size) := by
  unfold mapHeader
  split_ifs with h4 h16
  · refine announces_short fun data => ?_
    have hm := toNat_ofNat_add 0x80 h4 (by decide)
    simp only [readHeader?, hm]
    rw [if_neg (by omega), if_pos (by omega), Nat.add_sub_cancel_left]
  · exact announces_marked (fun _ => rfl) h16
  · exact announces_marked (fun _ => rfl) h

/-! ## Values -/

theorem read?_writeUnsigned {n : Nat} (h : n < 2 ^ 64) (fuel depth : Nat) (rest : List UInt8) :
    read? (fuel + 1) depth (writeUnsigned n ++ rest)
      = some (unsigned (naturalWidth n) n, rest) := by
  -- a marker for a width, and the number in that width
  have sized {marker : UInt8} {width : Nat}
      (hm : ∀ data, readHeader? marker data = some (.unsigned width, data))
      (hn : n < Nat.pow 256 width) :
      read? (fuel + 1) depth (marked marker width n ++ rest) = some (unsigned width n, rest) := by
    simp only [marked, List.cons_append, read?, hm, readNat?_bigEndian hn, Option.map_some]
  unfold writeUnsigned naturalWidth
  split_ifs with h7 h8 h16 h32
  · have hm : (UInt8.ofNat n).toNat = n := UInt8.toNat_ofNat_of_lt' (by simp [UInt8.size]; omega)
    simp only [List.cons_append, List.nil_append, read?, readHeader?, hm, if_pos h7]
  · exact sized (fun _ => rfl) h8
  · exact sized (fun _ => rfl) h16
  · exact sized (fun _ => rfl) h32
  · exact sized (fun _ => rfl) h

theorem read?_writeSigned_of_neg {n : Int} (lower : -2 ^ 63 ≤ n) (upper : n < 0)
    (fuel depth : Nat) (rest : List UInt8) :
    read? (fuel + 1) depth (writeSigned n ++ rest) = some (signed n, rest) := by
  have sized {marker : UInt8} {width : Nat}
      (hm : ∀ data, readHeader? marker data = some (.signed width, data))
      (hn : -(Nat.pow 256 width : Int) ≤ 2 * n) :
      read? (fuel + 1) depth (marked marker width (n + (Nat.pow 256 width : Nat)).toNat ++ rest)
        = some (signed n, rest) := by
    have hlt : (n + (Nat.pow 256 width : Nat)).toNat < Nat.pow 256 width := by omega
    simp only [marked, List.cons_append, read?, hm, readNat?_bigEndian hlt, Option.map_some,
      toSigned_of_neg hn upper]
  unfold writeSigned
  split_ifs with h0 h5 h8 h16 h32
  · omega
  · have hm : (UInt8.ofNat (n + 256).toNat).toNat = (n + 256).toNat :=
      UInt8.toNat_ofNat_of_lt' (by simp only [UInt8.size]; omega)
    simp only [List.cons_append, List.nil_append, read?, readHeader?, hm]
    rw [if_neg (by omega), if_neg (by omega), if_neg (by omega), if_neg (by omega),
      if_pos (by omega), Int.toNat_of_nonneg (by omega), Int.add_sub_cancel]
  · exact sized (fun _ => rfl) (by simp; omega)
  · exact sized (fun _ => rfl) (by simp; omega)
  · exact sized (fun _ => rfl) (by simp; omega)
  · exact sized (fun _ => rfl) (by simp; omega)

theorem read?_writeFloat (x : Float) (fuel depth : Nat) (rest : List UInt8) :
    read? (fuel + 1) depth (marked 0xcb 8 x.toBits.toNat ++ rest) = some (float x, rest) := by
  have hm (data : List UInt8) : readHeader? 0xcb data = some (.double, data) := rfl
  have hn : x.toBits.toNat < Nat.pow 256 8 := x.toBits.toNat_lt
  simp only [marked, List.cons_append, read?, hm, readNat?_bigEndian hn, Option.map_some,
    UInt64.ofNat_toNat, Float.ofBits_toBits]

/-- A reader that goes deep enough reads the value off the start of all bytes that begin with its
written form, and one that does not go deep enough finds nothing there. -/
def ReadsBack (p : Pack) : Prop :=
  p.write.length < 2 ^ 32 → ∀ fuel depth rest, 2 * p.write.length ≤ fuel →
    read? fuel depth (p.write ++ rest) = if p.nesting ≤ depth then some (p.asRead, rest) else none

theorem length_write_pos (p : Pack) : 0 < p.write.length := by
  cases p <;>
    simp only [write, writeUnsigned, writeSigned, textHeader, bytesHeader, arrayHeader, mapHeader,
      marked, List.length_append] <;>
    repeat' split
  all_goals simp

theorem readItems?_writeItems {items : List Pack} (back : ∀ p ∈ items, ReadsBack p)
    (small : (writeItems items).length < 2 ^ 32) {fuel depth : Nat}
    (enough : 2 * (writeItems items).length < fuel) (rest : List UInt8) :
    readItems? fuel depth items.length (writeItems items ++ rest)
      = if nestingItems items ≤ depth then some (asReadItems items, rest) else none := by
  induction items generalizing fuel with
  | nil =>
    cases fuel with
    | zero => omega
    | succ fuel => simp [readItems?, writeItems, nestingItems, asReadItems]
  | cons p others ih =>
    obtain ⟨hp, hothers⟩ := List.forall_mem_cons.mp back
    have hpos := length_write_pos p
    simp only [writeItems, List.length_append] at small enough
    cases fuel with
    | zero => omega
    | succ fuel =>
      simp only [writeItems, List.append_assoc, List.length_cons, readItems?, nestingItems,
        asReadItems]
      rw [hp (by omega) fuel depth _ (by omega)]
      by_cases hdeep : p.nesting ≤ depth
      · simp only [if_pos hdeep]
        rw [ih hothers (by omega) (by omega)]
        by_cases hlater : nestingItems others ≤ depth <;> simp [hdeep, hlater]
      · simp [hdeep]

theorem readEntries?_writeEntries {entries : List (Pack × Pack)}
    (keys : ∀ e ∈ entries, ReadsBack e.1) (values : ∀ e ∈ entries, ReadsBack e.2)
    (small : (writeEntries entries).length < 2 ^ 32) {fuel depth : Nat}
    (enough : 2 * (writeEntries entries).length < fuel) (rest : List UInt8) :
    readEntries? fuel depth entries.length (writeEntries entries ++ rest)
      = if nestingEntries entries ≤ depth then some (asReadEntries entries, rest) else none := by
  induction entries generalizing fuel with
  | nil =>
    cases fuel with
    | zero => omega
    | succ fuel => simp [readEntries?, writeEntries, nestingEntries, asReadEntries]
  | cons entry others ih =>
    obtain ⟨k, v⟩ := entry
    obtain ⟨(hk : ReadsBack k), hkeys⟩ := List.forall_mem_cons.mp keys
    obtain ⟨(hv : ReadsBack v), hvalues⟩ := List.forall_mem_cons.mp values
    have hpos := length_write_pos k
    simp only [writeEntries, List.length_append] at small enough
    cases fuel with
    | zero => omega
    | succ fuel =>
      simp only [writeEntries, List.append_assoc, List.length_cons, readEntries?, nestingEntries,
        asReadEntries]
      rw [hk (by omega) fuel depth _ (by omega)]
      by_cases hkey : k.nesting ≤ depth
      · simp only [if_pos hkey]
        rw [hv (by omega) fuel depth _ (by omega)]
        by_cases hvalue : v.nesting ≤ depth
        · simp only [if_pos hvalue]
          rw [ih hkeys hvalues (by omega) (by omega)]
          by_cases hlater : nestingEntries others ≤ depth <;> simp [hkey, hvalue, hlater]
        · simp [hvalue]
      · simp [hkey]

theorem length_le_length_writeItems (items : List Pack) :
    items.length ≤ (writeItems items).length := by
  induction items with
  | nil => simp
  | cons p rest ih =>
    have := length_write_pos p
    simp only [writeItems, List.length_append, List.length_cons]
    omega

theorem length_le_length_writeEntries (entries : List (Pack × Pack)) :
    entries.length ≤ (writeEntries entries).length := by
  induction entries with
  | nil => simp
  | cons entry rest ih =>
    have := length_write_pos entry.1
    simp only [writeEntries, List.length_append, List.length_cons]
    omega

/-- A scalar is read back at any depth. -/
theorem readsBack_of_scalar {p : Pack} (flat : p.nesting = 0)
    (h : p.write.length < 2 ^ 32 → ∀ fuel depth rest,
      read? (fuel + 1) depth (p.write ++ rest) = some (p.asRead, rest)) : ReadsBack p := by
  intro small fuel depth rest enough
  have := length_write_pos p
  obtain ⟨fuel, rfl⟩ : ∃ k, fuel = k + 1 := ⟨fuel - 1, by omega⟩
  rw [h small fuel depth rest, flat, if_pos (Nat.zero_le _)]

theorem readsBack_str (s : String) : ReadsBack (str s) := by
  refine readsBack_of_scalar rfl fun small fuel depth rest => ?_
  have hsize : s.utf8ByteSize = s.toUTF8.data.toList.length := rfl
  rw [write, List.length_append] at small
  obtain ⟨marker, size, hw, hread⟩ :=
    announces_textHeader (show s.utf8ByteSize < 2 ^ 32 by omega)
  simp only [write, hw, List.cons_append, List.append_assoc, read?, hread, readText?_toUTF8,
    asRead]

theorem readsBack_bytes (data : List UInt8) : ReadsBack (bytes data) := by
  refine readsBack_of_scalar rfl fun small fuel depth rest => ?_
  rw [write, List.length_append] at small
  obtain ⟨marker, size, hw, hread⟩ := announces_bytesHeader (show data.length < 2 ^ 32 by omega)
  simp only [write, hw, List.cons_append, List.append_assoc, read?, hread, takeExactly?_append,
    Option.map_some, asRead]

theorem readsBack_arr {items : List Pack} (back : ∀ p ∈ items, ReadsBack p) :
    ReadsBack (arr items) := by
  intro small fuel depth rest enough
  have hcount := length_le_length_writeItems items
  rw [write, List.length_append] at small enough
  obtain ⟨marker, size, hw, hread⟩ :=
    announces_arrayHeader (show items.length < 2 ^ 32 by omega)
  rw [hw, List.length_cons] at enough
  obtain ⟨fuel, rfl⟩ : ∃ k, fuel = k + 1 := ⟨fuel - 1, by omega⟩
  simp only [write, hw, List.cons_append, List.append_assoc, read?, hread, nesting, asRead]
  cases depth with
  | zero => simp
  | succ depth =>
    rw [if_neg (Nat.succ_ne_zero depth), Nat.add_sub_cancel,
      readItems?_writeItems back (by omega) (by omega)]
    by_cases hdeep : nestingItems items ≤ depth <;> simp [hdeep]

theorem readsBack_map {entries : List (Pack × Pack)} (keys : ∀ e ∈ entries, ReadsBack e.1)
    (values : ∀ e ∈ entries, ReadsBack e.2) : ReadsBack (map entries) := by
  intro small fuel depth rest enough
  have hcount := length_le_length_writeEntries entries
  rw [write, List.length_append] at small enough
  obtain ⟨marker, size, hw, hread⟩ :=
    announces_mapHeader (show entries.length < 2 ^ 32 by omega)
  rw [hw, List.length_cons] at enough
  obtain ⟨fuel, rfl⟩ : ∃ k, fuel = k + 1 := ⟨fuel - 1, by omega⟩
  simp only [write, hw, List.cons_append, List.append_assoc, read?, hread, nesting, asRead]
  cases depth with
  | zero => simp
  | succ depth =>
    rw [if_neg (Nat.succ_ne_zero depth), Nat.add_sub_cancel,
      readEntries?_writeEntries keys values (by omega) (by omega)]
    by_cases hdeep : nestingEntries entries ≤ depth <;> simp [hdeep]

theorem Fits.readsBack {p : Pack} (h : Fits p) : ReadsBack p := by
  induction h with
  | nil =>
    exact readsBack_of_scalar rfl fun _ fuel depth rest => by
      simp [write, read?, readHeader?, asRead]
  | bool b =>
    exact readsBack_of_scalar rfl fun _ fuel depth rest => by
      cases b <;> simp [write, read?, readHeader?, asRead]
  | unsigned width upper =>
    exact readsBack_of_scalar rfl fun _ fuel depth rest => by
      rw [write, asRead, read?_writeUnsigned upper]
  | @signed n lower upper =>
    refine readsBack_of_scalar rfl fun _ fuel depth rest => ?_
    rw [write, asRead]
    split_ifs with hn
    · rw [writeSigned, if_pos hn, read?_writeUnsigned (by omega)]
    · rw [read?_writeSigned_of_neg lower (by omega)]
  | float x =>
    exact readsBack_of_scalar rfl fun _ fuel depth rest => by
      simp only [write, read?_writeFloat, asRead]
  | str s => exact readsBack_str s
  | bytes data => exact readsBack_bytes data
  | arr _ ih => exact readsBack_arr ih
  | map _ _ ihk ihv => exact readsBack_map ihk ihv
  | extension =>
    exact readsBack_of_scalar rfl fun _ fuel depth rest => by
      simp [write, read?, readHeader?, takeExactly?, asRead]

/-- A written value reads as itself, up to the form of its numbers, unless it is nested too
deeply. -/
theorem readStart?_write {p : Pack} (h : Fits p) (small : p.write.length < 2 ^ 32) :
    readStart? p.write = if p.nesting ≤ nestingLimit then some p.asRead else none := by
  have := h.readsBack small (2 * p.write.length + 2) nestingLimit [] (by omega)
  rw [List.append_nil] at this
  rw [readStart?, this]
  split_ifs <;> rfl

/-! ## JSON values -/

theorem ofJsonItems_eq_map (items : List Json) : ofJsonItems items = items.map ofJson := by
  induction items with
  | nil => rfl
  | cons j rest ih => rw [ofJsonItems, ih, List.map_cons]

theorem ofJsonMembers_eq_map (members : List (String × Json)) :
    ofJsonMembers members = members.map fun m => (str m.1, ofJson m.2) := by
  induction members with
  | nil => rfl
  | cons m rest ih => rw [ofJsonMembers, ih, List.map_cons]

theorem fits_ofJson {j : Json} (h : j.WellFormed) : Fits (ofJson j) := by
  induction h with
  | null => exact .nil
  | bool b => exact .bool b
  | int lower upper => exact .signed lower upper
  | float _ => exact .float _
  | str s => exact .str s
  | @arr items _ ih =>
    rw [ofJson, ofJsonItems_eq_map]
    exact .arr (List.forall_mem_map.mpr ih)
  | @obj members _ _ ih =>
    rw [ofJson, ofJsonMembers_eq_map]
    exact .map (List.forall_mem_map.mpr fun m _ => .str m.1) (List.forall_mem_map.mpr ih)

theorem toJsonItems?_asRead {items : List Json}
    (back : ∀ j ∈ items, toJson? (ofJson j).asRead = some j) :
    toJsonItems? (asReadItems (ofJsonItems items)) = some items := by
  induction items with
  | nil => rfl
  | cons j rest ih =>
    obtain ⟨hj, hrest⟩ := List.forall_mem_cons.mp back
    simp [ofJsonItems, asReadItems, toJsonItems?, hj, ih hrest]

theorem toJsonMembers?_asRead {members : List (String × Json)}
    (back : ∀ m ∈ members, toJson? (ofJson m.2).asRead = some m.2) :
    toJsonMembers? (asReadEntries (ofJsonMembers members)) = some members := by
  induction members with
  | nil => rfl
  | cons m rest ih =>
    obtain ⟨hm, hrest⟩ := List.forall_mem_cons.mp back
    simp [ofJsonMembers, asReadEntries, asRead, toJsonMembers?, text?, hm, ih hrest]

theorem firstKeyIsText_asRead (members : List (String × Json)) :
    firstKeyIsText (asReadEntries (ofJsonMembers members)) = true := by
  cases members <;> simp [ofJsonMembers, asReadEntries, asRead, firstKeyIsText]

theorem toJson?_asRead_ofJson {j : Json} (h : j.WellFormed) :
    toJson? (ofJson j).asRead = some j := by
  induction h with
  | null => simp [ofJson, asRead, toJson?]
  | bool b => simp [ofJson, asRead, toJson?]
  | @int n lower upper =>
    rw [ofJson, asRead]
    split_ifs with hn
    · rw [toJson?, Int.toNat_of_nonneg hn]
    · rw [toJson?]
  | float finite => simp [ofJson, asRead, toJson?, finite]
  | str s => simp [ofJson, asRead, toJson?]
  | arr _ ih => simp [ofJson, asRead, toJson?, toJsonItems?_asRead ih]
  | @obj members _ _ ih =>
    simp [ofJson, asRead, toJson?, toJsonMembers?_asRead ih, firstKeyIsText_asRead]

end Pack

/-! ## Well-formed values are canonical -/

namespace Json

theorem canonicalItems_eq_map (items : List Json) : canonicalItems items = items.map canonical := by
  induction items with
  | nil => rfl
  | cons j rest ih => rw [canonicalItems, ih, List.map_cons]

/-- Where keys are in order none is repeated, so every member counts. -/
theorem getElem?_canonicalMembers {members : List (String × Json)}
    (sorted : members.Pairwise fun m later => compare m.1 later.1 = .lt) (k : String) (j : Json) :
    (canonicalMembers members)[k]? = some j ↔ ∃ m ∈ members, m.1 = k ∧ canonical m.2 = j := by
  induction members generalizing k j with
  | nil => simp [canonicalMembers]
  | cons m rest ih =>
    obtain ⟨hfirst, hrest⟩ := List.pairwise_cons.mp sorted
    have hne : ∀ later ∈ rest, later.1 ≠ m.1 := by
      intro later hlater heq
      have := hfirst later hlater
      rw [heq, Std.compare_self] at this
      contradiction
    have hnew : m.1 ∉ canonicalMembers rest := by
      rw [mem_iff_exists_getElem?]
      rintro ⟨value, hvalue⟩
      obtain ⟨later, hlater, heq, -⟩ := (ih hrest m.1 value).mp hvalue
      exact hne later hlater heq
    simp only [canonicalMembers, if_neg hnew, Std.ExtTreeMap.getElem?_insert, List.mem_cons,
      exists_eq_or_imp]
    by_cases hk : m.1 = k
    · subst hk
      simp only [Std.compare_self, if_true, Option.some.injEq, true_and]
      refine ⟨Or.inl, fun h => h.resolve_right ?_⟩
      rintro ⟨later, hlater, heq, -⟩
      exact hne later hlater heq
    · rw [if_neg (by rwa [Std.compare_eq_iff_eq]), ih hrest]
      simp [hk]

theorem toList_canonicalMembers {members : List (String × Json)}
    (sorted : members.Pairwise fun m later => compare m.1 later.1 = .lt)
    (fixed : ∀ m ∈ members, canonical m.2 = m.2) :
    (canonicalMembers members).toList = members := by
  have : Std.Irrefl fun m later : String × Json => compare m.1 later.1 = .lt :=
    ⟨fun m => by simp [Std.compare_self]⟩
  have : Std.Antisymm fun m later : String × Json => compare m.1 later.1 = .lt :=
    ⟨fun m later h h' => by rw [Std.OrientedCmp.gt_of_lt h] at h'; contradiction⟩
  refine Std.ExtTreeMap.ordered_keys_toList.eq_of_mem_iff sorted fun m => ?_
  rw [Std.ExtTreeMap.mem_toList_iff_getElem?_eq_some, getElem?_canonicalMembers sorted]
  constructor
  · rintro ⟨m', hm', hkey, hvalue⟩
    rw [fixed m' hm'] at hvalue
    rwa [Prod.ext hkey hvalue] at hm'
  · intro hm
    exact ⟨m, hm, rfl, fixed m hm⟩

theorem WellFormed.canonical_eq {j : Json} (h : j.WellFormed) : canonical j = j := by
  induction h with
  | null | bool | int | float | str => simp [canonical]
  | @arr items _ ih =>
    rw [canonical, canonicalItems_eq_map, List.map_congr_left ih, List.map_id']
  | obj sorted _ ih => rw [canonical, toList_canonicalMembers sorted ih]

end Json

end SceneCompiler
