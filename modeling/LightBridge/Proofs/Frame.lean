import LightBridge.Frame
import LightBridge.Proofs.Exact
import Mathlib.Algebra.Order.Field.Basic
import Mathlib.Analysis.SpecialFunctions.Pow.Real
import Mathlib.Tactic.IntervalCases

/-! The frame format, written and read. What is written is read back; a list of bytes is read exactly
if it has the form of a frame, and then every position that the reader looks up is there. A frame
whose unused bytes are as they are written is determined by what is read from it: exact arithmetic
writes it again. -/

namespace LightBridge

def LightRecord.bytes (r : LightRecord) : List UInt8 :=
  [0, 0, r.id] ++ Frame.wordBytes r.x ++ Frame.wordBytes r.y ++ Frame.wordBytes r.brightness

namespace Frame

/-! ### Words -/

theorem toNat_word (high low : UInt8) : (word high low).toNat = 256 * high.toNat + low.toNat := by
  have hhigh : high.toNat < 256 := high.toNat_lt
  have hlow : low.toNat < 2 ^ 8 := low.toNat_lt
  have hor : high.toNat <<< 8 ||| low.toNat = high.toNat <<< 8 + low.toNat :=
    (Nat.shiftLeft_add_eq_or_of_lt hlow high.toNat).symm
  simp only [word, UInt16.toNat_or, UInt16.toNat_shiftLeft, UInt8.toNat_toUInt16]
  rw [show ((8 : UInt16).toNat % 16) = 8 from rfl, Nat.mod_eq_of_lt (by omega), hor]
  omega

theorem word_of_wordBytes (w : UInt16) : word (w >>> 8).toUInt8 w.toUInt8 = w := by
  apply UInt16.toNat_inj.1
  have hw : w.toNat < 65536 := w.toNat_lt
  rw [toNat_word, UInt16.toNat_toUInt8, UInt16.toNat_toUInt8, UInt16.toNat_shiftRight]
  rw [show ((8 : UInt16).toNat % 16) = 8 from rfl, Nat.shiftRight_eq_div_pow]
  omega

theorem wordBytes_word (high low : UInt8) : wordBytes (word high low) = [high, low] := by
  have hhigh : high.toNat < 256 := high.toNat_lt
  have hlow : low.toNat < 256 := low.toNat_lt
  have h₁ : (word high low >>> 8).toUInt8 = high := by
    apply UInt8.toNat_inj.1
    rw [UInt16.toNat_toUInt8, UInt16.toNat_shiftRight, toNat_word]
    rw [show ((8 : UInt16).toNat % 16) = 8 from rfl, Nat.shiftRight_eq_div_pow]
    omega
  have h₀ : (word high low).toUInt8 = low := by
    apply UInt8.toNat_inj.1
    rw [UInt16.toNat_toUInt8, toNat_word]
    omega
  rw [wordBytes, h₁, h₀]

/-! ### Records -/

theorem records_flatMap (lights : List LightRecord) :
    records (lights.flatMap LightRecord.bytes) = lights := by
  induction lights with
  | nil => rfl
  | cons l lights ih =>
    simp only [List.flatMap_cons, LightRecord.bytes, wordBytes, List.cons_append, List.nil_append,
      records, word_of_wordBytes, ih]

theorem length_flatMap_bytes (lights : List LightRecord) :
    (lights.flatMap LightRecord.bytes).length = recordLength * lights.length := by
  induction lights with
  | nil => rfl
  | cons l lights ih =>
    rw [List.flatMap_cons, List.length_append, ih]
    simp only [LightRecord.bytes, wordBytes, recordLength, List.length_append, List.length_cons,
      List.length_nil]
    omega

theorem encode_eq {α : Type} [Scalar α] (seq : UInt8) (colors : List (UInt16 × Point α)) :
    encode seq colors = header seq ++ (colors.map fun c =>
      (⟨c.1.toUInt8, scale c.2.x, scale c.2.y, scale c.2.brightness⟩ : LightRecord)).flatMap
        LightRecord.bytes := by
  rw [encode, List.flatMap_map]
  rfl

/-- The bytes of the first record. -/
theorem exists_record {rest : List UInt8} (h : recordLength ≤ rest.length) :
    ∃ z₁ z₀ id x₁ x₀ y₁ y₀ b₁ b₀ more,
      rest = z₁ :: z₀ :: id :: x₁ :: x₀ :: y₁ :: y₀ :: b₁ :: b₀ :: more := by
  match rest, h with
  | z₁ :: z₀ :: id :: x₁ :: x₀ :: y₁ :: y₀ :: b₁ :: b₀ :: more, _ =>
    exact ⟨z₁, z₀, id, x₁, x₀, y₁, y₀, b₁, b₀, more, rfl⟩

/-- Each record begins with two bytes that are zero. -/
def Spaced (rest : List UInt8) : Prop :=
  ∀ i j, j < 2 → recordLength * i + j < rest.length → rest[recordLength * i + j]? = some 0

theorem flatMap_records {n : Nat} {rest : List UInt8} (hlength : rest.length = recordLength * n)
    (hspaced : Spaced rest) : (records rest).flatMap LightRecord.bytes = rest := by
  induction n generalizing rest with
  | zero =>
    rw [Nat.mul_zero, List.length_eq_zero_iff] at hlength
    rw [hlength]
    rfl
  | succ n ih =>
    obtain ⟨z₁, z₀, id, x₁, x₀, y₁, y₀, b₁, b₀, more, rfl⟩ : ∃ z₁ z₀ id x₁ x₀ y₁ y₀ b₁ b₀ more,
        rest = z₁ :: z₀ :: id :: x₁ :: x₀ :: y₁ :: y₀ :: b₁ :: b₀ :: more :=
      exists_record (by rw [hlength, Nat.mul_succ]; omega)
    have hmore : more.length = recordLength * n := by
      simp only [List.length_cons, recordLength] at hlength ⊢
      omega
    have hz₁ : z₁ = 0 := by simpa [recordLength] using hspaced 0 0 (by omega) (by simp)
    have hz₀ : z₀ = 0 := by simpa [recordLength] using hspaced 0 1 (by omega) (by simp)
    have hrest : Spaced more := by
      intro i j hj hlt
      have hnext := hspaced (i + 1) j hj (by
        simp only [List.length_cons, recordLength] at hlt ⊢
        omega)
      have hindex : recordLength * (i + 1) + j = recordLength * i + j + 9 := by
        simp only [recordLength]
        omega
      rw [hindex] at hnext
      simpa using hnext
    rw [records, List.flatMap_cons, ih hmore hrest, LightRecord.bytes, wordBytes_word,
      wordBytes_word, wordBytes_word, hz₁, hz₀]
    rfl

/-! ### Frames -/

/-- The form of the bytes that are read as a frame. -/
structure WellFormed (bytes : List UInt8) : Prop where
  long : headerLength ≤ bytes.length
  magic_first : magic <+: bytes
  whole_records : ∃ n, bytes.length = headerLength + recordLength * n
  known_mode : bytes[14]? = some 0 ∨ bytes[14]? = some 1

/-- The fields of a header and what follows it. -/
theorem exists_header {bytes : List UInt8} (hlong : headerLength ≤ bytes.length)
    (hmagic : magic <+: bytes) : ∃ v₁ v₀ seq z₁ z₀ mode z rest,
      bytes = magic ++ v₁ :: v₀ :: seq :: z₁ :: z₀ :: mode :: z :: rest := by
  obtain ⟨fields, rfl⟩ := hmagic
  have hfields : 7 ≤ fields.length := by
    simp only [List.length_append, headerLength, magic, List.length_cons, List.length_nil] at hlong
    omega
  match fields, hfields with
  | v₁ :: v₀ :: seq :: z₁ :: z₀ :: mode :: z :: rest, _ =>
    exact ⟨v₁, v₀, seq, z₁, z₀, mode, z, rest, rfl⟩

theorem take_magic_iff {bytes : List UInt8} :
    bytes.take magic.length = magic ↔ magic <+: bytes := by
  rw [List.prefix_iff_eq_take]
  exact eq_comm

theorem modeOf_isOk_iff {b : UInt8} : (∃ mode, modeOf b = .ok mode) ↔ b = 0 ∨ b = 1 := by
  unfold modeOf
  split
  · next h => simp [h]
  · next h =>
    split
    · next h => simp [h]
    · next h' => simp [h, h']

theorem whole_records_iff {length : Nat} (h : headerLength ≤ length) :
    (length - headerLength) % recordLength = 0 ↔ ∃ n, length = headerLength + recordLength * n := by
  constructor
  · intro hmod
    refine ⟨(length - headerLength) / recordLength, ?_⟩
    simp only [headerLength, recordLength] at hmod h ⊢
    omega
  · rintro ⟨n, rfl⟩
    rw [Nat.add_sub_cancel_left, Nat.mul_mod_right]

/-- What is read from bytes that are read. -/
structure Reads (bytes : List UInt8) (f : Frame) : Prop where
  long : headerLength ≤ bytes.length
  magic_first : magic <+: bytes
  whole_records : ∃ n, bytes.length = headerLength + recordLength * n
  mode_eq : modeOf (bytes.getD 14 0) = .ok f.mode
  seq_eq : f.seq = bytes.getD 11 0
  lights_eq : f.lights = records (bytes.drop headerLength)

theorem decode_ok_iff {bytes : List UInt8} {f : Frame} : decode bytes = .ok f ↔ Reads bytes f := by
  by_cases hstart : bytes.length < headerLength ∨ bytes.take magic.length ≠ magic
  · simp only [decode]
    rw [if_pos hstart]
    refine iff_of_false (fun h => by cases h) fun h => ?_
    rcases hstart with hshort | hmagic
    · exact Nat.not_le.2 hshort h.long
    · exact hmagic (take_magic_iff.2 h.magic_first)
  · obtain ⟨hlong, hmagic⟩ := not_or.1 hstart
    rw [Nat.not_lt] at hlong
    rw [not_not, take_magic_iff] at hmagic
    by_cases hwhole : (bytes.length - headerLength) % recordLength ≠ 0
    · simp only [decode]
      rw [if_neg hstart, if_pos hwhole]
      refine iff_of_false (fun h => by cases h) fun h => hwhole ?_
      exact (whole_records_iff hlong).2 h.whole_records
    · simp only [decode]
      rw [if_neg hstart, if_neg hwhole]
      rw [not_not, whole_records_iff hlong] at hwhole
      cases hmode : modeOf (bytes.getD 14 0) with
      | error e =>
        refine iff_of_false (fun h => by cases h) fun h => ?_
        have heq := h.mode_eq
        rw [hmode] at heq
        cases heq
      | ok mode =>
        constructor
        · intro h
          cases h
          exact ⟨hlong, hmagic, hwhole, hmode, rfl, rfl⟩
        · intro h
          have heq := h.mode_eq
          rw [hmode] at heq
          cases heq
          have hframe : f = ⟨f.seq, f.mode, f.lights⟩ := rfl
          rw [hframe, h.seq_eq, h.lights_eq]
          rfl

theorem getD_eq {bytes : List UInt8} {i : Nat} (h : i < bytes.length) :
    bytes[i]? = some (bytes.getD i 0) := by
  rw [List.getD_eq_getElem?_getD, List.getElem?_eq_getElem h, Option.getD_some]

theorem decode_isOk_iff {bytes : List UInt8} :
    (∃ f, decode bytes = .ok f) ↔ WellFormed bytes := by
  simp only [decode_ok_iff]
  constructor
  · rintro ⟨f, h⟩
    refine ⟨h.long, h.magic_first, h.whole_records, ?_⟩
    have hlong : 16 ≤ bytes.length := h.long
    rw [getD_eq (by omega), Option.some_inj, Option.some_inj]
    exact modeOf_isOk_iff.1 ⟨f.mode, h.mode_eq⟩
  · intro h
    have hlong : 16 ≤ bytes.length := h.long
    have hknown := h.known_mode
    rw [getD_eq (by omega), Option.some_inj, Option.some_inj] at hknown
    obtain ⟨mode, hmode⟩ := modeOf_isOk_iff.2 hknown
    exact ⟨⟨_, mode, _⟩, h.long, h.magic_first, h.whole_records, hmode, rfl, rfl⟩

/-! ### Written, then read -/

theorem decode_encode {α : Type} [Scalar α] (seq : UInt8) (colors : List (UInt16 × Point α)) :
    decode (encode seq colors) = .ok ⟨seq, .xyBrightness, colors.map fun c =>
      ⟨c.1.toUInt8, scale c.2.x, scale c.2.y, scale c.2.brightness⟩⟩ := by
  have hlength : (header seq).length = headerLength := rfl
  rw [encode_eq, decode_ok_iff]
  refine ⟨?_, ?_, ⟨colors.length, ?_⟩, rfl, rfl, ?_⟩
  · rw [List.length_append, hlength]
    exact Nat.le_add_right _ _
  · rw [header, List.append_assoc]
    exact List.prefix_append _ _
  · rw [List.length_append, hlength, length_flatMap_bytes, List.length_map]
  · rw [← hlength, List.drop_left, records_flatMap]

/-! ### Read by position -/

/-- A word at a position. -/
def wordAt? (bytes : List UInt8) (i : Nat) : Option UInt16 := do
  return word (← bytes[i]?) (← bytes[i + 1]?)

def recordAt? (bytes : List UInt8) (i : Nat) : Option LightRecord := do
  return ⟨← bytes[i + 2]?, ← wordAt? bytes (i + 3), ← wordAt? bytes (i + 5), ← wordAt? bytes (i + 7)⟩

/-- So many records from a position on. -/
def recordsAt? (bytes : List UInt8) : Nat → Nat → Option (List LightRecord)
  | _, 0 => some []
  | i, n + 1 => do return (← recordAt? bytes i) :: (← recordsAt? bytes (i + recordLength) n)

/-- So many bytes from the beginning. -/
def start? (bytes : List UInt8) (n : Nat) : Option (List UInt8) :=
  if n ≤ bytes.length then some (bytes.take n) else none

/-- `decode`, with every byte looked up by its position. There is no answer when a position is out
of range. -/
def decodeAt? (bytes : List UInt8) : Option (Except Fault Frame) :=
  if bytes.length < headerLength then
    some (.error (.stream "decode" "missing HueStream header"))
  else do
    let start ← start? bytes magic.length
    if start ≠ magic then return .error (.stream "decode" "missing HueStream header")
    let rest := bytes.length - headerLength
    if rest % recordLength ≠ 0 then
      return .error (.stream "decode" s!"{rest % recordLength} trailing bytes")
    let lights ← recordsAt? bytes headerLength (rest / recordLength)
    let seq ← bytes[11]?
    let mode ← bytes[14]?
    return (modeOf mode).map fun mode => ⟨seq, mode, lights⟩

theorem recordsAt?_eq (before : List UInt8) {n : Nat} {rest : List UInt8}
    (hlength : rest.length = recordLength * n) :
    recordsAt? (before ++ rest) before.length n = some (records rest) := by
  induction n generalizing before rest with
  | zero =>
    rw [Nat.mul_zero, List.length_eq_zero_iff] at hlength
    rw [hlength]
    rfl
  | succ n ih =>
    obtain ⟨z₁, z₀, id, x₁, x₀, y₁, y₀, b₁, b₀, more, rfl⟩ : ∃ z₁ z₀ id x₁ x₀ y₁ y₀ b₁ b₀ more,
        rest = z₁ :: z₀ :: id :: x₁ :: x₀ :: y₁ :: y₀ :: b₁ :: b₀ :: more :=
      exists_record (by rw [hlength, Nat.mul_succ]; omega)
    have hmore : more.length = recordLength * n := by
      simp only [List.length_cons, recordLength] at hlength ⊢
      omega
    have hrest := ih (before ++ [z₁, z₀, id, x₁, x₀, y₁, y₀, b₁, b₀]) hmore
    rw [List.append_assoc, List.length_append] at hrest
    have hrecord : recordAt? (before ++ z₁ :: z₀ :: id :: x₁ :: x₀ :: y₁ :: y₀ :: b₁ :: b₀ :: more)
        before.length = some ⟨id, word x₁ x₀, word y₁ y₀, word b₁ b₀⟩ := by
      simp [recordAt?, wordAt?, Nat.add_assoc]
    rw [recordsAt?, hrecord, records]
    simp only [Option.bind_eq_bind, Option.bind_some]
    rw [show before.length + recordLength =
      before.length + [z₁, z₀, id, x₁, x₀, y₁, y₀, b₁, b₀].length from rfl]
    simp only [List.cons_append, List.nil_append] at hrest
    rw [hrest]
    rfl

/-- No position is out of range, and nothing is read but what is there. -/
theorem decodeAt?_eq (bytes : List UInt8) : decodeAt? bytes = some (decode bytes) := by
  by_cases hlong : bytes.length < headerLength
  · simp only [decodeAt?, decode, hlong, if_true, true_or]
  · rw [Nat.not_lt] at hlong
    have hlong' : 16 ≤ bytes.length := hlong
    have hstart : start? bytes magic.length = some (bytes.take magic.length) := by
      rw [start?, if_pos]
      simp only [magic, List.length_cons, List.length_nil]
      omega
    have hshort : ¬bytes.length < headerLength := Nat.not_lt.2 hlong
    simp only [decodeAt?, decode, hstart, hshort, if_false, false_or, Option.bind_eq_bind,
      Option.bind_some]
    by_cases hmagic : bytes.take magic.length = magic
    · by_cases hwhole : (bytes.length - headerLength) % recordLength = 0
      · have hrest : (bytes.drop headerLength).length =
            recordLength * ((bytes.length - headerLength) / recordLength) := by
          rw [List.length_drop]
          simp only [recordLength, headerLength] at hwhole ⊢
          omega
        have hbefore : (bytes.take headerLength).length = headerLength := by
          rw [List.length_take, Nat.min_eq_left hlong]
        have hlights := recordsAt?_eq (bytes.take headerLength) hrest
        rw [List.take_append_drop, hbefore] at hlights
        have hseq : bytes[11]? = some (bytes.getD 11 0) := getD_eq (by omega)
        have hmode : bytes[14]? = some (bytes.getD 14 0) := getD_eq (by omega)
        simp only [hmagic, hwhole, hlights, hseq, hmode, ne_eq, not_true_eq_false, if_false,
          Option.bind_some]
        rfl
      · simp only [hmagic, hwhole, ne_eq, not_true_eq_false, not_false_eq_true, if_false, if_true]
        rfl
    · simp only [hmagic, ne_eq, not_false_eq_true, if_true]
      rfl

/-! ### Read, then written -/

section

variable {α : Type} [Field α] [LinearOrder α] [IsStrictOrderedRing α] [FloorSemiring α]
  (sqrt gammaPower : α → α)

theorem scale_exact (w : UInt16) : @scale α (.exact sqrt gammaPower) (w.toNat / 65535) = w := by
  have hw : w.toNat ≤ 65535 := Nat.le_of_lt_succ w.toNat_lt
  have hcast : (w.toNat : α) ≤ 65535 := by exact_mod_cast hw
  have hlow : (0.0 : α) ≤ w.toNat / 65535 := by
    norm_num
    positivity
  have hhigh : (w.toNat : α) / 65535 ≤ 1.0 := by
    norm_num
    rwa [div_le_one (by norm_num)]
  have hclamp : (Scalar.exact sqrt gammaPower).clamp 0.0 1.0 ((w.toNat : α) / 65535) =
      w.toNat / 65535 := Scalar.exact_clamp_of_mem sqrt gammaPower hlow hhigh
  have hnearest : (Scalar.exact sqrt gammaPower).nearest 65535 ((w.toNat : α) / 65535 * 65535.0) =
      w.toNat := by
    have hback : (w.toNat : α) / 65535 * 65535.0 = w.toNat := by
      norm_num
    rw [hback]
    exact Scalar.exact_nearest_natCast sqrt gammaPower hw
  have hscale : @scale α (.exact sqrt gammaPower) (w.toNat / 65535) = UInt16.ofNat w.toNat := by
    unfold scale
    rw [hclamp, hnearest]
  rw [hscale, UInt16.ofNat_toNat]

/-- The colour that a record stands for. -/
def unscaled (l : LightRecord) : UInt16 × Point α :=
  (l.id.toUInt16, ⟨l.x.toNat / 65535, l.y.toNat / 65535, l.brightness.toNat / 65535⟩)

/-- The bytes that are not read are as they are written. -/
structure Plain (bytes : List UInt8) : Prop where
  version : bytes[9]? = some 1 ∧ bytes[10]? = some 0
  reserved : bytes[12]? = some 0 ∧ bytes[13]? = some 0 ∧ bytes[15]? = some 0
  spaced : Spaced (bytes.drop headerLength)

theorem modeOf_eq_xy {b : UInt8} (h : modeOf b = .ok .xyBrightness) : b = 1 := by
  unfold modeOf at h
  split at h
  · cases h
  · split at h
    · assumption
    · cases h

theorem encode_decode {bytes : List UInt8} {f : Frame} (hdecode : decode bytes = .ok f)
    (hmode : f.mode = .xyBrightness) (hplain : Plain bytes) :
    @encode α (.exact sqrt gammaPower) f.seq (f.lights.map unscaled) = bytes := by
  have hreads : Reads bytes f := decode_ok_iff.1 hdecode
  obtain ⟨n, hlength⟩ := hreads.whole_records
  obtain ⟨v₁, v₀, seq, z₁, z₀, mode, z, rest, rfl⟩ := exists_header hreads.long hreads.magic_first
  have hrest : rest.length = recordLength * n := by
    simp only [List.length_append, List.length_cons, magic, List.length_nil, headerLength] at hlength
    omega
  have hlights : f.lights = records rest := hreads.lights_eq
  have hspaced : Spaced rest := hplain.spaced
  have hseq : f.seq = seq := hreads.seq_eq
  obtain rfl : mode = 1 := by
    have hb := hreads.mode_eq
    rw [hmode] at hb
    exact modeOf_eq_xy hb
  obtain ⟨rfl, rfl⟩ : v₁ = 1 ∧ v₀ = 0 :=
    ⟨Option.some_inj.1 hplain.version.1, Option.some_inj.1 hplain.version.2⟩
  obtain ⟨rfl, rfl, rfl⟩ : z₁ = 0 ∧ z₀ = 0 ∧ z = 0 :=
    ⟨Option.some_inj.1 hplain.reserved.1, Option.some_inj.1 hplain.reserved.2.1,
      Option.some_inj.1 hplain.reserved.2.2⟩
  have hsame : (f.lights.map unscaled).map (fun c : UInt16 × Point α =>
      (⟨c.1.toUInt8, @scale α (.exact sqrt gammaPower) c.2.x,
        @scale α (.exact sqrt gammaPower) c.2.y,
        @scale α (.exact sqrt gammaPower) c.2.brightness⟩ : LightRecord)) = f.lights := by
    rw [List.map_map]
    refine (List.map_congr_left fun l _ => ?_).trans (List.map_id _)
    simp only [Function.comp_apply, unscaled, scale_exact, UInt8.toUInt8_toUInt16, id_eq]
  rw [@encode_eq α (.exact sqrt gammaPower), hsame, hlights, flatMap_records hrest hspaced, hseq]
  rfl

/-- What is written is read back, exactly the bytes that have the form of a frame are read and none of
them is looked for in vain, and a frame that is plain is written again by exact arithmetic, so that
no two plain frames are read alike. -/
theorem codec_round_trips :
    (∀ (β : Type) [Scalar β] (seq : UInt8) (colors : List (UInt16 × Point β)),
      decode (encode seq colors) = .ok ⟨seq, .xyBrightness, colors.map fun c =>
        ⟨c.1.toUInt8, scale c.2.x, scale c.2.y, scale c.2.brightness⟩⟩) ∧
    (∀ bytes, (∃ f, decode bytes = .ok f) ↔ WellFormed bytes) ∧
    (∀ bytes, decodeAt? bytes = some (decode bytes)) ∧
    (∀ bytes f, decode bytes = .ok f → f.mode = .xyBrightness → Plain bytes →
      @encode α (.exact sqrt gammaPower) f.seq (f.lights.map unscaled) = bytes) ∧
    (∀ bytes bytes' f, decode bytes = .ok f → decode bytes' = .ok f → f.mode = .xyBrightness →
      Plain bytes → Plain bytes' → bytes = bytes') := by
  refine ⟨fun β _ => decode_encode, fun _ => decode_isOk_iff, decodeAt?_eq, ?_, ?_⟩
  · intro bytes f hdecode hmode hplain
    exact encode_decode sqrt gammaPower hdecode hmode hplain
  · intro bytes bytes' f hdecode hdecode' hmode hplain hplain'
    rw [← encode_decode sqrt gammaPower hdecode hmode hplain]
    exact encode_decode sqrt gammaPower hdecode' hmode hplain'

end

/-- A frame of two lights. -/
theorem codec_round_trips_of_two_lights :
    let bytes := header 7 ++ [0, 0, 3, 128, 0, 64, 0, 255, 255, 0, 0, 9, 0, 0, 0, 1, 0, 0]
    let f : Frame := ⟨7, .xyBrightness, [⟨3, 0x8000, 0x4000, 0xFFFF⟩, ⟨9, 0, 1, 0⟩]⟩
    decode bytes = .ok f ∧ f.mode = .xyBrightness ∧ Plain bytes ∧
      @encode ℝ (.exact Real.sqrt fun x => x ^ (2.4 : ℝ)) f.seq (f.lights.map unscaled) = bytes := by
  intro bytes f
  have hdecode : decode bytes = .ok f := by decide +kernel
  have hspaced : Spaced (bytes.drop headerLength) := by
    intro i j hj hlt
    have hi : i < 2 := by
      simp only [bytes, header, magic, headerLength, recordLength, List.length_drop,
        List.length_append, List.length_cons, List.length_nil] at hlt
      omega
    interval_cases i <;> interval_cases j <;> rfl
  have hplain : Plain bytes := ⟨⟨rfl, rfl⟩, ⟨rfl, rfl, rfl⟩, hspaced⟩
  obtain ⟨-, -, -, hback, -⟩ := codec_round_trips Real.sqrt fun x : ℝ => x ^ (2.4 : ℝ)
  exact ⟨hdecode, rfl, hplain, hback bytes f hdecode rfl hplain⟩

end Frame

end LightBridge
