import LightBridge.Proofs.Text.ByteOrder
import LightBridge.Text.Hex

/-! Reading hexadecimal digits is the inverse of writing them, up to the case of the letters, and
refuses every text with a number of bytes that is odd or with a character that is no digit. It may as
well be done on the bytes of a text, each one taken for the character with that number: the bytes of a
character that is no digit are none either. -/

namespace LightBridge.Text.Hex

open String (utf8EncodeChar)

variable {c : Char} {cs : List Char} {n : Nat} {bytes : List UInt8}

/-- The characters that are digits. -/
def alphabet : List Char := "0123456789abcdefABCDEF".toList

theorem toNat_toLower (c : Char) :
    c.toLower.toNat = if 65 ≤ c.toNat ∧ c.toNat ≤ 90 then c.toNat + 32 else c.toNat := by
  unfold Char.toLower
  split
  · next h =>
    have hrange : 65 ≤ c.toNat ∧ c.toNat ≤ 90 := h
    have hsum : (c.val + ('a'.val - 'A'.val)).toNat = c.toNat + 32 := by
      rw [UInt32.toNat_add]
      exact Nat.mod_eq_of_lt (Nat.lt_of_le_of_lt (Nat.add_le_add_right hrange.2 _) (by decide))
    rw [if_pos hrange]
    exact hsum
  · next h => exact (if_neg h).symm

theorem toNat_digitOf : ∀ n < 16, (digitOf n).toNat = if n < 10 then 48 + n else 87 + n := by
  decide

/-- Digits by the numbers of their characters. -/
theorem digit?_eq (c : Char) :
    digit? c =
      if 48 ≤ c.toNat ∧ c.toNat ≤ 57 then some (c.toNat - 48)
      else if 97 ≤ c.toNat ∧ c.toNat ≤ 102 then some (c.toNat - 97 + 10)
      else if 65 ≤ c.toNat ∧ c.toNat ≤ 70 then some (c.toNat - 65 + 10)
      else none := rfl

theorem digit?_eq_some_iff : digit? c = some n ↔ n < 16 ∧ c.toLower = digitOf n := by
  by_cases hn : n < 16
  · rw [digit?_eq, ← Char.toNat_inj, toNat_toLower, toNat_digitOf n hn]
    split_ifs <;> simp only [Option.some.injEq, false_iff, hn, true_and] <;> omega
  · refine iff_of_false (fun h => hn ?_) fun h => hn h.1
    rw [digit?_eq] at h
    split_ifs at h <;> cases h <;> omega

theorem isSome_digit?_iff : (digit? c).isSome ↔ c ∈ alphabet := by
  have halphabet : alphabet.map Char.toNat =
      [48, 49, 50, 51, 52, 53, 54, 55, 56, 57, 97, 98, 99, 100, 101, 102, 65, 66, 67, 68, 69, 70] := by
    decide
  have hmem : c ∈ alphabet ↔ c.toNat ∈ alphabet.map Char.toNat :=
    (List.mem_map_of_injective fun _ _ => Char.toNat_inj.1).symm
  rw [hmem, halphabet, digit?_eq]
  simp only [List.mem_cons, List.not_mem_nil, or_false]
  split_ifs <;> simp <;> omega

theorem digit?_eq_none_iff : digit? c = none ↔ c ∉ alphabet := by
  rw [← isSome_digit?_iff, Option.not_isSome_iff_eq_none]

/-! ### Pairs of digits -/

theorem decodeChars_cons_cons {high low : Char} :
    decodeChars (high :: low :: cs) = some bytes ↔
      ∃ h l rest, digit? high = some h ∧ digit? low = some l ∧ decodeChars cs = some rest ∧
        bytes = UInt8.ofNat (16 * h + l) :: rest := by
  simp only [decodeChars, Option.bind_eq_bind, Option.bind_eq_some_iff, Option.pure_def,
    Option.some.injEq]
  constructor
  · rintro ⟨h, hhigh, l, hlow, rest, hrest, rfl⟩
    exact ⟨h, l, rest, hhigh, hlow, hrest, rfl⟩
  · rintro ⟨h, l, rest, hhigh, hlow, hrest, rfl⟩
    exact ⟨h, hhigh, l, hlow, rest, hrest, rfl⟩

theorem encodeByte_ofNat {h l : Nat} (hh : h < 16) (hl : l < 16) :
    encodeByte (UInt8.ofNat (16 * h + l)) = [digitOf h, digitOf l] := by
  have hbyte : (UInt8.ofNat (16 * h + l)).toNat = 16 * h + l := by
    rw [UInt8.toNat_ofNat', Nat.mod_eq_of_lt (by omega)]
  rw [encodeByte, hbyte, Nat.mul_add_div (by decide), Nat.div_eq_of_lt hl, Nat.add_zero,
    Nat.mul_add_mod, Nat.mod_eq_of_lt hl]

/-- Digits are read as the bytes that are written with them, in lower case. -/
theorem decodeChars_eq_some_iff :
    decodeChars cs = some bytes ↔ cs.map Char.toLower = bytes.flatMap encodeByte := by
  induction cs using decodeChars.induct generalizing bytes with
  | case1 =>
    cases bytes <;> simp [decodeChars, encodeByte]
  | case2 high low rest ih =>
    rw [decodeChars_cons_cons]
    constructor
    · rintro ⟨h, l, bytes, hhigh, hlow, hrest, rfl⟩
      obtain ⟨hh, hhigh⟩ := digit?_eq_some_iff.1 hhigh
      obtain ⟨hl, hlow⟩ := digit?_eq_some_iff.1 hlow
      rw [List.map_cons, List.map_cons, hhigh, hlow, ih.1 hrest, List.flatMap_cons,
        encodeByte_ofNat hh hl]
      rfl
    · intro h
      cases bytes with
      | nil => cases h
      | cons b bytes =>
        obtain ⟨hhigh, h⟩ := List.cons_eq_cons.1 h
        obtain ⟨hlow, hrest⟩ := List.cons_eq_cons.1 h
        have hb := b.toNat_lt
        refine ⟨b.toNat / 16, b.toNat % 16, bytes, digit?_eq_some_iff.2 ⟨by omega, hhigh⟩,
          digit?_eq_some_iff.2 ⟨by omega, hlow⟩, ih.2 hrest, ?_⟩
        rw [Nat.div_add_mod, UInt8.ofNat_toNat]
  | case3 c =>
    cases bytes <;> simp [decodeChars, encodeByte]

theorem decodeChars_eq_none_iff :
    decodeChars cs = none ↔ cs.length % 2 = 1 ∨ ∃ c ∈ cs, c ∉ alphabet := by
  induction cs using decodeChars.induct with
  | case1 => simp [decodeChars]
  | case2 high low rest ih =>
    have hpair : decodeChars (high :: low :: rest) = none ↔
        digit? high = none ∨ digit? low = none ∨ decodeChars rest = none := by
      rw [decodeChars]
      cases digit? high <;> cases digit? low <;> cases decodeChars rest <;> simp
    have hlength : (high :: low :: rest).length % 2 = rest.length % 2 :=
      Nat.add_mod_right rest.length 2
    rw [hpair, ih, digit?_eq_none_iff, digit?_eq_none_iff, hlength]
    simp only [List.mem_cons, exists_eq_or_imp]
    rw [or_left_comm (b := rest.length % 2 = 1), or_left_comm (b := rest.length % 2 = 1)]
  | case3 c => simp [decodeChars]

/-! ### Bytes -/

/-- How reading bytes could break off. -/
inductive Break
  /-- A pair has no such byte. -/
  | beyondPair
  /-- The number of two digits is that of no byte. -/
  | beyondByte

/-- The character with the number of a byte. -/
def latin (b : UInt8) : Char := Char.ofNat b.toNat

def byteAt (pair : List UInt8) (i : Nat) : Except Break UInt8 :=
  match pair[i]? with
  | some b => .ok b
  | none => .error .beyondPair

/-- The byte that a pair stands for, if both its bytes are digits. -/
def readPair (pair : List UInt8) : Except Break (Option UInt8) := do
  let high ← byteAt pair 0
  let some h := digit? (latin high) | return none
  let low ← byteAt pair 1
  let some l := digit? (latin low) | return none
  let number := h <<< 4 ||| l
  if number < 256 then return some (UInt8.ofNat number) else throw .beyondByte

/-- Pairs in order, up to the first one that stands for no byte. -/
def readPairs : List (List UInt8) → Except Break (Option (List UInt8))
  | [] => .ok (some [])
  | pair :: rest => do
    let some b ← readPair pair | return none
    return (← readPairs rest).map (b :: ·)

/-- Two bytes at a time; the last one may be left alone. -/
def pairs : List UInt8 → List (List UInt8)
  | [] => []
  | [b] => [[b]]
  | high :: low :: rest => [high, low] :: pairs rest

/-- Reads the bytes of a text, unless their number is odd. -/
def readBytes (bytes : List UInt8) : Except Break (Option (List UInt8)) :=
  if bytes.length % 2 = 1 then .ok none else readPairs (pairs bytes)

theorem digit?_lt (h : digit? c = some n) : n < 16 := (digit?_eq_some_iff.1 h).1

theorem shift_or {h l : Nat} (hl : l < 16) : h <<< 4 ||| l = 16 * h + l := by
  rw [← Nat.shiftLeft_add_eq_or_of_lt hl, Nat.shiftLeft_eq, Nat.mul_comm]

/-- Both bytes are there, and two digits are the number of a byte. -/
theorem readPair_eq (high low : UInt8) :
    readPair [high, low] = .ok (do
      let h ← digit? (latin high)
      let l ← digit? (latin low)
      return UInt8.ofNat (16 * h + l)) := by
  have hfirst : byteAt [high, low] 0 = .ok high := rfl
  have hsecond : byteAt [high, low] 1 = .ok low := rfl
  simp only [readPair, hfirst, hsecond, bind, Except.bind]
  cases hhigh : digit? (latin high) with
  | none => rfl
  | some h =>
    cases hlow : digit? (latin low) with
    | none => rfl
    | some l =>
      have hl := digit?_lt hlow
      have hless : 16 * h + l < 256 := by
        have hh := digit?_lt hhigh
        omega
      simp only [shift_or hl, if_pos hless]
      rfl

/-- Pairs of bytes are read as pairs of characters are. -/
theorem readPairs_eq (h : bytes.length % 2 = 0) :
    readPairs (pairs bytes) = .ok (decodeChars (bytes.map latin)) := by
  induction bytes using pairs.induct with
  | case1 => rfl
  | case2 b => cases h
  | case3 high low rest ih =>
    have hrest := ih ((Nat.add_mod_right rest.length 2).symm.trans h)
    rw [pairs, readPairs, readPair_eq, hrest, List.map_cons, List.map_cons, decodeChars]
    cases digit? (latin high) with
    | none => rfl
    | some h =>
      cases digit? (latin low) with
      | none => rfl
      | some l => cases decodeChars (rest.map latin) <;> rfl

/-- Reading bytes never breaks off. -/
theorem readBytes_eq (bytes : List UInt8) :
    readBytes bytes = .ok (decodeChars (bytes.map latin)) := by
  rw [readBytes]
  split
  · next hodd =>
    rw [decodeChars_eq_none_iff.2 (Or.inl (by rwa [List.length_map]))]
  · next heven => exact readPairs_eq (by omega)

/-! ### The bytes of a text -/

theorem toNat_latin_ofNat (h : n < 256) : (latin (UInt8.ofNat n)).toNat = n := by
  have hbyte : (UInt8.ofNat n).toNat = n := by
    rw [UInt8.toNat_ofNat', Nat.mod_eq_of_lt h]
  have hvalid : n.isValidChar := Or.inl (by omega)
  rw [latin, hbyte, Char.ofNat, dif_pos hvalid]
  rfl

theorem toNat_of_mem_alphabet (h : c ∈ alphabet) : 0x21 ≤ c.toNat ∧ c.toNat ≤ 0x7E := by
  have hall : alphabet.all fun c => 0x21 ≤ c.toNat ∧ c.toNat ≤ 0x7E := by decide
  exact of_decide_eq_true (List.all_eq_true.1 hall c h)

theorem map_latin_of_ascii (h : c.toNat ≤ 127) : (utf8EncodeChar c).map latin = [c] := by
  have hlatin : latin (UInt8.ofNat c.toNat) = c :=
    Char.toNat_inj.1 (toNat_latin_ofNat (by omega))
  rcases encode_cases c with ⟨-, hc⟩ | ⟨hless, -⟩ | ⟨hless, -⟩ | ⟨hless, -⟩
  · rw [hc, List.map_singleton]
    exact congrArg ([·]) hlatin
  all_goals
    have hnat : c.val.toNat = c.toNat := rfl
    omega

/-- The first byte of a character outside of ASCII is no digit. -/
theorem exists_latin_not_mem (h : 127 < c.toNat) :
    ∃ x ∈ (utf8EncodeChar c).map latin, x ∉ alphabet := by
  have hfirst : ∃ n rest, 128 ≤ n ∧ n < 256 ∧ utf8EncodeChar c = UInt8.ofNat n :: rest := by
    rcases encode_cases c with ⟨hless, -⟩ | ⟨-, -, hc⟩ | ⟨-, -, hc⟩ | ⟨-, -, hc⟩
    · exact absurd h (Nat.not_lt_of_le hless)
    all_goals exact ⟨_, _, by omega, by omega, hc⟩
  obtain ⟨n, rest, hlow, hhigh, hc⟩ := hfirst
  refine ⟨latin (UInt8.ofNat n), by simp [hc], fun hmem => ?_⟩
  have hless := (toNat_of_mem_alphabet hmem).2
  rw [toNat_latin_ofNat hhigh] at hless
  omega

theorem map_latin_bytes (h : ∀ c ∈ cs, c ∈ alphabet) : (cs.flatMap utf8EncodeChar).map latin = cs := by
  induction cs with
  | nil => rfl
  | cons c cs ih =>
    obtain ⟨hc, hcs⟩ := List.forall_mem_cons.1 h
    have hascii := (toNat_of_mem_alphabet hc).2
    rw [List.flatMap_cons, List.map_append, map_latin_of_ascii (by omega), ih hcs]
    rfl

/-- A character that is no digit has a byte that is none. -/
theorem exists_byte_not_mem (h : ∃ c ∈ cs, c ∉ alphabet) :
    ∃ x ∈ (cs.flatMap utf8EncodeChar).map latin, x ∉ alphabet := by
  obtain ⟨c, hc, hdigit⟩ := h
  have hbyte : ∃ x ∈ (utf8EncodeChar c).map latin, x ∉ alphabet := by
    rcases Nat.lt_or_ge 127 c.toNat with hless | hascii
    · exact exists_latin_not_mem hless
    · rw [map_latin_of_ascii hascii]
      exact ⟨c, List.mem_singleton_self c, hdigit⟩
  obtain ⟨x, hx, hnot⟩ := hbyte
  obtain ⟨b, hb, rfl⟩ := List.mem_map.1 hx
  exact ⟨latin b, List.mem_map_of_mem (List.mem_flatMap.2 ⟨c, hc, hb⟩), hnot⟩

/-- Nothing but digits has as many bytes as characters, and a text with anything else is refused
either way. -/
theorem decode_eq_bytes (s : String) : decode s = decodeChars ((Text.bytes s).map latin) := by
  rw [decode, bytes_eq]
  by_cases hdigits : ∃ c ∈ s.toList, c ∉ alphabet
  · rw [decodeChars_eq_none_iff.2 (Or.inr hdigits),
      decodeChars_eq_none_iff.2 (Or.inr (exists_byte_not_mem hdigits))]
  · rw [map_latin_bytes (by simpa using hdigits)]

/-- A text may be read byte by byte. -/
theorem readBytes_bytes (s : String) : readBytes (Text.bytes s) = .ok (decode s) := by
  rw [readBytes_eq, decode_eq_bytes]

theorem decode_eq_some_iff {s : String} :
    decode s = some bytes ↔ s.toList.map Char.toLower = (encode bytes).toList := by
  rw [decode, decodeChars_eq_some_iff, encode, String.toList_ofList]

theorem decode_eq_none_iff {s : String} :
    decode s = none ↔ s.utf8ByteSize % 2 = 1 ∨ ∃ c ∈ s.toList, c ∉ alphabet := by
  by_cases hdigits : ∃ c ∈ s.toList, c ∉ alphabet
  · exact iff_of_true (decodeChars_eq_none_iff.2 (Or.inr hdigits)) (Or.inr hdigits)
  · have hlength : (Text.bytes s).length = s.toList.length := by
      have hlatin := congrArg List.length (map_latin_bytes (by simpa using hdigits))
      rwa [List.length_map, ← bytes_eq] at hlatin
    have hsize : s.utf8ByteSize = (Text.bytes s).length := rfl
    rw [hsize, hlength, decode, decodeChars_eq_none_iff]

end LightBridge.Text.Hex
