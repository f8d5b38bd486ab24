import Mathlib.Data.String.Basic

/-! The order of texts is the order of their bytes. The bytes of a character say how many they are
by the first one, and then its number digit by digit, the highest one first; so of two characters
the smaller one has the smaller bytes, whatever follows them. -/

namespace LightBridge.Text

open String (utf8EncodeChar)

/-- The UTF-8 bytes of a text. -/
def bytes (s : String) : List UInt8 := s.toUTF8.data.toList

theorem bytes_eq (s : String) : bytes s = s.toList.flatMap utf8EncodeChar := by
  have hutf8 : s.toUTF8 = s.toList.utf8Encode := by
    rw [String.toUTF8_eq_toByteArray, ← String.toByteArray_ofList, String.ofList_toList]
  rw [bytes, hutf8, List.utf8Encode, List.toList_data_toByteArray]

/-- The bytes of a character by its number: one, two, three or four of them. -/
theorem encode_cases (c : Char) :
    (c.val.toNat ≤ 127 ∧ utf8EncodeChar c = [.ofNat c.val.toNat]) ∨
    (127 < c.val.toNat ∧ c.val.toNat ≤ 2047 ∧ utf8EncodeChar c =
      [.ofNat (c.val.toNat / 64 % 32 + 192), .ofNat (c.val.toNat % 64 + 128)]) ∨
    (2047 < c.val.toNat ∧ c.val.toNat ≤ 65535 ∧ utf8EncodeChar c =
      [.ofNat (c.val.toNat / 4096 % 16 + 224), .ofNat (c.val.toNat / 64 % 64 + 128),
        .ofNat (c.val.toNat % 64 + 128)]) ∨
    (65535 < c.val.toNat ∧ c.val.toNat < 0x110000 ∧ utf8EncodeChar c =
      [.ofNat (c.val.toNat / 262144 % 8 + 240), .ofNat (c.val.toNat / 4096 % 64 + 128),
        .ofNat (c.val.toNat / 64 % 64 + 128), .ofNat (c.val.toNat % 64 + 128)]) := by
  have hvalid : c.val.toNat < 0x110000 := by
    rcases c.valid with h | ⟨-, h⟩ <;> omega
  simp only [utf8EncodeChar]
  split_ifs with h₁ h₂ h₃
  · exact Or.inl ⟨h₁, rfl⟩
  · exact Or.inr (Or.inl ⟨not_le.1 h₁, h₂, rfl⟩)
  · exact Or.inr (Or.inr (Or.inl ⟨not_le.1 h₂, h₃, rfl⟩))
  · exact Or.inr (Or.inr (Or.inr ⟨not_le.1 h₃, hvalid, rfl⟩))

theorem encode_ne_nil (c : Char) : utf8EncodeChar c ≠ [] := by
  intro hnil
  rcases encode_cases c with ⟨-, h⟩ | ⟨-, -, h⟩ | ⟨-, -, h⟩ | ⟨-, -, h⟩ <;>
  · rw [hnil] at h
    cases h

/-- The first bytes decide unless they are equal, and then what follows them does. -/
theorem byte_cons_lt {x y : Nat} {a b : List UInt8} (h : x ≤ y) (hy : y < 256)
    (hrest : x = y → a < b) : UInt8.ofNat x :: a < UInt8.ofNat y :: b := by
  rw [List.cons_lt_cons_iff, UInt8.lt_iff_toNat_lt, UInt8.toNat_ofNat', UInt8.toNat_ofNat',
    Nat.mod_eq_of_lt hy, Nat.mod_eq_of_lt (h.trans_lt hy)]
  rcases h.lt_or_eq with hlt | rfl
  · exact Or.inl hlt
  · exact Or.inr ⟨rfl, hrest rfl⟩

/-- Where two characters have different numbers of bytes, the first byte decides; otherwise the
first digit does in which they differ. -/
theorem encode_append_lt {c d : Char} (h : c < d) (a b : List UInt8) :
    utf8EncodeChar c ++ a < utf8EncodeChar d ++ b := by
  have hlt : c.val.toNat < d.val.toNat := h
  rcases encode_cases c with ⟨hv, hc⟩ | ⟨hv, hv', hc⟩ | ⟨hv, hv', hc⟩ | ⟨hv, hv', hc⟩ <;>
    rcases encode_cases d with ⟨hw, hd⟩ | ⟨hw, hw', hd⟩ | ⟨hw, hw', hd⟩ | ⟨hw, hw', hd⟩
  -- A character of fewer bytes is not the greater one.
  case inr.inl.inl | inr.inr.inl.inl | inr.inr.inr.inl | inr.inr.inl.inr.inl |
      inr.inr.inr.inr.inl | inr.inr.inr.inr.inr.inl => omega
  all_goals rw [hc, hd]
  case inr.inl.inr.inl =>
    apply byte_cons_lt (by omega) (by omega)
    intro hfirst
    apply byte_cons_lt (by omega) (by omega)
    omega
  case inr.inr.inl.inr.inr.inl =>
    apply byte_cons_lt (by omega) (by omega)
    intro hfirst
    apply byte_cons_lt (by omega) (by omega)
    intro hsecond
    apply byte_cons_lt (by omega) (by omega)
    omega
  case inr.inr.inr.inr.inr.inr =>
    apply byte_cons_lt (by omega) (by omega)
    intro hfirst
    apply byte_cons_lt (by omega) (by omega)
    intro hsecond
    apply byte_cons_lt (by omega) (by omega)
    intro hthird
    apply byte_cons_lt (by omega) (by omega)
    omega
  -- One has fewer bytes than the other, or only one.
  all_goals
    apply byte_cons_lt (by omega) (by omega)
    omega

theorem append_lt_append_left {a b : List UInt8} (l : List UInt8) (h : a < b) :
    l ++ a < l ++ b := by
  induction l with
  | nil => exact h
  | cons x l ih => exact List.cons_lt_cons_iff.2 (Or.inr ⟨rfl, ih⟩)

theorem encode_lt {cs ds : List Char} (h : cs < ds) :
    cs.flatMap utf8EncodeChar < ds.flatMap utf8EncodeChar := by
  induction cs generalizing ds with
  | nil =>
    cases ds with
    | nil => exact absurd h (List.not_lt_nil _)
    | cons d ds =>
      obtain ⟨x, l, hx⟩ := List.exists_cons_of_ne_nil (encode_ne_nil d)
      rw [List.flatMap_nil, List.flatMap_cons, hx]
      exact List.nil_lt_cons _ _
  | cons c cs ih =>
    cases ds with
    | nil => exact absurd h (List.not_lt_nil _)
    | cons d ds =>
      rw [List.flatMap_cons, List.flatMap_cons]
      rcases List.cons_lt_cons_iff.1 h with hfirst | ⟨rfl, hrest⟩
      · exact encode_append_lt hfirst _ _
      · exact append_lt_append_left _ (ih hrest)

theorem lt_iff_bytes_lt (s t : String) : s < t ↔ bytes s < bytes t := by
  have hmono : ∀ {s t : String}, s < t → bytes s < bytes t := by
    intro s t h
    rw [bytes_eq, bytes_eq]
    exact encode_lt (String.lt_iff_toList_lt.1 h)
  refine ⟨hmono, fun h => ?_⟩
  rcases lt_trichotomy s t with hlt | rfl | hgt
  · exact hlt
  · exact absurd h (List.lt_irrefl _)
  · exact absurd h (List.lt_asymm (hmono hgt))

end LightBridge.Text
