import LightBridge.Endpoint
import LightBridge.Proofs.Text.Hexadecimal
import LightBridge.Proofs.Text.Trimming

/-! The pre-shared key of a bridge. What the client key holds between blanks is read as hexadecimal
digits in either case, and as nothing else; without anything there is no key at all. -/

namespace LightBridge.Endpoint

open Text (Trims isBlank strip)
open Text.Hex (alphabet)

variable {e : Endpoint} {bytes : List UInt8} {inner : List Char}

/-- A client key with the digits of some bytes, each in either case, between blanks. -/
def Holds (key : String) (bytes : List UInt8) : Prop :=
  ∃ before written after, key.toList = before ++ written ++ after ∧ (∀ c ∈ before, isBlank c) ∧
    (∀ c ∈ after, isBlank c) ∧ written.map Char.toLower = (Text.Hex.encode bytes).toList

/-- Only the part of the client key between blanks matters. -/
theorem presharedKey_eq (h : strip isBlank (e.clientKey.getD "").toList = inner) :
    e.presharedKey =
      if inner = [] then .error .missingCredentials
      else match Text.Hex.decode (String.ofList inner) with
        | some bytes => .ok bytes
        | none => .error (.invalidClientKey (String.ofList inner)) := by
  subst h
  have hempty : ∀ cs : List Char, (String.ofList cs).isEmpty = true ↔ cs = [] := by
    intro cs
    rw [String.isEmpty_iff, ← String.toList_eq_nil_iff, String.toList_ofList]
  unfold presharedKey Text.trim
  dsimp only
  by_cases hnil : strip isBlank (e.clientKey.getD "").toList = []
  · rw [if_pos hnil]
    exact if_pos ((hempty _).2 hnil)
  · rw [if_neg hnil]
    cases Text.Hex.decode (String.ofList (strip isBlank (e.clientKey.getD "").toList)) <;>
      exact if_neg (mt (hempty _).1 hnil)

theorem decode_eq_some_iff :
    Text.Hex.decode (String.ofList inner) = some bytes ↔
      inner.map Char.toLower = (Text.Hex.encode bytes).toList := by
  rw [Text.Hex.decode_eq_some_iff, String.toList_ofList]

theorem decode_eq_none_iff :
    Text.Hex.decode (String.ofList inner) = none ↔
      (String.ofList inner).utf8ByteSize % 2 = 1 ∨ ∃ c ∈ inner, c ∉ alphabet := by
  rw [Text.Hex.decode_eq_none_iff, String.toList_ofList]

theorem encode_eq_nil_iff : (Text.Hex.encode bytes).toList = [] ↔ bytes = [] := by
  cases bytes <;> simp [Text.Hex.encode, Text.Hex.encodeByte]

theorem isBlank_of_decode (h : inner.map Char.toLower = (Text.Hex.encode bytes).toList) :
    ∀ c ∈ inner, isBlank c = false := by
  intro c hc
  have hdigit : c ∈ alphabet := by
    by_contra hnot
    have hnone := decode_eq_none_iff.2 (Or.inr ⟨c, hc, hnot⟩)
    rw [decode_eq_some_iff.2 h] at hnone
    cases hnone
  obtain ⟨hlow, hhigh⟩ := Text.Hex.toNat_of_mem_alphabet hdigit
  exact Text.isBlank_of_visible hlow hhigh

/-- The digits are what the key holds between blanks. -/
theorem Holds.trims {key : String} (h : Holds key bytes) :
    ∃ written, Trims isBlank key.toList written ∧
      written.map Char.toLower = (Text.Hex.encode bytes).toList := by
  obtain ⟨before, written, after, hkey, hbefore, hafter, hwritten⟩ := h
  have hdigits := isBlank_of_decode hwritten
  refine ⟨written, ⟨⟨before, after, hkey, hbefore, hafter⟩, ?_, ?_⟩, hwritten⟩
  · exact fun c hc => hdigits c (List.mem_of_mem_head? hc)
  · exact fun c hc => hdigits c (List.mem_of_mem_getLast? hc)

/-- All that can come of a client key. -/
theorem presharedKey_cases (h : strip isBlank (e.clientKey.getD "").toList = inner) :
    (inner = [] ∧ e.presharedKey = .error .missingCredentials) ∨
    (inner ≠ [] ∧ Text.Hex.decode (String.ofList inner) = none ∧
      e.presharedKey = .error (.invalidClientKey (String.ofList inner))) ∨
    ∃ bytes, inner ≠ [] ∧ Text.Hex.decode (String.ofList inner) = some bytes ∧
      e.presharedKey = .ok bytes := by
  rw [presharedKey_eq h]
  by_cases hnil : inner = []
  · exact Or.inl ⟨hnil, if_pos hnil⟩
  · rw [if_neg hnil]
    cases hdecode : Text.Hex.decode (String.ofList inner) with
    | none => exact Or.inr (Or.inl ⟨hnil, rfl, rfl⟩)
    | some bytes => exact Or.inr (Or.inr ⟨bytes, hnil, rfl, rfl⟩)

theorem presharedKey_eq_ok_iff (h : strip isBlank (e.clientKey.getD "").toList = inner) :
    e.presharedKey = .ok bytes ↔
      bytes ≠ [] ∧ inner.map Char.toLower = (Text.Hex.encode bytes).toList := by
  have hsome : inner.map Char.toLower = (Text.Hex.encode bytes).toList → (inner = [] ↔ bytes = []) :=
    fun heq => by rw [← encode_eq_nil_iff, ← heq, List.map_eq_nil_iff]
  rw [← decode_eq_some_iff] at hsome ⊢
  rcases presharedKey_cases h with ⟨hnil, hkey⟩ | ⟨-, hnone, hkey⟩ | ⟨b, hsome', hdecode, hkey⟩
  · rw [hkey]
    exact iff_of_false nofun fun ⟨hbytes, heq⟩ => hbytes ((hsome heq).1 hnil)
  · rw [hkey, hnone]
    exact iff_of_false nofun fun ⟨_, heq⟩ => nomatch heq
  · rw [hkey, hdecode]
    constructor
    · rintro ⟨⟩
      exact ⟨fun hnil => hsome' ((hsome hdecode).2 hnil), rfl⟩
    · rintro ⟨-, ⟨⟩⟩
      rfl

theorem presharedKey_eq_missing_iff (h : strip isBlank (e.clientKey.getD "").toList = inner) :
    e.presharedKey = .error .missingCredentials ↔
      e.clientKey = none ∨ ∀ c ∈ (e.clientKey.getD "").toList, isBlank c := by
  have hblank : inner = [] ↔ e.clientKey = none ∨ ∀ c ∈ (e.clientKey.getD "").toList, isBlank c := by
    rw [← h, Text.strip_eq_nil_iff]
    cases e.clientKey <;> simp
  rw [← hblank]
  rcases presharedKey_cases h with ⟨hnil, hkey⟩ | ⟨hsome, -, hkey⟩ | ⟨b, hsome, -, hkey⟩
  · exact iff_of_true hkey hnil
  · rw [hkey]
    exact iff_of_false nofun hsome
  · rw [hkey]
    exact iff_of_false nofun hsome

theorem presharedKey_eq_invalid_iff (h : strip isBlank (e.clientKey.getD "").toList = inner)
    {text : String} :
    e.presharedKey = .error (.invalidClientKey text) ↔
      text = String.ofList inner ∧ inner ≠ [] ∧
        (text.utf8ByteSize % 2 = 1 ∨ ∃ c ∈ inner, c ∉ alphabet) := by
  rcases presharedKey_cases h with ⟨hnil, hkey⟩ | ⟨hsome, hnone, hkey⟩ | ⟨b, -, hdecode, hkey⟩
  · rw [hkey]
    exact iff_of_false nofun fun ⟨_, hsome, _⟩ => hsome hnil
  · rw [hkey]
    constructor
    · rintro ⟨⟩
      exact ⟨rfl, hsome, decode_eq_none_iff.1 hnone⟩
    · rintro ⟨rfl, -⟩
      rfl
  · rw [hkey]
    refine iff_of_false nofun ?_
    rintro ⟨rfl, -, hother⟩
    rw [decode_eq_none_iff.2 hother] at hdecode
    cases hdecode

/-- The pre-shared key is what the client key says in hexadecimal, and every key of bytes can be said
in either case and between blanks. There is none without a client key or with a blank one; any other
text is refused as it stands between its blanks. No text makes reading its bytes break off. -/
theorem presharedKey_is_hexadecimal (e : Endpoint) :
    let key := (e.clientKey.getD "").toList
    ∃ inner, Trims isBlank key inner ∧
      (∀ key bytes, e.clientKey = some key → bytes ≠ [] → Holds key bytes →
        e.presharedKey = .ok bytes) ∧
      (∀ bytes, e.presharedKey = .ok bytes ↔
        bytes ≠ [] ∧ inner.map Char.toLower = (Text.Hex.encode bytes).toList) ∧
      (e.presharedKey = .error .missingCredentials ↔
        e.clientKey = none ∨ ∀ c ∈ key, isBlank c) ∧
      (∀ text, e.presharedKey = .error (.invalidClientKey text) ↔
        text = String.ofList inner ∧ inner ≠ [] ∧
          (text.utf8ByteSize % 2 = 1 ∨ ∃ c ∈ inner, c ∉ alphabet)) ∧
      (∀ fault, e.presharedKey = .error fault →
        fault = .missingCredentials ∨ ∃ text, fault = .invalidClientKey text) ∧
      (inner ≠ [] → Text.Hex.readBytes (Text.bytes (String.ofList inner)) =
        .ok e.presharedKey.toOption) := by
  intro key
  obtain ⟨inner, hinner⟩ : ∃ inner, strip isBlank key = inner := ⟨_, rfl⟩
  refine ⟨inner, Text.strip_eq_iff.1 hinner, ?held, fun bytes => presharedKey_eq_ok_iff hinner,
    presharedKey_eq_missing_iff hinner, fun text => presharedKey_eq_invalid_iff hinner, ?other,
    ?bytes⟩
  case held =>
    intro held bytes hkey hbytes hholds
    obtain ⟨written, htrims, hwritten⟩ := hholds.trims
    have hheld : strip isBlank (e.clientKey.getD "").toList = written := by
      rw [hkey]
      exact htrims.strip_eq
    exact (presharedKey_eq_ok_iff hheld).2 ⟨hbytes, hwritten⟩
  case other =>
    intro fault hfault
    rcases presharedKey_cases hinner with ⟨-, hkey⟩ | ⟨-, -, hkey⟩ | ⟨b, -, -, hkey⟩ <;>
      rw [hkey] at hfault <;> cases hfault
    · exact Or.inl rfl
    · exact Or.inr ⟨_, rfl⟩
  case bytes =>
    intro hsome
    rw [Text.Hex.readBytes_bytes]
    rcases presharedKey_cases hinner with ⟨hnil, -⟩ | ⟨-, hdecode, hkey⟩ | ⟨b, -, hdecode, hkey⟩
    · exact absurd hnil hsome
    · rw [hdecode, hkey]
      rfl
    · rw [hdecode, hkey]
      rfl

/-- A key with letters of both cases. -/
theorem presharedKey_is_hexadecimal_of_mixed :
    let key := "\u2003 0aFf\t"
    let e : Endpoint := { host := "h", username := "u", clientKey := some key }
    (e.clientKey = some key ∧ [0x0a, 0xff] ≠ ([] : List UInt8) ∧ Holds key [0x0a, 0xff]) ∧
      e.presharedKey = .ok [0x0a, 0xff] := by
  intro key e
  have hbefore : ∀ c ∈ ['\u2003', ' '], isBlank c :=
    List.forall_mem_cons.2 ⟨by decide, List.forall_mem_singleton.2 (by decide)⟩
  have hholds : Holds key [0x0a, 0xff] :=
    ⟨['\u2003', ' '], ['0', 'a', 'F', 'f'], ['\t'], by decide, hbefore,
      List.forall_mem_singleton.2 (by decide), by decide⟩
  obtain ⟨inner, -, hheld, -⟩ := presharedKey_is_hexadecimal e
  exact ⟨⟨rfl, nofun, hholds⟩, hheld key _ rfl nofun hholds⟩

end LightBridge.Endpoint
