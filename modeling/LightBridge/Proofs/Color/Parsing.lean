import LightBridge.Color
import LightBridge.Proofs.Text.Trimming
import LightBridge.Proofs.Text.Whole
import Mathlib.Data.List.Forall2

/-! The texts that are read as colours: three numbers of at most 255 between commas, with blanks
around each of them. Of any other text the first part that is no such number is told, however many
parts there are; only if all parts are numbers their count is. -/

namespace LightBridge

/-! ### Lists of results -/

section

variable {α β ε : Type} {f : α → Except ε β} {l : List α}

theorem mapM_cons_ok {x : α} {y : β} (h : f x = .ok y) :
    (x :: l).mapM f = (l.mapM f).map (y :: ·) := by
  rw [List.mapM_cons, h]
  rfl

theorem mapM_cons_error {x : α} {e : ε} (h : f x = .error e) : (x :: l).mapM f = .error e := by
  rw [List.mapM_cons, h]
  rfl

theorem mapM_eq_ok_iff {ys : List β} :
    l.mapM f = .ok ys ↔ List.Forall₂ (fun x y => f x = .ok y) l ys := by
  induction l generalizing ys with
  | nil =>
    rw [List.forall₂_nil_left_iff]
    exact ⟨fun h => (Except.ok.inj h).symm, fun h => h ▸ rfl⟩
  | cons x l ih =>
    rw [List.forall₂_cons_left_iff]
    cases hx : f x with
    | error e =>
      rw [mapM_cons_error hx]
      exact iff_of_false nofun fun ⟨_, _, h, _⟩ => nomatch h
    | ok y =>
      rw [mapM_cons_ok hx]
      constructor
      · intro h
        cases hl : l.mapM f with
        | error e =>
          rw [hl] at h
          cases h
        | ok vs =>
          rw [hl] at h
          exact ⟨y, vs, rfl, ih.1 hl, (Except.ok.inj h).symm⟩
      · rintro ⟨z, zs, hz, hzs, rfl⟩
        rw [ih.2 hzs, Except.ok.inj hz]
        rfl

theorem exists_forall₂_iff {r : α → β → Prop} :
    (∃ ys, List.Forall₂ r l ys) ↔ ∀ x ∈ l, ∃ y, r x y := by
  induction l with
  | nil => simp
  | cons x l ih =>
    rw [List.forall_mem_cons, ← ih]
    constructor
    · rintro ⟨ys, hys⟩
      obtain ⟨y, zs, hy, hzs, -⟩ := List.forall₂_cons_left_iff.1 hys
      exact ⟨⟨y, hy⟩, zs, hzs⟩
    · rintro ⟨⟨y, hy⟩, zs, hzs⟩
      exact ⟨y :: zs, .cons hy hzs⟩

theorem forall₂_three_iff {r : α → β → Prop} {a b c : β} :
    List.Forall₂ r l [a, b, c] ↔ ∃ x y z, l = [x, y, z] ∧ r x a ∧ r y b ∧ r z c := by
  constructor
  · intro h
    match h with
    | .cons hx (.cons hy (.cons hz .nil)) => exact ⟨_, _, _, rfl, hx, hy, hz⟩
  · rintro ⟨x, y, z, rfl, hx, hy, hz⟩
    exact .cons hx (.cons hy (.cons hz .nil))

/-- The first result that is an error is the result of them all. -/
theorem mapM_eq_error_iff {e : ε} :
    l.mapM f = .error e ↔
      ∃ good bad rest, l = good ++ bad :: rest ∧ (∀ x ∈ good, ∃ y, f x = .ok y) ∧
        f bad = .error e := by
  induction l with
  | nil => exact iff_of_false nofun (by simp)
  | cons x l ih =>
    cases hx : f x with
    | error e' =>
      rw [mapM_cons_error hx]
      constructor
      · rintro ⟨⟩
        exact ⟨[], x, l, rfl, nofun, hx⟩
      · rintro ⟨good, bad, rest, hl, hgood, hbad⟩
        cases good with
        | nil =>
          obtain ⟨rfl, -⟩ := List.cons_eq_cons.1 hl
          rw [Except.error.inj (hx.symm.trans hbad)]
        | cons g good =>
          obtain ⟨rfl, -⟩ := List.cons_eq_cons.1 hl
          obtain ⟨y, hy⟩ := hgood x List.mem_cons_self
          cases hx.symm.trans hy
    | ok y =>
      have hfirst : l.mapM f = .error e ↔ (x :: l).mapM f = .error e := by
        rw [mapM_cons_ok hx]
        cases l.mapM f <;> simp [Except.map]
      rw [← hfirst, ih]
      constructor
      · rintro ⟨good, bad, rest, rfl, hgood, hbad⟩
        exact ⟨x :: good, bad, rest, rfl, List.forall_mem_cons.2 ⟨⟨y, hx⟩, hgood⟩, hbad⟩
      · rintro ⟨good, bad, rest, hl, hgood, hbad⟩
        cases good with
        | nil =>
          obtain ⟨rfl, -⟩ := List.cons_eq_cons.1 hl
          cases hx.symm.trans hbad
        | cons g good =>
          obtain ⟨rfl, rfl⟩ := List.cons_eq_cons.1 hl
          exact ⟨good, bad, rest, rfl, (List.forall_mem_cons.1 hgood).2, hbad⟩

end

namespace Color

open Text (Defect Trims isBlank)
open Text.Whole (Denotes Faulty)

variable {part : List Char} {v : UInt8} {d : Defect} {cs : List Char}

theorem parts_comma (cs : List Char) : parts (',' :: cs) = [] :: parts cs := by
  rw [parts]

theorem parts_cons {c : Char} (hc : c ≠ ',') {first : List Char} {rest : List (List Char)}
    (h : parts cs = first :: rest) : parts (c :: cs) = (c :: first) :: rest := by
  simp [parts, h]

theorem parts_ne_nil (cs : List Char) : parts cs ≠ [] := by
  fun_cases parts cs <;> exact List.cons_ne_nil _ _

/-- The parts are what the library's splitting gives. -/
theorem parts_eq (cs : List Char) : parts cs = cs.splitOn ',' := by
  induction cs with
  | nil => rfl
  | cons c cs ih =>
    rw [List.splitOn, List.splitOnP_cons_eq_if_modifyHead, ← List.splitOn, ← ih]
    by_cases hc : c = ','
    · rw [hc, parts_comma, if_pos (by decide)]
    · obtain ⟨first, rest, hparts⟩ := List.exists_cons_of_ne_nil (parts_ne_nil cs)
      rw [parts_cons hc hparts, hparts, if_neg (by simpa using hc), List.modifyHead_cons]

/-- A part of a text is a number of at most 255 between blanks. -/
def Spells (part : List Char) (v : UInt8) : Prop :=
  ∃ inner, Trims isBlank part inner ∧ Denotes inner v.toNat

/-- A part of a text is no such number, for a reason. -/
def Flawed (part : List Char) (d : Defect) : Prop :=
  ∃ inner, Trims isBlank part inner ∧ Faulty 255 inner d

theorem exists_trims_iff {p : List Char → Prop} :
    (∃ inner, Trims isBlank part inner ∧ p inner) ↔ p (Text.strip isBlank part) :=
  ⟨fun ⟨_, htrims, h⟩ => htrims.strip_eq ▸ h, fun h => ⟨_, Text.trims_strip isBlank part, h⟩⟩

theorem channel_eq_ok_iff : channel part = .ok v ↔ Spells part v := by
  have hless : v.toNat ≤ 255 := Nat.le_of_lt_succ v.toNat_lt
  rw [Spells, exists_trims_iff, channel, ← and_iff_left hless (a := Denotes _ _),
    ← Text.Whole.parseChars_eq_ok_iff]
  cases h : Text.Whole.parseChars 255 (Text.strip isBlank part) with
  | error d => simp [Except.map]
  | ok n =>
    obtain ⟨-, hn⟩ := Text.Whole.parseChars_eq_ok_iff.1 h
    have hv : UInt8.ofNat n = v ↔ n = v.toNat := by
      rw [← UInt8.toNat_inj, UInt8.toNat_ofNat', Nat.mod_eq_of_lt (by omega)]
    simpa [Except.map] using hv

theorem channel_eq_error_iff : channel part = .error d ↔ Flawed part d := by
  rw [Flawed, exists_trims_iff, channel, ← Text.Whole.parseChars_eq_error_iff]
  cases Text.Whole.parseChars 255 (Text.strip isBlank part) <;> simp [Except.map]

/-! ### What is written -/

/-- The number of a channel with blanks around it. -/
def Padded (part : List Char) (v : UInt8) : Prop :=
  ∃ before after, part = before ++ Nat.toDigits 10 v.toNat ++ after ∧ (∀ c ∈ before, isBlank c) ∧
    ∀ c ∈ after, isBlank c

/-- A text that shows a colour. -/
def Written (c : Color) (s : String) : Prop :=
  ∃ r g b, s.toList = [','].intercalate [r, g, b] ∧ Padded r c.red ∧ Padded g c.green ∧
    Padded b c.blue

theorem isBlank_digit {c : Char} (h : c.isDigit) : isBlank c = false := by
  obtain ⟨hlow, hhigh⟩ := Char.isDigit_iff_toNat.1 h
  exact Text.isBlank_of_visible (Nat.le_trans (by decide) hlow) (Nat.le_trans hhigh (by decide))

theorem Padded.spells (h : Padded part v) : Spells part v := by
  obtain ⟨before, after, hpart, hbefore, hafter⟩ := h
  have hdigits : ∀ c ∈ Nat.toDigits 10 v.toNat, c.isDigit :=
    fun c hc => Nat.isDigit_of_mem_toDigits (by decide) (by decide) hc
  refine ⟨Nat.toDigits 10 v.toNat, ⟨⟨before, after, hpart, hbefore, hafter⟩, ?_, ?_⟩,
    Nat.toDigits 10 v.toNat, Or.inl rfl, Nat.toDigits_ne_nil, hdigits,
    Nat.ofDigitChars_toDigits (by decide) (by decide)⟩
  · exact fun c hc => isBlank_digit (hdigits c (List.mem_of_mem_head? hc))
  · exact fun c hc => isBlank_digit (hdigits c (List.mem_of_mem_getLast? hc))

theorem Padded.comma_not_mem (h : Padded part v) : ',' ∉ part := by
  obtain ⟨before, after, rfl, hbefore, hafter⟩ := h
  intro hmem
  rcases List.mem_append.1 hmem with hmem | hmem
  · rcases List.mem_append.1 hmem with hmem | hmem
    · exact absurd (hbefore ',' hmem) (by decide)
    · exact absurd (Nat.isDigit_of_mem_toDigits (by decide) (by decide) hmem) (by decide)
  · exact absurd (hafter ',' hmem) (by decide)

/-! ### What is read -/

variable {s : String} {c : Color}

/-- All that can come of a text. -/
theorem parse_cases (s : String) :
    (∃ d, (s.toList.splitOn ',').mapM channel = .error d ∧ parse s = .error (.channel s d)) ∨
    (∃ r g b, (s.toList.splitOn ',').mapM channel = .ok [r, g, b] ∧ parse s = .ok ⟨r, g, b⟩) ∨
    ∃ vs, (s.toList.splitOn ',').mapM channel = .ok vs ∧ vs.length ≠ 3 ∧
      parse s = .error .count := by
  rw [parse, parts_eq]
  split
  · next d h => exact Or.inl ⟨d, h, rfl⟩
  · next r g b h => exact Or.inr (Or.inl ⟨r, g, b, h, rfl⟩)
  · next vs hother h =>
    refine Or.inr (Or.inr ⟨vs, h, fun hlength => ?_, rfl⟩)
    obtain ⟨r, g, b, rfl⟩ := List.length_eq_three.1 hlength
    exact hother r g b rfl

theorem mapM_channel_ok_iff {parts : List (List Char)} {vs : List UInt8} :
    parts.mapM channel = .ok vs ↔ List.Forall₂ Spells parts vs := by
  rw [mapM_eq_ok_iff]
  simp only [channel_eq_ok_iff]

theorem parse_eq_ok_iff :
    parse s = .ok c ↔ List.Forall₂ Spells (s.toList.splitOn ',') [c.red, c.green, c.blue] := by
  rw [← mapM_channel_ok_iff]
  rcases parse_cases s with ⟨d, hparts, hs⟩ | ⟨r, g, b, hparts, hs⟩ | ⟨vs, hparts, hlength, hs⟩
  · rw [hparts, hs]
    exact iff_of_false nofun nofun
  · rw [hparts, hs]
    cases c
    simp
  · rw [hparts, hs]
    refine iff_of_false nofun fun h => hlength ?_
    rw [Except.ok.inj h]
    rfl

theorem parse_eq_channel_iff {text : String} :
    parse s = .error (.channel text d) ↔
      text = s ∧ (s.toList.splitOn ',').mapM channel = .error d := by
  rcases parse_cases s with ⟨d', hparts, hs⟩ | ⟨r, g, b, hparts, hs⟩ | ⟨vs, hparts, -, hs⟩
  · rw [hparts, hs]
    simp [eq_comm]
  · rw [hparts, hs]
    exact iff_of_false nofun nofun
  · rw [hparts, hs]
    exact iff_of_false nofun nofun

theorem parse_eq_count_iff :
    parse s = .error .count ↔
      ∃ vs, List.Forall₂ Spells (s.toList.splitOn ',') vs ∧ vs.length ≠ 3 := by
  simp only [← mapM_channel_ok_iff]
  rcases parse_cases s with ⟨d, hparts, hs⟩ | ⟨r, g, b, hparts, hs⟩ | ⟨vs, hparts, hlength, hs⟩
  · rw [hparts, hs]
    exact iff_of_false nofun nofun
  · rw [hparts, hs]
    refine iff_of_false nofun fun ⟨vs, hvs, hlength⟩ => hlength ?_
    rw [← Except.ok.inj hvs]
    rfl
  · rw [hs]
    exact iff_of_true rfl ⟨vs, hparts, hlength⟩

theorem splitOn_of_written {r g b : List Char} (hs : s.toList = [','].intercalate [r, g, b])
    (hr : Padded r c.red) (hg : Padded g c.green) (hb : Padded b c.blue) :
    s.toList.splitOn ',' = [r, g, b] := by
  rw [hs]
  refine List.splitOn_intercalate ',' ?_ (List.cons_ne_nil _ _)
  simpa using ⟨hr.comma_not_mem, hg.comma_not_mem, hb.comma_not_mem⟩

/-- Exactly the texts with three numbers of at most 255 between commas are read as colours, and each
way to write a colour is. Otherwise the first part that is no such number is told with what is wrong
with it, wherever it stands; if all parts are numbers, there are not three. -/
theorem parse_accepts_grammar (s : String) :
    let parts := s.toList.splitOn ','
    (∀ c, parse s = .ok c ↔
      ∃ r g b, parts = [r, g, b] ∧ Spells r c.red ∧ Spells g c.green ∧ Spells b c.blue) ∧
    (∀ c, Written c s → parse s = .ok c) ∧
    ((∃ d, parse s = .error (.channel s d)) ↔ ∃ part ∈ parts, ∀ v, ¬Spells part v) ∧
    (∀ text d, parse s = .error (.channel text d) ↔
      text = s ∧ ∃ good bad rest, parts = good ++ bad :: rest ∧
        (∀ part ∈ good, ∃ v, Spells part v) ∧ Flawed bad d) ∧
    (parse s = .error .count ↔ parts.length ≠ 3 ∧ ∀ part ∈ parts, ∃ v, Spells part v) := by
  intro parts
  have hgood : (∃ vs, List.Forall₂ Spells parts vs) ↔ ∀ part ∈ parts, ∃ v, Spells part v :=
    exists_forall₂_iff
  refine ⟨fun c => ?accepted, fun c hwritten => ?written, ?refused, fun text d => ?first, ?count⟩
  case accepted => rw [parse_eq_ok_iff, forall₂_three_iff]
  case written =>
    obtain ⟨r, g, b, hs, hr, hg, hb⟩ := hwritten
    rw [parse_eq_ok_iff, splitOn_of_written hs hr hg hb]
    exact .cons hr.spells (.cons hg.spells (.cons hb.spells .nil))
  case refused =>
    have hsome : (∃ d, parse s = .error (.channel s d)) ↔ ¬∃ vs, List.Forall₂ Spells parts vs := by
      simp only [parse_eq_channel_iff, true_and, ← mapM_channel_ok_iff]
      cases parts.mapM channel <;> simp
    rw [hsome, hgood]
    simp only [not_forall, not_exists, exists_prop]
  case first =>
    rw [parse_eq_channel_iff, mapM_eq_error_iff]
    simp only [channel_eq_ok_iff, channel_eq_error_iff]
    rfl
  case count =>
    rw [parse_eq_count_iff, ← hgood]
    constructor
    · rintro ⟨vs, hvs, hlength⟩
      exact ⟨hvs.length_eq ▸ hlength, vs, hvs⟩
    · rintro ⟨hlength, vs, hvs⟩
      exact ⟨vs, hvs, hvs.length_eq ▸ hlength⟩

/-- Blanks of several kinds around the numbers. -/
theorem parse_accepts_grammar_of_padded :
    let c : Color := ⟨7, 255, 0⟩
    let s := "\t7, 255\u3000,0 "
    Written c s ∧ parse s = .ok c := by
  intro c s
  have hwritten : Written c s := by
    refine ⟨['\t', '7'], " 255\u3000".toList, ['0', ' '], by decide, ?_, ?_, ?_⟩
    · exact ⟨['\t'], [], by decide, List.forall_mem_singleton.2 (by decide), nofun⟩
    · exact ⟨[' '], ['\u3000'], by decide, List.forall_mem_singleton.2 (by decide),
        List.forall_mem_singleton.2 (by decide)⟩
    · exact ⟨[], [' '], by decide, nofun, List.forall_mem_singleton.2 (by decide)⟩
  exact ⟨hwritten, (parse_accepts_grammar s).2.1 c hwritten⟩

/-- The first fault of the fourth part counts, although three colours would be enough. -/
example : parse "+001,2,3,1x,256" = .error (.channel "+001,2,3,1x,256" .invalidDigit) := by
  decide +kernel

end Color

end LightBridge
