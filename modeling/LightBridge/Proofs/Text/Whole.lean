import LightBridge.Text.Whole
import Mathlib.Data.List.TakeWhile

/-! The grammar of whole numbers: at least one digit after an optional plus sign, with any number of
zeros in front. A text that is no such number, or one past the limit, has the fault that is met first
from the left: the digits at its beginning decide whether the limit is passed before anything else
comes up. -/

namespace LightBridge.Text.Whole

open Nat (ofDigitChars)

variable {limit value n : Nat} {cs : List Char}

/-- The text is a whole number. -/
def Denotes (cs : List Char) (n : Nat) : Prop :=
  ∃ digits, (cs = digits ∨ cs = '+' :: digits) ∧ digits ≠ [] ∧ (∀ c ∈ digits, c.isDigit) ∧
    ofDigitChars 10 digits 0 = n

/-- The text without a plus sign in front of others. -/
def unsigned : List Char → List Char
  | '+' :: c :: rest => c :: rest
  | cs => cs

/-- What is wrong with a text that is no whole number up to the limit. -/
def Faulty (limit : Nat) (cs : List Char) : Defect → Prop
  | .empty => cs = []
  | .tooLarge => limit < ofDigitChars 10 ((unsigned cs).takeWhile Char.isDigit) 0
  | .invalidDigit =>
    cs ≠ [] ∧ ofDigitChars 10 ((unsigned cs).takeWhile Char.isDigit) 0 ≤ limit ∧
      ∃ c ∈ unsigned cs, c.isDigit = false

theorem le_ofDigitChars (value : Nat) (cs : List Char) : value ≤ ofDigitChars 10 cs value := by
  induction cs generalizing value with
  | nil => exact Nat.le_refl value
  | cons c cs ih =>
    rw [Nat.ofDigitChars_cons]
    exact Nat.le_trans (by omega) (ih _)

/-- The digits in front decide about the limit. -/
theorem accumulate_eq (hvalue : value ≤ limit) :
    accumulate limit value cs =
      if limit < ofDigitChars 10 (cs.takeWhile Char.isDigit) value then .error .tooLarge
      else if cs.all Char.isDigit then .ok (ofDigitChars 10 cs value)
      else .error .invalidDigit := by
  induction cs generalizing value with
  | nil => simp [accumulate, hvalue]
  | cons c cs ih =>
    rw [accumulate, digit?]
    cases hc : c.isDigit with
    | false => simp [hc, hvalue]
    | true =>
      simp only [if_true, List.takeWhile_cons_of_pos hc, Nat.ofDigitChars_cons]
      split
      · next hless =>
        rw [if_pos (Nat.lt_of_lt_of_le hless (le_ofDigitChars _ _))]
      · next hless =>
        rw [ih (Nat.le_of_not_lt hless)]
        simp [hc]

theorem unsigned_of_ne {c : Char} (h : c ≠ '+') (rest : List Char) :
    unsigned (c :: rest) = c :: rest := by
  unfold unsigned
  split
  · next heq => exact absurd (List.cons_eq_cons.1 heq).1 h
  · rfl

theorem unsigned_ne_nil (h : cs ≠ []) : unsigned cs ≠ [] := by
  fun_cases unsigned cs with
  | case1 c rest => exact List.cons_ne_nil c rest
  | case2 => exact h

/-- A plus sign alone is no digit either. -/
theorem parseChars_eq (h : cs ≠ []) : parseChars limit cs = accumulate limit 0 (unsigned cs) := by
  obtain ⟨c, rest, rfl⟩ := List.exists_cons_of_ne_nil h
  by_cases hc : c = '+'
  · subst hc
    cases rest <;> rfl
  · rw [unsigned_of_ne hc, parseChars]
    · exact fun hplus => absurd hplus hc
    · exact fun _ _ hplus => absurd hplus hc

theorem denotes_iff :
    Denotes cs n ↔ cs ≠ [] ∧ (∀ c ∈ unsigned cs, c.isDigit) ∧ ofDigitChars 10 (unsigned cs) 0 = n := by
  constructor
  · rintro ⟨digits, hcs, hsome, hdigits, hvalue⟩
    obtain ⟨c, rest, rfl⟩ := List.exists_cons_of_ne_nil hsome
    have hc : c ≠ '+' := by
      rintro rfl
      exact absurd (hdigits '+' List.mem_cons_self) (by decide)
    rcases hcs with rfl | rfl
    · rw [unsigned_of_ne hc]
      exact ⟨hsome, hdigits, hvalue⟩
    · exact ⟨List.cons_ne_nil _ _, hdigits, hvalue⟩
  · rintro ⟨hcs, hdigits, hvalue⟩
    refine ⟨unsigned cs, ?_, unsigned_ne_nil hcs, hdigits, hvalue⟩
    fun_cases unsigned cs with
    | case1 c rest => exact Or.inr rfl
    | case2 => exact Or.inl rfl

theorem parseChars_eq_ok_iff : parseChars limit cs = .ok n ↔ Denotes cs n ∧ n ≤ limit := by
  rw [denotes_iff]
  by_cases hcs : cs = []
  · subst hcs
    simp [parseChars]
  rw [parseChars_eq hcs, accumulate_eq (Nat.zero_le _)]
  by_cases hdigits : ∀ c ∈ unsigned cs, c.isDigit
  · rw [List.takeWhile_eq_self_iff.2 hdigits, if_pos (List.all_eq_true.2 hdigits)]
    split
    · next hless =>
      refine iff_of_false nofun ?_
      rintro ⟨⟨-, -, rfl⟩, hle⟩
      exact Nat.not_lt_of_le hle hless
    · next hless =>
      constructor
      · rintro ⟨⟩
        exact ⟨⟨hcs, hdigits, rfl⟩, Nat.le_of_not_lt hless⟩
      · rintro ⟨⟨-, -, rfl⟩, -⟩
        rfl
  · rw [if_neg (mt List.all_eq_true.1 hdigits)]
    refine iff_of_false ?_ fun h => hdigits h.1.2.1
    split <;> nofun

theorem parseChars_eq_error_iff {d : Defect} :
    parseChars limit cs = .error d ↔ Faulty limit cs d := by
  by_cases hcs : cs = []
  · subst hcs
    cases d <;> simp [parseChars, Faulty, unsigned]
  rw [parseChars_eq hcs, accumulate_eq (Nat.zero_le _)]
  split
  · next hless =>
    have hlimit := Nat.not_le_of_lt hless
    cases d <;> simp [Faulty, hcs, hless, hlimit]
  · next hless =>
    have hlimit := Nat.le_of_not_lt hless
    split
    · next hdigits =>
      have hother : ¬∃ c ∈ unsigned cs, c.isDigit = false := by simpa using hdigits
      cases d <;> simp only [Faulty, hcs, hless, hother, and_false, reduceCtorEq]
    · next hdigits =>
      have hother : ∃ c ∈ unsigned cs, c.isDigit = false := by simpa using hdigits
      cases d <;> simp [Faulty, hcs, hlimit, hother]

end LightBridge.Text.Whole
