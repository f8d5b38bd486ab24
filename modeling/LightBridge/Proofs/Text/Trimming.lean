import LightBridge.Text.Blank
import Mathlib.Data.List.DropRight

/-! What is left of a text when the characters of a class are taken off its ends. It is the only part
that has nothing but such characters before and behind it, and neither begins nor ends with one. -/

namespace LightBridge.Text

variable {p : Char → Bool} {cs inner : List Char}

/-- `inner` is what `cs` holds between the characters of a class at its ends. -/
structure Trims (p : Char → Bool) (cs inner : List Char) : Prop where
  between : ∃ before after, cs = before ++ inner ++ after ∧ (∀ c ∈ before, p c) ∧ ∀ c ∈ after, p c
  first : ∀ c ∈ inner.head?, p c = false
  last : ∀ c ∈ inner.getLast?, p c = false

theorem dropWhile_append_of_head {before rest : List Char} (hbefore : ∀ c ∈ before, p c)
    (hrest : ∀ c ∈ rest.head?, p c = false) : (before ++ rest).dropWhile p = rest := by
  rw [List.dropWhile_append_of_pos hbefore]
  cases rest with
  | nil => rfl
  | cons c rest => exact List.dropWhile_cons_of_neg (ne_true_of_eq_false (hrest c rfl))

theorem head_dropWhile (p : Char → Bool) (cs : List Char) :
    ∀ c ∈ (cs.dropWhile p).head?, p c = false := by
  intro c hc
  have hnot := List.head?_dropWhile_not p cs
  rwa [Option.mem_def.1 hc] at hnot

theorem Trims.strip_eq (h : Trims p cs inner) : strip p cs = inner := by
  obtain ⟨before, after, rfl, hbefore, hafter⟩ := h.between
  cases inner with
  | nil =>
    have hnone : (before ++ [] ++ after).dropWhile p = [] :=
      List.dropWhile_eq_nil_iff.2 (by simpa [or_imp, forall_and] using ⟨hbefore, hafter⟩)
    rw [strip, hnone]
    rfl
  | cons c rest =>
    have hfront : (before ++ c :: rest ++ after).dropWhile p = c :: rest ++ after := by
      rw [List.append_assoc]
      exact dropWhile_append_of_head hbefore h.first
    have hlast : ∀ x ∈ (c :: rest).reverse.head?, p x = false := by
      rw [List.head?_reverse]
      exact h.last
    have hback : (after.reverse ++ (c :: rest).reverse).dropWhile p = (c :: rest).reverse :=
      dropWhile_append_of_head (by simpa using hafter) hlast
    rw [strip, hfront, List.reverse_append, hback, List.reverse_reverse]

theorem trims_strip (p : Char → Bool) (cs : List Char) : Trims p cs (strip p cs) := by
  have hstrip : strip p cs = (cs.dropWhile p).rdropWhile p := rfl
  rw [hstrip]
  refine ⟨⟨cs.takeWhile p, (cs.dropWhile p).rtakeWhile p, ?joined, ?before, ?after⟩, ?first, ?last⟩
  case joined =>
    rw [List.append_assoc, List.rdropWhile_append_rtakeWhile, List.takeWhile_append_dropWhile]
  case before => exact fun c hc => List.mem_takeWhile_imp hc
  case after => exact fun c hc => List.mem_rtakeWhile_imp hc
  case first =>
    intro c hc
    obtain ⟨after, hafter⟩ := List.rdropWhile_prefix p (l := cs.dropWhile p)
    refine head_dropWhile p cs c ?_
    rw [← hafter, Option.mem_def, List.head?_append, Option.mem_def.1 hc]
    rfl
  case last =>
    intro c hc
    rw [List.rdropWhile, List.getLast?_reverse] at hc
    exact head_dropWhile p _ c hc

theorem strip_eq_iff : strip p cs = inner ↔ Trims p cs inner :=
  ⟨fun h => h ▸ trims_strip p cs, Trims.strip_eq⟩

theorem strip_eq_nil_iff : strip p cs = [] ↔ ∀ c ∈ cs, p c := by
  rw [strip_eq_iff]
  constructor
  · rintro ⟨⟨before, after, rfl, hbefore, hafter⟩, -, -⟩ c hc
    rw [List.append_nil] at hc
    exact (List.mem_append.1 hc).elim (hbefore c) (hafter c)
  · exact fun h => ⟨⟨cs, [], by simp, h, by simp⟩, by simp, by simp⟩

/-- No character of ASCII that can be seen is blank. -/
theorem isBlank_of_visible {c : Char} (hlow : 0x21 ≤ c.toNat) (hhigh : c.toNat ≤ 0x7E) :
    isBlank c = false := by
  simp only [isBlank, blankRanges, List.any_eq_false, List.forall_mem_cons, Bool.and_eq_true,
    decide_eq_true_eq, List.not_mem_nil, false_imp_iff, implies_true, and_true]
  omega

end LightBridge.Text
