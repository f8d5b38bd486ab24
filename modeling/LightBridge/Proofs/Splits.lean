/-! Lists that are cut at an entry, or searched for one. -/

namespace LightBridge

variable {β : Type} {l r before after : List β} {x last : β}

/-- Two lists in a row are cut at an entry of one or of the other. -/
theorem split_append (h : l ++ r = before ++ x :: after) :
    (∃ rest, l = before ++ x :: rest ∧ after = rest ++ r) ∨
      ∃ rest, before = l ++ rest ∧ r = rest ++ x :: after := by
  rcases List.append_eq_append_iff.1 h with ⟨rest, hbefore, hr⟩ | ⟨rest, hl, hafter⟩
  · exact Or.inr ⟨rest, hbefore, hr⟩
  · rcases List.cons_eq_append_iff.1 hafter with ⟨rfl, hr⟩ | ⟨rest', rfl, hafter'⟩
    · exact Or.inr ⟨[], by simpa using hl.symm, hr⟩
    · exact Or.inl ⟨rest', hl, hafter'⟩

/-- A list with one more entry is cut at that entry or at an earlier one. -/
theorem split_concat (h : l ++ [last] = before ++ x :: after) :
    (after = [] ∧ l = before ∧ last = x) ∨
      ∃ rest, after = rest ++ [last] ∧ l = before ++ x :: rest := by
  rcases split_append h with ⟨rest, hl, hafter⟩ | ⟨rest, hbefore, hlast⟩
  · exact Or.inr ⟨rest, hafter, hl⟩
  · rcases List.cons_eq_append_iff.1 hlast with ⟨rfl, hcons⟩ | ⟨rest', -, hnil⟩
    · obtain ⟨rfl, rfl⟩ := List.cons_eq_cons.1 hcons
      exact Or.inl ⟨rfl, by simpa using hbefore.symm, rfl⟩
    · simp at hnil

/-- A list is cut at the entry with an index, and only that one changes when it is set. -/
theorem split_getElem? {i : Nat} (h : l[i]? = some x) :
    ∃ a b, l = a ++ x :: b ∧ ∀ y, l.set i y = a ++ y :: b := by
  obtain ⟨hi, rfl⟩ := List.getElem?_eq_some_iff.1 h
  refine ⟨l.take i, l.drop (i + 1), by simp, fun y => ?_⟩
  rw [List.set_eq_take_append_cons_drop, if_pos hi]

/-- Looking up in a list of pairs, one pair at a time. -/
theorem lookup_cons_ite {κ : Type} [DecidableEq κ] (key : κ) (pair : κ × β) (rest : List (κ × β)) :
    (pair :: rest).lookup key = if key = pair.1 then some pair.2 else rest.lookup key := by
  rw [List.lookup_cons]
  by_cases h : key = pair.1
  · rw [if_pos h, beq_iff_eq.2 h]
  · rw [if_neg h, beq_eq_false_iff_ne.2 h]

end LightBridge
