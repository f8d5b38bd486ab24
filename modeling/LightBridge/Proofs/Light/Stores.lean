import LightBridge.Light.Sets
import LightBridge.Proofs.Splits
import Mathlib.Data.List.Nodup
import Mathlib.Data.List.Perm.Subperm

/-! The colours that are stored in shared sets of lights, by whichever holder, in the order in which
they are stored. A light in a set always has the colour that was stored for it last: the one it had
when it was put in, or one that it was given since. -/

namespace LightBridge

variable {α : Type}

namespace Light

variable [Scalar α]

/-- The colour that a light stores when it is given one, unless it was the last one asked for. -/
def stores? (p : Point α) (d : Dimming α) (streaming : Bool) (l : Light α) : Option (Point α) :=
  if l.requested.same p then none
  else if streaming then (d.streamed? p.brightness).map p.withBrightness
  else some p

theorem setColor_color (p : Point α) (d : Dimming α) (streaming : Bool) (l : Light α) :
    (l.setColor p d streaming).1.color = (l.stores? p d streaming).getD l.color := by
  cases streaming with
  | false =>
    simp only [setColor, sendColor, stores?, Bool.false_eq_true, if_false]
    split <;> rfl
  | true =>
    simp only [setColor, keepColor, stores?, if_true]
    split
    · rfl
    · cases d.streamed? p.brightness <;> rfl

end Light

namespace Held

/-- The number of a light, with its colour. -/
def entry (h : Held α) : Nat × Point α := (h.number, h.light.color)

theorem map_numbered (first : Nat) (lights : List (Light α)) :
    ((numbered first lights).map entry).map (·.1) = List.range' first lights.length := by
  rw [← numbers_numbered, List.map_map]
  rfl

/-- Only the light at the index is changed, if there is one. -/
theorem changeAt_cases (index : Nat) (f : Light α → Light α × List (LightCommand α))
    (lights : List (Held α)) :
    lights[index]? = none ∧ (changeAt index f lights).1 = lights ∨
      ∃ before h after, lights[index]? = some h ∧ lights = before ++ h :: after ∧
        (changeAt index f lights).1 = before ++ (h.change f).1 :: after := by
  unfold changeAt
  cases h : lights[index]? with
  | none => exact Or.inl ⟨rfl, rfl⟩
  | some x =>
    obtain ⟨before, after, hlights, hset⟩ := split_getElem? h
    exact Or.inr ⟨before, x, after, rfl, hlights, hset _⟩

/-- A change that leaves something about a light alone. -/
theorem changeAt_map {β : Type} {g : Held α → β} {f : Light α → Light α × List (LightCommand α)}
    (hf : ∀ h : Held α, g (h.change f).1 = g h) (index : Nat) (lights : List (Held α)) :
    (changeAt index f lights).1.map g = lights.map g := by
  rcases changeAt_cases index f lights with ⟨-, heq⟩ | ⟨before, h, after, -, hlights, heq⟩
  · rw [heq]
  · rw [heq, hlights, List.map_append, List.map_append, List.map_cons, List.map_cons, hf]

/-- A change that leaves the colour of a light alone. -/
theorem changeAt_entries {f : Light α → Light α × List (LightCommand α)}
    (hf : ∀ l, (f l).1.color = l.color) (index : Nat) (lights : List (Held α)) :
    (changeAt index f lights).1.map entry = lights.map entry :=
  changeAt_map (fun h => by simp [entry, change, hf]) index lights

end Held

namespace LightSets

/-- The lights of all sets, with their colours. -/
def shown (s : LightSets α) : List (Nat × Point α) := s.sets.flatten.map Held.entry

theorem contents_subset {s : LightSets α} {slot : Nat} {h : Held α} (hh : h ∈ s.contents slot) :
    h ∈ s.sets.flatten := by
  unfold contents at hh
  cases hset : (s.set? slot).bind fun k => s.sets[k]? with
  | none => simp [hset] at hh
  | some lights =>
    obtain ⟨k, -, hk⟩ := Option.bind_eq_some_iff.1 hset
    rw [hset] at hh
    exact List.mem_flatten.2 ⟨lights, List.mem_of_getElem? hk, hh⟩

/-- The lights of the set that the holder refers to are changed, and those of the others are not. -/
theorem update_shown (slot : Nat) (f : List (Held α) → List (Held α) × List (Sent α))
    (s : LightSets α) :
    s.contents slot = [] ∧ (s.update slot f).1.shown = s.shown ∨
      ∃ before after, s.shown = before ++ (s.contents slot).map Held.entry ++ after ∧
        (s.update slot f).1.shown = before ++ (f (s.contents slot)).1.map Held.entry ++ after := by
  unfold update contents
  cases s.set? slot with
  | none => exact Or.inl ⟨rfl, rfl⟩
  | some k =>
    cases hk : s.sets[k]? with
    | none =>
      have hsame := List.set_eq_of_length_le (a := (f (s.sets.getD k [])).1)
        (List.getElem?_eq_none_iff.1 hk)
      exact Or.inl ⟨by simp [hk], congrArg (fun sets => sets.flatten.map Held.entry) hsame⟩
    | some lights =>
      obtain ⟨before, after, hsets, hset⟩ := split_getElem? hk
      refine Or.inr ⟨before.flatten.map Held.entry, after.flatten.map Held.entry, ?_, ?_⟩
      · rw [Option.bind_some, hk, shown, hsets]
        simp
      · simp [shown, hset, hk]

/-- The lights of a set change places or go away, and others come in. -/
theorem update_subperm {slot : Nat} {f : List (Held α) → List (Held α) × List (Sent α)}
    {s : LightSets α} {kept new : List (Nat × Point α)}
    (hkept : kept.Subperm ((s.contents slot).map Held.entry))
    (hf : (f (s.contents slot)).1.map Held.entry = kept ++ new) :
    (s.update slot f).1.shown.Subperm (s.shown ++ new) := by
  rcases update_shown slot f s with ⟨-, hsame⟩ | ⟨before, after, hshown, hupdated⟩
  · rw [hsame]
    exact (List.sublist_append_left _ _).subperm
  · have hlast : (before ++ (kept ++ new) ++ after).Perm (before ++ kept ++ after ++ new) := by
      simp only [List.append_assoc]
      exact (List.perm_append_comm.append_left kept).append_left before
    rw [hupdated, hf, hshown, hlast.subperm_right]
    simpa only [List.subperm_append_right, List.subperm_append_left] using hkept

theorem update_taken (slot : Nat) (f : List (Held α) → List (Held α) × List (Sent α))
    (s : LightSets α) : (s.update slot f).1.taken = s.taken := by
  unfold update
  split <;> rfl

/-- Letting go of a set puts no light in. -/
theorem refer_shown (slot : Nat) (target : Option Nat) (s : LightSets α) :
    (s.refer slot target).1.shown.Sublist s.shown ∧ (s.refer slot target).1.taken = s.taken := by
  unfold refer
  cases s.set? slot with
  | none => exact ⟨List.Sublist.refl _, rfl⟩
  | some k =>
    dsimp only
    split
    · exact ⟨List.Sublist.refl _, rfl⟩
    · refine ⟨?_, rfl⟩
      cases hk : s.sets[k]? with
      | none =>
        rw [shown, List.set_eq_of_length_le (List.getElem?_eq_none_iff.1 hk)]
        exact List.Sublist.refl _
      | some lights =>
        obtain ⟨before, after, hsets, hset⟩ := split_getElem? hk
        refine List.Sublist.map _ ?_
        rw [hset, hsets]
        simp

/-- What a step comes to: lights go away or change places and others with new numbers come in, or
one of them is given another colour. -/
inductive Storing (taken taken' : Nat) (before : List (Nat × Point α)) :
    (new after : List (Nat × Point α)) → Prop
  | moved {new after} (hafter : after.Subperm (before ++ new)) (hless : taken ≤ taken')
    (hnew : new.map (·.1) = List.range' taken (taken' - taken)) :
    Storing taken taken' before new after
  | recolored {first rest} (number : Nat) (p q : Point α) (hsame : taken' = taken)
    (hbefore : before = first ++ (number, p) :: rest) :
    Storing taken taken' before [(number, q)] (first ++ (number, q) :: rest)

theorem storing_sublist {s s' : LightSets α} (hshown : s'.shown.Sublist s.shown)
    (htaken : s'.taken = s.taken) : Storing s.taken s'.taken s.shown [] s'.shown := by
  refine .moved ?_ (Nat.le_of_eq htaken.symm) (by simp [htaken])
  rw [List.append_nil]
  exact hshown.subperm

/-- Lights change places or go away, and none come in. -/
theorem storing_update {slot : Nat} {f : List (Held α) → List (Held α) × List (Sent α)}
    {s : LightSets α}
    (hf : ((f (s.contents slot)).1.map Held.entry).Subperm ((s.contents slot).map Held.entry)) :
    Storing s.taken (s.update slot f).1.taken s.shown [] (s.update slot f).1.shown := by
  have htaken := update_taken slot f s
  refine .moved (update_subperm hf (List.append_nil _).symm) (Nat.le_of_eq htaken.symm) ?_
  simp [htaken]

/-- Lights come in that have numbers of their own. -/
theorem storing_take {slot : Nat} {f : List (Held α) → List (Held α) × List (Sent α)}
    {s : LightSets α} {lights : List (Light α)} {kept : List (Nat × Point α)}
    (hkept : kept.Subperm ((s.contents slot).map Held.entry))
    (hf : (f (s.contents slot)).1.map Held.entry = kept ++ (s.take lights).2.map Held.entry) :
    Storing s.taken ((s.take lights).1.update slot f).1.taken s.shown
      ((s.take lights).2.map Held.entry) ((s.take lights).1.update slot f).1.shown := by
  have htaken : ((s.take lights).1.update slot f).1.taken = s.taken + lights.length :=
    update_taken slot f _
  have hshown := update_subperm (s := (s.take lights).1) hkept hf
  refine .moved hshown (by omega) ?_
  rw [htaken, Nat.add_sub_cancel_left]
  exact Held.map_numbered s.taken lights

/-! ### A history of what is stored -/

/-- What was stored last under a number. -/
def Last (history : List (Nat × Point α)) (number : Nat) (p : Point α) : Prop :=
  ∃ earlier later, history = earlier ++ (number, p) :: later ∧ ∀ e ∈ later, e.1 ≠ number

/-- The lights in the sets have numbers of their own, and the colours that were stored for them
last. -/
structure Recorded (taken : Nat) (shown history : List (Nat × Point α)) : Prop where
  distinct : (shown.map (·.1)).Nodup
  taken : ∀ e ∈ shown, e.1 < taken
  last : ∀ e ∈ shown, Last history e.1 e.2

section

variable {history new before after : List (Nat × Point α)} {number taken taken' : Nat} {p : Point α}

theorem Last.other (h : Last history number p) (hnew : ∀ e ∈ new, e.1 ≠ number) :
    Last (history ++ new) number p := by
  obtain ⟨earlier, later, rfl, hlater⟩ := h
  exact ⟨earlier, later ++ new, by simp, List.forall_mem_append.2 ⟨hlater, hnew⟩⟩

/-- Of entries under numbers of their own each is the last one. -/
theorem last_of_mem (hdistinct : (new.map (·.1)).Nodup) (hmem : (number, p) ∈ new) :
    Last (history ++ new) number p := by
  obtain ⟨earlier, later, rfl⟩ := List.append_of_mem hmem
  refine ⟨history ++ earlier, later, by simp, fun e he hsame => ?_⟩
  rw [List.map_append, List.map_cons, List.nodup_append] at hdistinct
  exact (List.nodup_cons.1 hdistinct.2.1).1 (List.mem_map.2 ⟨e, he, hsame⟩)

/-- Lights that come in have numbers that none had before. -/
theorem Recorded.moved (h : Recorded taken before history) (hless : taken ≤ taken')
    (hafter : after.Subperm (before ++ new))
    (hnumbers : new.map (·.1) = List.range' taken (taken' - taken)) :
    Recorded taken' after (history ++ new) := by
  obtain ⟨l, hperm, hsub⟩ := hafter
  have hnew : ∀ e ∈ new, taken ≤ e.1 ∧ e.1 < taken' := by
    intro e he
    have hmem : e.1 ∈ new.map (·.1) := List.mem_map_of_mem he
    rw [hnumbers, List.mem_range'_1] at hmem
    omega
  have hother : ∀ e ∈ before, ∀ x ∈ new, x.1 ≠ e.1 := by
    intro e he x hx
    have hold := h.taken e he
    have hfresh := (hnew x hx).1
    omega
  have hdistinct : ((before ++ new).map (·.1)).Nodup := by
    rw [List.map_append, List.nodup_append]
    refine ⟨h.distinct, hnumbers ▸ List.nodup_range', fun x hx y hy hsame => ?_⟩
    obtain ⟨e, he, rfl⟩ := List.mem_map.1 hx
    obtain ⟨n, hn, rfl⟩ := List.mem_map.1 hy
    exact hother e he n hn hsame.symm
  have hmem : ∀ e ∈ after, e ∈ before ∨ e ∈ new :=
    fun e he => List.mem_append.1 (hsub.subset (hperm.mem_iff.2 he))
  refine ⟨?distinct, fun e he => ?taken, fun e he => ?last⟩
  case distinct => exact (hperm.map _).nodup_iff.1 (hdistinct.sublist (hsub.map _))
  case taken =>
    rcases hmem e he with he | he
    · exact Nat.lt_of_lt_of_le (h.taken e he) hless
    · exact (hnew e he).2
  case last =>
    rcases hmem e he with he | he
    · exact (h.last e he).other (hother e he)
    · exact last_of_mem (hnumbers ▸ List.nodup_range') he

/-- No other light has the number of the one that is given a colour. -/
theorem Recorded.recolored {first rest : List (Nat × Point α)} {q : Point α}
    (h : Recorded taken (first ++ (number, p) :: rest) history) :
    Recorded taken (first ++ (number, q) :: rest) (history ++ [(number, q)]) := by
  have hdistinct := h.distinct
  rw [List.map_append, List.map_cons, List.nodup_middle, ← List.map_append] at hdistinct
  have hother : ∀ e ∈ first ++ rest, number ≠ e.1 :=
    fun e he hsame => (List.nodup_cons.1 hdistinct).1 (List.mem_map.2 ⟨e, he, hsame.symm⟩)
  have hcases : ∀ e ∈ first ++ (number, q) :: rest, e = (number, q) ∨
      number ≠ e.1 ∧ e ∈ first ++ (number, p) :: rest := by
    intro e he
    rcases List.mem_append.1 he with he | he
    · exact Or.inr ⟨hother e (List.mem_append_left _ he), List.mem_append_left _ he⟩
    · rcases List.mem_cons.1 he with rfl | he
      · exact Or.inl rfl
      · have hmem := List.mem_append_right first (List.mem_cons_of_mem (number, p) he)
        exact Or.inr ⟨hother e (List.mem_append_right _ he), hmem⟩
  refine ⟨?distinct, fun e he => ?taken, fun e he => ?last⟩
  case distinct => simpa using h.distinct
  case taken =>
    rcases hcases e he with rfl | ⟨-, he⟩
    · exact h.taken (number, p) (by simp)
    · exact h.taken e he
  case last =>
    rcases hcases e he with rfl | ⟨hother, he⟩
    · exact last_of_mem (by simp) (by simp)
    · exact (h.last e he).other (by simpa using hother)

theorem Recorded.storing (h : Recorded taken before history)
    (hstoring : Storing taken taken' before new after) :
    Recorded taken' after (history ++ new) := by
  cases hstoring with
  | moved hafter hless hnew => exact h.moved hless hafter hnew
  | recolored number p q hsame hbefore =>
    subst hsame hbefore
    exact h.recolored

end

variable [Scalar α]

/-- What a step stores: the colours of the lights that are put in, or the one that a light is given.
-/
def stores (s : LightSets α) : Step α → List (Nat × Point α)
  | .replace _ lights _ => (s.take lights).2.map Held.entry
  | .push _ light => (s.take [light]).2.map Held.entry
  | .setColor slot index p d streaming =>
    match (s.contents slot)[index]? with
    | some h => (h.light.stores? p d streaming).toList.map fun c => (h.number, c)
    | none => []
  | _ => []

/-- The sets after steps taken in order. -/
def run (s : LightSets α) : List (Step α) → LightSets α
  | [] => s
  | step :: rest => (s.step step).1.run rest

/-- Everything that is stored meanwhile, in order. -/
def stored (s : LightSets α) : List (Step α) → List (Nat × Point α)
  | [] => []
  | step :: rest => s.stores step ++ (s.step step).1.stored rest

theorem storing_setColor (slot index : Nat) (p : Point α) (d : Dimming α) (streaming : Bool)
    (s : LightSets α) :
    Storing s.taken (s.step (.setColor slot index p d streaming)).1.taken s.shown
      (s.stores (.setColor slot index p d streaming))
      (s.step (.setColor slot index p d streaming)).1.shown := by
  rcases Held.changeAt_cases index (Light.setColor p d streaming) (s.contents slot) with
    ⟨hnone, hsame⟩ | ⟨before, h, after, hindex, hlights, hset⟩
  · have hstores : s.stores (.setColor slot index p d streaming) = [] := by simp [stores, hnone]
    rw [hstores]
    refine storing_update ?_
    rw [hsame]
  have hentry : Held.entry (h.change (Light.setColor p d streaming)).1 =
      (h.number, (h.light.stores? p d streaming).getD h.light.color) := by
    simp [Held.entry, Held.change, Light.setColor_color]
  cases hcolor : h.light.stores? p d streaming with
  | none =>
    have hstores : s.stores (.setColor slot index p d streaming) = [] := by
      simp [stores, hindex, hcolor]
    rw [hcolor] at hentry
    rw [hstores]
    refine storing_update ?_
    rw [hset, hlights, List.map_append, List.map_append, List.map_cons, List.map_cons, hentry]
    exact List.Subperm.refl _
  | some c =>
    have hstores : s.stores (.setColor slot index p d streaming) = [(h.number, c)] := by
      simp [stores, hindex, hcolor]
    rw [hcolor] at hentry
    rw [hstores]
    rcases update_shown slot (Held.changeAt index (Light.setColor p d streaming)) s with
      ⟨hempty, -⟩ | ⟨first, rest, hshown, hupdated⟩
    · simp [hempty] at hlights
    · have hshown' : s.shown =
          (first ++ before.map Held.entry) ++
            (h.number, h.light.color) :: (after.map Held.entry ++ rest) := by
        rw [hshown, hlights]
        simp [Held.entry]
      have hupdated' : (s.step (.setColor slot index p d streaming)).1.shown =
          (first ++ before.map Held.entry) ++ (h.number, c) :: (after.map Held.entry ++ rest) := by
        refine hupdated.trans ?_
        rw [hset, List.map_append, List.map_cons, hentry]
        simp
      rw [hupdated']
      exact .recolored h.number h.light.color c (update_taken slot _ s) hshown'

theorem storing_step (s : LightSets α) (step : Step α) :
    Storing s.taken (s.step step).1.taken s.shown (s.stores step) (s.step step).1.shown := by
  cases step with
  | fresh slot =>
    obtain ⟨hshown, htaken⟩ :=
      refer_shown slot (some s.sets.length) { s with sets := s.sets ++ [[]] }
    refine storing_sublist (hshown.trans ?_) htaken
    simp [shown]
  | share slot source =>
    obtain ⟨hshown, htaken⟩ := refer_shown slot (s.set? source) s
    exact storing_sublist hshown htaken
  | release slot =>
    obtain ⟨hshown, htaken⟩ := refer_shown slot none s
    exact storing_sublist hshown htaken
  | swap slot other | giveBack => exact storing_sublist (List.Sublist.refl _) rfl
  | replace slot lights keep =>
    have hnext : Storing s.taken
        ((s.take lights).1.update slot fun _ => ((s.take lights).2, [])).1.taken s.shown
        ((s.take lights).2.map Held.entry)
        ((s.take lights).1.update slot fun _ => ((s.take lights).2, [])).1.shown :=
      storing_take (List.nil_subperm) rfl
    cases keep <;> exact hnext
  | push slot light =>
    exact storing_take (List.Subperm.refl _) (List.map_append ..)
  | pop slot =>
    exact storing_update ((List.dropLast_sublist _).map _).subperm
  | reverse slot =>
    exact storing_update ((List.reverse_perm _).map _).subperm
  | setOn slot index on =>
    have hsame := Held.changeAt_entries (f := Light.setOn on) (fun _ => rfl) index (s.contents slot)
    exact storing_update (hsame ▸ List.Subperm.refl _)
  | setTransitionTime slot index time =>
    have hsame := Held.changeAt_entries (f := Light.setTransitionTime time) (fun _ => rfl) index
      (s.contents slot)
    exact storing_update (hsame ▸ List.Subperm.refl _)
  | setColor slot index p d streaming => exact storing_setColor slot index p d streaming s

theorem recorded_run {s : LightSets α} {history : List (Nat × Point α)}
    (h : Recorded s.taken s.shown history) (steps : List (Step α)) :
    Recorded (s.run steps).taken (s.run steps).shown (history ++ s.stored steps) := by
  induction steps generalizing s history with
  | nil => simpa [run, stored] using h
  | cons step rest ih =>
    rw [stored, ← List.append_assoc]
    exact ih (h.storing (storing_step s step))

/-- A light has the colour that was stored for it last, in whichever set it is and whatever was
done. -/
theorem last_stored (lights : List (Light α)) (steps : List (Step α)) (slot : Nat) {h : Held α}
    (hh : h ∈ ((start lights).run steps).contents slot) :
    Last ((start lights).shown ++ (start lights).stored steps) h.number h.light.color := by
  have hnumbers : (start lights).shown.map (·.1) = List.range' 0 lights.length := by
    have hshown : (start lights).shown = (Held.numbered 0 lights).map Held.entry := by
      simp [start, shown]
    rw [hshown]
    exact Held.map_numbered 0 lights
  have hdistinct : ((start lights).shown.map (·.1)).Nodup := hnumbers ▸ List.nodup_range'
  have hstart : Recorded (start lights).taken (start lights).shown (start lights).shown := by
    refine ⟨hdistinct, fun e he => ?_, fun e he => ?_⟩
    · have hmem : e.1 ∈ (start lights).shown.map (·.1) := List.mem_map_of_mem he
      rw [hnumbers, List.mem_range'_1] at hmem
      simpa [start] using hmem.2
    · have hlast : Last ([] ++ (start lights).shown) e.1 e.2 := last_of_mem hdistinct he
      exact hlast
  exact (recorded_run hstart steps).last _ (List.mem_map_of_mem (contents_subset hh))

end LightSets

end LightBridge
