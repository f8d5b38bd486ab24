import LightBridge.Proofs.Light.GivingBack
import LightBridge.Proofs.Light.Stores

/-! What a step does to sets of lights that several holders share: holders refer to other sets, a
set loses its last holder, the lights of a set are worked on, or those aside are given back. -/

namespace LightBridge

open scoped List

variable {α : Type}

/-! ### Changes of a light -/

/-- A change leaves alone how a light is given back, and does not give it back. -/
def Light.Retains (f : Light α → Light α × List (LightCommand α)) : Prop :=
  ∀ l, (f l).1.id = l.id ∧ (f l).1.found = l.found ∧ ∀ c ∈ (f l).2, c.isRestore = false

theorem Light.setOn_retains (on : Bool) : Light.Retains (α := α) (Light.setOn on) := by
  refine fun l => ⟨rfl, rfl, fun c hc => ?_⟩
  simp only [setOn] at hc
  split at hc <;> simp_all [LightCommand.isRestore]

theorem Light.setTransitionTime_retains (time : UInt16) :
    Light.Retains (α := α) (Light.setTransitionTime time) := by
  refine fun l => ⟨rfl, rfl, fun c hc => ?_⟩
  simp only [setTransitionTime] at hc
  split at hc <;> simp_all [LightCommand.isRestore]

theorem Light.setColor_retains [Scalar α] (p : Point α) (d : Dimming α) (streaming : Bool) :
    Light.Retains (Light.setColor p d streaming) := by
  intro l
  cases streaming with
  | false =>
    simp only [setColor, sendColor, Bool.false_eq_true, if_false]
    split <;> simp [LightCommand.isRestore]
  | true =>
    simp only [setColor, keepColor, if_true]
    split
    · simp
    · cases d.streamed? p.brightness <;> simp

namespace Held

theorem restoring_change {f : Light α → Light α × List (LightCommand α)} (hf : Light.Retains f)
    (h : Held α) : (h.change f).1.restoring = h.restoring := by
  obtain ⟨hid, hfound, -⟩ := hf h.light
  simp [change, restoring, Light.restoring, hid, hfound]

theorem changeAt_sent {f : Light α → Light α × List (LightCommand α)} (hf : Light.Retains f)
    (index : Nat) (lights : List (Held α)) :
    ∀ c ∈ (changeAt index f lights).2,
      c.command.isRestore = false ∧ ∃ h ∈ lights, h.number = c.number := by
  intro c hc
  unfold changeAt at hc
  cases hindex : lights[index]? with
  | none => simp [hindex] at hc
  | some h =>
    simp only [hindex, change, List.mem_map] at hc
    obtain ⟨command, hcommand, rfl⟩ := hc
    exact ⟨(hf h.light).2.2 command hcommand, h, List.mem_of_getElem? hindex, rfl⟩

end Held

namespace LightSets

/-! ### Sets and holders -/

section

variable {s : LightSets α} {slot k : Nat}

/-- The lights of a set. -/
def lightsIn (s : LightSets α) (k : Nat) : List (Held α) := s.sets.getD k []

/-- All lights that were not given back: those in the sets and those aside. -/
def owned (s : LightSets α) : List (Held α) := s.sets.flatten ++ s.aside

theorem contents_eq (s : LightSets α) (slot : Nat) :
    s.contents slot = (s.set? slot).elim [] s.lightsIn := by
  unfold contents
  cases s.set? slot with
  | none => rfl
  | some k => simp [lightsIn, List.getD_eq_getElem?_getD]

theorem mem_slots_iff : some k ∈ s.slots ↔ ∃ slot, s.set? slot = some k := by
  simp only [set?, Option.join_eq_some_iff, List.mem_iff_getElem?]

theorem set?_set (hslot : slot < s.slots.length) (target : Option Nat) (holder : Nat) :
    ((s.slots.set slot target)[holder]?).join = if holder = slot then target else s.set? holder := by
  rw [List.getElem?_set]
  by_cases h : holder = slot
  · subst h
    simp [hslot]
  · rw [if_neg (Ne.symm h), if_neg h, set?]

theorem set?_swap {other : Nat} (hslot : slot < s.slots.length) (hother : other < s.slots.length)
    (holder : Nat) :
    (((s.slots.set slot (s.set? other)).set other (s.set? slot))[holder]?).join =
      if holder = other then s.set? slot else if holder = slot then s.set? other
      else s.set? holder := by
  have hlength : (s.slots.set slot (s.set? other)).length = s.slots.length := List.length_set
  rw [← set?_set hslot]
  exact set?_set (s := { s with slots := s.slots.set slot (s.set? other) }) (hlength ▸ hother) _
    holder

theorem getD_set (hk : k < s.sets.length) (lights : List (Held α)) (j : Nat) :
    (s.sets.set k lights).getD j [] = if j = k then lights else s.lightsIn j := by
  rw [lightsIn, List.getD_eq_getElem?_getD, List.getElem?_set]
  by_cases h : j = k
  · subst h
    simp [hk]
  · rw [if_neg (Ne.symm h), if_neg h, ← List.getD_eq_getElem?_getD]

/-- The lights of one set are exchanged for others. -/
theorem flatten_set (hk : k < s.sets.length) (lights : List (Held α)) :
    (s.sets.set k lights).flatten ++ s.lightsIn k ~ s.sets.flatten ++ lights := by
  obtain ⟨before, after, hsets, hset⟩ := split_getElem? (List.getElem?_eq_getElem hk)
  have hin : s.lightsIn k = s.sets[k] := by simp [lightsIn, hk]
  have hflatten : s.sets.flatten = before.flatten ++ (s.lightsIn k ++ after.flatten) := by
    rw [hin, ← List.flatten_cons, ← List.flatten_append, ← hsets]
  rw [hset, hflatten, List.flatten_append, List.flatten_cons]
  simp only [List.append_assoc]
  refine List.Perm.append_left _ ?_
  calc lights ++ (after.flatten ++ s.lightsIn k)
      ~ after.flatten ++ s.lightsIn k ++ lights := List.perm_append_comm
    _ ~ s.lightsIn k ++ after.flatten ++ lights := List.perm_append_comm.append_right _
    _ = s.lightsIn k ++ (after.flatten ++ lights) := List.append_assoc ..

/-- A set that had a holder has one still, unless it is the one that is let go of. -/
theorem mem_slots_set (hslot : slot < s.slots.length) {target : Option Nat} (hk : some k ∈ s.slots)
    (hlast : s.set? slot = some k → some k ∈ s.slots.set slot target) :
    some k ∈ s.slots.set slot target := by
  obtain ⟨holder, hholder⟩ := mem_slots_iff.1 hk
  by_cases h : holder = slot
  · exact hlast (h ▸ hholder)
  · refine List.mem_iff_getElem?.2 ⟨holder, Option.join_eq_some_iff.1 ?_⟩
    rw [set?_set hslot, if_neg h, hholder]

/-! ### Referring and updating -/

theorem refer_cases (slot : Nat) (target : Option Nat) (s : LightSets α) :
    (∀ k, s.set? slot = some k → some k ∈ s.slots.set slot target) ∧
        s.refer slot target = ({ s with slots := s.slots.set slot target }, []) ∨
      ∃ k, s.set? slot = some k ∧ some k ∉ s.slots.set slot target ∧
        s.refer slot target =
          ({ s with slots := s.slots.set slot target, sets := s.sets.set k [] },
            restores (s.lightsIn k)) := by
  unfold refer
  cases hset : s.set? slot with
  | none => exact Or.inl ⟨nofun, rfl⟩
  | some k =>
    dsimp only
    split
    · next hkept =>
      refine Or.inl ⟨fun j hj => ?_, rfl⟩
      obtain rfl := Option.some_inj.1 hj
      exact List.contains_iff_mem.1 hkept
    · next hgone =>
      exact Or.inr ⟨k, rfl, fun hkept => hgone (List.contains_iff_mem.2 hkept), rfl⟩

theorem refer_contents (hslot : slot < s.slots.length) (target : Option Nat) (holder : Nat) :
    (s.refer slot target).1.contents holder =
      (if holder = slot then target else s.set? holder).elim [] s.lightsIn := by
  have hset : (s.refer slot target).1.set? holder =
      if holder = slot then target else s.set? holder := by
    rw [← set?_set hslot]
    rcases refer_cases slot target s with ⟨-, heq⟩ | ⟨k, -, -, heq⟩ <;> rw [heq] <;> rfl
  rw [contents_eq, hset]
  cases hrefers : if holder = slot then target else s.set? holder with
  | none => rfl
  | some j =>
    rcases refer_cases slot target s with ⟨-, heq⟩ | ⟨k, -, hgone, heq⟩
    · rw [heq]
      rfl
    · have hj : j ≠ k := by
        rintro rfl
        rw [← set?_set hslot] at hrefers
        exact hgone (List.mem_iff_getElem?.2 ⟨holder, Option.join_eq_some_iff.1 hrefers⟩)
      rw [heq]
      simp [lightsIn, List.getD_eq_getElem?_getD, List.getElem?_set_ne hj.symm]

theorem update_cases (slot : Nat) (f : List (Held α) → List (Held α) × List (Sent α))
    (s : LightSets α) :
    s.set? slot = none ∧ s.update slot f = (s, []) ∨
      ∃ k, s.set? slot = some k ∧
        s.update slot f =
          ({ s with sets := s.sets.set k (f (s.lightsIn k)).1 }, (f (s.lightsIn k)).2) := by
  unfold update
  cases hset : s.set? slot with
  | none => exact Or.inl ⟨rfl, rfl⟩
  | some k => exact Or.inr ⟨k, rfl, rfl⟩

theorem update_contents (hwithin : ∀ k, some k ∈ s.slots → k < s.sets.length) (slot : Nat)
    (f : List (Held α) → List (Held α) × List (Sent α)) (holder : Nat) :
    (s.update slot f).1.contents holder =
      if (s.set? slot).isSome ∧ s.set? holder = s.set? slot then (f (s.contents holder)).1
      else s.contents holder := by
  rcases update_cases slot f s with ⟨hnone, heq⟩ | ⟨k, hk, heq⟩
  · rw [heq, hnone]
    simp
  · have hset : (s.update slot f).1.set? holder = s.set? holder := by
      rw [heq]
      rfl
    rw [contents_eq, hset, hk, contents_eq]
    cases hholder : s.set? holder with
    | none => simp
    | some j =>
      rw [heq]
      refine (getD_set (hwithin k (mem_slots_iff.2 ⟨slot, hk⟩)) _ j).trans ?_
      by_cases h : j = k
      · subst h
        simp
      · simp [h]

end

/-! ### What a step is about -/

/-- The holders that a step names. -/
def Step.holders : Step α → List Nat
  | .giveBack => []
  | .share slot other | .swap slot other => [slot, other]
  | .fresh slot | .release slot | .replace slot _ _ | .push slot _ | .pop slot | .reverse slot
  | .setOn slot _ _ | .setTransitionTime slot _ _ | .setColor slot _ _ _ _ => [slot]

/-- A step names only the first `n` holders. -/
def Step.Within (n : Nat) (step : Step α) : Prop := ∀ slot ∈ step.holders, slot < n

/-- The lights that a step brings. -/
def Step.brought : Step α → List (Light α)
  | .replace _ lights _ => lights
  | .push _ light => [light]
  | _ => []

/-- What a step through a holder of a set makes of the lights of the set. Those it brings have
numbers from `first` on. -/
def Step.work [Scalar α] (first : Nat) (lights : List (Held α)) : Step α → List (Held α)
  | .replace _ brought _ => Held.numbered first brought
  | .push _ light => lights ++ Held.numbered first [light]
  | .pop _ => lights.dropLast
  | .reverse _ => lights.reverse
  | .setOn _ index on => (Held.changeAt index (Light.setOn on) lights).1
  | .setTransitionTime _ index time =>
    (Held.changeAt index (Light.setTransitionTime time) lights).1
  | .setColor _ index p d streaming =>
    (Held.changeAt index (Light.setColor p d streaming) lights).1
  | .fresh _ | .share _ _ | .swap _ _ | .release _ | .giveBack => lights

section

variable {s s' : LightSets α} {step : Step α} {slot k : Nat} {sent : List (Sent α)}

/-- The set that a step is about: the one that its holder refers to when it is taken. -/
def about (s : LightSets α) : Step α → Option Nat
  | .giveBack | .swap _ _ => none
  | .fresh slot | .share slot _ | .release slot | .replace slot _ _ | .push slot _ | .pop slot
  | .reverse slot | .setOn slot _ _ | .setTransitionTime slot _ _ | .setColor slot _ _ _ _ =>
    s.set? slot

/-- The lights that a step puts in. -/
def arrivals (s : LightSets α) (step : Step α) : List (Held α) :=
  if (s.about step).isSome then Held.numbered s.taken step.brought else []

/-- The lights that a step takes out, or has kept aside, and does not keep. -/
def dropped (s : LightSets α) : Step α → List (Held α)
  | .replace slot _ false => s.contents slot
  | .pop slot => (s.contents slot).getLast?.toList
  | .giveBack => s.aside
  | _ => []

/-! ### What a step does -/

/-- A new set, for the holder that is to refer to it. -/
def prepared (s : LightSets α) : Step α → LightSets α
  | .fresh _ => { s with sets := s.sets ++ [[]] }
  | _ => s

/-- What a step does, from when its new set is there. -/
inductive Effect (s : LightSets α) (step : Step α) : LightSets α → List (Sent α) → Prop
  /-- Holders refer to other sets, and each set that had a holder has one still. -/
  | turned {slots : List (Option Nat)} (hin : step.brought = []) (hout : s.dropped step = [])
      (hlength : slots.length = s.slots.length) (hkept : ∀ j, some j ∈ s.slots → some j ∈ slots)
      (hslots : ∀ j, some j ∈ slots → j < s.sets.length ∨ some j ∈ s.slots) :
      Effect s step { s with slots } []
  /-- A set loses its last holder. -/
  | closed {slots : List (Option Nat)} {k : Nat} (habout : s.about step = some k)
      (hin : step.brought = []) (hlength : slots.length = s.slots.length)
      (hheld : some k ∈ s.slots) (hgone : some k ∉ slots)
      (hkept : ∀ j ≠ k, some j ∈ s.slots → some j ∈ slots)
      (hslots : ∀ j, some j ∈ slots → j < s.sets.length ∨ some j ∈ s.slots) :
      Effect s step { s with slots, sets := s.sets.set k [] } (restores (s.lightsIn k))
  /-- The lights of a set are worked on. -/
  | worked {k : Nat} {lights kept : List (Held α)} {sent : List (Sent α)}
      (habout : s.about step = some k) (hheld : some k ∈ s.slots)
      (hsent : ∀ c ∈ sent, ∃ h ∈ s.lightsIn k, h.number = c.number)
      (hrestored : sent.filter (·.command.isRestore) = restores (s.dropped step))
      (hlights : (s.lightsIn k ++ s.arrivals step).map Held.restoring ~
        (lights ++ kept ++ s.dropped step).map Held.restoring) :
      Effect s step
        { s with
          sets := s.sets.set k lights
          aside := s.aside ++ kept
          taken := s.taken + step.brought.length } sent
  /-- The holder refers to no set. -/
  | missed (habout : s.about step = none) (hout : s.dropped step = []) :
      Effect s step { s with taken := s.taken + step.brought.length } []
  | emptied (hstep : step = .giveBack) : Effect s step { s with aside := [] } (restores s.aside)

theorem refer_effect {target : Option Nat} (hslot : slot < s.slots.length)
    (habout : s.about step = s.set? slot) (hin : step.brought = []) (hout : s.dropped step = [])
    (htarget : ∀ j, target = some j → j < s.sets.length ∨ some j ∈ s.slots) :
    Effect s step (s.refer slot target).1 (s.refer slot target).2 := by
  have hslots : ∀ j, some j ∈ s.slots.set slot target → j < s.sets.length ∨ some j ∈ s.slots := by
    intro j hj
    rcases List.mem_or_eq_of_mem_set hj with hj | hj
    · exact Or.inr hj
    · exact htarget j hj.symm
  rcases refer_cases slot target s with ⟨hkept, heq⟩ | ⟨k, hk, hgone, heq⟩
  · rw [heq]
    exact .turned hin hout List.length_set (fun j hj => mem_slots_set hslot hj (hkept j)) hslots
  · rw [heq]
    refine .closed (habout.trans hk) hin List.length_set (mem_slots_iff.2 ⟨slot, hk⟩) hgone
      (fun j hj hheld => mem_slots_set hslot hheld fun hset => ?_) hslots
    rw [hk] at hset
    exact absurd (Option.some_inj.1 hset).symm hj

theorem swap_effect {other : Nat} (hslot : slot < s.slots.length) (hother : other < s.slots.length) :
    Effect s (.swap slot other)
      { s with slots := (s.slots.set slot (s.set? other)).set other (s.set? slot) } [] := by
  refine .turned rfl rfl (List.length_set.trans List.length_set) (fun j hj => ?kept)
    fun j hj => ?slots
  case kept =>
    -- A set that one of the two referred to is now referred to by the other one.
    obtain ⟨holder, hholder⟩ := mem_slots_iff.1 hj
    refine List.mem_iff_getElem?.2 ⟨if holder = slot then other else if holder = other then slot
      else holder, Option.join_eq_some_iff.1 ?_⟩
    rw [set?_swap hslot hother]
    split <;> split <;> simp_all
  case slots =>
    rcases List.mem_or_eq_of_mem_set hj with hj | hj
    · rcases List.mem_or_eq_of_mem_set hj with hj | hj
      · exact Or.inr hj
      · exact Or.inr (mem_slots_iff.2 ⟨other, hj.symm⟩)
    · exact Or.inr (mem_slots_iff.2 ⟨slot, hj.symm⟩)

/-- A step that brings no lights works on those of a set. -/
theorem update_effect {f : List (Held α) → List (Held α) × List (Sent α)}
    (habout : s.about step = s.set? slot) (hin : step.brought = [])
    (hnothing : s.set? slot = none → s.dropped step = [])
    (hsent : ∀ k, s.set? slot = some k →
      ∀ c ∈ (f (s.lightsIn k)).2, ∃ h ∈ s.lightsIn k, h.number = c.number)
    (hrestored : ∀ k, s.set? slot = some k →
      (f (s.lightsIn k)).2.filter (·.command.isRestore) = restores (s.dropped step))
    (hlights : ∀ k, s.set? slot = some k → (s.lightsIn k).map Held.restoring ~
      ((f (s.lightsIn k)).1 ++ s.dropped step).map Held.restoring) :
    Effect s step (s.update slot f).1 (s.update slot f).2 := by
  rcases update_cases slot f s with ⟨hnone, heq⟩ | ⟨k, hk, heq⟩
  · rw [heq]
    have hmissed := Effect.missed (habout.trans hnone) (hnothing hnone)
    rwa [hin] at hmissed
  · rw [heq]
    have hmoved : (s.lightsIn k ++ s.arrivals step).map Held.restoring ~
        ((f (s.lightsIn k)).1 ++ [] ++ s.dropped step).map Held.restoring := by
      simpa [arrivals, hin, Held.numbered] using hlights k hk
    have hworked := Effect.worked (habout.trans hk) (mem_slots_iff.2 ⟨slot, hk⟩) (hsent k hk)
      (hrestored k hk) hmoved
    rwa [hin, List.append_nil] at hworked

/-- One of the lights of a set is changed. -/
theorem changeAt_effect {f : Light α → Light α × List (LightCommand α)} (hf : Light.Retains f)
    (index : Nat) (habout : s.about step = s.set? slot) (hin : step.brought = [])
    (hout : s.dropped step = []) :
    Effect s step (s.update slot (Held.changeAt index f)).1
      (s.update slot (Held.changeAt index f)).2 := by
  refine update_effect habout hin (fun _ => hout) (fun k _ c hc => ?sent) (fun k _ => ?restored)
    fun k _ => ?lights
  case sent => exact (Held.changeAt_sent hf index _ c hc).2
  case restored =>
    rw [hout]
    refine List.filter_eq_nil_iff.2 fun c hc => ?_
    simp [(Held.changeAt_sent hf index _ c hc).1]
  case lights =>
    rw [hout, List.append_nil, Held.changeAt_map (Held.restoring_change hf)]

variable [Scalar α]

theorem pop_effect (slot : Nat) :
    Effect s (.pop slot) (s.step (.pop slot)).1 (s.step (.pop slot)).2 := by
  have hdropped : s.dropped (.pop slot) = ((s.set? slot).elim [] s.lightsIn).getLast?.toList := by
    rw [← contents_eq]
    rfl
  refine update_effect rfl rfl (fun hnone => ?nothing) (fun k hk c hc => ?sent)
    (fun k hk => ?restored) fun k hk => ?lights
  case nothing =>
    rw [hdropped, hnone]
    rfl
  case sent =>
    obtain ⟨h, hh, rfl⟩ := List.mem_map.1 hc
    exact ⟨h, List.mem_of_getLast? (Option.mem_toList.1 hh), rfl⟩
  case restored =>
    rw [hdropped, hk]
    exact Held.filter_restoring _
  case lights =>
    have hwhole : (s.lightsIn k).dropLast ++ (s.lightsIn k).getLast?.toList = s.lightsIn k := by
      cases hlast : (s.lightsIn k).getLast? with
      | none => simp [List.getLast?_eq_none_iff.1 hlast]
      | some h => exact List.dropLast_append_getLast? h hlast
    rw [hdropped, hk]
    exact (congrArg (List.map Held.restoring) hwhole).symm ▸ List.Perm.refl _

theorem push_effect (slot : Nat) (light : Light α) :
    Effect s (.push slot light) (s.step (.push slot light)).1 (s.step (.push slot light)).2 := by
  have hstep : s.step (.push slot light) =
      (s.take [light]).1.update slot fun lights => (lights ++ (s.take [light]).2, []) := rfl
  rcases update_cases slot (fun lights => (lights ++ (s.take [light]).2, [])) (s.take [light]).1 with
    ⟨hnone, heq⟩ | ⟨k, hk, heq⟩
  · rw [hstep, heq]
    exact .missed hnone rfl
  · have habout : s.about (.push slot light) = some k := hk
    have hlights : (s.lightsIn k ++ s.arrivals (.push slot light)).map Held.restoring ~
        (s.lightsIn k ++ (s.take [light]).2 ++ [] ++ s.dropped (.push slot light)).map
          Held.restoring := by
      simp [arrivals, habout, take, Step.brought, dropped]
    have hquiet : ∀ c ∈ ([] : List (Sent α)), ∃ h ∈ s.lightsIn k, h.number = c.number := nofun
    have hworked := Effect.worked habout (mem_slots_iff.2 ⟨slot, hk⟩) hquiet rfl hlights
    rw [List.append_nil] at hworked
    rw [hstep, heq]
    exact hworked

theorem replace_effect (slot : Nat) (lights : List (Light α)) (keep : Bool) :
    Effect s (.replace slot lights keep) (s.step (.replace slot lights keep)).1
      (s.step (.replace slot lights keep)).2 := by
  let kept := if keep then s.contents slot else []
  let next := ((s.take lights).1.update slot fun _ => ((s.take lights).2, [])).1
  have hstep : s.step (.replace slot lights keep) =
      ({ next with aside := next.aside ++ kept },
        restores (s.dropped (.replace slot lights keep))) := by
    cases keep
    · simp only [kept, Bool.false_eq_true, if_false, List.append_nil]
      rfl
    · rfl
  -- One of the two is empty, so nothing is said of their order.
  have hparts : kept ++ s.dropped (.replace slot lights keep) = s.contents slot := by
    cases keep
    · rfl
    · exact List.append_nil _
  rw [hstep]
  simp only [next]
  rcases update_cases slot (fun _ => ((s.take lights).2, [])) (s.take lights).1 with
    ⟨hnone, heq⟩ | ⟨k, hk, heq⟩
  · have hcontents : s.contents slot = [] := by
      rw [contents_eq, show s.set? slot = none from hnone]
      rfl
    obtain ⟨hkept, hdropped⟩ := List.append_eq_nil_iff.1 (hparts.trans hcontents)
    rw [heq, hkept, hdropped]
    simp only [List.append_nil]
    exact .missed hnone hdropped
  · have hset : s.set? slot = some k := hk
    have hcontents : s.contents slot = s.lightsIn k := by
      rw [contents_eq, hset]
      rfl
    rw [heq]
    refine .worked (k := k) hset (mem_slots_iff.2 ⟨slot, hset⟩) (fun c hc => ?sent)
      (Held.filter_restoring _) ?lights
    case sent =>
      obtain ⟨h, hh, rfl⟩ := List.mem_map.1 hc
      rw [← hcontents, ← hparts]
      exact ⟨h, List.mem_append_right _ hh, rfl⟩
    case lights =>
      have harrivals : s.arrivals (.replace slot lights keep) = (s.take lights).2 := by
        simp [arrivals, about, hset, take, Step.brought]
      rw [harrivals, ← hcontents, ← hparts, List.append_assoc (s.take lights).2]
      exact List.perm_append_comm.map _

theorem step_effect (hstep : step.Within s.slots.length) :
    Effect (s.prepared step) step (s.step step).1 (s.step step).2 := by
  cases step with
  | fresh slot =>
    refine refer_effect (hstep slot (by simp [Step.holders])) rfl rfl rfl fun j hj => Or.inl ?_
    obtain rfl := Option.some_inj.1 hj
    simp [prepared]
  | share slot source =>
    exact refer_effect (hstep slot (by simp [Step.holders])) rfl rfl rfl
      fun j hj => Or.inr (mem_slots_iff.2 ⟨source, hj⟩)
  | swap slot other =>
    exact swap_effect (hstep slot (by simp [Step.holders])) (hstep other (by simp [Step.holders]))
  | release slot => exact refer_effect (hstep slot (by simp [Step.holders])) rfl rfl rfl nofun
  | replace slot lights keep => exact replace_effect slot lights keep
  | giveBack => exact .emptied rfl
  | push slot light => exact push_effect slot light
  | pop slot => exact pop_effect slot
  | reverse slot =>
    refine update_effect rfl rfl (fun _ => rfl) (fun _ _ => nofun) (fun _ _ => rfl) fun k _ => ?_
    simp [dropped]
  | setOn slot index on => exact changeAt_effect (Light.setOn_retains on) index rfl rfl rfl
  | setTransitionTime slot index time =>
    exact changeAt_effect (Light.setTransitionTime_retains time) index rfl rfl rfl
  | setColor slot index p d streaming =>
    exact changeAt_effect (Light.setColor_retains p d streaming) index rfl rfl rfl

end

end LightSets

end LightBridge
