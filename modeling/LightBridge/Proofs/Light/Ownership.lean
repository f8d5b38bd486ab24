import LightBridge.Proofs.Light.Holding

/-! Lights in shared sets are neither lost nor doubled. A light that was put in is in a set that has
a holder, or was taken out and is kept aside, or was given back, and only one of these. A step moves
lights between these places, and the lights it gives back are those of a set that its last holder
lets go of, or those it takes out and does not keep. -/

namespace LightBridge.LightSets

open scoped List

variable {α : Type}

/-! ### Nothing is lost or doubled -/

/-- What has become of the lights that were put in, and of the sets. -/
structure Conserved (put : List (Held α)) (sent : List (Sent α)) (s : LightSets α) : Prop where
  /-- Each light has a number of its own. -/
  distinct : (put.map (·.number)).Nodup
  taken : ∀ h ∈ put, h.number < s.taken
  /-- Each light is in one set, or aside, or its last command was sent, and it was sent once. -/
  placed : put.map Held.restoring ~
    s.owned.map Held.restoring ++ sent.filter (·.command.isRestore)
  /-- A set with lights has a holder. -/
  held : ∀ k, s.lightsIn k ≠ [] → some k ∈ s.slots
  within : ∀ k, some k ∈ s.slots → k < s.sets.length

section

variable {s s' : LightSets α} {step : Step α} {put : List (Held α)} {sent more : List (Sent α)}

theorem slots_prepared (s : LightSets α) (step : Step α) : (s.prepared step).slots = s.slots := by
  cases step <;> rfl

theorem lightsIn_prepared (s : LightSets α) (step : Step α) (k : Nat) :
    (s.prepared step).lightsIn k = s.lightsIn k := by
  cases step with
  | fresh slot =>
    simp only [prepared, lightsIn, List.getD_eq_getElem?_getD, List.getElem?_append]
    split
    · rfl
    · next h =>
      rw [List.getElem?_eq_none (Nat.le_of_not_lt h)]
      cases k - s.sets.length <;> rfl
  | _ => rfl

theorem Conserved.prepared (h : Conserved put sent s) (step : Step α) :
    Conserved put sent (s.prepared step) := by
  have howned : (s.prepared step).owned = s.owned := by
    cases step with
    | fresh slot => simp [LightSets.prepared, owned]
    | _ => rfl
  have htaken : (s.prepared step).taken = s.taken := by cases step <;> rfl
  have hlength : s.sets.length ≤ (s.prepared step).sets.length := by
    cases step <;> simp [LightSets.prepared]
  constructor
  case distinct => exact h.distinct
  case taken => exact htaken ▸ h.taken
  case placed => exact howned ▸ h.placed
  case held =>
    rw [slots_prepared]
    exact fun k hk => h.held k (lightsIn_prepared s step k ▸ hk)
  case within =>
    rw [slots_prepared]
    exact fun k hk => Nat.lt_of_lt_of_le (h.within k hk) hlength

theorem arrivals_eq_nil (h : step.brought = []) : s.arrivals step = [] := by
  simp [arrivals, h, Held.numbered]

/-- A step moves lights from one place to another: those that there were and those that come in are
those that there are then and those that were given back. -/
theorem Effect.balance (h : Effect s step s' sent)
    (hwithin : ∀ k, some k ∈ s.slots → k < s.sets.length) :
    (s.owned ++ s.arrivals step).map Held.restoring ~
      s'.owned.map Held.restoring ++ sent.filter (·.command.isRestore) := by
  classical
  -- The order differs in each case, so every light is counted by itself.
  rw [List.perm_iff_count]
  intro c
  cases h with
  | turned hin => simp [arrivals_eq_nil hin, owned]
  | @closed slots k _ hin _ hheld =>
    have hflatten := ((flatten_set (hwithin k hheld) []).map Held.restoring).count_eq c
    rw [arrivals_eq_nil hin, restores, Held.filter_restoring]
    simp only [owned, List.map_append, List.count_append, List.append_nil] at hflatten ⊢
    omega
  | @worked k lights kept sent _ hheld _ hrestored hlights =>
    have hflatten := ((flatten_set (hwithin k hheld) lights).map Held.restoring).count_eq c
    have hlights := hlights.count_eq c
    rw [hrestored]
    simp only [owned, restores, List.map_append, List.count_append] at hflatten hlights ⊢
    omega
  | missed habout => simp [arrivals, habout, owned]
  | emptied hstep =>
    subst hstep
    rw [restores, Held.filter_restoring]
    simp [arrivals, about, owned]

/-- The lights that come in have numbers that none had before. -/
theorem numbers_arrivals (s : LightSets α) (step : Step α) :
    (s.arrivals step).map (·.number) = List.range' s.taken (s.arrivals step).length := by
  unfold arrivals
  split
  · rw [Held.numbers_numbered]
    simp [Held.numbered]
  · rfl

theorem Effect.taken_le (h : Effect s step s' sent) :
    s.taken + (s.arrivals step).length ≤ s'.taken := by
  have hbrought : (s.arrivals step).length ≤ step.brought.length := by
    unfold arrivals
    split <;> simp [Held.numbered]
  cases h with
  | turned hin | closed _ hin => simp [arrivals_eq_nil hin]
  | worked | missed => exact Nat.add_le_add_left hbrought _
  | emptied hstep => simp [hstep, arrivals, about]

theorem Effect.slots_length (h : Effect s step s' sent) : s'.slots.length = s.slots.length := by
  cases h with
  | turned _ _ hlength | closed _ _ hlength => exact hlength
  | _ => rfl

/-- A set that has lights after a step has a holder then. -/
theorem Effect.held (h : Effect s step s' sent)
    (hwithin : ∀ k, some k ∈ s.slots → k < s.sets.length)
    (hheld : ∀ k, s.lightsIn k ≠ [] → some k ∈ s.slots) (j : Nat) (hj : s'.lightsIn j ≠ []) :
    some j ∈ s'.slots := by
  cases h with
  | turned _ _ _ hkept => exact hkept j (hheld j hj)
  | @closed slots k _ _ _ hk _ hkept =>
    rw [lightsIn, getD_set (hwithin k hk)] at hj
    by_cases hjk : j = k
    · rw [if_pos hjk] at hj
      exact absurd rfl hj
    · rw [if_neg hjk] at hj
      exact hkept j hjk (hheld j hj)
  | @worked k lights kept sent _ hk =>
    rw [lightsIn, getD_set (hwithin k hk)] at hj
    by_cases hjk : j = k
    · exact hjk ▸ hk
    · rw [if_neg hjk] at hj
      exact hheld j hj
  | missed | emptied => exact hheld j hj

theorem Effect.within (h : Effect s step s' sent)
    (hwithin : ∀ k, some k ∈ s.slots → k < s.sets.length) (j : Nat) (hj : some j ∈ s'.slots) :
    j < s'.sets.length := by
  cases h with
  | turned _ _ _ _ hslots => exact (hslots j hj).elim id (hwithin j)
  | closed _ _ _ _ _ _ hslots =>
    rw [List.length_set]
    exact (hslots j hj).elim id (hwithin j)
  | worked =>
    rw [List.length_set]
    exact hwithin j hj
  | missed | emptied => exact hwithin j hj

theorem Conserved.effect (hs : Conserved put sent s) (h : Effect s step s' more) :
    Conserved (put ++ s.arrivals step) (sent ++ more) s' := by
  have hnew : ∀ n ∈ (s.arrivals step).map (·.number), s.taken ≤ n ∧ n < s'.taken := by
    intro n hn
    rw [numbers_arrivals, List.mem_range'_1] at hn
    have htaken := h.taken_le
    omega
  constructor
  case distinct =>
    rw [List.map_append, List.nodup_append]
    refine ⟨hs.distinct, numbers_arrivals s step ▸ List.nodup_range', fun n hn m hm => ?_⟩
    obtain ⟨x, hx, rfl⟩ := List.mem_map.1 hn
    have hold := hs.taken x hx
    have hless := (hnew m hm).1
    omega
  case taken =>
    intro x hx
    rcases List.mem_append.1 hx with hx | hx
    · have hold := hs.taken x hx
      have htaken := h.taken_le
      omega
    · exact (hnew _ (List.mem_map_of_mem hx)).2
  case placed =>
    have hbalance := h.balance hs.within
    rw [List.map_append] at hbalance ⊢
    rw [List.filter_append]
    calc put.map Held.restoring ++ (s.arrivals step).map Held.restoring
        ~ s.owned.map Held.restoring ++ sent.filter (·.command.isRestore) ++
            (s.arrivals step).map Held.restoring := hs.placed.append_right _
      _ ~ sent.filter (·.command.isRestore) ++
            (s.owned.map Held.restoring ++ (s.arrivals step).map Held.restoring) := by
        rw [List.append_assoc]
        exact List.perm_append_comm_assoc ..
      _ ~ sent.filter (·.command.isRestore) ++
            (s'.owned.map Held.restoring ++ more.filter (·.command.isRestore)) :=
        hbalance.append_left _
      _ ~ s'.owned.map Held.restoring ++
            (sent.filter (·.command.isRestore) ++ more.filter (·.command.isRestore)) :=
        List.perm_append_comm_assoc ..
  case held => exact h.held hs.within hs.held
  case within => exact h.within hs.within

/-- Holders, the first one of a set of lights and the others of none. -/
def among (others : Nat) (lights : List (Light α)) : LightSets α :=
  { slots := some 0 :: List.replicate others none, sets := [Held.numbered 0 lights]
    taken := lights.length }

theorem conserved_among (others : Nat) (lights : List (Light α)) :
    Conserved (Held.numbered 0 lights) [] (among others lights) := by
  have hnumbers := Held.numbers_numbered 0 lights
  constructor
  case distinct => exact hnumbers ▸ List.nodup_range'
  case taken =>
    intro h hh
    have hmem : h.number ∈ (Held.numbered 0 lights).map (·.number) := List.mem_map_of_mem hh
    rw [hnumbers, List.mem_range'_1] at hmem
    exact Nat.lt_of_lt_of_eq hmem.2 (Nat.zero_add _)
  case placed => simp [among, owned]
  case held =>
    intro k hk
    cases k with
    | zero => exact List.mem_cons_self
    | succ k => exact absurd rfl hk
  case within =>
    intro k hk
    rcases List.mem_cons.1 hk with hk | hk
    · simp [among, Option.some_inj.1 hk]
    · cases List.eq_of_mem_replicate hk

/-! ### Every set by itself -/

theorem Conserved.nodup (h : Conserved put sent s) : (s.owned.map (·.number)).Nodup := by
  have hnumbers : put.map (·.number) ~
      s.owned.map (·.number) ++ (sent.filter (·.command.isRestore)).map (·.number) := by
    have hmap := h.placed.map (·.number)
    rwa [List.map_append, List.map_map, List.map_map] at hmap
  exact (List.nodup_append.1 (hnumbers.nodup_iff.1 h.distinct)).1

theorem mem_flatten_of_mem_lightsIn {sets : List (List (Held α))} {k : Nat} {x : Held α}
    (hx : x ∈ sets.getD k []) : k < sets.length ∧ x ∈ sets.flatten := by
  rw [List.getD_eq_getElem?_getD] at hx
  cases hk : sets[k]? with
  | none => simp [hk] at hx
  | some lights =>
    rw [hk] at hx
    exact ⟨(List.getElem?_eq_some_iff.1 hk).1,
      List.mem_flatten.2 ⟨lights, List.mem_of_getElem? hk, hx⟩⟩

/-- No light has a number that a light of another set has. -/
theorem Conserved.lights_apart (h : Conserved put sent s) {j k : Nat} {x y : Held α} (hjk : j ≠ k)
    (hx : x ∈ s.lightsIn j) (hy : y ∈ s.lightsIn k) : x.number ≠ y.number := by
  have hk := (mem_flatten_of_mem_lightsIn hy).1
  have hsets : (s.sets.flatten.map (·.number)).Nodup :=
    ((List.sublist_append_left _ _).map _).nodup h.nodup
  have hsplit := (flatten_set hk []).map (·.number)
  rw [List.append_nil, List.map_append] at hsplit
  have hother : x ∈ (s.sets.set k []).flatten := by
    rw [← if_neg hjk (t := []) (e := s.lightsIn j), ← getD_set hk] at hx
    exact (mem_flatten_of_mem_lightsIn hx).2
  exact (List.nodup_append.1 (hsplit.nodup_iff.2 hsets)).2.2 _ (List.mem_map_of_mem hother) _
    (List.mem_map_of_mem hy)

theorem Conserved.aside_apart (h : Conserved put sent s) {k : Nat} {x y : Held α}
    (hx : x ∈ s.aside) (hy : y ∈ s.lightsIn k) : x.number ≠ y.number := by
  have hnodup := h.nodup
  rw [owned, List.map_append, List.nodup_append] at hnodup
  exact (hnodup.2.2 _ (List.mem_map_of_mem (mem_flatten_of_mem_lightsIn hy).2) _
    (List.mem_map_of_mem hx)).symm

theorem number_of_mem_restores {lights : List (Held α)} {c : Sent α} (hc : c ∈ restores lights) :
    ∃ h ∈ lights, h.number = c.number := by
  obtain ⟨h, hh, rfl⟩ := List.mem_map.1 hc
  exact ⟨h, hh, rfl⟩

theorem Effect.last (h : Effect s step s' sent)
    (hwithin : ∀ k, some k ∈ s.slots → k < s.sets.length) {k : Nat} (hheld : some k ∈ s.slots)
    (hgone : some k ∉ s'.slots) : sent = restores (s.lightsIn k) ∧ s'.lightsIn k = [] := by
  cases h with
  | turned _ _ _ hkept => exact absurd (hkept k hheld) hgone
  | @closed slots j _ _ _ _ _ hkept =>
    by_cases hjk : k = j
    · subst hjk
      exact ⟨rfl, (getD_set (hwithin k hheld) [] k).trans (if_pos rfl)⟩
    · exact absurd (hkept k hjk hheld) hgone
  | worked | missed | emptied => exact absurd hheld hgone

theorem Effect.restored (h : Effect s step s' sent)
    (hkept : ∀ k, some k ∈ s.slots → some k ∈ s'.slots) :
    sent.filter (·.command.isRestore) = restores (s.dropped step) := by
  cases h with
  | turned _ hout | missed _ hout => rw [hout]; rfl
  | closed _ _ _ hheld hgone => exact absurd (hkept _ hheld) hgone
  | worked _ _ _ hrestored => exact hrestored
  | emptied hstep =>
    subst hstep
    exact Held.filter_restoring _

theorem Effect.apart (h : Effect s step s' more) (hs : Conserved put sent s) {k : Nat}
    (hk : s.about step ≠ some k) :
    s'.lightsIn k = s.lightsIn k ∧ ∀ c ∈ more, ∀ x ∈ s.lightsIn k, c.number ≠ x.number := by
  cases h with
  | turned | missed => exact ⟨rfl, List.forall_mem_nil _⟩
  | @closed slots j habout _ _ hheld =>
    have hjk : k ≠ j := fun heq => hk (heq ▸ habout)
    refine ⟨(getD_set (hs.within j hheld) _ k).trans (if_neg hjk), fun c hc x hx => ?_⟩
    obtain ⟨y, hy, hnumber⟩ := number_of_mem_restores hc
    exact hnumber ▸ hs.lights_apart hjk.symm hy hx
  | @worked j lights kept sent habout hheld hsent =>
    have hjk : k ≠ j := fun heq => hk (heq ▸ habout)
    refine ⟨(getD_set (hs.within j hheld) _ k).trans (if_neg hjk), fun c hc x hx => ?_⟩
    obtain ⟨y, hy, hnumber⟩ := hsent c hc
    exact hnumber ▸ hs.lights_apart hjk.symm hy hx
  | emptied =>
    refine ⟨rfl, fun c hc x hx => ?_⟩
    obtain ⟨y, hy, hnumber⟩ := number_of_mem_restores hc
    exact hnumber ▸ hs.aside_apart hy hx

theorem Effect.aside (h : Effect s step s' sent) (hstep : step ≠ .giveBack) :
    s.aside <+: s'.aside := by
  cases h with
  | turned | closed | missed => exact List.prefix_refl _
  | worked => exact List.prefix_append ..
  | emptied heq => exact absurd heq hstep

end

section

variable [Scalar α] {s : LightSets α} {step : Step α} {put : List (Held α)} {sent : List (Sent α)}

/-- What a holder sees after a step. All holders of the set that is worked on see the same. -/
def seen (s : LightSets α) (step : Step α) (holder : Nat) : List (Held α) :=
  match step with
  | .fresh slot | .release slot => if holder = slot then [] else s.contents holder
  | .share slot source => if holder = slot then s.contents source else s.contents holder
  | .swap slot other =>
    if holder = other then s.contents slot
    else if holder = slot then s.contents other
    else s.contents holder
  | step =>
    if (s.about step).isSome ∧ s.set? holder = s.about step then step.work s.taken (s.contents holder)
    else s.contents holder

/-- What a step does to the sets and to what their holders see. -/
structure Orderly (s : LightSets α) (step : Step α) : Prop where
  /-- The last holder that lets go of a set gives its lights back, in the order in which they
  stand. -/
  last : ∀ k, some k ∈ s.slots → some k ∉ (s.step step).1.slots →
    (s.step step).2 = restores (s.lightsIn k) ∧ (s.step step).1.lightsIn k = []
  /-- As long as every set keeps a holder, no lights are given back but those that are taken out. -/
  restored : (∀ k, some k ∈ s.slots → some k ∈ (s.step step).1.slots) →
    (s.step step).2.filter (·.command.isRestore) = restores (s.dropped step)
  /-- Other sets than the one that the step is about stay as they are, and their lights send
  nothing. -/
  apart : ∀ k, s.about step ≠ some k → (s.step step).1.lightsIn k = s.lightsIn k ∧
    ∀ c ∈ (s.step step).2, ∀ h ∈ s.lightsIn k, c.number ≠ h.number
  aside : step ≠ .giveBack → s.aside <+: (s.step step).1.aside
  seen : ∀ holder, (s.step step).1.contents holder = s.seen step holder
  /-- Holders of one set see the same ids and colours, in the same order. -/
  alike : ∀ holder other, (s.step step).1.set? holder = (s.step step).1.set? other →
    Held.snapshot ((s.step step).1.contents holder) = Held.snapshot ((s.step step).1.contents other)

theorem step_contents (hwithin : ∀ k, some k ∈ s.slots → k < s.sets.length)
    (hstep : step.Within s.slots.length) (holder : Nat) :
    (s.step step).1.contents holder = s.seen step holder := by
  cases step with
  | fresh slot =>
    have hslot : slot < s.slots.length := hstep slot (by simp [Step.holders])
    refine (refer_contents (s := s.prepared (.fresh slot)) hslot _ holder).trans ?_
    rw [funext (lightsIn_prepared s (.fresh slot)), seen]
    split
    · simp [lightsIn]
    · exact (contents_eq s holder).symm
  | share slot source =>
    refine (refer_contents (hstep slot (by simp [Step.holders])) _ holder).trans ?_
    simp only [seen, contents_eq]
    split <;> rfl
  | release slot =>
    refine (refer_contents (hstep slot (by simp [Step.holders])) _ holder).trans ?_
    simp only [seen, contents_eq]
    split <;> rfl
  | swap slot other =>
    have hslot : slot < s.slots.length := hstep slot (by simp [Step.holders])
    have hother : other < s.slots.length := hstep other (by simp [Step.holders])
    have hset : (s.step (.swap slot other)).1.set? holder = _ := set?_swap hslot hother holder
    rw [contents_eq, hset]
    simp only [seen, contents_eq]
    split
    · rfl
    · split <;> rfl
  | giveBack =>
    simp only [seen, about, Option.isSome_none, Bool.false_eq_true, false_and, if_false]
    rfl
  | replace slot lights keep =>
    have hnext := update_contents (s := (s.take lights).1) hwithin slot
      (fun _ => ((s.take lights).2, [])) holder
    cases keep <;> exact hnext
  | push slot light => exact update_contents (s := (s.take [light]).1) hwithin slot _ holder
  | pop slot => exact update_contents hwithin slot _ holder
  | reverse slot => exact update_contents hwithin slot _ holder
  | setOn slot index on => exact update_contents hwithin slot _ holder
  | setTransitionTime slot index time => exact update_contents hwithin slot _ holder
  | setColor slot index p d streaming => exact update_contents hwithin slot _ holder

theorem Conserved.after_step (h : Conserved put sent s) (hstep : step.Within s.slots.length) :
    Conserved (put ++ s.arrivals step) (sent ++ (s.step step).2) (s.step step).1 := by
  have hput : (s.prepared step).arrivals step = s.arrivals step := by cases step <;> rfl
  have hnext := (h.prepared step).effect (step_effect hstep)
  rwa [hput] at hnext

theorem Conserved.orderly (h : Conserved put sent s) (hstep : step.Within s.slots.length) :
    Orderly s step := by
  have heffect := step_effect hstep
  have hready := h.prepared step
  have habout : (s.prepared step).about step = s.about step := by cases step <;> rfl
  have hdropped : (s.prepared step).dropped step = s.dropped step := by cases step <;> rfl
  have haside : (s.prepared step).aside = s.aside := by cases step <;> rfl
  constructor
  case last =>
    intro k hheld hgone
    have hlast := heffect.last hready.within (slots_prepared s step ▸ hheld) hgone
    rwa [lightsIn_prepared] at hlast
  case restored =>
    intro hkept
    rw [← slots_prepared s step] at hkept
    rw [heffect.restored hkept, hdropped]
  case apart =>
    intro k hk
    have hapart := heffect.apart hready (habout ▸ hk)
    rwa [lightsIn_prepared] at hapart
  case aside => exact haside ▸ heffect.aside
  case seen => exact step_contents h.within hstep
  case alike =>
    intro holder other hsame
    rw [contents_eq, contents_eq, hsame]

/-! ### Runs -/

/-- The lights that steps put in, in order. -/
def arrived (s : LightSets α) : List (Step α) → List (Held α)
  | [] => []
  | step :: rest => s.arrivals step ++ (s.step step).1.arrived rest

/-- The commands that are sent meanwhile, in order. -/
def posted (s : LightSets α) : List (Step α) → List (Sent α)
  | [] => []
  | step :: rest => (s.step step).2 ++ (s.step step).1.posted rest

theorem slots_length_step (hstep : step.Within s.slots.length) :
    (s.step step).1.slots.length = s.slots.length :=
  (step_effect hstep).slots_length.trans (congrArg List.length (slots_prepared s step))

theorem Conserved.run {steps : List (Step α)} (h : Conserved put sent s)
    (hsteps : ∀ step ∈ steps, step.Within s.slots.length) :
    Conserved (put ++ s.arrived steps) (sent ++ s.posted steps) (s.run steps) ∧
      (s.run steps).slots.length = s.slots.length := by
  induction steps generalizing s put sent with
  | nil => exact ⟨by simpa [arrived, posted, LightSets.run] using h, rfl⟩
  | cons step rest ih =>
    obtain ⟨hstep, hrest⟩ := List.forall_mem_cons.1 hsteps
    have hlength := slots_length_step hstep
    rw [arrived, posted, ← List.append_assoc, ← List.append_assoc, ← hlength]
    exact ih (h.after_step hstep) (hlength ▸ hrest)

/-- Whatever holders did, each light that was put in is in one set, which has a holder, or aside, or
was given back once. And whatever one of them does then, lights are given back when the last holder
lets go of their set, in the order in which they stand, or when they are taken out and not kept; the
holders of one set see the same lights, and nothing becomes of those in other sets. -/
theorem lights_conserved (others : Nat) (lights : List (Light α)) {steps : List (Step α)}
    (hsteps : ∀ step ∈ steps, step.Within (others + 1)) :
    let first := among others lights
    Conserved (Held.numbered 0 lights ++ first.arrived steps) (first.posted steps)
        (first.run steps) ∧
      ∀ step : Step α, step.Within (others + 1) → Orderly (first.run steps) step := by
  intro first
  have hlength : first.slots.length = others + 1 := by simp [first, among]
  obtain ⟨hconserved, hslots⟩ := (conserved_among others lights).run (hlength.symm ▸ hsteps)
  exact ⟨hconserved, fun step hstep => hconserved.orderly (by rwa [hslots, hlength])⟩

/-- Two holders share a set of two lights. A third one is put in, and the last holder that lets go
gives them back from the last to the first. -/
theorem lights_conserved_shared :
    let lamp (id : UInt16) : Light Float := Light.ofEntry id { state := { on := some true } }
    let steps : List (Step Float) := [.share 1 0, .push 1 (lamp 7), .reverse 0, .release 0]
    let s := (among 1 [lamp 3, lamp 5]).run steps
    (∀ step ∈ steps, step.Within 2) ∧ (s.owned.map (·.number)).Nodup ∧
      (s.step (.release 1)).2 =
        [⟨2, 7, (lamp 7).restoring⟩, ⟨1, 5, (lamp 5).restoring⟩, ⟨0, 3, (lamp 3).restoring⟩] := by
  intro lamp steps s
  have hsteps : ∀ step ∈ steps, step.Within 2 := by simp [steps, Step.Within, Step.holders]
  obtain ⟨hconserved, horderly⟩ := lights_conserved 1 [lamp 3, lamp 5] hsteps
  have hrelease := horderly (.release 1) (by simp [Step.Within, Step.holders])
  have hheld : some 0 ∈ s.slots := List.mem_cons_of_mem _ List.mem_cons_self
  have hgone : some 0 ∉ (s.step (.release 1)).1.slots := by
    have hslots : (s.step (.release 1)).1.slots = [none, none] := rfl
    simp [hslots]
  exact ⟨hsteps, hconserved.nodup, (hrelease.last 0 hheld hgone).1⟩

end

end LightBridge.LightSets
