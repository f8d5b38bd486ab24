import LightBridge.Proofs.Rig.Lights

/-! What a write shows, and where in a run the lights were taken over that it shows colours on. From
there on a light is followed by its index until others are taken over or it is given back. -/

namespace LightBridge.Rig

variable {known : Listing (LightEntry Float) → Prop}

/-- The colours shown on the light at an index. -/
def colorsAt (index : Nat) (shown : List (Nat × Color)) : List Color :=
  shown.filterMap fun p => if p.1 = index then some p.2 else none

@[simp] theorem colorsAt_append {index : Nat} {shown more : List (Nat × Color)} :
    colorsAt index (shown ++ more) = colorsAt index shown ++ colorsAt index more :=
  List.filterMap_append

theorem colorsAt_one (index i : Nat) (c : Color) :
    colorsAt index [(i, c)] = if i = index then [c] else [] := by
  by_cases h : i = index <;> simp [colorsAt, h]

theorem ids_set {lights : List (Held Float)} {index : Nat} {h x : Held Float}
    (hsome : lights[index]? = some h) (hid : x.light.id = h.light.id) :
    (lights.set index x).map (·.light.id) = lights.map (·.light.id) := by
  obtain ⟨hlt, rfl⟩ := List.getElem?_eq_some_iff.1 hsome
  have hset := List.set_getElem_self (by simpa using hlt : index < (lights.map (·.light.id)).length)
  rwa [List.getElem_map, ← hid, ← List.map_set] at hset

/-! ### Lights that are held on to -/

section

variable {s : DeviceSettings} {r : Rig} {p : Progress} {shown new : List (Nat × Color)}
  {notes : List Note}

/-- Lights that were exchanged are new ones, or there are none any more. -/
theorem took_or_nil {lights : List (Held Float)} {rest : List Note}
    (h : notes = lights.map .tookOver ++ rest) : (∃ h, .tookOver h ∈ notes) ∨ lights = [] := by
  cases lights with
  | nil => exact Or.inr rfl
  | cons x lights => exact Or.inl ⟨x, by simp [h]⟩

/-- Without a light being taken over, the lights stay the same ones or are given back. -/
theorem LightAct.lightIds (h : LightAct known r new p) :
    (∃ h, .tookOver h ∈ p.2) ∨ p.1.lights = [] ∨ p.1.lightIds = r.lightIds := by
  cases h with
  | apart hlights | missed _ _ _ hlights =>
    rw [lightIds, hlights]
    exact Or.inr (Or.inr rfl)
  | painted i c hsome hlights hnotes =>
    rw [lightIds, hlights]
    exact Or.inr (Or.inr (ids_set hsome (Light.paint_id _ _ _)))
  | exchanged hknown hnotes => exact (took_or_nil hnotes).imp_right Or.inl

theorem lights_nil_of_ids {r' : Rig} (hempty : r.lights = []) (hsame : r'.lightIds = r.lightIds) :
    r'.lights = [] := by
  rw [lightIds, lightIds, hempty] at hsame
  exact List.map_eq_nil_iff.1 hsame

/-- The lights with these ids are held, unless others were taken over or they were given back. -/
def HeldOn (ids : List UInt16) (notes : List Note) (r : Rig) : Prop :=
  (∃ h, .tookOver h ∈ notes) ∨ r.lights = [] ∨ r.lightIds = ids

theorem heldOn_act {ids : List UInt16} (h : Act known r new p) (hr : HeldOn ids notes r) :
    HeldOn ids (notes ++ p.2) p.1 := by
  rcases hr with ⟨x, hx⟩ | hr
  · exact Or.inl ⟨x, List.mem_append_left _ hx⟩
  · rcases h.lightAct.lightIds with ⟨x, hx⟩ | hempty | hsame
    · exact Or.inl ⟨x, List.mem_append_right _ hx⟩
    · exact Or.inr (Or.inl hempty)
    · exact Or.inr (hr.imp (fun hempty => lights_nil_of_ids hempty hsame) hsame.trans)

/-- `P` holds of the lights that are held, unless others were taken over or they were given back. -/
def Tracked (s : DeviceSettings) (P : List (Nat × Color) → List Note → Rig → Prop)
    (shown : List (Nat × Color)) (notes : List Note) (r : Rig) : Prop :=
  r.settings = s ∧ ((∃ h, .tookOver h ∈ notes) ∨ r.lights = [] ∨ P shown notes r)

theorem tracked_act {P : List (Nat × Color) → List Note → Rig → Prop}
    (hP : r.settings = s → P shown notes r → (∃ h, .tookOver h ∈ p.2) ∨
      p.1.lights = [] ∨ P (shown ++ new) (notes ++ p.2) p.1)
    (h : Act known r new p) (hr : Tracked s P shown notes r) :
    Tracked s P (shown ++ new) (notes ++ p.2) p.1 := by
  obtain ⟨hsettings, hr⟩ := hr
  have hlater : (∃ h, .tookOver h ∈ p.2) → ∃ h, .tookOver h ∈ notes ++ p.2 :=
    fun ⟨h, hmem⟩ => ⟨h, List.mem_append_right _ hmem⟩
  refine ⟨(settings_act h).trans hsettings, ?_⟩
  rcases hr with ⟨x, hx⟩ | hempty | hr
  · exact Or.inl ⟨x, List.mem_append_left _ hx⟩
  · rcases h.lightAct.lightIds with htook | hnil | hsame
    · exact Or.inl (hlater htook)
    · exact Or.inr (Or.inl hnil)
    · exact Or.inr (Or.inl (lights_nil_of_ids hempty hsame))
  · rcases hP hsettings hr with htook | hrest
    · exact Or.inl (hlater htook)
    · exact Or.inr hrest

/-- What is true of a light as it was taken over, and is kept by all that is done to it, is true as
long as it is held. -/
theorem tracked_run {P : List (Nat × Color) → List Note → Rig → Prop}
    (hP : ∀ {r : Rig} {p : Progress} {shown new : List (Nat × Color)} {notes : List Note},
      Act anything r new p → r.settings = s → P shown notes r →
      (∃ h, .tookOver h ∈ p.2) ∨ p.1.lights = [] ∨ P (shown ++ new) (notes ++ p.2) p.1)
    {moves : List Move} (hsettings : r.settings = s) (hr : P [] [] r)
    (hrun : r.run moves = some p) (hlast : ∀ h, .tookOver h ∉ p.2) (hheld : p.1.lights ≠ []) :
    P (r.shown moves) p.2 p.1 := by
  have hend : Tracked s P ([] ++ r.shown moves) ([] ++ p.2) p.1 :=
    (run_does_anything hrun).keeps (P := Tracked s P) (fun h => tracked_act (hP h) h)
      [] [] ⟨hsettings, Or.inr (Or.inr hr)⟩
  rcases hend.2 with ⟨x, hmem⟩ | hempty | hend
  · exact absurd hmem (hlast x)
  · exact absurd hempty hheld
  · exact hend

end

/-! ### A write -/

theorem colorsAt_zipIdx (index : Nat) (cs : List Color) (j : Nat) :
    colorsAt index ((cs.zipIdx j).map Prod.swap) =
      if j ≤ index then (cs[index - j]?).toList else [] := by
  induction cs generalizing j with
  | nil => simp [colorsAt]
  | cons c cs ih =>
    have hone := colorsAt_one index j c
    rw [List.zipIdx_cons, List.map_cons, ← List.singleton_append, colorsAt_append, ih,
      Prod.swap_prod_mk, hone]
    rcases Nat.lt_trichotomy j index with h | rfl | h
    · rw [if_neg (Nat.ne_of_lt h), if_pos (Nat.succ_le_of_lt h), if_pos (Nat.le_of_lt h),
        List.nil_append, show index - j = index - (j + 1) + 1 by omega, List.getElem?_cons_succ]
    · rw [if_pos rfl, if_neg (Nat.not_succ_le_self j), if_pos (Nat.le_refl j), Nat.sub_self]
      rfl
    · rw [if_neg (Nat.ne_of_gt h), if_neg (by omega), if_neg (by omega), List.nil_append]

theorem showing_of_aside {r : Rig} {m : Move} (h : m.isAside) : r.showing m = [] := by
  cases m <;> first | rfl | cases h

theorem untaken_append {notes more : List Note} : (∀ h, .tookOver h ∉ notes ++ more) ↔
    (∀ h, .tookOver h ∉ notes) ∧ ∀ h, .tookOver h ∉ more := by
  simp only [List.mem_append, not_or, forall_and]

theorem untaken_of_aside {notes : List Note} (hnotes : ∀ n ∈ notes, n.isAside) (h : Held Float) :
    .tookOver h ∉ notes := by
  intro hmem
  cases hnotes _ hmem

/-- What a painted light leaves of the rig as it is. -/
theorem paint_length (r : Rig) (index : Nat) (c : Color) :
    (r.paint index c).1.lights.length = r.lights.length ∧
      ∀ n ∈ (r.paint index c).2, n.isAside := by
  cases h : r.lights[index]? with
  | none =>
    obtain ⟨hlights, hnotes⟩ := paint_none c h
    rw [hlights, hnotes]
    exact ⟨rfl, by simp⟩
  | some x =>
    obtain ⟨hlights, hnotes⟩ := paint_some c h
    rw [hlights, hnotes]
    exact ⟨List.length_set, by simp [Note.isAside]⟩

theorem idle_run {r : Rig} {moves : List Move} {p : Progress} (hidle : r.task = .idle)
    (hpresent : r.present = true) (hmoves : ∀ m ∈ moves, m.isOwners = false)
    (hrun : r.run moves = some p) :
    r.shown moves = [] ∧ p.1.task = .idle ∧ p.1.lights.length = r.lights.length ∧
      ∀ n ∈ p.2, n.isAside := by
  induction moves generalizing r p with
  | nil =>
    cases hrun
    exact ⟨rfl, hidle, rfl, by simp⟩
  | cons m moves ih =>
    obtain ⟨q, more, hstep, hrun, hnotes⟩ := run_cons.1 hrun
    obtain ⟨howners, hrest⟩ := List.forall_mem_cons.1 hmoves
    have haside : m.isAside := by
      cases m with
      | call | leave => cases howners
      | proceed => simp [step, proceed, hidle] at hstep
      | replied reply => simp [step, replied, hidle] at hstep
      | session | report | bridge => rfl
    have hq : Aside r q := aside_of_step haside hstep
    obtain ⟨hshown, hend, hlength, hmore⟩ := ih (p := (p.1, more)) (hq.task_eq.trans hidle)
      (hq.present_eq.trans hpresent) hrest hrun
    refine ⟨?_, hend, ?_, ?_⟩
    · rw [shown_cons hstep, showing_of_aside haside, hshown, List.append_nil]
    · rwa [hq.lights_eq hpresent] at hlength
    · rw [hnotes]
      exact List.forall_mem_append.2 ⟨hq.notes, hmore⟩

/-- What is left to be shown of a write is shown in order. -/
theorem painting_run {r : Rig} {moves : List Move} {p : Progress} {j : Nat} {cs : List Color}
    {result : Except Fault Unit} (htask : r.task = .painting j cs) (hpresent : r.present = true)
    (hmoves : ∀ m ∈ moves, m.isOwners = false) (hrun : r.run moves = some p)
    (hreturned : .returned result ∈ p.2) :
    r.shown moves = (cs.zipIdx j).map Prod.swap ∧ p.1.task = .idle ∧
      p.1.lights.length = r.lights.length ∧ ∀ h, .tookOver h ∉ p.2 := by
  induction moves generalizing r p j cs with
  | nil =>
    cases hrun
    cases hreturned
  | cons m moves ih =>
    obtain ⟨q, more, hstep, hrun, hnotes⟩ := run_cons.1 hrun
    obtain ⟨howners, hrest⟩ := List.forall_mem_cons.1 hmoves
    -- Nothing has returned before the last colour is shown.
    have hgo : ∀ {k : Nat} {rest : List Color}, q.1.task = .painting k rest →
        q.1.present = true → q.1.lights.length = r.lights.length → (∀ n ∈ q.2, n.isAside) →
        r.showing m ++ (rest.zipIdx k).map Prod.swap = (cs.zipIdx j).map Prod.swap →
        r.shown (m :: moves) = (cs.zipIdx j).map Prod.swap ∧ p.1.task = .idle ∧
          p.1.lights.length = r.lights.length ∧ ∀ h, .tookOver h ∉ p.2 := by
      intro k rest hqtask hqpresent hqlength hqnotes hshowing
      have hmore : .returned result ∈ more := by
        rw [hnotes] at hreturned
        exact (List.mem_append.1 hreturned).resolve_left fun h => by cases hqnotes _ h
      obtain ⟨hshown, hend, hlength, htook⟩ :=
        ih (p := (p.1, more)) hqtask hqpresent hrest hrun hmore
      refine ⟨?_, hend, hlength.trans hqlength, ?_⟩
      · rw [shown_cons hstep, hshown, hshowing]
      · rw [hnotes]
        exact untaken_append.2 ⟨untaken_of_aside hqnotes, htook⟩
    cases m with
    | call | leave => cases howners
    | replied reply => simp [step, replied, htask] at hstep
    | session | report | bridge =>
      have hq : Aside r q := aside_of_step rfl hstep
      exact hgo (hq.task_eq.trans htask) (hq.present_eq.trans hpresent)
        (congrArg List.length (hq.lights_eq hpresent)) hq.notes rfl
    | proceed =>
      cases cs with
      | nil =>
        obtain rfl : r.finish (.ok ()) = q := by simpa [step, proceed, htask] using hstep
        obtain ⟨hshown, hend, hlength, haside⟩ :=
          idle_run (r := (r.finish (.ok ())).1) (p := (p.1, more)) rfl hpresent hrest hrun
        refine ⟨?_, hend, hlength, ?_⟩
        · rw [shown_cons hstep, hshown, showing, htask]
          rfl
        · rw [hnotes]
          exact untaken_append.2 ⟨by simp [finish], untaken_of_aside haside⟩
      | cons c rest =>
        obtain rfl : { r with task := .painting (j + 1) rest }.paint j c = q := by
          simpa [step, proceed, htask] using hstep
        obtain ⟨hlength, haside⟩ := paint_length { r with task := .painting (j + 1) rest } j c
        refine hgo rfl hpresent hlength haside ?_
        rw [showing, htask]
        rfl

/-- An operation that ended with an error does not return once more. -/
theorem returned_error {r : Rig} {e : Fault} {moves : List Move} {p : Progress}
    (hpresent : r.present = true) (hmoves : ∀ m ∈ moves, m.isOwners = false)
    (hrun : (r.finish (.error e)).1.run moves = some p) :
    .returned (.ok ()) ∉ (r.finish (.error e)).2 ++ p.2 := by
  intro hmem
  rcases List.mem_append.1 hmem with hmem | hmem
  · cases List.mem_singleton.1 hmem
  · have haside := (idle_run (r := (r.finish (.error e)).1) rfl hpresent hmoves hrun).2.2.2
    cases haside _ hmem

/-- A write that returns without an error shows the first colours, one on each light. -/
theorem write_run {r : Rig} {colors : List Color} {moves : List Move} {p : Progress}
    (hmoves : ∀ m ∈ moves, m.isOwners = false)
    (hrun : r.run (.call (.write colors) :: moves) = some p)
    (hreturned : .returned (.ok ()) ∈ p.2) :
    r.lights ≠ [] ∧ r.lights.length ≤ colors.length ∧
      r.shown (.call (.write colors) :: moves) =
        ((colors.take r.lights.length).zipIdx 0).map Prod.swap ∧
      p.1.task = .idle ∧ p.1.lights.length = r.lights.length ∧ ∀ h, .tookOver h ∉ p.2 := by
  obtain ⟨q, more, hstep, hrun, hnotes⟩ := run_cons.1 hrun
  obtain ⟨-, hpresent, rfl⟩ := step_call hstep
  rw [hnotes] at hreturned ⊢
  rw [shown_cons hstep]
  simp only [call, write] at hrun hreturned ⊢
  split at hrun
  · next hready =>
    rw [if_pos hready] at hreturned
    exact absurd hreturned (returned_error (p := (p.1, more)) hpresent hmoves hrun)
  · next hready =>
    split at hrun
    · next hfew =>
      rw [if_neg hready, if_pos hfew] at hreturned
      exact absurd hreturned (returned_error (p := (p.1, more)) hpresent hmoves hrun)
    · next hfew =>
      rw [if_neg hready, if_neg hfew] at hreturned ⊢
      obtain ⟨hshown, hend, hlength, htook⟩ :=
        painting_run (r := { r with task := .painting 0 (colors.take r.lights.length) })
          (p := (p.1, more)) rfl hpresent hmoves hrun hreturned
      refine ⟨?_, Nat.le_of_not_lt hfew, hshown, hend, hlength, htook⟩
      intro hempty
      simp [isReady, hempty] at hready

/-! ### The last taking -/

/-- Where in a run the lights that are held at its end were taken over. -/
structure Taking (r : Rig) (moves : List Move) (p : Progress) where
  before : List Move
  since : List Move
  rig : Rig
  earlier : List Note
  later : List Note
  moves_eq : moves = before ++ since
  run_before : r.run before = some (rig, earlier)
  run_since : rig.run since = some (p.1, later)
  notes_eq : p.2 = earlier ++ later
  /-- The lights are as they were taken over. -/
  fresh : ∀ h ∈ rig.lights, .tookOver h ∈ earlier
  last : ∀ h, .tookOver h ∉ later

/-- As long as no colour is shown, lights that were taken over stay as they are. -/
theorem fresh_act {r : Rig} {p : Progress} {shown new : List (Nat × Color)} {notes : List Note}
    (h : Act known r new p)
    (hr : shown ≠ [] ∨ (∀ h, .tookOver h ∉ notes) ∨ ∀ h ∈ r.lights, .tookOver h ∈ notes) :
    shown ++ new ≠ [] ∨ (∀ h, .tookOver h ∉ notes ++ p.2) ∨
      ∀ h ∈ p.1.lights, .tookOver h ∈ notes ++ p.2 := by
  cases h.lightAct with
  | missed | painted => exact Or.inl (by simp)
  | apart hlights hnotes =>
    refine hr.imp (fun hne => by simpa using hne) fun hr => hr.imp ?_ ?_
    · intro hnone
      exact untaken_append.2 ⟨hnone, fun h hmem => by cases hnotes _ hmem⟩
    · intro hall h hmem
      rw [hlights] at hmem
      exact List.mem_append_left _ (hall h hmem)
  | exchanged hknown hnotes =>
    refine Or.inr (Or.inr fun h hmem => ?_)
    rw [hnotes]
    exact List.mem_append_right _ (List.mem_append_left _ (List.mem_map_of_mem hmem))

/-- Lights are not shown colours by the step that takes them over. -/
theorem fresh_of_step {r : Rig} {m : Move} {p : Progress} (h : r.step m = some p)
    (htook : ∃ h, .tookOver h ∈ p.2) : ∀ h ∈ p.1.lights, .tookOver h ∈ p.2 := by
  obtain ⟨x, hx⟩ := htook
  have hbegin : ([] : List (Nat × Color)) ≠ [] ∨ (∀ h, Note.tookOver h ∉ []) ∨
      ∀ h ∈ r.lights, Note.tookOver h ∈ [] := Or.inr (Or.inl (by simp))
  have hend := (step_does_anything h).keeps
    (P := fun shown notes r => shown ≠ [] ∨ (∀ h, .tookOver h ∉ notes) ∨
      ∀ h ∈ r.lights, .tookOver h ∈ notes) fresh_act [] [] hbegin
  rcases hend with hshowing | hnone | hall
  · cases m with
    | proceed =>
      simp only [showing] at hshowing
      split at hshowing
      · next index c rest htask =>
        simp only [step, proceed, htask] at h
        cases h
        cases (paint_length _ _ _).2 _ hx
      · exact absurd rfl hshowing
    | _ => exact absurd rfl hshowing
  · exact absurd hx (hnone x)
  · exact hall

/-- Nothing that came before matters. -/
def Taking.cons {r : Rig} {m : Move} {moves : List Move} {p q : Progress} {more : List Note}
    (hstep : r.step m = some q) (hnotes : p.2 = q.2 ++ more) (t : Taking q.1 moves (p.1, more)) :
    Taking r (m :: moves) p where
  before := m :: t.before
  since := t.since
  rig := t.rig
  earlier := q.2 ++ t.earlier
  later := t.later
  moves_eq := congrArg (List.cons m) t.moves_eq
  run_before := run_cons.2 ⟨q, t.earlier, hstep, t.run_before, rfl⟩
  run_since := t.run_since
  notes_eq := by
    rw [hnotes, List.append_assoc]
    exact congrArg (q.2 ++ ·) t.notes_eq
  fresh h hmem := List.mem_append_right _ (t.fresh h hmem)
  last := t.last

theorem last_taking {r : Rig} {moves : List Move} {p : Progress} (hrun : r.run moves = some p) :
    (∀ h, .tookOver h ∉ p.2) ∨ Nonempty (Taking r moves p) := by
  induction moves generalizing r p with
  | nil =>
    cases hrun
    exact Or.inl fun h hmem => by cases hmem
  | cons m moves ih =>
    obtain ⟨q, more, hstep, hrun, hnotes⟩ := run_cons.1 hrun
    rcases ih (p := (p.1, more)) hrun with hnone | ⟨⟨t⟩⟩
    · by_cases htook : ∃ h, .tookOver h ∈ q.2
      · exact Or.inr ⟨{
          before := [m]
          since := moves
          rig := q.1
          earlier := q.2
          later := more
          moves_eq := rfl
          run_before := by simp [run, hstep]
          run_since := hrun
          notes_eq := hnotes
          fresh := fresh_of_step hstep htook
          last := hnone }⟩
      · rw [hnotes]
        exact Or.inl (untaken_append.2 ⟨not_exists.1 htook, hnone⟩)
    · exact Or.inr ⟨t.cons hstep hnotes⟩

section

variable {fresh r : Rig} {moves showing : List Move} {notes : List Note} {p : Progress}

/-- A device that holds no lights at first took over those that it holds. -/
theorem taking_of_held (hempty : fresh.lights = []) (hrun : fresh.run moves = some p)
    (hheld : p.1.lights ≠ []) : Nonempty (Taking fresh moves p) := by
  refine (last_taking hrun).resolve_left fun hnone => ?_
  have hend : HeldOn [] ([] ++ p.2) p.1 :=
    (run_does_anything hrun).keeps (P := fun _ notes r => HeldOn [] notes r) heldOn_act [] []
      (Or.inr (Or.inl hempty))
  rcases hend with ⟨h, hmem⟩ | hempty | hids
  · exact hnone h hmem
  · exact hheld hempty
  · exact hheld (List.map_eq_nil_iff.1 hids)

/-- The lights were taken over as entries of an inventory described them. -/
theorem Taking.described (t : Taking fresh moves p) (hidle : fresh.task = .idle) {index : Nat}
    {h : Held Float} (hsome : t.rig.lights[index]? = some h) :
    ∃ inventory entry, Move.call (.handle (.inventoryReady inventory)) ∈ t.before ∧
      inventory.lights.lookup h.light.id = some entry ∧
      h.light = Light.ofEntry h.light.id entry := by
  refine takenOver_run hidle t.run_before ?_
  exact List.mem_filterMap.2 ⟨_, t.fresh h (List.mem_of_getElem? hsome), by simp⟩

theorem Taking.lightIds_eq (t : Taking r moves p) (hheld : p.1.lights ≠ []) :
    t.rig.lightIds = p.1.lightIds := by
  have hend : HeldOn t.rig.lightIds ([] ++ t.later) p.1 :=
    (run_does_anything t.run_since).keeps (P := fun _ notes r => HeldOn t.rig.lightIds notes r)
      heldOn_act [] [] (Or.inr (Or.inr rfl))
  rcases hend with ⟨h, hmem⟩ | hempty | hids
  · exact absurd hmem (t.last h)
  · exact absurd hempty hheld
  · exact hids.symm

/-- What a write that returned without an error comes to for the lights that are held. -/
structure Written (t : Taking fresh moves (r, notes)) (colors : List Color) (showing : List Move)
    (p : Progress) : Prop where
  lightIds_eq : t.rig.lightIds = r.lightIds
  run_since : t.rig.run (t.since ++ .call (.write colors) :: showing) = some (p.1, t.later ++ p.2)
  last : ∀ h, .tookOver h ∉ t.later ++ p.2
  held : p.1.lights ≠ []
  idle : p.1.task = .idle
  /-- Every light is shown one more colour. -/
  colorsAt_eq : ∀ {index : Nat} {h : Held Float}, t.rig.lights[index]? = some h →
    ∃ c, colors[index]? = some c ∧
      colorsAt index (t.rig.shown (t.since ++ .call (.write colors) :: showing)) =
        colorsAt index (t.rig.shown t.since) ++ [c]

theorem Taking.written (t : Taking fresh moves (r, notes)) {colors : List Color}
    (hshowing : ∀ m ∈ showing, m.isOwners = false)
    (hwrite : r.run (.call (.write colors) :: showing) = some p)
    (hreturned : .returned (.ok ()) ∈ p.2) : Written t colors showing p := by
  obtain ⟨hheld, hcount, hshown, hidle, hlength, hnone⟩ := write_run hshowing hwrite hreturned
  have hids : t.rig.lightIds = r.lightIds := t.lightIds_eq hheld
  constructor
  case lightIds_eq => exact hids
  case run_since => exact run_append.2 ⟨(r, t.later), p.2, t.run_since, hwrite, rfl⟩
  case last => exact untaken_append.2 ⟨t.last, hnone⟩
  case held =>
    rw [← List.length_pos_iff] at hheld ⊢
    rwa [hlength]
  case idle => exact hidle
  case colorsAt_eq =>
    intro index h hsome
    have hindex : index < r.lights.length := by
      have hlengths := congrArg List.length hids
      rw [lightIds, lightIds, List.length_map, List.length_map] at hlengths
      rw [← hlengths]
      exact (List.getElem?_eq_some_iff.1 hsome).1
    have hlt : index < colors.length := Nat.lt_of_lt_of_le hindex hcount
    refine ⟨colors[index], List.getElem?_eq_getElem hlt, ?_⟩
    rw [shown_append t.run_since, colorsAt_append, hshown, colorsAt_zipIdx,
      if_pos (Nat.zero_le index), Nat.sub_zero, List.getElem?_take_of_lt hindex,
      List.getElem?_eq_getElem hlt]
    rfl

end

def Note.isSuccess : Note → Bool
  | .returned (.ok _) => true
  | _ => false

theorem returned_of_any {notes : List Note} (h : notes.any Note.isSuccess) :
    .returned (.ok ()) ∈ notes := by
  obtain ⟨n, hmem, hn⟩ := List.any_eq_true.1 h
  unfold Note.isSuccess at hn
  split at hn
  · exact hmem
  · cases hn

end LightBridge.Rig
