import LightBridge.Proofs.Rig.Lights

/-! What lamps are left in when a device is disabled. Each light is given back in the state in which
it was found, but a light that is taken over again while it is held is found as the device left it;
so it is the last state found that a lamp is put back in. -/

namespace LightBridge.Rig

variable {known : Listing (LightEntry Float) → Prop}

/-- The states in which the lights with an id that are held were found. -/
def heldStates (id : UInt16) (r : Rig) : List (FoundState Float) :=
  (withId id r.lights).map (·.found)

/-- The states in which lights with an id were found, one for each time one was taken over. -/
def foundStates (id : UInt16) (notes : List Note) : List (FoundState Float) :=
  (takenOver id notes).map (·.found)

/-- A lamp that is held was last found in the state to which the light that was taken over last will
put it back. One that is not held was put back. -/
def Kept (id : UInt16) (notes : List Note) (r : Rig) : Prop :=
  match (heldStates id r).getLast? with
  | some state => (foundStates id notes).getLast? = some state
  | none => (commandsTo id notes).getLast? = (foundStates id notes).getLast?.map .restore

theorem found_set {id : UInt16} {lights : List (Held Float)} {index : Nat} {h x : Held Float}
    (hsome : lights[index]? = some h) (hid : x.light.id = h.light.id)
    (hfound : x.light.found = h.light.found) :
    (withId id (lights.set index x)).map (·.found) = (withId id lights).map (·.found) := by
  induction lights generalizing index with
  | nil => rfl
  | cons y lights ih =>
    cases index with
    | zero =>
      obtain rfl : y = h := by simpa using hsome
      simp only [withId, List.set_cons_zero, List.map_cons, List.filter_cons, hid]
      split
      · rw [List.map_cons, List.map_cons, hfound]
      · rfl
    | succ index =>
      have ih := ih hsome
      simp only [withId, List.set_cons_succ, List.map_cons, List.filter_cons] at ih ⊢
      split
      · rw [List.map_cons, List.map_cons, ih]
      · exact ih

theorem heldStates_ne_nil {r : Rig} {h : Held Float} (hmem : h ∈ r.lights) :
    heldStates h.light.id r ≠ [] := by
  have hlight : h.light ∈ withId h.light.id r.lights :=
    List.mem_filter.2 ⟨List.mem_map_of_mem hmem, by simp⟩
  exact List.ne_nil_of_mem (List.mem_map_of_mem hlight)

/-- Lights are exchanged for others. -/
theorem Kept.exchange {id : UInt16} {r r' : Rig} {notes new : List Note} (hkept : Kept id notes r)
    (hnew : new = r'.lights.map .tookOver ++ (r.lights.map Held.restoring).map .commanded) :
    Kept id (notes ++ new) r' := by
  have hfound : foundStates id (notes ++ new) = foundStates id notes ++ heldStates id r' := by
    simp [foundStates, heldStates, hnew, -List.map_map]
  have hcommands : commandsTo id (notes ++ new) =
      commandsTo id notes ++ (heldStates id r).map .restore := by
    rw [hnew, commandsTo_append, commandsTo_append, commandsTo_tookOver, commandsTo_restoring,
      heldStates, List.map_map]
    rfl
  rw [Kept, hfound, hcommands, List.getLast?_append, List.getLast?_append, List.getLast?_map]
  split
  · next state hlast => rw [hlast, Option.some_or]
  · next hnone =>
    rw [hnone, Option.none_or]
    -- The lamp was put back now if it was held, and before that otherwise.
    cases hlast : (heldStates id r).getLast? with
    | some state =>
      rw [Kept, hlast] at hkept
      rw [hkept]
      rfl
    | none =>
      rw [Kept, hlast] at hkept
      rw [Option.map_none, Option.none_or, hkept]

theorem kept_act {id : UInt16} {r : Rig} {p : Progress} {shown : List (Nat × Color)}
    {notes : List Note} (h : Act known r shown p) (hkept : Kept id notes r) :
    Kept id (notes ++ p.2) p.1 := by
  cases h.lightAct with
  | apart hlights hnotes =>
    simp only [Kept, heldStates, foundStates, hlights, commandsTo_append, takenOver_append,
      commandsTo_of_quiet hnotes, takenOver_of_quiet hnotes, List.append_nil] at hkept ⊢
    exact hkept
  | missed index color hnone hlights hnotes =>
    simp only [Kept, heldStates, hlights, hnotes, List.append_nil] at hkept ⊢
    exact hkept
  | painted index color hsome hlights hnotes =>
    have hheld : heldStates id p.1 = heldStates id r := by
      rw [heldStates, hlights]
      exact found_set hsome (Light.paint_id _ _ _) (Light.paint_found _ _ _)
    have hfound : foundStates id (notes ++ p.2) = foundStates id notes := by
      simp [foundStates, hnotes, -List.map_map]
    rw [Kept, hheld, hfound]
    cases hlast : (heldStates id r).getLast? with
    | some state => rwa [Kept, hlast] at hkept
    | none =>
      rw [Kept, hlast] at hkept
      rw [commandsTo_append, hnotes, commandsTo_sent, if_neg, List.append_nil]
      · exact hkept
      · rintro rfl
        exact heldStates_ne_nil (List.mem_of_getElem? hsome) (List.getLast?_eq_none_iff.1 hlast)
  | exchanged hknown hnotes => exact hkept.exchange hnotes

/-! ### A device that is being disabled -/

/-- The device is on its way to let go of its lights, or has let go of them. -/
def Disabling (r : Rig) : Prop :=
  match r.task with
  | .idle => r.lights = []
  | .stopping _ (.handBack true) | .releasing true => True
  | _ => False

theorem disabling_released (r : Rig) : Disabling (r.released true).1 := rfl

theorem disabling_afterStop (r : Rig) : Disabling (r.afterStop (.handBack true)).1 := by
  simp only [afterStop]
  split
  · trivial
  · exact disabling_released r

theorem disabling_disable (r : Rig) : Disabling r.disable.1 := by
  rw [disable, stopThen]
  split
  · exact disabling_afterStop _
  · trivial

theorem Disabling.aside {r : Rig} {p : Progress} (hr : Disabling r) (h : Aside r p) :
    Disabling p.1 := by
  unfold Disabling at hr ⊢
  rw [h.task_eq]
  split at hr
  · rcases h.lights with h | ⟨h, -⟩
    · rw [h, hr]
    · exact h
  · trivial
  · trivial
  · exact hr

theorem disabling_proceed {r : Rig} {p : Progress} (hr : Disabling r) (h : r.proceed = some p) :
    Disabling p.1 := by
  unfold proceed at h
  unfold Disabling at hr
  split at h
  · next htask => simp [htask] at hr
  · next htask => simp [htask] at hr
  · next k next htask =>
    rw [htask] at hr
    obtain rfl : next = .handBack true := by
      cases next with
      | handBack disabling => cases disabling <;> first | rfl | exact hr.elim
      | _ => exact hr.elim
    split at h
    · split at h
      · cases h
        exact disabling_afterStop r
      · cases h
    · cases h
  · cases h

theorem disabling_replied {r : Rig} {p : Progress} (reply : Reply) (hr : Disabling r)
    (h : r.replied reply = some p) : Disabling p.1 := by
  unfold replied at h
  unfold Disabling at hr
  split at h
  · next htask => simp [htask] at hr
  · next htask => simp [htask] at hr
  · next disabling htask =>
    cases h
    cases disabling with
    | true => exact disabling_released _
    | false => simp [htask] at hr
  · cases h

theorem disabling_step {r : Rig} {m : Move} {p : Progress} (hm : m.isOwners = false)
    (hr : Disabling r) (h : r.step m = some p) : Disabling p.1 := by
  cases m with
  | call | leave => cases hm
  | proceed => exact disabling_proceed hr h
  | replied reply => exact disabling_replied reply hr h
  | session | report | bridge => exact hr.aside (aside_of_step rfl h)

theorem disabling_run {r : Rig} {moves : List Move} {p : Progress}
    (hmoves : ∀ m ∈ moves, m.isOwners = false) (hr : Disabling r) (h : r.run moves = some p) :
    Disabling p.1 := by
  induction moves generalizing r p with
  | nil =>
    cases h
    exact hr
  | cons m moves ih =>
    obtain ⟨q, more, hstep, hrun, -⟩ := run_cons.1 h
    obtain ⟨hm, hrest⟩ := List.forall_mem_cons.1 hmoves
    have hq : Disabling q.1 := disabling_step hm hr hstep
    exact ih (p := (p.1, more)) hrest hq hrun

theorem lights_after_disable {r : Rig} {after : List Move} {p : Progress}
    (hafter : ∀ m ∈ after, m.isOwners = false) (h : r.run (.call .disable :: after) = some p)
    (hidle : p.1.task = .idle) : p.1.lights = [] := by
  obtain ⟨q, more, hstep, hrun, -⟩ := run_cons.1 h
  have hq : Disabling q.1 := by
    simp only [step] at hstep
    split at hstep
    · cases hstep
      exact disabling_disable r
    · cases hstep
  have hp : Disabling p.1 := disabling_run (p := (p.1, more)) hafter hq hrun
  rwa [Disabling, hidle] at hp

/-! ### A whole run -/

/-- When a device has been disabled, the last command to each lamp puts it back in the state in which
it was found when it was taken over for the last time. That is the state in which it was found at
first only if both were the same. -/
theorem disable_restores_last {fresh : Rig} {before after : List Move} {p : Progress}
    (hfresh : Fresh fresh) (hafter : ∀ m ∈ after, m.isOwners = false)
    (hrun : fresh.run (before ++ .call .disable :: after) = some p) (hidle : p.1.task = .idle)
    (id : UInt16) :
    (∀ l ∈ takenOver id p.2, ∃ inventory entry,
      Move.call (.handle (.inventoryReady inventory)) ∈ before ++ .call .disable :: after ∧
        inventory.lights.lookup id = some entry ∧ l = Light.ofEntry id entry) ∧
    (commandsTo id p.2).getLast? = (takenOver id p.2).getLast?.map Light.restoring ∧
    ∀ first last, (takenOver id p.2).head? = some first → (takenOver id p.2).getLast? = some last →
      ((commandsTo id p.2).getLast? = some first.restoring ↔ last.found = first.found) := by
  have hlast : (commandsTo id p.2).getLast? = (takenOver id p.2).getLast?.map Light.restoring := by
    obtain ⟨q, more, -, hdisabled, -⟩ := run_append.1 hrun
    have hlights : p.1.lights = [] :=
      lights_after_disable (p := (p.1, more)) hafter hdisabled hidle
    have hbegin : Kept id [] fresh := by
      rw [hfresh.eq]
      rfl
    have hkept : Kept id ([] ++ p.2) p.1 :=
      (run_does_anything hrun).keeps (P := fun _ notes r => Kept id notes r) kept_act [] [] hbegin
    rw [List.nil_append, Kept, heldStates, hlights] at hkept
    rw [hkept, foundStates, List.getLast?_map, Option.map_map]
    rfl
  refine ⟨fun l hl => takenOver_run (by rw [hfresh.eq]) hrun hl, hlast, ?_⟩
  intro first last _ hl
  rw [hlast, hl]
  simp [Light.restoring]

def Task.isIdle : Task → Bool
  | .idle => true
  | _ => false

theorem Task.eq_idle {task : Task} (h : task.isIdle) : task = .idle := by
  cases task <;> first | rfl | cases h

/-- A device is disabled while its session connects. -/
theorem disable_restores_last_while_connecting :
    let inventory : Inventory :=
      { groups := [(1, { kind := "Entertainment", lights := ["1"] })], lights := [(1, lampEntry true)] }
    let ok : Reply := .answered 200 ""
    let before : List Move := [.call (.handle (.inventoryReady inventory)), .replied ok,
      .replied ok, .session 0 .begin]
    let after : List Move := [.session 0 (.connected (.error (.unreachable "open"))), .report 0,
      .proceed, .replied ok]
    ∃ fresh p, Fresh fresh ∧
      (∀ m ∈ after, m.isOwners = false) ∧ fresh.run (before ++ .call .disable :: after) = some p ∧
      p.1.task = .idle ∧
      (commandsTo 1 p.2).getLast? = (takenOver 1 p.2).getLast?.map Light.restoring := by
  intro inventory ok before after
  let fresh : Rig :=
    { bridge := groupBridge, settings := { streaming := true }, canStream := true }
  have hfresh : Fresh fresh := .withTransport groupBridge { streaming := true }
  have hafter : ∀ m ∈ after, m.isOwners = false := by simp [after, Move.isOwners]
  have hidle : ((fresh.run (before ++ .call .disable :: after)).any fun p => p.1.task.isIdle) =
      true := by decide +kernel
  obtain ⟨p, hrun, hidle⟩ := (Option.any_eq_true _ _).1 hidle
  have hidle : p.1.task = .idle := Task.eq_idle hidle
  exact ⟨fresh, p, hfresh, hafter, hrun, hidle,
    (disable_restores_last hfresh hafter hrun hidle 1).2.1⟩

deriving instance DecidableEq for FoundState, LightCommand

/-- A light that shines is shown black, which switches it off, and is found so when it is taken over
again. -/
def refreshed : List Move :=
  [.call (.handle (.inventoryReady { lights := [(1, lampEntry true)] })),
    .call (.write [⟨0, 0, 0⟩]), .proceed, .proceed,
    .call (.handle (.inventoryReady { lights := [(1, { state := { on := some false } })] }))]

/-- So it is left dark. -/
theorem dark_after_disable :
    ∃ fresh, forBridge groupBridge { lightIds := [1] } = .ok fresh ∧
      ((fresh.run (refreshed ++ [.call .disable])).map fun p =>
        ((takenOver 1 p.2).map Light.restoring, (commandsTo 1 p.2).getLast?)) =
      some ([.restore (.lit 0.3 0.3 200), .restore .dark], some (.restore .dark)) :=
  ⟨_, rfl, by decide +kernel⟩

end LightBridge.Rig
