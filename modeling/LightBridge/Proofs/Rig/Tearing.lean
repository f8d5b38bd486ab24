import LightBridge.Proofs.Rig.Frames

/-! What frames show while colours are written. A write reaches one light after the other, and a frame
may be taken in between: it shows the first lights as this write leaves them, and the others as the
write before did. A mark says how far the writes had come. As long as the lights stay the same ones,
the marks of all frames are in order, so no light goes back to an earlier colour. -/

namespace LightBridge.Rig

/-- Lights that were shown one colour each. -/
def painted (s : DeviceSettings) (colors : List Color) (lights : List (Held Float)) :
    List (Held Float) :=
  lights.mapIdx fun i h => match colors[i]? with
    | some c => { h with light := (h.light.paint s c).1 }
    | none => h

/-- The lights as the first of some writes leave them. -/
def stored (s : DeviceSettings) (lights : List (Held Float)) (writes : List (List Color))
    (count : Nat) : List (Held Float) :=
  (writes.take count).foldl (fun lights colors => painted s colors lights) lights

/-- How far writes have come: so many are over, and the next one has reached so many lights. -/
structure Mark where
  through : Nat
  reached : Nat

namespace Mark

/-- Whether a mark is no later than another one. -/
def NotAfter (a b : Mark) : Prop := a.through < b.through ∨ a.through = b.through ∧ a.reached ≤ b.reached

/-- The number of writes that have reached the light at an index. -/
def writesAt (index : Nat) (m : Mark) : Nat := if index < m.reached then m.through + 1 else m.through

/-- Whether there are enough writes and lights. -/
def Within (writes lights : Nat) (m : Mark) : Prop :=
  m.reached ≤ lights ∧ (m.through < writes ∨ m.through = writes ∧ m.reached = 0)

theorem NotAfter.refl (m : Mark) : m.NotAfter m := Or.inr ⟨rfl, Nat.le_refl _⟩

theorem NotAfter.trans {a b c : Mark} (h : a.NotAfter b) (h' : b.NotAfter c) : a.NotAfter c := by
  unfold NotAfter at *
  omega

/-- A light that a write has reached stays reached. -/
theorem NotAfter.writesAt_le {a b : Mark} (h : a.NotAfter b) (index : Nat) :
    a.writesAt index ≤ b.writesAt index := by
  unfold NotAfter at h
  unfold writesAt
  split <;> split <;> omega

theorem Within.more {writes more lights : Nat} {m : Mark} (h : m.Within writes lights) :
    m.Within (writes + more) lights := by
  unfold Within at *
  omega

end Mark

/-- The lights at a mark: the first ones as the next write leaves them, the others as the last one
did. -/
def torn (s : DeviceSettings) (lights : List (Held Float)) (writes : List (List Color)) (m : Mark) :
    List (Held Float) :=
  (stored s lights writes (m.through + 1)).take m.reached ++ (stored s lights writes m.through).drop m.reached

/-- The colours that a move begins to show, one for each light. A write that is refused shows none. -/
def beginning (r : Rig) : Move → List (List Color)
  | .call (.write colors) =>
    if r.isReady && r.lights.length ≤ colors.length then [colors.take r.lights.length] else []
  | _ => []

/-- The colours of each write that is made in a run, in order. -/
def writes (r : Rig) : List Move → List (List Color)
  | [] => []
  | m :: rest => r.beginning m ++ ((r.step m).map fun p => writes p.1 rest).getD []

/-! ### Lights at a mark -/

section

variable {s : DeviceSettings} {lights : List (Held Float)} {before more writes : List (List Color)}
  {colors : List Color} {m : Mark}

theorem length_painted (s : DeviceSettings) (colors : List Color) (lights : List (Held Float)) :
    (painted s colors lights).length = lights.length := List.length_mapIdx

theorem length_stored (count : Nat) : (stored s lights writes count).length = lights.length := by
  unfold stored
  generalize writes.take count = ws
  induction ws generalizing lights with
  | nil => rfl
  | cons colors ws ih => rw [List.foldl_cons, ih, length_painted]

theorem stored_succ {j : Nat} (h : writes[j]? = some colors) :
    stored s lights writes (j + 1) = painted s colors (stored s lights writes j) := by
  rw [stored, List.take_add_one, h, Option.toList_some, List.foldl_append, List.foldl_cons,
    List.foldl_nil, stored]

/-- Later writes do not matter to what was stored before. -/
theorem stored_append {count : Nat} (h : count ≤ writes.length) :
    stored s lights (writes ++ more) count = stored s lights writes count := by
  rw [stored, stored, List.take_append_of_le_length h]

theorem torn_append (h : m.Within writes.length lights.length) :
    torn s lights (writes ++ more) m = torn s lights writes m := by
  rcases h.2 with hlt | ⟨hover, hreached⟩
  · rw [torn, torn, stored_append hlt, stored_append (Nat.le_of_lt hlt)]
  · rw [torn, torn, hreached, List.take_zero, List.take_zero, stored_append (Nat.le_of_eq hover)]

theorem torn_zero (j : Nat) : torn s lights writes ⟨j, 0⟩ = stored s lights writes j := by
  simp [torn]

/-- A write that has reached all lights is over. -/
theorem torn_length (j : Nat) :
    torn s lights writes ⟨j, lights.length⟩ = stored s lights writes (j + 1) := by
  rw [torn, List.take_of_length_le (by rw [length_stored]),
    List.drop_eq_nil_of_le (by rw [length_stored]), List.append_nil]

theorem length_torn (m : Mark) : (torn s lights writes m).length = lights.length := by
  rw [torn, List.length_append, List.length_take, List.length_drop, length_stored, length_stored]
  omega

/-- Every light at a mark is as the last write left it that has reached it. -/
theorem getElem?_torn (m : Mark) (index : Nat) :
    (torn s lights writes m)[index]? = (stored s lights writes (m.writesAt index))[index]? := by
  rcases Nat.lt_or_ge index lights.length with hlt | hge
  · rw [torn, Mark.writesAt, List.getElem?_append, List.length_take, length_stored]
    split
    · rw [List.getElem?_take_of_lt (by omega), if_pos (by omega)]
    · have hindex : m.reached + (index - min m.reached lights.length) = index := by omega
      rw [List.getElem?_drop, hindex, if_neg (by omega)]
  · rw [List.getElem?_eq_none (by rwa [length_torn]), List.getElem?_eq_none (by rwa [length_stored])]

/-- A write goes on with the first light that it has not reached. -/
theorem torn_set {j i : Nat} {c : Color} {h : Held Float} (hcolors : writes[j]? = some colors)
    (hc : colors[i]? = some c) (hsome : (torn s lights writes ⟨j, i⟩)[i]? = some h) :
    (torn s lights writes ⟨j, i⟩).set i { h with light := (h.light.paint s c).1 } =
      torn s lights writes ⟨j, i + 1⟩ := by
  refine List.ext_getElem? fun index => ?_
  rcases Nat.lt_trichotomy index i with hlt | rfl | hgt
  · rw [List.getElem?_set_ne (by omega), getElem?_torn, getElem?_torn]
    simp only [Mark.writesAt, hlt, Nat.lt_succ_of_lt hlt]
  · have hindex : index < (torn s lights writes ⟨j, index⟩).length :=
      (List.getElem?_eq_some_iff.1 hsome).1
    rw [List.getElem?_set_self hindex, getElem?_torn]
    rw [getElem?_torn] at hsome
    simp only [Mark.writesAt, Nat.lt_irrefl, Nat.lt_succ_self, if_true, if_false] at hsome ⊢
    rw [stored_succ hcolors, painted, List.getElem?_mapIdx, hsome]
    simp only [Option.map_some, hc]
  · rw [List.getElem?_set_ne (by omega), getElem?_torn, getElem?_torn]
    simp only [Mark.writesAt, show ¬index < i by omega, show ¬index < i + 1 by omega]

end

/-! ### One move -/

variable {s : DeviceSettings} {lights : List (Held Float)} {before : List (List Color)} {r : Rig}
  {m : Move} {p : Progress} {mark : Mark}

/-- How far the writes have come that a rig has made since it held some lights. -/
inductive Reaches (s : DeviceSettings) (lights : List (Held Float)) (before : List (List Color))
    (r : Rig) : Mark → Prop
  | between (htask : r.task.isPainting = false)
    (hlights : r.lights = stored s lights before before.length) :
    Reaches s lights before r ⟨before.length, 0⟩
  | during {earlier : List (List Color)} {colors : List Color} {reached : Nat}
    (hbefore : before = earlier ++ [colors]) (hlength : colors.length = lights.length)
    (hreached : reached ≤ colors.length) (htask : r.task = .painting reached (colors.drop reached))
    (hlights : r.lights = torn s lights before ⟨earlier.length, reached⟩) :
    Reaches s lights before r ⟨earlier.length, reached⟩

theorem Reaches.lights_eq (h : Reaches s lights before r mark) :
    r.lights = torn s lights before mark := by
  cases h with
  | between htask hlights => rw [hlights, torn_zero]
  | during hbefore hlength hreached htask hlights => exact hlights

theorem Reaches.within (h : Reaches s lights before r mark) :
    mark.Within before.length lights.length := by
  cases h with
  | between => exact ⟨Nat.zero_le _, Or.inr ⟨rfl, rfl⟩⟩
  | during hbefore hlength hreached =>
    refine ⟨hlength ▸ hreached, Or.inl ?_⟩
    simp [hbefore]

theorem beginning_of_other (hm : m.isWrite = false) : r.beginning m = [] := by
  unfold beginning
  split
  · cases hm
  · rfl

/-- A write begins, or it is refused. -/
theorem reaches_write {colors : List Color}
    (hlights : r.lights = stored s lights before before.length) :
    ∃ next, Mark.NotAfter ⟨before.length, 0⟩ next ∧
      Reaches s lights (before ++ r.beginning (.call (.write colors))) (r.write colors).1 next := by
  have hlength : r.lights.length = lights.length := by rw [hlights, length_stored]
  have hrefused : ∀ e, Reaches s lights (before ++ []) (r.finish (.error e)).1 ⟨before.length, 0⟩ := by
    intro e
    rw [List.append_nil]
    exact .between rfl hlights
  refine ⟨_, .refl _, ?_⟩
  simp only [beginning, write]
  cases hready : r.isReady with
  | false =>
    simp only [Bool.not_false, Bool.false_and, Bool.false_eq_true, if_true, if_false]
    exact hrefused _
  | true =>
    by_cases hcount : r.lights.length ≤ colors.length
    · simp only [Bool.not_true, Bool.false_eq_true, if_false, Nat.not_lt.2 hcount, hcount,
        decide_true, Bool.and_self, if_true]
      refine .during rfl ?_ (Nat.zero_le _) rfl ?_
      · rw [List.length_take, hlength]
        omega
      · rw [torn_zero, stored_append (Nat.le_refl _)]
        exact hlights
    · simp only [Bool.not_true, Bool.false_eq_true, if_false, Nat.not_le.1 hcount, hcount,
        decide_false, Bool.and_false, if_true]
      exact hrefused _

/-- A write goes on. -/
theorem reaches_proceed {earlier : List (List Color)} {colors : List Color} {reached : Nat}
    (hsettings : r.settings = s) (hbefore : before = earlier ++ [colors])
    (hlength : colors.length = lights.length) (hreached : reached ≤ colors.length)
    (htask : r.task = .painting reached (colors.drop reached))
    (hlights : r.lights = torn s lights before ⟨earlier.length, reached⟩)
    (h : r.proceed = some p) :
    ∃ next, Mark.NotAfter ⟨earlier.length, reached⟩ next ∧ Reaches s lights before p.1 next := by
  have hcolors : before[earlier.length]? = some colors := by
    rw [hbefore]
    exact List.getElem?_concat_length
  rw [proceed, htask] at h
  rcases Nat.lt_or_eq_of_le hreached with hlt | rfl
  · have hdrop : colors.drop reached = colors[reached] :: colors.drop (reached + 1) :=
      List.drop_eq_getElem_cons hlt
    rw [hdrop] at h
    cases h
    have hindex : reached < r.lights.length := by
      rw [hlights, length_torn, ← hlength]
      exact hlt
    have hsome : ({ r with task := .painting (reached + 1) (colors.drop (reached + 1)) } : Rig).lights[
      reached]? = some r.lights[reached] := List.getElem?_eq_getElem hindex
    refine ⟨⟨earlier.length, reached + 1⟩, Or.inr ⟨rfl, Nat.le_succ _⟩,
      .during hbefore hlength hlt rfl ((paint_some colors[reached] hsome).1.trans ?_)⟩
    simp only [hsettings, hlights]
    exact torn_set hcolors (List.getElem?_eq_getElem hlt) (List.getElem?_eq_getElem _)
  · rw [List.drop_length] at h
    obtain rfl : r.finish (.ok ()) = p := Option.some_inj.1 h
    have hover : before.length = earlier.length + 1 := by
      rw [hbefore, List.length_append, List.length_singleton]
    refine ⟨⟨before.length, 0⟩, Or.inl (hover ▸ Nat.lt_succ_self _), .between rfl ?_⟩
    rw [hover, ← torn_length, ← hlength]
    exact hlights

theorem reaches_step (hsettings : r.settings = s) (hr : Reaches s lights before r mark)
    (h : r.step m = some p) (htook : ∀ h, .tookOver h ∉ p.2) (hkept : restores p.2 = []) :
    ∃ next, mark.NotAfter next ∧ Reaches s lights (before ++ r.beginning m) p.1 next := by
  have hsame : r.showing m = [] → p.1.lights = r.lights :=
    fun hm => lights_step hm (Or.inr htook) h hkept
  cases hr with
  | between htask hlights =>
    cases hwrite : m.isWrite with
    | true =>
      obtain ⟨colors, rfl⟩ : ∃ colors, m = .call (.write colors) := by
        unfold Move.isWrite at hwrite
        split at hwrite
        · exact ⟨_, rfl⟩
        · cases hwrite
      obtain ⟨-, -, rfl⟩ := step_call h
      exact reaches_write hlights
    | false =>
      refine ⟨_, .refl _, ?_⟩
      rw [beginning_of_other hwrite, List.append_nil]
      exact .between (isPainting_step hwrite htask h) ((hsame (showing_eq_nil htask m)).trans hlights)
  | during hbefore hlength hreached htask hlights =>
    cases m with
    | call operation =>
      rw [(step_call h).1] at htask
      cases htask
    | leave | replied => simp [step, replied, htask] at h
    | proceed =>
      rw [beginning_of_other rfl, List.append_nil]
      exact reaches_proceed hsettings hbefore hlength hreached htask hlights h
    | session | report | bridge =>
      have haside : Aside r p := aside_of_step rfl h
      refine ⟨_, .refl _, ?_⟩
      rw [beginning_of_other rfl, List.append_nil]
      exact .during hbefore hlength hreached (haside.task_eq.trans htask) ((hsame rfl).trans hlights)

/-! ### A whole run -/

theorem writes_append {moves more : List Move} (h : r.run moves = some p) :
    r.writes (moves ++ more) = r.writes moves ++ p.1.writes more := by
  induction moves generalizing r p with
  | nil =>
    cases h
    rfl
  | cons m moves ih =>
    obtain ⟨q, later, hstep, hrun, -⟩ := run_cons.1 h
    have hrest := ih (p := (p.1, later)) hrun
    simp only [List.cons_append, writes, hstep, Option.map_some, Option.getD_some, hrest,
      List.append_assoc]

theorem writes_one (h : r.step m = some p) : r.writes [m] = r.beginning m := by
  simp [writes, h]

/-- Each frame shows the lights at its mark, and no mark is before an earlier one. -/
structure Marked (s : DeviceSettings) (lights : List (Held Float)) (writes : List (List Color))
    (frames : List (List UInt8)) (marked : List (List UInt8 × Mark)) : Prop where
  frames_eq : marked.map Prod.fst = frames
  shows : ∀ x ∈ marked, x.2.Within writes.length lights.length ∧
    ∃ seq, x.1 = Frame.encode seq (Held.snapshot (torn s lights writes x.2))
  ordered : marked.Pairwise fun x y => x.2.NotAfter y.2

theorem Marked.writes_more {frames : List (List UInt8)} {marked : List (List UInt8 × Mark)}
    (h : Marked s lights before frames marked) (more : List (List Color)) :
    Marked s lights (before ++ more) frames marked where
  frames_eq := h.frames_eq
  shows x hx := by
    obtain ⟨hwithin, hshows⟩ := h.shows x hx
    rw [torn_append hwithin, List.length_append]
    exact ⟨hwithin.more, hshows⟩
  ordered := h.ordered

/-- Frames that are sent later show the lights at a later mark. -/
theorem Marked.frames_more {frames new : List (List UInt8)} {marked : List (List UInt8 × Mark)}
    (h : Marked s lights before frames marked) (hlast : ∀ x ∈ marked, x.2.NotAfter mark)
    (hwithin : mark.Within before.length lights.length)
    (hnew : ∀ frame ∈ new, ∃ seq,
      frame = Frame.encode seq (Held.snapshot (torn s lights before mark))) :
    Marked s lights before (frames ++ new) (marked ++ new.map (·, mark)) where
  frames_eq := by simp [h.frames_eq, Function.comp_def]
  shows := List.forall_mem_append.2
    ⟨h.shows, List.forall_mem_map.2 fun frame hframe => ⟨hwithin, hnew frame hframe⟩⟩
  ordered := by
    refine List.pairwise_append.2 ⟨h.ordered,
      List.pairwise_map.2 (List.pairwise_of_forall fun _ _ => .refl mark), fun x hx y hy => ?_⟩
    obtain ⟨frame, -, rfl⟩ := List.mem_map.1 hy
    exact hlast x hx

/-- All that was sent shows the lights at marks that the writes had reached by then. -/
theorem marked_run {moves : List Move} (hidle : r.task.isPainting = false)
    (h : r.run moves = some p) (htook : ∀ h, .tookOver h ∉ p.2) (hkept : restores p.2 = []) :
    ∃ marked mark, Reaches r.settings r.lights (r.writes moves) p.1 mark ∧
      Marked r.settings r.lights (r.writes moves) (frames p.2) marked ∧
      ∀ x ∈ marked, x.2.NotAfter mark := by
  refine run_induction (P := fun moves p => (∀ h, .tookOver h ∉ p.2) → restores p.2 = [] →
    ∃ marked mark, Reaches r.settings r.lights (r.writes moves) p.1 mark ∧
      Marked r.settings r.lights (r.writes moves) (frames p.2) marked ∧
      ∀ x ∈ marked, x.2.NotAfter mark) ?_ ?_ h htook hkept
  · exact fun _ _ => ⟨[], ⟨0, 0⟩, .between hidle rfl, ⟨rfl, by simp, by simp⟩, by simp⟩
  intro moves q m p' hrun hq hstep htook hkept
  obtain ⟨htook, htook'⟩ := untaken_append.1 htook
  rw [restores_append, List.append_eq_nil_iff] at hkept
  obtain ⟨marked, mark, hreaches, hmarked, hlast⟩ := hq htook hkept.1
  have hsettings : q.1.settings = r.settings := (run_does_anything hrun).settings_eq
  have hwrites : r.writes (moves ++ [m]) = r.writes moves ++ q.1.beginning m := by
    rw [writes_append hrun, writes_one hstep]
  obtain ⟨next, hnext, hreaches'⟩ := reaches_step hsettings hreaches hstep htook' hkept.2
  -- The step sends what the lights show before it, so its frames are at the mark from before it.
  have hnew : ∀ frame ∈ frames p'.2, ∃ seq, frame =
      Frame.encode seq (Held.snapshot (torn r.settings r.lights (r.writes moves) mark)) := by
    rw [← hreaches.lights_eq]
    exact frames_step hstep
  rw [hwrites, frames, List.filterMap_append]
  refine ⟨_, next, hreaches',
    (hmarked.frames_more hlast hreaches.within hnew).writes_more _, ?_⟩
  refine List.forall_mem_append.2 ⟨fun x hx => (hlast x hx).trans hnext, ?_⟩
  exact List.forall_mem_map.2 fun _ _ => hnext

/-- Colours are written while a stream shows the lights, and the lights stay the same ones. Every frame
shows some first lights as one write left them and the others as the write before did, and later
frames never go back, neither as a whole nor in what they show of one light. -/
theorem frames_tear_in_order {moves : List Move} (hidle : r.task.isPainting = false)
    (h : r.run moves = some p) (htook : ∀ h, .tookOver h ∉ p.2) (hkept : restores p.2 = []) :
    (p.1.task.isPainting = false →
      p.1.lights = stored r.settings r.lights (r.writes moves) (r.writes moves).length) ∧
    ∃ marked, Marked r.settings r.lights (r.writes moves) (frames p.2) marked ∧
      ∀ index, (marked.map fun x => x.2.writesAt index).Pairwise (· ≤ ·) ∧
        ∀ x ∈ marked, (torn r.settings r.lights (r.writes moves) x.2)[index]? =
          (stored r.settings r.lights (r.writes moves) (x.2.writesAt index))[index]? := by
  obtain ⟨marked, mark, hreaches, hmarked, -⟩ := marked_run hidle h htook hkept
  refine ⟨fun hend => ?_, marked, hmarked, fun index => ⟨?_, fun x _ => getElem?_torn x.2 index⟩⟩
  · cases hreaches with
    | between htask hlights => exact hlights
    | during hbefore hlength hreached htask =>
      rw [htask] at hend
      cases hend
  · exact List.pairwise_map.2 (hmarked.ordered.imp fun hxy => hxy.writesAt_le index)

def Note.isTaking : Note → Bool
  | .tookOver _ => true
  | _ => false

def twoLamps : Inventory :=
  { groups := [(1, { kind := "Entertainment", lights := ["1", "2"] })], lights := [(1, {}), (2, {})] }

theorem step_twoLamps :
    let fresh : Rig := { bridge := groupBridge, settings := { streaming := true }, canStream := true }
    fresh.step (.call (.handle (.inventoryReady twoLamps))) =
      some (fresh.afterStop (.takeOver [1, 2] twoLamps.lights)) := by
  intro fresh
  have hnumbers : ["1", "2"].filterMap GroupEntry.lightId? = [1, 2] := by decide +kernel
  have hsorted : [(1 : UInt16), 2].mergeSort (fun a b => a ≤ b) = [1, 2] := by
    simp [List.mergeSort, List.MergeSort.Internal.splitInTwo]
  have hids : fresh.wantedIds twoLamps.groups = .ok [1, 2] := by
    rw [← hsorted, ← hnumbers]
    rfl
  have hstep : fresh.step (.call (.handle (.inventoryReady twoLamps))) =
      some (fresh.applyInventory twoLamps) := rfl
  rw [hstep, applyInventory, hids]
  rfl

/-- The brightness of each light in a frame. -/
def brightnesses (frame : List UInt8) : List UInt16 :=
  (Frame.records (frame.drop Frame.headerLength)).map (·.brightness)

/-- A device streams over two lamps that are off. While a dark grey is written to them, a frame shows
one that is still off; the next frame shows both alike. -/
theorem frames_tear_in_order_of_two :
    let fresh : Rig := { bridge := groupBridge, settings := { streaming := true }, canStream := true }
    let start := .call (.handle (.inventoryReady twoLamps)) :: connecting.tail ++
      [.session 0 (.connected (.ok ())), .session 0 (.shaken (.ok ()))]
    let grey : Color := ⟨10, 10, 10⟩
    let moves := .call (.write [grey, grey]) :: .proceed :: nextFrame ++ .proceed :: .proceed ::
      nextFrame
    ∃ r notes p, fresh.run start = some (r, notes) ∧ r.task.isPainting = false ∧
      r.run moves = some p ∧ (∀ h, .tookOver h ∉ p.2) ∧ restores p.2 = [] ∧
      (frames p.2).map brightnesses = [[199, 0], [199, 199]] ∧
      ∃ marked, Marked r.settings r.lights (r.writes moves) (frames p.2) marked := by
  intro fresh start grey moves
  have hrun : (((fresh.afterStop (.takeOver [1, 2] twoLamps.lights)).1.run start.tail).any fun r =>
      !r.1.task.isPainting && (r.1.run moves).any fun p => !p.2.any Note.isTaking &&
        (restores p.2).isEmpty && (frames p.2).map brightnesses = [[199, 0], [199, 199]]) = true := by
    decide +kernel
  obtain ⟨⟨r, notes⟩, hrun, hr⟩ := (Option.any_eq_true _ _).1 hrun
  obtain ⟨hidle, hmoves⟩ := Bool.and_eq_true_iff.1 hr
  obtain ⟨p, hmoves, hp⟩ := (Option.any_eq_true _ _).1 hmoves
  obtain ⟨hsame, hshown⟩ := Bool.and_eq_true_iff.1 hp
  obtain ⟨hnone, hkept⟩ := Bool.and_eq_true_iff.1 hsame
  have hidle : r.task.isPainting = false := by simpa using hidle
  have htook : ∀ h, .tookOver h ∉ p.2 := by
    intro h hmem
    simp only [Bool.not_eq_true', List.any_eq_false] at hnone
    exact hnone _ hmem rfl
  have hkept : restores p.2 = [] := List.isEmpty_iff.1 hkept
  obtain ⟨-, marked, hmarked, -⟩ := frames_tear_in_order hidle hmoves htook hkept
  exact ⟨r, _, p, run_cons.2 ⟨_, notes, step_twoLamps, hrun, rfl⟩, hidle, hmoves, htook, hkept,
    of_decide_eq_true hshown, marked, hmarked⟩

end LightBridge.Rig
