import LightBridge.Proofs.Light.Painting
import LightBridge.Proofs.Rig.Doing

/-! What becomes of the lights of a rig, and what can be seen of that in its notes: the lights that
were taken over and the commands that were sent. -/

namespace LightBridge.Rig

/-- The commands sent to the lamp with an id, in order. -/
def commandsTo (id : UInt16) (notes : List Note) : List (LightCommand Float) :=
  notes.filterMap fun n => match n with
    | .commanded c => if c.id = id then some c.command else none
    | _ => none

/-- The lights taken over with an id, in order. -/
def takenOver (id : UInt16) (notes : List Note) : List (Light Float) :=
  notes.filterMap fun n => match n with
    | .tookOver h => if h.light.id = id then some h.light else none
    | _ => none

/-- The lights with an id among those held. -/
def withId (id : UInt16) (lights : List (Held Float)) : List (Light Float) :=
  (lights.map (·.light)).filter (·.id = id)

section

variable {id : UInt16} {notes more : List Note}

@[simp] theorem commandsTo_append :
    commandsTo id (notes ++ more) = commandsTo id notes ++ commandsTo id more :=
  List.filterMap_append

@[simp] theorem takenOver_append :
    takenOver id (notes ++ more) = takenOver id notes ++ takenOver id more :=
  List.filterMap_append

theorem commandsTo_of_quiet (h : ∀ n ∈ notes, n.isQuiet) : commandsTo id notes = [] := by
  refine List.filterMap_eq_nil_iff.2 fun n hn => ?_
  have hquiet := h n hn
  cases n <;> simp_all [Note.isQuiet]

theorem takenOver_of_quiet (h : ∀ n ∈ notes, n.isQuiet) : takenOver id notes = [] := by
  refine List.filterMap_eq_nil_iff.2 fun n hn => ?_
  have hquiet := h n hn
  cases n <;> simp_all [Note.isQuiet]

@[simp] theorem commandsTo_tookOver (lights : List (Held Float)) :
    commandsTo id (lights.map .tookOver) = [] := by
  simp [commandsTo]

@[simp] theorem takenOver_commanded (commands : List (Sent Float)) :
    takenOver id (commands.map .commanded) = [] := by
  simp [takenOver]

@[simp] theorem takenOver_tookOver (lights : List (Held Float)) :
    takenOver id (lights.map .tookOver) = withId id lights := by
  induction lights with
  | nil => rfl
  | cons h lights ih =>
    simp only [takenOver, withId, List.map_cons, List.filterMap_cons, List.filter_cons] at ih ⊢
    by_cases hid : h.light.id = id <;> simp [hid, ih]

@[simp] theorem commandsTo_restoring (lights : List (Held Float)) :
    commandsTo id ((lights.map Held.restoring).map .commanded) =
      (withId id lights).map Light.restoring := by
  induction lights with
  | nil => rfl
  | cons h lights ih =>
    simp only [commandsTo, withId, List.map_cons, List.filterMap_cons, List.filter_cons] at ih ⊢
    rw [ih]
    by_cases hid : h.light.id = id <;> simp [Held.restoring, hid]

/-- Commands of one light go to one lamp. -/
theorem commandsTo_sent (number : Nat) (lamp : UInt16) (commands : List (LightCommand Float)) :
    commandsTo id ((commands.map (Sent.mk number lamp)).map .commanded) =
      if lamp = id then commands else [] := by
  split
  · next h => simp [commandsTo, h, Function.comp_def]
  · next h => simp [commandsTo, h]

end

/-! ### One thing -/

/-- What one thing that a rig does comes to for its lights. -/
inductive LightAct (known : Listing (LightEntry Float) → Prop) (r : Rig) :
    List (Nat × Color) → Progress → Prop
  | apart {p : Progress} (hlights : p.1.lights = r.lights) (hnotes : ∀ n ∈ p.2, n.isQuiet) :
    LightAct known r [] p
  | missed (index : Nat) (color : Color) {p : Progress} (hnone : r.lights[index]? = none)
    (hlights : p.1.lights = r.lights) (hnotes : p.2 = []) : LightAct known r [(index, color)] p
  | painted (index : Nat) (color : Color) {h : Held Float} {p : Progress}
    (hsome : r.lights[index]? = some h)
    (hlights : p.1.lights =
      r.lights.set index { h with light := (h.light.paint r.settings color).1 })
    (hnotes : p.2 = ((h.light.paint r.settings color).2.map
      (Sent.mk h.number h.light.id)).map .commanded) :
    LightAct known r [(index, color)] p
  | exchanged {p : Progress}
    (hknown : ∀ h ∈ p.1.lights, ∃ id entries entry, known entries ∧
      entries.lookup id = some entry ∧ h.light = Light.ofEntry id entry)
    (hnotes : p.2 = p.1.lights.map .tookOver ++ (r.lights.map Held.restoring).map .commanded) :
    LightAct known r [] p

theorem paint_none {r : Rig} {index : Nat} (color : Color) (h : r.lights[index]? = none) :
    (r.paint index color).1.lights = r.lights ∧ (r.paint index color).2 = [] := by
  simp [paint, Held.changeAt, h, send]

theorem paint_some {r : Rig} {index : Nat} {h : Held Float} (color : Color)
    (hsome : r.lights[index]? = some h) :
    (r.paint index color).1.lights =
        r.lights.set index { h with light := (h.light.paint r.settings color).1 } ∧
      (r.paint index color).2 = ((h.light.paint r.settings color).2.map
        (Sent.mk h.number h.light.id)).map .commanded := by
  have hid := Light.paint_id r.settings color h.light
  simp [paint, Held.changeAt, Held.change, hsome, send, hid]

theorem mem_numbered {first : Nat} {lights : List (Light Float)} {h : Held Float}
    (hmem : h ∈ Held.numbered first lights) : h.light ∈ lights := by
  obtain ⟨i, hi, rfl⟩ := List.mem_mapIdx.1 hmem
  exact List.getElem_mem hi

theorem mem_lightsFor {ids : List UInt16} {entries : Listing (LightEntry Float)} {l : Light Float}
    (h : l ∈ lightsFor ids entries) :
    ∃ id entry, entries.lookup id = some entry ∧ l = Light.ofEntry id entry := by
  obtain ⟨id, -, hid⟩ := List.mem_filterMap.1 h
  obtain ⟨entry, hentry, rfl⟩ := Option.map_eq_some_iff.1 hid
  exact ⟨id, entry, hentry, rfl⟩

theorem Act.lightAct {known : Listing (LightEntry Float) → Prop} {r : Rig} {p : Progress}
    {shown : List (Nat × Color)} (h : Act known r shown p) : LightAct known r shown p := by
  cases h with
  | quiet _ hnotes => exact .apart rfl hnotes
  | painted index color =>
    cases hlight : r.lights[index]? with
    | none => exact .missed index color hlight (paint_none color hlight).1 (paint_none color hlight).2
    | some h =>
      exact .painted index color hlight (paint_some color hlight).1 (paint_some color hlight).2
  | tookOver hknown =>
    refine .exchanged (fun h hmem => ?_) rfl
    obtain ⟨id, entry, hentry, heq⟩ := mem_lightsFor (mem_numbered hmem)
    exact ⟨id, _, entry, hknown, hentry, heq⟩
  | letGo => exact .exchanged (fun h hmem => absurd hmem List.not_mem_nil) rfl
  | stopped | forgot | launched => exact .apart rfl (by simp)
  | turned => exact .apart rfl (by simp [Note.isQuiet])
  | reported => exact .apart rfl (by simp [Note.isQuiet])

/-! ### Where lights come from -/

/-- The lights of an inventory that a device was handed. -/
def Handed (moves : List Move) (entries : Listing (LightEntry Float)) : Prop :=
  ∃ inventory, .call (.handle (.inventoryReady inventory)) ∈ moves ∧ inventory.lights = entries

theorem brings_handed {moves : List Move} {m : Move} (h : m ∈ moves) : Brings (Handed moves) m := by
  unfold Brings
  split
  · exact ⟨_, h, rfl⟩
  · trivial

/-- A light as an entry under an id describes it. -/
def Described (known : Listing (LightEntry Float) → Prop) (id : UInt16) (l : Light Float) : Prop :=
  ∃ entries entry, known entries ∧ entries.lookup id = some entry ∧ l = Light.ofEntry id entry

theorem takenOver_act {known : Listing (LightEntry Float) → Prop} {id : UInt16} {r : Rig}
    {p : Progress} {shown : List (Nat × Color)} {notes : List Note} (h : Act known r shown p)
    (hnotes : ∀ l ∈ takenOver id notes, Described known id l) :
    ∀ l ∈ takenOver id (notes ++ p.2), Described known id l := by
  intro l hl
  rw [takenOver_append] at hl
  rcases List.mem_append.1 hl with hl | hl
  · exact hnotes l hl
  · cases h.lightAct with
    | apart hlights hquiet => simp [takenOver_of_quiet hquiet] at hl
    | missed index color hnone hlights hnew => simp [hnew, takenOver] at hl
    | painted index color hsome hlights hnew => simp [hnew, -List.map_map] at hl
    | exchanged hknown hnew =>
      rw [hnew, takenOver_append, takenOver_tookOver, takenOver_commanded, List.append_nil] at hl
      obtain ⟨hmem, hid⟩ := List.mem_filter.1 hl
      obtain ⟨x, hx, rfl⟩ := List.mem_map.1 hmem
      obtain ⟨id', entries, entry, hentries, hentry, heq⟩ := hknown x hx
      obtain rfl : id' = id := by simpa [heq, Light.ofEntry] using hid
      exact ⟨entries, entry, hentries, hentry, heq⟩

theorem takenOver_run {fresh : Rig} {moves : List Move} {p : Progress}
    (hidle : fresh.task = .idle) (hrun : fresh.run moves = some p) {id : UInt16} {l : Light Float}
    (hl : l ∈ takenOver id p.2) :
    ∃ inventory entry, Move.call (.handle (.inventoryReady inventory)) ∈ moves ∧
      inventory.lights.lookup id = some entry ∧ l = Light.ofEntry id entry := by
  have hdoes : Does (Handed moves) fresh _ p :=
    run_does (by rw [hidle]; trivial) (fun m hm => brings_handed hm) hrun
  obtain ⟨entries, entry, ⟨inventory, hmem, rfl⟩, hentry, heq⟩ :=
    hdoes.keeps (P := fun _ notes _ => ∀ l ∈ takenOver id notes, Described (Handed moves) id l)
      takenOver_act [] [] (by simp [takenOver]) l hl
  exact ⟨inventory, entry, hmem, hentry, heq⟩

/-! ### What goes on beside the device -/

namespace Move

/-- Whether a move is one of the owner. -/
def isOwners : Move → Bool
  | .call _ | .leave => true
  | _ => false

/-- Whether a move is one of a session or of the connection. -/
def isAside : Move → Bool
  | .session _ _ | .report _ | .bridge _ => true
  | _ => false

/-- Whether a move is one of the connection alone. -/
def isBridge : Move → Bool
  | .bridge _ => true
  | _ => false

end Move

/-- A note that tells neither of a light taken over nor of the end of an operation. -/
def Note.isAside : Note → Bool
  | .bridge _ | .commanded _ | .session _ _ => true
  | .tookOver _ | .returned _ => false

/-- What a step beside the device leaves as it is. -/
structure Aside (r : Rig) (p : Progress) : Prop where
  task_eq : p.1.task = r.task
  present_eq : p.1.present = r.present
  lights : p.1.lights = r.lights ∨ p.1.lights = [] ∧ r.present = false
  notes : ∀ n ∈ p.2, n.isAside

theorem Aside.lights_eq {r : Rig} {p : Progress} (h : Aside r p) (hpresent : r.present = true) :
    p.1.lights = r.lights := by
  rcases h.lights with h | ⟨-, h⟩
  · exact h
  · rw [hpresent] at h
    cases h

theorem aside_of_step {r : Rig} {m : Move} {p : Progress} (hm : m.isAside)
    (h : r.step m = some p) : Aside r p := by
  cases m with
  | call | proceed | replied | leave => cases hm
  | session k t =>
    simp only [step, sessionTurn, Option.bind_eq_bind, Option.bind_eq_some_iff, Option.pure_def,
      Option.some.injEq] at h
    obtain ⟨s, -, q, -, rfl⟩ := h
    split
    · next hlast =>
      obtain ⟨hended, -⟩ := Bool.and_eq_true_iff.1 hlast
      have hpresent : r.present = false := by simpa using (Bool.and_eq_true_iff.1 hended).2
      refine ⟨rfl, rfl, Or.inr ⟨rfl, hpresent⟩, List.forall_mem_append.2 ⟨?_, ?_⟩⟩
      · exact List.forall_mem_map.2 fun _ _ => rfl
      · exact List.forall_mem_map.2 fun _ _ => rfl
    · exact ⟨rfl, rfl, Or.inl rfl, by simp [Note.isAside]⟩
  | report k =>
    simp only [step, report, Option.bind_eq_bind, Option.bind_eq_some_iff] at h
    obtain ⟨s, -, outcome, -, h⟩ := h
    split at h
    · cases h
    · cases h
      exact ⟨rfl, rfl, Or.inl rfl, by simp [Note.isAside]⟩
  | bridge m =>
    obtain ⟨q, -, rfl⟩ := Option.map_eq_some_iff.1 h
    exact ⟨rfl, rfl, Or.inl rfl, by simp [ofBridge, Note.isAside]⟩

end LightBridge.Rig
