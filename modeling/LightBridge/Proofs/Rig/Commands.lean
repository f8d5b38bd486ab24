import LightBridge.Proofs.Light.GivingBack
import LightBridge.Proofs.Rig.Lights

/-! What the lights of a rig send, each told apart by its number. A light that was taken over is held
or was given back, never both, so that the lights given back, followed by those held, are the lights
taken over, in the same order. -/

namespace LightBridge

theorem Light.isRestore_paint (s : DeviceSettings) (c : Color) (l : Light Float) :
    ∀ x ∈ (l.paint s c).2, x.isRestore = false := by
  intro x hx
  cases h : s.streaming with
  | true => simp [paint_streaming h] at hx
  | false =>
    simp only [paint_eq h, List.mem_append] at hx
    rcases hx with (hx | hx) | hx <;> split at hx <;> simp_all [LightCommand.isRestore]

namespace Rig

/-- The commands that lights sent, in order. -/
def commands (notes : List Note) : List (Sent Float) :=
  notes.filterMap fun n => match n with
    | .commanded c => some c
    | _ => none

/-- The commands that gave lights back, in order. -/
def restores (notes : List Note) : List (Sent Float) :=
  (commands notes).filter (·.command.isRestore)

/-- The lights taken over, in order. -/
def takings (notes : List Note) : List (Held Float) :=
  notes.filterMap fun n => match n with
    | .tookOver h => some h
    | _ => none

section

variable {notes more : List Note}

@[simp] theorem commands_append : commands (notes ++ more) = commands notes ++ commands more :=
  List.filterMap_append

@[simp] theorem restores_append : restores (notes ++ more) = restores notes ++ restores more := by
  simp [restores]

@[simp] theorem takings_append : takings (notes ++ more) = takings notes ++ takings more :=
  List.filterMap_append

theorem commands_of_quiet (h : ∀ n ∈ notes, n.isQuiet) : commands notes = [] := by
  refine List.filterMap_eq_nil_iff.2 fun n hn => ?_
  have hquiet := h n hn
  cases n <;> simp_all [Note.isQuiet]

theorem takings_of_quiet (h : ∀ n ∈ notes, n.isQuiet) : takings notes = [] := by
  refine List.filterMap_eq_nil_iff.2 fun n hn => ?_
  have hquiet := h n hn
  cases n <;> simp_all [Note.isQuiet]

theorem restores_of_quiet {notes : List Note} (h : ∀ n ∈ notes, n.isQuiet) : restores notes = [] := by
  rw [restores, commands_of_quiet h, List.filter_nil]

@[simp] theorem commands_commanded (cs : List (Sent Float)) : commands (cs.map .commanded) = cs := by
  rw [commands, List.filterMap_map]
  exact List.filterMap_some

@[simp] theorem commands_tookOver (lights : List (Held Float)) :
    commands (lights.map .tookOver) = [] := by
  simp [commands]

@[simp] theorem takings_commanded (cs : List (Sent Float)) : takings (cs.map .commanded) = [] := by
  simp [takings]

@[simp] theorem takings_tookOver (lights : List (Held Float)) :
    takings (lights.map .tookOver) = lights := by
  rw [takings, List.filterMap_map]
  exact List.filterMap_some

theorem restores_painted (s : DeviceSettings) (c : Color) (h : Held Float) :
    restores (((h.light.paint s c).2.map (Sent.mk h.number h.light.id)).map .commanded) = [] := by
  rw [restores, commands_commanded]
  refine List.filter_eq_nil_iff.2 (List.forall_mem_map.2 fun x hx => ?_)
  simp [Light.isRestore_paint s c h.light x hx]

end

/-! ### Nothing is lost -/

/-- A change of a light that leaves alone how it is given back. -/
theorem restoring_set {lights : List (Held Float)} {index : Nat} {h x : Held Float}
    (hsome : lights[index]? = some h) (heq : x.restoring = h.restoring) :
    (lights.set index x).map Held.restoring = lights.map Held.restoring := by
  obtain ⟨hlt, rfl⟩ := List.getElem?_eq_some_iff.1 hsome
  rw [List.map_set, heq, ← List.getElem_map (f := Held.restoring) (h := by simpa using hlt),
    List.set_getElem_self]

variable {known : Listing (LightEntry Float) → Prop} {r : Rig} {p : Progress}
  {new : List (Nat × Color)} {notes : List Note}

/-- The lights `held` at first and those taken over since, in order, are those given back since and
those that are held now. -/
def Conserved (held : List (Held Float)) (notes : List Note) (r : Rig) : Prop :=
  held.map Held.restoring ++ (takings notes).map Held.restoring =
    restores notes ++ r.lights.map Held.restoring

theorem conserved_act {held : List (Held Float)} (h : Act known r new p)
    (hr : Conserved held notes r) : Conserved held (notes ++ p.2) p.1 := by
  unfold Conserved at hr ⊢
  rw [takings_append, restores_append, List.map_append, ← List.append_assoc, hr]
  cases h.lightAct with
  | apart hlights hnotes =>
    simp [hlights, takings_of_quiet hnotes, restores, commands_of_quiet hnotes]
  | missed index color hnone hlights hnotes =>
    simp [hlights, hnotes, takings, restores, commands]
  | @painted index color h p hsome hlights hnotes =>
    have hrestoring : (p.1.lights).map Held.restoring = r.lights.map Held.restoring := by
      rw [hlights]
      refine restoring_set hsome ?_
      simp [Held.restoring, Light.restoring, Light.paint_id, Light.paint_found]
    rw [hrestoring, hnotes, restores_painted, takings_commanded]
    simp
  | exchanged hknown hnotes =>
    have hrestores : restores p.2 = r.lights.map Held.restoring := by
      rw [hnotes, restores_append, restores, commands_tookOver, restores, commands_commanded,
        Held.filter_restoring]
      rfl
    rw [hrestores, hnotes, takings_append, takings_tookOver, takings_commanded, List.append_nil,
      List.append_assoc]

theorem conserved_nothing (r : Rig) : Conserved r.lights [] r := by
  simp [Conserved, takings, restores, commands]

theorem conserved_step {held : List (Held Float)} {m : Move} (hr : Conserved held notes r)
    (h : r.step m = some p) : Conserved held (notes ++ p.2) p.1 :=
  (step_does_anything h).keeps (P := fun _ notes q => Conserved held notes q) conserved_act []
    notes hr

/-! ### Every light by itself -/

/-- What has become of the lights of a device that had none at first. -/
structure Accounted (notes : List Note) (r : Rig) : Prop where
  /-- Each light has a number of its own. -/
  numbered : (takings notes).map (·.number) = List.range r.taken
  /-- The lights taken over are those given back and those held, in order. -/
  conserved : (takings notes).map Held.restoring = restores notes ++ r.lights.map Held.restoring
  /-- A light that was given back sends nothing more. -/
  restored_last :
    (commands notes).Pairwise fun c later => c.command.isRestore → later.number ≠ c.number

theorem takings_takeOver (ids : List UInt16) (entries : Listing (LightEntry Float)) :
    takings (r.takeOver ids entries).2 = Held.numbered r.taken (lightsFor ids entries) := by
  simp only [takeOver, andThen, restore, send, takings_append, takings_tookOver, takings_commanded,
    List.append_nil]

theorem numbered_act (h : Act known r new p)
    (hr : (takings notes).map (·.number) = List.range r.taken) :
    (takings (notes ++ p.2)).map (·.number) = List.range p.1.taken := by
  rw [takings_append, List.map_append, hr]
  cases h with
  | @tookOver ids entries =>
    have hsplit := @List.range'_append_1 0 r.taken (lightsFor ids entries).length
    rw [Nat.zero_add] at hsplit
    rw [takings_takeOver, Held.numbers_numbered, List.range_eq_range', hsplit,
      ← List.range_eq_range']
    simp [takeOver, andThen, restore, send, Held.numbered]
  | painted | letGo =>
    simp only [paint, letGo, restore, send, takings_commanded, List.map_nil, List.append_nil]
  | quiet _ hnotes => simp [takings_of_quiet hnotes]
  | turned | reported | stopped | forgot | launched =>
    simp [takings, stopSession, launch]

/-- The numbers of the lights given back and of those held are all different. -/
theorem Accounted.nodup (h : Accounted notes r) :
    ((restores notes).map (·.number) ++ r.lights.map (·.number)).Nodup := by
  have hnumbers : (restores notes).map (·.number) ++ r.lights.map (·.number) =
      List.range r.taken := by
    have hmap := congrArg (List.map (·.number)) h.conserved
    rw [List.map_append, List.map_map, List.map_map] at hmap
    rw [← h.numbered]
    exact hmap.symm
  rw [hnumbers]
  exact List.nodup_range

theorem restored_last_act (h : Act known r new p) (hr : Accounted notes r) :
    (commands (notes ++ p.2)).Pairwise
      fun c later => c.command.isRestore → later.number ≠ c.number := by
  obtain ⟨-, hheld, hapart⟩ := List.nodup_append.1 hr.nodup
  have hlater : ∀ c ∈ commands notes, c.command.isRestore → ∀ x ∈ r.lights,
      x.number ≠ c.number := by
    intro c hc hrestore x hx heq
    have hrestores : c ∈ restores notes := List.mem_filter.2 ⟨hc, hrestore⟩
    exact hapart _ (List.mem_map_of_mem hrestores) _ (List.mem_map_of_mem hx) heq.symm
  rw [commands_append, List.pairwise_append]
  cases h.lightAct with
  | apart hlights hnotes => simp [commands_of_quiet hnotes, hr.restored_last]
  | missed index color hnone hlights hnotes =>
    rw [hnotes]
    exact ⟨hr.restored_last, List.Pairwise.nil, fun _ _ _ h => absurd h List.not_mem_nil⟩
  | @painted index color x p hsome hlights hnotes =>
    rw [hnotes, commands_commanded]
    refine ⟨hr.restored_last, ?_, ?_⟩
    · refine List.pairwise_map.2 (List.Pairwise.imp_of_mem ?_ (List.pairwise_of_forall fun _ _ => trivial))
      intro a b ha _ _ hrestore
      rw [Light.isRestore_paint _ _ _ a ha] at hrestore
      cases hrestore
    · intro c hc later hlater' hrestore
      obtain ⟨a, -, rfl⟩ := List.mem_map.1 hlater'
      exact hlater c hc hrestore x (List.mem_of_getElem? hsome)
  | exchanged hknown hnotes =>
    rw [hnotes, commands_append, commands_tookOver, List.nil_append, commands_commanded]
    refine ⟨hr.restored_last, ?_, ?_⟩
    · refine List.pairwise_map.2 ((List.pairwise_map.1 hheld).imp ?_)
      exact fun hne _ => hne.symm
    · intro c hc later hlater' hrestore
      obtain ⟨x, hx, rfl⟩ := List.mem_map.1 hlater'
      exact hlater c hc hrestore x hx

theorem accounted_act (h : Act known r new p) (hr : Accounted notes r) :
    Accounted (notes ++ p.2) p.1 where
  numbered := numbered_act h hr.numbered
  conserved := by
    have hconserved : Conserved [] notes r := by simpa [Conserved] using hr.conserved
    simpa [Conserved] using conserved_act h hconserved
  restored_last := restored_last_act h hr

end Rig

end LightBridge
