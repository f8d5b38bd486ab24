import LightBridge.Proofs.Rig.Stepping

/-! A device that is handed an inventory. When it returns, either it left its lights alone or it took
others over and gave all the old ones back, in order, whatever it had to wait for in between. -/

namespace LightBridge.Rig

variable {r : Rig} {p : Progress}

theorem quiet_finishStart (applying : Bool) (result : Except Fault Unit) :
    ∀ n ∈ (r.finishStart applying result).2, n.isQuiet := by
  cases result <;> simp [finishStart, finish, Note.isQuiet]

theorem quiet_askStreaming (active : Bool) (task : Task) :
    ∀ n ∈ (r.askStreaming active task).2, n.isQuiet := by
  simp [askStreaming, Note.isQuiet]

theorem quiet_recorded (active : Bool) (reply : Reply) {next : Rig → Progress}
    (h : ∀ n ∈ (next (r.recordStreaming active reply).1).2, n.isQuiet) :
    ∀ n ∈ (andThen (r.recordStreaming active reply) next).2, n.isQuiet :=
  List.forall_mem_append.2 ⟨by simp [recordStreaming, Note.isQuiet], h⟩

/-- No light was taken over or given back. -/
def Untouched (notes : List Note) : Prop := takings notes = [] ∧ restores notes = []

/-- The lights `held` before were all given back, in order, and those held now were taken over. -/
def Exchanged (held : List (Held Float)) (notes : List Note) (r : Rig) : Prop :=
  takings notes = r.lights ∧ restores notes = held.map Held.restoring

/-- Where a device is with an inventory that it was handed. -/
def Applying (held : List (Held Float)) (notes : List Note) (r : Rig) : Prop :=
  match r.task with
  | .idle => Untouched notes ∨ Exchanged held notes r
  | .stopping _ (.takeOver _ _) => Untouched notes
  | .resetting true | .claiming true => Exchanged held notes r
  | _ => False

section

variable {held : List (Held Float)} {notes new : List Note}

theorem Untouched.append (h : Untouched notes) (hnew : Untouched new) :
    Untouched (notes ++ new) := by
  rw [Untouched, takings_append, restores_append, h.1, h.2, hnew.1, hnew.2]
  exact ⟨rfl, rfl⟩

theorem Exchanged.append {r' : Rig} (h : Exchanged held notes r) (hnew : Untouched new)
    (hlights : r'.lights = r.lights) : Exchanged held (notes ++ new) r' := by
  rw [Exchanged, takings_append, restores_append, h.1, h.2, hnew.1, hnew.2, hlights,
    List.append_nil, List.append_nil]
  exact ⟨rfl, rfl⟩

theorem untouched_of_quiet (h : ∀ n ∈ notes, n.isQuiet) : Untouched notes :=
  ⟨takings_of_quiet h, restores_of_quiet h⟩

/-- What goes on beside a device that is there leaves its lights alone. -/
theorem untouched_of_aside {m : Move} (haside : m.isAside) (hpresent : r.present = true)
    (h : r.step m = some p) : Untouched p.2 := by
  have hconserved := conserved_step (conserved_nothing r) h
  have hside := aside_of_step haside h
  have htakings : takings p.2 = [] := by
    refine List.filterMap_eq_nil_iff.2 fun n hn => ?_
    have hn := hside.notes n hn
    cases n <;> simp_all [Note.isAside]
  rw [List.nil_append] at hconserved
  refine ⟨htakings, ?_⟩
  rw [Conserved, htakings, hside.lights_eq hpresent, List.map_nil, List.append_nil] at hconserved
  exact List.self_eq_append_left.1 hconserved

theorem afterStop_takeOver (ids : List UInt16) (entries : Listing (LightEntry Float)) (r : Rig) :
    Exchanged r.lights (r.afterStop (.takeOver ids entries)).2 (r.afterStop (.takeOver ids entries)).1 ∧
      ((r.afterStop (.takeOver ids entries)).1.task = .idle ∨
        (r.afterStop (.takeOver ids entries)).1.task = .resetting true) := by
  have htook : Exchanged r.lights (r.takeOver ids entries).2 (r.takeOver ids entries).1 := by
    refine ⟨takings_takeOver ids entries, ?_⟩
    rw [takeOver, andThen, restore, send, restores_append, restores, commands_tookOver, restores,
      commands_commanded, Held.filter_restoring]
    rfl
  simp only [afterStop, andThen]
  split
  · exact ⟨htook.append (untouched_of_quiet (quiet_finishStart _ _)) rfl, Or.inl rfl⟩
  · split
    · exact ⟨htook.append (untouched_of_quiet (quiet_finishStart _ _)) rfl, Or.inl rfl⟩
    · split
      · exact ⟨htook.append (untouched_of_quiet (quiet_finishStart _ _)) rfl, Or.inl rfl⟩
      · exact ⟨htook.append (untouched_of_quiet (quiet_askStreaming _ _)) rfl, Or.inr rfl⟩

theorem applying_afterStop (ids : List UInt16) (entries : Listing (LightEntry Float)) (r : Rig) :
    Applying r.lights (r.afterStop (.takeOver ids entries)).2
      (r.afterStop (.takeOver ids entries)).1 := by
  obtain ⟨hexchanged, htask | htask⟩ := afterStop_takeOver ids entries r
  · rw [Applying, htask]
    exact Or.inr hexchanged
  · rw [Applying, htask]
    exact hexchanged

theorem applying_applyInventory (inventory : Inventory) (r : Rig) :
    Applying r.lights (r.applyInventory inventory).2 (r.applyInventory inventory).1 := by
  unfold applyInventory
  split
  · exact Or.inl (untouched_of_quiet (by simp [finish, Note.isQuiet]))
  · split
    · exact Or.inl (untouched_of_quiet (quiet_finishStart _ _))
    · unfold stopThen
      split
      · exact applying_afterStop _ _ r
      · exact untouched_of_quiet (by simp)

theorem Applying.aside {m : Move} (hr : Applying held notes r) (haside : m.isAside)
    (hpresent : r.present = true) (h : r.step m = some p) : Applying held (notes ++ p.2) p.1 := by
  have hside := aside_of_step haside h
  have huntouched := untouched_of_aside haside hpresent h
  have hlights := hside.lights_eq hpresent
  unfold Applying at hr ⊢
  rw [hside.task_eq]
  split at hr
  · exact hr.imp (·.append huntouched) (·.append huntouched hlights)
  · exact hr.append huntouched
  · exact hr.append huntouched hlights
  · exact hr.append huntouched hlights
  · exact hr

/-- What the lights held at first are is known as long as none was touched. -/
theorem Untouched.restoring_eq (h : Untouched notes) (hconserved : Conserved held notes r) :
    r.lights.map Held.restoring = held.map Held.restoring := by
  rw [Conserved, h.1, h.2, List.map_nil, List.append_nil, List.nil_append] at hconserved
  exact hconserved.symm

/-- What comes after a wait in which no light was touched. -/
theorem Applying.after {r' : Rig} (hr : Untouched notes)
    (hsame : r.lights.map Held.restoring = held.map Held.restoring)
    (h : Applying r.lights new r') : Applying held (notes ++ new) r' := by
  have hexchanged : Exchanged r.lights new r' → Exchanged held (notes ++ new) r' := by
    intro hnew
    rw [Exchanged, takings_append, restores_append, hr.1, hr.2, hnew.1, hnew.2, hsame]
    exact ⟨rfl, rfl⟩
  unfold Applying at h ⊢
  split at h
  · exact h.imp hr.append hexchanged
  · exact hr.append h
  · exact hexchanged h
  · exact hexchanged h
  · exact h

theorem applying_step {m : Move} (hm : m.isOwners = false) (hpresent : r.present = true)
    (hconserved : Conserved held notes r) (hr : Applying held notes r) (h : r.step m = some p) :
    Applying held (notes ++ p.2) p.1 := by
  cases m with
  | call | leave => cases hm
  | session | report | bridge => exact hr.aside rfl hpresent h
  | proceed =>
    cases step_cases h with
    | shown index htask | painted index c rest htask =>
      rw [Applying, htask] at hr
      exact hr.elim
    | @resumed k next s htask =>
      rw [Applying, htask] at hr
      cases next with
      | takeOver ids entries =>
        exact Applying.after hr (hr.restoring_eq hconserved) (applying_afterStop ids entries r)
      | restart | handBack => exact hr.elim
  | replied reply =>
    cases step_cases h with
    | reset applying reply htask =>
      rw [Applying, htask] at hr
      cases applying with
      | true =>
        exact hr.append (untouched_of_quiet (quiet_recorded _ _ (quiet_askStreaming _ _))) rfl
      | false => exact hr.elim
    | claimed applying reply htask | refused applying reply e htask =>
      rw [Applying, htask] at hr
      cases applying with
      | true =>
        refine Or.inr (hr.append (untouched_of_quiet ?_) rfl)
        exact quiet_recorded _ _ (quiet_finishStart _ _)
      | false => exact hr.elim
    | released disabling reply htask =>
      rw [Applying, htask] at hr
      exact hr.elim

theorem applying_run {moves : List Move} (hmoves : ∀ m ∈ moves, m.isOwners = false)
    (hpresent : r.present = true) (hconserved : Conserved held notes r)
    (hr : Applying held notes r) (h : r.run moves = some p) :
    Applying held (notes ++ p.2) p.1 := by
  refine (run_keeps (P := fun notes r => r.present = true ∧ Conserved held notes r ∧
    Applying held notes r) ?_ hmoves notes ⟨hpresent, hconserved, hr⟩ h).2.2
  rintro r m p notes hm ⟨hpresent, hconserved, hr⟩ hstep
  exact ⟨present_of_step hm hpresent hstep, conserved_step hconserved hstep,
    applying_step hm hpresent hconserved hr hstep⟩

/-- When a device that was handed an inventory returns, it has touched no light or it has given back
all that it held. -/
theorem applied_inventory {inventory : Inventory} {during : List Move}
    (hduring : ∀ m ∈ during, m.isOwners = false)
    (h : r.run (.call (.handle (.inventoryReady inventory)) :: during) = some p)
    (hidle : p.1.task = .idle) : Untouched p.2 ∨ Exchanged r.lights p.2 p.1 := by
  obtain ⟨q, more, hstep, hrun, hnotes⟩ := run_cons.1 h
  have hpresent := present_of_call hstep
  obtain ⟨-, -, rfl⟩ := step_call hstep
  have hconserved := conserved_step (conserved_nothing r) hstep
  have hp := applying_run hduring hpresent hconserved
    (applying_applyInventory inventory r) hrun
  rw [Applying, hidle] at hp
  rwa [hnotes]

end

end LightBridge.Rig
