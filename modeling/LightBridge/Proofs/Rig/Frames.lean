import LightBridge.Proofs.Light.Streaming
import LightBridge.Proofs.Rig.Order
import LightBridge.Proofs.Rig.Writing

/-! What a stream shows between two writes. As long as no colour is written and no light is given
back, the lights stay as the last write left them, so all frames show the same records. A record is
the one that the colour asks for if the light had a reason to keep a colour since it was taken over.
A light that had none still shows the colour that its entry reported, which nothing has dimmed. -/

namespace LightBridge.Rig

variable {r : Rig} {p : Progress}

/-- The frames that were sent, in order. -/
def frames (notes : List Note) : List (List UInt8) :=
  notes.filterMap fun n => match n with
    | .session _ (.called (.send frame)) => some frame
    | _ => none

/-- Whether a move asks for colours to be shown. -/
def Move.isWrite : Move → Bool
  | .call (.write _) => true
  | _ => false

def Task.isPainting : Task → Bool
  | .painting _ _ => true
  | _ => false

/-! ### Between two writes -/

theorem isPainting_afterStop (next : AfterStop) :
    (r.afterStop next).1.task.isPainting = false := by
  rcases afterStop_task next with htask | ⟨_, htask⟩ | ⟨_, htask⟩ <;> rw [htask] <;> rfl

/-- No colours are shown unless they are written. -/
theorem isPainting_step {m : Move} (hm : m.isWrite = false) (hr : r.task.isPainting = false)
    (h : r.step m = some p) : p.1.task.isPainting = false := by
  cases step_cases h with
  | returned operation result hidle happart htask =>
    rw [htask]
    rfl
  | began => cases hm
  | unheld | resumed => exact isPainting_afterStop _
  | shown index htask | painted index c rest htask =>
    rw [htask] at hr
    cases hr
  | released disabling =>
    cases disabling <;> rfl
  | turned | turnedLast | reported | bridge => exact hr
  | left | leftLast =>
    have htask : ({ r with present := false }.dismiss).task = r.task := dismiss_task _
    simp only [letGo, restore, send, htask, hr]
  | forgot | stopping | reset | claimed => rfl
  | refused => rfl

theorem showing_eq_nil (hr : r.task.isPainting = false) (m : Move) : r.showing m = [] := by
  unfold showing
  split
  · split
    · next htask =>
      rw [htask] at hr
      cases hr
    · rfl
  · rfl

/-- Lights stay as they are until a colour is shown, they are given back or, if there are none, some
are taken over. -/
theorem lights_act {known : Listing (LightEntry Float) → Prop} {lights : List (Held Float)}
    {shown new : List (Nat × Color)} {notes : List Note} (h : Act known r new p)
    (hr : shown ≠ [] ∨ restores notes ≠ [] ∨ (lights = [] ∧ ∃ h, .tookOver h ∈ notes) ∨
      r.lights = lights) :
    shown ++ new ≠ [] ∨ restores (notes ++ p.2) ≠ [] ∨
      (lights = [] ∧ ∃ h, .tookOver h ∈ notes ++ p.2) ∨ p.1.lights = lights := by
  rw [restores_append]
  rcases hr with hshown | hrestores | ⟨hempty, x, hx⟩ | rfl
  · exact Or.inl (List.append_ne_nil_of_left_ne_nil hshown new)
  · exact Or.inr (Or.inl (List.append_ne_nil_of_left_ne_nil hrestores _))
  · exact Or.inr (Or.inr (Or.inl ⟨hempty, x, List.mem_append_left _ hx⟩))
  cases h.lightAct with
  | apart hlights => exact Or.inr (Or.inr (Or.inr hlights))
  | missed | painted => exact Or.inl (by simp)
  | exchanged hknown hnotes =>
    by_cases hempty : r.lights = []
    · rcases took_or_nil hnotes with ⟨x, hx⟩ | hnil
      · exact Or.inr (Or.inr (Or.inl ⟨hempty, x, List.mem_append_right _ hx⟩))
      · exact Or.inr (Or.inr (Or.inr (hnil.trans hempty.symm)))
    · refine Or.inr (Or.inl (List.append_ne_nil_of_right_ne_nil _ ?_))
      rw [hnotes, restores_append, restores, commands_tookOver, restores, commands_commanded,
        Held.filter_restoring]
      simpa using hempty

theorem lights_step {m : Move} (hm : r.showing m = [])
    (hheld : r.lights ≠ [] ∨ ∀ h, .tookOver h ∉ p.2) (h : r.step m = some p)
    (hkept : restores p.2 = []) : p.1.lights = r.lights := by
  have hdoes := (step_does_anything h).keeps
    (P := fun shown notes q => shown ≠ [] ∨ restores notes ≠ [] ∨
      (r.lights = [] ∧ ∃ h, .tookOver h ∈ notes) ∨ q.lights = r.lights)
    lights_act [] [] (Or.inr (Or.inr (Or.inr rfl)))
  rcases hdoes with hshown | hrestores | ⟨hempty, x, hx⟩ | hlights
  · exact absurd hm hshown
  · exact absurd hkept hrestores
  · exact absurd hx (hheld.resolve_left (fun hne => hne hempty) x)
  · exact hlights

/-- A frame that is sent shows the lights as they are then. -/
theorem frames_step {m : Move} (h : r.step m = some p) :
    ∀ frame ∈ frames p.2, ∃ seq, frame = Frame.encode seq r.colors := by
  intro frame hframe
  obtain ⟨n, hn, heq⟩ := List.mem_filterMap.1 hframe
  obtain ⟨k, rfl⟩ : ∃ k, n = .session k (.called (.send frame)) := by
    split at heq
    · cases heq
      exact ⟨_, rfl⟩
    · cases heq
  cases step_sessions h with
  | kept _ hnone | stopped _ _ hnone | launched _ hnone | reported _ _ _ hnone =>
    exact absurd hn (hnone k _)
  | turned hs ht hstreams hevents =>
    obtain ⟨hframe, -⟩ := Session.due_of_turn ht (hevents k _ hn).2
    exact ⟨_, hframe⟩

theorem frames_run {moves : List Move} (hmoves : ∀ m ∈ moves, m.isWrite = false)
    (hr : r.task.isPainting = false) (hheld : r.lights ≠ []) (h : r.run moves = some p)
    (hkept : restores p.2 = []) :
    ∀ frame ∈ frames p.2, ∃ seq, frame = Frame.encode seq r.colors := by
  induction moves generalizing r p with
  | nil =>
    cases h
    simp [frames]
  | cons m moves ih =>
    obtain ⟨q, more, hstep, hrun, hnotes⟩ := run_cons.1 h
    obtain ⟨hm, hrest⟩ := List.forall_mem_cons.1 hmoves
    rw [hnotes, restores_append, List.append_eq_nil_iff] at hkept
    -- The first move leaves the lights alone, so what is sent later shows them as they are now.
    have hlights : q.1.lights = r.lights := lights_step (showing_eq_nil hr m) (Or.inl hheld) hstep hkept.1
    have hlater := ih (p := (p.1, more)) hrest (isPainting_step hm hr hstep)
      (by rwa [hlights]) hrun hkept.2
    have hcolors : q.1.colors = r.colors := congrArg Held.snapshot hlights
    rw [hcolors] at hlater
    rw [hnotes, frames, List.filterMap_append]
    exact List.forall_mem_append.2 ⟨frames_step hstep, hlater⟩

/-! ### After a write -/

/-- A light that was taken over is held, and is as the colours shown since have made it. -/
def Keeps (s : DeviceSettings) (index : Nat) (taken : Light Float) (shown : List (Nat × Color))
    (r : Rig) : Prop :=
  ∃ h, r.lights[index]? = some h ∧ Streamed s taken (colorsAt index shown) h.light

theorem Keeps.act {known : Listing (LightEntry Float) → Prop} {s : DeviceSettings} {index : Nat}
    {taken : Light Float} {shown new : List (Nat × Color)} (hstreaming : s.streaming = true)
    (hsettings : r.settings = s) (hr : Keeps s index taken shown r) (h : LightAct known r new p) :
    (∃ h, .tookOver h ∈ p.2) ∨ p.1.lights = [] ∨ Keeps s index taken (shown ++ new) p.1 := by
  obtain ⟨x, hx, hstreamed⟩ := hr
  cases h with
  | apart hlights =>
    refine Or.inr (Or.inr ⟨x, by rwa [hlights], ?_⟩)
    rwa [List.append_nil]
  | missed i c hnone hlights =>
    have hne : i ≠ index := by
      rintro rfl
      rw [hx] at hnone
      cases hnone
    refine Or.inr (Or.inr ⟨x, by rwa [hlights], ?_⟩)
    rwa [colorsAt_append, colorsAt_one, if_neg hne, List.append_nil]
  | painted i c hsome hlights =>
    refine Or.inr (Or.inr ?_)
    rw [Keeps, colorsAt_append, colorsAt_one, hlights, hsettings]
    by_cases hi : i = index
    · subst hi
      obtain rfl : x = _ := Option.some_inj.1 (hx.symm.trans hsome)
      have hlt : i < r.lights.length := (List.getElem?_eq_some_iff.1 hx).1
      rw [if_pos rfl]
      exact ⟨_, List.getElem?_set_self hlt, hstreamed.paint hstreaming c⟩
    · rw [if_neg hi, List.append_nil]
      exact ⟨x, by rwa [List.getElem?_set_ne hi], hstreamed⟩
  | exchanged hknown hnotes => exact (took_or_nil hnotes).imp_right Or.inl

/-- The record that a frame shows of a light. -/
def recordOf (h : Held Float) : LightRecord := Frame.recordOf h.light.id h.light.color

/-- When a write has returned without an error, all frames until the next one show the same records,
as long as no light is given back. The record of a light is the one that its colour asks for exactly
if a colour since the light had been taken over for the last time differs from what its entry
reported, or if that is shown alike. If one differs the record is no brighter than allowed; if none
does it is still the one of the light as it was taken over. -/
theorem frames_show_iff {fresh r : Rig} {moves showing after : List Move} {notes : List Note}
    {colors : List Color} {p q : Progress} (hfresh : Fresh fresh)
    (hstreaming : fresh.settings.streaming = true) (hrun : fresh.run moves = some (r, notes))
    (hshowing : ∀ m ∈ showing, m.isOwners = false)
    (hwrite : r.run (.call (.write colors) :: showing) = some p)
    (hreturned : .returned (.ok ()) ∈ p.2) (hafter : ∀ m ∈ after, m.isWrite = false)
    (hlater : p.1.run after = some q) (hkept : restores q.2 = []) :
    ∃ (t : Taking fresh moves (r, notes)) (records : List LightRecord),
      t.rig.lightIds = r.lightIds ∧ records.length = r.lights.length ∧
      (∀ frame ∈ frames q.2,
        ∃ seq, frame = Frame.header seq ++ records.flatMap LightRecord.bytes) ∧
      ∀ index h, t.rig.lights[index]? = some h →
        (∃ inventory entry, Move.call (.handle (.inventoryReady inventory)) ∈ t.before ∧
          inventory.lights.lookup h.light.id = some entry ∧
          h.light = Light.ofEntry h.light.id entry) ∧
        ∃ c record, colors[index]? = some c ∧ records[index]? = some record ∧
          let cs := colorsAt index (t.rig.shown t.since) ++ [c]
          let wanted := Frame.recordOf h.light.id (h.light.aimed fresh.settings c)
          (record = wanted ↔ Recolored h.light cs ∨ recordOf h = wanted) ∧
            (Recolored h.light cs → ∃ b, record.brightness = Frame.scale b ∧
              Scalar.lt fresh.settings.dimming.ceiling b = false) ∧
            (¬Recolored h.light cs → record = recordOf h) := by
  obtain ⟨hheld, -, -, -, hlength, -⟩ := write_run hshowing hwrite hreturned
  obtain ⟨t⟩ := taking_of_held (by rw [hfresh.eq]) hrun hheld
  have hwritten := t.written hshowing hwrite hreturned
  have hsettings : t.rig.settings = fresh.settings := (run_does_anything t.run_before).settings_eq
  refine ⟨t, p.1.lights.map recordOf, hwritten.lightIds_eq, by rw [List.length_map, hlength], ?_,
    fun index h hsome => ⟨t.described (by rw [hfresh.eq]) hsome, ?_⟩⟩
  · intro frame hframe
    have hidle : p.1.task.isPainting = false := by
      rw [hwritten.idle]
      rfl
    obtain ⟨seq, rfl⟩ := frames_run hafter hidle hwritten.held hlater hkept frame hframe
    exact ⟨seq, by rw [Frame.encode_eq, Rig.colors, Held.snapshot, List.map_map]; rfl⟩
  obtain ⟨c, hc, hcolors⟩ := hwritten.colorsAt_eq hsome
  -- From where it was taken over to the end of the write the light is followed by its index.
  have hbegin : Keeps fresh.settings index h.light [] t.rig := ⟨h, hsome, streamed_nil⟩
  obtain ⟨x, hx, hstreamed⟩ := tracked_run (p := (p.1, t.later ++ p.2))
    (P := fun shown _ r => Keeps fresh.settings index h.light shown r)
    (fun hact hsettings hr => hr.act hstreaming hsettings hact.lightAct) hsettings hbegin
    hwritten.run_since hwritten.last hwritten.held
  rw [hcolors] at hstreamed
  refine ⟨c, recordOf x, hc, by rw [List.getElem?_map, hx]; rfl, ?_, fun hrecolored => ?_,
    fun hnot => ?_⟩
  · rw [recordOf, hstreamed.id_eq]
    exact hstreamed.shows_iff (by simp) h.light.id
  · exact ⟨_, rfl, hstreamed.not_above hrecolored⟩
  · rw [recordOf, hstreamed.id_eq, (hstreamed.color_kept hnot).2, recordOf]

/-- A device starts to stream over the light with an entry. -/
def firstFrame (entry : LightEntry Float) : List Move :=
  .call (.handle (.inventoryReady { groupInventory with lights := [(1, entry)] })) ::
    connecting.tail ++ [.session 0 (.connected (.ok ())), .session 0 (.shaken (.ok ()))]

def nextFrame : List Move := [.session 0 (.sent .accepted), .session 0 .rested]

/-- Black is written to a lamp that shines, with a least brightness. -/
theorem frames_show_iff_of_shining :
    let settings : DeviceSettings := { streaming := true, brightnessMin := 0.5 }
    let fresh : Rig := { bridge := groupBridge, settings, canStream := true }
    ∃ r notes p q, fresh.run (firstFrame (lampEntry true)) = some (r, notes) ∧
      r.run [.call (.write [.black]), .proceed, .proceed] = some p ∧ .returned (.ok ()) ∈ p.2 ∧
      p.1.run nextFrame = some q ∧ restores q.2 = [] ∧ (frames q.2).length = 1 ∧
      ∃ (t : Taking fresh (firstFrame (lampEntry true)) (r, notes)) (records : List LightRecord),
        (∀ frame ∈ frames q.2,
          ∃ seq, frame = Frame.header seq ++ records.flatMap LightRecord.bytes) ∧
        ∀ index h, t.rig.lights[index]? = some h →
          ∃ c record, [Color.black][index]? = some c ∧ records[index]? = some record ∧
            let cs := colorsAt index (t.rig.shown t.since) ++ [c]
            let wanted := Frame.recordOf h.light.id (h.light.aimed settings c)
            record = wanted ↔ Recolored h.light cs ∨ recordOf h = wanted := by
  intro settings fresh
  have hfresh : Fresh fresh := .withTransport groupBridge settings
  have hwrite : ((fresh.run (firstFrame (lampEntry true))).any fun r =>
      (r.1.run [.call (.write [.black]), .proceed, .proceed]).any fun p =>
        p.2.any Note.isSuccess && (p.1.run nextFrame).any fun q =>
          (restores q.2).isEmpty && (frames q.2).length = 1) = true := by decide +kernel
  obtain ⟨⟨r, notes⟩, hrun, hwrite⟩ := (Option.any_eq_true _ _).1 hwrite
  obtain ⟨p, hwrite, hp⟩ := (Option.any_eq_true _ _).1 hwrite
  obtain ⟨hreturned, hlater⟩ := Bool.and_eq_true_iff.1 hp
  obtain ⟨q, hlater, hq⟩ := (Option.any_eq_true _ _).1 hlater
  obtain ⟨hkept, hcount⟩ := Bool.and_eq_true_iff.1 hq
  have hreturned : .returned (.ok ()) ∈ p.2 := returned_of_any hreturned
  have hkept : restores q.2 = [] := List.isEmpty_iff.1 hkept
  obtain ⟨t, records, -, -, hframes, hall⟩ := frames_show_iff hfresh rfl hrun
    (by simp [Move.isOwners]) hwrite hreturned (by simp [nextFrame, Move.isWrite]) hlater hkept
  refine ⟨r, notes, p, q, hrun, hwrite, hreturned, hlater, hkept, of_decide_eq_true hcount, t,
    records, hframes, fun index h hsome => ?_⟩
  obtain ⟨-, c, record, hc, hrecord, hiff, -⟩ := hall index h hsome
  exact ⟨c, record, hc, hrecord, hiff⟩

/-- A lamp that is off is taken over as if black had been asked for already. So when black is
written, the stream does not lift it to the least brightness. -/
theorem black_is_not_lifted :
    let settings : DeviceSettings := { streaming := true, brightnessMin := 0.5 }
    let light : Light Float := .ofEntry 1 (lampEntry false)
    ∃ fresh r notes p q frame, forBridge groupBridge settings = .ok fresh ∧
      fresh.run (firstFrame (lampEntry false)) = some (r, notes) ∧
      r.run [.call (.write [.black]), .proceed, .proceed] = some p ∧ .returned (.ok ()) ∈ p.2 ∧
      p.1.run nextFrame = some q ∧ restores q.2 = [] ∧ frame ∈ frames q.2 ∧
      ∀ seq, frame ≠ Frame.header seq ++ (Frame.recordOf 1 (light.aimed settings .black)).bytes := by
  intro settings light
  let fresh : Rig := { bridge := groupBridge, settings, canStream := true }
  have hwrite : ((fresh.run (firstFrame (lampEntry false))).any fun r =>
      (r.1.run [.call (.write [.black]), .proceed, .proceed]).any fun p =>
        p.2.any Note.isSuccess && (p.1.run nextFrame).any fun q =>
          (restores q.2).isEmpty && (frames q.2).any fun frame => frame.drop 23 = [0, 0]) = true := by
    decide +kernel
  obtain ⟨⟨r, notes⟩, hrun, hwrite⟩ := (Option.any_eq_true _ _).1 hwrite
  obtain ⟨p, hwrite, hp⟩ := (Option.any_eq_true _ _).1 hwrite
  obtain ⟨hreturned, hlater⟩ := Bool.and_eq_true_iff.1 hp
  obtain ⟨q, hlater, hq⟩ := (Option.any_eq_true _ _).1 hlater
  obtain ⟨hkept, hframe⟩ := Bool.and_eq_true_iff.1 hq
  obtain ⟨frame, hframe, hdark⟩ := List.any_eq_true.1 hframe
  refine ⟨fresh, r, notes, p, q, frame, rfl, hrun, hwrite, returned_of_any hreturned, hlater,
    List.isEmpty_iff.1 hkept, hframe, fun seq heq => ?_⟩
  have hwanted : Frame.recordOf 1 (light.aimed settings .black) = ⟨1, 0, 0, 32768⟩ := by
    decide +kernel
  have hlifted : frame.drop 23 = [128, 0] := by
    rw [heq, hwanted]
    rfl
  rw [of_decide_eq_true hdark] at hlifted
  cases hlifted

end LightBridge.Rig
