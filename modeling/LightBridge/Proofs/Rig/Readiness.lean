import LightBridge.Proofs.Rig.Doing
import LightBridge.Proofs.Session.Turning

/-! What a device makes of the end of its session. It looks at the phase that the session shows. That
tells an end from a session that goes on, except where the session broke down: such a one is taken
for alive, and the device may go on to be ready. -/

namespace LightBridge.Rig

/-- What holds of the sessions of a rig: the label of each one tells its phase, and the one that the
device holds on to is the latest. -/
structure Sound (r : Rig) : Prop where
  labelled : ∀ s ∈ r.streams, s.session.Labelled
  latest : ∀ k, r.stream = some k → k + 1 = r.streams.length

theorem mem_set_of_labelled {streams : List Stream} {s : Stream} (k : Nat)
    (hall : ∀ s ∈ streams, s.session.Labelled) (hs : s.session.Labelled) :
    ∀ x ∈ streams.set k s, x.session.Labelled := by
  intro x hx
  rcases List.mem_or_eq_of_mem_set hx with hx | rfl
  · exact hall x hx
  · exact hs

variable {known : Listing (LightEntry Float) → Prop}

theorem sound_act {r : Rig} {p : Progress} {shown : List (Nat × Color)} (h : Act known r shown p)
    (hr : Sound r) : Sound p.1 := by
  cases h with
  | quiet | painted | tookOver | letGo => exact ⟨hr.labelled, hr.latest⟩
  | stopped k =>
    refine ⟨?_, fun j hj => by simpa [stopSession] using hr.latest j hj⟩
    intro s hs
    obtain ⟨j, hj⟩ := List.mem_iff_getElem?.1 hs
    simp only [stopSession, List.getElem?_modify] at hj
    obtain ⟨x, hx, rfl⟩ := Option.map_eq_some_iff.1 hj
    have hlabelled := hr.labelled x (List.mem_of_getElem? hx)
    split
    · exact Session.labelled_stop hlabelled
    · exact hlabelled
  | forgot => exact ⟨hr.labelled, fun k hk => by cases hk⟩
  | launched =>
    refine ⟨?_, fun k hk => ?_⟩
    · intro s hs
      rcases List.mem_append.1 hs with hs | hs
      · exact hr.labelled s hs
      · rw [List.mem_singleton.1 hs]
        exact Session.labelled_toHost _ _
    · cases hk
      simp [launch]
  | turned hs ht =>
    refine ⟨mem_set_of_labelled _ hr.labelled ?_, fun j hj => by simpa using hr.latest j hj⟩
    exact Session.labelled_turn (hr.labelled _ (List.mem_of_getElem? hs)) ht
  | reported hs =>
    refine ⟨mem_set_of_labelled _ hr.labelled ?_, fun j hj => by simpa using hr.latest j hj⟩
    have hlabelled := hr.labelled _ (List.mem_of_getElem? hs)
    exact hlabelled

theorem sound_run {fresh : Rig} {moves : List Move} {p : Progress} (hfresh : Fresh fresh)
    (hrun : fresh.run moves = some p) : Sound p.1 := by
  refine (run_does_anything hrun).keeps_rig sound_act ?_
  rw [hfresh.eq]
  exact ⟨by simp, by simp⟩

/-- A device that let go of its session has none until it starts one. -/
def ForgotAt (count : Nat) (r : Rig) : Prop :=
  count ≤ r.streams.length ∧ (r.streams.length = count → r.stream = none)

theorem forgotAt_act {count : Nat} {r : Rig} {p : Progress} {shown : List (Nat × Color)}
    (h : Act known r shown p) (hr : ForgotAt count r) : ForgotAt count p.1 := by
  cases h with
  | quiet | painted | tookOver | letGo => exact hr
  | stopped => simpa [ForgotAt, stopSession] using hr
  | forgot => exact ⟨hr.1, fun _ => rfl⟩
  | launched =>
    have hlength : count < r.launch.streams.length := by
      simpa [launch] using Nat.lt_succ_of_le hr.1
    exact ⟨Nat.le_of_lt hlength, fun h => absurd h (Nat.ne_of_gt hlength)⟩
  | turned | reported => simpa [ForgotAt] using hr

/-- Nothing is shown of a session, and colours are refused without touching a light. -/
structure Silent (r : Rig) : Prop where
  state : r.streamState? = none
  not_ready : r.isReady = false
  refused : ∀ colors, r.write colors = r.finish (.error .notReady)

theorem silent_of_forgot {r : Rig} (hstreaming : r.settings.streaming) (h : r.stream = none) :
    Silent r := by
  have hstate : r.streamState? = none := by simp [streamState?, h]
  have hready : r.isReady = false := by simp [isReady, isStreaming, hstate, hstreaming]
  exact ⟨hstate, hready, fun colors => by simp [write, hready]⟩

theorem getElem?_of_held {r : Rig} {s : Stream} {k : Nat} (hr : Sound r)
    (hlast : r.streams.getLast? = some s) (hstream : r.stream = some k) :
    r.streams[k]? = some s := by
  rw [← hlast, List.getLast?_eq_getElem?, ← hr.latest k hstream, Nat.add_sub_cancel]

/-- What becomes of the session that a device holds on to when its end is handled. -/
theorem streamStopped_stream {r : Rig} {s : Stream} {outcome : Outcome} (hr : Sound r)
    (hlast : r.streams.getLast? = some s) (hended : s.session.phase = .ended outcome) :
    r.streamStopped.1.stream = if outcome.isAborted then r.stream else none := by
  have hterminal : s.session.state.isTerminal = !outcome.isAborted := by
    rw [Session.isTerminal_eq (hr.labelled s (List.mem_of_getLast? hlast)), hended]
    rfl
  cases hstream : r.stream with
  | none =>
    have hstate : r.isStreaming = false := by simp [isStreaming, streamState?, hstream]
    simp [streamStopped, hstate, finish]
  | some k =>
    have hstreaming : r.isStreaming = outcome.isAborted := by
      simp [isStreaming, streamState?, hstream, getElem?_of_held hr hlast hstream, hterminal]
    rw [streamStopped, hstreaming]
    split
    · simp [finish, hstream]
    · rfl

theorem streamStopped_streams (r : Rig) : r.streamStopped.1.streams = r.streams := by
  unfold streamStopped
  split <;> rfl

/-- When the end of the latest session has been handled, the device is silent until it starts another
one, unless it still held on to that session and the session had broken down. -/
theorem silent_after_end_iff {fresh r r' : Rig} {moves : List Move} {notes new : List Note}
    {s : Stream} {outcome told : Outcome} (hfresh : Fresh fresh)
    (hstreaming : fresh.settings.streaming) (hrun : fresh.run moves = some (r, notes))
    (hlast : r.streams.getLast? = some s) (hended : s.session.phase = .ended outcome)
    (hstep : r.step (.call (.handle (.streamStopped told))) = some (r', new)) :
    (∀ later p, r'.run later = some p → p.1.streams.length = r'.streams.length → Silent p.1) ↔
      r.stream = none ∨ outcome.isAborted = false := by
  have hsound : Sound r := sound_run hfresh hrun
  have hafter : r' = r.streamStopped.1 := by
    simp only [step] at hstep
    split at hstep
    · exact congrArg Prod.fst (Option.some_inj.1 hstep).symm
    · cases hstep
  have hsettings : r'.settings.streaming := by
    have hstep := (step_does_anything hstep).settings_eq
    have hrun := (run_does_anything hrun).settings_eq
    dsimp only at hstep hrun
    rw [hstep, hrun]
    exact hstreaming
  have hstream := streamStopped_stream hsound hlast hended
  rw [← hafter] at hstream
  constructor
  · intro hsilent
    cases haborted : outcome.isAborted with
    | false => exact Or.inr rfl
    | true =>
      rw [haborted, if_pos rfl] at hstream
      have hstate := (hsilent [] (r', []) rfl rfl).state
      rw [streamState?, hstream, hafter, streamStopped_streams] at hstate
      cases hheld : r.stream with
      | none => exact Or.inl rfl
      | some k => simp [hheld, getElem?_of_held hsound hlast hheld] at hstate
  · intro hcause later p hlater hcount
    have hforgot : r'.stream = none := by
      rw [hstream]
      rcases hcause with h | h
      · rw [h, ite_self]
      · rw [h]
        rfl
    have hkept : ForgotAt r'.streams.length p.1 :=
      (run_does_anything hlater).keeps_rig forgotAt_act ⟨Nat.le_refl _, fun _ => hforgot⟩
    refine silent_of_forgot ?_ (hkept.2 hcount)
    rw [(run_does_anything hlater).settings_eq]
    exact hsettings

/-- A group of one light. -/
def groupInventory : Inventory :=
  { groups := [(1, { kind := "Entertainment", lights := ["1"] })], lights := [(1, {})] }

/-- A session is started over the lights of an inventory, and opens its socket. -/
def connecting : List Move :=
  [.call (.handle (.inventoryReady groupInventory)), .replied (.answered 200 ""),
    .replied (.answered 200 ""), .session 0 .begin]

/-- A session that found nobody leaves a silent device. -/
theorem silent_after_refused_connection :
    let moves := connecting ++ [.session 0 (.connected (.error (.unreachable "open"))), .report 0]
    ∃ fresh r r' notes new s, Fresh fresh ∧ fresh.settings.streaming = true ∧
      fresh.run moves = some (r, notes) ∧ r.streams.getLast? = some s ∧
      s.session.phase = .ended (.connectFailed (Fault.unreachable "open").message) ∧
      r.step (.call (.handle (.streamStopped .stopped))) = some (r', new) ∧ Silent r' := by
  intro moves
  let fresh : Rig :=
    { bridge := groupBridge, settings := { streaming := true }, canStream := true }
  have hfresh : Fresh fresh := .withTransport groupBridge { streaming := true }
  have hlast : ((fresh.run moves).bind fun p => p.1.streams.getLast?).map (·.session.phase) =
      some (.ended (.connectFailed (Fault.unreachable "open").message)) := by decide +kernel
  have hstep : ((fresh.run moves).bind fun p =>
      p.1.step (.call (.handle (.streamStopped .stopped)))).isSome := by decide +kernel
  obtain ⟨s, hs, hended⟩ := Option.map_eq_some_iff.1 hlast
  obtain ⟨⟨r, notes⟩, hrun, hs⟩ := Option.bind_eq_some_iff.1 hs
  rw [hrun, Option.bind_some] at hstep
  obtain ⟨⟨r', new⟩, hstep⟩ := Option.isSome_iff_exists.1 hstep
  have hsilent := (silent_after_end_iff hfresh rfl hrun hs hended hstep).2 (Or.inr rfl)
  exact ⟨fresh, r, r', notes, new, s, hfresh, rfl, hrun, hs, hended, hstep, hsilent [] (r', []) rfl rfl⟩

/-- A session whose first handshake breaks down is still shown to shake hands when its end has been
handled, and the device takes colours for it. -/
theorem ready_after_breakdown :
    ∃ fresh, forBridge groupBridge { streaming := true } = .ok fresh ∧
      ((fresh.run (connecting ++ [.session 0 (.connected (.ok ())),
        .session 0 (.died "no memory"), .report 0,
        .call (.handle (.streamStopped (.aborted "no memory")))])).map fun p =>
          (p.1.streams.map (·.session.phase), p.1.streamState?, p.1.isReady)) =
        some ([.ended (.aborted "no memory")], some .handshaking, true) :=
  ⟨_, rfl, by decide +kernel⟩

end LightBridge.Rig
