import LightBridge.Proofs.Rig.Histories
import LightBridge.Proofs.Rig.Restoring

/-! The end of a session that is handled late. Events do not say which session they tell of, so the
device looks at the session that it holds on to: while that one has shown no end, the event must be
about an earlier one and changes nothing. Once it has shown its end, any such event lets go of it,
and those that are still to come find nothing left. -/

namespace LightBridge.Rig

variable {r : Rig} {p : Progress}

/-- Whether a move handles the end of a session. -/
def Move.handlesEnd : Move → Bool
  | .call (.handle (.streamStopped _)) => true
  | _ => false

/-- Whether the device goes by what the session that it holds on to has shown. -/
theorem isStreaming_eq {notes : List Note} {k : Nat} (hr : Orderly r) (hrecorded : Recorded notes r)
    (hstream : r.stream = some k) :
    r.isStreaming = !Session.showsEnd (eventsOf k notes) := by
  have hlength : k + 1 = r.streams.length := hr.latest k hstream
  have hs : r.streams[k]? = some r.streams[k] := List.getElem?_eq_getElem (by omega)
  rw [isStreaming, streamState?, hstream, Option.bind_some, hs, Option.map_some, Option.any_some,
    hrecorded.isTerminal_eq hs]

/-! ### A device that let go of its session -/

/-- The device holds on to no session and takes no colours. -/
structure Dropped (r : Rig) : Prop where
  unheld : r.stream = none
  unready : r.ready = false

theorem Dropped.isReady_eq (h : Dropped r) : r.isReady = false := by
  rw [isReady, h.unready, Bool.false_and, Bool.false_and]

theorem dropped_streamStopped (h : r.isStreaming = false) : Dropped r.streamStopped.1 := by
  rw [streamStopped, h]
  exact ⟨rfl, rfl⟩

/-- Neither the sessions nor more ends of sessions bring anything back. -/
theorem dropped_step {m : Move} (hm : m.isAside = true ∨ m.handlesEnd = true) (hr : Dropped r)
    (h : r.step m = some p) : Dropped p.1 := by
  cases m with
  | call operation =>
    obtain ⟨told, rfl⟩ : ∃ told, operation = .handle (.streamStopped told) := by
      rcases hm with hm | hm
      · cases hm
      · unfold Move.handlesEnd at hm
        split at hm
        · next heq => exact ⟨_, Move.call.inj heq⟩
        · cases hm
    obtain ⟨-, -, rfl⟩ := step_call h
    apply dropped_streamStopped
    rw [isStreaming, streamState?, hr.unheld]
    rfl
  | session k t =>
    cases step_cases h with
    | turned => exact ⟨hr.unheld, hr.unready⟩
    | turnedLast => exact ⟨hr.unheld, hr.unready⟩
  | report k =>
    cases step_cases h with
    | reported => exact ⟨hr.unheld, hr.unready⟩
  | bridge m =>
    cases step_cases h with
    | bridge => exact ⟨hr.unheld, hr.unready⟩
  | proceed | replied | leave => rcases hm with hm | hm <;> cases hm

theorem dropped_run {moves : List Move}
    (hmoves : ∀ m ∈ moves, m.isAside = true ∨ m.handlesEnd = true) (hr : Dropped r)
    (h : r.run moves = some p) : Dropped p.1 := by
  induction moves generalizing r p with
  | nil =>
    cases h
    exact hr
  | cons m moves ih =>
    obtain ⟨q, more, hstep, hrun, -⟩ := run_cons.1 h
    obtain ⟨hm, hrest⟩ := List.forall_mem_cons.1 hmoves
    exact ih (p := (p.1, more)) hrest (dropped_step hm hr hstep) hrun

/-! ### The end of a session, handled at any time -/

/-- What comes of the end of a session for a device that holds on to one. The event may be as old as
it likes. -/
structure Handled (k : Nat) (notes : List Note) (r : Rig) (told : Outcome) (r' : Rig) : Prop where
  done : r.step (.call (.handle (.streamStopped told))) = some (r', [.returned (.ok ())])
  /-- Nothing at all changes while the session goes on. -/
  spared : Session.showsEnd (eventsOf k notes) = false → r' = r
  /-- Otherwise the device lets go of it, and more ends leave it at that, those of the session
  itself included. -/
  dropped : Session.showsEnd (eventsOf k notes) = true → r'.isHeldBySession = false ∧
    ∀ later p, (∀ m ∈ later, m.isAside = true ∨ m.handlesEnd = true) → r'.run later = some p →
      p.1.stream = none ∧ p.1.ready = false ∧ p.1.isReady = false

theorem late_end_spares_newer {fresh : Rig} {moves : List Move} {notes : List Note} {k : Nat}
    (hfresh : Fresh fresh) (hrun : fresh.run moves = some (r, notes)) (hidle : r.task = .idle)
    (hpresent : r.present = true) (hstream : r.stream = some k) (told : Outcome) :
    ∃ r', Handled k notes r told r' := by
  have hr : Orderly r := orderly_run hfresh hrun
  have hstreaming : r.isStreaming = !Session.showsEnd (eventsOf k notes) :=
    isStreaming_eq hr (recorded_run hfresh hrun) hstream
  have hstep : r.step (.call (.handle (.streamStopped told))) = some r.streamStopped := by
    simp only [step, hidle, hpresent, call, handleEvent]
  refine ⟨r.streamStopped.1, ?done, ?spared, ?dropped⟩
  case done =>
    rw [hstep, streamStopped]
    split <;> rfl
  case spared =>
    intro hgoing
    rw [hgoing] at hstreaming
    rw [streamStopped, hstreaming]
    have hsame : { r with task := .idle } = r := by rw [← hidle]
    exact hsame
  case dropped =>
    intro hend
    rw [hend] at hstreaming
    refine ⟨?_, fun later p hlater hp => ?_⟩
    · have hnone : r.isHeldBySession = false := hr.none_streaming hidle hstreaming
      rwa [isHeldBySession, streamStopped_streams]
    · have hdropped := dropped_run hlater (dropped_streamStopped hstreaming) hp
      exact ⟨hdropped.unheld, hdropped.unready, hdropped.isReady_eq⟩

/-- The first session finds nobody. Its end is handled when the second one opens its socket. -/
theorem late_end_spares_newer_while_connecting :
    let unconnected : Outcome := .connectFailed (Fault.unreachable "open").message
    let moves := connecting ++ [.session 0 (.connected (.error (.unreachable "open"))), .report 0,
      .call .startStreaming, .proceed, .replied (.answered 200 ""), .replied (.answered 200 ""),
      .session 1 .begin]
    ∃ fresh r r' notes, Fresh fresh ∧ fresh.run moves = some (r, notes) ∧ r.task = .idle ∧
      r.present = true ∧ r.stream = some 1 ∧
      r.streams.map (fun s => (s.session.phase, s.reported)) =
        [(.ended unconnected, true), (.connecting, false)] ∧
      Session.showsEnd (eventsOf 1 notes) = false ∧ Handled 1 notes r unconnected r' ∧ r' = r := by
  intro unconnected moves
  let fresh : Rig :=
    { bridge := groupBridge, settings := { streaming := true }, canStream := true }
  have hfresh : Fresh fresh := .withTransport groupBridge { streaming := true }
  have hrun : ((fresh.run moves).any fun p => p.1.task.isIdle && p.1.present &&
      p.1.stream == some 1 && !Session.showsEnd (eventsOf 1 p.2) &&
      p.1.streams.map (fun s => (s.session.phase, s.reported)) ==
        [(.ended unconnected, true), (.connecting, false)]) = true := by decide +kernel
  obtain ⟨⟨r, notes⟩, hrun, hp⟩ := (Option.any_eq_true _ _).1 hrun
  simp only [Bool.and_eq_true, beq_iff_eq, Bool.not_eq_true'] at hp
  obtain ⟨⟨⟨⟨hidle, hpresent⟩, hstream⟩, hgoing⟩, hstreams⟩ := hp
  obtain ⟨r', h⟩ :=
    late_end_spares_newer hfresh hrun (Task.eq_idle hidle) hpresent hstream unconnected
  exact ⟨fresh, r, r', notes, hfresh, hrun, Task.eq_idle hidle, hpresent, hstream, hstreams, hgoing,
    h, h.spared hgoing⟩

end LightBridge.Rig
