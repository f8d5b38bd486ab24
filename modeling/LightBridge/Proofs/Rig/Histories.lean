import LightBridge.Proofs.Rig.Order
import LightBridge.Proofs.Session.LifeCycle

/-! What a device's sessions have been through. Whatever the device does meanwhile, each session goes
its own way: what is noted of it is a run of that session alone, from the moment it was started. So
all that holds of sessions holds of those that a device has started. In particular the end of a
session has been seen exactly if its label says so. -/

namespace LightBridge

namespace Session

variable {s : Session} {p : Progress}

/-- Whether an end is shown. -/
def showsEnd (events : List SessionEvent) : Bool := (labels events).any SessionState.isTerminal

theorem showsEnd_append (a b : List SessionEvent) :
    showsEnd (a ++ b) = (showsEnd a || showsEnd b) := by
  simp only [showsEnd, labels, List.filterMap_append, List.any_append]

/-- A turn shows an end exactly if the session comes to one that is shown. -/
theorem isTerminal_turn {colors : List (UInt16 × Point Float)} {t : Turn}
    (hstate : s.state.isTerminal = false) (h : s.turn colors t = some p) :
    p.1.state.isTerminal = showsEnd p.2 := by
  cases turn_cases h with
  | begin => rfl
  | connected | rested =>
    simp only [enter, tryHandshake]
    split
    · rfl
    · first | rfl | exact hstate
  | shaken | paused =>
    simp only [enter, sendFrame]
    split
    · rfl
    · first | rfl | exact hstate
  | unconnected | unshaken | notified => simp [finish, enter, showsEnd, labels]
  | retried | accepted | late => exact hstate
  | tooLate | closedByPeer | broken => rfl
  | died =>
    simp only [abort, hstate]
    split <;> split <;> rfl

/-- What a session has shown tells whether its label is that of an end. -/
theorem isTerminal_run {moves : List Move} (hs : Labelled s) (hstate : s.state.isTerminal = false)
    (h : s.run moves = some p) : p.1.state.isTerminal = showsEnd p.2 := by
  induction moves generalizing s p with
  | nil =>
    cases h
    exact hstate
  | cons m moves ih =>
    obtain ⟨q, more, hstep, hrun, hevents⟩ := run_cons.1 h
    rw [hevents, showsEnd_append]
    cases m with
    | stop =>
      obtain rfl : (s.stop, []) = q := by simpa [step] using hstep
      exact ih (labelled_stop hs) hstate hrun
    | turn colors t =>
      have hturn : q.1.state.isTerminal = showsEnd q.2 := isTerminal_turn hstate hstep
      have hq : Labelled q.1 := labelled_turn hs hstep
      by_cases hend : q.1.state.isTerminal = true
      · -- nothing follows an end that is shown
        have hended : q.1.hasEnded = true := by
          rw [isTerminal_eq hq, Option.any_eq_true] at hend
          obtain ⟨outcome, houtcome, -⟩ := hend
          rw [hasEnded, houtcome, Option.isSome_some]
        have hlast : p.1.state = q.1.state := by
          rcases (run_of_ended hended hrun).2 with h | h <;> rw [h]
          rfl
        rw [hlast, ← hturn, hend, Bool.true_or]
      · have hgoing : q.1.state.isTerminal = false := by simpa using hend
        rw [← hturn, hgoing, Bool.false_or]
        exact ih hq hgoing hrun

end Session

namespace Rig

variable {r : Rig} {p : Progress} {notes : List Note}

/-- A session as the device starts it. -/
def newSession (r : Rig) : Session :=
  Session.toHost r.bridge.endpoint.host r.settings.stream

/-- What is noted of each session is a run of that session alone. -/
structure Recorded (notes : List Note) (r : Rig) : Prop where
  history : ∀ k s, r.streams[k]? = some s →
    ∃ moves, r.newSession.run moves = some (s.session, eventsOf k notes)
  unborn : ∀ k, r.streams.length ≤ k → eventsOf k notes = []

theorem newSession_step {m : Move} (h : r.step m = some p) : p.1.newSession = r.newSession := by
  have hsettings : p.1.settings = r.settings := (step_does_anything h).settings_eq
  rw [newSession, newSession, endpoint_step h, hsettings]

/-- A session goes on with its history. -/
theorem Recorded.more {k : Nat} {s : Stream} (hr : Recorded notes r) (hs : r.streams[k]? = some s)
    {moves : List Session.Move} {q : Session.Progress} (h : s.session.run moves = some q) :
    ∃ moves, r.newSession.run moves = some (q.1, eventsOf k notes ++ q.2) := by
  obtain ⟨past, hpast⟩ := hr.history k s hs
  exact ⟨past ++ moves, Session.run_append hpast h⟩

theorem recorded_step {m : Move} (hr : Recorded notes r) (h : r.step m = some p) :
    Recorded (notes ++ p.2) p.1 := by
  have hnew : p.1.newSession = r.newSession := newSession_step h
  have hquiet : (∀ k e, .session k e ∉ p.2) → ∀ k, eventsOf k (notes ++ p.2) = eventsOf k notes := by
    intro hnone k
    rw [eventsOf_append, eventsOf_eq_nil (hnone k), List.append_nil]
  cases step_sessions h with
  | kept hstreams hnone =>
    refine ⟨fun k s hs => ?_, fun k hk => ?_⟩
    · rw [hstreams] at hs
      rw [hnew, hquiet hnone]
      exact hr.history k s hs
    · rw [hstreams] at hk
      rw [hquiet hnone]
      exact hr.unborn k hk
  | stopped j hstreams hnone =>
    refine ⟨fun k x hx => ?_, fun k hk => ?_⟩
    · rw [hstreams, stopSession, List.getElem?_modify] at hx
      obtain ⟨s, hs, rfl⟩ := Option.map_eq_some_iff.1 hx
      rw [hnew, hquiet hnone]
      split
      · have hstop : s.session.run [.stop] = some (s.session.stop, []) := rfl
        simpa using hr.more hs hstop
      · exact hr.history k s hs
    · rw [hstreams, stopSession, List.length_modify] at hk
      rw [hquiet hnone]
      exact hr.unborn k hk
  | launched hstreams hnone =>
    refine ⟨fun k s hs => ?_, fun k hk => ?_⟩
    · rw [hstreams, launch, List.getElem?_append] at hs
      rw [hnew, hquiet hnone]
      split at hs
      · exact hr.history k s hs
      · next hge =>
        obtain rfl : { session := r.newSession } = s := by
          have hmem := List.mem_of_getElem? hs
          exact (List.mem_singleton.1 hmem).symm
        rw [hr.unborn k (by omega)]
        exact ⟨[], rfl⟩
    · rw [hstreams, launch, List.length_append] at hk
      rw [hquiet hnone]
      exact hr.unborn k (by omega)
  | @turned j s t q hs ht hstreams hevents hall =>
    have hlt : j < r.streams.length := (List.getElem?_eq_some_iff.1 hs).1
    have hother : ∀ k, k ≠ j → eventsOf k (notes ++ p.2) = eventsOf k notes := by
      intro k hk
      rw [eventsOf_append, eventsOf_eq_nil fun e hmem => hk (hevents k e hmem).1, List.append_nil]
    refine ⟨fun k x hx => ?_, fun k hk => ?_⟩
    · rw [hnew]
      by_cases hjk : k = j
      · subst hjk
        rw [hstreams, List.getElem?_set_self hlt] at hx
        cases hx
        have hturn : s.session.run [.turn r.colors t] = some (q.1, q.2) :=
          Session.run_cons.2 ⟨q, [], ht, rfl, (List.append_nil _).symm⟩
        rw [eventsOf_append, hall]
        exact hr.more hs hturn
      · rw [hstreams, List.getElem?_set_ne (Ne.symm hjk)] at hx
        rw [hother k hjk]
        exact hr.history k x hx
    · rw [hstreams, List.length_set] at hk
      rw [hother k (by omega)]
      exact hr.unborn k hk
  | @reported j s hs hended hstreams hnone =>
    refine ⟨fun k x hx => ?_, fun k hk => ?_⟩
    · rw [hnew, hquiet hnone]
      rw [hstreams, List.getElem?_set] at hx
      split at hx
      · next hjk =>
        subst hjk
        split at hx
        · cases hx
          exact hr.history j s hs
        · cases hx
      · exact hr.history k x hx
    · rw [hstreams, List.length_set] at hk
      rw [hquiet hnone]
      exact hr.unborn k hk

theorem recorded_run {fresh : Rig} {moves : List Move} (hfresh : Fresh fresh)
    (h : fresh.run moves = some p) : Recorded p.2 p.1 := by
  refine run_induction (P := fun _ p => Recorded p.2 p.1) ?_ ?_ h
  · rw [hfresh.eq]
    exact ⟨by simp, fun _ _ => rfl⟩
  · intro moves p m q _ hp hstep
    exact recorded_step (p := q) hp hstep

/-- The label of a session is that of an end exactly if an end was noted of it. -/
theorem Recorded.isTerminal_eq {k : Nat} {s : Stream} (hr : Recorded notes r)
    (hs : r.streams[k]? = some s) :
    s.session.state.isTerminal = Session.showsEnd (eventsOf k notes) := by
  obtain ⟨moves, hrun⟩ := hr.history k s hs
  exact Session.isTerminal_run (Session.labelled_toHost _ _) rfl hrun

end Rig

end LightBridge
