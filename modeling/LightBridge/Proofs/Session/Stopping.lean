import LightBridge.Proofs.Session.LifeCycle
import LightBridge.Proofs.Session.Quitting
import LightBridge.Session.Handle

/-! A session that is told to stop, at any moment of its life: through its handle, through a signal
that was taken from it, or because the handle is gone. All three raise one flag. The session starts
no handshake and no frame from then on, but opens its socket if it has yet to, and says goodbye to a
peer it has shaken hands with. It ends as stopped, unless the call that was under way says
otherwise or its transport breaks down. -/

namespace LightBridge

namespace Session

namespace Move

/-- Whether the thing that a session waits for ends. -/
def isTurn : Move → Bool
  | .turn _ _ => true
  | .stop => false

end Move

/-- The calls to the transport, in order. -/
def transportCalls (events : List SessionEvent) : List Call :=
  events.filterMap fun e => match e with
    | .called (.pause _) => none
    | .called c => some c
    | _ => none

/-- The calls to the transport that a session may still make when it has been told to stop. -/
def callsLeft (s : Session) : List Call :=
  match s.phase with
  | .idle => [.connect s.address]
  | .handshaking _ | .sending _ | .pausing _ => [.closeNotify]
  | .connecting | .resting _ | .closing _ | .ended _ => []

/-- What a session that has been told to stop comes to because of a move: the end of the call that
is under way decides, or whether the socket that is still to come could be opened. -/
def verdict? (s : Session) : Move → Option Outcome
  | .turn _ t =>
    match s.phase, t with
    | .idle, .connected (.ok _) | .connecting, .connected (.ok _) => some .stopped
    | .idle, .connected (.error e) | .connecting, .connected (.error e) =>
      some (.connectFailed e.message)
    | .handshaking _, .shaken (.ok _) => some .stopped
    | .handshaking attempt, .shaken (.error _) =>
      some (if attempt < s.attempts then .stopped else .handshakeFailed s.attempts)
    | .sending 0, .sent .late => some (.writeFailed "timed out")
    | .sending _, .sent .closedByPeer => some .peerClosed
    | .sending _, .sent (.broken reason) => some (.writeFailed reason)
    | .sending _, .sent _ => some .stopped
    | _, _ => none
  | .stop => none

/-- What a session comes to whose transport breaks down at one of the moves. -/
def breakdown? (later : List Move) : Option Outcome :=
  later.findSome? fun m => match m with
    | .turn _ (.died reason) => some (.aborted reason)
    | _ => none

/-- The outcome of a session that has been told to stop. If its transport does not break down it is the
one already decided, or else what the first of the later moves that counts makes of it. -/
def fate (s : Session) (later : List Move) : Outcome :=
  match s.phase with
  | .ended outcome => outcome
  | .closing outcome => (breakdown? later).getD outcome
  | _ => (breakdown? later).getD ((later.findSome? s.verdict?).getD .stopped)

variable {s s' : Session} {colors : List (UInt16 × Point Float)} {t : Turn} {p : Progress}
  {later : List Move} {events : List SessionEvent}

theorem fate_of_outcome {outcome : Outcome} (h : s.phase.outcome? = some outcome) :
    s.fate later = outcome := by
  cases hphase : s.phase <;> simp_all [fate, Phase.outcome?]

/-! ### One turn -/

theorem transportCalls_append (a b : List SessionEvent) :
    transportCalls (a ++ b) = transportCalls a ++ transportCalls b := List.filterMap_append

/-- Whatever a session that has been told to stop calls, it was allowed to. -/
theorem callsLeft_turn (hstopped : s.stopped = true) (h : s.turn colors t = some p) :
    transportCalls p.2 ++ p.1.callsLeft <+: s.callsLeft := by
  cases turn_cases h with
  | connected hphase | rested attempt hphase =>
    simp [hphase, enter, tryHandshake, hstopped, finish, callsLeft, transportCalls]
  | shaken attempt hphase | paused retries hphase =>
    simp [hphase, enter, sendFrame, hstopped, close, await, callsLeft, transportCalls]
  | died reason hcalling =>
    cases hphase : s.phase <;>
      simp_all [Phase.isCalling, Phase.holdsChannel, Phase.holdsSocket, abort, callsLeft,
        transportCalls]
  | _ => simp_all [enter, finish, close, await, pauseTick, callsLeft, transportCalls]

theorem breakdown?_turn (ht : ∀ reason, t ≠ .died reason) :
    breakdown? (.turn colors t :: later) = breakdown? later := by
  rw [breakdown?, List.findSome?_cons, breakdown?]
  cases t with
  | died reason => exact absurd rfl (ht reason)
  | _ => rfl

/-- Between two calls nothing is decided. -/
theorem fate_of_pause (h : (∃ attempt, s.phase = .resting attempt) ∨
    ∃ retries, s.phase = .pausing retries) : s.fate later = (breakdown? later).getD .stopped := by
  have hnone : later.findSome? s.verdict? = none := by
    refine List.findSome?_eq_none_iff.2 fun m _ => ?_
    rcases h with ⟨attempt, hphase⟩ | ⟨retries, hphase⟩ <;> cases m <;> simp [verdict?, hphase]
  rcases h with ⟨attempt, hphase⟩ | ⟨retries, hphase⟩ <;> simp [fate, hphase, hnone]

/-- What a session comes to is no other after a turn. One that has ended takes no further turn, so
its transport does not break down. -/
theorem fate_turn (hstopped : s.stopped = true) (h : s.turn colors t = some p)
    (hsound : p.1.hasEnded = true → breakdown? later = none) :
    p.1.fate later = s.fate (.turn colors t :: later) := by
  have hsame : (∀ reason, t ≠ .died reason) →
      breakdown? (.turn colors t :: later) = breakdown? later := breakdown?_turn
  cases turn_cases h with
  | begin hphase =>
    have hverdict : ({ s with state := .connecting, phase := .connecting } : Session).verdict? =
        s.verdict? := by
      funext m
      cases m with
      | stop => rfl
      | turn colors t =>
        simp only [verdict?, hphase]
        cases t with
        | connected result => cases result <;> rfl
        | _ => rfl
    simp only [fate, enter, await, hphase, List.findSome?_cons, hverdict, hsame (by simp)]
    simp [verdict?, hphase]
  | connected hphase =>
    have hnone : breakdown? later = none :=
      hsound (by simp [enter, tryHandshake, hstopped, finish, hasEnded, Phase.outcome?])
    simp [fate, enter, tryHandshake, hstopped, finish, hphase, verdict?, hsame, hnone]
  | unconnected e hphase =>
    have hnone : breakdown? later = none := hsound rfl
    simp [fate, enter, finish, hphase, verdict?, hsame, hnone]
  | shaken attempt hphase =>
    simp [fate, enter, sendFrame, hstopped, close, await, hphase, verdict?, hsame]
  | retried attempt e hphase hleft =>
    rw [fate_of_pause (Or.inl ⟨attempt, rfl⟩)]
    simp [fate, hphase, verdict?, hleft, hsame]
  | unshaken attempt e hphase hleft =>
    have hnone : breakdown? later = none := hsound rfl
    simp [fate, enter, finish, hphase, verdict?, Nat.not_lt.2 hleft, hsame, hnone]
  | rested attempt hphase =>
    have hnone : breakdown? later = none :=
      hsound (by simp [tryHandshake, enter, hstopped, finish, hasEnded, Phase.outcome?])
    rw [fate_of_pause (s := s) (Or.inl ⟨attempt, hphase⟩), hsame (by simp), hnone]
    simp [fate, tryHandshake, enter, hstopped, finish]
  | accepted retries hphase =>
    rw [fate_of_pause (Or.inr ⟨retries, rfl⟩)]
    cases retries <;> simp [fate, hphase, verdict?, hsame]
  | late retries hphase =>
    rw [fate_of_pause (Or.inr ⟨retries, rfl⟩)]
    simp [fate, hphase, verdict?, hsame]
  | tooLate hphase => simp [fate, close, enter, await, hphase, verdict?, hsame]
  | closedByPeer retries hphase =>
    cases retries <;> simp [fate, close, enter, await, hphase, verdict?, hsame]
  | broken retries reason hphase =>
    cases retries <;> simp [fate, close, enter, await, hphase, verdict?, hsame]
  | paused retries hphase =>
    rw [fate_of_pause (s := s) (Or.inr ⟨retries, hphase⟩), hsame (by simp)]
    simp [fate, sendFrame, hstopped, close, enter, await]
  | notified outcome hphase =>
    have hnone : breakdown? later = none := hsound rfl
    simp [fate, finish, enter, hphase, hsame, hnone]
  | died reason hcalling =>
    have hdied : breakdown? (.turn colors (.died reason) :: later) = some (.aborted reason) := rfl
    cases hphase : s.phase <;> simp_all [Phase.isCalling, fate, abort]

/-- The transport of a session that has ended does not break down. -/
theorem breakdown?_of_ended (hended : s.hasEnded = true) (h : s.run later = some p) :
    breakdown? later = none := by
  induction later generalizing s p with
  | nil => rfl
  | cons m later ih =>
    obtain ⟨q, more, hstep, hrun, -⟩ := run_cons.1 h
    cases m with
    | stop =>
      obtain rfl : (s.stop, []) = q := by simpa [step] using hstep
      exact ih (s := s.stop) hended hrun
    | turn colors t =>
      have hgoing := going_of_turn hstep
      rw [hended] at hgoing
      cases hgoing

/-! ### All that follows -/

/-- What comes of telling a session to stop, as far as the later moves show. -/
structure Heeded (s : Session) (later : List Move) (events : List SessionEvent) (s' : Session) :
    Prop where
  stopped : s'.stopped = true
  calls : transportCalls events ++ s'.callsLeft <+: s.callsLeft
  fate : s'.fate [] = s.fate later
  turns : s'.turnsLeft + later.countP Move.isTurn ≤ s.turnsLeft

theorem heeded_run (hstopped : s.stopped = true) (h : s.run later = some (s', events)) :
    Heeded s later events s' := by
  induction later generalizing s events with
  | nil =>
    obtain ⟨rfl, rfl⟩ : s = s' ∧ [] = events := by simpa [run] using h
    exact ⟨hstopped, List.prefix_refl _, rfl, Nat.le_refl _⟩
  | cons m later ih =>
    obtain ⟨p, more, hstep, hrun, rfl⟩ := run_cons.1 h
    cases m with
    | stop =>
      obtain rfl : (s.stop, []) = p := by simpa [step] using hstep
      have hrest := ih rfl hrun
      exact ⟨hrest.stopped, hrest.calls, hrest.fate, hrest.turns⟩
    | turn colors t =>
      have hrest := ih ((stopped_turn hstep).trans hstopped) hrun
      have hfewer := turnsLeft_turn hstopped hstep
      have hsound := fun hended => breakdown?_of_ended (s := p.1) hended hrun
      refine ⟨hrest.stopped, ?calls, hrest.fate.trans (fate_turn hstopped hstep hsound), ?turns⟩
      case calls =>
        rw [transportCalls_append, List.append_assoc]
        exact ((List.prefix_append_right_inj _).2 hrest.calls).trans (callsLeft_turn hstopped hstep)
      case turns =>
        have hcount := hrest.turns
        rw [List.countP_cons_of_pos rfl]
        omega

/-! ### The whole life -/

theorem phase_of_ended (hended : s.hasEnded = true) (h : s.run later = some p) :
    p.1.phase = s.phase := by
  rcases (run_of_ended hended h).2 with hsame | hstop
  · rw [hsame]
  · rw [hstop, stop]

/-- A session that did not break down in the end never did. -/
theorem returns_of_run {moves : List Move} (h : s.run moves = some (s', events))
    (hend : ∀ reason, s'.phase ≠ .ended (.aborted reason)) : ∀ m ∈ moves, m.returns := by
  induction moves generalizing s events with
  | nil => simp
  | cons m moves ih =>
    obtain ⟨p, more, hstep, hrun, rfl⟩ := run_cons.1 h
    refine List.forall_mem_cons.2 ⟨?_, ih hrun⟩
    cases m with
    | stop => rfl
    | turn colors t =>
      cases turn_cases hstep with
      | died reason hcalling => exact absurd (phase_of_ended rfl hrun) (hend reason)
      | _ => rfl

/-- The number of goodbyes of a session that has ended without breaking down. -/
theorem goodbyes_of_ended {host : String} {settings : StreamSettings} {before : List Move}
    {past : List SessionEvent} {outcome : Outcome}
    (hbefore : (toHost host settings).run before = some (s, past))
    (hlater : s.stop.run later = some (s', events)) (hended : s'.phase = .ended outcome)
    (hreturned : outcome.isAborted = false) :
    (past ++ events).count (.called .closeNotify) =
      if (before ++ later).any Move.shakes then 1 else 0 := by
  have hend : ∀ reason, s'.phase ≠ .ended (.aborted reason) := by
    rintro reason haborted
    obtain rfl : outcome = .aborted reason := by simpa [hended] using haborted
    simp [Outcome.isAborted] at hreturned
  have hstop : ∀ reason, s.phase ≠ .ended (.aborted reason) := by
    intro reason haborted
    have hkept := phase_of_ended (s := s.stop) (by simp [hasEnded, stop, haborted, Phase.outcome?])
      hlater
    exact hend reason (hkept.trans haborted)
  have hidle : Trace false false [] (toHost host settings).phase := ⟨rfl, rfl, rfl⟩
  have hpast := trace_run (returns_of_run hbefore hstop) hbefore hidle
  have htrace := trace_run (s := s.stop) (returns_of_run hlater hend) hlater hpast
  rw [hended] at htrace
  simp only [Bool.false_or, List.nil_append, ← List.any_append] at htrace
  exact (lifeCycle_of_ended htrace).notified_once

/-- A session that is told to stop, wherever it is and whatever came before, never forgets that. Of
its transport it asks nothing but what is left to it: to open the socket that is still to come, or
to say goodbye; it says goodbye once if it has shaken hands at all. It takes three turns at most,
none of which can fail to come, and ends as stopped unless the call under way decides otherwise or
its transport breaks down. -/
structure Stopping (before later : List Move) (past events : List SessionEvent) (s s' : Session) :
    Prop where
  stopped : s'.stopped = true
  calls : transportCalls events <+: s.callsLeft
  ends_as : ∀ outcome, s'.phase = .ended outcome → outcome = s.fate later
  notified_once : ∀ outcome, s'.phase = .ended outcome → outcome.isAborted = false →
    (past ++ events).count (.called .closeNotify) =
      if (before ++ later).any Move.shakes then 1 else 0
  few : later.countP Move.isTurn ≤ 3
  goes_on : s'.hasEnded = false → (∃ t, s'.phase.Awaits t) ∧
    ∀ colors t, s'.phase.Awaits t → (s'.turn colors t).isSome

theorem stopping_of_runs {host : String} {settings : StreamSettings} {before : List Move}
    {past : List SessionEvent} (hbefore : (toHost host settings).run before = some (s, past))
    (hlater : s.stop.run later = some (s', events)) : Stopping before later past events s s' := by
  have hheeded := heeded_run rfl hlater
  refine ⟨hheeded.stopped, ?calls, ?ends, ?notified, ?few, ?going⟩
  case calls => exact (List.prefix_append _ _).trans hheeded.calls
  case ends =>
    intro outcome hended
    have hfate : s'.fate [] = outcome := fate_of_outcome (by rw [hended]; rfl)
    exact hfate.symm.trans hheeded.fate
  case notified =>
    exact fun outcome hended hreturned => goodbyes_of_ended hbefore hlater hended hreturned
  case few =>
    have hleft := turnsLeft_le s.stop
    have hturns := hheeded.turns
    omega
  case going => exact fun hgoing => ⟨exists_awaited hgoing, fun _ _ => turn_of_awaits⟩

theorem stop_is_heeded {host : String} {settings : StreamSettings} {before : List Move}
    {past : List SessionEvent} (hbefore : (toHost host settings).run before = some (s, past))
    (hlater : s.stop.run later = some (s', events)) : Stopping before later past events s s' :=
  stopping_of_runs hbefore hlater

/-- The last frame that may be late is on its way when the session is told to stop, and it is
late. -/
theorem stop_is_heeded_while_sending :
    let before : List Move := [.turn [] .begin, .turn [] (.connected (.ok ())),
      .turn [] (.shaken (.ok ()))]
    let later : List Move := [.turn [] (.sent .late), .stop, .turn [] .notified]
    ∃ s past s' events,
      (toHost "bridge" { writeRetries := 0 }).run before = some (s, past) ∧
      s.stop.run later = some (s', events) ∧ s'.phase = .ended (.writeFailed "timed out") ∧
      transportCalls events = [.closeNotify] ∧ Stopping before later past events s s' := by
  intro before later
  obtain ⟨s, past, s', events, hbefore, hlater, hended, hcalls⟩ : ∃ s past s' events,
      (toHost "bridge" { writeRetries := 0 }).run before = some (s, past) ∧
      s.stop.run later = some (s', events) ∧ s'.phase = .ended (.writeFailed "timed out") ∧
      transportCalls events = [.closeNotify] := ⟨_, _, _, _, rfl, rfl, rfl, rfl⟩
  exact ⟨s, past, s', events, hbefore, hlater, hended, hcalls, stop_is_heeded hbefore hlater⟩

end Session

namespace StreamHandle

/-- What a deed is to the session: the flag is raised, a turn is taken, or nothing changes. -/
def Deed.moves : Deed → List Session.Move
  | .stop | .signal _ | .drop => [.stop]
  | .takeSignal | .copySignal _ => []
  | .turn colors t => [.turn colors t]

/-- Whether a deed tells the session to stop. -/
def Deed.raises : Deed → Bool
  | .stop | .signal _ | .drop => true
  | .takeSignal | .copySignal _ | .turn _ _ => false

variable {x : StreamHandle} {d : Deed} {deeds : List Deed} {p : StreamHandle × List SessionEvent}

theorem session_step (h : x.step d = some p) :
    x.session.run d.moves = some (p.1.session, p.2) := by
  cases d with
  | turn colors t =>
    obtain ⟨q, hq, rfl⟩ := Option.map_eq_some_iff.1 h
    exact Session.run_cons.2 ⟨q, [], hq, rfl, (List.append_nil _).symm⟩
  | stop | takeSignal | copySignal | signal | drop =>
    obtain ⟨-, h⟩ := Option.ite_none_right_eq_some.1 h
    cases h
    rfl

/-- Of all that is done with a handle and its signals the session sees nothing but the flag. -/
theorem session_run (h : x.run deeds = some p) :
    x.session.run (deeds.flatMap Deed.moves) = some (p.1.session, p.2) := by
  induction deeds generalizing x p with
  | nil =>
    cases h
    rfl
  | cons d deeds ih =>
    simp only [run, Option.bind_eq_bind, Option.bind_eq_some_iff] at h
    obtain ⟨q, hq, r, hr, h⟩ := h
    cases h
    exact Session.run_append (session_step hq) (ih hr)

/-- Whoever raises the flag, be it through the handle, through a signal or by letting go of the
handle, tells the session to stop. -/
theorem raise_is_heeded {host : String} {settings : StreamSettings} {before later : List Deed}
    {past events : List SessionEvent} {x' : StreamHandle} (hraises : d.raises = true)
    (hbefore : (start host settings).run before = some (x, past))
    (hlater : x.run (d :: later) = some (x', events)) :
    Session.Stopping (before.flatMap Deed.moves) (later.flatMap Deed.moves) past events x.session
      x'.session := by
  have hmoves : d.moves = [.stop] := by
    cases d with
    | stop | signal | drop => rfl
    | takeSignal | copySignal | turn => cases hraises
  have hrun := session_run hlater
  rw [List.flatMap_cons, hmoves, List.singleton_append] at hrun
  obtain ⟨q, more, hstep, hrest, rfl⟩ := Session.run_cons.1 hrun
  obtain rfl : (x.session.stop, []) = q := by simpa [Session.step] using hstep
  exact Session.stopping_of_runs (session_run hbefore) hrest

end StreamHandle

end LightBridge
