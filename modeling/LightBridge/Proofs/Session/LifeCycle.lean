import LightBridge.Proofs.Session.Turning

/-! The life of a session whose transport calls return. What a session has done so far depends on
its phase alone: each stage of its life begins by showing a label and goes on with calls of its own
kind. So a session that has ended showed one of five rows of labels, and let go of what it held, the
channel first, before it showed the last one. -/

namespace LightBridge.Session

/-! ### What is seen of a session -/

/-- The phases that events show, in order. -/
def labels (events : List SessionEvent) : List SessionState :=
  events.filterMap fun e => match e with
    | .entered state => some state
    | _ => none

def isConnect : SessionEvent → Bool
  | .called (.connect _) => true
  | _ => false

def isSend : SessionEvent → Bool
  | .called (.send _) => true
  | _ => false

/-- A call that is made while the session shakes hands: an attempt or the pause after one. -/
def isAttempt : SessionEvent → Bool
  | .called (.handshake _) | .called (.pause _) => true
  | _ => false

/-- A call that is made while the session streams: a frame or the pause after one. -/
def isTick : SessionEvent → Bool
  | .called (.send _) | .called (.pause _) => true
  | _ => false

namespace Move

/-- Whether a move is no call that breaks down. -/
def returns : Move → Bool
  | .turn _ (.died _) => false
  | _ => true

/-- Whether a move is a socket being opened. -/
def opens : Move → Bool
  | .turn _ (.connected (.ok _)) => true
  | _ => false

/-- Whether a move is a handshake that succeeds. -/
def shakes : Move → Bool
  | .turn _ (.shaken (.ok _)) => true
  | _ => false

end Move

/-! ### What was done by the time of a phase -/

def Connecting (events : List SessionEvent) : Prop :=
  ∃ address, events = [.entered .connecting, .called (.connect address)]

def Shaking (events : List SessionEvent) : Prop :=
  ∃ before attempts, Connecting before ∧ (∀ e ∈ attempts, isAttempt e) ∧
    events = before ++ .entered .handshaking :: attempts

def Streaming (events : List SessionEvent) : Prop :=
  ∃ before ticks, Shaking before ∧ (∀ e ∈ ticks, isTick e) ∧
    events = before ++ .entered .streaming :: ticks

/-- How a session ends: without a socket, without a channel because no attempt is left or because it
is to stop, or with both. -/
inductive Ended : (opened shaken : Bool) → Outcome → List SessionEvent → Prop
  | unconnected {before} (reason : String) (h : Connecting before) :
    Ended false false (.connectFailed reason) (before ++ [.entered .failed])
  | unshaken {before} (attempts : Nat) (h : Shaking before) :
    Ended true false (.handshakeFailed attempts)
      (before ++ [.droppedSocket, .entered .failed])
  | stopped {before} (h : Shaking before) :
    Ended true false .stopped (before ++ [.entered .closing, .droppedSocket, .entered .closed])
  | closed {before} (outcome : Outcome) (h : Streaming before) :
    Ended true true outcome
      (before ++ [.entered .closing, .called .closeNotify, .droppedChannel, .droppedSocket,
        .entered outcome.terminal])

/-- What a session in a phase has done, and whether it has opened a socket and shaken hands. -/
def Trace (opened shaken : Bool) (events : List SessionEvent) : Phase → Prop
  | .idle => opened = false ∧ shaken = false ∧ events = []
  | .connecting => opened = false ∧ shaken = false ∧ Connecting events
  | .handshaking _ | .resting _ => opened = true ∧ shaken = false ∧ Shaking events
  | .sending _ | .pausing _ => opened = true ∧ shaken = true ∧ Streaming events
  | .closing _ => opened = true ∧ shaken = true ∧
      ∃ before, Streaming before ∧ events = before ++ [.entered .closing, .called .closeNotify]
  | .ended outcome => Ended opened shaken outcome events

theorem Shaking.snoc {events : List SessionEvent} {e : SessionEvent} (h : Shaking events)
    (he : isAttempt e) : Shaking (events ++ [e]) := by
  obtain ⟨before, attempts, hb, ha, rfl⟩ := h
  have hattempts : ∀ x ∈ attempts ++ [e], isAttempt x :=
    List.forall_mem_append.2 ⟨ha, List.forall_mem_singleton.2 he⟩
  exact ⟨before, attempts ++ [e], hb, hattempts, by simp⟩

theorem Streaming.snoc {events : List SessionEvent} {e : SessionEvent} (h : Streaming events)
    (he : isTick e) : Streaming (events ++ [e]) := by
  obtain ⟨before, ticks, hb, ht, rfl⟩ := h
  have hticks : ∀ x ∈ ticks ++ [e], isTick x :=
    List.forall_mem_append.2 ⟨ht, List.forall_mem_singleton.2 he⟩
  exact ⟨before, ticks ++ [e], hb, hticks, by simp⟩

theorem Connecting.shaking {events : List SessionEvent} (h : Connecting events) :
    Shaking (events ++ [.entered .handshaking]) := ⟨events, [], h, by simp, rfl⟩

theorem Shaking.streaming {events : List SessionEvent} (h : Shaking events) :
    Streaming (events ++ [.entered .streaming]) := ⟨events, [], h, by simp, rfl⟩

variable {events : List SessionEvent} {opened shaken : Bool}

theorem trace_tryHandshake (attempt : Nat) (s : Session) (h : Shaking events) :
    Trace true false (events ++ (s.tryHandshake attempt).2) (s.tryHandshake attempt).1.phase := by
  unfold tryHandshake
  split
  · exact Ended.stopped h
  · exact ⟨rfl, rfl, h.snoc rfl⟩

theorem trace_close (outcome : Outcome) (s : Session) (h : Streaming events) :
    Trace true true (events ++ (s.close outcome).2) (s.close outcome).1.phase :=
  ⟨rfl, rfl, events, h, rfl⟩

theorem trace_sendFrame (colors : List (UInt16 × Point Float)) (retries : Nat) (s : Session)
    (h : Streaming events) :
    Trace true true (events ++ (s.sendFrame colors retries).2)
      (s.sendFrame colors retries).1.phase := by
  unfold sendFrame
  split
  · exact trace_close .stopped s h
  · exact ⟨rfl, rfl, h.snoc rfl⟩

theorem trace_pauseTick (retries : Nat) (s : Session) (h : Streaming events) :
    Trace true true (events ++ (s.pauseTick retries).2) (s.pauseTick retries).1.phase :=
  ⟨rfl, rfl, h.snoc rfl⟩

theorem trace_turn {colors : List (UInt16 × Point Float)} {s : Session} {t : Turn} {p : Progress}
    (hreturns : (Move.turn colors t).returns) (h : s.turn colors t = some p)
    (htrace : Trace opened shaken events s.phase) :
    Trace (opened || (Move.turn colors t).opens) (shaken || (Move.turn colors t).shakes)
      (events ++ p.2) p.1.phase := by
  cases turn_cases h with
  | begin hphase =>
    rw [hphase] at htrace
    obtain ⟨rfl, rfl, rfl⟩ := htrace
    exact ⟨rfl, rfl, s.address, rfl⟩
  | connected hphase =>
    rw [hphase] at htrace
    obtain ⟨rfl, rfl, hc⟩ := htrace
    have h := trace_tryHandshake 1 { s with state := .handshaking } hc.shaking
    rw [List.append_assoc] at h
    exact h
  | unconnected e hphase =>
    rw [hphase] at htrace
    obtain ⟨rfl, rfl, hc⟩ := htrace
    exact Ended.unconnected e.message hc
  | shaken attempt hphase =>
    rw [hphase] at htrace
    obtain ⟨rfl, rfl, hs⟩ := htrace
    have h := trace_sendFrame colors s.settings.writeRetries.toNat { s with state := .streaming }
      hs.streaming
    rw [List.append_assoc] at h
    exact h
  | retried attempt e hphase =>
    rw [hphase] at htrace
    obtain ⟨rfl, rfl, hs⟩ := htrace
    exact ⟨rfl, rfl, hs.snoc rfl⟩
  | unshaken attempt e hphase =>
    rw [hphase] at htrace
    obtain ⟨rfl, rfl, hs⟩ := htrace
    exact Ended.unshaken s.attempts hs
  | rested attempt hphase =>
    rw [hphase] at htrace
    obtain ⟨rfl, rfl, hs⟩ := htrace
    exact trace_tryHandshake (attempt + 1) s hs
  | accepted retries hphase =>
    rw [hphase] at htrace
    obtain ⟨rfl, rfl, hs⟩ := htrace
    exact trace_pauseTick retries s hs
  | late retries hphase =>
    rw [hphase] at htrace
    obtain ⟨rfl, rfl, hs⟩ := htrace
    exact trace_pauseTick retries s hs
  | tooLate hphase =>
    rw [hphase] at htrace
    obtain ⟨rfl, rfl, hs⟩ := htrace
    exact trace_close _ s hs
  | closedByPeer retries hphase =>
    rw [hphase] at htrace
    obtain ⟨rfl, rfl, hs⟩ := htrace
    exact trace_close _ s hs
  | broken retries reason hphase =>
    rw [hphase] at htrace
    obtain ⟨rfl, rfl, hs⟩ := htrace
    exact trace_close _ s hs
  | paused retries hphase =>
    rw [hphase] at htrace
    obtain ⟨rfl, rfl, hs⟩ := htrace
    exact trace_sendFrame colors retries s hs
  | notified outcome hphase =>
    rw [hphase] at htrace
    obtain ⟨rfl, rfl, before, hs, rfl⟩ := htrace
    have h := Ended.closed outcome hs
    rw [List.append_assoc]
    exact h
  | died => simp [Move.returns] at hreturns

theorem trace_run {s s' : Session} {moves : List Move} {new : List SessionEvent}
    (hreturns : ∀ m ∈ moves, m.returns) (h : s.run moves = some (s', new))
    (htrace : Trace opened shaken events s.phase) :
    Trace (opened || moves.any Move.opens) (shaken || moves.any Move.shakes) (events ++ new)
      s'.phase := by
  induction moves generalizing s events opened shaken new with
  | nil =>
    obtain ⟨rfl, rfl⟩ : s = s' ∧ [] = new := by simpa [run] using h
    simpa using htrace
  | cons m moves ih =>
    obtain ⟨p, more, hstep, hrun, rfl⟩ := run_cons.1 h
    rw [List.any_cons, List.any_cons, ← Bool.or_assoc, ← Bool.or_assoc, ← List.append_assoc]
    obtain ⟨hm, hrest⟩ := List.forall_mem_cons.1 hreturns
    refine ih hrest hrun ?_
    cases m with
    | stop =>
      obtain rfl : (s.stop, []) = p := by simpa [step] using hstep
      simpa [Move.opens, Move.shakes, Session.stop] using htrace
    | turn colors t => exact trace_turn hm hstep htrace

/-! ### What that shows -/

/-- Saying goodbye or letting go of something. -/
def isFarewell : SessionEvent → Bool
  | .called .closeNotify | .droppedChannel | .droppedSocket => true
  | _ => false

/-- Events before any farewell, with the labels that they show. -/
structure Before (row : List SessionState) (events : List SessionEvent) : Prop where
  labels_eq : labels events = row
  connected_once : events.countP isConnect = 1
  no_farewell : ∀ e ∈ events, ¬isFarewell e

theorem before_of_connecting (h : Connecting events) : Before [.connecting] events := by
  obtain ⟨address, rfl⟩ := h
  exact ⟨rfl, rfl, by simp [isFarewell]⟩

/-- A stage of calls that are no farewells. -/
theorem Before.enter {row : List SessionState} {calls : List SessionEvent} (state : SessionState)
    (h : Before row events) (hcalls : ∀ e ∈ calls, isAttempt e ∨ isTick e) :
    Before (row ++ [state]) (events ++ .entered state :: calls) := by
  have hplain : ∀ e ∈ calls, isConnect e = false ∧ isFarewell e = false ∧
      ∃ c, e = .called c := by
    intro e he
    rcases hcalls e he with h | h
    · unfold isAttempt at h
      split at h <;> simp_all [isConnect, isFarewell]
    · unfold isTick at h
      split at h <;> simp_all [isConnect, isFarewell]
  have hlabels : labels calls = [] := by
    refine List.filterMap_eq_nil_iff.2 fun e he => ?_
    obtain ⟨-, -, c, rfl⟩ := hplain e he
    rfl
  have hconnects : calls.countP isConnect = 0 :=
    List.countP_eq_zero.2 fun e he => by simp [(hplain e he).1]
  refine ⟨?_, ?_, ?_⟩
  · have hrow := h.labels_eq
    simp only [labels, List.filterMap_append, List.filterMap_cons] at hrow hlabels ⊢
    rw [hrow, hlabels]
  · rw [List.countP_append, List.countP_cons, h.connected_once, hconnects]
    rfl
  · intro e he
    rcases List.mem_append.1 he with he | he
    · exact h.no_farewell e he
    · rcases List.mem_cons.1 he with rfl | he
      · simp [isFarewell]
      · simp [(hplain e he).2.1]

theorem before_of_shaking (h : Shaking events) : Before [.connecting, .handshaking] events := by
  obtain ⟨before, attempts, hb, ha, rfl⟩ := h
  exact (before_of_connecting hb).enter .handshaking fun e he => Or.inl (ha e he)

theorem before_of_streaming (h : Streaming events) :
    Before [.connecting, .handshaking, .streaming] events := by
  obtain ⟨before, ticks, hb, ht, rfl⟩ := h
  exact (before_of_shaking hb).enter .streaming fun e he => Or.inr (ht e he)

/-- The rows of labels that a session may show. -/
def rows : List (List SessionState) :=
  [[.connecting, .failed], [.connecting, .handshaking, .failed],
    [.connecting, .handshaking, .closing, .closed],
    [.connecting, .handshaking, .streaming, .closing, .closed],
    [.connecting, .handshaking, .streaming, .closing, .failed]]

/-- The life of a session that ended. -/
structure LifeCycle (moves : List Move) (events : List SessionEvent) (outcome : Outcome) : Prop where
  row : labels events ∈ rows
  closed_iff : (labels events).getLast? = some .closed ↔ outcome = .stopped ∨ outcome = .peerClosed
  failed_iff :
    (labels events).getLast? = some .failed ↔ ¬(outcome = .stopped ∨ outcome = .peerClosed)
  connected_once : events.countP isConnect = 1
  /-- The session says goodbye exactly if it has shaken hands, -/
  notified_once : events.count (.called .closeNotify) = if moves.any Move.shakes then 1 else 0
  /-- and not before the last frame. -/
  notified_last : moves.any Move.shakes →
    ∃ before after, events = before ++ .called .closeNotify :: after ∧ ∀ e ∈ after, ¬isSend e
  channel_once : events.count .droppedChannel = if moves.any Move.shakes then 1 else 0
  socket_once : events.count .droppedSocket = if moves.any Move.opens then 1 else 0
  channel_first : moves.any Move.shakes →
    ∃ before after, events = before ++ .droppedChannel :: .droppedSocket :: after
  /-- Nothing is left to be done when the end is shown. -/
  shown_last : events.getLast? = some (.entered outcome.terminal)

theorem terminal_eq_closed_iff {outcome : Outcome} :
    outcome.terminal = .closed ↔ outcome = .stopped ∨ outcome = .peerClosed := by
  cases outcome <;> simp [Outcome.terminal, Outcome.isFailure]

theorem terminal_eq_failed_iff {outcome : Outcome} :
    outcome.terminal = .failed ↔ ¬(outcome = .stopped ∨ outcome = .peerClosed) := by
  cases outcome <;> simp [Outcome.terminal, Outcome.isFailure]

/-- The goodbye of a session that has shaken hands. -/
def goodbye : List SessionEvent :=
  [.entered .closing, .called .closeNotify, .droppedChannel, .droppedSocket]

/-- After some stages a session does what is left to be done, and shows its end. -/
theorem Before.lifeCycle {row : List SessionState} {moves : List Move} (outcome : Outcome)
    (farewell : List SessionEvent) (h : Before row events)
    (hrow : row ++ labels farewell ++ [outcome.terminal] ∈ rows)
    (hconnects : farewell.countP isConnect = 0)
    (hsocket : farewell.count .droppedSocket = if moves.any Move.opens then 1 else 0)
    (hshaken : moves.any Move.shakes = true → farewell = goodbye)
    (hunshaken : moves.any Move.shakes = false →
      farewell.count (.called .closeNotify) = 0 ∧ farewell.count .droppedChannel = 0) :
    LifeCycle moves (events ++ (farewell ++ [.entered outcome.terminal])) outcome := by
  have hlabels : labels (events ++ (farewell ++ [.entered outcome.terminal])) =
      row ++ labels farewell ++ [outcome.terminal] := by
    have heq := h.labels_eq
    simp only [labels, List.filterMap_append, List.filterMap_cons, List.filterMap_nil] at heq ⊢
    rw [heq, List.append_assoc]
  have hlast : (labels (events ++ (farewell ++ [.entered outcome.terminal]))).getLast? =
      some outcome.terminal := by
    rw [hlabels, List.getLast?_concat]
  have hcount : ∀ e, isFarewell e →
      (events ++ (farewell ++ [SessionEvent.entered outcome.terminal])).count e =
        farewell.count e := by
    intro e he
    have hevents : events.count e = 0 :=
      List.count_eq_zero.2 fun hmem => h.no_farewell e hmem he
    have hshown : [SessionEvent.entered outcome.terminal].count e = 0 := by
      refine List.count_eq_zero.2 fun hmem => ?_
      rw [List.mem_singleton.1 hmem] at he
      simp [isFarewell] at he
    rw [List.count_append, List.count_append, hevents, hshown, Nat.zero_add, Nat.add_zero]
  refine ⟨?row, ?closed, ?failed, ?connected, ?notified, ?last, ?channel, ?socket, ?first, ?shown⟩
  case row => rw [hlabels]; exact hrow
  case closed => rw [hlast, Option.some_inj, terminal_eq_closed_iff]
  case failed => rw [hlast, Option.some_inj, terminal_eq_failed_iff]
  case connected =>
    rw [List.countP_append, List.countP_append, h.connected_once, hconnects]
    rfl
  case notified =>
    rw [hcount _ rfl]
    split
    · next hs => rw [hshaken hs]; rfl
    · next hs => exact (hunshaken (by simpa using hs)).1
  case last =>
    intro hs
    rw [hshaken hs]
    refine ⟨events ++ [.entered .closing],
      [.droppedChannel, .droppedSocket, .entered outcome.terminal], by simp [goodbye], ?_⟩
    simp [isSend]
  case channel =>
    rw [hcount _ rfl]
    split
    · next hs => rw [hshaken hs]; rfl
    · next hs => exact (hunshaken (by simpa using hs)).2
  case socket => rw [hcount _ rfl, hsocket]
  case first =>
    intro hs
    rw [hshaken hs]
    exact ⟨events ++ [.entered .closing, .called .closeNotify], [.entered outcome.terminal],
      by simp [goodbye]⟩
  case shown => simp

theorem lifeCycle_of_ended {moves : List Move} {outcome : Outcome}
    (h : Ended (moves.any Move.opens) (moves.any Move.shakes) outcome events) :
    LifeCycle moves events outcome := by
  generalize hopened : moves.any Move.opens = opened at h
  generalize hshaken : moves.any Move.shakes = shaken at h
  cases h with
  | unconnected reason h =>
    refine (before_of_connecting h).lifeCycle (.connectFailed reason) [] ?_ rfl ?_ ?_ ?_
    · simp [rows, labels, Outcome.terminal, Outcome.isFailure]
    · simp [hopened]
    · simp [hshaken]
    · simp
  | unshaken attempts h =>
    refine (before_of_shaking h).lifeCycle (.handshakeFailed attempts) [.droppedSocket] ?_ rfl
      ?_ ?_ ?_
    · simp [rows, labels, Outcome.terminal, Outcome.isFailure]
    · simp [hopened]
    · simp [hshaken]
    · simp
  | stopped h =>
    refine (before_of_shaking h).lifeCycle .stopped [.entered .closing, .droppedSocket] ?_ rfl
      ?_ ?_ ?_
    · simp [rows, labels, Outcome.terminal, Outcome.isFailure]
    · simp [hopened]
    · simp [hshaken]
    · simp
  | closed outcome h =>
    refine (before_of_streaming h).lifeCycle outcome goodbye ?_ rfl ?_ ?_ ?_
    · cases hfailed : outcome.isFailure <;> simp [rows, labels, goodbye, Outcome.terminal, hfailed]
    · rw [hopened]
      rfl
    · exact fun _ => rfl
    · simp [hshaken]

/-- A session that goes on has shown the beginning of a row. -/
theorem labels_of_going {phase : Phase} (h : Trace opened shaken events phase)
    (hgoing : phase.outcome? = none) : ∃ row ∈ rows, labels events <+: row := by
  cases phase with
  | idle =>
    obtain ⟨-, -, rfl⟩ := h
    exact ⟨_, List.mem_cons_self, List.nil_prefix⟩
  | connecting =>
    obtain ⟨-, -, h⟩ := h
    rw [(before_of_connecting h).labels_eq]
    exact ⟨[.connecting, .failed], by simp [rows], by simp⟩
  | handshaking attempt | resting attempt =>
    obtain ⟨-, -, h⟩ := h
    rw [(before_of_shaking h).labels_eq]
    exact ⟨[.connecting, .handshaking, .failed], by simp [rows], by simp⟩
  | sending retries | pausing retries =>
    obtain ⟨-, -, h⟩ := h
    rw [(before_of_streaming h).labels_eq]
    exact ⟨[.connecting, .handshaking, .streaming, .closing, .closed], by simp [rows], by simp⟩
  | closing outcome =>
    obtain ⟨-, -, before, h, rfl⟩ := h
    have hlabels : labels (before ++ [.entered .closing, .called .closeNotify]) =
        [.connecting, .handshaking, .streaming, .closing] := by
      have heq := (before_of_streaming h).labels_eq
      simp only [labels, List.filterMap_append] at heq ⊢
      rw [heq]
      rfl
    rw [hlabels]
    exact ⟨[.connecting, .handshaking, .streaming, .closing, .closed], by simp [rows], by simp⟩
  | ended outcome => simp [Phase.outcome?] at hgoing

/-- A session whose transport calls return goes through one of the rows, however long it takes and
whenever it is stopped; it opens one socket, says goodbye exactly if it has shaken hands, and lets
go of what it holds before it shows its end. -/
theorem run_lifeCycle {host : String} {settings : StreamSettings} {moves : List Move} {s : Session}
    {events : List SessionEvent} (hreturns : ∀ m ∈ moves, m.returns)
    (hrun : (toHost host settings).run moves = some (s, events)) :
    (∃ row ∈ rows, labels events <+: row) ∧
      ∀ outcome, s.phase.outcome? = some outcome → LifeCycle moves events outcome := by
  have hidle : Trace false false [] (toHost host settings).phase := ⟨rfl, rfl, rfl⟩
  have htrace : Trace (moves.any Move.opens) (moves.any Move.shakes) events s.phase := by
    simpa using trace_run hreturns hrun hidle
  have hended : ∀ outcome, s.phase.outcome? = some outcome → LifeCycle moves events outcome := by
    intro outcome houtcome
    cases hphase : s.phase with
    | ended o =>
      rw [hphase] at houtcome htrace
      obtain rfl : o = outcome := Option.some_inj.1 houtcome
      exact lifeCycle_of_ended htrace
    | _ => simp [hphase, Phase.outcome?] at houtcome
  refine ⟨?_, hended⟩
  cases houtcome : s.phase.outcome? with
  | none => exact labels_of_going htrace houtcome
  | some outcome => exact ⟨_, (hended outcome houtcome).row, List.prefix_refl _⟩

/-- The second handshake succeeds, a frame is late, and the session is stopped while it streams. -/
theorem run_lifeCycle_stopped_while_streaming :
    let moves : List Move := [.turn [] .begin, .turn [] (.connected (.ok ())),
      .turn [] (.shaken (.error (.stream "handshake" "no reply"))), .turn [] .rested,
      .turn [] (.shaken (.ok ())), .turn [] (.sent .late), .stop, .turn [] .rested,
      .turn [] .notified]
    (∀ m ∈ moves, m.returns) ∧ ∃ s events, (toHost "bridge" {}).run moves = some (s, events) ∧
      s.phase.outcome? = some .stopped ∧
      labels events = [.connecting, .handshaking, .streaming, .closing, .closed] ∧
      LifeCycle moves events .stopped := by
  intro moves
  have hreturns : ∀ m ∈ moves, m.returns := by simp [moves, Move.returns]
  obtain ⟨s, events, hrun, houtcome, hlabels⟩ : ∃ s events,
      (toHost "bridge" {}).run moves = some (s, events) ∧ s.phase.outcome? = some .stopped ∧
      labels events = [.connecting, .handshaking, .streaming, .closing, .closed] :=
    ⟨_, _, rfl, rfl, rfl⟩
  exact ⟨hreturns, s, events, hrun, houtcome, hlabels,
    (run_lifeCycle hreturns hrun).2 .stopped houtcome⟩

end LightBridge.Session
