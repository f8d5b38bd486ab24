import LightBridge.Proofs.Bridge.Polls
import LightBridge.Proofs.Rig.Commands
import LightBridge.Proofs.Rig.Readiness
import LightBridge.Proofs.Session.Quitting

/-! The moves of a rig, one case for each, with what the device is in the middle of. What a device
does by itself leaves its sessions alone; the moves that start, stop or forget one are few. -/

namespace LightBridge

namespace Rig

/-! ### What the device does by itself -/

/-- The request that carries a command of a light. -/
def inFlight (c : Sent Float) : String × Document := (Light.route c.id, c.command.toDocument)

/-- The sessions are left alone, and the connection too but for the commands that lights send and for
polls that take the place of others. -/
structure Apart (r : Rig) (p : Progress) : Prop where
  streams_eq : p.1.streams = r.streams
  stream_eq : p.1.stream = r.stream
  present_eq : p.1.present = r.present
  endpoint_eq : p.1.bridge.endpoint = r.bridge.endpoint
  posts_eq : p.1.bridge.posts = r.bridge.posts ++ (commands p.2).map inFlight
  tidy : r.bridge.Tidy → p.1.bridge.Tidy
  no_events : ∀ k e, .session k e ∉ p.2

variable {r : Rig} {p : Progress}

theorem isHeldBySession_apart (h : Apart r p) : p.1.isHeldBySession = r.isHeldBySession := by
  rw [isHeldBySession, isHeldBySession, h.streams_eq]

/-- Whether a note tells of a frame that a session begins to send. -/
def Note.IsFrame (k : Nat) (n : Note) : Prop := ∃ frame, n = .session k (.called (.send frame))

theorem no_frame_of_apart (h : Apart r p) : ∀ k, ∀ n ∈ p.2, ¬n.IsFrame k := by
  rintro k n hn ⟨frame, rfl⟩
  exact h.no_events k _ hn

theorem Apart.andThen {next : Rig → Progress} (h : Apart r p) (hnext : Apart p.1 (next p.1)) :
    Apart r (Rig.andThen p next) where
  streams_eq := hnext.streams_eq.trans h.streams_eq
  stream_eq := hnext.stream_eq.trans h.stream_eq
  present_eq := hnext.present_eq.trans h.present_eq
  endpoint_eq := hnext.endpoint_eq.trans h.endpoint_eq
  posts_eq := by
    have hposts := hnext.posts_eq
    rw [h.posts_eq] at hposts
    simpa [Rig.andThen] using hposts
  tidy := hnext.tidy ∘ h.tidy
  no_events k e hmem := by
    rcases List.mem_append.1 hmem with hmem | hmem
    · exact h.no_events k e hmem
    · exact hnext.no_events k e hmem

/-- What is done first is not noted. -/
theorem Apart.trans {r' : Rig} (h : Apart r (r', [])) (hp : Apart r' p) : Apart r p := by
  have hboth : Apart r (Rig.andThen (r', []) fun _ => p) := h.andThen hp
  simpa [Rig.andThen] using hboth

/-- Nothing is noted, and nothing of the sessions or the connection is changed. -/
theorem apart_bridge {enabled ready : Bool} {task : Task} {lights : List (Held Float)}
    {taken : Nat} {bridge : Bridge} (h : r.bridge.Alike bridge) :
    Apart r ({ r with enabled, ready, task, lights, taken, bridge }, []) :=
  ⟨rfl, rfl, rfl, h.endpoint_eq, by simp [h.posts_eq, commands], h.tidy, by simp⟩

theorem apart_same {enabled ready : Bool} {task : Task} {lights : List (Held Float)} {taken : Nat} :
    Apart r ({ r with enabled, ready, task, lights, taken }, []) :=
  apart_bridge (Bridge.alike_same _)

theorem finish_apart (result : Except Fault Unit) : Apart r (r.finish result) :=
  ⟨rfl, rfl, rfl, rfl, by simp [finish, commands], id, by simp [finish]⟩

theorem finishStart_apart (applying : Bool) (result : Except Fault Unit) :
    Apart r (r.finishStart applying result) := by
  cases result with
  | ok =>
    exact ⟨rfl, rfl, rfl, rfl, by simp [finishStart, finish, commands], id,
      by simp [finishStart, finish]⟩
  | error =>
    exact ⟨rfl, rfl, rfl, rfl, by simp [finishStart, finish, commands], id,
      by simp [finishStart, finish]⟩

theorem foldl_post (cs : List (Sent Float)) (b : Bridge) :
    let sent := cs.foldl (fun b c => b.post (Light.route c.id) c.command.toDocument) b
    sent.endpoint = b.endpoint ∧ sent.posts = b.posts ++ cs.map inFlight ∧
      sent.polls = b.polls ∧ sent.current = b.current := by
  induction cs generalizing b with
  | nil => simp
  | cons c cs ih =>
    obtain ⟨hendpoint, hposts, hpolls⟩ := ih (b.post (Light.route c.id) c.command.toDocument)
    exact ⟨hendpoint, hposts.trans (by simp [Bridge.post, inFlight]), hpolls⟩

theorem send_apart (cs : List (Sent Float)) : Apart r (r.send cs) where
  streams_eq := rfl
  stream_eq := rfl
  present_eq := rfl
  endpoint_eq := (foldl_post cs r.bridge).1
  posts_eq := by
    rw [send, commands_commanded]
    exact (foldl_post cs r.bridge).2.1
  tidy h := by
    obtain ⟨-, -, hpolls, hcurrent⟩ := foldl_post cs r.bridge
    unfold Bridge.Tidy at h ⊢
    simpa only [send, hpolls, hcurrent] using h
  no_events := by simp [send]

theorem restore_apart (lights : List (Held Float)) : Apart r (r.restore lights) := send_apart _

theorem letGo_apart : Apart r r.letGo := by
  have h : Apart { r with lights := [] } r.letGo := restore_apart r.lights
  exact ⟨h.streams_eq, h.stream_eq, h.present_eq, h.endpoint_eq, h.posts_eq, h.tidy, h.no_events⟩

theorem takeOver_apart (ids : List UInt16) (entries : Listing (LightEntry Float)) :
    Apart r (r.takeOver ids entries) := by
  refine Apart.andThen ?_ (restore_apart _)
  exact ⟨rfl, rfl, rfl, rfl, by simp, id, by simp⟩

theorem paint_apart (index : Nat) (color : Color) : Apart r (r.paint index color) := by
  have h := send_apart (r := { r with
    lights := (Held.changeAt index (Light.paint r.settings color) r.lights).1 })
    (Held.changeAt index (Light.paint r.settings color) r.lights).2
  exact ⟨h.streams_eq, h.stream_eq, h.present_eq, h.endpoint_eq, h.posts_eq, h.tidy, h.no_events⟩

theorem askStreaming_apart (active : Bool) (task : Task) : Apart r (r.askStreaming active task) :=
  ⟨rfl, rfl, rfl, rfl, by simp [askStreaming, commands], id, by simp [askStreaming]⟩

theorem recordStreaming_apart (active : Bool) (reply : Reply) :
    Apart r (r.recordStreaming active reply) :=
  ⟨rfl, rfl, rfl, rfl, by simp [recordStreaming, Bridge.finishCommand, Bridge.record, commands], id,
    by simp [recordStreaming]⟩

theorem released_apart (disabling : Bool) : Apart r (r.released disabling) := by
  unfold released
  split
  · have h : Apart { r with ready := false } _ := letGo_apart.andThen (finish_apart (.ok ()))
    exact ⟨h.streams_eq, h.stream_eq, h.present_eq, h.endpoint_eq, h.posts_eq, h.tidy, h.no_events⟩
  · exact finish_apart _

theorem afterStop_apart (next : AfterStop) : Apart r (r.afterStop next) := by
  cases next with
  | takeOver ids entries =>
    simp only [afterStop]
    refine (takeOver_apart ids entries).andThen ?_
    split
    · exact finishStart_apart _ _
    · split
      · exact finishStart_apart _ _
      · split
        · exact finishStart_apart _ _
        · exact askStreaming_apart _ _
  | restart => exact askStreaming_apart _ _
  | handBack disabling =>
    simp only [afterStop]
    split
    · exact askStreaming_apart _ _
    · exact released_apart _

/-! ### The moves -/

/-- The session that the device holds on to is told to stop. -/
def dismiss (r : Rig) : Rig :=
  match r.stream with
  | some k => r.stopSession k
  | none => r

/-- What a rig does at a move that can be made. An operation of the device is over at once, or it
begins to show colours, or it stops a session first; `next` is what comes after that. -/
inductive Stepping (r : Rig) : Move → Progress → Prop
  | returned (operation : Operation) {p : Progress} (result : Except Fault Unit) (hidle : r.task = .idle)
    (h : Apart r p) (htask : p.1.task = .idle) (hlights : p.1.lights = r.lights)
    (hnotes : p.2 = [.returned result]) : Stepping r (.call operation) p
  | forgot (outcome : Outcome) (hidle : r.task = .idle) (hstate : r.isStreaming = false) :
    Stepping r (.call (.handle (.streamStopped outcome)))
      ({ r with stream := none, ready := false }.finish (.ok ()))
  | began (colors : List Color) (hidle : r.task = .idle) (hpresent : r.present = true) :
    Stepping r (.call (.write colors))
      ({ r with task := .painting 0 (colors.take r.lights.length) }, [])
  | stopping (operation : Operation) (next : AfterStop) {r' : Rig} {k : Nat}
    (hidle : r.task = .idle) (hpresent : r.present = true) (h : Apart r (r', []))
    (hlights : r'.lights = r.lights) (hstream : r.stream = some k) :
    Stepping r (.call operation)
      ({ r'.stopSession k with stream := none, task := .stopping k next }, [])
  | unheld (operation : Operation) (next : AfterStop) {r' : Rig} (hidle : r.task = .idle)
    (hpresent : r.present = true) (h : Apart r (r', [])) (hlights : r'.lights = r.lights)
    (hstream : r.stream = none) :
    Stepping r (.call operation) (r'.afterStop next)
  | shown (index : Nat) (htask : r.task = .painting index []) :
    Stepping r .proceed (r.finish (.ok ()))
  | painted (index : Nat) (c : Color) (rest : List Color)
    (htask : r.task = .painting index (c :: rest)) :
    Stepping r .proceed ({ r with task := .painting (index + 1) rest }.paint index c)
  | resumed {k : Nat} {next : AfterStop} {s : Stream} (htask : r.task = .stopping k next)
    (hs : r.streams[k]? = some s) (hreported : s.reported = true) :
    Stepping r .proceed (r.afterStop next)
  | reset (applying : Bool) (reply : Reply) (htask : r.task = .resetting applying) :
    Stepping r (.replied reply)
      (andThen (r.recordStreaming false reply) (askStreaming true (.claiming applying)))
  | claimed (applying : Bool) (reply : Reply) (htask : r.task = .claiming applying)
    (haccepted : reply.accepted = .ok ()) :
    Stepping r (.replied reply)
      (andThen (r.recordStreaming true reply) fun r => r.launch.finishStart applying (.ok ()))
  | refused (applying : Bool) (reply : Reply) (e : Fault) (htask : r.task = .claiming applying)
    (haccepted : reply.accepted = .error e) :
    Stepping r (.replied reply)
      (andThen (r.recordStreaming true reply) (finishStart applying (.error e)))
  | released (disabling : Bool) (reply : Reply) (htask : r.task = .releasing disabling) :
    Stepping r (.replied reply) (andThen (r.recordStreaming false reply) (Rig.released disabling))
  | turned {k : Nat} {s : Stream} {t : Turn} {q : Session.Progress} (hs : r.streams[k]? = some s)
    (ht : s.session.turn r.colors t = some q)
    (hheld : r.present = false →
      isHeldBySession { r with streams := r.streams.set k { s with session := q.1 } } = true) :
    Stepping r (.session k t)
      ({ r with streams := r.streams.set k { s with session := q.1 } }, q.2.map (.session k))
  | turnedLast {k : Nat} {s : Stream} {t : Turn} {q : Session.Progress}
    (hs : r.streams[k]? = some s) (ht : s.session.turn r.colors t = some q)
    (hended : q.1.hasEnded = true) (hpresent : r.present = false)
    (hheld : isHeldBySession { r with streams := r.streams.set k { s with session := q.1 } } = false) :
    Stepping r (.session k t)
      (andThen ({ r with streams := r.streams.set k { s with session := q.1 } },
        q.2.map (.session k)) letGo)
  | reported {k : Nat} {s : Stream} {outcome : Outcome} (hs : r.streams[k]? = some s)
    (ho : s.session.phase.outcome? = some outcome) :
    Stepping r (.report k) ({ r with streams := r.streams.set k { s with reported := true } },
      [.bridge (.published none (.streamStopped outcome))])
  | bridge {m : Bridge.Move} {q : Bridge × List BridgeNote} (h : r.bridge.step m = some q) :
    Stepping r (.bridge m) (r.ofBridge q)
  | left (hidle : r.task = .idle)
    (hheld : isHeldBySession ({ r with present := false }.dismiss) = true) :
    Stepping r .leave ({ r with present := false }.dismiss, [])
  | leftLast (hidle : r.task = .idle)
    (hheld : isHeldBySession ({ r with present := false }.dismiss) = false) :
    Stepping r .leave ({ r with present := false }.dismiss.letGo)

section

variable {operation : Operation}

theorem returned_finish (hidle : r.task = .idle) {r' : Rig} (result : Except Fault Unit)
    (h : Apart r (r', [])) (hlights : r'.lights = r.lights) :
    Stepping r (.call operation) (r'.finish result) :=
  .returned operation result hidle (h.andThen (finish_apart result)) rfl hlights rfl

theorem stopThen_stepping (hidle : r.task = .idle) (hpresent : r.present = true) (next : AfterStop)
    {r' : Rig} (h : Apart r (r', [])) (hlights : r'.lights = r.lights) :
    Stepping r (.call operation) (r'.stopThen next) := by
  have hstream : r'.stream = r.stream := h.stream_eq
  unfold stopThen
  split
  · next hnone => exact .unheld operation next hidle hpresent h hlights (hstream ▸ hnone)
  · next k hsome => exact .stopping operation next hidle hpresent h hlights (hstream ▸ hsome)

theorem startStreaming_stepping (hidle : r.task = .idle) (hpresent : r.present = true) {r' : Rig}
    (h : Apart r (r', [])) (hlights : r'.lights = r.lights) :
    Stepping r (.call operation) r'.startStreaming := by
  unfold startStreaming
  split
  · exact returned_finish hidle _ h hlights
  · split
    · exact returned_finish hidle _ h hlights
    · exact stopThen_stepping hidle hpresent _ h hlights

theorem call_stepping (hidle : r.task = .idle) (hpresent : r.present = true) :
    Stepping r (.call operation) (r.call operation) := by
  cases operation with
  | handle event =>
    cases event with
    | inventoryReady inventory =>
      simp only [call, handleEvent, applyInventory]
      split
      · exact returned_finish hidle _ apart_same rfl
      · split
        · exact returned_finish hidle _ apart_same rfl
        · exact stopThen_stepping hidle hpresent _ apart_same rfl
    | transportError message => exact returned_finish hidle _ apart_same rfl
    | streamStopped outcome =>
      simp only [call, handleEvent, streamStopped]
      split
      · exact returned_finish hidle _ apart_same rfl
      · next hstate => exact .forgot outcome hidle (by simpa using hstate)
  | write colors =>
    simp only [call, write]
    split
    · exact returned_finish hidle _ apart_same rfl
    · split
      · exact returned_finish hidle _ apart_same rfl
      · exact .began colors hidle hpresent
  | startStreaming => exact startStreaming_stepping hidle hpresent apart_same rfl
  | switchOff => exact stopThen_stepping hidle hpresent _ apart_same rfl
  | enable =>
    simp only [call, enable]
    split
    · exact returned_finish hidle _ (apart_bridge (Bridge.alike_connect _)) rfl
    · split
      · exact startStreaming_stepping hidle hpresent apart_same rfl
      · exact returned_finish hidle _ apart_same rfl
  | disable =>
    exact stopThen_stepping hidle hpresent _ (apart_bridge (Bridge.alike_cancel _)) rfl

end

theorem proceed_stepping (h : r.proceed = some p) : Stepping r .proceed p := by
  unfold proceed at h
  split at h
  · next htask => cases h; exact .shown _ htask
  · next htask => cases h; exact .painted _ _ _ htask
  · next htask =>
    split at h
    · next hs =>
      split at h
      · next hreported => cases h; exact .resumed htask hs hreported
      · cases h
    · cases h
  · cases h

theorem replied_stepping {reply : Reply} (h : r.replied reply = some p) :
    Stepping r (.replied reply) p := by
  unfold replied at h
  split at h
  · next htask => cases h; exact .reset _ reply htask
  · next htask =>
    cases h
    cases haccepted : reply.accepted with
    | ok => exact .claimed _ reply htask haccepted
    | error e => exact .refused _ reply e htask haccepted
  · next htask => cases h; exact .released _ reply htask
  · cases h

theorem sessionTurn_stepping {k : Nat} {t : Turn} (h : r.sessionTurn k t = some p) :
    Stepping r (.session k t) p := by
  simp only [sessionTurn, Option.bind_eq_bind, Option.bind_eq_some_iff, Option.pure_def,
    Option.some.injEq] at h
  obtain ⟨s, hs, q, ht, rfl⟩ := h
  split
  · next hlast =>
    obtain ⟨hlast, hheld⟩ := Bool.and_eq_true_iff.1 hlast
    obtain ⟨hended, hpresent⟩ := Bool.and_eq_true_iff.1 hlast
    exact .turnedLast hs ht hended (by simpa using hpresent) (by simpa using hheld)
  · next hlast =>
    refine .turned hs ht fun hpresent => ?_
    cases hended : q.1.hasEnded with
    | true => simpa [hended, hpresent] using hlast
    | false =>
      have hlt : k < r.streams.length := (List.getElem?_eq_some_iff.1 hs).1
      exact List.any_eq_true.2 ⟨_, List.mem_set hlt _, by simp [hended]⟩

theorem report_stepping {k : Nat} (h : r.report k = some p) : Stepping r (.report k) p := by
  simp only [report, Option.bind_eq_bind, Option.bind_eq_some_iff] at h
  obtain ⟨s, hs, outcome, ho, h⟩ := h
  split at h
  · cases h
  · cases h
    exact .reported hs ho

theorem leave_stepping (hidle : r.task = .idle) : Stepping r .leave r.leave := by
  have hleave : r.leave = if isHeldBySession ({ r with present := false }.dismiss)
      then ({ r with present := false }.dismiss, []) else { r with present := false }.dismiss.letGo :=
    rfl
  rw [hleave]
  split
  · next hheld => exact .left hidle hheld
  · next hheld => exact .leftLast hidle (by simpa using hheld)

theorem step_cases {m : Move} (h : r.step m = some p) : Stepping r m p := by
  cases m with
  | call operation =>
    simp only [step] at h
    split at h
    · next hidle hpresent => cases h; exact call_stepping hidle hpresent
    · cases h
  | proceed => exact proceed_stepping h
  | replied reply => exact replied_stepping h
  | session k t => exact sessionTurn_stepping h
  | report k => exact report_stepping h
  | bridge m =>
    obtain ⟨q, hq, rfl⟩ := Option.map_eq_some_iff.1 h
    exact .bridge hq
  | leave =>
    simp only [step] at h
    split at h
    · next hidle hpresent => cases h; exact leave_stepping hidle
    · cases h

/-- The bridge stays the same one, with its polls in order, and only the owner lets the device go. -/
structure Fixed (r : Rig) (m : Move) (p : Progress) : Prop where
  endpoint_eq : p.1.bridge.endpoint = r.bridge.endpoint
  tidy : r.bridge.Tidy → p.1.bridge.Tidy
  present : p.1.present = r.present ∨ m = .leave

theorem Apart.fixed {m : Move} (h : Apart r p) : Fixed r m p :=
  ⟨h.endpoint_eq, h.tidy, Or.inl h.present_eq⟩

theorem dismiss_bridge (r : Rig) : r.dismiss.bridge = r.bridge := by
  unfold dismiss
  split <;> rfl

theorem dismiss_task (r : Rig) : r.dismiss.task = r.task := by
  unfold dismiss
  split <;> rfl

theorem fixed_step {m : Move} (h : r.step m = some p) : Fixed r m p := by
  cases step_cases h with
  | returned operation result hidle happart => exact happart.fixed
  | forgot | began | shown | turned | reported => exact ⟨rfl, id, Or.inl rfl⟩
  | stopping operation next hidle hpresent happart =>
    exact ⟨happart.endpoint_eq, happart.tidy, Or.inl happart.present_eq⟩
  | unheld operation next hidle hpresent happart => exact (happart.trans (afterStop_apart next)).fixed
  | painted index c => exact (apart_same.trans (paint_apart index c)).fixed
  | resumed => exact (afterStop_apart _).fixed
  | reset => exact ((recordStreaming_apart _ _).andThen (askStreaming_apart _ _)).fixed
  | claimed => exact ⟨rfl, id, Or.inl rfl⟩
  | refused => exact ((recordStreaming_apart _ _).andThen (finishStart_apart _ _)).fixed
  | released => exact ((recordStreaming_apart _ _).andThen (released_apart _)).fixed
  | turnedLast => exact ⟨letGo_apart.endpoint_eq, letGo_apart.tidy, Or.inl rfl⟩
  | bridge hbridge =>
    exact ⟨(Bridge.fixed_step hbridge).1, fun htidy => Bridge.tidy_step htidy hbridge, Or.inl rfl⟩
  | left =>
    have hbridge := dismiss_bridge { r with present := false }
    exact ⟨congrArg Bridge.endpoint hbridge, fun h => by rwa [hbridge], Or.inr rfl⟩
  | leftLast =>
    have happart := letGo_apart (r := { r with present := false }.dismiss)
    have hbridge := dismiss_bridge { r with present := false }
    exact ⟨by rw [happart.endpoint_eq, hbridge], fun h => happart.tidy (by rwa [hbridge]),
      Or.inr rfl⟩

theorem present_step {m : Move} (h : r.step m = some p) : p.1.present = r.present ∨ m = .leave :=
  (fixed_step h).present

theorem present_of_step {m : Move} (hm : m.isOwners = false) (hpresent : r.present = true)
    (h : r.step m = some p) : p.1.present = true := by
  rcases present_step h with hsame | rfl
  · rw [hsame, hpresent]
  · cases hm

theorem present_of_call {operation : Operation} (h : r.step (.call operation) = some p) :
    p.1.present = true := by
  rcases present_step h with hsame | hleave
  · exact hsame.trans (step_call h).2.1
  · cases hleave

theorem endpoint_step {m : Move} (h : r.step m = some p) :
    p.1.bridge.endpoint = r.bridge.endpoint := (fixed_step h).endpoint_eq

/-! ### What a move does to the sessions -/

/-- What is noted of one session. -/
def eventsOf (k : Nat) (notes : List Note) : List SessionEvent :=
  notes.filterMap fun n => match n with
    | .session j e => if j = k then some e else none
    | _ => none

theorem eventsOf_append (k : Nat) (a b : List Note) :
    eventsOf k (a ++ b) = eventsOf k a ++ eventsOf k b := List.filterMap_append

theorem mem_eventsOf {k : Nat} {e : SessionEvent} {notes : List Note} :
    e ∈ eventsOf k notes ↔ .session k e ∈ notes := by
  unfold eventsOf
  rw [List.mem_filterMap]
  constructor
  · rintro ⟨n, hn, hsome⟩
    split at hsome
    · split at hsome
      · next hjk =>
        cases hsome
        rwa [hjk] at hn
      · cases hsome
    · cases hsome
  · exact fun hn => ⟨_, hn, if_pos rfl⟩

theorem eventsOf_eq_nil {k : Nat} {notes : List Note} (h : ∀ e, .session k e ∉ notes) :
    eventsOf k notes = [] :=
  List.eq_nil_iff_forall_not_mem.2 fun e he => h e (mem_eventsOf.1 he)

theorem eventsOf_session (k : Nat) (events : List SessionEvent) :
    eventsOf k (events.map (.session k)) = events := by
  rw [eventsOf, List.filterMap_map]
  simp only [Function.comp_def, if_true]
  exact List.filterMap_some

/-- One session may be told to stop, start, go on or have its end published; what is noted of sessions
comes from the one that goes on. -/
inductive SessionStep (r : Rig) (p : Progress) : Prop
  | kept (hstreams : p.1.streams = r.streams) (hnone : ∀ k e, .session k e ∉ p.2)
  | stopped (k : Nat) (hstreams : p.1.streams = (r.stopSession k).streams)
    (hnone : ∀ k e, .session k e ∉ p.2)
  | launched (hstreams : p.1.streams = r.launch.streams) (hnone : ∀ k e, .session k e ∉ p.2)
  | turned {k : Nat} {s : Stream} {t : Turn} {q : Session.Progress} (hs : r.streams[k]? = some s)
    (ht : s.session.turn r.colors t = some q)
    (hstreams : p.1.streams = r.streams.set k { s with session := q.1 })
    (hevents : ∀ j e, .session j e ∈ p.2 → j = k ∧ e ∈ q.2) (hall : eventsOf k p.2 = q.2)
  | reported {k : Nat} {s : Stream} (hs : r.streams[k]? = some s)
    (hended : s.session.hasEnded = true)
    (hstreams : p.1.streams = r.streams.set k { s with reported := true })
    (hnone : ∀ k e, .session k e ∉ p.2)

theorem Apart.sessionStep (h : Apart r p) : SessionStep r p := .kept h.streams_eq h.no_events

theorem dismiss_sessionStep (hstreams : p.1.streams = ({ r with present := false }.dismiss).streams)
    (hnone : ∀ k e, .session k e ∉ p.2) : SessionStep r p := by
  rcases Option.eq_none_or_eq_some r.stream with hstream | ⟨k, hstream⟩
  · refine .kept (hstreams.trans ?_) hnone
    simp only [dismiss, hstream]
  · refine .stopped k (hstreams.trans ?_) hnone
    simp only [dismiss, hstream]
    rfl

theorem step_sessions {m : Move} (h : r.step m = some p) : SessionStep r p := by
  cases step_cases h with
  | returned operation result hidle happart => exact happart.sessionStep
  | forgot | began => exact .kept rfl (by simp [finish])
  | @stopping operation next r' k hidle hpresent happart =>
    refine .stopped k ?_ (by simp)
    have hstreams : r'.streams = r.streams := happart.streams_eq
    simp only [stopSession, hstreams]
  | unheld operation next hidle hpresent happart =>
    exact (happart.trans (afterStop_apart next)).sessionStep
  | shown => exact (finish_apart _).sessionStep
  | painted index c => exact .kept (paint_apart index c).streams_eq (paint_apart index c).no_events
  | resumed => exact (afterStop_apart _).sessionStep
  | reset => exact ((recordStreaming_apart _ _).andThen (askStreaming_apart _ _)).sessionStep
  | claimed => exact .launched rfl (by simp [andThen, recordStreaming, finishStart, finish])
  | refused => exact ((recordStreaming_apart _ _).andThen (finishStart_apart _ _)).sessionStep
  | released => exact ((recordStreaming_apart _ _).andThen (released_apart _)).sessionStep
  | @turned k s t q hs ht =>
    refine .turned hs ht rfl (fun j e hmem => ?_) (eventsOf_session k q.2)
    obtain ⟨x, hx, heq⟩ := List.mem_map.1 hmem
    cases heq
    exact ⟨rfl, hx⟩
  | @turnedLast k s t q hs ht =>
    refine .turned hs ht rfl (fun j e hmem => ?_) ?_
    · rcases List.mem_append.1 hmem with hmem | hmem
      · obtain ⟨x, hx, heq⟩ := List.mem_map.1 hmem
        cases heq
        exact ⟨rfl, hx⟩
      · exact absurd hmem (letGo_apart.no_events j e)
    · rw [andThen, eventsOf_append, eventsOf_session, eventsOf_eq_nil (letGo_apart.no_events k),
        List.append_nil]
  | reported hs ho => exact .reported hs (by rw [Session.hasEnded, ho]; rfl) rfl (by simp)
  | bridge => exact .kept rfl (by simp [ofBridge])
  | left => exact dismiss_sessionStep rfl (by simp)
  | leftLast => exact dismiss_sessionStep letGo_apart.streams_eq letGo_apart.no_events

end Rig

end LightBridge
