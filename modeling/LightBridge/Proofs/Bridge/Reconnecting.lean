import LightBridge.Proofs.Bridge.Superseding
import LightBridge.Proofs.History
import LightBridge.Proofs.Inventory

/-! A poll from its start to its end. It asks for the inventory until an exchange brings a body. Each
exchange before that is recorded, told of once and followed by a delay; the body is recorded too, and
published if it is an inventory that lists something. Other things may happen in between, as long as
nobody connects once more or cancels. -/

namespace LightBridge

namespace Fault

theorem message_unreachable (action : String) (cause : Option String) :
    (unreachable action).message cause = withCause ("http " ++ action ++ " error") cause := rfl

theorem message_refused (status : Nat) (cause : Option String) :
    (refused status).message cause = "bridge returned http status " ++ Status.describe status := rfl

end Fault

namespace Exchange

/-- A request for the inventory that brought none. -/
def failed (text : String) : Exchange :=
  { kind := .inventory, route := "", body := .null, error := some text }

/-- A request that brought an inventory with so many entries. -/
def counted (groups lights : Nat) : Exchange :=
  { kind := .inventory
    route := ""
    body := .object [("groups", .nat groups), ("lights", .nat lights)]
    error := none }

end Exchange

namespace Reply

/-- Whether an exchange broke off or came to a status that is no success. -/
def isFailure : Reply → Bool
  | .lost _ | .cut _ _ => true
  | .answered status _ _ => !Status.isSuccess status

/-- Why an exchange failed, if it did: what the network says of it, or the status. -/
def failureText : Reply → String
  | .lost cause => Fault.withCause "http get error" cause
  | .cut status cause =>
    if Status.isSuccess status then Fault.withCause "http read error" cause
    else "bridge returned http status " ++ Status.describe status
  | .answered status _ _ => "bridge returned http status " ++ Status.describe status

/-- The entry for an exchange that brought a body. -/
def bodyEntry (body : String) (complaint : Option String) : Exchange :=
  match Document.read body with
  | none => .failed (Fault.withCause "failed to load json" complaint)
  | some (.array _) => .failed "authorization failed, username invalid"
  | some d => .counted (Listing.ofCategory GroupEntry.ofDraft? "groups" d).length
      (Listing.ofCategory LightEntry.ofDraft? "lights" d).length

/-- The entry for an exchange: why it failed, or how much came back. -/
def entry (r : Reply) : Exchange :=
  match r with
  | .answered status body complaint =>
    if Status.isSuccess status then bodyEntry body complaint else .failed r.failureText
  | _ => .failed r.failureText

theorem inventory_of_failure {r : Reply} (h : r.isFailure = true) :
    ∃ e, r.inventory = .error e ∧ e.isTransient = true ∧ e.message r.cause = r.failureText := by
  cases r with
  | lost cause => exact ⟨.unreachable "get", rfl, rfl, Fault.message_unreachable "get" cause⟩
  | cut status cause =>
    cases hstatus : Status.isSuccess status with
    | true =>
      have htext : (cut status cause).failureText = Fault.withCause "http read error" cause :=
        if_pos hstatus
      exact ⟨.unreachable "read", by simp [inventory, hstatus], rfl,
        (Fault.message_unreachable "read" cause).trans htext.symm⟩
    | false =>
      have htext : (cut status cause).failureText = _ := if_neg (by simp [hstatus])
      exact ⟨.refused status, by simp [inventory, hstatus], rfl,
        (Fault.message_refused status cause).trans htext.symm⟩
  | answered status body complaint =>
    have hstatus : Status.isSuccess status = false := by simpa [isFailure] using h
    exact ⟨.refused status, by simp [inventory, hstatus], rfl, Fault.message_refused status _⟩

theorem entry_of_failure {r : Reply} (h : r.isFailure = true) : r.entry = .failed r.failureText := by
  cases r with
  | lost | cut => rfl
  | answered status body complaint =>
    have hstatus : Status.isSuccess status = false := by simpa [isFailure] using h
    simp [entry, hstatus]

theorem answered_of_success {r : Reply} (h : r.isFailure = false) :
    ∃ status body complaint, r = .answered status body complaint ∧
      Status.isSuccess status = true := by
  cases r with
  | lost | cut => cases h
  | answered status body complaint =>
    exact ⟨status, body, complaint, rfl, by simpa [isFailure] using h⟩

end Reply

/-- Whether a poll with such a delay waits for a turn. -/
def PollPhase.awaits (delay : Option Nat) : PollPhase → PollTurn → Bool
  | .starting, .begin | .asking, .answered _ => true
  | .delaying, .rested => delay.isSome
  | _, _ => false

/-- The text of a note that an exchange failed. -/
def BridgeNote.errorText? : BridgeNote → Option String
  | .published _ (.transportError text) => some text
  | _ => none

/-- The exchanges that were recorded, in order. -/
def BridgeNote.exchanges (notes : List BridgeNote) : List Exchange :=
  notes.filterMap fun n => match n with
    | .recorded e => some e
    | _ => none

namespace Bridge

namespace Move

/-- Whether a move is one of the poll with a number. -/
def isPoll (k : Nat) : Move → Bool
  | .poll j _ => j == k
  | _ => false

/-- Whether a move ends an exchange. -/
def isAnswer : Move → Bool
  | .poll _ (.answered _) | .deliver _ _ | .fetch _ | .put _ _ _ => true
  | _ => false

end Move

/-! ### What a poll is to do -/

/-- What a poll shows of an exchange that fails: it asks once more after a delay. -/
def failing (k : Nat) (delay : Option Nat) (r : Reply) : List BridgeNote :=
  [.requested (some k) .inventory, .recorded (.failed r.failureText),
    .published (some k) (.transportError r.failureText), .delayed k delay]

/-- What a poll publishes of a body: an inventory that lists something. -/
def newsOf (k : Nat) (body : String) : List BridgeNote :=
  match Document.read body with
  | none | some (.array _) => []
  | some d =>
    let groups := Listing.ofCategory GroupEntry.ofDraft? "groups" d
    let lights := Listing.ofCategory LightEntry.ofDraft? "lights" d
    if groups.isEmpty && lights.isEmpty then []
    else [.published (some k) (.inventoryReady { groups, lights })]

/-- What a poll shows of the exchange that brings a body. -/
def ending (k : Nat) (body : String) (complaint : Option String) : List BridgeNote :=
  .requested (some k) .inventory :: .recorded (Reply.bodyEntry body complaint) :: newsOf k body

/-- Where a poll is after the replies that it got, and what it has shown by then. -/
inductive Polled (k : Nat) (delay : Option Nat) : List Reply → PollPhase → List BridgeNote → Prop
  | starting : Polled k delay [] .starting []
  | asking {failed : List Reply} (h : ∀ r ∈ failed, r.isFailure = true) :
    Polled k delay failed .asking
      (failed.flatMap (failing k delay) ++ [.requested (some k) .inventory])
  | delaying {failed : List Reply} {r : Reply} (h : ∀ x ∈ failed ++ [r], x.isFailure = true) :
    Polled k delay (failed ++ [r]) .delaying ((failed ++ [r]).flatMap (failing k delay))
  | ended {failed : List Reply} {status : Nat} {body : String} {complaint : Option String}
    (h : ∀ r ∈ failed, r.isFailure = true) (hstatus : Status.isSuccess status = true) :
    Polled k delay (failed ++ [.answered status body complaint]) .over
      (failed.flatMap (failing k delay) ++ ending k body complaint)

/-- The replies that a poll got, in order. -/
def repliesTo (k : Nat) (moves : List Move) : List Reply :=
  moves.filterMap fun m => match m with
    | .poll j (.answered reply) => if j = k then some reply else none
    | _ => none

/-- What the moves of a poll show in a run. -/
def shownBy (k : Nat) (b : Bridge) : List Move → List BridgeNote
  | [] => []
  | m :: rest =>
    match b.step m with
    | none => []
    | some p => (if m.isPoll k then p.2 else []) ++ shownBy k p.1 rest

/-- The turns of a poll of which the last exchange has a reply, and all earlier ones failed. -/
def rounds (k : Nat) (failed : List Reply) (reply : Reply) : List Move :=
  .poll k .begin ::
    (failed.flatMap (fun r => [.poll k (.answered r), .poll k .rested]) ++ [.poll k (.answered reply)])

variable {b : Bridge} {k : Nat} {delay : Option Nat} {m : Move} {moves : List Move}
  {q : Bridge × List BridgeNote}

/-! ### One turn -/

theorem pollStep_isSome (k : Nat) (phase : PollPhase) (t : PollTurn) :
    (pollStep delay k phase t).isSome = phase.awaits delay t := by
  cases phase <;> cases t <;>
    first
    | rfl
    | exact Option.isSome_map
    | (simp only [pollStep]
       split <;> rfl)

/-- An exchange that failed is told of, and the poll waits. -/
theorem pollStep_failure {r : Reply} (h : r.isFailure = true) :
    pollStep delay k .asking (.answered r) = some (.delaying, (failing k delay r).tail) := by
  obtain ⟨e, he, htransient, htext⟩ := Reply.inventory_of_failure h
  simp [pollStep, he, isUnanswered, eventOf?, htransient, htext, failing, Exchange.ofInventory,
    Exchange.errorText, Exchange.failed]

/-- A body that is no inventory is recorded, and that is all. -/
theorem pollStep_fault {r : Reply} {e : Fault} (h : r.inventory = .error e)
    (hlasting : e.isTransient = false) :
    pollStep delay k .asking (.answered r) =
      some (.over, [.recorded (.failed (e.message r.cause))]) := by
  simp [pollStep, h, isUnanswered, eventOf?, hlasting, Exchange.ofInventory, Exchange.errorText,
    Exchange.failed]

/-- An inventory is recorded, and published if it lists something. -/
theorem pollStep_inventory {r : Reply} {i : Inventory} (h : r.inventory = .ok i) :
    pollStep delay k .asking (.answered r) =
      some (.over, .recorded (.counted i.groups.length i.lights.length) ::
        if i.groups.isEmpty && i.lights.isEmpty then []
        else [.published (some k) (.inventoryReady i)]) := by
  cases hempty : i.isEmpty <;> rw [Inventory.isEmpty] at hempty <;>
    simp [pollStep, h, isUnanswered, eventOf?, Inventory.isEmpty, hempty, Exchange.ofInventory,
      Exchange.errorText, Exchange.counted]

/-- A body ends the poll, whatever it says. -/
theorem pollStep_body {status : Nat} (body : String) (complaint : Option String)
    (h : Status.isSuccess status = true) :
    pollStep delay k .asking (.answered (.answered status body complaint)) =
      some (.over, (ending k body complaint).tail) := by
  have hinventory : (Reply.answered status body complaint).inventory = Inventory.parse body := by
    simp [Reply.inventory, h]
  rw [ending, List.tail_cons, Reply.bodyEntry, newsOf]
  rcases Inventory.parse_cases body with ⟨hread, hparse⟩ | ⟨items, hread, hparse⟩ |
    ⟨d, i, hread, hne, hi, hparse⟩
  · rw [pollStep_fault (hinventory.trans hparse) rfl, hread]
    rfl
  · rw [pollStep_fault (hinventory.trans hparse) rfl, hread]
    rfl
  · rw [pollStep_inventory (hinventory.trans hparse), hread]
    rw [Inventory.ofDocument_of_ne hne] at hi
    cases hi
    cases d with
    | array items => exact absurd rfl (hne items)
    | null | bool | number | text | object => rfl

/-- A poll at its turn is a poll again that has done what it was to do. -/
theorem polled_turn {replies : List Reply} {phase next : PollPhase} {shown notes : List BridgeNote}
    {t : PollTurn} (hp : Polled k delay replies phase shown)
    (h : pollStep delay k phase t = some (next, notes)) :
    Polled k delay (replies ++ repliesTo k [.poll k t]) next (shown ++ notes) := by
  cases hp with
  | starting =>
    cases t with
    | begin =>
      cases h
      exact .asking (List.forall_mem_nil _)
    | answered | rested => cases h
  | asking hfailed =>
    cases t with
    | begin | rested => cases h
    | answered r =>
      have hreply : repliesTo k [.poll k (.answered r)] = [r] := by simp [repliesTo]
      rw [hreply, List.append_assoc]
      cases hr : r.isFailure with
      | true =>
        rw [pollStep_failure hr] at h
        cases h
        have hboth : ∀ x ∈ _ ++ [r], x.isFailure = true :=
          List.forall_mem_append.2 ⟨hfailed, by simpa using hr⟩
        have hshown : Polled k delay _ .delaying _ := .delaying hboth
        rwa [List.flatMap_append, List.flatMap_singleton] at hshown
      | false =>
        obtain ⟨status, body, complaint, rfl, hstatus⟩ := Reply.answered_of_success hr
        rw [pollStep_body body complaint hstatus] at h
        cases h
        exact .ended hfailed hstatus
  | delaying hfailed =>
    cases t with
    | begin | answered => cases h
    | rested =>
      obtain ⟨d, -, h⟩ := Option.map_eq_some_iff.1 h
      cases h
      rw [show repliesTo k [.poll k .rested] = [] from rfl, List.append_nil]
      exact .asking hfailed
  | ended => cases h

/-! ### What is recorded -/

theorem exchanges_append (notes more : List BridgeNote) :
    BridgeNote.exchanges (notes ++ more) = BridgeNote.exchanges notes ++ BridgeNote.exchanges more :=
  List.filterMap_append

theorem exchanges_failing {failed : List Reply} (h : ∀ r ∈ failed, r.isFailure = true) :
    BridgeNote.exchanges (failed.flatMap (failing k delay)) = failed.map Reply.entry := by
  induction failed with
  | nil => rfl
  | cons r failed ih =>
    obtain ⟨hr, hrest⟩ := List.forall_mem_cons.1 h
    rw [List.flatMap_cons, exchanges_append, ih hrest, List.map_cons, Reply.entry_of_failure hr]
    rfl

theorem exchanges_ending (body : String) (complaint : Option String) :
    BridgeNote.exchanges (ending k body complaint) = [Reply.bodyEntry body complaint] := by
  have hnews : BridgeNote.exchanges (newsOf k body) = [] := by
    unfold newsOf
    split
    · rfl
    · rfl
    · dsimp only
      split
      · rfl
      · rfl
  show Reply.bodyEntry body complaint :: BridgeNote.exchanges (newsOf k body) = _
  rw [hnews]

/-- One entry is recorded for each reply. -/
theorem exchanges_polled {replies : List Reply} {phase : PollPhase} {shown : List BridgeNote}
    (h : Polled k delay replies phase shown) :
    BridgeNote.exchanges shown = replies.map Reply.entry := by
  cases h with
  | starting => rfl
  | asking hfailed =>
    rw [exchanges_append, exchanges_failing hfailed]
    exact List.append_nil _
  | delaying hfailed => exact exchanges_failing hfailed
  | ended hfailed hstatus =>
    rw [exchanges_append, exchanges_failing hfailed, exchanges_ending, List.map_append,
      List.map_singleton, Reply.entry, if_pos hstatus]

/-! ### One move -/

theorem exchanges_pollStep {phase next : PollPhase} {t : PollTurn}
    {notes : List BridgeNote} (h : pollStep delay k phase t = some (next, notes)) :
    BridgeNote.exchanges notes = t.exchanges := by
  unfold pollStep at h
  split at h
  · cases h
    rfl
  · next reply =>
    dsimp only at h
    split at h
    · cases h
      simp [BridgeNote.exchanges, PollTurn.exchanges]
    · cases h
      simp [BridgeNote.exchanges, PollTurn.exchanges]
  · obtain ⟨d, -, h⟩ := Option.map_eq_some_iff.1 h
    cases h
    rfl
  · cases h

/-- One exchange is recorded at each move that ends one. -/
theorem length_exchanges_step (h : b.step m = some q) :
    (BridgeNote.exchanges q.2).length = if m.isAnswer then 1 else 0 := by
  cases step_cases h with
  | @turned j t p next notes hp hgoing hnext =>
    rw [exchanges_pollStep hnext]
    cases t <;> rfl
  | connected | cancelled | posted | unconnected | unposted | delivered | fetched | put
  | announced => rfl

theorem length_exchanges_run (h : b.run moves = some q) :
    (BridgeNote.exchanges q.2).length = moves.countP Move.isAnswer := by
  refine run_induction
    (P := fun moves p => (BridgeNote.exchanges p.2).length = moves.countP Move.isAnswer) rfl ?_ h
  intro moves p m q _ hp hstep
  rw [exchanges_append, List.length_append, hp, length_exchanges_step (q := q) hstep,
    List.countP_append, List.countP_singleton]

/-- The history grows by what the notes of a move say was recorded. -/
theorem history_step (h : b.step m = some q) :
    q.1.history = (BridgeNote.exchanges q.2).foldl History.record b.history := by
  cases step_cases h with
  | connected => exact (alike_connect b).history_eq
  | cancelled => exact (alike_cancel b).history_eq
  | turned hp hgoing hnext => rw [exchanges_pollStep hnext]
  | posted | unconnected | unposted | delivered | fetched | put | announced => rfl

theorem history_run (h : b.run moves = some q) :
    q.1.history = (BridgeNote.exchanges q.2).foldl History.record b.history := by
  refine run_induction
    (P := fun _ p => p.1.history = (BridgeNote.exchanges p.2).foldl History.record b.history) rfl ?_ h
  intro moves p m q _ hp hstep
  have hq : q.1.history = _ := history_step hstep
  rw [hq, hp, exchanges_append, List.foldl_append]

/-- A poll is left alone by all but its own moves and those that end polls. -/
theorem kept_step (hsupersedes : m.supersedes = false) (hm : m.isPoll k = false)
    (h : b.step m = some q) : q.1.polls[k]? = b.polls[k]? := by
  cases step_cases h with
  | connected | cancelled => cases hsupersedes
  | @turned j =>
    have hne : j ≠ k := by simpa [Move.isPoll] using hm
    exact List.getElem?_set_ne hne
  | posted | unconnected | unposted | delivered | fetched | put | announced => rfl

/-! ### A whole run -/

theorem shownBy_sublist (h : b.run moves = some q) : (shownBy k b moves).Sublist q.2 := by
  induction moves generalizing b q with
  | nil => exact List.nil_sublist _
  | cons m moves ih =>
    obtain ⟨p, more, hstep, hrun, hnotes⟩ := run_cons.1 h
    simp only [shownBy, hstep, hnotes]
    refine List.Sublist.append ?_ (ih (q := (q.1, more)) hrun)
    split
    · exact List.Sublist.refl _
    · exact List.nil_sublist _

theorem repliesTo_of_other (hm : m.isPoll k = false) : repliesTo k [m] = [] := by
  cases m with
  | poll j t =>
    have hne : j ≠ k := by simpa [Move.isPoll] using hm
    cases t with
    | answered reply => simp [repliesTo, hne]
    | begin | rested => rfl
  | _ => rfl

theorem repliesTo_append (moves more : List Move) :
    repliesTo k (moves ++ more) = repliesTo k moves ++ repliesTo k more := List.filterMap_append

/-- Nothing is said in the name of a poll but by its own moves. -/
theorem filter_run (h : b.run moves = some q) :
    q.2.filter (fun n => n.poll? == some k) =
      (shownBy k b moves).filter (fun n => n.poll? == some k) := by
  induction moves generalizing b q with
  | nil =>
    cases h
    rfl
  | cons m moves ih =>
    obtain ⟨p, more, hstep, hrun, hnotes⟩ := run_cons.1 h
    have hlater := ih (q := (q.1, more)) hrun
    simp only [shownBy, hstep, hnotes, List.filter_append, hlater]
    split
    · rfl
    · next hm =>
      have hothers : p.2.filter (fun n => n.poll? == some k) = [] := by
        rw [List.filter_eq_nil_iff]
        intro n hn hk
        obtain ⟨t, rfl⟩ := (poll_of_step hstep hn).1 k (beq_iff_eq.1 hk)
        exact hm (beq_self_eq_true k)
      rw [hothers]
      rfl

theorem isSome_turn {phase : PollPhase} (hphase : b.polls[k]? = some { phase }) (t : PollTurn) :
    (b.step (.poll k t)).isSome = phase.awaits b.delay t := by
  rw [step, pollTurn_eq hphase rfl, Option.isSome_map, pollStep_isSome]

/-- A poll that nobody has ended goes to its next phase. -/
theorem step_turn {phase next : PollPhase} {t : PollTurn} {notes : List BridgeNote}
    (hphase : b.polls[k]? = some { phase }) (h : pollStep b.delay k phase t = some (next, notes)) :
    ∃ b', b.step (.poll k t) = some (b', notes) ∧ b'.polls[k]? = some { phase := next } ∧
      b'.delay = b.delay := by
  have hlt : k < b.polls.length := (List.getElem?_eq_some_iff.1 hphase).1
  have hstep : b.step (.poll k t) = _ := pollTurn_eq hphase rfl t
  rw [h] at hstep
  exact ⟨_, hstep, List.getElem?_set_self hlt, rfl⟩

/-- Where a poll is that nobody has ended. -/
structure Follows (k : Nat) (delay : Option Nat) (replies : List Reply) (shown : List BridgeNote)
    (b : Bridge) : Prop where
  delay_eq : b.delay = delay
  polled : ∃ phase, b.polls[k]? = some { phase } ∧ Polled k delay replies phase shown

theorem polls_connect (hcredentials : b.endpoint.hasCredentials = true) :
    b.connect.polls[b.polls.length]? = some { phase := .starting } := by
  have hlength : b.polls.length = b.cancel.polls.length := (cancel_length b).symm
  rw [connect, if_pos hcredentials, hlength]
  exact List.getElem?_concat_length

theorem follows_connect (hcredentials : b.endpoint.hasCredentials = true) :
    Follows b.polls.length b.delay [] [] b.connect :=
  ⟨(alike_connect b).delay_eq, .starting, polls_connect hcredentials, .starting⟩

theorem follows_step {replies : List Reply} {shown : List BridgeNote}
    (hm : m.supersedes = false) (hb : Follows k delay replies shown b) (h : b.step m = some q) :
    Follows k delay (replies ++ repliesTo k [m]) (shown ++ if m.isPoll k then q.2 else []) q.1 := by
  obtain ⟨hdelay, phase, hphase, hpolled⟩ := hb
  refine ⟨(fixed_step h).2.trans hdelay, ?_⟩
  cases hpoll : m.isPoll k with
  | false =>
    rw [repliesTo_of_other hpoll, kept_step hm hpoll h]
    simpa using ⟨phase, hphase, hpolled⟩
  | true =>
    obtain ⟨t, rfl⟩ : ∃ t, m = .poll k t := by
      cases m with
      | poll j t => exact ⟨t, by rw [beq_iff_eq.1 hpoll]⟩
      | _ => cases hpoll
    rw [step, pollTurn_eq hphase rfl, hdelay] at h
    obtain ⟨⟨next, notes⟩, hnext, rfl⟩ := Option.map_eq_some_iff.1 h
    have hlt : k < b.polls.length := (List.getElem?_eq_some_iff.1 hphase).1
    exact ⟨next, List.getElem?_set_self hlt, polled_turn hpolled hnext⟩

theorem follows_run {replies : List Reply} {shown : List BridgeNote}
    (hmoves : ∀ m ∈ moves, m.supersedes = false) (hb : Follows k delay replies shown b)
    (h : b.run moves = some q) :
    Follows k delay (replies ++ repliesTo k moves) (shown ++ shownBy k b moves) q.1 := by
  induction moves generalizing b q replies shown with
  | nil =>
    cases h
    simpa [repliesTo, shownBy] using hb
  | cons m moves ih =>
    obtain ⟨p, more, hstep, hrun, -⟩ := run_cons.1 h
    obtain ⟨hm, hrest⟩ := List.forall_mem_cons.1 hmoves
    have hend := ih (q := (q.1, more)) hrest (follows_step hm hb hstep) hrun
    have hreplies : repliesTo k (m :: moves) = repliesTo k [m] ++ repliesTo k moves :=
      repliesTo_append [m] moves
    simp only [shownBy, hstep, hreplies]
    rwa [List.append_assoc, List.append_assoc] at hend

theorem runs_cons {p : Bridge × List BridgeNote} (hstep : b.step m = some p)
    (hrun : p.1.run moves = some q) : b.run (m :: moves) = some (q.1, p.2 ++ q.2) :=
  run_cons.2 ⟨p, q.2, hstep, hrun, rfl⟩

/-- From any failures to a last reply, a poll that asks can make its turns. -/
theorem run_rounds {failed : List Reply} (hfailed : ∀ r ∈ failed, r.isFailure = true) (reply : Reply)
    (hasking : b.polls[k]? = some { phase := .asking }) {d : Nat} (hdelay : b.delay = some d) :
    ∃ q, b.run (failed.flatMap (fun r => [.poll k (.answered r), .poll k .rested]) ++
      [.poll k (.answered reply)]) = some q := by
  induction failed generalizing b with
  | nil =>
    have hsome : (b.step (.poll k (.answered reply))).isSome = true := isSome_turn hasking _
    obtain ⟨q, hq⟩ := Option.isSome_iff_exists.1 hsome
    exact ⟨_, runs_cons hq rfl⟩
  | cons r failed ih =>
    obtain ⟨hr, hrest⟩ := List.forall_mem_cons.1 hfailed
    obtain ⟨b₁, hfailure, hdelaying, hdelay₁⟩ := step_turn hasking (pollStep_failure hr)
    obtain ⟨b₂, hrested, hasking₂, hdelay₂⟩ := step_turn (t := .rested) hdelaying (by
      rw [hdelay₁, hdelay]
      rfl)
    obtain ⟨q, hq⟩ := ih hrest hasking₂ (hdelay₂.trans (hdelay₁.trans hdelay))
    exact ⟨_, runs_cons hfailure (runs_cons hrested hq)⟩

/-- What a poll with a number does that nobody ends. -/
structure AsksUntilAnswered (k : Nat) (b : Bridge) (moves : List Move)
    (q : Bridge × List BridgeNote) : Prop where
  /-- It asks, is answered and waits in turns, and there is no other way for it to go on. -/
  polled : ∃ phase, q.1.polls[k]? = some { phase } ∧
    Polled k b.delay (repliesTo k moves) phase (shownBy k b.connect moves) ∧
    ∀ t, (q.1.step (.poll k t)).isSome = phase.awaits b.delay t
  /-- What it shows is seen in this order, and nobody else says anything in its name. -/
  seen : (shownBy k b.connect moves).Sublist q.2 ∧
    q.2.filter (fun n => n.poll? == some k) =
      (shownBy k b.connect moves).filter (fun n => n.poll? == some k)
  /-- One exchange is recorded for each reply that anybody got; for a reply to the poll it says how
  much came back, or why nothing did. -/
  recorded : (BridgeNote.exchanges q.2).length = moves.countP Move.isAnswer ∧
    ((repliesTo k moves).map Reply.entry).Sublist (BridgeNote.exchanges q.2)
  /-- The history has one entry for each exchange that was recorded, its own among them. -/
  history_eq : q.1.history = (BridgeNote.exchanges q.2).foldl History.record b.history
  /-- These are its last entries, as far as there is room. -/
  entries_eq : b.history.entries.length ≤ b.history.capacity →
    q.1.history.entries = latest b.history.capacity (b.history.entries ++ BridgeNote.exchanges q.2)

/-- Whoever connects starts a poll that asks until it is answered, whatever else happens, if it is not
ended; and it can be given any replies. -/
theorem poll_asks_until_answered (hcredentials : b.endpoint.hasCredentials = true) :
    (∀ (moves : List Move) (q : Bridge × List BridgeNote),
      (∀ m ∈ moves, m.supersedes = false) → b.connect.run moves = some q →
        AsksUntilAnswered b.polls.length b moves q) ∧
    (b.delay.isSome = true → ∀ (failed : List Reply) (reply : Reply),
      (∀ r ∈ failed, r.isFailure = true) →
        ∃ q, b.connect.run (rounds b.polls.length failed reply) = some q) := by
  have hconnect : Follows b.polls.length b.delay [] [] b.connect := follows_connect hcredentials
  constructor
  · intro moves q hmoves hrun
    obtain ⟨hdelay, phase, hphase, hpolled⟩ := follows_run hmoves hconnect hrun
    have hhistory := history_run hrun
    rw [(alike_connect b).history_eq] at hhistory
    refine ⟨⟨phase, hphase, by simpa using hpolled, fun t => ?_⟩,
      ⟨shownBy_sublist hrun, filter_run hrun⟩, ⟨length_exchanges_run hrun, ?_⟩, hhistory,
      fun hroom => ?_⟩
    · rw [isSome_turn hphase, hdelay]
    · have hshown := exchanges_polled hpolled
      rw [List.nil_append, List.nil_append] at hshown
      rw [← hshown]
      exact (shownBy_sublist hrun).filterMap _
    · rw [hhistory, History.entries_foldl _ hroom]
  · intro hdelay failed reply hfailed
    obtain ⟨d, hdelay⟩ := Option.isSome_iff_exists.1 hdelay
    obtain ⟨b₁, hbegin, hasking, hdelay₁⟩ :=
      step_turn (t := .begin) (polls_connect hcredentials) rfl
    obtain ⟨q, hq⟩ := run_rounds hfailed reply hasking
      (hdelay₁.trans ((alike_connect b).delay_eq.trans hdelay))
    exact ⟨_, runs_cons hbegin hq⟩

/-- Nobody is found at first, then the answer breaks off, then the bridge is busy, and then it lists a
light. Each failure is told of in its own words, and there is an entry for each exchange. -/
theorem poll_asks_until_answered_of_four :
    let b : Bridge := { endpoint := { host := "bridge", username := "user" } }
    let failed : List Reply :=
      [.lost (some "connection refused"), .cut 200 (some "end of file"), .answered 503 ""]
    let body := "\x7b\"groups\":\x7b\x7d,\"lights\":\x7b\"1\":\x7b\"name\":\"Lamp\"\x7d\x7d\x7d"
    let moves := rounds 0 failed (.answered 200 body)
    let texts := ["http get error: connection refused", "http read error: end of file",
      "bridge returned http status 503 Service Unavailable"]
    ∃ q, b.endpoint.hasCredentials = true ∧ b.connect.run moves = some q ∧
      q.1.polls = [⟨.over, false⟩] ∧ q.2.countP BridgeNote.isNews = 4 ∧
      q.2.filterMap BridgeNote.errorText? = texts ∧
      q.1.history.entries.map (·.error) = texts.map some ++ [none] ∧
      AsksUntilAnswered 0 b moves q := by
  intro b failed body moves texts
  have hcredentials : b.endpoint.hasCredentials = true := by decide +kernel
  have hrun : ((b.connect.run moves).any fun q =>
      q.1.polls = [⟨.over, false⟩] && q.2.countP BridgeNote.isNews == 4 &&
        q.2.filterMap BridgeNote.errorText? == texts &&
        q.1.history.entries.map (·.error) == texts.map some ++ [none]) = true := by decide +kernel
  obtain ⟨q, hrun, hq⟩ := (Option.any_eq_true _ _).1 hrun
  simp only [Bool.and_eq_true, beq_iff_eq, decide_eq_true_eq] at hq
  obtain ⟨⟨⟨hpolls, hnews⟩, htexts⟩, hentries⟩ := hq
  exact ⟨q, hcredentials, hrun, hpolls, hnews, htexts, hentries,
    (poll_asks_until_answered hcredentials).1 moves q (by decide +kernel) hrun⟩

end Bridge

end LightBridge
