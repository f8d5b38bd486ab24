import LightBridge.Proofs.Session.LifeCycle
import LightBridge.Proofs.Session.Runs
import Mathlib.Data.List.Induction

/-! How many frames of a session may be late. The first so many that are late cost nothing else, in
whatever order they come among those that are accepted, and an accepted one makes up for none. The
first result that decides how the session ends is the last one. -/

namespace LightBridge

/-- How a session ends because of a result, after the results before it, when so many frames may be
late. It goes on where there is no answer. -/
def Delivery.decides (budget : Nat) (before : List Delivery) : Delivery → Option Outcome
  | .accepted => none
  | .late => if before.count .late < budget then none else some (.writeFailed "timed out")
  | .closedByPeer => some .peerClosed
  | .broken reason => some (.writeFailed reason)

namespace Session

/-- How the sending of each frame ended, in order. -/
def deliveries (moves : List Move) : List Delivery :=
  moves.filterMap fun m => match m with
    | .turn _ (.sent d) => some d
    | _ => none

/-- No result decides how the session ends. -/
def Undecided (budget : Nat) (results : List Delivery) : Prop :=
  ∀ before d after, results = before ++ d :: after → d.decides budget before = none

variable {budget : Nat} {results : List Delivery} {d : Delivery} {outcome : Outcome}

theorem deliveries_append (a b : List Move) : deliveries (a ++ b) = deliveries a ++ deliveries b :=
  List.filterMap_append

theorem undecided_nil (budget : Nat) : Undecided budget [] := by
  intro before d after h
  simp at h

theorem undecided_concat :
    Undecided budget (results ++ [d]) ↔
      Undecided budget results ∧ d.decides budget results = none := by
  constructor
  · intro h
    refine ⟨fun before e after heq => h before e (after ++ [d]) (by simp [heq]), h results d [] rfl⟩
  · rintro ⟨hresults, hd⟩ before e after heq
    rcases split_concat heq with ⟨-, rfl, rfl⟩ | ⟨rest, -, hrest⟩
    · exact hd
    · exact hresults before e rest hrest

theorem Undecided.of_prefix {more : List Delivery} (h : Undecided budget (results ++ more)) :
    Undecided budget results := by
  intro before d after heq
  exact h before d (after ++ more) (by simp [heq])

/-- Only the last result can decide anything where all before it did not. -/
theorem eq_of_decided {before after last : List Delivery} {e : Delivery}
    (hlast : Undecided budget last) (heq : last ++ [e] = before ++ d :: after)
    (hd : d.decides budget before = some outcome) : last = before ∧ e = d ∧ after = [] := by
  rcases split_concat heq with ⟨hafter, hbefore, he⟩ | ⟨rest, -, hrest⟩
  · exact ⟨hbefore, he, hafter⟩
  · rw [hlast before d rest hrest] at hd
    cases hd

/-! ### What was sent by the time of a phase -/

/-- Whether the transport broke down in the middle of a call. -/
def BrokeDown (moves : List Move) : Prop := ∃ m ∈ moves, m.returns = false

/-- Whether a session that had shaken hands was told to stop, or broke down. -/
def Excused (moves : List Move) : Prop :=
  moves.any Move.shakes = true → .stop ∈ moves ∨ BrokeDown moves

/-- The end of a session, as far as its frames tell: a result decided it, unless the goodbye broke
down, and no frame was sent after that; or none did and there is another reason. -/
def Spent (budget : Nat) (moves : List Move) (results : List Delivery) (sent : Nat)
    (outcome : Outcome) : Prop :=
  (∃ before d, results = before ++ [d] ∧ Undecided budget before ∧
    (d.decides budget before = some outcome ∨ BrokeDown moves) ∧ sent = results.length) ∨
  Undecided budget results ∧ Excused moves ∧ results.length ≤ sent

/-- The results of a session so far, and the number of frames it has sent. As long as it streams,
the late ones and those that still may be late make up the budget. -/
def Spends (budget : Nat) (moves : List Move) (results : List Delivery) (sent : Nat) : Phase → Prop
  | .idle | .connecting | .handshaking _ | .resting _ =>
    results = [] ∧ sent = 0 ∧ moves.any Move.shakes = false
  | .sending left =>
    Undecided budget results ∧ results.count .late + left = budget ∧ sent = results.length + 1
  | .pausing left =>
    Undecided budget results ∧ results.count .late + left = budget ∧ sent = results.length
  | .closing outcome | .ended outcome => Spent budget moves results sent outcome

variable {host : String} {settings : StreamSettings} {s : Session}
  {colors : List (UInt16 × Point Float)} {t : Turn} {p : Progress} {moves : List Move}
  {events : List SessionEvent} {sent left : Nat}

theorem BrokeDown.concat {m : Move} (h : BrokeDown moves) : BrokeDown (moves ++ [m]) := by
  obtain ⟨x, hx, hdied⟩ := h
  exact ⟨x, List.mem_append_left _ hx, hdied⟩

theorem Excused.concat {m : Move} (h : Excused moves) (hm : m.shakes = false) :
    Excused (moves ++ [m]) := by
  intro hshakes
  rw [List.any_append, List.any_cons, hm] at hshakes
  exact (h (by simpa using hshakes)).imp (List.mem_append_left _) BrokeDown.concat

theorem Spent.concat {m : Move} (h : Spent budget moves results sent outcome)
    (hm : m.shakes = false) : Spent budget (moves ++ [m]) results sent outcome := by
  rcases h with ⟨before, d, heq, hbefore, hd, hsent⟩ | ⟨hundecided, hexcused, hsent⟩
  · exact Or.inl ⟨before, d, heq, hbefore, hd.imp_right BrokeDown.concat, hsent⟩
  · exact Or.inr ⟨hundecided, hexcused.concat hm, hsent⟩

/-- Whether a session was told to stop shows at its end only. -/
theorem Spends.stop {phase : Phase} (h : Spends budget moves results sent phase) :
    Spends budget (moves ++ [.stop]) results sent phase := by
  cases phase with
  | sending | pausing => exact h
  | closing outcome | ended outcome => exact Spent.concat h rfl
  | _ =>
    obtain ⟨hresults, hsent, hshakes⟩ := h
    exact ⟨hresults, hsent, by simp [hshakes, Move.shakes]⟩

theorem excused_of_unshaken {m : Move} (hmoves : moves.any Move.shakes = false)
    (hm : m.shakes = false) : Excused (moves ++ [m]) := by
  intro hshakes
  simp [List.any_append, hmoves, hm] at hshakes

theorem spends_sendFrame (colors : List (UInt16 × Point Float))
    (hstopped : s.stopped = true → .stop ∈ moves) (hundecided : Undecided budget results)
    (hleft : results.count .late + left = budget) (hsent : sent = results.length) :
    Spends budget moves results (sent + (frames (s.sendFrame colors left).2).length)
      (s.sendFrame colors left).1.phase := by
  cases h : s.stopped with
  | true =>
    simp only [sendFrame, h, if_true]
    exact Or.inr ⟨hundecided, fun _ => Or.inl (hstopped h), Nat.le_of_eq hsent.symm⟩
  | false =>
    rw [(frames_sendFrame left h).1]
    simp only [sendFrame, h, Bool.false_eq_true, if_false]
    exact ⟨hundecided, hleft, by rw [hsent]; rfl⟩

/-- A result that decides nothing leaves the session in the stream. -/
theorem spends_result (hundecided : Undecided budget results) (hd : d.decides budget results = none)
    (hleft : (results ++ [d]).count .late + left = budget) (hsent : sent = results.length + 1) :
    Spends budget moves (results ++ [d]) sent (.pausing left) :=
  ⟨undecided_concat.2 ⟨hundecided, hd⟩, hleft, by rw [hsent, List.length_append]; rfl⟩

/-- A result that decides ends the session. -/
theorem spent_result (hundecided : Undecided budget results)
    (hd : d.decides budget results = some outcome) (hsent : sent = results.length + 1) :
    Spent budget moves (results ++ [d]) sent outcome :=
  Or.inl ⟨results, d, rfl, hundecided, Or.inl hd, by rw [hsent, List.length_append]; rfl⟩

theorem spends_turn (hbudget : s.settings.writeRetries.toNat = budget)
    (hstopped : s.stopped = true → .stop ∈ moves) (hs : Spends budget moves results sent s.phase)
    (h : s.turn colors t = some p) :
    Spends budget (moves ++ [.turn colors t]) (results ++ deliveries [.turn colors t])
      (sent + (frames p.2).length) p.1.phase := by
  have hstopped' : s.stopped = true → .stop ∈ moves ++ [.turn colors t] :=
    fun h => List.mem_append_left _ (hstopped h)
  cases turn_cases h with
  | begin hphase =>
    rw [hphase] at hs
    obtain ⟨rfl, rfl, hshakes⟩ := hs
    exact ⟨rfl, rfl, by simp [hshakes, Move.shakes]⟩
  | connected hphase | rested attempt hphase =>
    rw [hphase] at hs
    obtain ⟨rfl, rfl, hshakes⟩ := hs
    simp only [enter, tryHandshake]
    split
    · exact Or.inr ⟨undecided_nil budget, excused_of_unshaken hshakes rfl, Nat.zero_le _⟩
    · exact ⟨rfl, rfl, by simp [hshakes, Move.shakes]⟩
  | unconnected e hphase | unshaken attempt e hphase =>
    rw [hphase] at hs
    obtain ⟨rfl, rfl, hshakes⟩ := hs
    exact Or.inr ⟨undecided_nil budget, excused_of_unshaken hshakes rfl, Nat.zero_le _⟩
  | retried attempt e hphase =>
    rw [hphase] at hs
    obtain ⟨rfl, rfl, hshakes⟩ := hs
    exact ⟨rfl, rfl, by simp [hshakes, Move.shakes]⟩
  | shaken attempt hphase =>
    rw [hphase] at hs
    obtain ⟨rfl, rfl, -⟩ := hs
    rw [hbudget]
    exact spends_sendFrame (s := { s with state := .streaming }) colors hstopped'
      (undecided_nil budget) (Nat.zero_add budget) rfl
  | accepted left hphase =>
    rw [hphase] at hs
    obtain ⟨hundecided, hleft, hsent⟩ := hs
    exact spends_result hundecided rfl (by simpa using hleft) hsent
  | late left hphase =>
    rw [hphase] at hs
    obtain ⟨hundecided, hleft, hsent⟩ := hs
    have hd : Delivery.late.decides budget results = none := if_pos (by omega)
    refine spends_result hundecided hd ?_ hsent
    rw [List.count_append, List.count_singleton_self]
    omega
  | tooLate hphase =>
    rw [hphase] at hs
    obtain ⟨hundecided, hleft, hsent⟩ := hs
    exact spent_result hundecided (if_neg (by omega)) hsent
  | closedByPeer left hphase | broken left reason hphase =>
    rw [hphase] at hs
    obtain ⟨hundecided, hleft, hsent⟩ := hs
    exact spent_result hundecided rfl hsent
  | paused left hphase =>
    rw [hphase] at hs
    obtain ⟨hundecided, hleft, hsent⟩ := hs
    have hnext := spends_sendFrame colors hstopped' hundecided hleft hsent
    rwa [show deliveries [Move.turn colors .rested] = [] from rfl, List.append_nil]
  | notified outcome hphase =>
    rw [hphase] at hs
    rw [show deliveries [Move.turn colors .notified] = [] from rfl, List.append_nil]
    exact hs.concat rfl
  | died reason hcalling =>
    have hdown : BrokeDown (moves ++ [.turn colors (.died reason)]) :=
      ⟨_, List.mem_concat_self, rfl⟩
    have hexcused : Excused (moves ++ [.turn colors (.died reason)]) := fun _ => Or.inr hdown
    have hsilent : frames (s.abort reason).2 = [] := by
      simp only [abort]
      split <;> split <;> rfl
    rw [show deliveries [Move.turn colors (.died reason)] = [] from rfl, List.append_nil, hsilent]
    cases hphase : s.phase with
    | connecting | handshaking attempt =>
      rw [hphase] at hs
      obtain ⟨rfl, rfl, -⟩ := hs
      exact Or.inr ⟨undecided_nil budget, hexcused, Nat.le_refl _⟩
    | sending left =>
      rw [hphase] at hs
      obtain ⟨hundecided, -, rfl⟩ := hs
      exact Or.inr ⟨hundecided, hexcused, Nat.le_succ _⟩
    | closing outcome =>
      rw [hphase] at hs
      rcases hs with ⟨before, d, heq, hbefore, -, hsent⟩ | ⟨hundecided, -, hsent⟩
      · exact Or.inl ⟨before, d, heq, hbefore, Or.inr hdown, hsent⟩
      · exact Or.inr ⟨hundecided, hexcused, hsent⟩
    | _ => simp [hphase, Phase.isCalling] at hcalling

/-! ### A whole run -/

theorem spends_run (h : (toHost host settings).run moves = some (s, events)) :
    Spends settings.writeRetries.toNat moves (deliveries moves) (frames events).length s.phase := by
  have hfirst : Spends settings.writeRetries.toNat [] [] 0 (toHost host settings).phase :=
    ⟨rfl, rfl, rfl⟩
  refine run_induction (P := fun moves events s =>
    Spends settings.writeRetries.toNat moves (deliveries moves) (frames events).length s.phase)
    hfirst ?_ ?_ h
  · intro before past r _ hspends
    have hnone : deliveries (before ++ [.stop]) = deliveries before :=
      (deliveries_append _ _).trans (List.append_nil _)
    rw [hnone]
    exact hspends.stop
  · intro before past r colors t p hbefore hspends hm
    have hbudget : r.settings.writeRetries.toNat = settings.writeRetries.toNat := by
      rw [(fixed_run hbefore).1, toHost]
    rw [deliveries_append, frames_append, List.length_append]
    exact spends_turn hbudget (stopped_run hbefore).1 hspends hm

/-- All results but the last one decided nothing. -/
theorem Spends.undecided_dropLast {phase : Phase} (h : Spends budget moves results sent phase) :
    Undecided budget results.dropLast := by
  have hall : Undecided budget results → Undecided budget results.dropLast := by
    intro hundecided
    obtain ⟨last, heq⟩ := List.dropLast_prefix results
    exact Undecided.of_prefix (heq.symm ▸ hundecided)
  cases phase with
  | closing outcome | ended outcome =>
    rcases h with ⟨before, d, rfl, hbefore, -⟩ | ⟨hundecided, -⟩
    · rwa [List.dropLast_concat]
    · exact hall hundecided
  | sending left | pausing left => exact hall h.1
  | _ => exact hall (h.1 ▸ undecided_nil budget)

/-- There is a frame for every result. -/
theorem Spends.length_le {phase : Phase} (h : Spends budget moves results sent phase) :
    results.length ≤ sent := by
  cases phase with
  | closing outcome | ended outcome =>
    rcases h with ⟨-, -, -, -, -, hsent⟩ | ⟨-, -, hsent⟩
    · exact Nat.le_of_eq hsent.symm
    · exact hsent
  | sending left =>
    obtain ⟨-, -, rfl⟩ := h
    exact Nat.le_succ _
  | pausing left => exact Nat.le_of_eq h.2.2.symm
  | _ => simp [h.1]

/-- How a session whose frames may be late so often deals with the results of its frames. -/
structure Budgeted (budget : Nat) (moves : List Move) (events : List SessionEvent) (s : Session) :
    Prop where
  /-- While no result decides, every one is followed by another frame, and that frame by its
  result. -/
  goes_on : moves.any Move.shakes = true → Undecided budget (deliveries moves) →
    (∃ left, s.phase = .sending left ∧ (frames events).length = (deliveries moves).length + 1 ∧
      ∀ colors d, (s.turn colors (.sent d)).isSome) ∨
    (∃ left, s.phase = .pausing left ∧ (frames events).length = (deliveries moves).length ∧
      ∀ colors, ∃ p, s.turn colors .rested = some p ∧ p.1.phase = .sending left ∧
        frames p.2 = [Frame.encode s.seq colors])
  /-- The first result that decides is the last one, and there is no frame after it. -/
  ends : ∀ before d after outcome, deliveries moves = before ++ d :: after →
    Undecided budget before → d.decides budget before = some outcome →
    after = [] ∧ (frames events).length = (deliveries moves).length ∧
      (s.phase = .closing outcome ∨ s.phase = .ended outcome)

theorem budgeted_of_run (h : (toHost host settings).run moves = some (s, events))
    (hreturns : ∀ m ∈ moves, m.returns)
    (hstop : ∀ before after, moves = before ++ .stop :: after →
      ¬Undecided settings.writeRetries.toNat (deliveries before)) :
    Budgeted settings.writeRetries.toNat moves events s := by
  have hspends := spends_run h
  have hsound : ¬BrokeDown moves := by
    rintro ⟨m, hm, hdied⟩
    exact absurd (hreturns m hm) (by simp [hdied])
  constructor
  case goes_on =>
    intro hshakes hundecided
    have hunstopped : .stop ∉ moves := by
      intro hmem
      obtain ⟨before, after, rfl⟩ := List.append_of_mem hmem
      rw [deliveries_append] at hundecided
      exact hstop before after rfl hundecided.of_prefix
    have hnone : ¬Excused moves := by
      intro hexcused
      exact (hexcused hshakes).elim hunstopped hsound
    cases hphase : s.phase with
    | sending left =>
      rw [hphase] at hspends
      exact Or.inl ⟨left, rfl, hspends.2.2, fun _ _ => turn_of_awaits (by rw [hphase]; trivial)⟩
    | pausing left =>
      rw [hphase] at hspends
      refine Or.inr ⟨left, rfl, hspends.2.2, fun colors => ?_⟩
      have hstopped : s.stopped = false := by
        rw [← Bool.not_eq_true, stopped_run h]
        exact hunstopped
      have hsending : (s.sendFrame colors left).1.phase = .sending left := by
        simp [sendFrame, hstopped, await]
      exact ⟨_, by simp [turn, hphase], hsending, (frames_sendFrame left hstopped).1⟩
    | closing outcome | ended outcome =>
      rw [hphase] at hspends
      rcases hspends with ⟨before, d, heq, -, hd | hdown, -⟩ | ⟨-, hexcused, -⟩
      · rw [hundecided before d [] heq] at hd
        cases hd
      · exact absurd hdown hsound
      · exact absurd hexcused hnone
    | _ =>
      rw [hphase] at hspends
      rw [hspends.2.2] at hshakes
      cases hshakes
  case ends =>
    intro before d after outcome heq hbefore hd
    have hdecided : ¬Undecided settings.writeRetries.toNat (deliveries moves) := by
      intro hundecided
      rw [hundecided before d after heq] at hd
      cases hd
    cases hphase : s.phase with
    | closing o | ended o =>
      rw [hphase] at hspends
      rcases hspends with ⟨before', e, heq', hbefore', he | hdown, hsent⟩ | ⟨hundecided, -⟩
      · obtain ⟨rfl, rfl, rfl⟩ := eq_of_decided hbefore' (heq'.symm.trans heq) hd
        obtain rfl : o = outcome := Option.some_inj.1 (he.symm.trans hd)
        simp [hsent]
      · exact absurd hdown hsound
      · exact absurd hundecided hdecided
    | sending left | pausing left =>
      rw [hphase] at hspends
      exact absurd hspends.1 hdecided
    | _ =>
      rw [hphase] at hspends
      rw [hspends.1] at heq
      simp at heq

/-- Results that decide nothing can come, one after the other. -/
theorem exists_run (host : String) (settings : StreamSettings) (results : List Delivery)
    (h : Undecided settings.writeRetries.toNat results) :
    ∃ moves s events, (toHost host settings).run moves = some (s, events) ∧
      (∀ m ∈ moves, m.returns) ∧ .stop ∉ moves ∧ moves.any Move.shakes = true ∧
      deliveries moves = results ∧ ∃ left, s.phase = .sending left := by
  induction results using List.reverseRecOn with
  | nil =>
    refine ⟨[.turn [] .begin, .turn [] (.connected (.ok ())), .turn [] (.shaken (.ok ()))], _, _,
      rfl, ?_, ?_, rfl, rfl, _, rfl⟩
    · simp [Move.returns]
    · simp
  | append_singleton results d ih =>
    obtain ⟨hresults, hd⟩ := undecided_concat.1 h
    obtain ⟨moves, s, events, hrun, hreturns, hstop, hshakes, rfl, left, hphase⟩ := ih hresults
    have hsome : (s.turn [] (.sent d)).isSome := turn_of_awaits (by rw [hphase]; trivial)
    obtain ⟨p, hp⟩ := Option.isSome_iff_exists.1 hsome
    have hrun' := run_concat (m := .turn [] (.sent d)) hrun hp
    have hreturns' : ∀ m ∈ moves ++ [Move.turn [] (.sent d)], m.returns :=
      List.forall_mem_append.2 ⟨hreturns, List.forall_mem_singleton.2 rfl⟩
    have hstop' : .stop ∉ moves ++ [Move.turn [] (.sent d)] := by simpa using hstop
    have hdeliveries : deliveries (moves ++ [Move.turn [] (.sent d)]) = deliveries moves ++ [d] :=
      deliveries_append _ _
    have hnever : ∀ before after, moves ++ [Move.turn [] (.sent d)] = before ++ .stop :: after →
        ¬Undecided settings.writeRetries.toNat (deliveries before) :=
      fun before after heq => absurd (heq ▸ List.mem_append_right _ List.mem_cons_self) hstop'
    have hshakes' : (moves ++ [Move.turn [] (.sent d)]).any Move.shakes = true := by
      rw [List.any_append, hshakes, Bool.true_or]
    rw [← hdeliveries] at h
    rcases (budgeted_of_run hrun' hreturns' hnever).goes_on hshakes' h with
      ⟨left, hsending, -⟩ | ⟨left, -, -, hrested⟩
    · exact ⟨_, _, _, hrun', hreturns', hstop', hshakes', hdeliveries, left, hsending⟩
    · obtain ⟨q, hq, hsending, -⟩ := hrested []
      refine ⟨_, _, _, run_concat (m := .turn [] .rested) hrun' hq, ?_, ?_, ?_, ?_, left,
        hsending⟩
      · exact List.forall_mem_append.2 ⟨hreturns', List.forall_mem_singleton.2 rfl⟩
      · simpa using hstop
      · rw [List.any_append, hshakes', Bool.true_or]
      · rw [deliveries_append, hdeliveries]
        exact List.append_nil _

/-- Of the frames of a session so many may be late as its settings say, in whatever order they come
among those that are accepted: until a result decides, there is a frame for every result and another
one, and the first result that decides ends the session. All results that decide nothing can come,
also without end. -/
theorem late_frames_budgeted (host : String) (settings : StreamSettings) :
    (∀ moves s events, (toHost host settings).run moves = some (s, events) →
      (∀ m ∈ moves, m.returns) →
      (∀ before after, moves = before ++ .stop :: after →
        ¬Undecided settings.writeRetries.toNat (deliveries before)) →
      Budgeted settings.writeRetries.toNat moves events s) ∧
    (∀ results, Undecided settings.writeRetries.toNat results → ∃ moves s events,
      (toHost host settings).run moves = some (s, events) ∧ (∀ m ∈ moves, m.returns) ∧
      .stop ∉ moves ∧ deliveries moves = results ∧ (frames events).length = results.length + 1) ∧
    ∀ results : Nat → Delivery,
      (∀ n, (results n).decides settings.writeRetries.toNat ((List.range n).map results) = none) →
      ∀ n, ∃ moves s events, (toHost host settings).run moves = some (s, events) ∧
        (∀ m ∈ moves, m.returns) ∧ .stop ∉ moves ∧ deliveries moves = (List.range n).map results ∧
        (frames events).length = n + 1 := by
  have hfinite : ∀ results, Undecided settings.writeRetries.toNat results → ∃ moves s events,
      (toHost host settings).run moves = some (s, events) ∧ (∀ m ∈ moves, m.returns) ∧
      .stop ∉ moves ∧ deliveries moves = results ∧ (frames events).length = results.length + 1 := by
    intro results hresults
    obtain ⟨moves, s, events, hrun, hreturns, hstop, -, rfl, left, hphase⟩ :=
      exists_run host settings results hresults
    have hspends := spends_run hrun
    rw [hphase] at hspends
    exact ⟨moves, s, events, hrun, hreturns, hstop, rfl, hspends.2.2⟩
  refine ⟨fun moves s events hrun hreturns hstop => budgeted_of_run hrun hreturns hstop, hfinite,
    ?_⟩
  intro results hresults n
  have hundecided : Undecided settings.writeRetries.toNat ((List.range n).map results) := by
    induction n with
    | zero => exact undecided_nil _
    | succ n ih =>
      rw [List.range_succ, List.map_append]
      exact undecided_concat.2 ⟨ih, hresults n⟩
  obtain ⟨moves, s, events, hrun, hreturns, hstop, hdeliveries, hframes⟩ := hfinite _ hundecided
  exact ⟨moves, s, events, hrun, hreturns, hstop, hdeliveries, by simpa using hframes⟩

/-- One frame may be late. One is accepted after it was used up, and the next late one ends the
session, which is stopped only then. -/
theorem late_frames_budgeted_of_two_late :
    let moves : List Move := [.turn [] .begin, .turn [] (.connected (.ok ())),
      .turn [] (.shaken (.ok ())), .turn [] (.sent .late), .turn [] .rested,
      .turn [] (.sent .accepted), .turn [] .rested, .turn [] (.sent .late), .stop]
    ∃ s events, (toHost "bridge" { writeRetries := 1 }).run moves = some (s, events) ∧
      (∀ m ∈ moves, m.returns) ∧
      (∀ before after, moves = before ++ .stop :: after → ¬Undecided 1 (deliveries before)) ∧
      (frames events).length = 3 ∧
      (s.phase = .closing (.writeFailed "timed out") ∨
        s.phase = .ended (.writeFailed "timed out")) := by
  intro moves
  obtain ⟨s, events, hrun⟩ : ∃ s events,
      (toHost "bridge" { writeRetries := 1 }).run moves = some (s, events) := ⟨_, _, rfl⟩
  have hreturns : ∀ m ∈ moves, m.returns := by simp [moves, Move.returns]
  have hfirst : Undecided 1 ([] ++ [.late]) := undecided_concat.2 ⟨undecided_nil 1, rfl⟩
  have hundecided : Undecided 1 ([.late] ++ [.accepted]) := undecided_concat.2 ⟨hfirst, rfl⟩
  have hstop : ∀ before after, moves = before ++ .stop :: after →
      ¬Undecided 1 (deliveries before) := by
    intro before after heq h
    have hconcat : moves.dropLast ++ [.stop] = before ++ .stop :: after := heq
    rcases split_concat hconcat with ⟨-, rfl, -⟩ | ⟨rest, -, hrest⟩
    · cases h [.late, .accepted] .late [] rfl
    · have hmem : Move.stop ∈ moves.dropLast := hrest ▸ List.mem_append_right _ List.mem_cons_self
      simp [moves] at hmem
  obtain ⟨-, hframes, hphase⟩ := ((late_frames_budgeted "bridge" { writeRetries := 1 }).1 moves s
    events hrun hreturns hstop).ends [.late, .accepted] .late [] (.writeFailed "timed out") rfl
      hundecided rfl
  exact ⟨s, events, hrun, hreturns, hstop, hframes, hphase⟩

end Session

end LightBridge
