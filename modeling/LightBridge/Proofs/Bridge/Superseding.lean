import LightBridge.Proofs.Bridge.Polls
import LightBridge.Proofs.Splits

/-! Polls that take each other's place. Connecting starts a poll and ends the one before, cancelling
only ends it. So whatever else happens meanwhile, a poll goes on exactly as long as it is the one that
the last connecting started and nobody has cancelled since, and all that polls ask for or publish
comes from that one. -/

namespace LightBridge

namespace BridgeNote

/-- The poll that a note tells of. -/
def poll? : BridgeNote → Option Nat
  | .requested k _ | .published k _ => k
  | .recorded _ => none
  | .delayed k _ => some k

def isRecord : BridgeNote → Bool
  | .recorded _ => true
  | _ => false

/-- Whether a note tells of an inventory that came in, or of a request for one that failed. -/
def isNews : BridgeNote → Bool
  | .published _ (.inventoryReady _) | .published _ (.transportError _) => true
  | _ => false

end BridgeNote

namespace Bridge

namespace Move

/-- Whether a move ends the current poll. -/
def supersedes : Move → Bool
  | .connect | .cancel => true
  | _ => false

/-- Whether somebody who is no poll asks or reports something. -/
def isOthers : Move → Bool
  | .deliver _ _ | .fetch _ | .put _ _ _ | .announce _ => true
  | _ => false

end Move

/-- The poll with this number was started by the last connecting, and nobody has cancelled since.
Polls are numbered in the order in which they are started. -/
def Latest (k : Nat) (moves : List Move) : Prop :=
  ∃ before after, moves = before ++ .connect :: after ∧ before.countP Move.isConnect = k ∧
    ∀ m ∈ after, m.supersedes = false

section

variable {k : Nat} {moves : List Move} {m : Move}

theorem latest_connect : Latest k (moves ++ [.connect]) ↔ k = moves.countP Move.isConnect := by
  constructor
  · rintro ⟨before, after, hmoves, rfl, hafter⟩
    rcases split_concat hmoves with ⟨-, rfl, -⟩ | ⟨rest, rfl, -⟩
    · rfl
    · cases hafter .connect (by simp)
  · rintro rfl
    exact ⟨moves, [], rfl, rfl, by simp⟩

/-- Nothing but connecting and cancelling makes another poll the latest one. -/
theorem latest_concat (hm : m.isConnect = false) :
    Latest k (moves ++ [m]) ↔ m.supersedes = false ∧ Latest k moves := by
  constructor
  · rintro ⟨before, after, hmoves, hk, hafter⟩
    rcases split_concat hmoves with ⟨-, -, rfl⟩ | ⟨rest, rfl, rfl⟩
    · cases hm
    · obtain ⟨hrest, hlast⟩ := List.forall_mem_append.1 hafter
      exact ⟨hlast m (by simp), before, rest, rfl, hk, hrest⟩
  · rintro ⟨hm, before, after, rfl, hk, hafter⟩
    refine ⟨before, after ++ [m], by simp, hk, List.forall_mem_append.2 ⟨hafter, ?_⟩⟩
    simpa using hm

end

variable {b : Bridge} {m : Move} {moves : List Move} {q : Bridge × List BridgeNote}

/-! ### One move -/

/-- Polls are numbered, and all but the latest were cancelled. -/
structure Numbered (moves : List Move) (b : Bridge) : Prop where
  tidy : b.Tidy
  count : b.polls.length = moves.countP Move.isConnect
  going_iff : ∀ k p, b.polls[k]? = some p → (p.cancelled = false ↔ Latest k moves)

theorem numbered_fresh (endpoint : Endpoint) (delay : Option Nat) :
    Numbered [] { endpoint, delay } :=
  ⟨tidy_fresh endpoint delay, rfl, by simp⟩

/-- The polls are as they were but for their phases. -/
theorem Numbered.same {b' : Bridge} (h : Numbered moves b) (hm : m.supersedes = false)
    (htidy : b'.Tidy) (hlength : b'.polls.length = b.polls.length)
    (hpolls : ∀ (k : Nat) (p : Poll), b'.polls[k]? = some p →
      ∃ p', b.polls[k]? = some p' ∧ p.cancelled = p'.cancelled) : Numbered (moves ++ [m]) b' := by
  have hconnect : m.isConnect = false := by cases m <;> first | rfl | cases hm
  refine ⟨htidy, ?_, fun k p hp => ?_⟩
  · rw [hlength, h.count, List.countP_append, List.countP_singleton, hconnect]
    rfl
  · obtain ⟨p', hp', hsame⟩ := hpolls k p hp
    rw [hsame, h.going_iff k p' hp', latest_concat hconnect]
    exact (and_iff_right hm).symm

theorem cancel_length (b : Bridge) : b.cancel.polls.length = b.polls.length := by
  unfold cancel
  split
  · rfl
  · exact List.length_modify _ _ _

theorem numbered_step (hcredentials : b.endpoint.hasCredentials = true) (hb : Numbered moves b)
    (h : b.step m = some q) : Numbered (moves ++ [m]) q.1 := by
  have htidy : q.1.Tidy := tidy_step hb.tidy h
  have hstill : ∀ {k : Nat} {p : Poll}, b.cancel.polls[k]? = some p → p.cancelled = true :=
    fun hp => still_cancel hb.tidy _ (List.mem_of_getElem? hp)
  cases step_cases h with
  | connected =>
    have hpolls : b.connect.polls = b.cancel.polls ++ [({} : Poll)] := by
      rw [connect, if_pos hcredentials]
    have hcount := (cancel_length b).trans hb.count
    refine ⟨htidy, ?_, fun k p hp => ?_⟩
    · simp [hpolls, hcount, Move.isConnect]
    · -- The new poll stands behind those that were there, which were all cancelled.
      rw [latest_connect, ← hcount]
      dsimp only at hp
      rw [hpolls, List.getElem?_append] at hp
      split at hp
      · next hlt => simp [hstill hp, Nat.ne_of_lt hlt]
      · next hge =>
        obtain ⟨hlt, rfl⟩ := List.getElem?_eq_some_iff.1 hp
        rw [List.length_singleton] at hlt
        simp only [List.getElem_singleton, true_iff]
        omega
  | cancelled =>
    refine ⟨htidy, ?_, fun k p hp => ?_⟩
    · rw [cancel_length, hb.count]
      simp [Move.isConnect]
    · rw [hstill hp, latest_concat rfl]
      simp [Move.supersedes]
  | @turned k t p next notes hp =>
    refine hb.same rfl htidy List.length_set fun j x hx => ?_
    rw [List.getElem?_set] at hx
    split at hx
    · next heq =>
      subst heq
      split at hx
      · cases hx
        exact ⟨p, hp, rfl⟩
      · cases hx
    · exact ⟨x, hx, rfl⟩
  | posted | unconnected | unposted | delivered | fetched | put | announced =>
    exact hb.same rfl htidy rfl fun k p hp => ⟨p, hp, rfl⟩

theorem numbered_run {endpoint : Endpoint} {delay : Option Nat}
    (hcredentials : endpoint.hasCredentials = true)
    (h : run { endpoint, delay } moves = some q) : Numbered moves q.1 := by
  refine (run_induction (P := fun moves p => p.1.endpoint = endpoint ∧ Numbered moves p.1)
    ⟨rfl, numbered_fresh endpoint delay⟩ ?_ h).2
  rintro moves p m q - ⟨hendpoint, hp⟩ hstep
  exact ⟨(fixed_step (q := q) hstep).1.trans hendpoint,
    numbered_step (q := q) (hendpoint ▸ hcredentials) hp hstep⟩

/-! ### What polls ask for and publish -/

/-- A poll says all in its own name, but for what is recorded. -/
theorem poll_of_pollStep {delay : Option Nat} {k : Nat} {phase next : PollPhase} {t : PollTurn}
    {notes : List BridgeNote} (h : pollStep delay k phase t = some (next, notes)) :
    ∀ n ∈ notes, n.poll? = some k ∨ n.isRecord = true := by
  unfold pollStep at h
  split at h
  · cases h
    simp [BridgeNote.poll?]
  · next reply =>
    have hseen : ∀ n ∈ .recorded (Exchange.ofInventory reply) ::
        (eventOf? reply).toList.map (BridgeNote.published (some k)),
        n.poll? = some k ∨ n.isRecord = true := by
      simp [BridgeNote.isRecord, BridgeNote.poll?]
    dsimp only at h
    split at h
    · cases h
      exact List.forall_mem_append.2 ⟨hseen, by simp [BridgeNote.poll?]⟩
    · cases h
      exact hseen
  · obtain ⟨d, -, h⟩ := Option.map_eq_some_iff.1 h
    cases h
    simp [BridgeNote.poll?]
  · cases h

/-- What is not done by a poll is not done in the name of one. -/
theorem silent_step (hm : ∀ k t, m ≠ .poll k t) (h : b.step m = some q) :
    ∀ n ∈ q.2, n.poll? = none ∧ n.isNews = false := by
  cases step_cases h with
  | turned => exact absurd rfl (hm _ _)
  | connected | cancelled | posted | unconnected | unposted => simp
  | delivered | fetched | put | announced => simp [BridgeNote.poll?, BridgeNote.isNews]

theorem poll_of_step (h : b.step m = some q) {n : BridgeNote} (hn : n ∈ q.2) :
    (∀ k, n.poll? = some k → ∃ t, m = .poll k t) ∧
      (n.poll? = none → n.isRecord = true ∨ m.isOthers = true) := by
  cases step_cases h with
  | turned hp hgoing hnext =>
    rcases poll_of_pollStep hnext n hn with hpoll | hrecord
    · simp [hpoll]
    · have hnone : n.poll? = none := by cases n <;> first | rfl | cases hrecord
      simp [hnone, hrecord]
  | connected | cancelled | posted | unconnected | unposted => cases hn
  | delivered | fetched | put | announced =>
    have hnone : n.poll? = none := (silent_step (by simp) h n hn).1
    refine ⟨fun k hk => ?_, fun _ => Or.inr rfl⟩
    rw [hnone] at hk
    cases hk

/-- Without a poll that goes on, nothing is said in the name of one. -/
theorem still_silent (hb : b.Still) (h : b.step m = some q) :
    ∀ n ∈ q.2, n.poll? = none ∧ n.isNews = false := by
  refine silent_step ?_ h
  rintro k t rfl
  obtain ⟨p, hp, hgoing⟩ := going_of_turn h
  rw [hb p (List.mem_of_getElem? hp)] at hgoing
  cases hgoing

theorem still_run (hb : b.Still) (hmoves : ∀ m ∈ moves, m.isConnect = false)
    (h : b.run moves = some q) : q.2.countP BridgeNote.isGet = moves.countP Move.isFetch ∧
      ∀ n ∈ q.2, n.poll? = none ∧ n.isNews = false := by
  induction moves generalizing b q with
  | nil =>
    cases h
    simp
  | cons m moves ih =>
    obtain ⟨p, more, hstep, hrun, hnotes⟩ := run_cons.1 h
    obtain ⟨hm, hrest⟩ := List.forall_mem_cons.1 hmoves
    obtain ⟨hstill, hgets⟩ := still_step hb hm hstep
    obtain ⟨hlater, hsilent⟩ := ih (q := (q.1, more)) hstill hrest hrun
    rw [hnotes]
    refine ⟨?_, List.forall_mem_append.2 ⟨still_silent hb hstep, hsilent⟩⟩
    rw [List.countP_append, hgets, hlater, List.countP_cons, Nat.add_comm]

/-! ### A whole run -/

/-- Only the latest poll goes on. -/
structure OnlyLatest (moves : List Move) (b : Bridge) : Prop where
  count : b.polls.length = moves.countP Move.isConnect
  /-- At most one poll was not cancelled. -/
  unique : ∀ {j k : Nat} {p p' : Poll}, b.polls[j]? = some p → b.polls[k]? = some p' →
    p.cancelled = false → p'.cancelled = false → j = k
  /-- It is the one that was started last, unless it was cancelled since. -/
  going_iff : ∀ {k : Nat} {p : Poll}, b.polls[k]? = some p → (p.cancelled = false ↔ Latest k moves)
  /-- It goes on with what it waits for, and no other one does. -/
  goes_on_iff : ∀ {k : Nat} {p : Poll} (t : PollTurn), b.polls[k]? = some p →
    ((b.step (.poll k t)).isSome ↔ Latest k moves ∧ (pollStep b.delay k p.phase t).isSome)
  /-- What a poll asks for or publishes now comes from it; what is not said by a poll comes from
  somebody else. -/
  said : ∀ {m : Move} {q : Bridge × List BridgeNote} {n : BridgeNote}, b.step m = some q → n ∈ q.2 →
    (∀ k, n.poll? = some k → Latest k moves) ∧
      (n.poll? = none → n.isRecord = true ∨ m.isOthers = true)
  /-- If it is cancelled now, then until somebody connects no poll says anything more: others alone
  ask for the inventory, and there is no news of it. -/
  silenced : ∀ {later : List Move} {q : Bridge × List BridgeNote},
    (∀ m ∈ later, m.isConnect = false) → b.run (.cancel :: later) = some q →
    q.2.countP BridgeNote.isGet = later.countP Move.isFetch ∧
      ∀ n ∈ q.2, n.poll? = none ∧ n.isNews = false

theorem Tidy.unique (h : b.Tidy) {j k : Nat} {p p' : Poll} (hp : b.polls[j]? = some p)
    (hp' : b.polls[k]? = some p') (hj : p.cancelled = false) (hk : p'.cancelled = false) : j = k := by
  have hcurrent : ∀ {i : Nat} {x : Poll}, b.polls[i]? = some x → x.cancelled = false →
      b.current = some i := fun hx hgoing => (h _ _ hx).resolve_left (by simp [hgoing])
  exact Option.some_inj.1 ((hcurrent hp hj).symm.trans (hcurrent hp' hk))

/-- Polls are started, cancelled and go on in any order, and other things happen in between: at every
moment only the poll that the last connecting started goes on, if it was not cancelled since. -/
theorem only_latest_poll_goes_on {endpoint : Endpoint} {delay : Option Nat} {notes : List BridgeNote}
    (hcredentials : endpoint.hasCredentials = true)
    (hrun : run { endpoint, delay } moves = some (b, notes)) : OnlyLatest moves b := by
  have hb : Numbered moves b := numbered_run hcredentials hrun
  refine ⟨hb.count, hb.tidy.unique, fun hp => hb.going_iff _ _ hp, ?goes_on_iff, ?said, ?silenced⟩
  case goes_on_iff =>
    intro k p t hp
    rw [step, ← hb.going_iff k p hp]
    cases hgoing : p.cancelled with
    | true =>
      have hnone : b.pollTurn k t = none := by simp [pollTurn, hp, hgoing]
      simp [hnone]
    | false => simp [pollTurn_eq hp hgoing]
  case said =>
    intro m q n hstep hn
    obtain ⟨hsaid, hnone⟩ := poll_of_step hstep hn
    refine ⟨fun k hk => ?_, hnone⟩
    obtain ⟨t, rfl⟩ := hsaid k hk
    obtain ⟨p, hp, hgoing⟩ := going_of_turn hstep
    exact (hb.going_iff k p hp).1 hgoing
  case silenced =>
    intro later q hlater hcancelled
    obtain ⟨p, more, hcancel, hafter, hnotes⟩ := run_cons.1 hcancelled
    obtain rfl : (b.cancel, []) = p := Option.some_inj.1 hcancel
    obtain rfl : q.2 = more := hnotes
    exact still_run (still_cancel hb.tidy) hlater hafter

/-- Somebody connects while a poll waits for a reply; the second poll finds nobody and is about to ask
once more. -/
theorem only_latest_poll_goes_on_of_two :
    let endpoint : Endpoint := { host := "bridge", username := "user" }
    let moves : List Move := [.connect, .poll 0 .begin, .connect, .poll 1 .begin,
      .poll 1 (.answered .lost)]
    ∃ b notes, endpoint.hasCredentials = true ∧ run { endpoint } moves = some (b, notes) ∧
      b.polls = [⟨.asking, true⟩, ⟨.delaying, false⟩] ∧ OnlyLatest moves b := by
  intro endpoint moves
  have hcredentials : endpoint.hasCredentials = true := by decide +kernel
  have hrun : ((run { endpoint } moves).any fun p =>
      p.1.polls = [⟨.asking, true⟩, ⟨.delaying, false⟩]) = true := by decide +kernel
  obtain ⟨⟨b, notes⟩, hrun, hpolls⟩ := (Option.any_eq_true _ _).1 hrun
  exact ⟨b, notes, hcredentials, hrun, of_decide_eq_true hpolls,
    only_latest_poll_goes_on hcredentials hrun⟩

end Bridge

end LightBridge
