import LightBridge.Bridge
import Mathlib.Data.List.Induction

/-! The polls of a connection. At most one of them is not cancelled, the one that a cancellation ends;
after it the connection asks for nothing by itself until it is told to start another one. -/

namespace LightBridge

/-- Whether a note tells of a request for the inventory. -/
def BridgeNote.isGet : BridgeNote → Bool
  | .requested _ .inventory => true
  | _ => false

/-- The exchange that a turn ends, if it ends one. -/
def PollTurn.exchanges : PollTurn → List Exchange
  | .answered reply => [.ofInventory reply]
  | .begin | .rested => []

namespace Bridge

namespace Move

def isConnect : Move → Bool
  | .connect => true
  | _ => false

/-- Whether somebody asks for the inventory and waits for it. -/
def isFetch : Move → Bool
  | .fetch _ => true
  | _ => false

end Move

variable {b : Bridge} {m : Move} {q : Bridge × List BridgeNote}

/-- Every poll but the current one was cancelled. -/
def Tidy (b : Bridge) : Prop :=
  ∀ k p, b.polls[k]? = some p → p.cancelled = true ∨ b.current = some k

/-- Every poll was cancelled. -/
def Still (b : Bridge) : Prop := ∀ p ∈ b.polls, p.cancelled = true

theorem tidy_fresh (endpoint : Endpoint) (delay : Option Nat) : Tidy { endpoint, delay } := by
  simp [Tidy]

theorem Still.tidy (h : b.Still) : b.Tidy := fun _ _ hp => Or.inl (h _ (List.mem_of_getElem? hp))

theorem still_cancel (h : b.Tidy) : b.cancel.Still := by
  intro p hp
  obtain ⟨k, hk⟩ := List.mem_iff_getElem?.1 hp
  unfold cancel at hk
  split at hk
  · next hnone =>
    rcases h k p hk with hcancelled | hcurrent
    · exact hcancelled
    · rw [hnone] at hcurrent
      cases hcurrent
  · next j hsome =>
    simp only [List.getElem?_modify] at hk
    obtain ⟨x, hx, rfl⟩ := Option.map_eq_some_iff.1 hk
    split
    · rfl
    · next hne =>
      rcases h k x hx with hcancelled | hcurrent
      · exact hcancelled
      · rw [hsome, Option.some_inj] at hcurrent
        exact absurd hcurrent hne

theorem tidy_connect (h : b.Tidy) : b.connect.Tidy := by
  unfold connect
  split
  · intro k p hp
    have hp : (b.cancel.polls ++ [({} : Poll)])[k]? = some p := hp
    rw [List.getElem?_append] at hp
    split at hp
    · exact Or.inl (still_cancel h p (List.mem_of_getElem? hp))
    · next hge =>
      have hlt := (List.getElem?_eq_some_iff.1 hp).1
      rw [List.length_singleton] at hlt
      exact Or.inr (congrArg some (by omega))
  · exact h

/-- A poll that goes on was not cancelled. -/
theorem going_of_turn {k : Nat} {t : PollTurn} (h : b.pollTurn k t = some q) :
    ∃ p, b.polls[k]? = some p ∧ p.cancelled = false := by
  simp only [pollTurn, Option.bind_eq_bind, Option.bind_eq_some_iff] at h
  obtain ⟨p, hp, h⟩ := h
  split at h
  · cases h
  · next hgoing => exact ⟨p, hp, by simpa using hgoing⟩

/-- A turn changes the phase of the poll, and records the exchange that it ends. -/
theorem pollTurn_eq {k : Nat} {p : Poll} (hp : b.polls[k]? = some p) (hgoing : p.cancelled = false)
    (t : PollTurn) :
    b.pollTurn k t = (pollStep b.delay k p.phase t).map fun s =>
      ({ b with
        polls := b.polls.set k { p with phase := s.1 }
        history := t.exchanges.foldl History.record b.history }, s.2) := by
  simp only [pollTurn, hp, Option.bind_eq_bind, Option.bind_some, hgoing, Bool.false_eq_true,
    if_false]
  cases pollStep b.delay k p.phase t with
  | none => rfl
  | some s => cases t <;> rfl

/-- All but the polls is as it was, and they are as tidy. -/
structure Alike (b b' : Bridge) : Prop where
  endpoint_eq : b'.endpoint = b.endpoint
  delay_eq : b'.delay = b.delay
  history_eq : b'.history = b.history
  posts_eq : b'.posts = b.posts
  tidy : b.Tidy → b'.Tidy

theorem alike_same (b : Bridge) : Alike b b := ⟨rfl, rfl, rfl, rfl, id⟩

theorem alike_cancel (b : Bridge) : Alike b b.cancel := by
  have htidy : b.Tidy → b.cancel.Tidy := fun h => (still_cancel h).tidy
  revert htidy
  rw [cancel]
  split <;> exact fun htidy => ⟨rfl, rfl, rfl, rfl, htidy⟩

theorem alike_connect (b : Bridge) : Alike b b.connect := by
  have hcancel : Alike b b.cancel := alike_cancel b
  have htidy : b.Tidy → b.connect.Tidy := tidy_connect
  revert htidy
  rw [connect]
  split
  · exact fun htidy =>
      ⟨hcancel.endpoint_eq, hcancel.delay_eq, hcancel.history_eq, hcancel.posts_eq, htidy⟩
  · exact fun _ => alike_same b

/-! ### One move -/

/-- What a connection does at a move that can be made. -/
inductive Stepping (b : Bridge) : Move → Bridge × List BridgeNote → Prop
  | connected : Stepping b .connect (b.connect, [])
  | cancelled : Stepping b .cancel (b.cancel, [])
  | posted (route : String) (body : Document) : Stepping b (.post route body) (b.post route body, [])
  | unconnected : Stepping b .connectOutside (b, [])
  | unposted (route : String) (body : Document) : Stepping b (.postOutside route body) (b, [])
  | delivered {position : Nat} {post : String × Document} (reply : Reply)
    (hpost : b.posts[position]? = some post) :
    Stepping b (.deliver position reply)
      ({ b with posts := b.posts.eraseIdx position }.record
          (.ofCommand post.1 post.2 reply),
        [.requested none (.command post.1 post.2),
          .recorded (.ofCommand post.1 post.2 reply)])
  | turned {k : Nat} {t : PollTurn} {p : Poll} {next : PollPhase} {notes : List BridgeNote}
    (hp : b.polls[k]? = some p) (hgoing : p.cancelled = false)
    (hnext : pollStep b.delay k p.phase t = some (next, notes)) :
    Stepping b (.poll k t)
      ({ b with
        polls := b.polls.set k { p with phase := next }
        history := t.exchanges.foldl History.record b.history }, notes)
  | fetched (reply : Reply) :
    Stepping b (.fetch reply) (b.record (.ofInventory reply),
      [.requested none .inventory, .recorded (.ofInventory reply)])
  | put (route : String) (body : Document) (reply : Reply) :
    Stepping b (.put route body reply) (b.record (.ofCommand route body reply),
      [.requested none (.command route body), .recorded (.ofCommand route body reply)])
  | announced (outcome : Outcome) :
    Stepping b (.announce outcome) (b, [.published none (.streamStopped outcome)])

theorem step_cases (h : b.step m = some q) : Stepping b m q := by
  cases m with
  | connect =>
    obtain rfl : (b.connect, []) = q := Option.some_inj.1 h
    exact .connected
  | cancel =>
    obtain rfl : (b.cancel, []) = q := Option.some_inj.1 h
    exact .cancelled
  | deliver position reply =>
    obtain ⟨post, hpost, rfl⟩ := Option.map_eq_some_iff.1 h
    exact .delivered reply hpost
  | poll k t =>
    obtain ⟨p, hp, hgoing⟩ := going_of_turn h
    rw [step, pollTurn_eq hp hgoing] at h
    obtain ⟨⟨next, notes⟩, hnext, rfl⟩ := Option.map_eq_some_iff.1 h
    exact .turned hp hgoing hnext
  | post route body =>
    cases h
    exact .posted route body
  | connectOutside =>
    cases h
    exact .unconnected
  | postOutside route body =>
    cases h
    exact .unposted route body
  | fetch reply =>
    cases h
    exact .fetched reply
  | put route body reply =>
    cases h
    exact .put route body reply
  | announce outcome =>
    cases h
    exact .announced outcome

theorem fixed_step (h : b.step m = some q) :
    q.1.endpoint = b.endpoint ∧ q.1.delay = b.delay := by
  cases step_cases h with
  | connected => exact ⟨(alike_connect b).endpoint_eq, (alike_connect b).delay_eq⟩
  | cancelled => exact ⟨(alike_cancel b).endpoint_eq, (alike_cancel b).delay_eq⟩
  | posted | unconnected | unposted | delivered | turned | fetched | put | announced => exact ⟨rfl, rfl⟩

theorem tidy_step (hb : b.Tidy) (h : b.step m = some q) : q.1.Tidy := by
  cases step_cases h with
  | connected =>
    dsimp only
    exact tidy_connect hb
  | cancelled => exact (still_cancel hb).tidy
  | @turned k t p next notes hp hgoing hnext =>
    intro j x hx
    rw [List.getElem?_set] at hx
    split at hx
    · next heq =>
      subst heq
      split at hx
      · cases hx
        exact hb k p hp
      · cases hx
    · exact hb j x hx
  | posted | unconnected | unposted | delivered | fetched | put | announced => exact hb

theorem run_cons {moves : List Move} :
    b.run (m :: moves) = some q ↔
      ∃ p more, b.step m = some p ∧ p.1.run moves = some (q.1, more) ∧ q.2 = p.2 ++ more := by
  obtain ⟨b', notes⟩ := q
  simp only [run, Option.bind_eq_bind, Option.bind_eq_some_iff, Option.pure_def, Option.some.injEq,
    Prod.mk.injEq]
  constructor
  · rintro ⟨p, hp, x, hx, rfl, rfl⟩
    exact ⟨p, x.2, hp, hx, rfl⟩
  · rintro ⟨p, more, hp, hx, rfl⟩
    exact ⟨p, hp, (b', more), hx, rfl, rfl⟩

theorem run_append {before after : List Move} :
    b.run (before ++ after) = some q ↔
      ∃ p more, b.run before = some p ∧ p.1.run after = some (q.1, more) ∧ q.2 = p.2 ++ more := by
  induction before generalizing b q with
  | nil => simp [run]
  | cons m before ih =>
    simp only [List.cons_append, run_cons, ih]
    constructor
    · rintro ⟨p, more, hp, ⟨x, later, hx, hl, rfl⟩, hq⟩
      exact ⟨(x.1, p.2 ++ x.2), later, ⟨p, x.2, hp, hx, rfl⟩, hl, by simpa using hq⟩
    · rintro ⟨x, more, ⟨p, notes, hp, hx, hnotes⟩, hl, hq⟩
      exact ⟨p, notes ++ more, hp, ⟨(x.1, notes), more, hx, hl, rfl⟩, by simp [hq, hnotes]⟩

/-- What is true at first and is kept by a further move is true of all that is done. -/
theorem run_induction {P : List Move → Bridge × List BridgeNote → Prop} (hnil : P [] (b, []))
    (hstep : ∀ {moves : List Move} {p : Bridge × List BridgeNote} {m : Move}
      {q : Bridge × List BridgeNote}, b.run moves = some p → P moves p → p.1.step m = some q →
      P (moves ++ [m]) (q.1, p.2 ++ q.2))
    {moves : List Move} (h : b.run moves = some q) : P moves q := by
  induction moves using List.reverseRecOn generalizing q with
  | nil =>
    cases h
    exact hnil
  | append_singleton moves m ih =>
    obtain ⟨b', notes⟩ := q
    obtain ⟨p, more, hrun, hlast, rfl⟩ := run_append.1 h
    obtain ⟨⟨last, new⟩, rest, hmove, hrest, rfl⟩ := run_cons.1 hlast
    cases hrest
    rw [List.append_nil]
    exact hstep hrun (ih hrun) hmove

theorem tidy_run {moves : List Move} (hb : b.Tidy) (h : b.run moves = some q) : q.1.Tidy := by
  refine run_induction (P := fun _ p => p.1.Tidy) hb ?_ h
  intro moves p m q _ hp hstep
  exact tidy_step (q := q) hp hstep

/-- A connection whose polls were all cancelled asks for the inventory only when somebody else does. -/
theorem still_step (hb : b.Still) (hm : m.isConnect = false) (h : b.step m = some q) :
    q.1.Still ∧ q.2.countP BridgeNote.isGet = if m.isFetch then 1 else 0 := by
  cases step_cases h with
  | connected => cases hm
  | cancelled => exact ⟨still_cancel hb.tidy, rfl⟩
  | turned hp hgoing =>
    rw [hb _ (List.mem_of_getElem? hp)] at hgoing
    cases hgoing
  | posted | unconnected | unposted | delivered | fetched | put | announced => exact ⟨hb, rfl⟩

end Bridge

end LightBridge
