import LightBridge.Proofs.Rig.Order
import LightBridge.Proofs.Rig.Restoring

/-! A device that is disabled. It lets go of its session and of its lights and ends its poll, and until
it is enabled again, whatever it is asked or told, it does nothing more than hand its group back. -/

namespace LightBridge.Rig

variable {r : Rig} {p : Progress}

namespace Move

/-- Whether a move enables the device or starts a poll. -/
def wakes : Move → Bool
  | .call .enable | .bridge .connect => true
  | _ => false

/-- Whether somebody other than the device asks for the inventory. -/
def isFetch : Move → Bool
  | .bridge m => m.isFetch
  | _ => false

end Move

/-- A note of a request for the inventory. -/
def Note.isGet : Note → Bool
  | .bridge note => note.isGet
  | _ => false

/-- A note of the connection or of the end of an operation. -/
def Note.isPlain : Note → Bool
  | .bridge _ | .returned _ => true
  | .tookOver _ | .commanded _ | .session _ _ => false

/-! ### While the device is being disabled -/

/-- What a device keeps to from the moment at which it is disabled. -/
structure Shut (r : Rig) : Prop where
  disabled : r.enabled = false
  unheld : r.stream = none
  still : r.bridge.Still

/-- The device is on its way to let go of its lights. -/
structure Closing (r : Rig) : Prop extends Shut r where
  disabling : Disabling r
  unready : r.task = .idle → r.ready = false

theorem still_send (commands : List (Sent Float)) (h : r.bridge.Still) :
    (r.send commands).1.bridge.Still := by
  obtain ⟨-, -, hpolls, -⟩ := foldl_post commands r.bridge
  unfold Bridge.Still at h ⊢
  rwa [send, hpolls]

theorem closing_released (h : Shut r) : Closing (r.released true).1 where
  disabled := h.disabled
  unheld := h.unheld
  still := still_send (r := { r with ready := false, lights := [] }) _ h.still
  disabling := disabling_released r
  unready _ := rfl

theorem closing_afterStop (h : Shut r) : Closing (r.afterStop (.handBack true)).1 := by
  rw [afterStop]
  split
  · exact ⟨⟨h.disabled, h.unheld, h.still⟩, trivial, fun hidle => by cases hidle⟩
  · exact closing_released h

theorem closing_disable (h : r.bridge.Tidy) : Closing r.disable.1 := by
  rw [disable, stopThen]
  split
  · next hnone => exact closing_afterStop ⟨rfl, hnone, Bridge.still_cancel h⟩
  · exact ⟨⟨rfl, rfl, Bridge.still_cancel h⟩, trivial, fun hidle => by cases hidle⟩

theorem closing_step {m : Move} (howners : m.isOwners = false) (hwakes : m.wakes = false)
    (hpresent : r.present = true) (hr : Closing r) (h : r.step m = some p) : Closing p.1 := by
  have hdisabling := hr.disabling
  have hnext := disabling_step howners hdisabling h
  unfold Disabling at hdisabling
  cases step_cases h with
  | returned | forgot | began | stopping | unheld | left | leftLast => cases howners
  | shown index htask | painted index c rest htask => simp [htask] at hdisabling
  | reset applying reply htask | claimed applying reply htask
  | refused applying reply e htask => simp [htask] at hdisabling
  | @resumed k next s htask =>
    obtain rfl : next = .handBack true := by
      rw [htask] at hdisabling
      cases next with
      | handBack disabling => cases disabling <;> first | rfl | exact hdisabling.elim
      | _ => exact hdisabling.elim
    exact closing_afterStop hr.toShut
  | released disabling reply htask =>
    obtain rfl : disabling = true := by
      cases disabling <;> first | rfl | simp [htask] at hdisabling
    exact closing_released ⟨hr.disabled, hr.unheld, hr.still⟩
  | turned | reported => exact ⟨⟨hr.disabled, hr.unheld, hr.still⟩, hnext, hr.unready⟩
  | turnedLast hs ht hended hgone =>
    rw [hpresent] at hgone
    cases hgone
  | @bridge m q hbridge =>
    have hconnect : m.isConnect = false := by cases m <;> first | rfl | cases hwakes
    exact ⟨⟨hr.disabled, hr.unheld, (Bridge.still_step hr.still hconnect hbridge).1⟩, hnext,
      hr.unready⟩

theorem closing_run {moves : List Move} (howners : ∀ m ∈ moves, m.isOwners = false)
    (hwakes : ∀ m ∈ moves, m.wakes = false) (hpresent : r.present = true) (hr : Closing r)
    (h : r.run moves = some p) : Closing p.1 := by
  refine (run_keeps (Q := fun m => m.isOwners = false ∧ m.wakes = false)
    (P := fun _ r => r.present = true ∧ Closing r) ?_
    (fun m hm => ⟨howners m hm, hwakes m hm⟩) [] ⟨hpresent, hr⟩ h).2
  rintro r m p notes ⟨hm, hw⟩ ⟨hpresent, hr⟩ hstep
  exact ⟨present_of_step hm hpresent hstep, closing_step hm hw hpresent hr hstep⟩

/-! ### A disabled device -/

/-- Nothing is left to a device but to hand its group back. -/
structure Inert (r : Rig) : Prop extends Shut r where
  unready : r.ready = false
  unlit : r.lights = []
  task : r.task = .idle ∨ ∃ disabling, r.task = .releasing disabling

theorem Inert.none_held (h : Inert r) (hr : Orderly r) : r.isHeldBySession = false := by
  refine hr.none_goes ?_
  obtain htask | ⟨disabling, htask⟩ := h.task
  · rw [going?, htask]
    exact h.unheld
  · rw [going?, htask]
    exact h.unheld

/-- What an inert device comes to, with the number of times that the inventory is asked for. -/
structure Idles (fetches : Nat) (p : Progress) : Prop where
  inert : Inert p.1
  plain : ∀ n ∈ p.2, n.isPlain
  gets : p.2.countP Note.isGet = fetches

theorem Idles.andThen {next : Rig → Progress} (h : Idles 0 p) (hnext : Idles 0 (next p.1)) :
    Idles 0 (Rig.andThen p next) where
  inert := hnext.inert
  plain := List.forall_mem_append.2 ⟨h.plain, hnext.plain⟩
  gets := by rw [Rig.andThen, List.countP_append, h.gets, hnext.gets]

theorem Inert.finish (h : Inert r) (result : Except Fault Unit) : Idles 0 (r.finish result) :=
  ⟨⟨⟨h.disabled, h.unheld, h.still⟩, h.unready, h.unlit, Or.inl rfl⟩,
    by simp [Rig.finish, Note.isPlain], rfl⟩

theorem letGo_nil (h : r.lights = []) : r.letGo = (r, []) := by
  have hsame : { r with lights := [] } = r := by
    rw [← h]
  rw [letGo, hsame, h]
  rfl

theorem Inert.letGo (h : Inert r) : Idles 0 r.letGo := by
  rw [letGo_nil h.unlit]
  exact ⟨h, by simp, rfl⟩

theorem Inert.released (h : Inert r) (disabling : Bool) : Idles 0 (r.released disabling) := by
  unfold Rig.released
  split
  · have hunready : Inert { r with ready := false } :=
      ⟨⟨h.disabled, h.unheld, h.still⟩, rfl, h.unlit, h.task⟩
    exact hunready.letGo.andThen (hunready.letGo.inert.finish _)
  · exact h.finish _

/-- An inert device that is switched off or disabled hands its group back once more. -/
theorem Inert.stopThen (h : Inert r) (disabling : Bool) :
    Idles 0 (r.stopThen (.handBack disabling)) := by
  rw [Rig.stopThen, h.unheld]
  dsimp only [afterStop]
  split
  · exact ⟨⟨⟨h.disabled, h.unheld, h.still⟩, h.unready, h.unlit, Or.inr ⟨disabling, rfl⟩⟩,
      by simp [askStreaming, Note.isPlain], rfl⟩
  · exact h.released disabling

theorem Inert.call {operation : Operation} (h : Inert r) (hwakes : Move.wakes (.call operation) = false) :
    Idles 0 (r.call operation) := by
  have hstate : r.isStreaming = false := by
    rw [isStreaming, streamState?, h.unheld]
    rfl
  cases operation with
  | handle event =>
    cases event with
    | inventoryReady inventory =>
      rw [Rig.call, handleEvent, applyInventory, h.disabled]
      exact h.finish _
    | transportError message =>
      have hunready : Inert { r with ready := false } :=
        ⟨⟨h.disabled, h.unheld, h.still⟩, rfl, h.unlit, h.task⟩
      exact hunready.finish _
    | streamStopped outcome =>
      rw [Rig.call, handleEvent, streamStopped, hstate]
      have hforgot : Inert { r with stream := none, ready := false } :=
        ⟨⟨h.disabled, rfl, h.still⟩, rfl, h.unlit, h.task⟩
      exact hforgot.finish _
  | write colors =>
    have hready : r.isReady = false := by rw [isReady, h.unready]; rfl
    simp only [Rig.call, write, hready]
    exact h.finish _
  | startStreaming =>
    rw [Rig.call, startStreaming]
    split
    · exact h.finish _
    · rw [if_pos (by rw [h.unlit]; rfl)]
      exact h.finish _
  | switchOff => exact h.stopThen false
  | enable => cases hwakes
  | disable =>
    have hcancelled : Inert { r with enabled := false, bridge := r.bridge.cancel } :=
      ⟨⟨rfl, h.unheld, Bridge.still_cancel h.still.tidy⟩, h.unready, h.unlit, h.task⟩
    exact hcancelled.stopThen true

theorem inert_step {m : Move} (hr : Orderly r) (h : Inert r) (hwakes : m.wakes = false)
    (hstep : r.step m = some p) : Idles (if m.isFetch then 1 else 0) p := by
  have hheld := h.none_held hr
  cases m with
  | call operation =>
    obtain ⟨-, -, rfl⟩ := step_call hstep
    exact h.call hwakes
  | proceed =>
    rcases h.task with htask | ⟨disabling, htask⟩
    · simp [step, proceed, htask] at hstep
    · simp [step, proceed, htask] at hstep
  | replied reply =>
    rcases h.task with htask | ⟨disabling, htask⟩
    · simp [step, replied, htask] at hstep
    · simp only [step, replied, htask, Option.some_inj] at hstep
      subst hstep
      have hrecorded : Idles 0 (r.recordStreaming false reply) :=
        ⟨⟨⟨h.disabled, h.unheld, h.still⟩, h.unready, h.unlit, h.task⟩,
          by simp [recordStreaming, Note.isPlain], rfl⟩
      exact hrecorded.andThen (hrecorded.inert.released disabling)
  | session k t =>
    have hlive : ∃ s ∈ r.streams, s.session.hasEnded = false := by
      cases step_cases hstep with
      | turned hs ht | turnedLast hs ht =>
        exact ⟨_, List.mem_of_getElem? hs, Session.going_of_turn ht⟩
    obtain ⟨s, hs, hgoing⟩ := hlive
    rw [isHeldBySession_eq_false_iff.1 hheld s hs] at hgoing
    cases hgoing
  | report k =>
    cases step_cases hstep with
    | reported =>
      exact ⟨⟨⟨h.disabled, h.unheld, h.still⟩, h.unready, h.unlit, h.task⟩,
        by simp [Note.isPlain], rfl⟩
  | bridge m =>
    have hconnect : m.isConnect = false := by cases m <;> first | rfl | cases hwakes
    cases step_cases hstep with
    | @bridge _ q hbridge =>
      obtain ⟨hstill, hgets⟩ := Bridge.still_step h.still hconnect hbridge
      refine ⟨⟨⟨h.disabled, h.unheld, hstill⟩, h.unready, h.unlit, h.task⟩, ?_, ?_⟩
      · simp [ofBridge, Note.isPlain]
      · rw [ofBridge, List.countP_map]
        exact hgets
  | leave =>
    have hgone : Inert { r with present := false } :=
      ⟨⟨h.disabled, h.unheld, h.still⟩, h.unready, h.unlit, h.task⟩
    have hdismiss : { r with present := false }.dismiss = { r with present := false } := by
      rw [dismiss, hgone.unheld]
    cases step_cases hstep with
    | left hidle hlast =>
      rw [hdismiss, isHeldBySession] at hlast
      rw [isHeldBySession, hlast] at hheld
      cases hheld
    | leftLast =>
      rw [hdismiss]
      exact hgone.letGo

theorem inert_run {moves : List Move} (hr : Orderly r) (h : Inert r)
    (hwakes : ∀ m ∈ moves, m.wakes = false) (hrun : r.run moves = some p) :
    Idles (moves.countP Move.isFetch) p := by
  induction moves generalizing r p with
  | nil =>
    cases hrun
    exact ⟨h, by simp, rfl⟩
  | cons m moves ih =>
    obtain ⟨q, more, hstep, hrun, hnotes⟩ := run_cons.1 hrun
    obtain ⟨hm, hwakes⟩ := List.forall_mem_cons.1 hwakes
    have hfirst := inert_step hr h hm hstep
    have hrest := ih (p := (p.1, more)) (orderly_step hr hstep) hfirst.inert hwakes hrun
    refine ⟨hrest.inert, ?_, ?_⟩
    · rw [hnotes]
      exact List.forall_mem_append.2 ⟨hfirst.plain, hrest.plain⟩
    · have hgets := hrest.gets
      dsimp only at hgets
      rw [hnotes, List.countP_append, hfirst.gets, hgets, List.countP_cons, Nat.add_comm]

/-! ### A whole run -/

/-- What can be seen of a disabled device, and of what it has done since. -/
structure Disabled (after : List Move) (new : List Note) (r : Rig) : Prop where
  no_lights : r.lightIds = []
  not_ready : r.isReady = false
  no_state : r.streamState? = none
  no_session : r.stream = none ∧ r.isHeldBySession = false
  no_frames : ∀ k, ∀ n ∈ new, ¬n.IsFrame k
  no_commands : commands new = []
  /-- The inventory is asked for by others only. -/
  no_gets : new.countP Note.isGet = after.countP Move.isFetch

theorem commands_of_plain {notes : List Note} (h : ∀ n ∈ notes, n.isPlain) : commands notes = [] :=
  commands_of_quiet fun n hn => by
    have hplain := h n hn
    cases n <;> first | rfl | cases hplain

theorem Idles.disabled {moves : List Move} (h : Idles (moves.countP Move.isFetch) p)
    (hr : Orderly p.1) : Disabled moves p.2 p.1 where
  no_lights := by rw [lightIds, h.inert.unlit]; rfl
  not_ready := by rw [isReady, h.inert.unready]; rfl
  no_state := by rw [streamState?, h.inert.unheld]; rfl
  no_session := ⟨h.inert.unheld, h.inert.none_held hr⟩
  no_frames k n hn := by
    rintro ⟨frame, rfl⟩
    cases h.plain _ hn
  no_commands := commands_of_plain h.plain
  no_gets := h.gets

section

variable {fresh : Rig} {before during after : List Move} {notes : List Note}

theorem tidy_run (hfresh : fresh.bridge.Tidy) (h : fresh.run before = some p) : p.1.bridge.Tidy := by
  refine run_induction (P := fun _ p => p.1.bridge.Tidy) hfresh ?_ h
  intro moves p m q _ hp hstep
  exact (fixed_step hstep).tidy hp

theorem inert_after_disable (htidy : fresh.bridge.Tidy)
    (howners : ∀ m ∈ during, m.isOwners = false) (hwakes : ∀ m ∈ during, m.wakes = false)
    (hrun : fresh.run (before ++ .call .disable :: during) = some p) (hidle : p.1.task = .idle) :
    Inert p.1 := by
  obtain ⟨q, more, hbefore, hduring, -⟩ := run_append.1 hrun
  obtain ⟨x, rest, hstep, hrest, -⟩ := run_cons.1 hduring
  have hpresent := present_of_call hstep
  obtain ⟨-, -, rfl⟩ := step_call hstep
  have hclosing : Closing q.1.disable.1 := closing_disable (tidy_run htidy hbefore)
  have hend : Closing p.1 := closing_run (p := (p.1, rest)) howners hwakes
    hpresent hclosing hrest
  have hlights := hend.disabling
  rw [Disabling, hidle] at hlights
  exact ⟨hend.toShut, hend.unready hidle, hlights, Or.inl hidle⟩

/-- From the return of a disabling on until the device is enabled again, it has no lights and no
session, is not ready, and neither asks for the inventory nor sends a frame or a command. -/
theorem disabled_is_inert {made : List Bridge.Move} {earlier : List BridgeNote}
    {endpoint : Endpoint} {delay : Option Nat} {new : List Note} {r' : Rig}
    (hmade : Bridge.run { endpoint, delay } made = some (fresh.bridge, earlier))
    (hfresh : Fresh fresh) (howners : ∀ m ∈ during, m.isOwners = false)
    (hwakes : ∀ m ∈ during ++ after, m.wakes = false)
    (hrun : fresh.run (before ++ .call .disable :: during) = some (r, notes))
    (hidle : r.task = .idle) (hafter : r.run after = some (r', new)) : Disabled after new r' := by
  have htidy : fresh.bridge.Tidy := Bridge.tidy_run (Bridge.tidy_fresh endpoint delay) hmade
  obtain ⟨hduring, hlater⟩ := List.forall_mem_append.1 hwakes
  have hinert : Inert r := inert_after_disable htidy howners hduring hrun hidle
  have hr : Orderly r := orderly_run hfresh hrun
  have hwhole : fresh.run ((before ++ .call .disable :: during) ++ after) =
      some (r', notes ++ new) := run_append.2 ⟨(r, notes), new, hrun, hafter, rfl⟩
  have hr' : Orderly r' := orderly_run hfresh hwhole
  exact (inert_run hr hinert hlater hafter).disabled hr'

/-- A device is disabled while its session connects and a poll goes on, and then handed an inventory,
written to and disabled again, while somebody else asks for the inventory. -/
theorem disabled_is_inert_while_polling :
    let ok : Reply := .answered 200 ""
    let during : List Move := [.session 0 (.connected (.error (.unreachable "open"))), .report 0,
      .proceed, .replied ok]
    let after : List Move := [.call (.handle (.inventoryReady groupInventory)),
      .call (.write [.black]), .bridge (.fetch .lost), .call .disable, .replied ok]
    ∃ fresh r notes r' new, Bridge.run groupBridge [.connect] = some (fresh.bridge, []) ∧
      Fresh fresh ∧ (∀ m ∈ during, m.isOwners = false) ∧ (∀ m ∈ during ++ after, m.wakes = false) ∧
      fresh.run (connecting ++ .call .disable :: during) = some (r, notes) ∧ r.task = .idle ∧
      r.run after = some (r', new) ∧ Disabled after new r' := by
  intro ok during after
  let fresh : Rig :=
    { bridge := groupBridge.connect, settings := { streaming := true }, canStream := true }
  have hmade : Bridge.run groupBridge [.connect] = some (fresh.bridge, []) := rfl
  have hfresh : Fresh fresh := .withTransport groupBridge.connect { streaming := true }
  have howners : ∀ m ∈ during, m.isOwners = false := by simp [during, Move.isOwners]
  have hwakes : ∀ m ∈ during ++ after, m.wakes = false := by simp [during, after, Move.wakes]
  have hrun : ((fresh.run (connecting ++ .call .disable :: during)).any fun p => p.1.task.isIdle &&
      (p.1.run after).isSome) = true := by decide +kernel
  obtain ⟨⟨r, notes⟩, hrun, hp⟩ := (Option.any_eq_true _ _).1 hrun
  obtain ⟨hidle, hafter⟩ := Bool.and_eq_true_iff.1 hp
  obtain ⟨⟨r', new⟩, hafter⟩ := Option.isSome_iff_exists.1 hafter
  have hidle : r.task = .idle := Task.eq_idle hidle
  exact ⟨fresh, r, notes, r', new, hmade, hfresh, howners, hwakes, hrun, hidle, hafter,
    disabled_is_inert hmade hfresh howners hwakes hrun hidle hafter⟩

end

end LightBridge.Rig
