import LightBridge.Proofs.Rig.Stepping
import Mathlib.Data.List.Induction

/-! The order in which a device keeps its sessions. Whatever happens, at most one session goes on: the
one that the device holds on to, or the one whose end it waits for. While it waits for a reply of its
bridge none does. -/

namespace LightBridge.Rig

/-! ### Runs -/

/-- What holds at first and is kept by every move that can be made holds after a run. -/
theorem run_induction {fresh : Rig} {P : List Move → Progress → Prop} (hnil : P [] (fresh, []))
    (hstep : ∀ {moves : List Move} {p : Progress} {m : Move} {q : Progress},
      fresh.run moves = some p → P moves p → p.1.step m = some q →
      P (moves ++ [m]) (q.1, p.2 ++ q.2))
    {moves : List Move} {p : Progress} (h : fresh.run moves = some p) : P moves p := by
  induction moves using List.reverseRecOn generalizing p with
  | nil =>
    cases h
    exact hnil
  | append_singleton moves m ih =>
    obtain ⟨r, notes⟩ := p
    obtain ⟨q, more, hrun, hlast, rfl⟩ := run_append.1 h
    obtain ⟨⟨last, new⟩, rest, hmove, hrest, rfl⟩ := run_cons.1 hlast
    cases hrest
    rw [List.append_nil]
    exact hstep hrun (ih hrun) hmove

/-! ### Sessions that go on -/

theorem isHeldBySession_eq_false_iff {r : Rig} :
    r.isHeldBySession = false ↔ ∀ s ∈ r.streams, s.session.hasEnded = true := by
  simp [isHeldBySession]

/-- The session that may go on: the one that the device holds on to or whose end it waits for. -/
def going? (r : Rig) : Option Nat :=
  match r.task with
  | .stopping k _ => some k
  | _ => r.stream

/-- Whether the device waits for its bridge or for the end of a session. -/
def Task.isWaiting : Task → Bool
  | .idle | .painting _ _ => false
  | _ => true

/-- Whether the device waits for a reply of its bridge. -/
def Task.isAsking : Task → Bool
  | .resetting _ | .claiming _ | .releasing _ => true
  | _ => false

theorem Task.isWaiting_of_isAsking {task : Task} (h : task.isAsking = true) :
    task.isWaiting = true := by
  cases task <;> first | rfl | cases h

structure Orderly (r : Rig) : Prop extends Sound r where
  going : ∀ k s, r.streams[k]? = some s → s.session.hasEnded = false → r.going? = some k
  unheld : r.task.isWaiting → r.stream = none
  /-- The end of a session is published when it has ended. -/
  ended_of_reported : ∀ s ∈ r.streams, s.reported = true → s.session.hasEnded = true
  /-- A session that outlives its device was told to stop. -/
  gone : r.present = false → r.task = .idle ∧
    ∀ s ∈ r.streams, s.session.hasEnded = false → s.session.stopped = true

theorem orderly_fresh {r : Rig} (h : Fresh r) : Orderly r := by
  rw [h.eq]
  exact ⟨⟨by simp, by simp⟩, by simp, fun _ => rfl, by simp, by simp⟩

variable {r : Rig} {p : Progress}

/-- No session goes on if the device neither holds on to one nor waits for one. -/
theorem Orderly.none_goes (hr : Orderly r) (h : r.going? = none) : r.isHeldBySession = false := by
  refine isHeldBySession_eq_false_iff.2 fun s hs => ?_
  obtain ⟨k, hk⟩ := List.mem_iff_getElem?.1 hs
  cases hgoing : s.session.hasEnded with
  | true => rfl
  | false =>
    have hsome := hr.going k s hk hgoing
    rw [h] at hsome
    cases hsome

theorem Orderly.none_held (hr : Orderly r) (htask : r.task = .idle) (hstream : r.stream = none) :
    r.isHeldBySession = false :=
  hr.none_goes (by rw [going?, htask, hstream])

/-- While the device waits for a reply of its bridge no session goes on. -/
theorem Orderly.none_asking (hr : Orderly r) (hasking : r.task.isAsking = true) :
    r.isHeldBySession = false := by
  refine hr.none_goes ?_
  unfold going?
  split
  · next k next htask =>
    rw [htask] at hasking
    cases hasking
  · exact hr.unheld (Task.isWaiting_of_isAsking hasking)

/-- No session goes on when the end of the one that the device waits for has been published. -/
theorem Orderly.none_resumed (hr : Orderly r) {k : Nat} {next : AfterStop} {s : Stream}
    (htask : r.task = .stopping k next) (hs : r.streams[k]? = some s)
    (hreported : s.reported = true) : r.isHeldBySession = false := by
  refine isHeldBySession_eq_false_iff.2 fun t ht => ?_
  obtain ⟨j, hj⟩ := List.mem_iff_getElem?.1 ht
  cases hgoing : t.session.hasEnded with
  | true => rfl
  | false =>
    obtain rfl : k = j := by
      have hsome := hr.going j t hj hgoing
      rw [going?, htask] at hsome
      exact Option.some_inj.1 hsome
    obtain rfl : s = t := Option.some_inj.1 (hs.symm.trans hj)
    rw [hr.ended_of_reported s ht hreported] at hgoing
    cases hgoing

/-- When the device finds that nothing is streamed, no session goes on. -/
theorem Orderly.none_streaming (hr : Orderly r) (hidle : r.task = .idle)
    (hstate : r.isStreaming = false) : r.isHeldBySession = false := by
  refine isHeldBySession_eq_false_iff.2 fun s hs => ?_
  obtain ⟨k, hk⟩ := List.mem_iff_getElem?.1 hs
  cases hgoing : s.session.hasEnded with
  | true => rfl
  | false =>
    have hstream : r.stream = some k := by
      have hsome := hr.going k s hk hgoing
      rwa [going?, hidle] at hsome
    have hterminal : s.session.state.isTerminal = true := by
      simpa [isStreaming, streamState?, hstream, hk] using hstate
    rw [Session.isTerminal_eq (hr.labelled s hs)] at hterminal
    have hsome : s.session.phase.outcome?.isSome := by
      cases h : s.session.phase.outcome? <;> simp_all
    rw [Session.hasEnded] at hgoing
    rw [hgoing] at hsome
    cases hsome

/-! ### Every move keeps the order -/

/-- Nothing is changed of the sessions, and none goes on. -/
theorem Orderly.apart (hr : Orderly r) (h : Apart r p) (hheld : r.isHeldBySession = false)
    (hunheld : p.1.task.isWaiting → r.stream = none)
    (hgone : r.present = false → p.1.task = .idle) : Orderly p.1 where
  labelled := by
    rw [h.streams_eq]
    exact hr.labelled
  latest := by
    rw [h.streams_eq, h.stream_eq]
    exact hr.latest
  going k s hs hgoing := by
    rw [h.streams_eq] at hs
    rw [isHeldBySession_eq_false_iff.1 hheld s (List.mem_of_getElem? hs)] at hgoing
    cases hgoing
  unheld := by
    rw [h.stream_eq]
    exact hunheld
  ended_of_reported := by
    rw [h.streams_eq]
    exact hr.ended_of_reported
  gone hpresent := by
    rw [h.present_eq] at hpresent
    rw [h.streams_eq]
    exact ⟨hgone hpresent, (hr.gone hpresent).2⟩

/-- Nothing is changed of the sessions, and the device does not begin or cease to wait. -/
theorem Orderly.same (hr : Orderly r) (h : Apart r p) (hgoing : p.1.going? = r.going?)
    (hwaiting : p.1.task.isWaiting → r.task.isWaiting) (hgone : r.present = false → p.1.task = .idle) :
    Orderly p.1 where
  labelled := by
    rw [h.streams_eq]
    exact hr.labelled
  latest := by
    rw [h.streams_eq, h.stream_eq]
    exact hr.latest
  going := by
    rw [h.streams_eq, hgoing]
    exact hr.going
  unheld hw := by
    rw [h.stream_eq]
    exact hr.unheld (hwaiting hw)
  ended_of_reported := by
    rw [h.streams_eq]
    exact hr.ended_of_reported
  gone hpresent := by
    rw [h.present_eq] at hpresent
    rw [h.streams_eq]
    exact ⟨hgone hpresent, (hr.gone hpresent).2⟩

/-- One session is replaced by what has become of it. -/
theorem Orderly.setStream (hr : Orderly r) {k : Nat} {s s' : Stream} (hs : r.streams[k]? = some s)
    (hlabelled : s'.session.Labelled)
    (hended : s.session.hasEnded = true → s'.session.hasEnded = true)
    (hreported : s'.reported = true → s'.session.hasEnded = true)
    (hstopped : s.session.stopped = true → s'.session.stopped = true) :
    Orderly { r with streams := r.streams.set k s' } where
  labelled := mem_set_of_labelled k hr.labelled hlabelled
  latest j hj := by simpa using hr.latest j hj
  going j x hx hgoing := by
    rw [List.getElem?_set] at hx
    split at hx
    · next hjk =>
      subst hjk
      split at hx
      · cases hx
        refine hr.going k s hs ?_
        cases h : s.session.hasEnded with
        | true => rw [hended h] at hgoing; cases hgoing
        | false => rfl
      · cases hx
    · exact hr.going j x hx hgoing
  unheld := hr.unheld
  ended_of_reported x hx hreport := by
    rcases List.mem_or_eq_of_mem_set hx with hx | rfl
    · exact hr.ended_of_reported x hx hreport
    · exact hreported hreport
  gone hpresent := by
    obtain ⟨hidle, hall⟩ := hr.gone hpresent
    refine ⟨hidle, fun x hx hgoing => ?_⟩
    rcases List.mem_or_eq_of_mem_set hx with hx | rfl
    · exact hall x hx hgoing
    · refine hstopped (hall s (List.mem_of_getElem? hs) ?_)
      cases h : s.session.hasEnded with
      | true => rw [hended h] at hgoing; cases hgoing
      | false => rfl

theorem Orderly.turned (hr : Orderly r) {k : Nat} {s : Stream} {t : Turn} {q : Session.Progress}
    (hs : r.streams[k]? = some s) (ht : s.session.turn r.colors t = some q) :
    Orderly { r with streams := r.streams.set k { s with session := q.1 } } := by
  have hmem : s ∈ r.streams := List.mem_of_getElem? hs
  have hgoing := Session.going_of_turn ht
  refine hr.setStream hs (Session.labelled_turn (hr.labelled s hmem) ht) ?_ ?_ ?_
  · intro hended
    rw [hended] at hgoing
    cases hgoing
  · intro hreported
    rw [hr.ended_of_reported s hmem hreported] at hgoing
    cases hgoing
  · exact fun hstopped => (Session.stopped_turn ht).trans hstopped

/-- What is known of the sessions when one of them was told to stop. -/
theorem mem_stopSession {k : Nat} {x : Stream} (h : x ∈ (r.stopSession k).streams) :
    ∃ s ∈ r.streams, x.reported = s.reported ∧ x.session.hasEnded = s.session.hasEnded ∧
      (s.session.Labelled → x.session.Labelled) ∧
      (s.session.stopped = true → x.session.stopped = true) := by
  obtain ⟨j, hj⟩ := List.mem_iff_getElem?.1 h
  simp only [stopSession, List.getElem?_modify] at hj
  obtain ⟨s, hs, rfl⟩ := Option.map_eq_some_iff.1 hj
  refine ⟨s, List.mem_of_getElem? hs, ?_⟩
  split
  · exact ⟨rfl, rfl, Session.labelled_stop, fun _ => rfl⟩
  · exact ⟨rfl, rfl, id, id⟩

theorem getElem?_stopSession {k j : Nat} {x : Stream}
    (h : (r.stopSession k).streams[j]? = some x) :
    ∃ s, r.streams[j]? = some s ∧ x.session.hasEnded = s.session.hasEnded ∧
      (j = k → x.session.stopped = true) := by
  simp only [stopSession, List.getElem?_modify] at h
  obtain ⟨s, hs, rfl⟩ := Option.map_eq_some_iff.1 h
  refine ⟨s, hs, ?_⟩
  split
  · exact ⟨rfl, fun _ => rfl⟩
  · next hne => exact ⟨rfl, fun heq => absurd heq.symm hne⟩

/-- The device tells its session to stop, and lets go of it or goes away. -/
theorem Orderly.stop (hr : Orderly r) {r' : Rig} {k : Nat} (h : Apart r (r', []))
    (hidle : r.task = .idle) (hstream : r.stream = some k) {stream : Option Nat} {task : Task}
    {present : Bool} (hlatest : stream = none ∨ stream = some k)
    (hgoing : going? { r with stream, task } = some k) (hunheld : task.isWaiting → stream = none)
    (hgone : present = false → task = .idle) :
    Orderly { r'.stopSession k with stream, task, present } where
  labelled x hx := by
    obtain ⟨s, hs, -, -, hlabelled, -⟩ := mem_stopSession hx
    rw [h.streams_eq] at hs
    exact hlabelled (hr.labelled s hs)
  latest j hj := by
    have hlength : (r'.stopSession k).streams.length = r.streams.length := by
      simp [stopSession, ← h.streams_eq]
    rcases hlatest with rfl | rfl
    · cases hj
    · cases hj
      exact (hr.latest k hstream).trans hlength.symm
  going j x hx hgoes := by
    obtain ⟨s, hs, hended, -⟩ := getElem?_stopSession hx
    rw [h.streams_eq] at hs
    have hsome := hr.going j s hs (hended ▸ hgoes)
    rw [going?, hidle] at hsome
    rw [← hsome, hstream]
    exact hgoing
  unheld := hunheld
  ended_of_reported x hx hreported := by
    obtain ⟨s, hs, hsame, hended, -⟩ := mem_stopSession hx
    rw [h.streams_eq] at hs
    rw [hended]
    exact hr.ended_of_reported s hs (hsame ▸ hreported)
  gone hpresent := by
    refine ⟨hgone hpresent, fun x hx hgoes => ?_⟩
    obtain ⟨j, hj⟩ := List.mem_iff_getElem?.1 hx
    obtain ⟨s, hs, hended, hstopped⟩ := getElem?_stopSession hj
    rw [h.streams_eq] at hs
    have hsome := hr.going j s hs (hended ▸ hgoes)
    rw [going?, hidle, hstream] at hsome
    exact hstopped (Option.some_inj.1 hsome).symm

theorem Orderly.forgot (hr : Orderly r) (hidle : r.task = .idle) (hstate : r.isStreaming = false)
    {ready : Bool} {task : Task} (htask : task = .idle) :
    Orderly { r with stream := none, ready, task } where
  labelled := hr.labelled
  latest := by simp
  going k s hs hgoing := by
    have hended := isHeldBySession_eq_false_iff.1 (hr.none_streaming hidle hstate) s
      (List.mem_of_getElem? hs)
    rw [hended] at hgoing
    cases hgoing
  unheld _ := rfl
  ended_of_reported := hr.ended_of_reported
  gone hpresent := ⟨htask, (hr.gone hpresent).2⟩

/-- A session is started when none goes on. -/
theorem Orderly.launched (hr : Orderly r) (hheld : r.isHeldBySession = false)
    (hpresent : r.present = true) {ready : Bool} {task : Task} (htask : task.isWaiting = false)
    : Orderly { r.launch with ready, task } where
  labelled s hs := by
    rcases List.mem_append.1 hs with hs | hs
    · exact hr.labelled s hs
    · rw [List.mem_singleton.1 hs]
      exact Session.labelled_toHost _ _
  latest k hk := by
    cases hk
    simp [launch]
  going k s hs hgoing := by
    have hnew : going? { r.launch with ready, task } = some r.streams.length := by
      cases task <;> first | rfl | cases htask
    rw [hnew]
    simp only [launch, List.getElem?_append] at hs
    split at hs
    · next hlt =>
      rw [isHeldBySession_eq_false_iff.1 hheld s (List.mem_of_getElem? hs)] at hgoing
      cases hgoing
    · next hge =>
      have hlt := (List.getElem?_eq_some_iff.1 hs).1
      simp only [List.length_singleton] at hlt
      have hk : k = r.streams.length := by omega
      rw [hk]
  unheld hwaiting := by
    rw [htask] at hwaiting
    cases hwaiting
  ended_of_reported s hs hreported := by
    rcases List.mem_append.1 hs with hs | hs
    · exact hr.ended_of_reported s hs hreported
    · rw [List.mem_singleton.1 hs] at hreported
      cases hreported
  gone h := by
    have hgone : r.present = false := h
    rw [hpresent] at hgone
    cases hgone

theorem present_of_task (hr : Orderly r) (htask : r.task ≠ .idle) : r.present = true := by
  cases h : r.present with
  | true => rfl
  | false => exact absurd (hr.gone h).1 htask

/-- When no session goes on any more, the device goes on to wait for its bridge, or is done. -/
theorem afterStop_task (next : AfterStop) :
    (r.afterStop next).1.task = .idle ∨
      (∃ applying, (r.afterStop next).1.task = .resetting applying) ∨
        ∃ disabling, (r.afterStop next).1.task = .releasing disabling := by
  cases next with
  | takeOver ids entries =>
    simp only [afterStop, andThen]
    split
    · exact Or.inl rfl
    · split
      · exact Or.inl rfl
      · split
        · exact Or.inl rfl
        · exact Or.inr (Or.inl ⟨true, rfl⟩)
  | restart => exact Or.inr (Or.inl ⟨false, rfl⟩)
  | handBack disabling =>
    simp only [afterStop]
    split
    · exact Or.inr (Or.inr ⟨disabling, rfl⟩)
    · cases disabling <;> exact Or.inl rfl

/-- The device goes on when no session does. -/
theorem Orderly.afterStop (hr : Orderly r) {r' : Rig} (h : Apart r (r', []))
    (hheld : r.isHeldBySession = false) (hstream : r.stream = none) (hpresent : r.present = true)
    (next : AfterStop) : Orderly (r'.afterStop next).1 := by
  refine hr.apart (h.trans (afterStop_apart next)) hheld (fun _ => hstream) fun hgone => ?_
  rw [hpresent] at hgone
  cases hgone

theorem Orderly.leave (hr : Orderly r) (hidle : r.task = .idle) :
    Orderly ({ r with present := false }.dismiss) := by
  rcases Option.eq_none_or_eq_some r.stream with hstream | ⟨k, hstream⟩
  · have hsame : { r with present := false }.dismiss = { r with present := false } := by
      simp only [dismiss, hstream]
    have hheld := hr.none_held hidle hstream
    rw [hsame]
    refine ⟨⟨hr.labelled, hr.latest⟩, hr.going, hr.unheld, hr.ended_of_reported, fun _ => ?_⟩
    refine ⟨hidle, fun s hs hgoing => ?_⟩
    rw [isHeldBySession_eq_false_iff.1 hheld s hs] at hgoing
    cases hgoing
  · have hstopped : { r with present := false }.dismiss =
        { r.stopSession k with stream := some k, task := .idle, present := false } := by
      simp only [dismiss, hstream, hidle]
      rfl
    rw [hstopped]
    exact hr.stop apart_same hidle hstream (Or.inr rfl) rfl (fun hw => by cases hw) fun _ => rfl

/-- An answered request leaves the sessions alone. -/
theorem Orderly.answered (hr : Orderly r) (hasking : r.task.isAsking = true) (h : Apart r p) :
    Orderly p.1 := by
  refine hr.apart h (hr.none_asking hasking)
    (fun _ => hr.unheld (Task.isWaiting_of_isAsking hasking)) fun hgone => ?_
  rw [present_of_task hr fun hidle => by rw [hidle] at hasking; cases hasking] at hgone
  cases hgone

/-- Lights are given back when the last session has ended, or has been told to stop. -/
theorem Orderly.letGo (hr : Orderly r) : Orderly r.letGo.1 :=
  hr.same letGo_apart rfl id fun hgone => (hr.gone hgone).1

theorem orderly_step {m : Move} (hr : Orderly r) (h : r.step m = some p) : Orderly p.1 := by
  cases step_cases h with
  | returned operation result hidle happart htask hlights hnotes =>
    refine hr.same happart ?_ ?_ fun _ => htask
    · rw [going?, going?, hidle, htask, happart.stream_eq]
    · rw [htask]
      exact fun hw => by cases hw
  | forgot outcome hidle hstate => exact hr.forgot hidle hstate rfl
  | began colors hidle hpresent =>
    refine hr.same apart_same ?_ (fun hw => by cases hw) fun hgone => ?_
    · rw [going?, going?, hidle]
    · rw [hpresent] at hgone
      cases hgone
  | stopping operation next hidle hpresent happart hlights hstream =>
    refine hr.stop happart hidle hstream (Or.inl rfl) rfl (fun _ => rfl) fun hgone => ?_
    have hgone : r.present = false := happart.present_eq ▸ hgone
    rw [hpresent] at hgone
    cases hgone
  | unheld operation next hidle hpresent happart hlights hstream =>
    exact hr.afterStop happart (hr.none_held hidle hstream) hstream hpresent next
  | shown index htask =>
    refine hr.same (finish_apart _) ?_ (fun hw => by cases hw) fun _ => rfl
    rw [going?, going?, htask]
    rfl
  | painted index c rest htask =>
    refine hr.same (apart_same.trans (paint_apart index c)) ?_ (fun hw => by cases hw) fun hgone => ?_
    · rw [going?, going?, htask]
      rfl
    · rw [present_of_task hr (by rw [htask]; exact fun h => by cases h)] at hgone
      cases hgone
  | resumed htask hs hreported =>
    have hstream : r.stream = none := hr.unheld (by rw [htask]; rfl)
    have hpresent : r.present = true :=
      present_of_task hr (by rw [htask]; exact fun h => by cases h)
    exact hr.afterStop apart_same (hr.none_resumed htask hs hreported) hstream hpresent _
  | reset applying reply htask =>
    refine hr.answered (by rw [htask]; rfl) ?_
    exact (recordStreaming_apart _ _).andThen (askStreaming_apart _ _)
  | claimed applying reply htask haccepted =>
    have hheld : r.isHeldBySession = false :=
      hr.none_asking (by rw [htask]; rfl)
    have hpresent : r.present = true :=
      present_of_task hr (by rw [htask]; exact fun h => by cases h)
    have hanswered : Orderly (r.recordStreaming true reply).1 :=
      hr.answered (by rw [htask]; rfl) (recordStreaming_apart _ _)
    have hlaunched : Orderly
        { (r.recordStreaming true reply).1.launch with ready := true, task := .idle } :=
      hanswered.launched hheld hpresent rfl
    exact hlaunched
  | refused applying reply e htask haccepted =>
    refine hr.answered (by rw [htask]; rfl) ?_
    exact (recordStreaming_apart _ _).andThen (finishStart_apart _ _)
  | released disabling reply htask =>
    refine hr.answered (by rw [htask]; rfl) ?_
    exact (recordStreaming_apart _ _).andThen (released_apart _)
  | turned hs ht => exact hr.turned hs ht
  | turnedLast hs ht hended hpresent hheld => exact (hr.turned hs ht).letGo
  | reported hs ho =>
    have hlabelled := hr.labelled _ (List.mem_of_getElem? hs)
    refine hr.setStream hs hlabelled id (fun _ => ?_) id
    rw [Session.hasEnded, ho]
    rfl
  | bridge hbridge =>
    refine ⟨⟨hr.labelled, hr.latest⟩, hr.going, hr.unheld, hr.ended_of_reported, hr.gone⟩
  | left hidle hheld => exact hr.leave hidle
  | leftLast hidle hheld => exact (hr.leave hidle).letGo

theorem orderly_run {fresh : Rig} {moves : List Move} (hfresh : Fresh fresh)
    (h : fresh.run moves = some p) : Orderly p.1 := by
  refine run_induction (P := fun _ p => Orderly p.1) (orderly_fresh hfresh) ?_ h
  intro moves p m q _ hr hstep
  exact orderly_step (p := q) hr hstep

/-! ### Sessions that have ended -/

/-- A session that has ended does nothing more. -/
def Over (k : Nat) (notes : List Note) (r : Rig) : Prop :=
  (∃ s, r.streams[k]? = some s ∧ s.session.hasEnded = true) ∧ ∀ e, .session k e ∉ notes

theorem over_step {k : Nat} {m : Move} {notes : List Note} (hr : Over k notes r)
    (h : r.step m = some p) : Over k (notes ++ p.2) p.1 := by
  obtain ⟨⟨s, hs, hended⟩, hsilent⟩ := hr
  have hnotes : (∀ e, .session k e ∉ p.2) → ∀ e, .session k e ∉ notes ++ p.2 := fun hnew e hmem =>
    (List.mem_append.1 hmem).elim (hsilent e) (hnew e)
  have hlt : k < r.streams.length := (List.getElem?_eq_some_iff.1 hs).1
  cases step_sessions h with
  | kept hstreams hnone =>
    exact ⟨⟨s, by rw [hstreams, hs], hended⟩, hnotes (hnone k)⟩
  | stopped j hstreams hnone =>
    refine ⟨?_, hnotes (hnone k)⟩
    rw [hstreams, stopSession]
    simp only [List.getElem?_modify, hs]
    split
    · exact ⟨_, rfl, hended⟩
    · exact ⟨_, rfl, hended⟩
  | launched hstreams hnone =>
    refine ⟨⟨s, ?_, hended⟩, hnotes (hnone k)⟩
    rw [hstreams, launch, List.getElem?_append_left hlt, hs]
  | @turned j x t q hx ht hstreams hevents =>
    have hne : j ≠ k := by
      rintro rfl
      obtain rfl : x = s := Option.some_inj.1 (hx.symm.trans hs)
      have hgoing := Session.going_of_turn ht
      rw [hended] at hgoing
      cases hgoing
    refine ⟨⟨s, ?_, hended⟩, hnotes fun e hmem => hne (hevents k e hmem).1.symm⟩
    rw [hstreams, List.getElem?_set_ne hne, hs]
  | @reported j x hx hxended hstreams hnone =>
    refine ⟨?_, hnotes (hnone k)⟩
    rw [hstreams, List.getElem?_set]
    split
    · next heq =>
      subst heq
      exact ⟨{ x with reported := true }, by rw [if_pos hlt], hxended⟩
    · exact ⟨s, hs, hended⟩

theorem over_run {k : Nat} {moves : List Move} (hr : Over k [] r) (h : r.run moves = some p) :
    Over k p.2 p.1 := by
  refine run_induction (P := fun _ p => Over k p.2 p.1) hr ?_ h
  intro moves p m q _ hp hstep
  exact over_step (p := q) hp hstep

end LightBridge.Rig
