import LightBridge.Proofs.Frame
import LightBridge.Proofs.Light.Stores
import LightBridge.Proofs.Light.Streaming
import LightBridge.Proofs.Session.Retries

/-! The frames of a session, one after the other. Each is begun in one turn, with the number of
frames before it and the lights as they are then, whatever others have done to them; how its sending
ends makes no difference to the number of the next. -/

namespace LightBridge.Session

variable {host : String} {settings : StreamSettings} {s : Session} {moves : List Move}
  {events : List SessionEvent} {frame : List UInt8} {i : Nat}

/-! ### The frames of a run -/

/-- The number of the next frame is that of the frames so far. -/
theorem seq_run (h : (toHost host settings).run moves = some (s, events)) :
    s.seq = UInt8.ofNat (frames events).length := by
  refine run_induction (P := fun _ events s => s.seq = UInt8.ofNat (frames events).length) rfl
    ?_ ?_ h
  · exact fun before past r _ hseq => hseq
  · intro before past r colors t p _ hseq hm
    rw [frames_append, List.length_append]
    rcases frames_turn hm with ⟨-, hframes, hnext⟩ | ⟨-, hframes, hnext⟩
    · rw [hframes, hnext, hseq, List.length_singleton, UInt8.ofNat_add]
      rfl
    · rw [hframes, hnext, hseq]
      rfl

/-- Where a frame was begun: the moves before, and the session then. -/
def BegunAt (first : Session) (moves : List Move) (i : Nat) (frame : List UInt8) : Prop :=
  ∃ before colors t after r past, moves = before ++ .turn colors t :: after ∧
    first.run before = some (r, past) ∧ r.Begins t ∧ (frames past).length = i ∧
    frame = Frame.encode (UInt8.ofNat i) colors

theorem BegunAt.concat {first : Session} {m : Move} (h : BegunAt first moves i frame) :
    BegunAt first (moves ++ [m]) i frame := by
  obtain ⟨before, colors, t, after, r, past, rfl, hrest⟩ := h
  exact ⟨before, colors, t, after ++ [m], r, past, by simp, hrest⟩

theorem begunAt_of_frame (h : (toHost host settings).run moves = some (s, events))
    (hi : (frames events)[i]? = some frame) : BegunAt (toHost host settings) moves i frame := by
  revert i frame
  refine run_induction (P := fun moves events _ => ∀ {frame i}, (frames events)[i]? = some frame →
    BegunAt (toHost host settings) moves i frame) (by simp [frames]) ?_ ?_ h
  · exact fun before past r _ hpast frame i hframe => (hpast hframe).concat
  · intro before past r colors t p hbefore hpast hm frame i hframe
    rw [frames_append] at hframe
    rcases frames_turn hm with ⟨hbegins, hframes, -⟩ | ⟨-, hframes, -⟩
    · rw [hframes] at hframe
      rcases Nat.lt_or_ge i (frames past).length with hless | hmore
      · rw [List.getElem?_append_left hless] at hframe
        exact (hpast hframe).concat
      · rw [List.getElem?_append_right hmore, List.getElem?_singleton] at hframe
        split at hframe
        · next hzero =>
          obtain rfl : i = (frames past).length := by omega
          have hseq := seq_run hbefore
          exact ⟨before, colors, t, [], r, past, rfl, hbefore, hbegins, rfl,
            by rw [← Option.some_inj.1 hframe, hseq]⟩
        · cases hframe
    · rw [hframes, List.append_nil] at hframe
      exact (hpast hframe).concat

/-! ### Lights that change -/

/-- What happens to a session and to the lights that it streams. -/
inductive Happening
  | stop
  | lights (step : LightSets.Step Float)
  | turn (t : Turn)

namespace Happening

/-- What is done to the lights. -/
def steps (hs : List Happening) : List (LightSets.Step Float) :=
  hs.filterMap fun h => match h with
    | .lights step => some step
    | _ => none

/-- What the session gets to see: each turn comes with the colours of its lights at that moment. -/
def seen (sets : LightSets Float) : List Happening → List Move
  | [] => []
  | .stop :: rest => .stop :: seen sets rest
  | .lights step :: rest => seen (sets.step step).1 rest
  | .turn t :: rest => .turn (Held.snapshot (sets.contents 0)) t :: seen sets rest

theorem seen_append (sets : LightSets Float) (hs later : List Happening) :
    seen sets (hs ++ later) = seen sets hs ++ seen (sets.run (steps hs)) later := by
  induction hs generalizing sets with
  | nil => rfl
  | cons x hs ih =>
    cases x with
    | stop => exact congrArg (Move.stop :: ·) (ih sets)
    | lights step => exact ih (sets.step step).1
    | turn t => exact congrArg (Move.turn (Held.snapshot (sets.contents 0)) t :: ·) (ih sets)

/-- A turn that the session sees is one that happened, with the lights as they were then. -/
theorem split_seen {sets : LightSets Float} {hs : List Happening} {before after : List Move}
    {colors : List (UInt16 × Point Float)} {t : Turn}
    (h : seen sets hs = before ++ .turn colors t :: after) :
    ∃ past rest, hs = past ++ .turn t :: rest ∧ seen sets past = before ∧
      colors = Held.snapshot ((sets.run (steps past)).contents 0) := by
  induction hs generalizing sets before with
  | nil => simp [seen] at h
  | cons x hs ih =>
    cases x with
    | stop =>
      cases before with
      | nil => simp [seen] at h
      | cons m before =>
        obtain ⟨rfl, hrest⟩ := List.cons_eq_cons.1 h
        obtain ⟨past, rest, rfl, rfl, hcolors⟩ := ih hrest
        exact ⟨.stop :: past, rest, rfl, rfl, hcolors⟩
    | lights step =>
      obtain ⟨past, rest, rfl, rfl, hcolors⟩ := ih h
      exact ⟨.lights step :: past, rest, rfl, rfl, hcolors⟩
    | turn t' =>
      cases before with
      | nil =>
        obtain ⟨hturn, -⟩ := List.cons_eq_cons.1 h
        obtain ⟨rfl, rfl⟩ := Move.turn.inj hturn
        exact ⟨[], hs, rfl, rfl, rfl⟩
      | cons m before =>
        obtain ⟨rfl, hrest⟩ := List.cons_eq_cons.1 h
        obtain ⟨past, rest, rfl, rfl, hcolors⟩ := ih hrest
        exact ⟨.turn t' :: past, rest, rfl, rfl, hcolors⟩

end Happening

/-- What a frame shows that is begun now, when a session was given these lights and others have done
this to them since: each light that is in its set, in order, in the colour that was stored for it
last. -/
def Shows (lights : List (Light Float)) (steps : List (LightSets.Step Float)) (i : Nat)
    (frame : List UInt8) : Prop :=
  let shown := ((LightSets.start lights).run steps).contents 0
  frame = Frame.encode (UInt8.ofNat i) (Held.snapshot shown) ∧
  Frame.decode frame = .ok ⟨UInt8.ofNat i, .xyBrightness,
    shown.map fun h => Frame.recordOf h.light.id h.light.color⟩ ∧
  ∀ h ∈ shown, LightSets.Last
    ((LightSets.start lights).shown ++ (LightSets.start lights).stored steps) h.number h.light.color

/-- The frames of a session whose lights are changed by others meanwhile. -/
structure Sequenced (first : Session) (lights : List (Light Float)) (hs : List Happening)
    (events : List SessionEvent) : Prop where
  /-- Each frame has the number of frames before it, and shows the lights as they were when it was
  begun. -/
  numbered : ∀ i frame, (frames events)[i]? = some frame → ∃ before t after r past,
    hs = before ++ .turn t :: after ∧
    first.run (Happening.seen (.start lights) before) = some (r, past) ∧ r.Begins t ∧
    (frames past).length = i ∧ Shows lights (Happening.steps before) i frame
  /-- A result is that of the frame begun last. -/
  answered : ∀ before d after r past, hs = before ++ .turn (.sent d) :: after →
    first.run (Happening.seen (.start lights) before) = some (r, past) →
    (frames past).length = (deliveries (Happening.seen (.start lights) before)).length + 1
  /-- Between two frames that are accepted, one after the other, the numbers of the late ones are
  left out. -/
  accepted_apart : ∀ earlier between later,
    deliveries (Happening.seen (.start lights) hs) =
      earlier ++ .accepted :: between ++ .accepted :: later → .accepted ∉ between →
    ∃ F G f g, (frames events)[earlier.length]? = some F ∧
      (frames events)[earlier.length + between.length + 1]? = some G ∧
      Frame.decode F = .ok f ∧ Frame.decode G = .ok g ∧
      g.seq = f.seq + 1 + UInt8.ofNat (between.count .late)

theorem shows_encode (lights : List (Light Float)) (steps : List (LightSets.Step Float)) (i : Nat) :
    Shows lights steps i (Frame.encode (UInt8.ofNat i)
      (Held.snapshot (((LightSets.start lights).run steps).contents 0))) := by
  refine ⟨rfl, ?_, fun h hh => LightSets.last_stored lights steps 0 hh⟩
  rw [Frame.decode_encode, Held.snapshot, List.map_map]
  rfl

theorem decode_of_begunAt {first : Session} (h : BegunAt first moves i frame) :
    ∃ f, Frame.decode frame = .ok f ∧ f.seq = UInt8.ofNat i := by
  obtain ⟨-, colors, -, -, -, -, -, -, -, -, rfl⟩ := h
  exact ⟨_, Frame.decode_encode _ colors, rfl⟩

/-- Between two results of accepted frames, and after no other, all are late. -/
theorem late_of_between (h : (toHost host settings).run moves = some (s, events))
    {earlier between later : List Delivery}
    (heq : deliveries moves = earlier ++ .accepted :: between ++ .accepted :: later)
    (hnone : .accepted ∉ between) : between.count .late = between.length := by
  refine List.count_eq_length.2 fun d hd => ?_
  obtain ⟨past, rest, rfl⟩ := List.append_of_mem hd
  have hundecided := (spends_run h).undecided_dropLast
  have hdrop : (deliveries moves).dropLast =
      (earlier ++ .accepted :: past) ++ d :: (rest ++ .accepted :: later).dropLast := by
    have hsplit : deliveries moves =
        (earlier ++ .accepted :: past) ++ d :: (rest ++ .accepted :: later) := by simp [heq]
    rw [hsplit, List.dropLast_append_of_ne_nil (by simp), List.dropLast_cons_of_ne_nil (by simp)]
  have hdecides := hundecided _ _ _ hdrop
  cases d with
  | accepted => exact absurd hd hnone
  | late => rfl
  | closedByPeer | broken => cases hdecides

/-- Only a frame that is on its way can have a result. -/
theorem sending_of_sent {colors : List (UInt16 × Point Float)} {d : Delivery} {p : Progress}
    (h : s.turn colors (.sent d) = some p) : ∃ left, s.phase = .sending left := by
  cases turn_cases h with
  | accepted left hphase | closedByPeer left hphase | broken left reason hphase =>
    exact ⟨left, hphase⟩
  | late left hphase => exact ⟨left + 1, hphase⟩
  | tooLate hphase => exact ⟨0, hphase⟩

/-- Each frame of a session has the number of frames begun before it, and shows every light that is
in the set at that moment, in the colour that was stored for it last, whatever others do to the
lights meanwhile and however the sending of a frame ends. -/
theorem frames_in_sequence {lights : List (Light Float)} {hs : List Happening}
    (h : (toHost host settings).run (Happening.seen (.start lights) hs) = some (s, events)) :
    Sequenced (toHost host settings) lights hs events := by
  refine ⟨?numbered, ?answered, ?apart⟩
  case numbered =>
    intro i frame hframe
    obtain ⟨before, colors, t, after, r, past, hmoves, hbefore, hbegins, hlength, rfl⟩ :=
      begunAt_of_frame h hframe
    obtain ⟨hb, ha, rfl, rfl, rfl⟩ := Happening.split_seen hmoves
    exact ⟨hb, t, ha, r, past, rfl, hbefore, hbegins, hlength, shows_encode lights _ i⟩
  case answered =>
    rintro before d after r past rfl hbefore
    rw [Happening.seen_append] at h
    obtain ⟨r', past', more, hbefore', hafter, -⟩ := run_split h
    obtain ⟨rfl, rfl⟩ : r = r' ∧ past = past' := by simpa [hbefore] using hbefore'
    obtain ⟨p, later, hstep, -, -⟩ := run_cons.1 hafter
    obtain ⟨left, hphase⟩ := sending_of_sent hstep
    have hspends := spends_run hbefore
    rw [hphase] at hspends
    exact hspends.2.2
  case apart =>
    intro earlier between later heq hnone
    have hlength := (spends_run h).length_le
    rw [heq] at hlength
    simp only [List.length_append, List.length_cons] at hlength
    have hfirst : earlier.length < (frames events).length := by omega
    have hsecond : earlier.length + between.length + 1 < (frames events).length := by omega
    have hF := List.getElem?_eq_getElem hfirst
    have hG := List.getElem?_eq_getElem hsecond
    obtain ⟨f, hf, hfseq⟩ := decode_of_begunAt (begunAt_of_frame h hF)
    obtain ⟨g, hg, hgseq⟩ := decode_of_begunAt (begunAt_of_frame h hG)
    refine ⟨_, _, f, g, hF, hG, hf, hg, ?_⟩
    rw [hfseq, hgseq, late_of_between h heq hnone, UInt8.ofNat_add, UInt8.ofNat_add,
      UInt8.add_assoc, UInt8.add_comm (UInt8.ofNat between.length), UInt8.add_assoc]
    rfl

/-- The second of three frames is late, and then the light is replaced by another one. -/
theorem frames_in_sequence_of_late_one :
    let lights : List (Light Float) := [.ofEntry 1 {}]
    let hs : List Happening := [.turn .begin, .turn (.connected (.ok ())), .turn (.shaken (.ok ())),
      .turn (.sent .accepted), .turn .rested, .turn (.sent .late),
      .lights (.replace 0 [.ofEntry 2 {}] false), .turn .rested, .turn (.sent .accepted)]
    ∃ s events F G f g,
      (toHost "bridge" {}).run (Happening.seen (.start lights) hs) = some (s, events) ∧
      (frames events)[0]? = some F ∧ (frames events)[2]? = some G ∧
      Frame.decode F = .ok f ∧ Frame.decode G = .ok g ∧ g.seq = f.seq + 2 := by
  intro lights hs
  obtain ⟨s, events, hrun⟩ : ∃ s events,
      (toHost "bridge" {}).run (Happening.seen (.start lights) hs) = some (s, events) := ⟨_, _, rfl⟩
  obtain ⟨F, G, f, g, hF, hG, hf, hg, hseq⟩ :=
    (frames_in_sequence hrun).accepted_apart [] [.late] [] rfl (by decide)
  refine ⟨s, events, F, G, f, g, hrun, hF, hG, hf, hg, ?_⟩
  rw [hseq, UInt8.add_assoc]
  rfl

end LightBridge.Session
