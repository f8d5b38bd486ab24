import LightBridge.Proofs.Rig.Applying
import LightBridge.Proofs.Rig.Order
import LightBridge.Proofs.Rig.Restoring

/-! How the lights of a device are given back: each one once, in order, by its last command, and when
no session is left that shows it. A device that went away leaves its lights to its last session,
which has three turns left at most. -/

namespace LightBridge.Rig

variable {r : Rig} {p : Progress}

/-! ### Sessions and the lights -/

theorem restores_paint (index : Nat) (c : Color) : restores (r.paint index c).2 = [] := by
  cases h : r.lights[index]? with
  | none =>
    rw [(paint_none c h).2]
    rfl
  | some x => rw [(paint_some c h).2, restores_painted]

/-- When lights are given back no session goes on. -/
theorem none_goes_of_restores {m : Move} (hr : Orderly r) (h : r.step m = some p)
    (hrestores : restores p.2 ≠ []) :
    p.1.isHeldBySession = false ∧ ∀ k, ∀ n ∈ p.2, ¬n.IsFrame k := by
  have hapart : ∀ {r' : Rig} {p : Progress}, Apart r' p → r'.isHeldBySession = false →
      p.1.isHeldBySession = false ∧ ∀ k, ∀ n ∈ p.2, ¬n.IsFrame k := fun h hheld =>
    ⟨(isHeldBySession_apart h).trans hheld, no_frame_of_apart h⟩
  cases step_cases h with
  | unheld operation next hidle hpresent happart hlights hstream =>
    refine hapart (afterStop_apart next) ?_
    rw [isHeldBySession, happart.streams_eq]
    exact hr.none_held hidle hstream
  | resumed htask hs hreported =>
    exact hapart (afterStop_apart _) (hr.none_resumed htask hs hreported)
  | released disabling reply htask =>
    refine hapart ((recordStreaming_apart _ _).andThen (released_apart _)) ?_
    exact hr.none_asking (by rw [htask]; rfl)
  | @turnedLast k s t q hs ht hended hpresent hheld =>
    refine ⟨hheld, ?_⟩
    rintro j n hn ⟨frame, rfl⟩
    rcases List.mem_append.1 hn with hn | hn
    · obtain ⟨e, he, heq⟩ := List.mem_map.1 hn
      cases heq
      have hgoing := (Session.due_of_turn ht he).2.2
      rw [hended] at hgoing
      cases hgoing
    · exact letGo_apart.no_events j _ hn
  | leftLast hidle hheld => exact hapart letGo_apart hheld
  | painted index c rest htask => exact absurd (restores_paint index c) hrestores
  | returned operation result hidle happart htask hlights hnotes =>
    rw [hnotes] at hrestores
    exact absurd (restores_of_quiet (by simp [Note.isQuiet])) hrestores
  | reset =>
    exact absurd (restores_of_quiet (quiet_recorded _ _ (quiet_askStreaming _ _))) hrestores
  | claimed | refused =>
    refine absurd (restores_of_quiet ?_) hrestores
    exact quiet_recorded _ _ (quiet_finishStart _ _)
  | forgot | shown | reported =>
    exact absurd (restores_of_quiet (by simp [finish, Note.isQuiet])) hrestores
  | turned | bridge =>
    exact absurd (restores_of_quiet (by simp [ofBridge, Note.isQuiet])) hrestores
  | began | stopping | left => exact absurd rfl hrestores

/-! ### A device that went away -/

namespace Move

/-- Whether a move is a turn of a session. -/
def isTurn : Move → Bool
  | .session _ _ => true
  | _ => false

end Move

/-- The turns that are left to the session of a device that went away. -/
def turnsLeft (r : Rig) : Nat :=
  ((r.stream.bind fun k => r.streams[k]?).map (·.session.turnsLeft)).getD 0

theorem turnsLeft_le (r : Rig) : r.turnsLeft ≤ 3 := by
  unfold turnsLeft
  cases (r.stream.bind fun k => r.streams[k]?) with
  | none => exact Nat.zero_le 3
  | some s => exact s.session.turnsLeft_le

/-- Only its session, the publishing of the end of one and its connection go on without a device. -/
theorem aside_of_gone {m : Move} (hr : Orderly r) (hgone : r.present = false)
    (h : r.step m = some p) : m.isAside := by
  have hidle : r.task = .idle := (hr.gone hgone).1
  cases m with
  | call operation => simp [step, hidle, hgone] at h
  | proceed => simp [step, proceed, hidle] at h
  | replied reply => simp [step, replied, hidle] at h
  | leave => simp [step, hidle, hgone] at h
  | session | report | bridge => rfl

theorem turnsLeft_held {k : Nat} {s : Stream} (hstream : r.stream = some k)
    (hs : r.streams[k]? = some s) : r.turnsLeft = s.session.turnsLeft := by
  rw [turnsLeft, hstream, Option.bind_some, hs]
  rfl

/-- Each turn of a session uses up one of those that are left. -/
theorem turnsLeft_turned (hr : Orderly r) (hgone : r.present = false) {k : Nat} {s : Stream}
    {t : Turn} {q : Session.Progress} (hs : r.streams[k]? = some s)
    (ht : s.session.turn r.colors t = some q) :
    turnsLeft { r with streams := r.streams.set k { s with session := q.1 } } < r.turnsLeft := by
  obtain ⟨hidle, hstopped⟩ := hr.gone hgone
  have hgoing := Session.going_of_turn ht
  have hlt : k < r.streams.length := (List.getElem?_eq_some_iff.1 hs).1
  have hstream : r.stream = some k := by
    have hsome := hr.going k s hs hgoing
    rwa [going?, hidle] at hsome
  have hset : (r.streams.set k { s with session := q.1 })[k]? = some { s with session := q.1 } :=
    List.getElem?_set_self hlt
  rw [turnsLeft_held hstream hs, turnsLeft_held (by exact hstream) hset]
  exact Session.turnsLeft_turn (hstopped s (List.mem_of_getElem? hs) hgoing) ht

theorem turnsLeft_reported {k : Nat} {s : Stream} (hs : r.streams[k]? = some s) :
    turnsLeft { r with streams := r.streams.set k { s with reported := true } } = r.turnsLeft := by
  cases hstream : r.stream with
  | none => simp only [turnsLeft, hstream, Option.bind_none]
  | some j =>
    simp only [turnsLeft, hstream, Option.bind_some, List.getElem?_set]
    split
    · next heq =>
      subst heq
      rw [if_pos (List.getElem?_eq_some_iff.1 hs).1, hs]
      rfl
    · rfl

theorem turnsLeft_step {m : Move} (hr : Orderly r) (hgone : r.present = false)
    (h : r.step m = some p) :
    p.1.present = false ∧ p.1.turnsLeft + (if m.isTurn then 1 else 0) ≤ r.turnsLeft := by
  have haside := aside_of_gone hr hgone h
  refine ⟨(aside_of_step haside h).present_eq.trans hgone, ?_⟩
  cases step_cases h with
  | turned hs ht | turnedLast hs ht => exact turnsLeft_turned hr hgone hs ht
  | reported hs => exact Nat.le_of_eq (turnsLeft_reported hs)
  | bridge => exact Nat.le_refl _
  | _ => cases haside

theorem turnsLeft_run {moves : List Move} (hr : Orderly r) (hgone : r.present = false)
    (h : r.run moves = some p) : p.1.turnsLeft + moves.countP Move.isTurn ≤ r.turnsLeft := by
  induction moves generalizing r p with
  | nil =>
    cases h
    exact Nat.le_refl _
  | cons m moves ih =>
    obtain ⟨q, more, hstep, hrun, -⟩ := run_cons.1 h
    obtain ⟨hqgone, hfirst⟩ := turnsLeft_step hr hgone hstep
    have hrest := ih (p := (p.1, more)) (orderly_step hr hstep) hqgone hrun
    dsimp only at hrest
    rw [List.countP_cons]
    omega

/-- The lights of a device that went away are held as long as a session of it goes on. -/
def LetGo (r : Rig) : Prop := r.present = false → r.isHeldBySession = false → r.lights = []

theorem isHeldBySession_reported {k : Nat} {s : Stream} (hs : r.streams[k]? = some s) :
    isHeldBySession { r with streams := r.streams.set k { s with reported := true } } =
      r.isHeldBySession := by
  have hany : ∀ (streams : List Stream) (k : Nat), streams[k]? = some s →
      (streams.set k { s with reported := true }).any (fun s => !s.session.hasEnded) =
        streams.any fun s => !s.session.hasEnded := by
    intro streams
    induction streams with
    | nil => simp
    | cons x streams ih =>
      intro k hk
      cases k with
      | zero =>
        obtain rfl : x = s := by simpa using hk
        simp
      | succ k => simp [ih k hk]
  exact hany r.streams k hs

theorem letGo_step {m : Move} (hpast : Orderly r) (hr : LetGo r) (h : r.step m = some p) :
    LetGo p.1 := by
  cases hpresent : r.present with
  | false =>
    have haside := aside_of_gone hpast hpresent h
    cases step_cases h with
    | turned hs ht hheld =>
      intro _ hnone
      rw [hheld hpresent] at hnone
      cases hnone
    | turnedLast => exact fun _ _ => rfl
    | reported hs =>
      intro _ hnone
      rw [isHeldBySession_reported hs] at hnone
      exact hr hpresent hnone
    | bridge => exact hr
    | _ => cases haside
  | true =>
    rcases present_step h with hsame | rfl
    · intro hgone
      rw [hsame, hpresent] at hgone
      cases hgone
    · cases step_cases h with
      | left hidle hheld =>
        intro _ hnone
        rw [hheld] at hnone
        cases hnone
      | leftLast => exact fun _ _ => rfl

/-! ### What is posted -/

/-- But for the connection itself, only lights post commands, in the order in which they send them. -/
theorem posts_step {m : Move} (hm : m.isBridge = false) (h : r.step m = some p) :
    p.1.bridge.posts = r.bridge.posts ++ (commands p.2).map inFlight := by
  have hquiet : ∀ {r' : Rig} {notes : List Note}, (∀ n ∈ notes, n.isQuiet) →
      r'.bridge.posts = r.bridge.posts →
      r'.bridge.posts = r.bridge.posts ++ (commands notes).map inFlight := by
    intro r' notes hnotes hsame
    rw [commands_of_quiet hnotes, hsame, List.map_nil, List.append_nil]
  cases step_cases h with
  | returned operation result hidle happart => exact happart.posts_eq
  | forgot | shown => exact (finish_apart _).posts_eq
  | began | reported | turned => exact hquiet (by simp [Note.isQuiet]) rfl
  | stopping operation next hidle hpresent happart => exact happart.posts_eq
  | unheld operation next hidle hpresent happart =>
    exact (happart.trans (afterStop_apart next)).posts_eq
  | painted index c => exact (paint_apart index c).posts_eq
  | resumed => exact (afterStop_apart _).posts_eq
  | reset => exact ((recordStreaming_apart _ _).andThen (askStreaming_apart _ _)).posts_eq
  | claimed =>
    refine hquiet (quiet_recorded _ _ (quiet_finishStart _ _)) ?_
    rfl
  | refused => exact ((recordStreaming_apart _ _).andThen (finishStart_apart _ _)).posts_eq
  | released => exact ((recordStreaming_apart _ _).andThen (released_apart _)).posts_eq
  | turnedLast =>
    rw [andThen, commands_append, commands_of_quiet (by simp [Note.isQuiet]), List.nil_append]
    exact letGo_apart.posts_eq
  | bridge => cases hm
  | left => exact hquiet (by simp) (congrArg Bridge.posts (dismiss_bridge _))
  | leftLast =>
    have hposts := (letGo_apart (r := { r with present := false }.dismiss)).posts_eq
    rwa [dismiss_bridge] at hposts

/-! ### A whole run -/

/-- A device that went away gives its lights back when its session has ended. That takes three turns
at most, and none of them can fail to come. -/
structure Ending (notes : List Note) (r : Rig) : Prop where
  few : ∀ later p, r.run later = some p → later.countP Move.isTurn ≤ 3
  goes_on : r.isHeldBySession = true → ∃ k s, r.streams[k]? = some s ∧
    (∃ t, s.session.phase.Awaits t) ∧ ∀ t, s.session.phase.Awaits t → (r.step (.session k t)).isSome
  all : r.isHeldBySession = false → restores notes = (takings notes).map Held.restoring

/-- How the lights of a device that had none at first are given back, wherever it is. -/
structure GivenBack (notes : List Note) (r : Rig) : Prop extends Accounted notes r where
  posted : ∀ m p, r.step m = some p → m.isBridge = false →
    p.1.bridge.posts = r.bridge.posts ++ (commands p.2).map inFlight
  /-- No session that was started before lights are given back sends a frame after that. -/
  silent : ∀ m p later q, r.step m = some p → restores p.2 ≠ [] → p.1.run later = some q →
    ∀ k < p.1.streams.length, ∀ n ∈ p.2 ++ q.2, ¬n.IsFrame k
  applied : ∀ inventory during p, (∀ m ∈ during, m.isOwners = false) →
    r.run (.call (.handle (.inventoryReady inventory)) :: during) = some p → p.1.task = .idle →
    Untouched p.2 ∨ Exchanged r.lights p.2 p.1
  disabled : ∀ during p, (∀ m ∈ during, m.isOwners = false) →
    r.run (.call .disable :: during) = some p → p.1.task = .idle →
    restores (notes ++ p.2) = (takings (notes ++ p.2)).map Held.restoring
  gone : r.present = false → Ending notes r

section

variable {fresh : Rig} {moves : List Move} {notes : List Note}

theorem accounted_run (hfresh : Fresh fresh) (h : fresh.run moves = some (r, notes)) :
    Accounted notes r := by
  have hbegin : Accounted [] fresh := by
    rw [hfresh.eq]
    exact ⟨rfl, rfl, List.Pairwise.nil⟩
  exact (run_does_anything h).keeps (P := fun _ notes r => Accounted notes r) accounted_act [] []
    hbegin

theorem letGo_run (hfresh : Fresh fresh) (h : fresh.run moves = some p) : LetGo p.1 := by
  refine run_induction (P := fun _ p => LetGo p.1) ?_ ?_ h
  · rw [hfresh.eq]
    exact fun _ _ => rfl
  · intro moves p m q hrun hp hstep
    exact letGo_step (p := q) (orderly_run hfresh hrun) hp hstep

theorem Accounted.all (h : Accounted notes r) (hlights : r.lights = []) :
    restores notes = (takings notes).map Held.restoring := by
  rw [h.conserved, hlights, List.map_nil, List.append_nil]

/-- No frame follows when lights were given back. -/
theorem silent_run (hr : Orderly r) {m : Move} {later : List Move} {q : Progress}
    (hstep : r.step m = some p) (hrestores : restores p.2 ≠ []) (hlater : p.1.run later = some q)
    {k : Nat} (hk : k < p.1.streams.length) : ∀ n ∈ p.2 ++ q.2, ¬n.IsFrame k := by
  obtain ⟨hheld, hnone⟩ := none_goes_of_restores hr hstep hrestores
  have hs : p.1.streams[k]? = some p.1.streams[k] := List.getElem?_eq_getElem hk
  have hended := isHeldBySession_eq_false_iff.1 hheld _ (List.mem_of_getElem? hs)
  obtain ⟨-, hsilent⟩ := over_run ⟨⟨_, hs, hended⟩, by simp⟩ hlater
  intro n hn
  rcases List.mem_append.1 hn with hn | hn
  · exact hnone k n hn
  · rintro ⟨frame, rfl⟩
    exact hsilent _ hn

theorem ending (hr : Orderly r) (haccounted : Accounted notes r) (hletGo : LetGo r)
    (hgone : r.present = false) : Ending notes r where
  few later p h := by
    have hturns := turnsLeft_run hr hgone h
    have hleast := turnsLeft_le r
    omega
  goes_on hheld := by
    obtain ⟨s, hs, hgoing⟩ := List.any_eq_true.1 hheld
    obtain ⟨k, hk⟩ := List.mem_iff_getElem?.1 hs
    refine ⟨k, s, hk, Session.exists_awaited (by simpa using hgoing), fun t ht => ?_⟩
    have hturn : (s.session.turn r.colors t).isSome := Session.turn_of_awaits ht
    obtain ⟨q, hq⟩ := Option.isSome_iff_exists.1 hturn
    simp [step, sessionTurn, hk, hq]
  all hheld := haccounted.all (hletGo hgone hheld)

/-- Every light is given back once, by the last command that it sends, in order with the others, and
after the end of every session that showed it. -/
theorem given_back (hfresh : Fresh fresh) (h : fresh.run moves = some (r, notes)) :
    GivenBack notes r where
  toAccounted := accounted_run hfresh h
  posted m p hstep hm := posts_step hm hstep
  silent m p later q hstep hrestores hlater k hk :=
    silent_run (orderly_run hfresh h) hstep hrestores hlater hk
  applied inventory during p hduring hrun hidle := applied_inventory hduring hrun hidle
  disabled during p hduring hrun hidle := by
    have hwhole : fresh.run (moves ++ .call .disable :: during) = some (p.1, notes ++ p.2) :=
      run_append.2 ⟨(r, notes), p.2, h, hrun, rfl⟩
    exact (accounted_run hfresh hwhole).all (lights_after_disable hduring hrun hidle)
  gone := ending (orderly_run hfresh h) (accounted_run hfresh h) (letGo_run hfresh h)

/-- A device goes away while its session connects. -/
theorem given_back_after_leaving :
    let moves := connecting ++ [.leave, .session 0 (.connected (.error (.unreachable "open")))]
    ∃ fresh p, Fresh fresh ∧ fresh.run moves = some p ∧ p.1.present = false ∧
      (takings p.2).map (·.number) = [0] ∧
      restores p.2 = (takings p.2).map Held.restoring := by
  intro moves
  let fresh : Rig :=
    { bridge := groupBridge, settings := { streaming := true }, canStream := true }
  have hfresh : Fresh fresh := .withTransport groupBridge { streaming := true }
  have hrun : ((fresh.run moves).any fun p => !p.1.present && !p.1.isHeldBySession &&
      (takings p.2).map (·.number) = [0]) = true := by decide +kernel
  obtain ⟨⟨r, notes⟩, hrun, hp⟩ := (Option.any_eq_true _ _).1 hrun
  obtain ⟨hp, htakings⟩ := Bool.and_eq_true_iff.1 hp
  obtain ⟨hgone, hheld⟩ := Bool.and_eq_true_iff.1 hp
  have hgone : r.present = false := by simpa using hgone
  have hheld : r.isHeldBySession = false := by simpa using hheld
  exact ⟨fresh, (r, notes), hfresh, hrun, hgone, of_decide_eq_true htakings,
    ((given_back hfresh hrun).gone hgone).all hheld⟩

end

end LightBridge.Rig
