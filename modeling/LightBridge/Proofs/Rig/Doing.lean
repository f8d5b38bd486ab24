import LightBridge.Rig.Move

/-! What a rig does at a move, taken apart into the few things it ever does to its lights and
sessions. What each of those keeps, every run keeps. -/

namespace LightBridge.Rig

/-- A note that tells nothing of lights. -/
def Note.isQuiet : Note → Bool
  | .bridge _ | .session _ _ | .returned _ => true
  | .tookOver _ | .commanded _ => false

/-- If lights are to be taken over when a session has ended, their entries are known. -/
def Expects (known : Listing (LightEntry Float) → Prop) : Task → Prop
  | .stopping _ (.takeOver _ entries) => known entries
  | _ => True

theorem expects_idle {known : Listing (LightEntry Float) → Prop} : Expects known .idle := trivial

/-- One thing that a rig does, with the colours that it shows by that, each with the index of the
light. Lights are taken over from known entries only. -/
inductive Act (known : Listing (LightEntry Float) → Prop) :
    Rig → List (Nat × Color) → Progress → Prop
  | quiet {r : Rig} {task : Task} {enabled ready present : Bool} {bridge : Bridge}
    {notes : List Note} (htask : Expects known r.task → Expects known task)
    (hnotes : ∀ n ∈ notes, n.isQuiet) :
    Act known r [] ({ r with task, enabled, ready, present, bridge }, notes)
  | painted (index : Nat) (color : Color) {r : Rig} :
    Act known r [(index, color)] (r.paint index color)
  | tookOver {ids : List UInt16} {entries : Listing (LightEntry Float)} {r : Rig}
    (h : known entries) : Act known r [] (r.takeOver ids entries)
  | letGo {r : Rig} : Act known r [] r.letGo
  | stopped (k : Nat) {r : Rig} : Act known r [] (r.stopSession k, [])
  | forgot {r : Rig} : Act known r [] ({ r with stream := none }, [])
  | launched {r : Rig} : Act known r [] (r.launch, [])
  | turned {k : Nat} {s : Stream} {t : Turn} {p : Session.Progress} {r : Rig}
    (hs : r.streams[k]? = some s) (ht : s.session.turn r.colors t = some p) :
    Act known r [] ({ r with streams := r.streams.set k { s with session := p.1 } },
      p.2.map (.session k))
  | reported {k : Nat} {s : Stream} {outcome : Outcome} {r : Rig} (hs : r.streams[k]? = some s)
    (ho : s.session.phase.outcome? = some outcome) :
    Act known r [] ({ r with streams := r.streams.set k { s with reported := true } },
      [.bridge (.published none (.streamStopped outcome))])

/-- Some things done in order. -/
inductive Does (known : Listing (LightEntry Float) → Prop) :
    Rig → List (Nat × Color) → Progress → Prop
  | nothing {r : Rig} : Does known r [] (r, [])
  | more {r : Rig} {p q : Progress} {shown later : List (Nat × Color)} (h : Act known r shown p)
    (hlater : Does known p.1 later q) : Does known r (shown ++ later) (q.1, p.2 ++ q.2)

variable {known : Listing (LightEntry Float) → Prop}

theorem Act.does {r : Rig} {p : Progress} {shown : List (Nat × Color)} (h : Act known r shown p) :
    Does known r shown p := by
  simpa using Does.more h .nothing

theorem Does.trans {r : Rig} {p q : Progress} {shown later : List (Nat × Color)}
    (h : Does known r shown p) (hlater : Does known p.1 later q) :
    Does known r (shown ++ later) (q.1, p.2 ++ q.2) := by
  induction h with
  | nothing => exact hlater
  | more hact _ ih =>
    have h := Does.more hact (ih hlater)
    simpa only [List.append_assoc] using h

/-- What every single thing keeps, about the rig and all that was shown and noted before, is kept by
all that is done. -/
theorem Does.keeps {P : List (Nat × Color) → List Note → Rig → Prop}
    (hact : ∀ {r : Rig} {p : Progress} {shown new : List (Nat × Color)} {notes : List Note},
      Act known r new p → P shown notes r → P (shown ++ new) (notes ++ p.2) p.1)
    {r : Rig} {p : Progress} {new : List (Nat × Color)} (h : Does known r new p)
    (shown : List (Nat × Color)) (notes : List Note) (hr : P shown notes r) :
    P (shown ++ new) (notes ++ p.2) p.1 := by
  induction h generalizing shown notes with
  | nothing => simpa using hr
  | more h _ ih =>
    have h := ih _ _ (hact h hr)
    simpa only [List.append_assoc] using h

theorem Does.keeps_rig {P : Rig → Prop}
    (hact : ∀ {r : Rig} {p : Progress} {new : List (Nat × Color)}, Act known r new p → P r → P p.1)
    {r : Rig} {p : Progress} {new : List (Nat × Color)} (h : Does known r new p) (hr : P r) :
    P p.1 :=
  h.keeps (P := fun _ _ r => P r) hact [] [] hr

theorem settings_act {r : Rig} {p : Progress} {shown : List (Nat × Color)}
    (h : Act known r shown p) : p.1.settings = r.settings := by
  cases h <;> rfl

theorem Does.settings_eq {r : Rig} {p : Progress} {shown : List (Nat × Color)}
    (h : Does known r shown p) : p.1.settings = r.settings :=
  h.keeps_rig (P := fun q => q.settings = r.settings)
    (fun hact hq => (settings_act hact).trans hq) rfl

theorem expects_act {r : Rig} {p : Progress} {shown : List (Nat × Color)}
    (h : Act known r shown p) (hr : Expects known r.task) : Expects known p.1.task := by
  cases h with
  | quiet htask => exact htask hr
  | _ => exact hr

/-! ### The operations -/

theorem Does.andThen {r : Rig} {p : Progress} {next : Rig → Progress} (h : Does known r [] p)
    (hnext : Does known p.1 [] (next p.1)) : Does known r [] (Rig.andThen p next) := h.trans hnext

variable {r : Rig}

/-- Nothing is left to be done. -/
theorem idle_does {enabled ready present : Bool} {bridge : Bridge} {notes : List Note}
    (hnotes : ∀ n ∈ notes, n.isQuiet) :
    Does known r [] ({ r with task := .idle, enabled, ready, present, bridge }, notes) :=
  (Act.quiet (fun _ => expects_idle) hnotes).does

theorem finish_does (result : Except Fault Unit) : Does known r [] (r.finish result) :=
  idle_does (by simp [Note.isQuiet])

theorem finishStart_does (applying : Bool) (result : Except Fault Unit) :
    Does known r [] (r.finishStart applying result) := by
  cases result with
  | ok => exact idle_does (by simp [Note.isQuiet])
  | error e => exact idle_does (by simp [Note.isQuiet])

theorem askStreaming_does (active : Bool) {task : Task} (htask : Expects known task) :
    Does known r [] (r.askStreaming active task) :=
  (Act.quiet (fun _ => htask) (by simp [Note.isQuiet])).does

theorem recordStreaming_does (active : Bool) (reply : Reply) :
    Does known r [] (r.recordStreaming active reply) :=
  (Act.quiet id (by simp [Note.isQuiet])).does

theorem released_does (disabling : Bool) : Does known r [] (r.released disabling) := by
  unfold released
  split
  · have hready : Does known r [] ({ r with ready := false }, []) := (Act.quiet id (by simp)).does
    exact (hready.trans Act.letGo.does).andThen (finish_does _)
  · exact finish_does _

theorem afterStop_does {k : Nat} {next : AfterStop} (hnext : Expects known (.stopping k next)) :
    Does known r [] (r.afterStop next) := by
  cases next with
  | takeOver ids entries =>
    simp only [afterStop]
    refine (Act.tookOver hnext).does.andThen ?_
    split
    · exact finishStart_does _ _
    · split
      · exact finishStart_does _ _
      · split
        · exact finishStart_does _ _
        · exact askStreaming_does _ trivial
  | restart => exact askStreaming_does _ trivial
  | handBack disabling =>
    simp only [afterStop]
    split
    · exact askStreaming_does _ trivial
    · exact released_does _

theorem stopThen_does {next : AfterStop} (hnext : ∀ k, Expects known (.stopping k next)) :
    Does known r [] (r.stopThen next) := by
  unfold stopThen
  split
  · exact afterStop_does (hnext 0)
  · next k _ =>
    have hstop : Does known r [] (r.stopSession k, []) := (Act.stopped k).does
    exact (hstop.trans Act.forgot.does).trans (Act.quiet (fun _ => hnext k) (by simp)).does

theorem startStreaming_does : Does known r [] r.startStreaming := by
  unfold startStreaming
  split
  · exact finish_does _
  · split
    · exact finish_does _
    · exact stopThen_does fun _ => trivial

theorem applyInventory_does {inventory : Inventory} (h : known inventory.lights) :
    Does known r [] (r.applyInventory inventory) := by
  unfold applyInventory
  split
  · exact finish_does _
  · split
    · exact finishStart_does _ _
    · exact stopThen_does fun _ => h

theorem streamStopped_does : Does known r [] r.streamStopped := by
  unfold streamStopped
  split
  · exact finish_does _
  · have hforgot : Does known r [] ({ r with stream := none }, []) := Act.forgot.does
    exact hforgot.trans (idle_does (by simp [Note.isQuiet]))

/-- The entries that a move brings are known. -/
def Brings (known : Listing (LightEntry Float) → Prop) : Move → Prop
  | .call (.handle (.inventoryReady inventory)) => known inventory.lights
  | _ => True

theorem handleEvent_does {event : BridgeEvent} (h : Brings known (.call (.handle event))) :
    Does known r [] (r.handleEvent event) := by
  cases event with
  | inventoryReady inventory => exact applyInventory_does h
  | transportError message =>
    exact idle_does (by simp [Note.isQuiet])
  | streamStopped outcome => exact streamStopped_does

theorem write_does (colors : List Color) : Does known r [] (r.write colors) := by
  unfold write
  dsimp only
  split
  · exact finish_does _
  · split
    · exact finish_does _
    · exact (Act.quiet (by exact fun _ => trivial) (by simp)).does

theorem enable_does : Does known r [] r.enable := by
  have henabled : Does known r [] ({ r with enabled := true }, []) := (Act.quiet id (by simp)).does
  unfold enable
  dsimp only
  split
  · exact henabled.trans (idle_does (by simp [Note.isQuiet]))
  · split
    · exact henabled.trans startStreaming_does
    · exact henabled.trans (idle_does (by simp [Note.isQuiet]))

theorem disable_does : Does known r [] r.disable := by
  have hdisabled : Does known r [] ({ r with enabled := false, bridge := r.bridge.cancel }, []) :=
    (Act.quiet id (by simp)).does
  exact hdisabled.trans (stopThen_does fun _ => trivial)

theorem call_does {operation : Operation} (h : Brings known (.call operation)) :
    Does known r [] (r.call operation) := by
  cases operation with
  | handle event => exact handleEvent_does h
  | write colors => exact write_does colors
  | startStreaming => exact startStreaming_does
  | switchOff => exact stopThen_does fun _ => trivial
  | enable => exact enable_does
  | disable => exact disable_does

theorem leave_does : Does known r [] r.leave := by
  have hleft : Does known r [] ({ r with present := false }, []) := (Act.quiet id (by simp)).does
  rcases r with ⟨bridge, settings, canStream, lights, taken, streams, none | k, task⟩
  · simp only [leave]
    split
    · exact hleft
    · exact hleft.trans Act.letGo.does
  · have hstopped := hleft.trans (Act.stopped k).does
    simp only [leave]
    split
    · exact hstopped
    · exact hstopped.trans Act.letGo.does

theorem proceed_does {p : Progress} (hr : Expects known r.task) (h : r.proceed = some p) :
    Does known r (match r.task with | .painting index (c :: _) => [(index, c)] | _ => []) p := by
  unfold proceed at h
  split at h
  · next htask =>
    cases h
    rw [htask]
    exact finish_does _
  · next index c rest htask =>
    cases h
    rw [htask]
    have htasked : Does known r [] ({ r with task := .painting (index + 1) rest }, []) :=
      (Act.quiet (by exact fun _ => trivial) (by simp)).does
    exact htasked.trans (Act.painted index c).does
  · next k next htask =>
    rw [htask] at hr ⊢
    split at h
    · split at h
      · cases h
        exact afterStop_does hr
      · cases h
    · cases h
  · cases h

theorem replied_does {p : Progress} (reply : Reply) (h : r.replied reply = some p) :
    Does known r [] p := by
  unfold replied at h
  split at h
  · cases h
    exact (recordStreaming_does _ _).andThen (askStreaming_does _ (by trivial))
  · next applying htask =>
    cases h
    refine (recordStreaming_does _ _).andThen ?_
    generalize (r.recordStreaming true reply).1 = r
    split
    · have hlaunched : Does known r [] (r.launch, []) := Act.launched.does
      exact hlaunched.trans (finishStart_does applying (.ok ()))
    · exact finishStart_does _ _
  · cases h
    exact (recordStreaming_does _ _).andThen (released_does _)
  · cases h

theorem sessionTurn_does {p : Progress} (k : Nat) (t : Turn) (h : r.sessionTurn k t = some p) :
    Does known r [] p := by
  simp only [sessionTurn, Option.bind_eq_bind, Option.bind_eq_some_iff, Option.pure_def,
    Option.some.injEq] at h
  obtain ⟨s, hs, q, hq, rfl⟩ := h
  have hturned := (Act.turned hs hq : Act known r [] _).does
  split
  · exact hturned.andThen Act.letGo.does
  · exact hturned

theorem report_does {p : Progress} (k : Nat) (h : r.report k = some p) : Does known r [] p := by
  simp only [report, Option.bind_eq_bind, Option.bind_eq_some_iff] at h
  obtain ⟨s, hs, outcome, ho, h⟩ := h
  split at h
  · cases h
  · cases h
    exact (Act.reported hs ho).does

/-! ### Moves -/

/-- The colours that a move shows, each with the index of the light. -/
def showing (r : Rig) : Move → List (Nat × Color)
  | .proceed =>
    match r.task with
    | .painting index (c :: _) => [(index, c)]
    | _ => []
  | _ => []

/-- The colours that moves made in order show. -/
def shown (r : Rig) : List Move → List (Nat × Color)
  | [] => []
  | m :: rest => r.showing m ++ ((r.step m).map fun p => shown p.1 rest).getD []

theorem step_does {m : Move} {p : Progress} (hr : Expects known r.task) (hm : Brings known m)
    (h : r.step m = some p) : Does known r (r.showing m) p := by
  cases m with
  | call operation =>
    simp only [step] at h
    split at h
    · cases h
      exact call_does hm
    · cases h
  | proceed => exact proceed_does hr h
  | replied reply => exact replied_does reply h
  | session k t => exact sessionTurn_does k t h
  | report k => exact report_does k h
  | bridge m =>
    obtain ⟨q, -, rfl⟩ := Option.map_eq_some_iff.1 h
    exact (Act.quiet id (by simp [Note.isQuiet])).does
  | leave =>
    simp only [step] at h
    split at h
    · cases h
      exact leave_does
    · cases h

theorem step_call {operation : Operation} {p : Progress}
    (h : r.step (.call operation) = some p) :
    r.task = .idle ∧ r.present = true ∧ p = r.call operation := by
  simp only [step] at h
  split at h
  · next htask hpresent => exact ⟨htask, hpresent, (Option.some_inj.1 h).symm⟩
  · cases h

theorem shown_cons {m : Move} {moves : List Move} {p : Progress} (h : r.step m = some p) :
    r.shown (m :: moves) = r.showing m ++ p.1.shown moves := by
  rw [shown, h, Option.map_some, Option.getD_some]

theorem run_cons {m : Move} {moves : List Move} {p : Progress} :
    r.run (m :: moves) = some p ↔
      ∃ q more, r.step m = some q ∧ q.1.run moves = some (p.1, more) ∧ p.2 = q.2 ++ more := by
  obtain ⟨r', notes⟩ := p
  simp only [run, Option.bind_eq_bind, Option.bind_eq_some_iff, Option.pure_def, Option.some.injEq,
    Prod.mk.injEq]
  constructor
  · rintro ⟨q, hq, s, hs, rfl, rfl⟩
    exact ⟨q, s.2, hq, hs, rfl⟩
  · rintro ⟨q, more, hq, hs, rfl⟩
    exact ⟨q, hq, (r', more), hs, rfl, rfl⟩

theorem run_append {before after : List Move} {p : Progress} :
    r.run (before ++ after) = some p ↔
      ∃ q more, r.run before = some q ∧ q.1.run after = some (p.1, more) ∧ p.2 = q.2 ++ more := by
  induction before generalizing r p with
  | nil => simp [run]
  | cons m before ih =>
    simp only [List.cons_append, run_cons, ih]
    constructor
    · rintro ⟨q, more, hq, ⟨s, later, hs, hl, rfl⟩, hp⟩
      exact ⟨(s.1, q.2 ++ s.2), later, ⟨q, s.2, hq, hs, rfl⟩, hl, by simpa using hp⟩
    · rintro ⟨s, more, ⟨q, notes, hq, hs, hnotes⟩, hl, hp⟩
      exact ⟨q, notes ++ more, hq, ⟨(s.1, notes), more, hs, hl, rfl⟩, by simp [hp, hnotes]⟩

theorem shown_append {before after : List Move} {p : Progress} (h : r.run before = some p) :
    r.shown (before ++ after) = r.shown before ++ p.1.shown after := by
  induction before generalizing r p with
  | nil =>
    cases h
    rfl
  | cons m before ih =>
    obtain ⟨q, more, hstep, hrun, -⟩ := run_cons.1 h
    have hrest := ih (p := (p.1, more)) hrun
    rw [List.cons_append, shown_cons hstep, shown_cons hstep, hrest, List.append_assoc]

theorem run_does {moves : List Move} {p : Progress} (hr : Expects known r.task)
    (hmoves : ∀ m ∈ moves, Brings known m) (h : r.run moves = some p) :
    Does known r (r.shown moves) p := by
  induction moves generalizing r p with
  | nil =>
    cases h
    exact .nothing
  | cons m moves ih =>
    obtain ⟨q, more, hstep, hrun, hnotes⟩ := run_cons.1 h
    obtain ⟨hm, hrest⟩ := List.forall_mem_cons.1 hmoves
    have hfirst := step_does hr hm hstep
    have hexpects : Expects known q.1.task :=
      hfirst.keeps_rig (P := fun q => Expects known q.task) expects_act hr
    have hdoes := hfirst.trans (ih hexpects hrest hrun)
    rw [shown_cons hstep]
    rwa [← hnotes] at hdoes

/-- What holds of the rig and of all that was noted, and is kept by each single one of the moves, is
kept by all of them. -/
theorem run_keeps {Q : Move → Prop} {P : List Note → Rig → Prop}
    (hstep : ∀ {r : Rig} {m : Move} {p : Progress} {notes : List Note}, Q m → P notes r →
      r.step m = some p → P (notes ++ p.2) p.1)
    {moves : List Move} {p : Progress} (hmoves : ∀ m ∈ moves, Q m) (notes : List Note)
    (hr : P notes r) (h : r.run moves = some p) : P (notes ++ p.2) p.1 := by
  induction moves generalizing r p notes with
  | nil =>
    cases h
    rwa [List.append_nil]
  | cons m moves ih =>
    obtain ⟨q, more, hfirst, hrun, hnotes⟩ := run_cons.1 h
    obtain ⟨hm, hrest⟩ := List.forall_mem_cons.1 hmoves
    have hp := ih (p := (p.1, more)) hrest (notes ++ q.2) (hstep hm hr hfirst) hrun
    rwa [hnotes, ← List.append_assoc]

/-- Any entries. -/
def anything : Listing (LightEntry Float) → Prop := fun _ => True

theorem expects_anything (task : Task) : Expects anything task := by
  unfold Expects
  split <;> trivial

theorem brings_anything (m : Move) : Brings anything m := by
  unfold Brings
  split <;> trivial

theorem step_does_anything {m : Move} {p : Progress} (h : r.step m = some p) :
    Does anything r (r.showing m) p :=
  step_does (expects_anything _) (brings_anything m) h

theorem run_does_anything {moves : List Move} {p : Progress} (h : r.run moves = some p) :
    Does anything r (r.shown moves) p :=
  run_does (expects_anything _) (fun m _ => brings_anything m) h

/-! ### The beginning -/

theorem forBridge_eq {bridge : Bridge} {settings : DeviceSettings}
    (h : forBridge bridge settings = .ok r) :
    r = { bridge, settings, canStream := settings.streaming } := by
  unfold forBridge at h
  split at h
  · next hstreaming =>
    cases hkey : bridge.endpoint.presharedKey with
    | ok key =>
      rw [hkey] at h
      cases h
      rw [hstreaming]
    | error e =>
      rw [hkey] at h
      cases h
  · next hstreaming =>
    cases h
    rw [eq_false_of_ne_true hstreaming]

/-- A device as it is built: for its bridge, or with a transport that its owner brings. -/
inductive Fresh : Rig → Prop
  | forBridge {bridge : Bridge} {settings : DeviceSettings} {r : Rig}
    (h : forBridge bridge settings = .ok r) : Fresh r
  | withTransport (bridge : Bridge) (settings : DeviceSettings) :
    Fresh { bridge, settings, canStream := true }

theorem Fresh.eq {r : Rig} (h : Fresh r) :
    r = { bridge := r.bridge, settings := r.settings, canStream := r.canStream } := by
  cases h with
  | forBridge h => rw [forBridge_eq h]
  | withTransport => rfl

/-- A device that streams has a transport. -/
theorem Fresh.canStream {r : Rig} (h : Fresh r) (hstreaming : r.settings.streaming = true) :
    r.canStream = true := by
  cases h with
  | forBridge h =>
    rw [forBridge_eq h] at hstreaming ⊢
    exact hstreaming
  | withTransport => rfl

/-- A bridge with a group to stream to. -/
def groupBridge : Bridge :=
  { endpoint := { host := "bridge", username := "user", clientKey := some "00ff", group := 1 } }

/-- The entry of a lamp that keeps its colour while it is off. -/
def lampEntry (on : Bool) : LightEntry Float :=
  { state := { on := some on, xy := some (0.3, 0.3), bri := some 200 } }

end LightBridge.Rig
