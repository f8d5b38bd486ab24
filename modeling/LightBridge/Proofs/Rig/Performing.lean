import LightBridge.Proofs.Rig.Stepping

/-! One operation of a device, from the moment it is asked for until some time after it has
returned. Between its steps the connection and the sessions go on, which changes nothing else. -/

namespace LightBridge.Rig

variable {r : Rig} {m : Move} {p : Progress} {result : Except Fault Unit}

/-! ### What goes on beside the device -/

/-- Nothing but the connection and the sessions was changed, and nothing told of the lights. -/
structure Beside (r : Rig) (p : Progress) : Prop where
  rig_eq : p.1 = { r with bridge := p.1.bridge, streams := p.1.streams }
  quiet : ∀ n ∈ p.2, n.isQuiet
  aside : ∀ n ∈ p.2, n.isAside

theorem beside_of_step (hm : m.isAside) (hpresent : r.present = true) (h : r.step m = some p) :
    Beside r p := by
  have haside := (aside_of_step hm h).notes
  cases step_cases h with
  | turned => exact ⟨rfl, by simp [Note.isQuiet], haside⟩
  | turnedLast _ _ _ habsent => rw [hpresent] at habsent; cases habsent
  | reported => exact ⟨rfl, by simp [Note.isQuiet], haside⟩
  | bridge => exact ⟨rfl, by simp [ofBridge, Note.isQuiet], haside⟩
  | _ => cases hm

theorem Beside.present_eq (h : Beside r p) : p.1.present = r.present := by rw [h.rig_eq]

theorem Beside.task_eq (h : Beside r p) : p.1.task = r.task := by rw [h.rig_eq]

theorem Beside.lights_eq (h : Beside r p) : p.1.lights = r.lights := by rw [h.rig_eq]

theorem Beside.settings_eq (h : Beside r p) : p.1.settings = r.settings := by rw [h.rig_eq]

theorem Beside.not_returned (h : Beside r p) : .returned result ∉ p.2 := fun hmem => by
  cases h.aside _ hmem

theorem Beside.trans {more : List Note} (h : Beside r p) {q : Progress}
    (hq : Beside p.1 (q.1, more)) (hnotes : q.2 = p.2 ++ more) : Beside r q where
  rig_eq := by
    have hrig := hq.rig_eq
    rwa [h.rig_eq] at hrig
  quiet := by
    rw [hnotes]
    exact List.forall_mem_append.2 ⟨h.quiet, hq.quiet⟩
  aside := by
    rw [hnotes]
    exact List.forall_mem_append.2 ⟨h.aside, hq.aside⟩

/-- Where the device itself goes on for the first time in a run. -/
structure Resuming (r : Rig) (moves : List Move) (p : Progress) : Type where
  before : List Move
  move : Move
  after : List Move
  /-- The moment before the device goes on. -/
  moment : Progress
  next : Progress
  later : List Note
  moves_eq : moves = before ++ move :: after
  run_before : r.run before = some moment
  beside : Beside r moment
  step_eq : moment.1.step move = some next
  run_after : next.1.run after = some (p.1, later)
  notes_eq : p.2 = moment.2 ++ (next.2 ++ later)

/-- Something goes on beside the device before. -/
def Resuming.cons {moves : List Move} {q : Progress} {more : List Note}
    (t : Resuming q.1 moves (p.1, more)) (hstep : r.step m = some q) (hq : Beside r q)
    (hnotes : p.2 = q.2 ++ more) : Resuming r (m :: moves) p where
  before := m :: t.before
  move := t.move
  after := t.after
  moment := (t.moment.1, q.2 ++ t.moment.2)
  next := t.next
  later := t.later
  moves_eq := congrArg (m :: ·) t.moves_eq
  run_before := run_cons.2 ⟨q, t.moment.2, hstep, t.run_before, rfl⟩
  beside := hq.trans t.beside rfl
  step_eq := t.step_eq
  run_after := t.run_after
  notes_eq := (hnotes.trans (congrArg (q.2 ++ ·) t.notes_eq)).trans (List.append_assoc ..).symm

/-- Either the device does nothing in a run, or it goes on at some move. -/
theorem beside_or_resuming {moves : List Move} (hpresent : r.present = true)
    (hmoves : ∀ m ∈ moves, m.isOwners = false) (hrun : r.run moves = some p) :
    Beside r p ∨
      ∃ t : Resuming r moves p, t.move = .proceed ∨ ∃ reply, t.move = .replied reply := by
  induction moves generalizing r p with
  | nil =>
    cases hrun
    exact Or.inl ⟨rfl, by simp, by simp⟩
  | cons m moves ih =>
    obtain ⟨q, more, hstep, hmore, hnotes⟩ := run_cons.1 hrun
    obtain ⟨howners, hrest⟩ := List.forall_mem_cons.1 hmoves
    have hnow : ∀ hm : m = .proceed ∨ ∃ reply, m = .replied reply,
        ∃ t : Resuming r (m :: moves) p, t.move = .proceed ∨ ∃ reply, t.move = .replied reply :=
      fun hm => ⟨⟨[], m, moves, (r, []), q, more, rfl, rfl, ⟨rfl, by simp, by simp⟩, hstep, hmore,
        hnotes⟩, hm⟩
    cases m with
    | call | leave => cases howners
    | proceed => exact Or.inr (hnow (Or.inl rfl))
    | replied reply => exact Or.inr (hnow (Or.inr ⟨reply, rfl⟩))
    | session | report | bridge =>
      have hq : Beside r q := beside_of_step rfl hpresent hstep
      rcases ih (p := (p.1, more)) (hq.present_eq.trans hpresent) hrest hmore with hlater | ⟨t, ht⟩
      · exact Or.inl (hq.trans hlater hnotes)
      · exact Or.inr ⟨t.cons hstep hq hnotes, ht⟩

/-- A device that nothing is asked of does nothing. -/
theorem beside_run {moves : List Move} (hidle : r.task = .idle) (hpresent : r.present = true)
    (hmoves : ∀ m ∈ moves, m.isOwners = false) (hrun : r.run moves = some p) : Beside r p := by
  rcases beside_or_resuming hpresent hmoves hrun with h | ⟨t, ht⟩
  · exact h
  · have hstep := t.step_eq
    have htask := t.beside.task_eq.trans hidle
    rcases ht with ht | ⟨reply, ht⟩
    · simp [ht, step, proceed, htask] at hstep
    · simp [ht, step, replied, htask] at hstep

/-- An operation that returns goes on before. -/
theorem resuming_of_returned {moves : List Move} (hpresent : r.present = true)
    (hmoves : ∀ m ∈ moves, m.isOwners = false) (hrun : r.run moves = some p)
    (hreturned : .returned result ∈ p.2) :
    ∃ t : Resuming r moves p, (t.move = .proceed ∨ ∃ reply, t.move = .replied reply) ∧
      (∀ m ∈ t.after, m.isOwners = false) ∧ .returned result ∈ t.next.2 ++ t.later := by
  rcases beside_or_resuming hpresent hmoves hrun with h | ⟨t, ht⟩
  · exact absurd hreturned h.not_returned
  · refine ⟨t, ht, fun m hm => hmoves m ?_, ?_⟩
    · rw [t.moves_eq]
      exact List.mem_append_right _ (List.mem_cons_of_mem _ hm)
    · rw [t.notes_eq] at hreturned
      exact (List.mem_append.1 hreturned).resolve_left t.beside.not_returned

/-- A device that waits for no reply goes on by itself. -/
theorem Resuming.proceeds {moves : List Move} (t : Resuming r moves p)
    (hmove : t.move = .proceed ∨ ∃ reply, t.move = .replied reply)
    (hreply : ∀ s : Rig, s.task = r.task → ∀ reply, s.step (.replied reply) = none) :
    t.moment.1.step .proceed = some t.next := by
  have hstep := t.step_eq
  rcases hmove with hmove | ⟨reply, hmove⟩
  · rwa [hmove] at hstep
  · rw [hmove, hreply _ t.beside.task_eq reply] at hstep
    cases hstep

/-! ### Operations -/

/-- An operation was carried out and returned a result; `p` is what is there some time afterwards,
before anything else is asked, with all the notes since. -/
def Performed (r : Rig) (operation : Operation) (result : Except Fault Unit) (p : Progress) :
    Prop :=
  ∃ during, (∀ m ∈ during, m.isOwners = false) ∧
    r.run (.call operation :: during) = some p ∧ .returned result ∈ p.2

/-- An operation that ended returned what it ended with, and nothing was done since. -/
theorem finished_run {res : Except Fault Unit} {moves : List Move} {notes : List Note}
    (hpresent : r.present = true) (hmoves : ∀ m ∈ moves, m.isOwners = false)
    (hrun : (r.finish res).1.run moves = some (p.1, notes))
    (hreturned : .returned result ∈ (r.finish res).2 ++ notes) :
    result = res ∧ Beside (r.finish res).1 (p.1, notes) := by
  have hlater : Beside (r.finish res).1 (p.1, notes) := beside_run rfl hpresent hmoves hrun
  refine ⟨?_, hlater⟩
  rcases List.mem_append.1 hreturned with h | h
  · cases List.mem_singleton.1 h
    rfl
  · exact absurd h hlater.not_returned

/-! ### What comes to an end -/

/-- What a device is in the middle of can end with a result, without its owner. -/
def Finishes (r : Rig) : Prop :=
  ∃ moves p result, (∀ m ∈ moves, m.isOwners = false) ∧ r.run moves = some p ∧
    .returned result ∈ p.2

/-- Something is done that ends now or can go on to an end. -/
def Ends (p : Progress) : Prop := (∃ result, .returned result ∈ p.2) ∨ Finishes p.1

theorem finishes_of_step (hm : m.isOwners = false) (hstep : r.step m = some p) (h : Ends p) :
    Finishes r := by
  rcases h with ⟨result, hreturned⟩ | ⟨moves, q, result, hmoves, hrun, hreturned⟩
  · exact ⟨[m], p, result, by simpa using hm,
      run_cons.2 ⟨p, [], hstep, rfl, (List.append_nil _).symm⟩, hreturned⟩
  · exact ⟨m :: moves, (q.1, p.2 ++ q.2), result, List.forall_mem_cons.2 ⟨hm, hmoves⟩,
      run_cons.2 ⟨p, q.2, hstep, hrun, rfl⟩, List.mem_append_right _ hreturned⟩

theorem Ends.andThen {next : Rig → Progress} (h : Ends (next p.1)) : Ends (andThen p next) :=
  h.imp_left fun ⟨result, hreturned⟩ => ⟨result, List.mem_append_right _ hreturned⟩

theorem ends_finish (result : Except Fault Unit) (r : Rig) : Ends (r.finish result) :=
  Or.inl ⟨result, List.mem_singleton_self _⟩

theorem performed_of_ends {operation : Operation} (hidle : r.task = .idle)
    (hpresent : r.present = true) (h : Ends (r.call operation)) :
    ∃ result p, Performed r operation result p := by
  have hstep : r.step (.call operation) = some (r.call operation) := by simp [step, hidle, hpresent]
  rcases h with ⟨result, hreturned⟩ | ⟨moves, p, result, hmoves, hrun, hreturned⟩
  · exact ⟨result, _, [], by simp, run_cons.2 ⟨_, [], hstep, rfl, (List.append_nil _).symm⟩,
      hreturned⟩
  · exact ⟨result, (p.1, _ ++ p.2), moves, hmoves, run_cons.2 ⟨_, p.2, hstep, hrun, rfl⟩,
      List.mem_append_right _ hreturned⟩

/-- A write that is under way comes to its last colour. -/
theorem painting_finishes {j : Nat} {cs : List Color} (htask : r.task = .painting j cs) :
    Finishes r := by
  induction cs generalizing r j with
  | nil =>
    refine finishes_of_step (m := .proceed) rfl ?_ (ends_finish (.ok ()) r)
    rw [step, proceed, htask]
  | cons c rest ih =>
    have hstep : r.step .proceed =
        some ({ r with task := .painting (j + 1) rest }.paint j c) := by
      rw [step, proceed, htask]
    exact finishes_of_step rfl hstep (Or.inr (ih rfl))

end LightBridge.Rig
