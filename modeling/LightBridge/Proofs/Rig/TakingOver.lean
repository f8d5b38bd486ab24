import LightBridge.Proofs.Rig.Performing
import LightBridge.Proofs.Rig.Releasing
import LightBridge.Proofs.Rig.Writing

/-! How an inventory is applied. What it says of the group to stream to is looked at first, and a
group that will not do changes nothing. Otherwise the session that runs is stopped, and when it has
ended the lights that the inventory has are taken over in place of the old ones, which are given
back. -/

namespace LightBridge.Rig

variable {r : Rig} {p : Progress} {result : Except Fault Unit}

/-! ### The lights to take over -/

/-- The lights are held on to and nothing is told of them; the device is ready exactly if there is
no error. -/
structure Settled (r : Rig) (result : Except Fault Unit) (p : Progress) : Prop where
  lights_eq : p.1.lights = r.lights
  ready_iff : p.1.ready = true ↔ result = .ok ()
  quiet : ∀ n ∈ p.2, n.isQuiet

section

variable {ids : List UInt16} {entries : Listing (LightEntry Float)}

/-- The old lights were all given back, in order, and those of an inventory are held in their place.
If there are none the device is not ready. -/
structure Replaced (r : Rig) (ids : List UInt16) (entries : Listing (LightEntry Float))
    (result : Except Fault Unit) (p : Progress) : Prop where
  lights_eq : p.1.lights = Held.numbered r.taken (lightsFor ids entries)
  exchanged : Exchanged r.lights p.2 p.1
  none_found : lightsFor ids entries = [] → result = .error .notReady
  ready_iff : p.1.ready = true ↔ result = .ok ()

/-- A session that was told to stop stays so. -/
theorem stopped_step {k : Nat} {m : Move}
    (hr : ∃ s, r.streams[k]? = some s ∧ s.session.stopped = true) (h : r.step m = some p) :
    ∃ s, p.1.streams[k]? = some s ∧ s.session.stopped = true := by
  obtain ⟨s, hs, hstopped⟩ := hr
  have hlt : k < r.streams.length := (List.getElem?_eq_some_iff.1 hs).1
  cases step_sessions h with
  | kept hstreams => exact ⟨s, by rw [hstreams, hs], hstopped⟩
  | stopped j hstreams =>
    rw [hstreams, stopSession]
    simp only [List.getElem?_modify, hs]
    split
    · exact ⟨_, rfl, rfl⟩
    · exact ⟨_, rfl, hstopped⟩
  | launched hstreams =>
    exact ⟨s, by rw [hstreams, launch, List.getElem?_append_left hlt, hs], hstopped⟩
  | @turned j x t q hx ht hstreams =>
    rw [hstreams, List.getElem?_set]
    split
    · next heq =>
      subst heq
      obtain rfl : x = s := Option.some_inj.1 (hx.symm.trans hs)
      exact ⟨_, if_pos hlt, (Session.stopped_turn ht).trans hstopped⟩
    · exact ⟨s, hs, hstopped⟩
  | @reported j x hx hended hstreams =>
    rw [hstreams, List.getElem?_set]
    split
    · next heq =>
      subst heq
      obtain rfl : x = s := Option.some_inj.1 (hx.symm.trans hs)
      exact ⟨_, if_pos hlt, hstopped⟩
    · exact ⟨s, hs, hstopped⟩

theorem stopped_run {k : Nat} {moves : List Move}
    (hr : ∃ s, r.streams[k]? = some s ∧ s.session.stopped = true) (h : r.run moves = some p) :
    ∃ s, p.1.streams[k]? = some s ∧ s.session.stopped = true :=
  run_keeps (P := fun _ r => ∃ s, r.streams[k]? = some s ∧ s.session.stopped = true)
    (Q := fun _ => True) (fun _ hr hstep => stopped_step hr hstep) (fun _ _ => trivial) [] hr h

theorem Orderly.run {moves : List Move} (hr : Orderly r) (h : r.run moves = some p) :
    Orderly p.1 :=
  run_keeps (P := fun _ r => Orderly r) (Q := fun _ => True)
    (fun _ hr hstep => orderly_step hr hstep) (fun _ _ => trivial) [] hr h

/-- The lights are exchanged in one go, at a moment when no session goes on; the one that the device
held on to was told to stop, and its end has been published. -/
def StoppedFirst (session : Option Nat) (r : Rig) (moves : List Move) (p : Progress) : Prop :=
  ∃ before last after s q later, moves = before ++ last :: after ∧ r.run before = some s ∧
    s.1.step last = some q ∧ q.1.run after = some (p.1, later) ∧
    (s.1.lights = r.lights ∧ Untouched s.2) ∧ Exchanged r.lights q.2 p.1 ∧
    s.1.isHeldBySession = false ∧
    ∀ k, session = some k → ∃ x, s.1.streams[k]? = some x ∧ x.session.stopped = true ∧
      x.session.hasEnded = true ∧ x.reported = true

/-- Nothing is done to the lights before. -/
theorem StoppedFirst.cons {session : Option Nat} {m : Move} {q : Progress} {moves : List Move}
    {more : List Note} (h : StoppedFirst session q.1 moves (p.1, more)) (hstep : r.step m = some q)
    (hlights : q.1.lights = r.lights) (hnotes : Untouched q.2) :
    StoppedFirst session r (m :: moves) p := by
  obtain ⟨before, last, after, s, x, later, rfl, hbefore, hlast, hafter, ⟨hsame, huntouched⟩,
    hexchanged, hheld, hsession⟩ := h
  rw [hlights] at hsame hexchanged
  exact ⟨m :: before, last, after, (s.1, q.2 ++ s.2), x, later, rfl,
    run_cons.2 ⟨q, s.2, hstep, hbefore, rfl⟩, hlast, hafter, ⟨hsame, hnotes.append huntouched⟩,
    hexchanged, hheld, hsession⟩

theorem Exchanged.after {held : List (Held Float)} {earlier notes : List Note}
    (h : Exchanged held notes r) (hearlier : Untouched earlier) :
    Exchanged held (earlier ++ notes) r := by
  rw [Exchanged, takings_append, restores_append, hearlier.1, hearlier.2, h.1, h.2]
  exact ⟨rfl, rfl⟩

end

/-! ### An inventory -/

section

variable {inventory : Inventory}

theorem Replaced.ready {ids : List UInt16} {entries : Listing (LightEntry Float)}
    (h : Replaced r ids entries result p) :
    (∀ e, result = .error e → p.1.isReady = false) ∧
      (result = .ok () → p.1.ready = true ∧ p.1.lights ≠ []) := by
  constructor
  · rintro e rfl
    have hready : p.1.ready = false := eq_false_of_ne_true fun h' => by cases h.ready_iff.1 h'
    rw [isReady, hready]
    rfl
  · rintro rfl
    refine ⟨h.ready_iff.2 rfl, fun hnone => ?_⟩
    rw [h.lights_eq] at hnone
    have hempty : lightsFor ids entries = [] :=
      List.eq_nil_of_length_eq_zero (by simpa [Held.numbered] using congrArg List.length hnone)
    cases h.none_found hempty

end

end LightBridge.Rig
