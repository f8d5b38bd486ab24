import LightBridge.Proofs.Rig.Releasing

/-! Commands on their way. Each command that a light sends travels by itself, and nothing keeps one
from overtaking another. What was posted on a route has arrived or is still in flight; in which order
it arrives is up to the deliveries. Those that take the oldest command first keep the order, others
may not, so a lamp is certain to be left in its own state only if nothing else is in flight to it. -/

namespace LightBridge.Rig

variable {r : Rig} {p : Progress} {route : String}

/-! ### What is posted, in flight and arrived -/

/-- The bodies of the commands on a route, in order. -/
def bodiesTo (route : String) (posts : List (String × Document)) : List Document :=
  posts.filterMap fun post => if post.1 = route then some post.2 else none

/-- What lights posted on a route, in order. -/
def posted (route : String) (notes : List Note) : List Document :=
  bodiesTo route ((commands notes).map inFlight)

/-- What is in flight on a route, oldest first. -/
def inFlightTo (route : String) (r : Rig) : List Document := bodiesTo route r.bridge.posts

/-- The commands that the bridge received on a route, in order. -/
def arrivals (route : String) (notes : List Note) : List Document :=
  notes.filterMap fun n => match n with
    | .bridge (.requested none (.command target body)) => if target = route then some body else none
    | _ => none

theorem bodiesTo_append (a b : List (String × Document)) :
    bodiesTo route (a ++ b) = bodiesTo route a ++ bodiesTo route b := List.filterMap_append

@[simp] theorem posted_append (a b : List Note) :
    posted route (a ++ b) = posted route a ++ posted route b := by
  rw [posted, commands_append, List.map_append, bodiesTo_append]
  rfl

@[simp] theorem arrivals_append (a b : List Note) :
    arrivals route (a ++ b) = arrivals route a ++ arrivals route b := List.filterMap_append

theorem posted_of_quiet {notes : List Note} (h : ∀ n ∈ notes, n.isQuiet) :
    posted route notes = [] := by
  rw [posted, commands_of_quiet h]
  rfl

theorem mem_bodiesTo {d : Document} {posts : List (String × Document)} :
    d ∈ bodiesTo route posts ↔ (route, d) ∈ posts := by
  simp only [bodiesTo, List.mem_filterMap]
  constructor
  · rintro ⟨⟨target, body⟩, hmem, hsome⟩
    split at hsome
    · next htarget =>
      cases hsome
      rwa [← htarget]
    · cases hsome
  · exact fun hmem => ⟨(route, d), hmem, if_pos rfl⟩

/-! ### Routes -/

theorem route_inj {a b : UInt16} (h : Light.route a = Light.route b) : a = b := by
  have hdigits : Nat.toDigits 10 a.toNat = Nat.toDigits 10 b.toNat := by
    have hlist : (Light.route a).toList = (Light.route b).toList := congrArg String.toList h
    simp only [Light.route, String.toList_append] at hlist
    have hnumber := List.append_cancel_left (List.append_cancel_right hlist)
    simpa [Nat.toString_eq_ofList_toDigits] using hnumber
  apply UInt16.toNat_inj.1
  rw [← Nat.ofDigitChars_ten_toDigits (n := a.toNat), hdigits, Nat.ofDigitChars_ten_toDigits]

theorem groupRoute_ne (group id : UInt16) : Request.groupRoute group ≠ Light.route id := by
  intro h
  have hlist : (Request.groupRoute group).toList = (Light.route id).toList :=
    congrArg String.toList h
  have hgroup : (toString "groups/").toList = ['g', 'r', 'o', 'u', 'p', 's', '/'] := rfl
  have hlight : (toString "lights/").toList = ['l', 'i', 'g', 'h', 't', 's', '/'] := rfl
  simp only [Light.route, Request.groupRoute, String.toList_append, hgroup, hlight,
    List.cons_append, List.cons.injEq] at hlist
  exact absurd hlist.1 (by decide)

/-! ### One move -/

section

variable {id : UInt16}

theorem arrivals_commanded (cs : List (Sent Float)) : arrivals route (cs.map .commanded) = [] := by
  simp [arrivals]

theorem arrivals_session (k : Nat) (events : List SessionEvent) :
    arrivals route (events.map (.session k)) = [] := by
  simp [arrivals]

theorem arrivals_restore (lights : List (Held Float)) : arrivals route (r.restore lights).2 = [] :=
  arrivals_commanded _

theorem arrivals_takeOver (ids : List UInt16) (entries : Listing (LightEntry Float)) :
    arrivals route (r.takeOver ids entries).2 = [] := by
  rw [takeOver, andThen, arrivals_append, arrivals_restore, List.append_nil]
  simp [arrivals]

theorem arrivals_finishStart (applying : Bool) (result : Except Fault Unit) :
    arrivals route (r.finishStart applying result).2 = [] := by
  cases result <;> rfl

theorem arrivals_askStreaming (active : Bool) (task : Task) :
    arrivals (Light.route id) (r.askStreaming active task).2 = [] := by
  simp [arrivals, askStreaming, Request.streaming, groupRoute_ne]

theorem arrivals_recordStreaming (active : Bool) (reply : Reply) :
    arrivals route (r.recordStreaming active reply).2 = [] := rfl

theorem arrivals_released (disabling : Bool) : arrivals route (r.released disabling).2 = [] := by
  cases disabling with
  | false => rfl
  | true =>
    simp only [released, if_true, andThen, arrivals_append]
    rw [letGo, arrivals_restore]
    rfl

theorem arrivals_afterStop (next : AfterStop) :
    arrivals (Light.route id) (r.afterStop next).2 = [] := by
  cases next with
  | takeOver ids entries =>
    simp only [afterStop, andThen, arrivals_append]
    rw [arrivals_takeOver, List.nil_append]
    split
    · exact arrivals_finishStart _ _
    · split
      · exact arrivals_finishStart _ _
      · split
        · exact arrivals_finishStart _ _
        · exact arrivals_askStreaming _ _
  | restart => exact arrivals_askStreaming _ _
  | handBack disabling =>
    simp only [afterStop]
    split
    · exact arrivals_askStreaming _ _
    · exact arrivals_released _

/-- No command for a lamp arrives at a move of the device itself. -/
theorem arrivals_step {m : Move} (hm : m.isBridge = false) (h : r.step m = some p) :
    arrivals (Light.route id) p.2 = [] := by
  cases step_cases h with
  | returned operation result hidle happart htask hlights hnotes =>
    rw [hnotes]
    rfl
  | forgot | began | stopping | shown | reported | left => rfl
  | unheld | resumed => exact arrivals_afterStop _
  | painted => exact arrivals_commanded _
  | reset =>
    simp only [andThen, arrivals_append, arrivals_recordStreaming, List.nil_append]
    exact arrivals_askStreaming _ _
  | claimed => rfl
  | refused =>
    rw [andThen, arrivals_append, arrivals_recordStreaming]
    exact arrivals_finishStart _ _
  | released =>
    rw [andThen, arrivals_append, arrivals_recordStreaming]
    exact arrivals_released _
  | turned => exact arrivals_session _ _
  | turnedLast =>
    rw [andThen, arrivals_append, arrivals_session]
    exact arrivals_restore _
  | bridge => cases hm
  | leftLast => exact arrivals_restore _

end

namespace Move

/-- Whether somebody else uses a route. -/
def isForeign (route : String) : Move → Bool
  | .bridge (.post target _) | .bridge (.put target _ _) => target == route
  | _ => false

/-- Whether a command in flight arrives. -/
def isDelivery : Move → Bool
  | .bridge (.deliver _ _) => true
  | _ => false

/-- Whether no command that is in flight is overtaken. -/
def isInOrder : Move → Bool
  | .bridge (.deliver position _) => position == 0
  | _ => true

end Move

/-- What becomes of the commands on a route: more are posted, or one that was in flight arrives. -/
inductive Delivering (route : String) (r : Rig) (m : Move) (p : Progress) : Prop
  | posted (hposts : inFlightTo route p.1 = inFlightTo route r ++ Rig.posted route p.2)
    (hnone : arrivals route p.2 = []) : Delivering route r m p
  | arrived (older newer : List (String × Document)) (post : String × Document) (reply : Reply)
    (hm : m = .bridge (.deliver older.length reply)) (hbefore : r.bridge.posts = older ++ post :: newer)
    (hafter : p.1.bridge.posts = older ++ newer) (harrived : arrivals route p.2 = bodiesTo route [post])
    (hnone : Rig.posted route p.2 = []) : Delivering route r m p

theorem exists_split {posts : List (String × Document)} {k : Nat} {post : String × Document}
    (h : posts[k]? = some post) :
    ∃ older newer, posts = older ++ post :: newer ∧ older.length = k := by
  obtain ⟨hlt, rfl⟩ := List.getElem?_eq_some_iff.1 h
  refine ⟨posts.take k, posts.drop (k + 1), ?_, ?_⟩
  · rw [List.getElem_cons_drop, List.take_append_drop]
  · rw [List.length_take]
    omega

/-- A command in flight can always arrive. -/
theorem exists_delivery (route : String) {older newer : List (String × Document)} {post : String × Document}
    (h : r.bridge.posts = older ++ post :: newer) (reply : Reply) :
    ∃ p, r.step (.bridge (.deliver older.length reply)) = some p ∧
      p.1.bridge.posts = older ++ newer ∧ arrivals route p.2 = bodiesTo route [post] := by
  have hpost : r.bridge.posts[older.length]? = some post := by
    rw [h]
    simp
  have hrest : r.bridge.posts.eraseIdx older.length = older ++ newer := by
    rw [h, List.eraseIdx_append_of_length_le (Nat.le_refl _), Nat.sub_self]
    rfl
  simp only [step, Bridge.step, Bridge.deliver, hpost, hrest, Option.map_some]
  refine ⟨_, rfl, rfl, ?_⟩
  simp only [arrivals, bodiesTo, ofBridge, Bridge.finishCommand, List.map_cons, List.map_nil,
    List.filterMap_cons, List.filterMap_nil]

/-- A poll only asks for the inventory. -/
theorem arrivals_pollStep {delay : Option Nat} {k : Nat} {phase next : PollPhase} {t : PollTurn}
    {notes : List BridgeNote} (h : Bridge.pollStep delay k phase t = some (next, notes)) :
    arrivals route (notes.map .bridge) = [] := by
  unfold Bridge.pollStep at h
  split at h
  · cases h
    rfl
  · dsimp only at h
    split at h <;> cases h <;> simp [arrivals]
  · obtain ⟨_, -, heq⟩ := Option.map_eq_some_iff.1 h
    cases heq
    rfl
  · cases h

theorem delivering_bridge {m : Bridge.Move} {q : Bridge × List BridgeNote}
    (hforeign : (Move.bridge m).isForeign route = false) (h : r.bridge.step m = some q) :
    Delivering route r (.bridge m) (r.ofBridge q) := by
  have hquiet : Rig.posted route (r.ofBridge q).2 = [] :=
    posted_of_quiet (by simp [ofBridge, Note.isQuiet])
  have hsame : q.1.posts = r.bridge.posts → arrivals route (r.ofBridge q).2 = [] →
      Delivering route r (.bridge m) (r.ofBridge q) := by
    intro hposts hnone
    refine .posted ?_ hnone
    rw [hquiet, List.append_nil, inFlightTo, inFlightTo]
    exact congrArg (bodiesTo route) hposts
  cases Bridge.step_cases h with
  | delivered reply hpost =>
    obtain ⟨older, newer, hbefore, rfl⟩ := exists_split hpost
    obtain ⟨p, hstep, hafter, harrived⟩ := exists_delivery route hbefore reply
    rw [step, h] at hstep
    obtain rfl := Option.some_inj.1 hstep
    exact .arrived older newer _ reply rfl hbefore hafter harrived hquiet
  | posted target body =>
    have hne : target ≠ route := by simpa [Move.isForeign] using hforeign
    refine .posted ?_ rfl
    rw [hquiet, List.append_nil]
    simp [inFlightTo, bodiesTo, ofBridge, Bridge.post, hne]
  | put target body reply =>
    have hne : target ≠ route := by simpa [Move.isForeign] using hforeign
    refine hsame rfl ?_
    simp [arrivals, ofBridge, hne]
  | connected => exact hsame (Bridge.alike_connect r.bridge).posts_eq rfl
  | cancelled => exact hsame (Bridge.alike_cancel r.bridge).posts_eq rfl
  | turned hp hgoing hnext => exact hsame rfl (arrivals_pollStep hnext)
  | unconnected | unposted | fetched | announced => exact hsame rfl rfl

theorem delivering_step {id : UInt16} {m : Move} (hforeign : m.isForeign (Light.route id) = false)
    (h : r.step m = some p) : Delivering (Light.route id) r m p := by
  cases hm : m.isBridge with
  | false =>
    refine .posted ?_ (arrivals_step hm h)
    rw [inFlightTo, posts_step hm h, bodiesTo_append]
    rfl
  | true =>
    cases m with
    | bridge m =>
      obtain ⟨q, hq, rfl⟩ := Option.map_eq_some_iff.1 h
      exact delivering_bridge hforeign hq
    | _ => cases hm

/-! ### A whole run -/

/-- What was posted on a route has arrived or is in flight. -/
def Carried (route : String) (notes : List Note) (r : Rig) : Prop :=
  (arrivals route notes ++ inFlightTo route r).Perm (posted route notes)

/-- What has arrived on a route is what was posted first, in order, and the rest is in flight. -/
def InOrder (route : String) (notes : List Note) (r : Rig) : Prop :=
  arrivals route notes ++ inFlightTo route r = posted route notes

/-- The only command in flight is the one posted last. -/
theorem InOrder.last_posted {notes : List Note} (h : InOrder route notes r)
    (hone : (inFlightTo route r).length ≤ 1) {d : Document} (hd : d ∈ inFlightTo route r) :
    (posted route notes).getLast? = some d := by
  obtain ⟨first, hfirst⟩ := List.length_eq_one_iff.1
    (Nat.le_antisymm hone (List.length_pos_of_mem hd))
  rw [hfirst, List.mem_singleton] at hd
  rw [← h, hfirst, List.getLast?_concat, hd]

theorem carried_step {m : Move} {notes : List Note} (h : Delivering route r m p)
    (hr : Carried route notes r) : Carried route (notes ++ p.2) p.1 := by
  unfold Carried at hr ⊢
  rw [arrivals_append, posted_append]
  cases h with
  | posted hposts hnone =>
    rw [hnone, List.append_nil, hposts, ← List.append_assoc]
    exact hr.append_right _
  | arrived older newer post reply hm hbefore hafter harrived hnone =>
    rw [hnone, List.append_nil, harrived, inFlightTo, hafter]
    rw [inFlightTo, hbefore] at hr
    have hmiddle : (post :: (older ++ newer)).Perm (older ++ post :: newer) :=
      List.perm_middle.symm
    refine List.Perm.trans ?_ hr
    rw [List.append_assoc, ← bodiesTo_append]
    apply List.Perm.append_left
    exact hmiddle.filterMap _

theorem inOrder_step {m : Move} {notes : List Note} (hm : m.isInOrder = true)
    (h : Delivering route r m p) (hr : InOrder route notes r) :
    InOrder route (notes ++ p.2) p.1 := by
  unfold InOrder at hr ⊢
  rw [arrivals_append, posted_append]
  cases h with
  | posted hposts hnone => rw [hnone, List.append_nil, hposts, ← List.append_assoc, hr]
  | arrived older newer post reply hdeliver hbefore hafter harrived hnone =>
    subst hdeliver
    obtain rfl : older = [] := by
      have hzero : older.length = 0 := by simpa [Move.isInOrder] using hm
      exact List.length_eq_zero_iff.1 hzero
    rw [hnone, List.append_nil, harrived, ← hr, List.append_assoc, inFlightTo, inFlightTo, hafter,
      hbefore, ← bodiesTo_append]
    rfl

theorem carried_run {id : UInt16} {moves : List Move} {notes : List Note}
    (hforeign : ∀ m ∈ moves, m.isForeign (Light.route id) = false)
    (hr : Carried (Light.route id) notes r) (h : r.run moves = some p) :
    Carried (Light.route id) (notes ++ p.2) p.1 :=
  run_keeps (P := Carried (Light.route id))
    (fun hm hr hstep => carried_step (delivering_step hm hstep) hr) hforeign notes hr h

theorem inOrder_run {id : UInt16} {moves : List Move} {notes : List Note}
    (hforeign : ∀ m ∈ moves, m.isForeign (Light.route id) = false)
    (hmoves : ∀ m ∈ moves, m.isInOrder = true) (hr : InOrder (Light.route id) notes r)
    (h : r.run moves = some p) : InOrder (Light.route id) (notes ++ p.2) p.1 :=
  run_keeps (Q := fun m => m.isForeign (Light.route id) = false ∧ m.isInOrder = true)
    (P := InOrder (Light.route id))
    (fun hm hr hstep => inOrder_step hm.2 (delivering_step hm.1 hstep) hr)
    (fun m hm => ⟨hforeign m hm, hmoves m hm⟩) notes hr h

/-! ### Every order of arrival -/

/-- All that is in flight arrives, in some order. -/
structure Settles (r : Rig) (after : List Move) (q : Progress) : Prop where
  deliveries : ∀ m ∈ after, m.isDelivery = true
  run : r.run after = some q
  none_left : q.1.bridge.posts = []

theorem posted_deliveries {moves : List Move} (hmoves : ∀ m ∈ moves, m.isDelivery = true)
    (h : r.run moves = some p) : posted route p.2 = [] := by
  refine run_keeps (P := fun notes _ => posted route notes = []) ?_ hmoves [] rfl h
  intro r m p notes hm hr hstep
  cases step_cases hstep with
  | bridge =>
    rw [posted_append, hr, List.nil_append]
    exact posted_of_quiet (by simp [ofBridge, Note.isQuiet])
  | _ => cases hm

theorem not_foreign_of_delivery {m : Move} (h : m.isDelivery = true) : m.isForeign route = false := by
  unfold Move.isDelivery at h
  split at h
  · rfl
  · cases h

/-- Commands in flight can arrive before older ones and before newer ones. -/
theorem exists_deliveries (route : String) (older mid newer : List (String × Document))
    (h : r.bridge.posts = older ++ (mid ++ newer)) :
    ∃ moves q, (∀ m ∈ moves, m.isDelivery = true) ∧ r.run moves = some q ∧
      q.1.bridge.posts = older ++ newer ∧ arrivals route q.2 = bodiesTo route mid := by
  induction mid generalizing r with
  | nil => exact ⟨[], (r, []), by simp, rfl, h, rfl⟩
  | cons post mid ih =>
    let reply : Reply := .answered 200 ""
    let m : Move := .bridge (.deliver older.length reply)
    obtain ⟨p, hstep, hafter, hfirst⟩ := exists_delivery route h reply
    obtain ⟨moves, q, hmoves, hrun, hposts, harrived⟩ := ih hafter
    refine ⟨m :: moves, (q.1, p.2 ++ q.2), ?_, ?_, hposts, ?_⟩
    · exact List.forall_mem_cons.2 ⟨rfl, hmoves⟩
    · exact run_cons.2 ⟨p, q.2, hstep, hrun, rfl⟩
    · rw [arrivals_append, hfirst, harrived, ← bodiesTo_append]
      rfl

/-- Any of the commands in flight may be the last to arrive. -/
theorem exists_settles_last {d : Document} (h : d ∈ inFlightTo route r) :
    ∃ after q, Settles r after q ∧ (arrivals route q.2).getLast? = some d := by
  obtain ⟨older, newer, hposts⟩ := List.append_of_mem (mem_bodiesTo.1 h)
  obtain ⟨m₁, q₁, hm₁, hrun₁, hposts₁, -⟩ :=
    exists_deliveries route [] older ((route, d) :: newer) hposts
  obtain ⟨m₂, q₂, hm₂, hrun₂, hposts₂, -⟩ :=
    exists_deliveries route [(route, d)] newer [] (by simpa using hposts₁)
  obtain ⟨m₃, q₃, hm₃, hrun₃, hposts₃, hlast⟩ :=
    exists_deliveries route [] [(route, d)] [] (by simpa using hposts₂)
  have hrest : q₁.1.run (m₂ ++ m₃) = some (q₃.1, q₂.2 ++ q₃.2) :=
    run_append.2 ⟨q₂, q₃.2, hrun₂, hrun₃, rfl⟩
  have hrun : r.run (m₁ ++ (m₂ ++ m₃)) = some (q₃.1, q₁.2 ++ (q₂.2 ++ q₃.2)) :=
    run_append.2 ⟨q₁, q₂.2 ++ q₃.2, hrun₁, hrest, rfl⟩
  have hd : bodiesTo route [(route, d)] = [d] := by simp [bodiesTo]
  refine ⟨_, _, ⟨?_, hrun, hposts₃⟩, ?_⟩
  · intro m hm
    rcases List.mem_append.1 hm with hm | hm
    · exact hm₁ m hm
    · rcases List.mem_append.1 hm with hm | hm
      · exact hm₂ m hm
      · exact hm₃ m hm
  · rw [arrivals_append, arrivals_append, hlast, hd, ← List.append_assoc, List.getLast?_concat]

/-- All commands in flight may arrive in the order in which they were posted. -/
theorem exists_settles_inOrder (route : String) (r : Rig) :
    ∃ after q, Settles r after q ∧ arrivals route q.2 = inFlightTo route r := by
  obtain ⟨moves, q, hmoves, hrun, hposts, harrived⟩ :=
    exists_deliveries (r := r) route [] r.bridge.posts [] (by simp)
  exact ⟨moves, q, ⟨hmoves, hrun, hposts⟩, harrived⟩

theorem Settles.posted_eq {after : List Move} {q : Progress} (h : Settles r after q)
    (notes : List Note) : posted route (notes ++ q.2) = posted route notes := by
  rw [posted_append, posted_deliveries h.deliveries h.run, List.append_nil]

theorem Settles.inFlightTo_eq {after : List Move} {q : Progress} (h : Settles r after q) :
    inFlightTo route q.1 = [] := by
  rw [inFlightTo, h.none_left]
  rfl

theorem Settles.not_foreign {after : List Move} {q : Progress} (h : Settles r after q) :
    ∀ m ∈ after, m.isForeign route = false :=
  fun m hm => not_foreign_of_delivery (h.deliveries m hm)

/-- However it arrives, what was in flight is all that arrives. -/
theorem Settles.perm {id : UInt16} {after : List Move} {q : Progress} {notes : List Note}
    (h : Settles r after q) (hr : Carried (Light.route id) notes r) :
    (arrivals (Light.route id) (notes ++ q.2)).Perm (posted (Light.route id) notes) := by
  have hcarried := carried_run h.not_foreign hr h.run
  rwa [Carried, h.posted_eq, h.inFlightTo_eq, List.append_nil] at hcarried

theorem Settles.inOrder {id : UInt16} {after : List Move} {q : Progress} {notes : List Note}
    (h : Settles r after q) (hafter : ∀ m ∈ after, m.isInOrder = true)
    (hr : InOrder (Light.route id) notes r) :
    arrivals (Light.route id) (notes ++ q.2) = posted (Light.route id) notes := by
  have horder := inOrder_run h.not_foreign hafter hr h.run
  rwa [InOrder, h.posted_eq, h.inFlightTo_eq, List.append_nil] at horder

/-- All orders of arrival are as good as the one of posting, with a given command last, exactly if
the commands that have arrived are the first ones in order and all that are in flight are that last
one. -/
theorem settles_iff {id : UInt16} {notes : List Note} (hr : Carried (Light.route id) notes r)
    (original : Document) :
    (∀ after q, Settles r after q →
      arrivals (Light.route id) (notes ++ q.2) = posted (Light.route id) notes ∧
        (arrivals (Light.route id) (notes ++ q.2)).getLast? = some original) ↔
      InOrder (Light.route id) notes r ∧
        (posted (Light.route id) notes).getLast? = some original ∧
          ∀ d ∈ inFlightTo (Light.route id) r, d = original := by
  constructor
  · intro hall
    obtain ⟨after, q, hsettles, harrived⟩ := exists_settles_inOrder (Light.route id) r
    obtain ⟨horder, hlast⟩ := hall after q hsettles
    refine ⟨?_, ?_, ?_⟩
    · rw [InOrder, ← harrived, ← arrivals_append]
      exact horder
    · rw [← horder]
      exact hlast
    · intro d hd
      obtain ⟨after, q, hsettles, hq⟩ := exists_settles_last hd
      obtain ⟨-, hlast⟩ := hall after q hsettles
      rw [arrivals_append, List.getLast?_append, hq, Option.some_or] at hlast
      exact Option.some_inj.1 hlast
  · rintro ⟨horder, hlast, hsame⟩ after q hsettles
    have hperm := hsettles.perm hr
    rw [arrivals_append, ← horder, List.perm_append_left_iff] at hperm
    -- Commands that are all alike cannot overtake one another.
    have halike : inFlightTo (Light.route id) r =
        List.replicate (inFlightTo (Light.route id) r).length original :=
      List.eq_replicate_of_mem hsame
    rw [halike, List.perm_replicate, ← halike] at hperm
    have harrived : arrivals (Light.route id) (notes ++ q.2) = posted (Light.route id) notes := by
      rw [arrivals_append, hperm, ← horder]
    exact ⟨harrived, harrived ▸ hlast⟩

/-! ### A device that has been disabled -/

/-- On the route of a lamp its lights' commands are posted, and no others. -/
theorem posted_route (id : UInt16) (notes : List Note) :
    posted (Light.route id) notes = (commandsTo id notes).map LightCommand.toDocument := by
  induction notes with
  | nil => rfl
  | cons n notes ih =>
    have hsingle : posted (Light.route id) [n] = (commandsTo id [n]).map LightCommand.toDocument := by
      cases n with
      | commanded c =>
        by_cases hid : c.id = id
        · simp [posted, bodiesTo, commands, commandsTo, inFlight, hid]
        · have hroute : Light.route c.id ≠ Light.route id := fun heq => hid (route_inj heq)
          simp [posted, bodiesTo, commands, commandsTo, inFlight, hid, hroute]
      | _ => rfl
    rw [← List.singleton_append, posted_append, commandsTo_append, List.map_append, hsingle, ih]

theorem kept_run {fresh : Rig} {moves : List Move} (hfresh : Fresh fresh)
    (h : fresh.run moves = some p) (id : UInt16) : Kept id p.2 p.1 := by
  have hbegin : Kept id [] fresh := by
    rw [hfresh.eq]
    rfl
  exact (run_does_anything h).keeps (P := fun _ notes r => Kept id notes r) kept_act [] [] hbegin

/-- When no light is held, the last command that was posted to a lamp restores the state in which the
lamp was found last. -/
theorem Kept.last_posted {id : UInt16} {notes : List Note} (h : Kept id notes r)
    (hlights : r.lights = []) :
    (posted (Light.route id) notes).getLast? =
      (takenOver id notes).getLast?.map (·.restoring.toDocument) := by
  rw [Kept, heldStates, hlights] at h
  rw [posted_route, List.getLast?_map, h, foundStates, List.getLast?_map, Option.map_map,
    Option.map_map]
  rfl

section

variable {fresh : Rig} {before during : List Move}

/-- When a device has been disabled, the last command that it posted to a lamp restores the state in
which the lamp was found last, and what it posted is what has arrived once nothing is in flight. If
always the oldest command arrives, the order is kept. Whatever arrives when, the order is kept and
the last command leaves the lamp in some state in which it was before, exactly if the order was kept
so far, the lamp was found in that state last, and only commands that restore it are in flight. -/
theorem restore_arrives_last_iff (hfresh : Fresh fresh) (hposts : fresh.bridge.posts = [])
    {id : UInt16}
    (hforeign : ∀ m ∈ before ++ .call .disable :: during, m.isForeign (Light.route id) = false)
    (hduring : ∀ m ∈ during, m.isOwners = false)
    (hrun : fresh.run (before ++ .call .disable :: during) = some p) (hidle : p.1.task = .idle)
    (original : Document) :
    (posted (Light.route id) p.2).getLast? =
      (takenOver id p.2).getLast?.map (·.restoring.toDocument) ∧
    (∀ after q, Settles p.1 after q →
      (arrivals (Light.route id) (p.2 ++ q.2)).Perm (posted (Light.route id) p.2)) ∧
    ((∀ m ∈ before ++ .call .disable :: during, m.isInOrder = true) →
      ∀ after q, Settles p.1 after q → (∀ m ∈ after, m.isInOrder = true) →
        arrivals (Light.route id) (p.2 ++ q.2) = posted (Light.route id) p.2) ∧
    ((∀ after q, Settles p.1 after q →
        arrivals (Light.route id) (p.2 ++ q.2) = posted (Light.route id) p.2 ∧
          (arrivals (Light.route id) (p.2 ++ q.2)).getLast? = some original) ↔
      InOrder (Light.route id) p.2 p.1 ∧
        (takenOver id p.2).getLast?.map (·.restoring.toDocument) = some original ∧
          ∀ d ∈ inFlightTo (Light.route id) p.1, d = original) := by
  have hlights : p.1.lights = [] := by
    obtain ⟨q, more, -, hdisabled, -⟩ := run_append.1 hrun
    exact lights_after_disable (p := (p.1, more)) hduring hdisabled hidle
  have hlast := (kept_run hfresh hrun id).last_posted hlights
  have hnone : inFlightTo (Light.route id) fresh = [] := by
    rw [inFlightTo, hposts]
    rfl
  have hcarried : Carried (Light.route id) p.2 p.1 := by
    have hbegin : Carried (Light.route id) [] fresh := by
      rw [Carried, hnone]
      exact List.Perm.refl _
    exact carried_run hforeign hbegin hrun
  refine ⟨hlast, ?_, ?_, ?_⟩
  · intro after q hsettles
    exact hsettles.perm hcarried
  · intro hmoves after q hsettles hafter
    have hbegin : InOrder (Light.route id) [] fresh := by
      rw [InOrder, hnone]
      rfl
    exact hsettles.inOrder hafter (inOrder_run hforeign hmoves hbegin hrun)
  · rw [← hlast]
    exact settles_iff hcarried original

end

/-- A light that shines is shown black. -/
def blackened : List Move :=
  [.call (.handle (.inventoryReady { lights := [(1, lampEntry true)] })), .call (.write [⟨0, 0, 0⟩]),
    .proceed, .proceed]

/-- A command arrives. -/
def arrive (position : Nat) : Move := .bridge (.deliver position (.answered 200 ""))

/-- All commands of a light have arrived when it is given back. -/
theorem restore_arrives_last_when_alone :
    ∃ fresh p original, Fresh fresh ∧
      fresh.run (blackened ++ List.replicate 3 (arrive 0) ++ [.call .disable]) = some p ∧
      (takenOver 1 p.2).head?.map (·.restoring.toDocument) = some original ∧
      ∀ after q, Settles p.1 after q →
        arrivals (Light.route 1) (p.2 ++ q.2) = posted (Light.route 1) p.2 ∧
          (arrivals (Light.route 1) (p.2 ++ q.2)).getLast? = some original := by
  let fresh : Rig := { bridge := groupBridge, settings := { lightIds := [1] }, canStream := false }
  let before : List Move := blackened ++ List.replicate 3 (arrive 0)
  have hmade : forBridge groupBridge { lightIds := [1] } = .ok fresh := rfl
  have hfresh : Fresh fresh := .forBridge hmade
  have hrun : ((fresh.run (before ++ [.call .disable])).any fun p =>
      p.1.task.isIdle && (takenOver 1 p.2).map Light.restoring = [.restore (.lit 0.3 0.3 200)] &&
        p.1.bridge.posts.length = 1) = true := by decide +kernel
  obtain ⟨p, hrun, hp⟩ := (Option.any_eq_true _ _).1 hrun
  obtain ⟨hp, hlength⟩ := Bool.and_eq_true_iff.1 hp
  obtain ⟨hidle, hfound⟩ := Bool.and_eq_true_iff.1 hp
  have hidle : p.1.task = .idle := Task.eq_idle hidle
  have hfound : (takenOver 1 p.2).map Light.restoring = [.restore (.lit 0.3 0.3 200)] :=
    of_decide_eq_true hfound
  have hlength : p.1.bridge.posts.length = 1 := of_decide_eq_true hlength
  obtain ⟨l, htaken, -⟩ := List.map_eq_singleton_iff.1 hfound
  let original : Document := l.restoring.toDocument
  have hforeign : ∀ m ∈ before ++ [.call .disable], m.isForeign (Light.route 1) = false := by
    decide +kernel
  have hmoves : ∀ m ∈ before ++ [.call .disable], m.isInOrder = true := by decide +kernel
  obtain ⟨hposted, -, -, hiff⟩ :=
    restore_arrives_last_iff hfresh rfl hforeign (by simp) hrun hidle original
  have hlast : (takenOver 1 p.2).getLast?.map (·.restoring.toDocument) = some original := by
    rw [htaken]
    rfl
  have horder : InOrder (Light.route 1) p.2 p.1 :=
    inOrder_run hforeign hmoves (show InOrder (Light.route 1) [] fresh from rfl) hrun
  have hone : (inFlightTo (Light.route 1) p.1).length ≤ 1 := by
    rw [← hlength]
    exact List.length_filterMap_le _ _
  refine ⟨fresh, p, original, hfresh, hrun, ?_, hiff.2 ⟨horder, hlast, ?_⟩⟩
  · rw [htaken]
    rfl
  · intro d hd
    rw [hlast, horder.last_posted hone hd] at hposted
    exact Option.some_inj.1 hposted

/-- Whether a command switches a lamp on or off. -/
def powerOf (command : Document) : Option Bool :=
  match command.get? "on" with
  | some (.bool on) => some on
  | _ => none

/-- Of the commands of one light the last to be sent arrives first: the lamp is restored before it is
switched off, and stays dark. In the order in which they were sent, the commands leave a lamp dark
only if it was found so when it was taken over again. -/
theorem restore_overtaken :
    ∃ fresh, forBridge groupBridge { lightIds := [1] } = .ok fresh ∧
      ((fresh.run (blackened ++ [.call .disable, arrive 3, arrive 1, arrive 1, arrive 0])).map fun p =>
        ((takenOver 1 p.2).map fun l => powerOf l.restoring.toDocument,
          (posted (Light.route 1) p.2).map powerOf, (arrivals (Light.route 1) p.2).map powerOf,
          p.1.bridge.posts.length)) =
      some ([some true], [some false, none, none, some true], [some true, none, none, some false], 0) ∧
      ((fresh.run (refreshed ++ [.call (.write [⟨0, 0, 0⟩]), .proceed, .proceed, .call .disable] ++
          List.replicate 6 (arrive 0))).map fun p =>
        ((takenOver 1 p.2).map fun l => powerOf l.restoring.toDocument,
          (arrivals (Light.route 1) p.2).map powerOf, p.1.bridge.posts.length)) =
      some ([some true, some false], [some false, none, none, some true, none, some false], 0) :=
  ⟨_, rfl, by decide +kernel, by decide +kernel⟩

end LightBridge.Rig
