import LightBridge.Document.Reader
import Mathlib.Data.String.Basic

/-! What settles. A document whose objects have their members in order comes back unchanged, if there is
room for its depth; without room nothing comes back. Whatever settles is in order and fits, so to
settle it once more changes nothing. -/

namespace LightBridge

namespace Document

mutual

/-- How deep arrays and objects are nested in a document. -/
def depth : Document → Nat
  | .null | .bool _ | .number _ | .text _ => 0
  | .array items => depthItems items + 1
  | .object members => depthMembers members + 1

def depthItems : List Document → Nat
  | [] => 0
  | d :: ds => max (depth d) (depthItems ds)

def depthMembers : List (String × Document) → Nat
  | [] => 0
  | (_, d) :: ds => max (depth d) (depthMembers ds)

end

/-- The members have distinct names and stand in the order of their names. -/
def Sorted (members : List (String × Document)) : Prop := members.Pairwise fun m n => m.1 < n.1

mutual

/-- Whether the members of every object are in order. -/
def Ordered : Document → Prop
  | .null | .bool _ | .number _ | .text _ => True
  | .array items => OrderedItems items
  | .object members => Sorted members ∧ OrderedMembers members

def OrderedItems : List Document → Prop
  | [] => True
  | d :: ds => Ordered d ∧ OrderedItems ds

def OrderedMembers : List (String × Document) → Prop
  | [] => True
  | (_, d) :: ds => Ordered d ∧ OrderedMembers ds

end

variable {name : String} {value : Document} {members acc : List (String × Document)} {room : Nat}

/-! ### Members -/

theorem insert_last (h : ∀ m ∈ acc, m.1 < name) :
    insert name value acc = acc ++ [(name, value)] := by
  induction acc with
  | nil => rfl
  | cons m acc ih =>
    obtain ⟨hm, hrest⟩ := List.forall_mem_cons.1 h
    rw [insert, if_neg (lt_asymm hm), if_neg (ne_of_gt hm), ih hrest, List.cons_append]

theorem foldl_insert (h : Sorted (acc ++ members)) :
    members.foldl (fun acc m => insert m.1 m.2 acc) acc = acc ++ members := by
  induction members generalizing acc with
  | nil => simp
  | cons m members ih =>
    have hlast : ∀ x ∈ acc, x.1 < m.1 := fun x hx =>
      (List.pairwise_append.1 h).2.2 x hx m List.mem_cons_self
    have hassoc : acc ++ m :: members = acc ++ [m] ++ members := by simp
    rw [hassoc] at h ⊢
    rw [List.foldl_cons, insert_last hlast, ih h]

/-- Members in order make up the object that they are written as. -/
theorem ofMembers_of_sorted (h : Sorted members) : ofMembers members = .object members := by
  have hall : members.foldl (fun acc m => insert m.1 m.2 acc) [] = [] ++ members := foldl_insert h
  rw [ofMembers, hall, List.nil_append]

theorem mem_insert {m : String × Document} (h : m ∈ insert name value acc) :
    m = (name, value) ∨ m ∈ acc := by
  induction acc with
  | nil => exact Or.inl (List.mem_singleton.1 h)
  | cons x acc ih =>
    rw [insert] at h
    split at h
    · exact List.mem_cons.1 h
    · split at h
      · exact (List.mem_cons.1 h).imp_right (List.mem_cons_of_mem x)
      · rcases List.mem_cons.1 h with rfl | h
        · exact Or.inr List.mem_cons_self
        · exact (ih h).imp_right (List.mem_cons_of_mem x)

theorem sorted_insert (h : Sorted acc) : Sorted (insert name value acc) := by
  induction acc with
  | nil => exact List.pairwise_singleton _ _
  | cons x acc ih =>
    obtain ⟨hx, hacc⟩ := List.pairwise_cons.1 h
    rw [insert]
    split
    · next hlt =>
      exact List.pairwise_cons.2 ⟨List.forall_mem_cons.2 ⟨hlt, fun m hm => hlt.trans (hx m hm)⟩, h⟩
    · next hge =>
      split
      · next heq => exact List.pairwise_cons.2 ⟨fun m hm => heq ▸ hx m hm, hacc⟩
      · next hne =>
        refine List.pairwise_cons.2 ⟨fun m hm => ?_, ih hacc⟩
        rcases mem_insert hm with rfl | hm
        · exact lt_of_le_of_ne (not_lt.1 hge) (Ne.symm hne)
        · exact hx m hm

/-- Members that are set one after the other are in order, and they are among those that were set. -/
theorem foldl_insert_keeps {P : String × Document → Prop} (hacc : Sorted acc ∧ ∀ m ∈ acc, P m)
    (h : ∀ m ∈ members, P m) :
    Sorted (members.foldl (fun acc m => insert m.1 m.2 acc) acc) ∧
      ∀ m ∈ members.foldl (fun acc m => insert m.1 m.2 acc) acc, P m := by
  induction members generalizing acc with
  | nil => exact hacc
  | cons x members ih =>
    obtain ⟨hx, hrest⟩ := List.forall_mem_cons.1 h
    refine ih ⟨sorted_insert hacc.1, fun m hm => ?_⟩ hrest
    rcases mem_insert hm with rfl | hm
    · exact hx
    · exact hacc.2 m hm

theorem orderedMembers_iff : OrderedMembers members ↔ ∀ m ∈ members, m.2.Ordered := by
  induction members with
  | nil => simp [OrderedMembers]
  | cons m members ih => rw [OrderedMembers, ih, List.forall_mem_cons]

theorem depthMembers_le_iff {n : Nat} : depthMembers members ≤ n ↔ ∀ m ∈ members, m.2.depth ≤ n := by
  induction members with
  | nil => simp [depthMembers]
  | cons m members ih => rw [depthMembers, max_le_iff, ih, List.forall_mem_cons]

/-- Whether a document is in order and no deeper than there is room. -/
def Settled (room : Nat) (d : Document) : Prop := d.Ordered ∧ d.depth ≤ room

theorem settled_ofMembers (h : OrderedMembers members) (hdepth : depthMembers members ≤ room) :
    Settled (room + 1) (ofMembers members) := by
  obtain ⟨hsorted, hall⟩ := foldl_insert_keeps (P := fun m => m.2.Ordered ∧ m.2.depth ≤ room)
    ⟨List.Pairwise.nil, List.forall_mem_nil _⟩
    fun m hm => ⟨orderedMembers_iff.1 h m hm, depthMembers_le_iff.1 hdepth m hm⟩
  exact ⟨⟨hsorted, orderedMembers_iff.2 fun m hm => (hall m hm).1⟩,
    Nat.succ_le_succ (depthMembers_le_iff.2 fun m hm => (hall m hm).2)⟩

end Document

namespace Draft

open Document

/-! ### Documents -/

mutual

/-- A document that fits settles, and if it is in order it comes back unchanged. -/
theorem settle_fits {room : Nat} : ∀ {d : Document}, d.depth ≤ room →
    ∃ d', settle room (.ofDocument d) = some d' ∧ (d.Ordered → d' = d)
  | .null, _ | .bool _, _ | .number _, _ | .text _, _ => ⟨_, rfl, fun _ => rfl⟩
  | .array items, h => by
    have hitems : depthItems items ≤ room - 1 := Nat.le_sub_one_of_lt h
    obtain ⟨ds, hds, hsame⟩ := settleItems_fits hitems
    have hroom : room ≠ 0 := Nat.ne_of_gt (Nat.zero_lt_of_lt h)
    refine ⟨.array ds, ?_, fun hordered => congrArg Document.array (hsame hordered)⟩
    rw [ofDocument, settle, if_neg hroom, hds]
    rfl
  | .object members, h => by
    have hmembers : depthMembers members ≤ room - 1 := Nat.le_sub_one_of_lt h
    obtain ⟨ms, hms, hsame⟩ := settleMembers_fits hmembers
    have hroom : room ≠ 0 := Nat.ne_of_gt (Nat.zero_lt_of_lt h)
    refine ⟨Document.ofMembers ms, ?_, fun hordered => ?_⟩
    · rw [ofDocument, settle, if_neg hroom, hms]
      rfl
    · rw [hsame hordered.2]
      exact ofMembers_of_sorted hordered.1

theorem settleItems_fits {room : Nat} : ∀ {items : List Document}, depthItems items ≤ room →
    ∃ ds, settleItems room (ofItems items) = some ds ∧ (OrderedItems items → ds = items)
  | [], _ => ⟨[], rfl, fun _ => rfl⟩
  | d :: items, h => by
    obtain ⟨hd, hitems⟩ := max_le_iff.1 h
    obtain ⟨d', hd', hsame⟩ := settle_fits hd
    obtain ⟨ds, hds, hrest⟩ := settleItems_fits hitems
    refine ⟨d' :: ds, ?_, fun hordered => ?_⟩
    · rw [ofItems, settleItems, hd', hds]
      rfl
    · rw [hsame hordered.1, hrest hordered.2]

theorem settleMembers_fits {room : Nat} : ∀ {members : List (String × Document)},
    depthMembers members ≤ room → ∃ ms, settleMembers room (ofMembers members) = some ms ∧
      (OrderedMembers members → ms = members)
  | [], _ => ⟨[], rfl, fun _ => rfl⟩
  | (name, d) :: members, h => by
    obtain ⟨hd, hmembers⟩ := max_le_iff.1 h
    obtain ⟨d', hd', hsame⟩ := settle_fits hd
    obtain ⟨ms, hms, hrest⟩ := settleMembers_fits hmembers
    refine ⟨(name, d') :: ms, ?_, fun hordered => ?_⟩
    · rw [ofMembers, settleMembers, hd', hms]
      rfl
    · rw [hsame hordered.1, hrest hordered.2]

end

theorem settle_of_settled {room : Nat} {d : Document} (h : d.Settled room) :
    settle room (.ofDocument d) = some d := by
  obtain ⟨d', hd', hsame⟩ := settle_fits h.2
  rw [hd', hsame h.1]

mutual

theorem settled_of_settle {room : Nat} : ∀ {draft : Draft} {d : Document},
    settle room draft = some d → d.Settled room
  | .null, d, h | .bool _, d, h => by
    cases h
    exact ⟨trivial, Nat.zero_le _⟩
  | .number _, d, h | .text _, d, h => by
    obtain ⟨x, -, rfl⟩ := Option.map_eq_some_iff.1 h
    exact ⟨trivial, Nat.zero_le _⟩
  | .array items, d, h => by
    rw [settle] at h
    split at h
    · cases h
    · next hroom =>
      obtain ⟨ds, hds, rfl⟩ := Option.map_eq_some_iff.1 h
      obtain ⟨hordered, hdepth⟩ := settledItems_of_settle hds
      exact ⟨hordered, Nat.add_le_of_le_sub (Nat.pos_of_ne_zero hroom) hdepth⟩
  | .object members, d, h => by
    rw [settle] at h
    split at h
    · cases h
    · next hroom =>
      obtain ⟨ms, hms, rfl⟩ := Option.map_eq_some_iff.1 h
      obtain ⟨hordered, hdepth⟩ := settledMembers_of_settle hms
      have hsettled := settled_ofMembers hordered hdepth
      rwa [Nat.sub_add_cancel (Nat.pos_of_ne_zero hroom)] at hsettled

theorem settledItems_of_settle {room : Nat} : ∀ {drafts : List Draft} {items : List Document},
    settleItems room drafts = some items → OrderedItems items ∧ depthItems items ≤ room
  | [], items, h => by
    cases h
    exact ⟨trivial, Nat.zero_le _⟩
  | draft :: drafts, items, h => by
    simp only [settleItems, Option.bind_eq_bind, Option.bind_eq_some_iff, Option.pure_def,
      Option.some.injEq] at h
    obtain ⟨d, hd, ds, hds, rfl⟩ := h
    have hfirst : d.Settled room := settled_of_settle hd
    have hrest := settledItems_of_settle hds
    exact ⟨⟨hfirst.1, hrest.1⟩, max_le hfirst.2 hrest.2⟩

theorem settledMembers_of_settle {room : Nat} :
    ∀ {drafts : List (Option String × Draft)} {members : List (String × Document)},
      settleMembers room drafts = some members →
        OrderedMembers members ∧ depthMembers members ≤ room
  | [], members, h => by
    cases h
    exact ⟨trivial, Nat.zero_le _⟩
  | (name, draft) :: drafts, members, h => by
    simp only [settleMembers, Option.bind_eq_bind, Option.bind_eq_some_iff, Option.pure_def,
      Option.some.injEq] at h
    obtain ⟨n, -, d, hd, ms, hms, rfl⟩ := h
    have hfirst : d.Settled room := settled_of_settle hd
    have hrest := settledMembers_of_settle hms
    exact ⟨⟨hfirst.1, hrest.1⟩, max_le hfirst.2 hrest.2⟩

end

/-- To settle once more changes nothing. -/
theorem settle_settle {room : Nat} {draft : Draft} {d : Document} (h : settle room draft = some d) :
    settle room (.ofDocument d) = some d := settle_of_settled (settled_of_settle h)

end Draft

/-- The members of every object that was read are in order. -/
theorem Document.settled_of_read {s : String} {d : Document} (h : Document.read s = some d) :
    d.Settled Draft.maxDepth := by
  obtain ⟨draft, -, hd⟩ := Option.bind_eq_some_iff.1 h
  exact Draft.settled_of_settle hd

end LightBridge
