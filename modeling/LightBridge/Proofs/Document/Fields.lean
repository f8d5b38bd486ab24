import LightBridge.Document.Record
import LightBridge.Proofs.Document.Settling

/-! Values and records read back from the documents that they are written as. A record finds what
stands under a name wherever it stands, and passes over members whose names it does not know. -/

namespace LightBridge

/-! ### Lookups -/

section

variable {β : Type} {name : String} {l : List (String × β)}

/-- Under distinct names a member is found wherever it stands. -/
theorem lookup_eq_some_iff_mem (hl : (l.map (·.1)).Nodup) (v : β) :
    l.lookup name = some v ↔ (name, v) ∈ l := by
  induction l generalizing v with
  | nil => simp
  | cons m l ih =>
    obtain ⟨n, x⟩ := m
    obtain ⟨hn, hrest⟩ := List.nodup_cons.1 hl
    rw [List.lookup_cons]
    cases hname : name == n with
    | true =>
      obtain rfl := beq_iff_eq.1 hname
      have hnone : (name, v) ∉ l := fun hmem => hn (List.mem_map.2 ⟨_, hmem, rfl⟩)
      simp [hnone, eq_comm]
    | false => simp [ih hrest, beq_eq_false_iff_ne.1 hname]

end

/-- What can be read of each entry can be read of the list. -/
theorem mapM_eq_some {α β : Type} {f : α → Option β} {g : α → β} {l : List α}
    (h : ∀ x ∈ l, f x = some (g x)) : l.mapM f = some (l.map g) := by
  induction l with
  | nil => rfl
  | cons x l ih =>
    obtain ⟨hx, hrest⟩ := List.forall_mem_cons.1 h
    rw [List.mapM_cons, hx, ih hrest]
    rfl

namespace Draft

theorem ofMembers_eq (members : List (String × Document)) :
    ofMembers members = members.map fun m => (some m.1, ofDocument m.2) := by
  induction members with
  | nil => rfl
  | cons m members ih =>
    obtain ⟨name, d⟩ := m
    rw [ofMembers, ih, List.map_cons]

theorem ofItems_eq (items : List Document) : ofItems items = items.map ofDocument := by
  induction items with
  | nil => rfl
  | cons d items ih => rw [ofItems, ih, List.map_cons]

/-! ### Values -/

theorem bool?_bool (b : Bool) : bool? (.ofDocument (.bool b)) = some b := rfl

theorem float?_real {x : Float} (h : x.isFinite = true) : float? (.ofDocument (.real x)) = some x := by
  rw [Document.real, if_pos h]
  rfl

theorem nat?_nat {limit n : Nat} (h : n ≤ limit) : nat? limit (.ofDocument (.nat n)) = some n := by
  have hrange : (0 : Int) ≤ n ∧ (n : Int) ≤ limit := ⟨Int.natCast_nonneg n, Int.ofNat_le.2 h⟩
  exact if_pos hrange

theorem uint8?_nat (n : UInt8) : uint8? (.ofDocument (.nat n.toNat)) = some n := by
  have hlimit : n.toNat ≤ 255 := Nat.le_of_lt_succ n.toNat_lt
  rw [uint8?, nat?_nat hlimit, Option.map_some, UInt8.ofNat_toNat]

theorem uint16?_nat (n : UInt16) : uint16? (.ofDocument (.nat n.toNat)) = some n := by
  have hlimit : n.toNat ≤ 65535 := Nat.le_of_lt_succ n.toNat_lt
  rw [uint16?, nat?_nat hlimit, Option.map_some, UInt16.ofNat_toNat]

theorem uint32?_nat (n : UInt32) : uint32? (.ofDocument (.nat n.toNat)) = some n := by
  have hlimit : n.toNat ≤ UInt32.size - 1 := Nat.le_sub_one_of_lt n.toNat_lt
  rw [uint32?, nat?_nat hlimit, Option.map_some, UInt32.ofNat_toNat]

theorem uint64?_nat (n : UInt64) : uint64? (.ofDocument (.nat n.toNat)) = some n := by
  have hlimit : n.toNat ≤ UInt64.size - 1 := Nat.le_sub_one_of_lt n.toNat_lt
  rw [uint64?, nat?_nat hlimit, Option.map_some, UInt64.ofNat_toNat]

section

variable {β : Type} {read : Draft → Option β} {write : β → Document}

theorem list?_array {xs : List β} (h : ∀ x ∈ xs, read (.ofDocument (write x)) = some x) :
    list? read (.ofDocument (.array (xs.map write))) = some xs := by
  rw [ofDocument, ofItems_eq, list?, List.map_map, List.mapM_map]
  have hread : xs.mapM (read ∘ ofDocument ∘ write) = some (xs.map id) := mapM_eq_some h
  rw [hread, List.map_id]

theorem pair?_array {x y : β} (hx : read (.ofDocument (write x)) = some x)
    (hy : read (.ofDocument (write y)) = some y) :
    pair? read (.ofDocument (.array [write x, write y])) = some (x, y) := by
  simp [ofDocument, ofItems, pair?, hx, hy]

theorem orNull?_of_ne {d : Document} (h : d ≠ .null) :
    orNull? read (.ofDocument d) = (read (.ofDocument d)).map some := by
  cases d <;> first | rfl | exact absurd rfl h

/-- A value that is not written as null is told from none. -/
theorem orNull?_getD {x : Option β} (h : ∀ y, read (.ofDocument (write y)) = some y)
    (hnull : ∀ y, write y ≠ .null) :
    orNull? read (.ofDocument ((x.map write).getD .null)) = some x := by
  cases x with
  | none => rfl
  | some y => rw [Option.map_some, Option.getD_some, orNull?_of_ne (hnull y), h y, Option.map_some]

end

end Draft

/-! ### Records -/

namespace Record

/-- Members that are passed over settle, if there is room for them. -/
theorem settle_members {members : List (String × Document)} {room : Nat}
    (h : ∀ m ∈ members, m.2.depth ≤ room) :
    ∃ ds, (members.map fun m => (m.1, Draft.ofDocument m.2)).mapM (fun m => m.2.settle room) =
      some ds := by
  rw [List.mapM_map]
  refine ⟨_, mapM_eq_some (g := fun m => ((Draft.ofDocument m.2).settle room).getD .null) ?_⟩
  intro m hm
  obtain ⟨d, hd, -⟩ := Draft.settle_fits (h m hm)
  rw [Function.comp_apply, hd, Option.getD_some]

theorem named?_ofMembers (members : List (String × Document)) :
    named? (Draft.ofMembers members) = some (members.map fun m => (m.1, .ofDocument m.2)) := by
  rw [Draft.ofMembers_eq, named?, List.mapM_map]
  exact mapM_eq_some fun _ _ => rfl

theorem distinct_iff (names : List String) : distinct names = true ↔ names.Nodup := by
  induction names with
  | nil => simp [distinct]
  | cons n names ih => simp [distinct, ih]

/-- A record that was found in an object: the members whose names are in `S`, of those that are
written. -/
structure Holds (r : Record) (stored : List (String × Document)) (S : String → Bool) : Prop where
  listed_eq : r.listed = false
  lookup_eq : ∀ name, r.fields.lookup name =
    if S name then (stored.lookup name).map Draft.ofDocument else none

variable {names : List String} {stored members : List (String × Document)} {S : String → Bool}
  {r : Record} {β : Type} {read : Draft → Option β}

/-- The members of a record are found in any order and among others. -/
theorem holds_of_perm (hstored : (stored.map (·.1)).Nodup)
    (h : (members.filter fun m => names.contains m.1).Perm (stored.filter fun m => S m.1)) :
    ∃ r, ofMembers? names (members.map fun m => (m.1, .ofDocument m.2)) = some r ∧
      r.Holds stored S := by
  let found := members.filter fun m => names.contains m.1
  let fields := found.map fun m => (m.1, Draft.ofDocument m.2)
  have hfilter : (members.map fun m => (m.1, Draft.ofDocument m.2)).filter (fun m =>
      names.contains m.1) = fields := List.filter_map
  have hnames : fields.map (·.1) = found.map (·.1) := by simp [fields]
  have hdistinct : (found.map (·.1)).Nodup :=
    (h.map _).nodup_iff.2 (hstored.sublist (List.filter_sublist.map _))
  refine ⟨⟨false, fields⟩, ?_, rfl, fun name => Option.ext fun d => ?_⟩
  · rw [ofMembers?, hfilter, if_pos ((distinct_iff _).2 (hnames ▸ hdistinct))]
  · have hfields : (name, d) ∈ fields ↔ ∃ v, (name, v) ∈ stored ∧ S name = true ∧
        Draft.ofDocument v = d := by
      simp only [fields, found, List.mem_map, h.mem_iff, List.mem_filter, Prod.mk.injEq]
      constructor
      · rintro ⟨⟨n, v⟩, ⟨hmem, hn⟩, rfl, rfl⟩
        exact ⟨v, hmem, hn, rfl⟩
      · rintro ⟨v, hmem, hn, rfl⟩
        exact ⟨(name, v), ⟨hmem, hn⟩, rfl, rfl⟩
    rw [lookup_eq_some_iff_mem (hnames ▸ hdistinct), hfields]
    cases hname : S name with
    | false => simp
    | true => simp [lookup_eq_some_iff_mem hstored]

/-- A record in which all members are looked for. -/
theorem holds_of_object (hstored : (stored.map (·.1)).Nodup)
    (hnames : ∀ m ∈ stored, names.contains m.1 = true) :
    ∃ r, of? names (.ofDocument (.object stored)) = some r ∧ r.Holds stored fun _ => true := by
  have hall : stored.filter (fun m => names.contains m.1) = stored.filter fun _ => true := by
    rw [List.filter_eq_self.2 hnames, List.filter_true]
  obtain ⟨r, hr, hholds⟩ := holds_of_perm (S := fun _ => true) hstored (List.Perm.of_eq hall)
  refine ⟨r, ?_, hholds⟩
  change (named? (Draft.ofMembers stored)).bind (ofMembers? names) = some r
  rw [named?_ofMembers, Option.bind_some, hr]

namespace Holds

variable {name : String} {v : Document} {x default : β}

theorem orElse_eq (h : r.Holds stored S) (name : String) (hv : stored.lookup name = some v)
    (hx : read (.ofDocument v) = some x) :
    r.orElse name read default = some (if S name then x else default) := by
  rw [orElse, h.lookup_eq, hv]
  cases S name with
  | false => rfl
  | true => exact hx

theorem required_eq (h : r.Holds stored fun _ => true) (hv : stored.lookup name = some v)
    (hx : read (.ofDocument v) = some x) : r.required name read = some x := by
  rw [required, h.lookup_eq, hv]
  exact hx

theorem optional_eq {y : Option β} (h : r.Holds stored fun _ => true)
    (hv : stored.lookup name = some v) (hy : Draft.orNull? read (.ofDocument v) = some y) :
    r.optional name read = some y := by
  rw [optional, h.lookup_eq, hv]
  exact hy

/-- A value that is left out of the object if there is none. -/
theorem optional_of_map {write : β → Document} {y : Option β} (h : r.Holds stored fun _ => true)
    (hv : stored.lookup name = y.map write)
    (hx : ∀ x ∈ y, read (.ofDocument (write x)) = some x) (hnull : ∀ x, write x ≠ .null) :
    r.optional name read = some y := by
  cases y with
  | none =>
    rw [optional, h.lookup_eq, hv, h.listed_eq]
    rfl
  | some x =>
    refine h.optional_eq hv ?_
    rw [Draft.orNull?_of_ne (hnull x), hx x rfl, Option.map_some]

end Holds

end Record

end LightBridge
