import LightBridge.Inventory
import LightBridge.Proofs.Document.Fields
import LightBridge.Proofs.Splits
import LightBridge.Proofs.Text.ByteOrder
import Mathlib.Data.List.Induction

/-! What an inventory lists. A text is refused only if it is no document or an array. Of any other
document each category gives a number the entry of the last good key for it, in the order of the
bytes of the keys; whatever else the document holds makes no difference. -/

namespace LightBridge

/-! ### Keys -/

namespace Text.Whole

variable {limit value n : Nat} {cs : List Char} {s : String}

theorem accumulate_le (hvalue : value ≤ limit) (h : accumulate limit value cs = .ok n) :
    n ≤ limit := by
  induction cs generalizing value with
  | nil =>
    cases h
    exact hvalue
  | cons c cs ih =>
    rw [accumulate] at h
    split at h
    · cases h
    · split at h
      · cases h
      · next hless => exact ih (not_lt.1 hless) h

theorem parse?_le (h : parse? limit s = some n) : n ≤ limit := by
  rw [parse?, parse] at h
  generalize s.toList = cs at h
  have hparse : parseChars limit cs = .ok n := by
    cases hcs : parseChars limit cs with
    | error e =>
      rw [hcs] at h
      cases h
    | ok m =>
      rw [hcs] at h
      cases h
      rfl
  unfold parseChars at hparse
  split at hparse
  · cases hparse
  · cases hparse
  · exact accumulate_le (Nat.zero_le _) hparse
  · exact accumulate_le (Nat.zero_le _) hparse

end Text.Whole

/-- Whether a key of a listing stands for a number. -/
def Listing.Names (key : String) (n : UInt16) : Prop := Text.Whole.parse? 65535 key = some n.toNat

instance (key : String) (n : UInt16) : Decidable (Listing.Names key n) :=
  inferInstanceAs (Decidable (_ = _))

/-! ### Documents -/

namespace Document

variable {category key : String} {v d : Document} {members : List (String × Document)}

/-- What stands under a key of a category. -/
def member? (category key : String) (d : Document) : Option Document :=
  (d.get? category).bind (get? key)

theorem nodup_of_sorted (h : Sorted members) : (members.map (·.1)).Nodup := by
  refine List.pairwise_map.2 (h.imp ?_)
  intro a b hlt
  exact ne_of_lt hlt

theorem ordered_of_get? (hd : d.Ordered) (h : d.get? category = some v) : v.Ordered := by
  cases d with
  | object members =>
    have hmem := (lookup_eq_some_iff_mem (nodup_of_sorted hd.1) v).1 h
    exact orderedMembers_iff.1 hd.2 _ hmem
  | null | bool | number | text | array => cases h

theorem member?_eq_some_iff (hd : d.Ordered) :
    d.member? category key = some v ↔
      ∃ members, d.get? category = some (.object members) ∧ (key, v) ∈ members := by
  constructor
  · intro h
    obtain ⟨c, hc, hv⟩ := Option.bind_eq_some_iff.1 h
    cases c with
    | object members =>
      have hsorted : Sorted members := (ordered_of_get? hd hc).1
      exact ⟨members, hc, (lookup_eq_some_iff_mem (nodup_of_sorted hsorted) v).1 hv⟩
    | null | bool | number | text | array => cases hv
  · rintro ⟨members, hc, hmem⟩
    have hsorted : Sorted members := (ordered_of_get? hd hc).1
    rw [member?, hc, Option.bind_some, get?]
    exact (lookup_eq_some_iff_mem (nodup_of_sorted hsorted) v).2 hmem

/-- Of members in order, the last one of which something can be read is the one with the last
name. -/
theorem getLast?_filterMap_iff {β : Type} {f : String × Document → Option β} {e : β}
    (h : Sorted members) :
    (members.filterMap f).getLast? = some e ↔
      ∃ m ∈ members, f m = some e ∧ ∀ m' ∈ members, m.1 < m'.1 → f m' = none := by
  induction members using List.reverseRecOn with
  | nil => simp
  | append_singleton members last ih =>
    obtain ⟨hsorted, -, hbefore⟩ := List.pairwise_append.1 h
    have hless : ∀ m ∈ members, m.1 < last.1 := fun m hm => hbefore m hm last List.mem_cons_self
    rw [List.filterMap_append, List.getLast?_append]
    cases hlast : f last with
    | some x =>
      have hone : [last].filterMap f = [x] := by simp [hlast]
      rw [hone, List.getLast?_singleton, Option.some_or, Option.some.injEq]
      constructor
      · rintro rfl
        refine ⟨last, by simp, hlast, ?_⟩
        intro m hm hlt
        rcases List.mem_append.1 hm with hm | hm
        · exact absurd hlt (lt_asymm (hless m hm))
        · rw [List.mem_singleton.1 hm] at hlt
          exact absurd hlt (lt_irrefl _)
      · rintro ⟨m, hm, hfm, hnone⟩
        rcases List.mem_append.1 hm with hm | hm
        · have hcontra := hnone last (by simp) (hless m hm)
          rw [hlast] at hcontra
          cases hcontra
        · rw [List.mem_singleton.1 hm, hlast] at hfm
          exact Option.some.inj hfm
    | none =>
      have hnil : [last].filterMap f = [] := by simp [hlast]
      rw [hnil, List.getLast?_nil, Option.none_or, ih hsorted]
      constructor
      · rintro ⟨m, hm, hfm, hnone⟩
        refine ⟨m, List.mem_append_left _ hm, hfm, ?_⟩
        intro m' hm' hlt
        rcases List.mem_append.1 hm' with hm' | hm'
        · exact hnone m' hm' hlt
        · rw [List.mem_singleton.1 hm', hlast]
      · rintro ⟨m, hm, hfm, hnone⟩
        rcases List.mem_append.1 hm with hm | hm
        · exact ⟨m, hm, hfm, fun m' hm' => hnone m' (List.mem_append_left _ hm')⟩
        · rw [List.mem_singleton.1 hm, hlast] at hfm
          cases hfm

end Document

/-! ### Listings -/

namespace Listing

open Text (bytes)

variable {β : Type} {read : Draft → Option β} {category : String} {d d' : Document}
  {n : UInt16} {e : β} {l : Listing β}

theorem lookup_insert (id n : UInt16) (e : β) (l : Listing β) :
    (insert id e l).lookup n = if n = id then some e else l.lookup n := by
  induction l with
  | nil => exact lookup_cons_ite n (id, e) []
  | cons x l ih =>
    rw [insert]
    split
    · exact lookup_cons_ite n (id, e) (x :: l)
    · split
      · next hx =>
        rw [lookup_cons_ite, lookup_cons_ite, ← hx]
        split
        · rfl
        · rfl
      · next hx =>
        rw [lookup_cons_ite, lookup_cons_ite, ih]
        by_cases hn : n = x.1
        · have hne : n ≠ id := fun h => hx (h.symm.trans hn)
          rw [if_pos hn, if_neg hne, if_pos hn]
        · rw [if_neg hn, if_neg hn]

theorem mem_insert {id : UInt16} {x : UInt16 × β} (h : x ∈ insert id e l) :
    x = (id, e) ∨ x ∈ l := by
  induction l with
  | nil => exact Or.inl (List.mem_singleton.1 h)
  | cons y l ih =>
    rw [insert] at h
    split at h
    · exact List.mem_cons.1 h
    · split at h
      · exact (List.mem_cons.1 h).imp_right (List.mem_cons_of_mem y)
      · rcases List.mem_cons.1 h with rfl | h
        · exact Or.inr List.mem_cons_self
        · exact (ih h).imp_right (List.mem_cons_of_mem y)

/-- Whether the numbers ascend. -/
def Ascending (l : Listing β) : Prop := l.Pairwise fun x y => x.1 < y.1

theorem ascending_insert (id : UInt16) (e : β) (h : Ascending l) : Ascending (insert id e l) := by
  induction l with
  | nil => exact List.pairwise_singleton _ _
  | cons x l ih =>
    obtain ⟨hx, hl⟩ := List.pairwise_cons.1 h
    rw [insert]
    split
    · next hlt =>
      have hbefore : ∀ y ∈ l, id < y.1 := fun y hy => UInt16.lt_trans hlt (hx y hy)
      exact List.pairwise_cons.2 ⟨List.forall_mem_cons.2 ⟨hlt, hbefore⟩, h⟩
    · next hge =>
      split
      · next heq => exact List.pairwise_cons.2 ⟨fun y hy => heq ▸ hx y hy, hl⟩
      · next hne =>
        refine List.pairwise_cons.2 ⟨fun y hy => ?_, ih hl⟩
        rcases mem_insert hy with rfl | hy
        · exact UInt16.lt_of_le_of_ne (UInt16.not_lt.1 hge) (Ne.symm hne)
        · exact hx y hy

/-- The entry that a member gives a number: its value, if its name stands for the number. -/
def given? (read : Draft → Option β) (n : UInt16) (m : String × Document) : Option β :=
  if Names m.1 n then read (.ofDocument m.2) else none

theorem ofMembers_concat (read : Draft → Option β) (members : List (String × Document))
    (m : String × Document) :
    ofMembers read (members ++ [m]) =
      match read? read m with
      | some x => insert x.1 x.2 (ofMembers read members)
      | none => ofMembers read members := by
  rw [ofMembers, List.filterMap_append, List.foldl_append]
  cases hm : read? read m with
  | none => simp [hm, ofMembers]
  | some x => simp [hm, ofMembers]

/-- One more member gives its number an entry, or nothing changes. -/
theorem lookup_concat (read : Draft → Option β) (members : List (String × Document))
    (m : String × Document) (n : UInt16) :
    (ofMembers read (members ++ [m])).lookup n =
      (given? read n m).or ((ofMembers read members).lookup n) := by
  rw [ofMembers_concat, read?, given?]
  cases hkey : Text.Whole.parse? 65535 m.1 with
  | none => simp [Names, hkey]
  | some id =>
    have hnames : Names m.1 n ↔ id = n.toNat := by
      rw [Names, hkey, Option.some.injEq]
    have hid : id < 65536 := Nat.lt_succ_of_le (Text.Whole.parse?_le hkey)
    have hnumber : n = UInt16.ofNat id ↔ id = n.toNat := by
      rw [← UInt16.toNat_inj, UInt16.toNat_ofNat', Nat.mod_eq_of_lt hid]
      exact eq_comm
    cases hread : read (.ofDocument m.2) with
    | none => simp
    | some e =>
      by_cases hn : id = n.toNat
      · simp [lookup_insert, hnames, hn]
      · simp [lookup_insert, hnumber, hnames, hn]

theorem lookup_ofMembers (read : Draft → Option β) (members : List (String × Document))
    (n : UInt16) :
    (ofMembers read members).lookup n = (members.filterMap (given? read n)).getLast? := by
  induction members using List.reverseRecOn with
  | nil => rfl
  | append_singleton members m ih =>
    rw [lookup_concat, ih, List.filterMap_append, List.getLast?_append]
    cases hm : given? read n m with
    | none => simp [hm]
    | some e => simp [hm]

theorem ascending_ofMembers (read : Draft → Option β) (members : List (String × Document)) :
    Ascending (ofMembers read members) := by
  induction members using List.reverseRecOn with
  | nil => exact List.Pairwise.nil
  | append_singleton members m ih =>
    rw [ofMembers_concat]
    split
    · exact ascending_insert _ _ ih
    · exact ih

/-! ### Categories -/

/-- A key of a category that stands for a number and has a good entry. -/
def Good (read : Draft → Option β) (category : String) (d : Document) (n : UInt16) (key : String)
    (e : β) : Prop :=
  Names key n ∧ ∃ v, d.member? category key = some v ∧ read (.ofDocument v) = some e

/-- A listing of exactly the entries that a category has, each under the number of its key; of
several good keys for a number the last one counts, in the order of their bytes. -/
structure Reflects (read : Draft → Option β) (category : String) (d : Document)
    (l : Listing β) : Prop where
  ascending : Ascending l
  some_iff : ∀ n e, l.lookup n = some e ↔
    ∃ key, Good read category d n key e ∧
      ∀ key' e', Good read category d n key' e' → ¬bytes key < bytes key'
  none_iff : ∀ n, l.lookup n = none ↔ ∀ key e, ¬Good read category d n key e
  empty : (∀ members, d.get? category ≠ some (.object members)) → l = []

theorem given?_eq_some_iff {m : String × Document} :
    given? read n m = some e ↔ Names m.1 n ∧ read (.ofDocument m.2) = some e := by
  rw [given?]
  split
  · next h => simp [h]
  · next h => simp [h]

theorem good_iff {members : List (String × Document)} {key : String} (hd : d.Ordered)
    (h : d.get? category = some (.object members)) :
    Good read category d n key e ↔ ∃ v, (key, v) ∈ members ∧ given? read n (key, v) = some e := by
  constructor
  · rintro ⟨hkey, v, hv, hread⟩
    obtain ⟨members', h', hmem⟩ := (Document.member?_eq_some_iff hd).1 hv
    obtain rfl : members' = members := by simpa [h] using h'.symm
    exact ⟨v, hmem, given?_eq_some_iff.2 ⟨hkey, hread⟩⟩
  · rintro ⟨v, hmem, hgiven⟩
    obtain ⟨hkey, hread⟩ := given?_eq_some_iff.1 hgiven
    exact ⟨hkey, v, (Document.member?_eq_some_iff hd).2 ⟨members, h, hmem⟩, hread⟩

theorem not_good {key : String} (h : ∀ members, d.get? category ≠ some (.object members))
    (hd : d.Ordered) : ¬Good read category d n key e := by
  rintro ⟨-, v, hv, -⟩
  obtain ⟨members, hmembers, -⟩ := (Document.member?_eq_some_iff hd).1 hv
  exact h members hmembers

theorem reflects_ofCategory (read : Draft → Option β) (category : String) (hd : d.Ordered) :
    Reflects read category d (ofCategory read category d) := by
  by_cases h : ∃ members, d.get? category = some (.object members)
  · obtain ⟨members, hmembers⟩ := h
    have hlist : ofCategory read category d = ofMembers read members := by
      rw [ofCategory, hmembers]
    have hsorted : Document.Sorted members := (Document.ordered_of_get? hd hmembers).1
    rw [hlist]
    refine ⟨ascending_ofMembers read members, ?_, ?_, fun hnone => absurd hmembers (hnone members)⟩
    · intro n e
      rw [lookup_ofMembers, Document.getLast?_filterMap_iff hsorted]
      constructor
      · rintro ⟨⟨key, v⟩, hmem, hgiven, hlast⟩
        refine ⟨key, (good_iff hd hmembers).2 ⟨v, hmem, hgiven⟩, ?_⟩
        intro key' e' hgood hless
        obtain ⟨v', hmem', hgiven'⟩ := (good_iff hd hmembers).1 hgood
        have hnone := hlast (key', v') hmem' ((Text.lt_iff_bytes_lt _ _).2 hless)
        rw [hgiven'] at hnone
        cases hnone
      · rintro ⟨key, hgood, hlast⟩
        obtain ⟨v, hmem, hgiven⟩ := (good_iff hd hmembers).1 hgood
        refine ⟨(key, v), hmem, hgiven, ?_⟩
        rintro ⟨key', v'⟩ hmem' hless
        by_contra hne
        obtain ⟨e', he'⟩ := Option.ne_none_iff_exists'.1 hne
        exact hlast key' e' ((good_iff hd hmembers).2 ⟨v', hmem', he'⟩)
          ((Text.lt_iff_bytes_lt _ _).1 hless)
    · intro n
      rw [lookup_ofMembers, List.getLast?_eq_none_iff, List.filterMap_eq_nil_iff]
      constructor
      · intro hnone key e hgood
        obtain ⟨v, hmem, hgiven⟩ := (good_iff hd hmembers).1 hgood
        rw [hnone _ hmem] at hgiven
        cases hgiven
      · rintro hnone ⟨key, v⟩ hmem
        by_contra hne
        obtain ⟨e, he⟩ := Option.ne_none_iff_exists'.1 hne
        exact hnone key e ((good_iff hd hmembers).2 ⟨v, hmem, he⟩)
  · have hnone : ∀ members, d.get? category ≠ some (.object members) := not_exists.1 h
    have hlist : ofCategory read category d = [] := by
      rw [ofCategory]
      split
      · next members hmembers => exact absurd hmembers (hnone members)
      · rfl
    rw [hlist]
    refine ⟨List.Pairwise.nil, ?_, ?_, fun _ => rfl⟩
    · intro n e
      constructor
      · intro hlookup
        cases hlookup
      · rintro ⟨key, hgood, -⟩
        exact absurd hgood (not_good hnone hd)
    · exact fun n => ⟨fun _ key e => not_good hnone hd, fun _ => rfl⟩

/-- What is listed under a number is told by what stands under the keys for it. -/
theorem Reflects.lookup_eq {l' : Listing β} (h : Reflects read category d l)
    (h' : Reflects read category d' l')
    (hkeys : ∀ key, Names key n → d.member? category key = d'.member? category key) :
    l.lookup n = l'.lookup n := by
  have hgood : ∀ key e, Good read category d n key e ↔ Good read category d' n key e := by
    intro key e
    constructor
    · rintro ⟨hkey, v, hv, hread⟩
      exact ⟨hkey, v, (hkeys key hkey).symm.trans hv, hread⟩
    · rintro ⟨hkey, v, hv, hread⟩
      exact ⟨hkey, v, (hkeys key hkey).trans hv, hread⟩
  apply Option.ext
  intro e
  rw [h.some_iff, h'.some_iff]
  simp only [hgood]

end Listing

/-! ### Inventories -/

namespace Inventory

open Listing (Names)

variable {d d' : Document} {i i' : Inventory} {n : UInt16}

/-- An inventory of exactly the good entries of a document. -/
structure Reflects (d : Document) (i : Inventory) : Prop where
  groups : Listing.Reflects GroupEntry.ofDraft? "groups" d i.groups
  lights : Listing.Reflects LightEntry.ofDraft? "lights" d i.lights

theorem ofDocument_of_ne (h : ∀ items, d ≠ .array items) :
    ofDocument d = .ok {
      groups := Listing.ofCategory GroupEntry.ofDraft? "groups" d
      lights := Listing.ofCategory LightEntry.ofDraft? "lights" d } := by
  cases d with
  | array items => exact absurd rfl (h items)
  | null | bool | number | text | object => rfl

theorem reflects_ofDocument (hd : d.Ordered) (h : ofDocument d = .ok i) : Reflects d i := by
  have hne : ∀ items, d ≠ .array items := by
    rintro items rfl
    cases h
  rw [ofDocument_of_ne hne] at h
  cases h
  exact ⟨Listing.reflects_ofCategory _ _ hd, Listing.reflects_ofCategory _ _ hd⟩

/-- What comes of a text. -/
theorem parse_cases (s : String) :
    (Document.read s = none ∧ parse s = .error .unreadable) ∨
    (∃ items, Document.read s = some (.array items) ∧ parse s = .error .unauthorized) ∨
    ∃ d i, Document.read s = some d ∧ (∀ items, d ≠ .array items) ∧ ofDocument d = .ok i ∧
      parse s = .ok i := by
  rw [parse]
  cases hread : Document.read s with
  | none => exact Or.inl ⟨rfl, rfl⟩
  | some d =>
    by_cases hd : ∃ items, d = .array items
    · obtain ⟨items, rfl⟩ := hd
      exact Or.inr (Or.inl ⟨items, rfl, rfl⟩)
    · have hne : ∀ items, d ≠ .array items := not_exists.1 hd
      exact Or.inr (Or.inr ⟨d, _, rfl, hne, ofDocument_of_ne hne, ofDocument_of_ne hne⟩)

/-- A text is refused as unreadable exactly if it is no document, and as unauthorized exactly if it
is an array; any other document is an inventory of its good entries. What is listed under a number
depends on nothing but the values under the keys for it in its category: neither on other
entries, good or bad, nor on the other category, nor on any other member. -/
theorem lists_last_good :
    (∀ s, (parse s = .error .unreadable ↔ Document.read s = none) ∧
      (parse s = .error .unauthorized ↔ ∃ items, Document.read s = some (.array items)) ∧
      ((∃ i, parse s = .ok i) ↔ ∃ d, Document.read s = some d ∧ ∀ items, d ≠ .array items) ∧
      ∀ i, parse s = .ok i → ∃ d, Document.read s = some d ∧ d.Ordered ∧ i.Reflects d) ∧
    ∀ d d' i i', d.Ordered → d'.Ordered → ofDocument d = .ok i → ofDocument d' = .ok i' → ∀ n,
      ((∀ key, Names key n → d.member? "groups" key = d'.member? "groups" key) →
        i.groups.lookup n = i'.groups.lookup n) ∧
      ((∀ key, Names key n → d.member? "lights" key = d'.member? "lights" key) →
        i.lights.lookup n = i'.lights.lookup n) := by
  constructor
  · intro s
    rcases parse_cases s with ⟨hread, hparse⟩ | ⟨items, hread, hparse⟩ |
      ⟨d, i, hread, hne, hi, hparse⟩
    · simp [hread, hparse]
    · simp [hread, hparse]
    · have hordered : d.Ordered := (Document.settled_of_read hread).1
      refine ⟨by simp [hread, hparse], by simp [hread, hparse, hne], by simp [hread, hparse, hne],
        ?_⟩
      intro j hj
      obtain rfl : i = j := Except.ok.inj (hparse.symm.trans hj)
      exact ⟨d, hread, hordered, reflects_ofDocument hordered hi⟩
  · intro d d' i i' hd hd' hi hi' n
    have h := reflects_ofDocument hd hi
    have h' := reflects_ofDocument hd' hi'
    exact ⟨h.groups.lookup_eq h'.groups, h.lights.lookup_eq h'.lights⟩

/-- Three keys stand for one number. The last of them has no good entry, so the one before it
counts, and it still does when there are a group and other lights. -/
theorem lists_last_good_of_three :
    let text := "\x7b\"lights\":\x7b\"1\":\x7b\"name\":null\x7d,\"01\":\x7b\"name\":\"B\"\x7d," ++
      "\"+1\":\x7b\"name\":\"A\"\x7d\x7d\x7d"
    let bad : Document := .object [("name", .null)]
    let three : List (String × Document) := [("+1", .object [("name", .text "A")]),
      ("01", .object [("name", .text "B")]), ("1", bad)]
    let d : Document := .object [("lights", .object three)]
    let d' : Document := .object [("groups", .object [("1", bad)]),
      ("lights", .object (three ++ [("2", bad), ("x", .null)]))]
    (∃ i r, parse text = .ok i ∧ (i.lights.lookup 1).map (·.name) = some "B" ∧
      Document.read text = some r ∧ r.Ordered ∧ i.Reflects r) ∧
    d.Ordered ∧ d'.Ordered ∧ ∃ i j, ofDocument d = .ok i ∧ ofDocument d' = .ok j ∧
      (i.lights.lookup 1).map (·.name) = some "B" ∧ j.lights.lookup 1 = i.lights.lookup 1 := by
  intro text bad three d d'
  have hparse : ((parse text).toOption.any fun i =>
      (i.lights.lookup 1).map (·.name) == some "B") = true := by decide +kernel
  have hd : d.Ordered := by
    simp only [d, three, bad, Document.Ordered, Document.OrderedMembers, Document.Sorted]
    decide +kernel
  have hd' : d'.Ordered := by
    simp only [d', three, bad, Document.Ordered, Document.OrderedMembers, Document.Sorted,
      List.cons_append, List.nil_append]
    decide +kernel
  have hi := ofDocument_of_ne (d := d) (by simp [d])
  have hj := ofDocument_of_ne (d := d') (by simp [d'])
  refine ⟨?text, hd, hd', _, _, hi, hj, by decide +kernel, ?same⟩
  case text =>
    obtain ⟨i, hi, hname⟩ := (Option.any_eq_true _ _).1 hparse
    have hok : parse text = .ok i := by
      cases h : parse text with
      | ok j =>
        rw [h] at hi
        exact congrArg Except.ok (Option.some.inj hi)
      | error e =>
        rw [h] at hi
        cases hi
    obtain ⟨r, hread, hordered, hreflects⟩ := (lists_last_good.1 text).2.2.2 i hok
    exact ⟨i, r, hok, beq_iff_eq.1 hname, hread, hordered, hreflects⟩
  case same =>
    refine (lists_last_good.2 d' d _ _ hd' hd hj hi 1).2 ?_
    intro key hkey
    have htwo : key ≠ "2" := by
      rintro rfl
      revert hkey
      decide +kernel
    have hx : key ≠ "x" := by
      rintro rfl
      revert hkey
      decide +kernel
    show (three ++ [("2", bad), ("x", .null)]).lookup key = three.lookup key
    simp [List.lookup_append, List.lookup_cons, beq_eq_false_iff_ne.2 htwo,
      beq_eq_false_iff_ne.2 hx]

end Inventory

end LightBridge
