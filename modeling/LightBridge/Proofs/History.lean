import LightBridge.Bridge.Request
import LightBridge.Proofs.Splits
import Mathlib.Data.List.Induction

/-! What a history tells after any number of exchanges. The entries are the latest exchanges, as
many as there is room for, and what is told of them by route and by kind is told of these alone. The
failures and the last body sent to a route are those of all exchanges, whether an entry is left of
them or not. -/

namespace LightBridge

/-- An exchange that is over: what it was for and how it ended. -/
structure Finished where
  kind : ExchangeKind
  route : String
  body : Document
  result : Except Fault Unit
  /-- What others said of the failure. -/
  cause : Option String := none
  elapsed : Float := 0.0

namespace Finished

/-- The entry that is recorded of it. -/
def exchange (f : Finished) : Exchange :=
  { kind := f.kind
    route := f.route
    body := f.body
    error := Exchange.errorText f.cause f.result
    elapsed := f.elapsed }

/-- Why it failed, if it did, in words. -/
def failure? (f : Finished) : Option String :=
  match f.result with
  | .ok _ => none
  | .error e => some (e.message f.cause)

def isCommandTo (route : String) (f : Finished) : Bool := f.kind == .command && f.route == route

@[simp] theorem error_exchange (f : Finished) : f.exchange.error = f.failure? := by
  obtain ⟨kind, route, body, result, cause, elapsed⟩ := f
  cases result <;> rfl

/-- The failures there were, in order. -/
def failures (fs : List Finished) : List String := fs.filterMap failure?

/-- The body of the latest command to a route. -/
def lastSent? (route : String) (fs : List Finished) : Option Document :=
  (fs.filter (isCommandTo route)).getLast?.map (·.body)

theorem failures_concat (fs : List Finished) (f : Finished) :
    failures (fs ++ [f]) = failures fs ++ f.failure?.toList := by
  rw [failures, List.filterMap_append, failures]
  cases h : f.failure? with
  | none => simp [h]
  | some e => simp [h]

theorem lastSent?_concat (route : String) (fs : List Finished) (f : Finished) :
    lastSent? route (fs ++ [f]) =
      if f.isCommandTo route then some f.body else lastSent? route fs := by
  rw [lastSent?, List.filter_append, lastSent?]
  cases h : f.isCommandTo route with
  | false => simp [h]
  | true => simp [h]

end Finished

/-- The last entries of a list, at most `c`. -/
def latest {β : Type} (c : Nat) (l : List β) : List β := l.drop (l.length - c)

section

variable {β γ : Type} (c : Nat) (l : List β)

theorem length_latest : (latest c l).length = min l.length c := by
  rw [latest, List.length_drop]
  omega

theorem latest_map (f : β → γ) : latest c (l.map f) = (latest c l).map f := by
  rw [latest, latest, List.length_map, List.map_drop]

/-- If one of the last entries satisfies a condition, the last of all that do is among them. -/
theorem getLast?_filter_latest {p : β → Bool} (h : (latest c l).filter p ≠ []) :
    ((latest c l).filter p).getLast? = (l.filter p).getLast? := by
  have hsplit : l.filter p = (l.take (l.length - c)).filter p ++ (latest c l).filter p := by
    rw [latest, ← List.filter_append, List.take_append_drop]
  rw [hsplit, List.getLast?_append, List.getLast?_eq_some_getLast h, Option.some_or]

end

namespace History

open Finished (lastSent? exchange isCommandTo)

variable {c : Nat} {fs : List Finished} {h : History}

/-- The history of exchanges that were recorded one after the other. -/
def after (c : Nat) (fs : List Finished) : History :=
  fs.foldl (fun h f => h.record f.exchange) { capacity := c }

/-! ### One more exchange -/

theorem push_latest (c : Nat) (es : List Exchange) (e : Exchange) :
    push c (latest c es) e = latest c (es ++ [e]) := by
  have hlength := length_latest c es
  rw [push, hlength]
  have hall : (es ++ [e]).length = es.length + 1 := by simp
  split
  · next hnone => rw [latest, hall, hnone, Nat.sub_zero, ← hall, List.drop_length]
  · next hsome =>
    split
    · next hfull =>
      -- The list was cut at some place, and is cut one further.
      have hcut : es.length + 1 - c = es.length - c + 1 := by omega
      have hwithin : es.length - c + 1 ≤ es.length := by omega
      rw [latest, latest, hall, hcut, List.drop_append_of_le_length hwithin, List.drop_drop]
    · next hroom =>
      have hbefore : es.length - c = 0 := by omega
      have hafter : es.length + 1 - c = 0 := by omega
      rw [latest, latest, hall, hbefore, hafter, List.drop_zero, List.drop_zero]

theorem capacity_foldl (h : History) (es : List Exchange) :
    (es.foldl record h).capacity = h.capacity := by
  induction es generalizing h with
  | nil => rfl
  | cons e es ih => exact ih (h.record e)

/-- A history that had room for its entries holds the last ones of them and of what was recorded
since. -/
theorem entries_foldl (h : History) (hroom : h.entries.length ≤ h.capacity) (es : List Exchange) :
    (es.foldl record h).entries = latest h.capacity (h.entries ++ es) := by
  induction es using List.reverseRecOn with
  | nil =>
    have hall : h.entries.length - h.capacity = 0 := Nat.sub_eq_zero_of_le hroom
    rw [List.append_nil, latest, hall, List.drop_zero]
    rfl
  | append_singleton es e ih =>
    rw [List.foldl_append, ← List.append_assoc, ← push_latest, ← ih]
    show push (es.foldl record h).capacity _ e = _
    rw [capacity_foldl]

theorem lookup_setCommand (route r : String) (body : Document) (cs : List (String × Document)) :
    (setCommand route body cs).lookup r = if r = route then some body else cs.lookup r := by
  induction cs with
  | nil => exact lookup_cons_ite r (route, body) []
  | cons x cs ih =>
    rw [setCommand]
    split
    · next hx =>
      rw [lookup_cons_ite, lookup_cons_ite, hx]
      split
      · rfl
      · rfl
    · next hx =>
      rw [lookup_cons_ite, lookup_cons_ite, ih]
      by_cases hr : r = x.1
      · have hne : r ≠ route := fun h => hx (hr.symm.trans h)
        rw [if_pos hr, if_neg hne, if_pos hr]
      · rw [if_neg hr, if_neg hr]

theorem lastCommand?_record (h : History) (f : Finished) (route : String) :
    (h.record f.exchange).lastCommand? route =
      if f.isCommandTo route then some f.body else h.lastCommand? route := by
  cases hkind : f.kind with
  | inventory =>
    have hkept : (h.record f.exchange).commands = h.commands := if_neg (by simp [exchange, hkind])
    have hnot : f.isCommandTo route = false := by simp [isCommandTo, hkind]
    rw [lastCommand?, hkept, hnot]
    rfl
  | command =>
    have hset : (h.record f.exchange).commands = setCommand f.route f.body h.commands :=
      if_pos hkind
    rw [lastCommand?, hset, lookup_setCommand]
    by_cases hroute : f.route = route
    · rw [if_pos hroute.symm, if_pos (by simp [isCommandTo, hkind, hroute])]
    · rw [if_neg (Ne.symm hroute), if_neg (by simp [isCommandTo, hroute])]
      rfl

/-! ### All exchanges -/

/-- What a history holds after exchanges, if it has room for `c`. -/
structure Reflects (c : Nat) (fs : List Finished) (h : History) : Prop where
  capacity_eq : h.capacity = c
  entries_eq : h.entries = (latest c fs).map Finished.exchange
  lastCommand_eq : ∀ route, h.lastCommand? route = lastSent? route fs
  failures_eq : h.failures = (Finished.failures fs).length
  lastError_eq : h.lastError = (Finished.failures fs).getLast?

theorem reflects_nil (c : Nat) : Reflects c [] { capacity := c } where
  capacity_eq := rfl
  entries_eq := by simp [latest]
  lastCommand_eq := fun _ => rfl
  failures_eq := rfl
  lastError_eq := rfl

theorem Reflects.concat (hfs : Reflects c fs h) (f : Finished) :
    Reflects c (fs ++ [f]) (h.record f.exchange) where
  capacity_eq := hfs.capacity_eq
  entries_eq := by
    show push h.capacity h.entries f.exchange = _
    rw [hfs.capacity_eq, hfs.entries_eq, ← latest_map, push_latest, ← latest_map, List.map_append]
    rfl
  lastCommand_eq := by
    intro route
    rw [lastCommand?_record, Finished.lastSent?_concat, hfs.lastCommand_eq]
  failures_eq := by
    show (if f.exchange.isSuccess then h.failures else h.failures + 1) = _
    rw [Finished.failures_concat, Exchange.isSuccess, Finished.error_exchange, hfs.failures_eq]
    cases f.failure? with
    | none => simp
    | some e => simp
  lastError_eq := by
    show (if f.exchange.isSuccess then h.lastError else f.exchange.error) = _
    rw [Finished.failures_concat, Exchange.isSuccess, Finished.error_exchange, hfs.lastError_eq]
    cases f.failure? with
    | none => simp
    | some e => simp

theorem reflects_after (c : Nat) (fs : List Finished) : Reflects c fs (after c fs) := by
  induction fs using List.reverseRecOn with
  | nil => exact reflects_nil c
  | append_singleton fs f ih =>
    rw [after, List.foldl_append]
    exact ih.concat f

theorem commandsTo_of_reflects (hfs : Reflects c fs h) (route : String) :
    h.commandsTo route = ((latest c fs).filter (isCommandTo route)).map (·.body) := by
  rw [commandsTo, hfs.entries_eq, List.filter_map, List.map_map]
  rfl

theorem count_of_reflects (hfs : Reflects c fs h) (kind : ExchangeKind) :
    h.count kind = (latest c fs).countP (·.kind == kind) := by
  rw [count, hfs.entries_eq, List.filter_map, List.length_map, List.countP_eq_length_filter]
  rfl

/-- The entries of a history are the latest exchanges, as many as there is room for, and what it
says of a route or of a kind is what these say. Of failures, and of the last command to a route, it
tells whether an entry is left of them or not; so the last of the commands it still has for a route
is the last one there was. -/
theorem keeps_latest_tells_all (c : Nat) (fs : List Finished) :
    let h := after c fs
    let kept := latest c fs
    kept <:+ fs ∧ kept.length = min fs.length c ∧
    h.entries = kept.map exchange ∧
    (∀ route, h.commandsTo route = (kept.filter (isCommandTo route)).map (·.body)) ∧
    h.summary =
      { inventories := .ofNat (kept.countP (·.kind == .inventory))
        commands := .ofNat (kept.countP (·.kind == .command))
        failures := .ofNat (Finished.failures fs).length
        lastError := (Finished.failures fs).getLast? } ∧
    h.failures = (Finished.failures fs).length ∧
    h.lastError = (Finished.failures fs).getLast? ∧
    (∀ route, h.lastCommand? route = lastSent? route fs) ∧
    ∀ route, h.commandsTo route ≠ [] → (h.commandsTo route).getLast? = h.lastCommand? route := by
  intro h kept
  have hfs : Reflects c fs h := reflects_after c fs
  have hcommands : ∀ route, h.commandsTo route = _ := commandsTo_of_reflects hfs
  refine ⟨List.drop_suffix _ _, length_latest c fs, hfs.entries_eq, hcommands, ?_, hfs.failures_eq,
    hfs.lastError_eq, hfs.lastCommand_eq, ?_⟩
  · rw [summary, count_of_reflects hfs, count_of_reflects hfs, hfs.failures_eq, hfs.lastError_eq]
  · intro route hne
    rw [hcommands] at hne ⊢
    have hkept : (latest c fs).filter (isCommandTo route) ≠ [] := by
      intro hnil
      exact hne (by rw [hnil, List.map_nil])
    rw [hfs.lastCommand_eq, lastSent?, List.getLast?_map, getLast?_filter_latest c fs hkept]

/-- There is room for two exchanges. A command that was refused is gone and remembered, and one of
two to another lamp is left. -/
theorem keeps_latest_tells_all_of_two :
    let sent (route : String) (bri : Nat) (result : Except Fault Unit) : Finished :=
      { kind := .command, route, body := .object [("bri", .nat bri)], result }
    let asked : Finished :=
      { kind := .inventory, route := "", body := .null, result := .error .unauthorized }
    let h := after 2 [sent "lights/1/state" 7 (.error (.refused 503)),
      sent "lights/2/state" 8 (.ok ()), sent "lights/2/state" 9 (.ok ()), asked]
    h.commandsTo "lights/2/state" ≠ [] ∧
      (h.commandsTo "lights/2/state").getLast? = h.lastCommand? "lights/2/state" ∧
      h.lastCommand? "lights/2/state" = some (.object [("bri", .nat 9)]) ∧
      h.commandsTo "lights/1/state" = [] ∧
      h.lastCommand? "lights/1/state" = some (.object [("bri", .nat 7)]) ∧
      h.lastError = some "authorization failed, username invalid" ∧ h.failures = 2 := by
  intro sent asked h
  obtain ⟨-, -, -, hcommands, -, hfailures, herror, hlast, hagree⟩ := keeps_latest_tells_all 2
    [sent "lights/1/state" 7 (.error (.refused 503)), sent "lights/2/state" 8 (.ok ()),
      sent "lights/2/state" 9 (.ok ()), asked]
  have hne : h.commandsTo "lights/2/state" ≠ [] := by
    rw [hcommands]
    exact List.cons_ne_nil _ _
  exact ⟨hne, hagree _ hne, hlast _, hcommands _, hlast _, herror, hfailures⟩

end History

end LightBridge
