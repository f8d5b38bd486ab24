import LightBridge.Proofs.Rig.Dialogue

/-! How a device takes the streaming of its group over from one session to the next. A session is
started when the bridge grants a claim that follows a reset, and nothing else is said until it opens
its socket; when the device is switched off, the group is handed back after the last session. -/

namespace LightBridge.Rig

variable {r : Rig} {p : Progress}

/-! ### From one session to the next -/

/-- There was a moment at which no session went on and `count` had been started. What the device has
said since is `words`. -/
def Since (fresh : Rig) (moves : List Move) (count : Nat) (words : List Word) : Prop :=
  ∃ before since q, moves = before ++ since ∧ fresh.run before = some q ∧
    q.1.isHeldBySession = false ∧ q.1.streams.length = count ∧ q.1.dialogue since = words

section

variable {fresh : Rig} {moves : List Move} {m : Move} {q : Progress} {count group : Nat}
  {words : List Word}

theorem Since.more (h : Since fresh moves count words) (hrun : fresh.run moves = some p)
    (hstep : p.1.step m = some q) : Since fresh (moves ++ [m]) count (words ++ said m q.2) := by
  obtain ⟨before, since, x, rfl, hbefore, hheld, hcount, hwords⟩ := h
  obtain ⟨y, more, hsame, hsince, -⟩ := run_append.1 hrun
  obtain rfl : x = y := Option.some_inj.1 (hbefore.symm.trans hsame)
  refine ⟨before, since ++ [m], x, by rw [List.append_assoc], hbefore, hheld, hcount, ?_⟩
  rw [dialogue_append hsince, dialogue_one hstep, hwords]

end

section

variable {fresh : Rig} {moves : List Move} {m : Move} {q : Progress} {group : UInt16}

end

/-! ### A device that hands its group back -/

section

variable {start : Rig} {moves : List Move} {notes : List Note} {group : UInt16}

end

/-! ### A whole run -/

section

variable {fresh : Rig} {moves : List Move} {notes : List Note}

end

end LightBridge.Rig
