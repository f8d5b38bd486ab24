import LightBridge.Color.Stored
import LightBridge.Endpoint
import LightBridge.History
import LightBridge.Inventory
import LightBridge.Proofs.Document.Fields
import LightBridge.Settings

/-! What is written as a document is read back. Doubles have to be finite, since a document has no
others. Settings are read back in part too: members that are missing leave the defaults, in whatever
order the others stand and whatever stands beside them. -/

namespace LightBridge

/-! ### Points and colours -/

/-- Whether all three components can be written. -/
structure Point.IsFinite (p : Point Float) : Prop where
  x : p.x.isFinite = true
  y : p.y.isFinite = true
  brightness : p.brightness.isFinite = true

structure Triangle.IsFinite (t : Triangle Float) : Prop where
  red : t.red.IsFinite
  green : t.green.IsFinite
  blue : t.blue.IsFinite

theorem Point.read_back {p : Point Float} (h : p.IsFinite) :
    Point.ofDraft? (.ofDocument p.toDocument) = some p := by
  obtain ⟨r, hr, hholds⟩ : ∃ r, Record.of? ["x", "y", "bri"] (.ofDocument p.toDocument) = some r ∧
    r.Holds _ _ := Record.holds_of_object (by simp) (by simp)
  have hx : r.required "x" Draft.float? = some p.x := hholds.required_eq rfl (Draft.float?_real h.x)
  have hy : r.required "y" Draft.float? = some p.y := hholds.required_eq rfl (Draft.float?_real h.y)
  have hbrightness : r.required "bri" Draft.float? = some p.brightness :=
    hholds.required_eq rfl (Draft.float?_real h.brightness)
  simp [ofDraft?, hr, hx, hy, hbrightness]

theorem Triangle.read_back {t : Triangle Float} (h : t.IsFinite) :
    Triangle.ofDraft? (.ofDocument t.toDocument) = some t := by
  obtain ⟨r, hr, hholds⟩ : ∃ r, Record.of? ["red", "green", "blue"] (.ofDocument t.toDocument) =
    some r ∧ r.Holds _ _ := Record.holds_of_object (by simp) (by simp)
  have hred : r.required "red" Point.ofDraft? = some t.red :=
    hholds.required_eq rfl (Point.read_back h.red)
  have hgreen : r.required "green" Point.ofDraft? = some t.green :=
    hholds.required_eq rfl (Point.read_back h.green)
  have hblue : r.required "blue" Point.ofDraft? = some t.blue :=
    hholds.required_eq rfl (Point.read_back h.blue)
  simp [ofDraft?, hr, hred, hgreen, hblue]

theorem Color.read_back (c : Color) : Color.ofDraft? (.ofDocument c.toDocument) = some c := by
  obtain ⟨r, hr, hholds⟩ : ∃ r, Record.of? ["red", "green", "blue"] (.ofDocument c.toDocument) =
    some r ∧ r.Holds _ _ := Record.holds_of_object (by simp) (by simp)
  have hred : r.required "red" Draft.uint8? = some c.red :=
    hholds.required_eq rfl (Draft.uint8?_nat c.red)
  have hgreen : r.required "green" Draft.uint8? = some c.green :=
    hholds.required_eq rfl (Draft.uint8?_nat c.green)
  have hblue : r.required "blue" Draft.uint8? = some c.blue :=
    hholds.required_eq rfl (Draft.uint8?_nat c.blue)
  simp [ofDraft?, hr, hred, hgreen, hblue]

/-! ### Bridges -/

theorem Endpoint.read_back (e : Endpoint) :
    Endpoint.ofDraft? (.ofDocument e.toDocument) = some e := by
  obtain ⟨r, hr, hholds⟩ : ∃ r, Record.of? ["output", "username", "clientkey", "groupId"]
    (.ofDocument e.toDocument) = some r ∧ r.Holds _ _ := Record.holds_of_object (by simp) (by simp)
  have hhost : r.required "output" Draft.text? = some e.host := hholds.required_eq rfl rfl
  have husername : r.required "username" Draft.text? = some e.username := hholds.required_eq rfl rfl
  have hkey : r.orElse "clientkey" (Draft.orNull? Draft.text?) none = some e.clientKey :=
    hholds.orElse_eq _ rfl (Draft.orNull?_getD (fun _ => rfl) (by simp))
  have hgroup : r.orElse "groupId" Draft.uint16? 0 = some e.group :=
    hholds.orElse_eq _ rfl (Draft.uint16?_nat e.group)
  simp [ofDraft?, hr, hhost, husername, hkey, hgroup]

/-! ### Inventories -/

/-- Whether the chromaticity can be written. -/
def LightReport.IsFinite (s : LightReport Float) : Prop :=
  ∀ p ∈ s.xy, p.1.isFinite = true ∧ p.2.isFinite = true

/-- The parts that are there. -/
def LightReport.members (s : LightReport Float) : List (String × Document) :=
  (s.bri.map fun b => ("bri", Document.nat b.toNat)).toList ++
    (s.on.map fun b => ("on", Document.bool b)).toList ++
    (s.transitionTime.map fun t => ("transitiontime", Document.nat t.toNat)).toList ++
    (s.xy.map fun p => ("xy", Document.array [.real p.1, .real p.2])).toList

theorem LightReport.lookup_members (s : LightReport Float) :
    s.members.lookup "on" = s.on.map Document.bool ∧
      s.members.lookup "xy" = s.xy.map (fun p => Document.array [.real p.1, .real p.2]) ∧
      s.members.lookup "bri" = s.bri.map (fun b => Document.nat b.toNat) ∧
      s.members.lookup "transitiontime" = s.transitionTime.map fun t => Document.nat t.toNat := by
  obtain ⟨_ | on, _ | xy, _ | bri, _ | time⟩ := s <;> exact ⟨rfl, rfl, rfl, rfl⟩

theorem LightReport.read_back {s : LightReport Float} (h : s.IsFinite) :
    LightReport.ofDraft? (.ofDocument s.toDocument) = some s := by
  have hmembers : (s.members.map (·.1)).Nodup ∧
      ∀ m ∈ s.members, ["on", "xy", "bri", "transitiontime"].contains m.1 = true := by
    obtain ⟨_ | on, _ | xy, _ | bri, _ | time⟩ := s <;> simp [members]
  obtain ⟨r, hr, hholds⟩ : ∃ r, Record.of? ["on", "xy", "bri", "transitiontime"]
    (.ofDocument s.toDocument) = some r ∧ r.Holds s.members _ :=
      Record.holds_of_object hmembers.1 hmembers.2
  obtain ⟨hon, hxy, hbri, htime⟩ := s.lookup_members
  have hon : r.optional "on" Draft.bool? = some s.on :=
    hholds.optional_of_map hon (fun _ _ => rfl) (by simp)
  have hxy : r.optional "xy" (Draft.pair? Draft.float?) = some s.xy :=
    hholds.optional_of_map hxy (fun p hp => Draft.pair?_array (Draft.float?_real (h p hp).1)
      (Draft.float?_real (h p hp).2)) (by simp)
  have hbri : r.optional "bri" Draft.uint8? = some s.bri :=
    hholds.optional_of_map hbri (fun b _ => Draft.uint8?_nat b) (by simp [Document.nat, Document.integer])
  have htime : r.optional "transitiontime" Draft.uint16? = some s.transitionTime :=
    hholds.optional_of_map htime (fun t _ => Draft.uint16?_nat t)
      (by simp [Document.nat, Document.integer])
  simp [ofDraft?, hr, hon, hxy, hbri, htime]

theorem LightEntry.read_back {e : LightEntry Float} (h : e.state.IsFinite) :
    LightEntry.ofDraft? (.ofDocument e.toDocument) = some e := by
  obtain ⟨r, hr, hholds⟩ : ∃ r, Record.of? ["state", "modelid", "name"] (.ofDocument e.toDocument) =
    some r ∧ r.Holds _ _ := Record.holds_of_object (by simp) (by simp)
  have hstate : r.orElse "state" LightReport.ofDraft? {} = some e.state :=
    hholds.orElse_eq _ rfl (LightReport.read_back h)
  have hmodel : r.orElse "modelid" Draft.text? "" = some e.model := hholds.orElse_eq _ rfl rfl
  have hname : r.orElse "name" Draft.text? "" = some e.name := hholds.orElse_eq _ rfl rfl
  simp [ofDraft?, hr, hstate, hmodel, hname]

theorem GroupEntry.read_back (g : GroupEntry) :
    GroupEntry.ofDraft? (.ofDocument g.toDocument) = some g := by
  obtain ⟨r, hr, hholds⟩ : ∃ r, Record.of? ["name", "type", "lights"] (.ofDocument g.toDocument) =
    some r ∧ r.Holds _ _ := Record.holds_of_object (by simp) (by simp)
  have hname : r.orElse "name" Draft.text? "" = some g.name := hholds.orElse_eq _ rfl rfl
  have hkind : r.orElse "type" Draft.text? "" = some g.kind := hholds.orElse_eq _ rfl rfl
  have hlights : r.orElse "lights" (Draft.list? Draft.text?) [] = some g.lights :=
    hholds.orElse_eq _ rfl (Draft.list?_array fun _ _ => rfl)
  simp [ofDraft?, hr, hname, hkind, hlights]

/-! ### Histories -/

theorem ExchangeKind.read_back (k : ExchangeKind) :
    ExchangeKind.ofDraft? (.ofDocument k.toDocument) = some k := by
  cases k <;> rfl

/-- Whether an exchange can be written and its body be read back in some room. -/
structure Exchange.IsStored (room : Nat) (e : Exchange) : Prop where
  body : e.body.Settled room
  elapsed : e.elapsed.isFinite = true

theorem Exchange.read_back {room : Nat} {e : Exchange} (h : e.IsStored room) :
    Exchange.ofDraftWithin? room (.ofDocument e.toDocument) = some e := by
  obtain ⟨r, hr, hholds⟩ : ∃ r, Record.of? ["kind", "route", "body", "error", "elapsed"]
    (.ofDocument e.toDocument) = some r ∧ r.Holds _ _ := Record.holds_of_object (by simp) (by simp)
  have hkind : r.required "kind" ExchangeKind.ofDraft? = some e.kind :=
    hholds.required_eq rfl e.kind.read_back
  have hroute : r.required "route" Draft.text? = some e.route := hholds.required_eq rfl rfl
  have hbody : r.required "body" (Draft.settle room) = some e.body :=
    hholds.required_eq rfl (Draft.settle_of_settled h.body)
  have herror : r.optional "error" Draft.text? = some e.error :=
    hholds.optional_eq rfl (Draft.orNull?_getD (fun _ => rfl) (by simp))
  have helapsed : r.required "elapsed" Draft.float? = some e.elapsed :=
    hholds.required_eq rfl (Draft.float?_real h.elapsed)
  simp [ofDraftWithin?, hr, hkind, hroute, hbody, herror, helapsed]

theorem HistorySummary.read_back (s : HistorySummary) :
    HistorySummary.ofDraft? (.ofDocument s.toDocument) = some s := by
  obtain ⟨r, hr, hholds⟩ : ∃ r, Record.of?
    ["inventory_count", "command_count", "failure_count", "last_error"]
    (.ofDocument s.toDocument) = some r ∧ r.Holds _ _ := Record.holds_of_object (by simp) (by simp)
  have hinventories : r.required "inventory_count" Draft.uint64? = some s.inventories :=
    hholds.required_eq rfl (Draft.uint64?_nat s.inventories)
  have hcommands : r.required "command_count" Draft.uint64? = some s.commands :=
    hholds.required_eq rfl (Draft.uint64?_nat s.commands)
  have hfailures : r.required "failure_count" Draft.uint64? = some s.failures :=
    hholds.required_eq rfl (Draft.uint64?_nat s.failures)
  have herror : r.optional "last_error" Draft.text? = some s.lastError :=
    hholds.optional_eq rfl (Draft.orNull?_getD (fun _ => rfl) (by simp))
  simp [ofDraft?, hr, hinventories, hcommands, hfailures, herror]

/-! ### Settings -/

namespace StreamSettings

variable {s : StreamSettings} {S : String → Bool} {r : Record} {stored : List (String × Document)}

/-- The settings whose names are in `S`, and the defaults of the others. -/
def restricted (S : String → Bool) (s : StreamSettings) : StreamSettings :=
  let standard : StreamSettings := {}
  { udpPort := if S "sslport" then s.udpPort else standard.udpPort
    handshakeAttempts := if S "hs_attempts" then s.handshakeAttempts else standard.handshakeAttempts
    handshakeTimeoutMin :=
      if S "hs_timeout_min" then s.handshakeTimeoutMin else standard.handshakeTimeoutMin
    handshakeTimeoutMax :=
      if S "hs_timeout_max" then s.handshakeTimeoutMax else standard.handshakeTimeoutMax
    handshakeRetryDelay :=
      if S "hs_retry_delay" then s.handshakeRetryDelay else standard.handshakeRetryDelay
    writeRetries := if S "retry_left" then s.writeRetries else standard.writeRetries
    writeTimeout := if S "write_timeout" then s.writeTimeout else standard.writeTimeout
    tick := if S "latchTime" then s.tick else standard.tick }

/-- The settings are found among others. -/
theorem ofRecord?_eq (h : r.Holds stored S)
    (hstored : ∀ name v, s.members.lookup name = some v → stored.lookup name = some v) :
    ofRecord? r = some (s.restricted S) := by
  simp only [ofRecord?, Option.bind_eq_bind, Option.bind_some, Option.pure_def,
    h.orElse_eq "sslport" (hstored _ _ rfl) (Draft.uint16?_nat s.udpPort),
    h.orElse_eq "hs_attempts" (hstored _ _ rfl) (Draft.uint32?_nat s.handshakeAttempts),
    h.orElse_eq "hs_timeout_min" (hstored _ _ rfl) (Draft.uint64?_nat s.handshakeTimeoutMin),
    h.orElse_eq "hs_timeout_max" (hstored _ _ rfl) (Draft.uint64?_nat s.handshakeTimeoutMax),
    h.orElse_eq "hs_retry_delay" (hstored _ _ rfl) (Draft.uint64?_nat s.handshakeRetryDelay),
    h.orElse_eq "retry_left" (hstored _ _ rfl) (Draft.uint32?_nat s.writeRetries),
    h.orElse_eq "write_timeout" (hstored _ _ rfl) (Draft.uint64?_nat s.writeTimeout),
    h.orElse_eq "latchTime" (hstored _ _ rfl) (Draft.uint64?_nat s.tick)]
  rfl

theorem read_part {members : List (String × Document)}
    (h : (members.filter fun m => names.contains m.1).Perm (s.members.filter fun m => S m.1)) :
    ofDraft? (.ofDocument (.object members)) = some (s.restricted S) := by
  have hnodup : (s.members.map (·.1)).Nodup := by
    change names.Nodup
    decide
  obtain ⟨r, hr, hholds⟩ := Record.holds_of_perm hnodup h
  have hread : Record.of? names (.ofDocument (.object members)) = some r := by
    change (Record.named? (Draft.ofMembers members)).bind (Record.ofMembers? names) = some r
    rw [Record.named?_ofMembers, Option.bind_some, hr]
  rw [ofDraft?, hread, Option.bind_some, ofRecord?_eq hholds fun _ _ => id]

end StreamSettings

namespace DeviceSettings

variable {s : DeviceSettings} {S : String → Bool} {members : List (String × Document)} {room : Nat}

structure IsFinite (s : DeviceSettings) : Prop where
  factor : s.brightnessFactor.isFinite = true
  min : s.brightnessMin.isFinite = true
  max : s.brightnessMax.isFinite = true

/-- The settings whose names are in `S`, and the defaults of the others. -/
def restricted (S : String → Bool) (s : DeviceSettings) : DeviceSettings :=
  let standard : DeviceSettings := {}
  { lightIds := if S "lightIds" then s.lightIds else standard.lightIds
    switchOffOnBlack := if S "switchOffOnBlack" then s.switchOffOnBlack else standard.switchOffOnBlack
    transitionTime := if S "transitiontime" then s.transitionTime else standard.transitionTime
    brightnessFactor := if S "brightnessFactor" then s.brightnessFactor else standard.brightnessFactor
    brightnessMin := if S "brightnessMin" then s.brightnessMin else standard.brightnessMin
    brightnessMax := if S "brightnessMax" then s.brightnessMax else standard.brightnessMax
    streaming := if S "streaming" then s.streaming else standard.streaming
    stream := s.stream.restricted S }

theorem nodup_members (s : DeviceSettings) : (s.members.map (·.1)).Nodup := by
  change (names ++ StreamSettings.names).Nodup
  decide

/-- The settings of the stream stand beside those of the device. -/
theorem lookup_stream {name : String} {v : Document} (h : s.stream.members.lookup name = some v) :
    s.members.lookup name = some v := by
  have hnodup := s.nodup_members
  rw [members, List.map_append] at hnodup
  have hmem := (lookup_eq_some_iff_mem (List.nodup_append.1 hnodup).2.1 v).1 h
  exact (lookup_eq_some_iff_mem s.nodup_members v).2 (List.mem_append_right _ hmem)

theorem ofRecord?_eq {r : Record} (hfinite : s.IsFinite) (h : r.Holds s.members S) :
    ofRecord? r = some (s.restricted S) := by
  simp only [ofRecord?, Option.bind_eq_bind, Option.bind_some, Option.pure_def,
    h.orElse_eq "lightIds" rfl (Draft.list?_array fun id _ => Draft.uint16?_nat id),
    h.orElse_eq "switchOffOnBlack" rfl (Draft.bool?_bool s.switchOffOnBlack),
    h.orElse_eq "transitiontime" rfl (Draft.uint16?_nat s.transitionTime),
    h.orElse_eq "brightnessFactor" rfl (Draft.float?_real hfinite.factor),
    h.orElse_eq "brightnessMin" rfl (Draft.float?_real hfinite.min),
    h.orElse_eq "brightnessMax" rfl (Draft.float?_real hfinite.max),
    h.orElse_eq "streaming" rfl (Draft.bool?_bool s.streaming),
    StreamSettings.ofRecord?_eq h fun _ _ => lookup_stream]
  rfl

theorem read_part (hfinite : s.IsFinite)
    (h : (members.filter fun m => (names ++ StreamSettings.names).contains m.1).Perm
      (s.members.filter fun m => S m.1))
    (hroom : ∀ m ∈ members, m.1 ∉ names → m.2.depth ≤ room) :
    ofDraftWithin? room (.ofDocument (.object members)) = some (s.restricted S) := by
  obtain ⟨r, hr, hholds⟩ := Record.holds_of_perm s.nodup_members h
  have hothers : (members.map fun m => (m.1, Draft.ofDocument m.2)).filter (fun m =>
      !names.contains m.1) = (members.filter fun m => !names.contains m.1).map fun m =>
        (m.1, .ofDocument m.2) := List.filter_map
  have hfits : ∀ m ∈ members.filter fun m => !names.contains m.1, m.2.depth ≤ room := by
    intro m hm
    obtain ⟨hmem, hother⟩ := List.mem_filter.1 hm
    exact hroom m hmem (by simpa using hother)
  obtain ⟨ds, hds⟩ := Record.settle_members hfits
  simp only [Draft.ofDocument, ofDraftWithin?, Record.named?_ofMembers, hr, hothers, hds,
    Option.bind_eq_bind, Option.bind_some, ofRecord?_eq hfinite hholds]

end DeviceSettings

/-- Settings are read from any part of what they are written as, and everything else is read back as
it was. -/
theorem written_is_read_back :
    (∀ (s : DeviceSettings) (S : String → Bool) (members : List (String × Document)) (room : Nat),
      s.IsFinite →
      (members.filter fun m => (DeviceSettings.names ++ StreamSettings.names).contains m.1).Perm
        (s.members.filter fun m => S m.1) →
      (∀ m ∈ members, m.1 ∉ DeviceSettings.names → m.2.depth ≤ room) →
      DeviceSettings.ofDraftWithin? room (.ofDocument (.object members)) = some (s.restricted S)) ∧
    (∀ (s : StreamSettings) (S : String → Bool) (members : List (String × Document)),
      (members.filter fun m => StreamSettings.names.contains m.1).Perm
        (s.members.filter fun m => S m.1) →
      StreamSettings.ofDraft? (.ofDocument (.object members)) = some (s.restricted S)) ∧
    (∀ e : Endpoint, Endpoint.ofDraft? (.ofDocument e.toDocument) = some e) ∧
    (∀ p : Point Float, p.IsFinite → Point.ofDraft? (.ofDocument p.toDocument) = some p) ∧
    (∀ t : Triangle Float, t.IsFinite → Triangle.ofDraft? (.ofDocument t.toDocument) = some t) ∧
    (∀ c : Color, Color.ofDraft? (.ofDocument c.toDocument) = some c) ∧
    (∀ s : LightReport Float, s.IsFinite →
      LightReport.ofDraft? (.ofDocument s.toDocument) = some s) ∧
    (∀ e : LightEntry Float, e.state.IsFinite →
      LightEntry.ofDraft? (.ofDocument e.toDocument) = some e) ∧
    (∀ g : GroupEntry, GroupEntry.ofDraft? (.ofDocument g.toDocument) = some g) ∧
    (∀ (room : Nat) (e : Exchange), e.IsStored room →
      Exchange.ofDraftWithin? room (.ofDocument e.toDocument) = some e) ∧
    ∀ s : HistorySummary, HistorySummary.ofDraft? (.ofDocument s.toDocument) = some s :=
  ⟨fun _ _ _ _ hfinite hmembers hroom => DeviceSettings.read_part hfinite hmembers hroom,
    fun _ _ _ hmembers => StreamSettings.read_part hmembers, Endpoint.read_back,
    fun _ h => Point.read_back h, fun _ h => Triangle.read_back h, Color.read_back,
    fun _ h => LightReport.read_back h, fun _ h => LightEntry.read_back h, GroupEntry.read_back,
    fun _ _ h => Exchange.read_back h, HistorySummary.read_back⟩

/-- Two of the settings stand in another order and beside a member that nobody knows. -/
theorem written_is_read_back_in_part :
    let s : DeviceSettings := { lightIds := [2, 1], brightnessMin := 0.25, stream := { tick := 20 } }
    let members : List (String × Document) := [("latchTime", .nat 20), ("latch", .array [.null]),
      ("lightIds", .array [.nat 2, .nat 1])]
    s.IsFinite ∧ DeviceSettings.ofDraft? (.ofDocument (.object members)) =
      some { lightIds := [2, 1], stream := { tick := 20 } } := by
  intro s members
  have hfinite : s.IsFinite := ⟨by decide +kernel, by decide +kernel, by decide +kernel⟩
  have hmembers : (members.filter fun m =>
      (DeviceSettings.names ++ StreamSettings.names).contains m.1).Perm
        (s.members.filter fun m => ["lightIds", "latchTime"].contains m.1) := List.Perm.swap _ _ []
  have hroom : ∀ m ∈ members, m.1 ∉ DeviceSettings.names → m.2.depth ≤ Draft.maxDepth - 1 := by
    simp [members, Document.depth, Document.depthItems, Draft.maxDepth, Document.nat,
      Document.integer]
  exact ⟨hfinite, written_is_read_back.1 s _ members _ hfinite hmembers hroom⟩

end LightBridge
