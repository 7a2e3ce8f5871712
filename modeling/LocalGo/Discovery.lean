import LocalGo.Model

/-!
# Device discovery: the listener's and the service's registries

`MulticastDiscovery.handlePacket` turns each datagram from another device into a `model.Device`
and passes it to `MulticastDiscovery.updateDevice`, which keeps the first object it is given for
each fingerprint and only refreshes that object's `LastSeen` on later sightings. A first sighting
also starts one goroutine per registered handler; `Service.Start` registers one, which calls
`Service.updateDevice` and so stores the same object in the service's registry. Both registries
hold `*model.Device` pointers, so the objects live here in a heap (`Node.heap`) that the two maps
index into, and a later refresh made through the listener's map is seen through the service's.

Time is the node's clock in nanoseconds, passed to each operation as `now` (`time.Now()`).

* `Node`, `Node.handlePacket`, `Node.dispatch`, `Node.getDevices`, `Node.getDevice`: the state
  and the operations.
* `Listener`: a started service whose listener processes any datagrams in any order, with handler
  goroutines running at any later points, and a ghost log of the sightings it processed.
* `ListenerInv`: every registered object has the identity fields of its fingerprint's first
  sighting and the time of its latest one, and the service's registry points at the listener's
  object (`Listener.inv`).
* `getDevice_iff_recent_sighting`: once the first sighting's handler has run, the service returns
  the device exactly when it was sighted within `DeviceTimeout`; it never forgets it, and a new
  sighting makes it visible again with its first-seen identity fields.
-/

namespace LocalGo

/-- `*net.UDPAddr`: an IP and a port. -/
structure UdpAddr where
  ip : String
  port : Nat
  deriving DecidableEq, Repr

/-- `model.Device`. -/
structure Device where
  ip : String
  version : String
  port : Int
  «alias» : String
  protocol : String
  fingerprint : String
  deviceModel : Option String
  deviceType : String
  download : Bool
  /-- `LastSeen`, on the node's clock. -/
  lastSeen : Nat
  /-- `Available`, set with `LastSeen`. -/
  available : Bool
  deriving DecidableEq, Repr, Inhabited

namespace Device

/-- `model.FromMulticastDto(dto, ip)` at time `now`. -/
def fromMulticastDto (dto : MulticastDto) (ip : String) (now : Nat) : Device :=
  ⟨ip, dto.version, dto.port, dto.alias, dto.protocol, dto.fingerprint, dto.deviceModel,
    dto.deviceType, dto.download, now, true⟩

/-- `Device.UpdateLastSeen()` at time `now`. -/
def updateLastSeen (d : Device) (now : Nat) : Device :=
  { d with lastSeen := now, available := true }

/-- `Device.IsStale(staleThreshold)` at time `now`: `time.Since(d.LastSeen) > staleThreshold`.
The clock never runs behind a `LastSeen`, so the truncated subtraction is `time.Since`. -/
def isStale (d : Device) (staleThreshold now : Nat) : Bool :=
  decide (now - d.lastSeen > staleThreshold)

@[simp]
theorem fromMulticastDto_fingerprint (dto : MulticastDto) (ip : String) (now : Nat) :
    (fromMulticastDto dto ip now).fingerprint = dto.fingerprint := rfl

@[simp]
theorem updateLastSeen_fromMulticastDto (dto : MulticastDto) (ip : String) (t now : Nat) :
    (fromMulticastDto dto ip t).updateLastSeen now = fromMulticastDto dto ip now := rfl

@[simp]
theorem updateLastSeen_lastSeen (d : Device) (now : Nat) : (d.updateLastSeen now).lastSeen = now :=
  rfl

@[simp]
theorem fromMulticastDto_lastSeen (dto : MulticastDto) (ip : String) (now : Nat) :
    (fromMulticastDto dto ip now).lastSeen = now := rfl

end Device

/-- One device's discovery state after `Service.Start`. -/
structure Node where
  /-- `MulticastDiscovery.dto`: what this device announces. -/
  dto : MulticastDto
  /-- The number of functions in `MulticastDiscovery.handlers`. Each is the closure
  `Service.Start` registers, which calls `Service.updateDevice`. -/
  handlers : Nat
  /-- The `*model.Device` objects allocated so far. -/
  heap : List Device
  /-- `MulticastDiscovery.devices`: fingerprint to object. -/
  mdDevices : GoMap Nat
  /-- `Service.devices`: fingerprint to object. -/
  svcDevices : GoMap Nat
  /-- The objects of the `go handler(device)` goroutines that have not run yet. -/
  pending : List Nat
  deriving DecidableEq

namespace Node

/-- A started service with empty registries, announcing `dto`. -/
def start (dto : MulticastDto) : Node := ⟨dto, 1, [], ∅, ∅, []⟩

/-- The object at address `p`. -/
def deref (n : Node) (p : Nat) : Device := n.heap.getD p default

/-- `MulticastDiscovery.updateDevice(device)` at time `now`: refresh the object registered for
the fingerprint, or register `device` and start one handler goroutine per handler. The object
`handlePacket` allocates for an already registered fingerprint is dropped unreferenced, so it is
allocated here only when it is registered. -/
def mdUpdateDevice (n : Node) (device : Device) (now : Nat) : Node :=
  match n.mdDevices.lookup device.fingerprint with
  | some q => { n with heap := n.heap.set q ((n.deref q).updateLastSeen now) }
  | none =>
    { n with
      heap := n.heap ++ [device]
      mdDevices := n.mdDevices.insert device.fingerprint n.heap.length
      pending := n.pending ++ List.replicate n.handlers n.heap.length }

/-- `MulticastDiscovery.handlePacket(data, addr)` at time `now`, for a datagram from `addr` that
decodes to `dto`: the new state, and the payload of the response that `SendDiscoveryResponse`
sends back to `addr` when `dto` is an announcement. -/
def handlePacket (n : Node) (dto : MulticastDto) (addr : UdpAddr) (now : Nat) :
    Node × Option MulticastDto :=
  if dto.fingerprint = n.dto.fingerprint then (n, none)
  else
    (n.mdUpdateDevice (Device.fromMulticastDto dto addr.ip now) now,
      if dto.announce then some { n.dto with announce := false } else none)

/-- `Service.updateDevice(device)` at time `now`, for the object at `p`. The service's own
handlers only log, and are left out. -/
def svcUpdateDevice (n : Node) (p : Nat) (now : Nat) : Node :=
  match n.svcDevices.lookup (n.deref p).fingerprint with
  | some q => { n with heap := n.heap.set q ((n.deref q).updateLastSeen now) }
  | none => { n with svcDevices := n.svcDevices.insert (n.deref p).fingerprint p }

/-- A pending handler goroutine for the object at `p` runs. -/
def dispatch (n : Node) (p : Nat) (now : Nat) : Node :=
  if p ∈ n.pending then { n.svcUpdateDevice p now with pending := n.pending.erase p } else n

/-- `Service.GetDevices()` at time `now`: the objects of the service's registry that are not
stale. -/
def getDevices (n : Node) (deviceTimeout now : Nat) : List Nat :=
  (n.svcDevices.entries.map Sigma.snd).filter fun p => !(n.deref p).isStale deviceTimeout now

/-- `Service.GetDevice(id)` at time `now`. -/
def getDevice (n : Node) (id : String) (deviceTimeout now : Nat) : Option Nat :=
  match n.svcDevices.lookup id with
  | some p => if (n.deref p).isStale deviceTimeout now then none else some p
  | none => none

theorem mem_getDevices_iff {n : Node} {deviceTimeout now : Nat} {id : String} {p : Nat}
    (hp : n.svcDevices.lookup id = some p) :
    p ∈ n.getDevices deviceTimeout now ↔ n.getDevice id deviceTimeout now = some p := by
  have hmem : p ∈ n.svcDevices.entries.map Sigma.snd :=
    List.mem_map.2 ⟨⟨id, p⟩, AList.mem_lookup_iff.1 hp, rfl⟩
  simp [getDevices, getDevice, hp, hmem]

theorem deref_of_heap_eq_append {m n : Node} {d : Device} {p : Nat}
    (h : m.heap = n.heap ++ [d]) (hp : p < n.heap.length) : m.deref p = n.deref p := by
  simp [deref, h, List.getD_eq_getElem?_getD, List.getElem?_append_left hp]

theorem deref_of_heap_eq_append_length {m n : Node} {d : Device} (h : m.heap = n.heap ++ [d]) :
    m.deref n.heap.length = d := by
  simp [deref, h]

theorem deref_of_heap_eq_set_self {m n : Node} {d : Device} {q : Nat}
    (h : m.heap = n.heap.set q d) (hq : q < n.heap.length) : m.deref q = d := by
  simp [deref, h, List.getD_eq_getElem?_getD, hq]

theorem deref_of_heap_eq_set_ne {m n : Node} {d : Device} {p q : Nat}
    (h : m.heap = n.heap.set q d) (hne : p ≠ q) : m.deref p = n.deref p := by
  simp [deref, h, List.getD_eq_getElem?_getD, List.getElem?_set_ne (Ne.symm hne)]

theorem mdUpdateDevice_of_some {n : Node} {d : Device} {now q : Nat}
    (h : n.mdDevices.lookup d.fingerprint = some q) :
    n.mdUpdateDevice d now = { n with heap := n.heap.set q ((n.deref q).updateLastSeen now) } := by
  simp [mdUpdateDevice, h]

theorem mdUpdateDevice_of_none {n : Node} {d : Device} {now : Nat}
    (h : n.mdDevices.lookup d.fingerprint = none) :
    n.mdUpdateDevice d now =
      { n with
        heap := n.heap ++ [d]
        mdDevices := n.mdDevices.insert d.fingerprint n.heap.length
        pending := n.pending ++ List.replicate n.handlers n.heap.length } := by
  simp [mdUpdateDevice, h]

/-- `handlePacket` leaves the service's registry alone. -/
@[simp]
theorem handlePacket_svcDevices (n : Node) (dto : MulticastDto) (addr : UdpAddr) (now : Nat) :
    (n.handlePacket dto addr now).1.svcDevices = n.svcDevices := by
  unfold handlePacket mdUpdateDevice
  split_ifs <;> first | rfl | (split <;> rfl)

@[simp]
theorem handlePacket_dto (n : Node) (dto : MulticastDto) (addr : UdpAddr) (now : Nat) :
    (n.handlePacket dto addr now).1.dto = n.dto := by
  unfold handlePacket mdUpdateDevice
  split_ifs <;> first | rfl | (split <;> rfl)

/-- `handlePacket` responds exactly to an announcement from another device, with the device's
own DTO with `announce` cleared. -/
theorem handlePacket_snd_eq_some {n : Node} {dto : MulticastDto} {addr : UdpAddr} {now : Nat}
    {payload : MulticastDto} :
    (n.handlePacket dto addr now).2 = some payload ↔
      dto.fingerprint ≠ n.dto.fingerprint ∧ dto.announce = true ∧
        payload = { n.dto with announce := false } := by
  unfold handlePacket
  by_cases hself : dto.fingerprint = n.dto.fingerprint
  · simp [hself]
  · by_cases hann : dto.announce = true
    · simp only [hself, hann, if_false, if_true, Option.some.injEq, ne_eq, not_false_eq_true,
        true_and]
      exact eq_comm
    · simp [hself, hann]

@[simp]
theorem dispatch_dto (n : Node) (p now : Nat) : (n.dispatch p now).dto = n.dto := by
  unfold dispatch svcUpdateDevice
  split_ifs <;> first | rfl | (split <;> rfl)

theorem svcUpdateDevice_of_none {n : Node} {p now : Nat}
    (h : n.svcDevices.lookup (n.deref p).fingerprint = none) :
    n.svcUpdateDevice p now =
      { n with svcDevices := n.svcDevices.insert (n.deref p).fingerprint p } := by
  simp [svcUpdateDevice, h]

end Node

/-- One datagram `handlePacket` processed from another device: what it decoded, the sender's IP,
and the time. -/
structure Sighting where
  dto : MulticastDto
  ip : String
  time : Nat
  deriving DecidableEq

/-- A started discovery service, its clock, and the sightings its listener has processed. -/
structure Listener where
  node : Node
  clock : Nat
  /-- Every datagram from another device that `handlePacket` processed, in order. No operation
  reads it. -/
  sightings : List Sighting
  deriving DecidableEq

/-- What happens next: time passes, the listen loop passes a datagram from `addr` to
`handlePacket`, or a pending handler goroutine runs. -/
inductive ListenerEvent where
  | tick (d : Nat)
  | packet (dto : MulticastDto) (addr : UdpAddr)
  | dispatch (p : Nat)

namespace Listener

/-- The service right after `Service.Start`. -/
def start (dto : MulticastDto) : Listener := ⟨Node.start dto, 0, []⟩

/-- One event. -/
def step (l : Listener) : ListenerEvent → Listener
  | .tick d => { l with clock := l.clock + d }
  | .packet dto addr =>
    if dto.fingerprint = l.node.dto.fingerprint then l
    else ⟨(l.node.handlePacket dto addr l.clock).1, l.clock,
      l.sightings ++ [⟨dto, addr.ip, l.clock⟩]⟩
  | .dispatch p => { l with node := l.node.dispatch p l.clock }

/-- The events, in order. -/
def run (l : Listener) (evs : List ListenerEvent) : Listener := evs.foldl step l

@[simp]
theorem run_append_singleton (l : Listener) (evs : List ListenerEvent) (e : ListenerEvent) :
    l.run (evs ++ [e]) = (l.run evs).step e := by
  simp [run, List.foldl_append]

/-- The first sighting of `fp`. -/
def firstSighting (l : Listener) (fp : String) : Option Sighting :=
  l.sightings.find? fun s => s.dto.fingerprint = fp

/-- Later sightings do not change the first one. -/
theorem find?_append_of_firstSighting {l : Listener} {fp : String} {s₀ : Sighting}
    (h : l.firstSighting fp = some s₀) (later : List Sighting) :
    (l.sightings ++ later).find? (fun s => s.dto.fingerprint = fp) = some s₀ := by
  simp only [List.find?_append]
  rw [show l.sightings.find? _ = some s₀ from h]
  rfl

end Listener

/-- What every run of a started service keeps. -/
structure ListenerInv (l : Listener) : Prop where
  /-- `Service.Start` registered one handler. -/
  handlers_eq : l.node.handlers = 1
  /-- Nothing has been sighted after the clock. -/
  time_le : ∀ s ∈ l.sightings, s.time ≤ l.clock
  /-- An unregistered fingerprint was never sighted. -/
  md_none : ∀ fp, l.node.mdDevices.lookup fp = none →
    ∀ s ∈ l.sightings, s.dto.fingerprint ≠ fp
  /-- The listener's object for `fp` is allocated, carries the identity fields of the first
  sighting of `fp`, and was last seen at the latest sighting of `fp`. -/
  md_some : ∀ fp p, l.node.mdDevices.lookup fp = some p →
    p < l.node.heap.length ∧
    (∃ s₀, l.firstSighting fp = some s₀ ∧
      l.node.deref p = .fromMulticastDto s₀.dto s₀.ip (l.node.deref p).lastSeen) ∧
    (∃ s ∈ l.sightings, s.dto.fingerprint = fp ∧ s.time = (l.node.deref p).lastSeen) ∧
    ∀ s ∈ l.sightings, s.dto.fingerprint = fp → s.time ≤ (l.node.deref p).lastSeen
  /-- The service's registry points at the listener's objects. -/
  svc_md : ∀ fp p, l.node.svcDevices.lookup fp = some p → l.node.mdDevices.lookup fp = some p
  /-- A pending handler holds the listener's object of a fingerprint the service has not
  registered, and holds it alone. -/
  pending_md : ∀ p ∈ l.node.pending, ∃ fp, l.node.mdDevices.lookup fp = some p ∧
    l.node.svcDevices.lookup fp = none
  pending_nodup : l.node.pending.Nodup

namespace ListenerInv

variable {l : Listener}

/-- The listener's object for `fp` carries `fp`. -/
theorem fingerprint_eq (h : ListenerInv l) {fp : String} {p : Nat}
    (hp : l.node.mdDevices.lookup fp = some p) : (l.node.deref p).fingerprint = fp := by
  obtain ⟨-, ⟨s₀, hs₀, hd⟩, -⟩ := h.md_some fp p hp
  rw [hd, Device.fromMulticastDto_fingerprint]
  simpa using List.find?_some hs₀

/-- Distinct fingerprints have distinct objects. -/
theorem md_inj (h : ListenerInv l) {fp fp' : String} {p : Nat}
    (hp : l.node.mdDevices.lookup fp = some p) (hp' : l.node.mdDevices.lookup fp' = some p) :
    fp = fp' :=
  (h.fingerprint_eq hp).symm.trans (h.fingerprint_eq hp')

theorem tick (h : ListenerInv l) (d : Nat) : ListenerInv (l.step (.tick d)) :=
  { h with time_le := fun s hs => (h.time_le s hs).trans (Nat.le_add_right _ _) }

/-- A sighting made now keeps every sighting at or before the clock. -/
theorem time_le_append (h : ListenerInv l) (dto : MulticastDto) (ip : String) :
    ∀ s ∈ l.sightings ++ [⟨dto, ip, l.clock⟩], s.time ≤ l.clock := fun s hs =>
  (List.mem_append.1 hs).elim (h.time_le s) fun hs => by simp [List.mem_singleton.1 hs]

/-- A sighting of a registered fingerprint refreshes its object. -/
theorem packet_refresh (h : ListenerInv l) {dto : MulticastDto} {ip : String} {q : Nat}
    (hq : l.node.mdDevices.lookup dto.fingerprint = some q) :
    ListenerInv ⟨{ l.node with
        heap := l.node.heap.set q ((l.node.deref q).updateLastSeen l.clock) },
      l.clock, l.sightings ++ [⟨dto, ip, l.clock⟩]⟩ := by
  have hheap : ({ l.node with
      heap := l.node.heap.set q ((l.node.deref q).updateLastSeen l.clock) } : Node).heap =
      l.node.heap.set q ((l.node.deref q).updateLastSeen l.clock) := rfl
  obtain ⟨hq_lt, -⟩ := h.md_some _ q hq
  refine ⟨h.handlers_eq, h.time_le_append dto ip, fun fp hfp s hs => ?_, fun fp p hp => ?_,
    h.svc_md, h.pending_md, h.pending_nodup⟩
  · rcases List.mem_append.1 hs with hs | hs
    · exact h.md_none fp hfp s hs
    · obtain rfl := List.mem_singleton.1 hs
      rintro rfl
      simp [hq] at hfp
  · obtain ⟨hp_lt, ⟨s₀, hs₀, hd⟩, ⟨s₁, hs₁, hfp₁, ht₁⟩, hle⟩ :=
      h.md_some fp p hp
    have hfirst := Listener.find?_append_of_firstSighting hs₀ [Sighting.mk dto ip l.clock]
    by_cases hpq : p = q
    · subst hpq
      obtain rfl := h.md_inj hq hp
      rw [Node.deref_of_heap_eq_set_self hheap hq_lt]
      refine ⟨by simpa using hq_lt, ⟨s₀, hfirst, by rw [hd]; rfl⟩,
        ⟨⟨dto, ip, l.clock⟩, List.mem_append_right _ (List.mem_singleton_self _), rfl, rfl⟩,
        fun s hs _ => h.time_le_append dto ip s hs⟩
    · rw [Node.deref_of_heap_eq_set_ne hheap hpq]
      refine ⟨by simpa using hp_lt, ⟨s₀, hfirst, hd⟩,
        ⟨s₁, List.mem_append_left _ hs₁, hfp₁, ht₁⟩, fun s hs hfp => ?_⟩
      rcases List.mem_append.1 hs with hs | hs
      · exact hle s hs hfp
      · obtain rfl := List.mem_singleton.1 hs
        rw [← hfp] at hp
        exact absurd (Option.some_inj.1 (hp.symm.trans hq)) hpq

/-- A first sighting of a fingerprint registers a new object and starts its handler. -/
theorem packet_register (h : ListenerInv l) {dto : MulticastDto} {ip : String}
    (hnone : l.node.mdDevices.lookup dto.fingerprint = none) :
    ListenerInv ⟨{ l.node with
        heap := l.node.heap ++ [.fromMulticastDto dto ip l.clock]
        mdDevices := l.node.mdDevices.insert dto.fingerprint l.node.heap.length
        pending := l.node.pending ++ List.replicate l.node.handlers l.node.heap.length },
      l.clock, l.sightings ++ [⟨dto, ip, l.clock⟩]⟩ := by
  set n' : Node := { l.node with
    heap := l.node.heap ++ [.fromMulticastDto dto ip l.clock]
    mdDevices := l.node.mdDevices.insert dto.fingerprint l.node.heap.length
    pending := l.node.pending ++ List.replicate l.node.handlers l.node.heap.length }
  have hheap : n'.heap = l.node.heap ++ [.fromMulticastDto dto ip l.clock] := rfl
  -- the other fingerprints keep their objects
  have hmd : ∀ fp, fp ≠ dto.fingerprint →
      n'.mdDevices.lookup fp = l.node.mdDevices.lookup fp :=
    fun fp hfp => AList.lookup_insert_ne hfp
  have hne : ∀ fp p, l.node.mdDevices.lookup fp = some p → fp ≠ dto.fingerprint := by
    rintro fp p hp rfl; simp [hp] at hnone
  refine ⟨h.handlers_eq, h.time_le_append dto ip, fun fp hfp s hs => ?_, fun fp p hp => ?_,
    fun fp p hp => ?_, fun p hp => ?_, ?_⟩
  · have hfp₀ : fp ≠ dto.fingerprint := by
      rintro rfl; simp [n', AList.lookup_insert] at hfp
    rcases List.mem_append.1 hs with hs | hs
    · exact h.md_none fp (by rwa [hmd fp hfp₀] at hfp) s hs
    · rw [List.mem_singleton.1 hs]; exact hfp₀.symm
  · by_cases hfp : fp = dto.fingerprint
    · subst hfp
      obtain rfl : p = l.node.heap.length := by simpa [n', AList.lookup_insert] using hp.symm
      rw [Node.deref_of_heap_eq_append_length hheap]
      refine ⟨by simp [n'], ⟨⟨dto, ip, l.clock⟩, ?_, rfl⟩,
        ⟨⟨dto, ip, l.clock⟩, List.mem_append_right _ (List.mem_singleton_self _), rfl, rfl⟩,
        fun s hs _ => h.time_le_append dto ip s hs⟩
      have hnil : l.sightings.find? (fun s => s.dto.fingerprint = dto.fingerprint) = none :=
        List.find?_eq_none.2 fun s hs => by simpa using h.md_none _ hnone s hs
      simp [Listener.firstSighting, List.find?_append, hnil]
    · rw [hmd fp hfp] at hp
      obtain ⟨hp_lt, ⟨s₀, hs₀, hd⟩, ⟨s₁, hs₁, hfp₁, ht₁⟩, hle⟩ :=
        h.md_some fp p hp
      rw [Node.deref_of_heap_eq_append hheap hp_lt]
      refine ⟨by simp [n']; omega, ⟨s₀, Listener.find?_append_of_firstSighting hs₀ _, hd⟩,
        ⟨s₁, List.mem_append_left _ hs₁, hfp₁, ht₁⟩, fun s hs hfp' => ?_⟩
      · rcases List.mem_append.1 hs with hs | hs
        · exact hle s hs hfp'
        · exact absurd (List.mem_singleton.1 hs ▸ hfp').symm hfp
  · have hmd_p := h.svc_md fp p hp
    rw [hmd fp (hne fp p hmd_p)]
    exact hmd_p
  · rcases List.mem_append.1 hp with hp | hp
    · obtain ⟨fp, hfp, hsvc⟩ := h.pending_md p hp
      exact ⟨fp, by rw [hmd fp (hne fp p hfp)]; exact hfp, hsvc⟩
    · rw [h.handlers_eq, List.replicate_one, List.mem_singleton] at hp
      subst hp
      refine ⟨dto.fingerprint, AList.lookup_insert _, ?_⟩
      cases hsvc : l.node.svcDevices.lookup dto.fingerprint with
      | none => rfl
      | some q => simp [h.svc_md _ q hsvc] at hnone
  · show (l.node.pending ++ List.replicate l.node.handlers l.node.heap.length).Nodup
    rw [h.handlers_eq, List.replicate_one]
    refine List.nodup_append.2 ⟨h.pending_nodup, List.nodup_singleton _, fun p hp hq => ?_⟩
    obtain ⟨fp, hfp, -⟩ := h.pending_md p hp
    exact ((h.md_some fp p hfp).1).ne (List.mem_singleton.1 hq)

theorem packet (h : ListenerInv l) (dto : MulticastDto) (addr : UdpAddr) :
    ListenerInv (l.step (.packet dto addr)) := by
  by_cases hself : dto.fingerprint = l.node.dto.fingerprint
  · simpa [Listener.step, hself] using h
  simp only [Listener.step, Node.handlePacket, hself, if_false]
  cases hmd : l.node.mdDevices.lookup dto.fingerprint with
  | some q =>
    rw [Node.mdUpdateDevice_of_some (by exact hmd)]
    exact h.packet_refresh hmd
  | none =>
    rw [Node.mdUpdateDevice_of_none (by exact hmd)]
    exact h.packet_register hmd

theorem dispatch (h : ListenerInv l) (p : Nat) : ListenerInv (l.step (.dispatch p)) := by
  by_cases hp : p ∈ l.node.pending
  swap
  · simpa [Listener.step, Node.dispatch, hp] using h
  obtain ⟨fp, hfp, hsvc⟩ := h.pending_md p hp
  have hfp_eq := h.fingerprint_eq hfp
  simp only [Listener.step, Node.dispatch, hp, if_true]
  rw [Node.svcUpdateDevice_of_none (by rw [hfp_eq]; exact hsvc), hfp_eq]
  refine ⟨h.handlers_eq, h.time_le, h.md_none, h.md_some, fun fp' q hq => ?_, fun p' hp' => ?_,
    h.pending_nodup.erase p⟩
  · by_cases hfp' : fp' = fp
    · subst hfp'
      obtain rfl : p = q := by simpa [AList.lookup_insert] using hq
      exact hfp
    · exact h.svc_md fp' q (by simpa [AList.lookup_insert_ne hfp'] using hq)
  · obtain ⟨hne, hp'⟩ := (h.pending_nodup.mem_erase_iff).1 hp'
    obtain ⟨fp', hfp', hsvc'⟩ := h.pending_md p' hp'
    have hfp'_ne : fp' ≠ fp := fun he => hne (Option.some_inj.1 (hfp'.symm.trans (he ▸ hfp)))
    exact ⟨fp', hfp', by simpa [AList.lookup_insert_ne hfp'_ne] using hsvc'⟩

theorem step (h : ListenerInv l) : ∀ e, ListenerInv (l.step e)
  | .tick d => h.tick d
  | .packet dto addr => h.packet dto addr
  | .dispatch p => h.dispatch p

end ListenerInv

theorem listenerInv_start (dto : MulticastDto) : ListenerInv (Listener.start dto) :=
  ⟨rfl, by simp [Listener.start], by simp [Listener.start], by simp [Listener.start, Node.start],
    by simp [Listener.start, Node.start], by simp [Listener.start, Node.start], List.nodup_nil⟩

/-- The states a started service reaches. -/
inductive Listener.Reachable (dto : MulticastDto) : Listener → Prop
  | start : Listener.Reachable dto (Listener.start dto)
  | step {l : Listener} (e : ListenerEvent) : Listener.Reachable dto l →
      Listener.Reachable dto (l.step e)

/-- Every state a started service reaches satisfies `ListenerInv`. -/
theorem Listener.Reachable.inv {dto : MulticastDto} {l : Listener} (h : l.Reachable dto) :
    ListenerInv l := by
  induction h with
  | start => exact listenerInv_start dto
  | step e _ ih => exact ih.step e

/-- No event removes an entry of the service's registry. -/
theorem Listener.svcDevices_step {l : Listener} {fp : String} {p : Nat}
    (h : l.node.svcDevices.lookup fp = some p) (e : ListenerEvent) :
    (l.step e).node.svcDevices.lookup fp = some p := by
  cases e with
  | tick d => exact h
  | packet dto addr =>
    simp only [Listener.step]
    split_ifs
    · exact h
    · simpa using h
  | dispatch q =>
    simp only [Listener.step, Node.dispatch]
    split_ifs
    · unfold Node.svcUpdateDevice
      split
      · exact h
      · rename_i hnone
        exact (AList.lookup_insert_ne fun he => by simp [he ▸ hnone] at h).trans h
    · exact h

theorem Listener.svcDevices_run {l : Listener} {fp : String} {p : Nat}
    (h : l.node.svcDevices.lookup fp = some p) (evs : List ListenerEvent) :
    (l.run evs).node.svcDevices.lookup fp = some p := by
  induction evs generalizing l with
  | nil => exact h
  | cons e evs ih => exact ih (Listener.svcDevices_step h e)

/-- Once the handler goroutine of the first sighting of `fp` has run, so that the service's
registry holds an object `p` for `fp`, the service returns `p` from `GetDevice(fp)`, and lists it
in `GetDevices()`, exactly when the listener processed a sighting of `fp` at most
`deviceTimeout` before the read. The object stays in the service's registry for good; it carries
the identity fields of the first sighting of `fp`, and a new sighting makes it visible again at
once, with those fields. -/
theorem getDevice_iff_recent_sighting {dto : MulticastDto} {l : Listener} (hl : l.Reachable dto)
    (deviceTimeout : Nat) {fp : String} {p : Nat} (hp : l.node.svcDevices.lookup fp = some p) :
    (l.node.getDevice fp deviceTimeout l.clock = some p ↔
      ∃ s ∈ l.sightings, s.dto.fingerprint = fp ∧ l.clock - s.time ≤ deviceTimeout) ∧
    (p ∈ l.node.getDevices deviceTimeout l.clock ↔
      ∃ s ∈ l.sightings, s.dto.fingerprint = fp ∧ l.clock - s.time ≤ deviceTimeout) ∧
    (∀ evs : List ListenerEvent, (l.run evs).node.svcDevices.lookup fp = some p) ∧
    ∃ s₀, l.firstSighting fp = some s₀ ∧
      l.node.deref p = .fromMulticastDto s₀.dto s₀.ip (l.node.deref p).lastSeen ∧
      ∀ (dto' : MulticastDto) (addr : UdpAddr), dto'.fingerprint = fp →
        fp ≠ l.node.dto.fingerprint →
        (l.step (.packet dto' addr)).node.getDevice fp deviceTimeout l.clock = some p ∧
        (l.step (.packet dto' addr)).node.deref p = .fromMulticastDto s₀.dto s₀.ip l.clock := by
  have inv := hl.inv
  have hmd := inv.svc_md fp p hp
  obtain ⟨hp_lt, ⟨s₀, hs₀, hd⟩, ⟨s₁, hs₁, hfp₁, ht₁⟩, hle⟩ :=
    inv.md_some fp p hmd
  have hget : l.node.getDevice fp deviceTimeout l.clock = some p ↔
      ∃ s ∈ l.sightings, s.dto.fingerprint = fp ∧ l.clock - s.time ≤ deviceTimeout := by
    simp only [Node.getDevice, hp, Device.isStale]
    constructor
    · intro h
      refine ⟨s₁, hs₁, hfp₁, ?_⟩
      split_ifs at h with hstale
      simpa [ht₁] using hstale
    · rintro ⟨s, hs, hfp, hrecent⟩
      have := hle s hs hfp
      rw [if_neg (by simp; omega)]
  refine ⟨hget, (Node.mem_getDevices_iff hp).trans hget,
    fun evs => Listener.svcDevices_run hp evs, s₀, hs₀, hd, fun dto' addr hfp hself => ?_⟩
  subst hfp
  have hstep : l.step (.packet dto' addr) = ⟨{ l.node with
      heap := l.node.heap.set p ((l.node.deref p).updateLastSeen l.clock) }, l.clock,
      l.sightings ++ [⟨dto', addr.ip, l.clock⟩]⟩ := by
    have hmd' : l.node.mdDevices.lookup (Device.fromMulticastDto dto' addr.ip l.clock).fingerprint =
        some p := hmd
    simp [Listener.step, Node.handlePacket, hself, Node.mdUpdateDevice_of_some hmd']
  have hderef : (l.step (.packet dto' addr)).node.deref p =
      .fromMulticastDto s₀.dto s₀.ip l.clock := by
    rw [hstep, Node.deref_of_heap_eq_set_self rfl hp_lt, hd]
    rfl
  refine ⟨?_, hderef⟩
  simp [Node.getDevice, Listener.svcDevices_step hp, hderef, Device.isStale]

/-- `DefaultServiceConfig().DeviceTimeout`: two minutes. -/
def defaultDeviceTimeout : Nat := 2 * 60 * 1000000000

/-- What a desktop announces. -/
def laptopDto : MulticastDto :=
  ⟨"Laptop", "2.1", some "GoDevice", "desktop", "5d41402abc4b2a76b9719d911017c592", 53317,
    "https", false, true⟩

/-- What a phone announces. -/
def phoneDto : MulticastDto :=
  ⟨"Phone", "2.1", none, "mobile", "9e107d9d372bb6826bd81d3542a419d6", 53317, "https", false,
    true⟩

/-- The laptop's service hears the phone once, runs the handler, and is read a minute later:
the phone is listed, having been sighted within the timeout. -/
theorem getDevice_phone_after_a_minute :
    let l := (((Listener.start laptopDto).step (.packet phoneDto ⟨"192.168.1.20", 40000⟩)).step
      (.dispatch 0)).step (.tick (60 * 1000000000))
    l.node.svcDevices.lookup phoneDto.fingerprint = some 0 ∧
      (l.node.getDevice phoneDto.fingerprint defaultDeviceTimeout l.clock = some 0 ↔
        ∃ s ∈ l.sightings, s.dto.fingerprint = phoneDto.fingerprint ∧
          l.clock - s.time ≤ defaultDeviceTimeout) :=
  ⟨by decide, (getDevice_iff_recent_sighting (.step _ (.step _ (.step _ .start)))
    defaultDeviceTimeout (by decide)).1⟩

end LocalGo
