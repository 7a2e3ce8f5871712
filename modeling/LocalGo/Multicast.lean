import LocalGo.Discovery

/-!
# Multicast discovery between devices

Several devices run `serve`: each has started its discovery service, whose listener
(`StartListening`) has joined the multicast group of `MulticastConfig.MulticastAddr` with a
socket bound to that port on the wildcard address. `SendDiscoveryAnnouncement` writes the
device's DTO, with `announce` set, to the group from a fresh `net.DialUDP` socket, which the
kernel binds to an ephemeral port and which is closed (`defer conn.Close()`) right after the
write. A listener passes each datagram it reads to `handlePacket`, which answers an announcement
from another device with `SendDiscoveryResponse(addr)`: the DTO with `announce` cleared, written
from another fresh `DialUDP` socket to the address the announcement came from.

The network is modelled as the datagrams written so far and the deliveries made so far. A
datagram reaches a device's listener when it was sent to the group the listener joined, or to
the device's IP at the listener's port: between two steps no other socket of a device is open.
An ephemeral port is never the port the listener holds. A datagram is delivered at most once to
each device, in any order and at any time. `Datagram.origin` and `Datagram.cause` are ghost
fields: who wrote a datagram, and which delivery made `handlePacket` write it.

* `NetInv`: what every run keeps (`Net.Reachable.inv`).
* `response_never_delivered`: when the devices have distinct IPs, no response is ever delivered,
  since it goes to the closed ephemeral port of the announcement it answers.
* `Net.Reachable.payload`: every datagram carries the DTO of the device that wrote it, with only
  `announce` changed.
* `responses_answer_announcement_deliveries`: each response answers its own delivery of an
  announcement to a device with another fingerprint, a response makes no datagram, and there are
  never more responses than deliveries of announcements.
-/

namespace LocalGo

/-- Where a datagram is written: to a multicast group address, or to one address. -/
inductive Dest where
  | group (addr : UdpAddr)
  | unicast (addr : UdpAddr)
  deriving DecidableEq

/-- A datagram written by a device. -/
structure Datagram where
  /-- The address of the socket that wrote it. -/
  src : UdpAddr
  dst : Dest
  /-- The `MulticastDto` its JSON encodes. -/
  payload : MulticastDto
  /-- The device that wrote it. No step reads it. -/
  origin : Nat
  /-- The delivery (datagram, device) whose `handlePacket` wrote it; `none` for an
  announcement. No step reads it. -/
  cause : Option (Nat × Nat)
  deriving DecidableEq

/-- A device running `serve`. -/
structure Host where
  ip : String
  /-- `MulticastConfig.MulticastAddr`: the group the listener joined and the port it bound. -/
  multicastAddr : UdpAddr
  node : Node
  deriving DecidableEq

/-- The listener of `host` reads datagrams written to `dst`. -/
def Host.Receives (host : Host) : Dest → Prop
  | .group addr => addr = host.multicastAddr
  | .unicast addr => addr.ip = host.ip ∧ addr.port = host.multicastAddr.port

instance (host : Host) (dst : Dest) : Decidable (host.Receives dst) :=
  match dst with
  | .group _ => inferInstanceAs (Decidable (_ = _))
  | .unicast _ => inferInstanceAs (Decidable (_ ∧ _))

/-- The devices, every datagram written so far, the deliveries made so far, and the clock. -/
structure Net where
  hosts : List Host
  sent : List Datagram
  /-- The (datagram, device) deliveries, in order. -/
  delivered : List (Nat × Nat)
  clock : Nat
  deriving DecidableEq

/-- What happens next. -/
inductive NetAction where
  | tick (d : Nat)
  /-- Device `h` calls `SendDiscoveryAnnouncement()`; `DialUDP` binds ephemeral port `port`. -/
  | announce (h : Nat) (port : Nat)
  /-- Device `h`'s listen loop reads datagram `d` and calls `handlePacket`; a response it sends
  goes out from ephemeral port `port`. -/
  | deliver (d : Nat) (h : Nat) (port : Nat)
  /-- A pending handler goroutine of device `h` runs. -/
  | dispatch (h : Nat) (p : Nat)

namespace Net

/-- The devices `(ip, MulticastAddr, dto)`, each right after `Service.Start`. -/
def start (devices : List (String × UdpAddr × MulticastDto)) : Net :=
  ⟨devices.map fun d => ⟨d.1, d.2.1, Node.start d.2.2⟩, [], [], 0⟩

/-- The announcement device `host` writes from port `port`. -/
def announcement (host : Host) (h port : Nat) : Datagram :=
  ⟨⟨host.ip, port⟩, .group host.multicastAddr, { host.node.dto with announce := true }, h, none⟩

/-- One action. An action that names no datagram or device, a delivery to a listener the
datagram does not reach or that already read it, and an ephemeral port the listener holds, do
nothing. -/
def step (σ : Net) : NetAction → Net
  | .tick d => { σ with clock := σ.clock + d }
  | .announce h port =>
    match σ.hosts[h]? with
    | some host =>
      if port = host.multicastAddr.port then σ
      else { σ with sent := σ.sent ++ [announcement host h port] }
    | none => σ
  | .deliver d h port =>
    match σ.sent[d]?, σ.hosts[h]? with
    | some dg, some host =>
      if host.Receives dg.dst ∧ (d, h) ∉ σ.delivered ∧ port ≠ host.multicastAddr.port then
        { σ with
          hosts := σ.hosts.set h
            { host with node := (host.node.handlePacket dg.payload dg.src σ.clock).1 }
          sent := σ.sent ++ ((host.node.handlePacket dg.payload dg.src σ.clock).2.map
            fun payload => ⟨⟨host.ip, port⟩, .unicast dg.src, payload, h, some (d, h)⟩).toList
          delivered := σ.delivered ++ [(d, h)] }
      else σ
    | _, _ => σ
  | .dispatch h p =>
    match σ.hosts[h]? with
    | some host =>
      { σ with hosts := σ.hosts.set h { host with node := host.node.dispatch p σ.clock } }
    | none => σ

/-- The actions, in order. -/
def run (σ : Net) (as : List NetAction) : Net := as.foldl step σ

/-- The states the devices reach from `Net.start devices`. -/
inductive Reachable (devices : List (String × UdpAddr × MulticastDto)) : Net → Prop
  | start : Reachable devices (Net.start devices)
  | step {σ : Net} (a : NetAction) : Reachable devices σ → Reachable devices (σ.step a)

/-- The responses written so far. -/
def responses (σ : Net) : Nat := σ.sent.countP fun dg => !dg.payload.announce

/-- The deliveries of announcements so far. -/
def announcementDeliveries (σ : Net) : Nat :=
  σ.delivered.countP fun dh => (σ.sent[dh.1]?.map (·.payload.announce)) = some true

/-- What an announcement step does: nothing, or it writes the device's announcement. -/
theorem step_announce_cases (σ : Net) (h port : Nat) :
    σ.step (.announce h port) = σ ∨ ∃ host, σ.hosts[h]? = some host ∧
      port ≠ host.multicastAddr.port ∧
      σ.step (.announce h port) = { σ with sent := σ.sent ++ [announcement host h port] } := by
  simp only [step]
  split
  · split_ifs with hport
    · exact .inl rfl
    · exact .inr ⟨_, by assumption, hport, rfl⟩
  · exact .inl rfl

/-- What a delivery step does: nothing, or the device's `handlePacket` processes the datagram. -/
theorem step_deliver_cases (σ : Net) (d h port : Nat) :
    σ.step (.deliver d h port) = σ ∨ ∃ dg host, σ.sent[d]? = some dg ∧
      σ.hosts[h]? = some host ∧ host.Receives dg.dst ∧ (d, h) ∉ σ.delivered ∧ port ≠ host.multicastAddr.port ∧
      σ.step (.deliver d h port) =
        { σ with
          hosts := σ.hosts.set h
            { host with node := (host.node.handlePacket dg.payload dg.src σ.clock).1 }
          sent := σ.sent ++ ((host.node.handlePacket dg.payload dg.src σ.clock).2.map
            fun payload => ⟨⟨host.ip, port⟩, .unicast dg.src, payload, h, some (d, h)⟩).toList
          delivered := σ.delivered ++ [(d, h)] } := by
  simp only [step]
  split
  · split_ifs with hok
    · exact .inr ⟨_, _, by assumption, by assumption, hok.1, hok.2.1, hok.2.2, rfl⟩
    · exact .inl rfl
  · exact .inl rfl

/-- What a handler step does: nothing, or it runs on the device's node. -/
theorem step_dispatch_cases (σ : Net) (h p : Nat) :
    σ.step (.dispatch h p) = σ ∨ ∃ host, σ.hosts[h]? = some host ∧
      σ.step (.dispatch h p) = { σ with
        hosts := σ.hosts.set h { host with node := host.node.dispatch p σ.clock } } := by
  simp only [step]
  split
  · exact .inr ⟨_, by assumption, rfl⟩
  · exact .inl rfl

end Net

/-- A device as the network sees it: its IP, its `MulticastAddr` and its DTO. -/
def Host.frame (host : Host) : String × UdpAddr × MulticastDto :=
  (host.ip, host.multicastAddr, host.node.dto)

/-- The listener of a device with IP `ip` and `MulticastAddr` `addr` reads datagrams written to
`dst`. -/
def Dest.Reaches (dst : Dest) (device : String × UdpAddr × MulticastDto) : Prop :=
  match dst with
  | .group addr => addr = device.2.1
  | .unicast addr => addr.ip = device.1 ∧ addr.port = device.2.1.port

theorem Host.receives_iff {host : Host} {dst : Dest} :
    host.Receives dst ↔ dst.Reaches host.frame := by
  cases dst <;> rfl

/-- A device that has run a step keeps its IP, `MulticastAddr` and DTO. -/
theorem frames_set {hosts : List Host} {devices : List (String × UdpAddr × MulticastDto)}
    (hf : hosts.map Host.frame = devices) {h : Nat} {host host' : Host}
    (hh : hosts[h]? = some host) (he : host'.frame = host.frame) :
    (hosts.set h host').map Host.frame = devices := by
  obtain ⟨hlt, heq⟩ := List.getElem?_eq_some_iff.1 hh
  rw [List.map_set, he, ← hf]
  refine List.ext_getElem? fun i => ?_
  by_cases hi : i = h
  · subst hi
    simp [hlt, heq]
  · simp [List.getElem?_set_ne (Ne.symm hi)]

theorem getElem?_of_frames {hosts : List Host} {devices : List (String × UdpAddr × MulticastDto)}
    (hf : hosts.map Host.frame = devices) {h : Nat} {host : Host} (hh : hosts[h]? = some host) :
    devices[h]? = some host.frame := by
  simp [← hf, hh]

/-- What every run keeps, for the devices `devices`. -/
structure NetInv (devices : List (String × UdpAddr × MulticastDto)) (σ : Net) : Prop where
  /-- No device changes its IP, its `MulticastAddr` or its DTO. -/
  frames : σ.hosts.map Host.frame = devices
  /-- A datagram comes from an ephemeral port of the device that wrote it, which is never the
  port its listener holds, and carries that device's fingerprint. -/
  sent_origin : ∀ (i : Nat) (dg : Datagram), σ.sent[i]? = some dg →
    ∃ device : String × UdpAddr × MulticastDto, devices[dg.origin]? = some device ∧
    dg.src.ip = device.1 ∧ dg.src.port ≠ device.2.1.port ∧
    dg.payload.fingerprint = device.2.2.fingerprint
  /-- A datagram is an announcement, or the response that the delivery of an announcement to
  another device made, sent back to where the announcement came from. -/
  sent_kind : ∀ (i : Nat) (dg : Datagram), σ.sent[i]? = some dg →
    (dg.payload.announce = true ∧ dg.cause = none) ∨
    (dg.payload.announce = false ∧ ∃ (d h : Nat) (a : Datagram)
      (device : String × UdpAddr × MulticastDto), dg.cause = some (d, h) ∧
      (d, h) ∈ σ.delivered ∧ σ.sent[d]? = some a ∧ a.payload.announce = true ∧ dg.origin = h ∧
      dg.dst = .unicast a.src ∧ devices[h]? = some device ∧
      device.2.2.fingerprint ≠ a.payload.fingerprint)
  /-- No two datagrams were written by the same delivery. -/
  cause_inj : ∀ (i j : Nat) (dgi dgj : Datagram), σ.sent[i]? = some dgi → σ.sent[j]? = some dgj →
    dgi.cause.isSome → dgi.cause = dgj.cause → i = j
  /-- A delivery took a datagram written earlier to a listener it reaches. -/
  delivered_ok : ∀ (d h : Nat), (d, h) ∈ σ.delivered →
    ∃ (dg : Datagram) (device : String × UdpAddr × MulticastDto), σ.sent[d]? = some dg ∧
    devices[h]? = some device ∧ dg.dst.Reaches device
  delivered_nodup : σ.delivered.Nodup
  /-- There are no more responses than deliveries of announcements. -/
  count : σ.responses ≤ σ.announcementDeliveries


theorem getElem?_append_of_getElem? {α : Type} {l : List α} (l' : List α) {x : α} {i : Nat}
    (h : l[i]? = some x) : (l ++ l')[i]? = some x := by
  rw [List.getElem?_append_left (List.getElem?_eq_some_iff.1 h).1]
  exact h

namespace NetInv

variable {devices : List (String × UdpAddr × MulticastDto)} {σ : Net}

/-- Appending datagrams changes no delivery's count. -/
theorem announcementDeliveries_append (hi : NetInv devices σ) (extra : List Datagram) :
    (σ.delivered.countP fun dh => ((σ.sent ++ extra)[dh.1]?.map (·.payload.announce)) =
      some true) = σ.announcementDeliveries := by
  refine List.countP_congr fun dh hdh => ?_
  obtain ⟨dg, -, hdg, -⟩ := hi.delivered_ok dh.1 dh.2 hdh
  simp [getElem?_append_of_getElem? extra hdg, hdg]

theorem tick (hi : NetInv devices σ) (d : Nat) : NetInv devices (σ.step (.tick d)) :=
  ⟨hi.1, hi.2, hi.3, hi.4, hi.5, hi.6, hi.7⟩

theorem announce (hi : NetInv devices σ) (h port : Nat) :
    NetInv devices (σ.step (.announce h port)) := by
  rcases Net.step_announce_cases σ h port with heq | ⟨host, hh, hport, heq⟩
  · rwa [heq]
  rw [heq]
  have hdev := getElem?_of_frames hi.frames hh
  have hold : ∀ {i : Nat} {dg : Datagram}, σ.sent[i]? = some dg →
      (σ.sent ++ [Net.announcement host h port])[i]? = some dg :=
    getElem?_append_of_getElem? _
  refine ⟨hi.frames, fun i dg hdg => ?_, fun i dg hdg => ?_,
    fun i j dgi dgj hdi hdj hsome hc => ?_, fun d h' hd => ?_, hi.delivered_nodup, ?_⟩
  · rcases getElem?_append_singleton_cases hdg with hdg | ⟨-, rfl⟩
    · exact hi.sent_origin i dg hdg
    · exact ⟨_, hdev, rfl, hport, rfl⟩
  · rcases getElem?_append_singleton_cases hdg with hdg | ⟨-, rfl⟩
    · exact (hi.sent_kind i dg hdg).imp_right fun ⟨ha, d, h', a, device, hc, hd, hsa, rest⟩ =>
        ⟨ha, d, h', a, device, hc, hd, hold hsa, rest⟩
    · exact .inl ⟨rfl, rfl⟩
  · rcases getElem?_append_singleton_cases hdi with hdi | ⟨-, rfl⟩
    · rcases getElem?_append_singleton_cases hdj with hdj | ⟨-, rfl⟩
      · exact hi.cause_inj i j dgi dgj hdi hdj hsome hc
      · simp [Net.announcement, hc] at hsome
    · simp [Net.announcement] at hsome
  · obtain ⟨dg, device, hdg, rest⟩ := hi.delivered_ok d h' hd
    exact ⟨dg, device, hold hdg, rest⟩
  · show (σ.sent ++ [_]).countP _ ≤ σ.delivered.countP _
    rw [hi.announcementDeliveries_append, List.countP_append]
    simpa [Net.announcement] using hi.count

theorem deliver (hi : NetInv devices σ) (d h port : Nat) :
    NetInv devices (σ.step (.deliver d h port)) := by
  rcases Net.step_deliver_cases σ d h port with
    heq | ⟨dg, host, hdg, hh, hrecv, hnew, hport, heq⟩
  · rwa [heq]
  rw [heq]
  have hdev := getElem?_of_frames hi.frames hh
  have hframes : (σ.hosts.set h
      { host with node := (host.node.handlePacket dg.payload dg.src σ.clock).1 }).map Host.frame =
      devices := frames_set hi.frames hh (by simp [Host.frame])
  have hdelivered : ∀ {dh : Nat × Nat}, dh ∈ σ.delivered →
      dh ∈ σ.delivered ++ [(d, h)] :=
    List.mem_append_left _
  have hnodup : (σ.delivered ++ [(d, h)]).Nodup :=
    List.nodup_append.2 ⟨hi.delivered_nodup, List.nodup_singleton _,
      fun dh hdh hdh' => hnew (List.mem_singleton.1 hdh' ▸ hdh)⟩
  have hok : ∀ (extra : List Datagram) (d' h' : Nat), (d', h') ∈ σ.delivered ++ [(d, h)] →
      ∃ (dg' : Datagram) (device : String × UdpAddr × MulticastDto),
        (σ.sent ++ extra)[d']? = some dg' ∧ devices[h']? = some device ∧
        dg'.dst.Reaches device := by
    intro extra d' h' hd'
    rcases List.mem_append.1 hd' with hd' | hd'
    · obtain ⟨dg', device, hdg', rest⟩ := hi.delivered_ok d' h' hd'
      exact ⟨dg', device, getElem?_append_of_getElem? _ hdg', rest⟩
    · obtain ⟨rfl, rfl⟩ := Prod.mk.inj (List.mem_singleton.1 hd')
      exact ⟨dg, host.frame, getElem?_append_of_getElem? _ hdg, hdev, Host.receives_iff.1 hrecv⟩
  have hcount : ∀ extra : List Datagram,
      ((σ.delivered ++ [(d, h)]).countP fun dh =>
        ((σ.sent ++ extra)[dh.1]?.map (·.payload.announce)) = some true) =
        σ.announcementDeliveries + if dg.payload.announce then 1 else 0 := by
    intro extra
    rw [List.countP_append, hi.announcementDeliveries_append, List.countP_singleton,
      getElem?_append_of_getElem? _ hdg]
    simp
  cases hr : (host.node.handlePacket dg.payload dg.src σ.clock).2 with
  | none =>
    simp only [hr, Option.map_none', Option.toList_none, List.append_nil]
    refine ⟨hframes, hi.sent_origin, fun i dg' hdg' => ?_, hi.cause_inj,
      fun d' h' hd' => by simpa using hok [] d' h' hd', hnodup, ?_⟩
    · exact (hi.sent_kind i dg' hdg').imp_right fun ⟨ha, d', h', a, device, hc, hd', rest⟩ =>
        ⟨ha, d', h', a, device, hc, hdelivered hd', rest⟩
    · have := hcount []
      simp only [List.append_nil] at this
      unfold Net.announcementDeliveries
      dsimp only
      rw [this]
      exact hi.count.trans (Nat.le_add_right _ _)
  | some payload =>
    obtain ⟨hfp, hann, rfl⟩ := Node.handlePacket_snd_eq_some.1 hr
    simp only [hr, Option.map_some', Option.toList_some]
    set resp : Datagram := ⟨⟨host.ip, port⟩, .unicast dg.src,
      { host.node.dto with announce := false }, h, some (d, h)⟩
    have hold : ∀ {i : Nat} {dg' : Datagram}, σ.sent[i]? = some dg' →
        (σ.sent ++ [resp])[i]? = some dg' := getElem?_append_of_getElem? _
    -- an old datagram was not written by this delivery
    have hcause : ∀ {i : Nat} {dg' : Datagram}, σ.sent[i]? = some dg' →
        dg'.cause ≠ some (d, h) := by
      intro i dg' hdg' hc
      rcases hi.sent_kind i dg' hdg' with ⟨-, hnone⟩ | ⟨-, d', h', -, -, hc', hd', -⟩
      · rw [hnone] at hc; cases hc
      · rw [hc] at hc'
        obtain ⟨rfl, rfl⟩ := Prod.mk.inj (Option.some_inj.1 hc')
        exact hnew hd'
    refine ⟨hframes, fun i dg' hdg' => ?_, fun i dg' hdg' => ?_,
      fun i j dgi dgj hdi hdj hsome hc => ?_, fun d' h' hd' => hok [resp] d' h' hd', hnodup, ?_⟩
    · rcases getElem?_append_singleton_cases hdg' with hdg' | ⟨-, rfl⟩
      · exact hi.sent_origin i dg' hdg'
      · exact ⟨host.frame, hdev, rfl, hport, rfl⟩
    · rcases getElem?_append_singleton_cases hdg' with hdg' | ⟨-, rfl⟩
      · exact (hi.sent_kind i dg' hdg').imp_right
          fun ⟨ha, d', h', a, device, hc, hd', hsa, rest⟩ =>
            ⟨ha, d', h', a, device, hc, hdelivered hd', hold hsa, rest⟩
      · exact .inr ⟨rfl, d, h, dg, host.frame, rfl,
          List.mem_append_right _ (List.mem_singleton_self _), hold hdg, hann, rfl, rfl, hdev,
          Ne.symm hfp⟩
    · rcases getElem?_append_singleton_cases hdi with hdi | ⟨hi', rfl⟩ <;>
        rcases getElem?_append_singleton_cases hdj with hdj | ⟨hj', rfl⟩
      · exact hi.cause_inj i j dgi dgj hdi hdj hsome hc
      · exact absurd hc (hcause hdi)
      · exact absurd hc.symm (hcause hdj)
      · rw [hi', hj']
    · unfold Net.announcementDeliveries Net.responses
      dsimp only
      rw [hcount, List.countP_append, hann]
      simpa [resp] using hi.count

theorem dispatch (hi : NetInv devices σ) (h p : Nat) :
    NetInv devices (σ.step (.dispatch h p)) := by
  rcases Net.step_dispatch_cases σ h p with heq | ⟨host, hh, heq⟩
  · rwa [heq]
  rw [heq]
  exact ⟨frames_set hi.frames hh (by simp [Host.frame]), hi.2, hi.3, hi.4, hi.5, hi.6, hi.7⟩

theorem step (hi : NetInv devices σ) : ∀ a, NetInv devices (σ.step a)
  | .tick d => hi.tick d
  | .announce h port => hi.announce h port
  | .deliver d h port => hi.deliver d h port
  | .dispatch h p => hi.dispatch h p

end NetInv

theorem netInv_start (devices : List (String × UdpAddr × MulticastDto)) :
    NetInv devices (Net.start devices) :=
  ⟨by simp [Net.start, Host.frame, Node.start, Function.comp_def], by simp [Net.start],
    by simp [Net.start], by simp [Net.start], by simp [Net.start], List.nodup_nil,
    by simp [Net.start, Net.responses, Net.announcementDeliveries]⟩

/-- Every state the devices reach satisfies `NetInv`. -/
theorem Net.Reachable.inv {devices : List (String × UdpAddr × MulticastDto)} {σ : Net}
    (h : σ.Reachable devices) : NetInv devices σ := by
  induction h with
  | start => exact netInv_start devices
  | step a _ ih => exact ih.step a

namespace Net

@[simp]
theorem run_append_singleton (σ : Net) (as : List NetAction) (a : NetAction) :
    σ.run (as ++ [a]) = (σ.run as).step a := by
  simp [run, List.foldl_append]

theorem Reachable.run {devices : List (String × UdpAddr × MulticastDto)} {σ : Net}
    (h : σ.Reachable devices) (as : List NetAction) : (σ.run as).Reachable devices := by
  induction as using List.reverseRecOn with
  | nil => exact h
  | append_singleton as a ih => rw [run_append_singleton]; exact ih.step a

/-- No step takes back a datagram. -/
theorem sent_prefix_step (σ : Net) (a : NetAction) : σ.sent <+: (σ.step a).sent := by
  cases a with
  | tick d => exact List.prefix_refl _
  | announce h port =>
    rcases step_announce_cases σ h port with heq | ⟨_, -, -, heq⟩ <;> simp [heq]
  | deliver d h port =>
    rcases step_deliver_cases σ d h port with heq | ⟨_, _, -, -, -, -, -, heq⟩ <;> simp [heq]
  | dispatch h p =>
    rcases step_dispatch_cases σ h p with heq | ⟨_, -, heq⟩ <;> simp [heq]

theorem sent_prefix_run (σ : Net) (as : List NetAction) : σ.sent <+: (σ.run as).sent := by
  induction as using List.reverseRecOn with
  | nil => exact List.prefix_refl _
  | append_singleton as a ih => rw [run_append_singleton]; exact ih.trans (sent_prefix_step _ a)

/-- Every datagram is the DTO of the device that wrote it, with `announce` set for an
announcement and cleared for a response: no step builds a payload from anything else. -/
theorem Reachable.payload {devices : List (String × UdpAddr × MulticastDto)} {σ : Net}
    (hσ : σ.Reachable devices) {i : Nat} {dg : Datagram} (hi : σ.sent[i]? = some dg) :
    ∃ device, devices[dg.origin]? = some device ∧
      dg.payload = { device.2.2 with announce := dg.payload.announce } := by
  induction hσ generalizing i dg with
  | start => simp [Net.start] at hi
  | @step σ a hσ ih =>
    have hf := hσ.inv.frames
    cases a with
    | tick d => exact ih hi
    | announce h port =>
      rcases step_announce_cases _ h port with heq | ⟨host, hh, -, heq⟩
      · exact ih (by rwa [heq] at hi)
      · rw [heq] at hi
        rcases getElem?_append_singleton_cases hi with hi | ⟨-, rfl⟩
        · exact ih hi
        · exact ⟨_, getElem?_of_frames hf hh, rfl⟩
    | deliver d h port =>
      rcases step_deliver_cases _ d h port with heq | ⟨dg', host, -, hh, -, -, -, heq⟩
      · exact ih (by rwa [heq] at hi)
      · rw [heq] at hi
        cases hresp : (host.node.handlePacket dg'.payload dg'.src σ.clock).2 with
        | none =>
          simp only [hresp, Option.map_none', Option.toList_none, List.append_nil] at hi
          exact ih hi
        | some payload =>
          simp only [hresp, Option.map_some', Option.toList_some] at hi
          rcases getElem?_append_singleton_cases hi with hi | ⟨-, rfl⟩
          · exact ih hi
          · obtain ⟨-, -, rfl⟩ := Node.handlePacket_snd_eq_some.1 hresp
            exact ⟨_, getElem?_of_frames hf hh, rfl⟩
    | dispatch h p =>
      rcases step_dispatch_cases _ h p with heq | ⟨host, -, heq⟩ <;> exact ih (by rwa [heq] at hi)

end Net

/-- When the devices have distinct IPs, every delivered datagram is an announcement: a response
goes back to the address its announcement came from, the ephemeral port of the announcing
device's `DialUDP` socket, and no device listens there. -/
theorem response_never_delivered {devices : List (String × UdpAddr × MulticastDto)}
    (hips : (devices.map Prod.fst).Nodup) {σ : Net} (hσ : σ.Reachable devices) {d h : Nat}
    (hd : (d, h) ∈ σ.delivered) {dg : Datagram} (hdg : σ.sent[d]? = some dg) :
    dg.payload.announce = true := by
  have inv := hσ.inv
  obtain ⟨dg', device, hdg', hdev, hreach⟩ := inv.delivered_ok d h hd
  obtain rfl := Option.some_inj.1 (hdg.symm.trans hdg')
  rcases inv.sent_kind d dg hdg with ⟨hann, -⟩ | ⟨-, d', h', a, -, -, -, ha, -, -, hdst, -⟩
  · exact hann
  obtain ⟨deviceA, hdevA, hip, hport, -⟩ := inv.sent_origin d' a ha
  rw [hdst] at hreach
  obtain ⟨hip', hport'⟩ := hreach
  -- the response reached the device with the announcer's IP, which is the announcer
  have hfst : (devices.map Prod.fst)[h]? = (devices.map Prod.fst)[a.origin]? := by
    simp [hdev, hdevA, ← hip, hip']
  have hh : h = a.origin := by
    obtain ⟨h₁, h₂⟩ := List.getElem?_eq_some_iff.1
      (show (devices.map Prod.fst)[h]? = some device.1 by simp [hdev])
    obtain ⟨h₃, h₄⟩ := List.getElem?_eq_some_iff.1
      (show (devices.map Prod.fst)[a.origin]? = some device.1 by rw [← hfst]; simp [hdev])
    exact (hips.getElem_inj_iff).1 (h₂.trans h₄.symm)
  rw [hh, hdevA] at hdev
  obtain rfl := Option.some_inj.1 hdev
  exact absurd hport' hport

/-- In every run of any number of devices, with each datagram delivered at most once to each
device in any order: every response was written by the `handlePacket` of one delivery of an
announcement, to a device whose fingerprint is not the announcer's; no two responses come from the
same delivery; delivering a response writes no datagram; so there are never more responses than
deliveries of announcements. -/
theorem responses_answer_announcement_deliveries
    {devices : List (String × UdpAddr × MulticastDto)} {σ : Net} (hσ : σ.Reachable devices) :
    (∀ (i : Nat) (dg : Datagram), σ.sent[i]? = some dg → dg.payload.announce = false →
      ∃ (d h : Nat) (a : Datagram) (device : String × UdpAddr × MulticastDto),
        dg.cause = some (d, h) ∧ (d, h) ∈ σ.delivered ∧ σ.sent[d]? = some a ∧
        a.payload.announce = true ∧ dg.origin = h ∧ devices[h]? = some device ∧
        device.2.2.fingerprint ≠ a.payload.fingerprint) ∧
    (∀ (i j : Nat) (dgi dgj : Datagram), σ.sent[i]? = some dgi → σ.sent[j]? = some dgj →
      dgi.payload.announce = false → dgi.cause = dgj.cause → i = j) ∧
    (∀ (d h port : Nat) (dg : Datagram), σ.sent[d]? = some dg → dg.payload.announce = false →
      (σ.step (.deliver d h port)).sent = σ.sent) ∧
    σ.responses ≤ σ.announcementDeliveries := by
  have inv := hσ.inv
  have hkind : ∀ (i : Nat) (dg : Datagram), σ.sent[i]? = some dg →
      dg.payload.announce = false → ∃ (d h : Nat) (a : Datagram) (device : String × UdpAddr × MulticastDto),
        dg.cause = some (d, h) ∧ (d, h) ∈ σ.delivered ∧ σ.sent[d]? = some a ∧
        a.payload.announce = true ∧ dg.origin = h ∧ devices[h]? = some device ∧
        device.2.2.fingerprint ≠ a.payload.fingerprint := by
    intro i dg hdg hresp
    rcases inv.sent_kind i dg hdg with
      ⟨hann, -⟩ | ⟨-, d, h, a, device, hc, hd, ha, hann, ho, -, hdev, hfp⟩
    · simp [hann] at hresp
    · exact ⟨d, h, a, device, hc, hd, ha, hann, ho, hdev, hfp⟩
  refine ⟨hkind, fun i j dgi dgj hdi hdj hresp hc => ?_, fun d h port dg hdg hresp => ?_,
    inv.count⟩
  · obtain ⟨d, h, _, _, hcause, -⟩ := hkind i dgi hdi hresp
    exact inv.cause_inj i j dgi dgj hdi hdj (by simp [hcause]) hc
  · rcases Net.step_deliver_cases σ d h port with heq | ⟨dg', host, hdg', -, -, -, -, heq⟩
    · rw [heq]
    obtain rfl := Option.some_inj.1 (hdg.symm.trans hdg')
    have hnone : (host.node.handlePacket dg.payload dg.src σ.clock).2 = none := by
      cases hr : (host.node.handlePacket dg.payload dg.src σ.clock).2 with
      | none => rfl
      | some _ => simp [(Node.handlePacket_snd_eq_some.1 hr).2.1] at hresp
    simp [heq, hnone]

/-- Two devices on one group and port. -/
def twoDevices : List (String × UdpAddr × MulticastDto) :=
  [("192.168.1.10", ⟨"224.0.0.167", 53317⟩, laptopDto),
    ("192.168.1.20", ⟨"224.0.0.167", 53317⟩, phoneDto)]

/-- After the laptop's announcement reaches the phone, one response has been written, for one
delivery of an announcement. -/
theorem twoDevices_one_response :
    (((Net.start twoDevices).step (.announce 0 40000)).step (.deliver 0 1 40001)).responses = 1 ∧
      (((Net.start twoDevices).step (.announce 0 40000)).step (.deliver 0 1 40001)).responses ≤
        (((Net.start twoDevices).step (.announce 0 40000)).step
          (.deliver 0 1 40001)).announcementDeliveries :=
  ⟨by decide, (responses_answer_announcement_deliveries (.step _ (.step _ .start))).2.2.2⟩

/-- The laptop announces from ephemeral port `40000` and the phone processes the announcement.
Its response goes from port `40001` to `192.168.1.10:40000`, where the laptop has no socket
open: whatever happens next, the laptop never processes it, and at this point the laptop's
registry has no entry for the phone. -/
theorem announcement_response_to_closed_port :
    (((Net.start twoDevices).run [.announce 0 40000, .deliver 0 1 40001]).sent[1]? =
      some ⟨⟨"192.168.1.20", 40001⟩, .unicast ⟨"192.168.1.10", 40000⟩,
        { phoneDto with announce := false }, 1, some (0, 1)⟩) ∧
    (((Net.start twoDevices).run [.announce 0 40000, .deliver 0 1 40001]).hosts[0]?.map
      fun host => host.node.mdDevices.lookup phoneDto.fingerprint) = some none ∧
    ∀ as : List NetAction,
      (1, 0) ∉ (((Net.start twoDevices).run [.announce 0 40000, .deliver 0 1 40001]).run as).delivered := by
  refine ⟨by decide, by decide, fun as hd => ?_⟩
  have hσ := ((Net.Reachable.start : (Net.start twoDevices).Reachable twoDevices).run
    [.announce 0 40000, .deliver 0 1 40001]).run as
  obtain ⟨t, ht⟩ := Net.sent_prefix_run ((Net.start twoDevices).run
    [.announce 0 40000, .deliver 0 1 40001]) as
  have hsent :
      (((Net.start twoDevices).run [.announce 0 40000, .deliver 0 1 40001]).run as).sent[1]? =
      some ⟨⟨"192.168.1.20", 40001⟩, .unicast ⟨"192.168.1.10", 40000⟩,
        { phoneDto with announce := false }, 1, some (0, 1)⟩ := by
    rw [← ht]
    exact getElem?_append_of_getElem? t (by decide)
  have := response_never_delivered (by decide) hσ hd hsent
  simp at this

end LocalGo
