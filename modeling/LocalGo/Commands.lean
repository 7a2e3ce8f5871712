import LocalGo.Sequential
import LocalGo.Multicast
import LocalGo.Output

/-!
# The `serve` and `discover` commands

`Application.runServe` applies the flags to the configuration, builds a `MulticastDto` whose
protocol follows `HttpsEnabled` for `NewMulticastDiscovery`, starts the discovery service with
`Service.Start` and the HTTP(S) server with `Server.Start`. `Service.Start` builds a DTO of its own
from its arguments, with the protocol fixed to `"https"`, and installs it with `SetDto` before the
listener and the announcements start; every Discovery Message the device writes is built from it.

`Application.runDiscover` builds the service the same way and calls `Service.Discover` without
`Service.Start`: the multicast discovery never listens and has no handler, so no datagram reaches
`handlePacket` and the service's registry, which `Discover` polls every 250 ms until the
deadline, stays empty.

Time is in nanoseconds. A `Discover` call is a state (`Discovering`) and the events that can
happen while it runs: time passing, a tick of the ticker, the deadline, a datagram arriving at the
device's discovery port, a handler goroutine running. The ticker sends at the multiples of 250 ms
and drops the ticks a busy receiver misses; a tick and the deadline that are both ready are taken
in either order, as `select` does.

* `serve_advertises_https`: for every configuration and flags, every datagram the serving device
  writes in every run of the network advertises the server's port and fingerprint and the protocol
  `"https"`, while the server uses TLS only when `HttpsEnabled`; with `--http` the server speaks
  HTTP and the announcement says `"https"`.
* `discover_misses_reached_peers`: in every run of `discover` the result is empty and the table
  says that no device was found, also when a peer's announcement arrived before the deadline; and
  on a started service, a device registered after the last poll is missing from the result.
-/

namespace LocalGo

/-- The part of `config.Config` that `serve` and `discover` read. -/
structure AppConfig extends Config where
  /-- `Port`: the server's port, and the multicast port. -/
  port : Int
  /-- `HttpsEnabled`: the server uses TLS. -/
  httpsEnabled : Bool
  /-- `MulticastGroup`. -/
  multicastGroup : String

namespace AppConfig

/-- `MulticastConfig.MulticastAddr`, `fmt.Sprintf("%s:%d", cfg.MulticastGroup, cfg.Port)`. -/
def multicastAddr (cfg : AppConfig) : UdpAddr := ⟨cfg.multicastGroup, cfg.port.toNat⟩

/-- The `multicastDto` that `runServe` and `runDiscover` build for `NewMulticastDiscovery`: its
protocol follows `HttpsEnabled`. -/
def multicastDto (cfg : AppConfig) : MulticastDto :=
  ⟨cfg.alias, protocolVersion, cfg.deviceModel, cfg.deviceType, cfg.fingerprint, cfg.port,
    if cfg.httpsEnabled then "https" else "http", false, true⟩

end AppConfig

/-- The `MulticastDto` that `Service.Start` and `Service.Discover` build from their arguments and
install with `SetDto`: its protocol is always `"https"`. -/
def Service.dto («alias» : String) (port : Int) (fingerprint deviceType : String)
    (deviceModel : Option String) : MulticastDto :=
  ⟨«alias», protocolVersion, deviceModel, deviceType, fingerprint, port, "https", false, true⟩

/-! ## `serve` -/

/-- The flags of `serve` that change the configuration; `--quiet` and `--verbose` only set the
log level. -/
structure ServeFlags where
  /-- `--port`, `0` when not given. -/
  port : Int
  /-- `--http`. -/
  http : Bool
  pin : String
  «alias» : String
  dir : String

/-- `runServe`'s overrides of the configuration by the flags. -/
def ServeFlags.apply (flags : ServeFlags) (cfg : AppConfig) : AppConfig :=
  { cfg with
    port := if flags.port > 0 then flags.port else cfg.port
    httpsEnabled := if flags.http then false else cfg.httpsEnabled
    pin := if flags.pin ≠ "" then flags.pin else cfg.pin
    «alias» := if flags.alias ≠ "" then flags.alias else cfg.alias
    downloadDir := if flags.dir ≠ "" then flags.dir else cfg.downloadDir }

/-- The listener `Server.Start` serves on. -/
structure ServerInfo where
  scheme : String
  port : Int
  /-- The fingerprint its `/info` reports, `SecurityContext.CertificateHash`. -/
  fingerprint : String
  deriving DecidableEq

/-- `Server.Start(ctx)`, where `tls.X509KeyPair` fails with `keyPairErr` when that is `some`: a
listener on `0.0.0.0:cfg.Port`, with TLS when `cfg.HttpsEnabled`. -/
def serverStart (cfg : AppConfig) (keyPairErr : Option String) : Except String ServerInfo :=
  if cfg.httpsEnabled then
    match keyPairErr with
    | some err => .error ("failed to load TLS key pair: " ++ err)
    | none => .ok ⟨"https", cfg.port, cfg.fingerprint⟩
  else .ok ⟨"http", cfg.port, cfg.fingerprint⟩

/-- What a `serve` run sets up once `os.MkdirAll` has succeeded and `Service.Start` has run. -/
structure ServeSetup where
  /-- The configuration after the flags. -/
  cfg : AppConfig
  /-- The DTO `runServe` gives `NewMulticastDiscovery`. -/
  initialDto : MulticastDto
  multicastAddr : UdpAddr
  /-- `md.dto` after `Service.Start`'s `SetDto`. -/
  dto : MulticastDto
  /-- What `Server.Start` serves on, or its error. -/
  server : Except String ServerInfo

/-- `runServe` past `os.MkdirAll`. -/
def serveSetup (cfg : AppConfig) (flags : ServeFlags) (keyPairErr : Option String) :
    ServeSetup :=
  let cfg := flags.apply cfg
  ⟨cfg, cfg.multicastDto, cfg.multicastAddr,
    Service.dto cfg.alias cfg.port cfg.fingerprint cfg.deviceType cfg.deviceModel,
    serverStart cfg keyPairErr⟩

/-- `runServe(cfg, ...)`, where `os.MkdirAll` fails with `mkdirErr` when that is `some`. -/
def runServe (cfg : AppConfig) (flags : ServeFlags) (mkdirErr keyPairErr : Option String) :
    Except String ServeSetup :=
  match mkdirErr with
  | some err => .error ("failed to create download directory: " ++ err)
  | none => .ok (serveSetup cfg flags keyPairErr)

/-- The serving device as the network sees it: its IP, the group its listener joined and the
DTO it sends from. -/
def ServeSetup.device (setup : ServeSetup) (ip : String) : String × UdpAddr × MulticastDto :=
  (ip, setup.multicastAddr, setup.dto)

/-- The laptop's configuration: the receiver of the earlier modules, serving on the default port
and group with HTTPS enabled. -/
def laptopAppConfig : AppConfig := ⟨sampleConfig, 53317, true, "224.0.0.167"⟩

/-- `serve --http`. -/
def httpFlags : ServeFlags := ⟨0, true, "", "", ""⟩

/-- For every configuration and every flags, the serving device among any other devices, and
every run of the network: each datagram the device writes (an announcement or a response) has
the server's port and fingerprint and the protocol `"https"`; the server runs on that port with
that fingerprint and uses TLS only when `HttpsEnabled`. With `--http` the server speaks plain
HTTP while the device's first announcement says `"https"`. -/
theorem serve_advertises_https (cfg : AppConfig) (flags : ServeFlags)
    (keyPairErr : Option String) (ip : String) (others : List (String × UdpAddr × MulticastDto))
    (as : List NetAction) :
    (∀ dg ∈ ((Net.start ((serveSetup cfg flags keyPairErr).device ip :: others)).run as).sent,
      dg.origin = 0 →
        dg.payload.port = (flags.apply cfg).port ∧
        dg.payload.fingerprint = (flags.apply cfg).fingerprint ∧
        dg.payload.protocol = "https") ∧
    (∀ server, (serveSetup cfg flags keyPairErr).server = .ok server →
      server.port = (flags.apply cfg).port ∧
      server.fingerprint = (flags.apply cfg).fingerprint ∧
      server.scheme = if (flags.apply cfg).httpsEnabled then "https" else "http") ∧
    (serveSetup laptopAppConfig httpFlags none).server =
        .ok ⟨"http", 53317, laptopAppConfig.fingerprint⟩ ∧
      ((Net.start [(serveSetup laptopAppConfig httpFlags none).device "192.168.1.10"]).run
        [.announce 0 40000]).sent.map (·.payload.protocol) = ["https"] := by
  refine ⟨fun dg hdg horigin => ?_, fun server h => ?_, rfl, rfl⟩
  · obtain ⟨i, hi⟩ := List.getElem?_of_mem hdg
    obtain ⟨device, hdev, hpay⟩ := (Net.Reachable.start.run as).payload hi
    obtain rfl : (serveSetup cfg flags keyPairErr).device ip = device := by
      simpa [horigin] using hdev
    rw [hpay]
    exact ⟨rfl, rfl, rfl⟩
  · unfold serveSetup serverStart at h
    dsimp only at h
    split_ifs at h with hhttps
    · cases keyPairErr <;> cases h
      simp [hhttps]
    · cases h
      simp [hhttps]

/-- `serve --http` on the laptop, alone on the network, announcing once: the announcement says
`"https"`. -/
theorem serve_http_announcement_says_https :
    ∃ dg ∈ ((Net.start [(serveSetup laptopAppConfig httpFlags none).device "192.168.1.10"]).run
        [.announce 0 40000]).sent, dg.origin = 0 ∧ dg.payload.protocol = "https" :=
  ⟨_, List.mem_singleton_self _, rfl,
    ((serve_advertises_https laptopAppConfig httpFlags none "192.168.1.10" [] [.announce 0 40000]).1
      _ (List.mem_singleton_self _) rfl).2.2⟩

/-! ## `discover` -/

/-- The period of `Discover`'s `time.NewTicker(250 * time.Millisecond)`. -/
def tickInterval : Nat := 250 * 1000000

/-- A call of `Service.Discover(ctx, ...)` in progress. -/
structure Discovering where
  /-- The service's and its multicast discovery's state. -/
  node : Node
  /-- `StartListening` has run: a datagram for the discovery port reaches `handlePacket`. -/
  listening : Bool
  clock : Nat
  /-- When the ticker sends next. -/
  nextTick : Nat
  /-- When `ctx` is done. -/
  deadline : Nat
  /-- `lastDevices`, `none` while it is a nil slice. -/
  lastDevices : Option (List Nat)
  /-- What `Discover` returned, once it took `<-ctx.Done()`. -/
  returned : Option (Option (List Nat))
  deriving DecidableEq

/-- What happens while `Discover` runs. -/
inductive DiscoverEvent where
  | elapse (d : Nat)
  /-- `case <-ticker.C`. -/
  | tick
  /-- `case <-ctx.Done()`. -/
  | done
  /-- A datagram from `addr` that decodes to `dto` arrives at the device's discovery port. -/
  | packet (dto : MulticastDto) (addr : UdpAddr)
  /-- A pending handler goroutine for the object at `p` runs. -/
  | dispatch (p : Nat)
  deriving DecidableEq

namespace Discovering

/-- One event. The loop takes a tick or the deadline only while it runs and once the clock has
reached its time; without a listener a datagram is dropped. -/
def step (s : Discovering) : DiscoverEvent → Discovering
  | .elapse d => { s with clock := s.clock + d }
  | .tick =>
    if s.returned = none ∧ s.nextTick ≤ s.clock then
      { s with lastDevices := some (s.node.getDevices defaultDeviceTimeout s.clock)
               nextTick := (s.clock / tickInterval + 1) * tickInterval }
    else s
  | .done =>
    if s.returned = none ∧ s.deadline ≤ s.clock then { s with returned := some s.lastDevices }
    else s
  | .packet dto addr =>
    if s.listening then { s with node := (s.node.handlePacket dto addr s.clock).1 } else s
  | .dispatch p => { s with node := s.node.dispatch p s.clock }

/-- The events, in order. -/
def run (s : Discovering) (evs : List DiscoverEvent) : Discovering := evs.foldl step s

/-- `Discover` called at time 0 with deadline `deadline` on a service that `Start` has started
with `dto`. -/
def started (dto : MulticastDto) (deadline : Nat) : Discovering :=
  ⟨Node.start dto, true, 0, tickInterval, deadline, none, none⟩

end Discovering

/-- The call of `Service.Discover` in `runDiscover(cfg, timeout, ...)`, at time 0: the multicast
discovery has neither a handler nor a listener, its DTO is the one `Discover` installs, and the
deadline is `max(timeout, 10)` seconds away. -/
def runDiscover (cfg : AppConfig) (timeout : Int) : Discovering :=
  ⟨⟨Service.dto cfg.alias cfg.port cfg.fingerprint cfg.deviceType cfg.deviceModel, 0, [], ∅, ∅,
    []⟩, false, 0, tickInterval, (max timeout 10).toNat * 1000000000, none, none⟩

/-- `runDiscover`'s last step, `app.displayDevices(foundDevices, *jsonOutput, *quiet,
"multicast discovery")`, once `Discover` has returned `found`. -/
def discoverOutput (s : Discovering) (found : Option (List Nat)) (jsonOutput quiet : Bool) :
    Option Output :=
  displayDevices ((found.getD []).map s.node.deref) jsonOutput quiet "multicast discovery"

/-- What holds throughout `runDiscover`'s call of `Discover`: nothing listens and no handler was
registered, so the service's registry stays empty, and so do the polls and the result. -/
structure Unstarted (s : Discovering) : Prop where
  listening : s.listening = false
  pending : s.node.pending = []
  svcDevices : s.node.svcDevices = ∅
  lastDevices : ∀ r, s.lastDevices = some r → r = []
  returned : ∀ r, s.returned = some r → r.getD [] = []

namespace Unstarted

variable {s : Discovering}

theorem step (h : Unstarted s) : ∀ e, Unstarted (s.step e)
  | .elapse _ => ⟨h.listening, h.pending, h.svcDevices, h.lastDevices, h.returned⟩
  | .tick => by
    dsimp only [Discovering.step]
    split_ifs
    · refine ⟨h.listening, h.pending, h.svcDevices, fun r hr => ?_, h.returned⟩
      cases hr
      simp [Node.getDevices, h.svcDevices]
    · exact h
  | .done => by
    dsimp only [Discovering.step]
    split_ifs
    · refine ⟨h.listening, h.pending, h.svcDevices, h.lastDevices, fun r hr => ?_⟩
      cases hr
      cases hl : s.lastDevices with
      | none => rfl
      | some r => exact h.lastDevices r hl
    · exact h
  | .packet _ _ => by simpa [Discovering.step, h.listening] using h
  | .dispatch p => by
    have hnode : s.node.dispatch p s.clock = s.node := by simp [Node.dispatch, h.pending]
    simpa [Discovering.step, hnode] using h

theorem run (h : Unstarted s) (evs : List DiscoverEvent) : Unstarted (s.run evs) := by
  induction evs generalizing s with
  | nil => exact h
  | cons e evs ih => exact ih (h.step e)

end Unstarted

theorem unstarted_runDiscover (cfg : AppConfig) (timeout : Int) :
    Unstarted (runDiscover cfg timeout) :=
  ⟨rfl, rfl, rfl, by simp [runDiscover], by simp [runDiscover]⟩

/-- What the laptop's service sends with: `Service.Start`'s and `Discover`'s DTO. -/
def laptopServiceDto : MulticastDto :=
  Service.dto "Laptop" 53317 "5d41402abc4b2a76b9719d911017c592" "desktop" (some "GoDevice")

/-- One second after `discover` starts, the phone's announcement arrives; the last poll is at
ten seconds, and the deadline follows. -/
def phoneAnnouncedRun : List DiscoverEvent :=
  [.elapse 250000000, .tick, .elapse 750000000, .packet phoneDto ⟨"192.168.1.20", 40000⟩,
    .dispatch 0, .elapse 9000000000, .tick, .done]

/-- Polls at 250, 500 and 750 ms; the phone's announcement arrives at 900 ms and its handler
runs; the deadline fires at one second. -/
def pollGapRun : List DiscoverEvent :=
  [.elapse 250000000, .tick, .elapse 250000000, .tick, .elapse 250000000, .tick,
    .elapse 150000000, .packet phoneDto ⟨"192.168.1.20", 40000⟩, .dispatch 0, .elapse 100000000,
    .done]

/-- In every run of `discover`, whatever arrives and whenever the polls and the deadline come,
`Discover` returns no device and the table says so. When the phone's announcement arrives a
second in, before the deadline, the result is still empty. And on a started service, a device
registered after the last poll is fresh in the registry when the deadline fires but missing from
the result. -/
theorem discover_misses_reached_peers (cfg : AppConfig) (timeout : Int) :
    (∀ evs found, ((runDiscover cfg timeout).run evs).returned = some found →
      found.getD [] = [] ∧
      discoverOutput ((runDiscover cfg timeout).run evs) found false false =
        some (.text (goBytes "No devices found via multicast discovery\n"))) ∧
    ((runDiscover laptopAppConfig 5).run phoneAnnouncedRun).returned = some (some []) ∧
    ((Discovering.started laptopServiceDto 1000000000).run pollGapRun).returned =
      some (some []) ∧
    (((Discovering.started laptopServiceDto 1000000000).run pollGapRun).node.getDevices
      defaultDeviceTimeout 1000000000).map
        (((Discovering.started laptopServiceDto 1000000000).run pollGapRun).node.deref ·
          |>.fingerprint) = [phoneDto.fingerprint] := by
  refine ⟨fun evs found h => ?_, by decide, by decide, by decide⟩
  have hempty := ((unstarted_runDiscover cfg timeout).run evs).returned found h
  refine ⟨hempty, ?_⟩
  simp [discoverOutput, hempty, displayDevices, writeDevices, writeDevicesTable]

/-- `discover` on the laptop with a ten-second deadline, the phone announcing a second in: the
call returns, with no device. -/
theorem discover_phone_announced_found_nothing :
    ((runDiscover laptopAppConfig 5).run phoneAnnouncedRun).returned = some (some []) ∧
      (some [] : Option (List Nat)).getD [] = [] :=
  ⟨by decide, ((discover_misses_reached_peers laptopAppConfig 5).1 phoneAnnouncedRun (some [])
    (by decide)).1⟩

end LocalGo
