import LocalGo.Send
import LocalGo.Output

/-!
# Finding the recipient

`send.SendFile(ctx, cfg, filePath, recipientAlias, recipientPort)` looks for a device with the
recipient's alias before it calls `sendToDevice`. Each pass of its loop lists the host's IPv4
addresses (`network.GetLocalIPAddresses`), appends `127.0.0.1`, asks every candidate for `/info`
on the recipient's port (`HTTPDiscovery.ScanNetwork`), and takes the first device of the scan
with the recipient's alias; once `retryCtx` has expired at the top of the loop, it gives up.
`Application.runScan` (`localgo-cli scan`) scans the same addresses once, without `127.0.0.1`.

`GetLocalIPAddresses` returns the addresses the host's own interfaces carry, not the other hosts
of their networks, so both commands reach only the host they run on.

A `Pass` is what one pass of the loop meets: what `net.Interfaces()` returns, what the network
answers each goroutine of the scan, and the order in which the scan's threads move (`Scan.run`).
The passes `SendFile` makes are those that start before `retryCtx` expires.

* `getLocalIPAddresses` and `ownAddress_of_mem`: the four-byte forms of the IPv4 addresses
  of the interfaces that are up, not loopback and multicast.
* `Pass.scanNetwork_eq_some`: a scan that returns has a nil error and the devices of the
  successful probes, in some order.
* `sendFile_targets_own_address`: `SendFile` sends only to a device with the recipient's alias, on
  the recipient's port, at `127.0.0.1` or at one of the host's own addresses.
* `runScan_lists_own_addresses`: `localgo-cli scan` lists only devices at the host's own
  addresses, on the port it scans.
* `findRecipient_outcome`: when every scan returns, the search ends with a device or with the
  not-found error, and it ends with the error exactly when no probe of any pass reached a device
  with the alias: the scans' schedules decide which device is taken, never whether one is.
* `infoHandler`, `LocalServer.infoProbe` and `sendFile_to_localServer`: `fetchDeviceInfo` sends
  no `fingerprint`, so a LocalGo server answers every scan with its identity, its own host's
  included; `SendFile` to the alias of a LocalGo server on the same host delivers the file exactly
  when `sendToDevice` does.
* `sendFile_declares_recipient_as_sender`: that server records itself as the sender of the
  session, since `sendToDevice` declares the identity of the device it sends to.
-/

namespace LocalGo

/-- A `net.IP`: four bytes, or sixteen for an IPv6 address. -/
abbrev IP := List UInt8

namespace IP

/-- `ip.To4()`: the four bytes of an IPv4 address, given in four bytes or in sixteen as an
IPv4-mapped IPv6 address, and `nil` for any other. -/
def to4 (ip : IP) : Option IP :=
  if ip.length = 4 then some ip
  else if ip.length = 16 ∧ ip.take 10 = List.replicate 10 0 ∧ (ip.drop 10).take 2 = [0xff, 0xff]
  then some (ip.drop 12)
  else none

/-- `ip.String()` of a four-byte IP: its bytes in decimal, joined by dots. -/
def string (ip : IP) : String := ".".intercalate (ip.map fun b => toString b.toNat)

/-- `To4` returns four bytes. -/
theorem length_of_to4 {ip b : IP} (h : ip.to4 = some b) : b.length = 4 := by
  unfold to4 at h
  split_ifs at h with h4 h16 <;> cases h
  · exact h4
  · simp [h16.1]

end IP

/-- A `net.Addr` of an interface. -/
inductive InterfaceAddr where
  /-- An `*net.IPNet`, with its `IP`. -/
  | ipNet (ip : IP)
  /-- Another implementation of `net.Addr`, which the type assertion skips. -/
  | other

/-- A `net.Interface`: the three flags `GetLocalIPAddresses` tests, and what `i.Addrs()`
returns. -/
structure Interface where
  up : Bool
  loopback : Bool
  multicast : Bool
  addrs : Except String (List InterfaceAddr)

/-- The address the inner loop of `GetLocalIPAddresses` appends for `addr`, if any. -/
def InterfaceAddr.ipv4 : InterfaceAddr → Option IP
  | .ipNet ip => ip.to4
  | .other => none

/-- The addresses `GetLocalIPAddresses` collects from one interface: none from an interface
that is down, loopback or not multicast, or whose `Addrs()` fails. -/
def Interface.ipv4Addrs (i : Interface) : List IP :=
  if i.up = false ∨ i.loopback = true ∨ i.multicast = false then []
  else
    match i.addrs with
    | .error _ => []
    | .ok addrs => addrs.filterMap InterfaceAddr.ipv4

/-- `network.GetLocalIPAddresses()`, given what `net.Interfaces()` returns. -/
def getLocalIPAddresses : Except String (List Interface) → Except String (List IP)
  | .error err => .error ("failed to get network interfaces: " ++ err)
  | .ok ifaces => .ok (ifaces.flatMap Interface.ipv4Addrs)

/-- `ip` is the dotted form of an IPv4 address carried by one of `ifaces` that is up, not
loopback and multicast: an address of the host itself. -/
def OwnAddress (ifaces : List Interface) (ip : String) : Prop :=
  ∃ i ∈ ifaces, i.up = true ∧ i.loopback = false ∧ i.multicast = true ∧
    ∃ addrs raw b, i.addrs = .ok addrs ∧ .ipNet raw ∈ addrs ∧ raw.to4 = some b ∧ ip = b.string

@[simp]
theorem InterfaceAddr.ipv4_eq_some_iff {a : InterfaceAddr} {b : IP} :
    a.ipv4 = some b ↔ ∃ raw, a = .ipNet raw ∧ raw.to4 = some b := by
  cases a <;> simp [InterfaceAddr.ipv4]

theorem mem_ipv4Addrs {i : Interface} {b : IP} :
    b ∈ i.ipv4Addrs ↔ i.up = true ∧ i.loopback = false ∧ i.multicast = true ∧
      ∃ addrs raw, i.addrs = .ok addrs ∧ .ipNet raw ∈ addrs ∧ raw.to4 = some b := by
  rcases i with ⟨up, loopback, multicast, _ | addrs⟩ <;> cases up <;> cases loopback <;>
    cases multicast <;> simp [Interface.ipv4Addrs]
  exact ⟨fun ⟨_, ha, raw, he, h⟩ => ⟨raw, he ▸ ha, h⟩, fun ⟨raw, ha, h⟩ => ⟨_, ha, raw, rfl, h⟩⟩

theorem getLocalIPAddresses_eq_ok {interfaces : Except String (List Interface)}
    {ips : List IP} :
    getLocalIPAddresses interfaces = .ok ips ↔
      ∃ ifaces, interfaces = .ok ifaces ∧ ips = ifaces.flatMap Interface.ipv4Addrs := by
  cases interfaces <;> simp [getLocalIPAddresses, eq_comm]

/-- Every address `GetLocalIPAddresses` returns is four bytes long and an address of the host
itself. -/
theorem ownAddress_of_mem {ifaces : List Interface} {b : IP}
    (hb : b ∈ ifaces.flatMap Interface.ipv4Addrs) : b.length = 4 ∧ OwnAddress ifaces b.string := by
  obtain ⟨i, hi, hb⟩ := List.mem_flatMap.1 hb
  obtain ⟨hup, hlo, hmc, addrs, raw, haddrs, hraw, hto4⟩ := mem_ipv4Addrs.1 hb
  exact ⟨IP.length_of_to4 hto4, i, hi, hup, hlo, hmc, addrs, raw, b, haddrs, hraw, hto4, rfl⟩

/-- What one pass of `SendFile`'s loop, or `runScan`'s one scan, meets: what `net.Interfaces()`
returns, what the network answers each goroutine `ScanNetwork` starts, and the order in which
the scan's threads move. -/
structure Pass where
  interfaces : Except String (List Interface)
  probe : Nat → Probe
  schedule : List ScanAction

/-- What `ScanNetwork(ctx, ips, port)` returns on this pass; `none` when the schedule stops
before the caller returns. -/
def Pass.scanNetwork (pass : Pass) (ips : List String) (port : Int) :
    Option (List Device × Option String) :=
  ((Scan.start ips).run port pass.probe pass.schedule).bind fun s =>
    match s.caller with
    | .returned devices err => some (devices, err)
    | _ => none

/-- A run of `ScanNetwork` that has returned did so with a nil error and the devices of the
successful probes, in some order. -/
theorem Scan.returned_of_run {ips : List String} {port : Int} {probe : Nat → Probe}
    {as : List ScanAction} {s : Scan} {devices : List Device} {err : Option String}
    (hrun : (Scan.start ips).run port probe as = some s) (hc : s.caller = .returned devices err) :
    err = none ∧ devices.Perm (ips.enum.filterMap fun c => (probe c.1).device c.2 port) := by
  have hi := scanInv_run (ScanInv.start ips port probe) hrun
  obtain ⟨rfl, rfl, hb⟩ := hi.returned devices err hc
  refine ⟨rfl, ?_⟩
  have hips : s.goroutines.map Goroutine.ip = ips := by
    simpa [hc, Caller.unspawned] using hi.spawned
  have hsent := filterMap_sent_of_done port probe 0 s.goroutines
    (fun i g hg => by simpa using hi.agrees i g hg) (hi.done (by simp [hc, Caller.waited]))
  rw [hips] at hsent
  simpa [hb, hsent, List.enum] using hi.channel

theorem Pass.scanNetwork_eq_some {pass : Pass} {ips : List String} {port : Int}
    {devices : List Device} {err : Option String}
    (h : pass.scanNetwork ips port = some (devices, err)) :
    err = none ∧ devices.Perm (ips.enum.filterMap fun c => (pass.probe c.1).device c.2 port) := by
  obtain ⟨s, hrun, hs⟩ := Option.bind_eq_some.1 h
  split at hs
  · cases hs
    exact Scan.returned_of_run hrun ‹_›
  · cases hs

/-- A device a scan returns is what the probe of one of its candidates gave. -/
theorem Pass.mem_scanNetwork {pass : Pass} {ips : List String} {port : Int}
    {devices : List Device} {err : Option String}
    (h : pass.scanNetwork ips port = some (devices, err)) {d : Device} (hd : d ∈ devices) :
    ∃ i ip, ips[i]? = some ip ∧ (pass.probe i).device ip port = some d := by
  obtain ⟨⟨i, ip⟩, hc, hdev⟩ :=
    List.mem_filterMap.1 ((Pass.scanNetwork_eq_some h).2.subset hd)
  exact ⟨i, ip, List.mk_mem_enum_iff_getElem?.1 hc, hdev⟩

/-- The candidates of one pass of `SendFile`: the host's addresses, then `127.0.0.1`
(`net.ParseIP("127.0.0.1").String()`). -/
def sendCandidates (ips : List IP) : List String := ips.map IP.string ++ ["127.0.0.1"]

theorem mem_sendCandidates {ips : List IP} {ip : String} (h : ip ∈ sendCandidates ips) :
    ip = "127.0.0.1" ∨ ∃ b ∈ ips, b.string = ip := by
  simpa [sendCandidates, or_comm] using h

/-- The error `SendFile` returns when `retryCtx` expires. -/
def notFound (recipientAlias : String) : String :=
  "recipient '" ++ recipientAlias ++ "' not found after multiple attempts"

/-- `SendFile`'s loop, over the passes it makes before `retryCtx` expires: a pass whose
`GetLocalIPAddresses` or scan fails, or whose scan finds no device with the alias, is followed
by the next; `none` when a pass's schedule stops before `ScanNetwork` returns. -/
def findRecipient (recipientAlias : String) (port : Int) :
    List Pass → Option (Except String Device)
  | [] => some (.error (notFound recipientAlias))
  | pass :: passes =>
    match getLocalIPAddresses pass.interfaces with
    | .error _ => findRecipient recipientAlias port passes
    | .ok ips =>
      match pass.scanNetwork (sendCandidates ips) port with
      | none => none
      | some (_, some _) => findRecipient recipientAlias port passes
      | some (devices, none) =>
        match devices.find? fun device => device.alias == recipientAlias with
        | some device => some (.ok device)
        | none => findRecipient recipientAlias port passes

/-- Every scan of these passes returns: each schedule takes `ScanNetwork` to its return. -/
def ScansReturn (port : Int) (passes : List Pass) : Prop :=
  ∀ pass ∈ passes, ∀ ips, getLocalIPAddresses pass.interfaces = .ok ips →
    (pass.scanNetwork (sendCandidates ips) port).isSome

/-- The probe of some candidate of some pass reached a device with the alias. -/
def AliasProbed (recipientAlias : String) (port : Int) (passes : List Pass) : Prop :=
  ∃ pass ∈ passes, ∃ ips, getLocalIPAddresses pass.interfaces = .ok ips ∧
    ∃ i ip d, (sendCandidates ips)[i]? = some ip ∧ (pass.probe i).device ip port = some d ∧
      d.alias = recipientAlias

/-- The device of a successful probe is among those the scan returns. -/
theorem Pass.mem_scanNetwork_of_probe {pass : Pass} {ips : List String} {port : Int}
    {devices : List Device} {err : Option String}
    (h : pass.scanNetwork ips port = some (devices, err)) {i : Nat} {ip : String} {d : Device}
    (hi : ips[i]? = some ip) (hd : (pass.probe i).device ip port = some d) : d ∈ devices :=
  (Pass.scanNetwork_eq_some h).2.symm.subset
    (List.mem_filterMap.2 ⟨(i, ip), List.mk_mem_enum_iff_getElem?.2 hi, hd⟩)

section Search

variable {recipientAlias : String} {port : Int} {pass : Pass} {passes : List Pass}

/-- One pass of the search: it ends with a device of its own scan with the alias, or the search
goes on with the next passes. -/
theorem findRecipient_cons_eq_ok {device : Device}
    (h : findRecipient recipientAlias port (pass :: passes) = some (.ok device)) :
    findRecipient recipientAlias port passes = some (.ok device) ∨
      device.alias = recipientAlias ∧ ∃ ips, getLocalIPAddresses pass.interfaces = .ok ips ∧
        ∃ i ip, (sendCandidates ips)[i]? = some ip ∧ (pass.probe i).device ip port = some device := by
  unfold findRecipient at h
  split at h
  · exact .inl h
  · rename_i ips hips
    split at h
    · cases h
    · exact .inl h
    · rename_i devices hscan
      split at h
      · rename_i d hfind
        cases h
        obtain ⟨i, ip, hi, hdev⟩ := Pass.mem_scanNetwork hscan (List.mem_of_find?_eq_some hfind)
        exact .inr ⟨by simpa using List.find?_some hfind, ips, hips, i, ip, hi, hdev⟩
      · exact .inl h

/-- One pass of the search that goes on to the next: no probe of its scan reached a device with
the alias. -/
theorem findRecipient_cons_eq_error {err : String}
    (h : findRecipient recipientAlias port (pass :: passes) = some (.error err)) :
    findRecipient recipientAlias port passes = some (.error err) ∧
      ∀ ips, getLocalIPAddresses pass.interfaces = .ok ips →
        ∀ i ip d, (sendCandidates ips)[i]? = some ip → (pass.probe i).device ip port = some d →
          d.alias ≠ recipientAlias := by
  unfold findRecipient at h
  split at h
  · rename_i e hips
    exact ⟨h, fun ips h' => by simp [hips] at h'⟩
  · rename_i ips hips
    split at h
    · cases h
    · rename_i e hscan
      exact absurd (Pass.scanNetwork_eq_some hscan).1 (by simp)
    · rename_i devices hscan
      split at h
      · cases h
      · rename_i hfind
        refine ⟨h, fun ips' hips' i ip d hi hd halias => ?_⟩
        obtain rfl : ips' = ips := by simpa [hips] using hips'.symm
        have hmem := Pass.mem_scanNetwork_of_probe hscan hi hd
        simpa [halias] using List.find?_eq_none.1 hfind d hmem

/-- The device the search ends with has the alias, and the probe of a candidate of one of the
passes gave it. -/
theorem findRecipient_eq_ok :
    ∀ {passes : List Pass} {device : Device},
      findRecipient recipientAlias port passes = some (.ok device) →
      device.alias = recipientAlias ∧ ∃ pass ∈ passes, ∃ ips,
        getLocalIPAddresses pass.interfaces = .ok ips ∧
        ∃ i ip, (sendCandidates ips)[i]? = some ip ∧ (pass.probe i).device ip port = some device
  | [], _, h => by simp [findRecipient] at h
  | pass :: _, _, h =>
    match findRecipient_cons_eq_ok h with
    | .inl h =>
      let ⟨halias, p, hp, rest⟩ := findRecipient_eq_ok h
      ⟨halias, p, List.mem_cons_of_mem _ hp, rest⟩
    | .inr ⟨halias, rest⟩ => ⟨halias, pass, List.mem_cons_self _ _, rest⟩

/-- The search ends with an error only after every pass, when no probe reached a device with
the alias, and the error is the not-found one. -/
theorem findRecipient_eq_error :
    ∀ {passes : List Pass} {err : String},
      findRecipient recipientAlias port passes = some (.error err) →
      err = notFound recipientAlias ∧ ¬AliasProbed recipientAlias port passes
  | [], _, h => by
    simp only [findRecipient, Option.some.injEq, Except.error.injEq] at h
    exact ⟨h.symm, by simp [AliasProbed]⟩
  | pass :: _, _, h => by
    obtain ⟨htail, hpass⟩ := findRecipient_cons_eq_error h
    obtain ⟨herr, hnone⟩ := findRecipient_eq_error htail
    refine ⟨herr, fun ⟨p, hp, ips, hips, i, ip, d, hi, hd, halias⟩ => ?_⟩
    rcases List.mem_cons.1 hp with rfl | hp
    · exact hpass ips hips i ip d hi hd halias
    · exact hnone ⟨p, hp, ips, hips, i, ip, d, hi, hd, halias⟩

/-- When every scan returns, the search ends. -/
theorem findRecipient_isSome :
    ∀ {passes : List Pass}, ScansReturn port passes →
      (findRecipient recipientAlias port passes).isSome
  | [], _ => rfl
  | pass :: passes, hret => by
    have next : (findRecipient recipientAlias port passes).isSome :=
      findRecipient_isSome fun p hp => hret p (List.mem_cons_of_mem _ hp)
    unfold findRecipient
    split
    · exact next
    · rename_i ips hips
      obtain ⟨⟨devices, err⟩, hscan⟩ :=
        Option.isSome_iff_exists.1 (hret pass (List.mem_cons_self _ _) ips hips)
      rw [hscan]
      obtain rfl := (Pass.scanNetwork_eq_some hscan).1
      dsimp only
      split
      · rfl
      · exact next

end Search

/-- `config.DefaultPort`. -/
def defaultPort : Int := 53317

section SendFile

variable {σ : Type} (client : Call → σ → Reply × σ)

/-- `SendFile(ctx, cfg, filePath, recipientAlias, recipientPort)` over the passes its loop
makes; `none` when a pass's schedule stops before `ScanNetwork` returns. -/
def sendFile (recipientAlias : String) (recipientPort : Int) (passes : List Pass)
    (filePath : String) (file : LocalFile) (fileId : Uuid) (s : σ) : Option (Option String × σ) :=
  (findRecipient recipientAlias (if recipientPort = 0 then defaultPort else recipientPort)
      passes).map fun
    | .error err => (some err, s)
    | .ok device => sendToDevice client device filePath file fileId s

end SendFile

/-- `Application.runScan(cfg, timeout, port, jsonOutput, quiet)` on the one scan it makes: the
port flag when it is positive and the configured port otherwise; what `displayDevices` prints,
`none` inside when it panics; `none` when the schedule stops before `ScanNetwork` returns. -/
def runScan (cfgPort portFlag : Int) (jsonOutput quiet : Bool) (pass : Pass) :
    Option (Except String (Option Output)) :=
  match getLocalIPAddresses pass.interfaces with
  | .error err => some (.error ("failed to get local network IPs: " ++ err))
  | .ok ips =>
    (pass.scanNetwork (ips.map IP.string) (if portFlag > 0 then portFlag else cfgPort)).map
      fun r => .ok (displayDevices r.1 jsonOutput quiet "HTTP scan")

/-- `DiscoveryHandler.InfoHandler` on a device whose security context is set: `412` to a
request whose `fingerprint` parameter is the device's own, and otherwise `200` with the device's
`InfoDto`. -/
def infoHandler (cfg : Config) (r : Request) : Except Response InfoDto :=
  if r.get "fingerprint" ≠ "" ∧ r.get "fingerprint" = cfg.fingerprint then
    .error (respondError 412 "Self-discovered")
  else .ok ⟨cfg.alias, protocolVersion, cfg.deviceModel, cfg.deviceType, cfg.fingerprint, false⟩

namespace LocalServer

/-- What the scanner's `GET <scheme>://ip:port/api/localsend/v2/info` gets from a LocalGo server
listening on `serverPort`, over TLS exactly when `tls`, that sees the call come from `remoteIP`:
a call to another port, or a TLS handshake with a plain server, fails with `netErr`; a plain
request to a TLS server gets the `400` text Go's TLS server writes, which is no JSON; otherwise
`InfoHandler` answers the request, which has no query parameters. An error body,
`{"error": ...}`, decodes into a zero `InfoDto`. -/
def infoReply (cfg : Config) (tls : Bool) (serverPort : Int) (netErr remoteIP scheme : String)
    (port : Int) : InfoReply :=
  if port ≠ serverPort ∨ (scheme = "https" ∧ tls = false) then .error netErr
  else if scheme ≠ "https" ∧ tls = true then
    .response 400 (.parseError "invalid character 'C' looking for beginning of value")
  else
    match infoHandler cfg ⟨"GET", [], remoteIP, none, []⟩ with
    | .ok dto => .response 200 (.infoDto dto)
    | .error resp => .response resp.status (.infoDto ⟨"", "", none, "", "", false⟩)

/-- What one goroutine of a scan on `port` gets from this server: its HTTPS request returns at
`httpsNow`, its HTTP one at `httpNow`. -/
def infoProbe (cfg : Config) (tls : Bool) (serverPort : Int) (netErr remoteIP : String)
    (port : Int) (httpsNow httpNow : Nat) : Probe :=
  ⟨infoReply cfg tls serverPort netErr remoteIP "https" port, httpsNow,
    infoReply cfg tls serverPort netErr remoteIP "http" port, httpNow⟩

/-- A scan on the server's port finds the server, whatever its fingerprint, with the identity
`InfoHandler` answers and the scheme the server speaks: `fetchDeviceInfo` sends no
`fingerprint`, so the self-discovery check never fires. On another port it finds nothing. -/
theorem infoProbe_device (cfg : Config) (tls : Bool) (serverPort : Int) (netErr remoteIP : String)
    (port : Int) (httpsNow httpNow : Nat) (ip : String) :
    (infoProbe cfg tls serverPort netErr remoteIP port httpsNow httpNow).device ip port =
      if port = serverPort then
        some ⟨ip, protocolVersion, port, cfg.alias, scheme tls, cfg.fingerprint, cfg.deviceModel,
          cfg.deviceType, false, if tls then httpsNow else httpNow, true⟩
      else none := by
  by_cases hport : port = serverPort <;> cases tls <;>
    simp [infoProbe, infoReply, infoHandler, Request.get, Probe.device, fetchDeviceInfo, scheme,
      hport]

end LocalServer

/-- `SendFile` talks only to a device with the recipient's alias, on the recipient's port
(`53317` for `0`), at `127.0.0.1` or at an IPv4 address of one of the host's own interfaces: it
never reaches another host. It ends either with `sendToDevice`'s result for that device, or with
the not-found error and no call made. -/
theorem sendFile_targets_own_address {σ : Type} (client : Call → σ → Reply × σ)
    (recipientAlias : String) (recipientPort : Int) (passes : List Pass) (filePath : String)
    (file : LocalFile) (fileId : Uuid) (s : σ) (r : Option String × σ)
    (h : sendFile client recipientAlias recipientPort passes filePath file fileId s = some r) :
    r = (some (notFound recipientAlias), s) ∨
      ∃ device, r = sendToDevice client device filePath file fileId s ∧
        device.alias = recipientAlias ∧
        device.port = (if recipientPort = 0 then defaultPort else recipientPort) ∧
        (device.ip = "127.0.0.1" ∨
          ∃ pass ∈ passes, ∃ ifaces, pass.interfaces = .ok ifaces ∧ OwnAddress ifaces device.ip) := by
  obtain ⟨res, hres, rfl⟩ := Option.map_eq_some'.1 h
  cases res with
  | error err => exact .inl (by rw [(findRecipient_eq_error hres).1])
  | ok device =>
    obtain ⟨halias, pass, hpass, ips, hips, i, ip, hi, hdev⟩ := findRecipient_eq_ok hres
    obtain ⟨rfl, hport⟩ := Probe.device_eq_some hdev
    refine .inr ⟨device, rfl, halias, hport, ?_⟩
    rcases mem_sendCandidates (List.getElem?_mem hi) with h127 | ⟨b, hb, hip⟩
    · exact .inl h127
    · obtain ⟨ifaces, hifaces, rfl⟩ := getLocalIPAddresses_eq_ok.1 hips
      exact .inr ⟨pass, hpass, ifaces, hifaces, hip ▸ (ownAddress_of_mem hb).2⟩

/-- A host with a loopback interface and a Wi-Fi interface at `192.168.1.5`. -/
def laptopInterfaces : List Interface :=
  [⟨true, true, false, .ok [.ipNet [127, 0, 0, 1]]⟩,
    ⟨true, false, true, .ok [.ipNet [192, 168, 1, 5]]⟩]

/-- What the host's LocalGo server (`sampleConfig`, over HTTP on `53317`) answers every
goroutine of a scan. -/
def laptopProbe : Nat → Probe :=
  fun _ => LocalServer.infoProbe sampleConfig false 53317 "connection refused" "127.0.0.1" 53317 3 4

/-- A pass of `SendFile` on that host: the scan starts both goroutines, each fetches, sends and
finishes, and the caller waits, drains the channel and returns. -/
def laptopPass : Pass :=
  ⟨.ok laptopInterfaces, laptopProbe,
    [.caller, .caller, .caller, .goroutine 0, .goroutine 0, .goroutine 0, .goroutine 1,
      .goroutine 1, .goroutine 1, .caller, .caller, .caller, .caller]⟩

/-- `SendFile` for the alias `Laptop` on a host where the only LocalGo server is its own: the
search ends, with the not-found error or with a send to a device called `Laptop` on the default
port, at the loopback address or at an address of the host's own interfaces. -/
theorem sendFile_laptop_target :
    ∃ r, sendFile (fun _ s => (.error "connection refused", s)) "Laptop" 0 [laptopPass]
        "/home/user/notes.txt" sampleLocalFile uuidC () = some r ∧
      (r = (some (notFound "Laptop"), ()) ∨
        ∃ device, r = sendToDevice (fun _ s => (.error "connection refused", s)) device
            "/home/user/notes.txt" sampleLocalFile uuidC () ∧
          device.alias = "Laptop" ∧ device.port = (if (0 : Int) = 0 then defaultPort else 0) ∧
          (device.ip = "127.0.0.1" ∨ ∃ pass ∈ [laptopPass], ∃ ifaces,
            pass.interfaces = .ok ifaces ∧ OwnAddress ifaces device.ip)) :=
  ⟨_, rfl, sendFile_targets_own_address _ "Laptop" 0 [laptopPass] "/home/user/notes.txt"
    sampleLocalFile uuidC () _ rfl⟩

/-- `localgo-cli scan` lists only devices at IPv4 addresses of the host's own interfaces, on the
port it scans: the `--port` flag when positive, the configured port otherwise. -/
theorem runScan_lists_own_addresses (cfgPort portFlag : Int) (jsonOutput quiet : Bool)
    (pass : Pass) (out : Option Output)
    (h : runScan cfgPort portFlag jsonOutput quiet pass = some (.ok out)) :
    ∃ ifaces devices, pass.interfaces = .ok ifaces ∧
      out = displayDevices devices jsonOutput quiet "HTTP scan" ∧
      ∀ d ∈ devices, d.port = (if portFlag > 0 then portFlag else cfgPort) ∧
        OwnAddress ifaces d.ip := by
  unfold runScan at h
  split at h
  · cases h
  · rename_i ips hips
    obtain ⟨ifaces, hifaces, rfl⟩ := getLocalIPAddresses_eq_ok.1 hips
    obtain ⟨⟨devices, err⟩, hscan, hout⟩ := Option.map_eq_some'.1 h
    cases hout
    refine ⟨ifaces, devices, hifaces, rfl, fun d hd => ?_⟩
    obtain ⟨i, ip, hi, hdev⟩ := Pass.mem_scanNetwork hscan hd
    obtain ⟨rfl, hport⟩ := Probe.device_eq_some hdev
    obtain ⟨b, hb, hip⟩ := List.mem_map.1 (List.getElem?_mem hi)
    exact ⟨hport, hip ▸ (ownAddress_of_mem hb).2⟩

/-- `localgo-cli scan` on the same host: one candidate, fetched, sent and drained. -/
def laptopScanPass : Pass :=
  ⟨.ok laptopInterfaces, laptopProbe,
    [.caller, .caller, .goroutine 0, .goroutine 0, .goroutine 0, .caller, .caller, .caller]⟩

/-- `localgo-cli scan` on that host returns a listing whose devices are all on port `53317`, at
addresses of the host's own interfaces. -/
theorem runScan_laptop_lists_own_address :
    ∃ out, runScan 53317 0 true false laptopScanPass = some (.ok out) ∧
      ∃ ifaces devices, laptopScanPass.interfaces = .ok ifaces ∧
        out = displayDevices devices true false "HTTP scan" ∧
        ∀ d ∈ devices, d.port = (if (0 : Int) > 0 then 0 else 53317) ∧ OwnAddress ifaces d.ip :=
  ⟨_, rfl, runScan_lists_own_addresses 53317 0 true false laptopScanPass _ rfl⟩

/-- When every scan returns, `SendFile`'s search ends, and it ends with the not-found error
exactly when no probe of any pass reached a device with the alias; otherwise with a device with
the alias, which a probe of one of the passes gave. The scans' schedules decide which device is
taken, never whether one is, and the error branch after `ScanNetwork` is never taken. -/
theorem findRecipient_outcome (recipientAlias : String) (port : Int) (passes : List Pass)
    (hret : ScansReturn port passes) :
    (findRecipient recipientAlias port passes = some (.error (notFound recipientAlias)) ↔
      ¬AliasProbed recipientAlias port passes) ∧
    (AliasProbed recipientAlias port passes →
      ∃ device, findRecipient recipientAlias port passes = some (.ok device) ∧
        device.alias = recipientAlias ∧ ∃ pass ∈ passes, ∃ ips,
          getLocalIPAddresses pass.interfaces = .ok ips ∧ ∃ i ip,
            (sendCandidates ips)[i]? = some ip ∧ (pass.probe i).device ip port = some device) := by
  obtain ⟨res, hres⟩ := Option.isSome_iff_exists.1
    (findRecipient_isSome hret : (findRecipient recipientAlias port passes).isSome)
  rw [hres]
  cases res with
  | error err =>
    obtain ⟨rfl, hnone⟩ := findRecipient_eq_error hres
    exact ⟨iff_of_true rfl hnone, fun h => absurd h hnone⟩
  | ok device =>
    obtain ⟨halias, pass, hpass, ips, hips, i, ip, hi, hdev⟩ := findRecipient_eq_ok hres
    have hprobed : AliasProbed recipientAlias port passes :=
      ⟨pass, hpass, ips, hips, i, ip, device, hi, hdev, halias⟩
    exact ⟨iff_of_false (by simp) (not_not.2 hprobed),
      fun _ => ⟨device, rfl, halias, pass, hpass, ips, hips, i, ip, hi, hdev⟩⟩

/-- The scan of `laptopPass` returns. -/
theorem laptopPass_scansReturn : ScansReturn 53317 [laptopPass] := by
  intro pass hp ips hips
  obtain rfl := List.mem_singleton.1 hp
  obtain ⟨ifaces, hifaces, rfl⟩ := getLocalIPAddresses_eq_ok.1 hips
  cases hifaces
  rfl

/-- On that host every scan returns, and the search for `Phone` ends with the not-found error
exactly when no probe reached a device called `Phone`. -/
theorem findRecipient_laptop_outcome :
    ScansReturn 53317 [laptopPass] ∧
      (findRecipient "Phone" 53317 [laptopPass] = some (.error (notFound "Phone")) ↔
        ¬AliasProbed "Phone" 53317 [laptopPass]) :=
  ⟨laptopPass_scansReturn, (findRecipient_outcome "Phone" 53317 [laptopPass]
    laptopPass_scansReturn).1⟩

open LocalServer in
/-- When one LocalGo server answers every candidate of every pass on the recipient's port, every
scan returns and some pass lists the interfaces, the search for the server's alias ends with the
server as `fetchDeviceInfo` builds it from `InfoHandler`'s answer: the server's identity, its
scheme and its port. -/
theorem findRecipient_localServer {cfg : Config} {tls : Bool} {port : Int} {netErr : String}
    {passes : List Pass}
    (hprobe : ∀ pass ∈ passes, ∀ i, ∃ callerIP httpsNow httpNow,
      pass.probe i = infoProbe cfg tls port netErr callerIP port httpsNow httpNow)
    (hret : ScansReturn port passes)
    (hifaces : ∃ pass ∈ passes, ∃ ifaces, pass.interfaces = .ok ifaces) :
    ∃ device, findRecipient cfg.alias port passes = some (.ok device) ∧
      device.alias = cfg.alias ∧ device.version = protocolVersion ∧
      device.deviceModel = cfg.deviceModel ∧ device.deviceType = cfg.deviceType ∧
      device.fingerprint = cfg.fingerprint ∧ device.protocol = scheme tls ∧ device.port = port := by
  have hprobed : AliasProbed cfg.alias port passes := by
    obtain ⟨pass, hpass, ifaces, hifaces⟩ := hifaces
    obtain ⟨callerIP, httpsNow, httpNow, hp⟩ :=
      hprobe pass hpass (ifaces.flatMap Interface.ipv4Addrs).length
    refine ⟨pass, hpass, _, by rw [hifaces]; rfl, (ifaces.flatMap Interface.ipv4Addrs).length,
      "127.0.0.1", _, by simp [sendCandidates, List.getElem?_append_right],
      by rw [hp, infoProbe_device, if_pos rfl], rfl⟩
  obtain ⟨res, hres⟩ := Option.isSome_iff_exists.1
    (findRecipient_isSome hret : (findRecipient cfg.alias port passes).isSome)
  cases res with
  | error err => exact absurd hprobed (findRecipient_eq_error hres).2
  | ok device =>
    obtain ⟨-, pass, hpass, ips, -, i, ip, -, hdev⟩ := findRecipient_eq_ok hres
    obtain ⟨callerIP, httpsNow, httpNow, hp⟩ := hprobe pass hpass i
    rw [hp, infoProbe_device, if_pos rfl] at hdev
    cases hdev
    exact ⟨_, hres, rfl, rfl, rfl, rfl, rfl, rfl, rfl⟩

open LocalServer in
/-- `SendFile` to the alias of a LocalGo server that answers every candidate of every pass (a
server on the sending host, which `127.0.0.1` and the host's own addresses reach), on the
recipient's port, when every scan returns and some pass lists the interfaces: the search finds
the server, and the transfer returns `nil` exactly when the file can be read, the server has no
PIN and no active session, and its write succeeds; the server has then saved the bytes the
sender read at `filepath.Join(DownloadDir, filepath.Base(filePath))` and is idle again. -/
theorem sendFile_to_localServer (cfg : Config) (tls : Bool) (port : Int) (netErr : String)
    (remoteIP : String → String) (oracles : Nat → Oracle) (srv : Server) (k : Nat)
    (recipientPort : Int) (passes : List Pass) (filePath : String) (file : LocalFile)
    (fileId : Uuid) (hport : (if recipientPort = 0 then defaultPort else recipientPort) = port)
    (hprobe : ∀ pass ∈ passes, ∀ i, ∃ callerIP httpsNow httpNow,
      pass.probe i = infoProbe cfg tls port netErr callerIP port httpsNow httpNow)
    (hret : ScansReturn port passes)
    (hifaces : ∃ pass ∈ passes, ∃ ifaces, pass.interfaces = .ok ifaces) :
    ∃ r, sendFile (client cfg tls port netErr remoteIP oracles) cfg.alias recipientPort passes
        filePath file fileId (srv, k) = some r ∧
      (r.1 = none ↔ file.stat.isOk ∧ file.opened.isOk ∧ cfg.pin = "" ∧
        srv.receive.currentSession = none ∧ (oracles (k + 1)).saved = true) ∧
      ∀ content, file.opened = .ok content → r.1 = none →
        r.2.1.sink =
          srv.sink ++ [⟨Filepath.join cfg.downloadDir (Filepath.base filePath), content⟩] ∧
        r.2.1.receive.currentSession = none := by
  obtain ⟨device, hres, -, -, -, -, -, hproto, hdport⟩ :=
    findRecipient_localServer hprobe hret hifaces
  have key := @sendToDevice_fst_eq_none_iff cfg tls port netErr remoteIP oracles srv k device
    filePath file fileId hproto hdport
  refine ⟨_, by rw [sendFile, hport, hres]; rfl, key, fun _ hopen hnone => ?_⟩
  exact sendToDevice_delivered cfg tls port netErr remoteIP oracles srv k filePath fileId hproto
    hdport hopen (key.1 hnone)

open LocalServer in
/-- `SendFile` for `Laptop` on that host delivers the file to the host's own server and returns
`nil`. -/
theorem sendFile_laptop_delivers :
    ∃ r, sendFile (client sampleConfig false 53317 "connection refused" (fun _ => "127.0.0.1")
        (fun _ => sampleOracle)) "Laptop" 0 [laptopPass] "/home/user/notes.txt" sampleLocalFile
        uuidC (.empty, 0) = some r ∧ r.1 = none := by
  obtain ⟨r, hr, hiff, -⟩ := sendFile_to_localServer sampleConfig false 53317 "connection refused"
    (fun _ => "127.0.0.1") (fun _ => sampleOracle) .empty 0 0 [laptopPass] "/home/user/notes.txt"
    sampleLocalFile uuidC rfl
    (fun pass hp _ => ⟨"127.0.0.1", 3, 4, by obtain rfl := List.mem_singleton.1 hp; rfl⟩)
    laptopPass_scansReturn ⟨laptopPass, List.mem_singleton_self _, laptopInterfaces, rfl⟩
  exact ⟨r, hr, hiff.2 ⟨rfl, rfl, rfl, rfl, rfl⟩⟩

open LocalServer in
/-- In the setting of `sendFile_to_localServer`, once the server accepts the declaration (the
file can be stat'ed, the server has no PIN and no active session), the session it opens records
as its sender the server's own alias, protocol version, model, type and fingerprint, whatever the
upload does next: `sendToDevice` declares the identity of the device it sends to, never the
sender's, so the server records itself as the sender. -/
theorem sendFile_declares_recipient_as_sender (cfg : Config) (tls : Bool) (port : Int)
    (netErr : String) (remoteIP : String → String) (oracles : Nat → Oracle) (srv : Server)
    (k : Nat) (recipientPort : Int) (passes : List Pass) (filePath : String) (file : LocalFile)
    (fileId : Uuid) (hport : (if recipientPort = 0 then defaultPort else recipientPort) = port)
    (hprobe : ∀ pass ∈ passes, ∀ i, ∃ callerIP httpsNow httpNow,
      pass.probe i = infoProbe cfg tls port netErr callerIP port httpsNow httpNow)
    (hret : ScansReturn port passes)
    (hifaces : ∃ pass ∈ passes, ∃ ifaces, pass.interfaces = .ok ifaces) {size : Int}
    (hstat : file.stat = .ok size) (hpin : cfg.pin = "")
    (hidle : srv.receive.currentSession = none) :
    ∃ r ip, sendFile (client cfg tls port netErr remoteIP oracles) cfg.alias recipientPort passes
        filePath file fileId (srv, k) = some r ∧
      (r.2.1.receive.deref srv.receive.heap.length).sessionId = (oracles k).sessionId.text ∧
      (r.2.1.receive.deref srv.receive.heap.length).sender =
        ⟨cfg.alias, protocolVersion, cfg.deviceModel, cfg.deviceType, cfg.fingerprint,
          remoteIP ip⟩ := by
  obtain ⟨device, hres, halias, hver, hmodel, htype, hfp, hproto, hdport⟩ :=
    findRecipient_localServer hprobe hret hifaces
  obtain ⟨hsid, hsender⟩ := @sendToDevice_session cfg tls port netErr remoteIP oracles srv k
    device filePath file fileId hproto hdport size hstat hpin hidle
  refine ⟨_, device.ip, by rw [sendFile, hport, hres]; rfl, hsid, ?_⟩
  rw [hsender, halias, hver, hmodel, htype, hfp]

open LocalServer in
/-- The session the host's own server opens for that send records the server itself, `Laptop`
with its model, type and fingerprint, as the sender. -/
theorem sendFile_laptop_records_itself :
    ∃ r, sendFile (client sampleConfig false 53317 "connection refused" (fun _ => "127.0.0.1")
        (fun _ => sampleOracle)) "Laptop" 0 [laptopPass] "/home/user/notes.txt" sampleLocalFile
        uuidC (.empty, 0) = some r ∧
      (r.2.1.receive.deref 0).sender =
        ⟨"Laptop", protocolVersion, some "GoDevice", "desktop", "5d41402abc4b2a76b9719d911017c592",
          "127.0.0.1"⟩ := by
  obtain ⟨r, _, hr, -, hsender⟩ := sendFile_declares_recipient_as_sender sampleConfig false 53317
    "connection refused" (fun _ => "127.0.0.1") (fun _ => sampleOracle) .empty 0 0 [laptopPass]
    "/home/user/notes.txt" sampleLocalFile uuidC rfl
    (fun pass hp _ => ⟨"127.0.0.1", 3, 4, by obtain rfl := List.mem_singleton.1 hp; rfl⟩)
    laptopPass_scansReturn ⟨laptopPass, List.mem_singleton_self _, laptopInterfaces, rfl⟩
    rfl rfl rfl
  exact ⟨r, hr, hsender⟩

end LocalGo
