import LocalGo.Discovery

/-!
# A device registry under upserts

`MulticastDiscovery.updateDevice` and `Service.updateDevice` have the same body: look the device's
fingerprint up; if it is there, call `UpdateLastSeen()` on the stored object; otherwise store the
new object under its fingerprint and start `go handler(device)` for every registered handler.
`Registry.updateDevice` is that body once, over one registry read through its pointers: every
caller passes a freshly allocated object, so no two entries share one and an entry is its
object's value.

* `registry_upsert_spec`: over any sequence of upserts and `AddDeviceHandler` calls from the
  empty registry, there is one entry per fingerprint upserted, under that fingerprint; it keeps
  every field of the first device upserted with it but `LastSeen` and `Available`; a later upsert
  of the fingerprint changes only those two fields of that entry; and the handlers registered
  before the first upsert are started once each for it, the others never.
* `listener_refines_registry`: along every run of a started service, the listener's registry of
  the `Node`, read through the heap, is the registry that `Service.Start`'s handler and one upsert
  per sighting processed leave (`Node.mdEntry_mdUpdateDevice` is the step); the service's registry
  holds that registry's entries for the fingerprints whose handler has run, as it stores the
  listener's objects.
-/

namespace LocalGo

/-- One device registry as `updateDevice` keeps it. -/
structure Registry where
  /-- The map, each entry read through its pointer. -/
  devices : GoMap Device
  /-- `len(handlers)`. -/
  handlers : Nat
  /-- Every `go handler(device)` started so far: the handler's index and the device. -/
  started : List (Nat × Device)

/-- What a registry is told next. -/
inductive RegistryEvent where
  /-- `AddDeviceHandler(handler)`. -/
  | addHandler
  /-- `updateDevice(device)` at time `now`. -/
  | upsert (device : Device) (now : Nat)
  deriving DecidableEq

namespace Registry

/-- The registry `make(map[string]*model.Device)` starts, with no handler. -/
def empty : Registry := ⟨∅, 0, []⟩

/-- `AddDeviceHandler(handler)`. -/
def addDeviceHandler (reg : Registry) : Registry := { reg with handlers := reg.handlers + 1 }

/-- `updateDevice(device)` at time `now`. -/
def updateDevice (reg : Registry) (device : Device) (now : Nat) : Registry :=
  match reg.devices.lookup device.fingerprint with
  | some existingDevice =>
    { reg with devices := reg.devices.insert device.fingerprint (existingDevice.updateLastSeen now) }
  | none =>
    { reg with
      devices := reg.devices.insert device.fingerprint device
      started := reg.started ++ (List.range reg.handlers).map fun h => (h, device) }

/-- One event. -/
def step (reg : Registry) : RegistryEvent → Registry
  | .addHandler => reg.addDeviceHandler
  | .upsert device now => reg.updateDevice device now

/-- The events, in order. -/
def run (reg : Registry) (evs : List RegistryEvent) : Registry := evs.foldl step reg

@[simp]
theorem run_append_singleton (reg : Registry) (evs : List RegistryEvent) (ev : RegistryEvent) :
    reg.run (evs ++ [ev]) = (reg.run evs).step ev := by
  simp [run, List.foldl_append]

theorem updateDevice_of_some {reg : Registry} {device existingDevice : Device} {now : Nat}
    (h : reg.devices.lookup device.fingerprint = some existingDevice) :
    reg.updateDevice device now =
      { reg with devices := reg.devices.insert device.fingerprint (existingDevice.updateLastSeen now) } := by
  simp [updateDevice, h]

theorem updateDevice_of_none {reg : Registry} {device : Device} {now : Nat}
    (h : reg.devices.lookup device.fingerprint = none) :
    reg.updateDevice device now =
      { reg with
        devices := reg.devices.insert device.fingerprint device
        started := reg.started ++ (List.range reg.handlers).map fun h => (h, device) } := by
  simp [updateDevice, h]

/-- An upsert adds the device's fingerprint to the keys. -/
theorem mem_updateDevice (reg : Registry) (device : Device) (now : Nat) (fp : String) :
    fp ∈ (reg.updateDevice device now).devices ↔ fp = device.fingerprint ∨ fp ∈ reg.devices := by
  simp only [updateDevice]
  split <;> exact AList.mem_insert _

/-- A handler registered so far is one `AddDeviceHandler` call. -/
theorem handlers_run (evs : List RegistryEvent) :
    (empty.run evs).handlers = evs.count .addHandler := by
  induction evs using List.reverseRecOn with
  | nil => rfl
  | append_singleton evs ev ih =>
    cases ev with
    | addHandler => simp [step, addDeviceHandler, ih]
    | upsert device now =>
      simp only [run_append_singleton, step, updateDevice]
      split <;> simp [ih]

/-- The keys are the fingerprints upserted so far. -/
theorem mem_run (evs : List RegistryEvent) (fp : String) :
    fp ∈ (empty.run evs).devices ↔
      ∃ (device : Device) (now : Nat), .upsert device now ∈ evs ∧ device.fingerprint = fp := by
  induction evs using List.reverseRecOn with
  | nil => simp [empty, run]
  | append_singleton evs ev ih =>
    cases ev with
    | addHandler => simpa [step, addDeviceHandler] using ih
    | upsert device now =>
      rw [run_append_singleton, step, mem_updateDevice, ih]
      constructor
      · rintro (rfl | ⟨d, t, hd, rfl⟩)
        · exact ⟨device, now, by simp, rfl⟩
        · exact ⟨d, t, List.mem_append_left _ hd, rfl⟩
      · rintro ⟨d, t, hd, rfl⟩
        rcases List.mem_append.1 hd with hd | hd
        · exact .inr ⟨d, t, hd, rfl⟩
        · obtain ⟨rfl, -⟩ : d = device ∧ t = now := by simpa using hd
          exact .inl rfl

/-- Every started goroutine is for a registered fingerprint. -/
theorem started_mem_run (evs : List RegistryEvent) :
    ∀ x ∈ (empty.run evs).started, x.2.fingerprint ∈ (empty.run evs).devices := by
  induction evs using List.reverseRecOn with
  | nil => simp [empty, run]
  | append_singleton evs ev ih =>
    cases ev with
    | addHandler => simpa [step, addDeviceHandler] using ih
    | upsert device now =>
      intro x hx
      rw [run_append_singleton, step, mem_updateDevice]
      rw [run_append_singleton, step, updateDevice] at hx
      split at hx
      · exact .inr (ih x hx)
      · rcases List.mem_append.1 hx with hx | hx
        · exact .inr (ih x hx)
        · obtain ⟨h, -, rfl⟩ := List.mem_map.1 hx
          exact .inl rfl

/-- The entry for `fp` comes from the first upsert of `fp`, `pre ++ upsert device now :: post`:
it carries `fp` and every field of `device` but `LastSeen` and `Available`, and the goroutines
started for `fp` are one per handler registered in `pre`, each given `device`. -/
theorem lookup_run (evs : List RegistryEvent) {fp : String} {e : Device}
    (h : (empty.run evs).devices.lookup fp = some e) :
    e.fingerprint = fp ∧
      ∃ (pre : List RegistryEvent) (device : Device) (now : Nat) (post : List RegistryEvent),
        evs = pre ++ .upsert device now :: post ∧ device.fingerprint = fp ∧
        (∀ (device' : Device) (now' : Nat), .upsert device' now' ∈ pre →
          device'.fingerprint ≠ fp) ∧
        { e with lastSeen := device.lastSeen, available := device.available } = device ∧
        (empty.run evs).started.filter (fun x => x.2.fingerprint = fp) =
          (List.range (pre.count .addHandler)).map fun h => (h, device) := by
  induction evs using List.reverseRecOn generalizing e with
  | nil => simp [empty, run] at h
  | append_singleton evs ev ih =>
    rw [run_append_singleton] at h ⊢
    cases ev with
    | addHandler =>
      obtain ⟨hfp, pre, device, now, post, rfl, rest⟩ := ih h
      exact ⟨hfp, pre, device, now, post ++ [.addHandler], by simp, rest⟩
    | upsert device' now' =>
      by_cases hfp : device'.fingerprint = fp
      · subst hfp
        cases hold : (empty.run evs).devices.lookup device'.fingerprint with
        | some e₀ =>
          -- a refresh: only `LastSeen` and `Available` change
          rw [step, updateDevice_of_some hold] at h ⊢
          obtain rfl : e = e₀.updateLastSeen now' := by simpa using h.symm
          obtain ⟨hfp, pre, device, now, post, rfl, hnew, hpre, hfields, hstarted⟩ := ih hold
          exact ⟨hfp, pre, device, now, post ++ [.upsert device' now'], by simp, hnew, hpre,
            hfields, hstarted⟩
        | none =>
          -- the first upsert of the fingerprint
          rw [step, updateDevice_of_none hold] at h ⊢
          obtain rfl : device' = e := by simpa using h
          have hnot : device'.fingerprint ∉ (empty.run evs).devices := AList.lookup_eq_none.1 hold
          refine ⟨rfl, evs, device', now', [], rfl, rfl, fun d t hd hdfp =>
            hnot ((mem_run evs _).2 ⟨d, t, hd, hdfp⟩), rfl, ?_⟩
          have hold_started : (empty.run evs).started.filter
              (fun x => x.2.fingerprint = device'.fingerprint) = [] :=
            List.filter_eq_nil_iff.2 fun x hx hfx =>
              hnot (of_decide_eq_true hfx ▸ started_mem_run evs x hx)
          simp [List.filter_append, hold_started, handlers_run, List.filter_map,
            Function.comp_def]
      · have hlookup : (empty.run evs).devices.lookup fp = some e := by
          simp only [step, updateDevice] at h
          split at h <;> rwa [AList.lookup_insert_ne (Ne.symm hfp)] at h
        obtain ⟨hfp', pre, device, now, post, rfl, rest⟩ := ih hlookup
        refine ⟨hfp', pre, device, now, post ++ [.upsert device' now'], by simp, ?_⟩
        obtain ⟨hnew, hpre, hfields, hstarted⟩ := rest
        refine ⟨hnew, hpre, hfields, ?_⟩
        simp only [step, updateDevice]
        split
        · exact hstarted
        · simp [List.filter_append, hstarted, List.filter_map, Function.comp_def, hfp]

end Registry

/-- Over any sequence of upserts of arbitrary devices and `AddDeviceHandler` calls, from the empty
registry: there is exactly one entry per fingerprint upserted, stored under that fingerprint;
each entry has every field of the first device upserted with its fingerprint but `LastSeen` and
`Available`; a further upsert of a registered fingerprint sets that entry's `LastSeen` to the
upsert's time and `Available` to true and changes nothing else; and the goroutines started for a
fingerprint are exactly one per handler registered before its first upsert. -/
theorem registry_upsert_spec (evs : List RegistryEvent) :
    (∀ fp, fp ∈ (Registry.empty.run evs).devices ↔
      ∃ (device : Device) (now : Nat), .upsert device now ∈ evs ∧ device.fingerprint = fp) ∧
    (∀ (fp : String) (e : Device), (Registry.empty.run evs).devices.lookup fp = some e →
      e.fingerprint = fp ∧
      ∃ (pre : List RegistryEvent) (device : Device) (now : Nat) (post : List RegistryEvent),
        evs = pre ++ .upsert device now :: post ∧ device.fingerprint = fp ∧
        (∀ (device' : Device) (now' : Nat), .upsert device' now' ∈ pre →
          device'.fingerprint ≠ fp) ∧
        { e with lastSeen := device.lastSeen, available := device.available } = device ∧
        (Registry.empty.run evs).started.filter (fun x => x.2.fingerprint = fp) =
          (List.range (pre.count .addHandler)).map fun h => (h, device)) ∧
    (∀ (device e : Device) (now : Nat),
      (Registry.empty.run evs).devices.lookup device.fingerprint = some e →
      (Registry.empty.run (evs ++ [.upsert device now])).devices.lookup device.fingerprint =
        some { e with lastSeen := now, available := true } ∧
      (∀ fp, fp ≠ device.fingerprint →
        (Registry.empty.run (evs ++ [.upsert device now])).devices.lookup fp =
          (Registry.empty.run evs).devices.lookup fp) ∧
      (Registry.empty.run (evs ++ [.upsert device now])).started =
        (Registry.empty.run evs).started) := by
  refine ⟨Registry.mem_run evs, fun fp e h => Registry.lookup_run evs h,
    fun device e now h => ?_⟩
  rw [Registry.run_append_singleton, Registry.step, Registry.updateDevice_of_some h]
  exact ⟨by simp [Device.updateLastSeen], fun fp hfp => AList.lookup_insert_ne hfp, rfl⟩

namespace Node

/-- The listener's entry for `fp`, read through its pointer. -/
def mdEntry (n : Node) (fp : String) : Option Device := (n.mdDevices.lookup fp).map n.deref

/-- The service's entry for `fp`, read through its pointer. -/
def svcEntry (n : Node) (fp : String) : Option Device := (n.svcDevices.lookup fp).map n.deref

theorem deref_set_heap_self (n : Node) (d : Device) {q : Nat} (hq : q < n.heap.length) :
    ({ n with heap := n.heap.set q d } : Node).deref q = d :=
  deref_of_heap_eq_set_self rfl hq

theorem deref_set_heap_ne (n : Node) (d : Device) {p q : Nat} (h : p ≠ q) :
    ({ n with heap := n.heap.set q d } : Node).deref p = n.deref p :=
  deref_of_heap_eq_set_ne rfl h

section Simulation

variable {n : Node} {reg : Registry}

/-- `MulticastDiscovery.updateDevice` on a node whose listener map points at distinct allocated
objects acts on the map read through the heap as `Registry.updateDevice`. -/
theorem mdEntry_mdUpdateDevice (hrep : ∀ fp, reg.devices.lookup fp = n.mdEntry fp)
    (hlt : ∀ fp p, n.mdDevices.lookup fp = some p → p < n.heap.length)
    (hinj : ∀ fp fp' p, n.mdDevices.lookup fp = some p → n.mdDevices.lookup fp' = some p → fp = fp')
    (device : Device) (now : Nat) (fp : String) :
    (reg.updateDevice device now).devices.lookup fp = (n.mdUpdateDevice device now).mdEntry fp := by
  cases hq : n.mdDevices.lookup device.fingerprint with
  | some q =>
    have hreg : reg.devices.lookup device.fingerprint = some (n.deref q) := by
      simp [hrep, mdEntry, hq]
    rw [Registry.updateDevice_of_some hreg, Node.mdUpdateDevice_of_some hq]
    by_cases hfp : fp = device.fingerprint
    · subst hfp
      simp [mdEntry, hq, deref_set_heap_self n _ (hlt _ q hq)]
    · rw [AList.lookup_insert_ne hfp, hrep]
      cases hp : n.mdDevices.lookup fp with
      | none => simp [mdEntry, hp]
      | some p =>
        have hpq : p ≠ q := fun hpq => hfp (hinj fp _ q (hpq ▸ hp) hq)
        simp [mdEntry, hp, deref_set_heap_ne n _ hpq]
  | none =>
    have hreg : reg.devices.lookup device.fingerprint = none := by simp [hrep, mdEntry, hq]
    rw [Registry.updateDevice_of_none hreg, Node.mdUpdateDevice_of_none hq]
    set n' : Node := { n with
      heap := n.heap ++ [device]
      mdDevices := n.mdDevices.insert device.fingerprint n.heap.length
      pending := n.pending ++ List.replicate n.handlers n.heap.length }
    have hheap : n'.heap = n.heap ++ [device] := rfl
    by_cases hfp : fp = device.fingerprint
    · subst hfp
      simp [mdEntry, n', deref_of_heap_eq_append_length hheap]
    · rw [AList.lookup_insert_ne hfp, hrep]
      cases hp : n.mdDevices.lookup fp with
      | none => simp [mdEntry, hp, n', AList.lookup_insert_ne hfp]
      | some p =>
        simp [mdEntry, hp, n', AList.lookup_insert_ne hfp,
          deref_of_heap_eq_append hheap (hlt fp p hp)]

end Simulation

end Node

/-- The call `MulticastDiscovery.updateDevice` receives for a sighting: the object `handlePacket`
builds from the datagram, at the time it was processed. -/
def Sighting.upsert (s : Sighting) : RegistryEvent :=
  .upsert (.fromMulticastDto s.dto s.ip s.time) s.time

/-- The registry that the handler `Service.Start` registers and the upserts of the listener's
sightings leave. -/
def Listener.registry (l : Listener) : Registry :=
  Registry.empty.addDeviceHandler.run (l.sightings.map Sighting.upsert)

/-- The simulation relation: the listener's map read through the heap is `l.registry`. -/
def ListenerSim (l : Listener) : Prop :=
  ∀ fp, l.registry.devices.lookup fp = l.node.mdEntry fp

theorem listenerSim_start (dto : MulticastDto) : ListenerSim (Listener.start dto) := fun fp => by
  simp [ListenerSim, Listener.registry, Listener.start, Node.start, Registry.run,
    Registry.addDeviceHandler, Registry.empty, Node.mdEntry]

/-- Every event keeps the simulation: a sighting is one upsert on both sides, and a handler
goroutine changes only the service's map, as the objects it registers are the listener's. -/
theorem ListenerSim.step {l : Listener} (hsim : ListenerSim l) (hinv : ListenerInv l)
    (e : ListenerEvent) : ListenerSim (l.step e) := by
  cases e with
  | tick d => exact hsim
  | packet dto addr =>
    simp only [Listener.step]
    split_ifs with hself
    · exact hsim
    · intro fp
      simp only [Listener.registry, List.map_append, List.map_singleton,
        Registry.run_append_singleton, Sighting.upsert, Registry.step, Node.handlePacket, hself,
        if_false]
      exact Node.mdEntry_mdUpdateDevice hsim (fun fp p hp => (hinv.md_some fp p hp).1)
        (fun _ _ _ => hinv.md_inj) _ _ fp
  | dispatch p =>
    show ∀ fp, l.registry.devices.lookup fp = (l.node.dispatch p l.clock).mdEntry fp
    unfold Node.dispatch
    split_ifs with hp
    · obtain ⟨fp, hfp, hsvc⟩ := hinv.pending_md p hp
      rw [Node.svcUpdateDevice_of_none (by rw [hinv.fingerprint_eq hfp]; exact hsvc)]
      exact hsim
    · exact hsim

/-- Along every run of a started service, the listener's registry read through the heap is the
registry that the handler `Service.Start` registers and the upserts of the sightings processed so
far leave, and the service's registry read through the heap holds that registry's entries for
the fingerprints whose handler has run. -/
theorem listener_refines_registry {dto : MulticastDto} {l : Listener} (hl : l.Reachable dto) :
    (∀ fp, l.registry.devices.lookup fp = l.node.mdEntry fp) ∧
    ∀ fp, l.node.svcEntry fp =
      if (l.node.svcDevices.lookup fp).isSome then l.registry.devices.lookup fp else none := by
  have hsim : ListenerSim l := by
    induction hl with
    | start => exact listenerSim_start dto
    | step e hl ih => exact ih.step hl.inv e
  refine ⟨hsim, fun fp => ?_⟩
  cases hp : l.node.svcDevices.lookup fp with
  | none => simp [Node.svcEntry, hp]
  | some p => simp [Node.svcEntry, hp, hsim fp, Node.mdEntry, hl.inv.svc_md fp p hp]

end LocalGo
