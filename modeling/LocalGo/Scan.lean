import LocalGo.Discovery

/-!
# Scanning candidate addresses over HTTP

`HTTPDiscovery.ScanNetwork(ctx, ips, port)` starts one goroutine per candidate address. Each asks
its address for `/api/localsend/v2/info` over HTTPS, then over HTTP when that fails
(`HTTPDiscovery.fetchDeviceInfo`), and sends the device it built into `deviceChan`, a channel
buffered for `len(ips)` values. The caller waits for all of them on a `sync.WaitGroup`, closes the
channel and drains it into the list it returns.

What each request gets is the network's choice, fixed per goroutine (`Probe`); the caller and the
goroutines move in any order (`Scan.step`, which is `none` for a thread that cannot move: a send
on a full channel, `wg.Wait()` with goroutines running, a receive on an empty open channel).

* `fetchDeviceInfo`, `Probe.device`: one request, and what one goroutine sends.
* `Scan`, `Scan.step`, `Scan.run`: the caller and its goroutines.
* `ScanInv`: the wait-group counter counts the goroutines that have not run `wg.Done()`, what the
  caller received and what the channel holds are what the goroutines sent, and the channel is
  closed only once every goroutine is done (`scanInv_run`).
* `Scan.weight_run`: every step lowers a weight, so no schedule is longer than
  `5 * len(ips) + 3` steps.
* `scanNetwork_returns_successful_devices`: no goroutine ever sends on the closed channel, and a
  state where nothing can move is the return of `ScanNetwork`, with a nil error and the devices of
  the successful probes in some order.
-/

namespace LocalGo

/-- The body of an `/info` response, as `io.ReadAll` and then `json.Unmarshal` see it. -/
inductive InfoBody where
  /-- `io.ReadAll(resp.Body)` fails with this error. -/
  | readError (err : String)
  /-- The body is not a JSON `model.InfoDto`. -/
  | parseError (err : String)
  | infoDto (info : InfoDto)
  deriving DecidableEq

/-- What `hd.client.Do(req)` returns for one `GET <scheme>://<ip>:<port>/api/localsend/v2/info`. -/
inductive InfoReply where
  /-- An error: nothing listening, a failed TLS handshake, the client's two-second timeout. -/
  | error (err : String)
  | response (statusCode : Nat) (body : InfoBody)
  deriving DecidableEq

/-- `HTTPDiscovery.fetchDeviceInfo(ctx, ip, port, scheme)` when the request gets `reply` and the
clock reads `now` as it returns. -/
def fetchDeviceInfo (reply : InfoReply) (ip : String) (port : Int) (scheme : String) (now : Nat) :
    Except String Device :=
  match reply with
  | .error err => .error ("failed to send request: " ++ err)
  | .response statusCode body =>
    if statusCode ≠ 200 then .error ("unexpected status code: " ++ toString statusCode)
    else
      match body with
      | .readError err => .error ("failed to read response body: " ++ err)
      | .parseError err => .error ("failed to parse response body: " ++ err)
      | .infoDto infoDto => .ok ⟨ip, infoDto.version, port, infoDto.alias, scheme,
          infoDto.fingerprint, infoDto.deviceModel, infoDto.deviceType, infoDto.download, now,
          true⟩

/-- A device `fetchDeviceInfo` builds carries the address, port and scheme it was asked on. -/
theorem fetchDeviceInfo_eq_ok {reply : InfoReply} {ip : String} {port : Int} {scheme : String}
    {now : Nat} {d : Device} (h : fetchDeviceInfo reply ip port scheme now = .ok d) :
    d.ip = ip ∧ d.port = port ∧ d.protocol = scheme := by
  unfold fetchDeviceInfo at h
  split at h
  · cases h
  · split_ifs at h
    split at h <;> cases h
    exact ⟨rfl, rfl, rfl⟩

/-- What the network answers the goroutine `ScanNetwork` starts for one candidate: the reply to
its HTTPS request and the clock when it returns, then the same for the HTTP request it makes only
when the first fails. -/
structure Probe where
  https : InfoReply
  httpsNow : Nat
  http : InfoReply
  httpNow : Nat

/-- The device the goroutine for `ip` sends on `deviceChan`, `none` when it returns without
sending. -/
def Probe.device (p : Probe) (ip : String) (port : Int) : Option Device :=
  match fetchDeviceInfo p.https ip port "https" p.httpsNow with
  | .ok device => some device
  | .error _ =>
    match fetchDeviceInfo p.http ip port "http" p.httpNow with
    | .ok device => some device
    | .error _ => none

/-- A goroutine sends a device for its own candidate's address and the scanned port. -/
theorem Probe.device_eq_some {p : Probe} {ip : String} {port : Int} {d : Device}
    (h : p.device ip port = some d) : d.ip = ip ∧ d.port = port := by
  unfold Probe.device at h
  split at h
  · cases h
    exact (fetchDeviceInfo_eq_ok ‹_›).imp_right And.left
  · split at h <;> cases h
    exact (fetchDeviceInfo_eq_ok ‹_›).imp_right And.left

/-- Where one goroutine of `ScanNetwork` is. -/
inductive Phase where
  /-- Started; its requests have not returned. -/
  | fetching
  /-- At `deviceChan <- device`. -/
  | sending (device : Device)
  /-- Returned, its deferred `wg.Done()` not yet run; `sent` is what it put into the channel. -/
  | finishing (sent : Option Device)
  /-- `wg.Done()` has run. -/
  | exited (sent : Option Device)
  /-- Sent on the closed channel, which makes the Go runtime panic. -/
  | panicked
  deriving DecidableEq

namespace Phase

/-- Where a goroutine is once its requests returned with `device`, or with two errors. -/
def ofProbe : Option Device → Phase
  | some device => .sending device
  | none => .finishing none

/-- What a goroutine in this phase has put into the channel. -/
def sent : Phase → Option Device
  | .fetching | .sending _ | .panicked => none
  | .finishing sent | .exited sent => sent

/-- The goroutine has run `wg.Done()`. -/
def done : Phase → Bool
  | .fetching | .sending _ | .finishing _ | .panicked => false
  | .exited _ => true

/-- The goroutine is at its send. -/
def isSending : Phase → Bool
  | .fetching | .finishing _ | .exited _ | .panicked => false
  | .sending _ => true

/-- A goroutine whose probe gives `device` has, in this phase, done only what its code does
with it; no goroutine panics. -/
def Agrees (device : Option Device) : Phase → Prop
  | .fetching => True
  | .sending d => device = some d
  | .finishing sent | .exited sent => sent = device
  | .panicked => False

/-- The steps a goroutine in this phase can still take, counting the caller's receive of what it
sends. -/
def weight : Phase → Nat
  | .fetching => 4
  | .sending _ => 3
  | .finishing _ => 1
  | .exited _ | .panicked => 0

@[simp] theorem sent_fetching : fetching.sent = none := rfl
@[simp] theorem sent_sending (device : Device) : (sending device).sent = none := rfl
@[simp] theorem sent_finishing (sent : Option Device) : (finishing sent).sent = sent := rfl
@[simp] theorem sent_exited (sent : Option Device) : (exited sent).sent = sent := rfl
@[simp] theorem sent_panicked : panicked.sent = none := rfl
@[simp] theorem done_fetching : fetching.done = false := rfl
@[simp] theorem done_sending (device : Device) : (sending device).done = false := rfl
@[simp] theorem done_finishing (sent : Option Device) : (finishing sent).done = false := rfl
@[simp] theorem done_exited (sent : Option Device) : (exited sent).done = true := rfl
@[simp] theorem done_panicked : panicked.done = false := rfl

@[simp]
theorem ofProbe_sent (device : Option Device) : (ofProbe device).sent = none := by
  cases device <;> rfl

@[simp]
theorem ofProbe_done (device : Option Device) : (ofProbe device).done = false := by
  cases device <;> rfl

theorem agrees_ofProbe (device : Option Device) : (ofProbe device).Agrees device := by
  cases device <;> rfl

theorem ofProbe_weight_lt (device : Option Device) : (ofProbe device).weight < 4 := by
  cases device <;> simp [ofProbe, weight]

end Phase

/-- A goroutine of `ScanNetwork`: the candidate it was started for (the closure's `ip`) and its
phase. -/
structure Goroutine where
  ip : String
  phase : Phase
  deriving DecidableEq

/-- Where the caller of `ScanNetwork` is. -/
inductive Caller where
  /-- In `for _, ip := range ips`, with these candidates left. -/
  | spawning (rest : List String)
  /-- At `wg.Wait()`, then `close(deviceChan)`. -/
  | waiting
  /-- In `for device := range deviceChan`. -/
  | draining
  /-- `ScanNetwork` has returned these devices and this error. -/
  | returned (devices : List Device) (err : Option String)
  deriving DecidableEq

namespace Caller

/-- The candidates the loop has not started a goroutine for. -/
def unspawned : Caller → List String
  | .spawning rest => rest
  | .waiting | .draining | .returned _ _ => []

/-- `wg.Wait()` has returned. -/
def waited : Caller → Bool
  | .spawning _ | .waiting => false
  | .draining | .returned _ _ => true

/-- The steps the caller can still take, counting the start of each remaining goroutine and the
steps that goroutine will take. -/
def weight : Caller → Nat
  | .spawning rest => 5 * rest.length + 3
  | .waiting => 2
  | .draining => 1
  | .returned _ _ => 0

end Caller

/-- One call of `ScanNetwork`: the caller, the goroutines started so far (in the order they were
started), `deviceChan`, the `sync.WaitGroup` and the caller's local `devices`. -/
structure Scan where
  caller : Caller
  goroutines : List Goroutine
  /-- The capacity of `deviceChan`. -/
  capacity : Nat
  /-- The values in `deviceChan`, oldest first. -/
  buffer : List Device
  /-- `close(deviceChan)` has run. -/
  closed : Bool
  /-- The `WaitGroup` counter. -/
  counter : Nat
  devices : List Device
  deriving DecidableEq

/-- Who moves: the caller, or the goroutine started `i`-th. -/
inductive ScanAction where
  | caller
  | goroutine (i : Nat)
  deriving DecidableEq

namespace Scan

/-- `ScanNetwork(ctx, ips, port)` entered: `deviceChan := make(chan *model.Device, len(ips))`. -/
def start (ips : List String) : Scan := ⟨.spawning ips, [], ips.length, [], false, 0, []⟩

/-- One step of the caller. -/
def callerStep (s : Scan) : Option Scan :=
  match s.caller with
  | .spawning [] => some { s with caller := .waiting }
  | .spawning (ip :: rest) =>
    some { s with caller := .spawning rest, counter := s.counter + 1,
                  goroutines := s.goroutines ++ [⟨ip, .fetching⟩] }
  | .waiting => if s.counter = 0 then some { s with caller := .draining, closed := true } else none
  | .draining =>
    match s.buffer with
    | device :: rest => some { s with buffer := rest, devices := s.devices ++ [device] }
    | [] => if s.closed then some { s with caller := .returned s.devices none } else none
  | .returned _ _ => none

variable (port : Int) (probe : Nat → Probe)

/-- One step of the goroutine started `i`-th, `g`: its two requests as one step (they touch
nothing shared), its send, its deferred `wg.Done()`. -/
def goroutineStep (s : Scan) (i : Nat) (g : Goroutine) : Option Scan :=
  match g.phase with
  | .fetching =>
    some { s with
      goroutines := s.goroutines.set i { g with phase := .ofProbe ((probe i).device g.ip port) } }
  | .sending device =>
    if s.closed then some { s with goroutines := s.goroutines.set i { g with phase := .panicked } }
    else if s.buffer.length < s.capacity then
      some { s with goroutines := s.goroutines.set i { g with phase := .finishing (some device) },
                    buffer := s.buffer ++ [device] }
    else none
  | .finishing sent =>
    some { s with goroutines := s.goroutines.set i { g with phase := .exited sent },
                  counter := s.counter - 1 }
  | .exited _ | .panicked => none

/-- One step of whoever `a` names; `none` when it cannot move. -/
def step (s : Scan) : ScanAction → Option Scan
  | .caller => s.callerStep
  | .goroutine i => s.goroutines[i]?.bind (goroutineStep port probe s i)

/-- A schedule, every step of which could be taken. -/
def run (s : Scan) (as : List ScanAction) : Option Scan := as.foldlM (step port probe) s

/-- The steps left: the caller's, the goroutines', and one receive per buffered value. -/
def weight (s : Scan) : Nat :=
  s.caller.weight + s.goroutines.foldr (fun g w => g.phase.weight + w) 0 + s.buffer.length

end Scan

section ListSet

variable {α : Type} {l : List α} {i : Nat} {a : α}

/-- Replacing the element at index `i`, then appending the old one, permutes the list with the
new one appended. -/
theorem set_append_perm (h : l[i]? = some a) (b : α) : (l.set i b ++ [a]).Perm (l ++ [b]) := by
  induction l generalizing i with
  | nil => simp at h
  | cons x xs ih =>
    cases i with
    | zero =>
      obtain rfl : x = a := by simpa using h
      exact (List.perm_append_singleton x (b :: xs)).trans
        ((List.perm_append_singleton b xs).cons x).symm
    | succ k => exact (ih (by simpa using h)).cons x

theorem foldr_add_append_singleton (l : List α) (x : α) (f : α → Nat) :
    (l ++ [x]).foldr (fun y w => f y + w) 0 = l.foldr (fun y w => f y + w) 0 + f x := by
  induction l with
  | nil => simp
  | cons y ys ih =>
    simp only [List.cons_append, List.foldr_cons, ih]
    omega

theorem foldr_add_set (h : l[i]? = some a) (b : α) (f : α → Nat) :
    (l.set i b).foldr (fun x w => f x + w) 0 + f a = l.foldr (fun x w => f x + w) 0 + f b := by
  induction l generalizing i with
  | nil => simp at h
  | cons x xs ih =>
    cases i with
    | zero =>
      obtain rfl : x = a := by simpa using h
      simp only [List.set_cons_zero, List.foldr_cons]
      omega
    | succ k =>
      have := ih (by simpa using h)
      simp only [List.set_cons_succ, List.foldr_cons]
      omega

theorem countP_set_of_getElem? (h : l[i]? = some a) (b : α) (p : α → Bool) :
    (l.set i b).countP p + (if p a then 1 else 0) = l.countP p + (if p b then 1 else 0) := by
  simpa [List.countP_cons] using (set_append_perm h b).countP_eq p

theorem countP_set_eq (h : l[i]? = some a) {b : α} {p : α → Bool} (hp : p b = p a) :
    (l.set i b).countP p = l.countP p := by
  have := countP_set_of_getElem? h b p
  rw [hp] at this
  omega

theorem countP_set_add_one (h : l[i]? = some a) (b : α) (p : α → Bool) (ha : p a = true)
    (hb : p b = false) : (l.set i b).countP p + 1 = l.countP p := by
  simpa [ha, hb] using countP_set_of_getElem? h b p

theorem filterMap_set_perm_eq {β : Type} (h : l[i]? = some a) {b : α} {f : α → Option β}
    (hf : f b = f a) : ((l.set i b).filterMap f).Perm (l.filterMap f) := by
  have := (set_append_perm h b).filterMap f
  simp only [List.filterMap_append, List.filterMap_cons, List.filterMap_nil, hf] at this
  exact (List.perm_append_right_iff _).mp this

theorem filterMap_set_perm_some {β : Type} (h : l[i]? = some a) {b : α} {f : α → Option β}
    {x : β} (ha : f a = none) (hb : f b = some x) :
    ((l.set i b).filterMap f).Perm (l.filterMap f ++ [x]) := by
  have := (set_append_perm h b).filterMap f
  simpa [List.filterMap_append, List.filterMap_cons, ha, hb] using this

theorem length_filterMap_add_countP_le {β : Type} (l : List α) (f : α → Option β)
    (p : α → Bool) (h : ∀ x, p x = true → f x = none) :
    (l.filterMap f).length + l.countP p ≤ l.length := by
  induction l with
  | nil => simp
  | cons x l ih =>
    have := h x
    cases hf : f x <;> cases hp : p x <;> simp_all [List.filterMap_cons, List.countP_cons] <;>
      omega

theorem getElem?_set_cases {b x : α} {j : Nat} (h : (l.set i b)[j]? = some x) :
    (j = i ∧ x = b) ∨ (j ≠ i ∧ l[j]? = some x) := by
  rw [List.getElem?_set] at h
  split_ifs at h with hij
  · exact .inl ⟨hij.symm, (Option.some.inj h).symm⟩
  · exact .inr ⟨Ne.symm hij, h⟩

end ListSet

/-- Setting a goroutine's phase keeps every goroutine's candidate. -/
theorem map_ip_set {gs : List Goroutine} {i : Nat} {ip : String} {ph : Phase}
    (h : gs[i]? = some ⟨ip, ph⟩) (ph' : Phase) :
    (gs.set i ⟨ip, ph'⟩).map Goroutine.ip = gs.map Goroutine.ip := by
  obtain ⟨hlt, hg⟩ := List.getElem?_eq_some_iff.mp h
  apply List.ext_getElem?
  intro j
  by_cases hij : i = j
  · subst hij
    simp [List.getElem?_set, hlt, hg]
  · simp [List.getElem?_set_ne hij]

/-- What holds of every state `ScanNetwork(ctx, ips, port)` reaches when the goroutine started
`i`-th gets `probe i`. -/
structure ScanInv (ips : List String) (port : Int) (probe : Nat → Probe) (s : Scan) : Prop where
  /-- `deviceChan` was made with capacity `len(ips)`. -/
  capacity : s.capacity = ips.length
  /-- The goroutines are those of the candidates the loop has passed, in order. -/
  spawned : s.goroutines.map Goroutine.ip ++ s.caller.unspawned = ips
  /-- Each goroutine has done only what its code does with its probes' result. -/
  agrees : ∀ i (g : Goroutine), s.goroutines[i]? = some g →
    g.phase.Agrees ((probe i).device g.ip port)
  /-- The `WaitGroup` counter counts the goroutines that have not run `wg.Done()`. -/
  counter : s.counter = s.goroutines.countP fun g => !g.phase.done
  /-- What the caller received, then what the channel holds, is what the goroutines sent. -/
  channel : (s.devices ++ s.buffer).Perm (s.goroutines.filterMap fun g => g.phase.sent)
  /-- The channel is closed exactly once `wg.Wait()` has returned. -/
  closed : s.closed = s.caller.waited
  /-- Once `wg.Wait()` has returned, every goroutine has run `wg.Done()`. -/
  done : s.caller.waited = true → ∀ g ∈ s.goroutines, g.phase.done = true
  /-- `ScanNetwork` returns its local `devices` and a nil error, once the channel is drained. -/
  returned : ∀ devices err, s.caller = .returned devices err →
    devices = s.devices ∧ err = none ∧ s.buffer = []

namespace ScanInv

variable {ips : List String} {port : Int} {probe : Nat → Probe} {s s' : Scan}

theorem start (ips : List String) (port : Int) (probe : Nat → Probe) :
    ScanInv ips port probe (Scan.start ips) :=
  ⟨rfl, by simp [Scan.start, Caller.unspawned], by simp [Scan.start], rfl, .nil, rfl,
    by simp [Scan.start, Caller.waited], by simp [Scan.start]⟩

/-- The goroutine started `i`-th is not done: `wg.Wait()` has not returned, so the channel is
open. -/
theorem not_waited (hi : ScanInv ips port probe s) {i : Nat} {g : Goroutine}
    (hg : s.goroutines[i]? = some g) (hd : g.phase.done = false) :
    s.caller.waited = false ∧ s.closed = false := by
  have hw : s.caller.waited = false := by
    cases hw : s.caller.waited
    · rfl
    · simpa [hd] using hi.done hw g (List.mem_iff_getElem?.mpr ⟨i, hg⟩)
  exact ⟨hw, hi.closed.trans hw⟩

/-- A goroutine at its send finds room in the channel: the values the caller received and those
buffered came from other goroutines, and there are `len(ips)` goroutines at most. -/
theorem buffer_lt_capacity (hi : ScanInv ips port probe s) {g : Goroutine}
    (hg : g ∈ s.goroutines) (hs : g.phase.isSending = true) : s.buffer.length < s.capacity := by
  have hsend : 0 < s.goroutines.countP fun g => g.phase.isSending :=
    List.countP_pos_iff.mpr ⟨g, hg, hs⟩
  have hchan := hi.channel.length_eq
  have hspawn := congrArg List.length hi.spawned
  simp only [List.length_append, List.length_map] at hchan hspawn
  have := length_filterMap_add_countP_le s.goroutines (fun g => g.phase.sent)
    (fun g => g.phase.isSending) fun ⟨_, ph⟩ h => by cases ph <;> simp_all [Phase.isSending]
  rw [hi.capacity]
  omega

theorem callerStep (hi : ScanInv ips port probe s) (h : s.callerStep = some s') :
    ScanInv ips port probe s' := by
  unfold Scan.callerStep at h
  split at h
  · -- the loop ends
    rename_i hc
    cases h
    exact ⟨hi.capacity, by simpa [hc, Caller.unspawned] using hi.spawned, hi.agrees, hi.counter,
      hi.channel, by simpa [hc, Caller.waited] using hi.closed, by simp [Caller.waited],
      by simp⟩
  · -- `wg.Add(1); go func(ip)`
    rename_i ip rest hc
    cases h
    refine ⟨hi.capacity, by simpa [hc, Caller.unspawned] using hi.spawned, fun j g hj => ?_,
      by simp [hi.counter], by simpa using hi.channel,
      by simpa [hc, Caller.waited] using hi.closed, by simp [hc, Caller.waited], by simp⟩
    rcases getElem?_append_singleton_cases hj with hj | ⟨-, rfl⟩
    · exact hi.agrees j g hj
    · trivial
  · -- `wg.Wait(); close(deviceChan)`
    rename_i hc
    split_ifs at h with h0
    cases h
    refine ⟨hi.capacity, by simpa [hc, Caller.unspawned] using hi.spawned, hi.agrees, hi.counter,
      hi.channel, rfl, fun _ g hg => ?_, by simp⟩
    have := List.countP_eq_zero.mp (hi.counter ▸ h0) g hg
    simpa using this
  · -- `for device := range deviceChan`
    rename_i hc
    split at h
    · rename_i device rest hb
      cases h
      refine ⟨hi.capacity, hi.spawned, hi.agrees, hi.counter, ?_, hi.closed, hi.done,
        fun devices err he => absurd he (by simp [hc])⟩
      simpa [hb] using hi.channel
    · rename_i hb
      split_ifs at h with hcl
      cases h
      refine ⟨hi.capacity, by simpa [hc, Caller.unspawned] using hi.spawned, hi.agrees,
        hi.counter, hi.channel, by simpa [hc, Caller.waited] using hi.closed,
        fun _ => hi.done (by simp [hc, Caller.waited]), ?_⟩
      intro devices err he
      cases he
      exact ⟨rfl, rfl, hb⟩
  · cases h

theorem goroutineStep (hi : ScanInv ips port probe s) {i : Nat} {g : Goroutine}
    (hg : s.goroutines[i]? = some g) (h : Scan.goroutineStep port probe s i g = some s') :
    ScanInv ips port probe s' := by
  obtain ⟨ip, ph⟩ := g
  have hag : ph.Agrees ((probe i).device ip port) := hi.agrees i _ hg
  -- the goroutine keeps its candidate, and the others keep their phases
  have spawned_set : ∀ ph',
      (s.goroutines.set i ⟨ip, ph'⟩).map Goroutine.ip ++ s.caller.unspawned = ips :=
    fun ph' => by rw [map_ip_set hg]; exact hi.spawned
  have agrees_set : ∀ ph', ph'.Agrees ((probe i).device ip port) → ∀ j (g' : Goroutine),
      (s.goroutines.set i ⟨ip, ph'⟩)[j]? = some g' →
        g'.phase.Agrees ((probe j).device g'.ip port) := by
    intro ph' hph' j g' hj
    rcases getElem?_set_cases hj with ⟨rfl, rfl⟩ | ⟨-, hj⟩
    · exact hph'
    · exact hi.agrees j g' hj
  unfold Scan.goroutineStep at h
  dsimp only at h
  cases ph with
  | fetching =>
    cases h
    obtain ⟨hw, -⟩ := hi.not_waited hg rfl
    refine ⟨hi.capacity, spawned_set _, agrees_set _ (Phase.agrees_ofProbe _), ?_,
      hi.channel.trans (filterMap_set_perm_eq hg (by simp)).symm, hi.closed, by simp [hw],
      hi.returned⟩
    rw [countP_set_eq hg (by simp)]
    exact hi.counter
  | sending device =>
    obtain ⟨hw, hcl⟩ := hi.not_waited hg rfl
    have hroom := hi.buffer_lt_capacity (List.mem_iff_getElem?.mpr ⟨i, hg⟩) rfl
    dsimp only at h
    rw [if_neg (by simp [hcl]), if_pos hroom] at h
    cases h
    refine ⟨hi.capacity, spawned_set _, agrees_set _ hag.symm, ?_, ?_, hi.closed, by simp [hw],
      fun devices err he => by
        have he : s.caller = .returned devices err := he
        simp [he, Caller.waited] at hw⟩
    · rw [countP_set_eq hg (by simp)]
      exact hi.counter
    · simpa [← List.append_assoc] using (hi.channel.append_right [device]).trans
        (filterMap_set_perm_some hg (by simp) (by simp)).symm
  | finishing sent =>
    cases h
    obtain ⟨hw, -⟩ := hi.not_waited hg rfl
    refine ⟨hi.capacity, spawned_set _, agrees_set _ hag, ?_,
      hi.channel.trans (filterMap_set_perm_eq hg (by simp)).symm, hi.closed, by simp [hw],
      hi.returned⟩
    have := countP_set_add_one hg ⟨ip, .exited sent⟩ (fun g => !g.phase.done) (by simp) (by simp)
    have := hi.counter
    show s.counter - 1 = (s.goroutines.set i ⟨ip, .exited sent⟩).countP fun g => !g.phase.done
    omega
  | exited _ => cases h
  | panicked => exact absurd hag id

theorem step (hi : ScanInv ips port probe s) {a : ScanAction} (h : s.step port probe a = some s') :
    ScanInv ips port probe s' := by
  cases a with
  | caller => exact hi.callerStep h
  | goroutine i =>
    obtain ⟨g, hg, h⟩ := Option.bind_eq_some.mp h
    exact hi.goroutineStep hg h

end ScanInv

namespace Scan

variable {port : Int} {probe : Nat → Probe}

@[simp]
theorem run_nil (s : Scan) : s.run port probe [] = some s := rfl

theorem run_cons (s : Scan) (a : ScanAction) (as : List ScanAction) :
    s.run port probe (a :: as) = (s.step port probe a).bind fun s' => s'.run port probe as :=
  rfl

theorem weight_callerStep {s s' : Scan} (h : s.callerStep = some s') : s'.weight < s.weight := by
  unfold callerStep at h
  unfold weight
  split at h
  · cases h; simp [*, Caller.weight]
  · cases h
    rw [foldr_add_append_singleton]
    simp [*, Caller.weight, Phase.weight]
    omega
  · split_ifs at h; cases h; simp [*, Caller.weight]
  · split at h
    · cases h; simp [*, Caller.weight]
    · split_ifs at h; cases h; simp [*, Caller.weight]
  · cases h

/-- Every step lowers the weight. -/
theorem weight_step {s s' : Scan} {a : ScanAction} (h : s.step port probe a = some s') :
    s'.weight < s.weight := by
  cases a with
  | caller => exact weight_callerStep h
  | goroutine i =>
    obtain ⟨⟨ip, ph⟩, hg, h⟩ := Option.bind_eq_some.mp h
    unfold goroutineStep at h
    unfold weight
    cases ph with
    | fetching =>
      cases h
      have := foldr_add_set hg ⟨ip, .ofProbe ((probe i).device ip port)⟩ fun g => g.phase.weight
      have := Phase.ofProbe_weight_lt ((probe i).device ip port)
      simp only [Phase.weight] at *
      omega
    | sending device =>
      split_ifs at h <;> cases h
      · have := foldr_add_set hg ⟨ip, .panicked⟩ fun g => g.phase.weight
        simp only [Phase.weight] at *
        omega
      · have := foldr_add_set hg ⟨ip, .finishing (some device)⟩ fun g => g.phase.weight
        simp only [Phase.weight, List.length_append, List.length_singleton] at *
        omega
    | finishing sent =>
      cases h
      have := foldr_add_set hg ⟨ip, .exited sent⟩ fun g => g.phase.weight
      simp only [Phase.weight] at *
      omega
    | exited _ => cases h
    | panicked => cases h

/-- A schedule is never longer than the weight it starts from. -/
theorem weight_run {s s' : Scan} {as : List ScanAction} (h : s.run port probe as = some s') :
    as.length + s'.weight ≤ s.weight := by
  induction as generalizing s with
  | nil => cases h; simp
  | cons a as ih =>
    obtain ⟨s₁, h₁, h⟩ := Option.bind_eq_some.mp h
    have := ih h
    have := weight_step h₁
    simp only [List.length_cons]
    omega

end Scan

theorem scanInv_run {ips : List String} {port : Int} {probe : Nat → Probe} {s s' : Scan}
    {as : List ScanAction} (hi : ScanInv ips port probe s) (h : s.run port probe as = some s') :
    ScanInv ips port probe s' := by
  induction as generalizing s with
  | nil => cases h; exact hi
  | cons a as ih =>
    obtain ⟨s₁, h₁, h⟩ := Option.bind_eq_some.mp h
    exact ih (hi.step h₁) h

/-- Once every goroutine is done, what they sent, in the order they were started, is what each
candidate's probes give. -/
theorem filterMap_sent_of_done (port : Int) (probe : Nat → Probe) :
    ∀ (k : Nat) (gs : List Goroutine),
      (∀ i (g : Goroutine), gs[i]? = some g → g.phase.Agrees ((probe (k + i)).device g.ip port)) →
      (∀ g ∈ gs, g.phase.done = true) →
      gs.filterMap (fun g => g.phase.sent) =
        ((gs.map Goroutine.ip).enumFrom k).filterMap fun c => (probe c.1).device c.2 port
  | _, [], _, _ => rfl
  | k, ⟨ip, ph⟩ :: gs, hag, hdone => by
    have htail := filterMap_sent_of_done port probe (k + 1) gs
      (fun i (g : Goroutine) hg => by
        simpa [Nat.add_right_comm, Nat.add_assoc] using hag (i + 1) g (by simpa using hg))
      (fun g hg => hdone g (List.mem_cons_of_mem _ hg))
    have hhead := hag 0 ⟨ip, ph⟩ (by simp)
    cases ph with
    | exited sent =>
      simp only [Phase.Agrees, Nat.add_zero] at hhead
      subst hhead
      cases hd : (probe k).device ip port <;> simp [List.filterMap_cons, hd, htail]
    | _ => simp at hdone

/-- `HTTPDiscovery.ScanNetwork(ctx, ips, port)`, for every list of candidates, every answer the
network gives each goroutine and every schedule: the schedule has at most `5 * len(ips) + 3`
steps, no goroutine panics on a send, and when nothing can move any more `ScanNetwork` has
returned a nil error and the devices of the successful probes, one per successful goroutine, in
some order. -/
theorem scanNetwork_returns_successful_devices (ips : List String) (port : Int)
    (probe : Nat → Probe) (as : List ScanAction) (s : Scan)
    (hrun : (Scan.start ips).run port probe as = some s) :
    as.length ≤ 5 * ips.length + 3 ∧
    (∀ g ∈ s.goroutines, g.phase ≠ .panicked) ∧
    ((∀ a, s.step port probe a = none) →
      ∃ devices, s.caller = .returned devices none ∧
        devices.Perm (ips.enum.filterMap fun c => (probe c.1).device c.2 port)) := by
  have hi := scanInv_run (ScanInv.start ips port probe) hrun
  refine ⟨?_, fun g hg hp => ?_, fun hstuck => ?_⟩
  · have := Scan.weight_run hrun
    simp only [Scan.weight, Scan.start, Caller.weight, List.foldr_nil, List.length_nil] at this
    omega
  · obtain ⟨i, hgi⟩ := List.getElem?_of_mem hg
    simpa [hp, Phase.Agrees] using hi.agrees i g hgi
  · -- every state other than the return has a thread that can move
    cases hc : s.caller with
    | spawning rest =>
      have := hstuck .caller
      cases rest <;> simp [Scan.step, Scan.callerStep, hc] at this
    | waiting =>
      have hc0 := hstuck .caller
      simp only [Scan.step, Scan.callerStep, hc, ite_eq_right_iff, reduceCtorEq, imp_false] at hc0
      obtain ⟨g, hg, hd⟩ := List.countP_pos_iff.mp (by rw [← hi.counter]; omega)
      obtain ⟨i, hgi⟩ := List.getElem?_of_mem hg
      have hstep := hstuck (.goroutine i)
      obtain ⟨-, hcl⟩ := hi.not_waited hgi (by simpa using hd)
      have hag := hi.agrees i g hgi
      obtain ⟨ip, _ | device | sent | sent | _⟩ := g <;>
        simp [Scan.step, hgi, Scan.goroutineStep, hcl, Phase.Agrees] at hstep hd hag
      exact absurd (hi.buffer_lt_capacity hg rfl) (by omega)
    | draining =>
      have := hstuck .caller
      have hcl : s.closed = true := by simpa [hc, Caller.waited] using hi.closed
      cases hb : s.buffer <;> simp [Scan.step, Scan.callerStep, hc, hb, hcl] at this
    | returned devices err =>
      obtain ⟨rfl, rfl, hb⟩ := hi.returned devices err hc
      refine ⟨s.devices, rfl, ?_⟩
      have hw : s.caller.waited = true := by simp [hc, Caller.waited]
      have hips : s.goroutines.map Goroutine.ip = ips := by
        simpa [hc, Caller.unspawned] using hi.spawned
      have := filterMap_sent_of_done port probe 0 s.goroutines
        (fun i g hg => by simpa using hi.agrees i g hg) (hi.done hw)
      rw [hips] at this
      simpa [hb, this, List.enum] using hi.channel

/-- Three candidates: the first answers over HTTPS, the second times out on both schemes, the
third is a server started with `--http`. -/
def threeCandidates : List String := ["192.168.1.10", "192.168.1.11", "192.168.1.12"]

/-- The `/info` body of a phone. -/
def phoneInfo : InfoDto :=
  ⟨"Phone", "2.1", none, "mobile", "9e107d9d372bb6826bd81d3542a419d6", true⟩

/-- The `/info` body of a laptop. -/
def laptopInfo : InfoDto :=
  ⟨"Laptop", "2.1", some "GoDevice", "desktop", "5d41402abc4b2a76b9719d911017c592", true⟩

/-- What the network answers each goroutine of a scan of `threeCandidates`. -/
def threeProbes : Nat → Probe
  | 0 => ⟨.response 200 (.infoDto laptopInfo), 5, .error "not sent", 0⟩
  | 2 => ⟨.error "http: server gave HTTP response to HTTPS client", 6,
      .response 200 (.infoDto phoneInfo), 7⟩
  | _ => ⟨.error "context deadline exceeded", 2000, .error "context deadline exceeded", 4000⟩

/-- The caller starts the three goroutines; they fetch, the third sends before the first, all
finish; the caller waits, drains and returns. -/
def threeSchedule : List ScanAction :=
  [.caller, .caller, .caller, .caller, .goroutine 0, .goroutine 1, .goroutine 2, .goroutine 2,
    .goroutine 0, .goroutine 0, .goroutine 1, .goroutine 2, .caller, .caller, .caller, .caller]

/-- A scan of three candidates, one of which times out: the schedule is within the bound and
`ScanNetwork` returns the two other devices, in the order they were sent. -/
theorem scanNetwork_two_of_three_answer :
    ∃ s, (Scan.start threeCandidates).run 53317 threeProbes threeSchedule = some s ∧
      threeSchedule.length ≤ 5 * threeCandidates.length + 3 ∧
      ∃ devices, s.caller = .returned devices none ∧
        devices.map Device.ip = ["192.168.1.12", "192.168.1.10"] :=
  ⟨_, rfl, (scanNetwork_returns_successful_devices threeCandidates 53317 threeProbes threeSchedule
    _ rfl).1, _, rfl, rfl⟩

end LocalGo
