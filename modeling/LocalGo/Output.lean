import Mathlib.Tactic.Positivity
import Mathlib.Tactic.Ring
import LocalGo.Scan

/-!
# What the command line prints: device lists and byte sizes

`Application.displayDevices` picks the format from `--json` and `--quiet` and calls
`OutputWriter.WriteDevices`. The table and quiet formats print the first 16 bytes of each
fingerprint with the slice expression `device.Fingerprint[:16]`, which panics when the fingerprint
is shorter; `FormatBytes` scales a size by powers of 1024 in an `int64` loop and indexes the unit
letters `"KMGTPE"` with the number of steps.

Go strings are their bytes here (`goBytes`), so that `len(s)`, `s[:n]` and `s[i]` count bytes as
Go does, and a slice or index expression is an `Option` that is `none` exactly where Go panics.
The `text/tabwriter` pads cells to align the table's columns: the model keeps the tab-separated
cells it is given. The JSON format is represented by the devices `encoding/json` encodes.

* `writeDevices_table_quiet_panic_iff`, `writeDevices_panics_on_short_fingerprint`: the table and
  quiet formats panic exactly when some device's fingerprint has fewer than 16 bytes, and a scan
  whose only candidate reports a three-byte fingerprint makes `scan` panic in both formats.
* `formatBytes_scaling`: for every `int64` size of at least 1024 bytes the loop stops after at most
  five steps with `div = 1024 ^ (exp + 1)` (no step overflows) and
  `1024 ^ (exp + 1) ≤ bytes < 1024 ^ (exp + 2)`, so the unit letter exists; below 1024 no loop runs.
-/

namespace LocalGo

/-! ## Go strings as bytes -/

/-- The bytes of a Go string holding `s`: its UTF-8 encoding. -/
def goBytes (s : String) : List UInt8 := s.toUTF8.data.toList

@[simp]
theorem length_goBytes (s : String) : (goBytes s).length = s.utf8ByteSize :=
  String.size_toUTF8 s

/-- The slice expression `s[:n]`; `none` when `n` lies outside `[0, len(s)]`, where Go panics
with "slice bounds out of range". -/
def sliceTo (s : List UInt8) (n : Int) : Option (List UInt8) :=
  if 0 ≤ n ∧ n ≤ s.length then some (s.take n.toNat) else none

theorem sliceTo_eq_none_iff (s : List UInt8) (n : Int) :
    sliceTo s n = none ↔ n < 0 ∨ s.length < n := by
  unfold sliceTo
  split_ifs with h <;> simp <;> omega

/-- `truncateString(s, maxLen)`: `s` when it has at most `maxLen` bytes, otherwise its first
`maxLen - 3` bytes and `"..."`. -/
def truncateString (s : List UInt8) (maxLen : Int) : Option (List UInt8) :=
  if s.length ≤ maxLen then some s else (sliceTo s (maxLen - 3)).map (· ++ goBytes "...")

/-- With room for the dots, `truncateString` never panics: it only slices strings longer than
`maxLen`. -/
theorem truncateString_isSome (s : List UInt8) {maxLen : Int} (h : 3 ≤ maxLen) :
    (truncateString s maxLen).isSome := by
  unfold truncateString
  split_ifs with hlen
  · rfl
  · have : sliceTo s (maxLen - 3) ≠ none := by rw [Ne, sliceTo_eq_none_iff]; omega
    simpa [Option.isSome_iff_ne_none] using this

/-! ## `WriteDevices` -/

/-- The rows the `for _, device := range devices` loop of a writer prints, `row device` for each
device in order; the first row that panics ends the output. -/
def writeRows (row : Device → Option (List UInt8)) : List Device → Option (List UInt8)
  | [] => some []
  | device :: rest => do
    let line ← row device
    let lines ← writeRows row rest
    pure (line ++ lines)

theorem writeRows_eq_none_iff (row : Device → Option (List UInt8)) (devices : List Device) :
    writeRows row devices = none ↔ ∃ d ∈ devices, row d = none := by
  induction devices with
  | nil => simp [writeRows]
  | cons device rest ih =>
    cases h : row device with
    | none => simp [writeRows, h]
    | some line => cases h' : writeRows row rest <;> simp_all [writeRows]

/-- The line `writeDevicesTable` gives the tab writer for `device`:
`"%s\t%s\t%s\t%d\t%s\t%s...\n"` of the alias truncated to 20 bytes, the IP, the protocol in
upper case, the port, the device type and `device.Fingerprint[:16]`. -/
def tableRow (device : Device) : Option (List UInt8) := do
  let shortAlias ← truncateString (goBytes device.alias) 20
  let fingerprint ← sliceTo (goBytes device.fingerprint) 16
  pure (shortAlias ++ goBytes ("\t" ++ device.ip ++ "\t" ++ device.protocol.toUpper ++ "\t" ++
    toString device.port ++ "\t" ++ device.deviceType ++ "\t") ++ fingerprint ++ goBytes "...\n")

/-- The line `writeDevicesQuiet` prints for `device`: `"%s\t%s\t%s\t%d\t%s\n"` of the alias, the
IP, the protocol, the port and `device.Fingerprint[:16]+"..."`. -/
def quietRow (device : Device) : Option (List UInt8) := do
  let fingerprint ← sliceTo (goBytes device.fingerprint) 16
  pure (goBytes (device.alias ++ "\t" ++ device.ip ++ "\t" ++ device.protocol ++ "\t" ++
    toString device.port ++ "\t") ++ fingerprint ++ goBytes "...\n")

/-- `OutputWriter.writeDevicesTable(devices, method)`: what reaches standard output, `none` when
it panics. -/
def writeDevicesTable (devices : List Device) (method : String) : Option (List UInt8) :=
  if devices.length = 0 then some (goBytes ("No devices found via " ++ method ++ "\n"))
  else
    (writeRows tableRow devices).map fun rows =>
      goBytes ("Found " ++ toString devices.length ++ " device(s) via " ++ method ++ ":\n\n" ++
        "ALIAS\tIP ADDRESS\tPROTOCOL\tPORT\tDEVICE TYPE\tFINGERPRINT\n" ++
        "-----\t----------\t--------\t----\t-----------\t-----------\n") ++ rows

/-- `OutputWriter.writeDevicesQuiet(devices)`. -/
def writeDevicesQuiet (devices : List Device) : Option (List UInt8) :=
  writeRows quietRow devices

/-- `cli.OutputFormat`, the three values `displayDevices` chooses from. -/
inductive OutputFormat where
  | json
  | table
  | quiet
  deriving DecidableEq

/-- What `WriteDevices` prints: bytes, or the JSON document `writeDevicesJSON` encodes from the
devices. -/
inductive Output where
  | text (bytes : List UInt8)
  | json (devices : List Device)
  deriving DecidableEq

/-- `OutputWriter.WriteDevices(devices, method)` for a writer made with `format`; `none` when it
panics. -/
def writeDevices (format : OutputFormat) (devices : List Device) (method : String) :
    Option Output :=
  match format with
  | .json => some (.json devices)
  | .quiet => (writeDevicesQuiet devices).map .text
  | .table => (writeDevicesTable devices method).map .text

/-- `Application.displayDevices(devices, jsonOutput, quiet, method)`. -/
def displayDevices (devices : List Device) (jsonOutput quiet : Bool) (method : String) :
    Option Output :=
  writeDevices (if jsonOutput then .json else if quiet then .quiet else .table) devices method

theorem tableRow_eq_none_iff (device : Device) :
    tableRow device = none ↔ device.fingerprint.utf8ByteSize < 16 := by
  obtain ⟨shortAlias, h⟩ := Option.isSome_iff_exists.mp
    (truncateString_isSome (goBytes device.alias) (by decide : (3 : Int) ≤ 20))
  have hslice := sliceTo_eq_none_iff (goBytes device.fingerprint) 16
  cases hf : sliceTo (goBytes device.fingerprint) 16 <;>
    simp [tableRow, h, hf] at hslice ⊢ <;> omega

theorem quietRow_eq_none_iff (device : Device) :
    quietRow device = none ↔ device.fingerprint.utf8ByteSize < 16 := by
  have hslice := sliceTo_eq_none_iff (goBytes device.fingerprint) 16
  cases hf : sliceTo (goBytes device.fingerprint) 16 <;>
    simp [quietRow, hf] at hslice ⊢ <;> omega

/-- The table and quiet formats panic exactly when some device's fingerprint is shorter than 16
bytes; the JSON format never does. -/
theorem writeDevices_table_quiet_panic_iff (devices : List Device) (method : String) :
    (writeDevices .table devices method = none ↔
      ∃ d ∈ devices, d.fingerprint.utf8ByteSize < 16) ∧
    (writeDevices .quiet devices method = none ↔
      ∃ d ∈ devices, d.fingerprint.utf8ByteSize < 16) ∧
    writeDevices .json devices method ≠ none := by
  refine ⟨?_, ?_, by simp [writeDevices]⟩
  · rcases devices with _ | ⟨d, ds⟩
    · simp [writeDevices, writeDevicesTable]
    · simp only [writeDevices, writeDevicesTable, Option.map_eq_none', List.length_cons,
        Nat.add_one_ne_zero, ↓reduceIte, writeRows_eq_none_iff, tableRow_eq_none_iff]
  · simp only [writeDevices, writeDevicesQuiet, Option.map_eq_none', writeRows_eq_none_iff,
      quietRow_eq_none_iff]

/-- A printer that answers the scan over HTTPS with a three-byte fingerprint. -/
def printerProbe : Nat → Probe := fun _ =>
  ⟨.response 200 (.infoDto ⟨"Printer", "2.1", none, "headless", "abc", false⟩), 5,
    .error "not sent", 0⟩

/-- The caller starts the goroutine, which fetches, sends and finishes; the caller waits, drains
and returns. -/
def oneCandidateSchedule : List ScanAction :=
  [.caller, .caller, .goroutine 0, .goroutine 0, .goroutine 0, .caller, .caller, .caller]

/-- For every list and method the table and quiet formats panic exactly on a fingerprint shorter
than 16 bytes; and `scan` over one candidate that reports the fingerprint `"abc"` gets that device
from `ScanNetwork` and panics in `displayDevices`, as a table and with `--quiet`. -/
theorem writeDevices_panics_on_short_fingerprint :
    (∀ devices method,
      (writeDevices .table devices method = none ↔
        ∃ d ∈ devices, d.fingerprint.utf8ByteSize < 16) ∧
      (writeDevices .quiet devices method = none ↔
        ∃ d ∈ devices, d.fingerprint.utf8ByteSize < 16)) ∧
    ∃ s devices, (Scan.start ["192.168.1.30"]).run 53317 printerProbe oneCandidateSchedule =
        some s ∧ s.caller = .returned devices none ∧
      displayDevices devices false false "HTTP scan" = none ∧
      displayDevices devices false true "HTTP scan" = none :=
  ⟨fun devices method => (writeDevices_table_quiet_panic_iff devices method).imp_right And.left,
    _, _, rfl, rfl, by decide, by decide⟩

/-! ## `FormatBytes` -/

/-- `int64` arithmetic wraps: the two's-complement value of `x` modulo `2^64`
(`9223372036854775808 = 2^63`, `18446744073709551616 = 2^64`). -/
def wrapInt64 (x : Int) : Int :=
  (x + 9223372036854775808) % 18446744073709551616 - 9223372036854775808

theorem wrapInt64_of_lt {x : Int} (hlo : -9223372036854775808 ≤ x)
    (hhi : x < 9223372036854775808) : wrapInt64 x = x := by
  unfold wrapInt64
  omega

/-- The loop of `FormatBytes`, `for n := bytes / unit; n >= unit; n /= unit { div *= unit;
exp++ }`, from the current `n`, `div` and `exp`; it returns `div` and `exp` when it exits. The
division truncates and the product wraps, as on `int64`. -/
def formatBytesLoop (n div : Int) (exp : Nat) : Int × Nat :=
  if h : 1024 ≤ n then formatBytesLoop (n.tdiv 1024) (wrapInt64 (div * 1024)) (exp + 1)
  else (div, exp)
termination_by n.toNat
decreasing_by
  rw [Int.tdiv_eq_ediv (by omega) (by decide)]
  omega

/-- What `FormatBytes` returns: the text `"%d B"` of the size, or the operands of
`"%.1f %cB"`, `float64(bytes)/float64(div)` and the unit letter (the float formatting is not
modelled). -/
inductive ByteSize where
  | text (s : String)
  | scaled (bytes div : Int) (unit : Char)
  deriving DecidableEq

/-- `FormatBytes(bytes)`; `none` when the index into `"KMGTPE"` is out of range, where Go
panics. -/
def formatBytes (bytes : Int) : Option ByteSize :=
  if bytes < 1024 then some (.text (toString bytes ++ " B"))
  else
    match formatBytesLoop (bytes.tdiv 1024) 1024 0 with
    | (div, exp) => "KMGTPE".toList[exp]?.map (.scaled bytes div)

/-- Powers of 1024 around `n / 1024` are one power lower than those around `n`. -/
theorem pow_bounds_of_ediv {n : Int} {k : Nat} (hlo : 1024 ^ k ≤ n / 1024)
    (hhi : n / 1024 < 1024 ^ (k + 1)) : 1024 ^ (k + 1) ≤ n ∧ n < 1024 ^ (k + 2) := by
  rw [pow_succ, pow_succ _ (k + 1)]
  exact ⟨(Int.le_ediv_iff_mul_le (by decide)).mp hlo, (Int.ediv_lt_iff_lt_mul (by decide)).mp hhi⟩

/-- From `n ≥ 1` and `div = 1024 ^ (exp + 1)` with `n * div` within `int64`, the loop runs `k`
more times, where `1024 ^ k ≤ n < 1024 ^ (k + 1)`, and every product it forms is exact. -/
theorem formatBytesLoop_spec (n div : Int) (exp : Nat) (hdiv : div = 1024 ^ (exp + 1))
    (hn : 1 ≤ n) (hfit : n * div < 9223372036854775808) :
    ∃ k, formatBytesLoop n div exp = (1024 ^ (exp + k + 1), exp + k) ∧
      1024 ^ k ≤ n ∧ n < 1024 ^ (k + 1) := by
  induction n, div, exp using formatBytesLoop.induct with
  | case1 n div exp h ih =>
    have hq : n.tdiv 1024 = n / 1024 := Int.tdiv_eq_ediv (by omega) (by decide)
    have hdiv0 : 0 < div := hdiv ▸ by positivity
    -- `div * 1024` is at most `n * div`, so it does not wrap
    have hle : div * 1024 ≤ n * div := by
      rw [mul_comm n]
      exact Int.mul_le_mul_of_nonneg_left h hdiv0.le
    have hstep : wrapInt64 (div * 1024) = 1024 ^ (exp + 1 + 1) := by
      rw [wrapInt64_of_lt (by omega) (by omega), hdiv, pow_succ _ (exp + 1)]
    have hfit' : n / 1024 * wrapInt64 (div * 1024) < 9223372036854775808 :=
      calc n / 1024 * wrapInt64 (div * 1024) = n / 1024 * 1024 * div := by
            rw [hstep, pow_succ, ← hdiv]; ring
        _ ≤ n * div := Int.mul_le_mul_of_nonneg_right (Int.ediv_mul_le n (by decide)) hdiv0.le
        _ < 9223372036854775808 := hfit
    rw [hq] at ih
    obtain ⟨k, hk, hlo, hhi⟩ := ih hstep (by omega) hfit'
    refine ⟨k + 1, ?_, pow_bounds_of_ediv hlo hhi⟩
    rw [formatBytesLoop, dif_pos h, hq, hk, Prod.mk.injEq]
    exact ⟨by ring, by ring⟩
  | case2 n div exp h =>
    refine ⟨0, ?_, by simpa using hn, by simpa using (by omega : n < 1024)⟩
    rw [formatBytesLoop, dif_neg h, hdiv]
    rfl

/-- `FormatBytes` on every `int64` size: below 1024 bytes (negative sizes included) no loop runs
and the size is printed in bytes; from 1024 bytes on, the loop stops with `exp ≤ 5` and
`div = 1024 ^ (exp + 1)` computed without overflow, `1024 ^ (exp + 1) ≤ bytes < 1024 ^ (exp + 2)`,
and the unit letter `"KMGTPE"[exp]` exists. -/
theorem formatBytes_scaling (bytes : Int) (hbytes : bytes < 9223372036854775808) :
    (bytes < 1024 → formatBytes bytes = some (.text (toString bytes ++ " B"))) ∧
    (1024 ≤ bytes → ∃ exp ≤ 5,
      formatBytesLoop (bytes.tdiv 1024) 1024 0 = (1024 ^ (exp + 1), exp) ∧
      1024 ^ (exp + 1) ≤ bytes ∧ bytes < 1024 ^ (exp + 2) ∧
      ∃ unit, "KMGTPE".toList[exp]? = some unit ∧
        formatBytes bytes = some (.scaled bytes (1024 ^ (exp + 1)) unit)) := by
  refine ⟨fun h => by simp [formatBytes, h], fun h => ?_⟩
  have hq : bytes.tdiv 1024 = bytes / 1024 := Int.tdiv_eq_ediv (by omega) (by decide)
  rw [hq]
  obtain ⟨k, hk, hlo, hhi⟩ := formatBytesLoop_spec (bytes / 1024) 1024 0 (by norm_num)
    (by omega) (by omega)
  simp only [Nat.zero_add] at hk
  obtain ⟨hlo', hhi'⟩ := pow_bounds_of_ediv hlo hhi
  -- `1024 ^ 7` is past `2 ^ 63`
  have hk5 : k ≤ 5 := by
    by_contra hk5
    have := pow_le_pow_right₀ (by norm_num : (1 : Int) ≤ 1024) (by omega : 7 ≤ k + 1)
    norm_num at this
    omega
  obtain ⟨unit, hunit⟩ : ∃ unit, "KMGTPE".toList[k]? = some unit :=
    ⟨_, List.getElem?_eq_getElem (by show k < 6; omega)⟩
  refine ⟨k, hk5, hk, hlo', hhi', unit, hunit, ?_⟩
  simp only [formatBytes, if_neg (by omega : ¬bytes < 1024), hq, hk, hunit, Option.map_some']

/-- A file of 1.5 MiB is printed as mebibytes. -/
theorem formatBytes_mebibytes :
    (1572864 : Int) < 9223372036854775808 ∧
      ∃ exp ≤ 5, formatBytesLoop ((1572864 : Int).tdiv 1024) 1024 0 = (1024 ^ (exp + 1), exp) ∧
        1024 ^ (exp + 1) ≤ (1572864 : Int) ∧ (1572864 : Int) < 1024 ^ (exp + 2) ∧
        ∃ unit, "KMGTPE".toList[exp]? = some unit ∧
          formatBytes 1572864 = some (.scaled 1572864 (1024 ^ (exp + 1)) unit) :=
  ⟨by omega, (formatBytes_scaling 1572864 (by omega)).2 (by omega)⟩

end LocalGo
