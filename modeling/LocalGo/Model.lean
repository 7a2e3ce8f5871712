import Mathlib.Data.List.AList

/-!
# The data model

The records of `pkg/model` that the transfer handlers and the discovery layer read, the HTTP
request and response as the handlers see them, and `GoMap`, the finite map standing for Go's
`map[string]V`.

* `GoMap V` is Mathlib's `AList` over string keys: keys are pairwise distinct by construction, as
  in a Go map. `GoMap.mapVal` is the `for k, v := range m { out[k] = f(k, v) }` loop, and
  `GoMap.Sub` is the sub-map order that file removal moves down in.
* `FileDto`, `InfoDto`, `DeviceInfo`, `PrepareUploadRequestDto` and `MulticastDto` keep the fields
  some modelled function reads or writes; the fields nothing reads are left out.
* `Request` is an `*http.Request` reduced to what the handlers read: the method, the query
  parameters, the host part of `RemoteAddr`, and the body (raw, and as decoded by
  `json.Decode` into a `PrepareUploadRequestDto`).
* `Response` is the status code and the JSON body that `httputil.RespondJSON` and
  `httputil.RespondError` write.

JSON encoding and decoding are not modelled: a decoded value stands for its encoding.
-/

namespace LocalGo

/-- A Go `map[string]V`: an association list whose keys are pairwise distinct. -/
abbrev GoMap (V : Type) := AList (fun _ : String => V)

namespace GoMap

variable {V W : Type}

instance [DecidableEq V] : DecidableEq (GoMap V) := fun a b =>
  decidable_of_iff (a.entries = b.entries) ⟨AList.ext, congrArg _⟩

/-- `len(m)`. -/
def len (m : GoMap V) : Nat := m.keys.length

/-- The map `{k: f(k, v) for k, v in m}`, built in Go by a `range` loop that writes one entry per
key of `m`. -/
def mapVal (f : String → V → W) (m : GoMap V) : GoMap W :=
  ⟨m.entries.map fun e => ⟨e.1, f e.1 e.2⟩, by
    simpa [List.NodupKeys, List.keys, Function.comp_def] using m.nodupKeys⟩

@[simp]
theorem lookup_mapVal (f : String → V → W) (m : GoMap V) (k : String) :
    (m.mapVal f).lookup k = (m.lookup k).map (f k) :=
  List.dlookup_map₂ k

@[simp]
theorem keys_mapVal (f : String → V → W) (m : GoMap V) : (m.mapVal f).keys = m.keys := by
  simp [mapVal, AList.keys, List.keys, Function.comp_def]

@[simp]
theorem mem_mapVal (f : String → V → W) (m : GoMap V) (k : String) :
    k ∈ m.mapVal f ↔ k ∈ m := by
  simp [← AList.lookup_isSome]

/-- A map is empty exactly when no key looks up to a value. -/
theorem len_eq_zero_iff (m : GoMap V) : m.len = 0 ↔ ∀ k, m.lookup k = none := by
  simp only [len, List.length_eq_zero, AList.lookup_eq_none, AList.mem_keys]
  exact ⟨fun h k => by simp [h], fun h => List.eq_nil_iff_forall_not_mem.2 h⟩

@[simp]
theorem lookup_singleton (k : String) (v : V) : (AList.singleton k v : GoMap V).lookup k = some v :=
  List.dlookup_cons_eq _ _ _

theorem lookup_singleton_ne {k k' : String} (h : k' ≠ k) (v : V) :
    (AList.singleton k v : GoMap V).lookup k' = none :=
  List.dlookup_cons_ne _ _ h

@[simp]
theorem len_singleton (k : String) (v : V) : GoMap.len (AList.singleton k v : GoMap V) = 1 := rfl

/-- `m₁` is a sub-map of `m₂`: every entry of `m₁` is an entry of `m₂`. -/
def Sub (m₁ m₂ : GoMap V) : Prop :=
  ∀ k v, m₁.lookup k = some v → m₂.lookup k = some v

@[refl]
theorem Sub.refl (m : GoMap V) : m.Sub m := fun _ _ h => h

@[trans]
theorem Sub.trans {m₁ m₂ m₃ : GoMap V} (h₁ : m₁.Sub m₂) (h₂ : m₂.Sub m₃) :
    m₁.Sub m₃ :=
  fun k v h => h₂ k v (h₁ k v h)

/-- `delete(m, k)` leaves a sub-map of `m`. -/
theorem erase_sub (m : GoMap V) (k : String) : GoMap.Sub (m.erase k) m := by
  intro k' v h
  by_cases hk : k' = k
  · subst hk; simp [AList.lookup_erase] at h
  · rwa [AList.lookup_erase_ne hk] at h

end GoMap

/-- `model.FileDto`: the metadata a sender declares for one file. -/
structure FileDto where
  /-- `ID`. -/
  id : String
  /-- `FileName`, joined to the download directory to name the saved file. -/
  fileName : String
  /-- `Size` in bytes (an `int64`). -/
  size : Int
  /-- `FileType`, a MIME type. -/
  fileType : String
  deriving DecidableEq, Repr

/-- `model.InfoDto`: a device's identity as `/info` and the transfer DTOs carry it. -/
structure InfoDto where
  «alias» : String
  version : String
  /-- `DeviceModel`, a nullable `*string`. -/
  deviceModel : Option String
  deviceType : String
  fingerprint : String
  download : Bool
  deriving DecidableEq, Repr

/-- `model.DeviceInfo` as `PrepareUploadHandlerV2` fills it for the sender of a session. -/
structure DeviceInfo where
  «alias» : String
  version : String
  deviceModel : Option String
  deviceType : String
  fingerprint : String
  /-- `IP`, the host part of the `/prepare-upload` request's remote address. -/
  ip : String
  deriving DecidableEq, Repr

/-- `model.PrepareUploadRequestDto`: the body of `/prepare-upload`. -/
structure PrepareUploadRequestDto where
  info : InfoDto
  /-- `Files`, keyed by file ID. -/
  files : GoMap FileDto
  deriving DecidableEq

/-- `model.MulticastDto`, the Discovery Message. -/
structure MulticastDto where
  «alias» : String
  version : String
  deviceModel : Option String
  deviceType : String
  fingerprint : String
  port : Int
  /-- `Protocol`, `"http"` or `"https"`. -/
  protocol : String
  download : Bool
  /-- `Announce`: an unsolicited announcement rather than a direct response. -/
  announce : Bool
  deriving DecidableEq, Repr

/-- The request an HTTP handler receives, reduced to what the handlers read. -/
structure Request where
  /-- `r.Method`. -/
  method : String
  /-- `r.URL.Query()`, in the order the parameters occur. -/
  query : List (String × String)
  /-- The host part of `r.RemoteAddr`, as `net.SplitHostPort` returns it. -/
  remoteIP : String
  /-- `json.NewDecoder(r.Body).Decode` into a `PrepareUploadRequestDto`; `none` on a decoding
  error. -/
  json : Option PrepareUploadRequestDto
  /-- The raw body, streamed to the storage sink by `/upload`. -/
  body : List UInt8

/-- `r.URL.Query().Get(key)`: the first value given for `key`, or `""`. -/
def Request.get (r : Request) (key : String) : String :=
  (r.query.lookup key).getD ""

/-- The JSON body of a response. -/
inductive Body where
  /-- `RespondJSON(w, status, nil)`, the body `null`. -/
  | null
  /-- `RespondError(w, status, message)`, the body `{"error": message}`. -/
  | error (message : String)
  /-- `model.PrepareUploadResponseDto`: the session ID and one token per file ID. -/
  | prepareUpload (sessionId : String) (files : GoMap String)
  /-- `model.ReceiveRequestResponseDto`, answered by `/prepare-download`. -/
  | prepareDownload (info : InfoDto) (sessionId : String) (files : GoMap FileDto)
  /-- The headers and content `/download` writes. -/
  | file (contentDisposition contentType contentLength content : String)
  deriving DecidableEq

/-- A response: its status code and body. -/
structure Response where
  status : Nat
  body : Body
  deriving DecidableEq

/-- `httputil.RespondError`. -/
def respondError (status : Nat) (message : String) : Response :=
  ⟨status, .error message⟩

/-- A status code in the error range. -/
def Response.IsError (resp : Response) : Prop := 400 ≤ resp.status

instance (resp : Response) : Decidable resp.IsError :=
  inferInstanceAs (Decidable (400 ≤ resp.status))

/-- An index into a list with one element appended is an index into the list, or the new last
one. -/
theorem getElem?_append_singleton_cases {α : Type} {l : List α} {y x : α} {i : Nat}
    (h : (l ++ [y])[i]? = some x) : l[i]? = some x ∨ (i = l.length ∧ x = y) := by
  rcases lt_or_le i l.length with hlt | hle
  · exact .inl (by rwa [List.getElem?_append_left hlt] at h)
  · rw [List.getElem?_append_right hle] at h
    obtain ⟨hi, rfl⟩ := List.getElem?_eq_some_iff.1 h
    exact .inr ⟨by simp at hi; omega, by simp⟩

@[simp]
theorem respondError_status (status : Nat) (message : String) :
    (respondError status message).status = status := rfl

end LocalGo
