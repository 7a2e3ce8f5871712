import LocalGo.Sequential
import LocalGo.Discovery

/-!
# The sender against a LocalGo receiver

`send.sendToDevice(ctx, device, filePath)` declares one file in a `/prepare-upload` to the device
it was given: the device's own identity as `Info`, a fresh UUID as the file's ID,
`filepath.Base(filePath)` as its name and `http.DetectContentType([]byte{})` as its type. It
takes the session ID and the file's token from the `200` answer and streams the file in one
`/upload` (`uploadFile`). It sends no PIN, and it never sends `/cancel`.

The sender's network calls are a parameter, `client`, from a `Call` and the network's state to a
`Reply` and the next state, so `sendToDevice` reads as the Go function does. `LocalServer.answer`
is the other party: a LocalGo server runs the routed handler on its own (`handle`), unless the
port or the transport does not match. `LocalServer.client` sends every call to that server, the
`k`-th call drawing `oracles k`.

The upload URL is built with `fmt.Sprintf` and no escaping; `LocalServer.request` hands the three
values back to the handler, as `r.URL.Query()` does for the UUID texts (hexadecimal digits and
`-`) that LocalGo issues.

* `LocalServer.answer_prepareUpload` and `LocalServer.answer_upload`: what the server answers to
  each of the sender's two calls.
* `sendToDevice_delivers_iff`: against a LocalGo receiver that speaks the device's protocol on its
  port, the transfer returns `nil` exactly when the file can be read, the receiver has no PIN and
  no active session, and its write succeeds; the receiver has then saved the file's bytes at
  `filepath.Join(DownloadDir, filepath.Base(filePath))` and is idle again.
* `sendToDevice_refused`: a PIN-protected receiver answers `401` and a busy one `409`, and neither
  changes; once the receiver has accepted the session, a file that cannot be opened or a failed
  write leaves that session active with the file pending.
* `handleAll_keeps_session`: a receiver left with an active session stays so: every later
  request that does not carry the session's ID leaves the receive service as it was, and each
  `/prepare-upload` among them is answered with an error.
-/

namespace LocalGo

/-- What the sender's file system answers for the path it sends. -/
structure LocalFile where
  /-- `os.Stat(filePath)`: the file's size, or the error. -/
  stat : Except String Int
  /-- `os.Open(filePath)`: the bytes the upload streams, or the error. -/
  opened : Except String (List UInt8)

/-- `http.DetectContentType([]byte{})`. -/
def emptyContentType : String := "text/plain; charset=utf-8"

/-- What a call posts, and to which route. -/
inductive Target where
  /-- `POST /api/localsend/v2/prepare-upload` with this JSON body. -/
  | prepareUpload (dto : PrepareUploadRequestDto)
  /-- `POST /api/localsend/v2/upload?sessionId=...&fileId=...&token=...` streaming `body`. -/
  | upload (sessionId fileId token : String) (body : List UInt8)

/-- A call of the sender's `http.Client`, to `scheme://ip:port`. -/
structure Call where
  scheme : String
  ip : String
  port : Int
  target : Target

/-- What `client.Post` and `client.Do` return. -/
inductive Reply where
  /-- An error: nothing listening, a failed TLS handshake, a connection closed unanswered. -/
  | error (err : String)
  /-- The status code and JSON body a routed handler wrote. -/
  | json (status : Nat) (body : Body)
  /-- `net/http`'s TLS server to a plain HTTP request: `400` and the text
  `Client sent an HTTP request to an HTTPS server.` -/
  | tlsRequired

/-- `http.StatusText(code)` for the codes the server writes, and for any other code the text
`net/http` puts in the status line. -/
def statusText (code : Nat) : String :=
  match code with
  | 200 => "OK"
  | 400 => "Bad Request"
  | 401 => "Unauthorized"
  | 403 => "Forbidden"
  | 404 => "Not Found"
  | 405 => "Method Not Allowed"
  | 409 => "Conflict"
  | 412 => "Precondition Failed"
  | 500 => "Internal Server Error"
  | _ => "status code " ++ toString code

/-- `resp.Status`: the code and its text, as the status line has them. -/
def statusLine (code : Nat) : String := toString code ++ " " ++ statusText code

/-- `json.NewDecoder(resp.Body).Decode(&prepareResponse)` into a `PrepareUploadResponseDto`: the
session ID and the token map. `null` and an error object decode to the empty response; the
`/prepare-download` object fails on its file objects, and the one file body the server writes,
`Hello, World`, is not JSON. -/
def Body.prepareUploadResponse : Body → Except String (String × GoMap String)
  | .null | .error _ => .ok ("", ∅)
  | .prepareUpload sessionId files => .ok (sessionId, files)
  | .prepareDownload _ sessionId files =>
    if files.len = 0 then .ok (sessionId, ∅)
    else .error
      "json: cannot unmarshal object into Go struct field PrepareUploadResponseDto.files of type string"
  | .file _ _ _ _ => .error "invalid character 'H' looking for beginning of value"

section Sender

variable {σ : Type} (client : Call → σ → Reply × σ)

/-- `uploadFile(ctx, client, device, filePath, fileID, sessionID, token, scheme)`. -/
def uploadFile (device : Device) (file : LocalFile) (fileID sessionID token scheme : String)
    (s : σ) : Option String × σ :=
  match file.opened with
  | .error err => (some ("failed to open file: " ++ err), s)
  | .ok body =>
    match client ⟨scheme, device.ip, device.port, .upload sessionID fileID token body⟩ s with
    | (.error err, s) => (some ("failed to send upload request: " ++ err), s)
    | (.json status _, s) =>
      if status = 200 then (none, s)
      else (some ("upload request failed with status: " ++ statusLine status), s)
    | (.tlsRequired, s) => (some ("upload request failed with status: " ++ statusLine 400), s)

/-- `sendToDevice(ctx, device, filePath)`; `fileId` is the UUID drawn for the file's ID. -/
def sendToDevice (device : Device) (filePath : String) (file : LocalFile) (fileId : Uuid)
    (s : σ) : Option String × σ :=
  let scheme := if device.protocol = "https" then "https" else "http"
  match file.stat with
  | .error err => (some ("failed to get file info: " ++ err), s)
  | .ok size =>
    let fileDto : FileDto := ⟨fileId.text, Filepath.base filePath, size, emptyContentType⟩
    let info : InfoDto := ⟨device.alias, device.version, device.deviceModel, device.deviceType,
      device.fingerprint, device.download⟩
    match client ⟨scheme, device.ip, device.port,
        .prepareUpload ⟨info, AList.singleton fileDto.id fileDto⟩⟩ s with
    | (.error err, s) => (some ("failed to send prepare request: " ++ err), s)
    | (.tlsRequired, s) => (some ("prepare request failed with status: " ++ statusLine 400), s)
    | (.json status body, s) =>
      if status ≠ 200 then (some ("prepare request failed with status: " ++ statusLine status), s)
      else
        match body.prepareUploadResponse with
        | .error err => (some ("failed to decode prepare response: " ++ err), s)
        | .ok (sessionId, files) =>
          uploadFile client device file fileDto.id sessionId ((files.lookup fileDto.id).getD "")
            scheme s

end Sender

namespace LocalServer

/-- The route and the request the handler sees for a call from `remoteIP`. The handlers read
neither the raw body of `/prepare-upload` nor a JSON body of `/upload`. -/
def request (remoteIP : String) : Target → Endpoint × Request
  | .prepareUpload dto => (.prepareUpload, ⟨"POST", [], remoteIP, some dto, []⟩)
  | .upload sessionId fileId token body =>
    (.upload,
      ⟨"POST", [("sessionId", sessionId), ("fileId", fileId), ("token", token)], remoteIP, none,
        body⟩)

/-- How a LocalGo server listening on `port`, over TLS exactly when `tls`, answers `call` from
`remoteIP`, drawing `o`: a call to another port or an HTTPS call to a plain server fails with
`netErr`, a plain call to a TLS server gets `tlsRequired`, and otherwise the routed handler runs
to its end. A handler that does not answer leaves the client with an error too. -/
def answer (cfg : Config) (tls : Bool) (port : Int) (netErr remoteIP : String) (o : Oracle)
    (call : Call) (srv : Server) : Reply × Server :=
  if call.port ≠ port ∨ (call.scheme = "https" ∧ tls = false) then (.error netErr, srv)
  else if call.scheme ≠ "https" ∧ tls = true then (.tlsRequired, srv)
  else
    match handle cfg srv (request remoteIP call.target).1 (request remoteIP call.target).2 o with
    | (srv', .done resp) => (.json resp.status resp.body, srv')
    | (srv', _) => (.error netErr, srv')

/-- The sender's network when every call reaches this server, coming from `remoteIP call.ip`; the
state is the server's and the number of calls made, and the `k`-th call draws `oracles k`. -/
def client (cfg : Config) (tls : Bool) (port : Int) (netErr : String)
    (remoteIP : String → String) (oracles : Nat → Oracle) (call : Call) (s : Server × Nat) :
    Reply × (Server × Nat) :=
  let r := answer cfg tls port netErr (remoteIP call.ip) (oracles s.2) call s.1
  (r.1, (r.2, s.2 + 1))

/-- The scheme a client uses for a server that speaks TLS exactly when `tls`. -/
def scheme (tls : Bool) : String := if tls then "https" else "http"

section Answer

variable (cfg : Config) (tls : Bool) (port : Int) (netErr remoteIP : String) (o : Oracle)
  (srv : Server) (ip : String)

/-- The server's answer to a `/prepare-upload` over its own transport: `401` without the PIN,
`409` while a session is active, `400` for no file, and otherwise the new session's ID and
tokens; only the last changes the server. -/
theorem answer_prepareUpload (dto : PrepareUploadRequestDto) :
    answer cfg tls port netErr remoteIP o ⟨scheme tls, ip, port, .prepareUpload dto⟩ srv =
      if cfg.pin ≠ "" then (.json 401 (.error "Invalid PIN"), srv)
      else if srv.receive.currentSession.isSome then
        (.json 409 (.error "Blocked by another session"), srv)
      else if dto.files.len = 0 then
        (.json 400 (.error "Request must contain at least one file"), srv)
      else
        let files := ReceiveService.sessionFiles dto.files fun k => (o.token k).text
        (.json 200 (.prepareUpload o.sessionId.text (PrepareUpload.responseTokens files)),
          { srv with receive := ⟨srv.receive.heap ++
              [⟨o.sessionId.text, PrepareUpload.sender ⟨"POST", [], remoteIP, some dto, []⟩ dto,
                files⟩], some srv.receive.heap.length⟩ }) := by
  have hpin : pinOk cfg ⟨"POST", [], remoteIP, some dto, []⟩ ↔ cfg.pin = "" := by
    simp only [pinOk, Request.get, List.lookup_nil, Option.getD_none]
    exact ⟨fun h => h.elim id fun h => h.symm, .inl⟩
  by_cases hp : cfg.pin = ""
  · cases hs : srv.receive.currentSession with
    | some q =>
      cases tls <;>
        simp [answer, scheme, request, handle, Thread.runFor, Thread.advance,
          PrepareUpload.start, PrepareUpload.blocked, ReceiveService.getSession, respondError, hp, hs,
          hpin]
    | none =>
      by_cases hlen : dto.files.len = 0
      · cases tls <;>
          simp [answer, scheme, request, handle, Thread.runFor, Thread.advance,
            PrepareUpload.start, ReceiveService.getSession, respondError, hp, hs, hpin, hlen]
      · have h := handle_prepareUpload_of_idle cfg srv o ⟨"POST", [], remoteIP, some dto, []⟩ dto
          rfl (hpin.2 hp) hs rfl hlen
        cases tls <;> simp [answer, scheme, request, h, hp, hs, hlen]
  · cases tls <;>
      simp [answer, scheme, request, handle, Thread.runFor, Thread.advance, PrepareUpload.start,
        respondError, hp, hpin]

/-- The server's answer to an `/upload` over its own transport that names the active session,
comes from the session's sender and presents the file's token: the body goes to the sink and the
answer follows the write, which on success removes the file from the session. -/
theorem answer_upload {sessionId fileId token : String} {p : Nat} {fileInfo : ActiveFile}
    (body : List UInt8) (hsid : sessionId ≠ "") (hfid : fileId ≠ "") (htok : token ≠ "")
    (hsession : srv.receive.getSessionByID sessionId = some p)
    (hip : remoteIP = (srv.receive.deref p).sender.ip)
    (hfile : (srv.receive.deref p).files.lookup fileId = some fileInfo)
    (htoken : fileInfo.token = token) :
    answer cfg tls port netErr remoteIP o ⟨scheme tls, ip, port, .upload sessionId fileId token body⟩
        srv =
      (if o.saved then .json 200 .null else .json 500 (.error "Failed to save file"),
        { srv with
          receive :=
            if o.saved then srv.receive.removeFileFromSession sessionId fileId else srv.receive
          sink := srv.sink ++ [⟨Upload.destinationPath cfg fileInfo, body⟩] }) := by
  have gs : Request.get ⟨"POST", [("sessionId", sessionId), ("fileId", fileId), ("token", token)],
      remoteIP, none, body⟩ "sessionId" = sessionId := rfl
  have gf : Request.get ⟨"POST", [("sessionId", sessionId), ("fileId", fileId), ("token", token)],
      remoteIP, none, body⟩ "fileId" = fileId := rfl
  have gt : Request.get ⟨"POST", [("sessionId", sessionId), ("fileId", fileId), ("token", token)],
      remoteIP, none, body⟩ "token" = token := rfl
  have h := fun hsaved => handle_upload_of_valid cfg srv o _ p fileInfo rfl (gs ▸ hsid)
    (gf ▸ hfid) (gt ▸ htok) (gs ▸ hsession) hip (gf ▸ hfile) (gt ▸ htoken) hsaved
  have h' := fun hsaved => handle_upload_of_unsaved cfg srv o _ p fileInfo rfl (gs ▸ hsid)
    (gf ▸ hfid) (gt ▸ htok) (gs ▸ hsession) hip (gf ▸ hfile) (gt ▸ htoken) hsaved
  cases hsaved : o.saved <;> cases tls <;>
    simp [answer, scheme, request, h, h', hsaved, gs, gf, respondError]

end Answer

/-- The session a LocalGo receiver opens for `sendToDevice`'s request: its ID, the device's own
identity with the sender's address, and the one declared file with its token. -/
def sentSession (device : Device) (filePath : String) (size : Int) (fileId : Uuid)
    (senderIP : String) (o : Oracle) : ActiveReceiveSession :=
  ⟨o.sessionId.text,
    ⟨device.alias, device.version, device.deviceModel, device.deviceType, device.fingerprint,
      senderIP⟩,
    ReceiveService.sessionFiles
      (AList.singleton fileId.text ⟨fileId.text, Filepath.base filePath, size, emptyContentType⟩)
      fun key => (o.token key).text⟩

section Transfer

variable (cfg : Config) (tls : Bool) (port : Int) (netErr : String) (remoteIP : String → String)
  (oracles : Nat → Oracle) (srv : Server) (k : Nat) {device : Device} (filePath : String)
  {file : LocalFile} (fileId : Uuid)

theorem scheme_of_protocol (hproto : device.protocol = scheme tls) :
    (if device.protocol = "https" then "https" else "http") = scheme tls := by
  cases tls <;> simp [scheme, hproto]

/-- A PIN-protected receiver refuses the declaration, and nothing changes. -/
theorem sendToDevice_of_pin (hproto : device.protocol = scheme tls) (hport : device.port = port)
    {size : Int} (hstat : file.stat = .ok size) (hpin : cfg.pin ≠ "") :
    sendToDevice (client cfg tls port netErr remoteIP oracles) device filePath file fileId (srv, k) =
      (some "prepare request failed with status: 401 Unauthorized", (srv, k + 1)) := by
  simp only [sendToDevice, hstat, scheme_of_protocol tls hproto, client, hport,
    answer_prepareUpload]
  rw [if_pos hpin]
  rfl

/-- A receiver with an active session refuses the declaration, and nothing changes. -/
theorem sendToDevice_of_busy (hproto : device.protocol = scheme tls) (hport : device.port = port)
    {size : Int} (hstat : file.stat = .ok size) (hpin : cfg.pin = "")
    (hbusy : srv.receive.currentSession.isSome) :
    sendToDevice (client cfg tls port netErr remoteIP oracles) device filePath file fileId (srv, k) =
      (some "prepare request failed with status: 409 Conflict", (srv, k + 1)) := by
  simp only [sendToDevice, hstat, scheme_of_protocol tls hproto, client, hport,
    answer_prepareUpload]
  rw [if_neg (not_not.2 hpin), if_pos hbusy]
  rfl

/-- An idle receiver with no PIN opens `sentSession`, and `sendToDevice` goes on to upload the
file with the session's ID and the file's token. -/
theorem sendToDevice_accepted (hproto : device.protocol = scheme tls) (hport : device.port = port)
    {size : Int} (hstat : file.stat = .ok size) (hpin : cfg.pin = "")
    (hidle : srv.receive.currentSession = none) :
    sendToDevice (client cfg tls port netErr remoteIP oracles) device filePath file fileId (srv, k) =
      uploadFile (client cfg tls port netErr remoteIP oracles) device file fileId.text
        (oracles k).sessionId.text ((oracles k).token fileId.text).text (scheme tls)
        ({ srv with receive := ⟨srv.receive.heap ++
            [sentSession device filePath size fileId (remoteIP device.ip) (oracles k)],
            some srv.receive.heap.length⟩ }, k + 1) := by
  simp only [sendToDevice, hstat, scheme_of_protocol tls hproto, client, hport,
    answer_prepareUpload]
  rw [if_neg (not_not.2 hpin), hidle]
  simp [Body.prepareUploadResponse, PrepareUpload.responseTokens, sentSession,
    PrepareUpload.sender]

/-- The session `sentSession` opened is the active one, under its ID. -/
theorem getSessionByID_sentSession (heap : List ActiveReceiveSession) (size : Int)
    (senderIP : String) (o : Oracle) :
    (⟨heap ++ [sentSession device filePath size fileId senderIP o], some heap.length⟩ :
      ReceiveService).getSessionByID o.sessionId.text = some heap.length :=
  ReceiveService.getSessionByID_eq_some_iff.2 ⟨rfl, by simp [sentSession]⟩

/-- The upload `sendToDevice` makes once the receiver opened `sentSession`: the receiver passes
the bytes to its sink at `filepath.Join(DownloadDir, filepath.Base(filePath))`; on a successful
write it removes the file from the session and the transfer returns `nil`, otherwise it answers
`500` and the session keeps the file. -/
theorem uploadFile_sentSession (hport : device.port = port) {size : Int} {content : List UInt8}
    (hopen : file.opened = .ok content) :
    uploadFile (client cfg tls port netErr remoteIP oracles) device file fileId.text
        (oracles k).sessionId.text ((oracles k).token fileId.text).text (scheme tls)
        ({ srv with receive := ⟨srv.receive.heap ++
            [sentSession device filePath size fileId (remoteIP device.ip) (oracles k)],
            some srv.receive.heap.length⟩ }, k + 1) =
      (if (oracles (k + 1)).saved then none
        else some "upload request failed with status: 500 Internal Server Error",
        ({ srv with
            receive :=
              if (oracles (k + 1)).saved then
                (⟨srv.receive.heap ++
                  [sentSession device filePath size fileId (remoteIP device.ip) (oracles k)],
                  some srv.receive.heap.length⟩ : ReceiveService).removeFileFromSession
                  (oracles k).sessionId.text fileId.text
              else ⟨srv.receive.heap ++
                [sentSession device filePath size fileId (remoteIP device.ip) (oracles k)],
                some srv.receive.heap.length⟩
            sink := srv.sink ++
              [⟨Filepath.join cfg.downloadDir (Filepath.base filePath), content⟩] }, k + 2)) := by
  have hsession := @getSessionByID_sentSession device filePath fileId srv.receive.heap size
    (remoteIP device.ip) (oracles k)
  have hfile : ((⟨srv.receive.heap ++
      [sentSession device filePath size fileId (remoteIP device.ip) (oracles k)],
      some srv.receive.heap.length⟩ : ReceiveService).deref srv.receive.heap.length).files.lookup
        fileId.text =
      some ⟨⟨fileId.text, Filepath.base filePath, size, emptyContentType⟩,
        ((oracles k).token fileId.text).text⟩ := by
    simp [sentSession]
  have h := answer_upload cfg tls port netErr (remoteIP device.ip) (oracles (k + 1))
    { srv with receive := ⟨srv.receive.heap ++
        [sentSession device filePath size fileId (remoteIP device.ip) (oracles k)],
        some srv.receive.heap.length⟩ } device.ip content (Uuid.text_ne_empty _)
    (Uuid.text_ne_empty _) (Uuid.text_ne_empty _) hsession (by simp [sentSession]) hfile rfl
  simp only [uploadFile, hopen, client, hport, h]
  cases (oracles (k + 1)).saved <;> rfl

/-- Removing the one file of `sentSession` closes it: the receiver is idle again. -/
theorem removeFileFromSession_sentSession (heap : List ActiveReceiveSession) (size : Int)
    (senderIP : String) (o : Oracle) :
    ((⟨heap ++ [sentSession device filePath size fileId senderIP o], some heap.length⟩ :
      ReceiveService).removeFileFromSession o.sessionId.text fileId.text).currentSession =
      none := by
  rw [ReceiveService.removeFileFromSession_eq, getSessionByID_sentSession]
  simp only [ReceiveService.deref_append_length, ReceiveService.eraseFile, sentSession,
    ite_eq_left_iff, reduceCtorEq, imp_false, not_not, GoMap.len_eq_zero_iff]
  intro x
  by_cases hx : x = fileId.text
  · subst hx
    simp [AList.lookup_erase]
  · rw [AList.lookup_erase_ne hx]
    simp [GoMap.lookup_singleton_ne hx]

/-- The file `sentSession` declares is pending while the session is active. -/
theorem pending_sentSession (heap : List ActiveReceiveSession) (size : Int) (senderIP : String)
    (o : Oracle) :
    ((⟨heap ++ [sentSession device filePath size fileId senderIP o], some heap.length⟩ :
      ReceiveService).pending.lookup fileId.text).isSome := by
  simp [ReceiveService.pending, sentSession]

/-- Against a receiver that speaks the device's protocol on the device's port, the transfer
returns `nil` exactly when the file can be read, the receiver has no PIN and no session, and its
write succeeds. -/
theorem sendToDevice_fst_eq_none_iff (hproto : device.protocol = scheme tls)
    (hport : device.port = port) :
    (sendToDevice (client cfg tls port netErr remoteIP oracles) device filePath file fileId
        (srv, k)).1 = none ↔
      file.stat.isOk ∧ file.opened.isOk ∧ cfg.pin = "" ∧ srv.receive.currentSession = none ∧
        (oracles (k + 1)).saved = true := by
  cases hstat : file.stat with
  | error err => simp [sendToDevice, hstat, Except.toBool]
  | ok size =>
    by_cases hpin : cfg.pin = ""
    · cases hidle : srv.receive.currentSession with
      | some q =>
        rw [sendToDevice_of_busy cfg tls port netErr remoteIP oracles srv k filePath fileId hproto
          hport hstat hpin (by simp [hidle])]
        simp [hidle]
      | none =>
        rw [sendToDevice_accepted cfg tls port netErr remoteIP oracles srv k filePath fileId hproto
          hport hstat hpin hidle]
        cases hopen : file.opened with
        | error err => simp [uploadFile, hopen, Except.toBool]
        | ok content =>
          rw [uploadFile_sentSession cfg tls port netErr remoteIP oracles srv k filePath fileId
            hport hopen]
          cases (oracles (k + 1)).saved <;> simp [hpin, Except.toBool]
    · rw [sendToDevice_of_pin cfg tls port netErr remoteIP oracles srv k filePath fileId hproto
        hport hstat hpin]
      simp [hpin]

/-- A delivered file: the receiver's sink got the bytes the sender read, and it is idle. -/
theorem sendToDevice_delivered (hproto : device.protocol = scheme tls)
    (hport : device.port = port) {content : List UInt8} (hopen : file.opened = .ok content)
    (hok : file.stat.isOk ∧ file.opened.isOk ∧ cfg.pin = "" ∧
      srv.receive.currentSession = none ∧ (oracles (k + 1)).saved = true) :
    (sendToDevice (client cfg tls port netErr remoteIP oracles) device filePath file fileId
          (srv, k)).2.1.sink =
        srv.sink ++ [⟨Filepath.join cfg.downloadDir (Filepath.base filePath), content⟩] ∧
      (sendToDevice (client cfg tls port netErr remoteIP oracles) device filePath file fileId
        (srv, k)).2.1.receive.currentSession = none := by
  obtain ⟨hstat, -, hpin, hidle, hsaved⟩ := hok
  obtain ⟨size, hstat⟩ : ∃ size, file.stat = .ok size := by
    cases h : file.stat <;> simp_all [Except.toBool]
  rw [sendToDevice_accepted cfg tls port netErr remoteIP oracles srv k filePath fileId hproto hport
    hstat hpin hidle, uploadFile_sentSession cfg tls port netErr remoteIP oracles srv k filePath
    fileId hport hopen, hsaved]
  exact ⟨rfl, removeFileFromSession_sentSession filePath fileId _ _ _ _⟩

/-- Whatever the upload does, the session object the receiver opened for the declaration keeps
its ID and the sender it recorded: the device's own identity, at the address the call came
from. -/
theorem sendToDevice_session (hproto : device.protocol = scheme tls) (hport : device.port = port)
    {size : Int} (hstat : file.stat = .ok size) (hpin : cfg.pin = "")
    (hidle : srv.receive.currentSession = none) :
    ((sendToDevice (client cfg tls port netErr remoteIP oracles) device filePath file fileId
        (srv, k)).2.1.receive.deref srv.receive.heap.length).sessionId =
        (oracles k).sessionId.text ∧
      ((sendToDevice (client cfg tls port netErr remoteIP oracles) device filePath file fileId
        (srv, k)).2.1.receive.deref srv.receive.heap.length).sender =
        ⟨device.alias, device.version, device.deviceModel, device.deviceType, device.fingerprint,
          remoteIP device.ip⟩ := by
  rw [sendToDevice_accepted cfg tls port netErr remoteIP oracles srv k filePath fileId hproto hport
    hstat hpin hidle]
  cases hopen : file.opened with
  | error err => simp [uploadFile, hopen, sentSession]
  | ok content =>
    rw [uploadFile_sentSession cfg tls port netErr remoteIP oracles srv k filePath fileId hport
      hopen]
    cases (oracles (k + 1)).saved
    · simp [sentSession]
    · simp only [↓reduceIte]
      rw [ReceiveService.deref_removeFileFromSession _ _ _ (by simp)]
      split <;> simp [ReceiveService.eraseFile, sentSession]

end Transfer

end LocalServer

open LocalServer in
/-- `sendToDevice` against a LocalGo receiver that speaks the device's protocol on the device's
port, for every receiver state, every file and every choice the receiver makes: the transfer
returns `nil` exactly when the file can be stat'ed and opened, the receiver has no PIN and no
active session, and its write succeeds. The receiver has then passed the bytes the sender read to
its sink at `filepath.Join(DownloadDir, filepath.Base(filePath))`, the transfer's one write, and
it is idle again. -/
theorem sendToDevice_delivers_iff (cfg : Config) (tls : Bool) (port : Int) (netErr : String)
    (remoteIP : String → String) (oracles : Nat → Oracle) (srv : Server) (k : Nat)
    (device : Device) (filePath : String) (file : LocalFile) (fileId : Uuid)
    (hproto : device.protocol = scheme tls) (hport : device.port = port) :
    ((sendToDevice (client cfg tls port netErr remoteIP oracles) device filePath file fileId
        (srv, k)).1 = none ↔
      file.stat.isOk ∧ file.opened.isOk ∧ cfg.pin = "" ∧ srv.receive.currentSession = none ∧
        (oracles (k + 1)).saved = true) ∧
    ∀ content, file.opened = .ok content →
      (sendToDevice (client cfg tls port netErr remoteIP oracles) device filePath file fileId
        (srv, k)).1 = none →
      (sendToDevice (client cfg tls port netErr remoteIP oracles) device filePath file fileId
          (srv, k)).2.1.sink =
        srv.sink ++ [⟨Filepath.join cfg.downloadDir (Filepath.base filePath), content⟩] ∧
      (sendToDevice (client cfg tls port netErr remoteIP oracles) device filePath file fileId
        (srv, k)).2.1.receive.currentSession = none :=
  have key := sendToDevice_fst_eq_none_iff cfg tls port netErr remoteIP oracles srv k filePath
    fileId hproto hport
  ⟨key, fun _ hopen hnone => sendToDevice_delivered cfg tls port netErr remoteIP oracles srv k
    filePath fileId hproto hport hopen (key.1 hnone)⟩

/-- The phone of `sampleInfo` as a scan records it: plain HTTP on the default port. -/
def samplePhone : Device :=
  ⟨"192.168.1.20", "2.1", 53317, "Phone", "http", "9e107d9d372bb6826bd81d3542a419d6", none,
    "mobile", false, 0, true⟩

/-- A twelve-byte file the sender can read. -/
def sampleLocalFile : LocalFile :=
  ⟨.ok 12, .ok [104, 101, 108, 108, 111, 44, 32, 119, 111, 114, 108, 100]⟩

open LocalServer in
/-- `sendToDevice` sends `notes.txt` to `samplePhone`, a LocalGo receiver with no PIN that speaks
the phone's protocol on the phone's port, and returns `nil`. -/
theorem sendToDevice_samplePhone_delivered :
    samplePhone.protocol = scheme false ∧ samplePhone.port = 53317 ∧
      (sendToDevice (client sampleConfig false 53317 "connection refused" (fun _ => "192.168.1.5")
        (fun _ => sampleOracle)) samplePhone "/home/user/notes.txt" sampleLocalFile uuidC
        (.empty, 0)).1 = none :=
  ⟨rfl, rfl, (sendToDevice_delivers_iff sampleConfig false 53317 "connection refused"
    (fun _ => "192.168.1.5") (fun _ => sampleOracle) .empty 0 samplePhone "/home/user/notes.txt"
    sampleLocalFile uuidC rfl rfl).1.2 ⟨rfl, rfl, rfl, rfl, rfl⟩⟩

open LocalServer in
/-- How `sendToDevice` fails against a LocalGo receiver that speaks the device's protocol on the
device's port. Until the receiver accepts a session it is left as it was: a file that cannot be
stat'ed makes no call, a PIN-protected receiver answers `401` and a busy one `409`. Once an idle
receiver without a PIN has accepted, the transfer fails only on a file that cannot be opened or a
failed write, and either leaves the new session active with the file still pending: the sender
never cancels it. -/
theorem sendToDevice_refused (cfg : Config) (tls : Bool) (port : Int) (netErr : String)
    (remoteIP : String → String) (oracles : Nat → Oracle) (srv : Server) (k : Nat)
    (device : Device) (filePath : String) (file : LocalFile) (fileId : Uuid)
    (hproto : device.protocol = scheme tls) (hport : device.port = port) :
    (∀ err, file.stat = .error err →
      sendToDevice (client cfg tls port netErr remoteIP oracles) device filePath file fileId
        (srv, k) = (some ("failed to get file info: " ++ err), (srv, k))) ∧
    (∀ size, file.stat = .ok size → cfg.pin ≠ "" →
      sendToDevice (client cfg tls port netErr remoteIP oracles) device filePath file fileId
        (srv, k) = (some "prepare request failed with status: 401 Unauthorized", (srv, k + 1))) ∧
    (∀ size, file.stat = .ok size → cfg.pin = "" → srv.receive.currentSession.isSome →
      sendToDevice (client cfg tls port netErr remoteIP oracles) device filePath file fileId
        (srv, k) = (some "prepare request failed with status: 409 Conflict", (srv, k + 1))) ∧
    (∀ size, file.stat = .ok size → cfg.pin = "" → srv.receive.currentSession = none →
      (sendToDevice (client cfg tls port netErr remoteIP oracles) device filePath file fileId
        (srv, k)).1 ≠ none →
      ((∃ err, file.opened = .error err ∧
          (sendToDevice (client cfg tls port netErr remoteIP oracles) device filePath file fileId
            (srv, k)).1 = some ("failed to open file: " ++ err)) ∨
        (oracles (k + 1)).saved = false ∧
          (sendToDevice (client cfg tls port netErr remoteIP oracles) device filePath file fileId
            (srv, k)).1 = some "upload request failed with status: 500 Internal Server Error") ∧
      (sendToDevice (client cfg tls port netErr remoteIP oracles) device filePath file fileId
          (srv, k)).2.1.receive.getSessionByID (oracles k).sessionId.text =
        some srv.receive.heap.length ∧
      ((sendToDevice (client cfg tls port netErr remoteIP oracles) device filePath file fileId
          (srv, k)).2.1.receive.pending.lookup fileId.text).isSome) := by
  refine ⟨fun err hstat => by simp [sendToDevice, hstat],
    fun size hstat hpin => sendToDevice_of_pin cfg tls port netErr remoteIP oracles srv k filePath
      fileId hproto hport hstat hpin,
    fun size hstat hpin hbusy => sendToDevice_of_busy cfg tls port netErr remoteIP oracles srv k
      filePath fileId hproto hport hstat hpin hbusy,
    fun size hstat hpin hidle hfail => ?_⟩
  have hsession := @getSessionByID_sentSession device filePath fileId srv.receive.heap size
    (remoteIP device.ip) (oracles k)
  have hpending := @pending_sentSession device filePath fileId srv.receive.heap size
    (remoteIP device.ip) (oracles k)
  rw [sendToDevice_accepted cfg tls port netErr remoteIP oracles srv k filePath fileId hproto hport
    hstat hpin hidle] at hfail ⊢
  cases hopen : file.opened with
  | error err => simp [uploadFile, hopen, hsession, hpending]
  | ok content =>
    rw [uploadFile_sentSession cfg tls port netErr remoteIP oracles srv k filePath fileId hport
      hopen] at hfail ⊢
    cases hsaved : (oracles (k + 1)).saved
    · simp [hsession, hpending]
    · simp [hsaved] at hfail

open LocalServer in
/-- The same send to a receiver whose PIN is `1234`: the request carries no PIN, the receiver
answers `/prepare-upload` with `401`, `sendToDevice` returns that status in its error, and the
receiver is still empty. -/
theorem sendToDevice_samplePhone_pin_refused :
    samplePhone.protocol = scheme false ∧ samplePhone.port = 53317 ∧
      sendToDevice (client { sampleConfig with pin := "1234" } false 53317 "connection refused"
        (fun _ => "192.168.1.5") (fun _ => sampleOracle)) samplePhone "/home/user/notes.txt"
        sampleLocalFile uuidC (.empty, 0) =
        (some "prepare request failed with status: 401 Unauthorized", (.empty, 1)) :=
  ⟨rfl, rfl, (sendToDevice_refused { sampleConfig with pin := "1234" } false 53317
    "connection refused" (fun _ => "192.168.1.5") (fun _ => sampleOracle) .empty 0 samplePhone
    "/home/user/notes.txt" sampleLocalFile uuidC rfl rfl).2.1 12 rfl (by decide)⟩

section KeepSession

variable (cfg : Config) {sid : String}

/-- A handler whose first step answers takes no other step. -/
theorem handle_of_advance_start (srv : Server) (e : Endpoint) (r : Request) (o : Oracle)
    {srv' : Server} {resp : Response}
    (h : Thread.advance cfg srv ⟨e, r, .start⟩ o = (srv', .done resp)) :
    handle cfg srv e r o = (srv', .done resp) := by
  simp only [handle, Thread.runFor, h, Thread.advance_done]

/-- While the session with ID `sid` is active, a request that does not carry `sid` leaves the
receive service as it was, and a `/prepare-upload` is answered with an error. -/
theorem handle_keeps_session {srv : Server} (hsid : (srv.receive.getSessionByID sid).isSome)
    (e : Endpoint) (r : Request) (o : Oracle) (hr : r.get "sessionId" ≠ sid) :
    (handle cfg srv e r o).1.receive = srv.receive ∧
      (e = .prepareUpload → ∃ resp, (handle cfg srv e r o).2 = .done resp ∧ resp.IsError) := by
  obtain ⟨p, hp⟩ := Option.isSome_iff_exists.1 hsid
  obtain ⟨hcur, hid⟩ := ReceiveService.getSessionByID_eq_some_iff.1 hp
  have hother : srv.receive.getSessionByID (r.get "sessionId") = none := by
    cases h : srv.receive.getSessionByID (r.get "sessionId") with
    | none => rfl
    | some q =>
      obtain ⟨hq, hqid⟩ := ReceiveService.getSessionByID_eq_some_iff.1 h
      obtain rfl : q = p := Option.some.inj (hq.symm.trans hcur)
      exact absurd (hqid.symm.trans hid) hr
  cases e
  case prepareUpload =>
    by_cases hm : r.method = "POST" <;> by_cases hpin : pinOk cfg r <;>
      simp [handle, Thread.runFor, Thread.advance, PrepareUpload.start, PrepareUpload.blocked,
        ReceiveService.getSession, respondError, Response.IsError, hcur, hm, hpin]
  case upload =>
    obtain ⟨resp, h⟩ : ∃ resp, Upload.start srv r = .done resp := by
      unfold Upload.start; split_ifs <;> simp [hother]
    simp [handle_of_advance_start cfg srv .upload r o (congrArg (Prod.mk srv) h)]
  case cancel =>
    obtain ⟨resp, h⟩ : ∃ resp, Cancel.start srv r = .done resp := by
      unfold Cancel.start; split_ifs <;> simp [hother]
    simp [handle_of_advance_start cfg srv .cancel r o (congrArg (Prod.mk srv) h)]
  case prepareDownload =>
    obtain ⟨srv', resp, h, hrecv⟩ : ∃ srv' resp, Download.prepareDownload cfg srv r o =
        (srv', .done resp) ∧ srv'.receive = srv.receive := by
      unfold Download.prepareDownload; split_ifs
      · split <;> exact ⟨_, _, rfl, rfl⟩
      · exact ⟨_, _, rfl, rfl⟩
    simp [handle_of_advance_start cfg srv .prepareDownload r o h, hrecv]
  case download =>
    obtain ⟨resp, h⟩ : ∃ resp, Download.download srv r = .done resp := by
      unfold Download.download; split_ifs
      · exact ⟨_, rfl⟩
      · split
        · exact ⟨_, rfl⟩
        · split <;> exact ⟨_, rfl⟩
    simp [handle_of_advance_start cfg srv .download r o (congrArg (Prod.mk srv) h)]

/-- A receiver with an active session, with ID `sid`, keeps it over every run of requests that
do not carry `sid`: the receive service ends exactly as it was, and each `/prepare-upload` of
the run is answered with an error status. Only the session's sender knows `sid`, and
`sendToDevice` never sends `/cancel`, so a transfer that fails after its `/prepare-upload` was
accepted shuts every other sender out. -/
theorem handleAll_keeps_session :
    ∀ (reqs : List (Endpoint × Request × Oracle)) (srv : Server),
      (srv.receive.getSessionByID sid).isSome →
      (∀ q ∈ reqs, q.2.1.get "sessionId" ≠ sid) →
      (handleAll cfg srv reqs).1.receive = srv.receive ∧
        ∀ x ∈ reqs.zip (handleAll cfg srv reqs).2, x.1.1 = .prepareUpload →
          ∃ resp, x.2 = .done resp ∧ resp.IsError
  | [], _, _, _ => by simp [handleAll]
  | (e, r, o) :: rest, srv, hsid, hreqs => by
    obtain ⟨hrecv, hprep⟩ := handle_keeps_session cfg hsid e r o (hreqs _ (List.mem_cons_self _ _))
    obtain ⟨ih_recv, ih_prep⟩ := handleAll_keeps_session rest (handle cfg srv e r o).1
      (hrecv ▸ hsid) fun q hq => hreqs q (List.mem_cons_of_mem _ hq)
    refine ⟨ih_recv.trans hrecv, ?_⟩
    simp only [handleAll, List.zip_cons_cons, List.mem_cons, forall_eq_or_imp]
    exact ⟨hprep, ih_prep⟩

/-- The receiver after `prepareUploadRequest` declared one file, which was never uploaded. -/
def heldServer : Server :=
  (handle sampleConfig .empty .prepareUpload (prepareUploadRequest (AList.singleton "f1" sampleFile))
    sampleOracle).1

/-- Another sender's `/prepare-upload`. -/
def otherPrepareUpload : Request :=
  ⟨"POST", [], "192.168.1.30", some ⟨sampleInfo, AList.singleton "f2" sampleFile⟩, []⟩

/-- While the session for `f1` is held, another sender's `/prepare-upload`, which names no
session ID, leaves the receive service as it was. -/
theorem handleAll_keeps_held_session :
    (heldServer.receive.getSessionByID uuidA.text).isSome ∧
      (∀ q ∈ [((.prepareUpload : Endpoint), otherPrepareUpload, sampleOracle)],
        q.2.1.get "sessionId" ≠ uuidA.text) ∧
      (handleAll sampleConfig heldServer
        [(.prepareUpload, otherPrepareUpload, sampleOracle)]).1.receive = heldServer.receive := by
  have hsid : (heldServer.receive.getSessionByID uuidA.text).isSome := by decide
  have hreqs : ∀ q ∈ [((.prepareUpload : Endpoint), otherPrepareUpload, sampleOracle)],
      q.2.1.get "sessionId" ≠ uuidA.text := by decide
  exact ⟨hsid, hreqs, (handleAll_keeps_session sampleConfig _ heldServer hsid hreqs).1⟩

end KeepSession

end LocalGo
