import LocalGo.Services
import LocalGo.Filepath

/-!
# The transfer handlers

`ReceiveHandler` (`/prepare-upload`, `/upload`, `/cancel`) and `DownloadHandler`
(`/prepare-download`, `/download`) as step functions over the server's shared state.

The server runs each request on its own goroutine, and the two services are the only shared
state. A handler is therefore cut at its calls into a service: each step makes one such call,
atomic under the service's mutex, together with the local work that follows it up to the next
call. `Pc` is where a handler stands between two steps, with the local variables the rest of it
reads. Reading a field of a session object the handler holds a pointer to is part of the step
that reads it; `Sender` never changes after `CreateSession`, so `UploadHandlerV2` reads it in the
same step as `Files`.

* `Oracle` holds what the environment decides at a step: the UUIDs `uuid.NewString()` returns and
  whether `storage.SaveStreamToFile` succeeds.
* `Thread.advance` is one step of one handler; `handle` runs a handler alone from its start to
  its response, the server handling one request at a time.
-/

namespace LocalGo

/-- The server's configuration as the handlers read it (`config.Config`). -/
structure Config where
  /-- `PIN`; empty when no PIN is configured. -/
  pin : String
  /-- `DownloadDir`, where uploaded files are saved. -/
  downloadDir : String
  «alias» : String
  deviceModel : Option String
  deviceType : String
  /-- `SecurityContext.CertificateHash`, the device's fingerprint. -/
  fingerprint : String

/-- `config.ProtocolVersion`. -/
def protocolVersion : String := "2.1"

/-- `Config.ToInfoDto()`. -/
def Config.toInfoDto (cfg : Config) : InfoDto :=
  ⟨cfg.alias, protocolVersion, cfg.deviceModel, cfg.deviceType, cfg.fingerprint, false⟩

/-- A value `uuid.NewString()` returns: the 36-character text of a random UUID. -/
structure Uuid where
  text : String
  length_eq : text.length = 36
  deriving DecidableEq

/-- What the environment decides at a step. -/
structure Oracle where
  /-- The session ID `CreateSession` draws. -/
  sessionId : Uuid
  /-- The token `ReceiveService.CreateSession` draws for each file ID. -/
  token : String → Uuid
  /-- The key `PrepareDownloadHandler` draws for its dummy file. -/
  dummyKey : Uuid
  /-- Whether `SaveStreamToFile` returns `nil`. -/
  saved : Bool

/-- One call of `storage.SaveStreamToFile`: the destination path and the stream it was given. -/
structure SinkWrite where
  path : String
  body : List UInt8
  deriving DecidableEq

/-- The state the handlers share: both services, and every call made to the storage sink. -/
structure Server where
  receive : ReceiveService
  send : SendService
  sink : List SinkWrite
  deriving DecidableEq

/-- The server `NewServer` builds, before any request. -/
def Server.empty : Server := ⟨.empty, .empty, []⟩

/-- The routes of `Server.configureRoutes` that these handlers serve. -/
inductive Endpoint where
  | prepareUpload
  | upload
  | cancel
  | prepareDownload
  | download
  deriving DecidableEq, Repr

/-- Where a handler stands between two steps. -/
inductive Pc where
  /-- Not started. -/
  | start
  /-- `PrepareUploadHandlerV2` found a session active; its log line calls `GetSession()` again
  and reads `SessionID` from the result. -/
  | blocked
  /-- `PrepareUploadHandlerV2` decoded `requestDto` with at least one file; `CreateSession`
  is next. -/
  | create (requestDto : PrepareUploadRequestDto)
  /-- `PrepareUploadHandlerV2` holds the `session` `CreateSession` returned; it reads
  `session.Files` to build the response. -/
  | respond (session : Nat)
  /-- `UploadHandlerV2` holds the `session` `GetSessionByID` returned; it checks the IP and looks
  up the file next. -/
  | checkFile (session : Nat)
  /-- `UploadHandlerV2` validated the request against `fileInfo`; `SaveStreamToFile` is next. -/
  | save (session : Nat) (fileInfo : ActiveFile)
  /-- `UploadHandlerV2` saved the file; `RemoveFileFromSession` is next. -/
  | remove
  /-- `CancelHandler` found the session; `CloseSession` is next. -/
  | close
  /-- The handler returned after writing `resp`. -/
  | done (resp : Response)
  /-- The handler dereferenced a nil pointer; `net/http` recovers the panic and closes the
  connection without a response. -/
  | panicked
  deriving DecidableEq

/-- The request passes the PIN check: no PIN is configured, or its `pin` parameter is the PIN. -/
def pinOk (cfg : Config) (r : Request) : Prop := cfg.pin = "" ∨ r.get "pin" = cfg.pin

instance (cfg : Config) (r : Request) : Decidable (pinOk cfg r) :=
  inferInstanceAs (Decidable (_ ∨ _))

namespace PrepareUpload

/-- The `model.DeviceInfo` the handler records for the sender. -/
def sender (r : Request) (requestDto : PrepareUploadRequestDto) : DeviceInfo :=
  ⟨requestDto.info.alias, requestDto.info.version, requestDto.info.deviceModel,
    requestDto.info.deviceType, requestDto.info.fingerprint, r.remoteIP⟩

/-- From the handler's entry through its first `GetSession()` and the decoding of the body. -/
def start (cfg : Config) (srv : Server) (r : Request) : Pc :=
  if r.method ≠ "POST" then .done (respondError 405 "Method Not Allowed")
  else if ¬pinOk cfg r then .done (respondError 401 "Invalid PIN")
  else if srv.receive.getSession.isSome then .blocked
  else
    match r.json with
    | none => .done (respondError 400 "Request body malformed")
    | some requestDto =>
      if requestDto.files.len = 0 then
        .done (respondError 400 "Request must contain at least one file")
      else .create requestDto

/-- The second `GetSession()`, whose `SessionID` the warning logs. -/
def blocked (srv : Server) : Pc :=
  match srv.receive.getSession with
  | some _ => .done (respondError 409 "Blocked by another session")
  | none => .panicked

/-- `CreateSession(sender, requestDto.Files)`. -/
def create (srv : Server) (r : Request) (requestDto : PrepareUploadRequestDto) (o : Oracle) :
    Server × Pc :=
  match srv.receive.createSession (sender r requestDto) requestDto.files o.sessionId.text
      (fun k => (o.token k).text) with
  | .error _ => (srv, .done (respondError 409 "Blocked by another session"))
  | .ok (session, receive) => ({ srv with receive }, .respond session)

/-- The token map of the response: `responseTokens[fileID] = file.Token` over `session.Files`. -/
def responseTokens (files : GoMap ActiveFile) : GoMap String :=
  files.mapVal fun _ file => file.token

/-- The response, built from the session object as it is at this step. -/
def respond (srv : Server) (session : Nat) : Pc :=
  let s := srv.receive.deref session
  .done ⟨200, .prepareUpload s.sessionId (responseTokens s.files)⟩

end PrepareUpload

namespace Upload

/-- From the handler's entry through `GetSessionByID(reqSessionId)`. -/
def start (srv : Server) (r : Request) : Pc :=
  if r.method ≠ "POST" then .done (respondError 405 "Method Not Allowed")
  else if r.get "sessionId" = "" ∨ r.get "fileId" = "" ∨ r.get "token" = "" then
    .done (respondError 400 "Missing query parameters (sessionId, fileId, token)")
  else
    match srv.receive.getSessionByID (r.get "sessionId") with
    | none => .done (respondError 403 "Invalid session ID")
    | some session => .checkFile session

/-- The IP check against `session.Sender.IP`, then `session.Files[reqFileId]` and the token. -/
def checkFile (srv : Server) (r : Request) (session : Nat) : Pc :=
  let s := srv.receive.deref session
  if r.remoteIP ≠ s.sender.ip then .done (respondError 403 ("Invalid IP address: " ++ r.remoteIP))
  else
    match s.files.lookup (r.get "fileId") with
    | some fileInfo =>
      if fileInfo.token = r.get "token" then .save session fileInfo
      else .done (respondError 403 "Invalid fileId or token")
    | none => .done (respondError 403 "Invalid fileId or token")

/-- The destination `filepath.Join(DownloadDir, fileInfo.Dto.FileName)`. -/
def destinationPath (cfg : Config) (fileInfo : ActiveFile) : String :=
  Filepath.join cfg.downloadDir fileInfo.dto.fileName

/-- `SaveStreamToFile(r.Body, destinationPath, onProgress)`. -/
def save (cfg : Config) (srv : Server) (r : Request) (fileInfo : ActiveFile) (o : Oracle) :
    Server × Pc :=
  ({ srv with sink := srv.sink ++ [⟨destinationPath cfg fileInfo, r.body⟩] },
    if o.saved then .remove else .done (respondError 500 "Failed to save file"))

/-- `RemoveFileFromSession(reqSessionId, reqFileId)`, then the empty `200` response. -/
def remove (srv : Server) (r : Request) : Server × Pc :=
  ({ srv with receive := srv.receive.removeFileFromSession (r.get "sessionId") (r.get "fileId") },
    .done ⟨200, .null⟩)

end Upload

namespace Cancel

/-- From the handler's entry through `GetSessionByID(reqSessionId)`. -/
def start (srv : Server) (r : Request) : Pc :=
  if r.method ≠ "POST" then .done (respondError 405 "Method Not Allowed")
  else if r.get "sessionId" = "" then .done (respondError 400 "Missing sessionId parameter")
  else
    match srv.receive.getSessionByID (r.get "sessionId") with
    | some _ => .close
    | none => .done (respondError 404 "Session not found")

/-- `CloseSession()`, then the empty `200` response. -/
def close (srv : Server) : Server × Pc :=
  ({ srv with receive := srv.receive.closeSession }, .done ⟨200, .null⟩)

end Cancel

namespace Download

/-- The one file `PrepareDownloadHandler` offers. -/
def dummyFile : FileDto := ⟨"dummy-file-id", "dummy.txt", 12, "text/plain"⟩

/-- `DownloadHandler.PrepareDownloadHandler`. -/
def prepareDownload (cfg : Config) (srv : Server) (r : Request) (o : Oracle) : Server × Pc :=
  if ¬pinOk cfg r then (srv, .done (respondError 401 "Invalid PIN"))
  else
    match srv.send.createSession (AList.singleton o.dummyKey.text dummyFile) o.sessionId.text with
    | .error _ => (srv, .done (respondError 409 "Blocked by another session"))
    | .ok (session, send) =>
      ({ srv with send }, .done ⟨200, .prepareDownload cfg.toInfoDto session.sessionId session.files⟩)

/-- `DownloadHandler.DownloadHandler`. -/
def download (srv : Server) (r : Request) : Pc :=
  if r.get "sessionId" = "" ∨ r.get "fileId" = "" then
    .done (respondError 400 "Missing sessionId or fileId parameter")
  else
    match srv.send.getSessionByID (r.get "sessionId") with
    | none => .done (respondError 404 "Session not found")
    | some session =>
      match session.files.lookup (r.get "fileId") with
      | none => .done (respondError 404 "File not found")
      | some file =>
        .done ⟨200, .file ("attachment; filename=\"" ++ file.fileName ++ "\"") file.fileType
          (toString file.size) "Hello, World"⟩

end Download

/-- One handler goroutine: the route it serves, its request, and where it stands. -/
structure Thread where
  endpoint : Endpoint
  req : Request
  pc : Pc

/-- One step of a handler, from the shared state `srv`. A handler that has returned, and a `Pc`
its route never reaches, takes no step. -/
def Thread.advance (cfg : Config) (srv : Server) (t : Thread) (o : Oracle) : Server × Pc :=
  match t.endpoint, t.pc with
  | .prepareUpload, .start => (srv, PrepareUpload.start cfg srv t.req)
  | .prepareUpload, .blocked => (srv, PrepareUpload.blocked srv)
  | .prepareUpload, .create requestDto => PrepareUpload.create srv t.req requestDto o
  | .prepareUpload, .respond session => (srv, PrepareUpload.respond srv session)
  | .upload, .start => (srv, Upload.start srv t.req)
  | .upload, .checkFile session => (srv, Upload.checkFile srv t.req session)
  | .upload, .save _ fileInfo => Upload.save cfg srv t.req fileInfo o
  | .upload, .remove => Upload.remove srv t.req
  | .cancel, .start => (srv, Cancel.start srv t.req)
  | .cancel, .close => Cancel.close srv
  | .prepareDownload, .start => Download.prepareDownload cfg srv t.req o
  | .download, .start => (srv, Download.download srv t.req)
  | _, pc => (srv, pc)

/-- Run a handler alone for `n` steps, drawing every step's choices from `o`. -/
def Thread.runFor (cfg : Config) (o : Oracle) : Nat → Server → Thread → Server × Pc
  | 0, srv, t => (srv, t.pc)
  | n + 1, srv, t =>
    let next := t.advance cfg srv o
    Thread.runFor cfg o n next.1 { t with pc := next.2 }

/-- The server handling one request on its own: the handler for `endpoint` runs from its start
with no other request in between. Four steps take every handler to its end. -/
def handle (cfg : Config) (srv : Server) (endpoint : Endpoint) (r : Request) (o : Oracle) :
    Server × Pc :=
  Thread.runFor cfg o 4 srv ⟨endpoint, r, .start⟩

end LocalGo
