import LocalGo.Handlers

/-!
# One request at a time

The handlers run alone, one request after another (`handle`, `handleAll`).

* `handle_prepareUpload_of_idle`, `handle_upload_of_valid` and `handle_cancel` compute a
  handler's whole run on the paths the protocol takes.
* `advance_services_or_committed`: a step either leaves both services as they were, or the
  handler is committed to answering `200`. Hence `handle_error_services`: a request answered with
  an error status leaves both session managers exactly as they were.
* `Thread.advance_send_isSome`: no handler step ever clears an active send session.
* `AfterUploads` and `prepareUpload_then_upload_each_file`: after a `/prepare-upload`, uploading
  the declared files one by one saves each of them and leaves the session open.
-/

namespace LocalGo

section Steps

variable (cfg : Config) (o : Oracle)

@[simp]
theorem Thread.advance_done (srv : Server) (e : Endpoint) (r : Request) (resp : Response) :
    Thread.advance cfg srv ⟨e, r, .done resp⟩ o = (srv, .done resp) := by
  cases e <;> rfl

@[simp]
theorem Thread.runFor_done (n : Nat) (srv : Server) (e : Endpoint) (r : Request)
    (resp : Response) : Thread.runFor cfg o n srv ⟨e, r, .done resp⟩ = (srv, .done resp) := by
  induction n with
  | zero => rfl
  | succ n ih => simpa [Thread.runFor] using ih

/-- A handler that has answered `200`, or is about to describe the session it created. -/
def Pc.Committed : Pc → Prop
  | .respond _ => True
  | .done resp => resp.status = 200
  | _ => False

theorem Thread.advance_committed (srv : Server) (t : Thread) (h : t.pc.Committed) :
    (t.advance cfg srv o).2.Committed := by
  rcases t with ⟨e, r, pc⟩
  cases pc <;> simp only [Pc.Committed] at h <;> cases e <;>
    simp [Thread.advance, Pc.Committed, PrepareUpload.respond, h]

theorem Thread.runFor_committed (n : Nat) (srv : Server) (t : Thread) (h : t.pc.Committed) :
    (Thread.runFor cfg o n srv t).2.Committed := by
  induction n generalizing srv t with
  | zero => exact h
  | succ n ih => exact ih _ _ (Thread.advance_committed cfg o srv t h)

/-- Every step of a handler leaves both services as they were, unless after it the handler is
committed to answering `200`. -/
theorem Thread.advance_services_or_committed (srv : Server) (t : Thread) :
    ((t.advance cfg srv o).1.receive = srv.receive ∧ (t.advance cfg srv o).1.send = srv.send) ∨
      (t.advance cfg srv o).2.Committed := by
  rcases t with ⟨e, r, pc⟩
  cases e <;> cases pc <;> simp only [Thread.advance, and_self, true_or]
  · -- `CreateSession` either fails or commits the handler
    unfold PrepareUpload.create
    split <;> simp [Pc.Committed]
  · simp [Upload.save]
  · simp [Upload.remove, Pc.Committed]
  · simp [Cancel.close, Pc.Committed]
  · unfold Download.prepareDownload
    split
    · simp
    · split <;> simp [Pc.Committed]

/-- A handler run that ends in an error response made no change to either service. -/
theorem Thread.runFor_error_services (n : Nat) (srv : Server) (t : Thread) (resp : Response)
    (h : (Thread.runFor cfg o n srv t).2 = .done resp) (herr : resp.IsError) :
    (Thread.runFor cfg o n srv t).1.receive = srv.receive ∧
      (Thread.runFor cfg o n srv t).1.send = srv.send := by
  induction n generalizing srv t with
  | zero => exact ⟨rfl, rfl⟩
  | succ n ih =>
    simp only [Thread.runFor] at h ⊢
    rcases Thread.advance_services_or_committed cfg o srv t with ⟨hr, hs⟩ | hc
    · rw [← hr, ← hs]
      exact ih _ _ h
    · have := Thread.runFor_committed cfg o n (t.advance cfg srv o).1
        { t with pc := (t.advance cfg srv o).2 } hc
      rw [h] at this
      simp only [Pc.Committed] at this
      simp [Response.IsError, this] at herr

/-- No step clears an active send session: `SendService.CloseSession` has no caller. -/
theorem Thread.advance_send_isSome (srv : Server) (t : Thread)
    (h : srv.send.currentSession.isSome) : (t.advance cfg srv o).1.send.currentSession.isSome := by
  rcases t with ⟨e, r, pc⟩
  cases e <;> cases pc <;> simp only [Thread.advance, h]
  · unfold PrepareUpload.create; split <;> simpa
  · simpa [Upload.save]
  · simpa [Upload.remove]
  · simpa [Cancel.close]
  · unfold Download.prepareDownload
    split
    · exact h
    · split
      · exact h
      · rename_i hc
        simp [SendService.createSession_eq_ok_iff.1 hc] at h

end Steps

section Handle

variable (cfg : Config) (srv : Server) (o : Oracle)

/-- `/cancel` runs `CancelHandler` to its end: `CloseSession` when the ID names the active receive
session. -/
theorem handle_cancel (r : Request) :
    handle cfg srv .cancel r o =
      if Cancel.start srv r = .close then Cancel.close srv else (srv, Cancel.start srv r) := by
  unfold handle
  split
  · rename_i h
    simp [Thread.runFor, Thread.advance, h, Cancel.close]
  · rename_i h
    cases hs : Cancel.start srv r <;> simp_all [Thread.runFor, Thread.advance]

/-- `/prepare-upload` against an idle receiver, from a request that passes every check, creates
the session at the next free address and answers its ID and tokens. -/
theorem handle_prepareUpload_of_idle (r : Request) (requestDto : PrepareUploadRequestDto)
    (hpost : r.method = "POST") (hpin : pinOk cfg r) (hidle : srv.receive.currentSession = none)
    (hjson : r.json = some requestDto) (hne : requestDto.files.len ≠ 0) :
    handle cfg srv .prepareUpload r o =
      let files := ReceiveService.sessionFiles requestDto.files fun k => (o.token k).text
      ({ srv with receive := ⟨srv.receive.heap ++
          [⟨o.sessionId.text, PrepareUpload.sender r requestDto, files⟩],
          some srv.receive.heap.length⟩ },
        .done ⟨200, .prepareUpload o.sessionId.text (PrepareUpload.responseTokens files)⟩) := by
  simp [handle, Thread.runFor, Thread.advance, PrepareUpload.start, PrepareUpload.create,
    PrepareUpload.respond, ReceiveService.createSession, ReceiveService.getSession, hpost, hpin,
    hidle, hjson, hne]

/-- `/upload` of a pending file, with the right session ID, IP and token and a sink that
succeeds, saves the body and removes the file from the session. -/
theorem handle_upload_of_valid (r : Request) (p : Nat) (fileInfo : ActiveFile)
    (hpost : r.method = "POST") (hsid : r.get "sessionId" ≠ "") (hfid : r.get "fileId" ≠ "")
    (htok : r.get "token" ≠ "")
    (hsession : srv.receive.getSessionByID (r.get "sessionId") = some p)
    (hip : r.remoteIP = (srv.receive.deref p).sender.ip)
    (hfile : (srv.receive.deref p).files.lookup (r.get "fileId") = some fileInfo)
    (htoken : fileInfo.token = r.get "token") (hsaved : o.saved = true) :
    handle cfg srv .upload r o =
      ({ srv with
          receive := srv.receive.removeFileFromSession (r.get "sessionId") (r.get "fileId")
          sink := srv.sink ++ [⟨Upload.destinationPath cfg fileInfo, r.body⟩] },
        .done ⟨200, .null⟩) := by
  simp [handle, Thread.runFor, Thread.advance, Upload.start, Upload.checkFile, Upload.save,
    Upload.remove, hpost, hsid, hfid, htok, hsession, hip, hfile, htoken, hsaved]

/-- `/upload` of a pending file, with the right session ID, IP and token and a sink that fails,
passes the body to the sink, answers `500` and keeps the file in the session. -/
theorem handle_upload_of_unsaved (r : Request) (p : Nat) (fileInfo : ActiveFile)
    (hpost : r.method = "POST") (hsid : r.get "sessionId" ≠ "") (hfid : r.get "fileId" ≠ "")
    (htok : r.get "token" ≠ "")
    (hsession : srv.receive.getSessionByID (r.get "sessionId") = some p)
    (hip : r.remoteIP = (srv.receive.deref p).sender.ip)
    (hfile : (srv.receive.deref p).files.lookup (r.get "fileId") = some fileInfo)
    (htoken : fileInfo.token = r.get "token") (hsaved : o.saved = false) :
    handle cfg srv .upload r o =
      ({ srv with sink := srv.sink ++ [⟨Upload.destinationPath cfg fileInfo, r.body⟩] },
        .done (respondError 500 "Failed to save file")) := by
  simp [handle, Thread.runFor, Thread.advance, Upload.start, Upload.checkFile, Upload.save,
    hpost, hsid, hfid, htok, hsession, hip, hfile, htoken, hsaved]

end Handle

/-- The server handling requests one after another, each to its end; the handlers' final
states, in order. -/
def handleAll (cfg : Config) : Server → List (Endpoint × Request × Oracle) → Server × List Pc
  | srv, [] => (srv, [])
  | srv, (e, r, o) :: rest =>
    let first := handle cfg srv e r o
    let after := handleAll cfg first.1 rest
    (after.1, first.2 :: after.2)

/-- The files the receive service still expects: those of the active session, none when
idle. -/
def ReceiveService.pending (s : ReceiveService) : GoMap ActiveFile :=
  match s.currentSession with
  | some p => (s.deref p).files
  | none => ∅

/-- The receive service once the files `uploaded` of the session at `p`, created with ID
`sessionId` for a sender at `ip` with the files `files`, have been uploaded: the object has lost
exactly those files, and it is the active session until none is left. -/
structure AfterUploads (s : ReceiveService) (p : Nat) (sessionId ip : String)
    (files : GoMap ActiveFile) (uploaded : List String) : Prop where
  lt : p < s.heap.length
  sessionId_eq : (s.deref p).sessionId = sessionId
  ip_eq : (s.deref p).sender.ip = ip
  lookup_eq : ∀ k, (s.deref p).files.lookup k = if k ∈ uploaded then none else files.lookup k
  current_eq : s.currentSession = if ∀ k ∈ files.keys, k ∈ uploaded then none else some p

theorem AfterUploads.pending_lookup {s : ReceiveService} {p : Nat} {sessionId ip : String}
    {files : GoMap ActiveFile} {uploaded : List String}
    (h : AfterUploads s p sessionId ip files uploaded) (k : String) :
    s.pending.lookup k = if k ∈ uploaded then none else files.lookup k := by
  by_cases hall : ∀ k ∈ files.keys, k ∈ uploaded
  · simp only [ReceiveService.pending, h.current_eq, if_pos hall, AList.lookup_empty]
    split_ifs with hk
    · rfl
    · exact (AList.lookup_eq_none.2 fun hf => hk (hall k (AList.mem_keys.1 hf))).symm
  · simpa only [ReceiveService.pending, h.current_eq, if_neg hall] using h.lookup_eq k

/-- One more upload of a pending file, with the session's ID, IP and token and a sink that
succeeds, is answered `200` and moves the session on by that file. -/
theorem AfterUploads.handle_upload (cfg : Config) {srv : Server} {p : Nat} {sessionId ip : String}
    {files : GoMap ActiveFile} {uploaded : List String}
    (h : AfterUploads srv.receive p sessionId ip files uploaded) (r : Request) (o : Oracle)
    (fileInfo : ActiveFile) (hpost : r.method = "POST") (hsid : r.get "sessionId" = sessionId)
    (hsidne : sessionId ≠ "") (hfid : r.get "fileId" ≠ "") (hnew : r.get "fileId" ∉ uploaded)
    (hfile : files.lookup (r.get "fileId") = some fileInfo)
    (htoken : fileInfo.token = r.get "token")
    (htokne : fileInfo.token ≠ "") (hip : r.remoteIP = ip) (hsaved : o.saved = true) :
    (handle cfg srv .upload r o).2 = .done ⟨200, .null⟩ ∧
      AfterUploads (handle cfg srv .upload r o).1.receive p sessionId ip files
        (uploaded ++ [r.get "fileId"]) := by
  have hcur : srv.receive.currentSession = some p := by
    rw [h.current_eq, if_neg]
    exact fun hall => hnew (hall _ (AList.mem_keys.1 (AList.lookup_isSome.1 (by simp [hfile]))))
  have hsession : srv.receive.getSessionByID (r.get "sessionId") = some p :=
    ReceiveService.getSessionByID_eq_some_iff.2 ⟨hcur, hsid ▸ h.sessionId_eq⟩
  have hlookup : (srv.receive.deref p).files.lookup (r.get "fileId") = some fileInfo := by
    rw [h.lookup_eq, if_neg hnew, hfile]
  rw [handle_upload_of_valid cfg srv o r p fileInfo hpost (hsid ▸ hsidne) hfid (htoken ▸ htokne)
    hsession (hip ▸ h.ip_eq.symm) hlookup htoken hsaved]
  refine ⟨rfl, ?_⟩
  have hderef := ReceiveService.deref_removeFileFromSession srv.receive (r.get "sessionId")
    (r.get "fileId") h.lt
  rw [if_pos hsession] at hderef
  have hfiles : ∀ k,
      (ReceiveService.eraseFile (srv.receive.deref p) (r.get "fileId")).files.lookup k =
        if k ∈ uploaded ++ [r.get "fileId"] then none else files.lookup k := by
    intro k
    by_cases hk : k = r.get "fileId"
    · subst hk; simp [ReceiveService.eraseFile, AList.lookup_erase]
    · simp [ReceiveService.eraseFile, AList.lookup_erase_ne hk, h.lookup_eq, hk]
  have hempty :
      GoMap.len (ReceiveService.eraseFile (srv.receive.deref p) (r.get "fileId")).files = 0 ↔
      ∀ k ∈ files.keys, k ∈ uploaded ++ [r.get "fileId"] := by
    rw [GoMap.len_eq_zero_iff]
    refine ⟨fun hnone k hk => ?_, fun hall k => ?_⟩
    · by_contra hku
      have hk' := hnone k
      rw [hfiles, if_neg hku] at hk'
      exact AList.lookup_eq_none.1 hk' (AList.mem_keys.2 hk)
    · rw [hfiles]
      split_ifs with hku
      · rfl
      · exact AList.lookup_eq_none.2 fun hf => hku (hall k (AList.mem_keys.1 hf))
  refine ⟨by simpa using h.lt, by simp [hderef, ReceiveService.eraseFile, h.sessionId_eq],
    by simp [hderef, ReceiveService.eraseFile, h.ip_eq], by simpa [hderef] using hfiles, ?_⟩
  show (srv.receive.removeFileFromSession _ _).currentSession = _
  rw [ReceiveService.removeFileFromSession_eq, hsession]
  exact if_congr hempty rfl rfl

/-- Uploads, one after another, of distinct pending files with the session's ID, IP and tokens
and a sink that succeeds are all answered `200`, and each moves the session on by its file. -/
theorem AfterUploads.handleAll_uploads (cfg : Config) {p : Nat} {sessionId ip : String}
    {files : GoMap ActiveFile} (hsidne : sessionId ≠ "") (hkey : "" ∉ files)
    (htokne : ∀ k fileInfo, files.lookup k = some fileInfo → fileInfo.token ≠ "") :
    ∀ (uploads : List (Request × Oracle)) {srv : Server} {uploaded : List String},
      AfterUploads srv.receive p sessionId ip files uploaded →
      (∀ u ∈ uploads, u.1.method = "POST" ∧ u.1.remoteIP = ip ∧
        u.1.get "sessionId" = sessionId ∧
        (files.lookup (u.1.get "fileId")).map ActiveFile.token = some (u.1.get "token") ∧
        u.2.saved = true) →
      (uploaded ++ uploads.map (·.1.get "fileId")).Nodup →
      (∀ pc ∈ (handleAll cfg srv (uploads.map fun u => (.upload, u.1, u.2))).2,
          pc = .done ⟨200, .null⟩) ∧
        AfterUploads (handleAll cfg srv (uploads.map fun u => (.upload, u.1, u.2))).1.receive p
          sessionId ip files (uploaded ++ uploads.map (·.1.get "fileId"))
  | [], _, _, h, _, _ => by simpa [handleAll] using h
  | (r, o) :: rest, srv, uploaded, h, hreq, hnodup => by
    obtain ⟨hpost, hip, hsid, htoken, hsaved⟩ := hreq (r, o) (List.mem_cons_self _ _)
    obtain ⟨fileInfo, hfile, htok⟩ := Option.map_eq_some'.1 htoken
    have hfid : r.get "fileId" ≠ "" := fun h0 =>
      hkey (AList.lookup_isSome.1 (by rw [← h0]; simp [hfile]))
    have hnew : r.get "fileId" ∉ uploaded := by
      simp only [List.map_cons, List.nodup_append, List.nodup_cons] at hnodup
      exact fun hmem => hnodup.2.2 hmem (List.mem_cons_self _ _)
    obtain ⟨h200, hnext⟩ := h.handle_upload cfg r o fileInfo hpost hsid hsidne hfid hnew hfile
      htok (htokne _ _ hfile) hip hsaved
    have ih := handleAll_uploads cfg hsidne hkey htokne rest hnext
      (fun u hu => hreq u (List.mem_cons_of_mem _ hu)) (by simpa using hnodup)
    simp only [List.map_cons, handleAll, List.mem_cons, forall_eq_or_imp, h200, true_and]
    simpa using ih

section Samples

/-! Concrete values for the instances below. -/

/-- A UUID in the form `uuid.NewString()` returns. -/
def uuidA : Uuid := ⟨"6f1c2a3e-0d4b-4c7e-9a51-2b8e3f4d5c61", by decide⟩

/-- A second UUID. -/
def uuidB : Uuid := ⟨"0b7d9e42-5a13-4f68-8c2d-71e4a9b3f0d8", by decide⟩

/-- A third UUID. -/
def uuidC : Uuid := ⟨"c3a85f10-7e2b-4d96-b4f1-9d0c6e2a8b57", by decide⟩

/-- A receiver with no PIN. -/
def sampleConfig : Config := ⟨"", "/home/user/Downloads", "Laptop", some "GoDevice", "desktop",
  "5d41402abc4b2a76b9719d911017c592"⟩

/-- Draws `uuidA` for a session, `uuidB` for every token, and a sink that succeeds. -/
def sampleOracle : Oracle := ⟨uuidA, fun _ => uuidB, uuidC, true⟩

/-- The identity a sender declares. -/
def sampleInfo : InfoDto := ⟨"Phone", "2.1", none, "mobile", "9e107d9d372bb6826bd81d3542a419d6",
  false⟩

/-- A twelve-byte text file. -/
def sampleFile : FileDto := ⟨"", "notes.txt", 12, "text/plain"⟩

/-- A `/prepare-upload` from `192.168.1.20` declaring the files `files`. -/
def prepareUploadRequest (files : GoMap FileDto) : Request :=
  ⟨"POST", [], "192.168.1.20", some ⟨sampleInfo, files⟩, []⟩

/-- An `/upload` from `192.168.1.20`. -/
def uploadRequest (sessionId fileId token : String) : Request :=
  ⟨"POST", [("sessionId", sessionId), ("fileId", fileId), ("token", token)], "192.168.1.20", none,
    [104, 101, 108, 108, 111, 44, 32, 119, 111, 114, 108, 100]⟩

/-- A `/cancel` from `192.168.1.20`. -/
def cancelRequest (sessionId : String) : Request :=
  ⟨"POST", [("sessionId", sessionId)], "192.168.1.20", none, []⟩

end Samples

/-- The text of a UUID is never empty. -/
theorem Uuid.text_ne_empty (u : Uuid) : u.text ≠ "" := fun h => by
  simpa [h] using u.length_eq

/-- A receiver with no active session accepts a `/prepare-upload` that passes the PIN check and
names at least one file, none of them with the empty ID: it answers a token for exactly the
request's file IDs. Then, whatever the order in which the sender uploads those files one at a
time, from the same IP with the session ID and tokens it was given and a sink that succeeds,
every upload is answered `200`, the pending files are the request's files minus those uploaded
so far, and once all are uploaded no session is active and the next acceptable `/prepare-upload`
is answered `200`. -/
theorem prepareUpload_then_upload_each_file (cfg : Config) (srv : Server) (r : Request)
    (o : Oracle) (requestDto : PrepareUploadRequestDto)
    (hidle : srv.receive.currentSession = none) (hpost : r.method = "POST") (hpin : pinOk cfg r)
    (hjson : r.json = some requestDto) (hne : requestDto.files.len ≠ 0)
    (hkey : "" ∉ requestDto.files) :
    ∃ sessionId tokens,
      (handle cfg srv .prepareUpload r o).2 = .done ⟨200, .prepareUpload sessionId tokens⟩ ∧
      (∀ k, k ∈ tokens ↔ k ∈ requestDto.files) ∧
      ∀ uploads : List (Request × Oracle),
        (∀ u ∈ uploads, u.1.method = "POST" ∧ u.1.remoteIP = r.remoteIP ∧
          u.1.get "sessionId" = sessionId ∧
          tokens.lookup (u.1.get "fileId") = some (u.1.get "token") ∧ u.2.saved = true) →
        (uploads.map (·.1.get "fileId")).Nodup →
        let after := handleAll cfg (handle cfg srv .prepareUpload r o).1
          (uploads.map fun u => (.upload, u.1, u.2))
        (∀ pc ∈ after.2, pc = .done ⟨200, .null⟩) ∧
        (∀ k, after.1.receive.pending.lookup k =
          if k ∈ uploads.map (·.1.get "fileId") then none
          else (requestDto.files.lookup k).map fun d => ⟨d, (o.token k).text⟩) ∧
        ((∀ k ∈ requestDto.files, k ∈ uploads.map (·.1.get "fileId")) →
          after.1.receive.currentSession = none ∧
          ∀ r' o' requestDto', r'.method = "POST" → pinOk cfg r' → r'.json = some requestDto' →
            requestDto'.files.len ≠ 0 →
            ∃ sessionId' tokens', (handle cfg after.1 .prepareUpload r' o').2 =
              .done ⟨200, .prepareUpload sessionId' tokens'⟩) := by
  set files := ReceiveService.sessionFiles requestDto.files fun k => (o.token k).text
  have hprep := handle_prepareUpload_of_idle cfg srv o r requestDto hpost hpin hidle hjson hne
  refine ⟨o.sessionId.text, PrepareUpload.responseTokens files, by rw [hprep], fun k => by
    simp [PrepareUpload.responseTokens, files, ReceiveService.sessionFiles], ?_⟩
  intro uploads hreq hnodup
  have hkeys : ∀ k, k ∈ files.keys ↔ k ∈ requestDto.files := fun k => by
    simp [files, ReceiveService.sessionFiles, AList.mem_keys]
  have hnonempty : ∃ k, k ∈ requestDto.files := by
    obtain ⟨k, hk⟩ := List.exists_mem_of_ne_nil requestDto.files.keys
      (fun h => hne (by simp [GoMap.len, h]))
    exact ⟨k, AList.mem_keys.2 hk⟩
  have h0 : AfterUploads (handle cfg srv .prepareUpload r o).1.receive srv.receive.heap.length
      o.sessionId.text r.remoteIP files [] := by
    rw [hprep]
    dsimp only
    obtain ⟨k, hk⟩ := hnonempty
    refine ⟨by simp, by simp, by simp [PrepareUpload.sender], fun k => by simp [files], ?_⟩
    rw [if_neg fun hall => by simpa using hall k ((hkeys k).2 hk)]
  obtain ⟨h200, hafter⟩ := AfterUploads.handleAll_uploads cfg o.sessionId.text_ne_empty
    (by simpa [files, ReceiveService.sessionFiles] using hkey)
    (fun k fileInfo hf => by
      obtain ⟨d, -, rfl⟩ := Option.map_eq_some'.1 (by simpa [files] using hf)
      exact (o.token k).text_ne_empty)
    uploads h0
    (fun u hu => by
      obtain ⟨h1, h2, h3, h4, h5⟩ := hreq u hu
      exact ⟨h1, h2, h3, by simpa [PrepareUpload.responseTokens] using h4, h5⟩)
    (by simpa using hnodup)
  refine ⟨h200, fun k => by simpa [files] using hafter.pending_lookup k, fun hall => ?_⟩
  have hnone : (handleAll cfg (handle cfg srv .prepareUpload r o).1
      (uploads.map fun u => (.upload, u.1, u.2))).1.receive.currentSession = none := by
    rw [hafter.current_eq, if_pos]
    intro k hk
    simpa using hall k ((hkeys k).1 hk)
  refine ⟨hnone, fun r' o' requestDto' hpost' hpin' hjson' hne' => ?_⟩
  rw [handle_prepareUpload_of_idle cfg _ o' r' requestDto' hpost' hpin' hnone hjson' hne']
  exact ⟨_, _, rfl⟩

/-- A one-file `/prepare-upload` and the upload of that file, at a receiver with no PIN. -/
theorem prepareUpload_then_upload_one_file :
    Server.empty.receive.currentSession = none ∧
      (prepareUploadRequest (AList.singleton "f1" sampleFile)).method = "POST" ∧
      "" ∉ (AList.singleton "f1" sampleFile : GoMap FileDto) ∧
      ∃ sessionId tokens,
        (handle sampleConfig .empty .prepareUpload (prepareUploadRequest (AList.singleton "f1"
          sampleFile)) sampleOracle).2 = .done ⟨200, .prepareUpload sessionId tokens⟩ := by
  obtain ⟨sessionId, tokens, h, -⟩ := prepareUpload_then_upload_each_file sampleConfig .empty
    (prepareUploadRequest (AList.singleton "f1" sampleFile)) sampleOracle
    ⟨sampleInfo, AList.singleton "f1" sampleFile⟩ rfl rfl (by decide) rfl (by decide)
    (by decide)
  exact ⟨rfl, rfl, by decide, sessionId, tokens, h⟩

/-- A file declared with the empty ID gets a token, but its upload, with the session ID and that
token, is answered `400`: the handler cannot tell an empty `fileId` from a missing one. The
session stays active. -/
theorem upload_of_empty_file_id_rejected :
    let prepared := handle sampleConfig .empty .prepareUpload
      (prepareUploadRequest (AList.singleton "" sampleFile)) sampleOracle
    let uploaded := handle sampleConfig prepared.1 .upload (uploadRequest uuidA.text "" uuidB.text)
      sampleOracle
    prepared.2 = .done ⟨200, .prepareUpload uuidA.text (AList.singleton "" uuidB.text)⟩ ∧
      uploaded.2 = .done (respondError 400 "Missing query parameters (sessionId, fileId, token)") ∧
      uploaded.1.receive.currentSession = some 0 := by
  decide

/-- A request the server answers with an error status leaves the receive and the send session
managers exactly as they were: same active session or none, same pending files, same
tokens. -/
theorem handle_error_services (cfg : Config) (srv : Server) (e : Endpoint) (r : Request)
    (o : Oracle) (resp : Response) (h : (handle cfg srv e r o).2 = .done resp)
    (herr : resp.IsError) :
    (handle cfg srv e r o).1.receive = srv.receive ∧ (handle cfg srv e r o).1.send = srv.send :=
  Thread.runFor_error_services cfg o 4 srv _ resp h herr

/-- A `/cancel` for a session the receiver does not have is answered `404` and changes
nothing. -/
theorem cancel_of_unknown_session_keeps_services :
    (handle sampleConfig .empty .cancel (uploadRequest uuidA.text "f1" uuidB.text)
        sampleOracle).2 = .done (respondError 404 "Session not found") ∧
      (handle sampleConfig .empty .cancel (uploadRequest uuidA.text "f1" uuidB.text)
        sampleOracle).1.receive = Server.empty.receive :=
  ⟨by decide, (handle_error_services sampleConfig .empty .cancel _ sampleOracle
    (respondError 404 "Session not found") (by decide) (by decide)).1⟩

end LocalGo
