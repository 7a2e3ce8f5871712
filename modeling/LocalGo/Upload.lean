import LocalGo.Invariant

/-!
# Which uploads reach the storage sink

`UploadHandlerV2` validates in three steps that other handlers may interleave: it looks the
session up by ID, then checks the sender's IP and the file's token against the session object it
got back, then streams the body to the sink. The sink is written only by such a handler
(`step_sink`), and only after it passed every check against the session that was active when it
looked it up, a session created by a `/prepare-upload` that passed the PIN check
(`upload_sink_write_validated`).
-/

namespace LocalGo

section Validation

/-- The session lookup of an `/upload` answers, or moves on to the file checks with the session
that `GetSessionByID` returned. -/
theorem Upload.start_spec (srv : Server) (r : Request) :
    (∃ p, srv.receive.getSessionByID (r.get "sessionId") = some p ∧
      Upload.start srv r = .checkFile p) ∨ ∃ resp, Upload.start srv r = .done resp := by
  unfold Upload.start
  split_ifs
  · exact .inr ⟨_, rfl⟩
  · exact .inr ⟨_, rfl⟩
  · split
    · exact .inr ⟨_, rfl⟩
    · exact .inl ⟨_, by assumption, rfl⟩

/-- The IP, file and token checks of an `/upload` answer, or move on to `save` with the file they
found pending under the request's token. -/
theorem Upload.checkFile_spec (srv : Server) (r : Request) (q : Nat) :
    (∃ fileInfo, r.remoteIP = (srv.receive.deref q).sender.ip ∧
      (srv.receive.deref q).files.lookup (r.get "fileId") = some fileInfo ∧
      fileInfo.token = r.get "token" ∧ Upload.checkFile srv r q = .save q fileInfo) ∨
      ∃ resp, Upload.checkFile srv r q = .done resp := by
  simp only [Upload.checkFile]
  split_ifs with hip
  · exact .inr ⟨_, rfl⟩
  · split
    · split_ifs with htok
      · exact .inl ⟨_, not_not.1 hip, by assumption, htok, rfl⟩
      · exact .inr ⟨_, rfl⟩
    · exact .inr ⟨_, rfl⟩

variable {cfg : Config} {srv : Server} {t : Thread} {o : Oracle} {p : Nat}

/-- Only the session lookup of an `/upload` moves it to `checkFile`. -/
theorem Thread.advance_eq_checkFile (he : t.endpoint = .upload)
    (h : (t.advance cfg srv o).2 = .checkFile p) :
    t.pc = .start ∧ srv.receive.getSessionByID (t.req.get "sessionId") = some p := by
  rcases t with ⟨e, r, pc⟩
  dsimp only at he; subst he
  cases pc <;> simp only [Thread.advance, Upload.save, Upload.remove] at h
  case start =>
    rcases Upload.start_spec srv r with ⟨q, hq, h'⟩ | ⟨_, h'⟩ <;> rw [h'] at h <;> cases h
    exact ⟨rfl, hq⟩
  case checkFile q =>
    rcases Upload.checkFile_spec srv r q with ⟨_, -, -, -, h'⟩ | ⟨_, h'⟩ <;>
      rw [h'] at h <;> cases h
  case save => split_ifs at h
  all_goals cases h

/-- Only the IP, file and token checks of an `/upload` move it to `save`. -/
theorem Thread.advance_eq_save {fileInfo : ActiveFile} (he : t.endpoint = .upload)
    (h : (t.advance cfg srv o).2 = .save p fileInfo) :
    t.pc = .checkFile p ∧ t.req.remoteIP = (srv.receive.deref p).sender.ip ∧
      (srv.receive.deref p).files.lookup (t.req.get "fileId") = some fileInfo ∧
      fileInfo.token = t.req.get "token" := by
  rcases t with ⟨e, r, pc⟩
  dsimp only at he; subst he
  cases pc <;> simp only [Thread.advance, Upload.save, Upload.remove] at h
  case start =>
    rcases Upload.start_spec srv r with ⟨_, -, h'⟩ | ⟨_, h'⟩ <;> rw [h'] at h <;> cases h
  case checkFile q =>
    rcases Upload.checkFile_spec srv r q with ⟨_, hip, hfile, htok, h'⟩ | ⟨_, h'⟩ <;>
      rw [h'] at h <;> cases h
    exact ⟨rfl, hip, hfile, htok⟩
  case save => split_ifs at h
  all_goals cases h

end Validation

/-- What an `/upload` request `r` had checked, in the system `σ` in which it looked its session
up: the session at `p` was active under the requested ID, was created for the request's IP, and
held the requested file, pending, with the requested token; and it was created by a
`/prepare-upload` handler that passed the method and PIN checks (`CreatedBy`). -/
structure UploadValidated (cfg : Config) (σ : System) (r : Request) (p : Nat)
    (fileInfo : ActiveFile) : Prop where
  active : σ.server.receive.currentSession = some p
  sessionId_eq : (σ.server.receive.deref p).sessionId = r.get "sessionId"
  ip_eq : (σ.server.receive.deref p).sender.ip = r.remoteIP
  pending : (σ.server.receive.deref p).files.lookup (r.get "fileId") = some fileInfo
  token_eq : fileInfo.token = r.get "token"
  createdBy : ∃ (c : Nat) (t : Thread), σ.threads[c]? = some t ∧
    CreatedBy cfg σ.server.receive p t

/-- Whenever a step of any run writes to the storage sink, it is the `save` step of an `/upload`
handler writing its own request body, and that handler had looked up, at an earlier step `j`,
an active session against which its IP, file ID and token all checked out. -/
theorem upload_sink_write_validated (cfg : Config) (as : List Action) (k : Nat)
    (hw : (run cfg .init (as.take (k + 1))).server.sink ≠ (run cfg .init (as.take k)).server.sink) :
    ∃ (i : Nat) (o : Oracle) (r : Request) (p : Nat) (fileInfo : ActiveFile),
      as[k]? = some (.advance i o) ∧
      (run cfg .init (as.take k)).threads[i]? = some ⟨.upload, r, .save p fileInfo⟩ ∧
      (run cfg .init (as.take (k + 1))).server.sink =
        (run cfg .init (as.take k)).server.sink ++
          [⟨Upload.destinationPath cfg fileInfo, r.body⟩] ∧
      ∃ j < k, ∃ o' : Oracle, as[j]? = some (.advance i o') ∧
        (run cfg .init (as.take j)).threads[i]? = some ⟨.upload, r, .start⟩ ∧
        UploadValidated cfg (run cfg .init (as.take j)) r p fileInfo := by
  have hk : k < as.length := by
    by_contra hk
    rw [List.take_of_length_le (by omega), List.take_of_length_le (by omega)] at hw
    exact hw rfl
  rw [run_take_succ _ _ hk] at hw ⊢
  rcases step_sink (run cfg .init (as.take k)) as[k] with h | ⟨i, o, r, p, fi, ha, ht, h⟩
  · exact absurd h hw
  refine ⟨i, o, r, p, fi, by rw [List.getElem?_eq_getElem hk, ha], ht, h, ?_⟩
  -- the checks that moved handler `i` to `save`
  obtain ⟨j₂, hj₂, o₂, pc₂, -, ht₂, hsave⟩ := run_entered_pc as Pc.noConfusion ht
  obtain ⟨rfl, hip, hfile, htoken⟩ := Thread.advance_eq_save rfl hsave
  -- the session lookup that moved it to `checkFile`
  obtain ⟨j₁, hj₁, o₁, pc₁, ha₁, ht₁, hcheck⟩ := run_entered_pc as Pc.noConfusion ht₂
  obtain ⟨rfl, hget⟩ := Thread.advance_eq_checkFile rfl hcheck
  obtain ⟨hcur, hsid⟩ := ReceiveService.getSessionByID_eq_some_iff.1 hget
  have inv : Inv cfg (run cfg .init (as.take j₁)) := (reachable_run _).inv
  have hle : (run cfg .init (as.take j₁)).server.receive.Le
      (run cfg .init (as.take j₂)).server.receive := run_receive_le .init as hj₁.le
  have hp := inv.current_lt p hcur
  exact ⟨j₁, by omega, o₁, ha₁, ht₁, hcur, hsid,
    (congrArg DeviceInfo.ip (hle.sender_eq p hp)).symm.trans hip.symm,
    hle.files_sub p hp _ _ hfile, htoken, inv.creator p hcur⟩

/-- A `/prepare-upload` of one file, run to its answer, then that file's `/upload` run to its
`save` step. -/
def sampleUploadRun : List Action :=
  [.request .prepareUpload (prepareUploadRequest (AList.singleton "f1" sampleFile)),
    .advance 0 sampleOracle, .advance 0 sampleOracle, .advance 0 sampleOracle,
    .request .upload (uploadRequest uuidA.text "f1" uuidB.text),
    .advance 1 sampleOracle, .advance 1 sampleOracle, .advance 1 sampleOracle]

/-- In `sampleUploadRun` the last step writes to the sink, after a validation of the upload
against an active session. -/
theorem sampleUploadRun_write_validated :
    (run sampleConfig .init (sampleUploadRun.take 8)).server.sink ≠
        (run sampleConfig .init (sampleUploadRun.take 7)).server.sink ∧
      ∃ j < 7, ∃ (r : Request) (p : Nat) (fileInfo : ActiveFile),
        UploadValidated sampleConfig (run sampleConfig .init (sampleUploadRun.take j)) r p
          fileInfo := by
  have hw : (run sampleConfig .init (sampleUploadRun.take 8)).server.sink ≠
      (run sampleConfig .init (sampleUploadRun.take 7)).server.sink := by decide
  obtain ⟨-, -, r, p, fileInfo, -, -, -, j, hj, -, -, -, hv⟩ :=
    upload_sink_write_validated sampleConfig sampleUploadRun 7 hw
  exact ⟨hw, j, hj, r, p, fileInfo, hv⟩

/-- Two `/upload` requests carrying the same session ID, file ID and token, both validated before
either removes the file. -/
def duplicateUploadRun : List Action :=
  sampleUploadRun.take 5 ++
    [.request .upload (uploadRequest uuidA.text "f1" uuidB.text),
      .advance 1 sampleOracle, .advance 2 sampleOracle, .advance 1 sampleOracle,
      .advance 2 sampleOracle, .advance 1 sampleOracle, .advance 2 sampleOracle,
      .advance 1 sampleOracle, .advance 2 sampleOracle]

/-- An `/upload` validated, then the session cancelled, then the upload's body streamed. -/
def uploadAfterCancelRun : List Action :=
  sampleUploadRun.take 7 ++
    [.request .cancel (cancelRequest uuidA.text), .advance 2 sampleOracle,
      .advance 2 sampleOracle, .advance 1 sampleOracle, .advance 1 sampleOracle]

/-- The token of a file is not single-use under concurrency: both uploads of
`duplicateUploadRun` write the body to the sink and are answered `200`. And in
`uploadAfterCancelRun` the body reaches the sink after the `/cancel` was answered `200` and no
session is active. -/
theorem upload_token_reused_and_written_after_cancel :
    (run sampleConfig .init duplicateUploadRun).server.sink.length = 2 ∧
      (run sampleConfig .init duplicateUploadRun).threads.map Thread.pc =
        [.done ⟨200, .prepareUpload uuidA.text (AList.singleton "f1" uuidB.text)⟩,
          .done ⟨200, .null⟩, .done ⟨200, .null⟩] ∧
      (run sampleConfig .init (uploadAfterCancelRun.take 10)).server.receive.currentSession =
        none ∧ (run sampleConfig .init (uploadAfterCancelRun.take 10)).server.sink = [] ∧
      (run sampleConfig .init (uploadAfterCancelRun.take 10)).threads.map Thread.pc =
        [.done ⟨200, .prepareUpload uuidA.text (AList.singleton "f1" uuidB.text)⟩,
          .save 0 ⟨sampleFile, uuidB.text⟩, .done ⟨200, .null⟩] ∧
      (run sampleConfig .init (uploadAfterCancelRun.take 11)).server.sink.length = 1 := by
  decide

end LocalGo
