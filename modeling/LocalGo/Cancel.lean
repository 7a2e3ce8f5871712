import LocalGo.Invariant

/-!
# `/cancel`

`CancelHandler` is a method of the receive handler: it looks the ID up with
`ReceiveService.GetSessionByID` and, if it names the active receive session, calls
`ReceiveService.CloseSession()`. It never looks at the send session, which no handler ever closes
(`cancel_concerns_receive_session_only`); a `/cancel` with the ID of the active send session is
answered `404` (`cancel_of_send_session_not_found`).

The lookup and the close are two calls: `CloseSession()` closes whatever session is active when
it runs, which another request may by then have replaced (`cancel_closes_later_session`).

`PrepareUploadHandlerV2` calls `GetSession()` twice when a session is active, the second time to
log its ID; a `/cancel` between the two leaves it dereferencing `nil`
(`prepareUpload_panics_after_cancel`). Every answer it does give has one of its documented
statuses.
-/

namespace LocalGo

/-- `/cancel` concerns the receive session only. A `POST /cancel?sessionId=s` with `s` non-empty,
handled on its own from any state, is answered `200` and closes the receive session if `s` is the
active receive session's ID, and otherwise is answered `404` and changes nothing, whatever the
send session. No run ever closes an active send session. In every reachable system, a `/cancel`
with the active receive session's ID closes it. -/
theorem cancel_concerns_receive_session_only (cfg : Config) :
    (∀ (srv : Server) (r : Request) (o : Oracle), r.method = "POST" → r.get "sessionId" ≠ "" →
      handle cfg srv .cancel r o =
        if (srv.receive.getSessionByID (r.get "sessionId")).isSome then
          ({ srv with receive := srv.receive.closeSession }, .done ⟨200, .null⟩)
        else (srv, .done (respondError 404 "Session not found"))) ∧
    (∀ (σ : System) (as : List Action), σ.server.send.currentSession.isSome →
      (run cfg σ as).server.send.currentSession.isSome) ∧
    (∀ (as : List Action) (p : Nat) (r : Request) (o : Oracle),
      (run cfg .init as).server.receive.currentSession = some p → r.method = "POST" →
      r.get "sessionId" = ((run cfg .init as).server.receive.deref p).sessionId →
      handle cfg (run cfg .init as).server .cancel r o =
        ({ (run cfg .init as).server with
            receive := (run cfg .init as).server.receive.closeSession }, .done ⟨200, .null⟩)) := by
  have hcancel : ∀ (srv : Server) (r : Request) (o : Oracle), r.method = "POST" →
      r.get "sessionId" ≠ "" → handle cfg srv .cancel r o =
        if (srv.receive.getSessionByID (r.get "sessionId")).isSome then
          ({ srv with receive := srv.receive.closeSession }, .done ⟨200, .null⟩)
        else (srv, .done (respondError 404 "Session not found")) := by
    intro srv r o hpost hsid
    cases hg : srv.receive.getSessionByID (r.get "sessionId") <;>
      simp [handle_cancel, Cancel.start, Cancel.close, hpost, hsid, hg]
  refine ⟨hcancel, send_isSome_run cfg, fun as p r o hp hpost hsid => ?_⟩
  have inv : Inv cfg (run cfg .init as) := (reachable_run as).inv
  have hlen := inv.sessionId_length p (inv.current_lt p hp)
  rw [hcancel _ r o hpost (fun h => by rw [← hsid, h] at hlen; exact absurd hlen (by decide)),
    if_pos]
  simp [ReceiveService.getSessionByID_eq_some_iff.2 ⟨hp, hsid.symm⟩]

/-- A `/prepare-download`. -/
def prepareDownloadRequest : Request := ⟨"POST", [], "192.168.1.30", none, []⟩

/-- After a `/prepare-download` has created the send session `uuidA`, a `/cancel` with that ID is
answered `404` and changes nothing: the send session stays active, and it stays active after any
run whatever. -/
theorem cancel_of_send_session_not_found :
    let srv := (handle sampleConfig .empty .prepareDownload prepareDownloadRequest sampleOracle).1
    srv.send.currentSession = some ⟨uuidA.text, AList.singleton uuidC.text Download.dummyFile⟩ ∧
      handle sampleConfig srv .cancel (cancelRequest uuidA.text) sampleOracle =
        (srv, .done (respondError 404 "Session not found")) ∧
      ∀ as : List Action, (run sampleConfig ⟨srv, []⟩ as).server.send.currentSession.isSome := by
  refine ⟨by decide, by decide, fun as => send_isSome_run sampleConfig _ as (by decide)⟩

/-- A `/cancel` of the session `uuidA` looks it up; then the session's one file is uploaded, which
closes it; then a second `/prepare-upload` creates the session `uuidC`; last the `/cancel` calls
`CloseSession()`. -/
def cancelRaceRun : List Action :=
  [.request .prepareUpload (prepareUploadRequest (AList.singleton "f1" sampleFile)),
    .advance 0 sampleOracle, .advance 0 sampleOracle, .advance 0 sampleOracle,
    .request .cancel (cancelRequest uuidA.text), .advance 1 sampleOracle,
    .request .upload (uploadRequest uuidA.text "f1" uuidB.text),
    .advance 2 sampleOracle, .advance 2 sampleOracle, .advance 2 sampleOracle,
    .advance 2 sampleOracle,
    .request .prepareUpload (prepareUploadRequest (AList.singleton "f2" sampleFile)),
    .advance 3 secondOracle, .advance 3 secondOracle, .advance 3 secondOracle,
    .advance 1 sampleOracle]

/-- In `cancelRaceRun` the `/cancel` for `uuidA` closes the session `uuidC`, which the second
`/prepare-upload` had just been answered, and is answered `200`. -/
theorem cancel_closes_later_session :
    (run sampleConfig .init (cancelRaceRun.take 15)).server.receive.currentSession = some 1 ∧
      ((run sampleConfig .init (cancelRaceRun.take 15)).server.receive.deref 1).sessionId =
        uuidC.text ∧
      (run sampleConfig .init (cancelRaceRun.take 15)).threads.map Thread.pc =
        [.done ⟨200, .prepareUpload uuidA.text (AList.singleton "f1" uuidB.text)⟩, .close,
          .done ⟨200, .null⟩,
          .done ⟨200, .prepareUpload uuidC.text (AList.singleton "f2" uuidB.text)⟩] ∧
      (run sampleConfig .init cancelRaceRun).server.receive.currentSession = none ∧
      (run sampleConfig .init cancelRaceRun).threads.map Thread.pc =
        [.done ⟨200, .prepareUpload uuidA.text (AList.singleton "f1" uuidB.text)⟩,
          .done ⟨200, .null⟩, .done ⟨200, .null⟩,
          .done ⟨200, .prepareUpload uuidC.text (AList.singleton "f2" uuidB.text)⟩] := by
  decide

/-- The statuses `PrepareUploadHandlerV2` answers with: `200`, `400`, `401`, `405` and `409`. A
handler that has not answered, or that panicked, is not constrained. -/
def PrepareUpload.Documented : Pc → Prop
  | .done resp => resp.status = 200 ∨ resp.status = 400 ∨ resp.status = 401 ∨
      resp.status = 405 ∨ resp.status = 409
  | _ => True

/-- A step of a `/prepare-upload` handler answers, if at all, with a documented status. -/
theorem Thread.advance_documented (cfg : Config) (srv : Server) (t : Thread) (o : Oracle)
    (he : t.endpoint = .prepareUpload) (h : PrepareUpload.Documented t.pc) :
    PrepareUpload.Documented (t.advance cfg srv o).2 := by
  rcases t with ⟨e, r, pc⟩
  dsimp only at he h; subst he
  cases pc <;> simp only [Thread.advance]
  case start =>
    unfold PrepareUpload.start
    split_ifs <;> (try split) <;> (try split_ifs) <;> simp [PrepareUpload.Documented, respondError]
  case blocked =>
    unfold PrepareUpload.blocked
    split <;> simp [PrepareUpload.Documented, respondError]
  case create requestDto =>
    unfold PrepareUpload.create
    split <;> simp [PrepareUpload.Documented, respondError]
  case respond => simp [PrepareUpload.respond, PrepareUpload.Documented]
  all_goals exact h

/-- In every run, every `/prepare-upload` handler that has answered did so with a documented
status. -/
theorem prepareUpload_documented_run (cfg : Config) (as : List Action) (i : Nat) (t : Thread)
    (ht : (run cfg .init as).threads[i]? = some t) (he : t.endpoint = .prepareUpload) :
    PrepareUpload.Documented t.pc := by
  induction as using List.reverseRecOn generalizing i t with
  | nil => simp [System.init] at ht
  | append_singleton as a ih =>
    rw [run_append_singleton] at ht
    rcases threads_step ht with ht | ⟨o, t₀, -, h₀, rfl⟩ | ⟨-, -, hpc⟩
    · exact ih i t ht he
    · exact Thread.advance_documented cfg _ t₀ o he (ih i t₀ h₀ he)
    · rw [hpc]; trivial

/-- A `/prepare-upload` is answered while a second one finds the session active and is about to
call `GetSession()` again for its log line; a `/cancel` of the session runs in between. -/
def prepareUploadPanicRun : List Action :=
  [.request .prepareUpload (prepareUploadRequest (AList.singleton "f1" sampleFile)),
    .advance 0 sampleOracle, .advance 0 sampleOracle, .advance 0 sampleOracle,
    .request .prepareUpload (prepareUploadRequest (AList.singleton "f2" sampleFile)),
    .advance 1 sampleOracle,
    .request .cancel (cancelRequest uuidA.text), .advance 2 sampleOracle, .advance 2 sampleOracle,
    .advance 1 sampleOracle]

/-- Under any interleaving a `/prepare-upload` answers only with a documented status, but it
need not answer: in `prepareUploadPanicRun` the second one reads `SessionID` through the `nil`
that its second `GetSession()` returns, after the `/cancel` was answered `200`. -/
theorem prepareUpload_panics_after_cancel (cfg : Config) :
    (∀ (as : List Action) (i : Nat) (t : Thread), (run cfg .init as).threads[i]? = some t →
      t.endpoint = .prepareUpload → PrepareUpload.Documented t.pc) ∧
    (run sampleConfig .init prepareUploadPanicRun).threads.map Thread.pc =
      [.done ⟨200, .prepareUpload uuidA.text (AList.singleton "f1" uuidB.text)⟩, .panicked,
        .done ⟨200, .null⟩] :=
  ⟨prepareUpload_documented_run cfg, by decide⟩

end LocalGo
