import LocalGo.Interleaving

/-!
# What every interleaving keeps

`Inv` holds in every reachable system (`Reachable.inv`): the active receive session has a
pending file, and it was created by a `/prepare-upload` handler that passed the method and PIN
checks, whose request declared each of its pending files with the same metadata, and whose
response gives each of them its token (`CreatedBy`). The proof is one lemma per kind of action
(`Inv.request`, `Inv.advance`), each reading what a handler step can do off
`Thread.advance_receive`.

`RaceInv` holds along every run made of `/prepare-upload` requests only (`raceInv_run`): at most
one handler is committed to answering `200`, and an acceptable request is still before
`CreateSession` or a session is active. `receive_session_invariant` puts the two together. Other
requests break `RaceInv`: an `/upload` that closes the first session between two concurrent
`CreateSession` calls lets both `/prepare-upload` requests be answered `200`
(`uploadBetweenCreates_both_accepted`).
-/

namespace LocalGo

section Invariant

/-- The `/prepare-upload` handler `t` created the session object at `p`: its request is a `POST`
that passed the PIN check and decoded to `requestDto`; the object records the request's sender
and IP; its files are among the request's, with the declared metadata; and the handler is about
to answer, or has answered, a token map that gives each of them its token. -/
structure CreatedBy (cfg : Config) (s : ReceiveService) (p : Nat) (t : Thread) : Prop where
  endpoint_eq : t.endpoint = .prepareUpload
  method_eq : t.req.method = "POST"
  pin : pinOk cfg t.req
  request : ∃ requestDto, t.req.json = some requestDto ∧
    (s.deref p).sender = PrepareUpload.sender t.req requestDto ∧
    ∀ k a, (s.deref p).files.lookup k = some a → requestDto.files.lookup k = some a.dto
  response : t.pc = .respond p ∨ ∃ tokens,
    t.pc = .done ⟨200, .prepareUpload (s.deref p).sessionId tokens⟩ ∧
    ∀ k a, (s.deref p).files.lookup k = some a → tokens.lookup k = some a.token

/-- What every reachable system satisfies. -/
structure Inv (cfg : Config) (σ : System) : Prop where
  /-- Every session object has the 36-character ID `uuid.NewString()` gave it. -/
  sessionId_length : ∀ p < σ.server.receive.heap.length,
    (σ.server.receive.deref p).sessionId.length = 36
  /-- The service's pointer is a valid address. -/
  current_lt : ∀ p, σ.server.receive.currentSession = some p → p < σ.server.receive.heap.length
  /-- The active session has a pending file. -/
  current_nonempty : ∀ p, σ.server.receive.currentSession = some p →
    (σ.server.receive.deref p).files.len ≠ 0
  /-- A handler about to call `CreateSession` is a `/prepare-upload` that passed every check. -/
  create_ok : ∀ (i : Nat) (t : Thread) (requestDto : PrepareUploadRequestDto),
    σ.threads[i]? = some t → t.pc = .create requestDto →
    t.endpoint = .prepareUpload ∧ t.req.method = "POST" ∧ pinOk cfg t.req ∧
      t.req.json = some requestDto ∧ requestDto.files.len ≠ 0
  /-- The active session was created by one of the handlers. -/
  creator : ∀ p, σ.server.receive.currentSession = some p →
    ∃ (i : Nat) (t : Thread), σ.threads[i]? = some t ∧ CreatedBy cfg σ.server.receive p t

variable {cfg : Config}

theorem CreatedBy.mono {s₁ s₂ : ReceiveService} {p : Nat} {t : Thread}
    (h : CreatedBy cfg s₁ p t) (hle : s₁.Le s₂) (hp : p < s₁.heap.length) :
    CreatedBy cfg s₂ p t := by
  obtain ⟨he, hm, hpin, ⟨requestDto, hjson, hsender, hfiles⟩, hresp⟩ := h
  refine ⟨he, hm, hpin, ⟨requestDto, hjson, hle.sender_eq p hp ▸ hsender,
    fun k a hk => hfiles k a (hle.files_sub p hp k a hk)⟩, ?_⟩
  rw [hle.sessionId_eq p hp]
  exact hresp.imp_right fun ⟨tokens, hpc, htok⟩ =>
    ⟨tokens, hpc, fun k a hk => htok k a (hle.files_sub p hp k a hk)⟩

theorem inv_init : Inv cfg .init := by
  constructor <;> simp [System.init, Server.empty, ReceiveService.empty]

/-- A new request adds a handler at its start and changes nothing else. -/
theorem Inv.request {σ : System} (h : Inv cfg σ) (e : Endpoint) (r : Request) :
    Inv cfg (step cfg σ (.request e r)) := by
  refine ⟨h.sessionId_length, h.current_lt, h.current_nonempty, fun i t d hi hpc => ?_,
    fun p hp => ?_⟩
  · rcases threads_step hi with hi | ⟨_, _, ⟨⟩, -⟩ | ⟨-, _, hstart⟩
    · exact h.create_ok i t d hi hpc
    · simp [hstart] at hpc
  · obtain ⟨i, t, hi, hc⟩ := h.creator p hp
    exact ⟨i, t, (List.getElem?_append_left (List.getElem?_eq_some_iff.1 hi).1).trans hi, hc⟩

theorem PrepareUpload.start_eq_create {srv : Server} {r : Request}
    {requestDto : PrepareUploadRequestDto} :
    PrepareUpload.start cfg srv r = .create requestDto ↔
      r.method = "POST" ∧ pinOk cfg r ∧ srv.receive.currentSession = none ∧
        r.json = some requestDto ∧ requestDto.files.len ≠ 0 := by
  unfold PrepareUpload.start
  by_cases h1 : r.method = "POST"
  · by_cases h2 : pinOk cfg r
    · cases h3 : srv.receive.currentSession with
      | some p => simp [h1, h2, h3, ReceiveService.getSession]
      | none =>
        cases hj : r.json with
        | none => simp [h1, h2, h3, hj, ReceiveService.getSession]
        | some d =>
          by_cases h4 : d.files.len = 0 <;>
            simp [h1, h2, h3, hj, h4, ReceiveService.getSession, eq_comm] <;> rintro rfl <;> omega
    · simp [h1, h2]
  · simp [h1]

/-- Only a `/prepare-upload` at its start that passes every check moves to `create`. -/
theorem Thread.advance_eq_create {srv : Server} {t : Thread} {o : Oracle}
    {requestDto : PrepareUploadRequestDto} (h : (t.advance cfg srv o).2 = .create requestDto) :
    (t.endpoint ≠ .prepareUpload ∧ t.pc = .create requestDto) ∨
      (t.endpoint = .prepareUpload ∧ t.req.method = "POST" ∧ pinOk cfg t.req ∧
        t.req.json = some requestDto ∧ requestDto.files.len ≠ 0) := by
  rcases t with ⟨e, r, pc⟩
  cases e <;> cases pc <;> simp only [Thread.advance] at h
  case prepareUpload.start =>
    obtain ⟨h1, h2, -, h4⟩ := PrepareUpload.start_eq_create.1 h
    exact .inr ⟨rfl, h1, h2, h4⟩
  all_goals first
    | exact .inl ⟨Endpoint.noConfusion, h⟩
    | (try simp only [PrepareUpload.blocked, PrepareUpload.create, PrepareUpload.respond,
        Upload.start, Upload.checkFile, Upload.save, Upload.remove, Cancel.start, Cancel.close,
        Download.prepareDownload, Download.download] at h
       repeat' split at h
       all_goals simp at h)

/-- The `/prepare-upload` handler that created a session keeps satisfying `CreatedBy` through its
own steps: it answers with the token map of the session object as it is at that step. -/
theorem CreatedBy.advance {srv : Server} {p : Nat} {t : Thread} (o : Oracle)
    (h : CreatedBy cfg srv.receive p t) :
    CreatedBy cfg (t.advance cfg srv o).1.receive p { t with pc := (t.advance cfg srv o).2 } := by
  obtain ⟨he, hm, hpin, hreq, hresp⟩ := h
  rcases t with ⟨e, r, pc⟩
  dsimp only at he hresp; subst he
  rcases hresp with rfl | ⟨tokens, rfl, htok⟩
  · simp only [Thread.advance, PrepareUpload.respond]
    refine ⟨rfl, hm, hpin, hreq, .inr ⟨_, rfl, fun k a hk => ?_⟩⟩
    simp [PrepareUpload.responseTokens, hk]
  · simpa using
      (⟨rfl, hm, hpin, hreq, .inr ⟨tokens, rfl, htok⟩⟩ : CreatedBy cfg srv.receive p _)

/-- A step keeps the facts about the receive service's session objects. -/
theorem Inv.advance_receive {σ : System} {i : Nat} {t : Thread} (h : Inv cfg σ) (o : Oracle)
    (ht : σ.threads[i]? = some t) :
    let s := (t.advance cfg σ.server o).1.receive
    (∀ p < s.heap.length, (s.deref p).sessionId.length = 36) ∧
      (∀ p, s.currentSession = some p → p < s.heap.length) ∧
      (∀ p, s.currentSession = some p → (s.deref p).files.len ≠ 0) := by
  rcases Thread.advance_receive cfg σ.server t o with
    hr | ⟨d, he, hpc, -, hr, -⟩ | ⟨-, -, hr⟩ | ⟨-, -, hr⟩ <;> simp only [hr]
  · exact ⟨h.sessionId_length, h.current_lt, h.current_nonempty⟩
  · obtain ⟨-, -, -, -, hlen⟩ := h.create_ok i t d ht hpc
    refine ⟨fun p hp => ?_, by simp, ?_⟩
    · rcases lt_or_eq_of_le (Nat.le_of_lt_succ (by simpa using hp)) with hp | rfl
      · rw [ReceiveService.deref_append hp]; exact h.sessionId_length p hp
      · simp [o.sessionId.length_eq]
    · simpa [GoMap.len, ReceiveService.sessionFiles] using hlen
  · refine ⟨fun p hp => ?_, fun p hp => ?_, fun p hp => ?_⟩
    · rw [ReceiveService.heap_length_removeFileFromSession] at hp
      rw [ReceiveService.deref_removeFileFromSession _ _ _ hp]
      split_ifs <;> exact h.sessionId_length p hp
    · simpa using h.current_lt p (ReceiveService.currentSession_of_removeFileFromSession hp)
    · have hp' := ReceiveService.currentSession_of_removeFileFromSession hp
      exact ReceiveService.len_ne_zero_of_removeFileFromSession hp (h.current_lt p hp')
        (h.current_nonempty p hp')
  · simp [ReceiveService.closeSession]
    exact h.sessionId_length

/-- A handler step keeps `Inv`. -/
theorem Inv.advance {σ : System} (h : Inv cfg σ) (i : Nat) (o : Oracle) :
    Inv cfg (step cfg σ (.advance i o)) := by
  cases ht : σ.threads[i]? with
  | none => simpa [step, ht] using h
  | some t =>
    have hthreads := threads_step_advance cfg o ht
    obtain ⟨h₁, h₂, h₃⟩ := h.advance_receive o ht
    rw [step_advance_of_getElem? ht] at hthreads ⊢
    refine ⟨h₁, h₂, h₃, fun j tj d hj hpc => ?_, fun p hp => ?_⟩
    · rw [hthreads] at hj
      split_ifs at hj with hji
      · obtain rfl := Option.some_inj.1 hj
        rcases Thread.advance_eq_create hpc with ⟨hne, hpc⟩ | hok
        · exact absurd (h.create_ok i t d ht hpc).1 hne
        · exact hok
      · exact h.create_ok j tj d hj hpc
    · rcases Thread.currentSession_advance cfg _ t o hp with
        hp | ⟨d, he, hpc, -, rfl, hr, hpc'⟩
      · obtain ⟨c, tc, hc, hcr⟩ := h.creator p hp
        by_cases hci : c = i
        · subst hci
          obtain rfl := Option.some_inj.1 (ht.symm.trans hc)
          exact ⟨c, _, by rw [hthreads, if_pos rfl], hcr.advance o⟩
        · exact ⟨c, tc, by rw [hthreads, if_neg hci, hc],
            hcr.mono (Thread.advance_receive_le cfg _ t o) (h.current_lt p hp)⟩
      · obtain ⟨-, hm, hpin, hjson, -⟩ := h.create_ok i t d ht hpc
        refine ⟨i, { t with pc := (t.advance cfg σ.server o).2 }, by rw [hthreads, if_pos rfl],
          he, hm, hpin, ⟨d, hjson, ?_, ?_⟩, .inl hpc'⟩
        · simp [hr]
        · intro k a hk
          simp only [hr, ReceiveService.deref_mk, ReceiveService.deref_append_length,
            ReceiveService.lookup_sessionFiles, Option.map_eq_some'] at hk
          obtain ⟨dto, hdto, rfl⟩ := hk
          exact hdto

/-- Every reachable system satisfies `Inv`. -/
theorem Reachable.inv {σ : System} (h : Reachable cfg σ) : Inv cfg σ := by
  induction h with
  | init => exact inv_init
  | step a _ ih =>
    cases a with
    | request e r => exact ih.request e r
    | advance i o => exact ih.advance i o

end Invariant

/-- A `/prepare-upload` request that the handler accepts when no session is active: a `POST` that
passes the PIN check and decodes to a non-empty file map. -/
def PrepareUpload.Acceptable (cfg : Config) (r : Request) : Prop :=
  r.method = "POST" ∧ pinOk cfg r ∧ ∃ requestDto, r.json = some requestDto ∧ requestDto.files.len ≠ 0

/-- Every request of the run is a `/prepare-upload`. -/
def PrepareUploadsOnly (as : List Action) : Prop :=
  ∀ (e : Endpoint) (r : Request), Action.request e r ∈ as → e = .prepareUpload

section Race

variable {cfg : Config} {srv : Server} {t : Thread} {o : Oracle}

/-- The first step of `/prepare-upload` answers with an error only to a request it does not
accept, goes on to the second `GetSession()` only when a session is active, or goes on to
`CreateSession`. -/
theorem PrepareUpload.start_spec (cfg : Config) (srv : Server) (r : Request) :
    (∃ resp, PrepareUpload.start cfg srv r = .done resp ∧ resp.status ≠ 200 ∧
      ¬PrepareUpload.Acceptable cfg r) ∨
      (PrepareUpload.start cfg srv r = .blocked ∧ srv.receive.currentSession.isSome) ∨
      ∃ requestDto, PrepareUpload.start cfg srv r = .create requestDto := by
  unfold PrepareUpload.start
  by_cases h1 : r.method = "POST"
  swap
  · exact .inl ⟨_, if_pos h1, by decide, fun h => h1 h.1⟩
  rw [if_neg (not_not.2 h1)]
  by_cases h2 : pinOk cfg r
  swap
  · exact .inl ⟨_, if_pos h2, by decide, fun h => h2 h.2.1⟩
  rw [if_neg (not_not.2 h2)]
  by_cases h3 : srv.receive.getSession.isSome
  · exact .inr (.inl ⟨if_pos h3, h3⟩)
  rw [if_neg h3]
  cases hj : r.json with
  | none => exact .inl ⟨_, rfl, by decide, fun ⟨_, _, d, hd, _⟩ => by simp [hj] at hd⟩
  | some d =>
    by_cases h4 : d.files.len = 0
    · refine .inl ⟨_, if_pos h4, by decide, fun ⟨_, _, d', hd', hne⟩ => hne ?_⟩
      obtain rfl := Option.some_inj.1 (hj.symm.trans hd')
      exact h4
    · exact .inr (.inr ⟨d, if_neg h4⟩)

/-- `CreateSession` from `/prepare-upload` fails, and the handler answers `409` without a change,
exactly when a session is active; otherwise the new session is the active one. -/
theorem PrepareUpload.create_spec (srv : Server) (r : Request)
    (requestDto : PrepareUploadRequestDto) (o : Oracle) :
    (srv.receive.currentSession.isSome ∧ PrepareUpload.create srv r requestDto o =
      (srv, .done (respondError 409 "Blocked by another session"))) ∨
    (srv.receive.currentSession = none ∧
      (PrepareUpload.create srv r requestDto o).1.receive.currentSession =
        some srv.receive.heap.length ∧
      (PrepareUpload.create srv r requestDto o).2 = .respond srv.receive.heap.length) := by
  unfold PrepareUpload.create
  split
  · rename_i herr
    refine .inl ⟨?_, rfl⟩
    unfold ReceiveService.createSession at herr
    split_ifs at herr with h
    exact h
  · rename_i p receive hok
    obtain ⟨hidle, rfl, rfl⟩ := ReceiveService.createSession_eq_ok_iff.1 hok
    exact .inr ⟨hidle, rfl, rfl⟩

/-- A `/prepare-upload` step never clears the active session. -/
theorem Thread.advance_isSome_of_prepareUpload (he : t.endpoint = .prepareUpload)
    (h : srv.receive.currentSession.isSome) :
    (t.advance cfg srv o).1.receive.currentSession.isSome := by
  rcases Thread.advance_receive cfg srv t o with
    hr | ⟨_, -, -, hidle, -⟩ | ⟨he', -⟩ | ⟨he', -⟩
  · rwa [hr]
  · simp [hidle] at h
  · rw [he] at he'; cases he'
  · rw [he] at he'; cases he'

/-- A `/prepare-upload` handler that is newly committed to answering `200` has just created the
active session, from the idle state. -/
theorem Thread.advance_committed_of_prepareUpload (he : t.endpoint = .prepareUpload)
    (h : (t.advance cfg srv o).2.Committed) :
    t.pc.Committed ∨ (srv.receive.currentSession = none ∧
      (t.advance cfg srv o).1.receive.currentSession.isSome) := by
  rcases t with ⟨e, r, pc⟩
  dsimp only at he; subst he
  cases pc <;> simp only [Thread.advance] at h ⊢
  case start =>
    rcases PrepareUpload.start_spec cfg srv r with ⟨_, h', hst, -⟩ | ⟨h', -⟩ |
        ⟨_, h'⟩ <;> rw [h'] at h <;> simp only [Pc.Committed] at h
    exact absurd h hst
  case blocked =>
    unfold PrepareUpload.blocked at h
    split at h <;> simp [Pc.Committed, respondError] at h
  case create requestDto =>
    rcases PrepareUpload.create_spec srv r requestDto o with ⟨-, h'⟩ | ⟨hidle, h', -⟩
    · rw [h'] at h; simp [Pc.Committed, respondError] at h
    · exact .inr ⟨hidle, by simp [h']⟩
  case respond => exact .inl trivial
  all_goals exact .inl h

/-- A `/prepare-upload` handler whose request is acceptable stays before `CreateSession`, or a
session is active. -/
theorem Thread.advance_accepted (he : t.endpoint = .prepareUpload)
    (hacc : PrepareUpload.Acceptable cfg t.req)
    (h : t.pc = .start ∨ (∃ requestDto, t.pc = .create requestDto) ∨
      srv.receive.currentSession.isSome) :
    (t.advance cfg srv o).2 = .start ∨
      (∃ requestDto, (t.advance cfg srv o).2 = .create requestDto) ∨
      (t.advance cfg srv o).1.receive.currentSession.isSome := by
  rcases t with ⟨e, r, pc⟩
  dsimp only at he hacc h ⊢; subst he
  rcases h with rfl | ⟨d, rfl⟩ | h
  · simp only [Thread.advance]
    rcases PrepareUpload.start_spec cfg srv r with ⟨_, -, -, hna⟩ | ⟨h', hs⟩ | ⟨d, h'⟩
    · exact absurd hacc hna
    · exact .inr (.inr hs)
    · exact .inr (.inl ⟨d, h'⟩)
  · simp only [Thread.advance]
    rcases PrepareUpload.create_spec srv r d o with ⟨hs, h'⟩ | ⟨-, h', -⟩
    · rw [h']; exact .inr (.inr hs)
    · exact .inr (.inr (by simp [h']))
  · exact .inr (.inr (Thread.advance_isSome_of_prepareUpload rfl h))

variable (cfg)

/-- What a run of `/prepare-upload` requests only keeps. -/
structure RaceInv (σ : System) : Prop where
  /-- Every handler serves `/prepare-upload`. -/
  endpoint_eq : ∀ (i : Nat) (t : Thread), σ.threads[i]? = some t → t.endpoint = .prepareUpload
  /-- A handler committed to answering `200` has created the active session. -/
  committed_active : ∀ (i : Nat) (t : Thread), σ.threads[i]? = some t → t.pc.Committed →
    σ.server.receive.currentSession.isSome
  /-- At most one handler is committed to answering `200`. -/
  committed_unique : ∀ (i j : Nat) (ti tj : Thread), σ.threads[i]? = some ti →
    σ.threads[j]? = some tj → ti.pc.Committed → tj.pc.Committed → i = j
  /-- A handler whose request is acceptable is before `CreateSession`, or a session is active. -/
  accepted : ∀ (i : Nat) (t : Thread), σ.threads[i]? = some t →
    PrepareUpload.Acceptable cfg t.req → t.pc = .start ∨ (∃ requestDto, t.pc = .create requestDto) ∨
      σ.server.receive.currentSession.isSome

variable {cfg}

/-- A new `/prepare-upload` request keeps `RaceInv`: its handler is at `start`, so every
committed handler is an old one. -/
theorem RaceInv.request {σ : System} (h : RaceInv cfg σ) (r : Request) :
    RaceInv cfg (LocalGo.step cfg σ (.request .prepareUpload r)) := by
  have hnew : ∀ (j : Nat) (t : Thread),
      (LocalGo.step cfg σ (.request .prepareUpload r)).threads[j]? = some t →
      σ.threads[j]? = some t ∨ (t.endpoint = .prepareUpload ∧ t.pc = .start) := by
    intro j t hj
    rcases threads_step hj with hj | ⟨_, _, ⟨⟩, -⟩ | ⟨-, hreq, hstart⟩
    · exact .inl hj
    · exact .inr ⟨(Action.request.inj hreq).1.symm, hstart⟩
  have hold : ∀ (j : Nat) (t : Thread),
      (LocalGo.step cfg σ (.request .prepareUpload r)).threads[j]? = some t → t.pc.Committed →
      σ.threads[j]? = some t := fun j t hj hc =>
    (hnew j t hj).resolve_right fun ⟨_, hpc⟩ => by simp [hpc, Pc.Committed] at hc
  refine ⟨fun j t hj => ?_, fun j t hj hc => h.committed_active j t (hold j t hj hc) hc,
    fun j₁ j₂ t₁ t₂ h₁ h₂ hc₁ hc₂ => h.committed_unique j₁ j₂ t₁ t₂
      (hold j₁ t₁ h₁ hc₁) (hold j₂ t₂ h₂ hc₂) hc₁ hc₂,
    fun j t hj hacc => ?_⟩
  · rcases hnew j t hj with hj | ⟨he, -⟩
    exacts [h.endpoint_eq j t hj, he]
  · rcases hnew j t hj with hj | ⟨-, hpc⟩
    exacts [h.accepted j t hj hacc, .inl hpc]

/-- A step of a `/prepare-upload` handler keeps `RaceInv`: it never clears the active session,
and it commits to `200` only by creating the session from the idle state. -/
theorem RaceInv.advance {σ : System} (h : RaceInv cfg σ) (i : Nat) (o : Oracle) :
    RaceInv cfg (LocalGo.step cfg σ (.advance i o)) := by
  cases ht : σ.threads[i]? with
  | none => simpa [LocalGo.step, ht] using h
  | some t =>
    have he := h.endpoint_eq i t ht
    have hthreads := threads_step_advance cfg o ht
    have hmono : σ.server.receive.currentSession.isSome →
        (t.advance cfg σ.server o).1.receive.currentSession.isSome :=
      Thread.advance_isSome_of_prepareUpload he
    rw [step_advance_of_getElem? ht] at hthreads ⊢
    -- a handler committed after the step was committed before, or is `i` creating the session
    have hcomm : ∀ (j : Nat) (tj : Thread),
        (σ.threads.set i { t with pc := (t.advance cfg σ.server o).2 })[j]? = some tj →
        tj.pc.Committed → (∃ tj₀, σ.threads[j]? = some tj₀ ∧ tj₀.pc.Committed) ∨
          (j = i ∧ σ.server.receive.currentSession = none ∧
            (t.advance cfg σ.server o).1.receive.currentSession.isSome) := by
      intro j tj hj hc
      rw [hthreads] at hj
      split_ifs at hj with hji
      · subst hji
        obtain rfl := Option.some_inj.1 hj
        exact (Thread.advance_committed_of_prepareUpload he hc).imp (fun h => ⟨t, ht, h⟩)
          fun h => ⟨rfl, h⟩
      · exact .inl ⟨tj, hj, hc⟩
    refine ⟨fun j tj hj => ?_, fun j tj hj hc => ?_,
      fun j₁ j₂ t₁ t₂ h₁ h₂ hc₁ hc₂ => ?_, fun j tj hj hacc => ?_⟩
    · rw [hthreads] at hj
      split_ifs at hj
      · obtain rfl := Option.some_inj.1 hj; exact he
      · exact h.endpoint_eq j tj hj
    · rcases hcomm j tj hj hc with ⟨tj₀, hj₀, hc₀⟩ | ⟨-, -, hs⟩
      exacts [hmono (h.committed_active j tj₀ hj₀ hc₀), hs]
    · rcases hcomm j₁ t₁ h₁ hc₁ with ⟨u₁, g₁, gc₁⟩ | ⟨rfl, hidle, -⟩ <;>
        rcases hcomm j₂ t₂ h₂ hc₂ with ⟨u₂, g₂, gc₂⟩ | ⟨rfl, hidle', -⟩
      · exact h.committed_unique j₁ j₂ u₁ u₂ g₁ g₂ gc₁ gc₂
      · simpa [hidle'] using h.committed_active j₁ u₁ g₁ gc₁
      · simpa [hidle] using h.committed_active j₂ u₂ g₂ gc₂
      · rfl
    · rw [hthreads] at hj
      split_ifs at hj with hji
      · obtain rfl := Option.some_inj.1 hj
        exact Thread.advance_accepted he hacc (h.accepted i t ht hacc)
      · exact (h.accepted j tj hj hacc).imp_right (Or.imp_right hmono)

/-- Every action of a run of `/prepare-upload` requests keeps `RaceInv`. -/
theorem RaceInv.step {σ : System} (h : RaceInv cfg σ) (a : Action)
    (ha : ∀ (e : Endpoint) (r : Request), a = .request e r → e = .prepareUpload) :
    RaceInv cfg (LocalGo.step cfg σ a) := by
  cases a with
  | request e r => obtain rfl := ha e r rfl; exact h.request r
  | advance i o => exact h.advance i o

theorem raceInv_init : RaceInv cfg .init := by
  constructor <;> simp [System.init]

theorem raceInv_run (as : List Action) (h : PrepareUploadsOnly as) :
    RaceInv cfg (run cfg .init as) := by
  induction as using List.reverseRecOn with
  | nil => exact raceInv_init
  | append_singleton as a ih =>
    rw [run_append_singleton]
    exact (ih fun e r he => h e r (List.mem_append_left _ he)).step a
      fun e r ha => h e r (by simp [ha])

end Race

/-- Two `/prepare-upload` requests against an idle receiver, both past their first
`GetSession()` before either calls `CreateSession`. -/
def concurrentPrepareUploads : List Action :=
  [.request .prepareUpload (prepareUploadRequest (AList.singleton "f1" sampleFile)),
    .request .prepareUpload (prepareUploadRequest (AList.singleton "f2" sampleFile)),
    .advance 0 sampleOracle, .advance 1 sampleOracle, .advance 0 sampleOracle,
    .advance 1 sampleOracle, .advance 0 sampleOracle]

/-- Draws `uuidC` for a session. -/
def secondOracle : Oracle := ⟨uuidC, fun _ => uuidB, uuidA, true⟩

/-- Two `/prepare-upload` requests against an idle receiver, both past their first
`GetSession()` before either calls `CreateSession`; the first is answered, and an `/upload` of its
one file closes its session before the second calls `CreateSession`. -/
def uploadBetweenCreates : List Action :=
  [.request .prepareUpload (prepareUploadRequest (AList.singleton "f1" sampleFile)),
    .request .prepareUpload (prepareUploadRequest (AList.singleton "f2" sampleFile)),
    .advance 0 sampleOracle, .advance 1 sampleOracle, .advance 0 sampleOracle,
    .advance 0 sampleOracle,
    .request .upload (uploadRequest uuidA.text "f1" uuidB.text),
    .advance 2 sampleOracle, .advance 2 sampleOracle, .advance 2 sampleOracle,
    .advance 2 sampleOracle,
    .advance 1 secondOracle, .advance 1 secondOracle]

end LocalGo
