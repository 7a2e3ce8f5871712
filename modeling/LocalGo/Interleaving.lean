import LocalGo.Sequential

/-!
# Concurrent requests

The server runs every request on its own goroutine. A `System` is the shared state together
with every handler started so far; an `Action` either starts a handler for a new request or lets
one handler take its next step (`Thread.advance`). Any order of these actions is a run, so
`run` and `Reachable` cover every sequence of requests and every interleaving of their
handlers.

* `Thread.advance_receive`, `Thread.advance_sink`: everything one handler step can do to the
  receive service and to the file sink; `threads_step`: what one action does to a handler.
* `run_entered`: a handler that has some property no fresh handler has took, at an earlier
  action of the run, the step that gave it that property.
* `run_receive_le`: a run only adds session objects; it never changes an existing one's session
  ID or sender, and only removes its files.
* `send_isSome_run`: no run ever clears an active send session.
-/

namespace LocalGo

/-- The shared state and every handler goroutine started so far, in order of arrival. -/
structure System where
  server : Server
  threads : List Thread

/-- The system before the first request. -/
def System.init : System := ⟨.empty, []⟩

/-- What happens next: a request arrives and its handler starts, or a running handler takes one
step with the environment's choices `oracle`. -/
inductive Action where
  | request (endpoint : Endpoint) (req : Request)
  | advance (thread : Nat) (oracle : Oracle)

/-- One action. An index that names no handler does nothing. -/
def step (cfg : Config) (σ : System) : Action → System
  | .request endpoint req => { σ with threads := σ.threads ++ [⟨endpoint, req, .start⟩] }
  | .advance i o =>
    match σ.threads[i]? with
    | some t =>
      let next := t.advance cfg σ.server o
      ⟨next.1, σ.threads.set i { t with pc := next.2 }⟩
    | none => σ

/-- The actions, in order. -/
def run (cfg : Config) (σ : System) (as : List Action) : System := as.foldl (step cfg) σ

/-- The systems some run reaches from `System.init`. -/
inductive Reachable (cfg : Config) : System → Prop
  | init : Reachable cfg .init
  | step {σ : System} (a : Action) : Reachable cfg σ → Reachable cfg (step cfg σ a)

section Receive

variable (cfg : Config) (srv : Server) (t : Thread) (o : Oracle)

/-- What one handler step does to the receive service: nothing, `CreateSession` from the idle
state by a `/prepare-upload` at `create`, `RemoveFileFromSession` by an `/upload` at `remove`, or
`CloseSession` by a `/cancel` at `close`. -/
theorem Thread.advance_receive :
    (t.advance cfg srv o).1.receive = srv.receive ∨
    (∃ requestDto, t.endpoint = .prepareUpload ∧ t.pc = .create requestDto ∧
      srv.receive.currentSession = none ∧
      (t.advance cfg srv o).1.receive = ⟨srv.receive.heap ++ [⟨o.sessionId.text,
        PrepareUpload.sender t.req requestDto,
        ReceiveService.sessionFiles requestDto.files fun k => (o.token k).text⟩],
        some srv.receive.heap.length⟩ ∧
      (t.advance cfg srv o).2 = .respond srv.receive.heap.length) ∨
    (t.endpoint = .upload ∧ t.pc = .remove ∧ (t.advance cfg srv o).1.receive =
      srv.receive.removeFileFromSession (t.req.get "sessionId") (t.req.get "fileId")) ∨
    (t.endpoint = .cancel ∧ t.pc = .close ∧
      (t.advance cfg srv o).1.receive = srv.receive.closeSession) := by
  rcases t with ⟨e, r, pc⟩
  cases e <;> cases pc <;> simp only [Thread.advance, true_or]
  · rename_i requestDto
    unfold PrepareUpload.create
    split
    · exact .inl rfl
    · rename_i p receive hc
      obtain ⟨hidle, rfl, rfl⟩ := ReceiveService.createSession_eq_ok_iff.1 hc
      exact .inr (.inl ⟨requestDto, trivial, rfl, hidle, rfl, rfl⟩)
  · exact .inl rfl
  · exact .inr (.inr (.inl ⟨trivial, trivial, rfl⟩))
  · exact .inr (.inr (.inr ⟨trivial, trivial, rfl⟩))
  · unfold Download.prepareDownload
    split
    · exact .inl rfl
    · split <;> exact .inl rfl

/-- A handler step only moves the receive service forward in `ReceiveService.Le`. -/
theorem Thread.advance_receive_le : srv.receive.Le (t.advance cfg srv o).1.receive := by
  rcases Thread.advance_receive cfg srv t o with
    h | ⟨_, -, -, -, h, -⟩ | ⟨-, -, h⟩ | ⟨-, -, h⟩
  · rw [h]
  · rw [h]; exact ReceiveService.le_append _ _ _
  · rw [h]; exact ReceiveService.le_removeFileFromSession _ _ _
  · rw [h]; exact ReceiveService.le_closeSession _

/-- A session is active after a step only if it was active before, or the step created it. -/
theorem Thread.currentSession_advance {p : Nat}
    (h : (t.advance cfg srv o).1.receive.currentSession = some p) :
    srv.receive.currentSession = some p ∨
      (∃ requestDto, t.endpoint = .prepareUpload ∧ t.pc = .create requestDto ∧
        srv.receive.currentSession = none ∧ p = srv.receive.heap.length ∧
        (t.advance cfg srv o).1.receive = ⟨srv.receive.heap ++ [⟨o.sessionId.text,
          PrepareUpload.sender t.req requestDto,
          ReceiveService.sessionFiles requestDto.files fun k => (o.token k).text⟩],
          some srv.receive.heap.length⟩ ∧
        (t.advance cfg srv o).2 = .respond srv.receive.heap.length) := by
  rcases Thread.advance_receive cfg srv t o with
    hr | ⟨d, he, hpc, hidle, hr, hpc'⟩ | ⟨-, -, hr⟩ | ⟨-, -, hr⟩ <;> rw [hr] at h
  · exact .inl h
  · exact .inr ⟨d, he, hpc, hidle, (Option.some_inj.1 h).symm, hr, hpc'⟩
  · exact .inl (ReceiveService.currentSession_of_removeFileFromSession h)
  · simp [ReceiveService.closeSession] at h

/-- What one handler step does to the storage sink: nothing, or an `/upload` at `save` writes its
request body to the file it named. -/
theorem Thread.advance_sink :
    (t.advance cfg srv o).1.sink = srv.sink ∨
      ∃ p fileInfo, t.endpoint = .upload ∧ t.pc = .save p fileInfo ∧
        (t.advance cfg srv o).1.sink =
          srv.sink ++ [⟨Upload.destinationPath cfg fileInfo, t.req.body⟩] := by
  rcases t with ⟨e, r, pc⟩
  cases e <;> cases pc <;> simp only [Thread.advance, true_or]
  · unfold PrepareUpload.create
    split <;> exact .inl rfl
  · exact .inr ⟨_, _, trivial, rfl, rfl⟩
  · exact .inl rfl
  · exact .inl rfl
  · unfold Download.prepareDownload
    split
    · exact .inl rfl
    · split <;> exact .inl rfl

end Receive

section Runs

variable {cfg : Config}

@[simp]
theorem run_nil (σ : System) : run cfg σ [] = σ := rfl

@[simp]
theorem run_append_singleton (σ : System) (as : List Action) (a : Action) :
    run cfg σ (as ++ [a]) = step cfg (run cfg σ as) a := by
  simp [run, List.foldl_append]

theorem run_take_succ (σ : System) (as : List Action) {k : Nat} (hk : k < as.length) :
    run cfg σ (as.take (k + 1)) = step cfg (run cfg σ (as.take k)) as[k] := by
  rw [List.take_succ, List.getElem?_eq_getElem hk, Option.toList_some, run_append_singleton]

theorem Reachable.run {σ : System} (h : Reachable cfg σ) (as : List Action) :
    Reachable cfg (LocalGo.run cfg σ as) := by
  induction as using List.reverseRecOn with
  | nil => exact h
  | append_singleton as a ih => rw [run_append_singleton]; exact ih.step a

theorem reachable_run (as : List Action) : Reachable cfg (run cfg .init as) :=
  Reachable.init.run as

/-- The step of handler `i` from its pointer `t`. -/
theorem step_advance_of_getElem? {σ : System} {i : Nat} {o : Oracle} {t : Thread}
    (ht : σ.threads[i]? = some t) :
    step cfg σ (.advance i o) =
      ⟨(t.advance cfg σ.server o).1,
        σ.threads.set i { t with pc := (t.advance cfg σ.server o).2 }⟩ := by
  simp [step, ht]

/-- Every action, as a change of the shared state: a handler's step, or nothing. -/
theorem step_server (σ : System) (a : Action) :
    (step cfg σ a).server = σ.server ∨
      ∃ (i : Nat) (o : Oracle) (t : Thread), σ.threads[i]? = some t ∧
        (step cfg σ a).server = (t.advance cfg σ.server o).1 := by
  cases a with
  | request e r => exact .inl rfl
  | advance i o =>
    cases ht : σ.threads[i]? with
    | none => simp [step, ht]
    | some t => exact .inr ⟨i, o, t, ht, by simp [step, ht]⟩

theorem step_receive_le (σ : System) (a : Action) :
    σ.server.receive.Le (step cfg σ a).server.receive := by
  rcases step_server σ a with h | ⟨i, o, t, -, h⟩
  · rw [h]
  · rw [h]; exact Thread.advance_receive_le cfg _ t o

/-- Along a run, the receive service only moves forward. -/
theorem run_receive_le (σ : System) (as : List Action) {j k : Nat} (hjk : j ≤ k) :
    (run cfg σ (as.take j)).server.receive.Le (run cfg σ (as.take k)).server.receive := by
  induction k, hjk using Nat.le_induction with
  | base => exact ReceiveService.Le.refl _
  | succ k _ ih =>
    refine ih.trans ?_
    rcases lt_or_le k as.length with hk | hk
    · rw [run_take_succ σ as hk]; exact step_receive_le _ _
    · rw [List.take_of_length_le hk, List.take_of_length_le (by omega)]

/-- Handler `j` after handler `i`'s step. -/
theorem threads_step_advance (cfg : Config) {σ : System} {i : Nat} (o : Oracle) {t : Thread}
    (ht : σ.threads[i]? = some t) (j : Nat) :
    (step cfg σ (.advance i o)).threads[j]? =
      if j = i then some { t with pc := (t.advance cfg σ.server o).2 } else σ.threads[j]? := by
  rw [step_advance_of_getElem? ht]
  split_ifs with hji
  · subst hji; exact List.getElem?_set_self (List.getElem?_eq_some_iff.1 ht).1
  · exact List.getElem?_set_ne (Ne.symm hji)

/-- Handler `j` after any action: the handler it was, the handler after its own step, or the
handler the action started. -/
theorem threads_step {σ : System} {a : Action} {j : Nat} {t' : Thread}
    (h : (step cfg σ a).threads[j]? = some t') :
    σ.threads[j]? = some t' ∨
      (∃ (o : Oracle) (t : Thread), a = .advance j o ∧ σ.threads[j]? = some t ∧
        t' = { t with pc := (t.advance cfg σ.server o).2 }) ∨
      (σ.threads[j]? = none ∧ a = .request t'.endpoint t'.req ∧ t'.pc = .start) := by
  cases a with
  | request e r =>
    rcases lt_or_le j σ.threads.length with hlt | hle
    · exact .inl (by simpa [step, List.getElem?_append_left hlt] using h)
    · simp only [step, List.getElem?_append_right hle] at h
      obtain ⟨_, rfl⟩ := List.getElem?_eq_some_iff.1 h
      exact .inr (.inr ⟨List.getElem?_eq_none hle, by simp, by simp⟩)
  | advance i o =>
    cases ht : σ.threads[i]? with
    | none => simp only [step, ht] at h; exact .inl h
    | some t =>
      rw [threads_step_advance cfg o ht] at h
      split_ifs at h with hji
      · subst hji
        exact .inr (.inl ⟨o, t, rfl, ht, (Option.some_inj.1 h).symm⟩)
      · exact .inl h

/-- A handler in `P` at step `k` of a run from `System.init` got there by one of its own steps
`j < k`, from outside `P`, when no handler starts in `P`. -/
theorem run_entered (P : Thread → Prop) (hstart : ∀ t : Thread, t.pc = .start → ¬P t)
    (as : List Action) {i k : Nat} {t : Thread}
    (hk : (run cfg .init (as.take k)).threads[i]? = some t) (hP : P t) :
    ∃ j < k, ∃ (o : Oracle) (t₀ : Thread), as[j]? = some (.advance i o) ∧
      (run cfg .init (as.take j)).threads[i]? = some t₀ ∧ ¬P t₀ ∧
      P { t₀ with pc := (t₀.advance cfg (run cfg .init (as.take j)).server o).2 } := by
  induction k generalizing t with
  | zero => simp [System.init] at hk
  | succ k ih =>
    rcases lt_or_le k as.length with hlt | hle
    · rw [run_take_succ _ _ hlt] at hk
      rcases threads_step hk with hk | ⟨o, t₀, ha, h₀, rfl⟩ | ⟨-, -, hpc⟩
      · obtain ⟨j, hj, rest⟩ := ih hk hP
        exact ⟨j, by omega, rest⟩
      · by_cases hP₀ : P t₀
        · obtain ⟨j, hj, rest⟩ := ih h₀ hP₀
          exact ⟨j, by omega, rest⟩
        · exact ⟨k, by omega, o, t₀, by rw [List.getElem?_eq_getElem hlt, ha], h₀, hP₀,
            hP⟩
      · exact absurd hP (hstart t hpc)
    · rw [List.take_of_length_le (by omega), ← List.take_of_length_le hle] at hk
      obtain ⟨j, hj, rest⟩ := ih hk hP
      exact ⟨j, by omega, rest⟩

/-- A handler found past its start at `pc` was moved there by one of its own earlier steps. -/
theorem run_entered_pc (as : List Action) {i k : Nat} {e : Endpoint} {r : Request} {pc : Pc}
    (hpc : pc ≠ .start) (hk : (run cfg .init (as.take k)).threads[i]? = some ⟨e, r, pc⟩) :
    ∃ j < k, ∃ (o : Oracle) (pc₀ : Pc), as[j]? = some (.advance i o) ∧
      (run cfg .init (as.take j)).threads[i]? = some ⟨e, r, pc₀⟩ ∧
      (Thread.advance cfg (run cfg .init (as.take j)).server ⟨e, r, pc₀⟩ o).2 = pc := by
  obtain ⟨j, hj, o, ⟨e₀, r₀, pc₀⟩, ha, ht, -, heq⟩ :=
    run_entered (fun t => t = ⟨e, r, pc⟩) (by rintro t h rfl; exact hpc h) as hk rfl
  simp only [Thread.mk.injEq] at heq
  obtain ⟨rfl, rfl, heq⟩ := heq
  exact ⟨j, hj, o, pc₀, ha, ht, heq⟩

/-- What one action does to the storage sink: nothing, or an `/upload` handler at `save` writes
its request body. -/
theorem step_sink (σ : System) (a : Action) :
    (step cfg σ a).server.sink = σ.server.sink ∨
      ∃ (i : Nat) (o : Oracle) (r : Request) (p : Nat) (fileInfo : ActiveFile),
        a = .advance i o ∧ σ.threads[i]? = some ⟨.upload, r, .save p fileInfo⟩ ∧
        (step cfg σ a).server.sink =
          σ.server.sink ++ [⟨Upload.destinationPath cfg fileInfo, r.body⟩] := by
  cases a with
  | request e r => exact .inl rfl
  | advance i o =>
    cases ht : σ.threads[i]? with
    | none => simp [step, ht]
    | some t =>
      rw [step_advance_of_getElem? ht]
      rcases Thread.advance_sink cfg σ.server t o with h | ⟨p, fileInfo, he, hpc, h⟩
      · exact .inl h
      · rcases t with ⟨e, r, pc⟩
        dsimp only at he hpc; subst he hpc
        exact .inr ⟨i, o, r, p, fileInfo, rfl, ht, h⟩

end Runs

/-- No run clears an active send session: `SendService.CloseSession` has no caller. -/
theorem send_isSome_run (cfg : Config) (σ : System) (as : List Action)
    (h : σ.server.send.currentSession.isSome) :
    (run cfg σ as).server.send.currentSession.isSome := by
  induction as using List.reverseRecOn with
  | nil => exact h
  | append_singleton as a ih =>
    rw [run_append_singleton]
    rcases step_server (run cfg σ as) a with heq | ⟨i, o, t, -, heq⟩
    · rwa [heq]
    · rw [heq]; exact Thread.advance_send_isSome cfg o _ t ih

end LocalGo
