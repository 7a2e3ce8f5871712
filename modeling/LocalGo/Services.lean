import LocalGo.Model

/-!
# The session managers

`services.ReceiveService` and `services.SendService` (`pkg/server/services/send_service.go`).
Each method runs under the service's mutex, so each is one atomic function here.

A receive session is a heap object: `CreateSession` returns a pointer that the handler keeps,
`RemoveFileFromSession` deletes from that object's `Files` map in place, and `CloseSession` only
drops the service's pointer. `ReceiveService.heap` holds every session object ever allocated, at
its address; pointers are indices into it. A send session is never written after it is built,
so `SendService` holds it by value.

* `ReceiveService.createSession` fails unless no session is active, and otherwise allocates a
  session whose files are the request's files, each with the token the caller's UUID source
  gives it (`createSession_eq_ok_iff`).
* `ReceiveService.getSessionByID` returns the active session only when its ID matches
  (`getSessionByID_eq_some_iff`).
* `ReceiveService.removeFileFromSession` re-checks the session ID, deletes one file, and clears
  the session when its map becomes empty; it only ever shrinks the maps of the heap
  (`files_removeFileFromSession_sub`).
-/

namespace LocalGo

/-- `services.ActiveFile`: one pending file of a receive session. -/
structure ActiveFile where
  /-- `Dto`, the metadata the sender declared. -/
  dto : FileDto
  /-- `Token`, the per-file secret an `/upload` must present. -/
  token : String
  deriving DecidableEq, Repr

/-- `services.ActiveReceiveSession`. -/
structure ActiveReceiveSession where
  sessionId : String
  /-- `Sender`, whose `IP` every `/upload` of the session must come from. -/
  sender : DeviceInfo
  /-- `Files`: the files still pending, keyed by file ID. -/
  files : GoMap ActiveFile
  deriving DecidableEq

instance : Inhabited ActiveReceiveSession :=
  ⟨⟨"", ⟨"", "", none, "", "", ""⟩, ∅⟩⟩

/-- `services.ActiveSendSession`. -/
structure ActiveSendSession where
  sessionId : String
  files : GoMap FileDto
  deriving DecidableEq

/-- `services.ReceiveService` with the session objects it has allocated: `heap` holds them at
their addresses and `currentSession` is the service's pointer. -/
structure ReceiveService where
  heap : List ActiveReceiveSession
  currentSession : Option Nat
  deriving DecidableEq

/-- `services.SendService`. -/
structure SendService where
  currentSession : Option ActiveSendSession
  deriving DecidableEq

namespace ReceiveService

/-- `services.NewReceiveService()`. -/
def empty : ReceiveService := ⟨[], none⟩

/-- The session object at address `p`. -/
def deref (s : ReceiveService) (p : Nat) : ActiveReceiveSession := s.heap.getD p default

/-- The session files `CreateSession` builds: each file of the request with its token. -/
def sessionFiles (files : GoMap FileDto) (token : String → String) : GoMap ActiveFile :=
  files.mapVal fun fileId fileDto => ⟨fileDto, token fileId⟩

/-- `ReceiveService.CreateSession(sender, files)`. `sessionId` and `token fileId` are the values
`uuid.NewString()` returns for the session and for each file. -/
def createSession (s : ReceiveService) (sender : DeviceInfo) (files : GoMap FileDto)
    (sessionId : String) (token : String → String) : Except String (Nat × ReceiveService) :=
  if s.currentSession.isSome then .error "session already active"
  else
    .ok (s.heap.length,
      ⟨s.heap ++ [⟨sessionId, sender, sessionFiles files token⟩], some s.heap.length⟩)

/-- `ReceiveService.GetSession()`. -/
def getSession (s : ReceiveService) : Option Nat := s.currentSession

/-- `ReceiveService.GetSessionByID(sessionID)`. -/
def getSessionByID (s : ReceiveService) (sessionID : String) : Option Nat :=
  match s.currentSession with
  | some p => if (s.deref p).sessionId = sessionID then some p else none
  | none => none

/-- `ReceiveService.CloseSession()`. -/
def closeSession (s : ReceiveService) : ReceiveService := { s with currentSession := none }

/-- The session object with one file deleted from its map. -/
def eraseFile (a : ActiveReceiveSession) (fileID : String) : ActiveReceiveSession :=
  { a with files := a.files.erase fileID }

/-- `ReceiveService.RemoveFileFromSession(sessionID, fileID)`: `delete` on the active session's
map in place, then clear the session if the map is empty. -/
def removeFileFromSession (s : ReceiveService) (sessionID fileID : String) : ReceiveService :=
  match s.currentSession with
  | some p =>
    if (s.deref p).sessionId = sessionID then
      if GoMap.len ((eraseFile (s.deref p) fileID).files) = 0 then
        ⟨s.heap.set p (eraseFile (s.deref p) fileID), none⟩
      else ⟨s.heap.set p (eraseFile (s.deref p) fileID), some p⟩
    else s
  | none => s

@[simp]
theorem lookup_sessionFiles (files : GoMap FileDto) (token : String → String) (k : String) :
    (sessionFiles files token).lookup k = (files.lookup k).map fun d => ⟨d, token k⟩ := by
  simp [sessionFiles]

theorem createSession_eq_ok_iff {s s' : ReceiveService} {sender : DeviceInfo}
    {files : GoMap FileDto} {sessionId : String} {token : String → String} {p : Nat} :
    s.createSession sender files sessionId token = .ok (p, s') ↔
      s.currentSession = none ∧ p = s.heap.length ∧
        s' = ⟨s.heap ++ [⟨sessionId, sender, sessionFiles files token⟩], some p⟩ := by
  unfold createSession
  cases s.currentSession with
  | some _ => simp
  | none =>
    simp only [Option.isSome_none, Bool.false_eq_true, ↓reduceIte, Except.ok.injEq,
      Prod.mk.injEq, true_and]
    constructor
    · rintro ⟨rfl, rfl⟩; exact ⟨rfl, rfl⟩
    · rintro ⟨rfl, rfl⟩; exact ⟨rfl, rfl⟩

theorem getSessionByID_eq_some_iff {s : ReceiveService} {sessionID : String} {p : Nat} :
    s.getSessionByID sessionID = some p ↔
      s.currentSession = some p ∧ (s.deref p).sessionId = sessionID := by
  unfold getSessionByID
  cases s.currentSession with
  | none => simp
  | some q =>
    by_cases hq : (s.deref q).sessionId = sessionID
    · simp only [hq, ↓reduceIte, Option.some.injEq]
      exact ⟨fun h => h ▸ ⟨rfl, hq⟩, fun h => h.1⟩
    · simp only [hq, ↓reduceIte, reduceCtorEq, Option.some.injEq, false_iff, not_and]
      rintro rfl; exact hq

/-- The objects at addresses below the heap's length stay where they are when one is
appended. -/
theorem deref_append {heap : List ActiveReceiveSession} {a : ActiveReceiveSession} {p : Nat}
    {cur : Option Nat} (hp : p < heap.length) :
    (⟨heap ++ [a], cur⟩ : ReceiveService).deref p =
      (⟨heap, cur⟩ : ReceiveService).deref p := by
  simp [deref, List.getD_eq_getElem?_getD, List.getElem?_append_left hp]

@[simp]
theorem deref_append_length {heap : List ActiveReceiveSession} {a : ActiveReceiveSession}
    {cur : Option Nat} : (⟨heap ++ [a], cur⟩ : ReceiveService).deref heap.length = a := by
  simp [deref, List.getD_eq_getElem?_getD]

/-- Dereferencing reads the heap only. -/
@[simp]
theorem deref_mk (s : ReceiveService) (cur : Option Nat) (p : Nat) :
    (⟨s.heap, cur⟩ : ReceiveService).deref p = s.deref p := rfl

@[simp]
theorem deref_set_self {heap : List ActiveReceiveSession} {p : Nat} {a : ActiveReceiveSession}
    {cur : Option Nat} (hp : p < heap.length) :
    (⟨heap.set p a, cur⟩ : ReceiveService).deref p = a := by
  simp [deref, List.getD_eq_getElem?_getD, hp]

theorem deref_set_ne {heap : List ActiveReceiveSession} {p q : Nat} {a : ActiveReceiveSession}
    {cur : Option Nat} (h : q ≠ p) :
    (⟨heap.set p a, cur⟩ : ReceiveService).deref q =
      (⟨heap, cur⟩ : ReceiveService).deref q := by
  simp [deref, List.getD_eq_getElem?_getD, Ne.symm h]

/-- `RemoveFileFromSession` is `GetSessionByID` followed by the deletion and the emptiness
check on the session it returns. -/
theorem removeFileFromSession_eq (s : ReceiveService) (sessionID fileID : String) :
    s.removeFileFromSession sessionID fileID =
      match s.getSessionByID sessionID with
      | some p => ⟨s.heap.set p (eraseFile (s.deref p) fileID),
          if GoMap.len (eraseFile (s.deref p) fileID).files = 0 then none else some p⟩
      | none => s := by
  unfold removeFileFromSession getSessionByID
  cases s.currentSession with
  | none => rfl
  | some p => by_cases hp : (s.deref p).sessionId = sessionID <;> simp [hp]; split <;> rfl

/-- `RemoveFileFromSession` leaves the heap's length alone. -/
@[simp]
theorem heap_length_removeFileFromSession (s : ReceiveService) (sessionID fileID : String) :
    (s.removeFileFromSession sessionID fileID).heap.length = s.heap.length := by
  rw [removeFileFromSession_eq]
  split <;> simp

/-- `RemoveFileFromSession` touches no session object but the one `GetSessionByID` returns, and
that one only loses the file. -/
theorem deref_removeFileFromSession (s : ReceiveService) (sessionID fileID : String) {q : Nat}
    (hq : q < s.heap.length) :
    (s.removeFileFromSession sessionID fileID).deref q =
      if s.getSessionByID sessionID = some q then eraseFile (s.deref q) fileID
      else s.deref q := by
  rw [removeFileFromSession_eq]
  split
  · rename_i p hp
    by_cases hqp : q = p
    · subst hqp; simp [hp, hq]
    · simp [deref_set_ne hqp, hp, Ne.symm hqp]
  · rename_i hp
    simp [hp]

/-- `RemoveFileFromSession` never makes a session active. -/
theorem currentSession_of_removeFileFromSession {s : ReceiveService} {sessionID fileID : String}
    {p : Nat} (h : (s.removeFileFromSession sessionID fileID).currentSession = some p) :
    s.currentSession = some p := by
  rw [removeFileFromSession_eq] at h
  split at h
  · rename_i q hq
    have hqp : q = p := by simp only at h; split at h <;> simp_all
    exact hqp ▸ (getSessionByID_eq_some_iff.1 hq).1
  · exact h

/-- `RemoveFileFromSession` leaves the session active only while it has a file. -/
theorem len_ne_zero_of_removeFileFromSession {s : ReceiveService} {sessionID fileID : String}
    {p : Nat} (h : (s.removeFileFromSession sessionID fileID).currentSession = some p)
    (hp : p < s.heap.length) (hne : (s.deref p).files.len ≠ 0) :
    ((s.removeFileFromSession sessionID fileID).deref p).files.len ≠ 0 := by
  rw [removeFileFromSession_eq] at h ⊢
  cases hq : s.getSessionByID sessionID with
  | none => simpa [hq] using hne
  | some q =>
    simp only [hq] at h ⊢
    split at h
    · exact absurd h (by simp)
    · rename_i hlen
      obtain rfl : q = p := by simpa using h
      simpa [hp] using hlen

/-- `s₂` is a later state of the receive service `s₁`: no object has gone, and every object
keeps its ID and sender and has at most lost files. -/
structure Le (s₁ s₂ : ReceiveService) : Prop where
  length_le : s₁.heap.length ≤ s₂.heap.length
  sessionId_eq : ∀ p < s₁.heap.length, (s₂.deref p).sessionId = (s₁.deref p).sessionId
  sender_eq : ∀ p < s₁.heap.length, (s₂.deref p).sender = (s₁.deref p).sender
  files_sub : ∀ p < s₁.heap.length, GoMap.Sub (s₂.deref p).files (s₁.deref p).files

@[refl]
theorem Le.refl (s : ReceiveService) : s.Le s :=
  ⟨le_rfl, fun _ _ => rfl, fun _ _ => rfl, fun _ _ => GoMap.Sub.refl _⟩

@[trans]
theorem Le.trans {s₁ s₂ s₃ : ReceiveService} (h₁ : s₁.Le s₂) (h₂ : s₂.Le s₃) :
    s₁.Le s₃ :=
  ⟨h₁.length_le.trans h₂.length_le,
    fun p hp => (h₂.sessionId_eq p (hp.trans_le h₁.length_le)).trans (h₁.sessionId_eq p hp),
    fun p hp => (h₂.sender_eq p (hp.trans_le h₁.length_le)).trans (h₁.sender_eq p hp),
    fun p hp => (h₂.files_sub p (hp.trans_le h₁.length_le)).trans (h₁.files_sub p hp)⟩

/-- Allocating a session object leaves the others as they were. -/
theorem le_append (s : ReceiveService) (a : ActiveReceiveSession) (cur : Option Nat) :
    s.Le ⟨s.heap ++ [a], cur⟩ := by
  refine ⟨by simp, fun p hp => ?_, fun p hp => ?_, fun p hp => ?_⟩ <;>
    rw [deref_append hp, deref_mk]

theorem le_closeSession (s : ReceiveService) : s.Le s.closeSession :=
  ⟨le_rfl, fun _ _ => rfl, fun _ _ => rfl, fun _ _ => GoMap.Sub.refl _⟩

theorem le_removeFileFromSession (s : ReceiveService) (sessionID fileID : String) :
    s.Le (s.removeFileFromSession sessionID fileID) := by
  refine ⟨by simp, fun p hp => ?_, fun p hp => ?_, fun p hp => ?_⟩ <;>
    rw [deref_removeFileFromSession _ _ _ hp] <;> split <;>
    first | rfl | exact GoMap.erase_sub _ _

end ReceiveService

namespace SendService

/-- `services.NewSendService()`. -/
def empty : SendService := ⟨none⟩

/-- `SendService.CreateSession(files)`, with `sessionId` the value `uuid.NewString()` returns. -/
def createSession (s : SendService) (files : GoMap FileDto) (sessionId : String) :
    Except String (ActiveSendSession × SendService) :=
  match s.currentSession with
  | some _ => .error "session already active"
  | none => .ok (⟨sessionId, files⟩, ⟨some ⟨sessionId, files⟩⟩)

/-- `SendService.GetSessionByID(sessionID)`. -/
def getSessionByID (s : SendService) (sessionID : String) : Option ActiveSendSession :=
  match s.currentSession with
  | some cur => if cur.sessionId = sessionID then some cur else none
  | none => none

theorem createSession_eq_ok_iff {s s' : SendService} {files : GoMap FileDto}
    {sessionId : String} {a : ActiveSendSession} :
    s.createSession files sessionId = .ok (a, s') ↔
      s.currentSession = none ∧ a = ⟨sessionId, files⟩ ∧ s' = ⟨some a⟩ := by
  unfold createSession
  cases s.currentSession with
  | some _ => simp
  | none =>
    simp only [Except.ok.injEq, Prod.mk.injEq, true_and]
    constructor
    · rintro ⟨rfl, rfl⟩; exact ⟨rfl, rfl⟩
    · rintro ⟨rfl, rfl⟩; exact ⟨rfl, rfl⟩

/-- `SendService.CloseSession()`. No handler calls it. -/
def closeSession (_s : SendService) : SendService := ⟨none⟩

end SendService

end LocalGo
