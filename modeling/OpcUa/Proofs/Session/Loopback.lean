import OpcUa.Proofs.Session.Outline

/-!
What the loopback transport does with one request: when it is submitted, and when a pass comes to
it.
-/

namespace OpcUa.Client.Loopback

variable {l l' : Loopback} {s : Service} {body : Option AnyRequest} {r : Receiver}

/-! ### Submitting -/

theorem submit_ok {id : UInt32} (h : l.submit s body r = (.ok id, l')) :
    id = l.nextRequestId ∧
      l' = { l with queue := l.queue ++ [⟨id, s, body, r⟩], nextRequestId := nextId id } := by
  unfold submit at h
  split at h
  · cases h
  · split at h
    · cases h
    · split at h
      · cases h
      · cases h
        exact ⟨rfl, rfl⟩

/-- A rejection uses up the status that was set for it, and changes nothing else. -/
theorem submit_error {status : StatusCode} (h : l.submit s body r = (.error status, l')) :
    l' = { l with failNext := none } := by
  unfold submit at h
  split at h
  · cases h
    rfl
  next none =>
    have same : l = { l with failNext := Option.none } := by rw [← none]
    split at h
    · cases h
      exact same
    · split at h
      · cases h
        exact same
      · cases h

/-! ### Answering -/

/-- A request is answered with what the address space makes of it, or it gets nothing and changes
nothing there. -/
theorem answer_cases {now : Timestamp} {q : Queued} {response : Option AnyResponse}
    {os : List Occurrence} (h : l.answer now q = (response, os, l')) :
    (response = none ∧ ∃ drop, l' = { l with dropNext := drop }) ∨
      ∃ (request : Request q.service) (given : Response q.service) (space : AddressSpace),
        q.body = some ⟨q.service, request⟩ ∧ l.space.serve now request = (given, space) ∧
        response = some ⟨q.service, given⟩ ∧ l' = { l with space := space } := by
  obtain ⟨id, service, body, receiver⟩ := q
  unfold answer at h
  split at h
  · cases h
    exact .inl ⟨rfl, _, rfl⟩
  · cases body with
    | none =>
      cases h
      exact .inl ⟨rfl, _, rfl⟩
    | some any =>
      obtain ⟨s, request⟩ := any
      by_cases same : s = service
      · subst same
        simp only [↓reduceIte] at h
        cases h
        exact .inr ⟨request, _, _, rfl, rfl, rfl, rfl⟩
      · simp only [same, ↓reduceIte] at h
        cases h
        exact .inl ⟨rfl, _, rfl⟩

/-- All that is told of answering is what was added, or that the request is of another type. -/
theorem answer_tells {now : Timestamp} {q : Queued} {response : Option AnyResponse}
    {os : List Occurrence} (h : l.answer now q = (response, os, l')) :
    ∀ o ∈ os, (∃ id, o = .nodeAdded id) ∨ ∃ service, o = .mismatched service := by
  unfold answer at h
  split at h
  · cases h
    simp
  · split at h
    · split at h
      · cases h
        intro o member
        obtain ⟨id, -, rfl⟩ := List.mem_map.mp member
        exact .inl ⟨id, rfl⟩
      · cases h
        simp
    · cases h
      simp

theorem answer_plain {now : Timestamp} {q : Queued} {response : Option AnyResponse}
    {os : List Occurrence} (h : l.answer now q = (response, os, l')) : ∀ o ∈ os, o.isPlain := by
  intro o member
  rcases answer_tells h o member with ⟨id, rfl⟩ | ⟨service, rfl⟩
  · rfl
  · rfl

/-- Answering leaves the queue, the numbering and the connection alone. -/
theorem answer_keeps {now : Timestamp} {q : Queued} {response : Option AnyResponse}
    {os : List Occurrence} (h : l.answer now q = (response, os, l')) :
    l'.queue = l.queue ∧ l'.nextRequestId = l.nextRequestId ∧ l'.isConnected = l.isConnected := by
  rcases answer_cases h with ⟨-, drop, rfl⟩ | ⟨request, given, space, -, -, -, rfl⟩
  · exact ⟨rfl, rfl, rfl⟩
  · exact ⟨rfl, rfl, rfl⟩

end OpcUa.Client.Loopback
