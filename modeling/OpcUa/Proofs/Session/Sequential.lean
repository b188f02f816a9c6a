import OpcUa.Proofs.AddressSpace.OneByOne
import OpcUa.Proofs.Session.Queue
import OpcUa.Proofs.Session.Steps

/-!
What a session over the loopback transport does to its address space. However requests are queued,
abandoned and answered in passes, the space is what the items of the answered requests make of it,
one after another.
-/

namespace OpcUa.Client

open AddressSpace (AnyResult Job performEach performEach_append serve_performEach)

/-! ### Answers -/

/-- The request and its response, if it got one. -/
def answered? (pair : Entry × UInt32 × Option AnyResponse) : Option (AnyRequest × AnyResponse) :=
  match pair.1.body, pair.2.2 with
  | some request, some response => some (request, response)
  | _, _ => none

/-- The requests that got a response, with it, where callbacks come in the order of acceptance. -/
def answersOf (accepted : List Entry) (called : List (UInt32 × Option AnyResponse)) :
    List (AnyRequest × AnyResponse) :=
  (accepted.zip called).filterMap answered?

/-- The requests that got a response, with it, in order. -/
def answeredIn (os : List Occurrence) : List (AnyRequest × AnyResponse) :=
  answersOf (acceptedIn os) (calledIn os)

/-- The items of answered requests, each at the time that the response tells. -/
def jobsOf (answers : List (AnyRequest × AnyResponse)) : List Job :=
  answers.flatMap fun answer =>
    answer.1.2.items.map (Job.mk answer.2.2.header.timestamp answer.1.1)

/-- The results in responses. -/
def resultsOf (answers : List (AnyRequest × AnyResponse)) : List AnyResult :=
  answers.flatMap fun answer => answer.2.2.results.map (Sigma.mk answer.2.1)

/-- A response is one to a request: it echoes the handle and has one result for each item. -/
structure Fits (request : AnyRequest) (response : AnyResponse) : Prop where
  service : response.1 = request.1
  handle : response.2.header.requestHandle = request.2.header.requestHandle
  good : response.2.header.serviceResult = .good
  size : response.2.results.length = request.2.items.length

theorem answersOf_append {a a' : List Entry} {b b' : List (UInt32 × Option AnyResponse)}
    (same : a.length = b.length) :
    answersOf (a ++ a') (b ++ b') = answersOf a b ++ answersOf a' b' := by
  unfold answersOf
  rw [List.zip_append same, List.filterMap_append]

theorem answersOf_waiting {done more : List Entry} {called : List (UInt32 × Option AnyResponse)}
    (same : done.length = called.length) :
    answersOf (done ++ more) called = answersOf done called := by
  have none : answersOf more [] = [] := by simp [answersOf]
  have split : answersOf (done ++ more) (called ++ []) = _ := answersOf_append same
  simpa [none] using split

/-! ### Execution -/

/-- What was called back is the first of what was accepted, the rest waits, and the address space is
what the answered requests have made of it, one item after another. -/
structure Executed (initial : AddressSpace) (accepted : List Entry)
    (called : List (UInt32 × Option AnyResponse)) (waiting : List Queued) (space : AddressSpace)
    (done : List Entry) : Prop where
  order : accepted = done ++ waiting.map Queued.entry
  ids : done.map Entry.id = called.map Prod.fst
  performed : performEach (jobsOf (answersOf done called)) initial =
    (resultsOf (answersOf done called), space)
  delivered : (answersOf done called).map Prod.snd = called.filterMap Prod.snd
  fits : ∀ answer ∈ answersOf done called, Fits answer.1 answer.2

namespace Executed

variable {initial space after : AddressSpace} {accepted done : List Entry}
  {called : List (UInt32 × Option AnyResponse)} {waiting : List Queued}

theorem length_eq (h : Executed initial accepted called waiting space done) :
    done.length = called.length := by
  simpa using congrArg List.length h.ids

theorem accept (h : Executed initial accepted called waiting space done) (queued : Queued) :
    Executed initial (accepted ++ [queued.entry]) called (waiting ++ [queued]) space done where
  order := by rw [h.order]; simp
  ids := h.ids
  performed := h.performed
  delivered := h.delivered
  fits := h.fits

/-- A callback without a response has changed nothing. -/
theorem call_none {queued : Queued}
    (h : Executed initial accepted called (queued :: waiting) space done) :
    Executed initial accepted (called ++ [(queued.id, none)]) waiting space
      (done ++ [queued.entry]) := by
  have same : answersOf (done ++ [queued.entry]) (called ++ [(queued.id, none)]) =
      answersOf done called := by
    rw [answersOf_append h.length_eq]
    simp [answersOf, answered?]
  constructor
  · rw [h.order]; simp
  · simp [h.ids, Queued.entry]
  · rw [same]; exact h.performed
  · rw [same, h.delivered]; simp
  · rw [same]; exact h.fits

/-- A response tells what the items of its request have made of the address space. -/
theorem call_some {now : Timestamp} {queued : Queued} {request : Request queued.service}
    {given : Response queued.service}
    (h : Executed initial accepted called (queued :: waiting) space done)
    (body : queued.body = some ⟨queued.service, request⟩)
    (served : space.serve now request = (given, after)) :
    Executed initial accepted (called ++ [(queued.id, some ⟨queued.service, given⟩)]) waiting after
      (done ++ [queued.entry]) := by
  obtain ⟨header, size, performed⟩ := serve_performEach served
  have same : answersOf (done ++ [queued.entry])
      (called ++ [(queued.id, some ⟨queued.service, given⟩)]) =
      answersOf done called ++ [(⟨queued.service, request⟩, ⟨queued.service, given⟩)] := by
    rw [answersOf_append h.length_eq]
    simp [answersOf, answered?, Queued.entry, body]
  constructor
  · rw [h.order]; simp
  · simp [h.ids, Queued.entry]
  · rw [same]
    have together := performEach_append h.performed performed
    simpa [jobsOf, resultsOf] using together
  · rw [same]
    simp [h.delivered]
  · rw [same]
    intro answer member
    rcases List.mem_append.mp member with old | new
    · exact h.fits answer old
    · rw [List.mem_singleton.mp new]
      refine ⟨rfl, ?_, ?_, size⟩
      · simp [header, ResponseHeader.answering]
      · simp [header, ResponseHeader.answering]

end Executed

/-! ### Runs -/

/-- A session over the loopback transport, as the queue and the address space show it. -/
structure Ordered (initial : AddressSpace) (p : Outline) (l : Loopback) : Prop where
  loopback : p.transport = .loopback l
  numbered : Numbered p.history l.nextRequestId
  passing : Passing p.history p.passes
  executed : ∃ done, Executed initial (acceptedIn p.history) (calledIn p.history) (p.waiting l)
    l.space done

/-- What was accepted was called back, or is waiting. -/
theorem Ordered.order {initial : AddressSpace} {p : Outline} {l : Loopback}
    (h : Ordered initial p l) :
    acceptedIds p.history = calledIds p.history ++ (p.waiting l).map Queued.id := by
  obtain ⟨done, executed⟩ := h.executed
  unfold acceptedIds calledIds
  rw [executed.order, List.map_append, executed.ids, List.map_map]
  rfl

theorem Ordered.move {initial : AddressSpace} {p q : Outline} {l : Loopback}
    (h : Ordered initial p l) (m : Move withoutNesting p q) : ∃ l', Ordered initial q l' := by
  obtain ⟨l', loopback, turn⟩ := m.turn h.loopback
  obtain ⟨done, executed⟩ := h.executed
  refine ⟨l', loopback, h.numbered.turn turn, h.passing.turn h.order turn, ?_⟩
  rcases turn.requests with ⟨accepted, called, waiting, -, space⟩ |
    ⟨queued, accepted, called, waiting, -, -, space⟩ |
    ⟨now, queued, response, accepted, called, waiting, -, answers⟩
  · rw [accepted, called, waiting, space]
    exact ⟨done, executed⟩
  · rw [accepted, called, waiting, space]
    exact ⟨done, executed.accept queued⟩
  · rw [waiting] at executed
    rw [accepted, called]
    rcases answers with ⟨rfl, same⟩ | ⟨request, given, body, served, rfl⟩
    · rw [same]
      exact ⟨_, executed.call_none⟩
    · exact ⟨_, executed.call_some body served⟩

theorem Ordered.run {initial : AddressSpace} {p q : Outline} {l : Loopback}
    (h : Ordered initial p l) (moves : Relation.ReflTransGen (Move withoutNesting) p q) :
    ∃ l', Ordered initial q l' := by
  induction moves with
  | refl => exact ⟨l, h⟩
  | tail _ last ih =>
    obtain ⟨k, before⟩ := ih
    exact before.move last

theorem Ordered.start (config : Config) (clocks : Clocks) (space : AddressSpace)
    (maxPending : Nat) :
    Ordered space ((State.start config (.loopback { space, maxPending }) clocks).outline [] [])
      { space, maxPending } where
  loopback := rfl
  numbered := ⟨rfl, rfl⟩
  passing := InPasses.empty.between rfl rfl
  executed := ⟨[], rfl, rfl, rfl, rfl, fun _ member => absurd member List.not_mem_nil⟩

/-! ### Between steps -/

theorem unnested_modest {os : List Occurrence} (h : Spares [.pass, .space] os) :
    Modest withoutNesting os := by
  refine h.modest fun power spared passes => ?_
  cases power with
  | pass | space => simp at spared
  | rethrow => trivial

/-- A session over the loopback transport that has served its requests one after another. -/
structure State.InSequence (initial : AddressSpace) (s : State) : Prop where
  numbered : acceptedIds s.history = (List.range (acceptedIds s.history).length).map requestIdAt
  /-- Callbacks come in the order of acceptance, and those that are still to come are queued. -/
  inOrder : acceptedIds s.history = calledIds s.history ++ s.loopback.queue.map Queued.id
  passes : InPasses s.history
  /-- The address space is what the items of the answered requests have made of it. -/
  performed : performEach (jobsOf (answeredIn s.history)) initial =
    (resultsOf (answeredIn s.history), s.loopback.space)
  /-- Every response that was delivered is one to a request that was accepted. -/
  delivered : (answeredIn s.history).map Prod.snd = (calledIn s.history).filterMap Prod.snd
  fits : ∀ answer ∈ answeredIn s.history, Fits answer.1 answer.2

theorem Ordered.inSequence {initial : AddressSpace} {s : State} {l : Loopback}
    (h : Ordered initial (s.outline [] []) l) : s.InSequence initial := by
  have found : s.loopback = l := by
    have isLoopback : s.transport = .loopback l := h.loopback
    simp [State.loopback, isLoopback]
  obtain ⟨done, executed⟩ := h.executed
  have same : answeredIn s.history = answersOf done (calledIn s.history) := by
    have order : acceptedIn s.history = _ := executed.order
    have size : done.length = (calledIn s.history).length := executed.length_eq
    unfold answeredIn
    rw [order, answersOf_waiting size]
  constructor
  · have ids : acceptedIds s.history = _ := h.numbered.1
    rw [ids]
    simp [State.outline]
  · rw [found]
    exact h.order
  · exact h.passing
  · rw [same, found]
    exact executed.performed
  · rw [same]
    exact executed.delivered
  · rw [same]
    exact executed.fits

/-- As long as handlers and transforms make no passes, and the address space is changed by requests
alone, responses come as if the items of the answered requests were carried out one by one. -/
theorem loopback_is_sequential {depth maxPending : Nat} {config : Config} {clocks : Clocks}
    {space : AddressSpace} {steps : List Step} {reports : List Report}
    (direct : ∀ step ∈ steps, .space ∉ step.needs)
    (run : play depth (.start config (.loopback { space, maxPending }) clocks) steps = some reports)
    (unnested : ∀ report ∈ reports, Spares [.pass, .space] report.after.history) :
    (∀ report ∈ reports, report.after.InSequence space) ∧
      (∀ act s l r t, s.transport = .loopback l → pump act s = some (r, t) →
        r = if l.isConnected then .ok l.queue.length else .error .disconnected) ∧
      (∀ l now q os l', Loopback.answer l now q = (none, os, l') → l'.space = l.space) ∧
      ∀ k < UInt32.size - 1, (requestIdAt k).toNat = k + 1 := by
  refine ⟨?_, fun _ _ _ _ _ => loopback_pump_result, ?_, ?_⟩
  · intro report member
    have granted : ∀ step ∈ steps, step.Granted withoutNesting [] := by
      intro step member power needed
      cases power with
      | pass => rfl
      | rethrow => trivial
      | space => exact direct step member needed
    obtain ⟨-, os, history, -, moves⟩ := playFrom_leads granted run report member
    have grown : report.after.history = _ ++ os := history
    have later : Spares [.pass, .space] os := (grown ▸ unnested report member).right
    have initial := Ordered.start config clocks space maxPending
    obtain ⟨l, ordered⟩ := initial.run (moves (unnested_modest later))
    exact ordered.inSequence
  · intro l now q os l' answered
    rcases Loopback.answer_cases answered with ⟨-, drop, rfl⟩ | ⟨_, _, _, -, -, given, -⟩
    · rfl
    · cases given
  · intro k small
    rw [toNat_requestIdAt, Nat.mod_eq_of_lt small]

/-- A handler writes within a pass, a write is dropped, and another one is abandoned. -/
theorem dropped_and_abandoned_sequential :
    ∃ reports,
      play 4
        (.start {} (.loopback
          { space := AddressSpace.empty.insertVariable .null (.numeric 1 7) "v" (.int32 0) .epoch,
            maxPending := 0 }) ⟨fun _ => .epoch, id, 0, 0⟩)
        [.call (.readValue (.numeric 1 7)) (.handler (.mk "again" false fun _ _ =>
            ([.call (.writeValue (.numeric 1 7) (.int32 1)) .detached], .done))),
          .dropNextResponse, .call (.writeValue (.numeric 1 7) (.int32 2)) .detached, .run,
          .call (.readValue (.numeric 1 7)) .sync,
          .call (.writeValue (.numeric 1 7) (.int32 3)) (.future "late"), .close, .run,
          .reopen] = some reports ∧
      ∀ report ∈ reports, report.after.InSequence
        (AddressSpace.empty.insertVariable .null (.numeric 1 7) "v" (.int32 0) .epoch) :=
  ends_well (Q := fun reports => ∀ report ∈ reports, Spares [.pass, .space] report.after.history)
    (by decide +kernel) fun _ run unnested => (loopback_is_sequential (by decide) run unnested).1

end OpcUa.Client
