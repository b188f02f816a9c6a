import OpcUa.AddressSpace.Services

/-!
Items of any services, carried out one after another. Answering a request is carrying out its items
in this way, and answering several requests is carrying out the items of all of them.
-/

namespace OpcUa.AddressSpace

/-- An item of some service, and the time at which it is carried out. -/
structure Job where
  now : Timestamp
  service : Service
  item : service.Item

/-- A result of some service. -/
abbrev AnyResult := (s : Service) × s.Result

/-- Carries out items one after another. -/
def performEach : List Job → AddressSpace → List AnyResult × AddressSpace
  | [], space => ([], space)
  | job :: rest, space =>
    let (result, space) := perform job.now job.service job.item space
    let (results, space) := performEach rest space
    (⟨job.service, result⟩ :: results, space)

theorem performEach_cons (job : Job) (rest : List Job) (space : AddressSpace) :
    performEach (job :: rest) space =
      let done := perform job.now job.service job.item space
      (⟨job.service, done.1⟩ :: (performEach rest done.2).1, (performEach rest done.2).2) := rfl

theorem performEach_append {a b : List Job} {ra rb : List AnyResult} {s t u : AddressSpace}
    (first : performEach a s = (ra, t)) (later : performEach b t = (rb, u)) :
    performEach (a ++ b) s = (ra ++ rb, u) := by
  induction a generalizing s ra with
  | nil =>
    cases first
    exact later
  | cons job rest ih =>
    rcases here : perform job.now job.service job.item s with ⟨result, s'⟩
    rcases rest' : performEach rest s' with ⟨results, s''⟩
    simp only [performEach, here, rest'] at first
    cases first
    have together := ih rest'
    simp only [List.cons_append, performEach, here, together]

variable {s : Service} {now : Timestamp}

theorem length_performAll (items : List s.Item) (space : AddressSpace) :
    (performAll now s items space).1.length = items.length := by
  induction items generalizing space with
  | nil => rfl
  | cons item rest ih => simp [performAll, ih]

theorem performEach_map (items : List s.Item) (space : AddressSpace) :
    performEach (items.map (Job.mk now s)) space =
      ((performAll now s items space).1.map (Sigma.mk s), (performAll now s items space).2) := by
  induction items generalizing space with
  | nil => rfl
  | cons item rest ih => simp [performEach, performAll, ih]

/-- An answer tells the time, echoes the handle, and holds the results of the request's items,
carried out in order. -/
theorem serve_performEach {request : Request s} {response : Response s} {space after : AddressSpace}
    (served : space.serve now request = (response, after)) :
    response.header = .answering request.header .good now ∧
      response.results.length = request.items.length ∧
      performEach (request.items.map (Job.mk response.header.timestamp s)) space =
        (response.results.map (Sigma.mk s), after) := by
  cases served
  exact ⟨rfl, length_performAll _ _, performEach_map _ _⟩

end OpcUa.AddressSpace
