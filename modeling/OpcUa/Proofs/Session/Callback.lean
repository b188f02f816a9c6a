import OpcUa.Proofs.Session.Invocation

/-!
What one callback does. The transform runs once if a response of the right type has come, the
completion is told once what the operation has come to, and what the completion fails with stays
behind in the catcher. Nothing else of either gets out.
-/

namespace OpcUa.Client

open Run

/-! ### What a callback brings about -/

/-- What a callback for one service makes of a response: one of another service counts as none. -/
inductive Fitting (service : Service) : Option AnyResponse → Option (Response service) → Prop
  | absent : Fitting service none none
  | expected (r : Response service) : Fitting service (some ⟨service, r⟩) (some r)
  | mistyped {other : Service} (r : Response other) (isOther : other ≠ service) :
      Fitting service (some ⟨other, r⟩) none

/-- What an operation comes to: the status and the payload that its completion is told. -/
inductive Adapter.Told {ρ : Type} (a : Adapter ρ) : Option ρ → StatusCode → Payload → Prop
  | absent : a.Told none .badInternalError a.fallback
  | transformed {r rest : ρ} {payload : Payload} (given : a.transform r = (.ok payload, rest)) :
      a.Told (some r) .good payload
  | coded {r rest : ρ} {code : StatusCode}
      (failed : a.transform r = (.error (.badStatus code), rest)) : a.Told (some r) code a.fallback
  | disconnected {r rest : ρ} (failed : a.transform r = (.error .disconnected, rest)) :
      a.Told (some r) .badDisconnect a.fallback
  | broken {r rest : ρ} {e : Failure} (failed : a.transform r = (.error e, rest))
      (noCode : ∀ code, e ≠ .badStatus code) (noDisconnect : e ≠ .disconnected) :
      a.Told (some r) .badInternalError a.fallback

/-- The steps that the transform takes, if it runs. -/
def Adapter.stepsFor {ρ : Type} (a : Adapter ρ) (response : Option ρ) : List Step :=
  response.elim [] a.during

/-- The second state comes from the first by notes in the journal alone. -/
def OnlyNotes (s t : State) : Prop := ∃ os, t = { s with journal := s.journal ++ os }

/-- The failure that application code ended with, if it failed. -/
def failureOf : Except Failure Unit → Option Failure
  | .ok () => none
  | .error e => some e

/-- What a catcher does with an outcome: it keeps a failure if it holds none. Nothing else changes
but the journal. -/
structure Settles (desk : Desk) (outcome : Except Failure Unit) (s t : State) : Prop where
  slot : t.held desk = (s.held desk).or (failureOf outcome)
  others : ∀ other, other ≠ desk → t.held other = s.held other
  rest : t = { s with journal := t.journal, caught := t.caught, spareCaught := t.spareCaught }

/-- A completion is told a status and a payload, once, and its outcome is left to the catcher. -/
inductive Concludes {ρ : Type} (act : Act) (a : Adapter ρ) (status : StatusCode)
    (payload : Payload) (s t : State) : Prop
  | intro {u v : State} {outcome : Except Failure Unit} (before : OnlyNotes s u)
      (told : a.completion.invoke act a.occasion status payload u = some (outcome, v))
      (after : Settles a.desk outcome v t)

/-! ### Notes -/

namespace OnlyNotes

theorem refl (s : State) : OnlyNotes s s := ⟨#[], by simp⟩

theorem trans {s t u : State} (first : OnlyNotes s t) (later : OnlyNotes t u) : OnlyNotes s u := by
  obtain ⟨os, rfl⟩ := first
  obtain ⟨os', rfl⟩ := later
  exact ⟨os ++ os', by simp⟩

theorem of_note {o : Occurrence} {s t : State} {x : Unit} (h : note o s = some (x, t)) :
    OnlyNotes s t := by
  cases h
  exact ⟨#[o], by simp⟩

theorem of_noted {on : Occasion} {c : Completion} {status : StatusCode} {payload : Payload}
    {s : State} : OnlyNotes s (on.noted c status payload s) := by
  unfold Occasion.noted
  split
  · exact of_note (o := .concluded _ c status payload) rfl
  · exact refl s

end OnlyNotes

/-! ### Concluding -/

section
variable {act : Act} {ρ : Type} {a : Adapter ρ} {status : StatusCode} {payload : Payload}
  {s t : State}

/-- A catcher that holds a failure keeps it; an empty one takes what comes. -/
theorem store_settles (desk : Desk) (e : Failure) (s : State) :
    ∃ t, store desk e s = some ((), t) ∧ Settles desk (.error e) s t := by
  cases held : s.held desk with
  | some pending =>
    have kept : store desk e s = note (.failureDropped desk pending e) s := by
      simp [store, bind, StateT.bind, caught_run, held]
    exact ⟨_, kept, by rw [held]; exact held, fun other _ => by cases other <;> rfl, rfl⟩
  | none =>
    let u : State := { s with journal := s.journal.push (.failureStored desk e) }
    have taken : store desk e s = setCaught desk (some e) u := by
      simp [store, bind, StateT.bind, caught_run, held]
      rfl
    obtain ⟨t, set⟩ : ∃ t, setCaught desk (some e) u = some ((), t) := ⟨_, rfl⟩
    have outline : t.outline [] [] = _ := held_setCaught set
    have slots : t.held = Function.update u.held desk (some e) := congrArg Outline.held outline
    have same : u.held = s.held := held_congr rfl rfl
    refine ⟨t, taken.trans set, ?_, ?_, ?_⟩
    · rw [slots, held]
      exact Function.update_self ..
    · intro other isOther
      rw [slots, Function.update_of_ne isOther, same]
    · cases set
      cases desk <;> rfl

theorem conclude_concludes {x : Unit} (run : a.conclude act status payload s = some (x, t)) :
    Concludes act a status payload s t := by
  obtain ⟨_, u, caught, run⟩ := bind_some run
  obtain ⟨-, rfl⟩ := pure_some run
  obtain ⟨outcome, v, invoked, settled⟩ := bind_some caught
  refine .intro (.refl s) invoked ?_
  cases outcome with
  | ok _ =>
    obtain ⟨-, rfl⟩ := pure_some settled
    exact ⟨(Option.or_none).symm, fun _ _ => rfl, rfl⟩
  | error e =>
    obtain ⟨_, w, stored, settled⟩ := bind_some settled
    obtain ⟨-, rfl⟩ := pure_some settled
    obtain ⟨_, found, settles⟩ := store_settles a.desk e v
    rw [found] at stored
    cases stored
    exact settles

theorem Concludes.after_notes {u : State} (noted : OnlyNotes s u)
    (concludes : Concludes act a status payload u t) : Concludes act a status payload s t := by
  obtain ⟨before, told, after⟩ := concludes
  exact .intro (noted.trans before) told after

theorem conclude_ends
    (ends : ∃ r, a.completion.invoke act a.occasion status payload s = some r) :
    ∃ t, a.conclude act status payload s = some ((), t) := by
  obtain ⟨⟨outcome, v⟩, invoked⟩ := ends
  cases outcome with
  | ok _ => exact ⟨v, bind_eq ((bind_eq invoked).trans rfl)⟩
  | error e =>
    obtain ⟨t, stored, -⟩ := store_settles a.desk e v
    exact ⟨t, bind_eq ((bind_eq invoked).trans (bind_eq stored))⟩

end

/-- A handler that is done leaves no failure, and one that fails leaves what it failed with. -/
theorem handler_outcome {act : Act} {on : Occasion} {h : Handler} {status : StatusCode}
    {payload : Payload} {s t : State} {outcome : Except Failure Unit}
    (run : (Completion.handler h).invoke act on status payload s = some (outcome, t)) :
    ((h.react status payload).2 = .done → outcome = .ok ()) ∧
      (∀ e, (h.react status payload).2 = .error e → outcome = .error e) ∧
      ∀ p, (h.react status payload).2 = .panic p → outcome = .error (.panicked p.message) := by
  rcases invoke_iff.mp run with _ | _ | ⟨-, -, ends⟩
  generalize (h.react status payload).2 = ending at ends ⊢
  cases ends with
  | done => simp
  | error e => simp
  | panic p => simp

/-! ### Callbacks -/

theorem told_exists {ρ : Type} (a : Adapter ρ) (response : Option ρ) :
    ∃ status payload, a.Told response status payload := by
  cases response with
  | none => exact ⟨_, _, .absent⟩
  | some r =>
    rcases given : a.transform r with ⟨result, rest⟩
    cases result with
    | ok payload => exact ⟨_, _, .transformed given⟩
    | error e =>
      cases e with
      | badStatus code => exact ⟨_, _, .coded given⟩
      | disconnected => exact ⟨_, _, .disconnected given⟩
      | user | panicked | configuration => exact ⟨_, _, .broken given (by simp) (by simp)⟩

section
variable {act : Act} {ρ : Type} {a : Adapter ρ} {id : UInt32} {s t : State}

/-- A failed transform is told with the status that stands for its failure. -/
theorem told_of_failed {r rest : ρ} {e : Failure} (failed : a.transform r = (.error e, rest)) :
    a.Told (some r) (Adapter.failureStatus e) a.fallback := by
  cases e with
  | badStatus code => exact .coded failed
  | disconnected => exact .disconnected failed
  | user | panicked | configuration => exact .broken failed (by simp) (by simp)

/-- The transform takes its steps, then the completion is told what the operation has come to, and
what remains of the response is what one run of the transform leaves. -/
theorem receive_concludes {response rest : Option ρ}
    (run : a.receive act id response s = some (rest, t)) :
    rest = response.map (fun r => (a.transform r).2) ∧
      ∃ status payload u, a.Told response status payload ∧
        takeSteps act (a.stepsFor response) s = some ((), u) ∧
        Concludes act a status payload u t := by
  cases response with
  | none =>
    obtain ⟨_, u, missed, run⟩ := bind_some run
    obtain ⟨_, v, invoking, run⟩ := bind_some run
    obtain ⟨_, w, concluded, run⟩ := bind_some run
    obtain ⟨rfl, rfl⟩ := pure_some run
    have noted : OnlyNotes s v := (OnlyNotes.of_note missed).trans (.of_note invoking)
    exact ⟨rfl, _, _, s, .absent, rfl, (conclude_concludes concluded).after_notes noted⟩
  | some r =>
    obtain ⟨_, u, took, run⟩ := bind_some run
    rcases given : a.transform r with ⟨result, left⟩
    rw [given] at run
    cases result with
    | ok payload =>
      obtain ⟨_, v, invoking, run⟩ := bind_some run
      obtain ⟨_, w, concluded, run⟩ := bind_some run
      obtain ⟨rfl, rfl⟩ := pure_some run
      have noted : OnlyNotes u v := .of_note invoking
      exact ⟨by simp [given], _, _, u, .transformed given, took,
        (conclude_concludes concluded).after_notes noted⟩
    | error e =>
      obtain ⟨_, v, failed, run⟩ := bind_some run
      obtain ⟨_, w, invoking, run⟩ := bind_some run
      obtain ⟨_, x, concluded, run⟩ := bind_some run
      obtain ⟨rfl, rfl⟩ := pure_some run
      have noted : OnlyNotes u w := (OnlyNotes.of_note failed).trans (.of_note invoking)
      exact ⟨by simp [given], _, _, u, told_of_failed given, took,
        (conclude_concludes concluded).after_notes noted⟩

theorem receive_ends {response : Option ρ} {u : State}
    (took : takeSteps act (a.stepsFor response) s = some ((), u))
    (ends : ∀ status payload v, a.Told response status payload → OnlyNotes u v →
      ∃ r, a.completion.invoke act a.occasion status payload v = some r) :
    ∃ rest t, a.receive act id response s = some (rest, t) := by
  have concludes : ∀ {status payload v}, a.Told response status payload → OnlyNotes u v →
      ∃ t, a.conclude act status payload v = some ((), t) := by
    intro status payload v told noted
    exact conclude_ends (ends status payload v told noted)
  cases response with
  | none =>
    obtain rfl : s = u := (pure_some took).2
    have noted : OnlyNotes s _ :=
      (OnlyNotes.of_note (o := .unanswered id) rfl).trans
        (.of_note (o := .invoking id .badInternalError) rfl)
    obtain ⟨t, concluded⟩ := concludes .absent noted
    exact ⟨none, t, bind_eq (f := fun _ => pure none) concluded⟩
  | some r =>
    rcases given : a.transform r with ⟨result, left⟩
    have reached : a.receive act id (some r) s = _ := bind_eq took
    rw [reached, given]
    cases result with
    | ok payload =>
      obtain ⟨t, concluded⟩ := concludes (.transformed given)
        (OnlyNotes.of_note (o := .invoking id .good) rfl)
      exact ⟨some left, t, bind_eq (f := fun _ => pure (some left)) concluded⟩
    | error e =>
      have noted : OnlyNotes u _ :=
        (OnlyNotes.of_note (o := .transformFailed id (Adapter.failureStatus e) e) rfl).trans
          (.of_note (o := .invoking id (Adapter.failureStatus e)) rfl)
      obtain ⟨t, concluded⟩ := concludes (told_of_failed given) noted
      exact ⟨some left, t, bind_eq (f := fun _ => pure (some left)) concluded⟩

theorem Adapter.Told.unique {response : Option ρ} {status status' : StatusCode}
    {payload payload' : Payload} (told : a.Told response status payload)
    (told' : a.Told response status' payload') : status = status' ∧ payload = payload' := by
  cases told <;> cases told' <;> grind

end

theorem receive_fitting {act : Act} {service : Service} {a : Adapter (Response service)}
    {id : UInt32} {response : Option AnyResponse} {typed : Option (Response service)}
    (fitting : Fitting service response typed) (s t : State) :
    (Receiver.adapter service a).receive act id response s = some ((), t) ↔
      ∃ rest, a.receive act id typed s = some (rest, t) := by
  have handed : response.bind (·.as? service) = typed := by
    cases fitting with
    | absent => rfl
    | expected r => simp [AnyResponse.as?]
    | mistyped r isOther => simp [AnyResponse.as?, isOther]
  show (do let _ ← a.receive act id (response.bind (·.as? service)) : Run Unit) s = _ ↔ _
  rw [handed]
  constructor
  · intro run
    obtain ⟨rest, u, received, run⟩ := bind_some run
    obtain ⟨-, rfl⟩ := pure_some run
    exact ⟨rest, received⟩
  · rintro ⟨rest, received⟩
    exact bind_eq received

/-! ### Rejections -/

/-- The transport rejects the next submission with a status. -/
def Transport.Refuses (t : Transport) (status : StatusCode) : Prop :=
  ∀ service body receiver, (submitTo t service body receiver).1 = .error (status, false)

theorem handOver_error {service : Service} {body : Option AnyRequest} {receiver : Receiver}
    {e : StatusCode × Bool} {s : State} {t : Transport}
    (handed : submitTo s.transport service body receiver = (.error e, t)) :
    handOver service body receiver s = some (.error e,
      { s with transport := t, journal := s.journal.push (.refused service e.1) }) := by
  unfold handOver
  refine (bind_eq (y := s) (t := s) rfl).trans ?_
  rw [handed]
  rfl

/-- A rejected operation is concluded with the status of the rejection, and its transform does not
run. -/
theorem submit_refused {act : Act} {c : Call} {completion : Completion} {status : StatusCode}
    {s : State} (refuses : s.transport.Refuses status) :
    ∃ u, u.held = s.held ∧ u.cells = s.cells ∧
      submit act c completion s = (c.adapter s.operations completion).reject act status u := by
  obtain ⟨begun, began⟩ : ∃ t, newOperation completion s = some (s.operations, t) := ⟨_, rfl⟩
  obtain ⟨now, looked, looks⟩ : ∃ now t, timeOfDay begun = some (now, t) := ⟨_, _, rfl⟩
  have same : looked.transport = s.transport := by cases began; cases looks; rfl
  rcases handed : submitTo looked.transport c.service (some ⟨c.service, c.requestAt now⟩)
    (.adapter c.service (c.adapter s.operations completion)) with ⟨r, t⟩
  have refused : r = .error (status, false) := by
    rw [← refuses, ← same, handed]
  subst refused
  have hands := handOver_error handed
  have reached : submit act c completion s = _ :=
    (bind_eq began).trans ((bind_eq looks).trans (bind_eq hands))
  refine ⟨_, ?_, ?_, reached⟩
  · cases began
    cases looks
    exact held_congr rfl rfl
  · cases began
    cases looks
    rfl

/-! ### The contract -/

/-- A callback runs the transform once on a response of the expected type and on no other, and tells
the completion once what the operation has come to. Only what the completion fails with is caught.
-/
theorem callback_transforms_and_completes_once {service : Service} {response : Option AnyResponse}
    {typed : Option (Response service)} (fitting : Fitting service response typed) (act : Act)
    (a : Adapter (Response service)) (id : UInt32) (s : State) :
    (∃! told : StatusCode × Payload, a.Told typed told.1 told.2) ∧
      (∀ t, (Receiver.adapter service a).receive act id response s = some ((), t) →
        a.receive act id typed s = some (typed.map fun r => (a.transform r).2, t) ∧
        ∃ status payload u, a.Told typed status payload ∧
          takeSteps act (a.stepsFor typed) s = some ((), u) ∧
          Concludes act a status payload u t) ∧
      (∀ u, takeSteps act (a.stepsFor typed) s = some ((), u) →
        (∀ status payload v, a.Told typed status payload → OnlyNotes u v →
          ∃ r, a.completion.invoke act a.occasion status payload v = some r) →
        ∃ t, (Receiver.adapter service a).receive act id response s = some ((), t)) ∧
      (∀ c on status payload u outcome v,
        Completion.invoke act c on status payload u = some (outcome, v) ↔
          Invokes act on status payload u c outcome v) ∧
      (∀ h on status payload u outcome v,
        (Completion.handler h).invoke act on status payload u = some (outcome, v) →
        ((h.react status payload).2 = .done → outcome = .ok ()) ∧
          (∀ e, (h.react status payload).2 = .error e → outcome = .error e) ∧
          ∀ p, (h.react status payload).2 = .panic p → outcome = .error (.panicked p.message)) ∧
      (∀ status t, a.reject act status s = some ((), t) → Concludes act a status a.fallback s t) ∧
      ∀ (c : Call) completion status, s.transport.Refuses status → ∃ u, u.held = s.held ∧
        (∀ t, submit act c completion s = some ((), t) →
          Concludes act (c.adapter s.operations completion) status c.fallback u t) ∧
        ((∃ r, completion.invoke act (c.adapter s.operations completion).occasion status c.fallback
            u = some r) →
          ∃ t, submit act c completion s = some ((), t)) := by
  refine ⟨?_, ?_, ?_, fun _ _ _ _ _ _ _ => invoke_iff, fun _ _ _ _ _ _ _ => handler_outcome,
    fun _ _ => conclude_concludes, ?_⟩
  · obtain ⟨status, payload, told⟩ := told_exists a typed
    refine ⟨(status, payload), told, fun other told' => ?_⟩
    obtain ⟨sameStatus, samePayload⟩ := told'.unique told
    exact Prod.ext sameStatus samePayload
  · intro t run
    obtain ⟨rest, received⟩ := (receive_fitting fitting s t).mp run
    obtain ⟨rfl, concluded⟩ := receive_concludes received
    exact ⟨received, concluded⟩
  · intro u took ends
    obtain ⟨rest, t, received⟩ := receive_ends took ends
    exact ⟨t, (receive_fitting fitting s t).mpr ⟨rest, received⟩⟩
  · intro c completion status refuses
    obtain ⟨u, held, -, same⟩ := @submit_refused act c completion status s refuses
    refine ⟨u, held, ?_, ?_⟩
    · intro t run
      rw [same] at run
      exact conclude_concludes run
    · intro ends
      rw [same]
      exact conclude_ends ends

/-- A transform takes steps and fails, and the handler takes steps and panics: it is told the code
of the transform's failure, and the catcher keeps what was put into it before the panic, or else
the panic. -/
theorem failing_transform_and_panicking_handler :
    let a (before after : List Step) : Adapter (Response .read) :=
      { operation := none, desk := .client, during := fun _ => before
        transform := fun r => (.error (.badStatus .badTimeout), r)
        fallback := .nothing
        completion := .handler (.mk "h" true fun _ _ => (after, .panic .other))
        responseType := responseType .read }
    let s := State.start {} (.loopback { space := .empty, maxPending := 0 })
      ⟨fun _ => .epoch, id, 0, 0⟩
    let told (before after : List Step) (t : State) : Prop :=
      (Receiver.adapter .read (a before after)).receive (perform 1) 1 (some ⟨.read, {}⟩) s =
          some ((), t) ∧
        ∃ u, takeSteps (perform 1) before s = some ((), u) ∧
          Concludes (perform 1) (a before after) .badTimeout .nothing u t
    let kept : Step := .catcher .client (.store .disconnected)
    (∃ t, told [kept] [] t ∧ t.caught = some .disconnected) ∧
      (∃ t, told [] [kept] t ∧ t.caught = some .disconnected) ∧
      ∃ t, told [] [] t ∧ t.caught = some (.panicked Panic.other.message) := by
  intro a s told kept
  have tells : ∀ before after t, (Receiver.adapter .read (a before after)).receive (perform 1) 1
      (some ⟨.read, {}⟩) s = some ((), t) → told before after t := by
    intro before after t run
    obtain ⟨-, concludes, -⟩ :=
      callback_transforms_and_completes_once (.expected {}) (perform 1) (a before after) 1 s
    obtain ⟨-, status, payload, u, told, took, concluded⟩ := concludes t run
    obtain ⟨rfl, rfl⟩ := told.unique (.coded rfl)
    exact ⟨run, u, took, concluded⟩
  exact ⟨⟨_, tells _ _ _ rfl, rfl⟩, ⟨_, tells _ _ _ rfl, rfl⟩, _, tells _ _ _ rfl, rfl⟩

end OpcUa.Client
