import OpcUa.Proofs.Session.Ledger
import OpcUa.Proofs.Session.Lockstep

/-!
A closed loopback transport. Whether the transport is open counts when a request is submitted and
when a pass begins; a pass serves the requests that were queued when it began. So a closed transport
takes no requests and its passes answer none, but a pass that was going on when it was closed goes
on to serve what it has taken.
-/

namespace OpcUa.Client

open Run

/-! ### The moments of a history -/

/-- A request that a pass has taken before the transport was closed, and is about to serve. -/
structure TakenBeforeClosing (before : List Occurrence) (id : UInt32) : Prop where
  next : ∃ rest outer, (ledger before).passes = (true, id :: rest) :: outer
  taken : ∃ earlier ids since, before = earlier ++ .passBegan true ids :: since ∧ id ∈ ids ∧
    (ledger earlier).isConnected = true ∧ ∃ pending, .closed pending ∈ since

/-- What may be seen of the transport from the moment it is closed until it is reopened. -/
structure HeedsClosing (history : List Occurrence) : Prop where
  rejects : ∀ before o after, history = before ++ o :: after →
    (ledger before).isConnected = false → o.isSubmission →
    ∃ service status, o = .refused service status ∧
      ((ledger before).failNext = some status ∨
        (ledger before).failNext = none ∧ status = .badDisconnect)
  begins : ∀ before isConnected ids after,
    history = before ++ .passBegan isConnected ids :: after →
    (ledger before).isConnected = false → isConnected = false ∧ ids = (ledger before).queue
  serves : ∀ before id service body response after,
    history = before ++ .served id service body response :: after →
    (ledger before).isConnected = false → TakenBeforeClosing before id
  answers : ∀ before id response after,
    history = before ++ .calledBack id (some response) :: after →
    (ledger before).isConnected = false → TakenBeforeClosing before id

/-- Every pass that is going on began at some moment, and took what it has still to come to. -/
def Begun (history : List Occurrence) : Prop :=
  ∀ pass ∈ (ledger history).passes, ∃ earlier ids since,
    history = earlier ++ .passBegan pass.1 ids :: since ∧ pass.2 ⊆ ids ∧
      (ledger earlier).isConnected = pass.1

namespace Ledger

variable {g : Ledger} {o : Occurrence}

theorem enter_open (isOpen : g.isConnected = true) (h : ∀ pending, o ≠ .closed pending) :
    (g.enter o).isConnected = true := by
  cases o with
  | closed pending => exact absurd rfl (h pending)
  | reopened => rfl
  | _ => exact isOpen

theorem foldl_open {os : List Occurrence} (isOpen : g.isConnected = true)
    (h : ∀ pending, .closed pending ∉ os) : (os.foldl enter g).isConnected = true := by
  induction os generalizing g with
  | nil => exact isOpen
  | cons o os ih =>
    refine ih (enter_open isOpen ?_) fun pending member => h pending (List.mem_cons_of_mem _ member)
    intro pending same
    exact h pending (same ▸ List.mem_cons_self)

theorem mem_comeTo {passes : List (Bool × List UInt32)} {pass : Bool × List UInt32}
    (member : pass ∈ comeTo passes) : ∃ earlier ∈ passes, pass.1 = earlier.1 ∧ pass.2 ⊆ earlier.2 := by
  unfold comeTo at member
  split at member
  next isConnected id rest outer =>
    rcases List.mem_cons.mp member with rfl | further
    · exact ⟨_, List.mem_cons_self, rfl, List.subset_cons_self ..⟩
    · exact ⟨pass, List.mem_cons_of_mem _ further, rfl, List.Subset.refl _⟩
  next => exact ⟨pass, member, rfl, List.Subset.refl _⟩

theorem mem_enter {pass : Bool × List UInt32} (member : pass ∈ (g.enter o).passes) :
    o = .passBegan pass.1 pass.2 ∨
      ∃ earlier ∈ g.passes, pass.1 = earlier.1 ∧ pass.2 ⊆ earlier.2 := by
  have before (same : pass ∈ g.passes) :
      ∃ earlier ∈ g.passes, pass.1 = earlier.1 ∧ pass.2 ⊆ earlier.2 :=
    ⟨pass, same, rfl, List.Subset.refl _⟩
  cases o with
  | passBegan isConnected ids =>
    rcases List.mem_cons.mp member with rfl | further
    · exact .inl rfl
    · exact .inr (before further)
  | calledBack id response => exact .inr (mem_comeTo member)
  | passServed n | passAbandoned n => exact .inr (before (List.mem_of_mem_tail member))
  | _ => exact .inr (before member)

end Ledger

theorem begun_of_lawful {limit : Nat} {history : List Occurrence}
    (lawful : Ledger.AdmitsAll limit {} history) : Begun history := by
  induction history using List.reverseRecOn with
  | nil => exact fun pass member => absurd member List.not_mem_nil
  | append_singleton before o ih =>
    have begun : Begun before := ih (Ledger.admitsAll_append.mp lawful).1
    have admits : (ledger before).Admits limit o := Ledger.admits_at lawful rfl
    intro pass member
    -- A pass is entered with what it takes, and afterwards only loses requests.
    rw [ledger_snoc] at member
    rcases Ledger.mem_enter member with rfl | ⟨earlier, further, same, fewer⟩
    · exact ⟨before, pass.2, [], rfl, List.Subset.refl _, admits.1.symm⟩
    · obtain ⟨start, ids, since, split, taken, state⟩ := begun earlier further
      refine ⟨start, ids, since ++ [o], ?_, List.Subset.trans fewer taken, state.trans same.symm⟩
      rw [split, same]
      simp

/-- A pass that began on an open transport, and is going on over a closed one, began before the
transport was closed. -/
theorem taken_before_closing {limit : Nat} {before rest : List Occurrence} {id : UInt32}
    {ids : List UInt32} {outer : List (Bool × List UInt32)}
    (lawful : Ledger.AdmitsAll limit {} (before ++ rest))
    (isClosed : (ledger before).isConnected = false)
    (next : (ledger before).passes = (true, id :: ids) :: outer) : TakenBeforeClosing before id := by
  refine ⟨⟨ids, outer, next⟩, ?_⟩
  have going : (true, id :: ids) ∈ (ledger before).passes := by
    rw [next]
    exact List.mem_cons_self
  obtain ⟨earlier, taken, since, split, included, isOpen⟩ :=
    begun_of_lawful (Ledger.admitsAll_append.mp lawful).1 _ going
  refine ⟨earlier, taken, since, split, included List.mem_cons_self, isOpen, ?_⟩
  -- Had nothing closed the transport since the pass began, it would still be open.
  by_contra none
  have stays : (ledger before).isConnected = true := by
    rw [split, ledger, List.foldl_append, List.foldl_cons]
    exact Ledger.foldl_open isOpen fun pending member => none ⟨pending, member⟩
  rw [isClosed] at stays
  cases stays

theorem heedsClosing_of_lawful {limit : Nat} {history : List Occurrence}
    (lawful : Ledger.AdmitsAll limit {} history) : HeedsClosing history := by
  refine ⟨?_, ?_, ?_, ?_⟩
  · intro before o after split isClosed submits
    have admits := Ledger.admits_at lawful split
    cases o with
    | accepted id service body =>
      obtain ⟨-, isOpen, -⟩ := Ledger.verdict_accepts.mp admits
      rw [isClosed] at isOpen
      cases isOpen
    | refused service status =>
      refine ⟨service, status, rfl, ?_⟩
      rcases Ledger.verdict_rejects.mp admits with armed | ⟨unarmed, ⟨-, lost⟩ | ⟨isOpen, -⟩⟩
      · exact .inl armed
      · exact .inr ⟨unarmed, lost⟩
      · rw [isClosed] at isOpen
        cases isOpen
    | _ => cases submits
  · intro before isConnected ids after split isClosed
    have admits : isConnected = _ ∧ ids = _ := Ledger.admits_at lawful split
    exact ⟨admits.1.trans isClosed, admits.2⟩
  · intro before id service body response after split isClosed
    obtain ⟨ids, outer, next⟩ := Ledger.admits_at lawful split
    exact taken_before_closing (split ▸ lawful) isClosed next
  · intro before id response after split isClosed
    obtain ⟨isConnected, ids, outer, next, silent⟩ := Ledger.admits_at lawful split
    cases isConnected with
    | true => exact taken_before_closing (split ▸ lawful) isClosed next
    | false =>
      have nothing := silent rfl
      cases nothing

/-! ### Steps on a closed transport -/

/-- What can happen on a closed transport, where no earlier pass is going on. -/
def Occurrence.Mute : Occurrence → Prop
  | accepted .. | served .. | passServed _ | reopened => False
  | calledBack _ response => response = none
  | passBegan isConnected _ => isConnected = false
  | _ => True

/-- A closed transport on which all passes began closed. Its address space is still what it was,
unless application code may change it. -/
structure Shut (may : Power → List Pass → Prop) (space : AddressSpace) (p : Outline) : Prop where
  isClosed : ∃ l, p.transport = .loopback l ∧ l.isConnected = false ∧
    ((∀ passes, ¬ may .space passes) → l.space = space)
  passes : ∀ pass ∈ p.passes, pass.isConnected = false

section
variable {may : Power → List Pass → Prop} {space : AddressSpace} {p q : Outline}

theorem mute_plain {o : Occurrence} (h : o.isPlain) : o.Mute := by
  cases o <;> first | exact True.intro | cases h

theorem mute_desk {o : Occurrence} {desk : Desk} (h : o.desk? = some desk) : o.Mute := by
  cases o <;> first | exact True.intro | cases h

theorem Shut.move (h : Shut may space p) (m : Move may p q) :
    ∃ os, q.history = p.history ++ os ∧
      (.reopened ∉ os → Shut may space q ∧ ∀ o ∈ os, o.Mute) := by
  obtain ⟨⟨l, loopback, isClosed, kept⟩, passes⟩ := h
  have still : ∀ {q' : Outline}, q'.transport = p.transport → q'.passes = p.passes →
      Shut may space q' := by
    intro q' sameTransport samePasses
    exact ⟨⟨l, sameTransport.trans loopback, isClosed, kept⟩, samePasses ▸ passes⟩
  cases m with
  | plain isPlain => exact ⟨_, rfl, fun _ => ⟨still rfl rfl, by simpa using mute_plain isPlain⟩⟩
  | @accept k k' s body r id c here taken own =>
    obtain rfl := loopback_inj here loopback
    obtain ⟨-, isOpen, -⟩ := Ledger.verdict_accepts.mp (submit_verdict taken [])
    rw [show (k.ledger []).isConnected = k.isConnected from rfl, isClosed] at isOpen
    cases isOpen
  | @refuse k k' s body r status c here refused own =>
    obtain rfl := loopback_inj here loopback
    obtain rfl := Loopback.submit_error refused
    exact ⟨_, rfl, fun _ => ⟨⟨⟨_, rfl, isClosed, kept⟩, passes⟩, by simp [Occurrence.Mute]⟩⟩
  | @acceptOther k k' s body r id here taken own =>
    obtain rfl := loopback_inj here loopback
    obtain ⟨-, isOpen, -⟩ := Ledger.verdict_accepts.mp (submit_verdict taken [])
    rw [show (k.ledger []).isConnected = k.isConnected from rfl, isClosed] at isOpen
    cases isOpen
  | @refuseOther k k' s body r status here refused own =>
    obtain rfl := loopback_inj here loopback
    obtain rfl := Loopback.submit_error refused
    exact ⟨_, rfl, fun _ => ⟨⟨⟨_, rfl, isClosed, kept⟩, passes⟩, by simp [Occurrence.Mute]⟩⟩
  | @beginPass k here allowed =>
    obtain rfl := loopback_inj here loopback
    refine ⟨_, rfl, fun _ => ⟨⟨⟨_, rfl, isClosed, kept⟩, ?_⟩, by simpa [Occurrence.Mute]⟩⟩
    intro pass member
    rcases List.mem_cons.mp member with rfl | further
    · exact isClosed
    · exact passes pass further
  | @serve k k' ids queued rest outer response os now here within answered =>
    -- Only a pass that began open serves, and none of these did.
    have began : true = false := passes _ (within ▸ List.mem_cons_self)
    cases began
  | @abandon k ids queued rest outer here within =>
    refine ⟨_, rfl, fun _ => ⟨⟨⟨l, loopback, isClosed, kept⟩, ?_⟩, by simp [Occurrence.Mute]⟩⟩
    intro pass member
    rcases List.mem_cons.mp member with rfl | further
    · rfl
    · exact passes pass (within ▸ List.mem_cons_of_mem _ further)
  | @endPass k isConnected ids outer here within =>
    have began : isConnected = false := passes _ (within ▸ List.mem_cons_self)
    refine ⟨_, rfl, fun _ => ⟨⟨⟨l, loopback, isClosed, kept⟩, ?_⟩, by simp [began, Occurrence.Mute]⟩⟩
    exact fun pass further => passes pass (within ▸ List.mem_cons_of_mem _ further)
  | conclude next => exact ⟨_, rfl, fun _ => ⟨still rfl rfl, by simp [Occurrence.Mute]⟩⟩
  | @fail o desk e arrives =>
    refine ⟨_, rfl, fun _ => ⟨still rfl rfl, ?_⟩⟩
    intro o' member
    rcases List.mem_cons.mp member with rfl | judged
    · exact mute_desk (desk?_of_arrival arrives)
    · rw [List.mem_singleton.mp judged]
      exact mute_desk (desk?_verdict ..)
  | rethrow holds allowed => exact ⟨_, rfl, fun _ => ⟨still rfl rfl, by simp [Occurrence.Mute]⟩⟩
  | finish n => exact ⟨_, rfl, fun _ => ⟨still rfl rfl, by simp [Occurrence.Mute]⟩⟩
  | report context e => exact ⟨_, rfl, fun _ => ⟨still rfl rfl, by simp [Occurrence.Mute]⟩⟩
  | @steer k k' os here steering =>
    obtain rfl := loopback_inj here loopback
    refine ⟨_, rfl, fun notReopened => ?_⟩
    cases steering with
    | close => exact ⟨⟨⟨_, rfl, rfl, kept⟩, passes⟩, by simp [Occurrence.Mute]⟩
    | reopen => exact absurd List.mem_cons_self notReopened
    | failNext status => exact ⟨⟨⟨_, rfl, isClosed, kept⟩, passes⟩, by simp [Occurrence.Mute]⟩
    | dropNext => exact ⟨⟨⟨_, rfl, isClosed, kept⟩, passes⟩, by simp⟩
  | @change k space' here allowed =>
    obtain rfl := loopback_inj here loopback
    refine ⟨[], (List.append_nil _).symm, fun _ => ⟨⟨⟨_, rfl, isClosed, ?_⟩, passes⟩, by simp⟩⟩
    exact fun denied => absurd allowed (denied _)
  | elsewhere prepared apart =>
    rw [loopback] at prepared
    cases prepared

theorem Shut.run (h : Shut may space p) (moves : Relation.ReflTransGen (Move may) p q) :
    ∃ os, q.history = p.history ++ os ∧
      (.reopened ∉ os → Shut may space q ∧ ∀ o ∈ os, o.Mute) := by
  induction moves with
  | refl => exact ⟨[], (List.append_nil _).symm, fun _ => ⟨h, by simp⟩⟩
  | tail _ last ih =>
    obtain ⟨os, history, before⟩ := ih
    by_cases reopened : .reopened ∈ os
    · obtain ⟨more, history'⟩ := last.grows
      refine ⟨os ++ more, by rw [history', history, List.append_assoc], fun notReopened => ?_⟩
      exact absurd (List.mem_append_left _ reopened) notReopened
    · obtain ⟨shut, mute⟩ := before reopened
      obtain ⟨more, history', after⟩ := shut.move last
      refine ⟨os ++ more, by rw [history', history, List.append_assoc], fun notReopened => ?_⟩
      obtain ⟨shut', mute'⟩ := after fun member => notReopened (List.mem_append_right _ member)
      refine ⟨shut', fun o member => ?_⟩
      rcases List.mem_append.mp member with first | second
      · exact mute o first
      · exact mute' o second

end

section
variable {depth : Nat} {step : Step} {s t : State} {l : Loopback} {answer : Answer}
  {os : List Occurrence} (loopback : s.transport = .loopback l) (isClosed : l.isConnected = false)
  (run : perform depth step s = some (answer, t)) (history : t.history = s.history ++ os)
  (notReopened : .reopened ∉ os)
include loopback isClosed run history notReopened

theorem perform_shut {may : Power → List Pass → Prop} (granted : step.Granted may [])
    (modest : Modest may os) :
    Shut may l.space (t.outline [] []) ∧ ∀ o ∈ os, o.Mute := by
  have shut : Shut may l.space (s.outline [] []) :=
    ⟨⟨l, loopback, isClosed, fun _ => rfl⟩, fun _ member => absurd member List.not_mem_nil⟩
  obtain ⟨-, os', history', -, moves⟩ := perform_leads granted run []
  obtain rfl : os' = os := List.append_cancel_left (history'.symm.trans history)
  obtain ⟨more, grown, kept⟩ := shut.run (moves modest)
  obtain rfl : more = os' := List.append_cancel_left (grown.symm.trans history)
  exact kept notReopened

/-- Until it is reopened, a step on a closed transport leads to nothing but silence, and requests
leave the address space alone. -/
theorem perform_closed :
    (∀ o ∈ os, o.Mute) ∧ t.transport = .loopback t.loopback ∧ t.loopback.isConnected = false ∧
      (.space ∉ step.needs → Spares [.space] os → t.loopback.space = l.space) := by
  have found {l' : Loopback} (transport : t.transport = .loopback l') : t.loopback = l' := by
    simp [State.loopback, transport]
  have anything : step.Granted (fun _ _ => True) [] := fun _ _ => trivial
  obtain ⟨⟨⟨l', transport, state, -⟩, -⟩, mute⟩ :=
    perform_shut loopback isClosed run history notReopened anything fun _ _ _ _ _ => trivial
  rw [found transport]
  refine ⟨mute, transport, state, ?_⟩
  intro direct spares
  -- The same run again, now without the power to change the space directly.
  let may : Power → List Pass → Prop := fun power _ => power ≠ .space
  have granted : step.Granted may [] := fun power needed same => direct (same ▸ needed)
  have modest : Modest may os := spares.modest fun power other _ same => other (by simp [same])
  obtain ⟨⟨⟨k, transport', -, kept⟩, -⟩, -⟩ :=
    perform_shut loopback isClosed run history notReopened granted modest
  rw [← found transport, found transport']
  exact kept fun _ allowed => allowed rfl

end

/-! ### Passes over a closed transport -/

section
variable {act : Act} {s t : State}

theorem abandonAll_reaches {before after : List Queued} {q : Queued} {x : Unit}
    (run : Loopback.abandonAll act (before ++ q :: after) s = some (x, t)) :
    ∃ u v, Loopback.abandonAll act before s = some ((), u) ∧
      q.callBack act none u = some ((), v) ∧
      Loopback.abandonAll act after v = some ((), t) := by
  induction before generalizing s with
  | nil =>
    obtain ⟨_, v, called, rest⟩ := bind_some run
    exact ⟨s, v, rfl, called, rest⟩
  | cons first before ih =>
    obtain ⟨_, w, called, rest⟩ := bind_some run
    obtain ⟨u, v, reached, later⟩ := ih rest
    exact ⟨u, v, (bind_eq called).trans reached, later⟩

theorem callBack_none_concludes {q : Queued} {service : Service} {a : Adapter (Response service)}
    (receiver : q.receiver = .adapter service a) (run : q.callBack act none s = some ((), t)) :
    Concludes act a .badInternalError a.fallback s t := by
  obtain ⟨_, u, noted, received⟩ := bind_some run
  rw [receiver] at received
  obtain ⟨rest, received⟩ := (receive_fitting .absent u t).mp received
  obtain ⟨-, status, payload, v, told, took, concludes⟩ := receive_concludes received
  obtain ⟨rfl, rfl⟩ := told.unique .absent
  obtain rfl : u = v := (pure_some took).2
  exact concludes.after_notes (.of_note noted)

/-- A pass over a closed transport calls back for all that was queued, in order and without a
response, and fails with the lost connection. -/
theorem closed_pump {l : Loopback} {r : Except Failure Nat} (loopback : s.transport = .loopback l)
    (isClosed : l.isConnected = false) (run : pump act s = some (r, t)) :
    r = .error .disconnected ∧
      ∀ before q after, l.queue = before ++ q :: after → ∃ u v,
        Loopback.abandonAll act before (s.emptied l) = some ((), u) ∧
        q.callBack act none u = some ((), v) := by
  rw [pump_eq loopback, isClosed] at run
  obtain ⟨_, w, abandoned, run⟩ := bind_some run
  obtain ⟨_, x, ended, run⟩ := bind_some run
  refine ⟨(pure_some run).1.symm, fun before q after queue => ?_⟩
  rw [queue] at abandoned
  obtain ⟨u, v, reached, called, -⟩ := abandonAll_reaches abandoned
  exact ⟨u, v, reached, called⟩

end

/-! ### The contract -/

/-- From the moment it is closed until it is reopened, the loopback transport rejects every
submission and answers only requests that a pass had taken before. -/
theorem closed_transport_serves_only_what_was_taken {depth limit : Nat} {config : Config}
    {clocks : Clocks} {space : AddressSpace} {steps : List Step} {reports : List Report}
    (run : play depth (.start config (.loopback { space, maxPending := limit }) clocks) steps =
      some reports) :
    (∀ report ∈ reports, HeedsClosing report.after.history ∧ report.after.Lawful limit []) ∧
      (∀ depth step s l answer t os, s.transport = .loopback l → l.isConnected = false →
        perform depth step s = some (answer, t) → t.history = s.history ++ os → .reopened ∉ os →
        (∀ o ∈ os, o.Mute) ∧ t.transport = .loopback t.loopback ∧
          t.loopback.isConnected = false ∧
          (.space ∉ step.needs → Spares [.space] os → t.loopback.space = l.space)) ∧
      (∀ act s l r t, s.transport = .loopback l → l.isConnected = false →
        pump act s = some (r, t) →
        r = .error .disconnected ∧
          ∀ before q after, l.queue = before ++ q :: after → ∃ u v,
            Loopback.abandonAll act before (s.emptied l) = some ((), u) ∧
            q.callBack act none u = some ((), v)) ∧
      ∀ act s t (q : Queued) service a, q.receiver = .adapter service a →
        q.callBack act none s = some ((), t) → Concludes act a .badInternalError a.fallback s t := by
  refine ⟨?_, ?_, ?_, ?_⟩
  · intro report member
    have lawful := playFrom_lawful (start_lawful config clocks space limit) run report member
    exact ⟨heedsClosing_of_lawful lawful.lawful, lawful⟩
  · intro depth step s l answer t os loopback isClosed performed history notReopened
    exact perform_closed loopback isClosed performed history notReopened
  · intro act s l r t loopback isClosed pumped
    exact closed_pump loopback isClosed pumped
  · intro act s t q service a receiver called
    exact callBack_none_concludes receiver called

/-- A handler closes the transport within a pass that has taken another request; the next pass, and
one of a transport that was never open, fail. -/
theorem closed_within_pass :
    let clocks : Clocks := ⟨fun _ => .epoch, id, 0, 0⟩
    let closed := State.start {} (.loopback { space := .empty, isConnected := false }) clocks
    ∃ reports,
      play 4 (.start {} (.loopback { space := .empty, maxPending := 0 }) clocks)
        [.call (.readValue .null) (.handler (.mk "h" false fun _ _ => ([.close], .done))),
          .call (.readValue .null) .detached, .run, .call (.readValue .null) .detached, .run,
          .reopen] = some reports ∧
      reports.length = 6 ∧
      (∀ report ∈ reports, HeedsClosing report.after.history ∧ report.after.Lawful 0 []) ∧
      (∃ answer t os, perform 1 .config closed = some (answer, t) ∧
        t.history = closed.history ++ os ∧ ∀ o ∈ os, o.Mute) ∧
      ∃ r t, pump (perform 1) closed = some (r, t) ∧ r = .error .disconnected := by
  intro clocks closed
  refine ends_well (Q := fun reports => reports.length = 6) (by decide +kernel) fun _ run six => ?_
  obtain ⟨heeds, silent, fails, -⟩ := closed_transport_serves_only_what_was_taken run
  refine ⟨six, heeds, ⟨_, closed, [], rfl, (List.append_nil _).symm, ?_⟩, _, _, rfl, ?_⟩
  · exact (silent 1 .config closed _ _ closed [] rfl rfl rfl (List.append_nil _).symm
      List.not_mem_nil).1
  · exact (fails (perform 1) closed _ _ _ rfl rfl rfl).1

/-! ### A closed transport that answers -/

/-- The requests that get a response while the transport is closed. -/
def answeredWhileClosed : Ledger → List Occurrence → List UInt32
  | _, [] => []
  | g, .calledBack id (some response) :: os =>
    let later := answeredWhileClosed (g.enter (.calledBack id (some response))) os
    if g.isConnected then later else id :: later
  | g, o :: os => answeredWhileClosed (g.enter o) os

theorem mem_answeredWhileClosed {g : Ledger} {os : List Occurrence} {id : UInt32}
    (member : id ∈ answeredWhileClosed g os) :
    ∃ before response after, os = before ++ .calledBack id (some response) :: after ∧
      (before.foldl Ledger.enter g).isConnected = false := by
  induction os generalizing g with
  | nil => cases member
  | cons o os ih =>
    have further (later : id ∈ answeredWhileClosed (g.enter o) os) :
        ∃ before response after, o :: os = before ++ .calledBack id (some response) :: after ∧
          (before.foldl Ledger.enter g).isConnected = false := by
      obtain ⟨before, response, after, split, isClosed⟩ := ih later
      exact ⟨o :: before, response, after, by rw [split]; rfl, isClosed⟩
    unfold answeredWhileClosed at member
    split at member
    next => cases member
    next given response rest same =>
      cases same
      dsimp only at member
      split at member
      next => exact further member
      next isClosed =>
        rcases List.mem_cons.mp member with rfl | later
        · exact ⟨[], response, os, rfl, by simpa using isClosed⟩
        · exact further later
    next same =>
      cases same
      exact further member

/-- A pass takes two requests, and the handler of the first closes the transport. The second one
deletes a node and gets a response, while the transport is closed. -/
theorem deleted_and_answered_after_closing :
    let space := AddressSpace.empty.insertVariable .null (.numeric 1 7) "v" (.int32 0) .epoch
    space.contains (.numeric 1 7) = true ∧
      ∃ reports,
        play 4 (.start {} (.loopback { space, maxPending := 0 }) ⟨fun _ => .epoch, id, 0, 0⟩)
          [.call (.readValue .null) (.handler (.mk "h" false fun _ _ => ([.close], .done))),
            .call (.deleteNode (.numeric 1 7) true) .detached, .run] = some reports ∧
        ∃ report ∈ reports,
          report.after.loopback.space.contains (.numeric 1 7) = false ∧
          ∃ before response after,
            report.after.history = before ++ .calledBack 2 (some response) :: after ∧
            (ledger before).isConnected = false := by
  intro space
  refine ⟨by decide +kernel, ends_well
    (Q := fun reports => ∃ report ∈ reports,
      report.after.loopback.space.contains (.numeric 1 7) = false ∧
        2 ∈ answeredWhileClosed {} report.after.history)
    (by decide +kernel) ?_⟩
  rintro reports - ⟨report, member, deleted, answered⟩
  exact ⟨report, member, deleted, mem_answeredWhileClosed answered⟩

end OpcUa.Client
