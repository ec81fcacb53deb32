import Mathlib.Data.List.Induction
import Mathlib.Logic.Function.Basic
import PacketDiversion.Host.Scripted
import PacketDiversion.Proofs.Refusals
import PacketDiversion.Proofs.Request.Layout

/-!
# The driver's parameters as a store

A driver keeps a value for each parameter number. It decodes the requests that it gets from their 16
bytes, stores what a request to set a parameter holds when it carries it out, and answers a request
to read one with the stored value. Whether it has carried a request out is known to the driver
only: a caller who is told of a failure cannot tell.

Over such a driver every history of calls reads back what was stored last, stores nothing but values
within bounds, and never changes a version (`parameters_stored`).
-/

namespace PacketDiversion

open Program

/-! ### The driver's side -/

/-- The driver's value for each parameter number. -/
abbrev ParameterTable := UInt32 → UInt64

/-- A request with its reply, and whether the driver has carried it out. -/
structure Served where
  answered : Answered
  completed : Bool

/-- The number and the value that the driver finds in a request to set a parameter. -/
def Request.sets? (r : Request) : Option (UInt32 × UInt64) :=
  match r.payload with
  | .block b =>
    if r.code = RequestCode.setParameter then some (b.setView.parameter, b.setView.value) else none
  | .recv _ | .send .. => none

/-- The number that the driver finds in a request to read a parameter. -/
def Request.gets? (r : Request) : Option UInt32 :=
  match r.payload with
  | .block b => if r.code = RequestCode.getParameter then some b.getView.parameter else none
  | .recv _ | .send .. => none

def Served.stored? (x : Served) : Option (UInt32 × UInt64) :=
  if x.completed then x.answered.request.sets? else none

/-- The values stored for a parameter number, in order. -/
def storedFor (id : UInt32) (log : List Served) : List UInt64 :=
  (log.filterMap Served.stored?).filterMap fun w => if w.1 = id then some w.2 else none

namespace ParameterTable

def store (t : ParameterTable) (x : Served) : ParameterTable :=
  match x.stored? with
  | some (id, value) => Function.update t id value
  | none => t

def after (t : ParameterTable) (log : List Served) : ParameterTable := log.foldl store t

/-- A reply of success is given for what was carried out, and to a request to read a parameter it is
the stored value. -/
def Answers (t : ParameterTable) (x : Served) : Prop :=
  match x.answered.done with
  | ⟨.finished _, written⟩ =>
    x.completed = true
      ∧ ∀ id ∈ x.answered.request.gets?, written.output = Block.bytes64 (t id)
  | ⟨.failed _, _⟩ | ⟨.panicked, _⟩ => True

/-- The driver keeps the table through a log of requests. -/
def Keeps : ParameterTable → List Served → Prop
  | _, [] => True
  | t, x :: rest => t.Answers x ∧ Keeps (t.store x) rest

instance : (t : ParameterTable) → (x : Served) → Decidable (t.Answers x)
  | t, ⟨⟨_, request, ⟨.finished _, written⟩⟩, completed⟩ =>
    -- by the option: there are too many numbers to try each of them
    have : Decidable (∀ id ∈ request.gets?, written.output = Block.bytes64 (t id)) :=
      Option.decidableForallMem _
    inferInstanceAs (Decidable (completed = true
      ∧ ∀ id ∈ request.gets?, written.output = Block.bytes64 (t id)))
  | _, ⟨⟨_, _, ⟨.failed _, _⟩⟩, _⟩ | _, ⟨⟨_, _, ⟨.panicked, _⟩⟩, _⟩ => isTrue trivial

instance decidableKeeps : (t : ParameterTable) → (log : List Served) → Decidable (t.Keeps log)
  | _, [] => isTrue trivial
  | t, x :: rest =>
    have := decidableKeeps (t.store x) rest
    inferInstanceAs (Decidable (t.Answers x ∧ Keeps (t.store x) rest))

variable {t : ParameterTable}

theorem after_append (t : ParameterTable) (before rest : List Served) :
    t.after (before ++ rest) = (t.after before).after rest := List.foldl_append

theorem keeps_append_iff {before rest : List Served} :
    t.Keeps (before ++ rest) ↔ t.Keeps before ∧ (t.after before).Keeps rest := by
  induction before generalizing t with
  | nil => simp only [List.nil_append, Keeps, true_and, after, List.foldl_nil]
  | cons x before ih => simp only [List.cons_append, Keeps, ih, and_assoc, after, List.foldl_cons]

theorem store_of_none {x : Served} (h : x.stored? = none) : t.store x = t := by
  simp only [store, h]

theorem store_of_some {x : Served} {id : UInt32} {value : UInt64}
    (h : x.stored? = some (id, value)) : t.store x = Function.update t id value := by
  simp only [store, h]

/-- An entry holds the value that was stored last, or else the initial one. -/
theorem after_apply (t : ParameterTable) (log : List Served) (id : UInt32) :
    t.after log id = (storedFor id log).getLastD (t id) := by
  induction log generalizing t with
  | nil => rfl
  | cons x log ih =>
    have hcons : t.after (x :: log) = (t.store x).after log := rfl
    rw [hcons, ih]
    cases hstored : x.stored? with
    | none =>
      have hskip : storedFor id (x :: log) = storedFor id log := by simp [storedFor, hstored]
      rw [hskip, store_of_none hstored]
    | some w =>
      obtain ⟨n, value⟩ := w
      by_cases hid : n = id
      · subst hid
        have hfirst : storedFor n (x :: log) = value :: storedFor n log := by
          simp [storedFor, hstored]
        rw [hfirst, List.getLastD_cons, store_of_some hstored, Function.update_self]
      · have hskip : storedFor id (x :: log) = storedFor id log := by
          simp [storedFor, hstored, hid]
        rw [hskip, store_of_some hstored, Function.update_of_ne (Ne.symm hid)]

end ParameterTable

/-! ### What the requests hold -/

section Requests

variable {p : Parameter} {value : UInt64}

theorem Request.sets?_read : (Request.read p).sets? = none := by
  have hcode : RequestCode.getParameter ≠ RequestCode.setParameter := by decide
  simp only [sets?, read, hcode, ↓reduceIte]

theorem Request.gets?_read : (Request.read p).gets? = some p.id := by
  have hparameter : (Block.getParameter p).getView.parameter = p.id := by
    rw [Block.getParameter, Block.getView_layOut]
  simp only [gets?, read, ↓reduceIte, hparameter]

theorem Request.sets?_write : (Request.write p value).sets? = some (p.id, value) := by
  have hview : (Block.setParameter p value).setView = ⟨value, p.id, 0⟩ := Block.setView_layOut _
  simp only [sets?, write, ↓reduceIte, hview]

theorem ParameterTable.after_read {t : ParameterTable} {handle : Handle} {done : Completion}
    {completed : Bool} : t.after [⟨⟨handle, .read p, done⟩, completed⟩] = t := by
  have hstored : Served.stored? ⟨⟨handle, .read p, done⟩, completed⟩ = none := by
    rw [Served.stored?, Request.sets?_read, ite_self]
  exact store_of_none hstored

theorem ParameterTable.after_write {t : ParameterTable} {handle : Handle} {done : Completion}
    {completed : Bool} :
    t.after [⟨⟨handle, .write p value, done⟩, completed⟩]
      = if completed then Function.update t p.id value else t := by
  cases completed with
  | false => rfl
  | true =>
    have hstored : Served.stored? ⟨⟨handle, .write p value, done⟩, true⟩ = some (p.id, value) :=
      Request.sets?_write
    exact store_of_some hstored

theorem Request.valueRead_eq {done : Completion}
    (houtput : done.written.output = Block.bytes64 value) : Request.valueRead p done = value := by
  have hslot : overlay (Block.getParameter p).valueSlot (Block.bytes64 value)
      = Block.bytes64 value := overlay_of_length (by simp)
  rw [valueRead, houtput, hslot]
  exact Block.value_writeSlot _ value

theorem Parameter.check_eq_ok_iff :
    p.check value = .ok () ↔ ∃ bounds, p.bounds = some bounds ∧ bounds.Contains value := by
  unfold check
  cases hbounds : p.bounds with
  | none => simp
  | some bounds =>
    by_cases hwithin : bounds.Contains value
    · simp [hwithin]
    · simp [hwithin]

theorem Parameter.id_injective {p q : Parameter} (h : p.id = q.id) : p = q := by
  cases p <;> cases q <;> simp_all [id]

theorem Parameter.mem_tunable {bounds : Bounds} (h : p.bounds = some bounds) :
    p ∈ [Parameter.queueLength, .queueTime, .queueSize] := by
  cases p with
  | queueLength => decide
  | queueTime => decide
  | queueSize => decide
  | versionMajor => cases h
  | versionMinor => cases h

end Requests

/-! ### The caller's side -/

/-- A call that reads or sets a parameter, with its outcome. -/
inductive Access
  | read (p : Parameter) (outcome : Outcome SessionError UInt64)
  | set (p : Parameter) (value : UInt64) (outcome : Outcome SessionError Unit)

def Access.Ran (s : Session) (events : List Event) : Access → Prop
  | read p outcome => Runs (s.getParameter p) events outcome
  | set p value outcome => Runs (s.setParameter p value) events outcome

/-- A call on a session, with what the system and the driver saw of it. -/
structure Turn where
  session : Session
  access : Access
  events : List Event
  log : List Served

structure Turn.Done (x : Turn) : Prop where
  ran : x.access.Ran x.session x.events
  served : x.log.map Served.answered = exchanges x.events

/-- The driver's log of some calls. -/
def logOf (turns : List Turn) : List Served := turns.flatMap Turn.log

/-- What a call has to do with the driver's store, which the log before it has made of a table. -/
structure Turn.Stores (t : ParameterTable) (before : List Served) (x : Turn) : Prop where
  /-- A value that is read is the one stored last for the parameter, or else the initial one, and
  reading changes nothing. -/
  reads : ∀ p outcome, x.access = .read p outcome →
    (∀ value, outcome = .ok value → value = (storedFor p.id before).getLastD (t p.id))
      ∧ t.after (before ++ x.log) = t.after before
  /-- Only a value within the bounds of a parameter that can be tuned is sent to be stored. -/
  sends : ∀ r ∈ issued x.events, ∀ id value, r.2.sets? = some (id, value) →
    ∃ p bounds outcome, x.access = .set p value outcome ∧ id = p.id
      ∧ p ∈ [Parameter.queueLength, .queueTime, .queueSize]
      ∧ p.bounds = some bounds ∧ bounds.Contains value
  /-- A value that is set successfully is stored for the parameter and for no other. -/
  sets : ∀ p value, x.access = .set p value (.ok ()) →
    t.after (before ++ x.log) = Function.update (t.after before) p.id value

section Turns

variable {t : ParameterTable} {x : Turn} {p : Parameter} {value : UInt64}

/-- A call that makes a single request shows the driver that request, or nothing if no event could
be had. -/
theorem Turn.Done.log_cases (done : x.Done) {handle : Handle} {request : Request}
    {reply : Completion} (single : Single handle request x.events reply) :
    (∃ e, reply = ⟨.failed e, {}⟩ ∧ x.log = [] ∧ issued x.events = [])
      ∨ ∃ completed, x.log = [⟨⟨handle, request, reply⟩, completed⟩]
        ∧ issued x.events = [(handle, request)] := by
  have hserved := done.served
  rcases single.requests_cases with ⟨e, hreply, hexchanges, hissued⟩ | ⟨hexchanges, hissued⟩
  · rw [hexchanges, List.map_eq_nil_iff] at hserved
    exact .inl ⟨e, hreply, hserved, hissued⟩
  · rw [hexchanges] at hserved
    obtain ⟨served, rest, hlog, hanswered, hrest⟩ := List.map_eq_cons_iff.mp hserved
    obtain ⟨answered, completed⟩ := served
    cases hanswered
    rw [List.map_eq_nil_iff.mp hrest] at hlog
    exact .inr ⟨completed, hlog, hissued⟩

theorem after_of_read {before : List Served} {outcome : Outcome SessionError UInt64}
    (done : x.Done) (haccess : x.access = .read p outcome) :
    t.after (before ++ x.log) = t.after before := by
  have ran := done.ran
  rw [haccess] at ran
  obtain ⟨reply, single, -⟩ := Session.runs_getParameter_iff.mp ran
  rcases done.log_cases single with ⟨e, -, hlog, -⟩ | ⟨completed, hlog, -⟩
  · rw [hlog, List.append_nil]
  · rw [t.after_append, hlog, ParameterTable.after_read]

/-- What a call to set a parameter may have stored, whether or not it has succeeded. -/
theorem after_of_set {before : List Served} {outcome : Outcome SessionError Unit}
    (done : x.Done) (haccess : x.access = .set p value outcome) :
    t.after (before ++ x.log) = t.after before
      ∨ p.check value = .ok ()
        ∧ t.after (before ++ x.log) = Function.update (t.after before) p.id value := by
  have ran := done.ran
  rw [haccess] at ran
  rcases Session.runs_setParameter_iff.mp ran with ⟨e, -, hevents, -⟩ | ⟨hcheck, reply, single, -⟩
  · have hserved := done.served
    rw [hevents] at hserved
    rw [List.map_eq_nil_iff.mp hserved, List.append_nil]
    exact .inl rfl
  · rcases done.log_cases single with ⟨e, -, hlog, -⟩ | ⟨completed, hlog, -⟩
    · rw [hlog, List.append_nil]
      exact .inl rfl
    · rw [t.after_append, hlog, ParameterTable.after_write]
      cases completed with
      | false => exact .inl rfl
      | true => exact .inr ⟨hcheck, rfl⟩

/-- A call that sends nothing and fails changes nothing. -/
theorem stores_of_silent {before : List Served} (hlog : x.log = [])
    (hissued : issued x.events = []) (unread : ∀ p value, x.access ≠ .read p (.ok value))
    (unset : ∀ p value, x.access ≠ .set p value (.ok ())) : x.Stores t before := by
  refine ⟨?_, ?_, ?_⟩
  · intro p outcome haccess
    rw [hlog, List.append_nil]
    refine ⟨fun value hok => ?_, rfl⟩
    exact absurd (hok ▸ haccess) (unread p value)
  · intro r hr
    rw [hissued] at hr
    cases hr
  · intro p value haccess
    exact absurd haccess (unset p value)

theorem stores_of_read {before : List Served} {outcome : Outcome SessionError UInt64}
    (done : x.Done) (haccess : x.access = .read p outcome) (keeps : (t.after before).Keeps x.log) :
    x.Stores t before := by
  have hafter : t.after (before ++ x.log) = t.after before := after_of_read done haccess
  have ran := done.ran
  rw [haccess] at ran
  obtain ⟨reply, single, houtcome⟩ := Session.runs_getParameter_iff.mp ran
  rcases done.log_cases single with ⟨e, rfl, hlog, hissued⟩ | ⟨completed, hlog, hissued⟩
  · refine stores_of_silent hlog hissued ?_ ?_
    · intro q value hq
      cases haccess.symm.trans hq
      cases houtcome
    · intro q value hq
      cases haccess.symm.trans hq
  · refine ⟨?_, ?_, ?_⟩
    · intro q found hq
      cases haccess.symm.trans hq
      refine ⟨fun value hok => ?_, hafter⟩
      rw [houtcome] at hok
      rw [hlog] at keeps
      obtain ⟨verdict, written⟩ := reply
      cases verdict with
      | finished bytes =>
        have houtput : written.output = Block.bytes64 (t.after before p.id) :=
          keeps.1.2 p.id Request.gets?_read
        have hvalue : Request.valueRead p ⟨.finished bytes, written⟩ = value := by
          simpa [Verdict.outcome, Outcome.map] using hok
        rw [← hvalue, Request.valueRead_eq houtput, t.after_apply]
      | failed e => cases hok
      | panicked => cases hok
    · intro r hr id value hsets
      rw [hissued, List.mem_singleton] at hr
      rw [hr, Request.sets?_read] at hsets
      cases hsets
    · intro q value hq
      cases haccess.symm.trans hq

theorem stores_of_set {before : List Served} {outcome : Outcome SessionError Unit}
    (done : x.Done) (haccess : x.access = .set p value outcome)
    (keeps : (t.after before).Keeps x.log) : x.Stores t before := by
  have ran := done.ran
  rw [haccess] at ran
  have unread : ∀ q found, x.access ≠ .read q (.ok found) := by
    intro q found hq
    cases haccess.symm.trans hq
  rcases Session.runs_setParameter_iff.mp ran with
    ⟨e, -, hevents, houtcome⟩ | ⟨hcheck, reply, single, houtcome⟩
  · have hserved := done.served
    rw [hevents] at hserved
    refine stores_of_silent (List.map_eq_nil_iff.mp hserved) (by rw [hevents]; rfl) unread ?_
    intro q found hq
    cases haccess.symm.trans hq
    cases houtcome
  · rcases done.log_cases single with ⟨e, rfl, hlog, hissued⟩ | ⟨completed, hlog, hissued⟩
    · refine stores_of_silent hlog hissued unread ?_
      intro q found hq
      cases haccess.symm.trans hq
      cases houtcome
    · refine ⟨?_, ?_, ?_⟩
      · intro q found hq
        cases haccess.symm.trans hq
      · intro r hr id found hsets
        rw [hissued, List.mem_singleton] at hr
        rw [hr, Request.sets?_write] at hsets
        cases hsets
        obtain ⟨bounds, hbounds, hwithin⟩ := Parameter.check_eq_ok_iff.mp hcheck
        exact ⟨p, bounds, outcome, haccess, rfl, Parameter.mem_tunable hbounds, hbounds, hwithin⟩
      · intro q found hq
        cases haccess.symm.trans hq
        rw [hlog] at keeps
        obtain ⟨verdict, written⟩ := reply
        cases verdict with
        | finished bytes =>
          have hcompleted : completed = true := keeps.1.1
          rw [t.after_append, hlog, ParameterTable.after_write, if_pos hcompleted]
        | failed e => cases houtcome
        | panicked => cases houtcome

theorem stores_of_done {before : List Served} (done : x.Done)
    (keeps : (t.after before).Keeps x.log) : x.Stores t before := by
  cases haccess : x.access with
  | read p outcome => exact stores_of_read done haccess keeps
  | set p value outcome => exact stores_of_set done haccess keeps

end Turns

/-! ### Histories -/

section Histories

variable {t : ParameterTable} {turns : List Turn}

theorem logOf_append (before rest : List Turn) :
    logOf (before ++ rest) = logOf before ++ logOf rest := List.flatMap_append

/-- A condition on one entry that every value within the entry's bounds meets holds for good. -/
theorem entry_kept {p : Parameter} (good : UInt64 → Prop)
    (within : ∀ value, p.check value = .ok () → good value) (done : ∀ x ∈ turns, x.Done)
    (start : good (t p.id)) : good (t.after (logOf turns) p.id) := by
  induction turns using List.reverseRecOn with
  | nil => exact start
  | append_singleton turns x ih =>
    have hbefore : good (t.after (logOf turns) p.id) :=
      ih fun y hy => done y (List.mem_append_left _ hy)
    have hx : x.Done := done x (by simp)
    have hlog : logOf (turns ++ [x]) = logOf turns ++ x.log := by simp [logOf]
    rw [hlog]
    cases haccess : x.access with
    | read q outcome =>
      rw [after_of_read hx haccess]
      exact hbefore
    | set q value outcome =>
      rcases after_of_set hx haccess with hsame | ⟨hcheck, hupdate⟩
      · rw [hsame]
        exact hbefore
      · rw [hupdate]
        by_cases hq : q = p
        · subst hq
          rw [Function.update_self]
          exact within value hcheck
        · have hid : p.id ≠ q.id := fun h => hq (Parameter.id_injective h.symm)
          rw [Function.update_of_ne hid]
          exact hbefore

theorem keeps_of_split {before rest : List Turn} {x : Turn}
    (keeps : t.Keeps (logOf (before ++ x :: rest))) : (t.after (logOf before)).Keeps x.log := by
  rw [logOf_append] at keeps
  have hrest := (ParameterTable.keeps_append_iff.mp keeps).2
  exact (ParameterTable.keeps_append_iff.mp hrest).1

/-- Writing back what was just read changes nothing. -/
theorem after_of_writeBack {before : List Served} {x y : Turn} {p : Parameter} {value : UInt64}
    {outcome : Outcome SessionError Unit} (hy : y.Done) (stores : x.Stores t before)
    (hread : x.access = .read p (.ok value)) (hset : y.access = .set p value outcome) :
    t.after (before ++ (x.log ++ y.log)) = t.after before := by
  obtain ⟨hvalue, hkept⟩ := stores.reads p _ hread
  have hentry : t.after before p.id = value := by rw [t.after_apply, hvalue value rfl]
  have hafter : t.after (before ++ x.log ++ y.log) = t.after (before ++ x.log)
      ∨ p.check value = .ok () ∧ t.after (before ++ x.log ++ y.log)
        = Function.update (t.after (before ++ x.log)) p.id value := after_of_set hy hset
  rw [← List.append_assoc]
  rcases hafter with hsame | ⟨-, hupdate⟩
  · exact hsame.trans hkept
  · rw [hupdate, hkept, ← hentry]
    exact Function.update_eq_self _ _

/-- Over a driver that keeps a table, whatever else fails: every call has to do with the store what
it should; versions never change; an entry that starts within its bounds stays within them; and
writing back a value that was just read, if it is within its bounds, is not refused and changes
nothing. -/
theorem parameters_stored (done : ∀ x ∈ turns, x.Done) (keeps : t.Keeps (logOf turns)) :
    (∀ before x rest, turns = before ++ x :: rest → x.Stores t (logOf before))
      ∧ (∀ p : Parameter, p.bounds = none → t.after (logOf turns) p.id = t p.id)
      ∧ (∀ (p : Parameter) bounds, p.bounds = some bounds → bounds.Contains (t p.id) →
        bounds.Contains (t.after (logOf turns) p.id))
      ∧ ∀ before x y rest p value outcome bounds, turns = before ++ x :: y :: rest →
        x.access = .read p (.ok value) → y.access = .set p value outcome →
        p.bounds = some bounds → bounds.Contains value →
        (∀ e, outcome = .error e → ¬ e.IsLocal)
          ∧ t.after (logOf (before ++ [x, y])) = t.after (logOf before) := by
  have stores (before : List Turn) (x : Turn) (rest : List Turn)
      (heq : turns = before ++ x :: rest) : x.Stores t (logOf before) :=
    stores_of_done (done x (by simp [heq])) (keeps_of_split (heq ▸ keeps))
  refine ⟨stores, ?_, ?_, ?_⟩
  · intro p hnone
    refine entry_kept (· = t p.id) (fun value hcheck => ?_) done rfl
    obtain ⟨bounds, hbounds, -⟩ := Parameter.check_eq_ok_iff.mp hcheck
    cases hnone.symm.trans hbounds
  · intro p bounds hbounds hstart
    refine entry_kept bounds.Contains (fun value hcheck => ?_) done hstart
    obtain ⟨bounds', hbounds', hwithin⟩ := Parameter.check_eq_ok_iff.mp hcheck
    cases hbounds.symm.trans hbounds'
    exact hwithin
  · intro before x y rest p value outcome bounds heq hread hset hbounds hwithin
    have hy : y.Done := done y (by simp [heq])
    constructor
    · intro e he
      have ran := hy.ran
      rw [hset, he] at ran
      exact Session.not_isLocal_of_setParameter
        (Parameter.check_eq_ok_iff.mpr ⟨bounds, hbounds, hwithin⟩) ran
    · have hlog : logOf (before ++ [x, y]) = logOf before ++ (x.log ++ y.log) := by simp [logOf]
      rw [hlog]
      exact after_of_writeBack hy (stores before x (y :: rest) heq) hread hset

end Histories

/-! ### A history on the scripted system -/

/-- A call whose requests the driver carries out, whatever the caller is told. -/
def Turn.carriedOut (s : Session) (access : Access) (events : List Event) : Turn where
  session := s
  access := access
  events := events
  log := (exchanges events).map fun x => ⟨x, true⟩

theorem Turn.done_carriedOut {s : Session} {access : Access} {events : List Event}
    (ran : access.Ran s events) : (carriedOut s access events).Done where
  ran := ran
  served := by
    rw [carriedOut, List.map_map]
    exact List.map_id _

namespace Retuning

open Scripted (System)

def session : Session := ⟨0x104, ⟨.withEvent 0x108⟩, ⟨.withEvent 0x10C⟩⟩

/-- Every request is pending, the first wait fails, and so does the release of the last event. -/
def system : System where
  pend := true
  fates p :=
    if p = .wait then [.failure 995]
    else if p = .closeEvent then [.success, .success, .failure 6]
    else []

/-- The driver has set the length, but the caller is told of a failure. -/
def doubted : Transcript System (Outcome SessionError Unit) :=
  (session.setParameter .queueLength 9000).run Scripted.host system

def readBack : Transcript System (Outcome SessionError UInt64) :=
  (session.getParameter .queueLength).run Scripted.host doubted.state

def writtenBack : Transcript System (Outcome SessionError Unit) :=
  (session.setParameter .queueLength 9000).run Scripted.host readBack.state

def turns : List Turn :=
  [.carriedOut session (.set .queueLength 9000 doubted.value) doubted.events,
    .carriedOut session (.read .queueLength readBack.value) readBack.events,
    .carriedOut session (.set .queueLength 9000 writtenBack.value) writtenBack.events]

theorem retuning_stored :
    doubted.value = .error (.host .setParameter (.code 995)) ∧ readBack.value = .ok 9000
      ∧ writtenBack.value = .ok ()
      ∧ ParameterTable.after system.parameter (logOf turns) 3 = 2
      ∧ ParameterTable.after system.parameter (logOf turns)
        = ParameterTable.after system.parameter (logOf (turns.take 1)) := by
  have hread : readBack.value = .ok 9000 := by decide +kernel
  have done : ∀ x ∈ turns, x.Done := by
    intro x hx
    simp only [turns, List.mem_cons, List.not_mem_nil, or_false] at hx
    rcases hx with rfl | rfl | rfl
    · exact Turn.done_carriedOut (runs_run _ _ _)
    · exact Turn.done_carriedOut (runs_run _ _ _)
    · exact Turn.done_carriedOut (runs_run _ _ _)
  have keeps : ParameterTable.Keeps system.parameter (logOf turns) := by decide +kernel
  obtain ⟨-, hversions, -, hback⟩ := parameters_stored done keeps
  have hsame := hback (turns.take 1) _ _ [] .queueLength 9000 _ _ rfl
    (congrArg (Access.read _) hread) rfl rfl (by decide)
  exact ⟨by decide +kernel, hread, by decide +kernel, hversions .versionMajor rfl, hsame.2⟩

end Retuning

end PacketDiversion
