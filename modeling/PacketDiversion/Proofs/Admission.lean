import PacketDiversion.Host.Scripted
import PacketDiversion.Proofs.Handles.Frame
import PacketDiversion.Proofs.Refusals

/-!
# Arguments that are taken and arguments that are refused

An operation refuses its arguments by a check of its own, before it asks the system for anything.
`Action.refusal?` says which arguments are refused, and with which error. Nothing else is: an
operation meets a local error exactly when its check fails, then without a call and without a change
to the client, and any other operation comes out as the system's replies say (`rejections_exact`).
-/

namespace PacketDiversion

open Program

/-! ### Zero bytes -/

namespace Filter

/-- The bytes of a filter text. -/
def bytes (s : String) : List UInt8 := s.toByteArray.data.toList

theorem bytes_eq_flatMap (s : String) : bytes s = s.toList.flatMap String.utf8EncodeChar := by
  have hs : s.toByteArray = s.toList.utf8Encode := by
    rw [← String.toByteArray_ofList, String.ofList_toList]
  rw [bytes, hs, List.utf8Encode, List.data_toByteArray]

/-- Only the NUL has a zero byte in its encoding. -/
theorem zero_mem_utf8EncodeChar_iff {c : Char} :
    0 ∈ String.utf8EncodeChar c ↔ c = '\x00' := by
  constructor
  · intro h
    have same : c.toNat = c.val.toNat := rfl
    have hzero : c.val.toNat = 0 := by
      unfold String.utf8EncodeChar at h
      dsimp only at h
      -- the bytes of a longer encoding have their highest bit set
      split at h
      · simp [← UInt8.toNat_inj] at h
        omega
      · split at h
        · simp [← UInt8.toNat_inj] at h
          omega
        · split at h
          · simp [← UInt8.toNat_inj] at h
            omega
          · simp [← UInt8.toNat_inj] at h
            omega
    exact Char.ext (UInt32.toNat_inj.mp hzero)
  · rintro rfl
    decide

/-- The offset of the first NUL is that of the first zero byte. -/
theorem idxOf?_bytes (s : String) :
    (bytes s).idxOf? 0
      = if '\x00' ∈ s.toList then some (nulOffset s.toList) else none := by
  rw [bytes_eq_flatMap]
  induction s.toList with
  | nil => rfl
  | cons c rest ih =>
    by_cases nul : c = '\x00'
    · rw [nul, if_pos List.mem_cons_self]
      rfl
    · have foreign : (String.utf8EncodeChar c).idxOf? 0 = none :=
        List.idxOf?_eq_none_iff.mpr fun h => nul (zero_mem_utf8EncodeChar_iff.mp h)
      have step : ((c :: rest).flatMap String.utf8EncodeChar).idxOf? 0
          = ((rest.flatMap String.utf8EncodeChar).idxOf? 0).map fun n => n + c.utf8Size := by
        unfold List.idxOf? at foreign ⊢
        rw [List.flatMap_cons, List.findIdx?_append, foreign, Option.none_or,
          String.length_utf8EncodeChar]
      have mem : '\x00' ∈ c :: rest ↔ '\x00' ∈ rest := by simp [Ne.symm nul]
      rw [step, ih, nulOffset, if_neg nul]
      by_cases hrest : '\x00' ∈ rest
      · rw [if_pos hrest, if_pos (mem.mpr hrest), Option.map_some, Nat.add_comm]
      · rw [if_neg hrest, if_neg (mt mem.mp hrest), Option.map_none]

example : (bytes "é\x00").idxOf? 0 = some 2 := by decide +kernel

end Filter

/-! ### Checks -/

theorem Priority.valid_iff {p : Int} : Priority.Valid p ↔ ¬ (p < -30000 ∨ 30000 < p) := by
  unfold Priority.Valid Priority.lowest Priority.highest
  omega

/-- The error with which an action refuses its arguments, if it does. -/
def Action.refusal? : Action → Option SessionError
  | .openSession _ filter _ priority _ =>
    if priority < -30000 ∨ 30000 < priority then some (.priority priority (-30000) 30000)
    else ((Filter.bytes filter).idxOf? 0).map .filter
  | .setParameter _ p value =>
    match p.bounds with
    | none => some (.readOnly p)
    | some bounds =>
      if value < bounds.min ∨ bounds.max < value then some (.parameterRange p value bounds)
      else none
  | .recvBatch _ _ records _ => if records = [] then some (.argument .noAddressSlot) else none
  | .sendBatch _ _ records _ => if records = [] then some (.argument .noAddress) else none
  | .relay _ _ o => if o.batch = 0 ∨ o.bufferSize = 0 then some (.argument .emptyRelay) else none
  | _ => none

namespace Action

variable {slot : Nat} {e : SessionError}

section OpenSession

variable {filter : String} {layer : Layer} {priority : Int} {flags : Flags}

theorem openSession_of_refusal
    (h : (openSession slot filter layer priority flags).refusal? = some e) (d : Driver) :
    d.openSession filter layer priority flags = done (.error e, d) := by
  by_cases valid : Priority.Valid priority
  · rw [refusal?, if_neg (Priority.valid_iff.mp valid), Filter.idxOf?_bytes] at h
    by_cases nul : '\x00' ∈ filter.toList
    · rw [if_pos nul] at h
      cases h
      exact Driver.openSession_of_nul valid nul
    · rw [if_neg nul] at h
      cases h
  · have outside : priority < -30000 ∨ 30000 < priority := by
      by_contra inside
      exact valid (Priority.valid_iff.mpr inside)
    rw [refusal?, if_pos outside] at h
    cases h
    have hpriority : Priority.check priority = .error (.priority priority (-30000) 30000) :=
      if_neg valid
    simp only [Driver.openSession, hpriority, pure_eq]

theorem taken_of_openSession
    (h : (openSession slot filter layer priority flags).refusal? = none) :
    Priority.Valid priority ∧ '\x00' ∉ filter.toList := by
  have inside : ¬ (priority < -30000 ∨ 30000 < priority) := by
    intro outside
    rw [refusal?, if_pos outside] at h
    cases h
  refine ⟨Priority.valid_iff.mpr inside, fun nul => ?_⟩
  rw [refusal?, if_neg inside, Filter.idxOf?_bytes, if_pos nul] at h
  cases h

end OpenSession

/-- The check of a value says the same. -/
theorem check_eq_refusal (slot : Nat) (p : Parameter) (value : UInt64) :
    p.check value = match (setParameter slot p value).refusal? with
      | none => .ok ()
      | some e => .error e := by
  unfold Parameter.check refusal?
  cases hbounds : p.bounds with
  | none => simp only [hbounds]
  | some bounds =>
    have hcontains : bounds.Contains value ↔ ¬ (value < bounds.min ∨ bounds.max < value) := by
      rw [Bounds.Contains, not_or, UInt64.not_lt, UInt64.not_lt]
    by_cases outside : value < bounds.min ∨ bounds.max < value
    · simp only [hbounds, if_pos outside, if_neg (fun h => hcontains.mp h outside)]
    · simp only [hbounds, if_neg outside, if_pos (hcontains.mpr outside)]

end Action

theorem Action.isLocal_of_refusal {a : Action} {e : SessionError} (h : a.refusal? = some e) :
    e.IsLocal := by
  cases a with
  | openSession slot filter layer priority flags =>
    by_cases outside : priority < -30000 ∨ 30000 < priority
    · rw [refusal?, if_pos outside] at h
      cases h
      trivial
    · rw [refusal?, if_neg outside] at h
      obtain ⟨n, -, rfl⟩ := Option.map_eq_some_iff.mp h
      trivial
  | setParameter slot p value =>
    simp only [refusal?] at h
    split at h
    · cases h
      trivial
    · obtain ⟨-, heq⟩ := Option.ite_none_right_eq_some.mp h
      cases heq
      trivial
  | recvBatch slot buffer records context =>
    obtain ⟨-, heq⟩ := Option.ite_none_right_eq_some.mp h
    cases heq
    trivial
  | sendBatch slot data records context =>
    obtain ⟨-, heq⟩ := Option.ite_none_right_eq_some.mp h
    cases heq
    trivial
  | relay slot limit o =>
    obtain ⟨-, heq⟩ := Option.ite_none_right_eq_some.mp h
    cases heq
    trivial
  | _ => cases h

namespace Client

/-- The client has the sessions and the contexts that an action names, and a free slot for the
session that it opens. -/
def Allows (c : Client) : Action → Prop
  | .openSession slot .. => c.sessions.get? slot = none
  | .recvBatch slot _ _ context | .sendBatch slot _ _ context =>
    (c.sessions.get? slot).isSome ∧ ∀ k ∈ context, (c.contexts.get? k).isSome
  | .contextEvent k | .releaseContext k | .dropContext k => (c.contexts.get? k).isSome
  | .control _ _ _ _ context => ∀ k ∈ context, (c.contexts.get? k).isSome
  | a => ∀ slot ∈ a.session?, (c.sessions.get? slot).isSome

/-- The same driver, sessions and contexts. -/
structure Alike (c d : Client) : Prop where
  driver : d.driver = c.driver
  sessions : ∀ k, d.sessions.get? k = c.sessions.get? k
  contexts : ∀ k, d.contexts.get? k = c.contexts.get? k

variable {c : Client}

theorem alike_putSession {slot : Nat} {s : Session} (hs : c.sessions.get? slot = some s) :
    c.Alike (c.putSession slot s) where
  driver := rfl
  sessions k := by
    by_cases hk : k = slot
    · rw [hk, hs]
      exact Slots.get?_set_self c.sessions slot s
    · exact Slots.get?_set_of_ne hk c.sessions s
  contexts _ := rfl

theorem Alike.putContext? {d : Client} (alike : c.Alike d) (context : Option Nat) :
    c.Alike (d.putContext? context (context.bind c.contexts.get?)) := by
  cases context with
  | none => exact alike
  | some slot =>
    cases hown : c.contexts.get? slot with
    | none =>
      rw [Option.bind_some, hown]
      exact alike
    | some own =>
      rw [Option.bind_some, hown]
      refine ⟨alike.driver, alike.sessions, fun k => ?_⟩
      by_cases hk : k = slot
      · rw [hk, hown]
        exact Slots.get?_set_self d.contexts slot own
      · exact (Slots.get?_set_of_ne hk d.contexts own).trans (alike.contexts k)

theorem withContext?_of_allowed {context : Option Nat}
    (h : ∀ k ∈ context, (c.contexts.get? k).isSome) (act : Option Context → Program Result) :
    c.withContext? context act = act (context.bind c.contexts.get?) := by
  cases context with
  | none => rfl
  | some k =>
    obtain ⟨own, hown⟩ := Option.isSome_iff_exists.mp (h k rfl)
    rw [withContext?, withContext, Option.bind_some, hown]

/-! ### Refusing -/

/-- What is refused makes no call and leaves the client as it was. -/
theorem step_of_refusal {a : Action} {e : SessionError} (allowed : c.Allows a)
    (h : a.refusal? = some e) :
    ∃ next, c.step a = done (.error (.session e), next) ∧ c.Alike next := by
  cases a with
  | openSession slot filter layer priority flags =>
    have free : c.sessions.get? slot = none := allowed
    have hopen := Action.openSession_of_refusal h c.driver
    refine ⟨c, ?_, rfl, fun _ => rfl, fun _ => rfl⟩
    simp only [step, openSession, free, hopen, done_bind, pure_eq]
  | setParameter slot p value =>
    obtain ⟨s, hs⟩ := Option.isSome_iff_exists.mp (allowed slot rfl)
    have hcheck : p.check value = .error e := by
      rw [Action.check_eq_refusal slot, h]
    refine ⟨c, ?_, rfl, fun _ => rfl, fun _ => rfl⟩
    simp only [step, withSession_of_some hs, Session.setParameter, hcheck, pure_eq, done_bind]
    rfl
  | recvBatch slot buffer records context =>
    obtain ⟨hsession, hcontexts⟩ := allowed
    obtain ⟨s, hs⟩ := Option.isSome_iff_exists.mp hsession
    obtain ⟨rfl, heq⟩ := Option.ite_none_right_eq_some.mp h
    cases heq
    refine ⟨_, ?_, (alike_putSession hs).putContext? context⟩
    rw [step, withSession_of_some hs, withContext?_of_allowed hcontexts]
    rfl
  | sendBatch slot data records context =>
    obtain ⟨hsession, hcontexts⟩ := allowed
    obtain ⟨s, hs⟩ := Option.isSome_iff_exists.mp hsession
    obtain ⟨rfl, heq⟩ := Option.ite_none_right_eq_some.mp h
    cases heq
    refine ⟨_, ?_, (alike_putSession hs).putContext? context⟩
    rw [step, withSession_of_some hs, withContext?_of_allowed hcontexts]
    rfl
  | relay slot limit o =>
    obtain ⟨s, hs⟩ := Option.isSome_iff_exists.mp (allowed slot rfl)
    obtain ⟨empty, heq⟩ := Option.ite_none_right_eq_some.mp h
    cases heq
    refine ⟨_, ?_, alike_putSession hs⟩
    simp only [step, withSession_of_some hs, relay, Relay.run, if_pos empty, pure_eq, done_bind]
  | _ => cases h

/-! ### Taking -/

/-- How an action ends that refuses nothing. Only what asks for the driver's entry can be rejected
by the gate, and only a relay can be given more than it has room for. -/
inductive Ends (events : List Event) : Action → Outcome Failure Answer → Prop
  | ok {a : Action} (answer : Answer) : Ends events a (.ok answer)
  | failed {a : Action} {operation : Operation} {source : HostError}
      (asks : a.Enters ∨ a.session? ≠ none) (fails : ∃ e ∈ events, e.Fails source) :
    Ends events a (.error (.session (.host operation source)))
  | rejected {a : Action} {reason : Rejection} (enters : a.Enters)
      (run : Runs Driver.check events (.error reason)) :
    Ends events a (.unwound (.rejected reason))
  | panicked {a : Action} (panics : ∃ e ∈ events, e.Panics) : Ends events a (.unwound .host)
  | overrun {slot limit : Nat} {o : Relay.Options} (overfills : ∃ e ∈ events, e.Overfills o) :
    Ends events (.relay slot limit o) (.unwound .overrun)
  | unfit {reason : Rejection} : Ends events .check (.error (.gate reason))
  | apart {a : Action} {source : HostError} (apart : ¬ a.Enters ∧ a.session? = none) :
    Ends events a (.error (.host source))

variable {a : Action} {events : List Event} {outcome : Outcome Failure Answer} {next : Client}

theorem Ends.not_isLocal {e : SessionError} (ends : Ends events a outcome)
    (h : outcome = .error (.session e)) : ¬ e.IsLocal := by
  cases ends with
  | failed asks fails =>
    cases h
    exact id
  | _ => cases h

theorem ends_of_reflects {α : Type} {o : Outcome SessionError α} (answer : α → Answer)
    (asks : a.Enters ∨ a.session? ≠ none) (h : o.Reflects events) :
    Ends events a (report answer o) := by
  cases h with
  | ok value => exact .ok (answer value)
  | host fails => exact .failed asks fails
  | panicked panics => exact .panicked panics

theorem ends_of_upshot {α : Type} {o : Outcome SessionError α} (answer : α → Answer)
    (enters : a.Enters) (h : Driver.Upshot events o) : Ends events a (report answer o) := by
  cases h with
  | rejected run => exact .rejected enters run
  | reflects h => exact ends_of_reflects answer (.inl enters) h

/-- An operation of a session that ends with a report. -/
theorem ends_of_report {α β : Type} {p : Program α} {o : α → Outcome SessionError β}
    {answer : α → β → Answer} {f : α → Client} (asks : a.session? ≠ none)
    (reflects : ∀ {events value}, Runs p events value → (o value).Reflects events)
    (run : Runs (p >>= fun value => pure (report (answer value) (o value), f value)) events
      (outcome, next)) : Ends events a outcome := by
  obtain ⟨value, before, after, rfl, hp, run⟩ := runs_bind_iff.mp run
  obtain ⟨rfl, rfl, -⟩ := runs_pair_iff.mp run
  rw [List.append_nil]
  exact ends_of_reflects _ (.inr asks) (reflects hp)

theorem ends_openSession {slot : Nat} {filter : String} {layer : Layer} {priority : Int}
    {flags : Flags} (free : c.sessions.get? slot = none)
    (taken : (Action.openSession slot filter layer priority flags).refusal? = none)
    (run : Runs (c.openSession slot filter layer priority flags) events (outcome, next)) :
    Ends events (.openSession slot filter layer priority flags) outcome := by
  obtain ⟨valid, nulFree⟩ := Action.taken_of_openSession taken
  unfold openSession at run
  simp only [free] at run
  obtain ⟨⟨opened, driver⟩, before, rest, rfl, hopen, run⟩ := runs_bind_iff.mp run
  have upshot := Driver.upshot_of_openSession valid nulFree hopen
  have ends := ends_of_upshot (a := .openSession slot filter layer priority flags)
    (fun s => .handle s.handle) trivial upshot
  cases opened with
  | ok s =>
    obtain ⟨rfl, rfl, -⟩ := runs_pair_iff.mp run
    exact .ok _
  | error e =>
    obtain ⟨rfl, rfl, -⟩ := runs_pair_iff.mp run
    rw [List.append_nil]
    exact ends
  | unwound why =>
    obtain ⟨rfl, rfl, -⟩ := runs_pair_iff.mp run
    rw [List.append_nil]
    exact ends

theorem ends_relay {slot limit : Nat} {o : Relay.Options} {s : Session}
    (taken : (Action.relay slot limit o).refusal? = none)
    (run : Runs (c.relay slot limit o s) events (outcome, next)) :
    Ends events (.relay slot limit o) outcome := by
  have room : ¬ (o.batch = 0 ∨ o.bufferSize = 0) := by
    intro empty
    rw [Action.refusal?, if_pos empty] at taken
    cases taken
  obtain ⟨⟨ending, t⟩, before, rest, rfl, hrelay, run⟩ := runs_bind_iff.mp run
  have reflects := Relay.reflects_of_run (mt .inl room) (mt .inr room) hrelay
  cases reflects with
  | drained stats =>
    obtain ⟨-, rfl, -⟩ := runs_pair_iff.mp run
    exact .ok _
  | ongoing stats =>
    obtain ⟨-, rfl, -⟩ := runs_pair_iff.mp run
    exact .ok _
  | failed h =>
    obtain ⟨rfl, rfl, -⟩ := runs_pair_iff.mp run
    rw [List.append_nil]
    cases h with
    | host fails => exact .failed (.inr (Option.some_ne_none _)) fails
  | unwound h =>
    obtain ⟨rfl, rfl, -⟩ := runs_pair_iff.mp run
    rw [List.append_nil]
    cases h with
    | panicked panics => exact .panicked panics
  | overrun overfills =>
    obtain ⟨rfl, rfl, -⟩ := runs_pair_iff.mp run
    rw [List.append_nil]
    exact .overrun overfills

theorem ends_createContext {slot context : Nat}
    (run : Runs (c.createContext context) events (outcome, next)) :
    Ends events (.createContext slot context) outcome := by
  obtain ⟨made, before, rest, rfl, hmade, run⟩ := runs_bind_iff.mp run
  have reflects := Session.reflects_of_createContext hmade
  cases made with
  | error e =>
    obtain ⟨rfl, rfl, -⟩ := runs_pair_iff.mp run
    rw [List.append_nil]
    cases reflects with
    | host fails => exact .failed (.inr (Option.some_ne_none _)) fails
  | ok fresh =>
    -- whether or not an old context is let go, the new one is the answer
    dsimp only at run
    split at run
    · obtain ⟨⟨⟩, dropped, last, rfl, -, run⟩ := runs_bind_iff.mp run
      obtain ⟨-, rfl, -⟩ := runs_pair_iff.mp run
      exact .ok _
    · obtain ⟨-, rfl, -⟩ := runs_pair_iff.mp run
      exact .ok _

theorem ends_control {handle : Handle} {code : UInt32} {block : Block} {output : Bytes}
    {context : Option Nat} (hcontexts : ∀ k ∈ context, (c.contexts.get? k).isSome)
    (run : Runs (c.control handle code block output context) events (outcome, next)) :
    Ends events (.control handle code block output context) outcome := by
  have ends {verdict : Verdict} {before : List Event}
      (reflects : (verdict.outcome .recv).Reflects before) (left : Bytes) :
      Ends before (.control handle code block output context) (controlOutcome verdict left) := by
    cases verdict with
    | finished bytes => exact .ok _
    | failed source => exact .apart ⟨id, rfl⟩
    | panicked =>
      cases reflects with
      | panicked panics => exact .panicked panics
  unfold control at run
  dsimp only at run
  rw [withContext?_of_allowed hcontexts] at run
  cases hown : context.bind c.contexts.get? with
  | none =>
    simp only [hown] at run
    obtain ⟨⟨verdict, memory⟩, before, rest, rfl, hissue, run⟩ := runs_bind_iff.mp run
    obtain ⟨done, single, rfl, -⟩ := single_of_runs hissue
    obtain ⟨rfl, rfl, -⟩ := runs_pair_iff.mp run
    rw [List.append_nil]
    exact ends (single.reflects .recv) _
  | some own =>
    simp only [hown] at run
    obtain ⟨done, exchange, hresult⟩ := exchange_of_issue run
    cases hresult
    exact ends (exchange.reflects .recv) _

/-- What is not refused ends as the system's answers have made it. -/
theorem ends_of_step (allowed : c.Allows a) (taken : a.refusal? = none)
    (run : Runs (c.step a) events (outcome, next)) : Ends events a outcome := by
  cases a with
  | check =>
    obtain ⟨verdict, gate, rest, rfl, hgate, run⟩ := runs_bind_iff.mp run
    cases verdict with
    | ok entry =>
      obtain ⟨-, rfl, -⟩ := runs_pair_iff.mp run
      exact .ok _
    | error reason =>
      obtain ⟨-, rfl, -⟩ := runs_pair_iff.mp run
      exact .unfit
    | unwound why =>
      obtain ⟨rfl, rfl, -⟩ := runs_pair_iff.mp run
      rw [List.append_nil]
      obtain ⟨rfl, panics⟩ := Driver.panicked_of_check hgate
      exact .panicked panics
  | enter =>
    obtain ⟨⟨entered, driver⟩, gate, rest, rfl, hgate, run⟩ := runs_bind_iff.mp run
    cases entered with
    | ok entry =>
      obtain ⟨-, rfl, -⟩ := runs_pair_iff.mp run
      exact .ok _
    | error why =>
      obtain ⟨rfl, rfl, -⟩ := runs_pair_iff.mp run
      rw [List.append_nil]
      exact ends_of_upshot (a := .enter) (fun _ : Unit => .nothing) trivial
        (Driver.entered_of_runs hgate).upshot
  | isChecked =>
    obtain ⟨-, rfl, -⟩ := runs_pair_iff.mp run
    exact .ok _
  | driverVersion =>
    obtain ⟨⟨version, driver⟩, before, rest, rfl, hversion, run⟩ := runs_bind_iff.mp run
    obtain ⟨rfl, rfl, -⟩ := runs_pair_iff.mp run
    rw [List.append_nil]
    exact ends_of_upshot _ trivial (Driver.upshot_of_version hversion)
  | openSession slot filter layer priority flags => exact ends_openSession allowed taken run
  | close slot =>
    obtain ⟨s, hs⟩ := Option.isSome_iff_exists.mp (allowed slot rfl)
    rw [step, withSession_of_some hs] at run
    exact ends_of_report (Option.some_ne_none _) Session.reflects_of_close run
  | drop slot =>
    obtain ⟨s, hs⟩ := Option.isSome_iff_exists.mp (allowed slot rfl)
    rw [step, withSession_of_some hs] at run
    obtain ⟨⟨⟩, before, rest, rfl, -, run⟩ := runs_bind_iff.mp run
    obtain ⟨-, rfl, -⟩ := runs_pair_iff.mp run
    exact .ok _
  | handle slot =>
    obtain ⟨s, hs⟩ := Option.isSome_iff_exists.mp (allowed slot rfl)
    rw [step, withSession_of_some hs] at run
    obtain ⟨-, rfl, -⟩ := runs_pair_iff.mp run
    exact .ok _
  | createContext slot context =>
    obtain ⟨s, hs⟩ := Option.isSome_iff_exists.mp (allowed slot rfl)
    rw [step, withSession_of_some hs] at run
    exact ends_createContext run
  | contextEvent k =>
    obtain ⟨own, hown⟩ := Option.isSome_iff_exists.mp allowed
    rw [step, withContext_of_some hown] at run
    obtain ⟨-, rfl, -⟩ := runs_pair_iff.mp run
    exact .ok _
  | releaseContext k =>
    obtain ⟨own, hown⟩ := Option.isSome_iff_exists.mp allowed
    rw [step, withContext_of_some hown] at run
    obtain ⟨⟨answer, left⟩, before, rest, rfl, -, run⟩ := runs_bind_iff.mp run
    cases answer with
    | ok _ =>
      obtain ⟨-, rfl, -⟩ := runs_pair_iff.mp run
      exact .ok _
    | error source =>
      obtain ⟨-, rfl, -⟩ := runs_pair_iff.mp run
      exact .apart ⟨id, rfl⟩
  | dropContext k =>
    obtain ⟨own, hown⟩ := Option.isSome_iff_exists.mp allowed
    rw [step, withContext_of_some hown] at run
    obtain ⟨⟨⟩, before, rest, rfl, -, run⟩ := runs_bind_iff.mp run
    obtain ⟨-, rfl, -⟩ := runs_pair_iff.mp run
    exact .ok _
  | recv slot buffer address =>
    obtain ⟨s, hs⟩ := Option.isSome_iff_exists.mp (allowed slot rfl)
    rw [step, withSession_of_some hs] at run
    obtain ⟨⟨got, t⟩, before, rest, rfl, hrecv, run⟩ := runs_bind_iff.mp run
    obtain ⟨rfl, rfl, -⟩ := runs_pair_iff.mp run
    rw [List.append_nil]
    exact ends_of_reflects _ (.inr (Option.some_ne_none _)) (Session.reflects_of_recv hrecv)
  | recvBatch slot buffer records context =>
    obtain ⟨hsession, hcontexts⟩ := allowed
    obtain ⟨s, hs⟩ := Option.isSome_iff_exists.mp hsession
    rw [step, withSession_of_some hs, withContext?_of_allowed hcontexts] at run
    obtain ⟨⟨got, t, own⟩, before, rest, rfl, hrecv, run⟩ := runs_bind_iff.mp run
    obtain ⟨rfl, rfl, -⟩ := runs_pair_iff.mp run
    rw [List.append_nil]
    have some : records ≠ [] := fun none => by simp [Action.refusal?, none] at taken
    exact ends_of_reflects _ (.inr (Option.some_ne_none _))
      (Session.reflects_of_recvBatch some hrecv)
  | send slot data address =>
    obtain ⟨s, hs⟩ := Option.isSome_iff_exists.mp (allowed slot rfl)
    rw [step, withSession_of_some hs] at run
    obtain ⟨⟨sent, t⟩, before, rest, rfl, hsend, run⟩ := runs_bind_iff.mp run
    obtain ⟨rfl, rfl, -⟩ := runs_pair_iff.mp run
    rw [List.append_nil]
    exact ends_of_reflects _ (.inr (Option.some_ne_none _)) (Session.reflects_of_send hsend)
  | sendBatch slot data records context =>
    obtain ⟨hsession, hcontexts⟩ := allowed
    obtain ⟨s, hs⟩ := Option.isSome_iff_exists.mp hsession
    rw [step, withSession_of_some hs, withContext?_of_allowed hcontexts] at run
    obtain ⟨⟨sent, t, own⟩, before, rest, rfl, hsend, run⟩ := runs_bind_iff.mp run
    obtain ⟨rfl, rfl, -⟩ := runs_pair_iff.mp run
    rw [List.append_nil]
    have some : records ≠ [] := fun none => by simp [Action.refusal?, none] at taken
    exact ends_of_reflects _ (.inr (Option.some_ne_none _))
      (Session.reflects_of_sendBatch some hsend)
  | shutdown slot how =>
    obtain ⟨s, hs⟩ := Option.isSome_iff_exists.mp (allowed slot rfl)
    rw [step, withSession_of_some hs] at run
    exact ends_of_report (Option.some_ne_none _) Session.reflects_of_shutdown run
  | getParameter slot p =>
    obtain ⟨s, hs⟩ := Option.isSome_iff_exists.mp (allowed slot rfl)
    rw [step, withSession_of_some hs] at run
    exact ends_of_report (Option.some_ne_none _) Session.reflects_of_getParameter run
  | setParameter slot p value =>
    obtain ⟨s, hs⟩ := Option.isSome_iff_exists.mp (allowed slot rfl)
    rw [step, withSession_of_some hs] at run
    have within : p.check value = .ok () := by
      rw [Action.check_eq_refusal slot, taken]
    exact ends_of_report (Option.some_ne_none _) (Session.reflects_of_setParameter within) run
  | version slot =>
    obtain ⟨s, hs⟩ := Option.isSome_iff_exists.mp (allowed slot rfl)
    rw [step, withSession_of_some hs] at run
    exact ends_of_report (Option.some_ne_none _) Session.reflects_of_version run
  | relay slot limit o =>
    obtain ⟨s, hs⟩ := Option.isSome_iff_exists.mp (allowed slot rfl)
    rw [step, withSession_of_some hs] at run
    exact ends_relay taken run
  | control handle code block output context => exact ends_control allowed run

/-- An operation meets a local error exactly when its own check refuses the arguments. Then it makes
no call and leaves the client as it was. Any other operation succeeds, passes on an error of the
system, or unwinds for a reason that the system has given. -/
theorem rejections_exact (allowed : c.Allows a) (run : Runs (c.step a) events (outcome, next)) :
    (∀ e : SessionError, e.IsLocal → (outcome = .error (.session e) ↔ a.refusal? = some e))
      ∧ (∀ e, a.refusal? = some e →
        e.IsLocal ∧ events = [] ∧ c.step a = done (.error (.session e), next) ∧ c.Alike next)
      ∧ (a.refusal? = none → Ends events a outcome) := by
  have refuses (e : SessionError) (h : a.refusal? = some e) :
      events = [] ∧ outcome = .error (.session e)
        ∧ c.step a = done (.error (.session e), next) ∧ c.Alike next := by
    obtain ⟨same, hstep, alike⟩ := step_of_refusal allowed h
    have ran := run
    rw [hstep] at ran
    obtain ⟨hevents, houtcome, rfl⟩ := runs_pair_iff.mp ran
    exact ⟨hevents, houtcome, hstep, alike⟩
  refine ⟨fun e isLocal => ⟨fun met => ?_, fun h => (refuses e h).2.1⟩, ?_, ?_⟩
  · cases h : a.refusal? with
    | none => exact absurd isLocal ((ends_of_step allowed h run).not_isLocal met)
    | some refused =>
      have houtcome := (refuses refused h).2.1
      rw [met] at houtcome
      cases houtcome
      rfl
  · intro e h
    obtain ⟨hevents, -, hstep, alike⟩ := refuses e h
    exact ⟨Action.isLocal_of_refusal h, hevents, hstep, alike⟩
  · intro taken
    exact ends_of_step allowed taken run

namespace Bounds

def opened : Transcript Scripted.System (List (Outcome Failure Answer) × Client) :=
  (steps {} [.openSession 0 "tcp" .network 0 .none]).run Scripted.host {}

/-- The queue of the session is set to a length. -/
def resized (length : UInt64) : Transcript Scripted.System Result :=
  (opened.value.2.step (.setParameter 0 .queueLength length)).run Scripted.host opened.state

theorem resized_within :
    (resized 31).value.1 = .error (.session (.parameterRange .queueLength 31 ⟨32, 16384⟩))
      ∧ (resized 31).events = [] ∧ opened.value.2.Alike (resized 31).value.2
      ∧ Ends (resized 32).events (.setParameter 0 .queueLength 32) (resized 32).value.1
      ∧ (resized 32).events.length = 3 := by
  have isOpen : (opened.value.2.sessions.get? 0).isSome := by decide +kernel
  have allowed (length : UInt64) : opened.value.2.Allows (.setParameter 0 .queueLength length) := by
    intro slot hslot
    cases hslot
    exact isOpen
  have run (length : UInt64) : Runs (opened.value.2.step (.setParameter 0 .queueLength length))
      (resized length).events ((resized length).value.1, (resized length).value.2) :=
    runs_run _ _ _
  obtain ⟨meets_iff, refuses, -⟩ := rejections_exact (allowed 31) (run 31)
  obtain ⟨-, -, ends⟩ := rejections_exact (allowed 32) (run 32)
  obtain ⟨isLocal, hevents, -, alike⟩ := refuses (.parameterRange .queueLength 31 ⟨32, 16384⟩) rfl
  have called : (resized 32).events.length = 3 := by decide +kernel
  exact ⟨(meets_iff _ isLocal).mpr rfl, hevents, alike, ends rfl, called⟩

end Bounds

end Client

end PacketDiversion
