import PacketDiversion.Host.Scripted
import PacketDiversion.Proofs.Deferral
import PacketDiversion.Proofs.Slots
import PacketDiversion.Proofs.Transfer

/-!
# One packet and a batch of one

Receiving or sending one packet is a batch of one record, call for call (`recv_eq_recvBatch`,
`send_eq_sendBatch`). And a batch on a context that its caller lends is the batch on the session's
own, with the other event in its calls: where the system's answers do not depend on the event, both
end alike (`paths_agree`).
-/

namespace PacketDiversion

open Program

/-! ### One record -/

/-- A delivery told by its bytes alone. -/
def Received.read (got : Received Delivery) : Received Nat :=
  ⟨got.outcome.map Delivery.read, got.buffer, got.records⟩

namespace Session

theorem recv_eq_recvBatch (s : Session) (buffer : Bytes) (address : Address) :
    s.recv buffer address
      = (fun r => (r.1.read, r.2.1)) <$> s.recvBatch buffer [address] none := by
  have told (verdict : Verdict) (cell : UInt32) :
      (verdict.outcome .recv).map UInt32.toNat = (delivery verdict cell).map Delivery.read := by
    cases verdict with
    | finished bytes => rfl
    | failed e => rfl
    | panicked => rfl
  have whole : [address].length * Address.size = Address.size := rfl
  simp only [recv, recvBatch, List.isEmpty_cons, Bool.false_eq_true, if_false, whole, map_bind,
    map_pure, Received.read]
  refine congrArg _ (funext fun ended => ?_)
  rw [told ended.verdict ended.memory.recordBytes]

theorem send_eq_sendBatch (s : Session) (data : Bytes) (address : Address) :
    s.send data address
      = (fun r => (r.1, r.2.1)) <$> s.sendBatch data [address] none := by
  have whole : [address].length * Address.size = Address.size := rfl
  simp only [send, sendBatch, List.isEmpty_cons, Bool.false_eq_true, if_false, whole, map_bind,
    map_pure]

/-! ### Many records -/

/-- What a batch receive tells of the end of its request. -/
def receivedBatch (verdict : Verdict) (m : Memory) : Received Delivery :=
  ⟨delivery verdict m.recordBytes, m.output, m.records⟩

section Batch

variable (s : Session) (buffer : Bytes) {records : List Address} (own : Context)
  (nonempty : records ≠ [])
include nonempty

theorem recvBatch_lent :
    s.recvBatch buffer records (some own)
      = own.issue s.handle (.receive records.length buffer.length)
          ⟨buffer, records, UInt32.ofNat (records.length * Address.size)⟩ >>= fun ended =>
        pure (receivedBatch ended.verdict ended.memory, s, some ended.context) := by
  rw [recvBatch, if_neg (by simpa using nonempty)]
  rfl

theorem recvBatch_plain :
    s.recvBatch buffer records none
      = s.receiving.issue s.handle (.receive records.length buffer.length)
          ⟨buffer, records, UInt32.ofNat (records.length * Address.size)⟩ >>= fun ended =>
        pure (receivedBatch ended.verdict ended.memory, { s with receiving := ended.context },
          none) := by
  rw [recvBatch, if_neg (by simpa using nonempty)]
  rfl

theorem sendBatch_lent :
    s.sendBatch buffer records (some own)
      = own.issue s.handle (.inject buffer records) {} >>= fun ended =>
        pure ((ended.verdict.outcome .send).map UInt32.toNat, s, some ended.context) := by
  rw [sendBatch, if_neg (by simpa using nonempty)]
  rfl

theorem sendBatch_plain :
    s.sendBatch buffer records none
      = s.sending.issue s.handle (.inject buffer records) {} >>= fun ended =>
        pure ((ended.verdict.outcome .send).map UInt32.toNat, { s with sending := ended.context },
          none) := by
  rw [sendBatch, if_neg (by simpa using nonempty)]
  rfl

end Batch

end Session

/-! ### The sixteen bytes -/

/-- The sixteen bytes of a request whose records, or room for them, are at one place, and its length
cell at another. -/
def Payload.layOut (place cell : UInt64) : Payload → Block
  | recv _ => Block.recv place cell
  | send _ recordBytes _ => SendLayout.layOut ⟨place, recordBytes⟩
  | block b => b

theorem Request.layOut_inject (data : Bytes) (records : List Address) (place cell : UInt64) :
    (Request.inject data records).payload.layOut place cell = Block.send place records.length := rfl

/-! ### Another event -/

/-- The event with another event handle in its request or its wait. -/
def Event.on (event : Handle) : Event → Event
  | ⟨.control handle request block, reply⟩ =>
    ⟨.control handle request { block with event := event }, reply⟩
  | ⟨.result handle _ wait, reply⟩ => ⟨.result handle event wait, reply⟩
  | e => e

/-- The host answers the same whichever of two event handles a request or a wait carries. What it
keeps may differ within `R`, which is equality for a host that keeps nothing about events. -/
structure Program.Host.Overlooks {σ : Type} (host : Host σ) (event event' : Handle)
    (R : σ → σ → Prop) : Prop where
  control {st st' : σ} (related : R st st') (handle : Handle) (request : Request)
      (words : StatusWords) :
    (host.answer (.control handle request ⟨words, event⟩) st).1
        = (host.answer (.control handle request ⟨words, event'⟩) st').1
      ∧ R (host.answer (.control handle request ⟨words, event⟩) st).2
        (host.answer (.control handle request ⟨words, event'⟩) st').2
  result {st st' : σ} (related : R st st') (handle : Handle) (wait : Bool) :
    (host.answer (.result handle event wait) st).1
        = (host.answer (.result handle event' wait) st').1
      ∧ R (host.answer (.result handle event wait) st).2
        (host.answer (.result handle event' wait) st').2

section Overlooks

variable {σ α : Type} {host : Host σ} {R : σ → σ → Prop} {st st' : σ}

/-- On a host that overlooks the event a request ends alike on either context, and the same is
written into both. -/
theorem ran_issue_carried {own kept : Context} (overlooks : host.Overlooks own.event kept.event R)
    (related : R st st') (handle : Handle) (request : Request) (m : Memory) :
    ∃ (done : Completion) (events : List Event) (last last' : σ),
      Ran host (own.issue handle request m) st
        ⟨done.verdict, own.prepare.absorb done.written, m.absorb done.written⟩ last events
      ∧ Ran host (kept.issue handle request m) st'
        ⟨done.verdict, kept.prepare.absorb done.written, m.absorb done.written⟩ last'
        (events.map (Event.on kept.event))
      ∧ events = (events.map (Event.on kept.event)).map (Event.on own.event) ∧ R last last' := by
  obtain ⟨hreply, hmid⟩ := overlooks.control related handle request .clear
  rcases hfirst : host.answer (.control handle request ⟨.clear, own.event⟩) st with ⟨taken, mid⟩
  rcases hfirst' : host.answer (.control handle request ⟨.clear, kept.event⟩) st'
    with ⟨taken', mid'⟩
  rw [hfirst, hfirst'] at hreply hmid
  subst hreply
  cases hpending : taken.verdict.isPending with
  | false =>
    exact ⟨taken, _, _, _, ran_issue_atOnce hfirst hpending, ran_issue_atOnce hfirst' hpending,
      rfl, hmid⟩
  | true =>
    obtain ⟨hwaited, hlast⟩ := overlooks.result hmid handle true
    rcases hsecond : host.answer (.result handle own.event true) mid with ⟨reply, last⟩
    rcases hsecond' : host.answer (.result handle kept.event true) mid' with ⟨reply', last'⟩
    rw [hsecond, hsecond'] at hwaited hlast
    subst hwaited
    have ran := ran_issue_later (m := m) hfirst hpending hsecond
    have ran' := ran_issue_later (m := m) hfirst' hpending hsecond'
    rw [Context.absorb_absorb, Memory.absorb_absorb] at ran ran'
    exact ⟨⟨reply.verdict, taken.written.andThen reply.written⟩, _, _, _, ran, ran', rfl, hlast⟩

/-- A batch on a lent context, and the same batch on a context that the session keeps: the calls
differ in the event only, both tell the same, and both contexts hold the same words of the system. -/
structure Carried (R : σ → σ → Prop) (s : Session) (own kept : Context) (put : Context → Session)
    (lent plain : Transcript σ (α × Session × Option Context)) : Prop where
  events : plain.events = lent.events.map (Event.on kept.event)
  events_back : lent.events = plain.events.map (Event.on own.event)
  values : ∃ told words, lent.value = (told, s, some ⟨⟨words, own.event⟩⟩)
    ∧ plain.value = (told, put ⟨⟨words, kept.event⟩⟩, none)
  states : R lent.state plain.state

theorem carried_of_overlooks {own kept : Context}
    (overlooks : host.Overlooks own.event kept.event R) (related : R st st') (handle : Handle)
    (request : Request) (m : Memory) (s : Session) (put : Context → Session)
    (tell : Verdict → Memory → α) :
    Carried R s own kept put
      ((own.issue handle request m >>= fun ended =>
        pure (tell ended.verdict ended.memory, s, some ended.context)).run host st)
      ((kept.issue handle request m >>= fun ended =>
        pure (tell ended.verdict ended.memory, put ended.context, none)).run host st') := by
  obtain ⟨done, events, last, last', ran, ran', back, hlast⟩ :=
    ran_issue_carried overlooks related handle request m
  have lent := ran.map fun ended => (tell ended.verdict ended.memory, s, some ended.context)
  have plain := ran'.map fun ended =>
    (tell ended.verdict ended.memory, put ended.context, (none : Option Context))
  constructor
  · rw [lent.events_eq, plain.events_eq]
  · rw [lent.events_eq, plain.events_eq, ← back]
  · rw [lent.value_eq, plain.value_eq]
    exact ⟨_, _, rfl, rfl⟩
  · rwa [lent.state_eq, plain.state_eq]

end Overlooks

/-! ### A system that overlooks events -/

namespace Scripted

/-- Two states that differ at most in their journals and in the counts still to be waited for, where
what is filed for `event` in one is filed for `event'` in the other. -/
def Recast (event event' : Handle) (st st' : System) : Prop :=
  ∃ finished journal, st' = { st with finished := finished, journal := journal }
    ∧ finished.lookup event' = st.finished.lookup event

variable {event event' : Handle} (s : System) (finished : List (Handle × UInt32))
  (journal : List Entry)

theorem takeFate_recast (p : Primitive) :
    System.takeFate { s with finished := finished, journal := journal } p
      = ((s.takeFate p).1,
        { (s.takeFate p).2 with finished := finished, journal := journal }) := by
  unfold System.takeFate
  dsimp only
  split <;> rfl

theorem perform_recast (r : Request) :
    System.perform { s with finished := finished, journal := journal } r
      = ((s.perform r).1, { (s.perform r).2 with finished := finished, journal := journal }) := by
  unfold System.perform
  dsimp only
  cases r.payload with
  | recv capacity => dsimp only [System.recv]; split <;> rfl
  | send data recordBytes records => dsimp only [System.send]; split <;> rfl
  | block b =>
    dsimp only [System.block]
    split
    · split <;> rfl
    · rfl
    · rfl
    · rfl

theorem takeFate_finished (p : Primitive) : (s.takeFate p).2.finished = s.finished :=
  congrArg (fun taken => taken.2.finished) (takeFate_recast s s.finished s.journal p)

theorem perform_finished (r : Request) : (s.perform r).2.finished = s.finished :=
  congrArg (fun done => done.2.finished) (perform_recast s s.finished s.journal r)

variable {s finished}

/-- What becomes of a request is the same for either event. -/
theorem control_recast (r : Request)
    (hlookup : finished.lookup event' = s.finished.lookup event) :
    (s.control r event).1
        = (System.control { s with finished := finished, journal := journal } r event').1
      ∧ Recast event event' (s.control r event).2.2
        (System.control { s with finished := finished, journal := journal } r event').2.2 := by
  unfold System.control
  rw [takeFate_recast s finished journal (System.primitive r.code)]
  rw [← takeFate_finished s (System.primitive r.code)] at hlookup
  generalize s.takeFate (System.primitive r.code) = met at hlookup ⊢
  obtain ⟨fate, taken⟩ := met
  cases fate with
  | panic => exact ⟨rfl, finished, journal, rfl, hlookup⟩
  | failure code => exact ⟨rfl, finished, journal, rfl, hlookup⟩
  | success =>
    dsimp only
    rw [perform_recast taken finished journal r]
    rw [← perform_finished taken r] at hlookup
    generalize taken.perform r = performed at hlookup ⊢
    obtain ⟨effect, done⟩ := performed
    dsimp only at hlookup ⊢
    cases effect.result with
    | error code => exact ⟨rfl, finished, journal, rfl, hlookup⟩
    | ok bytes =>
      dsimp only
      split
      · refine ⟨rfl, _, journal, rfl, ?_⟩
        rw [List.lookup_cons_self, List.lookup_cons_self]
      · exact ⟨rfl, finished, journal, rfl, hlookup⟩

theorem result_recast (hlookup : finished.lookup event' = s.finished.lookup event) :
    (s.result event).1
        = (System.result { s with finished := finished, journal := journal } event').1
      ∧ Recast event event' (s.result event).2
        (System.result { s with finished := finished, journal := journal } event').2 := by
  unfold System.result
  dsimp only
  rw [takeFate_recast s (s.finished.filter fun entry => entry.1 != event) s.journal .wait,
    takeFate_recast s (finished.filter fun entry => entry.1 != event') journal .wait, hlookup]
  have cleared : (finished.filter fun entry => entry.1 != event').lookup event'
      = (s.finished.filter fun entry => entry.1 != event).lookup event := by
    rw [Slots.lookup_filter_self, Slots.lookup_filter_self]
  rcases s.takeFate .wait with ⟨fate, taken⟩
  rcases s.finished.lookup event with _ | bytes
  · cases fate with
    | failure _ | success | panic => exact ⟨rfl, _, journal, rfl, cleared⟩
  · cases fate with
    | failure _ | success | panic => exact ⟨rfl, _, journal, rfl, cleared⟩

theorem Recast.record {st st' : System} (recast : Recast event event' st st')
    (journal journal' : List Entry) :
    Recast event event' { st with journal := journal } { st' with journal := journal' } := by
  obtain ⟨finished, -, rfl, hlookup⟩ := recast
  exact ⟨finished, journal', rfl, hlookup⟩

/-- The scripted system answers a request and its wait without regard to the event: the event only
tells it which count to hand to which wait. -/
theorem host_overlooks (event event' : Handle) :
    host.Overlooks event event' (Recast event event') where
  control := by
    intro st st' related handle request words
    obtain ⟨finished, journal, rfl, hlookup⟩ := related
    obtain ⟨hreply, recast⟩ := control_recast journal request hlookup
    exact ⟨hreply, recast.record _ _⟩
  result := by
    intro st st' related handle wait
    obtain ⟨finished, journal, rfl, hlookup⟩ := related
    obtain ⟨hreply, recast⟩ := result_recast journal hlookup
    exact ⟨hreply, recast.record _ _⟩

end Scripted

/-! ### Every session -/

/-- Receiving one packet is receiving a batch into one record, and sending one is sending a batch of
one: the programs are the same, and so are the sixteen bytes of the request, wherever the record is.
And on a host that overlooks the event a batch on a lent context is the batch on the session's own,
with the other event in its calls. -/
theorem paths_agree (s : Session) (buffer : Bytes) :
    (∀ address,
      s.recv buffer address = (fun r => (r.1.read, r.2.1)) <$> s.recvBatch buffer [address] none
      ∧ s.send buffer address = (fun r => (r.1, r.2.1)) <$> s.sendBatch buffer [address] none
      ∧ ∀ events r, Runs (s.send buffer address) events r →
        ∃ request, issued events = [(s.handle, request)]
          ∧ ∀ place cell, request.payload.layOut place cell = Block.send place 1)
      ∧ ∀ {σ : Type} (host : Host σ) (R : σ → σ → Prop) (own : Context) (records : List Address)
        (st st' : σ), records ≠ [] → R st st' →
        (host.Overlooks own.event s.receiving.event R →
          Carried R s own s.receiving (fun c => { s with receiving := c })
            ((s.recvBatch buffer records (some own)).run host st)
            ((s.recvBatch buffer records none).run host st'))
        ∧ (host.Overlooks own.event s.sending.event R →
          Carried R s own s.sending (fun c => { s with sending := c })
            ((s.sendBatch buffer records (some own)).run host st)
            ((s.sendBatch buffer records none).run host st')) := by
  constructor
  · intro address
    refine ⟨s.recv_eq_recvBatch buffer address, s.send_eq_sendBatch buffer address, ?_⟩
    intro events r run
    obtain ⟨done, exchange, -⟩ := Session.exchange_of_send run
    exact ⟨_, exchange.issued_eq, fun place cell => Request.layOut_inject buffer [address] place cell⟩
  · intro σ host R own records st st' nonempty related
    constructor
    · intro overlooks
      rw [s.recvBatch_lent buffer own nonempty, s.recvBatch_plain buffer nonempty]
      exact carried_of_overlooks overlooks related _ _ _ s _ Session.receivedBatch
    · intro overlooks
      rw [s.sendBatch_lent buffer own nonempty, s.sendBatch_plain buffer nonempty]
      exact carried_of_overlooks overlooks related _ _ _ s _ fun verdict _ =>
        (verdict.outcome .send).map UInt32.toNat

namespace Lending

def session : Session := ⟨0x104, ⟨.withEvent 0x108⟩, ⟨.withEvent 0x10c⟩⟩

def lent : Context := ⟨.withEvent 0x110⟩

/-- Every request is reported as pending. -/
def system : Scripted.System :=
  { pend := true, arrivals := [.batch { packets := [[1, 2, 3], [4, 5]] }] }

def records : List Address := [Address.zero, Address.zero]

def receiving (own : Option Context) :
    Transcript Scripted.System (Received Delivery × Session × Option Context) :=
  (session.recvBatch [0, 0, 0, 0, 0, 0] records own).run Scripted.host system

def sending (own : Option Context) :
    Transcript Scripted.System (Outcome SessionError Nat × Session × Option Context) :=
  (session.sendBatch [0, 0, 0, 0, 0, 0] records own).run Scripted.host system

/-- Two packets are received, and two are sent, on either context, by a request and the wait for
it. -/
theorem batches_carried :
    records ≠ [] ∧ Scripted.Recast 0x110 0x108 system system
      ∧ Scripted.host.Overlooks 0x110 0x108 (Scripted.Recast 0x110 0x108)
      ∧ Carried (Scripted.Recast 0x110 0x108) session lent session.receiving
        (fun c => { session with receiving := c }) (receiving (some lent)) (receiving none)
      ∧ Carried (Scripted.Recast 0x110 0x10c) session lent session.sending
        (fun c => { session with sending := c }) (sending (some lent)) (sending none)
      ∧ (receiving (some lent)).events.map Event.call
        = [.control 0x104 (.receive 2 6) (.withEvent 0x110), .result 0x104 0x110 true]
      ∧ (receiving none).value.1.outcome = .ok ⟨5, 2⟩ ∧ (sending none).value.1 = .ok 6 := by
  have nonempty : records ≠ [] := by decide
  have related (event' : Handle) : Scripted.Recast 0x110 event' system system :=
    ⟨[], [], rfl, rfl⟩
  have overlooks (event' : Handle) := Scripted.host_overlooks 0x110 event'
  obtain ⟨-, batches⟩ := paths_agree session [0, 0, 0, 0, 0, 0]
  have received := batches Scripted.host _ lent records system system nonempty (related 0x108)
  have sent := batches Scripted.host _ lent records system system nonempty (related 0x10c)
  exact ⟨nonempty, related 0x108, overlooks 0x108, received.1 (overlooks 0x108),
    sent.2 (overlooks 0x10c), by decide +kernel, by decide +kernel, by decide +kernel⟩

end Lending

end PacketDiversion
