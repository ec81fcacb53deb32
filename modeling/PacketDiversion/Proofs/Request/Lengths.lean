import PacketDiversion.Host.Scripted
import PacketDiversion.Proofs.Relay.Calls
import PacketDiversion.Proofs.Settings.Acceptance

/-!
# Announced lengths

A request announces its lengths in words: 32 bits for the room of a receive and for the output, 64
for the records of a send. A length that fits into its word is announced as it is; a longer one is
cut to the word, and the driver is called all the same. A relay with room for 53687092 records
offers its driver less than one.
-/

namespace PacketDiversion

open Program

/-- The announced lengths in bytes: that of the address records and that of the output. -/
def Request.lengths? (r : Request) : Option (Nat × Nat) :=
  match r.payload, r.outputLength with
  | .recv capacity, some output => some (capacity.toNat, output.toNat)
  | .send _ recordBytes _, some output => some (recordBytes.toNat, output.toNat)
  | _, _ => none

/-- The request announces both lengths cut to their words, and so as they are if they fit. -/
structure Request.Announces (r : Request) (bits records output : Nat) : Prop where
  cut : r.lengths? = some (records % 2 ^ bits, output % 2 ^ 32)
  exact_iff : r.lengths? = some (records, output) ↔ records < 2 ^ bits ∧ output < 2 ^ 32

theorem Request.announces_of_cut {r : Request} {bits records output : Nat}
    (cut : r.lengths? = some (records % 2 ^ bits, output % 2 ^ 32)) :
    r.Announces bits records output := by
  refine ⟨cut, ?_⟩
  have hrecords : records % 2 ^ bits = records ↔ records < 2 ^ bits :=
    Nat.mod_eq_iff_lt (Nat.two_pow_pos bits).ne'
  have houtput : output % 2 ^ 32 = output ↔ output < 2 ^ 32 :=
    Nat.mod_eq_iff_lt (Nat.two_pow_pos 32).ne'
  rw [cut, Option.some.injEq, Prod.mk.injEq, hrecords, houtput]

theorem Request.announces_receive (slots bytes : Nat) :
    (Request.receive slots bytes).Announces 32 (slots * Address.size) bytes := by
  apply announces_of_cut
  simp only [lengths?, receive, UInt32.toNat_ofNat']

theorem Request.announces_inject (data : Bytes) (records : List Address) :
    (Request.inject data records).Announces 64 (records.length * Address.size) data.length := by
  apply announces_of_cut
  simp only [lengths?, inject, UInt32.toNat_ofNat', UInt64.toNat_ofNat']

/-! ### Batches -/

namespace Session

variable {s : Session} {context : Option Context} {events : List Event}

theorem issued_of_recvBatch {buffer : Bytes} {records : List Address}
    {r : Received Delivery × Session × Option Context} (some : records ≠ [])
    (run : Runs (s.recvBatch buffer records context) events r) :
    issued events = [(s.handle, .receive records.length buffer.length)] := by
  obtain ⟨done, exchange, -⟩ := exchange_of_recvBatch some run
  exact exchange.issued_eq

theorem issued_of_sendBatch {data : Bytes} {records : List Address}
    {r : Outcome SessionError Nat × Session × Option Context} (some : records ≠ [])
    (run : Runs (s.sendBatch data records context) events r) :
    issued events = [(s.handle, .inject data records)] := by
  obtain ⟨done, exchange, -⟩ := exchange_of_sendBatch some run
  exact exchange.issued_eq

end Session

/-! ### Relays -/

namespace Relay

variable {o : Options} {s : Session} {limit : Nat} {events : List Event} {r : Ending × Session}

theorem asks_of_issued (run : Runs (Relay.run limit s o) events r) {x : Handle × Request}
    (hx : x ∈ issued events) : ∃ block, Asks o s (.control x.1 x.2 block) := by
  obtain ⟨hasks, -⟩ := (run_calls limit s o).calls run
  obtain ⟨e, he, hissued⟩ := List.mem_filterMap.mp hx
  unfold Event.issued? at hissued
  split at hissued
  · cases hissued
    exact ⟨_, hasks _ he⟩
  · cases hissued

/-- A relay that has room and may receive begins with a receive. -/
theorem issued_of_run (hbatch : o.batch ≠ 0) (hsize : o.bufferSize ≠ 0)
    (run : Runs (Relay.run (limit + 1) s o) events r) :
    ∃ rest, issued events = (s.handle, .receive o.batch o.bufferSize) :: rest := by
  have ready : ¬ (o.batch = 0 ∨ o.bufferSize = 0) := by omega
  have fits := (works_start s o).fits
  have room : (State.start s o).records ≠ [] := fits.records_ne_nil (by omega)
  unfold Relay.run at run
  rw [if_neg ready, runs_report_bind_iff] at run
  obtain ⟨step, first, later, rfl, hround, -⟩ := runs_bind_iff.mp run
  obtain ⟨got, received, others, rfl, hrecv, -⟩ := runs_bind_iff.mp hround
  have hreceive := Session.issued_of_recvBatch room hrecv
  rw [fits.records, fits.buffer, fits.handle] at hreceive
  rw [List.append_assoc, issued_append, hreceive]
  exact ⟨_, rfl⟩

end Relay

/-! ### Every length -/

/-- A batch with records makes one request, whatever its lengths, and announces them cut to their
words: exactly those that fit are announced as they are. So does every request of a relay with
accepted settings, which begins with a receive into all of its room and sends no more than fits
into it. -/
theorem lengths_announced (s : Session) :
    (∀ (buffer : Bytes) (records : List Address) (context : Option Context)
        (events : List Event) (r : Received Delivery × Session × Option Context), records ≠ [] →
      Runs (s.recvBatch buffer records context) events r →
      ∃ request, issued events = [(s.handle, request)] ∧ request.code = RequestCode.recv
        ∧ request.Announces 32 (records.length * Address.size) buffer.length)
    ∧ (∀ (data : Bytes) (records : List Address) (context : Option Context)
        (events : List Event) (r : Outcome SessionError Nat × Session × Option Context),
      records ≠ [] → Runs (s.sendBatch data records context) events r →
      ∃ request, issued events = [(s.handle, request)] ∧ request.code = RequestCode.send
        ∧ request.Announces 64 (records.length * Address.size) data.length)
    ∧ ∀ (text : String) (settings : Settings) (flags : Flags) (limit : Nat)
        (events : List Event) (r : Relay.Ending × Session), Settings.parse text = .ok settings →
      Runs (Relay.run (limit + 1) s (settings.relay.options flags)) events r →
      (∃ first rest, issued events = (s.handle, first) :: rest ∧ first.code = RequestCode.recv)
        ∧ ∀ x ∈ issued events, x.1 = s.handle ∧
          (x.2.code = RequestCode.recv ∧ x.2.Announces 32
              (settings.relay.batch * Address.size) settings.relay.bufferSize
            ∨ x.2.code = RequestCode.send ∧ ∃ data bytes records,
              x.2.payload = .send data bytes records ∧ data.length ≤ settings.relay.bufferSize
                ∧ records ≠ [] ∧ records.length ≤ settings.relay.batch
                ∧ x.2.Announces 64 (records.length * Address.size) data.length) := by
  refine ⟨?_, ?_, ?_⟩
  · intro buffer records context events r some run
    exact ⟨_, Session.issued_of_recvBatch some run, rfl, Request.announces_receive _ _⟩
  · intro data records context events r some run
    exact ⟨_, Session.issued_of_sendBatch some run, rfl, Request.announces_inject _ _⟩
  · intro text settings flags limit events r accepted run
    have checked := Settings.check_eq_ok_iff.mp (Settings.parse_eq_ok_iff.mp accepted).2
    obtain ⟨rest, hfirst⟩ := Relay.issued_of_run checked.batch checked.bufferSize run
    refine ⟨⟨_, rest, hfirst, rfl⟩, ?_⟩
    intro x hx
    obtain ⟨block, asks⟩ := Relay.asks_of_issued run hx
    obtain ⟨handle, request⟩ := x
    cases asks with
    | receive hevent => exact ⟨rfl, .inl ⟨rfl, Request.announces_receive _ _⟩⟩
    | inject passes hdata some hrecords hevent =>
      exact ⟨rfl, .inr ⟨rfl, _, _, _, rfl, hdata, some, hrecords, Request.announces_inject _ _⟩⟩

namespace TwoRecords

def session : Session := ⟨0x104, ⟨.withEvent 0x108⟩, ⟨.withEvent 0x10c⟩⟩

def received : Transcript Scripted.System (Received Delivery × Session × Option Context) :=
  (session.recvBatch [0, 0, 0] [Address.zero, Address.zero] (some ⟨.withEvent 0x110⟩)).run
    Scripted.host {}

def sent : Transcript Scripted.System (Outcome SessionError Nat × Session × Option Context) :=
  (session.sendBatch [1, 2, 3] [Address.zero, Address.zero] none).run Scripted.host {}

def relayed : Transcript Scripted.System (Relay.Ending × Session) :=
  (Relay.run 3 session ⟨2, 3, true⟩).run Scripted.host { pend := true }

theorem two_announced :
    (∃ r, issued received.events = [(0x104, r)] ∧ r.lengths? = some (160, 3))
      ∧ (∃ r, issued sent.events = [(0x104, r)] ∧ r.lengths? = some (160, 3))
      ∧ ∀ x ∈ issued relayed.events, x.2.code = RequestCode.recv →
        x.2.lengths? = some (160, 3) := by
  obtain ⟨hrecv, hsend, hrelay⟩ := lengths_announced session
  refine ⟨?_, ?_, ?_⟩
  · obtain ⟨r, hissued, -, announces⟩ := hrecv _ _ _ received.events _ (by simp) (runs_run _ _ _)
    exact ⟨r, hissued, announces.exact_iff.mpr (by decide)⟩
  · obtain ⟨r, hissued, -, announces⟩ := hsend _ _ _ sent.events _ (by simp) (runs_run _ _ _)
    exact ⟨r, hissued, announces.exact_iff.mpr (by decide)⟩
  · have accepted : (Settings.parse
        "[session]\nfilter = \"true\"\n[relay]\nbatch = 2\nbuffer_size = 3\n").toOption
        = some { session := { filter := "true" }, relay := { batch := 2, bufferSize := 3 } } := by
      decide +kernel
    intro x hx code
    obtain ⟨-, announced⟩ := hrelay _ _ .none 2 relayed.events _
      (toOption_eq_some_iff.mp accepted) (runs_run _ _ _)
    rcases (announced x hx).2 with ⟨-, announces⟩ | ⟨other, -⟩
    · exact announces.exact_iff.mpr (by decide)
    · rw [code] at other
      exact absurd other (by decide)

/-- The relay of an accepted text allocates room for 53687092 records and announces 64 bytes of it,
which is less than one record. -/
theorem oversized_cut :
    ∃ settings flags events r first rest, Settings.parse
        "[session]\nfilter = \"true\"\n[relay]\nbatch = 53687092\n" = .ok settings
      ∧ settings.session.flags = .ok flags
      ∧ Runs (Relay.run 1 session (settings.relay.options flags)) events r
      ∧ issued events = (session.handle, first) :: rest
      ∧ settings.relay.batch * Address.size = 2 ^ 32 + 64
      ∧ first.lengths? = some (64, settings.relay.bufferSize) := by
  have accepted : (Settings.parse
      "[session]\nfilter = \"true\"\n[relay]\nbatch = 53687092\n").toOption
      = some { session := { filter := "true" }, relay := { batch := 53687092 } } := by
    decide +kernel
  -- no room of that size is ever evaluated: the first request is known of every run
  have run := runs_run Scripted.host (Relay.run 1 session ⟨53687092, packetRoom, true⟩) {}
  obtain ⟨rest, hfirst⟩ := Relay.issued_of_run (by decide) (by decide) run
  have cut := (Request.announces_receive 53687092 packetRoom).cut
  exact ⟨_, .none, _, _, _, rest, toOption_eq_some_iff.mp accepted, rfl, run, hfirst, by decide,
    cut⟩

end TwoRecords

end PacketDiversion
