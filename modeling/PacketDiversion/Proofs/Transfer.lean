import PacketDiversion.Proofs.Exchange
import PacketDiversion.Session.Transfer

/-!
# Transfers are exchanges

A receive or a send, of one packet or of a batch, is one exchange, on the session's context for the
direction or on the caller's. What the caller gets back is told by what the exchange comes to.
-/

namespace PacketDiversion

open Program

/-- Room in front is what was written there, if it fits. -/
theorem take_overlay {α : Type} {room written : List α} (fits : written.length ≤ room.length) :
    (overlay room written).take written.length = written := by
  rw [overlay, List.take_of_length_le fits, List.take_left]

/-- A length that is announced may be cut, and is never more than what it announces. -/
theorem toNat_ofNat_le (n : Nat) : (UInt32.ofNat n).toNat ≤ n := by
  rw [UInt32.toNat_ofNat']
  exact Nat.mod_le _ _

/-- The request that receives into a number of address slots and a number of bytes. -/
def Request.receive (slots bytes : Nat) : Request where
  code := RequestCode.recv
  payload := .recv (UInt32.ofNat (slots * Address.size))
  outputLength := some (UInt32.ofNat bytes)

/-- The request that injects packets with their records. -/
def Request.inject (data : Bytes) (records : List Address) : Request where
  code := RequestCode.send
  payload := .send data (UInt64.ofNat (records.length * Address.size)) records
  outputLength := some (UInt32.ofNat data.length)

/-- A program that issues one request on a context, and no more. -/
theorem exchange_of_issue {own : Context} {handle : Handle} {request : Request} {m : Memory}
    {α : Type} {f : Issued → α} {events : List Event} {r : α}
    (run : Runs (own.issue handle request m >>= fun ended => pure (f ended)) events r) :
    ∃ done, Exchange handle request own.prepare.overlapped events done
      ∧ r = f ⟨done.verdict, own.prepare.absorb done.written, m.absorb done.written⟩ := by
  obtain ⟨ended, issued, rfl⟩ := runs_map_iff.mp run
  obtain ⟨done, exchange, rfl⟩ := exchange_of_runs issued
  exact ⟨done, exchange, rfl⟩

namespace Session

variable {s t : Session} {context rest : Option Context} {events : List Event}

theorem exchange_of_recv {buffer : Bytes} {address : Address} {got : Received Nat}
    (run : Runs (s.recv buffer address) events (got, t)) :
    ∃ done, Exchange s.handle (.receive 1 buffer.length) s.receiving.prepare.overlapped events done
      ∧ got.outcome = (done.verdict.outcome .recv).map UInt32.toNat := by
  obtain ⟨done, exchange, hresult⟩ := exchange_of_issue run
  cases hresult
  exact ⟨done, exchange, rfl⟩

/-- A batch is received on the caller's context if there is one. -/
theorem exchange_of_recvBatch {buffer : Bytes} {records : List Address} {got : Received Delivery}
    (hrecords : records ≠ [])
    (run : Runs (s.recvBatch buffer records context) events (got, t, rest)) :
    ∃ done, Exchange s.handle (.receive records.length buffer.length)
        (context.getD s.receiving).prepare.overlapped events done
      ∧ got = ⟨delivery done.verdict
          (done.written.recordBytes.getD (UInt32.ofNat (records.length * Address.size))),
        overlay buffer done.written.output, overlay records done.written.records⟩
      ∧ t.handle = s.handle := by
  unfold recvBatch at run
  rw [if_neg (by simpa using hrecords)] at run
  cases context with
  | none =>
    obtain ⟨done, exchange, hresult⟩ := exchange_of_issue run
    cases hresult
    exact ⟨done, exchange, rfl, rfl⟩
  | some own =>
    obtain ⟨done, exchange, hresult⟩ := exchange_of_issue run
    cases hresult
    exact ⟨done, exchange, rfl, rfl⟩

theorem exchange_of_send {data : Bytes} {address : Address} {outcome : Outcome SessionError Nat}
    (run : Runs (s.send data address) events (outcome, t)) :
    ∃ done, Exchange s.handle (.inject data [address]) s.sending.prepare.overlapped events done
      ∧ outcome = (done.verdict.outcome .send).map UInt32.toNat := by
  obtain ⟨done, exchange, hresult⟩ := exchange_of_issue run
  cases hresult
  exact ⟨done, exchange, rfl⟩

theorem exchange_of_sendBatch {data : Bytes} {records : List Address}
    {outcome : Outcome SessionError Nat} (hrecords : records ≠ [])
    (run : Runs (s.sendBatch data records context) events (outcome, t, rest)) :
    ∃ done, Exchange s.handle (.inject data records)
        (context.getD s.sending).prepare.overlapped events done
      ∧ outcome = (done.verdict.outcome .send).map UInt32.toNat ∧ t.handle = s.handle := by
  unfold sendBatch at run
  rw [if_neg (by simpa using hrecords)] at run
  cases context with
  | none =>
    obtain ⟨done, exchange, hresult⟩ := exchange_of_issue run
    cases hresult
    exact ⟨done, exchange, rfl, rfl⟩
  | some own =>
    obtain ⟨done, exchange, hresult⟩ := exchange_of_issue run
    cases hresult
    exact ⟨done, exchange, rfl, rfl⟩

end Session

end PacketDiversion
