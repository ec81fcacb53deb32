import Mathlib.Algebra.Ring.Nat
import PacketDiversion.Relay.Basic

/-!
# What the counters of a relay show

A relay counts in words of 64 bits. What it has done is a total without bound, and the counters show
that total modulo 2 ^ 64: the total itself, as long as it is below (`Shows`). A receive and an
injection each add to the counters what they add to the totals (`Stats.Counts.received`,
`Stats.Counts.injected`), so counters that have shown the totals once show them for ever.
-/

namespace PacketDiversion.Relay

/-! ### Totals -/

/-- What some receives and injections come to, however much that is. -/
structure Totals where
  batches : Nat := 0
  packets : Nat := 0
  bytes : Nat := 0
  reinjected : Nat := 0
  deriving DecidableEq, Repr

namespace Totals

instance : Add Totals where
  add t u := ⟨t.batches + u.batches, t.packets + u.packets, t.bytes + u.bytes,
    t.reinjected + u.reinjected⟩

theorem add_eq (t u : Totals) :
    t + u = ⟨t.batches + u.batches, t.packets + u.packets, t.bytes + u.bytes,
      t.reinjected + u.reinjected⟩ := rfl

theorem add_assoc (t u v : Totals) : t + u + v = t + (u + v) := by
  simp only [add_eq, Nat.add_assoc]

theorem add_zero (t : Totals) : t + {} = t := by
  simp only [add_eq, Nat.add_zero]

theorem zero_add (t : Totals) : {} + t = t := by
  simp only [add_eq, Nat.zero_add]

/-- One receive that succeeded. -/
def receipt (count read : Nat) : Totals := { batches := 1, packets := count, bytes := read }

/-- One injection that succeeded. -/
def injection (count : Nat) : Totals := { reinjected := count }

end Totals

/-! ### Counters -/

/-- A counter shows a total, up to a multiple of 2 ^ 64. -/
structure Shows (counter : UInt64) (total : Nat) : Prop where
  modulo : counter.toNat = total % 2 ^ 64
  below : total < 2 ^ 64 → counter.toNat = total

section Shows

variable {counter other : UInt64} {total : Nat}

theorem Shows.of_modulo (h : counter.toNat = total % 2 ^ 64) : Shows counter total :=
  ⟨h, fun hlt => h.trans (Nat.mod_eq_of_lt hlt)⟩

theorem shows_zero : Shows 0 0 := .of_modulo rfl

theorem Shows.add (h : Shows counter total) (n : Nat) :
    Shows (counter + UInt64.ofNat n) (total + n) := by
  refine .of_modulo ?_
  calc (counter + UInt64.ofNat n).toNat
      = (counter.toNat + (UInt64.ofNat n).toNat) % 2 ^ 64 := UInt64.toNat_add _ _
    _ = (total % 2 ^ 64 + n % 2 ^ 64) % 2 ^ 64 := by rw [h.modulo, UInt64.toNat_ofNat']
    _ = (total + n) % 2 ^ 64 := (Nat.add_mod _ _ _).symm

theorem Shows.unique (h : Shows counter total) (h' : Shows other total) : counter = other :=
  UInt64.toNat_inj.mp (h.modulo.trans h'.modulo.symm)

end Shows

/-- Every counter shows its total. -/
structure Stats.Counts (s : Stats) (t : Totals) : Prop where
  batches : Shows s.batches t.batches
  packets : Shows s.packets t.packets
  bytes : Shows s.bytes t.bytes
  reinjected : Shows s.reinjected t.reinjected

namespace Stats

variable {s other : Stats} {t : Totals}

theorem counts_start : Counts {} {} := ⟨shows_zero, shows_zero, shows_zero, shows_zero⟩

theorem Counts.received (h : s.Counts t) (count read : Nat) :
    (s.received count read).Counts (t + .receipt count read) :=
  ⟨h.batches.add 1, h.packets.add count, h.bytes.add read, h.reinjected⟩

theorem Counts.injected (h : s.Counts t) (count : Nat) :
    (s.injected count).Counts (t + .injection count) :=
  ⟨h.batches, h.packets, h.bytes, h.reinjected.add count⟩

/-- The totals tell what the counters show. -/
theorem Counts.unique (h : s.Counts t) (h' : other.Counts t) : s = other := by
  obtain ⟨batches, packets, bytes, reinjected⟩ := s
  obtain ⟨batches', packets', bytes', reinjected'⟩ := other
  have hbatches : batches = batches' := h.batches.unique h'.batches
  have hpackets : packets = packets' := h.packets.unique h'.packets
  have hbytes : bytes = bytes' := h.bytes.unique h'.bytes
  have hreinjected : reinjected = reinjected' := h.reinjected.unique h'.reinjected
  rw [hbatches, hpackets, hbytes, hreinjected]

end Stats

end PacketDiversion.Relay
