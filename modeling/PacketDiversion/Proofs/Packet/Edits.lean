import Mathlib.Data.List.Induction
import Mathlib.Data.Nat.Bitwise
import PacketDiversion.Proofs.Request.Layout

/-!
# Edited records

A record may be given another timestamp, another direction and other interface numbers. Any number
of such edits, in any order, comes to the last one of each kind: its value stands in the record,
and every other bit of the 80 bytes is as it was (`last_edits_stand`). `Carries` says this of two
records and the values that were set last; one edit keeps it (`Carries.edit`), and it leaves nothing
of the later record open (`Carries.unique`).
-/

namespace PacketDiversion

open LittleEndian

/-! ### Bits of byte strings -/

namespace LittleEndian

theorem count_eq (length : Nat) : count length = 2 ^ (8 * length) := by
  induction length with
  | zero => rfl
  | succ length ih =>
    rw [count, ih, Nat.mul_succ, Nat.pow_add, Nat.mul_comm]

theorem decode_append (front rest : Bytes) :
    decode (front ++ rest) = 2 ^ (8 * front.length) * decode rest + decode front := by
  rw [← count_eq]
  induction front with
  | nil => simp [decode, count]
  | cons b front ih =>
    simp only [List.cons_append, List.length_cons, decode, count, ih, Nat.mul_add, Nat.mul_assoc]
    omega

theorem testBit_decode_append (front rest : Bytes) (i : Nat) :
    (decode (front ++ rest)).testBit i = if i < 8 * front.length then (decode front).testBit i
      else (decode rest).testBit (i - 8 * front.length) := by
  have hlt : decode front < 2 ^ (8 * front.length) := count_eq _ ▸ decode_lt front
  rw [decode_append, Nat.testBit_two_pow_mul_add _ hlt]

end LittleEndian

/-! ### Bits of words -/

theorem and_eq_and_of_testBit {v w mask : UInt32}
    (same : ∀ i, mask.toNat.testBit i = true → v.toNat.testBit i = w.toNat.testBit i) :
    v &&& mask = w &&& mask := by
  apply UInt32.toNat_inj.mp
  apply Nat.eq_of_testBit_eq
  intro i
  rw [UInt32.toNat_and, UInt32.toNat_and, Nat.testBit_and, Nat.testBit_and]
  cases hmask : mask.toNat.testBit i with
  | false => rw [Bool.and_false, Bool.and_false]
  | true => rw [same i hmask]

namespace Address

variable {a b c : Address}

/-! ### Edits -/

/-- An edit of a record. -/
inductive Edit
  | timestamp (value : Int64)
  | direction (outbound : Bool)
  | interface (index sub : UInt32)
  deriving DecidableEq

def edit (a : Address) : Edit → Address
  | .timestamp value => a.setTimestamp value
  | .direction outbound => a.setOutbound outbound
  | .interface index sub => a.setInterface index sub

/-- The record after edits that are made one after the other. -/
def editAll (a : Address) (edits : List Edit) : Address := edits.foldl edit a

namespace Edit

def timestamp? : Edit → Option Int64
  | timestamp value => some value
  | _ => none

def direction? : Edit → Option Bool
  | direction outbound => some outbound
  | _ => none

def interface? : Edit → Option (UInt32 × UInt32)
  | interface index sub => some (index, sub)
  | _ => none

/-- What the last edit of a kind sets, if some edit is of this kind. -/
def last? {α : Type} (kind : Edit → Option α) (edits : List Edit) : Option α :=
  (edits.filterMap kind).getLast?

theorem last?_concat {α : Type} (kind : Edit → Option α) (edits : List Edit) (e : Edit) :
    last? kind (edits ++ [e]) = (kind e).or (last? kind edits) := by
  rw [last?, List.filterMap_append, List.getLast?_append]
  cases hkind : kind e with
  | none => simp [hkind, last?]
  | some value => simp [hkind]

end Edit

/-- The values that edits set last, field by field. -/
structure LastSet where
  timestamp : Option Int64
  direction : Option Bool
  interface : Option (UInt32 × UInt32)
  deriving DecidableEq

def lastSet (edits : List Edit) : LastSet where
  timestamp := Edit.last? Edit.timestamp? edits
  direction := Edit.last? Edit.direction? edits
  interface := Edit.last? Edit.interface? edits

/-- Record `b` has the values that were set last, and all else from record `a`. -/
structure Carries (last : LastSet) (a b : Address) : Prop where
  timestamp : b.timestamp = last.timestamp.getD a.timestamp
  direction : b.bits.toNat.testBit 17 = last.direction.getD (a.bits.toNat.testBit 17)
  interface : b.data.take 8
    = (last.interface.map fun n => encode 4 n.1.toNat ++ encode 4 n.2.toNat).getD (a.data.take 8)
  otherBits : ∀ i, i ≠ 17 → b.bits.toNat.testBit i = a.bits.toNat.testBit i
  reserved : b.reserved = a.reserved
  otherData : b.data.drop 8 = a.data.drop 8

/-! ### One edit and many -/

/-- A mask of one bit sets or clears this bit and leaves the others. -/
theorem testBit_bits_setBit {mask : UInt32} {place : Nat} (hmask : mask.toNat = 2 ^ place)
    (a : Address) (on : Bool) (i : Nat) :
    (a.setBit mask on).bits.toNat.testBit i
      = if i = place then on else a.bits.toNat.testBit i := by
  have hplace : mask.toNat.testBit i = decide (place = i) := by
    rw [hmask, Nat.testBit_two_pow]
  cases on with
  | true =>
    have hbits : (a.setBit mask true).bits = a.bits ||| mask := rfl
    rw [hbits, UInt32.toNat_or, Nat.testBit_or, hplace]
    by_cases hi : i = place
    · simp [hi]
    · simp [hi, Ne.symm hi]
  | false =>
    have hbits : (a.setBit mask false).bits = a.bits &&& ~~~mask := rfl
    have hnot : (~~~mask).toNat = 2 ^ 32 - (mask.toNat + 1) := by
      rw [UInt32.toNat_not, Nat.sub_sub, Nat.add_comm]
      rfl
    rw [hbits, UInt32.toNat_and, Nat.testBit_and, hnot,
      Nat.testBit_two_pow_sub_succ mask.toNat_lt, hplace]
    by_cases hi : i = place
    · simp [hi]
    · by_cases inside : i < 32
      · simp [hi, Ne.symm hi, inside]
      · have hword : a.bits.toNat < 2 ^ i :=
          a.bits.toNat_lt.trans_le (Nat.pow_le_pow_right (by decide) (by omega))
        simp [hi, Nat.testBit_lt_two_pow hword]

theorem Carries.edit {last : LastSet} (carries : Carries last a b) (e : Edit) :
    Carries ⟨e.timestamp?.or last.timestamp, e.direction?.or last.direction,
      e.interface?.or last.interface⟩ a (b.edit e) := by
  cases e with
  | timestamp value => exact { carries with timestamp := rfl }
  | direction outbound =>
    have hmask : outboundMask.toNat = 2 ^ 17 := rfl
    have hword := testBit_bits_setBit hmask b outbound
    exact
      { carries with
        direction := by
          change (b.setBit outboundMask outbound).bits.toNat.testBit 17 = outbound
          rw [hword, if_pos rfl]
        otherBits := by
          intro i hi
          change (b.setBit outboundMask outbound).bits.toNat.testBit i = _
          rw [hword, if_neg hi, carries.otherBits i hi] }
  | interface index sub =>
    have hlength : (encode 4 index.toNat ++ encode 4 sub.toNat).length = 8 := by simp
    exact
      { carries with
        interface := List.take_left' hlength
        otherData := (List.drop_left' hlength).trans carries.otherData }

theorem carries_editAll (a : Address) (edits : List Edit) :
    Carries (lastSet edits) a (a.editAll edits) := by
  -- from the end: the last edit decides its own kind and leaves the others to the edits before it
  induction edits using List.reverseRecOn with
  | nil =>
    exact
      { timestamp := rfl
        direction := rfl
        interface := rfl
        otherBits := fun i _ => rfl
        reserved := rfl
        otherData := rfl }
  | append_singleton edits e ih =>
    have hlast : lastSet (edits ++ [e]) = ⟨e.timestamp?.or (lastSet edits).timestamp,
        e.direction?.or (lastSet edits).direction, e.interface?.or (lastSet edits).interface⟩ := by
      simp only [lastSet, Edit.last?_concat]
    rw [hlast, editAll, List.foldl_append]
    exact ih.edit e

/-! ### What the values set last decide -/

section Carried

variable {last : LastSet}

theorem Carries.unique (hb : Carries last a b) (hc : Carries last a c) : b = c := by
  have htimestamp : b.timestamp = c.timestamp := hb.timestamp.trans hc.timestamp.symm
  have hbits : b.bits = c.bits := by
    apply UInt32.toNat_inj.mp
    apply Nat.eq_of_testBit_eq
    intro i
    by_cases hi : i = 17
    · rw [hi, hb.direction, hc.direction]
    · rw [hb.otherBits i hi, hc.otherBits i hi]
  have hreserved : b.reserved = c.reserved := hb.reserved.trans hc.reserved.symm
  have hdata : b.data = c.data := by
    rw [← List.take_append_drop 8 b.data, ← List.take_append_drop 8 c.data, hb.interface,
      hc.interface, hb.otherData, hc.otherData]
  cases b
  cases c
  simp_all only

/-- Bit `i` of the 640 bits of a record. -/
def bit (a : Address) (i : Nat) : Bool := (decode a.toBytes).testBit i

/-- Which field a bit lies in: the timestamp, the packed word, the reserved word, the interface
numbers or the rest of the layer's data. -/
theorem bit_eq (a : Address) (i : Nat) :
    a.bit i = if i < 64 then a.timestamp.toUInt64.toNat.testBit i
      else if i < 96 then a.bits.toNat.testBit (i - 64)
      else if i < 128 then a.reserved.toNat.testBit (i - 96)
      else if i < 192 then (decode (a.data.take 8)).testBit (i - 128)
      else (decode (a.data.drop 8)).testBit (i - 192) := by
  have htimestamp : decode (encode 8 a.timestamp.toUInt64.toNat) = a.timestamp.toUInt64.toNat :=
    Block.decode_bytes64 _
  have hbits : decode (encode 4 a.bits.toNat) = a.bits.toNat := Block.decode_bytes32 _
  have hreserved : decode (encode 4 a.reserved.toNat) = a.reserved.toNat := Block.decode_bytes32 _
  have hfront : (a.data.take 8).length = 8 := by
    rw [List.length_take, a.data_length]
    rfl
  have hbytes : a.toBytes = encode 8 a.timestamp.toUInt64.toNat ++ (encode 4 a.bits.toNat
      ++ (encode 4 a.reserved.toNat ++ (a.data.take 8 ++ a.data.drop 8))) := by
    rw [List.take_append_drop, toBytes, List.append_assoc, List.append_assoc]
  have hplaces : (i - 64 < 32 ↔ i < 96) ∧ (i - 96 < 32 ↔ i < 128) ∧ (i - 128 < 64 ↔ i < 192) := by
    omega
  obtain ⟨hword, hreserve, hinterface⟩ := hplaces
  simp only [bit, hbytes, testBit_decode_append, length_encode, hfront, htimestamp, hbits,
    hreserved, Nat.sub_sub, hword, hreserve, hinterface]

/-- Bit 17 of the packed word is bit 81 of the record. -/
theorem Carries.bit_eq (carries : Carries last a b) {i : Nat} (behind : 64 ≤ i) (other : i ≠ 81)
    (outside : i < 128 ∨ 192 ≤ i) : b.bit i = a.bit i := by
  have hplace : i - 64 ≠ 17 := by omega
  have hfront : ¬ i < 64 := by omega
  rw [Address.bit_eq b, Address.bit_eq a, if_neg hfront, if_neg hfront,
    carries.otherBits _ hplace, carries.reserved, carries.otherData]
  rcases outside with before | after
  · rw [if_pos before, if_pos before]
  · have hinterface : ¬ i < 192 := by omega
    rw [if_neg hinterface, if_neg hinterface]

/-! ### What is read -/

/-- A mask of one bit reads this bit. -/
theorem testBit_eq {mask : UInt32} {place : Nat} (hmask : mask.toNat = 2 ^ place) (a : Address) :
    a.testBit mask = a.bits.toNat.testBit place := by
  have hand : (a.bits &&& mask).toNat = (a.bits.toNat.testBit place).toNat * 2 ^ place := by
    rw [UInt32.toNat_and, hmask, Nat.and_two_pow]
  have hzero : a.bits &&& mask = 0 ↔ a.bits.toNat.testBit place = false := by
    rw [← UInt32.toNat_inj, hand]
    cases a.bits.toNat.testBit place with
    | false => simp
    | true => simp
  cases hbit : a.bits.toNat.testBit place with
  | false => simp [testBit, hzero.mpr hbit]
  | true => simp [testBit, hzero, hbit]

/-- The packed word under a mask that leaves the direction out. -/
theorem Carries.and_eq (carries : Carries last a b) {mask : UInt32}
    (clear : mask.toNat.testBit 17 = false) : b.bits &&& mask = a.bits &&& mask := by
  apply and_eq_and_of_testBit
  intro i hmask
  apply carries.otherBits
  rintro rfl
  rw [clear] at hmask
  cases hmask

theorem Carries.event (carries : Carries last a b) : b.event = a.event := by
  have hbyte : (b.bits >>> (8 : UInt32)) &&& 0xFF = (a.bits >>> (8 : UInt32)) &&& 0xFF := by
    apply and_eq_and_of_testBit
    intro i hmask
    -- the event's eight bits end at bit 15, below the direction
    have hlow : i < 8 := by
      by_contra high
      have hpow : 2 ^ 8 ≤ 2 ^ i := Nat.pow_le_pow_right (by decide) (by omega)
      have hzero : (0xFF : UInt32).toNat.testBit i = false :=
        Nat.testBit_lt_two_pow (Nat.lt_of_lt_of_le (by decide) hpow)
      rw [hzero] at hmask
      cases hmask
    have hshift : 8 + i ≠ 17 := by omega
    rw [UInt32.toNat_shiftRight, UInt32.toNat_shiftRight, Nat.testBit_shiftRight,
      Nat.testBit_shiftRight]
    exact carries.otherBits _ hshift
  rw [Address.event, Address.event, hbyte]

theorem interfaceIndex_eq (a : Address) :
    a.interfaceIndex = UInt32.ofNat (decode ((a.data.take 8).take 4)) := by
  rw [List.take_take]
  rfl

theorem subInterfaceIndex_eq (a : Address) :
    a.subInterfaceIndex = UInt32.ofNat (decode ((a.data.take 8).drop 4)) := by
  rw [List.drop_take]
  rfl

theorem Carries.interfaceIndex (carries : Carries last a b) :
    b.interfaceIndex = (last.interface.map Prod.fst).getD a.interfaceIndex := by
  have hfields := carries.interface
  cases hlast : last.interface with
  | none =>
    rw [hlast] at hfields
    rw [interfaceIndex_eq b, interfaceIndex_eq a, hfields]
    rfl
  | some n =>
    have hword : decode (encode 4 n.1.toNat) = n.1.toNat := Block.decode_bytes32 _
    rw [hlast] at hfields
    rw [interfaceIndex_eq, hfields, Option.map_some, Option.getD_some,
      List.take_left' (length_encode 4 _), hword, UInt32.ofNat_toNat]
    rfl

theorem Carries.subInterfaceIndex (carries : Carries last a b) :
    b.subInterfaceIndex = (last.interface.map Prod.snd).getD a.subInterfaceIndex := by
  have hfields := carries.interface
  cases hlast : last.interface with
  | none =>
    rw [hlast] at hfields
    rw [subInterfaceIndex_eq b, subInterfaceIndex_eq a, hfields]
    rfl
  | some n =>
    have hword : decode (encode 4 n.2.toNat) = n.2.toNat := Block.decode_bytes32 _
    rw [hlast] at hfields
    rw [subInterfaceIndex_eq, hfields, Option.map_some, Option.getD_some,
      List.drop_left' (length_encode 4 _), hword, UInt32.ofNat_toNat]
    rfl

/-- What the accessors read from `b`: the values that were set last, and all else as from `a`. -/
structure Reads (last : LastSet) (a b : Address) : Prop where
  timestamp : b.timestamp = last.timestamp.getD a.timestamp
  outbound : b.outbound = last.direction.getD a.outbound
  interfaceIndex : b.interfaceIndex = (last.interface.map Prod.fst).getD a.interfaceIndex
  subInterfaceIndex : b.subInterfaceIndex = (last.interface.map Prod.snd).getD a.subInterfaceIndex
  layer : b.layer = a.layer
  event : b.event = a.event
  sniffed : b.sniffed = a.sniffed
  loopback : b.loopback = a.loopback
  impostor : b.impostor = a.impostor
  ipv6 : b.ipv6 = a.ipv6
  checksumsValid : b.checksumsValid = a.checksumsValid

theorem Carries.testBit (carries : Carries last a b) {mask : UInt32}
    (clear : mask.toNat.testBit 17 = false) : b.testBit mask = a.testBit mask := by
  rw [Address.testBit, Address.testBit, carries.and_eq clear]

theorem Carries.reads (carries : Carries last a b) : Reads last a b where
  timestamp := carries.timestamp
  outbound := by
    have hmask : outboundMask.toNat = 2 ^ 17 := rfl
    rw [Address.outbound, Address.outbound, testBit_eq hmask, testBit_eq hmask, carries.direction]
  interfaceIndex := carries.interfaceIndex
  subInterfaceIndex := carries.subInterfaceIndex
  layer := by
    rw [Address.layer, Address.layer, carries.and_eq (by decide)]
  event := carries.event
  sniffed := carries.testBit (by decide)
  loopback := carries.testBit (by decide)
  impostor := carries.testBit (by decide)
  ipv6 := carries.testBit (by decide)
  checksumsValid := by
    rw [Address.checksumsValid, Address.checksumsValid, carries.and_eq (by decide)]

end Carried

/-- After any edits the record carries the values that were set last, and its accessors read them.
Outside the timestamp, bit 17 of the packed word and the interface numbers no bit of the record has
changed, and edits that set the same values last come to the same record. -/
theorem last_edits_stand (a : Address) (edits : List Edit) :
    Carries (lastSet edits) a (a.editAll edits) ∧ Reads (lastSet edits) a (a.editAll edits)
      ∧ (∀ i, 64 ≤ i → i ≠ 81 → i < 128 ∨ 192 ≤ i → (a.editAll edits).bit i = a.bit i)
      ∧ ∀ others, lastSet others = lastSet edits → a.editAll others = a.editAll edits := by
  have carries := carries_editAll a edits
  refine ⟨carries, carries.reads, ?_, ?_⟩
  · intro i behind other outside
    exact carries.bit_eq behind other outside
  · intro others same
    have carriesToo := carries_editAll a others
    rw [same] at carriesToo
    exact carriesToo.unique carries

/-- A record with every bit of its word set, turned out and in again. -/
theorem reordered_edits_stand :
    lastSet [.timestamp 9, .interface 7 2, .direction false]
        = lastSet [.direction true, .interface 7 1, .direction false, .interface 7 2, .timestamp 9]
      ∧ (make 5 0xFFFFFFFF 3 [1]).editAll [.timestamp 9, .interface 7 2, .direction false]
        = (make 5 0xFFFFFFFF 3 [1]).editAll
          [.direction true, .interface 7 1, .direction false, .interface 7 2, .timestamp 9]
      ∧ ((make 5 0xFFFFFFFF 3 [1]).editAll [.direction false]).bits = 0xFFFDFFFF
      ∧ ((make 5 0xFFFFFFFF 3 [1]).editAll [.direction false]).bit 82 = true := by
  have same : lastSet [.timestamp 9, .interface 7 2, .direction false]
      = lastSet [.direction true, .interface 7 1, .direction false, .interface 7 2, .timestamp 9] :=
    by decide
  obtain ⟨-, -, -, others⟩ := last_edits_stand (make 5 0xFFFFFFFF 3 [1])
    [.direction true, .interface 7 1, .direction false, .interface 7 2, .timestamp 9]
  obtain ⟨-, -, outside, -⟩ := last_edits_stand (make 5 0xFFFFFFFF 3 [1]) [.direction false]
  refine ⟨same, others _ same, by decide, ?_⟩
  rw [outside 82 (by decide) (by decide) (by decide)]
  decide +kernel

end Address

end PacketDiversion
