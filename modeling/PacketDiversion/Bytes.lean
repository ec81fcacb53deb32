/-!
# Byte strings and little-endian words

Words cross the driver interface as little-endian bytes. `LittleEndian.encode w n` writes the `w`
low bytes of `n` and `LittleEndian.decode` reads a byte string back; each undoes the other
(`decode_encode`, `encode_decode`). `overlay` is what is left of a room of fixed size after
somebody has written to its front.
-/

namespace PacketDiversion

abbrev Bytes := List UInt8

/-! ### Little-endian words -/

namespace LittleEndian

/-- The low `w` bytes of `n`, least significant first. -/
def encode : (w : Nat) → Nat → Bytes
  | 0, _ => []
  | w + 1, n => UInt8.ofNat n :: encode w (n / 256)

/-- Value of a little-endian byte string. -/
def decode : Bytes → Nat
  | [] => 0
  | b :: rest => b.toNat + 256 * decode rest

/-- How many byte strings of a length there are. -/
def count : (length : Nat) → Nat
  | 0 => 1
  | length + 1 => 256 * count length

@[simp] theorem length_encode (w n : Nat) : (encode w n).length = w := by
  induction w generalizing n with
  | zero => rfl
  | succ w ih => simp [encode, ih]

theorem decode_lt (bs : Bytes) : decode bs < count bs.length := by
  induction bs with
  | nil => simp [decode, count]
  | cons b rest ih =>
    have hb : b.toNat < 256 := b.toNat_lt
    simp only [decode, count, List.length_cons]
    omega

/-- Only the low `w` bytes of a number are written. -/
theorem decode_encode (w n : Nat) : decode (encode w n) = n % count w := by
  induction w generalizing n with
  | zero => simp [encode, decode, count, Nat.mod_one]
  | succ w ih =>
    have hb : (UInt8.ofNat n).toNat = n % 256 := by simp
    rw [encode, decode, ih, hb, count, Nat.mod_mul]

/-- A byte string is what its value writes at its own width. -/
theorem encode_decode (bs : Bytes) : encode bs.length (decode bs) = bs := by
  induction bs with
  | nil => rfl
  | cons b rest ih =>
    have hb : b.toNat < 256 := b.toNat_lt
    have hlow : UInt8.ofNat (b.toNat + 256 * decode rest) = b := by
      apply UInt8.toNat_inj.mp
      simp only [UInt8.toNat_ofNat']
      omega
    have hhigh : (b.toNat + 256 * decode rest) / 256 = decode rest := by omega
    simp only [List.length_cons, encode, decode, hlow, hhigh, ih]

end LittleEndian

/-! ### Rooms of fixed size -/

/-- `room` after `written` was put at its front: what does not fit is cut off, and what was not
reached keeps its old content. -/
def overlay {α : Type} (room written : List α) : List α :=
  written.take room.length ++ room.drop written.length

@[simp] theorem length_overlay {α : Type} (room written : List α) :
    (overlay room written).length = room.length := by
  simp only [overlay, List.length_append, List.length_take, List.length_drop]
  omega

@[simp] theorem overlay_nil {α : Type} (room : List α) : overlay room [] = room := by
  simp [overlay]

end PacketDiversion
