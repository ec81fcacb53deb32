import PacketDiversion.Request.Block

/-!
# What a request block holds

A word is read where it was laid out, so the driver finds in the block of a request what the caller
has put there (one `_layOut` lemma for each of the five views), and the caller finds in the value
slot what the driver has written (`value_writeSlot`).
-/

namespace PacketDiversion

open LittleEndian

/-- A room that is written from end to end holds what was written. -/
theorem overlay_of_length {α : Type} {room written : List α}
    (h : written.length = room.length) : overlay room written = written := by
  rw [overlay, h, List.drop_length, List.append_nil, ← h, List.take_length]

namespace Block

/-! ### Words -/

theorem decode_bytes32 (w : UInt32) : decode (bytes32 w) = w.toNat := by
  have hlt : w.toNat < count 4 := w.toNat_lt
  rw [bytes32, decode_encode, Nat.mod_eq_of_lt hlt]

theorem decode_bytes64 (w : UInt64) : decode (bytes64 w) = w.toNat := by
  have hlt : w.toNat < count 8 := w.toNat_lt
  rw [bytes64, decode_encode, Nat.mod_eq_of_lt hlt]

variable {b : Block} {offset : Nat}

theorem word_eq (before field after : Bytes) (hoffset : before.length = offset)
    (hbytes : b.bytes = before ++ (field ++ after)) :
    b.word offset field.length = decode field := by
  rw [word, hbytes, ← hoffset, List.drop_left, List.take_left]

theorem word32_eq (before : Bytes) (w : UInt32) (after : Bytes) (hoffset : before.length = offset)
    (hbytes : b.bytes = before ++ (bytes32 w ++ after)) : b.word32 offset = w := by
  have hword := word_eq before (bytes32 w) after hoffset hbytes
  rw [length_bytes32, decode_bytes32] at hword
  rw [word32, hword, UInt32.ofNat_toNat]

theorem word64_eq (before : Bytes) (w : UInt64) (after : Bytes) (hoffset : before.length = offset)
    (hbytes : b.bytes = before ++ (bytes64 w ++ after)) : b.word64 offset = w := by
  have hword := word_eq before (bytes64 w) after hoffset hbytes
  rw [length_bytes64, decode_bytes64] at hword
  rw [word64, hword, UInt64.ofNat_toNat]

/-! ### Layouts -/

theorem recvView_layOut (v : RecvLayout) : v.layOut.recvView = v := by
  have haddresses : v.layOut.word64 0 = v.addresses :=
    word64_eq [] v.addresses (bytes64 v.lengthCell) rfl (by simp [RecvLayout.layOut])
  have hcell : v.layOut.word64 8 = v.lengthCell :=
    word64_eq (bytes64 v.addresses) v.lengthCell [] (length_bytes64 _)
      (by simp [RecvLayout.layOut])
  rw [recvView, haddresses, hcell]

theorem sendView_layOut (v : SendLayout) : v.layOut.sendView = v := by
  have haddresses : v.layOut.word64 0 = v.addresses :=
    word64_eq [] v.addresses (bytes64 v.length) rfl (by simp [SendLayout.layOut])
  have hlength : v.layOut.word64 8 = v.length :=
    word64_eq (bytes64 v.addresses) v.length [] (length_bytes64 _) (by simp [SendLayout.layOut])
  rw [sendView, haddresses, hlength]

theorem shutdownView_layOut (v : ShutdownLayout) : v.layOut.shutdownView = v := by
  have hdirection : v.layOut.word32 0 = v.direction :=
    word32_eq [] v.direction (bytes32 v.reserved₁ ++ bytes32 v.reserved₂ ++ bytes32 v.reserved₃)
      rfl (by simp [ShutdownLayout.layOut])
  have hfirst : v.layOut.word32 4 = v.reserved₁ :=
    word32_eq (bytes32 v.direction) v.reserved₁ (bytes32 v.reserved₂ ++ bytes32 v.reserved₃)
      (length_bytes32 _) (by simp [ShutdownLayout.layOut])
  have hsecond : v.layOut.word32 8 = v.reserved₂ :=
    word32_eq (bytes32 v.direction ++ bytes32 v.reserved₁) v.reserved₂ (bytes32 v.reserved₃)
      (by simp) (by simp [ShutdownLayout.layOut])
  have hthird : v.layOut.word32 12 = v.reserved₃ :=
    word32_eq (bytes32 v.direction ++ bytes32 v.reserved₁ ++ bytes32 v.reserved₂) v.reserved₃ []
      (by simp) (by simp [ShutdownLayout.layOut])
  rw [shutdownView, hdirection, hfirst, hsecond, hthird]

theorem getView_layOut (v : GetLayout) : v.layOut.getView = v := by
  have hparameter : v.layOut.word32 0 = v.parameter :=
    word32_eq [] v.parameter (bytes32 v.reserved ++ bytes64 v.value) rfl
      (by simp [GetLayout.layOut])
  have hreserved : v.layOut.word32 4 = v.reserved :=
    word32_eq (bytes32 v.parameter) v.reserved (bytes64 v.value) (length_bytes32 _)
      (by simp [GetLayout.layOut])
  have hvalue : v.layOut.word64 8 = v.value :=
    word64_eq (bytes32 v.parameter ++ bytes32 v.reserved) v.value [] (by simp)
      (by simp [GetLayout.layOut])
  rw [getView, hparameter, hreserved, hvalue]

theorem setView_layOut (v : SetLayout) : v.layOut.setView = v := by
  have hvalue : v.layOut.word64 0 = v.value :=
    word64_eq [] v.value (bytes32 v.parameter ++ bytes32 v.reserved) rfl
      (by simp [SetLayout.layOut])
  have hparameter : v.layOut.word32 8 = v.parameter :=
    word32_eq (bytes64 v.value) v.parameter (bytes32 v.reserved) (length_bytes64 _)
      (by simp [SetLayout.layOut])
  have hreserved : v.layOut.word32 12 = v.reserved :=
    word32_eq (bytes64 v.value ++ bytes32 v.parameter) v.reserved [] (by simp)
      (by simp [SetLayout.layOut])
  rw [setView, hvalue, hparameter, hreserved]

/-! ### The value slot -/

theorem value_writeSlot (b : Block) (v : UInt64) :
    (b.writeSlot (bytes64 v)).getView.value = v := by
  have hslot : overlay b.valueSlot (bytes64 v) = bytes64 v := overlay_of_length (by simp)
  have hfront : (b.bytes.take valueOffset).length = 8 := by
    rw [List.length_take, b.length_bytes]
    rfl
  have hbytes : (b.writeSlot (bytes64 v)).bytes
      = b.bytes.take valueOffset ++ (bytes64 v ++ []) := by
    rw [List.append_nil]
    exact congrArg _ hslot
  exact word64_eq (b.bytes.take valueOffset) v [] hfront hbytes

end Block

end PacketDiversion
