import Mathlib.Logic.Function.Basic
import PacketDiversion.Proofs.Request.Layout

/-!
# Views of request blocks

The five layouts have no gaps: the fields that a view reads, written back at their offsets, are the
block again, whatever its bytes are, and a layout is what its view reads off the block. So nothing
is lost in a view (`views_lossless`). Both directions come from single words: `bytes32_word32` and
`bytes64_word64` for a block that is read, `word32_eq` and `word64_eq` for one that is written.
-/

namespace PacketDiversion.Block

open LittleEndian

variable {b : Block} {offset : Nat}

/-! ### Words that are read -/

theorem eq_of_bytes {a b : Block} (h : a.bytes = b.bytes) : a = b := by
  cases a
  cases b
  cases h
  rfl

theorem length_field {width : Nat} (h : offset + width ≤ size) :
    ((b.bytes.drop offset).take width).length = width := by
  rw [List.length_take, List.length_drop, b.length_bytes]
  unfold size at h
  omega

theorem encode_word {width : Nat} (h : offset + width ≤ size) :
    encode width (b.word offset width) = (b.bytes.drop offset).take width := by
  have hbytes := encode_decode ((b.bytes.drop offset).take width)
  rw [length_field h] at hbytes
  exact hbytes

theorem word_lt {width : Nat} (h : offset + width ≤ size) : b.word offset width < count width := by
  have hlt := decode_lt ((b.bytes.drop offset).take width)
  rw [length_field h] at hlt
  exact hlt

theorem bytes32_word32 (h : offset + 4 ≤ size) :
    bytes32 (b.word32 offset) = (b.bytes.drop offset).take 4 := by
  have hlt : b.word offset 4 < UInt32.size := word_lt h
  rw [bytes32, word32, UInt32.toNat_ofNat_of_lt' hlt, encode_word h]

theorem bytes64_word64 (h : offset + 8 ≤ size) :
    bytes64 (b.word64 offset) = (b.bytes.drop offset).take 8 := by
  have hlt : b.word offset 8 < UInt64.size := word_lt h
  rw [bytes64, word64, UInt64.toNat_ofNat_of_lt' hlt, encode_word h]

theorem take_bytes (b : Block) : b.bytes.take 16 = b.bytes := by
  rw [← b.length_bytes, List.take_length]

/-! ### Views laid out again -/

theorem layOut_recvView (b : Block) : b.recvView.layOut = b := by
  apply eq_of_bytes
  calc bytes64 (b.word64 0) ++ bytes64 (b.word64 8)
      = (b.bytes.drop 0).take 8 ++ (b.bytes.drop 8).take 8 := by
        rw [bytes64_word64 (by decide), bytes64_word64 (by decide)]
    _ = b.bytes.take 16 := by rw [List.drop_zero, ← List.take_add]
    _ = b.bytes := b.take_bytes

theorem layOut_sendView (b : Block) : b.sendView.layOut = b := b.layOut_recvView

theorem layOut_shutdownView (b : Block) : b.shutdownView.layOut = b := by
  apply eq_of_bytes
  calc bytes32 (b.word32 0) ++ bytes32 (b.word32 4) ++ bytes32 (b.word32 8) ++ bytes32 (b.word32 12)
      = (b.bytes.drop 0).take 4 ++ (b.bytes.drop 4).take 4 ++ (b.bytes.drop 8).take 4
          ++ (b.bytes.drop 12).take 4 := by
        rw [bytes32_word32 (by decide), bytes32_word32 (by decide), bytes32_word32 (by decide),
          bytes32_word32 (by decide)]
    _ = b.bytes.take 16 := by rw [List.drop_zero, ← List.take_add, ← List.take_add, ← List.take_add]
    _ = b.bytes := b.take_bytes

theorem layOut_getView (b : Block) : b.getView.layOut = b := by
  apply eq_of_bytes
  calc bytes32 (b.word32 0) ++ bytes32 (b.word32 4) ++ bytes64 (b.word64 8)
      = (b.bytes.drop 0).take 4 ++ (b.bytes.drop 4).take 4 ++ (b.bytes.drop 8).take 8 := by
        rw [bytes32_word32 (by decide), bytes32_word32 (by decide), bytes64_word64 (by decide)]
    _ = b.bytes.take 16 := by rw [List.drop_zero, ← List.take_add, ← List.take_add]
    _ = b.bytes := b.take_bytes

theorem layOut_setView (b : Block) : b.setView.layOut = b := by
  apply eq_of_bytes
  calc bytes64 (b.word64 0) ++ bytes32 (b.word32 8) ++ bytes32 (b.word32 12)
      = (b.bytes.drop 0).take 8 ++ (b.bytes.drop 8).take 4 ++ (b.bytes.drop 12).take 4 := by
        rw [bytes64_word64 (by decide), bytes32_word32 (by decide), bytes32_word32 (by decide)]
    _ = b.bytes.take 16 := by rw [List.drop_zero, ← List.take_add, ← List.take_add]
    _ = b.bytes := b.take_bytes

/-! ### Stores into the value slot -/

theorem bytes_storeValue (b : Block) (v : UInt64) :
    (b.storeValue v).bytes = b.bytes.take valueOffset ++ bytes64 v := by
  have hslot : overlay b.valueSlot (bytes64 v) = bytes64 v := overlay_of_length (by simp)
  exact congrArg _ hslot

theorem getElem?_storeValue (b : Block) (v : UInt64) {i : Nat} (outside : i < 8 ∨ 16 ≤ i) :
    (b.storeValue v).bytes[i]? = b.bytes[i]? := by
  rcases outside with before | behind
  · have hslot : i < valueOffset := before
    have hlength : i < (b.bytes.take valueOffset).length := by
      rw [List.length_take, b.length_bytes]
      exact before
    rw [bytes_storeValue, List.getElem?_append_left hlength, List.getElem?_take_of_lt hslot]
  · rw [List.getElem?_eq_none (by rw [length_bytes]; exact behind),
      List.getElem?_eq_none (by rw [length_bytes]; exact behind)]

/-! ### Every view -/

/-- The fields of a view, laid out again, are the block, so that a view tells the whole block. The
view that belongs to a request gives back what the request was made of, with every reserved word
and the value that is asked for zero. A value stored in its slot is read back, and no byte before
or behind the slot changes. -/
theorem views_lossless :
    (∀ b : Block, b.recvView.layOut = b ∧ b.sendView.layOut = b ∧ b.shutdownView.layOut = b
      ∧ b.getView.layOut = b ∧ b.setView.layOut = b)
    ∧ (Function.Injective recvView ∧ Function.Injective sendView
      ∧ Function.Injective shutdownView ∧ Function.Injective getView
      ∧ Function.Injective setView)
    ∧ ((∀ addresses lengthCell, (recv addresses lengthCell).recvView = ⟨addresses, lengthCell⟩)
      ∧ (∀ addresses count, 80 * count < UInt64.size →
        (send addresses count).sendView.addresses = addresses
          ∧ (send addresses count).sendView.length.toNat = 80 * count)
      ∧ (∀ how, (shutdown how).shutdownView = ⟨how.code, 0, 0, 0⟩)
      ∧ (∀ p, (getParameter p).getView = ⟨p.id, 0, 0⟩)
      ∧ ∀ p value, (setParameter p value).setView = ⟨value, p.id, 0⟩)
    ∧ ∀ (b : Block) (v : UInt64), (b.storeValue v).getView.value = v
      ∧ ∀ i, i < 8 ∨ 16 ≤ i → (b.storeValue v).bytes[i]? = b.bytes[i]? := by
  refine ⟨?_, ?_, ⟨?_, ?_, ?_, ?_, ?_⟩, ?_⟩
  · intro b
    exact ⟨layOut_recvView b, layOut_sendView b, layOut_shutdownView b, layOut_getView b,
      layOut_setView b⟩
  · exact ⟨Function.LeftInverse.injective layOut_recvView,
      Function.LeftInverse.injective layOut_sendView,
      Function.LeftInverse.injective layOut_shutdownView,
      Function.LeftInverse.injective layOut_getView,
      Function.LeftInverse.injective layOut_setView⟩
  · exact fun addresses lengthCell => recvView_layOut _
  · intro addresses count fits
    have hlength : count * Address.size < UInt64.size := by
      rw [Address.size, Nat.mul_comm]
      exact fits
    rw [send, sendView_layOut]
    refine ⟨rfl, ?_⟩
    rw [UInt64.toNat_ofNat_of_lt' hlength, Address.size, Nat.mul_comm]
  · exact fun how => shutdownView_layOut _
  · exact fun p => getView_layOut _
  · exact fun p value => setView_layOut _
  · intro b v
    exact ⟨value_writeSlot b v, fun i outside => getElem?_storeValue b v outside⟩

/-- A request for a parameter whose value was stored, and a send of three records. -/
theorem answered_lossless :
    (send 0x1000 3).sendView.length.toNat = 240
      ∧ ((getParameter .queueTime).storeValue 2000).getView.value = 2000
      ∧ ((getParameter .queueTime).storeValue 2000).bytes[0]? = some 1 := by
  obtain ⟨-, -, ⟨-, sends, -⟩, stores⟩ := views_lossless
  obtain ⟨hvalue, outside⟩ := stores (getParameter .queueTime) 2000
  refine ⟨(sends 0x1000 3 (by decide)).2, hvalue, ?_⟩
  rw [outside 0 (by decide)]
  rfl

end PacketDiversion.Block
