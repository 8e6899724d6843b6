import PipeShell.Text.Utf8

/-!
# Texts of octets

Programs that know nothing of characters work on bytes. Here such bytes are written as characters,
each byte as the character whose code point it is, so that texts of bytes can be read and compared
like other texts.

## Main definitions

* `Octets`: characters that stand for bytes
* `Octets.ofBytes`, `Octets.toBytes`: from bytes and back
* `Octets.ofString`, `Octets.toString`: from text and back, through its UTF-8 bytes
-/

namespace PipeShell.Text

/-- Characters that stand for bytes. -/
abbrev Octets := List Char

namespace Octets

/-- The character that stands for a byte. -/
def charOf (b : UInt8) : Char := Char.ofNat b.toNat

/-- The byte that a character stands for. -/
def byteOf (c : Char) : UInt8 := UInt8.ofNat c.toNat

def ofBytes (bytes : Bytes) : Octets := bytes.map charOf

def toBytes (cs : Octets) : Bytes := cs.map byteOf

def ofString (text : String) : Octets := ofBytes (Utf8.encode text)

def toString (cs : Octets) : String := Utf8.decode (toBytes cs)

@[simp] theorem byteOf_charOf (b : UInt8) : byteOf (charOf b) = b := by
  unfold byteOf charOf
  have hb : b.toNat < 256 := b.toNat_lt
  have : (Char.ofNat b.toNat).toNat = b.toNat := by
    rw [Char.ofNat, dif_pos (Or.inl (by omega))]
    rfl
  rw [this]
  simp

/-- Bytes written as characters and read back are unchanged. -/
@[simp] theorem toBytes_ofBytes (bytes : Bytes) : toBytes (ofBytes bytes) = bytes := by
  simp [toBytes, ofBytes, Function.comp_def]

end Octets

end PipeShell.Text
