import Inflight.Text.Column

/-!
# Instruction addresses

An address is a word of its own kind, so that it is not mistaken for a cycle or
a sequence number.  It is written in lower-case hexadecimal after `0x`.
-/

namespace Inflight

set_option autoImplicit false

/-- The address of an instruction. -/
structure Address where
  /-- The address as a word. -/
  word : UInt64
deriving DecidableEq, Repr

namespace Address

variable (address : Address)

/-- The hexadecimal digits of an address, without leading zeros. -/
def digits : String :=
  Text.hexadecimal address.word.toNat

/-- An address as records show it. -/
def text : String :=
  "0x" ++ address.digits

/-- An address in which zeros after the mark fill a column of the given width. -/
def zeroFilled (width : Nat) : String :=
  "0x" ++ Text.zeroFill (width - 2) address.digits

/-- The hexadecimal digits of an address in a left-justified column. -/
def digitColumn (width : Nat) : String :=
  Text.leftJustify width address.digits

/-- Digits are in lower case, and zeros stand only where a width asks for them. -/
example : text ⟨0x4005D0⟩ = "0x4005d0" ∧ zeroFilled ⟨0x4005D0⟩ 12 = "0x00004005d0" := by decide

end Address

end Inflight
