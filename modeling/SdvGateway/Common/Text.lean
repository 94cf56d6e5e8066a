import Mathlib.Algebra.Order.Ring.Int
import Mathlib.Data.List.TakeWhile

/-! Byte strings. A `std::string` and a file are sequences of bytes; only the
JSON library insists that a string is well-formed UTF-8, and only C interfaces
stop at a NUL. -/
namespace SdvGateway.Common

abbrev Bytes := List UInt8
abbrev Str := List UInt8

/-- Membership in a list of strings is decided with this instance. -/
instance : LawfulBEq Str := inferInstance

def lit (s : String) : Str := s.toUTF8.data.toList

/-- What a callee that takes `const char*` sees of a `std::string`. -/
def cStr (s : Str) : Str := s.takeWhile (· ≠ 0)

private theorem zero_notMem_cStr (s : Str) : (0 : UInt8) ∉ cStr s := by
  intro h
  simpa using List.mem_takeWhile_imp h

theorem cStr_of_notMem {s : Str} (h : (0 : UInt8) ∉ s) : cStr s = s := by
  apply List.takeWhile_eq_self_iff.mpr
  intro byte hbyte
  have hne : byte ≠ 0 := fun h0 => h (h0 ▸ hbyte)
  simpa using hne

@[simp] theorem cStr_cStr (s : Str) : cStr (cStr s) = cStr s :=
  cStr_of_notMem (zero_notMem_cStr s)

inductive Utf8State where
  | start
  | one
  | two
  | three
  | afterE0
  | afterED
  | afterF0
  | afterF4
deriving DecidableEq

def Utf8State.next (state : Utf8State) (byte : UInt8) : Option Utf8State :=
  match state with
  | .start =>
    if byte < 0x80 then some .start
    else if 0xC2 ≤ byte ∧ byte ≤ 0xDF then some .one
    else if byte = 0xE0 then some .afterE0
    else if byte = 0xED then some .afterED
    else if 0xE1 ≤ byte ∧ byte ≤ 0xEF then some .two
    else if byte = 0xF0 then some .afterF0
    else if 0xF1 ≤ byte ∧ byte ≤ 0xF3 then some .three
    else if byte = 0xF4 then some .afterF4
    else none
  | .one => if 0x80 ≤ byte ∧ byte ≤ 0xBF then some .start else none
  | .two => if 0x80 ≤ byte ∧ byte ≤ 0xBF then some .one else none
  | .three => if 0x80 ≤ byte ∧ byte ≤ 0xBF then some .two else none
  | .afterE0 => if 0xA0 ≤ byte ∧ byte ≤ 0xBF then some .one else none
  | .afterED => if 0x80 ≤ byte ∧ byte ≤ 0x9F then some .one else none
  | .afterF0 => if 0x90 ≤ byte ∧ byte ≤ 0xBF then some .two else none
  | .afterF4 => if 0x80 ≤ byte ∧ byte ≤ 0x8F then some .two else none

def isUtf8 (s : Str) : Bool :=
  s.foldlM Utf8State.next .start == some .start

end SdvGateway.Common
