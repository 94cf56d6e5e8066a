import SdvGateway.Common.Convert
import SdvGateway.Library.Pattern

/-! The lines of a DBC file that the decoder reads: `BO_` opens a message block
and `SG_` declares a signal in it. Both patterns are anchored at the start. -/
namespace SdvGateway.CanLayer.DbcLine
open Common Library

def getlines (text : Str) : List Str :=
  let parts := text.splitOn 0x0A
  if parts.getLast? = some [] then parts.dropLast else parts

def byte (expected : UInt8) : Piece UInt8 := .one (· = expected)

def isQuote (byte : UInt8) : Bool := byte = 0x22 || byte = 0x27

/-- `^BO_\s+(\d+)` -/
def boRe : List (Piece UInt8) :=
  (lit "BO_").map byte ++ [.plus isSpace, (Piece.plus isDigit).group]

/-- `^\s+SG_\s+(\w+)\s*:\s*(\d+)\|(\d+)@([01])([+-])\s*\(([^,]+),([^)]+)\)[^"']*["']([^"']*)["']` -/
def sgRe : List (Piece UInt8) :=
  [.plus isSpace] ++ (lit "SG_").map byte ++
    [.plus isSpace, (Piece.plus isWord).group, .star isSpace, byte 0x3A, .star isSpace,
      (Piece.plus isDigit).group, byte 0x7C, (Piece.plus isDigit).group, byte 0x40,
      (Piece.one fun b => b = 0x30 || b = 0x31).group,
      (Piece.one fun b => b = 0x2B || b = 0x2D).group,
      .star isSpace, byte 0x28, (Piece.plus (· ≠ 0x2C)).group, byte 0x2C,
      (Piece.plus (· ≠ 0x29)).group, byte 0x29,
      .star (!isQuote ·), .one isQuote, (Piece.star (!isQuote ·)).group, .one isQuote]

structure SgMatch where
  name : Str
  startBit : Str
  length : Str
  byteOrder : Str
  sign : Str
  scale : Str
  offset : Str
  unit : Str
deriving DecidableEq

def boSearch (line : Str) : Option Str :=
  match matchAt boRe line with
  | some [number] => some number
  | _ => none

def sgSearch (line : Str) : Option SgMatch :=
  match matchAt sgRe line with
  | some [name, startBit, length, byteOrder, sign, scale, offset, unit] =>
    some ⟨name, startBit, length, byteOrder, sign, scale, offset, unit⟩
  | _ => none

theorem boSearch_digits {line number : Str} (h : boSearch line = some number) :
    number ≠ [] ∧ ∀ b ∈ number, isDigit b = true := by
  unfold boSearch at h
  split at h
  · next found hmatch =>
    obtain rfl := Option.some.inj h
    have hgroups := takes_of_matchAt hmatch
    rw [show boRe.filter (·.captured) = [(Piece.plus isDigit).group] from rfl] at hgroups
    cases hgroups with
    | cons htakes _ =>
      constructor
      · exact List.ne_nil_of_length_pos htakes.least
      · exact htakes.accepts
  · contradiction

def isSignalName (name : Str) : Bool := name ≠ [] && name.all isWord

theorem sgSearch_name {line : Str} {m : SgMatch} (h : sgSearch line = some m) :
    isSignalName m.name = true := by
  unfold sgSearch at h
  split at h
  · next found name _ _ _ _ _ _ _ hmatch =>
    obtain rfl := Option.some.inj h
    have hgroups := takes_of_matchAt hmatch
    have hfirst : ∃ rest, sgRe.filter (·.captured) = (Piece.plus isWord).group :: rest :=
      ⟨_, rfl⟩
    obtain ⟨rest, hrest⟩ := hfirst
    rw [hrest] at hgroups
    cases hgroups with
    | cons htakes _ =>
      have hnonempty : name ≠ [] := List.ne_nil_of_length_pos htakes.least
      rw [isSignalName, Bool.and_eq_true]
      exact ⟨decide_eq_true hnonempty, List.all_eq_true.mpr htakes.accepts⟩
  · contradiction

theorem sgSearch_digits {line : Str} {m : SgMatch} (h : sgSearch line = some m) :
    (m.startBit ≠ [] ∧ ∀ b ∈ m.startBit, isDigit b = true) ∧
      m.length ≠ [] ∧ ∀ b ∈ m.length, isDigit b = true := by
  unfold sgSearch at h
  split at h
  · next found name startBit length _ _ _ _ _ hmatch =>
    obtain rfl := Option.some.inj h
    have hgroups := takes_of_matchAt hmatch
    have hfirst : ∃ rest, sgRe.filter (·.captured) = (Piece.plus isWord).group ::
        (Piece.plus isDigit).group :: (Piece.plus isDigit).group :: rest := ⟨_, rfl⟩
    obtain ⟨rest, hrest⟩ := hfirst
    rw [hrest] at hgroups
    cases hgroups with
    | cons _ hgroups =>
      cases hgroups with
      | cons hstart hgroups =>
        cases hgroups with
        | cons hlength _ =>
          exact ⟨⟨List.ne_nil_of_length_pos hstart.least, hstart.accepts⟩,
            List.ne_nil_of_length_pos hlength.least, hlength.accepts⟩
  · contradiction

example : sgSearch (lit " SG_ VEHICLE_SPEED : 40|16@1+ (0.01,0) [0|250] \"km/h\" TCU") =
    some ⟨lit "VEHICLE_SPEED", lit "40", lit "16", lit "1", lit "+", lit "0.01", lit "0",
      lit "km/h"⟩ := by
  decide +kernel

end SdvGateway.CanLayer.DbcLine
