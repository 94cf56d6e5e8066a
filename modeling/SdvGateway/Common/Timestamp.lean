import SdvGateway.Common.Json

/-! The time stamp of the uplink messages, in the calendar of `gmtime_r`. Time
points are nanoseconds since the epoch. -/
namespace SdvGateway.Common

def IsAscii (s : Str) : Prop := ∀ byte ∈ s, byte < 0x80

theorem isAscii_append {s t : Str} : IsAscii (s ++ t) ↔ IsAscii s ∧ IsAscii t :=
  List.forall_mem_append

theorem isAscii_take {s : Str} (n : Nat) (h : IsAscii s) : IsAscii (s.take n) :=
  fun byte hbyte => h byte (List.mem_of_mem_take hbyte)

theorem isUtf8_of_ascii {s : Str} (h : IsAscii s) : isUtf8 s = true := by
  have hfold : s.foldlM Utf8State.next .start = some .start := by
    induction s with
    | nil => rfl
    | cons byte rest ih =>
      have hnext : Utf8State.next .start byte = some .start := by
        simp [Utf8State.next, h byte List.mem_cons_self]
      rw [List.foldlM_cons, hnext]
      exact ih fun b hb => h b (List.mem_cons_of_mem _ hb)
  rw [isUtf8, hfold]
  rfl

theorem natText_ascii (n : Nat) : IsAscii (natText n) := by
  intro byte hbyte
  obtain ⟨c, hc, rfl⟩ := List.mem_map.mp hbyte
  have hdigit : c.isDigit = true := Nat.isDigit_of_mem_toDigits (by decide) (by decide) hc
  have hbound : c.toNat ≤ 57 := by
    simp only [Char.isDigit, Bool.and_eq_true, decide_eq_true_eq] at hdigit
    exact UInt32.le_iff_toNat_le.mp hdigit.2
  rw [UInt8.lt_iff_toNat_lt, UInt8.toNat_ofNat']
  change _ < 128
  omega

/-- The fields of a broken-down time that the code reads: years since 1900, and
months since January. -/
structure Tm where
  year : Int
  mon : Int
  mday : Int
  hour : Int
  min : Int
  sec : Int
deriving DecidableEq

/-- `gmtime_r`: days are counted from the first of March, so that the day which a
leap year adds is the last one of its year; 400 years are 146097 days. -/
def gmtime (t : Int) : Tm :=
  let days := t.fdiv 86400 + 719468
  let rest := t.fmod 86400
  let era := days.fdiv 146097
  let doe := days.fmod 146097
  let yoe := (doe - doe / 1460 + doe / 36524 - doe / 146096) / 365
  let doy := doe - (365 * yoe + yoe / 4 - yoe / 100)
  let mp := (5 * doy + 2) / 153
  let mon := if mp < 10 then mp + 3 else mp - 9
  { year := yoe + 400 * era + (if mon ≤ 2 then 1 else 0) - 1900
    mon := mon - 1
    mday := doy - (153 * mp + 2) / 5 + 1
    hour := rest / 3600
    min := rest / 60 % 60
    sec := rest % 60 }

def padded (width : Nat) (n : Int) : Str :=
  let digits := natText n.natAbs
  if n < 0 then 0x2D :: (List.replicate (width - 1 - digits.length) 0x30 ++ digits)
  else List.replicate (width - digits.length) 0x30 ++ digits

/-- The conversions of `chrono` truncate towards zero, and the buffer has room for
31 characters. -/
def iso8601Utc (tp : Int) : Str :=
  let ms := (tp.tdiv 1000000).tmod 1000
  let tm := gmtime (tp.tdiv 1000000000)
  (padded 4 (tm.year + 1900) ++ lit "-" ++ padded 2 (tm.mon + 1) ++ lit "-" ++
    padded 2 tm.mday ++ lit "T" ++ padded 2 tm.hour ++ lit ":" ++ padded 2 tm.min ++ lit ":" ++
    padded 2 tm.sec ++ lit "." ++ padded 3 ms ++ lit "Z").take 31

private theorem padded_ascii (width : Nat) (n : Int) : IsAscii (padded width n) := by
  have hdigits (count : Nat) : IsAscii (List.replicate count 0x30 ++ natText n.natAbs) := by
    rw [isAscii_append]
    constructor
    · intro byte hbyte
      rw [List.eq_of_mem_replicate hbyte]
      decide
    · exact natText_ascii _
  unfold padded
  dsimp only
  split
  · intro byte hbyte
    cases List.mem_cons.mp hbyte with
    | inl heq =>
      rw [heq]
      decide
    | inr hmem => exact hdigits _ byte hmem
  · exact hdigits _

theorem iso8601Utc_ascii (tp : Int) : IsAscii (iso8601Utc tp) := by
  have hsigns : IsAscii (lit "-") ∧ IsAscii (lit "T") ∧ IsAscii (lit ":") ∧ IsAscii (lit ".") ∧
      IsAscii (lit "Z") := by
    unfold IsAscii
    decide +kernel
  unfold iso8601Utc
  apply isAscii_take
  simp only [isAscii_append, padded_ascii, hsigns, and_self]

example : iso8601Utc 1718000000123000000 = lit "2024-06-10T06:13:20.123Z" := by
  decide +kernel

end SdvGateway.Common
