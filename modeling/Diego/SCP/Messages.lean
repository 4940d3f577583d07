import Diego.Duplex
import Diego.SCP.Copy
import Diego.SCP.Host

/-!
# What one end writes is what the other end reads

The two ends of a copy on two systems, joined by streams.  Each message that the source end writes
is read by the target end as the values that it was written from: times in whole seconds, the low
twelve bits of a mode, the size, and the name.
-/

namespace Diego.SCP

open Diego.Executor (GoString bytes)
open LexicalPath Process Duplex

/-- How many bytes a stream holds. -/
structure Streams where
  capacity : Nat
  capacity_pos : 0 < capacity

/-- Two systems joined by streams. -/
def Streams.link (streams : Streams) : Link UInt8 Op.Answer Failure Host where
  capacity := streams.capacity
  capacity_pos := streams.capacity_pos
  eof := .eof
  call := Host.call

variable {streams : Streams} {host host' : Host} {path : GoString}
  {session : Session} {name : GoString}

/-! ## Single actions -/

theorem reads_readByte {b : UInt8} : Reads streams.link readByte host [b] (.done (.ok b)) host :=
  .read (.refl _ _)

theorem reads_readString {delim : UInt8} {line : GoString} (h : delim ∉ line) :
    Reads streams.link (readString delim) host (line ++ [delim]) (.done (.ok line)) host :=
  .line h (.refl _ _)

theorem reads_stat : Reads streams.link (stat path) host [] (.done (.ok (host.stat path))) host :=
  .call (.refl _ _)

theorem reads_placeOf {named : Bool} :
    Reads streams.link (placeOf named path name) host []
      (.done (.ok (if named then join path name else path))) host := by
  cases named with
  | false => exact .refl _ _
  | true => exact .call (.refl _ _)

theorem reads_perform {change : Change} (h : host.change change path = (.ok (), host')) :
    Reads streams.link (perform change path) host [] (.done (.ok ())) host' := by
  refine .call ?_
  have hanswer : streams.link.call (.change change path) host = (.ok (), host') := h
  rw [hanswer]
  exact .refl _ _

theorem reads_awaitConfirmation :
    Reads streams.link awaitConfirmation host [0] (.done (.ok ())) host :=
  reads_readByte.bind (.refl _ _)

/-! ## Numbers -/

variable {text : GoString} {base bitSize n : Nat} {sec : Int64} {tm : TimeMessage} {mode : Nat}

theorem parseUint_of_scan (h : Numeral.scan base (2 ^ bitSize) text = .ok n) :
    parseUint session text base bitSize = .done (.ok n) := by
  rw [parseUint, h]

theorem parseInt_of_scan {n : Int} (h : Numeral.scanInt (2 ^ 63) text = .ok n) :
    parseInt session text = .done (.ok n) := by
  rw [parseInt, h]

theorem reads_parseUint (h : Numeral.scan base (2 ^ bitSize) text = .ok n) :
    Reads streams.link (parseUint session text base bitSize) host [] (.done (.ok n)) host := by
  rw [parseUint_of_scan h]
  exact .refl _ _

theorem reads_parseInt {n : Int} (h : Numeral.scanInt (2 ^ 63) text = .ok n) :
    Reads streams.link (parseInt session text) host [] (.done (.ok n)) host := by
  rw [parseInt_of_scan h]
  exact .refl _ _

theorem space_not_mem_formatInt {i : Int} (h : 0 ≤ i) : space ∉ Numeral.formatInt i :=
  fun hmem => absurd (Numeral.isDigit_of_mem_formatInt h hmem) (by decide)

theorem space_not_mem_format : space ∉ Numeral.format 8 4 n :=
  fun hmem => absurd (Numeral.isDigit_of_mem_format (by decide) (by decide) hmem) (by decide)

/-- A number of seconds from the epoch on comes back as it was. -/
theorem scan_seconds (h : 0 ≤ sec.toInt) :
    Numeral.scan 10 (2 ^ 64) (Numeral.formatInt sec.toInt) = .ok sec.toInt.natAbs := by
  have hlt := sec.toInt_lt
  rw [Numeral.formatInt, if_neg (by omega)]
  exact Numeral.scan_format (by decide) (by decide) (by decide) (by omega)

theorem toInt64_seconds (h : 0 ≤ sec.toInt) : (UInt64.ofNat sec.toInt.natAbs).toInt64 = sec := by
  calc (UInt64.ofNat sec.toInt.natAbs).toInt64
      = Int64.ofInt sec.toInt.natAbs := Int64.ofInt_eq_ofNat.symm
    _ = Int64.ofInt sec.toInt := by rw [Int.natAbs_of_nonneg h]
    _ = sec := Int64.ofInt_toInt sec

theorem scan_mode :
    Numeral.scan 8 (2 ^ 32) (Numeral.format 8 4 (mode &&& 0o7777)) = .ok (mode &&& 0o7777) := by
  have hle : mode &&& 0o7777 ≤ 0o7777 := Nat.and_le_right
  exact Numeral.scan_format (by decide) (by decide) (by decide) (by omega)

/-! ## Messages -/

def TimeMessage.wholeSeconds (tm : TimeMessage) : TimeMessage where
  modificationTime := .unix tm.modificationTime.sec
  accessTime := .unix tm.accessTime.sec

/-- The whole seconds from the epoch on whose nanoseconds do not wrap, which end in April 2262. -/
structure Time.InRange (t : Time) : Prop where
  sinceEpoch : 0 ≤ t.sec.toInt
  le_last : t.sec.toInt ≤ 9223372036

/-- The seconds of such a time are set as they are. -/
theorem Time.InRange.set {t : Time} (h : t.InRange) (old : Time) :
    (unix t.sec).set old = unix t.sec := by
  have hlower := h.sinceEpoch
  have hupper := h.le_last
  have hzero : (unix t.sec).isZero = false := by
    refine decide_eq_false fun heq => ?_
    have hsec : t.sec = -62135596800 := congrArg Time.sec heq
    rw [hsec] at hlower
    exact absurd hlower (by decide)
  have hnano : (unix t.sec).unixNano.toInt = t.sec.toInt * 1000000000 := by
    have hadd : (unix t.sec).unixNano = t.sec * 1000000000 := Int64.add_zero _
    rw [hadd, Int64.toInt_mul]
    change (t.sec.toInt * 1000000000).bmod (2 ^ 64) = _
    exact Int.bmod_eq_of_le (by omega) (by omega)
  rw [Time.set, hzero, if_neg Bool.false_ne_true, ofNano, hnano,
    Int.mul_ediv_cancel _ (by decide), Int.mul_emod_left, Int64.ofInt_toInt]
  rfl

structure TimeMessage.InRange (tm : TimeMessage) : Prop where
  modificationTime : tm.modificationTime.InRange
  accessTime : tm.accessTime.InRange

theorem reads_timeMessage (h : tm.InRange) :
    Reads streams.link (TimeMessage.readText session) host tm.text
      (.done (.ok tm.wholeSeconds)) host := by
  have htext : tm.text = ['T'.toUInt8] ++
      ((Numeral.formatInt tm.modificationTime.sec.toInt ++ [space]) ++ ([] ++ (([48] ++ [space]) ++
        ((Numeral.formatInt tm.accessTime.sec.toInt ++ [space]) ++ ([] ++
          (([48] ++ [newline]) ++ [])))))) := by
    have hzero : bytes " 0 " = [space, 48, space] := by decide
    have hend : bytes " 0\n" = [space, 48, newline] := by decide
    simp [TimeMessage.text, hzero, hend]
  rw [htext]
  refine reads_readByte.bind ?_
  refine (reads_readString (space_not_mem_formatInt h.modificationTime.sinceEpoch)).bind ?_
  refine (reads_parseUint (scan_seconds h.modificationTime.sinceEpoch)).bind ?_
  refine (reads_readString (by decide)).bind ?_
  refine (reads_readString (space_not_mem_formatInt h.accessTime.sinceEpoch)).bind ?_
  refine (reads_parseUint (scan_seconds h.accessTime.sinceEpoch)).bind ?_
  refine (reads_readString (by decide)).bind ?_
  rw [toInt64_seconds h.modificationTime.sinceEpoch, toInt64_seconds h.accessTime.sinceEpoch]
  exact .refl _ _

theorem reads_receiveTime (h : tm.InRange) :
    Reads streams.link (TimeMessage.receive session) host tm.text
      (sendConfirmation >>= fun _ => pure tm.wholeSeconds) host :=
  (reads_timeMessage h).handle _

theorem headerText_eq (messageType : UInt8) (length : Int) :
    headerText messageType mode length name = [messageType] ++
      ((Numeral.format 8 4 (mode &&& 0o7777) ++ [space]) ++ ([] ++
        ((Numeral.formatInt length ++ [space]) ++ ((name ++ [newline]) ++ [])))) := by
  have hspace : bytes " " = [space] := by decide
  simp [headerText, hspace]

theorem reads_fileHeader {length : Int} (hlength : 0 ≤ length) (hlimit : length < 2 ^ 63)
    (hname : newline ∉ name) :
    Reads streams.link (readFileHeader session) host
      (headerText 'C'.toUInt8 mode length name)
      (.done (.ok { mode := mode &&& 0o7777, length, name })) host := by
  rw [headerText_eq]
  refine reads_readByte.bind ?_
  refine (reads_readString space_not_mem_format).bind ?_
  refine (reads_parseUint scan_mode).bind ?_
  refine (reads_readString (space_not_mem_formatInt hlength)).bind ?_
  refine (reads_parseInt (Numeral.scanInt_formatInt hlength hlimit)).bind ?_
  exact (reads_readString hname).bind (.refl _ _)

theorem reads_directoryHeader (hname : newline ∉ name) :
    Reads streams.link (readDirectoryHeader session) host
      (headerText 'D'.toUInt8 mode 0 name)
      (.done (.ok { mode := mode &&& 0o7777, length := 0, name })) host := by
  rw [headerText_eq]
  refine reads_readByte.bind ?_
  refine (reads_readString space_not_mem_format).bind ?_
  refine (reads_parseUint scan_mode).bind ?_
  refine (reads_readString (space_not_mem_formatInt (Int.le_refl 0))).bind ?_
  exact (reads_readString hname).bind (.refl _ _)

end Diego.SCP
