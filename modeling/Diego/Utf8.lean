import Mathlib.Data.List.Basic
import Mathlib.Tactic.Tauto

/-!
# Decoding UTF-8

`DecodeRune`, `DecodeLastRune` and the `range` loop over a string, on arbitrary bytes: what is
not the encoding of a rune decodes to `runeError`, one byte at a time.  A decoded rune below
`runeSelf` is a byte of the input, and no byte of any other rune is below `runeSelf`
(`Decodes`); a loop over runes that acts only on such runes is therefore a loop over bytes
(`filter_range`).
-/

namespace Diego.Utf8

open List

/-- U+FFFD, which stands for what cannot be decoded. -/
def runeError : Nat := 0xFFFD

/-- Bytes below this are runes by themselves. -/
def runeSelf : UInt8 := 0x80

/-- The most bytes a rune takes. -/
def utfMax : Nat := 4

/-- The bytes of an encoding after the first. -/
def isContinuation (b : UInt8) : Bool :=
  0x80 ≤ b ∧ b ≤ 0xBF

def runeStart (b : UInt8) : Bool :=
  !isContinuation b

/-- What a first byte above `runeSelf` asks for: the length of the encoding and the range of
its second byte. -/
structure Accept where
  size : Nat
  low : UInt8 := 0x80
  high : UInt8 := 0xBF

/-- The table of first bytes. -/
def accept (b : UInt8) : Option Accept :=
  if b < 0xC2 then none
  else if b ≤ 0xDF then some { size := 2 }
  else if b = 0xE0 then some { size := 3, low := 0xA0 }
  else if b = 0xED then some { size := 3, high := 0x9F }
  else if b ≤ 0xEF then some { size := 3 }
  else if b = 0xF0 then some { size := 4, low := 0x90 }
  else if b ≤ 0xF3 then some { size := 4 }
  else if b = 0xF4 then some { size := 4, high := 0x8F }
  else none

/-- The six low bits of a continuation byte. -/
def bits (b : UInt8) : Nat :=
  b.toNat % 64

/-- The first rune and its width; an invalid encoding has width 1. -/
def decodeRune : List UInt8 → Nat × Nat
  | [] => (runeError, 0)
  | b0 :: rest =>
    if b0 < runeSelf then (b0.toNat, 1)
    else
      match accept b0, rest with
      | some ⟨2, low, high⟩, b1 :: _ =>
        if low ≤ b1 ∧ b1 ≤ high then (b0.toNat % 32 * 64 + bits b1, 2) else (runeError, 1)
      | some ⟨3, low, high⟩, b1 :: b2 :: _ =>
        if (low ≤ b1 ∧ b1 ≤ high) ∧ isContinuation b2 then
          (b0.toNat % 16 * 4096 + bits b1 * 64 + bits b2, 3)
        else (runeError, 1)
      | some ⟨4, low, high⟩, b1 :: b2 :: b3 :: _ =>
        if (low ≤ b1 ∧ b1 ≤ high) ∧ isContinuation b2 ∧ isContinuation b3 then
          (b0.toNat % 8 * 262144 + bits b1 * 4096 + bits b2 * 64 + bits b3, 4)
        else (runeError, 1)
      | _, _ => (runeError, 1)

/-- The loop of `DecodeLastRune` that goes back to the start of a rune, not beyond `lim`. -/
def lastStart (p : List UInt8) (lim : Int) : Nat → Int → Int
  | 0, start => start
  | fuel + 1, start =>
    if lim ≤ start then
      if runeStart (p.getD start.toNat 0) then start else lastStart p lim fuel (start - 1)
    else start

/-- The last rune and its width. -/
def decodeLastRune (p : List UInt8) : Nat × Nat :=
  match p.getLast? with
  | none => (runeError, 0)
  | some last =>
    if last < runeSelf then (last.toNat, 1)
    else
      let lim : Int := max (p.length - utfMax) 0
      let start := (lastStart p lim utfMax (p.length - 2)).toNat
      let decoded := decodeRune (p.drop start)
      if start + decoded.2 ≠ p.length then (runeError, 1) else decoded

example : decodeRune [0xE4, 0xB8, 0x96, 0x21] = (0x4E16, 3) := by decide

example : decodeLastRune [0x21, 0xE4, 0xB8, 0x96] = (0x4E16, 3) := by decide

example : decodeLastRune [0x21, 0xE4, 0xB8] = (runeError, 1) := by decide

/-- The runes of a string with their positions, from a position on. -/
def rangeFrom : Nat → List UInt8 → Nat → List (Nat × Nat)
  | 0, _, _ => []
  | _ + 1, [], _ => []
  | fuel + 1, b0 :: rest, offset =>
    let decoded := decodeRune (b0 :: rest)
    (offset, decoded.1) :: rangeFrom fuel ((b0 :: rest).drop decoded.2) (offset + decoded.2)

/-- The `range` loop over a string: every rune takes at least one byte. -/
def range (message : List UInt8) : List (Nat × Nat) :=
  rangeFrom message.length message 0

/-! ## Runes and bytes -/

/-- A decoded rune is one byte below `runeSelf`, or none of its bytes is. -/
inductive Decodes : List UInt8 → Nat × Nat → Prop
  | self {b0 : UInt8} {rest : List UInt8} (h : b0 < runeSelf) : Decodes (b0 :: rest) (b0.toNat, 1)
  | other {p : List UInt8} {rune width : Nat} (hrune : runeSelf.toNat ≤ rune)
      (hpos : 1 ≤ width) (hle : width ≤ p.length) (hbytes : ∀ b ∈ p.take width, runeSelf ≤ b) :
      Decodes p (rune, width)

variable {b0 : UInt8} {stop : Nat → Bool} {p : List UInt8}

theorem decodes_error (h : ¬ b0 < runeSelf) {rest : List UInt8} :
    Decodes (b0 :: rest) (runeError, 1) := by
  refine .other (by decide) (Nat.le_refl 1) (by simp) ?_
  intro b hb
  rw [take_succ_cons, take_zero, mem_singleton] at hb
  rw [hb]
  exact UInt8.not_lt.mp h

theorem le_of_isContinuation {b : UInt8} (h : isContinuation b = true) : runeSelf ≤ b := by
  simp only [isContinuation, decide_eq_true_eq] at h
  exact h.1

/-- A second byte in range is a continuation byte, and the first two bytes together encode
something beyond the shorter encodings. -/
theorem accept_spec {b1 : UInt8} {a : Accept} (haccept : accept b0 = some a) (hlow : a.low ≤ b1)
    (hhigh : b1 ≤ a.high) :
    runeSelf ≤ b1 ∧
      (a.size = 2 ∧ 2 ≤ b0.toNat % 32 ∨
        a.size = 3 ∧ 32 ≤ b0.toNat % 16 * 64 + bits b1 ∨
        a.size = 4 ∧ 16 ≤ b0.toNat % 8 * 64 + bits b1) := by
  unfold accept at haccept
  simp only [runeSelf, bits, UInt8.le_iff_toNat_le, UInt8.lt_iff_toNat_lt, ← UInt8.toNat_inj] at *
  -- one case for every row of the table
  repeat' split at haccept
  all_goals simp only [Option.some.injEq, reduceCtorEq] at haccept
  all_goals
    subst haccept
    simp only [UInt8.reduceToNat, true_and] at *
    omega

theorem decodes_decodeRune (b0 : UInt8) (rest : List UInt8) :
    Decodes (b0 :: rest) (decodeRune (b0 :: rest)) := by
  unfold decodeRune
  dsimp only
  by_cases hself : b0 < runeSelf
  · rw [if_pos hself]
    exact .self hself
  · have hb0 : runeSelf ≤ b0 := UInt8.not_lt.mp hself
    have hself128 : runeSelf.toNat = 128 := rfl
    rw [if_neg hself]
    split
    · rename_i low high b1 _ haccept
      split
      · rename_i hrange
        obtain ⟨hb1, hrune⟩ := accept_spec haccept hrange.1 hrange.2
        refine .other ?_ (by omega) (by simp) ?_
        · simp only at hrune
          omega
        · simp [hb0, hb1]
      · exact decodes_error hself
    · rename_i low high b1 b2 _ haccept
      split
      · rename_i hrange
        obtain ⟨hb1, hrune⟩ := accept_spec haccept hrange.1.1 hrange.1.2
        refine .other ?_ (by omega) (by simp) ?_
        · simp only at hrune
          omega
        · simp [hb0, hb1, le_of_isContinuation hrange.2]
      · exact decodes_error hself
    · rename_i low high b1 b2 b3 _ haccept
      split
      · rename_i hrange
        obtain ⟨hb1, hrune⟩ := accept_spec haccept hrange.1.1 hrange.1.2
        refine .other ?_ (by omega) (by simp) ?_
        · simp only at hrune
          omega
        · simp [hb0, hb1, le_of_isContinuation hrange.2.1, le_of_isContinuation hrange.2.2]
      · exact decodes_error hself
    · exact decodes_error hself

/-- The bytes of a string with their positions, from a position on. -/
def bytesFrom : List UInt8 → Nat → List (Nat × Nat)
  | [], _ => []
  | b :: rest, offset => (offset, b.toNat) :: bytesFrom rest (offset + 1)

theorem bytesFrom_append (first second : List UInt8) (offset : Nat) :
    bytesFrom (first ++ second) offset =
      bytesFrom first offset ++ bytesFrom second (offset + first.length) := by
  induction first generalizing offset with
  | nil => rfl
  | cons b first ih =>
    rw [cons_append, bytesFrom, bytesFrom, ih, cons_append, length_cons,
      Nat.add_assoc, Nat.add_comm 1]

/-- Bytes that are not runes by themselves stop no loop that stops at runes which are. -/
theorem filter_bytesFrom_eq_nil (hstop : ∀ rune, stop rune = true → rune < runeSelf.toNat)
    (hbytes : ∀ b ∈ p, runeSelf ≤ b) (offset : Nat) :
    (bytesFrom p offset).filter (fun x => stop x.2) = [] := by
  induction p generalizing offset with
  | nil => rfl
  | cons b p ih =>
    have hle : runeSelf.toNat ≤ b.toNat :=
      UInt8.le_iff_toNat_le.mp (hbytes b mem_cons_self)
    have hnot : stop b.toNat = false := by
      cases hcase : stop b.toNat with
      | false => rfl
      | true => exact absurd (hstop _ hcase) (Nat.not_lt.mpr hle)
    rw [bytesFrom, filter_cons_of_neg (by simp [hnot])]
    exact ih (fun b' hb' => hbytes b' (mem_cons_of_mem _ hb')) _

/-- **A loop over runes that acts on runes below `runeSelf` is a loop over bytes.** -/
theorem filter_rangeFrom (hstop : ∀ rune, stop rune = true → rune < runeSelf.toNat) {fuel : Nat}
    (hfuel : p.length ≤ fuel) {offset : Nat} :
    (rangeFrom fuel p offset).filter (fun x => stop x.2) =
      (bytesFrom p offset).filter (fun x => stop x.2) := by
  induction fuel generalizing p offset with
  | zero =>
    rw [length_eq_zero_iff.mp (Nat.le_zero.mp hfuel)]
    rfl
  | succ fuel ih =>
    cases p with
    | nil => rfl
    | cons b0 rest =>
      have hdecodes := decodes_decodeRune b0 rest
      rw [rangeFrom]
      generalize decodeRune (b0 :: rest) = decoded at hdecodes
      rw [length_cons] at hfuel
      cases hdecodes with
      | self hself =>
        rw [drop_one, tail_cons, bytesFrom, filter_cons, filter_cons, ih (by omega)]
      | @other _ rune width hrune hpos hle hbytes =>
        have hnot : stop rune = false := by
          cases hcase : stop rune with
          | false => rfl
          | true => exact absurd (hstop _ hcase) (Nat.not_lt.mpr hrune)
        have hsplit := bytesFrom_append ((b0 :: rest).take width)
          ((b0 :: rest).drop width) offset
        rw [take_append_drop, length_take_of_le hle] at hsplit
        have hdrop : ((b0 :: rest).drop width).length ≤ fuel := by
          rw [length_drop, length_cons]
          omega
        rw [filter_cons_of_neg (by simp [hnot]), ih hdrop, hsplit, filter_append,
          filter_bytesFrom_eq_nil hstop hbytes, nil_append]

theorem filter_range (hstop : ∀ rune, stop rune = true → rune < runeSelf.toNat)
    (message : List UInt8) :
    (range message).filter (fun x => stop x.2) = (bytesFrom message 0).filter (fun x => stop x.2) :=
  filter_rangeFrom hstop (Nat.le_refl _)

end Diego.Utf8
