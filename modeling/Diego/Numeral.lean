import Mathlib.Data.Nat.Digits.Lemmas

/-!
# Numerals

Numbers as texts of bytes, in a base up to ten: `format` writes a number with at least `width`
digits, and `parse` reads digits.  Reading gives back what was written (`parse_format`), and a
text that was written has digits only (`isDigit_of_mem_format`), so it ends where a reader that
looks for a delimiter stops.  `formatInt` and `parseInt` are the same with a sign.
-/

namespace Diego.Numeral

open List

/-- The byte of a digit. -/
def digit (d : Nat) : UInt8 :=
  UInt8.ofNat (48 + d)

def isDigit (c : UInt8) : Bool :=
  48 ≤ c.toNat && c.toNat < 58

/-- The value of a byte as a digit. -/
def value (base : Nat) (c : UInt8) : Option Nat :=
  if 48 ≤ c.toNat ∧ c.toNat < 48 + base then some (c.toNat - 48) else none

/-- Read the digits after those that made `n`. -/
def parseFrom (base n : Nat) : List UInt8 → Option Nat
  | [] => some n
  | c :: text =>
    match value base c with
    | some d => parseFrom base (n * base + d) text
    | none => none

/-- A text of at least one digit. -/
def parse (base : Nat) : List UInt8 → Option Nat
  | [] => none
  | c :: text => parseFrom base 0 (c :: text)

/-- Why a text is not read as a number. -/
inductive Malformed
  | notNumber
  | outOfRange
  deriving DecidableEq

/-- Read the digits after those that made `n`, up to the first that leads out of range. -/
def scanFrom (base limit n : Nat) : List UInt8 → Except Malformed Nat
  | [] => .ok n
  | c :: text =>
    match value base c with
    | none => .error .notNumber
    | some d =>
      if n * base + d < limit then scanFrom base limit (n * base + d) text
      else .error .outOfRange

/-- A number below `limit`. -/
def scan (base limit : Nat) : List UInt8 → Except Malformed Nat
  | [] => .error .notNumber
  | c :: text => scanFrom base limit 0 (c :: text)

/-- Whether there is a minus sign, and what follows the sign. -/
def splitSign : List UInt8 → Bool × List UInt8
  | [] => (false, [])
  | c :: text =>
    if c = 45 then (true, text) else if c = 43 then (false, text) else (false, c :: text)

/-- A decimal number from `-limit` on and below `limit`, with an optional sign. -/
def scanInt (limit : Nat) (text : List UInt8) : Except Malformed Int :=
  match scan 10 (2 * limit) (splitSign text).2 with
  | .error reason => .error reason
  | .ok n =>
    if (splitSign text).1 then if n ≤ limit then .ok (-n) else .error .outOfRange
    else if n < limit then .ok n else .error .outOfRange

/-- The digits of a number, the first one first, with zeros up to `width`. -/
def digitsOf (base width n : Nat) : List Nat :=
  List.replicate (width - (Nat.digits base n).length) 0 ++ (Nat.digits base n).reverse

def format (base width n : Nat) : List UInt8 :=
  (digitsOf base width n).map digit

/-- A decimal number with an optional sign. -/
def parseInt : List UInt8 → Option Int
  | [] => none
  | c :: text =>
    if c = 45 then (parse 10 text).map fun n => -(n : Int)
    else if c = 43 then (parse 10 text).map Int.ofNat
    else (parse 10 (c :: text)).map Int.ofNat

def formatInt (i : Int) : List UInt8 :=
  if i < 0 then 45 :: format 10 1 i.natAbs else format 10 1 i.natAbs

variable {base width n : Nat}

/-! ## Digits -/

variable {d : Nat} {c : UInt8} {text : List UInt8} {limit : Nat} {m : Nat} {i : Int}

theorem toNat_digit (h : d < 10) : (digit d).toNat = 48 + d := by
  have hlt : 48 + d < 256 := by omega
  rw [digit, UInt8.toNat_ofNat', Nat.mod_eq_of_lt hlt]

theorem value_digit (hbase : base ≤ 10) (h : d < base) : value base (digit d) = some d := by
  have hnat := toNat_digit (show d < 10 by omega)
  rw [value, hnat, if_pos (by omega), Nat.add_sub_cancel_left]

theorem isDigit_digit (h : d < 10) : isDigit (digit d) = true := by
  rw [isDigit, toNat_digit h]
  simp
  omega

theorem lt_of_mem_digitsOf (hbase : 1 < base) (h : d ∈ digitsOf base width n) : d < base := by
  rcases mem_append.mp h with hzero | hdigit
  · rw [eq_of_mem_replicate hzero]
    omega
  · exact Nat.digits_lt_base hbase (mem_reverse.mp hdigit)

/-! ## Texts -/

theorem isDigit_of_mem_format (hbase : 1 < base) (hten : base ≤ 10) (h : c ∈ format base width n) :
    isDigit c = true := by
  obtain ⟨d, hd, rfl⟩ := mem_map.mp h
  have hlt := lt_of_mem_digitsOf hbase hd
  exact isDigit_digit (by omega)

theorem format_ne_nil (hwidth : 0 < width) : format base width n ≠ [] := by
  intro hnil
  have hlength : width - (Nat.digits base n).length + (Nat.digits base n).length = 0 := by
    simpa [format, digitsOf] using congrArg length hnil
  omega

/-- Reading digits one by one is Horner's rule. -/
theorem parseFrom_map_digit (hten : base ≤ 10) {digits : List Nat} (hlt : ∀ d ∈ digits, d < base) :
    parseFrom base n (digits.map digit) = some (digits.foldl (fun n d => n * base + d) n) := by
  induction digits generalizing n with
  | nil => rfl
  | cons d digits ih =>
    rw [map_cons, parseFrom, value_digit hten (hlt d mem_cons_self)]
    exact ih fun d' hd' => hlt d' (mem_cons_of_mem d hd')

theorem foldl_digitsOf : (digitsOf base width n).foldl (fun n d => n * base + d) 0 = n := by
  have hzeros : ∀ k, (replicate k 0).foldl (fun n d => n * base + d) 0 = 0 := by
    intro k
    induction k with
    | zero => rfl
    | succ k ih => rw [replicate_succ, foldl_cons, Nat.zero_mul, ih]
  rw [digitsOf, foldl_append, hzeros, foldl_reverse]
  calc (Nat.digits base n).foldr (fun d n => n * base + d) 0
      = (Nat.digits base n).foldr (fun d n => (d : ℕ) + base * n) 0 := by
        congr 1
        funext d n
        rw [Nat.mul_comm, Nat.add_comm]
    _ = Nat.ofDigits base (Nat.digits base n) := (Nat.ofDigits_eq_foldr base _).symm
    _ = n := Nat.ofDigits_digits base n

/-- **Reading gives back the number that was written.** -/
theorem parse_format (hbase : 1 < base) (hten : base ≤ 10) (hwidth : 0 < width) :
    parse base (format base width n) = some n := by
  have hread : parseFrom base 0 (format base width n) = some n := by
    rw [format, parseFrom_map_digit hten fun d => lt_of_mem_digitsOf hbase, foldl_digitsOf]
  cases htext : format base width n with
  | nil => exact absurd htext (format_ne_nil hwidth)
  | cons c text =>
    rw [htext] at hread
    exact hread

theorem le_of_parseFrom (hbase : 0 < base) (h : parseFrom base n text = some m) : n ≤ m := by
  induction text generalizing n with
  | nil => exact Nat.le_of_eq (Option.some.inj h)
  | cons c text ih =>
    rw [parseFrom] at h
    cases hvalue : value base c with
    | none =>
      rw [hvalue] at h
      cases h
    | some d =>
      rw [hvalue] at h
      calc n ≤ n * base := Nat.le_mul_of_pos_right n hbase
        _ ≤ n * base + d := Nat.le_add_right _ d
        _ ≤ m := ih h

theorem scanFrom_of_parseFrom (hbase : 0 < base) (hlimit : m < limit)
    (h : parseFrom base n text = some m) : scanFrom base limit n text = .ok m := by
  induction text generalizing n with
  | nil => exact congrArg Except.ok (Option.some.inj h)
  | cons c text ih =>
    rw [parseFrom] at h
    rw [scanFrom]
    cases hvalue : value base c with
    | none =>
      rw [hvalue] at h
      cases h
    | some d =>
      rw [hvalue] at h
      have hle := le_of_parseFrom hbase h
      dsimp only
      rw [if_pos (by omega)]
      exact ih h

/-- Reading gives back a number in range. -/
theorem scan_format (hbase : 1 < base) (hten : base ≤ 10) (hwidth : 0 < width) (hlimit : n < limit)
    : scan base limit (format base width n) = .ok n := by
  have hparse := parse_format (n := n) hbase hten hwidth
  cases htext : format base width n with
  | nil => exact absurd htext (format_ne_nil hwidth)
  | cons c text =>
    rw [htext] at hparse
    exact scanFrom_of_parseFrom (by omega) hlimit hparse

/-! ## Signs -/

theorem not_sign_of_isDigit (h : isDigit c = true) : c ≠ 45 ∧ c ≠ 43 := by
  constructor
  · rintro rfl
    exact absurd h (by decide)
  · rintro rfl
    exact absurd h (by decide)

theorem parseInt_of_isDigit (h : ∀ c ∈ text, isDigit c = true) :
    parseInt text = (parse 10 text).map Int.ofNat := by
  cases text with
  | nil => rfl
  | cons c text =>
    obtain ⟨hminus, hplus⟩ := not_sign_of_isDigit (h c mem_cons_self)
    rw [parseInt, if_neg hminus, if_neg hplus]

theorem splitSign_of_isDigit (h : ∀ c ∈ text, isDigit c = true) :
    splitSign text = (false, text) := by
  cases text with
  | nil => rfl
  | cons c text =>
    obtain ⟨hminus, hplus⟩ := not_sign_of_isDigit (h c mem_cons_self)
    rw [splitSign, if_neg hminus, if_neg hplus]

theorem isDigit_of_mem_formatInt (h : 0 ≤ i) (hc : c ∈ formatInt i) : isDigit c = true := by
  rw [formatInt, if_neg (by omega)] at hc
  exact isDigit_of_mem_format (by decide) (by decide) hc

theorem scanInt_formatInt (h : 0 ≤ i) (hlimit : i < limit) :
    scanInt limit (formatInt i) = .ok i := by
  have hsign := splitSign_of_isDigit fun c => isDigit_of_mem_formatInt (c := c) h
  have hnat : i.natAbs < limit := by omega
  have hscan : scan 10 (2 * limit) (formatInt i) = .ok i.natAbs := by
    rw [formatInt, if_neg (by omega)]
    exact scan_format (by decide) (by decide) (by decide) (by omega)
  rw [scanInt, hsign]
  simp only [hscan, Bool.false_eq_true, if_false, if_pos hnat]
  rw [Int.natAbs_of_nonneg h]

end Diego.Numeral
