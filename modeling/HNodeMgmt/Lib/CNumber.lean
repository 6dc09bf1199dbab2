/-
  HNodeMgmt.Lib.CNumber — numbers as C reads and writes them.

  `strtol` with base 0: white space, a sign, a prefix that fixes the base, the
  longest run of digits, and a result clamped to a 64-bit `long`.  `decimal`
  is what `%u` prints.

  Main results:
    * `strtol_digits` — digits of which the first is not '0' are read as the
      decimal number they denote.
    * `strtol_zero_iff` — with a leading '0' only a number below 8 is.
    * `strtol_decimal` — a printed number that fits a `long` is read back.
    * `decimal_digit` — it is printed with the bytes '0' to '9' only.
-/
import Mathlib.Tactic.Common
import Mathlib.Data.Nat.Digits.Lemmas

namespace HNodeMgmt.Lib

/-! ## §1. `strtol`. -/

/-- `isspace`. -/
def isSpace (c : UInt8) : Bool := c == 32 || (9 ≤ c && c ≤ 13)

/-- The value of a digit; letters of either case count from ten. -/
def digitValue (c : UInt8) : Option Nat :=
  if 48 ≤ c && c ≤ 57 then some (c.toNat - 48)
  else if 65 ≤ c && c ≤ 90 then some (c.toNat - 55)
  else if 97 ≤ c && c ≤ 122 then some (c.toNat - 87)
  else none

/-- A digit of the given base. -/
def digitIn (base : Nat) (c : UInt8) : Option Nat := (digitValue c).filter (· < base)

/-- The longest run of digits, most significant first, after those in `acc`. -/
def readDigits (base : Nat) : Nat → List UInt8 → Nat
  | acc, [] => acc
  | acc, c :: cs =>
    match digitIn base c with
    | some d => readDigits base (acc * base + d) cs
    | none => acc

/-- The base the prefix stands for.  "0x" counts only in front of a digit. -/
def splitBase : List UInt8 → Nat × List UInt8
  | 48 :: x :: h :: rest =>
    if (x == 120 || x == 88) && (digitIn 16 h).isSome then (16, h :: rest)
    else (8, x :: h :: rest)
  | 48 :: rest => (8, rest)
  | cs => (10, cs)

/-- The number without its sign. -/
def readMagnitude (cs : List UInt8) : Nat := readDigits (splitBase cs).1 0 (splitBase cs).2

/-- `strtol( s, NULL, 0 )`. -/
def strtol (s : List UInt8) : Int :=
  match s.dropWhile isSpace with
  | 45 :: rest => max (-2 ^ 63) (-(readMagnitude rest : Int))
  | 43 :: rest => min (2 ^ 63 - 1) (readMagnitude rest : Int)
  | rest => min (2 ^ 63 - 1) (readMagnitude rest : Int)

/-- The conversion of a `long` to a 32-bit `uint`. -/
def narrow32 (v : Int) : UInt32 := UInt32.ofNat (v % 2 ^ 32).toNat

theorem narrow32_toNat {n : Nat} (h : n < 2 ^ 32) : (narrow32 (n : Int)).toNat = n := by
  have hmod : ((n : Int) % 2 ^ 32).toNat = n := by omega
  rw [narrow32, hmod, UInt32.toNat_ofNat']
  exact Nat.mod_eq_of_lt h

/-! ## §2. Decimal digits. -/

/-- One of the bytes '0' to '9'. -/
def isDigit (c : UInt8) : Bool := 48 ≤ c && c ≤ 57

/-- What the byte counts.  Irreducible, or the subtraction is unfolded in unary. -/
@[irreducible] def digitOf (c : UInt8) : Nat := c.toNat - 48

/-- The number the digits of a string denote, after those that make `acc`. -/
def decimalFrom : Nat → List UInt8 → Nat
  | acc, [] => acc
  | acc, c :: cs => decimalFrom (acc * 10 + digitOf c) cs

/-- The number a string of decimal digits denotes. -/
def decimalValue (s : List UInt8) : Nat := decimalFrom 0 s

theorem isDigit_iff {c : UInt8} : isDigit c = true ↔ 48 ≤ c.toNat ∧ c.toNat ≤ 57 := by
  simp [isDigit, UInt8.le_iff_toNat_le]

theorem digitOf_lt {c : UInt8} (h : isDigit c = true) : digitOf c < 10 := by
  obtain ⟨-, hhigh⟩ := isDigit_iff.mp h
  unfold digitOf
  omega

theorem digitValue_of_isDigit {c : UInt8} (h : isDigit c = true) :
    digitValue c = some (digitOf c) := by
  unfold digitValue digitOf
  exact if_pos h

/-- A decimal digit is one of the base exactly when it is below it. -/
theorem digitIn_of_isDigit (base : Nat) {c : UInt8} (h : isDigit c = true) :
    digitIn base c = if digitOf c < base then some (digitOf c) else none := by
  rw [digitIn, digitValue_of_isDigit h, Option.filter_some]
  simp only [decide_eq_true_eq]

/-- More digits make no smaller number. -/
theorem le_decimalFrom : ∀ (s : List UInt8) (acc : Nat), acc ≤ decimalFrom acc s
  | [], acc => le_refl acc
  | c :: cs, acc => by
      have ih := le_decimalFrom cs (acc * 10 + digitOf c)
      rw [decimalFrom]
      omega

/-- Reading decimal digits to base 10 is evaluating them. -/
theorem readDigits_decimal :
    ∀ (s : List UInt8) (acc : Nat), (∀ c ∈ s, isDigit c = true) →
      readDigits 10 acc s = decimalFrom acc s
  | [], _, _ => rfl
  | c :: cs, acc, h => by
      have hc : isDigit c = true := h c (by simp)
      have ih := readDigits_decimal cs (acc * 10 + digitOf c) fun d hd => h d (by simp [hd])
      rw [readDigits, digitIn_of_isDigit 10 hc, if_pos (digitOf_lt hc)]
      exact ih

/-- Read to base 8, behind a number that is no greater, digits denote less. -/
theorem readDigits_octal_lt :
    ∀ (s : List UInt8) (acc total : Nat), s ≠ [] → (∀ c ∈ s, isDigit c = true) →
      acc ≤ total → 0 < total → readDigits 8 acc s < decimalFrom total s
  | [], _, _, hne, _, _, _ => absurd rfl hne
  | c :: cs, acc, total, _, h, hle, hpos => by
      have hc : isDigit c = true := h c (by simp)
      have hcs : ∀ d ∈ cs, isDigit d = true := fun d hd => h d (by simp [hd])
      have hgrows := le_decimalFrom cs (total * 10 + digitOf c)
      rw [readDigits, digitIn_of_isDigit 8 hc, decimalFrom]
      by_cases hoctal : digitOf c < 8
      · rw [if_pos hoctal]
        show readDigits 8 (acc * 8 + digitOf c) cs < _
        by_cases hnil : cs = []
        · subst hnil
          show acc * 8 + digitOf c < total * 10 + digitOf c
          omega
        · exact readDigits_octal_lt cs _ _ hnil hcs (by omega) (by omega)
      · -- an '8' or a '9' ends the number
        rw [if_neg hoctal]
        show acc < _
        omega

/-- **Read to base 8**, decimal digits denote the same number when it is below 8,
and only then. -/
theorem readDigits_octal_iff :
    ∀ s : List UInt8, (∀ c ∈ s, isDigit c = true) →
      readDigits 8 0 s ≤ decimalValue s ∧
        (readDigits 8 0 s = decimalValue s ↔ decimalValue s < 8)
  | [], _ => by decide
  | c :: cs, h => by
      have hc : isDigit c = true := h c (by simp)
      have hcs : ∀ d ∈ cs, isDigit d = true := fun d hd => h d (by simp [hd])
      have hgrows := le_decimalFrom cs (digitOf c)
      have hvalue : decimalValue (c :: cs) = decimalFrom (digitOf c) cs := by
        rw [decimalValue, decimalFrom, Nat.zero_mul, Nat.zero_add]
      rw [readDigits, digitIn_of_isDigit 8 hc, hvalue]
      by_cases hoctal : digitOf c < 8
      · rw [if_pos hoctal]
        show readDigits 8 (0 * 8 + digitOf c) cs ≤ _ ∧
          (readDigits 8 (0 * 8 + digitOf c) cs = _ ↔ _)
        rw [Nat.zero_mul, Nat.zero_add]
        by_cases hzero : digitOf c = 0
        · -- one more leading zero
          rw [hzero]
          exact readDigits_octal_iff cs hcs
        by_cases hnil : cs = []
        · subst hnil
          exact ⟨le_refl _, fun _ => hoctal, fun _ => rfl⟩
        · have hlt := readDigits_octal_lt cs (digitOf c) (digitOf c) hnil hcs (le_refl _) (by omega)
          obtain ⟨d, ds, rfl⟩ := List.exists_cons_of_ne_nil hnil
          have hten := le_decimalFrom ds (digitOf c * 10 + digitOf d)
          rw [decimalFrom] at hlt ⊢
          omega
      · rw [if_neg hoctal]
        show 0 ≤ _ ∧ (0 = _ ↔ _)
        omega

/-- A digit is neither white space nor a sign. -/
theorem strtol_of_digit {c : UInt8} (cs : List UInt8) (h : isDigit c = true) :
    strtol (c :: cs) = min (2 ^ 63 - 1) (readMagnitude (c :: cs) : Int) := by
  obtain ⟨hlow, hhigh⟩ := isDigit_iff.mp h
  have hspace : isSpace c = false := by
    simp only [isSpace, Bool.or_eq_false_iff, beq_eq_false_iff_ne, Bool.and_eq_false_iff,
      decide_eq_false_iff_not, UInt8.le_iff_toNat_le, ne_eq, ← UInt8.toNat_inj]
    simp
    omega
  have hne : ∀ b : UInt8, b.toNat < 48 → c ≠ b := by
    rintro b hb rfl
    omega
  unfold strtol
  rw [List.dropWhile_cons_of_neg (by simp [hspace])]
  split
  next heq => exact absurd (List.cons.inj heq).1 (hne 45 (by decide))
  next heq => exact absurd (List.cons.inj heq).1 (hne 43 (by decide))
  next => rfl

/-- **Digits that do not start with '0'** are read as the number they denote, as
long as it fits a `long`. -/
theorem strtol_digits {s : List UInt8} (hne : s ≠ []) (hdigits : ∀ c ∈ s, isDigit c = true)
    (hhead : s.head? ≠ some 48) (h : decimalValue s < 2 ^ 63) : strtol s = decimalValue s := by
  obtain ⟨c, cs, rfl⟩ := List.exists_cons_of_ne_nil hne
  have hc : c ≠ 48 := fun h0 => hhead (by rw [h0]; rfl)
  have hbase : splitBase (c :: cs) = (10, c :: cs) := by
    unfold splitBase
    split
    next heq => exact absurd (List.cons.inj heq).1 hc
    next heq => exact absurd (List.cons.inj heq).1 hc
    next => rfl
  have hmag : readMagnitude (c :: cs) = decimalValue (c :: cs) := by
    rw [readMagnitude, hbase]
    exact readDigits_decimal (c :: cs) 0 hdigits
  rw [strtol_of_digit cs (hdigits c (by simp)), hmag]
  omega

/-- **Digits behind a '0'** are read to base 8. -/
theorem strtol_zero {cs : List UInt8} (hdigits : ∀ c ∈ cs, isDigit c = true) :
    strtol (48 :: cs) = min (2 ^ 63 - 1) (readDigits 8 0 cs : Int) := by
  have hbase : splitBase (48 :: cs) = (8, cs) := by
    unfold splitBase
    split
    next x y rest heq =>
      -- an 'x' is no decimal digit
      obtain rfl : cs = x :: y :: rest := (List.cons.inj heq).2
      have hx := isDigit_iff.mp (hdigits x (by simp))
      have hlow : x ≠ 120 := by
        rintro rfl
        exact absurd hx.2 (by decide)
      have hhigh : x ≠ 88 := by
        rintro rfl
        exact absurd hx.2 (by decide)
      rw [if_neg (by simp [hlow, hhigh])]
    next heq => rw [(List.cons.inj heq).2]
    next hother => exact absurd rfl (hother cs)
  rw [strtol_of_digit cs (by decide), readMagnitude, hbase]

/-- **With a leading '0'**, the number denoted is read exactly when it is below 8. -/
theorem strtol_zero_iff {cs : List UInt8} (hdigits : ∀ c ∈ cs, isDigit c = true)
    (h : decimalValue cs < 2 ^ 63) :
    ∃ n : Nat, strtol (48 :: cs) = n ∧ n ≤ decimalValue cs ∧
      (n = decimalValue cs ↔ decimalValue cs < 8) := by
  obtain ⟨hle, hiff⟩ := readDigits_octal_iff cs hdigits
  refine ⟨readDigits 8 0 cs, ?_, hle, hiff⟩
  rw [strtol_zero hdigits]
  omega

/-! ## §3. `%u`. -/

/-- The byte of a decimal digit. -/
def digitByte (d : Nat) : UInt8 := UInt8.ofNat (48 + d)

/-- A number as `%u` prints it. -/
def decimal (n : Nat) : List UInt8 :=
  if n = 0 then [48] else (Nat.digits 10 n).reverse.map digitByte

theorem digitByte_toNat {d : Nat} (h : d < 10) : (digitByte d).toNat = 48 + d := by
  rw [digitByte, UInt8.toNat_ofNat']
  exact Nat.mod_eq_of_lt (by omega)

/-- **Only the bytes '0' to '9' are printed.** -/
theorem decimal_digit {n : Nat} {c : UInt8} (hc : c ∈ decimal n) :
    48 ≤ c.toNat ∧ c.toNat ≤ 57 := by
  unfold decimal at hc
  split at hc
  next =>
    obtain rfl : c = 48 := by simpa using hc
    decide
  next =>
    obtain ⟨d, hd, rfl⟩ := List.mem_map.mp hc
    have hlt : d < 10 := Nat.digits_lt_base (by omega) (List.mem_reverse.mp hd)
    rw [digitByte_toNat hlt]
    omega

/-- Evaluating digits that are printed. -/
theorem decimalFrom_map (ds : List Nat) :
    ∀ acc : Nat, (∀ d ∈ ds, d < 10) →
      decimalFrom acc (ds.map digitByte) = ds.foldl (fun n d => n * 10 + d) acc := by
  induction ds with
  | nil => exact fun _ _ => rfl
  | cons d ds ih =>
    intro acc h
    have hd : digitOf (digitByte d) = d := by
      have hnat := digitByte_toNat (h d (by simp))
      unfold digitOf
      omega
    rw [List.map_cons, decimalFrom, hd, List.foldl_cons]
    exact ih _ fun e he => h e (by simp [he])

/-- Evaluating the reversed digits gives the number back. -/
theorem foldl_digits (n : Nat) :
    (Nat.digits 10 n).reverse.foldl (fun m d => m * 10 + d) 0 = n := by
  have hfold : (Nat.digits 10 n).foldr (fun d m => m * 10 + d) 0 = Nat.ofDigits 10
      (Nat.digits 10 n) := by
    rw [Nat.ofDigits_eq_foldr]
    congr 1
    funext d m
    simp only [Nat.cast_id]
    omega
  rw [List.foldl_reverse, hfold, Nat.ofDigits_digits]

/-- A positive number starts with a digit other than '0'. -/
theorem decimal_head {n : Nat} (h : n ≠ 0) :
    ∃ c cs, decimal n = c :: cs ∧ 49 ≤ c.toNat ∧ c.toNat ≤ 57 := by
  have hnil : Nat.digits 10 n ≠ [] := by simpa [Nat.digits_eq_nil_iff_eq_zero] using h
  have hlast := Nat.getLast_digit_ne_zero 10 h
  have hlt : (Nat.digits 10 n).getLast hnil < 10 :=
    Nat.digits_lt_base (by omega) (List.getLast_mem hnil)
  have hrev : (Nat.digits 10 n).reverse =
      (Nat.digits 10 n).getLast hnil :: (Nat.digits 10 n).dropLast.reverse := by
    conv_lhs => rw [← List.dropLast_append_getLast hnil]
    simp
  refine ⟨digitByte ((Nat.digits 10 n).getLast hnil),
    (Nat.digits 10 n).dropLast.reverse.map digitByte, ?_, ?_⟩
  · rw [decimal, if_neg h, hrev, List.map_cons]
  · rw [digitByte_toNat hlt]
    omega

/-- What is printed denotes the number. -/
theorem decimalValue_decimal (n : Nat) : decimalValue (decimal n) = n := by
  unfold decimal
  split
  next h0 =>
    rw [h0]
    decide +kernel
  next =>
    rw [decimalValue, decimalFrom_map, foldl_digits]
    intro d hd
    exact Nat.digits_lt_base (by omega) (List.mem_reverse.mp hd)

/-- **What `%u` prints, `strtol` reads back**, as long as it fits a `long`. -/
theorem strtol_decimal {n : Nat} (h : n < 2 ^ 63) : strtol (decimal n) = n := by
  by_cases h0 : n = 0
  · subst h0
    decide
  obtain ⟨c, cs, hdec, hlow, -⟩ := decimal_head h0
  have hhead : (decimal n).head? ≠ some 48 := by
    rw [hdec]
    intro hc
    obtain rfl : c = 48 := Option.some.inj hc
    exact absurd hlow (by decide)
  have hread := strtol_digits (by rw [hdec]; simp)
    (fun c hc => isDigit_iff.mpr (decimal_digit hc)) hhead (by rwa [decimalValue_decimal])
  rw [hread, decimalValue_decimal]

example : strtol [32, 45, 48, 120, 49, 70, 58] = -31 := by decide

end HNodeMgmt.Lib
