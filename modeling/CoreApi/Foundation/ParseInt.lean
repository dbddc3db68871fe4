import Mathlib.Data.Int.ConditionallyCompleteOrder
import Mathlib.Data.List.TakeWhile
import Mathlib.Tactic.NormNum

/-!
# Reading decimal integers

`parseInt` of JavaScript with radix ten. Blanks are skipped, then a sign and the
longest run of digits are read, and what follows is ignored. A text without a
digit there is not a number. The value is the double next to the integer that
was read, so a text with hundreds of digits is infinite; the zero of either sign
is one value.
-/

/-- The integers that are doubles, and the two infinities. -/
abbrev Extended := WithBot (WithTop ℤ)

namespace Extended

def finite (value : ℤ) : Extended := (value : WithTop ℤ)

variable {value other : ℤ}

@[simp]
theorem finite_le_finite : finite value ≤ finite other ↔ value ≤ other := by
  simp [finite]

@[simp]
theorem finite_lt_finite : finite value < finite other ↔ value < other := by
  simp [finite]

@[simp]
theorem finite_inj : finite value = finite other ↔ value = other := by
  simp [finite]

@[simp]
theorem finite_lt_top : finite value < ⊤ := WithBot.coe_lt_coe.mpr (WithTop.coe_lt_top value)

@[simp]
theorem bot_lt_finite : ⊥ < finite value := WithBot.bot_lt_coe _

@[simp]
theorem bot_ne_finite : ⊥ ≠ finite value := bot_lt_finite.ne

@[simp]
theorem finite_ne_bot : finite value ≠ ⊥ := bot_lt_finite.ne'

@[simp]
theorem top_ne_finite : ⊤ ≠ finite value := finite_lt_top.ne'

/-- An infinity or a number. -/
theorem cases {motive : Extended → Prop} (bot : motive ⊥) (top : motive ⊤)
    (finite : ∀ value, motive (finite value)) (value : Extended) : motive value := by
  induction value using WithBot.recBotCoe with
  | bot => exact bot
  | coe value =>
      induction value using WithTop.recTopCoe with
      | top => exact top
      | coe value => exact finite value

end Extended

namespace ParseInt

/-- White space and line terminators. -/
def isBlank (character : Char) : Bool :=
  character.toNat ∈ [0x9, 0xa, 0xb, 0xc, 0xd, 0x20, 0xa0, 0x1680, 0x2028, 0x2029, 0x202f, 0x205f,
    0x3000, 0xfeff] ∨ (0x2000 ≤ character.toNat ∧ character.toNat ≤ 0x200a)

/-- The value of a decimal digit. -/
def digitValue (digit : Char) : ℕ := digit.toNat - '0'.toNat

/-- The number that a run of digits stands for. -/
def ofDigits (digits : List Char) : ℕ :=
  digits.foldl (fun value digit => 10 * value + digitValue digit) 0

/-- The nearest number of 53 binary digits, and of two that are as near the even one. -/
def round (number : ℕ) : ℕ :=
  let step := 2 ^ (number.log2 - 52)
  let quotient := number / step
  let rest := number % step
  let significand :=
    if 2 * rest < step ∨ (2 * rest = step ∧ quotient % 2 = 0) then quotient else quotient + 1
  significand * step

/-- Doubles end here. -/
def overflow : ℕ := 2 ^ 1024

/-- The double nearest to a natural number; infinite beyond the largest. -/
def toDouble (number : ℕ) : WithTop ℕ :=
  if round number < overflow then WithTop.some (round number) else ⊤

/-- Whether there is a minus sign, and what follows the sign. -/
def readSign : List Char → Bool × List Char
  | '-' :: rest => (true, rest)
  | '+' :: rest => (false, rest)
  | text => (false, text)

/-- A magnitude with its sign; both zeros are zero. -/
def signed : Bool → WithTop ℕ → Extended
  | false, ⊤ => ⊤
  | true, ⊤ => ⊥
  | false, WithTop.some magnitude => .finite magnitude
  | true, WithTop.some magnitude => .finite (-magnitude)

end ParseInt

open ParseInt

/-- `parseInt(text, 10)`; nothing stands for `NaN`. -/
def parseInt (text : String) : Option Extended :=
  let (negative, rest) := readSign (text.toList.dropWhile isBlank)
  let digits := rest.takeWhile Char.isDigit
  if digits = [] then none else some (signed negative (toDouble (ofDigits digits)))

/-- Blanks, a minus sign and digits of which one is not zero; anything may follow. -/
def NegativeNumeral (text : String) : Prop :=
  ∃ blanks digits rest, text.toList = blanks ++ '-' :: (digits ++ rest) ∧
    (∀ character ∈ blanks, isBlank character) ∧ (∀ digit ∈ digits, digit.isDigit) ∧
    ∃ digit ∈ digits, digit ≠ '0'

namespace ParseInt

theorem digitValue_pos_iff {digit : Char} (isDigit : digit.isDigit) :
    0 < digitValue digit ↔ digit ≠ '0' := by
  have least : '0'.toNat ≤ digit.toNat := (Char.isDigit_iff_toNat.mp isDigit).1
  have same : digit = '0' ↔ digit.toNat = '0'.toNat := by
    constructor
    · intro zero
      rw [zero]
    · intro zero
      apply Char.ext
      apply UInt32.toNat_inj.mp
      exact zero
  rw [digitValue, ne_eq, same]
  omega

theorem ofDigits_pos_iff {digits : List Char} (areDigits : ∀ digit ∈ digits, digit.isDigit) :
    0 < ofDigits digits ↔ ∃ digit ∈ digits, digit ≠ '0' := by
  have general : ∀ value,
      0 < digits.foldl (fun value digit => 10 * value + digitValue digit) value ↔
      0 < value ∨ ∃ digit ∈ digits, digit ≠ '0' := by
    induction digits with
    | nil => simp
    | cons digit rest ih =>
        intro value
        have first := digitValue_pos_iff (areDigits digit List.mem_cons_self)
        have ih := ih (fun other member => areDigits other (List.mem_cons_of_mem _ member))
          (10 * value + digitValue digit)
        simp only [List.foldl_cons, ih, List.mem_cons, exists_eq_or_imp, ← first]
        rw [← or_assoc]
        apply or_congr_left
        omega
  simpa [ofDigits] using general 0

/-- Rounding makes no positive number zero. -/
theorem round_pos_iff {number : ℕ} : 0 < round number ↔ 0 < number := by
  constructor
  · intro positive
    by_contra zero
    obtain rfl : number = 0 := by omega
    exact absurd positive (by decide)
  · intro positive
    have step : 2 ^ (number.log2 - 52) ≤ number :=
      (Nat.pow_le_pow_right (by omega) (by omega)).trans (Nat.log2_self_le (by omega))
    have quotient : 0 < number / 2 ^ (number.log2 - 52) := Nat.div_pos step (by positivity)
    rw [round]
    split
    · positivity
    · positivity

/-- Only a minus sign before a positive number gives a negative one. -/
theorem signed_neg_iff (negative : Bool) (number : ℕ) :
    signed negative (toDouble number) < .finite 0 ↔ negative ∧ 0 < number := by
  rw [← round_pos_iff, toDouble]
  split
  · cases negative with
    | false => simp [signed]
    | true => simp [signed]
  · next beyond =>
      have positive : 0 < round number := (by decide +kernel : 0 < overflow).trans_le (by omega)
      cases negative with
      | false => simp [signed]
      | true => simp [signed, positive]

theorem readSign_eq_true_iff {text rest : List Char} :
    readSign text = (true, rest) ↔ text = '-' :: rest := by
  rw [readSign.eq_def]
  split
  · simp
  · simp
  · next other _ =>
      constructor
      · simp
      · intro same
        exact absurd same (other rest)

end ParseInt

open ParseInt

/-- The texts that are read as a negative number. -/
theorem parseInt_neg_iff (text : String) :
    (∃ value, parseInt text = some value ∧ value < .finite 0) ↔ NegativeNumeral text := by
  constructor
  · rintro ⟨value, read, below⟩
    cases sign : readSign (text.toList.dropWhile isBlank) with
    | mk negative rest =>
        simp only [parseInt, sign] at read
        split at read
        · cases read
        · cases read
          rcases (signed_neg_iff _ _).mp below with ⟨rfl, positive⟩
          have areDigits : ∀ digit ∈ rest.takeWhile Char.isDigit, digit.isDigit :=
            fun digit member => List.mem_takeWhile_imp member
          refine ⟨text.toList.takeWhile isBlank, rest.takeWhile Char.isDigit,
            rest.dropWhile Char.isDigit, ?_, ?_, areDigits,
            (ofDigits_pos_iff areDigits).mp positive⟩
          · rw [List.takeWhile_append_dropWhile, ← readSign_eq_true_iff.mp sign,
              List.takeWhile_append_dropWhile]
          · exact fun character member => List.mem_takeWhile_imp member
  · rintro ⟨blanks, digits, rest, same, areBlank, areDigits, digit, member, nonzero⟩
    have sign : readSign (text.toList.dropWhile isBlank) = (true, digits ++ rest) := by
      apply readSign_eq_true_iff.mpr
      rw [same, List.dropWhile_append_of_pos areBlank]
      exact List.dropWhile_cons_of_neg (by decide)
    have run : (digits ++ rest).takeWhile Char.isDigit =
        digits ++ rest.takeWhile Char.isDigit := List.takeWhile_append_of_pos areDigits
    have positive : 0 < ofDigits (digits ++ rest.takeWhile Char.isDigit) := by
      apply (ofDigits_pos_iff ?_).mpr
      · exact ⟨digit, List.mem_append_left _ member, nonzero⟩
      · intro other among
        rw [← run] at among
        exact List.mem_takeWhile_imp among
    have nonempty : digits ++ rest.takeWhile Char.isDigit ≠ [] :=
      List.ne_nil_of_mem (List.mem_append_left _ member)
    refine ⟨signed true (toDouble (ofDigits (digits ++ rest.takeWhile Char.isDigit))), ?_, ?_⟩
    · simp only [parseInt, sign, run, if_neg nonempty]
    · exact (signed_neg_iff _ _).mpr ⟨rfl, positive⟩

example : parseInt " -12px" = some (.finite (-12)) := by decide +kernel
example : parseInt "-9007199254740993" = some (.finite (-9007199254740992)) := by decide +kernel
