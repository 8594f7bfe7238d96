import FormulaRuns.Decimal.Layout
import FormulaRuns.Formula.Lexer
import FormulaRuns.Proofs.Grid.A1
import Mathlib

namespace FormulaRuns

open Float.Model (Format UnpackedFloat)
open Float.Model.UnpackedFloat (Sign packComponents unpackSign unpackExponent)

def Positive : UnpackedFloat → Prop
  | .infinity sign | .zero sign | .finite sign _ _ _ => sign = .positive
  | .notANumber => True

theorem packComponents_lt_signBit (exponent : BitVec 11) (mantissa : BitVec 52) :
    (packComponents .binary64 .positive exponent mantissa).toNat < signBit := by
  have exponent_lt : exponent.toNat < 2 ^ 11 := exponent.isLt
  have mantissa_lt : mantissa.toNat < 2 ^ 52 := mantissa.isLt
  have value : (0#1 ++ exponent ++ mantissa).toNat = exponent.toNat * 2 ^ 52 + mantissa.toNat := by
    rw [BitVec.toNat_append, ← Nat.shiftLeft_add_eq_or_of_lt mantissa_lt, BitVec.toNat_append,
      Nat.shiftLeft_eq]
    simp
  have high : signBit = 2 ^ 11 * 2 ^ 52 := by decide
  change (0#1 ++ exponent ++ mantissa).toNat < signBit
  rw [value, high]
  omega

theorem pack_lt_signBit {f : UnpackedFloat} (positive : Positive f) :
    (UnpackedFloat.pack .binary64 f).toNat < signBit := by
  fun_cases UnpackedFloat.pack Format.binary64 f with
  | case1 => exact packComponents_lt_signBit _ _
  | case2 | case3 | case4 | case5 | case6 =>
    cases positive
    exact packComponents_lt_signBit _ _

theorem unpack_positive {bits : BitVec 64} (low : bits.toNat < signBit) :
    Positive (UnpackedFloat.unpack .binary64 bits) := by
  have top : @unpackSign .binary64 bits = 0#1 := by
    apply BitVec.eq_of_toNat_eq
    change (bits.extractLsb 63 63).toNat = 0
    have shifted : bits.toNat >>> 63 = 0 := by
      rw [Nat.shiftRight_eq_div_pow]
      exact Nat.div_eq_of_lt low
    simp [BitVec.extractLsb, BitVec.extractLsb', shifted]
  simp only [UnpackedFloat.unpack, top]
  split
  · split <;> trivial
  · split
    · split <;> rfl
    · rfl

theorem ofBits_lt_signBit {bits : UInt64} (low : bits.toNat < signBit) :
    (Float.ofBits bits).toBits.toNat < signBit :=
  pack_lt_signBit (unpack_positive low)

theorem double_of_isFinite {x : Float} (finite : x.isFinite) (low : x.toBits.toNat < signBit) :
    ∃ significand exponent, Double.ofFloat x = .finite false significand exponent := by
  have field : x.toBits.toNat / hiddenBit % 2048 ≠ 2047 := by
    intro full
    have ones : @unpackExponent .binary64 x.toBits.toBitVec = -1#11 := by
      apply BitVec.eq_of_toNat_eq
      change (x.toBits.toBitVec.extractLsb 62 52).toNat = 2047
      rw [← full, hiddenBit, significandBits]
      simp [BitVec.extractLsb, BitVec.extractLsb', Nat.shiftRight_eq_div_pow]
    have infinite : (UnpackedFloat.unpack .binary64 x.toBits.toBitVec).isFinite = false := by
      simp only [UnpackedFloat.unpack, ones, if_true]
      split <;> rfl
    rw [Float.isFinite, Float.Model.isFinite] at finite
    exact Bool.false_ne_true (infinite.symm.trans finite)
  have unsigned : (x.toBits.toNat / signBit % 2 == 1) = false := by
    rw [Nat.div_eq_of_lt low]
    rfl
  simp only [Double.ofFloat, Double.ofBits, unsigned, if_neg field]
  split
  · exact ⟨_, _, rfl⟩
  · exact ⟨_, _, rfl⟩

/-- The text begins with a digit, and there is nothing in it but digits and points. -/
structure IsPlainNumber (text : List Char) : Prop where
  digit_first : ∃ c rest, text = c :: rest ∧ c.isDigit
  plain : ∀ c ∈ text, c.isDigit ∨ c = '.'

theorem isPlainNumber_of_digits {front back : List Char} (nonempty : front ≠ [])
    (digits : ∀ c ∈ front, c.isDigit) (plain : ∀ c ∈ back, c.isDigit ∨ c = '.') :
    IsPlainNumber (front ++ back) := by
  obtain ⟨c, rest, rfl⟩ := List.exists_cons_of_ne_nil nonempty
  refine ⟨⟨c, rest ++ back, rfl, digits c List.mem_cons_self⟩, fun d member => ?_⟩
  rcases List.mem_append.1 member with inside | behind
  · exact .inl (digits d inside)
  · exact plain d behind

theorem isDigit_of_mem_zeros {c : Char} {count : Nat} (member : c ∈ zeros count) : c.isDigit := by
  rw [List.eq_of_mem_replicate member]
  rfl

namespace NumberLayout

theorem placed_isPlain {digits : List Char} (exponent : Int) (nonempty : digits ≠ [])
    (all_digits : ∀ c ∈ digits, c.isDigit) :
    IsPlainNumber (plainLayout.placed digits exponent) := by
  simp only [placed]
  split
  · rw [List.append_assoc]
    refine isPlainNumber_of_digits nonempty all_digits fun c member => ?_
    have zero : c ∈ zeros exponent.toNat := by simpa [plainLayout] using member
    exact .inl (isDigit_of_mem_zeros zero)
  · split
    · rename_i point
      apply isPlainNumber_of_digits
      · intro empty
        rcases List.take_eq_nil_iff.1 empty with none_taken | no_digits
        · omega
        · exact nonempty no_digits
      · exact fun c member => all_digits c (List.mem_of_mem_take member)
      · intro c member
        rcases List.mem_cons.1 member with rfl | behind
        · exact .inr rfl
        · exact .inl (all_digits c (List.mem_of_mem_drop behind))
    · refine ⟨⟨'0', _, rfl, rfl⟩, fun c member => ?_⟩
      simp only [List.mem_cons, List.mem_append] at member
      rcases member with rfl | rfl | zero | digit
      · exact .inl rfl
      · exact .inr rfl
      · exact .inl (isDigit_of_mem_zeros zero)
      · exact .inl (all_digits c digit)

theorem double_isPlain (significand : Nat) (exponent : Int) :
    IsPlainNumber (plainLayout.double (.finite false significand exponent)) := by
  cases significand with
  | zero => exact ⟨⟨'0', [], rfl, rfl⟩, by simp [double, minus, plainLayout]⟩
  | succ significand =>
    have digits (n : Nat) (power : Int) : IsPlainNumber (plainLayout.decimal n power) :=
      placed_isPlain power (rowDigits_ne_nil n) fun c member => isDigit_of_mem_rowDigits member
    exact digits _ _

end NumberLayout

theorem decimalBits_lt_signBit (n : Nat) (exponent : Int) : decimalBits n exponent < signBit := by
  have infinity : 2047 * hiddenBit < signBit := by decide
  simp only [decimalBits]
  split
  · exact Nat.lt_of_le_of_lt (Nat.zero_le _) infinity
  · split
    · exact infinity
    · exact Nat.lt_of_le_of_lt (Nat.min_le_right _ _) infinity

theorem floatOfBits_lt_signBit {bits : Nat} (low : bits < signBit) :
    (floatOfBits false bits).toBits.toNat < signBit := by
  apply ofBits_lt_signBit
  have word : (UInt64.ofNat bits).toNat = bits % 2 ^ 64 := UInt64.toNat_ofNat'
  exact word ▸ Nat.lt_of_le_of_lt (Nat.mod_le _ _) low

theorem takeSign_of_startsNumber {text : List Char} (starts : startsNumber text) :
    takeSign text = (false, text) := by
  unfold takeSign
  split
  · cases starts
  · cases starts
  · rfl

theorem readNumber_lt_signBit {text : List Char} {x : Float} (starts : startsNumber text)
    (read : readNumber text = some x) : x.toBits.toNat < signBit := by
  simp only [readNumber, takeSign_of_startsNumber starts] at read
  split at read
  · cases read
    exact floatOfBits_lt_signBit (by decide)
  · split at read
    · cases read
      exact floatOfBits_lt_signBit (by decide)
    · obtain ⟨bits, unsigned, rfl⟩ := Option.map_eq_some_iff.1 read
      obtain ⟨exponent, -, rfl⟩ : ∃ exponent, readExponent _ = some exponent ∧ _ = bits := by
        simp only [readUnsigned] at unsigned
        split at unsigned
        · cases unsigned
        · exact Option.map_eq_some_iff.1 unsigned
      exact floatOfBits_lt_signBit (decimalBits_lt_signBit _ _)

/-- A finite number that was read without a sign is displayed without one. -/
theorem float_isPlain {text : List Char} {x : Float} (starts : startsNumber text)
    (read : readNumber text = some x) (finite : x.isFinite) :
    IsPlainNumber (plainLayout.float x).toList := by
  obtain ⟨significand, exponent, parts⟩ :=
    double_of_isFinite finite (readNumber_lt_signBit starts read)
  rw [NumberLayout.float, String.toList_ofList, parts]
  exact NumberLayout.double_isPlain significand exponent

end FormulaRuns
