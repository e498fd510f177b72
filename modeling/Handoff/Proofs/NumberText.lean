import Mathlib.Data.List.Basic
import Handoff.Json.Printer
import Handoff.Json.Token
import Handoff.Proofs.DecimalRounding

/-! The text of a number is read as that number. A written number is a whole part, decimal
places and an exponent; what is read depends on the decimal they spell, and the layouts of
a document spell the shortest decimal or its tenfold. -/

namespace Handoff.Json

theorem natOfDigits_eq (digits : List Char) : natOfDigits digits = Nat.ofDigitChars 10 digits 0 := by
  simp only [natOfDigits, Nat.ofDigitChars_eq_foldl, Nat.mul_comm]

theorem natOfDigits_append (first second : List Char) :
    natOfDigits (first ++ second) = natOfDigits first * 10 ^ second.length + natOfDigits second := by
  simp only [natOfDigits_eq]
  rw [Nat.ofDigitChars_append, Nat.ofDigitChars_eq_ofDigitChars_zero, Nat.mul_comm]

theorem natOfDigits_zeros (count : Nat) : natOfDigits (List.replicate count '0') = 0 := by
  rw [natOfDigits_eq, Nat.ofDigitChars_replicate_zero, Nat.mul_zero]

theorem natOfDigits_repr (n : Nat) : natOfDigits n.repr.toList = n := by
  rw [natOfDigits_eq, Nat.toList_repr, Nat.ofDigitChars_ten_toDigits]

def AllDigits (digits : List Char) : Prop := ∀ c ∈ digits, c.isDigit = true

theorem allDigits_repr (n : Nat) : AllDigits n.repr.toList := by
  intro c member
  rw [Nat.toList_repr] at member
  exact Nat.isDigit_of_mem_toDigits (by decide) (by decide) member

theorem allDigits_zeros (count : Nat) : AllDigits (List.replicate count '0') := by
  intro c member
  rw [List.eq_of_mem_replicate member]
  decide

theorem AllDigits.append {first second : List Char} (start : AllDigits first) (rest : AllDigits second) :
    AllDigits (first ++ second) := by
  intro c member
  rcases List.mem_append.mp member with early | late
  · exact start c early
  · exact rest c late

theorem repr_ne_nil (n : Nat) : n.repr.toList ≠ [] := by
  rw [Nat.toList_repr]
  exact Nat.toDigits_ne_nil

theorem head?_repr_ne_zero {n : Nat} (nonzero : n ≠ 0) : n.repr.toList.head? ≠ some '0' := by
  rw [Nat.toList_repr]
  induction n using Nat.strongRecOn with
  | ind n ih =>
    by_cases small : n < 10
    · rw [Nat.toDigits_of_lt_base small]
      simpa using nonzero
    · have shorter := ih (n / 10) (by omega) (by omega)
      rw [Nat.toDigits_of_base_le (by decide) (by omega), List.head?_append_of_ne_nil _ Nat.toDigits_ne_nil]
      exact shorter

/-- What may follow a number: nothing that could belong to it. -/
def EndsNumber (rest : List Char) : Prop :=
  ∀ c ∈ rest.head?, c.isDigit = false ∧ c ≠ '.' ∧ c ≠ 'e' ∧ c ≠ 'E'

theorem readDigits_append {digits rest : List Char} (all : AllDigits digits)
    (ends : ∀ c ∈ rest.head?, c.isDigit = false) : readDigits (digits ++ rest) = (digits, rest) := by
  have stop : rest.takeWhile Char.isDigit = [] ∧ rest.dropWhile Char.isDigit = rest := by
    cases rest with
    | nil => exact ⟨rfl, rfl⟩
    | cons c rest =>
      have other : ¬c.isDigit = true := by simp [ends c rfl]
      exact ⟨List.takeWhile_cons_of_neg other, List.dropWhile_cons_of_neg other⟩
  rw [readDigits, List.takeWhile_append_of_pos all, List.dropWhile_append_of_pos all, stop.1, stop.2, List.append_nil]

/-- The digits before a point. -/
structure IsWhole (digits : List Char) : Prop where
  all : AllDigits digits
  nonempty : digits ≠ []
  leading : digits = ['0'] ∨ digits.head? ≠ some '0'

private theorem isWhole_zero : IsWhole ['0'] := ⟨by simp [AllDigits], by decide, .inl rfl⟩

theorem isWhole_repr (n : Nat) : IsWhole n.repr.toList where
  all := allDigits_repr n
  nonempty := repr_ne_nil n
  leading := by
    by_cases zero : n = 0
    · subst zero
      exact .inl rfl
    · exact .inr (head?_repr_ne_zero zero)

private theorem IsWhole.append {digits more : List Char} (whole : IsWhole digits) (nonzero : digits.head? ≠ some '0')
    (all : AllDigits more) : IsWhole (digits ++ more) where
  all := whole.all.append all
  nonempty := by simp [whole.nonempty]
  leading := .inr (by rwa [List.head?_append_of_ne_nil _ whole.nonempty])

private theorem readWhole_append {digits rest : List Char} (whole : IsWhole digits) (ends : ∀ c ∈ rest.head?, c.isDigit = false) :
    readWhole (digits ++ rest) = some (digits, rest) := by
  rcases whole.leading with rfl | leading
  · rfl
  · have read := readDigits_append whole.all ends
    unfold readWhole
    split
    next tail same =>
      have head : (digits ++ rest).head? = digits.head? := List.head?_append_of_ne_nil _ whole.nonempty
      rw [same] at head
      exact absurd head.symm leading
    next => simp [read, whole.nonempty]

/-- Decimal places as they are written, none without a point. -/
def fractionText (digits : List Char) : List Char := if digits.isEmpty then [] else '.' :: digits

def exponentText : Option Int → List Char
  | none => []
  | some exponent => 'e' :: (if 0 ≤ exponent then '+' else '-') :: exponent.natAbs.repr.toList

private theorem readExponent_append {rest : List Char} (exponent : Option Int) (ends : EndsNumber rest) :
    readExponent (exponentText exponent ++ rest) = some (exponent, rest) := by
  cases exponent with
  | none =>
    cases rest with
    | nil => rfl
    | cons c rest =>
      obtain ⟨-, -, small, large⟩ := ends c rfl
      simp [exponentText, readExponent, small, large]
  | some exponent =>
    have read := readDigits_append (allDigits_repr exponent.natAbs) fun c member => (ends c member).1
    have digits := natOfDigits_repr exponent.natAbs
    by_cases positive : 0 ≤ exponent
    · have value : Binary64.signed false exponent.natAbs = exponent := by
        rw [Binary64.signed]
        simp only [Bool.false_eq_true, if_false]
        omega
      simp [exponentText, positive, readExponent, readSign, read, digits, value, -Nat.toList_repr]
    · have value : Binary64.signed true exponent.natAbs = exponent := by
        rw [Binary64.signed]
        simp only [if_true]
        omega
      simp [exponentText, positive, readExponent, readSign, read, digits, value, -Nat.toList_repr]

private theorem head?_exponentText_append {rest : List Char} (exponent : Option Int) (ends : EndsNumber rest) :
    ∀ c ∈ (exponentText exponent ++ rest).head?, c.isDigit = false ∧ c ≠ '.' := by
  cases exponent with
  | none => exact fun c member => ⟨(ends c member).1, (ends c member).2.1⟩
  | some exponent =>
    intro c member
    obtain rfl : 'e' = c := Option.some.inj member
    decide

private theorem readFraction_append {digits rest : List Char} (all : AllDigits digits)
    (ends : ∀ c ∈ rest.head?, c.isDigit = false ∧ c ≠ '.') :
    readFraction (fractionText digits ++ rest) = some (digits, rest) := by
  have read := readDigits_append all fun c member => (ends c member).1
  cases digits with
  | nil =>
    unfold readFraction
    split
    next tail same => exact absurd rfl (ends '.' (by rw [show rest = '.' :: tail from same]; rfl)).2
    next => rfl
  | cons c digits =>
    rw [List.cons_append] at read
    simp [fractionText, readFraction, read]

/-- A number is read as its parts say, whatever follows it. -/
theorem readNumber_append (negative : Bool) {whole fraction rest : List Char} (isWhole : IsWhole whole)
    (places : AllDigits fraction) (exponent : Option Int) (ends : EndsNumber rest) :
    readNumber negative (whole ++ (fractionText fraction ++ (exponentText exponent ++ rest))) =
      some (Numeral.ofWritten negative (natOfDigits whole) (natOfDigits fraction) fraction.length exponent, rest) := by
  have after := head?_exponentText_append exponent ends
  have stop : ∀ c ∈ (fractionText fraction ++ (exponentText exponent ++ rest)).head?, c.isDigit = false := by
    cases fraction with
    | nil => exact fun c member => (after c member).1
    | cons digit fraction =>
      intro c member
      obtain rfl : '.' = c := Option.some.inj member
      decide
  rw [readNumber, readWhole_append isWhole stop]
  simp only [Option.bind_eq_bind, Option.bind_some, readFraction_append places after, readExponent_append exponent ends,
    Option.pure_def]

/-- Text that is read as a number, with either sign, wherever the number may end. -/
def Spells (written : List Char) (numeral : Bool → Numeral) : Prop :=
  ∀ negative rest, EndsNumber rest → readNumber negative (written ++ rest) = some (numeral negative, rest)

theorem spells_parts {whole fraction : List Char} (isWhole : IsWhole whole) (places : AllDigits fraction)
    (exponent : Option Int) :
    Spells (whole ++ (fractionText fraction ++ exponentText exponent))
      (Numeral.ofWritten · (natOfDigits whole) (natOfDigits fraction) fraction.length exponent) := by
  intro negative rest ends
  rw [List.append_assoc, List.append_assoc]
  exact readNumber_append negative isWhole places exponent ends

theorem spells_repr (n : Nat) : Spells n.repr.toList (Numeral.ofWritten · n 0 0 none) := by
  have spells := spells_parts (isWhole_repr n) (by simp [AllDigits] : AllDigits []) none
  rw [natOfDigits_repr] at spells
  simpa [fractionText, exponentText, natOfDigits, -Nat.toList_repr] using spells

/-- Decimal places or an exponent make a number a decimal: all digits, and the exponent
less the places. -/
theorem spells_real {written whole fraction : List Char} {exponent : Option Int} {d : Decimal}
    (text : written = whole ++ (fractionText fraction ++ exponentText exponent)) (isWhole : IsWhole whole)
    (places : AllDigits fraction) (real : ¬(fraction.length = 0 ∧ exponent = none))
    (digits : natOfDigits whole * 10 ^ fraction.length + natOfDigits fraction = d.digits)
    (power : exponent.getD 0 - fraction.length = d.exponent) :
    Spells written fun negative => .real (.ofDecimal negative d) := by
  intro negative rest ends
  have value : Numeral.ofWritten negative (natOfDigits whole) (natOfDigits fraction) fraction.length exponent =
      .real (.ofDecimal negative d) := by
    rw [Numeral.ofWritten]
    dsimp only
    rw [if_neg real, power]
    exact congrArg (fun digits => Numeral.real (.ofDecimal negative ⟨digits, d.exponent⟩)) digits
  rw [text, spells_parts isWhole places exponent negative rest ends]
  exact congrArg (fun numeral => some (numeral, rest)) value

theorem fractionText_of_length {digits : List Char} (nonempty : 0 < digits.length) :
    fractionText digits = '.' :: digits := by
  simp [fractionText, List.length_pos_iff.mp nonempty]

/-- Whole digits, zeros and one decimal place. -/
theorem spells_whole {digits exponent : Nat} (nonzero : digits ≠ 0 ∨ exponent = 0) (bound : exponent ≤ 400) :
    Spells (Decimal.positional ⟨digits, exponent⟩ ".0").toList
      fun negative => .real (.ofDecimal negative ⟨digits, exponent⟩) := by
  have isWhole : IsWhole (digits.repr.toList ++ List.replicate exponent '0') := by
    rcases nonzero with nonzero | rfl
    · exact (isWhole_repr digits).append (head?_repr_ne_zero nonzero) (allDigits_zeros exponent)
    · rw [List.replicate_zero, List.append_nil]
      exact isWhole_repr digits
  have text : (Decimal.positional ⟨digits, exponent⟩ ".0").toList =
      (digits.repr.toList ++ List.replicate exponent '0') ++ (fractionText ['0'] ++ exponentText none) := by
    simp [Decimal.positional, Decimal.digitText, Decimal.zeros, fractionText, exponentText]
  have value : natOfDigits (digits.repr.toList ++ List.replicate exponent '0') = digits * 10 ^ exponent := by
    rw [natOfDigits_append, natOfDigits_repr, natOfDigits_zeros, List.length_replicate, Nat.add_zero]
  have spelled : Spells (Decimal.positional ⟨digits, exponent⟩ ".0").toList
      fun negative => .real (.ofDecimal negative ⟨digits * 10 ^ exponent * 10, -1⟩) :=
    spells_real text isWhole (allDigits_zeros 1) (by decide) (by rw [value]; rfl) rfl
  simpa only [Binary64.ofDecimal_tenths _ digits exponent bound] using spelled

/-- Digits with the point among them. -/
theorem spells_inside {digits places : Nat} (nonzero : digits ≠ 0) (positive : 0 < places)
    (inside : places < digits.repr.toList.length) :
    Spells (Decimal.positional ⟨digits, -(places : Int)⟩ ".0").toList
      fun negative => .real (.ofDecimal negative ⟨digits, -(places : Int)⟩) := by
  have below : ¬0 ≤ -(places : Int) := by omega
  have split := List.take_append_drop (digits.repr.toList.length - places) digits.repr.toList
  have length : (digits.repr.toList.drop (digits.repr.toList.length - places)).length = places := by
    rw [List.length_drop]
    omega
  have all := allDigits_repr digits
  have isWhole : IsWhole (digits.repr.toList.take (digits.repr.toList.length - places)) := by
    refine ⟨fun c member => all c (List.mem_of_mem_take member), ?_, .inr ?_⟩
    · rw [ne_eq, List.take_eq_nil_iff, not_or]
      exact ⟨by omega, repr_ne_nil digits⟩
    · rw [List.head?_take, if_neg (by omega)]
      exact head?_repr_ne_zero nonzero
  have text : (Decimal.positional ⟨digits, -(places : Int)⟩ ".0").toList =
      digits.repr.toList.take (digits.repr.toList.length - places) ++
        (fractionText (digits.repr.toList.drop (digits.repr.toList.length - places)) ++ exponentText none) := by
    rw [fractionText_of_length (by omega), Decimal.positional]
    dsimp only
    rw [if_neg below, Decimal.digitText, Int.neg_neg, Int.toNat_natCast, if_pos inside]
    simp [exponentText, -Nat.toList_repr]
  have value := natOfDigits_append (digits.repr.toList.take (digits.repr.toList.length - places))
    (digits.repr.toList.drop (digits.repr.toList.length - places))
  rw [split, natOfDigits_repr] at value
  refine spells_real text isWhole (fun c member => all c (List.mem_of_mem_drop member)) (by omega) value.symm ?_
  rw [length, Option.getD_none, Int.zero_sub]

/-- A zero, and digits with the point in front of them. -/
theorem spells_before {digits places : Nat} (positive : 0 < places) (before : digits.repr.toList.length ≤ places) :
    Spells (Decimal.positional ⟨digits, -(places : Int)⟩ ".0").toList
      fun negative => .real (.ofDecimal negative ⟨digits, -(places : Int)⟩) := by
  have below : ¬0 ≤ -(places : Int) := by omega
  have fraction := (allDigits_zeros (places - digits.repr.toList.length)).append (allDigits_repr digits)
  have length : (List.replicate (places - digits.repr.toList.length) '0' ++ digits.repr.toList).length = places := by
    rw [List.length_append, List.length_replicate]
    omega
  have text : (Decimal.positional ⟨digits, -(places : Int)⟩ ".0").toList =
      ['0'] ++ (fractionText (List.replicate (places - digits.repr.toList.length) '0' ++ digits.repr.toList) ++
        exponentText none) := by
    rw [fractionText_of_length (by omega), Decimal.positional]
    dsimp only
    rw [if_neg below, Decimal.digitText, Int.neg_neg, Int.toNat_natCast, if_neg (Nat.not_lt.mpr before)]
    simp [Decimal.zeros, exponentText, -Nat.toList_repr]
  have value : natOfDigits (List.replicate (places - digits.repr.toList.length) '0' ++ digits.repr.toList) = digits := by
    rw [natOfDigits_append, natOfDigits_zeros, natOfDigits_repr, Nat.zero_mul, Nat.zero_add]
  refine spells_real text isWhole_zero fraction (by omega) ?_ ?_
  · rw [value]
    exact (congrArg (· + digits) (Nat.zero_mul _)).trans (Nat.zero_add digits)
  · rw [length, Option.getD_none, Int.zero_sub]

/-- One digit, the others after a point, and an exponent. -/
theorem spells_scientific {d : Decimal} (nonzero : d.digits ≠ 0) :
    Spells d.scientific.toList fun negative => .real (.ofDecimal negative d) := by
  obtain ⟨digit, fraction, spelling⟩ := List.exists_cons_of_ne_nil (repr_ne_nil d.digits)
  have all := allDigits_repr d.digits
  have leading := head?_repr_ne_zero nonzero
  have value := natOfDigits_append [digit] fraction
  rw [List.singleton_append, ← spelling, natOfDigits_repr] at value
  rw [spelling] at all leading
  have text : d.scientific.toList = [digit] ++ (fractionText fraction ++ exponentText (some d.leadingExponent)) := by
    rw [Decimal.scientific, Decimal.digitText, spelling]
    cases fraction with
    | nil => by_cases sign : 0 ≤ d.leadingExponent <;> simp [fractionText, exponentText, sign]
    | cons next rest => by_cases sign : 0 ≤ d.leadingExponent <;> simp [fractionText, exponentText, sign]
  refine spells_real text ⟨fun c member => all c (by simp_all), by simp, .inr leading⟩
    (fun c member => all c (List.mem_cons_of_mem _ member)) (by simp) value.symm ?_
  have length := congrArg List.length spelling
  rw [String.length_toList, List.length_cons] at length
  rw [Option.getD_some, Decimal.leadingExponent, Decimal.digitText, length]
  omega

/-- A document's layout of a decimal is read as that decimal. -/
theorem spells_writeDecimal {d : Decimal} (nonzero : d.digits ≠ 0) :
    Spells (Binary64.documentLayout.writeDecimal d).toList fun negative => .real (.ofDecimal negative d) := by
  obtain ⟨digits, exponent⟩ := d
  have size : 0 < digits.repr.length := by
    rw [← String.length_toList]
    exact List.length_pos_iff.mpr (repr_ne_nil digits)
  rw [Binary64.TextLayout.writeDecimal, Binary64.documentLayout]
  dsimp only
  split
  next range =>
    by_cases whole : 0 ≤ exponent
    · obtain ⟨power, rfl⟩ := Int.eq_ofNat_of_zero_le whole
      have bound := range.2
      rw [Decimal.leadingExponent, Decimal.digitText] at bound
      dsimp only at bound
      exact spells_whole (.inl nonzero) (by omega)
    · obtain ⟨places, same⟩ := Int.eq_ofNat_of_zero_le (by omega : 0 ≤ -exponent)
      obtain rfl : exponent = -(places : Int) := by omega
      by_cases inside : places < digits.repr.toList.length
      · exact spells_inside nonzero (by omega) inside
      · exact spells_before (by omega) (Nat.not_lt.mp inside)
  next => exact spells_scientific nonzero

/-- The part of a number's text after its sign. -/
theorem spells_magnitude (m : Magnitude) :
    Spells (if m.units = 0 then Binary64.documentLayout.writeDecimal ⟨0, 0⟩
      else Binary64.documentLayout.writeDecimal (m.shortest .even)).toList fun negative => .real (.finite negative m) := by
  by_cases zero : m.units = 0
  · have spelled : Spells (Decimal.positional ⟨0, (0 : Nat)⟩ ".0").toList _ := spells_whole (.inr rfl) (by decide)
    have value : ∀ negative, Binary64.ofDecimal negative ⟨0, (0 : Nat)⟩ = .finite negative m := by
      intro negative
      rw [Binary64.ofDecimal, if_pos rfl, ← zero, Binary64.ofUnits_units]
    simp only [value] at spelled
    rw [if_pos zero]
    exact spelled
  · have spelled := spells_writeDecimal (m.digits_shortest_ne_zero .even zero)
    simp only [m.ofDecimal_shortest .even] at spelled
    rw [if_neg zero]
    exact spelled

end Handoff.Json
