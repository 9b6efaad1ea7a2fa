import Mathlib.Data.List.Basic
import Tabular.Proofs.Number.Neighbours
import Tabular.Proofs.Schema.Defaults

/-!
This module tells what the reported texts of defaults are read as. What is neither quoted nor a number is
read as the text that spells it, and an integer literal as its integer or as a rounded number.
-/

namespace Tabular

/-! ## Reported texts -/

namespace Text

/-- Different texts have different literals. -/
theorem sqlLiteral_injective {first second : String} (same : sqlLiteral first = sqlLiteral second) :
    first = second := by
  have read := unquoted?_sqlLiteral first
  rw [same, unquoted?_sqlLiteral] at read
  exact (String.toList_injective (Option.some.inj read)).symm

/-- Only texts between two quotes of one kind have a content. -/
theorem unquoted?_eq_some {cs content : List Char} (reads : unquoted? cs = some content) :
    ∃ quote inner, (quote = '\'' ∨ quote = '"') ∧ cs = quote :: (inner ++ [quote]) ∧
      halveQuotes quote inner = content := by
  cases cs with
  | nil => exact nomatch reads
  | cons first rest =>
      rw [unquoted?, Option.ite_none_right_eq_some] at reads
      obtain ⟨⟨known, last⟩, same⟩ := reads
      refine ⟨first, rest.dropLast, known, ?_, Option.some.inj same⟩
      rw [List.dropLast_append_getLast? first last]

/-- A reported text is neither quoted nor a number. -/
structure IsExpression (reported : String) : Prop where
  unquoted : unquoted? reported.toList = none
  noInteger : ∀ n, IntegerText.read reported ≠ .value n
  noNumber : Binary64.read? reported = none

end Text

open Text

/-- A reported text is read as a text. Only a literal means what it is read as. -/
inductive ReadsAs : String → String → Prop where
  | literal (content : String) : ReadsAs (sqlLiteral content) content
  | expression {content : String} (is : IsExpression content) : ReadsAs content content
  | enclosed {quote : Char} {inner : List Char} {content : String} (known : quote = '\'' ∨ quote = '"')
      (reads : halveQuotes quote inner = content.toList)
      (other : String.ofList (quote :: (inner ++ [quote])) ≠ sqlLiteral content) :
      ReadsAs (String.ofList (quote :: (inner ++ [quote]))) content

/-- A bare expression is read as the text that it is. -/
theorem Text.IsExpression.read {reported : String} (is : IsExpression reported) :
    readDefault reported = .text reported := by
  rw [readDefault, is.unquoted, is.noNumber]
  simp only
  split
  · next n read => exact absurd read (is.noInteger n)
  · rfl

/-- A reported text that is read as a text is one of these. -/
theorem readDefault_eq_text {reported content : String} :
    readDefault reported = .text content ↔ ReadsAs reported content := by
  constructor
  · intro read
    rw [readDefault] at read
    split at read
    · next quoted =>
        obtain ⟨quote, inner, known, split, halved⟩ := unquoted?_eq_some quoted
        have spells := Value.text.inj read
        rw [← halved] at spells
        by_cases literal : reported = sqlLiteral content
        · rw [literal]
          exact .literal content
        · rw [← String.ofList_toList (s := reported), split] at literal ⊢
          exact .enclosed known (by rw [← spells, String.toList_ofList]) literal
    · next unquoted =>
        split at read
        · cases read
        · next noInteger =>
            split at read
            · cases read
            · next noNumber =>
                obtain rfl := Value.text.inj read
                exact .expression ⟨unquoted, noInteger, noNumber⟩
  · intro reads
    cases reads with
    | literal => exact readDefault_text content
    | expression is => exact is.read
    | @enclosed quote inner _ known reads other =>
        have last : (inner ++ [quote]).getLast? = some quote := List.getLast?_concat
        have quoted : unquoted? (quote :: (inner ++ [quote])) = some content.toList := by
          rw [unquoted?, if_pos ⟨known, last⟩, List.dropLast_concat, reads]
        rw [readDefault, String.toList_ofList, quoted]
        simp

/-! ## Words -/

namespace Text

/-- A text begins with a letter and does not spell an infinity or NaN. -/
structure BeginsWord (text : String) : Prop where
  letter : text.toList.head?.any Char.isAlpha = true
  unnamed : String.ofList (lowerAscii (stripNumber text.toList)) ∉ ["inf", "infinity", "nan"]

/-- Letters lie in two ranges. -/
theorem isAlpha_bounds {c : Char} (letter : c.isAlpha = true) :
    65 ≤ c.toNat ∧ c.toNat ≤ 90 ∨ 97 ≤ c.toNat ∧ c.toNat ≤ 122 := by
  have ranges : (decide (c.val ≥ 65 ∧ c.val ≤ 90) || c.val ≥ 97 && c.val ≤ 122) = true := letter
  simpa [UInt32.le_iff_toNat_le] using ranges

/-- A letter differs from every character that is none. -/
theorem isAlpha_ne {first other : Char} (letter : first.isAlpha = true)
    (none : other.isAlpha = false) : first ≠ other := by
  rintro rfl
  exact Bool.false_ne_true (none.symm.trans letter)

/-- A letter is no blank around a number. -/
theorem isNumberBlank_isAlpha {c : Char} (letter : c.isAlpha = true) : isNumberBlank c = false := by
  have bounds := isAlpha_bounds letter
  have outside : isBlank c = false := by
    simp [isBlank, Range.contains, blanks]
    omega
  rw [isNumberBlank, outside, Bool.false_and]

/-- No letter is a digit of any script. -/
theorem digit?_isAlpha {c : Char} (letter : c.isAlpha = true) : digit? c = none := by
  have bounds := isAlpha_bounds letter
  have apart : ∀ first ∈ zeros, first + 10 ≤ 65 ∨ 122 < first := by decide
  rw [digit?, Option.map_eq_none_iff, List.find?_eq_none]
  intro first member
  have outside := apart first member
  simp only [Bool.and_eq_true, decide_eq_true_eq]
  omega

/-- Stripping blanks keeps a first character that is none. -/
theorem stripNumber_cons {first : Char} (plain : isNumberBlank first = false) (rest : List Char) :
    ∃ others, stripNumber (first :: rest) = first :: others := by
  rw [stripNumber, List.dropWhile_cons_of_neg (by simp [plain]), List.reverse_cons,
    List.dropWhile_append]
  split
  · exact ⟨[], by simp [plain]⟩
  · exact ⟨_, by rw [List.reverse_append]; rfl⟩

/-- A text that begins with a letter is no row of digits. -/
theorem digitRow?_isAlpha {first : Char} (letter : first.isAlpha = true) (rest : List Char) :
    digitRow? (first :: rest) = none := by
  cases row : digitRow? (first :: rest) with
  | none => rfl
  | some digits =>
      rcases digitRow?_each row first List.mem_cons_self with same | digit
      · exact absurd same (isAlpha_ne letter rfl)
      · simp [digit?_isAlpha letter] at digit

/-- It has no sign. -/
theorem splitSign_isAlpha {first : Char} (letter : first.isAlpha = true) (rest : List Char) :
    splitSign (first :: rest) = (false, first :: rest) := by
  rw [splitSign]
  · rintro others ⟨⟩
    exact isAlpha_ne letter rfl rfl
  · rintro others ⟨⟩
    exact isAlpha_ne letter rfl rfl

/-- A text that begins with such a character is split before it. -/
theorem splitAt?_marked (test : Char → Bool) {first : Char} (mark : test first = true)
    (rest : List Char) : (splitAt? test (first :: rest)).1 = [] := by
  simp [splitAt?, mark]

/-- What stands before the first mark begins as the text does. -/
theorem splitAt?_unmarked (test : Char → Bool) {first : Char} (plain : test first = false)
    (rest : List Char) : ∃ others, (splitAt? test (first :: rest)).1 = first :: others := by
  rw [splitAt?]
  split
  · exact ⟨rest, rfl⟩
  · rw [List.takeWhile_cons_of_pos (by rw [plain]; rfl)]
    exact ⟨_, rfl⟩

/-- A text that begins with a letter is no decimal. -/
theorem decimal?_isAlpha (negative : Bool) {first : Char} (letter : first.isAlpha = true)
    (rest : List Char) : decimal? negative (first :: rest) = none := by
  have point : (first = '.' : Bool) = false := decide_eq_false (isAlpha_ne letter rfl)
  cases parted : splitAt? (fun c => c = 'e' || c = 'E') (first :: rest) with
  | mk significand power =>
      rw [decimal?, parted]
      cases marked : (first = 'e' || first = 'E' : Bool) with
      | true =>
          have empty := splitAt?_marked (fun c => c = 'e' || c = 'E') marked rest
          rw [parted] at empty
          obtain rfl : significand = [] := empty
          cases shifts : exponent? power <;> simp [splitAt?, optionalDigits?, shifts]
      | false =>
          obtain ⟨others, begins⟩ :=
            splitAt?_unmarked (fun c => c = 'e' || c = 'E') marked rest
          rw [parted] at begins
          obtain rfl : significand = first :: others := begins
          obtain ⟨more, whole⟩ := splitAt?_unmarked (fun c => c = '.') point others
          simp only [whole, optionalDigits?, digitRow?_isAlpha letter]
          rfl

/-- A word is no number, whatever follows it. -/
theorem BeginsWord.isExpression {word : String} (begins : BeginsWord word) : IsExpression word := by
  obtain ⟨letter, unnamed⟩ := begins
  cases spelled : word.toList with
  | nil => simp [spelled] at letter
  | cons first rest =>
      rw [spelled] at letter unnamed
      have letter : first.isAlpha = true := letter
      obtain ⟨others, stripped⟩ := stripNumber_cons (isNumberBlank_isAlpha letter) rest
      simp only [stripped, List.mem_cons, List.not_mem_nil, or_false, not_or] at unnamed
      refine ⟨?_, ?_, ?_⟩
      · rw [spelled]
        exact unquoted?_none (isAlpha_ne letter rfl) (isAlpha_ne letter rfl)
      · rw [IntegerText.read, spelled, stripped, splitSign_isAlpha letter]
        simp [digitRow?_isAlpha letter]
      · rw [Binary64.read?, spelled, stripped, splitSign_isAlpha letter]
        simp [unnamed, decimal?_isAlpha false letter]

end Text

/-! ## Integers -/

namespace Text

/-- A row of digits, where one underscore may part two of them. -/
inductive DigitsParted : List Char → List Char → Prop where
  | one {c : Char} (digit : c.isDigit = true) : DigitsParted [c] [c]
  | next {c : Char} {row digits : List Char} (digit : c.isDigit = true)
      (rest : DigitsParted row digits) : DigitsParted (c :: row) (c :: digits)
  | parted {c : Char} {row digits : List Char} (digit : c.isDigit = true)
      (rest : DigitsParted row digits) : DigitsParted (c :: '_' :: row) (c :: digits)

namespace DigitsParted

variable {row digits : List Char}

/-- A row of digits begins with a digit. -/
theorem head (parted : DigitsParted row digits) :
    ∃ first rest, row = first :: rest ∧ first.isDigit = true := by
  cases parted with
  | one digit => exact ⟨_, _, rfl, digit⟩
  | next digit _ => exact ⟨_, _, rfl, digit⟩
  | parted digit _ => exact ⟨_, _, rfl, digit⟩

/-- It holds only digits and underscores. -/
theorem each (parted : DigitsParted row digits) : ∀ c ∈ row, c = '_' ∨ c.isDigit = true := by
  induction parted with
  | one digit => simp [digit]
  | next digit _ inductionHypothesis =>
      intro c member
      rcases List.mem_cons.mp member with rfl | member
      · exact .inr digit
      · exact inductionHypothesis c member
  | parted digit _ inductionHypothesis =>
      intro c member
      rcases List.mem_cons.mp member with rfl | member
      · exact .inr digit
      rcases List.mem_cons.mp member with rfl | member
      · exact .inl rfl
      · exact inductionHypothesis c member

/-- It is read as its digits, without the underscores. -/
theorem digitRow?_eq (parted : DigitsParted row digits) : digitRow? row = some (digits.map digitValue) := by
  induction parted with
  | one digit => simp [digitRow?, digit?_isDigit digit]
  | next digit others inductionHypothesis =>
      obtain ⟨second, rest, rfl, other⟩ := others.head
      rw [digitRow?, digit?_isDigit digit, inductionHypothesis]
      · rfl
      · simp
      · rintro rest ⟨⟩
        exact Bool.false_ne_true other
  | parted digit _ inductionHypothesis =>
      rw [digitRow?, digit?_isDigit digit, inductionHypothesis]
      rfl

/-- It has some digits. -/
theorem ne_nil (parted : DigitsParted row digits) : digits ≠ [] := by
  cases parted <;> exact List.cons_ne_nil _ _

/-- Digits without underscores are such a row. -/
theorem ofDigits {cs : List Char} (filled : cs ≠ []) (digits : AreDigits cs) : DigitsParted cs cs := by
  induction cs with
  | nil => exact absurd rfl filled
  | cons c rest inductionHypothesis =>
      obtain ⟨digit, others⟩ := List.forall_mem_cons.mp digits
      cases rest with
      | nil => exact .one digit
      | cons second rest => exact .next digit (inductionHypothesis (List.cons_ne_nil _ _) others)

end DigitsParted

end Text

/-- A text is an integer literal of a number, with or without a sign. -/
inductive IntegerLiteral : String → Int → Prop where
  | bare {row digits : List Char} (parted : DigitsParted row digits) :
      IntegerLiteral (String.ofList row) (Nat.ofDigitChars 10 digits 0)
  | plus {row digits : List Char} (parted : DigitsParted row digits) :
      IntegerLiteral (String.ofList ('+' :: row)) (Nat.ofDigitChars 10 digits 0)
  | minus {row digits : List Char} (parted : DigitsParted row digits) :
      IntegerLiteral (String.ofList ('-' :: row)) (-(Nat.ofDigitChars 10 digits 0 : Int))

namespace IntegerLiteral

variable {text : String} {n : Int}

/-- A written integer is a literal. -/
theorem ofInt (n : Int) : IntegerLiteral (toString n) n := by
  have parted := DigitsParted.ofDigits Nat.toDigits_ne_nil (areDigits_toDigits n.natAbs)
  have value : Nat.ofDigitChars 10 (Nat.toDigits 10 n.natAbs) 0 = n.natAbs :=
    Nat.ofDigitChars_ten_toDigits
  rw [← String.ofList_toList (s := toString n), toString_toList]
  by_cases negative : n < 0
  · have literal := IntegerLiteral.minus parted
    rw [value, show -(n.natAbs : Int) = n by omega] at literal
    rwa [decide_eq_true negative]
  · have literal := IntegerLiteral.bare parted
    rw [value, show (n.natAbs : Int) = n by omega] at literal
    rwa [decide_eq_false negative]

/-- A literal is a row of digits behind its sign. -/
theorem parts (literal : IntegerLiteral text n) :
    unquoted? text.toList = none ∧ stripNumber text.toList = text.toList ∧
      ∃ negative row digits, splitSign text.toList = (negative, row) ∧ DigitsParted row digits ∧
        n = if negative then -(Nat.ofDigitChars 10 digits 0 : Int) else Nat.ofDigitChars 10 digits 0 := by
  have plain {row digits : List Char} (parted : DigitsParted row digits) :
      ∀ c ∈ row, isNumberBlank c = false := by
    intro c member
    rcases parted.each c member with rfl | digit
    · decide
    · exact isNumberBlank_isDigit digit
  cases literal with
  | bare parted =>
      obtain ⟨first, rest, rfl, digit⟩ := parted.head
      rw [String.toList_ofList]
      exact ⟨unquoted?_signed false digit, stripNumber_of_all (plain parted), false, _, _,
        splitSign_signed false digit rest, parted, rfl⟩
  | plus parted =>
      rw [String.toList_ofList]
      refine ⟨unquoted?_none (by decide) (by decide), ?_, false, _, _, rfl, parted, rfl⟩
      exact stripNumber_of_all (List.forall_mem_cons.mpr ⟨by decide, plain parted⟩)
  | minus parted =>
      rw [String.toList_ofList]
      refine ⟨unquoted?_none (by decide) (by decide), ?_, true, _, _, rfl, parted, rfl⟩
      exact stripNumber_of_all (List.forall_mem_cons.mpr ⟨by decide, plain parted⟩)

/-- An integer literal is read as the nearest float of its number. -/
theorem readNumber (literal : IntegerLiteral text n) {negative : Bool} {row digits : List Char}
    (split : splitSign text.toList = (negative, row)) (parted : DigitsParted row digits) :
    Binary64.read? text = some (Decimal.toBinary64 ⟨negative, Nat.ofDigitChars 10 digits 0, 0⟩) := by
  obtain ⟨-, stripped, -⟩ := literal.parts
  obtain ⟨first, rest, rfl, digit⟩ := parted.head
  have noPower : splitAt? (fun c => c = 'e' || c = 'E') (first :: rest) = (first :: rest, none) := by
    refine splitAt?_none fun c member => ?_
    rcases parted.each c member with rfl | digit
    · rfl
    · exact AreDigits.noPower (List.forall_mem_singleton.mpr digit) c List.mem_cons_self
  have noPoint : splitAt? (· = '.') (first :: rest) = (first :: rest, none) := by
    refine splitAt?_none fun c member => ?_
    rcases parted.each c member with rfl | digit
    · rfl
    · exact AreDigits.noPoint (List.forall_mem_singleton.mpr digit) c List.mem_cons_self
  rw [Binary64.read?_split digit (by rw [stripped, split]), decimal?_parts negative noPower noPoint
    parted.digitRow?_eq rfl rfl (by simpa using parted.ne_nil), List.append_nil, numberOfDigits_map]
  rfl

/-- A literal is read as its integer, or as a rounded number where it has too many digits. -/
theorem read (literal : IntegerLiteral text n) :
    readDefault text = .int n ∨ ∃ negative number,
      n = (if negative then -(number : Int) else number) ∧
      readDefault text = .float (Decimal.toBinary64 ⟨negative, number, 0⟩) := by
  obtain ⟨unquoted, stripped, negative, row, digits, split, parted, same⟩ := literal.parts
  have number := literal.readNumber split parted
  rw [readDefault, unquoted, IntegerText.read, stripped, split, number]
  simp only [parted.digitRow?_eq, List.length_map, numberOfDigits_map]
  by_cases long : digitLimit < digits.length
  · rw [if_pos long]
    exact .inr ⟨negative, _, same, rfl⟩
  · rw [if_neg long, ← same]
    exact .inl rfl

end IntegerLiteral

namespace Binary64

/-- Only zeros equal a zero. -/
theorem equal_isZero {first : Binary64} (zero : first.isZero = true) (x : Binary64) :
    x.equal first = x.isZero := by
  by_cases same : x = first
  · rw [same, zero]
    cases first with
    | finite sign rank => simp [equal, isNan]
    | nan => cases zero
    | infinite sign => cases zero
  · rw [equal, beq_false_of_ne same, zero]
    cases x <;> simp [isNan, isZero]

/-- Where an integer has a number, its digits are rounded to it but for the sign of a zero. Where it has
none, they are rounded to an infinity. -/
theorem toBinary64_whole {n : Int} {negative : Bool} {number : Nat}
    (same : n = if negative then -(number : Int) else number) :
    (∀ rounded, ofInt? n = some rounded →
      ∀ x : Binary64, x.equal (Decimal.toBinary64 ⟨negative, number, 0⟩) = x.equal rounded) ∧
    (ofInt? n = none → ∃ sign, Decimal.toBinary64 ⟨negative, number, 0⟩ = .infinite sign) := by
  have magnitude : n.natAbs = number := by
    rw [same]
    split <;> omega
  by_cases zero : number = 0
  · have rounds : ofInt? n = some (.zero false) := by
      obtain rfl : n = 0 := by omega
      decide +kernel
    rw [Decimal.toBinary64, if_pos zero, rounds]
    refine ⟨?_, by simp⟩
    rintro _ ⟨⟩ x
    rw [equal_isZero rfl, equal_isZero rfl]
  have sign : decide (n < 0) = negative := by
    rw [same]
    cases negative with
    | true => simp; omega
    | false => simp
  have size : (0 : Int) + (Decimal.digitCount number : Nat) = Decimal.digitCount number := by omega
  simp only [Decimal.toBinary64, if_neg zero, size]
  -- Numbers with this many digits are infinite for the reader of decimals as well as for the other one.
  by_cases long : 400 < Decimal.digitCount number
  · have none : ofInt? n = none := by
      rw [← Option.not_isSome_iff_eq_none]
      intro rounds
      have short := toDigits_le_of_ofInt? rounds
      rw [magnitude] at short
      exact absurd long (Nat.not_lt.mpr short)
    rw [if_pos (by omega), none]
    exact ⟨by simp, fun _ => ⟨negative, rfl⟩⟩
  · rw [if_neg (by omega), if_neg (by omega), if_pos (Int.le_refl 0), Int.toNat_zero, Nat.pow_eq,
      Nat.pow_zero, Nat.mul_one, ofRatio, ofRank]
    constructor
    · intro rounded rounds x
      obtain ⟨inRange, rfl⟩ := ofInt?_eq_some.mp rounds
      simp only [magnitude, sign] at inRange ⊢
      rw [dif_pos inRange]
    · intro none
      refine ⟨negative, dif_neg fun inRange => ?_⟩
      have some := ofInt?_eq_some.mpr ⟨by rwa [magnitude], rfl⟩
      exact Option.some_ne_none _ (some.symm.trans none)

/-- Numbers of integers that are equal are the same. -/
theorem roundedAlike_of_equal {n m : Int} {first second : Binary64} (rounds : ofInt? n = some first)
    (others : ofInt? m = some second) (equal : first.equal second = true) : RoundedAlike n m := by
  have zero {n : Int} {rounded : Binary64} (rounds : ofInt? n = some rounded)
      (none : rounded.isZero = true) : n = 0 := by
    obtain ⟨inRange, rfl⟩ := ofInt?_eq_some.mp rounds
    have alone : Alone 0 := .inl (by decide)
    have same := alone.only ((beq_iff_eq.mp none : nearestRank n.natAbs 1 = 0).trans nearestRank_zero.symm)
    omega
  by_cases same : first = second
  · exact ⟨first, rounds, same ▸ others⟩
  · rw [Binary64.equal, beq_false_of_ne same] at equal
    simp only [Bool.false_or, Bool.and_eq_true] at equal
    obtain rfl := zero rounds equal.2.1
    obtain rfl := zero others equal.2.2
    exact ⟨first, rounds, rounds⟩

end Binary64

end Tabular
