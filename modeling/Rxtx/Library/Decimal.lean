import Mathlib.Data.List.TakeWhile

namespace Decimal

def padded (width n : Nat) : List Char :=
  List.replicate (width - (Nat.toDigits 10 n).length) ' ' ++ Nat.toDigits 10 n

def decimal : Int → List Char
  | .ofNat n => Nat.toDigits 10 n
  | .negSucc n => '-' :: Nat.toDigits 10 (n + 1)

def isSpace (c : Char) : Bool := c = ' ' || (9 ≤ c.toNat && c.toNat ≤ 13)

def number (text : List Char) : Option Nat :=
  let digits := text.takeWhile Char.isDigit
  if digits = [] then none else some (Nat.ofDigitChars 10 digits 0)

def scan (text : List Char) : Option Int :=
  match text.dropWhile isSpace with
  | '-' :: rest => (number rest).map fun n => -Int.ofNat n
  | '+' :: rest => (number rest).map Int.ofNat
  | rest => (number rest).map Int.ofNat

theorem number_append {digits rest : List Char} (all : ∀ c ∈ digits, c.isDigit = true)
    (some : digits ≠ []) (stop : rest.head?.all (!·.isDigit)) :
    number (digits ++ rest) = Option.some (Nat.ofDigitChars 10 digits 0) := by
  have none : rest.takeWhile Char.isDigit = [] := by
    cases rest with
    | nil => rfl
    | cons c rest =>
      rw [List.takeWhile_cons_of_neg]
      simpa using stop
  have leading : (digits ++ rest).takeWhile Char.isDigit = digits := by
    rw [List.takeWhile_append_of_pos all, none, List.append_nil]
  simp [number, leading, some]

theorem scan_of_digit {c : Char} (digit : c.isDigit = true) (rest : List Char) :
    scan (c :: rest) = (number (c :: rest)).map Int.ofNat := by
  have range : 48 ≤ c.toNat ∧ c.toNat ≤ 57 := Char.isDigit_iff_toNat.mp digit
  have notBlank : isSpace c = false := by
    have notSpace : c ≠ ' ' := by
      rintro rfl
      simp at range
    simp only [isSpace, notSpace, decide_false, Bool.false_or, Bool.and_eq_false_iff,
      decide_eq_false_iff_not]
    omega
  have notMinus : c ≠ '-' := by
    rintro rfl
    simp at range
  have notPlus : c ≠ '+' := by
    rintro rfl
    simp at range
  unfold scan
  rw [List.dropWhile_cons_of_neg (by simp [notBlank])]
  split
  next same => exact absurd (List.cons.inj same).1 notMinus
  next same => exact absurd (List.cons.inj same).1 notPlus
  next => rfl

theorem scan_blanks {blanks : List Char} (space : ∀ c ∈ blanks, isSpace c = true)
    (rest : List Char) : scan (blanks ++ rest) = scan rest := by
  unfold scan
  rw [List.dropWhile_append_of_pos space]

theorem scan_number {blanks digits rest : List Char} (space : ∀ c ∈ blanks, isSpace c = true)
    (all : ∀ c ∈ digits, c.isDigit = true) (some : digits ≠ [])
    (stop : rest.head?.all (!·.isDigit)) :
    scan (blanks ++ (digits ++ rest)) = Option.some (Nat.ofDigitChars 10 digits 0 : Int) := by
  have read := number_append all some stop
  rw [scan_blanks space]
  cases digits with
  | nil => exact absurd rfl some
  | cons c digits =>
    rw [List.cons_append] at read ⊢
    rw [scan_of_digit (all c List.mem_cons_self), read]
    rfl

theorem scan_padded (width n : Nat) {rest : List Char} (stop : rest.head?.all (!·.isDigit)) :
    scan (padded width n ++ rest) = some (n : Int) := by
  have blanks : ∀ c ∈ List.replicate (width - (Nat.toDigits 10 n).length) ' ',
      isSpace c = true := by
    intro c member
    rw [List.eq_of_mem_replicate member]
    decide
  have digits : ∀ c ∈ Nat.toDigits 10 n, c.isDigit = true :=
    fun c member => Nat.isDigit_of_mem_toDigits (by decide) (by decide) member
  rw [padded, List.append_assoc, scan_number blanks digits Nat.toDigits_ne_nil stop,
    Nat.ofDigitChars_ten_toDigits]

def dropSign : List Char → List Char
  | '-' :: rest => rest
  | '+' :: rest => rest
  | rest => rest

def unsigned (text : List Char) : List Char := dropSign (text.dropWhile isSpace)

def negative (text : List Char) : Bool := (text.dropWhile isSpace).head? = some '-'

def numeral (text : List Char) : List Char := (unsigned text).takeWhile Char.isDigit

def afterNumeral (text : List Char) : List Char := (unsigned text).dropWhile Char.isDigit

def signed (text digits : List Char) : Int :=
  if negative text then -(Nat.ofDigitChars 10 digits 0 : Int) else Nat.ofDigitChars 10 digits 0

theorem dropSign_other {c : Char} (minus : c ≠ '-') (plus : c ≠ '+') (rest : List Char) :
    dropSign (c :: rest) = c :: rest := by
  unfold dropSign
  split
  next same => exact absurd (List.cons.inj same).1 minus
  next same => exact absurd (List.cons.inj same).1 plus
  next => rfl

theorem dropSign_append {text : List Char} (some : text ≠ []) (tail : List Char) :
    dropSign (text ++ tail) = dropSign text ++ tail := by
  cases text with
  | nil => exact absurd rfl some
  | cons c rest =>
    by_cases minus : c = '-'
    · subst minus
      rfl
    · by_cases plus : c = '+'
      · subst plus
        rfl
      · rw [List.cons_append, dropSign_other minus plus, dropSign_other minus plus,
          List.cons_append]

theorem scan_unsigned (text : List Char) : scan text =
    (number (unsigned text)).map fun n : Nat => if negative text then -(n : Int) else n := by
  unfold scan unsigned negative
  cases text.dropWhile isSpace with
  | nil => rfl
  | cons c rest =>
    by_cases minus : c = '-'
    · subst minus
      rfl
    · by_cases plus : c = '+'
      · subst plus
        rfl
      · rw [dropSign_other minus plus, List.head?_cons]
        simp only [Option.some.injEq, minus, decide_false]
        split
        next same => exact absurd (List.cons.inj same).1 minus
        next same => exact absurd (List.cons.inj same).1 plus
        next => rfl

theorem scan_eq (text : List Char) :
    scan text = if numeral text = [] then none else some (signed text (numeral text)) := by
  have read : number (unsigned text) = if numeral text = [] then none
      else some (Nat.ofDigitChars 10 (numeral text) 0) := rfl
  rw [scan_unsigned, read]
  by_cases none : numeral text = []
  · rw [if_pos none, if_pos none]
    rfl
  · rw [if_neg none, if_neg none]
    rfl

theorem scan_append {text : List Char} (some : numeral text ≠ []) (tail : List Char) :
    scan (text ++ tail) = Option.some (signed text
      (if afterNumeral text = [] then numeral text ++ tail.takeWhile Char.isDigit
        else numeral text)) := by
  have shown : text.dropWhile isSpace ≠ [] := by
    intro none
    simp [numeral, unsigned, none, dropSign] at some
  have kept : (text ++ tail).dropWhile isSpace = text.dropWhile isSpace ++ tail := by
    rw [List.dropWhile_append, if_neg (by simpa using shown)]
  have sign : negative (text ++ tail) = negative text := by
    unfold negative
    rw [kept, List.head?_append, List.head?_eq_some_head shown]
    rfl
  have digits : numeral (text ++ tail) =
      if afterNumeral text = [] then numeral text ++ tail.takeWhile Char.isDigit
      else numeral text := by
    unfold numeral afterNumeral unsigned
    rw [kept, dropSign_append shown]
    generalize dropSign (text.dropWhile isSpace) = rest
    rw [List.takeWhile_append]
    by_cases all : ∀ c ∈ rest, c.isDigit = true
    · have whole : rest.takeWhile Char.isDigit = rest := List.takeWhile_eq_self_iff.mpr all
      rw [whole, if_pos rfl, if_pos (List.dropWhile_eq_nil_iff.mpr all)]
    · have cut : (rest.takeWhile Char.isDigit).length ≠ rest.length := by
        intro same
        apply all
        rw [← List.takeWhile_eq_self_iff]
        exact (List.takeWhile_prefix _).eq_of_length same
      rw [if_neg cut, if_neg (mt List.dropWhile_eq_nil_iff.mp all)]
  have found : numeral (text ++ tail) ≠ [] := by
    rw [digits]
    split <;> simp [some]
  rw [scan_eq, if_neg found, digits, signed, sign]
  rfl

def zeroPadded (width : Nat) : Int → List Char
  | .ofNat n => List.replicate (width - (Nat.toDigits 10 n).length) '0' ++ Nat.toDigits 10 n
  | .negSucc n =>
    '-' :: (List.replicate (width - 1 - (Nat.toDigits 10 (n + 1)).length) '0' ++
      Nat.toDigits 10 (n + 1))

theorem ofDigitChars_zeros (k n : Nat) :
    Nat.ofDigitChars 10 (List.replicate k '0' ++ Nat.toDigits 10 n) 0 = n := by
  rw [Nat.ofDigitChars_append, Nat.ofDigitChars_replicate_zero, Nat.mul_zero,
    Nat.ofDigitChars_ten_toDigits]

theorem isDigit_of_mem_zeros {k n : Nat} {c : Char}
    (member : c ∈ List.replicate k '0' ++ Nat.toDigits 10 n) : c.isDigit = true := by
  rcases List.mem_append.mp member with zero | digit
  · rw [List.eq_of_mem_replicate zero]
    decide
  · exact Nat.isDigit_of_mem_toDigits (by decide) (by decide) digit

theorem minus_not_digit {k n : Nat} {rest : List Char} :
    List.replicate k '0' ++ Nat.toDigits 10 n ≠ '-' :: rest := by
  intro same
  have digit : '-'.isDigit = true := isDigit_of_mem_zeros (k := k) (n := n) (by simp [same])
  exact absurd digit (by decide)

theorem zeroPadded_injective (width : Nat) : Function.Injective (zeroPadded width) := by
  intro a b same
  cases a with
  | ofNat n =>
    cases b with
    | ofNat m =>
      have read := congrArg (fun text => Nat.ofDigitChars 10 text 0) same
      simp only [zeroPadded, ofDigitChars_zeros] at read
      rw [read]
    | negSucc m => exact absurd same minus_not_digit
  | negSucc n =>
    cases b with
    | ofNat m => exact absurd same.symm minus_not_digit
    | negSucc m =>
      have read := congrArg (fun text => Nat.ofDigitChars 10 text 0) (List.cons.inj same).2
      simp only [ofDigitChars_zeros] at read
      rw [Nat.succ.inj read]

theorem not_mem_zeroPadded {width : Nat} {n : Int} {c : Char} (notDigit : c.isDigit = false)
    (notMinus : c ≠ '-') : c ∉ zeroPadded width n := by
  intro member
  cases n with
  | ofNat n =>
    rw [isDigit_of_mem_zeros member] at notDigit
    cases notDigit
  | negSucc n =>
    rcases List.mem_cons.mp member with sign | digit
    · exact notMinus sign
    · rw [isDigit_of_mem_zeros digit] at notDigit
      cases notDigit

end Decimal
