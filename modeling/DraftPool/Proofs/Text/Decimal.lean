import DraftPool.Text.Decimal
import DraftPool.Text.WhiteSpace

/-
Reading a signed decimal integer within bounds. The main statement is `readInt64_trim_grammar`.
-/

namespace DraftPool.Text

section Bounds

variable (lo hi : Int)

/-- A magnitude lies within the bound of its sign. -/
def Fits (negative : Bool) (magnitude : Nat) : Prop :=
  if negative then lo ≤ -(magnitude : Int) else (magnitude : Int) ≤ hi

/-- The fault of a digit that takes the magnitude past the bound of its sign. -/
def overflowFault (negative : Bool) : DecimalError :=
  if negative then .tooSmall else .tooLarge

/-- A magnitude with its sign. -/
def signed (negative : Bool) (magnitude : Nat) : Int :=
  if negative then -(magnitude : Int) else magnitude

/-- The first fault of digits read onto the magnitude `acc`. -/
def FirstFault (negative : Bool) (acc : Nat) (cs : List Char) (e : DecimalError) : Prop :=
  ∃ pre c post, cs = pre ++ c :: post ∧ (∀ d ∈ pre, d.isDigit) ∧
    Fits lo hi negative (Nat.ofDigitChars 10 pre acc) ∧
    ((c.isDigit = false ∧ e = .invalidDigit) ∨
      (c.isDigit ∧ ¬ Fits lo hi negative (Nat.ofDigitChars 10 (pre ++ [c]) acc) ∧
        e = overflowFault negative))

instance (negative : Bool) (magnitude : Nat) : Decidable (Fits lo hi negative magnitude) :=
  inferInstanceAs (Decidable (if negative then lo ≤ -(magnitude : Int) else (magnitude : Int) ≤ hi))

variable {lo hi}

theorem Fits.of_le {negative : Bool} {m m' : Nat} (fits : Fits lo hi negative m') (le : m ≤ m') :
    Fits lo hi negative m := by
  unfold Fits at fits ⊢
  cases negative
  · simp only [Bool.false_eq_true, if_false] at fits ⊢
    omega
  · simp only [if_true] at fits ⊢
    omega

theorem fits_zero (below : lo ≤ 0) (above : 0 ≤ hi) (negative : Bool) : Fits lo hi negative 0 := by
  unfold Fits
  cases negative <;> simp [below, above]

/-- Within the bounds, a fitting magnitude with its sign is an integer between them. -/
theorem fits_iff_signed (below : lo ≤ 0) (above : 0 ≤ hi) (negative : Bool) (m : Nat) :
    Fits lo hi negative m ↔ lo ≤ signed negative m ∧ signed negative m ≤ hi := by
  unfold Fits signed
  cases negative
  · simp only [Bool.false_eq_true, if_false]
    omega
  · simp only [if_true]
    omega

end Bounds

/-- Digits read after others only make the magnitude larger. -/
theorem ofDigitChars_le_append (pre post : List Char) (acc : Nat) :
    Nat.ofDigitChars 10 pre acc ≤ Nat.ofDigitChars 10 (pre ++ post) acc := by
  rw [Nat.ofDigitChars_append, Nat.ofDigitChars_eq_ofDigitChars_zero (l := post)]
  have positive : 0 < 10 ^ post.length := Nat.pow_pos (by decide)
  calc Nat.ofDigitChars 10 pre acc
      ≤ 10 ^ post.length * Nat.ofDigitChars 10 pre acc := Nat.le_mul_of_pos_left _ positive
    _ ≤ _ := Nat.le_add_right _ _

/-- The magnitude of digits is read one digit after another. -/
theorem ofDigitChars_cons_step (c : Char) (cs : List Char) (acc : Nat) :
    Nat.ofDigitChars 10 (c :: cs) acc = Nat.ofDigitChars 10 cs (Nat.ofDigitChars 10 [c] acc) :=
  Nat.ofDigitChars_append (l := [c]) acc

/-! Reading digits, one character at a time. -/

section Digits

variable {lo hi : Int} {negative : Bool} {acc : Nat}

theorem readDigits_cons_of_not_isDigit {c : Char} (notDigit : c.isDigit = false)
    (rest : List Char) : readDigits lo hi negative acc (c :: rest) = .error .invalidDigit := by
  simp [readDigits, notDigit]

theorem readDigits_cons_of_isDigit {c : Char} (digit : c.isDigit = true) (rest : List Char) :
    readDigits lo hi negative acc (c :: rest) =
      if Fits lo hi negative (Nat.ofDigitChars 10 [c] acc) then
        readDigits lo hi negative (Nat.ofDigitChars 10 [c] acc) rest
      else .error (overflowFault negative) := by
  have next : acc * 10 + (c.toNat - '0'.toNat) = Nat.ofDigitChars 10 [c] acc := by
    rw [Nat.ofDigitChars_cons, Nat.ofDigitChars_nil, Nat.mul_comm]
  rw [readDigits, if_pos digit]
  simp only [next]
  cases negative
  · simp only [Fits, overflowFault, Bool.false_and, Bool.not_false, Bool.true_and,
      Bool.false_eq_true, decide_eq_true_eq, if_false]
    by_cases fits : ((Nat.ofDigitChars 10 [c] acc : Nat) : Int) ≤ hi
    · rw [if_neg (Int.not_lt.2 fits), if_pos fits]
    · rw [if_pos (Int.lt_of_not_ge fits), if_neg fits]
  · simp only [Fits, overflowFault, Bool.true_and, Bool.not_true, Bool.false_and,
      Bool.false_eq_true, decide_eq_true_eq, if_false, if_true]
    by_cases fits : lo ≤ -((Nat.ofDigitChars 10 [c] acc : Nat) : Int)
    · rw [if_neg (Int.not_lt.2 fits), if_pos fits]
    · rw [if_pos (Int.lt_of_not_ge fits), if_neg fits]

/-- A first digit that keeps within the bound of digits that all fit. -/
theorem fits_first {c : Char} {rest : List Char}
    (fits : Fits lo hi negative (Nat.ofDigitChars 10 (c :: rest) acc)) :
    Fits lo hi negative (Nat.ofDigitChars 10 [c] acc) :=
  fits.of_le (ofDigitChars_le_append [c] rest acc)

/-- Digits whose magnitude fits are read whole. -/
theorem readDigits_of_digits {cs : List Char} (digits : ∀ d ∈ cs, d.isDigit)
    (fits : Fits lo hi negative (Nat.ofDigitChars 10 cs acc)) :
    readDigits lo hi negative acc cs = .ok (signed negative (Nat.ofDigitChars 10 cs acc)) := by
  induction cs generalizing acc with
  | nil => cases negative <;> rfl
  | cons c rest inductionHypothesis =>
    have digit := digits c List.mem_cons_self
    rw [readDigits_cons_of_isDigit digit, if_pos (fits_first fits), ofDigitChars_cons_step]
    rw [ofDigitChars_cons_step] at fits
    exact inductionHypothesis (fun d member => digits d (List.mem_cons_of_mem c member)) fits

/-- Reading stops at the first fault with its error. -/
theorem readDigits_of_firstFault {cs : List Char} {e : DecimalError}
    (fault : FirstFault lo hi negative acc cs e) : readDigits lo hi negative acc cs = .error e := by
  obtain ⟨pre, c, post, rfl, digits, fits, faulty⟩ := fault
  induction pre generalizing acc with
  | nil =>
    rcases faulty with ⟨notDigit, rfl⟩ | ⟨digit, past, rfl⟩
    · exact readDigits_cons_of_not_isDigit notDigit post
    · rw [List.nil_append] at past
      rw [List.nil_append, readDigits_cons_of_isDigit digit, if_neg past]
  | cons d pre inductionHypothesis =>
    have digit := digits d List.mem_cons_self
    rw [List.cons_append, readDigits_cons_of_isDigit digit, if_pos (fits_first fits)]
    rw [ofDigitChars_cons_step] at fits
    rw [List.cons_append, ofDigitChars_cons_step] at faulty
    exact inductionHypothesis (fun x member => digits x (List.mem_cons_of_mem d member)) fits faulty

/-- From a magnitude that fits, digits are either all read or meet a first fault. -/
theorem digits_or_firstFault (fitsAcc : Fits lo hi negative acc) (cs : List Char) :
    ((∀ d ∈ cs, d.isDigit) ∧ Fits lo hi negative (Nat.ofDigitChars 10 cs acc)) ∨
      ∃ e, FirstFault lo hi negative acc cs e := by
  unfold FirstFault
  induction cs generalizing acc with
  | nil => exact .inl ⟨(fun _ member => nomatch member), fitsAcc⟩
  | cons c rest inductionHypothesis =>
    cases digit : c.isDigit
    · exact .inr ⟨.invalidDigit, [], c, rest, rfl, (fun _ member => nomatch member), fitsAcc,
        .inl ⟨digit, rfl⟩⟩
    · by_cases first : Fits lo hi negative (Nat.ofDigitChars 10 [c] acc)
      · rw [ofDigitChars_cons_step]
        rcases inductionHypothesis first with ⟨digits, fits⟩ | ⟨e, pre, d, post, split, digits, fits, faulty⟩
        · refine .inl ⟨?_, fits⟩
          intro x member
          rcases List.mem_cons.1 member with rfl | later
          · exact digit
          · exact digits x later
        · -- the fault of the rest, with this digit put in front
          refine .inr ⟨e, c :: pre, d, post, by rw [split]; rfl, ?_, ?_, ?_⟩
          · intro x member
            rcases List.mem_cons.1 member with rfl | later
            · exact digit
            · exact digits x later
          · rwa [ofDigitChars_cons_step]
          · rwa [List.cons_append, ofDigitChars_cons_step]
      · exact .inr ⟨overflowFault negative, [], c, rest, rfl, (fun _ member => nomatch member),
          fitsAcc, .inr ⟨digit, first, rfl⟩⟩

/-- Reading digits gives a value exactly when they are all digits and their magnitude fits. -/
theorem readDigits_eq_ok_iff (fitsAcc : Fits lo hi negative acc) {cs : List Char} {n : Int} :
    readDigits lo hi negative acc cs = .ok n ↔
      (∀ d ∈ cs, d.isDigit) ∧ Fits lo hi negative (Nat.ofDigitChars 10 cs acc) ∧
        n = signed negative (Nat.ofDigitChars 10 cs acc) := by
  constructor
  · intro read
    rcases digits_or_firstFault fitsAcc cs with ⟨digits, fits⟩ | ⟨e, fault⟩
    · rw [readDigits_of_digits digits fits] at read
      exact ⟨digits, fits, (Except.ok.inj read).symm⟩
    · rw [readDigits_of_firstFault fault] at read
      cases read
  · rintro ⟨digits, fits, rfl⟩
    exact readDigits_of_digits digits fits

/-- Reading digits fails exactly at their first fault, with its error. -/
theorem readDigits_eq_error_iff (fitsAcc : Fits lo hi negative acc) {cs : List Char}
    {e : DecimalError} :
    readDigits lo hi negative acc cs = .error e ↔ FirstFault lo hi negative acc cs e := by
  constructor
  · intro read
    rcases digits_or_firstFault fitsAcc cs with ⟨digits, fits⟩ | ⟨found, fault⟩
    · rw [readDigits_of_digits digits fits] at read
      cases read
    · rw [readDigits_of_firstFault fault] at read
      cases read
      exact fault
  · exact readDigits_of_firstFault

end Digits

/-! A text: its sign, then its digits. -/

/-- The sign a text starts with, if any, and the characters after it. -/
def splitSign : List Char → List Char × List Char
  | '+' :: rest => (['+'], rest)
  | '-' :: rest => (['-'], rest)
  | cs => ([], cs)

theorem splitSign_append (cs : List Char) : (splitSign cs).1 ++ (splitSign cs).2 = cs := by
  unfold splitSign
  split <;> rfl

theorem splitSign_sign (cs : List Char) :
    (splitSign cs).1 = [] ∨ (splitSign cs).1 = ['+'] ∨ (splitSign cs).1 = ['-'] := by
  unfold splitSign
  split
  · exact .inr (.inl rfl)
  · exact .inr (.inr rfl)
  · exact .inl rfl

/-- A sign followed by digits splits into them. -/
theorem splitSign_sign_append {sign digits : List Char}
    (isSign : sign = [] ∨ sign = ['+'] ∨ sign = ['-']) (startsDigit : ∀ d ∈ digits.head?, d.isDigit) :
    splitSign (sign ++ digits) = (sign, digits) := by
  rcases isSign with rfl | rfl | rfl
  · cases digits with
    | nil => rfl
    | cons d rest =>
      have digit : d.isDigit = true := startsDigit d rfl
      have notPlus : d ≠ '+' := by rintro rfl; exact absurd digit (by decide)
      have notMinus : d ≠ '-' := by rintro rfl; exact absurd digit (by decide)
      unfold splitSign
      split
      · rename_i same
        exact absurd (List.cons.inj same).1 notPlus
      · rename_i same
        exact absurd (List.cons.inj same).1 notMinus
      · rfl
  · rfl
  · rfl

/-- A text is read as its sign and the digits after it. -/
theorem readInteger_eq (lo hi : Int) (s : String) :
    readInteger lo hi s =
      if s.toList = [] then .error .empty
      else if (splitSign s.toList).2 = [] then .error .invalidDigit
      else readDigits lo hi ((splitSign s.toList).1 == ['-']) 0 (splitSign s.toList).2 := by
  unfold readInteger
  split <;> simp_all [splitSign]

section Text

variable {lo hi : Int} (below : lo ≤ 0) (above : 0 ≤ hi)
include below above

/-- A text reads as `n` exactly when it is an optional sign and one or more digits whose value,
with the sign, is `n` and lies within the bounds. -/
theorem readInteger_eq_ok_iff (s : String) (n : Int) :
    readInteger lo hi s = .ok n ↔
      ∃ sign digits, s.toList = sign ++ digits ∧ (sign = [] ∨ sign = ['+'] ∨ sign = ['-']) ∧
        digits ≠ [] ∧ (∀ d ∈ digits, d.isDigit) ∧
        n = signed (sign == ['-']) (Nat.ofDigitChars 10 digits 0) ∧ lo ≤ n ∧ n ≤ hi := by
  rw [readInteger_eq]
  constructor
  · intro read
    split at read
    · cases read
    split at read
    · cases read
    rename_i _ someDigits
    obtain ⟨digits, fits, rfl⟩ := (readDigits_eq_ok_iff (fits_zero below above _)).1 read
    exact ⟨_, _, (splitSign_append _).symm, splitSign_sign _, someDigits, digits, rfl,
      (fits_iff_signed below above _ _).1 fits⟩
  · rintro ⟨sign, digits, text, isSign, someDigits, allDigits, rfl, inBounds⟩
    have split : splitSign s.toList = (sign, digits) := by
      rw [text]
      exact splitSign_sign_append isSign fun d first => allDigits d (List.mem_of_head? first)
    have nonempty : s.toList ≠ [] := by
      rw [text]
      exact List.append_ne_nil_of_right_ne_nil sign someDigits
    rw [if_neg nonempty, split, if_neg someDigits]
    exact readDigits_of_digits allDigits ((fits_iff_signed below above _ _).2 inBounds)

/-- A text fails to read as an integer exactly when it is empty, a lone sign, or meets a first
fault after its sign. -/
theorem readInteger_eq_error_iff (s : String) (e : DecimalError) :
    readInteger lo hi s = .error e ↔
      (s.toList = [] ∧ e = .empty) ∨ (s.toList ≠ [] ∧ (splitSign s.toList).2 = [] ∧ e = .invalidDigit) ∨
        FirstFault lo hi ((splitSign s.toList).1 == ['-']) 0 (splitSign s.toList).2 e := by
  rw [readInteger_eq]
  -- a first fault needs a character after the sign
  have faultNonempty {cs : List Char} {negative : Bool} (fault : FirstFault lo hi negative 0 cs e) :
      cs ≠ [] := by
    obtain ⟨pre, c, post, rfl, -⟩ := fault
    simp
  by_cases empty : s.toList = []
  · rw [if_pos empty]
    have noDigits : (splitSign s.toList).2 = [] := by rw [empty]; rfl
    constructor
    · intro read
      cases read
      exact .inl ⟨empty, rfl⟩
    · rintro (⟨-, rfl⟩ | ⟨nonempty, -⟩ | fault)
      · rfl
      · exact absurd empty nonempty
      · exact absurd noDigits (faultNonempty fault)
  · rw [if_neg empty]
    by_cases loneSign : (splitSign s.toList).2 = []
    · rw [if_pos loneSign]
      constructor
      · intro read
        cases read
        exact .inr (.inl ⟨empty, loneSign, rfl⟩)
      · rintro (⟨nonempty, -⟩ | ⟨-, -, rfl⟩ | fault)
        · exact absurd nonempty empty
        · rfl
        · exact absurd loneSign (faultNonempty fault)
    · rw [if_neg loneSign, readDigits_eq_error_iff (fits_zero below above _)]
      constructor
      · exact fun fault => .inr (.inr fault)
      · rintro (⟨nonempty, -⟩ | ⟨-, noDigits, -⟩ | fault)
        · exact absurd nonempty empty
        · exact absurd noDigits loneSign
        · exact fault

end Text

/-! Trimming, and the decimal form of an integer. -/

/-- `t` is `cs` without the white space at its two ends: `cs` is white space, then `t`, then
white space, and `t` neither starts nor ends with white space. -/
def TrimmedOf (cs t : List Char) : Prop :=
  (∃ front back, cs = front ++ t ++ back ∧ (∀ c ∈ front, isWhiteSpace c) ∧
    ∀ c ∈ back, isWhiteSpace c) ∧
  (∀ c ∈ t.head?, isWhiteSpace c = false) ∧ ∀ c ∈ t.getLast?, isWhiteSpace c = false

theorem head?_dropLeadingWhiteSpace (cs : List Char) :
    ∀ c ∈ (dropLeadingWhiteSpace cs).head?, isWhiteSpace c = false := by
  intro c first
  have stops := List.head?_dropWhile_not isWhiteSpace cs
  rw [show (cs.dropWhile isWhiteSpace).head? = some c from first] at stops
  exact stops

theorem dropLeadingWhiteSpace_of_head? {cs : List Char}
    (notFirst : ∀ c ∈ cs.head?, isWhiteSpace c = false) : dropLeadingWhiteSpace cs = cs := by
  cases cs with
  | nil => rfl
  | cons c rest => exact List.dropWhile_cons_of_neg (by simp [notFirst c rfl])

/-- Trimming drops exactly the white space at the two ends of a text. -/
theorem trimmedOf_trim (s : String) : TrimmedOf s.toList (trim s).toList := by
  -- the text after its leading white space, and that reversed without its trailing white space
  let kept := dropLeadingWhiteSpace s.toList
  let inner := dropLeadingWhiteSpace kept.reverse
  have trimmed : (trim s).toList = inner.reverse := by simp [trim, inner, kept]
  have front : s.toList = s.toList.takeWhile isWhiteSpace ++ kept :=
    List.takeWhile_append_dropWhile.symm
  have back : kept.reverse = kept.reverse.takeWhile isWhiteSpace ++ inner :=
    List.takeWhile_append_dropWhile.symm
  rw [trimmed]
  refine ⟨⟨s.toList.takeWhile isWhiteSpace, (kept.reverse.takeWhile isWhiteSpace).reverse, ?_,
    fun c member => List.all_eq_true.1 List.all_takeWhile c member,
    fun c member => List.all_eq_true.1 List.all_takeWhile c (List.mem_reverse.1 member)⟩, ?_, ?_⟩
  · have keptSplit : kept = inner.reverse ++ (kept.reverse.takeWhile isWhiteSpace).reverse := by
      rw [← List.reverse_append, ← back, List.reverse_reverse]
    rw [List.append_assoc, ← keptSplit]
    exact front
  · -- the first kept character is the first character after the leading white space
    intro c first
    rw [List.head?_reverse] at first
    have lastOfKept : kept.reverse.getLast? = some c := by
      rw [back, List.getLast?_append, first, Option.some_or]
    rw [List.getLast?_reverse] at lastOfKept
    exact head?_dropLeadingWhiteSpace s.toList c lastOfKept
  · intro c last
    rw [List.getLast?_reverse] at last
    exact head?_dropLeadingWhiteSpace kept.reverse c last

/-- A text that neither starts nor ends with white space is its own trim. -/
theorem trim_of_ends {s : String} (notFirst : ∀ c ∈ s.toList.head?, isWhiteSpace c = false)
    (notLast : ∀ c ∈ s.toList.getLast?, isWhiteSpace c = false) : trim s = s := by
  have notLastReversed : ∀ c ∈ s.toList.reverse.head?, isWhiteSpace c = false := by
    rw [List.head?_reverse]
    exact notLast
  unfold trim
  rw [dropLeadingWhiteSpace_of_head? notFirst, dropLeadingWhiteSpace_of_head? notLastReversed,
    List.reverse_reverse, String.ofList_toList]

/-- The decimal form of an integer: a minus sign when it is negative, then the digits of its
magnitude. -/
theorem toList_toString_int (n : Int) :
    (toString n).toList = (if n < 0 then ['-'] else []) ++ Nat.toDigits 10 n.natAbs := by
  simp only [Int.toString_eq_repr, Int.repr_eq_if]
  split
  · rename_i nonnegative
    have magnitude : n.toNat = n.natAbs := by omega
    simp [magnitude, show ¬ n < 0 by omega, Nat.toList_repr]
  · rename_i negative
    have magnitude : (-n).toNat = n.natAbs := by omega
    simp [magnitude, show n < 0 by omega, Nat.toList_repr]

theorem isWhiteSpace_of_isDigit {c : Char} (digit : c.isDigit = true) : isWhiteSpace c = false := by
  have range : 48 ≤ c.toNat ∧ c.toNat ≤ 57 := by
    simp only [Char.isDigit, Bool.and_eq_true, decide_eq_true_eq] at digit
    exact ⟨digit.1, digit.2⟩
  simp only [isWhiteSpace, whiteSpaceRanges, inRanges_cons, inRanges_nil]
  simp
  omega

/-- The decimal form of an integer has no white space to trim. -/
theorem trim_toString_int (n : Int) : trim (toString n) = toString n := by
  have digitsNotBlank : ∀ c ∈ Nat.toDigits 10 n.natAbs, isWhiteSpace c = false :=
    fun c member => isWhiteSpace_of_isDigit (Nat.isDigit_of_mem_toDigits (by decide) (by decide) member)
  apply trim_of_ends
  · -- it starts with a minus sign or a digit
    intro c first
    rw [toList_toString_int] at first
    split at first
    · rw [List.singleton_append, List.head?_cons, Option.mem_some_iff] at first
      rw [← first]
      decide
    · rw [List.nil_append] at first
      exact digitsNotBlank c (List.mem_of_head? first)
  · -- and ends with a digit
    intro c last
    rw [toList_toString_int, List.getLast?_append, List.getLast?_eq_some_getLast Nat.toDigits_ne_nil,
      Option.some_or, Option.mem_some_iff] at last
    rw [← last]
    exact digitsNotBlank _ (List.getLast_mem _)

section Text

variable {lo hi : Int} (below : lo ≤ 0) (above : 0 ≤ hi)
include below above

/-- An integer reads back from its decimal form exactly when it lies within the bounds. -/
theorem readInteger_toString (n : Int) : readInteger lo hi (toString n) = .ok n ↔ lo ≤ n ∧ n ≤ hi := by
  rw [readInteger_eq_ok_iff below above]
  constructor
  · rintro ⟨-, -, -, -, -, -, -, inBounds⟩
    exact inBounds
  · intro inBounds
    refine ⟨if n < 0 then ['-'] else [], Nat.toDigits 10 n.natAbs, toList_toString_int n, ?_,
      Nat.toDigits_ne_nil, fun d member => Nat.isDigit_of_mem_toDigits (by decide) (by decide) member,
      ?_, inBounds⟩
    · split
      · exact .inr (.inr rfl)
      · exact .inl rfl
    · rw [Nat.ofDigitChars_ten_toDigits]
      unfold signed
      split
      · rename_i negative
        rw [if_pos (by decide)]
        omega
      · rename_i nonnegative
        rw [if_neg (by decide)]
        omega

end Text

/-- Reading a source id: trimmed, then a signed 64-bit decimal integer. -/
theorem readInt64_trim_grammar (s : String) :
    TrimmedOf s.toList (trim s).toList ∧
    (∀ n, readInt64 (trim s) = .ok n ↔
      ∃ sign digits, (trim s).toList = sign ++ digits ∧ (sign = [] ∨ sign = ['+'] ∨ sign = ['-']) ∧
        digits ≠ [] ∧ (∀ d ∈ digits, d.isDigit) ∧
        n = signed (sign == ['-']) (Nat.ofDigitChars 10 digits 0) ∧ int64Min ≤ n ∧ n ≤ int64Max) ∧
    (∀ e, readInt64 (trim s) = .error e ↔
      ((trim s).toList = [] ∧ e = .empty) ∨
        ((trim s).toList ≠ [] ∧ (splitSign (trim s).toList).2 = [] ∧ e = .invalidDigit) ∨
        FirstFault int64Min int64Max ((splitSign (trim s).toList).1 == ['-']) 0
          (splitSign (trim s).toList).2 e) ∧
    ∀ n : Int, readInt64 (trim (toString n)) = .ok n ↔ int64Min ≤ n ∧ n ≤ int64Max := by
  have below : int64Min ≤ 0 := by decide
  have above : 0 ≤ int64Max := by decide
  refine ⟨trimmedOf_trim s, readInteger_eq_ok_iff below above (trim s),
    readInteger_eq_error_iff below above (trim s), fun n => ?_⟩
  rw [trim_toString_int]
  exact readInteger_toString below above n

-- the magnitude past the least integer, a lone sign after blanks, a base prefix
example : readInt64 (trim " -9223372036854775809 ") = .error .tooSmall := by rfl
example : readInt64 (trim "\t+") = .error .invalidDigit := by rfl
example : readInt64 (trim " 0x10") = .error .invalidDigit := by rfl

end DraftPool.Text
