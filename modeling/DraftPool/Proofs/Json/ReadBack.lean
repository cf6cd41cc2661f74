import DraftPool.Json.Reader
import DraftPool.Json.Writer
import Mathlib

/-
Reading what writing produces. The main statements are `ReadsBack.array`, `ReadsBack.object` and
`readSkimming_render`.
-/

namespace DraftPool.Json

/-- Text that may follow a value: nothing, or a comma or a closing bracket. -/
def Ends (rest : List Char) : Prop :=
  rest = [] ∨ ∃ c after, rest = c :: after ∧ (c = ',' ∨ c = ']' ∨ c = '}')

/-- A document that reads back from its text with a nesting budget. -/
structure ReadsBack (depth : Nat) (doc : Json) : Prop where
  opens : ∃ c cs, (render doc).toList = c :: cs ∧ isBlank c = false ∧ c ≠ ']' ∧ c ≠ '}'
  reads : ∀ fuel rest, (render doc).toList.length ≤ fuel → Ends rest →
    readValue depth fuel ((render doc).toList ++ rest) = .ok (doc, rest)

/-! Strings. -/

theorem hexValue_hexDigit : ∀ n : Fin 16, hexValue (hexDigit n) = some n := by
  decide

/-- A control character written as `\u00xx` reads back. -/
theorem readUnicodeEscape_control {c : Char} (control : c.toNat < 0x20) (more : List Char) :
    readUnicodeEscape ('0' :: '0' :: hexDigit (c.toNat / 16) :: hexDigit (c.toNat % 16) :: more) =
      .ok (c, more) := by
  have high := hexValue_hexDigit ⟨c.toNat / 16, by omega⟩
  have low := hexValue_hexDigit ⟨c.toNat % 16, by omega⟩
  have unit : c.toNat / 16 * 16 + c.toNat % 16 = c.toNat := by omega
  have zero : hexValue '0' = some 0 := rfl
  have notSurrogate : ¬ (0xD800 ≤ c.toNat ∧ c.toNat < 0xDC00) := by omega
  have notLow : ¬ (0xDC00 ≤ c.toNat ∧ c.toNat < 0xE000) := by omega
  simp only [readUnicodeEscape, readHex4, zero, high, low]
  simp [unit, notSurrogate, notLow, Char.ofNat_toNat, pure, Except.pure, bind, Except.bind]

/-- Reading one written character of a string gives the character back. -/
theorem readStringBody_escapeChar (c : Char) (acc : List Char) (fuel : Nat)
    (more : List Char) :
    readStringBody acc (fuel + 1) (escapeChar c ++ more) = readStringBody (c :: acc) fuel more := by
  unfold escapeChar
  split_ifs with quote backslash newline ret tab back feed control
  · subst quote; rfl
  · subst backslash; rfl
  · subst newline; rfl
  · subst ret; rfl
  · subst tab; rfl
  · subst back; rfl
  · subst feed; rfl
  · simp only [List.cons_append, List.nil_append, readStringBody, readUnicodeEscape_control control]
    simp
  · simp [readStringBody, quote, backslash, control]

/-- Reading the written characters of a string up to its closing quote gives them back. -/
theorem readStringBody_escaped (cs acc : List Char) (fuel : Nat) (rest : List Char)
    (enough : cs.length < fuel) :
    readStringBody acc fuel (cs.flatMap escapeChar ++ '"' :: rest) =
      .ok (String.ofList (acc.reverse ++ cs), rest) := by
  -- each character written costs one unit of fuel and goes onto the characters read
  induction cs generalizing acc fuel with
  | nil =>
    obtain ⟨fuel, rfl⟩ : ∃ left, fuel = left + 1 := ⟨fuel - 1, by simp at enough; omega⟩
    simp [readStringBody]
  | cons c cs inductionHypothesis =>
    obtain ⟨fuel, rfl⟩ : ∃ left, fuel = left + 1 := ⟨fuel - 1, by simp at enough; omega⟩
    rw [List.flatMap_cons, List.append_assoc, readStringBody_escapeChar,
      inductionHypothesis (c :: acc) fuel (by simpa using enough)]
    simp

theorem length_le_length_flatMap_escapeChar (cs : List Char) :
    cs.length ≤ (cs.flatMap escapeChar).length := by
  induction cs with
  | nil => simp
  | cons c cs inductionHypothesis =>
    have written : 1 ≤ (escapeChar c).length := by
      unfold escapeChar
      split_ifs <;> simp
    simp only [List.flatMap_cons, List.length_append, List.length_cons]
    omega

theorem renderString_toList (s : String) :
    (renderString s).toList = '"' :: (s.toList.flatMap escapeChar ++ ['"']) := by
  simp [renderString]

/-- A written string, after its opening quote, reads back. -/
theorem readString_escaped (s : String) (rest : List Char) :
    readString (s.toList.flatMap escapeChar ++ '"' :: rest) = .ok (s, rest) := by
  have longer := length_le_length_flatMap_escapeChar s.toList
  have enough : s.toList.length <
      (s.toList.flatMap escapeChar ++ '"' :: rest).length + 1 := by
    rw [List.length_append, List.length_cons]
    omega
  rw [readString, readStringBody_escaped _ _ _ _ enough]
  simp

theorem skipBlank_cons {c : Char} (unblank : isBlank c = false) (cs : List Char) :
    skipBlank (c :: cs) = c :: cs :=
  List.dropWhile_cons_of_neg (p := isBlank) (by simp [unblank])

theorem ReadsBack.string (depth : Nat) (s : String) : ReadsBack depth (.string s) where
  opens := ⟨'"', s.toList.flatMap escapeChar ++ ['"'], by simp [render, renderString_toList], rfl,
    by decide, by decide⟩
  reads fuel rest enough _ := by
    obtain ⟨fuel, rfl⟩ : ∃ left, fuel = left + 1 :=
      ⟨fuel - 1, by simp [render, renderString_toList] at enough; omega⟩
    simp only [render, renderString_toList, List.cons_append, List.append_assoc]
    rw [readValue, skipBlank_cons rfl]
    simp [readStringPart, readString_escaped]

/-! Integers. -/

theorem ends_not_digit {rest : List Char} (ends : Ends rest) :
    ∀ c after, rest = c :: after → c.isDigit = false ∧ c ≠ '.' ∧ c ≠ 'e' ∧ c ≠ 'E' := by
  rintro c after rfl
  rcases ends with empty | ⟨d, more, same, closing⟩
  · cases empty
  · obtain ⟨rfl, rfl⟩ := List.cons.inj same
    rcases closing with rfl | rfl | rfl <;> decide

/-- The decimal digits of a positive number do not start with a zero. -/
theorem toDigits_head_ne_zero {m : Nat} (positive : 0 < m) :
    ∃ c cs, Nat.toDigits 10 m = c :: cs ∧ c ≠ '0' := by
  induction m using Nat.strongRecOn with
  | ind m inductionHypothesis =>
    rw [Nat.toDigits_eq_if (by decide)]
    split
    · exact ⟨_, [], rfl, by simp; omega⟩
    · obtain ⟨c, cs, leading, nonzero⟩ := inductionHypothesis (m / 10) (by omega) (by omega)
      exact ⟨c, cs ++ [Nat.digitChar (m % 10)], by rw [leading]; rfl, nonzero⟩

theorem isDigit_of_mem_toDigits {m : Nat} {c : Char} (member : c ∈ Nat.toDigits 10 m) :
    c.isDigit = true :=
  Nat.isDigit_of_mem_toDigits (by decide) (by decide) member

theorem takeWhile_isDigit_toDigits (m : Nat) {rest : List Char} (ends : Ends rest) :
    (Nat.toDigits 10 m ++ rest).takeWhile Char.isDigit = Nat.toDigits 10 m ∧
      (Nat.toDigits 10 m ++ rest).dropWhile Char.isDigit = rest := by
  have stops : rest.takeWhile Char.isDigit = [] ∧ rest.dropWhile Char.isDigit = rest := by
    cases rest with
    | nil => simp
    | cons c after =>
      have notDigit := (ends_not_digit ends c after rfl).1
      simp [notDigit]
  rw [List.takeWhile_append_of_pos fun c member => isDigit_of_mem_toDigits member,
    List.dropWhile_append_of_pos fun c member => isDigit_of_mem_toDigits member]
  simpa using stops

/-- The integer part of a number is read up to the end of its digits. -/
theorem readIntegerPart_toDigits (m : Nat) {rest : List Char} (ends : Ends rest) :
    readIntegerPart (Nat.toDigits 10 m ++ rest) = .ok (Nat.toDigits 10 m, rest) := by
  rcases Nat.eq_zero_or_pos m with rfl | positive
  · -- a single zero, followed by no digit
    rw [Nat.toDigits_zero]
    cases rest with
    | nil => rfl
    | cons c after =>
      have notDigit := (ends_not_digit ends c after rfl).1
      simp [readIntegerPart, notDigit]
  · obtain ⟨c, cs, leading, nonzero⟩ := toDigits_head_ne_zero positive
    have digit : c.isDigit = true :=
      isDigit_of_mem_toDigits (m := m) (by rw [leading]; exact List.mem_cons_self)
    have ⟨taken, dropped⟩ := takeWhile_isDigit_toDigits m ends
    rw [leading] at taken dropped ⊢
    unfold readIntegerPart
    split
    · rename_i zero
      exact absurd (List.cons.inj zero).1 nonzero
    · rw [List.cons_append] at taken dropped ⊢
      simp only [readDigitRun, digit, if_true, taken, dropped]

/-- The digits of a number below `2^64` are taken whole. -/
theorem takeDigits_of_lt (sig : Nat) (ds : List Char) (fits : Nat.ofDigitChars 10 ds sig < Nat.pow 2 64) :
    takeDigits sig ds = (Nat.ofDigitChars 10 ds sig, ds.length) := by
  induction ds generalizing sig with
  | nil => simp [takeDigits]
  | cons d ds inductionHypothesis =>
    rw [Nat.ofDigitChars_cons] at fits ⊢
    have atLeast := @Nat.ofDigitChars_eq_ofDigitChars_zero ds (10 * sig + (d.toNat - '0'.toNat))
    have next : sig * 10 + (d.toNat - '0'.toNat) = 10 * sig + (d.toNat - '0'.toNat) := by omega
    have positivePower : 0 < 10 ^ ds.length := Nat.pow_pos (by decide)
    have fitsNext : 10 * sig + (d.toNat - '0'.toNat) < Nat.pow 2 64 := by
      have : 10 * sig + (d.toNat - '0'.toNat) ≤ 10 ^ ds.length * (10 * sig + (d.toNat - '0'.toNat)) :=
        Nat.le_mul_of_pos_left _ positivePower
      omega
    simp only [takeDigits, next, if_pos fitsNext, inductionHypothesis _ fits, List.length_cons]

theorem readFraction_of_ends {rest : List Char} (ends : Ends rest) :
    readFraction rest = .ok ([], rest) := by
  cases rest with
  | nil => rfl
  | cons c after =>
    have notPoint := (ends_not_digit ends c after rfl).2.1
    unfold readFraction
    split
    · rename_i point
      exact absurd (List.cons.inj point).1 notPoint
    · rfl

theorem readExponent_of_ends {rest : List Char} (ends : Ends rest) :
    readExponent rest = .ok (none, rest) := by
  cases rest with
  | nil => rfl
  | cons c after =>
    obtain ⟨-, -, notLower, notUpper⟩ := ends_not_digit ends c after rfl
    unfold readExponent
    split <;> first | rfl | simp_all

/-- The magnitude of an integer, with or without its sign, reads as the number it stands for. -/
theorem readNumber_digits (negative : Bool) (m : Nat) (fits : m < Nat.pow 2 64) {rest : List Char}
    (ends : Ends rest) :
    readNumber ((if negative then ['-'] else []) ++ Nat.toDigits 10 m ++ rest) =
      (integerNumber negative m).map fun number => (number, rest) := by
  obtain ⟨c, cs, leading⟩ := List.exists_cons_of_ne_nil (Nat.toDigits_ne_nil (n := m) (b := 10))
  have digit : c.isDigit = true := isDigit_of_mem_toDigits (m := m) (by rw [leading]; exact List.mem_cons_self)
  have taken := takeDigits_of_lt 0 (Nat.toDigits 10 m) (by rw [Nat.ofDigitChars_ten_toDigits]; exact fits)
  rw [Nat.ofDigitChars_ten_toDigits] at taken
  have notMinus : c ≠ '-' := by
    rintro rfl
    exact absurd digit (by decide)
  have text : Nat.toDigits 10 m ++ rest = c :: (cs ++ rest) := by rw [leading]; rfl
  unfold readNumber
  cases negative
  · simp only [Bool.false_eq_true, if_false, List.nil_append]
    rw [text]
    split
    · rename_i minus
      exact absurd (List.cons.inj minus).1 notMinus
    · rw [← text]
      dsimp only
      rw [readIntegerPart_toDigits m ends]
      simp only [bind, Except.bind, readFraction_of_ends ends, readExponent_of_ends ends, taken,
        List.isEmpty_nil, Option.isNone_none, Bool.and_self, if_true, Nat.sub_self]
      cases integerNumber false m <;> rfl
  · simp only [if_true, List.cons_append, List.nil_append]
    rw [readIntegerPart_toDigits m ends]
    simp only [bind, Except.bind, readFraction_of_ends ends, readExponent_of_ends ends, taken,
      List.isEmpty_nil, Option.isNone_none, Bool.and_self, if_true, Nat.sub_self]
    cases integerNumber true m <;> rfl

theorem render_int (n : Int) :
    (render (.int n)).toList = (if n < 0 then ['-'] else []) ++ Nat.toDigits 10 n.natAbs := by
  simp only [Json.int, render, renderNumber, Int.toString_eq_repr, Int.repr_eq_if]
  split
  · rename_i nonnegative
    have magnitude : n.toNat = n.natAbs := by omega
    simp [magnitude, show ¬ n < 0 by omega]
  · rename_i negative
    have magnitude : (-n).toNat = n.natAbs := by omega
    simp [magnitude, show n < 0 by omega]

/-- A character that starts a number is neither a blank, nor a closing bracket, nor the first
letter of a word. -/
theorem numberStart_ne {c : Char} (start : c = '-' ∨ c.isDigit = true) :
    isBlank c = false ∧ c ≠ ']' ∧ c ≠ '}' ∧ c ≠ 'n' ∧ c ≠ 't' ∧ c ≠ 'f' := by
  rcases start with rfl | digit
  · decide
  · have apart : ∀ d : Char, d.isDigit = false → c ≠ d := by
      rintro d notDigit rfl
      simp [digit] at notDigit
    refine ⟨?_, apart _ (by decide), apart _ (by decide), apart _ (by decide), apart _ (by decide),
      apart _ (by decide)⟩
    cases blank : isBlank c
    · rfl
    · simp only [isBlank, Bool.or_eq_true, decide_eq_true_eq] at blank
      rcases blank with ((same | same) | same) | same <;> exact absurd same (apart _ (by decide))

/-- A value that starts like a number is read as a number. -/
theorem readValue_of_numberStart (depth fuel : Nat) {c : Char} (cs : List Char)
    (start : c = '-' ∨ c.isDigit = true) :
    readValue depth (fuel + 1) (c :: cs) = readNumberPart (c :: cs) := by
  obtain ⟨unblank, -, -, notN, notT, notF⟩ := numberStart_ne start
  have numeric : (c = '-' || c.isDigit) = true := by
    rcases start with rfl | digit
    · rfl
    · simp [digit]
  rw [readValue, skipBlank_cons unblank]
  simp only [if_neg notN, if_neg notT, if_neg notF, if_pos numeric]

/-- An integer within the 64-bit ranges, signed or unsigned, reads back. -/
theorem ReadsBack.int (depth : Nat) {n : Int} (low : -2 ^ 63 ≤ n) (high : n < 2 ^ 64) :
    ReadsBack depth (.int n) := by
  obtain ⟨d, ds, leading⟩ := List.exists_cons_of_ne_nil (Nat.toDigits_ne_nil (n := n.natAbs) (b := 10))
  have digit : d.isDigit = true :=
    isDigit_of_mem_toDigits (m := n.natAbs) (by rw [leading]; exact List.mem_cons_self)
  -- the text starts with a sign or with the first digit
  have starts : ∃ c cs, (render (.int n)).toList = c :: cs ∧ (c = '-' ∨ c.isDigit = true) := by
    rw [render_int, leading]
    split
    · exact ⟨'-', _, rfl, .inl rfl⟩
    · exact ⟨d, ds, rfl, .inr digit⟩
  obtain ⟨c, cs, text, start⟩ := starts
  obtain ⟨unblank, notBracket, notBrace, -⟩ := numberStart_ne start
  refine ⟨⟨c, cs, text, unblank, notBracket, notBrace⟩, fun fuel rest enough ends => ?_⟩
  obtain ⟨fuel, rfl⟩ : ∃ left, fuel = left + 1 := ⟨fuel - 1, by simp [text] at enough; omega⟩
  have fits : n.natAbs < Nat.pow 2 64 := by simp only [Nat.pow_eq]; omega
  have read := readNumber_digits (decide (n < 0)) n.natAbs fits ends
  simp only [decide_eq_true_eq] at read
  rw [text, List.cons_append, readValue_of_numberStart _ _ _ start, ← List.cons_append, ← text,
    render_int, readNumberPart, read]
  by_cases negative : n < 0
  · have fitsBelow : n.natAbs ≤ Nat.pow 2 63 := by simp only [Nat.pow_eq]; omega
    have nonzero : n.natAbs ≠ 0 := by omega
    simp [negative, integerNumber, fitsBelow, nonzero, Except.map, Json.int, abs_of_neg]
  · simp [negative, integerNumber, fits, Except.map, Json.int, not_lt.1 negative]

/-! Arrays. -/

/-- The text of the items after the first, each written after a comma. -/
def itemsTail (items : List Json) : List Char :=
  items.flatMap fun item => ',' :: (render item).toList

theorem renderItems_cons_toList (item : Json) (rest : List Json) :
    (renderItems (item :: rest)).toList = (render item).toList ++ itemsTail rest := by
  induction rest generalizing item with
  | nil => simp [renderItems, itemsTail]
  | cons next rest inductionHypothesis =>
    simp [renderItems, inductionHypothesis, itemsTail]

/-- Inside a container, a value is followed by the next part after a comma, or by the closing
bracket or brace. -/
theorem ends_commaSeparated {α : Type} (text : α → List Char) (parts : List α) {close : Char}
    (closing : close = ']' ∨ close = '}') (rest : List Char) :
    Ends (parts.flatMap (fun part => ',' :: text part) ++ close :: rest) := by
  cases parts with
  | nil => exact .inr ⟨close, rest, rfl, .inr closing⟩
  | cons part parts =>
    exact .inr ⟨',', text part ++ (parts.flatMap (fun part => ',' :: text part) ++ close :: rest),
      by simp, .inl rfl⟩

/-- After a comma, an item that reads is taken onto the items read. -/
theorem readItems_comma {depth fuel : Nat} {acc : List Json} {c : Char} {cs more : List Char}
    {item : Json} (unblank : isBlank c = false) (notClose : c ≠ ']')
    (read : readValue depth fuel (c :: cs) = .ok (item, more)) :
    readItems depth (fuel + 1) acc (',' :: c :: cs) = readItems depth fuel (item :: acc) more := by
  rw [readItems, skipBlank_cons rfl]
  simp only [skipBlank_cons unblank]
  split
  · rename_i closing
    exact absurd (List.cons.inj closing).1 notClose
  · rename_i empty
    cases empty
  · rw [read]

theorem readItems_close (depth fuel : Nat) (acc : List Json) (rest : List Char) :
    readItems depth (fuel + 1) acc (']' :: rest) = .ok (.array acc.reverse, rest) := by
  simp only [readItems, skipBlank_cons (c := ']') rfl]

/-- The items after the first read back up to the closing bracket. -/
theorem readItems_itemsTail {depth : Nat} (items : List Json)
    (each : ∀ item ∈ items, ReadsBack depth item) (acc : List Json) (fuel : Nat) (rest : List Char)
    (enough : (itemsTail items).length < fuel) :
    readItems depth fuel acc (itemsTail items ++ ']' :: rest) =
      .ok (.array (acc.reverse ++ items), rest) := by
  -- each item costs its text and a comma in fuel, and goes onto the items read
  induction items generalizing acc fuel with
  | nil =>
    obtain ⟨fuel, rfl⟩ : ∃ left, fuel = left + 1 := ⟨fuel - 1, by simp [itemsTail] at enough; omega⟩
    simp [itemsTail, readItems_close]
  | cons item items inductionHypothesis =>
    have lengths : (itemsTail (item :: items)).length =
        1 + (render item).toList.length + (itemsTail items).length := by
      simp [itemsTail]
      omega
    obtain ⟨fuel, rfl⟩ : ∃ left, fuel = left + 1 := ⟨fuel - 1, by omega⟩
    have itemBack := each item List.mem_cons_self
    obtain ⟨c, cs, text, unblank, notClose, -⟩ := itemBack.opens
    have read := itemBack.reads fuel (itemsTail items ++ ']' :: rest) (by omega)
      (ends_commaSeparated _ items (.inl rfl) rest)
    rw [text, List.cons_append] at read
    have tail : itemsTail (item :: items) ++ ']' :: rest =
        ',' :: c :: (cs ++ (itemsTail items ++ ']' :: rest)) := by
      simp only [itemsTail, List.flatMap_cons, List.cons_append, List.append_assoc, text]
    rw [tail, readItems_comma unblank notClose read,
      inductionHypothesis (fun x member => each x (List.mem_cons_of_mem _ member)) _ _ (by omega)]
    simp

theorem render_array_toList (items : List Json) :
    (render (.array items)).toList = '[' :: ((renderItems items).toList ++ [']']) := by
  simp [render]

theorem readValue_emptyArray {depth : Nat} (deep : 1 ≤ depth) (fuel : Nat) (rest : List Char) :
    readValue (depth + 1) (fuel + 1) ('[' :: ']' :: rest) = .ok (.array [], rest) := by
  have shallow : ¬ depth + 1 ≤ 1 := by omega
  simp only [readValue, Char.isValue, skipBlank_cons (c := '[') rfl, Char.reduceEq, reduceIte,
    decide_false, Char.reduceIsDigit, Bool.or_self, Bool.false_eq_true, decide_true, Bool.or_false,
    shallow, Bool.and_false, skipBlank_cons (c := ']') rfl]

/-- Within a budget of two levels or more, an array whose first item reads goes on to its other
items, with one level less. -/
theorem readValue_openArray {depth fuel : Nat} (deep : 1 ≤ depth) {c : Char} {cs more : List Char}
    {first : Json} (unblank : isBlank c = false) (notClose : c ≠ ']')
    (read : readValue depth fuel (c :: cs) = .ok (first, more)) :
    readValue (depth + 1) (fuel + 1) ('[' :: c :: cs) = readItems depth fuel [first] more := by
  have shallow : ¬ depth + 1 ≤ 1 := by omega
  simp only [readValue, Char.isValue, skipBlank_cons (c := '[') rfl, Char.reduceEq, reduceIte,
    decide_false, Char.reduceIsDigit, Bool.or_self, Bool.false_eq_true, decide_true, Bool.or_false,
    shallow, Bool.and_false, skipBlank_cons unblank, add_tsub_cancel_right]
  split
  · rename_i closing
    exact absurd (List.cons.inj closing).1 notClose
  · rw [read]

/-- An array of items that read back with a budget reads back with one level more. -/
theorem ReadsBack.array {depth : Nat} {items : List Json} (deep : 1 ≤ depth)
    (each : ∀ item ∈ items, ReadsBack depth item) : ReadsBack (depth + 1) (.array items) where
  opens := ⟨'[', _, render_array_toList items, rfl, by decide, by decide⟩
  reads fuel rest enough _ := by
    rw [render_array_toList] at enough ⊢
    obtain ⟨fuel, rfl⟩ : ∃ left, fuel = left + 1 := ⟨fuel - 1, by simp at enough; omega⟩
    cases items with
    | nil => simp [renderItems, readValue_emptyArray deep]
    | cons first items =>
      have firstBack := each first List.mem_cons_self
      obtain ⟨c, cs, text, unblank, notClose, -⟩ := firstBack.opens
      have lengths : (renderItems (first :: items)).toList.length =
          (render first).toList.length + (itemsTail items).length := by
        rw [renderItems_cons_toList, List.length_append]
      simp only [List.length_cons, List.length_append, List.length_nil] at enough
      have read := firstBack.reads fuel (itemsTail items ++ ']' :: rest) (by omega)
        (ends_commaSeparated _ items (.inl rfl) rest)
      rw [text, List.cons_append] at read
      simp only [renderItems_cons_toList, text, List.cons_append, List.append_assoc, List.nil_append]
      rw [readValue_openArray deep unblank notClose read,
        readItems_itemsTail items (fun x member => each x (List.mem_cons_of_mem _ member)) _ _ _
          (by omega)]
      rfl

/-! Objects. -/

/-- The text of a member: its key, a colon and its value. -/
def memberText (member : String × Json) : List Char :=
  (renderString member.1).toList ++ ':' :: (render member.2).toList

/-- The text of the members after the first, each written after a comma. -/
def membersTail (members : List (String × Json)) : List Char :=
  members.flatMap fun member => ',' :: memberText member

theorem memberText_eq (key : String) (value : Json) :
    memberText (key, value) =
      '"' :: (key.toList.flatMap escapeChar ++ '"' :: ':' :: (render value).toList) := by
  simp [memberText, renderString_toList]

theorem renderMembers_cons_toList (member : String × Json) (rest : List (String × Json)) :
    (renderMembers (member :: rest)).toList = memberText member ++ membersTail rest := by
  induction rest generalizing member with
  | nil =>
    obtain ⟨key, value⟩ := member
    simp [renderMembers, membersTail, memberText]
  | cons next rest inductionHypothesis =>
    obtain ⟨key, value⟩ := member
    simp [renderMembers, inductionHypothesis, membersTail, memberText]

/-- A member whose value reads and closes the object ends the members read. -/
theorem readMember_close {depth fuel : Nat} {acc : List (String × Json)} {key : String}
    {afterColon rest : List Char} {value : Json}
    (read : readValue depth fuel afterColon = .ok (value, '}' :: rest)) :
    readMember depth (fuel + 1) acc true (key.toList.flatMap escapeChar ++ '"' :: ':' :: afterColon) =
      .ok (.object ((key, value) :: acc).reverse, rest) := by
  simp only [readMember, readKey, Char.isValue, readString_escaped, skipBlank_cons (c := ':') rfl,
    read, skipBlank_cons (c := '}') rfl, Option.isSome_some, Bool.and_self, reduceIte,
    Option.getD_some, List.reverse_cons]

/-- A member whose value reads and is followed by another member goes on to that member. -/
theorem readMember_comma {depth fuel : Nat} {acc : List (String × Json)} {key : String}
    {afterColon more : List Char} {value : Json}
    (read : readValue depth fuel afterColon = .ok (value, ',' :: '"' :: more)) :
    readMember depth (fuel + 1) acc true (key.toList.flatMap escapeChar ++ '"' :: ':' :: afterColon) =
      readMember depth fuel ((key, value) :: acc) true more := by
  simp only [readMember, readKey, Char.isValue, readString_escaped, skipBlank_cons (c := ':') rfl,
    read, skipBlank_cons (c := ',') rfl, skipBlank_cons (c := '"') rfl, Option.getD_some,
    Option.isSome_some, Bool.and_self]

/-- The members of an object, after the opening quote of the first key, read back up to the
closing brace. -/
theorem readMember_members {depth : Nat} (members : List (String × Json)) (key : String)
    (value : Json) (each : ∀ member ∈ (key, value) :: members, ReadsBack depth member.2)
    (acc : List (String × Json)) (fuel : Nat) (rest : List Char)
    (enough : (memberText (key, value) ++ membersTail members).length ≤ fuel) :
    readMember depth fuel acc true (key.toList.flatMap escapeChar ++ '"' :: ':' ::
        ((render value).toList ++ membersTail members ++ '}' :: rest)) =
      .ok (.object (acc.reverse ++ (key, value) :: members), rest) := by
  -- each member costs at least its text in fuel, and goes onto the members read
  induction members generalizing key value acc fuel with
  | nil =>
    have valueBack : ReadsBack depth value := each (key, value) List.mem_cons_self
    simp only [memberText_eq, membersTail, List.flatMap_nil, List.append_nil, List.length_cons,
      List.length_append] at enough
    obtain ⟨fuel, rfl⟩ : ∃ left, fuel = left + 1 := ⟨fuel - 1, by omega⟩
    have read := valueBack.reads fuel ('}' :: rest) (by omega) (.inr ⟨'}', rest, rfl, by simp⟩)
    simp only [membersTail, List.flatMap_nil, List.append_nil]
    rw [readMember_close read]
    simp
  | cons next members inductionHypothesis =>
    obtain ⟨nextKey, nextValue⟩ := next
    have valueBack : ReadsBack depth value := each (key, value) List.mem_cons_self
    have lengths : (memberText (key, value) ++ membersTail ((nextKey, nextValue) :: members)).length =
        (key.toList.flatMap escapeChar).length + (render value).toList.length + 4 +
          (memberText (nextKey, nextValue) ++ membersTail members).length := by
      simp only [memberText_eq, membersTail, List.flatMap_cons, List.length_cons,
        List.length_append]
      omega
    obtain ⟨fuel, rfl⟩ : ∃ left, fuel = left + 1 := ⟨fuel - 1, by omega⟩
    -- the value is followed by a comma and the quote that opens the next key
    have following : membersTail ((nextKey, nextValue) :: members) ++ '}' :: rest =
        ',' :: '"' :: (nextKey.toList.flatMap escapeChar ++ '"' :: ':' ::
          ((render nextValue).toList ++ membersTail members ++ '}' :: rest)) := by
      simp [membersTail, memberText_eq]
    have read := valueBack.reads fuel (membersTail ((nextKey, nextValue) :: members) ++ '}' :: rest)
      (by omega) (ends_commaSeparated _ _ (.inr rfl) rest)
    rw [following] at read
    rw [List.append_assoc, following, readMember_comma read,
      inductionHypothesis nextKey nextValue (fun member member' => each member
        (List.mem_cons_of_mem _ member')) _ _ (by omega)]
    simp

theorem render_object_toList (members : List (String × Json)) :
    (render (.object members)).toList = '{' :: ((renderMembers members).toList ++ ['}']) := by
  simp [render]

theorem readValue_emptyObject {depth : Nat} (deep : 1 ≤ depth) (fuel : Nat) (rest : List Char) :
    readValue (depth + 1) (fuel + 1) ('{' :: '}' :: rest) = .ok (.object [], rest) := by
  have shallow : ¬ depth + 1 ≤ 1 := by omega
  simp only [readValue, Char.isValue, skipBlank_cons (c := '{') rfl, Char.reduceEq, reduceIte,
    decide_false, Char.reduceIsDigit, Bool.or_self, Bool.false_eq_true, decide_true, Bool.or_true,
    shallow, Bool.and_false, skipBlank_cons (c := '}') rfl]

/-- Within a budget of two levels or more, an object whose first key opens goes on to its
members, with one level less. -/
theorem readValue_openObject {depth : Nat} (deep : 1 ≤ depth) (fuel : Nat) (more : List Char) :
    readValue (depth + 1) (fuel + 1) ('{' :: '"' :: more) = readMember depth fuel [] true more := by
  have shallow : ¬ depth + 1 ≤ 1 := by omega
  simp only [readValue, Char.isValue, skipBlank_cons (c := '{') rfl, Char.reduceEq, reduceIte,
    decide_false, Char.reduceIsDigit, Bool.or_self, Bool.false_eq_true, decide_true, Bool.or_true,
    shallow, Bool.and_false, skipBlank_cons (c := '"') rfl, add_tsub_cancel_right]

/-- An object whose values read back with a budget reads back with one level more. -/
theorem ReadsBack.object {depth : Nat} {members : List (String × Json)} (deep : 1 ≤ depth)
    (each : ∀ member ∈ members, ReadsBack depth member.2) : ReadsBack (depth + 1) (.object members) where
  opens := ⟨'{', _, render_object_toList members, rfl, by decide, by decide⟩
  reads fuel rest enough _ := by
    rw [render_object_toList] at enough ⊢
    simp only [List.length_cons, List.length_append, List.length_nil] at enough
    obtain ⟨fuel, rfl⟩ : ∃ left, fuel = left + 1 := ⟨fuel - 1, by omega⟩
    cases members with
    | nil => simp [renderMembers, readValue_emptyObject deep]
    | cons first members =>
      obtain ⟨key, value⟩ := first
      rw [renderMembers_cons_toList] at enough ⊢
      simp only [memberText_eq, List.cons_append, List.append_assoc, List.nil_append]
      rw [readValue_openObject deep, ← List.append_assoc,
        readMember_members members key value each [] fuel rest (by omega)]
      simp

/-! Whole texts. -/

/-- A document that reads back within the reader's nesting budget is read from its text as it
was written. -/
theorem readSkimming_render {doc : Json} (back : ReadsBack depthBudget doc) :
    readSkimming (render doc) = .ok doc := by
  have read := back.reads (2 * (render doc).toList.length + 2) [] (by omega) (.inl rfl)
  rw [List.append_nil] at read
  simp [readSkimming, read, skipBlank, bind, Except.bind, pure, Except.pure]

end DraftPool.Json
