import Mathlib
import ButtonRelay.Proofs.Reader

/-!
JSON numbers as the payload reader meets them. A number token is an optional minus, whole
digits with no leading zero, an optional fraction and an optional exponent; its numeral form
is the whole digits alone. Main statements: a count is read from the numeral of a number that
fits 32 bits (`count_numeral`), and the skipper reads through every number token
(`skipNumber_body`).
-/

namespace ButtonRelay.Payload

/-- The digits of a whole number as JSON writes them: `0`, or a digit from one to nine and
any digits after it. -/
def WholeDigits (ds : List UInt8) : Prop :=
  ds = [0x30] ∨ ∃ d more, ds = d :: more ∧ isDigit d ∧ d ≠ 0x30 ∧ ∀ x ∈ more, isDigit x

/-- The value of the digits `ds` written after digits worth `acc`. -/
def digitsValue (acc : Nat) (ds : List UInt8) : Nat :=
  ds.foldl (fun v d => v * 10 + digitValue d) acc

/-- `ds` is the numeral of `n`: decimal digits with no leading zero, worth `n`. -/
def Numeral (ds : List UInt8) (n : Nat) : Prop := WholeDigits ds ∧ digitsValue 0 ds = n

/-- Digit bytes, at least one. -/
def Digits (ds : List UInt8) : Prop := ds ≠ [] ∧ ∀ d ∈ ds, isDigit d

/-- A fraction: nothing, or a point and digits. -/
def Fraction (f : List UInt8) : Prop := f = [] ∨ ∃ ds, f = 0x2E :: ds ∧ Digits ds

/-- An exponent: nothing, or `e` or `E`, an optional sign and digits. -/
def Exponent (e : List UInt8) : Prop :=
  e = [] ∨ ∃ mark sign ds, e = mark :: sign ++ ds ∧ (mark = 0x65 ∨ mark = 0x45) ∧
    (sign = [] ∨ sign = [0x2B] ∨ sign = [0x2D]) ∧ Digits ds

/-- A JSON number token. -/
def NumberToken (t : List UInt8) : Prop :=
  ∃ sign whole frac exp, t = sign ++ whole ++ frac ++ exp ∧ (sign = [] ∨ sign = [0x2D]) ∧
    WholeDigits whole ∧ Fraction frac ∧ Exponent exp

/-- What may follow a value: the end, a blank, a comma or a closing bracket. -/
def Delimited (rest : List UInt8) : Prop :=
  ∀ b ∈ rest.head?, isBlankByte b ∨ b = 0x2C ∨ b = 0x5D ∨ b = 0x7D

theorem Delimited.nil : Delimited [] := fun _ none => nomatch none

/-! ## Digits -/

@[simp] theorem digitsValue_nil (acc : Nat) : digitsValue acc [] = acc := rfl

@[simp] theorem digitsValue_cons (acc : Nat) (d : UInt8) (ds : List UInt8) :
    digitsValue acc (d :: ds) = digitsValue (acc * 10 + digitValue d) ds := by
  simp only [digitsValue, List.foldl_cons]

theorem le_digitsValue (acc : Nat) (ds : List UInt8) : acc ≤ digitsValue acc ds := by
  induction ds generalizing acc with
  | nil => exact le_refl acc
  | cons d more ih =>
    rw [digitsValue_cons]
    exact le_trans (by omega) (ih _)

theorem Numeral.unique {ds : List UInt8} {n m : Nat} (first : Numeral ds n) (second : Numeral ds m) :
    n = m := first.2.symm.trans second.2

theorem digitsValue_append (acc : Nat) (ds es : List UInt8) :
    digitsValue acc (ds ++ es) = digitsValue (digitsValue acc ds) es := by
  simp only [digitsValue, List.foldl_append]

theorem Numeral.single {d : UInt8} (digit : isDigit d) : Numeral [d] (digitValue d) := by
  refine ⟨?_, by simp⟩
  by_cases zero : d = 0x30
  · exact .inl (by rw [zero])
  · exact .inr ⟨d, [], rfl, digit, zero, by simp⟩

/-- A digit written after the numeral of a positive number gives the numeral of ten times it
plus the digit. -/
theorem Numeral.snoc {ds : List UInt8} {n : Nat} {d : UInt8} (numeral : Numeral ds n) (positive : 0 < n)
    (digit : isDigit d) : Numeral (ds ++ [d]) (n * 10 + digitValue d) := by
  obtain ⟨whole, value⟩ := numeral
  refine ⟨?_, by simp [digitsValue_append, value]⟩
  rcases whole with rfl | ⟨lead, more, rfl, leadDigit, nonzero, digits⟩
  · simp [digitValue] at value
    omega
  · refine .inr ⟨lead, more ++ [d], rfl, leadDigit, nonzero, fun x member => ?_⟩
    rcases List.mem_append.mp member with inMore | isLast
    · exact digits x inMore
    · rw [List.mem_singleton.mp isLast]
      exact digit

theorem digitRun_append {ds rest : List UInt8} (digits : ∀ d ∈ ds, isDigit d)
    (stop : ∀ b ∈ rest.head?, isDigit b = false) : digitRun (ds ++ rest) = ds.length := by
  induction ds with
  | nil =>
    cases rest with
    | nil => rfl
    | cons b more => simp [digitRun, stop b rfl]
  | cons d more ih =>
    have now : isDigit d := digits d List.mem_cons_self
    have later := ih (fun x member => digits x (List.mem_cons_of_mem d member))
    simp only [digitRun, List.cons_append, List.takeWhile_cons, now, if_true, List.length_cons] at later ⊢
    rw [later]

/-- Digits that stay within 64 bits are all taken, worth their value. -/
theorem accumulate_digits {acc : Nat} {ds rest : List UInt8} (digits : ∀ d ∈ ds, isDigit d)
    (fits : digitsValue acc ds ≤ u64Max) (stop : ∀ b ∈ rest.head?, isDigit b = false) :
    accumulate acc (ds ++ rest) = (digitsValue acc ds, ds.length) := by
  induction ds generalizing acc with
  | nil =>
    cases rest with
    | nil => rfl
    | cons b more => simp [accumulate, stop b rfl]
  | cons d more ih =>
    have now : isDigit d := digits d List.mem_cons_self
    have within : acc * 10 + digitValue d ≤ u64Max :=
      le_trans (le_digitsValue _ more) fits
    rw [List.cons_append, accumulate, if_pos (by simp [now, within]),
      ih (fun x member => digits x (List.mem_cons_of_mem d member)) fits]
    rfl

/-! ## Reading the integer part -/

/-- What follows the digits is read as a fraction or an exponent only after `.`, `e` or `E`. -/
def Unmarked (rest : List UInt8) : Prop := ∀ b ∈ rest.head?, b ≠ 0x2E ∧ b ≠ 0x65 ∧ b ≠ 0x45

theorem numberTail_plain {tail : List UInt8} (plain : Unmarked tail) (sig p : Nat) :
    Reads (numberTail true sig) ⟨tail, p⟩ (.unsigned sig) ⟨tail, p⟩ := by
  rw [numberTail, Reads.bind_iff (peek_reads _)]
  cases tail with
  | nil => rfl
  | cons b more =>
    obtain ⟨notPoint, notSmall, notLarge⟩ := plain b rfl
    dsimp only [List.head?]
    split
    next point => exact absurd (Option.some.inj point) notPoint
    next small => exact absurd (Option.some.inj small) notSmall
    next large => exact absurd (Option.some.inj large) notLarge
    next => rfl

/-- Whole digits within 64 bits are read as their value, and what follows them is read as the
rest of the number. -/
theorem integer_whole (positive : Bool) {ds tail : List UInt8} (whole : WholeDigits ds)
    (stop : ∀ b ∈ tail.head?, isDigit b = false) (fits : digitsValue 0 ds ≤ u64Max) (p : Nat) :
    (integer positive).run.run ⟨ds ++ tail, p⟩ =
      (numberTail positive (digitsValue 0 ds)).run.run ⟨tail, p + ds.length⟩ := by
  rcases whole with rfl | ⟨d, more, rfl, lead, nonzero, digits⟩
  · rw [List.singleton_append, integer, (next_cons _ _ _).run_bind]
    dsimp only
    rw [if_pos rfl, (peek_reads _).run_bind]
    cases tail with
    | nil => rfl
    | cons b more =>
      dsimp only [List.head?]
      rw [if_neg (by simp [stop b rfl])]
      rfl
  · rw [List.cons_append, integer, (next_cons _ _ _).run_bind]
    dsimp only
    rw [if_neg nonzero, if_pos lead, (get_reads _).run_bind]
    have value : digitsValue 0 (d :: more) = digitsValue (digitValue d) more := by simp
    rw [value] at fits ⊢
    dsimp only
    rw [accumulate_digits digits fits stop, (bumpN_append more tail _).run_bind,
      (get_reads _).run_bind]
    dsimp only
    -- the digits end where the tail begins, so the number is not long
    rw [if_neg (by cases tail with
      | nil => simp
      | cons b _ => simpa using stop b rfl)]
    rw [List.length_cons, Nat.add_comm more.length 1, Nat.add_assoc]

theorem integer_numeral {ds tail : List UInt8} {n : Nat} (numeral : Numeral ds n) (fits : n ≤ u64Max)
    (stop : ∀ b ∈ tail.head?, isDigit b = false) (plain : Unmarked tail) (p : Nat) :
    Reads (integer true) ⟨ds ++ tail, p⟩ (.unsigned n) ⟨tail, p + ds.length⟩ := by
  obtain ⟨whole, rfl⟩ := numeral
  unfold Reads
  rw [integer_whole true whole stop fits]
  exact numberTail_plain plain _ _

/-! ## Counts -/

theorem Delimited.of_head {rest : List UInt8} (delimited : Delimited rest) {b : UInt8}
    (found : b ∈ rest.head?) : isDigit b = false ∧ b ≠ 0x2E ∧ b ≠ 0x65 ∧ b ≠ 0x45 := by
  rcases delimited b found with blank | rfl | rfl | rfl
  · simp only [isBlankByte, Bool.or_eq_true, decide_eq_true_eq] at blank
    rcases blank with ((rfl | rfl) | rfl) | rfl <;> decide
  all_goals decide

theorem Delimited.stop {rest : List UInt8} (delimited : Delimited rest) :
    ∀ b ∈ rest.head?, isDigit b = false := fun _ found => (delimited.of_head found).1

theorem Delimited.unmarked {rest : List UInt8} (delimited : Delimited rest) : Unmarked rest :=
  fun _ found => (delimited.of_head found).2

theorem WholeDigits.cons {ds : List UInt8} (whole : WholeDigits ds) :
    ∃ d more, ds = d :: more ∧ isDigit d := by
  rcases whole with rfl | ⟨d, more, rfl, lead, -, -⟩
  · exact ⟨_, _, rfl, rfl⟩
  · exact ⟨d, more, rfl, lead⟩

theorem isBlankByte_of_isDigit {b : UInt8} (digit : isDigit b) : isBlankByte b = false := by
  simp only [isDigit, Bool.and_eq_true, decide_eq_true_eq, UInt8.le_iff_toNat_le] at digit
  simp only [isBlankByte, Bool.or_eq_false_iff, decide_eq_false_iff_not, UInt8.ext_iff]
  simp at digit ⊢
  omega

/-- A count is read from the numeral of a number that fits 32 bits, blanks before it. -/
theorem count_numeral {ws ds rest : List UInt8} {n : Nat} (blank : Blank ws) (numeral : Numeral ds n)
    (fits : n ≤ 4294967295) (delimited : Delimited rest) (p : Nat) :
    Reads count ⟨ws ++ ds ++ rest, p⟩ n.toUInt32 ⟨rest, p + ws.length + ds.length⟩ := by
  obtain ⟨d, more, rfl, lead⟩ := numeral.1.cons
  apply Reads.placed
  rw [List.append_assoc, Reads.bind_iff (peekPastBlank_reads blank (by
    simpa using isBlankByte_of_isDigit lead) p)]
  dsimp only [List.cons_append, List.head?]
  split
  next missing => cases missing
  next minus =>
    cases Option.some.inj minus
    exact absurd lead (by decide)
  next _ _ same =>
    cases Option.some.inj same
    rw [if_pos lead]
    refine .bind (integer_numeral numeral (le_trans fits (by decide)) delimited.stop
      delimited.unmarked _) ?_
    rw [countOf, if_pos fits]
    exact .pure _ _

/-- After the fraction of a token comes neither a digit nor a point. -/
theorem Exponent.next {exp rest : List UInt8} (exponent : Exponent exp) (delimited : Delimited rest) :
    ∀ b ∈ (exp ++ rest).head?, isDigit b = false ∧ b ≠ 0x2E := by
  rcases exponent with rfl | ⟨mark, sign, ds, rfl, marked, -, -⟩
  · exact fun b found => ⟨(delimited.of_head found).1, (delimited.of_head found).2.1⟩
  · intro b found
    cases Option.some.inj found
    rcases marked with rfl | rfl <;> decide

/-- After the whole digits of a token comes no digit. -/
theorem Fraction.stop {frac exp rest : List UInt8} (fraction : Fraction frac) (exponent : Exponent exp)
    (delimited : Delimited rest) : ∀ b ∈ (frac ++ exp ++ rest).head?, isDigit b = false := by
  rcases fraction with rfl | ⟨ds, rfl, -⟩
  · exact fun b found => (exponent.next delimited b found).1
  · intro b found
    cases Option.some.inj found
    decide

/-! ## Skipping numbers -/

theorem skipWhole_reads {whole tail : List UInt8} (digits : WholeDigits whole)
    (stop : ∀ b ∈ tail.head?, isDigit b = false) (p : Nat) :
    Reads skipWhole ⟨whole ++ tail, p⟩ () ⟨tail, p + whole.length⟩ := by
  rcases digits with rfl | ⟨d, more, rfl, lead, nonzero, digits⟩
  · rw [skipWhole, List.singleton_append, Reads.bind_iff (next_cons _ _ _)]
    split
    next =>
      rw [Reads.bind_iff (peek_reads _)]
      cases tail with
      | nil => rfl
      | cons b more =>
        dsimp only [List.head?]
        rw [if_neg (by simp [stop b rfl])]
        rfl
    next _ _ notZero same => exact absurd (Option.some.inj same).symm notZero
    next missing => cases missing
  · rw [skipWhole, List.cons_append, Reads.bind_iff (next_cons _ _ _)]
    split
    next zero => exact absurd (Option.some.inj zero) nonzero
    next _ _ same =>
      cases Option.some.inj same
      rw [if_pos (by simp [lead, nonzero]), Reads.bind_iff (get_reads _)]
      dsimp only
      rw [digitRun_append digits stop, List.length_cons,
        show p + (more.length + 1) = p + 1 + more.length by omega]
      exact bumpN_append more tail (p + 1)
    next missing => cases missing

theorem skipFraction_reads {frac tail : List UInt8} (fraction : Fraction frac)
    (next : ∀ b ∈ tail.head?, isDigit b = false ∧ b ≠ 0x2E) (p : Nat) :
    Reads skipFraction ⟨frac ++ tail, p⟩ () ⟨tail, p + frac.length⟩ := by
  rcases fraction with rfl | ⟨ds, rfl, nonempty, digits⟩
  · rw [skipFraction, List.nil_append, Reads.bind_iff (peek_reads _)]
    cases tail with
    | nil => rfl
    | cons b more =>
      dsimp only [List.head?]
      split
      next point => exact absurd (Option.some.inj point) (next b rfl).2
      next => rfl
  · rw [skipFraction, List.cons_append, Reads.bind_iff (peek_reads _)]
    dsimp only [List.head?]
    split
    next =>
      rw [Reads.bind_iff (bump_cons _ _ _), Reads.bind_iff (get_reads _)]
      dsimp only
      rw [digitRun_append digits (fun b found => (next b found).1),
        Reads.bind_iff (bumpN_append ds tail (p + 1)), if_neg (List.length_pos_of_ne_nil nonempty).ne',
        List.length_cons, show p + (ds.length + 1) = p + 1 + ds.length by omega]
      exact .pure _ _
    next notPoint => exact absurd rfl notPoint

/-- The digits of an exponent, after its mark and sign. -/
theorem exponentDigits_reads {d : UInt8} {more rest : List UInt8} (digits : ∀ x ∈ d :: more, isDigit x)
    (stop : ∀ b ∈ rest.head?, isDigit b = false) (q : Nat) :
    Reads (do
      match ← next with
      | some d => if isDigit d then bumpN (digitRun (← get).rest) else failHere .invalidNumber
      | none => failHere .invalidNumber) ⟨d :: more ++ rest, q⟩ () ⟨rest, q + 1 + more.length⟩ := by
  rw [List.cons_append, Reads.bind_iff (next_cons _ _ _)]
  dsimp only
  rw [if_pos (digits d List.mem_cons_self), Reads.bind_iff (get_reads _)]
  dsimp only
  rw [digitRun_append (fun x member => digits x (List.mem_cons_of_mem d member)) stop]
  exact bumpN_append more rest (q + 1)

theorem skipExponent_reads {exp rest : List UInt8} (exponent : Exponent exp)
    (delimited : Delimited rest) (p : Nat) :
    Reads skipExponent ⟨exp ++ rest, p⟩ () ⟨rest, p + exp.length⟩ := by
  rcases exponent with rfl | ⟨mark, sign, ds, rfl, marked, signed, nonempty, digits⟩
  · rw [skipExponent, List.nil_append, Reads.bind_iff (peek_reads _)]
    cases rest with
    | nil => rfl
    | cons b more =>
      have plain := delimited.unmarked b rfl
      dsimp only [List.head?]
      split
      next small => exact absurd (Option.some.inj small) plain.2.1
      next large => exact absurd (Option.some.inj large) plain.2.2
      next => rfl
  · obtain ⟨d, more, rfl⟩ := List.exists_cons_of_ne_nil nonempty
    rw [skipExponent, Reads.bind_iff (peek_reads _)]
    simp only [List.cons_append, List.head?]
    split
    case h_3 notSmall notLarge => rcases marked with rfl | rfl <;> simp_all
    all_goals
      rw [Reads.bind_iff (bump_cons _ _ _), Reads.bind_iff (peek_reads _)]
      have lead : isDigit d := digits d List.mem_cons_self
      rcases signed with rfl | rfl | rfl
      · simp only [List.nil_append, List.cons_append, List.head?]
        split
        next plus => cases Option.some.inj plus; exact absurd lead (by decide)
        next minus => cases Option.some.inj minus; exact absurd lead (by decide)
        next => exact (exponentDigits_reads digits delimited.stop (p + 1)).at_pos (by simp; omega)
      all_goals
        simp only [List.cons_append, List.head?]
        rw [Reads.bind_iff (bump_cons _ _ _)]
        exact (exponentDigits_reads digits delimited.stop _).at_pos (by simp; omega)

/-- The skipper reads through the digits, fraction and exponent of a number. -/
theorem skipNumber_body {whole frac exp rest : List UInt8} (digits : WholeDigits whole)
    (fraction : Fraction frac) (exponent : Exponent exp) (delimited : Delimited rest) (p : Nat) :
    Reads skipNumber ⟨whole ++ frac ++ exp ++ rest, p⟩ ()
      ⟨rest, p + whole.length + frac.length + exp.length⟩ := by
  have wholeRead := skipWhole_reads digits (fraction.stop exponent delimited) p
  have fractionRead := skipFraction_reads fraction (exponent.next delimited) (p + whole.length)
  have exponentRead := skipExponent_reads exponent delimited (p + whole.length + frac.length)
  rw [skipNumber]
  simp only [List.append_assoc] at wholeRead ⊢
  exact .bind wholeRead (.bind fractionRead exponentRead)

end ButtonRelay.Payload
