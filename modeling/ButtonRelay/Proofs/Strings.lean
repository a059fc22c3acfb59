import Mathlib
import ButtonRelay.Proofs.Reader
import ButtonRelay.Proofs.Lines

/-!
JSON strings as the payload reader meets them. A string body is runs of text between escapes;
the reader decodes it (`StringBody raw decoded`: text that is whole UTF-8 characters, letter
escapes, `\u` escapes outside the surrogates and surrogate pairs), while the skipper only
checks its escapes (`LooseBody`). Main statements: the reader reads every decodable body as
what it stands for (`string_reads`), and the skipper skips every body (`skipString_reads`).
-/

namespace ButtonRelay.Utf8

/-- Well-formed UTF-8 is a valid prefix of itself. -/
theorem validPrefix_of_decode {bs : List UInt8} (whole : (decode? bs).isSome) :
    validPrefix bs = bs.length := by
  -- one case per branch of the decoder; in those that refuse, `whole` is false
  fun_induction decode? bs with
  | case1 => rfl
  | case2 b rest ascii ih =>
    rw [validPrefix.eq_def]
    simp_all
    omega
  | case3 b notAscii lead c1 more cont ih =>
    rw [validPrefix.eq_def]
    simp only [Option.isSome_map] at whole
    simp [notAscii, lead, cont, ih whole]
    omega
  | case4 => simp_all
  | case5 => simp_all
  | case6 b notAscii notTwo lead c1 c2 more lo hi cont ih =>
    rw [validPrefix.eq_def]
    simp only [Option.isSome_map] at whole
    simp only [lo, hi, Bool.and_eq_true, decide_eq_true_eq, beq_iff_eq] at cont
    simp [notAscii, notTwo, lead, cont, ih whole]
    omega
  | case7 => simp_all
  | case8 => simp_all
  | case9 b notAscii notTwo notThree lead c1 c2 c3 more lo hi cont ih =>
    rw [validPrefix.eq_def]
    simp only [Option.isSome_map] at whole
    simp only [lo, hi, Bool.and_eq_true, decide_eq_true_eq, beq_iff_eq] at cont
    simp [notAscii, notTwo, notThree, lead, cont, ih whole]
    omega
  | case10 => simp_all
  | case11 => simp_all
  | case12 => simp_all

theorem toList_loop (bs : ByteArray) (i : Nat) (r : List UInt8) :
    ByteArray.toList.loop bs i r = r.reverse ++ bs.data.toList.drop i := by
  fun_induction ByteArray.toList.loop bs i r with
  | case1 i r inside ih =>
    have index : i < bs.data.toList.length := by simpa using inside
    rw [ih, List.drop_eq_getElem_cons index]
    simp [ByteArray.get!, inside]
  | case2 i r beyond =>
    rw [List.drop_eq_nil_of_le (by simpa using Nat.le_of_not_lt beyond)]
    simp

/-- The UTF-8 bytes of a text are those of its characters in turn. -/
theorem toUTF8_toList (s : String) : s.toUTF8.toList = s.toList.flatMap String.utf8EncodeChar := by
  rw [String.toUTF8, ← @String.ofList_toList s, String.toByteArray_ofList, ByteArray.toList,
    toList_loop]
  simp [List.utf8Encode]

end ButtonRelay.Utf8

namespace ButtonRelay.Payload

/-- The byte a backslash and a letter stand for in a JSON string. -/
def escapedByte : UInt8 → Option UInt8
  | 0x22 => some 0x22
  | 0x5C => some 0x5C
  | 0x2F => some 0x2F
  | 0x62 => some 0x08
  | 0x66 => some 0x0C
  | 0x6E => some 0x0A
  | 0x72 => some 0x0D
  | 0x74 => some 0x09
  | _ => none

/-- Four hexadecimal digits and the number they write. -/
def HexQuad (hs : List UInt8) (n : Nat) : Prop :=
  ∃ a b c d w x y z, hs = [a, b, c, d] ∧ hexValue a = some w ∧ hexValue b = some x ∧
    hexValue c = some y ∧ hexValue d = some z ∧ n = ((w * 16 + x) * 16 + y) * 16 + z

/-- A byte that may stand unescaped in a string: not a quote, a backslash or a control byte. -/
def Unescaped (b : UInt8) : Prop := b ≠ 0x22 ∧ b ≠ 0x5C ∧ 0x20 ≤ b

instance (b : UInt8) : Decidable (Unescaped b) := inferInstanceAs (Decidable (b ≠ 0x22 ∧ b ≠ 0x5C ∧ 0x20 ≤ b))

/-- An escape after its backslash, and the bytes it stands for: a letter, a `\u` escape of a
code point outside the surrogates, or the `\u` escapes of a leading and a trailing surrogate,
standing for the code point they pair to. -/
inductive Escape : List UInt8 → List UInt8 → Prop
  | letter {x y : UInt8} : escapedByte x = some y → Escape [x] [y]
  | unit {hs : List UInt8} {n : Nat} : HexQuad hs n → (n < 0xD800 ∨ 0xDFFF < n) →
      Escape (0x75 :: hs) (utf8Bytes n)
  | pair {hs ls : List UInt8} {hi lo : Nat} : HexQuad hs hi → HexQuad ls lo →
      0xD800 ≤ hi → hi ≤ 0xDBFF → 0xDC00 ≤ lo → lo ≤ 0xDFFF →
      Escape (0x75 :: hs ++ 0x5C :: 0x75 :: ls)
        (utf8Bytes ((hi - 0xD800) * 1024 + (lo - 0xDC00) + 0x10000))

/-- Unescaped bytes that are whole UTF-8 characters. -/
def TextRun (run : List UInt8) : Prop := (∀ b ∈ run, Unescaped b) ∧ (Utf8.decode? run).isSome

instance (run : List UInt8) : Decidable (TextRun run) :=
  inferInstanceAs (Decidable ((∀ b ∈ run, Unescaped b) ∧ (Utf8.decode? run).isSome))

/-- A string body that reads back, between its quotes, and the bytes it stands for: runs of
text between escapes. -/
inductive StringBody : List UInt8 → List UInt8 → Prop
  | last {run : List UInt8} : TextRun run → StringBody run run
  | escaped {run esc raw e d : List UInt8} : TextRun run → Escape esc e → StringBody raw d →
      StringBody (run ++ 0x5C :: esc ++ raw) (run ++ e ++ d)

/-- An escape after its backslash as JSON's grammar has it: a letter, or `u` and four
hexadecimal digits. -/
def LooseEscape (esc : List UInt8) : Prop :=
  (∃ x y, esc = [x] ∧ escapedByte x = some y) ∨ ∃ hs n, esc = 0x75 :: hs ∧ HexQuad hs n

/-- A string body as JSON's grammar has it, between its quotes: unescaped bytes and escapes,
whether or not the bytes are UTF-8 and the surrogates pair. -/
inductive LooseBody : List UInt8 → Prop
  | last {run : List UInt8} : (∀ b ∈ run, Unescaped b) → LooseBody run
  | escaped {run esc raw : List UInt8} : (∀ b ∈ run, Unescaped b) → LooseEscape esc →
      LooseBody raw → LooseBody (run ++ 0x5C :: esc ++ raw)

/-! ## Escapes -/

theorem hexEscape_reads {hs : List UInt8} {n : Nat} (quad : HexQuad hs n) (rest : List UInt8)
    (p : Nat) : Reads hexEscape ⟨hs ++ rest, p⟩ n ⟨rest, p + 4⟩ := by
  obtain ⟨a, b, c, d, w, x, y, z, rfl, ha, hb, hc, hd, rfl⟩ := quad
  rw [hexEscape, Reads.bind_iff (get_reads _)]
  refine .bind (bumpN_append [a, b, c, d] rest p) ?_
  rw [ha, hb, hc, hd]
  exact .pure _ _

theorem HexQuad.length {hs : List UInt8} {n : Nat} (quad : HexQuad hs n) : hs.length = 4 := by
  obtain ⟨_, _, _, _, _, _, _, _, rfl, -⟩ := quad
  rfl

/-- Reading after a backslash decodes each escape to what it stands for. -/
theorem escape_reads {esc e : List UInt8} (escaped : Escape esc e) (rest : List UInt8) (p : Nat) :
    Reads escape ⟨esc ++ rest, p⟩ e ⟨rest, p + esc.length⟩ := by
  cases escaped with
  | @letter x y known =>
    rw [escape, List.singleton_append, Reads.bind_iff (next_cons _ _ _)]
    unfold escapedByte at known
    split at known <;> cases known <;> rfl
  | @unit hs n quad outside =>
    rw [escape, List.cons_append, Reads.bind_iff (next_cons _ _ _)]
    simp only
    rw [unicodeEscape, Reads.bind_iff (hexEscape_reads quad rest _),
      if_neg (by simp only [Bool.and_eq_true, decide_eq_true_eq]; omega),
      if_pos (by simp only [Bool.or_eq_true, decide_eq_true_eq]; omega)]
    exact (Reads.pure _ _).at_pos (by simp [quad.length])
  | @pair hs ls hi lo hiQuad loQuad hiLow hiHigh loLow loHigh =>
    simp only [List.cons_append, List.append_assoc]
    rw [escape, Reads.bind_iff (next_cons _ _ _)]
    simp only
    rw [unicodeEscape, Reads.bind_iff (hexEscape_reads hiQuad _ _),
      if_neg (by simp only [Bool.and_eq_true, decide_eq_true_eq]; omega),
      if_neg (by simp only [Bool.or_eq_true, decide_eq_true_eq]; omega),
      Reads.bind_iff (peek_reads _)]
    simp only [List.head?]
    rw [Reads.bind_iff (bump_cons _ _ _), Reads.bind_iff (peek_reads _)]
    simp only [List.head?]
    rw [Reads.bind_iff (bump_cons _ _ _), Reads.bind_iff (hexEscape_reads loQuad _ _),
      if_neg (by simp only [Bool.or_eq_true, decide_eq_true_eq]; omega)]
    exact (Reads.pure _ _).at_pos (by simp [hiQuad.length, loQuad.length])

/-! ## Strings -/

theorem Unescaped.not_stop {b : UInt8} (plain : Unescaped b) : isStringStop b = false := by
  obtain ⟨notQuote, notBackslash, printable⟩ := plain
  simp only [isStringStop, Bool.or_eq_false_iff, decide_eq_false_iff_not]
  refine ⟨⟨notQuote, notBackslash⟩, fun low => ?_⟩
  simp only [UInt8.lt_iff_toNat_lt, UInt8.le_iff_toNat_le] at low printable
  omega

/-- The plain bytes the reader takes before a quote or a backslash are the run before it. -/
theorem takeWhile_run {run more : List UInt8} (plain : ∀ b ∈ run, Unescaped b) {s : UInt8}
    (stop : isStringStop s) :
    (run ++ s :: more).takeWhile (fun b => !isStringStop b) = run := by
  rw [List.takeWhile_append_of_pos (fun b member => by simp [(plain b member).not_stop]),
    List.takeWhile_cons_of_neg (by simp [stop]), List.append_nil]

/-- A decodable string body is read, up to its closing quote, as the bytes it stands for. -/
theorem stringBody_reads {raw d : List UInt8} (body : StringBody raw d) (rest : List UInt8) :
    ∀ fuel acc p, raw.length < fuel →
      Reads (stringBody fuel acc) ⟨raw ++ 0x22 :: rest, p⟩ (acc ++ d) ⟨rest, p + raw.length + 1⟩ := by
  induction body with
  | @last run text =>
    intro fuel acc p enough
    obtain ⟨fuel, rfl⟩ := Nat.exists_eq_succ_of_ne_zero (Nat.ne_zero_of_lt enough)
    rw [stringBody, Reads.bind_iff (get_reads _)]
    dsimp only
    rw [takeWhile_run text.1 (by decide), Utf8.validPrefix_of_decode text.2,
      Reads.bind_iff (bumpN_append run _ p), if_neg (lt_irrefl _), Reads.bind_iff (peek_reads _)]
    simp only [List.head?]
    rw [Reads.bind_iff (bump_cons _ _ _)]
    exact .pure _ _
  | @escaped run esc raw e d text escaped _ ih =>
    intro fuel acc p enough
    obtain ⟨fuel, rfl⟩ := Nat.exists_eq_succ_of_ne_zero (Nat.ne_zero_of_lt enough)
    simp only [List.append_assoc, List.cons_append, List.length_append, List.length_cons] at enough ⊢
    rw [stringBody, Reads.bind_iff (get_reads _)]
    dsimp only
    rw [takeWhile_run text.1 (by decide), Utf8.validPrefix_of_decode text.2,
      Reads.bind_iff (bumpN_append run _ p), if_neg (lt_irrefl _), Reads.bind_iff (peek_reads _)]
    simp only [List.head?]
    rw [Reads.bind_iff (bump_cons _ _ _), Reads.bind_iff (escape_reads escaped _ _)]
    have later := ih fuel (acc ++ run ++ e) (p + run.length + 1 + esc.length) (by omega)
    rw [show acc ++ run ++ e ++ d = acc ++ (run ++ (e ++ d)) by simp] at later
    exact later.at_pos (by omega)

/-- A decodable string, after its opening quote, is read as the bytes it stands for. -/
theorem string_reads {raw d : List UInt8} (body : StringBody raw d) (rest : List UInt8) (p : Nat) :
    Reads string ⟨raw ++ 0x22 :: rest, p⟩ d ⟨rest, p + raw.length + 1⟩ := by
  rw [string, Reads.bind_iff (get_reads _)]
  exact stringBody_reads body rest _ [] p (by simp)

/-! ## Skipping strings -/

theorem skipEscape_reads {esc : List UInt8} (escaped : LooseEscape esc) (rest : List UInt8)
    (p : Nat) : Reads skipEscape ⟨esc ++ rest, p⟩ () ⟨rest, p + esc.length⟩ := by
  rcases escaped with ⟨x, y, rfl, known⟩ | ⟨hs, n, rfl, quad⟩
  · rw [skipEscape, List.singleton_append, Reads.bind_iff (next_cons _ _ _)]
    unfold escapedByte at known
    split at known <;> cases known <;> rfl
  · rw [skipEscape, List.cons_append, Reads.bind_iff (next_cons _ _ _)]
    simp only
    rw [if_neg (by decide), if_pos trivial, Reads.bind_iff (hexEscape_reads quad rest _)]
    exact (Reads.pure _ _).at_pos (by simp [quad.length])

theorem skipStringBody_reads {raw : List UInt8} (body : LooseBody raw) (rest : List UInt8) :
    ∀ fuel p, raw.length < fuel →
      Reads (skipStringBody fuel) ⟨raw ++ 0x22 :: rest, p⟩ () ⟨rest, p + raw.length + 1⟩ := by
  induction body with
  | @last run plain =>
    intro fuel p enough
    obtain ⟨fuel, rfl⟩ := Nat.exists_eq_succ_of_ne_zero (Nat.ne_zero_of_lt enough)
    rw [skipStringBody, Reads.bind_iff (get_reads _)]
    dsimp only
    rw [takeWhile_run plain (by decide), Reads.bind_iff (bumpN_append run _ p),
      Reads.bind_iff (peek_reads _)]
    simp only [List.head?]
    exact bump_cons _ _ _
  | @escaped run esc raw plain escaped _ ih =>
    intro fuel p enough
    obtain ⟨fuel, rfl⟩ := Nat.exists_eq_succ_of_ne_zero (Nat.ne_zero_of_lt enough)
    simp only [List.append_assoc, List.cons_append, List.length_append, List.length_cons] at enough ⊢
    rw [skipStringBody, Reads.bind_iff (get_reads _)]
    dsimp only
    rw [takeWhile_run plain (by decide), Reads.bind_iff (bumpN_append run _ p),
      Reads.bind_iff (peek_reads _)]
    simp only [List.head?]
    rw [Reads.bind_iff (bump_cons _ _ _), Reads.bind_iff (skipEscape_reads escaped _ _)]
    exact (ih fuel (p + run.length + 1 + esc.length) (by omega)).at_pos (by omega)

/-- Every string of JSON's grammar, after its opening quote, is skipped up to its closing
quote. -/
theorem skipString_reads {raw : List UInt8} (body : LooseBody raw) (rest : List UInt8) (p : Nat) :
    Reads skipString ⟨raw ++ 0x22 :: rest, p⟩ () ⟨rest, p + raw.length + 1⟩ := by
  rw [skipString, Reads.bind_iff (get_reads _)]
  exact skipStringBody_reads body rest _ p (by simp)

end ButtonRelay.Payload
