import Mathlib
import ButtonRelay.Proofs.Records

/-!
The button messages on the wire: an error report holds a count, written as its decimal numeral;
a status holds a JSON boolean; a command holds its action's name as a string. Main statements:
the module's own JSON keeps the promises a JSON library makes of the messages
(`Payload.json_laws`), and over every library that keeps them each message is written as its
one-member object and reads back as what was written (`messages_round_trip`).
-/

namespace ButtonRelay.Payload

/-! ## Counts -/

theorem count_reads_numeral {v : List UInt8} {n : Nat} (numeral : Numeral v n) (fits : n ≤ 4294967295) :
    ReadsValue count v n.toUInt32 :=
  fun _ _ p blank delimited => count_numeral blank numeral fits delimited p

/-! ## Decimal numerals -/

theorem digit_bytes {n : Nat} (small : n < 10) :
    (Nat.toDigits 10 n).flatMap String.utf8EncodeChar = [(n + 48).toUInt8] ∧
      isDigit (n + 48).toUInt8 ∧ digitValue (n + 48).toUInt8 = n := by
  rw [Nat.toDigits_of_lt_base small]
  interval_cases n <;> decide

/-- A number is written as its numeral: decimal digits with no leading zero. -/
theorem numeral_toString (n : Nat) : Numeral (toString n).toUTF8.toList n := by
  rw [Utf8.toUTF8_toList]
  show Numeral ((String.ofList (Nat.toDigits 10 n)).toList.flatMap String.utf8EncodeChar) n
  rw [String.toList_ofList]
  -- the numeral of `n` is that of `n / 10` followed by the digit of `n % 10`
  induction n using Nat.strong_induction_on with
  | _ n ih =>
    by_cases small : n < 10
    · obtain ⟨bytes, digit, value⟩ := digit_bytes small
      have single := Numeral.single digit
      rw [value] at single
      rw [bytes]
      exact single
    · obtain ⟨bytes, digit, value⟩ := digit_bytes (Nat.mod_lt n (by norm_num : 10 > 0))
      have split : Nat.toDigits 10 n = Nat.toDigits 10 (n / 10) ++ Nat.toDigits 10 (n % 10) := by
        rw [Nat.toDigits_append_toDigits (by norm_num) (by omega) (Nat.mod_lt n (by norm_num))]
        congr 1
        omega
      have longer := (ih (n / 10) (by omega)).snoc (by omega) digit
      rw [value, show n / 10 * 10 + n % 10 = n by omega] at longer
      rw [split, List.flatMap_append, bytes]
      exact longer

theorem Numeral.json {v : List UInt8} {n : Nat} (numeral : Numeral v n) : Json v :=
  .number ⟨[], v, [], [], by simp, .inl rfl, numeral.1, .inl rfl, .inl rfl⟩

/-! ## Booleans and variant names -/

theorem boolean_reads (b : Bool) :
    ReadsValue boolean (if b then [0x74, 0x72, 0x75, 0x65] else [0x66, 0x61, 0x6C, 0x73, 0x65]) b := by
  intro ws rest p blank delimited
  apply Reads.placed
  cases b with
  | true =>
    simp only [if_true, List.append_assoc, List.cons_append]
    rw [Reads.bind_iff (peekPastBlank_reads blank (by simp; decide) p)]
    refine .bind (bump_cons _ _ _) (.bind (keyword_reads [0x72, 0x75, 0x65] rest _) ?_)
    exact (Reads.pure _ _).at_pos (by simp)
  | false =>
    simp only [Bool.false_eq_true, if_false, List.append_assoc, List.cons_append]
    rw [Reads.bind_iff (peekPastBlank_reads blank (by simp; decide) p)]
    refine .bind (bump_cons _ _ _) (.bind (keyword_reads [0x61, 0x6C, 0x73, 0x65] rest _) ?_)
    exact (Reads.pure _ _).at_pos (by simp)

section Variant

variable {names : List String} {raw : List UInt8} {s : String} {i : Nat}

theorem variantName_reads (text : TextRun raw) (decoded : Utf8.toString? raw = some s)
    (index : names.idxOf? s = some i) (rest : List UInt8) (p : Nat) :
    Reads (variantName names) ⟨0x22 :: (raw ++ 0x22 :: rest), p⟩ i ⟨rest, p + raw.length + 2⟩ := by
  apply Reads.placed
  rw [Reads.bind_iff (peekPastBlank_solid (by simp; decide) p)]
  refine .bind (bump_cons _ _ _) (.bind (string_reads (.last text) rest _) ?_)
  simp only [decoded, Option.getD_some, index]
  exact (Reads.pure _ _).at_pos (by omega)

/-- A variant written as its name between quotes is read as the name's place in `names`. -/
theorem variant_reads (text : TextRun raw) (decoded : Utf8.toString? raw = some s)
    (index : names.idxOf? s = some i) {ws : List UInt8} (blank : Blank ws) (rest : List UInt8) (p : Nat) :
    Reads (variant names) ⟨ws ++ 0x22 :: (raw ++ 0x22 :: rest), p⟩ i
      ⟨rest, p + ws.length + raw.length + 2⟩ := by
  rw [variant, Reads.bind_iff (peekPastBlank_reads blank (by simp; decide) p)]
  exact (variantName_reads text decoded index rest _).at_pos (by omega)

end Variant

/-! ## Plain text -/

/-- A printable ASCII character other than a quote and a backslash is one byte, its code, that a
JSON string holds as it is. -/
theorem ascii_char {c : Char} (plain : (c ≠ '"' && c ≠ '\\' && 0x20 ≤ c.toNat && c.toNat < 0x7F) = true) :
    String.utf8EncodeChar c = [c.toNat.toUInt8] ∧ Unescaped c.toNat.toUInt8 ∧ c.toNat.toUInt8.toNat = c.toNat := by
  simp only [Bool.and_eq_true, decide_eq_true_eq, ne_eq] at plain
  obtain ⟨⟨⟨quote, slash⟩, low⟩, high⟩ := plain
  have quote' : c.toNat ≠ 0x22 := fun same => quote (Char.toNat_inj.mp (by simpa using same))
  have slash' : c.toNat ≠ 0x5C := fun same => slash (Char.toNat_inj.mp (by simpa using same))
  have small : c.toNat.toUInt8.toNat = c.toNat := by simp; omega
  refine ⟨?_, ?_, small⟩
  · have byte : c.val.toNat ≤ 127 := by simp only [Char.toNat] at high; omega
    rw [String.utf8EncodeChar, if_pos byte]
    rfl
  · refine ⟨fun h => quote' ?_, fun h => slash' ?_, ?_⟩
    · rw [← small, h]; rfl
    · rw [← small, h]; rfl
    · rw [UInt8.le_iff_toNat_le, small]; simpa using low

theorem ascii_decode (cs : List Char)
    (plain : cs.all (fun c => c ≠ '"' && c ≠ '\\' && 0x20 ≤ c.toNat && c.toNat < 0x7F) = true) :
    Utf8.decode? (cs.flatMap String.utf8EncodeChar) = some cs ∧
      ∀ b ∈ cs.flatMap String.utf8EncodeChar, Unescaped b := by
  induction cs with
  | nil => exact ⟨rfl, by simp⟩
  | cons c more ih =>
    rw [List.all_cons] at plain
    obtain ⟨head, tail⟩ := Bool.and_eq_true_iff.mp plain
    obtain ⟨bytes, unescaped, small⟩ := ascii_char head
    obtain ⟨decoded, rest⟩ := ih tail
    have below : c.toNat.toUInt8 < 0x80 := by
      simp only [Bool.and_eq_true, decide_eq_true_eq] at head
      rw [UInt8.lt_iff_toNat_lt, small]
      simp only [UInt8.reduceToNat]
      omega
    have spread : (c :: more).flatMap String.utf8EncodeChar =
        c.toNat.toUInt8 :: more.flatMap String.utf8EncodeChar := by
      rw [List.flatMap_cons, bytes, List.singleton_append]
    rw [spread]
    refine ⟨?_, ?_⟩
    · rw [Utf8.decode?.eq_def]
      simp only [if_pos below, decoded, small, Char.ofNat_toNat, Option.map_some]
    · intro b mem
      rcases List.mem_cons.mp mem with same | later
      · exact same ▸ unescaped
      · exact rest b later

/-- Plain text is a run of a JSON string that reads back as the text. -/
theorem plainText_bytes {t : String} (plain : plainText t = true) :
    TextRun t.toUTF8.toList ∧ Utf8.toString? t.toUTF8.toList = some t := by
  obtain ⟨decoded, unescaped⟩ := ascii_decode t.toList plain
  rw [Utf8.toUTF8_toList]
  exact ⟨⟨unescaped, by simp [decoded]⟩, by simp [Utf8.toString?, decoded]⟩

/-! ## The module's JSON -/

/-- A variant's name, plain text among distinct names, is a JSON string, and the variant reader
reads it back as the variant's place. -/
theorem variant_string_reads {names : List String} {i : Nat} (bound : i < names.length)
    (distinct : names.Nodup) (plain : plainText names[i] = true) :
    Json (0x22 :: names[i].toUTF8.toList ++ [0x22]) ∧
      ReadsValue (variant names) (0x22 :: names[i].toUTF8.toList ++ [0x22]) i := by
  obtain ⟨text, decoded⟩ := plainText_bytes plain
  -- the name's place among distinct names is the variant's
  have index : names.idxOf? names[i] = some i := by
    rw [List.idxOf?_eq_some_iff]
    refine ⟨bound, rfl, fun j earlier same => ?_⟩
    have := (List.Nodup.getElem_inj_iff distinct).mp same
    omega
  refine ⟨.string (.last text.1), fun ws rest p blank delimited => ?_⟩
  have spread : ws ++ (0x22 :: names[i].toUTF8.toList ++ [0x22]) ++ rest =
      ws ++ 0x22 :: (names[i].toUTF8.toList ++ 0x22 :: rest) := by
    simp
  rw [spread]
  exact (variant_reads text decoded index blank rest p).at_pos (by simp; omega)

/-- The text of a value that fits its kind is a JSON value, and the reader of the kind reads it
back as the value. -/
theorem Shape.text_reads : (s : Shape) → (v : s.Value) → s.fits v = true →
    Json (s.text v).toUTF8.toList ∧ ReadsValue s.read (s.text v).toUTF8.toList v
  | .count, n, _ => by
    have numeral := numeral_toString n.toNat
    have fits : n.toNat ≤ 4294967295 := by
      have := UInt32.toNat_lt n
      omega
    have reads := count_reads_numeral numeral fits
    have back : n.toNat.toUInt32 = n := by simp
    rw [back] at reads
    exact ⟨numeral.json, reads⟩
  | .flag, b, _ => by
    have bytes : (toString b).toUTF8.toList =
        if b then [0x74, 0x72, 0x75, 0x65] else [0x66, 0x61, 0x6C, 0x73, 0x65] := by
      cases b <;> (rw [Utf8.toUTF8_toList]; decide)
    refine ⟨?_, ?_⟩
    · show Json (toString b).toUTF8.toList
      rw [bytes]
      cases b
      · exact .falseWord
      · exact .trueWord
    · show ReadsValue boolean (toString b).toUTF8.toList b
      rw [bytes]
      exact boolean_reads b
  | .variant names, i, fits => by
    simp only [Shape.fits, Bool.and_eq_true, decide_eq_true_eq, List.all_eq_true] at fits
    obtain ⟨⟨bound, distinct⟩, plain⟩ := fits
    have bytes : (Shape.text (.variant names) i).toUTF8.toList = 0x22 :: names[i].toUTF8.toList ++ [0x22] := by
      have named : names.getD i "" = names[i] := by simp [bound]
      have quote : "\"".toList.flatMap String.utf8EncodeChar = [0x22] := by decide
      simp only [Shape.text, named, Utf8.toUTF8_toList, String.toList_append, List.flatMap_append, quote]
      simp
    rw [bytes]
    exact variant_string_reads bound distinct (plain names[i] (List.getElem_mem bound))

/-- The module's JSON keeps the promises of a JSON library: it writes compactly, and reads back
what it wrote. -/
theorem json_laws : json.Laws where
  write_eq _ _ _ _ _ := rfl
  read_write struct key s v plain fits := by
    obtain ⟨value, reads⟩ := s.text_reads v fits
    have written : json.write key s v = ("\x7b\"" ++ key ++ "\":" ++ s.text v ++ "\x7d").toUTF8.toList := rfl
    show (document struct key s.read (json.write key s v)).mapError _ = .ok v
    rw [written, document_written struct key (s.text v) (plainText_bytes plain).1 value reads]
    rfl

end ButtonRelay.Payload

namespace ButtonRelay

open Payload

section Laws

variable {fmt : Format} (laws : fmt.Laws)
include laws

/-- A message whose field is plain text is written as its one-member object. -/
theorem Message.encode_laws {α : Type} (m : Message α) (plain : plainText m.field = true) (v : α)
    (fits : m.shape.fits (m.toField v) = true) :
    m.encode fmt v = ("\x7b\"" ++ m.field ++ "\":" ++ m.shape.text (m.toField v) ++ "\x7d").toUTF8.toList :=
  laws.write_eq _ _ _ plain fits

/-- A message reads back what it wrote, when its value stands for its field one to one. -/
theorem Message.decode_encode_laws {α : Type} (m : Message α) (plain : plainText m.field = true) (v : α)
    (fits : m.shape.fits (m.toField v) = true) (back : m.ofField (m.toField v) = v) :
    m.decode fmt (m.encode fmt v) = .ok v := by
  simp only [Message.decode, Message.encode, laws.read_write _ _ _ _ plain fits, back]

end Laws

end ButtonRelay
