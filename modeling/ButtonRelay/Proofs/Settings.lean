import Mathlib
import ButtonRelay.Fault

namespace ButtonRelay

namespace Text

/-- `s` spells `word` letter by letter, each letter in either ASCII case. -/
def CaseVariant (s word : List Char) : Prop :=
  List.Forall₂ (fun c l => c = l ∨ c = l.toUpper) s word

theorem toLower_eq_iff {c l : Char} (lower : l.isLower) : c.toLower = l ↔ c = l ∨ c = l.toUpper := by
  have fixed : l.toLower = l := Char.toLower_eq_of_not_isUpper (Char.not_isUpper_of_isLower lower)
  constructor
  · intro lowered
    by_cases upper : c.isUpper
    · right
      -- an upper-case letter is its own upper case, so raising its lower case gives it back
      calc c = c.toUpper := (Char.toUpper_eq_of_not_isLower (Char.not_isLower_of_isUpper upper)).symm
        _ = c.toLower.toUpper := (Char.toUpper_toLower_eq_toUpper c).symm
        _ = l.toUpper := by rw [lowered]
    · left
      rw [← lowered, Char.toLower_eq_of_not_isUpper upper]
  · rintro (rfl | rfl)
    · exact fixed
    · rw [Char.toLower_toUpper_eq_toLower, fixed]

/-- Lowering the ASCII letters of `s` gives a lower-case word exactly when `s` spells it in
some mix of cases; no other character lowers to an ASCII letter. -/
theorem map_toLower_eq_iff {s word : List Char} (lower : ∀ l ∈ word, l.isLower) :
    s.map Char.toLower = word ↔ CaseVariant s word := by
  induction s generalizing word with
  | nil => cases word <;> simp [CaseVariant]
  | cons c s ih =>
    cases word with
    | nil => simp [CaseVariant]
    | cons l word =>
      have rest : s.map Char.toLower = word ↔ CaseVariant s word :=
        ih fun l' member => lower l' (List.mem_cons_of_mem l member)
      simp only [List.map_cons, List.cons.injEq, CaseVariant, List.forall₂_cons]
      rw [toLower_eq_iff (lower l List.mem_cons_self), rest, CaseVariant]

theorem CaseVariant.not_blank {s word : List Char} (spelled : CaseVariant s word)
    (letters : ∀ l ∈ word, isBlank l = false ∧ isBlank l.toUpper = false) :
    ∀ c ∈ s, isBlank c = false := by
  induction spelled with
  | nil => simp
  | @cons c l s word same _ ih =>
    intro x member
    obtain ⟨plain, raised⟩ := letters l List.mem_cons_self
    rcases List.mem_cons.mp member with rfl | later
    · rcases same with rfl | rfl
      · exact plain
      · exact raised
    · exact ih (fun l' member' => letters l' (List.mem_cons_of_mem l member')) x later

/-- Trimming removes blank padding and nothing else from a text that neither starts nor ends
with a blank. -/
theorem trimBlankList_padded {pre core post : List Char} (blankPre : ∀ c ∈ pre, isBlank c)
    (blankPost : ∀ c ∈ post, isBlank c) (solid : ∀ c ∈ core, isBlank c = false) :
    trimBlankList (pre ++ core ++ post) = core := by
  have blankPost' : ∀ c ∈ post.reverse, isBlank c := fun c member => blankPost c (List.mem_reverse.mp member)
  cases core with
  | nil =>
    have gone : post.dropWhile isBlank = [] := by
      simpa using @List.dropWhile_append_of_pos _ isBlank post [] blankPost
    simp [trimBlankList, List.dropWhile_append_of_pos blankPre, gone]
  | cons first rest =>
    have front : (pre ++ (first :: rest) ++ post).dropWhile isBlank = first :: rest ++ post := by
      rw [List.append_assoc, List.dropWhile_append_of_pos blankPre, List.cons_append,
        List.dropWhile_cons_of_neg (by simp [solid first List.mem_cons_self])]
    -- the reversed core starts with the core's last character, which is not blank
    obtain ⟨init, last, split⟩ := List.eq_nil_or_concat (first :: rest) |>.resolve_left (by simp)
    rw [List.concat_eq_append] at split
    have lastSolid : isBlank last = false := solid last (by simp [split])
    have back : ((first :: rest ++ post).reverse.dropWhile isBlank) = (first :: rest).reverse := by
      rw [List.reverse_append, List.dropWhile_append_of_pos blankPost', split, List.reverse_concat,
        List.dropWhile_cons_of_neg (by simp [lastSolid])]
    simp only [trimBlankList, front, back, List.reverse_reverse]

/-- What trimming takes off both ends is blank. -/
theorem trimBlankList_padding (cs : List Char) :
    ∃ pre post, (∀ c ∈ pre, isBlank c) ∧ (∀ c ∈ post, isBlank c) ∧
      cs = pre ++ trimBlankList cs ++ post := by
  let inner := cs.dropWhile isBlank
  refine ⟨cs.takeWhile isBlank, (inner.reverse.takeWhile isBlank).reverse, ?_, ?_, ?_⟩
  · intro c member
    exact List.mem_takeWhile_imp member
  · intro c member
    exact List.mem_takeWhile_imp (List.mem_reverse.mp member)
  · have split : inner = trimBlankList cs ++ (inner.reverse.takeWhile isBlank).reverse := by
      rw [trimBlankList, ← List.reverse_append, List.takeWhile_append_dropWhile, List.reverse_reverse]
    rw [List.append_assoc, ← split]
    exact (List.takeWhile_append_dropWhile).symm

end Text

/-- `text` names `mode`: the mode's name in any mix of ASCII cases, with blanks before and
after it. -/
def Delivery.Spelled (mode : Delivery) (text : String) : Prop :=
  ∃ pre word post, text.toList = pre ++ word ++ post ∧ (∀ c ∈ pre, Text.isBlank c) ∧
    (∀ c ∈ post, Text.isBlank c) ∧ Text.CaseVariant word mode.display.toList

namespace Delivery

theorem normalize_toList (text : String) :
    (normalize text).toList = (Text.trimBlankList text.toList).map Char.toLower := by
  simp [normalize, Text.asciiLower, Text.trimBlank, String.toList_ofList]

theorem parse_eq_ok_iff_normalize (text : String) (mode : Delivery) :
    parse text = .ok mode ↔ normalize text = mode.display := by
  cases mode <;> by_cases queue : normalize text = "queue" <;> by_cases callback : normalize text = "callback" <;>
    simp_all [parse, display]

theorem display_letters (mode : Delivery) :
    ∀ l ∈ mode.display.toList, l.isLower ∧ Text.isBlank l = false ∧ Text.isBlank l.toUpper = false := by
  cases mode <;> simp [display, Text.isBlank, Char.isLower, Char.toUpper]

/-- A mode is read from exactly the texts that spell it: its name in any ASCII case between
blanks. A look-alike outside ASCII (a fullwidth letter, the Kelvin sign) spells nothing. -/
theorem parse_eq_ok_iff (text : String) (mode : Delivery) : parse text = .ok mode ↔ mode.Spelled text := by
  have letters := display_letters mode
  have lowered : parse text = .ok mode ↔ Text.CaseVariant (Text.trimBlankList text.toList) mode.display.toList := by
    rw [parse_eq_ok_iff_normalize, ← String.toList_inj, normalize_toList,
      Text.map_toLower_eq_iff fun l member => (letters l member).1]
  rw [lowered]
  constructor
  · intro spelled
    obtain ⟨pre, post, blankPre, blankPost, split⟩ := Text.trimBlankList_padding text.toList
    exact ⟨pre, _, post, split, blankPre, blankPost, spelled⟩
  · rintro ⟨pre, word, post, split, blankPre, blankPost, spelled⟩
    have solid := spelled.not_blank fun l member => (letters l member).2
    rwa [split, Text.trimBlankList_padded blankPre blankPost solid]

example : parse " CallBack\t" = .ok .callback ∧ parse "callbac\u212A" = .error "callbac\u212A" := by
  decide

theorem parse_eq_error_iff (text v : String) :
    parse text = .error v ↔ v = normalize text ∧ v ≠ "queue" ∧ v ≠ "callback" := by
  simp only [parse]
  split_ifs with queue callback
  · refine iff_of_false (by simp) ?_
    rintro ⟨rfl, other, -⟩
    exact other queue
  · refine iff_of_false (by simp) ?_
    rintro ⟨rfl, -, other⟩
    exact other callback
  · simp only [Except.error.injEq]
    constructor
    · rintro rfl
      exact ⟨rfl, queue, callback⟩
    · rintro ⟨rfl, -⟩
      rfl

end Delivery

namespace Config

theorem check_eq_error_iff (get : String → Option String) (c : ConfigFault) :
    check get = .error (.invalidConfiguration c) ↔ ofLookup get = .error c := by
  cases read : ofLookup get <;> simp [check, read, Except.mapError]

theorem check_eq_ok_iff (get : String → Option String) (config : Config) :
    check get = .ok config ↔ ofLookup get = .ok config := by
  cases read : ofLookup get <;> simp [check, read, Except.mapError]

theorem check_missing_iff (get : String → Option String) :
    check get = .error (.invalidConfiguration .missingButton) ↔ get "button" = none := by
  rw [check_eq_error_iff]
  cases button : get "button" with
  | none => simp [ofLookup, button]
  | some b =>
    cases chars : b.toList with
    | nil => simp [ofLookup, button, chars]
    | cons c rest =>
      cases delivery : get "delivery" with
      | none => simp [ofLookup, button, chars, delivery]
      | some d => cases parsed : Delivery.parse d <;> simp [ofLookup, button, chars, delivery, parsed]

theorem check_empty_iff (get : String → Option String) :
    check get = .error (.invalidConfiguration .emptyButton) ↔ get "button" = some "" := by
  rw [check_eq_error_iff]
  cases button : get "button" with
  | none => simp [ofLookup, button]
  | some b =>
    cases chars : b.toList with
    | nil => simp [ofLookup, button, String.toList_eq_nil_iff.mp chars]
    | cons c rest =>
      have filled : b ≠ "" := fun empty => by simp [empty] at chars
      cases delivery : get "delivery" with
      | none => simp [ofLookup, button, chars, delivery, filled]
      | some d => cases parsed : Delivery.parse d <;> simp [ofLookup, button, chars, delivery, parsed, filled]

theorem check_unknown_iff (get : String → Option String) (v : String) :
    check get = .error (.invalidConfiguration (.unknownDelivery v)) ↔
      ∃ b d, get "button" = some b ∧ b ≠ "" ∧ get "delivery" = some d ∧ Delivery.parse d = .error v := by
  rw [check_eq_error_iff]
  cases button : get "button" with
  | none => simp [ofLookup, button]
  | some b =>
    cases chars : b.toList with
    | nil => simp [ofLookup, button, String.toList_eq_nil_iff.mp chars]
    | cons c rest =>
      have filled : b ≠ "" := fun empty => by simp [empty] at chars
      cases delivery : get "delivery" with
      | none => simp [ofLookup, button, chars, delivery]
      | some d => cases parsed : Delivery.parse d <;> simp [ofLookup, button, chars, delivery, parsed, filled]

theorem check_ok_iff (get : String → Option String) (config : Config) :
    check get = .ok config ↔
      ∃ b, get "button" = some b ∧ b.toList.head? = some config.trigger ∧
        (get "delivery" = none ∧ config.delivery = .queue ∨
          ∃ d, get "delivery" = some d ∧ Delivery.parse d = .ok config.delivery) := by
  rw [check_eq_ok_iff]
  obtain ⟨trigger, mode⟩ := config
  cases button : get "button" with
  | none => simp [ofLookup, button]
  | some b =>
    cases chars : b.toList with
    | nil => simp [ofLookup, button, chars]
    | cons c rest =>
      cases delivery : get "delivery" with
      | none => simp [ofLookup, button, chars, delivery, eq_comm]
      | some d => cases parsed : Delivery.parse d <;> simp [ofLookup, button, chars, delivery, parsed, eq_comm]

/-- Only the values under exactly `button` and `delivery` are read. -/
theorem check_congr {get get' : String → Option String} (button : get "button" = get' "button")
    (delivery : get "delivery" = get' "delivery") : check get = check get' := by
  simp only [check, ofLookup, button, delivery]

/-- A configuration is read from any key lookup in a fixed order: a missing `button` is refused
first, then an empty one, then a `delivery` value that does not name a mode once trimmed of
blanks and lowered in ASCII; otherwise the trigger is the first character of `button` and the
mode is the one `delivery` names, the queue when it is absent. A mode is named by exactly its
name in any ASCII case between blanks, and by its own display text. Keys match exactly, and
no other key is read. -/
theorem check_reads_button_then_delivery (get : String → Option String) :
    (check get = .error (.invalidConfiguration .missingButton) ↔ get "button" = none) ∧
    (check get = .error (.invalidConfiguration .emptyButton) ↔ get "button" = some "") ∧
    (∀ v, check get = .error (.invalidConfiguration (.unknownDelivery v)) ↔
      ∃ b d, get "button" = some b ∧ b ≠ "" ∧ get "delivery" = some d ∧
        v = Delivery.normalize d ∧ v ≠ "queue" ∧ v ≠ "callback") ∧
    (∀ config, check get = .ok config ↔
      ∃ b, get "button" = some b ∧ b.toList.head? = some config.trigger ∧
        (get "delivery" = none ∧ config.delivery = .queue ∨
          ∃ d, get "delivery" = some d ∧ Delivery.parse d = .ok config.delivery)) ∧
    (ConfigFault.missingButton.message = "Missing value for key 'button'" ∧
      ConfigFault.emptyButton.message = "Empty value for key 'button'" ∧
      ∀ v, (ConfigFault.unknownDelivery v).message =
        "Unknown delivery mode '" ++ v ++ "', expected 'queue' or 'callback'") ∧
    (∀ text mode, Delivery.parse text = .ok mode ↔ mode.Spelled text) ∧
    (∀ mode : Delivery, Delivery.parse mode.display = .ok mode) ∧
    (∀ get' : String → Option String, get' "button" = get "button" → get' "delivery" = get "delivery" →
      check get' = check get) := by
  refine ⟨check_missing_iff get, check_empty_iff get, ?_, check_ok_iff get, ⟨rfl, rfl, fun _ => rfl⟩,
    Delivery.parse_eq_ok_iff, Delivery.parse_display, fun get' => check_congr⟩
  intro v
  rw [check_unknown_iff]
  simp only [Delivery.parse_eq_error_iff]

end Config

end ButtonRelay
