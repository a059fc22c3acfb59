import Mathlib
import ButtonRelay.Proofs.Values

/-!
Reading one-field records from JSON objects. The member reader goes through the members in
turn: it reads the value of the member whose key is the field, skips every other value, and
refuses a second member with that key or none at all. Main statements: a record is read from an
object as the value of its only member named by the field (`record_reads`), and a struct written
compactly reads back as its value (`document_written`).
-/

namespace ButtonRelay.Payload

variable {α : Type}

/-- `value` reads the JSON value `v`, after any blanks, as `a` and stops right after it. -/
def ReadsValue (value : Read α) (v : List UInt8) (a : α) : Prop :=
  ∀ ws rest p, Blank ws → Delimited rest →
    Reads value ⟨ws ++ v ++ rest, p⟩ a ⟨rest, p + ws.length + v.length⟩

theorem ReadsValue.unique {value : Read α} {v : List UInt8} {a b : α} (first : ReadsValue value v a)
    (second : ReadsValue value v b) : a = b := by
  have one := first [] [] 0 Blank.nil Delimited.nil
  have two := second [] [] 0 Blank.nil Delimited.nil
  unfold Reads at one two
  rw [one] at two
  cases two
  rfl

theorem ReadsValue.map {β : Type} {value : Read α} {v : List UInt8} {a : α} (reads : ReadsValue value v a)
    (g : α → β) : ReadsValue (g <$> value) v (g a) :=
  fun ws rest p blank delimited => (reads ws rest p blank delimited).map

/-- A member whose key reads as `d`, with blanks only around its key and value, and a JSON
value. -/
structure Member.Keyed (m : Member) (d : List UInt8) : Prop where
  blankLead : Blank m.keyLead
  key : StringBody m.key d
  blankTrail : Blank m.keyTrail
  spaced : m.entry.Spaced
  json : Json m.entry.value

/-- The bytes of an object with the members `ms`. -/
def objectText (ms : List Member) : List UInt8 :=
  0x7B :: [0x2C].intercalate (ms.map Member.text) ++ [0x7D]

/-- A member with no blanks, its key and value as given. -/
def Member.bare (key value : List UInt8) : Member := ⟨[], key, [], ⟨[], value, []⟩⟩

/-- The bytes in front of a member: nothing before the first, else the blanks after the last
value and a comma. -/
def separator (first : Bool) (t : List UInt8) : List UInt8 := if first then [] else t ++ [0x2C]

/-- The members `ms` of an object up to its closing brace, as the member reader meets them:
`t` is what stands after the last value read, and `first` tells whether one was. -/
def membersText (first : Bool) (t : List UInt8) : List Member → List UInt8
  | [] => t
  | m :: more =>
    separator first t ++ m.label ++ m.entry.lead ++ m.entry.value ++ membersText false m.entry.trail more

theorem membersText_later (t : List UInt8) (ms : List Member) :
    t ++ (ms.map fun m => 0x2C :: m.text).flatten = membersText false t ms := by
  induction ms generalizing t with
  | nil => simp [membersText]
  | cons m more ih =>
    simp only [List.map_cons, List.flatten_cons, membersText, separator, ← ih]
    simp [Member.text, Padded.text]

theorem objectText_eq (ms : List Member) : objectText ms = 0x7B :: (membersText true [] ms ++ [0x7D]) := by
  cases ms with
  | nil => rfl
  | cons m more =>
    rw [objectText, List.map_cons, intercalate_comma, List.map_map]
    simp only [membersText, separator, if_true, List.nil_append, ← membersText_later]
    simp [Member.text, Padded.text, Function.comp_def]

theorem membersText_delimited {t : List UInt8} (blank : Blank t) (ms : List Member) (rest : List UInt8) :
    Delimited (membersText false t ms ++ 0x7D :: rest) := by
  cases ms with
  | nil => exact blank.delimited fun b found => .inr (.inr (Option.some.inj found).symm)
  | cons m more =>
    simp only [membersText, separator, Bool.false_eq_true, if_false, List.append_assoc,
      List.singleton_append]
    exact blank.delimited fun b found => .inl (Option.some.inj found).symm

theorem length_le_membersText (first : Bool) (t : List UInt8) (ms : List Member) :
    ms.length ≤ (membersText first t ms).length := by
  induction ms generalizing first t with
  | nil => simp
  | cons m more ih =>
    have later := ih false m.entry.trail
    simp only [membersText, Member.label, List.length_cons, List.length_append] at later ⊢
    omega

/-! ## Keys -/

section Keys

variable (field : String) (first : Bool)

theorem nextKey_close {t : List UInt8} (blank : Blank t) (rest : List UInt8) (p : Nat) :
    Reads (nextKey field first) ⟨t ++ 0x7D :: rest, p⟩ none ⟨0x7D :: rest, p + t.length⟩ := by
  rw [nextKey, Reads.bind_iff (peekPastBlank_reads blank (by simp; decide) p)]
  exact .pure _ _

theorem nextKey_key {m : Member} {d : List UInt8} (blankLead : Blank m.keyLead)
    (body : StringBody m.key d) {t : List UInt8} (blank : Blank t) (after : List UInt8) (p : Nat) :
    Reads (nextKey field first) ⟨separator first t ++ m.label ++ after, p⟩
      (some (decide (d = field.toUTF8.toList)))
      ⟨m.keyTrail ++ 0x3A :: after, p + (separator first t).length + m.keyLead.length + m.key.length + 2⟩ := by
  have text : separator first t ++ m.label ++ after =
      separator first t ++ m.keyLead ++ 0x22 :: (m.key ++ 0x22 :: (m.keyTrail ++ 0x3A :: after)) := by
    simp [Member.label]
  -- whether or not a comma came first, the key is read from its opening quote on
  have quoted : ∀ q, Reads (do bump; let key ← string; pure (some (decide (key = field.toUTF8.toList))))
      ⟨0x22 :: (m.key ++ 0x22 :: (m.keyTrail ++ 0x3A :: after)), q⟩ (some (decide (d = field.toUTF8.toList)))
      ⟨m.keyTrail ++ 0x3A :: after, q + m.key.length + 2⟩ := fun q =>
    .bind (bump_cons _ _ _) (.bind ((string_reads body _ _).at_pos (by omega)) (.pure _ _))
  rw [text, nextKey]
  cases first with
  | true =>
    simp only [separator, if_true, List.nil_append, List.length_nil, Nat.add_zero]
    rw [Reads.bind_iff (peekPastBlank_reads blankLead (by simp; decide) p)]
    exact .bind (.pure _ _) (quoted _)
  | false =>
    simp only [separator, Bool.false_eq_true, if_false, List.append_assoc, List.singleton_append]
    rw [Reads.bind_iff (peekPastBlank_reads blank (by simp; decide) p)]
    refine .bind (bump_cons _ _ _) (.bind (peekPastBlank_reads blankLead (by simp; decide) _) ?_)
    exact (quoted _).at_pos (by simp; omega)

theorem nextKey_member {m : Member} {d : List UInt8} (keyed : m.Keyed d) (more : List Member)
    {t : List UInt8} (blank : Blank t) (rest : List UInt8) (p : Nat) :
    Reads (nextKey field first) ⟨membersText first t (m :: more) ++ 0x7D :: rest, p⟩
      (some (decide (d = field.toUTF8.toList)))
      ⟨m.keyTrail ++ 0x3A :: (m.entry.lead ++ m.entry.value ++ (membersText false m.entry.trail more ++ 0x7D :: rest)),
        p + (separator first t).length + m.keyLead.length + m.key.length + 2⟩ := by
  have text : membersText first t (m :: more) ++ 0x7D :: rest = separator first t ++ m.label ++
      (m.entry.lead ++ m.entry.value ++ (membersText false m.entry.trail more ++ 0x7D :: rest)) := by
    simp [membersText]
  rw [text]
  exact nextKey_key field first keyed.blankLead keyed.key blank _ p

end Keys

theorem objectEnd_reads (rest : List UInt8) (p : Nat) :
    Reads objectEnd ⟨0x7D :: rest, p⟩ () ⟨rest, p + 1⟩ := by
  rw [objectEnd, Reads.bind_iff (peekPastBlank_solid (by simp; decide) p)]
  exact bump_cons _ _ _

/-! ## One member -/

section Steps

variable {field : String} {value : Read α} {fuel : Nat} {first : Bool} {c : Cursor} {m : Member}
  {after : List UInt8} {q : Nat}

/-- A member with another key: its value is skipped. -/
theorem members_skip (found : Option α)
    (next : Reads (nextKey field first) c (some false)
      ⟨m.keyTrail ++ 0x3A :: (m.entry.lead ++ m.entry.value ++ after), q⟩)
    (blankTrail : Blank m.keyTrail) (blank : Blank m.entry.lead) (json : Json m.entry.value)
    (delimited : Delimited after) :
    (members field value (fuel + 1) first found).run.run c =
      (members field value fuel false found).run.run
        ⟨after, q + m.keyTrail.length + 1 + m.entry.lead.length + m.entry.value.length⟩ := by
  simp only [members]
  rw [Reads.run_bind next]
  simp only
  rw [Reads.run_bind (colon_reads blankTrail _ q), Reads.run_bind (skipValue_reads blank json delimited _)]

/-- The first member with the field's key: its value is read and kept. -/
theorem members_take {a : α}
    (next : Reads (nextKey field first) c (some true)
      ⟨m.keyTrail ++ 0x3A :: (m.entry.lead ++ m.entry.value ++ after), q⟩)
    (blankTrail : Blank m.keyTrail) (blank : Blank m.entry.lead) (reads : ReadsValue value m.entry.value a)
    (delimited : Delimited after) :
    (members field value (fuel + 1) first none).run.run c =
      (members field value fuel false (some a)).run.run
        ⟨after, q + m.keyTrail.length + 1 + m.entry.lead.length + m.entry.value.length⟩ := by
  simp only [members]
  rw [Reads.run_bind next]
  simp only [Option.isSome_none, Bool.false_eq_true, if_false]
  rw [Reads.run_bind (colon_reads blankTrail _ q), Reads.run_bind (reads _ _ _ blank delimited)]

theorem members_end_kept {c' : Cursor} (kept : α) (next : Reads (nextKey field first) c none c') :
    Reads (members field value (fuel + 1) first (some kept)) c kept c' := by
  simp only [members]
  exact .bind next (.pure _ _)

end Steps

/-! ## All members -/

/-- Reading the members `ms`, with `found` kept from those before them, ends with `a` kept:
`a` is the value of the one member named `key`, as `value` reads it. -/
def Kept (value : Read α) (key : List UInt8) (name : Member → List UInt8) (found : Option α)
    (ms : List Member) (a : α) : Prop :=
  (found = some a ∧ ms.filter (fun m => name m = key) = []) ∨
    (found = none ∧ ∃ m, ms.filter (fun m => name m = key) = [m] ∧ ReadsValue value m.entry.value a)

section Kept

variable {value : Read α} {key : List UInt8} {name : Member → List UInt8} {found : Option α}
  {m : Member} {more : List Member} {a : α}

theorem Kept.nil (kept : Kept value key name found [] a) : found = some a := by
  rcases kept with ⟨same, -⟩ | ⟨-, m, single, -⟩
  · exact same
  · simp at single

theorem Kept.skip (unnamed : name m ≠ key) :
    Kept value key name found (m :: more) a ↔ Kept value key name found more a := by
  unfold Kept
  rw [List.filter_cons_of_neg (by simpa using unnamed)]

theorem Kept.of_named (named : name m = key) (kept : Kept value key name found (m :: more) a) :
    found = none ∧ ReadsValue value m.entry.value a ∧ Kept value key name (some a) more a := by
  unfold Kept at kept
  rw [List.filter_cons_of_pos (by simpa using named)] at kept
  rcases kept with ⟨-, empty⟩ | ⟨none, m', single, reads⟩
  · simp at empty
  · obtain ⟨rfl, rest⟩ := List.cons_eq_cons.mp single
    exact ⟨none, reads, .inl ⟨rfl, rest⟩⟩

theorem Kept.take {b : α} (named : name m = key) (reads : ReadsValue value m.entry.value b)
    (later : Kept value key name (some b) more a) : Kept value key name none (m :: more) a := by
  rcases later with ⟨same, empty⟩ | ⟨wrong, -⟩
  · cases Option.some.inj same
    refine .inr ⟨rfl, m, ?_, reads⟩
    rw [List.filter_cons_of_pos (by simpa using named), empty]
  · cases wrong

end Kept

section Loop

variable {field : String} {value : Read α} (name : Member → List UInt8) (rest : List UInt8)

/-- The member loop keeps the value of the one member named by the field. The induction is on
the members left, with what stands before them and what was kept so far generalised. -/
theorem members_reads {a : α} : ∀ (ms : List Member) first t found fuel p,
    (∀ m ∈ ms, m.Keyed (name m)) → Blank t → ms.length < fuel →
    Kept value field.toUTF8.toList name found ms a →
    Reads (members field value fuel first found) ⟨membersText first t ms ++ 0x7D :: rest, p⟩ a
      ⟨0x7D :: rest, p + (membersText first t ms).length⟩ := by
  intro ms
  induction ms with
  | nil =>
    intro first t found fuel p _ blank long kept
    obtain ⟨fuel, rfl⟩ := Nat.exists_eq_add_of_lt long
    rw [kept.nil]
    exact members_end_kept a (nextKey_close field first blank rest p)
  | cons m more ih =>
    intro first t found fuel p each blank long kept
    obtain ⟨fuel, rfl⟩ : ∃ f, fuel = f + 1 := ⟨fuel - 1, by simp at long; omega⟩
    have keyed := each m List.mem_cons_self
    have others : ∀ x ∈ more, x.Keyed (name x) := fun x member => each x (List.mem_cons_of_mem m member)
    have next := nextKey_member field first keyed more blank rest p
    have delimited := membersText_delimited keyed.spaced.2 more rest
    have shorter : more.length < fuel := by simp at long; omega
    have ends : ∀ q, q = p + (separator first t).length + m.keyLead.length + m.key.length + 2 +
        m.keyTrail.length + 1 + m.entry.lead.length + m.entry.value.length →
        q + (membersText false m.entry.trail more).length = p + (membersText first t (m :: more)).length := by
      intro q same
      simp only [membersText, Member.label, List.length_append, List.length_cons, List.length_nil]
      omega
    by_cases named : name m = field.toUTF8.toList
    · rw [decide_eq_true named] at next
      obtain ⟨rfl, reads, later⟩ := kept.of_named named
      refine Reads.of_run_eq (members_take next keyed.blankTrail keyed.spaced.1 reads delimited) ?_
      exact (ih false _ _ fuel _ others keyed.spaced.2 shorter later).at_pos (ends _ rfl)
    · rw [decide_eq_false named] at next
      refine Reads.of_run_eq (members_skip found next keyed.blankTrail keyed.spaced.1 keyed.json delimited) ?_
      exact (ih false _ _ fuel _ others keyed.spaced.2 shorter ((Kept.skip named).mp kept)).at_pos (ends _ rfl)

end Loop

/-! ## Records and documents -/

section Record

variable {field : String} {value : Read α} {name : Member → List UInt8} {ms : List Member}
  {lead : List UInt8}

theorem record_reads (recordName : String) (each : ∀ m ∈ ms, m.Keyed (name m)) {a : α}
    (kept : Kept value field.toUTF8.toList name none ms a) (blankLead : Blank lead)
    (rest : List UInt8) (p : Nat) :
    Reads (record recordName field value) ⟨lead ++ objectText ms ++ rest, p⟩ a
      ⟨rest, p + lead.length + (objectText ms).length⟩ := by
  have text : lead ++ objectText ms ++ rest = lead ++ 0x7B :: (membersText true [] ms ++ 0x7D :: rest) := by
    simp [objectText_eq]
  have room := length_le_membersText true [] ms
  rw [text]
  apply Reads.placed
  rw [Reads.bind_iff (peekPastBlank_reads blankLead (by simp; decide) p)]
  refine .bind (bump_cons _ _ _) (.bind (get_reads _) ?_)
  refine .bind (members_reads name rest ms true [] none _ _ each Blank.nil (by simp; omega) kept).attempt
    (.bind (objectEnd_reads rest _).attempt ?_)
  refine (Reads.settle _ a).at_pos ?_
  simp only [objectText_eq, List.length_cons, List.length_append, List.length_nil]
  omega

theorem document_reads (recordName : String) {input trail : List UInt8} {a : α} {q : Nat}
    (run : Reads (record recordName field value) ⟨input, 0⟩ a ⟨trail, q⟩) (blank : Blank trail) :
    document recordName field value input = .ok a := by
  have look : Reads peekPastBlank ⟨trail ++ [], q⟩ none ⟨[], q + trail.length⟩ :=
    @peekPastBlank_reads _ blank [] (fun _ none => nomatch none) q
  rw [List.append_nil] at look
  unfold document
  dsimp only
  rw [Reads.run_bind run, Reads.run_bind look]
  rfl

end Record

end ButtonRelay.Payload

namespace ButtonRelay.Payload

/-- A struct is written compactly as an object of one member: its key and the value's text. -/
theorem written_eq (key text : String) :
    ("\x7b\"" ++ key ++ "\":" ++ text ++ "\x7d").toUTF8.toList =
      objectText [Member.bare key.toUTF8.toList text.toUTF8.toList] := by
  simp only [Utf8.toUTF8_toList, String.toList_append, List.flatMap_append]
  have opening : "\x7b\"".toList.flatMap String.utf8EncodeChar = [0x7B, 0x22] := by decide
  have middle : "\":".toList.flatMap String.utf8EncodeChar = [0x22, 0x3A] := by decide
  have closing : "\x7d".toList.flatMap String.utf8EncodeChar = [0x7D] := by decide
  rw [opening, middle, closing]
  simp [objectText, Member.text, Member.label, Padded.text, Member.bare]

/-- A struct written compactly reads back as its value, when its key is plain text and the reader
reads the JSON value written. -/
theorem document_written (struct key text : String) {α : Type} {value : Read α} {a : α}
    (keyText : TextRun key.toUTF8.toList) (json : Json text.toUTF8.toList)
    (reads : ReadsValue value text.toUTF8.toList a) :
    document struct key value ("\x7b\"" ++ key ++ "\":" ++ text ++ "\x7d").toUTF8.toList = .ok a := by
  have keyed : (Member.bare key.toUTF8.toList text.toUTF8.toList).Keyed key.toUTF8.toList :=
    ⟨Blank.nil, .last keyText, Blank.nil, ⟨Blank.nil, Blank.nil⟩, json⟩
  have kept : Kept value key.toUTF8.toList (fun _ => key.toUTF8.toList) none
      [Member.bare key.toUTF8.toList text.toUTF8.toList] a :=
    .inr ⟨rfl, Member.bare key.toUTF8.toList text.toUTF8.toList, by simp, reads⟩
  have read := record_reads struct (fun x member => by rw [List.mem_singleton.mp member]; exact keyed) kept
    Blank.nil [] 0
  rw [written_eq]
  simpa using document_reads struct read Blank.nil

end ButtonRelay.Payload
