import Mathlib
import ButtonRelay.Proofs.Numbers
import ButtonRelay.Proofs.Strings

/-!
Skipping JSON values. `Json` gives the texts of JSON values, blanks inside brackets included;
the skipper walks them with a stack of open brackets, one step per value, comma or closing
bracket. Main statement: the skipper reads through every JSON value and stops right after it
(`skipValue_reads`).
-/

namespace ButtonRelay.Payload

/-- A value with the blanks around it, as it stands between commas. -/
structure Padded where
  lead : List UInt8
  value : List UInt8
  trail : List UInt8

/-- The bytes of a padded value. -/
def Padded.text (e : Padded) : List UInt8 := e.lead ++ e.value ++ e.trail

/-- A member of an object: blanks, a key between quotes as written, blanks, a colon and a
padded value. -/
structure Member where
  keyLead : List UInt8
  key : List UInt8
  keyTrail : List UInt8
  entry : Padded

/-- The bytes of a member up to its value: the key and the colon. -/
def Member.label (m : Member) : List UInt8 :=
  m.keyLead ++ 0x22 :: m.key ++ 0x22 :: m.keyTrail ++ [0x3A]

/-- The bytes of a member. -/
def Member.text (m : Member) : List UInt8 := m.label ++ m.entry.text

/-- A padded value whose paddings are blanks. -/
def Padded.Spaced (e : Padded) : Prop := Blank e.lead ∧ Blank e.trail

/-- The texts of JSON values, with any blanks inside brackets; strings are those of JSON's
grammar, whether or not they are UTF-8. -/
inductive Json : List UInt8 → Prop
  | nullWord : Json [0x6E, 0x75, 0x6C, 0x6C]
  | trueWord : Json [0x74, 0x72, 0x75, 0x65]
  | falseWord : Json [0x66, 0x61, 0x6C, 0x73, 0x65]
  | number {t : List UInt8} : NumberToken t → Json t
  | string {body : List UInt8} : LooseBody body → Json (0x22 :: body ++ [0x22])
  | emptyArray {ws : List UInt8} : Blank ws → Json (0x5B :: ws ++ [0x5D])
  | emptyObject {ws : List UInt8} : Blank ws → Json (0x7B :: ws ++ [0x7D])
  | array {items : List Padded} : items ≠ [] → (∀ e ∈ items, e.Spaced) →
      (∀ e ∈ items, Json e.value) → Json (0x5B :: [0x2C].intercalate (items.map Padded.text) ++ [0x5D])
  | object {members : List Member} : members ≠ [] →
      (∀ m ∈ members, Blank m.keyLead ∧ LooseBody m.key ∧ Blank m.keyTrail ∧ m.entry.Spaced) →
      (∀ m ∈ members, Json m.entry.value) →
      Json (0x7B :: [0x2C].intercalate (members.map Member.text) ++ [0x7D])

/-! ## Keys and colons -/

theorem colon_reads {ws : List UInt8} (blank : Blank ws) (rest : List UInt8) (p : Nat) :
    Reads colon ⟨ws ++ 0x3A :: rest, p⟩ () ⟨rest, p + ws.length + 1⟩ := by
  rw [colon, Reads.bind_iff (peekPastBlank_reads blank (by simp; decide) p)]
  simp only [List.head?]
  exact bump_cons _ _ _

theorem skipKey_reads {lead key trail : List UInt8} (blankLead : Blank lead) (body : LooseBody key)
    (blankTrail : Blank trail) (rest : List UInt8) (p : Nat) :
    Reads skipKey ⟨lead ++ 0x22 :: key ++ 0x22 :: trail ++ 0x3A :: rest, p⟩ ()
      ⟨rest, p + lead.length + key.length + 2 + trail.length + 1⟩ := by
  simp only [List.append_assoc, List.cons_append]
  rw [skipKey, Reads.bind_iff (peekPastBlank_reads blankLead (by simp; decide) p)]
  simp only [List.head?]
  rw [Reads.bind_iff (bump_cons _ _ _), Reads.bind_iff (skipString_reads body _ _)]
  exact (colon_reads blankTrail rest _).at_pos (by omega)

/-! ## Steps of the skipper -/

/-- Where the skipper goes on after a value inside `enclosing`, if any, with `stack` open
around it. -/
def resume (fuel : Nat) (stack : List UInt8) (enclosing : Option UInt8) : Read Unit :=
  match enclosing with
  | some f => skipRun fuel stack (.close f true)
  | none =>
    match stack with
    | f :: more => skipRun fuel more (.close f true)
    | [] => pure ()

/-- What the skipper does on entering an item inside `frame`: in an object it skips the key
and the colon, then the value. -/
def enter (fuel : Nat) (stack : List UInt8) (frame : UInt8) : Read Unit := do
  if frame = 0x7B then skipKey
  skipRun fuel stack (.value (some frame))

section Steps

variable {fuel : Nat} {stack : List UInt8} {enclosing : Option UInt8} {p : Nat} {c : Cursor}

/-- The first byte of a scalar value: a keyword, a number or a string. -/
def Scalar (v : List UInt8) : Prop :=
  v = [0x6E, 0x75, 0x6C, 0x6C] ∨ v = [0x74, 0x72, 0x75, 0x65] ∨ v = [0x66, 0x61, 0x6C, 0x73, 0x65] ∨
    NumberToken v ∨ ∃ body, LooseBody body ∧ v = 0x22 :: body ++ [0x22]

/-- A scalar value takes one step, after which the skipper goes on as after any value. -/
theorem skipRun_scalar {v rest : List UInt8} (scalar : Scalar v) (delimited : Delimited rest)
    (after : Reads (resume fuel stack enclosing) ⟨rest, p + v.length⟩ () c) :
    Reads (skipRun (fuel + 1) stack (.value enclosing)) ⟨v ++ rest, p⟩ () c := by
  simp only [skipRun]
  rcases scalar with rfl | rfl | rfl | ⟨sign, whole, frac, exp, rfl, signed, digits, fraction, exponent⟩ |
    ⟨body, loose, rfl⟩
  · rw [Reads.bind_iff (peekPastBlank_solid (by simp; decide) p)]
    simp only [List.cons_append, List.head?]
    exact .bind (bump_cons _ _ _) (.bind (keyword_reads [0x75, 0x6C, 0x6C] rest _) (.bind (.pure _ _) after))
  · rw [Reads.bind_iff (peekPastBlank_solid (by simp; decide) p)]
    simp only [List.cons_append, List.head?]
    exact .bind (bump_cons _ _ _) (.bind (keyword_reads [0x72, 0x75, 0x65] rest _) (.bind (.pure _ _) after))
  · rw [Reads.bind_iff (peekPastBlank_solid (by simp; decide) p)]
    simp only [List.cons_append, List.head?]
    exact .bind (bump_cons _ _ _)
      (.bind (keyword_reads [0x61, 0x6C, 0x73, 0x65] rest _) (.bind (.pure _ _) after))
  · have skipped := skipNumber_body digits fraction exponent delimited
    obtain ⟨d, more, rfl, lead⟩ := digits.cons
    rcases signed with rfl | rfl
    · rw [Reads.bind_iff (peekPastBlank_solid (by simpa using isBlankByte_of_isDigit lead) p)]
      simp only [List.nil_append, List.cons_append, List.head?]
      -- a digit is none of the bytes that start other values
      split
      all_goals try (simp_all [isDigit]; done)
      rename_i same
      cases Option.some.inj same
      rw [if_pos lead]
      refine .bind (skipped p) (.bind (.pure _ _) (after.from_pos ?_))
      simp only [List.length_append, List.length_cons, List.nil_append]
      omega
    · rw [Reads.bind_iff (peekPastBlank_solid (by simp; decide) p)]
      simp only [List.cons_append, List.head?]
      refine .bind (bump_cons _ _ _) (.bind (skipped (p + 1)) (.bind (.pure _ _) (after.from_pos ?_)))
      simp only [List.length_append, List.length_cons, List.length_nil]
      omega
  · rw [Reads.bind_iff (peekPastBlank_solid (by simp; decide) p)]
    simp only [List.cons_append, List.append_assoc, List.head?]
    refine .bind (bump_cons _ _ _)
      (.bind (skipString_reads loose rest (p + 1)) (.bind (.pure _ _) (after.from_pos ?_)))
    simp only [List.length_cons, List.length_append, List.length_nil]
    omega

/-- An opening bracket is pushed, and the skipper looks for what closes it. -/
theorem skipRun_open {frame : UInt8} (bracket : frame = 0x5B ∨ frame = 0x7B) {rest : List UInt8}
    (after : Reads (skipRun fuel (enclosing.toList ++ stack) (.close frame false)) ⟨rest, p + 1⟩ () c) :
    Reads (skipRun (fuel + 1) stack (.value enclosing)) ⟨frame :: rest, p⟩ () c := by
  simp only [skipRun]
  rcases bracket with rfl | rfl
  all_goals
    rw [Reads.bind_iff (peekPastBlank_solid (by simp; decide) p)]
    simp only [List.head?]
    exact .bind (bump_cons _ _ _) (.bind (.pure _ _) after)

/-- After a comma the skipper enters the next item. -/
theorem skipRun_comma {frame : UInt8} {ws rest : List UInt8} (blank : Blank ws)
    (after : Reads (enter fuel stack frame) ⟨rest, p + ws.length + 1⟩ () c) :
    Reads (skipRun (fuel + 1) stack (.close frame true)) ⟨ws ++ 0x2C :: rest, p⟩ () c := by
  simp only [skipRun]
  rw [Reads.bind_iff (peekPastBlank_reads blank (by simp; decide) p)]
  simp only [List.head?]
  rw [if_pos (by decide)]
  exact .bind (bump_cons _ _ _) after

/-- A closing bracket that matches the open frame pops it, and the skipper goes on as after
the value the brackets enclose. -/
theorem skipRun_closing {frame closer : UInt8} {accept : Bool}
    (matching : frame = 0x5B ∧ closer = 0x5D ∨ frame = 0x7B ∧ closer = 0x7D) {ws rest : List UInt8}
    (blank : Blank ws) (after : Reads (resume fuel stack enclosing) ⟨rest, p + ws.length + 1⟩ () c) :
    Reads (skipRun (fuel + 1) (enclosing.toList ++ stack) (.close frame accept))
      ⟨ws ++ closer :: rest, p⟩ () c := by
  simp only [skipRun]
  rcases matching with ⟨rfl, rfl⟩ | ⟨rfl, rfl⟩
  all_goals
    rw [Reads.bind_iff (peekPastBlank_reads blank (by simp; decide) p)]
    simp only [List.head?]
    rw [if_neg (by simp), if_pos (by simp)]
    refine .bind (bump_cons _ _ _) ?_
    cases enclosing <;> exact after

theorem skipKey_skipsBlank : SkipsBlank skipKey := by
  rw [skipKey]
  exact SkipsBlank.peekPastBlank.bind _

theorem skipRun_value_skipsBlank : SkipsBlank (skipRun (fuel + 1) stack (.value enclosing)) := by
  intro ws rest p blank
  simp only [skipRun]
  exact SkipsBlank.peekPastBlank.bind _ ws rest p blank

/-- Entering an item reads alike before and after the blanks in front of it. -/
theorem enter_blank {frame : UInt8} {ws rest : List UInt8} (blank : Blank ws) {c' : Cursor} :
    Reads (enter fuel stack frame) ⟨ws ++ rest, p⟩ () c' ↔
      Reads (enter fuel stack frame) ⟨rest, p + ws.length⟩ () c' := by
  unfold Reads
  by_cases key : frame = 0x7B
  · rw [enter, if_pos key, SkipsBlank.bind skipKey_skipsBlank _ ws rest p blank]
  · rw [enter, if_neg key]
    cases fuel with
    | zero => constructor <;> intro run <;> cases run
    | succ fuel => rw [skipRun_value_skipsBlank ws rest p blank]

/-- Looking for the first item of a bracket, the skipper enters it. -/
theorem skipRun_first {frame b : UInt8} {ws more : List UInt8}
    (blank : Blank ws) (solid : isBlankByte b = false) (notCloser : b ≠ 0x5D ∧ b ≠ 0x7D)
    (after : Reads (enter fuel stack frame) ⟨ws ++ b :: more, p⟩ () c) :
    Reads (skipRun (fuel + 1) stack (.close frame false)) ⟨ws ++ b :: more, p⟩ () c := by
  have look : Reads peekPastBlank ⟨ws ++ b :: more, p⟩ (some b) ⟨b :: more, p + ws.length⟩ :=
    peekPastBlank_reads blank (fun x found => by
      cases Option.some.inj found
      exact solid) p
  simp only [skipRun]
  rw [Reads.bind_iff look]
  have notComma : ¬ (decide (some b = some 0x2C) && false) = true := by simp
  have notClosing : ¬ (decide (some b = some 0x5D) && decide (frame = 0x5B) ||
      decide (some b = some 0x7D) && decide (frame = 0x7B)) = true := by
    simp [notCloser.1, notCloser.2]
  rw [if_neg notComma, if_neg notClosing, if_neg Bool.false_ne_true]
  exact (enter_blank blank).mp after

theorem enter_array {c' : Cursor}
    (value : Reads (skipRun fuel stack (.value (some 0x5B))) c () c') : Reads (enter fuel stack 0x5B) c () c' := by
  rw [enter, if_neg (by decide)]
  exact value

theorem enter_object {c' c'' : Cursor} (key : Reads skipKey c () c')
    (value : Reads (skipRun fuel stack (.value (some 0x7B))) c' () c'') :
    Reads (enter fuel stack 0x7B) c () c'' := by
  rw [enter, if_pos rfl]
  exact .bind key value

end Steps

/-! ## Values -/

/-- The skipper reads through the value `v` in `k` steps and goes on as after any value. -/
def SkipsIn (v : List UInt8) (k : Nat) : Prop :=
  ∀ fuel stack enclosing rest p c, Delimited rest →
    Reads (resume fuel stack enclosing) ⟨rest, p + v.length⟩ () c →
    Reads (skipRun (fuel + k) stack (.value enclosing)) ⟨v ++ rest, p⟩ () c

/-- Entering an item `u` inside `frame` reads through it in `k` steps, up to what follows its
value. -/
def EntersIn (frame : UInt8) (u : List UInt8) (k : Nat) : Prop :=
  ∀ fuel stack rest p c, Delimited rest →
    Reads (skipRun fuel stack (.close frame true)) ⟨rest, p + u.length⟩ () c →
    Reads (enter (fuel + k) stack frame) ⟨u ++ rest, p⟩ () c

theorem SkipsIn.blank {v : List UInt8} {k : Nat} (skips : SkipsIn v k) (steps : 1 ≤ k)
    {fuel : Nat} {stack : List UInt8} {enclosing : Option UInt8} {ws rest : List UInt8} {p : Nat}
    {c : Cursor} (blank : Blank ws) (delimited : Delimited rest)
    (after : Reads (resume fuel stack enclosing) ⟨rest, p + ws.length + v.length⟩ () c) :
    Reads (skipRun (fuel + k) stack (.value enclosing)) ⟨ws ++ v ++ rest, p⟩ () c := by
  have run := skips fuel stack enclosing rest (p + ws.length) c delimited after
  obtain ⟨k, rfl⟩ := Nat.exists_eq_add_of_le' steps
  unfold Reads at run ⊢
  rw [← Nat.add_assoc] at run ⊢
  rw [List.append_assoc, skipRun_value_skipsBlank ws _ p blank]
  exact run

theorem Blank.delimited {ws rest : List UInt8} (blank : Blank ws)
    (next : ∀ b ∈ rest.head?, b = 0x2C ∨ b = 0x5D ∨ b = 0x7D) : Delimited (ws ++ rest) := by
  cases ws with
  | nil => exact fun b found => .inr (next b found)
  | cons w more =>
    intro b found
    cases Option.some.inj found
    exact .inl (blank w List.mem_cons_self)

theorem intercalate_comma (x : List UInt8) (rest : List (List UInt8)) :
    [0x2C].intercalate (x :: rest) = x ++ (rest.map (0x2C :: ·)).flatten := by
  induction rest generalizing x with
  | nil => simp
  | cons y more ih => simp [List.intercalate_cons_cons, ih]

/-- The items after a comma, each entered text with the blanks after it. -/
def joined (units : List (List UInt8 × List UInt8)) : List UInt8 :=
  (units.map fun x => 0x2C :: (x.1 ++ x.2)).flatten

theorem joined_head (units : List (List UInt8 × List UInt8)) (closer : UInt8) (rest : List UInt8) :
    ∀ b ∈ (joined units ++ closer :: rest).head?, b = 0x2C ∨ b = closer := by
  cases units with
  | nil => exact fun b found => .inr (Option.some.inj found).symm
  | cons x more => exact fun b found => .inl (Option.some.inj found).symm

/-- Blanks after an item stand before a comma or the closing bracket. -/
theorem Blank.delimited_joined {trail : List UInt8} (blank : Blank trail) {closer : UInt8}
    (closes : closer = 0x5D ∨ closer = 0x7D) (units : List (List UInt8 × List UInt8))
    (rest : List UInt8) : Delimited (trail ++ joined units ++ closer :: rest) := by
  rw [List.append_assoc]
  refine blank.delimited fun b found => ?_
  rcases joined_head units closer rest b found with h | h
  · exact .inl h
  · rcases closes with rfl | rfl
    · exact .inr (.inl h)
    · exact .inr (.inr h)

/-- After an item inside brackets, the skipper takes the items that follow, each after its
comma, then the closing bracket, and goes on as after the bracketed value. -/
theorem skipRun_items {frame closer : UInt8}
    (matching : frame = 0x5B ∧ closer = 0x5D ∨ frame = 0x7B ∧ closer = 0x7D)
    (units : List (List UInt8 × List UInt8))
    (each : ∀ x ∈ units, Blank x.2 ∧ ∃ k ≤ 2 * x.1.length, EntersIn frame x.1 k) :
    ∀ t, Blank t → ∃ K ≤ 2 * (t ++ joined units).length + 1,
      ∀ fuel stack enclosing rest p c,
        Reads (resume fuel stack enclosing) ⟨rest, p + (t ++ joined units).length + 1⟩ () c →
        Reads (skipRun (fuel + K) (enclosing.toList ++ stack) (.close frame true))
          ⟨t ++ joined units ++ closer :: rest, p⟩ () c := by
  have closes : closer = 0x5D ∨ closer = 0x7D := by rcases matching with ⟨-, h⟩ | ⟨-, h⟩ <;> simp [h]
  induction units with
  | nil =>
    intro t blank
    refine ⟨1, by simp, fun fuel stack enclosing rest p c after => ?_⟩
    simp only [joined, List.map_nil, List.flatten_nil, List.append_nil] at after ⊢
    exact skipRun_closing matching blank after
  | cons x more ih =>
    intro t blank
    obtain ⟨trail, k, bound, enters⟩ := each x List.mem_cons_self
    obtain ⟨K, boundMore, later⟩ :=
      ih (fun y member => each y (List.mem_cons_of_mem x member)) x.2 trail
    refine ⟨1 + k + K, ?_, fun fuel stack enclosing rest p c after => ?_⟩
    · simp only [joined, List.map_cons, List.flatten_cons, List.length_append, List.length_cons]
        at boundMore ⊢
      omega
    have text : t ++ joined (x :: more) ++ closer :: rest =
        t ++ 0x2C :: (x.1 ++ (x.2 ++ joined more ++ closer :: rest)) := by
      simp [joined]
    have delimited := trail.delimited_joined closes more rest
    rw [text, show fuel + (1 + k + K) = fuel + K + k + 1 by omega]
    refine skipRun_comma blank (enters _ _ _ _ _ delimited ?_)
    refine later fuel stack enclosing rest _ c (after.from_pos ?_)
    simp only [joined, List.map_cons, List.flatten_cons, List.length_append, List.length_cons]
    omega

/-- A non-empty bracketed value takes one step for its opening bracket, one to find its first
item, the steps of its items and one for each comma and for the closing bracket. -/
theorem skipRun_container {frame closer : UInt8}
    (matching : frame = 0x5B ∧ closer = 0x5D ∨ frame = 0x7B ∧ closer = 0x7D)
    (first : List UInt8 × List UInt8) (units : List (List UInt8 × List UInt8))
    (each : ∀ x ∈ first :: units, Blank x.2 ∧ ∃ k ≤ 2 * x.1.length, EntersIn frame x.1 k)
    (opening : ∃ ws b more, first.1 = ws ++ b :: more ∧ Blank ws ∧ isBlankByte b = false ∧
      b ≠ 0x5D ∧ b ≠ 0x7D) :
    ∃ k ≤ 2 * (frame :: first.1 ++ first.2 ++ joined units ++ [closer]).length, 1 ≤ k ∧
      SkipsIn (frame :: first.1 ++ first.2 ++ joined units ++ [closer]) k := by
  obtain ⟨trail, k, bound, enters⟩ := each first List.mem_cons_self
  obtain ⟨K, boundMore, later⟩ :=
    skipRun_items matching units (fun x member => each x (List.mem_cons_of_mem first member))
      first.2 trail
  obtain ⟨ws, b, more, split, blank, solid, notCloser⟩ := opening
  have bracket : frame = 0x5B ∨ frame = 0x7B := by rcases matching with ⟨h, -⟩ | ⟨h, -⟩ <;> simp [h]
  have closes : closer = 0x5D ∨ closer = 0x7D := by rcases matching with ⟨-, h⟩ | ⟨-, h⟩ <;> simp [h]
  refine ⟨2 + k + K, ?_, by omega, fun fuel stack enclosing rest p c delimited after => ?_⟩
  · simp only [List.length_append, List.length_cons] at boundMore ⊢
    omega
  have following := trail.delimited_joined closes units rest
  have entered := enters (fuel + K) (enclosing.toList ++ stack) _ (p + 1) c following
    (later fuel stack enclosing rest _ c (after.from_pos (by simp; omega)))
  have text : (frame :: first.1 ++ first.2 ++ joined units ++ [closer]) ++ rest =
      frame :: (ws ++ b :: (more ++ (first.2 ++ joined units ++ closer :: rest))) := by
    simp [split]
  rw [text, show fuel + (2 + k + K) = fuel + K + k + 1 + 1 by omega]
  refine skipRun_open bracket (skipRun_first blank solid notCloser ?_)
  rw [split] at entered
  simpa using entered

theorem skipsIn_container {α : Type} {frame closer : UInt8}
    (matching : frame = 0x5B ∧ closer = 0x5D ∨ frame = 0x7B ∧ closer = 0x7D)
    (unit : α → List UInt8 × List UInt8) {first : α} {more : List α}
    (each : ∀ a ∈ first :: more, Blank (unit a).2 ∧ ∃ k ≤ 2 * (unit a).1.length, EntersIn frame (unit a).1 k)
    (opening : ∃ ws b rest, (unit first).1 = ws ++ b :: rest ∧ Blank ws ∧ isBlankByte b = false ∧
      b ≠ 0x5D ∧ b ≠ 0x7D) :
    let v := frame :: [0x2C].intercalate ((first :: more).map fun a => (unit a).1 ++ (unit a).2) ++ [closer]
    ∃ k ≤ 2 * v.length, 1 ≤ k ∧ SkipsIn v k := by
  have text : frame :: [0x2C].intercalate ((first :: more).map fun a => (unit a).1 ++ (unit a).2) ++ [closer] =
      frame :: (unit first).1 ++ (unit first).2 ++ joined (more.map unit) ++ [closer] := by
    rw [List.map_cons, intercalate_comma]
    simp [joined, Function.comp_def]
  intro v
  rw [show v = _ from text]
  refine skipRun_container matching (unit first) (more.map unit) (fun x found => ?_) opening
  rcases List.mem_cons.mp found with rfl | found
  · exact each first List.mem_cons_self
  · obtain ⟨a, member, rfl⟩ := List.mem_map.mp found
    exact each a (List.mem_cons_of_mem _ member)

theorem SkipsIn.enters_array {v : List UInt8} {k : Nat} (skips : SkipsIn v k) (steps : 1 ≤ k)
    {lead : List UInt8} (blank : Blank lead) : EntersIn 0x5B (lead ++ v) k := by
  intro fuel stack rest p c delimited after
  have after' : Reads (resume fuel stack (some 0x5B)) ⟨rest, p + lead.length + v.length⟩ () c :=
    after.from_pos (by simp; omega)
  apply enter_array
  exact skips.blank steps blank delimited after'

theorem SkipsIn.enters_object {v : List UInt8} {k : Nat} (skips : SkipsIn v k) (steps : 1 ≤ k)
    {m : Member} (blankLead : Blank m.keyLead) (key : LooseBody m.key) (blankTrail : Blank m.keyTrail)
    (blank : Blank m.entry.lead) : EntersIn 0x7B (m.label ++ m.entry.lead ++ v) k := by
  intro fuel stack rest p c delimited after
  have text : m.label ++ m.entry.lead ++ v ++ rest =
      m.keyLead ++ 0x22 :: m.key ++ 0x22 :: m.keyTrail ++ 0x3A :: (m.entry.lead ++ v ++ rest) := by
    simp [Member.label]
  rw [text]
  refine enter_object (skipKey_reads blankLead key blankTrail _ p) (skips.blank steps blank delimited ?_)
  refine after.from_pos ?_
  simp only [Member.label, List.length_append, List.length_cons, List.length_nil]
  omega

theorem SkipsIn.scalar {v : List UInt8} (scalar : Scalar v) (long : 1 ≤ v.length) :
    ∃ k ≤ 2 * v.length, 1 ≤ k ∧ SkipsIn v k :=
  ⟨1, by omega, le_refl 1, fun _ _ _ _ _ _ delimited after => skipRun_scalar scalar delimited after⟩

theorem SkipsIn.empty {frame closer : UInt8}
    (matching : frame = 0x5B ∧ closer = 0x5D ∨ frame = 0x7B ∧ closer = 0x7D) {ws : List UInt8}
    (blank : Blank ws) : ∃ k ≤ 2 * (frame :: ws ++ [closer]).length, 1 ≤ k ∧ SkipsIn (frame :: ws ++ [closer]) k := by
  have bracket : frame = 0x5B ∨ frame = 0x7B := by rcases matching with ⟨h, -⟩ | ⟨h, -⟩ <;> simp [h]
  refine ⟨2, by simp, by omega, fun fuel stack enclosing rest p c delimited after => ?_⟩
  have text : frame :: ws ++ [closer] ++ rest = frame :: (ws ++ closer :: rest) := by simp
  rw [text]
  exact skipRun_open bracket (skipRun_closing matching blank (after.from_pos (by simp; omega)))

/-- Every JSON value starts with a byte that is neither blank nor a closing bracket. -/
theorem Json.head {v : List UInt8} (json : Json v) :
    ∃ b more, v = b :: more ∧ isBlankByte b = false ∧ b ≠ 0x5D ∧ b ≠ 0x7D := by
  cases json with
  | number token =>
    obtain ⟨sign, whole, frac, exp, rfl, signed, digits, -, -⟩ := token
    obtain ⟨d, more, rfl, lead⟩ := digits.cons
    rcases signed with rfl | rfl
    · refine ⟨d, _, rfl, isBlankByte_of_isDigit lead, ?_, ?_⟩ <;>
        (rintro rfl; exact absurd lead (by decide))
    · exact ⟨0x2D, _, rfl, by decide, by decide, by decide⟩
  | _ => exact ⟨_, _, rfl, by decide, by decide, by decide⟩

/-- The skipper reads through every JSON value, in at most two steps per byte. -/
theorem Json.skips {v : List UInt8} (json : Json v) : ∃ k ≤ 2 * v.length, 1 ≤ k ∧ SkipsIn v k := by
  -- by induction on the value; a bracketed value is read as a list of units, each entered text
  -- (the value, after its key in an object) with the blanks that follow it
  induction json with
  | nullWord => exact SkipsIn.scalar (.inl rfl) (by simp)
  | trueWord => exact SkipsIn.scalar (.inr (.inl rfl)) (by simp)
  | falseWord => exact SkipsIn.scalar (.inr (.inr (.inl rfl))) (by simp)
  | number token =>
    obtain ⟨b, more, rfl, -⟩ := (Json.number token).head
    exact SkipsIn.scalar (.inr (.inr (.inr (.inl token)))) (by simp)
  | string loose => exact SkipsIn.scalar (.inr (.inr (.inr (.inr ⟨_, loose, rfl⟩)))) (by simp)
  | emptyArray blank => exact SkipsIn.empty (.inl ⟨rfl, rfl⟩) blank
  | emptyObject blank => exact SkipsIn.empty (.inr ⟨rfl, rfl⟩) blank
  | @array items nonempty spaced values ih =>
    obtain ⟨e, more, rfl⟩ := List.exists_cons_of_ne_nil nonempty
    obtain ⟨b, rest, start, solid, notCloser⟩ := (values e List.mem_cons_self).head
    refine skipsIn_container (.inl ⟨rfl, rfl⟩) (fun e : Padded => (e.lead ++ e.value, e.trail))
      (fun e' member => ?_) ⟨e.lead, b, rest, by rw [start], (spaced e List.mem_cons_self).1, solid, notCloser⟩
    obtain ⟨k, bound, steps, skips⟩ := ih e' member
    refine ⟨(spaced e' member).2, k, ?_, skips.enters_array steps (spaced e' member).1⟩
    simp only [List.length_append]
    omega
  | @object members nonempty formed values ih =>
    obtain ⟨m, more, rfl⟩ := List.exists_cons_of_ne_nil nonempty
    have text : ((m :: more).map Member.text) =
        (m :: more).map fun m => (m.label ++ m.entry.lead ++ m.entry.value) ++ m.entry.trail := by
      simp [Member.text, Padded.text]
    rw [text]
    obtain ⟨blankLead, -, -, -⟩ := formed m List.mem_cons_self
    refine skipsIn_container (.inr ⟨rfl, rfl⟩) (fun m : Member => (m.label ++ m.entry.lead ++ m.entry.value, m.entry.trail))
      (fun m' member => ?_)
      ⟨m.keyLead, 0x22, m.key ++ 0x22 :: m.keyTrail ++ [0x3A] ++ m.entry.lead ++ m.entry.value,
        by simp [Member.label], blankLead, by decide, by decide, by decide⟩
    obtain ⟨k, bound, steps, skips⟩ := ih m' member
    obtain ⟨blankLead', key, blankTrail, spaced⟩ := formed m' member
    refine ⟨spaced.2, k, ?_, skips.enters_object steps blankLead' key blankTrail spaced.1⟩
    simp only [List.length_append]
    omega

/-- The skipper reads through a JSON value after blanks and stops right after it. -/
theorem skipValue_reads {ws v rest : List UInt8} (blank : Blank ws) (json : Json v)
    (delimited : Delimited rest) (p : Nat) :
    Reads skipValue ⟨ws ++ v ++ rest, p⟩ () ⟨rest, p + ws.length + v.length⟩ := by
  obtain ⟨k, bound, steps, skips⟩ := json.skips
  rw [skipValue, Reads.bind_iff (get_reads _)]
  -- the fuel given covers every step, and the run ends with fuel left over and nothing open
  have fuel : 2 * (ws ++ v ++ rest).length + 2 = (2 * (ws ++ v ++ rest).length + 2 - k) + k := by
    simp only [List.length_append]
    omega
  rw [fuel]
  exact skips.blank steps blank delimited (.pure _ _)

end ButtonRelay.Payload
