import Mathlib
import ButtonRelay.Payload.Message

namespace ButtonRelay.Payload

/-- `x`, run from `c`, reads `v` and leaves the cursor at `c'`. -/
def Reads {α : Type} (x : Read α) (c : Cursor) (v : α) (c' : Cursor) : Prop :=
  x.run.run c = (.ok v, c')

section Calculus

variable {α β : Type} {x : Read α} {f : α → Read β} {c c' c'' : Cursor} {a : α} {b : β}

theorem Reads.bind (first : Reads x c a c') (second : Reads (f a) c' b c'') : Reads (x >>= f) c b c'' := by
  unfold Reads at *
  rw [ExceptT.run_bind, StateT.run_bind, first]
  exact second

/-- Once the first part of a computation is known to read `a`, the whole runs as the rest
does from there. -/
theorem Reads.run_bind (first : Reads x c a c') : (x >>= f).run.run c = (f a).run.run c' := by
  unfold Reads at first
  rw [ExceptT.run_bind, StateT.run_bind, first]
  rfl

theorem Reads.bind_iff (first : Reads x c a c') : Reads (x >>= f) c b c'' ↔ Reads (f a) c' b c'' := by
  unfold Reads
  rw [first.run_bind]

theorem run_map (g : α → β) (x : Read α) (c : Cursor) :
    (g <$> x).run.run c = ((x.run.run c).1.map g, (x.run.run c).2) := by
  rw [ExceptT.run_map, StateT.run_map]
  rfl

theorem Reads.map {g : α → β} (run : Reads x c a c') : Reads (g <$> x) c (g a) c' := by
  unfold Reads at *
  rw [run_map, run]
  rfl

theorem Reads.pure (a : α) (c : Cursor) : Reads (pure a) c a c := rfl

/-- Positions are numbers: a run that ends at one spelling of a position ends at any other. -/
theorem Reads.at_pos {rest : List UInt8} {q q' : Nat} (run : Reads x c a ⟨rest, q⟩) (same : q = q') :
    Reads x c a ⟨rest, q'⟩ := same ▸ run

theorem Reads.from_pos {rest : List UInt8} {q q' : Nat} (run : Reads x ⟨rest, q⟩ a c')
    (same : q = q') : Reads x ⟨rest, q'⟩ a c' := same ▸ run

theorem Reads.of_run_eq {y : Read α} (same : x.run.run c = y.run.run c') (run : Reads y c' a c'') :
    Reads x c a c'' := by
  unfold Reads at *
  rw [same, run]

end Calculus

/-! ## Looking at bytes -/

theorem get_reads (c : Cursor) : Reads get c c c := rfl

theorem peek_reads (c : Cursor) : Reads peek c c.rest.head? c := rfl

theorem bump_cons (b : UInt8) (rest : List UInt8) (p : Nat) : Reads bump ⟨b :: rest, p⟩ () ⟨rest, p + 1⟩ := rfl

theorem next_cons (b : UInt8) (rest : List UInt8) (p : Nat) :
    Reads next ⟨b :: rest, p⟩ (some b) ⟨rest, p + 1⟩ := rfl

theorem bumpN_append (bs rest : List UInt8) (p : Nat) :
    Reads (bumpN bs.length) ⟨bs ++ rest, p⟩ () ⟨rest, p + bs.length⟩ := by
  have within : min bs.length (bs ++ rest).length = bs.length := by simp
  show (Except.ok (), (⟨(bs ++ rest).drop bs.length, p + min bs.length (bs ++ rest).length⟩ : Cursor)) = _
  rw [List.drop_left, within]

/-- Bytes JSON skips between tokens. -/
def Blank (ws : List UInt8) : Prop := ∀ b ∈ ws, isBlankByte b

instance (ws : List UInt8) : Decidable (Blank ws) := inferInstanceAs (Decidable (∀ b ∈ ws, isBlankByte b))

theorem Blank.nil : Blank [] := fun _ none => nomatch none

theorem skipBlankFrom_blank {ws : List UInt8} (blank : Blank ws) (rest : List UInt8) (p : Nat) :
    skipBlankFrom (ws ++ rest) p = skipBlankFrom rest (p + ws.length) := by
  induction ws generalizing p with
  | nil => rfl
  | cons w more ih =>
    have now : isBlankByte w := blank w List.mem_cons_self
    rw [List.cons_append, skipBlankFrom, if_pos now,
      ih (fun b member => blank b (List.mem_cons_of_mem w member)), List.length_cons]
    congr 1
    omega

theorem skipBlankFrom_solid {rest : List UInt8} (solid : ∀ b ∈ rest.head?, isBlankByte b = false)
    (p : Nat) : skipBlankFrom rest p = ⟨rest, p⟩ := by
  cases rest with
  | nil => rfl
  | cons b more => simp [skipBlankFrom, solid b rfl]

theorem skipBlankFrom_append {ws : List UInt8} (blank : Blank ws) {rest : List UInt8}
    (solid : ∀ b ∈ rest.head?, isBlankByte b = false) (p : Nat) :
    skipBlankFrom (ws ++ rest) p = ⟨rest, p + ws.length⟩ := by
  rw [skipBlankFrom_blank blank, skipBlankFrom_solid solid]

/-- Skipping blanks stops at the first byte that is not one. -/
theorem skipBlankFrom_eq (ys : List UInt8) (p : Nat) :
    skipBlankFrom ys p = ⟨ys.dropWhile isBlankByte, p + (ys.takeWhile isBlankByte).length⟩ := by
  have blank : Blank (ys.takeWhile isBlankByte) := fun b member => List.mem_takeWhile_imp member
  have solid : ∀ b ∈ (ys.dropWhile isBlankByte).head?, isBlankByte b = false := fun b found => by
    have first := List.head?_dropWhile_not isBlankByte ys
    rw [Option.mem_def.mp found] at first
    exact first
  conv_lhs => rw [← List.takeWhile_append_dropWhile (p := isBlankByte) (l := ys)]
  exact skipBlankFrom_append blank solid p

theorem peekPastBlank_reads {ws : List UInt8} (blank : Blank ws) {rest : List UInt8}
    (solid : ∀ b ∈ rest.head?, isBlankByte b = false) (p : Nat) :
    Reads peekPastBlank ⟨ws ++ rest, p⟩ rest.head? ⟨rest, p + ws.length⟩ := by
  show (Except.ok (skipBlankFrom (ws ++ rest) p).rest.head?, skipBlankFrom (ws ++ rest) p) = _
  rw [skipBlankFrom_append blank solid]

theorem peekPastBlank_solid {rest : List UInt8} (solid : ∀ b ∈ rest.head?, isBlankByte b = false)
    (p : Nat) : Reads peekPastBlank ⟨rest, p⟩ rest.head? ⟨rest, p⟩ := by
  show (Except.ok (skipBlankFrom rest p).rest.head?, skipBlankFrom rest p) = _
  rw [skipBlankFrom_solid solid]

theorem keyword_reads (bs rest : List UInt8) (p : Nat) :
    Reads (keyword bs) ⟨bs ++ rest, p⟩ () ⟨rest, p + bs.length⟩ := by
  induction bs generalizing p with
  | nil => exact .pure () _
  | cons b more ih =>
    rw [keyword]
    refine .bind (next_cons b _ p) ?_
    simp only [if_pos]
    simpa [Nat.add_assoc, Nat.add_comm 1] using ih (p + 1)

/-! ## Placing, attempting and settling failures -/

section Handlers

variable {α : Type} {x : Read α} {c c' : Cursor} {a : α}

theorem run_tryCatch (x : Read α) (handler : Failure → Read α) (c : Cursor) :
    (tryCatch x handler : Read α).run.run c =
      match x.run.run c with
      | (.ok a, c') => (.ok a, c')
      | (.error e, c') => (handler e).run.run c' := by
  rw [ExceptT.run_tryCatch, StateT.run_bind]
  rcases x.run.run c with ⟨_ | a, c'⟩ <;> rfl

theorem Reads.placed (run : Reads x c a c') : Reads (Payload.placed x) c a c' := by
  unfold Reads at *
  rw [Payload.placed, run_tryCatch, run]

theorem Reads.attempt (run : Reads x c a c') : Reads (Payload.attempt x) c (.ok a) c' := by
  unfold Reads at *
  rw [Payload.attempt, run_tryCatch, run_map, run]
  rfl

theorem Reads.settle (c : Cursor) (a : α) : Reads (Payload.settle (.ok a) (.ok ())) c a c := rfl

end Handlers

/-! ## Readers that skip blanks first -/

/-- A reader that starts by skipping blanks: blanks in front of its input move only the
positions. -/
def SkipsBlank {α : Type} (x : Read α) : Prop :=
  ∀ ws rest p, Blank ws → x.run.run ⟨ws ++ rest, p⟩ = x.run.run ⟨rest, p + ws.length⟩

section SkipsBlank

variable {α β : Type} {x : Read α}

theorem run_bind_congr {c c' : Cursor} (same : x.run.run c = x.run.run c') (f : α → Read β) :
    (x >>= f).run.run c = (x >>= f).run.run c' := by
  rw [ExceptT.run_bind, StateT.run_bind, StateT.run_bind, same]

theorem SkipsBlank.peekPastBlank : SkipsBlank peekPastBlank := by
  intro ws rest p blank
  show (Except.ok (skipBlankFrom (ws ++ rest) p).rest.head?, skipBlankFrom (ws ++ rest) p) =
    (Except.ok (skipBlankFrom rest _).rest.head?, skipBlankFrom rest _)
  rw [skipBlankFrom_blank blank]

theorem SkipsBlank.bind (skips : SkipsBlank x) (f : α → Read β) : SkipsBlank (x >>= f) :=
  fun ws rest p blank => run_bind_congr (skips ws rest p blank) f

theorem SkipsBlank.placed (skips : SkipsBlank x) : SkipsBlank (Payload.placed x) := by
  intro ws rest p blank
  rw [Payload.placed, run_tryCatch, run_tryCatch, skips ws rest p blank]

/-- A reader that skips blanks first runs alike before and after the blanks in front of it. -/
theorem SkipsBlank.skipBlankFrom (skips : SkipsBlank x) (ys : List UInt8) (p : Nat) :
    x.run.run (Payload.skipBlankFrom ys p) = x.run.run ⟨ys, p⟩ := by
  have blank : Blank (ys.takeWhile isBlankByte) := fun b member => List.mem_takeWhile_imp member
  rw [skipBlankFrom_eq]
  conv_rhs => rw [← List.takeWhile_append_dropWhile (p := isBlankByte) (l := ys)]
  rw [skips _ _ _ blank]

end SkipsBlank

end ButtonRelay.Payload
