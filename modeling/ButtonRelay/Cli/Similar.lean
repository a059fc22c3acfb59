/-!
Jaro similarity of two words, used to suggest the option a mistyped one was meant to be.

Two characters match when they are equal and no farther apart than half the longer word,
less one; each character of the second word matches at most once, taken left to right. With
`m` matches, `t` half the number of matched pairs that come in a different order, and word
lengths `a` and `b`, the similarity is `(m / a + m / b + (m - t) / m) / 3`, computed in binary
floating point in that order so that ties and the threshold fall exactly as they do in the
usual double-precision formula.
-/

namespace ButtonRelay.Cli

/-- Marks the first unmarked character equal to `c` at a position in `[lo, hi)`, counting
positions from `j`; `none` when there is no such character. -/
def markFirst (c : Char) (lo hi : Nat) : Nat → List (Char × Bool) → Option (List (Char × Bool))
  | _, [] => none
  | j, (d, used) :: rest =>
    if lo ≤ j && j < hi && d == c && !used then some ((d, true) :: rest)
    else (markFirst c lo hi (j + 1) rest).map ((d, used) :: ·)

/-- Matches the characters of the first word, from position `i` on, against the marked
second word; answers which of them matched and the second word's marks. -/
def matchAll (range : Nat) : Nat → List Char → List (Char × Bool) → List Bool × List (Char × Bool)
  | _, [], marks => ([], marks)
  | i, c :: more, marks =>
    match markFirst c (i - range) (i + range + 1) 0 marks with
    | some marks' =>
      let (rest, final) := matchAll range (i + 1) more marks'
      (true :: rest, final)
    | none =>
      let (rest, final) := matchAll range (i + 1) more marks
      (false :: rest, final)

/-- The number of positions where two lists differ, up to the shorter one. -/
def mismatches : List Char → List Char → Nat
  | x :: xs, y :: ys => (if x == y then 0 else 1) + mismatches xs ys
  | _, _ => 0

/-- The Jaro similarity of two words, between 0 and 1. -/
def jaro (a b : String) : Float :=
  let xs := a.toList
  let ys := b.toList
  if xs.isEmpty && ys.isEmpty then 1.0
  else if xs.isEmpty || ys.isEmpty then 0.0
  else
    let range := max xs.length ys.length / 2 - 1
    let (flags, marks) := matchAll range 0 xs (ys.map fun y => (y, false))
    let fromA := (xs.zip flags).filterMap fun (c, f) => if f then some c else none
    let fromB := marks.filterMap fun (c, f) => if f then some c else none
    let m := fromA.length
    let t := mismatches fromA fromB / 2
    if m = 0 then 0.0
    else
      (m.toFloat / xs.length.toFloat + m.toFloat / ys.length.toFloat +
        (m - t).toFloat / m.toFloat) / 3.0

/-- The candidate most like `word`, if any is more than 0.7 alike; among equally alike
candidates the last one wins. -/
def closest (word : String) (candidates : List String) : Option String :=
  let scored := candidates.filterMap fun c =>
    let s := jaro word c
    if s > 0.7 then some (s, c) else none
  (scored.foldl (fun best (s, c) =>
    match best with
    | some (s₀, _) => if s₀ ≤ s then some (s, c) else best
    | none => some (s, c)) none).map Prod.snd

theorem mismatches_self (xs : List Char) : mismatches xs xs = 0 := by
  induction xs with
  | nil => rfl
  | cons x xs ih => simp [mismatches, ih]

end ButtonRelay.Cli
