import Mathlib.Data.List.Basic
import Mathlib.Data.List.TakeWhile
import ButtonRelay.Input.Lines

namespace ButtonRelay.Utf8

/-- A carriage return is a whole character on its own: it completes no character begun before
it, so appending one to bytes appends it to their text, or leaves them unreadable. -/
theorem decode?_append_cr (bytes : List UInt8) :
    decode? (bytes ++ [0x0D]) = (decode? bytes).map (· ++ ['\r']) := by
  have cr : isCont 0x0D = false := by decide
  -- one case per branch of the decoder; a lead byte that the carriage return would have to
  -- continue fails on it
  fun_induction decode? bytes with
  | case1 => decide
  | case2 b rest ascii ih =>
    rw [List.cons_append, decode?.eq_def]
    simp [ascii, ih, Option.map_map, Function.comp_def]
  | case3 b notAscii lead c1 more cont ih =>
    rw [List.cons_append, List.cons_append, decode?.eq_def]
    simp [notAscii, lead, cont, ih, Option.map_map, Function.comp_def]
  | case4 b notAscii lead c1 more notCont =>
    rw [List.cons_append, List.cons_append, decode?.eq_def]
    simp [notAscii, lead, notCont]
  | case5 b notAscii lead =>
    rw [List.cons_append, List.nil_append, decode?.eq_def]
    simp [notAscii, lead, cr]
  | case6 b notAscii notTwo lead c1 c2 more lo hi cont ih =>
    rw [List.cons_append, List.cons_append, List.cons_append, decode?.eq_def]
    simp only [lo, hi, Bool.and_eq_true, decide_eq_true_eq, beq_iff_eq] at cont
    simp [notAscii, notTwo, lead, cont, ih, Option.map_map, Function.comp_def]
  | case7 b notAscii notTwo lead c1 c2 more lo hi notCont =>
    rw [List.cons_append, List.cons_append, List.cons_append, decode?.eq_def]
    simp only [lo, hi, Bool.and_eq_true, decide_eq_true_eq, beq_iff_eq] at notCont
    simp only [notAscii, notTwo, lead]
    simp
    intro low high cont
    exact absurd ⟨⟨low, high⟩, cont⟩ notCont
  | case8 b rest notAscii notTwo lead short =>
    rcases rest with _ | ⟨c1, _ | ⟨c2, more⟩⟩
    · rw [decode?.eq_def]
      simp [notAscii, notTwo, lead]
    · rw [decode?.eq_def]
      simp [notAscii, notTwo, lead, cr]
    · exact absurd rfl (short c1 c2 more)
  | case9 b notAscii notTwo notThree lead c1 c2 c3 more lo hi cont ih =>
    rw [List.cons_append, List.cons_append, List.cons_append, List.cons_append, decode?.eq_def]
    simp only [lo, hi, Bool.and_eq_true, decide_eq_true_eq, beq_iff_eq] at cont
    simp [notAscii, notTwo, notThree, lead, cont, ih, Option.map_map, Function.comp_def]
  | case10 b notAscii notTwo notThree lead c1 c2 c3 more lo hi notCont =>
    rw [List.cons_append, List.cons_append, List.cons_append, List.cons_append, decode?.eq_def]
    simp only [lo, hi, Bool.and_eq_true, decide_eq_true_eq, beq_iff_eq] at notCont
    simp [notAscii, notTwo, notThree, lead]
    intro low high cont2 cont3
    exact absurd ⟨⟨⟨low, high⟩, cont2⟩, cont3⟩ notCont
  | case11 b rest notAscii notTwo notThree lead short =>
    rcases rest with _ | ⟨c1, _ | ⟨c2, _ | ⟨c3, more⟩⟩⟩
    · rw [decode?.eq_def]
      simp [notAscii, notTwo, notThree, lead]
    · rw [decode?.eq_def]
      simp [notAscii, notTwo, notThree, lead]
    · rw [decode?.eq_def]
      simp [notAscii, notTwo, notThree, lead, cr]
    · exact absurd rfl (short c1 c2 c3 more)
  | case12 b rest notAscii notTwo notThree notFour =>
    rw [List.cons_append, decode?.eq_def]
    simp [notAscii, notTwo, notThree, notFour]

end ButtonRelay.Utf8

namespace ButtonRelay.Input

/-- The lines of a byte string: the pieces between line feeds, less the empty piece that a final
line feed, or an empty string, leaves at the end. -/
def lineSplit (bytes : List UInt8) : List (List UInt8) :=
  let pieces := bytes.splitOn 0x0A
  if pieces.getLast? = some [] then pieces.dropLast else pieces

/-- What reading one line answers: each of its characters that is not white space, in order, or
a single fault naming the reader when the line is not UTF-8. -/
def lineAnswers (name : String) (line : List UInt8) : List (Except Fault (Option Char)) :=
  match Utf8.decode? line with
  | some text => (text.filter fun c => !Text.isBlank c).map fun c => .ok (some c)
  | none => [.error (.invalidData (name ++ ": line is not valid UTF-8"))]

/-- The answers a reader owes before it reports the end: the presses left of the current line,
then those of every line not yet read. -/
def Lines.owed (l : Lines) : List (Except Fault (Option Char)) :=
  l.pending.map (fun c => .ok (some c)) ++ (lineSplit l.rest).flatMap (lineAnswers l.name)

/-- The answers of `n` successive reads. -/
def Lines.reads (thread : Thread) : Nat → Lines → Logged (List (Except Fault (Option Char)))
  | 0, _ => pure []
  | n + 1, l => do
    let (r, l') ← l.next thread
    let rs ← Lines.reads thread n l'
    pure (r :: rs)

theorem lineSplit_nil : lineSplit [] = [] := rfl

theorem lineSplit_cut {line : List UInt8} (clear : ∀ b ∈ line, b ≠ 0x0A) (after : List UInt8) :
    lineSplit (line ++ 0x0A :: after) = line :: lineSplit after := by
  have pieces : (line ++ 0x0A :: after).splitOn 0x0A = line :: after.splitOn 0x0A :=
    List.splitOnP_append_cons_of_forall_mem (by simpa using clear) _ (by decide) _
  obtain ⟨first, rest, split⟩ : ∃ first rest, after.splitOn 0x0A = first :: rest :=
    List.exists_cons_of_ne_nil (List.splitOnP_ne_nil _ _)
  simp only [lineSplit, pieces, split, List.getLast?_cons_cons, List.dropLast_cons_cons]
  split <;> rfl

theorem lineSplit_last {bytes : List UInt8} (full : bytes ≠ []) (clear : ∀ b ∈ bytes, b ≠ 0x0A) :
    lineSplit bytes = [bytes] := by
  have pieces : bytes.splitOn 0x0A = [bytes] := List.splitOnP_eq_singleton (by simpa using clear)
  simp [lineSplit, pieces, full]

example : lineSplit [0x61, 0x0A, 0x0A] = [[0x61], []] ∧ lineSplit [0x0A] = [[]] := by decide

/-- A line ended by a line feed loses the feed and a carriage return before it. -/
theorem nextLine_cut {line : List UInt8} (clear : ∀ b ∈ line, b ≠ 0x0A) (after : List UInt8) :
    nextLine (line ++ 0x0A :: after) =
      (if line.getLast? = some 0x0D then line.dropLast else line, after) := by
  have first : (line ++ 0x0A :: after).takeWhile (· ≠ 0x0A) = line := by
    rw [List.takeWhile_append_of_pos (by simpa using clear)]
    simp
  simp only [nextLine, first]
  simp

/-- The last line needs no line feed. -/
theorem nextLine_last {bytes : List UInt8} (clear : ∀ b ∈ bytes, b ≠ 0x0A) : nextLine bytes = (bytes, []) := by
  have whole : bytes.takeWhile (· ≠ 0x0A) = bytes := List.takeWhile_eq_self_iff.mpr (by simpa using clear)
  simp only [nextLine, whole, Nat.lt_irrefl, if_false]
  simp

theorem lineAnswers_cr (name : String) (line : List UInt8) :
    lineAnswers name (line ++ [0x0D]) = lineAnswers name line := by
  cases text : Utf8.decode? line <;> simp [lineAnswers, Utf8.decode?_append_cr, text, Text.isBlank]

/-- Taking the carriage return off a line changes neither whether it reads as text nor its
presses. -/
theorem lineAnswers_strip (name : String) (line : List UInt8) :
    lineAnswers name (if line.getLast? = some 0x0D then line.dropLast else line) = lineAnswers name line := by
  split
  · next ends => rw [← lineAnswers_cr, List.dropLast_append_getLast? _ ends]
  · rfl

/-- Reading the next line of non-empty bytes answers for their first line, and leaves the lines
after it. -/
theorem nextLine_split (name : String) {bytes : List UInt8} (full : bytes ≠ []) :
    ∃ line, lineSplit bytes = line :: lineSplit (nextLine bytes).2 ∧
      lineAnswers name (nextLine bytes).1 = lineAnswers name line := by
  have clear : ∀ b ∈ bytes.takeWhile (· ≠ 0x0A), b ≠ 0x0A := fun b mem => by
    simpa using List.mem_takeWhile_imp mem
  cases tail : bytes.dropWhile (· ≠ 0x0A) with
  | nil =>
    have all : ∀ b ∈ bytes, b ≠ 0x0A := by simpa using List.dropWhile_eq_nil_iff.mp tail
    exact ⟨bytes, by rw [nextLine_last all, lineSplit_last full all, lineSplit_nil], by rw [nextLine_last all]⟩
  | cons feed after =>
    have isFeed : feed = 0x0A := by
      have stops := List.head_dropWhile_not (· ≠ (0x0A : UInt8)) (l := bytes) (by rw [tail]; simp)
      simp only [tail, List.head_cons] at stops
      simpa using stops
    generalize first : bytes.takeWhile (· ≠ 0x0A) = line at clear
    have whole : bytes = line ++ 0x0A :: after := by
      rw [← isFeed, ← tail, ← first]
      exact List.takeWhile_append_dropWhile.symm
    subst whole
    refine ⟨line, ?_, ?_⟩
    · rw [nextLine_cut clear, lineSplit_cut clear]
    · rw [nextLine_cut clear, lineAnswers_strip]

/-- With no presses left of the current line, the answers owed are those of the next line and
then of the lines after it. -/
theorem Lines.owed_nextLine {l : Lines} (waiting : l.pending = []) (more : l.rest ≠ []) :
    l.owed = lineAnswers l.name (nextLine l.rest).1 ++
      (lineSplit (nextLine l.rest).2).flatMap (lineAnswers l.name) := by
  obtain ⟨line, split, same⟩ := nextLine_split l.name more
  simp [Lines.owed, waiting, split, same]

/-- One read gives the first answer owed, or the end when none is owed, and then owes the rest. -/
theorem Lines.next_owed (thread : Thread) (l : Lines) (log : List Event) :
    ((l.next thread).run log).1.1 = l.owed.headD (.ok none) ∧
      ((l.next thread).run log).1.2.owed = l.owed.tail := by
  -- the reader's own recursion: a line that reads as text but has no presses is passed over
  fun_induction Lines.next thread l generalizing log with
  | case1 l c more front =>
    simp [Lines.owed, front]
  | case2 l waiting done =>
    simp [Lines.owed, waiting, done, lineSplit_nil]
  | case3 l waiting more unreadable =>
    rw [Lines.owed_nextLine waiting more]
    simp [lineAnswers, unreadable, Lines.owed, waiting]
  | case4 l waiting more text readable ih =>
    have same : l.owed = { l with rest := (nextLine l.rest).2, pending := presses text }.owed := by
      rw [Lines.owed_nextLine waiting more]
      simp [Lines.owed, lineAnswers, readable, presses]
    rw [same]
    exact ih _

/-- `n` successive reads give, in order, the answers owed, and the end once they are given. -/
theorem Lines.reads_owed (thread : Thread) (n : Nat) (l : Lines) (log : List Event) :
    ((Lines.reads thread n l).run log).1 = (List.range n).map fun i => l.owed.getD i (.ok none) := by
  induction n generalizing l log with
  | zero => rfl
  | succ n ih =>
    obtain ⟨first, rest⟩ := Lines.next_owed thread l log
    simp only [Lines.reads, Logged.bind_fst, StateT.run_pure, Logged.pure_fst, ih, first, rest, List.range_succ_eq_map,
      List.map_cons, List.map_map]
    -- the answer after the first is the first of those still owed
    cases l.owed <;> simp [Function.comp_def]

/-- A line reader over any bytes answers its successive reads line by line: the bytes are cut at
every line feed (an empty piece after the last one is no line); a line that is UTF-8 gives each of
its characters that is not white space, in order, and one that is not gives a single fault naming
the reader; once every line is read, every read answers the end. -/
theorem Lines.reads_ofBytes (thread : Thread) (name : String) (bytes : List UInt8) (n : Nat) (log : List Event) :
    ((Lines.reads thread n (Lines.ofBytes name bytes)).run log).1 =
      (List.range n).map fun i => ((lineSplit bytes).flatMap (lineAnswers name)).getD i (.ok none) := by
  rw [Lines.reads_owed]
  simp [Lines.owed, Lines.ofBytes]

example : (lineSplit [0xFF, 0x0A, 0x20, 0x78, 0x0D, 0x0A]).flatMap (lineAnswers "t") =
    [.error (.invalidData "t: line is not valid UTF-8"), .ok (some 'x')] := by decide

end ButtonRelay.Input
