import Mathlib.Data.List.Induction
import ButtonRelay.Input.Mock

/-!
The hand-pressed input over any channel that keeps the library's promises (`Channel.Laws`): the
reader takes the presses in the order they were made, sees the end once every handle is gone, and
a press fails exactly when the reader is gone.
-/

namespace ButtonRelay.Input.Mock

/-- A step on one input: a press or a run of presses through a handle, a new handle made from
one, a handle dropped, one look by the reader, the reader dropped, or a handle asking whether the
reader is gone. -/
inductive Call where
  | press (h : Nat) (c : Char)
  | pressAll (h : Nat) (cs : List Char)
  | clone (h : Nat)
  | dropHandle (h : Nat)
  | poll
  | dropSource
  | isClosed (h : Nat)
  deriving DecidableEq

/-- What a step answers. A step through a handle that is not live, or a look once the reader is
gone, cannot be made and is refused. -/
inductive Answer where
  | accepted
  | failed (f : Fault)
  | cloned (h : Nat)
  | done
  | read (p : Poll)
  | closed (b : Bool)
  | refused
  deriving DecidableEq

variable {κ : Type} [Channel κ]

/-- A press that is accepted with the input after it, or fails and leaves the input. -/
def pressed (m : Mock κ) : Except Fault (Mock κ) → Answer × Mock κ
  | .ok m' => (.accepted, m')
  | .error f => (.failed f, m)

/-- Makes one step. -/
def answer (m : Mock κ) : Call → Answer × Mock κ
  | .press h c => if m.holds h then m.pressed (m.press c) else (.refused, m)
  | .pressAll h cs => if m.holds h then m.pressed (m.pressAll cs) else (.refused, m)
  | .clone h => if m.holds h then (.cloned m.clone.2, m.clone.1) else (.refused, m)
  | .dropHandle h => if m.holds h then (.done, m.dropHandle h) else (.refused, m)
  | .poll => if m.isClosed then (.refused, m) else (.read m.poll.1, m.poll.2)
  | .dropSource => (.done, m.dropReader)
  | .isClosed h => if m.holds h then (.closed m.isClosed, m) else (.refused, m)

/-- Makes one more step, keeping it with its answer. -/
def record (done : List (Call × Answer) × Mock κ) (call : Call) : List (Call × Answer) × Mock κ :=
  (done.1 ++ [(call, (done.2.answer call).1)], (done.2.answer call).2)

variable (κ) in
/-- Makes the steps in order on a new input over a channel of type `κ`, keeping each step with
its answer. -/
def replay (name : String) (calls : List Call) : List (Call × Answer) × Mock κ :=
  calls.foldl record ([], create name)

/-- The characters a step put into the channel. -/
def Call.sent : Call → Answer → List Char
  | .press _ c, .accepted => [c]
  | .pressAll _ cs, .accepted => cs
  | _, _ => []

/-- The character a step took out of the channel. -/
def Answer.taken? : Answer → Option Char
  | .read (.value c) => some c
  | _ => none

/-- The handle a step made. -/
def Answer.made? : Answer → Option Nat
  | .cloned h => some h
  | _ => none

/-- The handle a step dropped. -/
def Call.dropped? : Call → Answer → Option Nat
  | .dropHandle h, .done => some h
  | _, _ => none

/-- The characters the steps put into the channel, in order. -/
def sent (entries : List (Call × Answer)) : List Char := entries.flatMap fun e => e.1.sent e.2

/-- The characters the reader took, in order. -/
def taken (entries : List (Call × Answer)) : List Char := entries.filterMap (·.2.taken?)

/-- The handles made: the first one, then each clone. -/
def made (entries : List (Call × Answer)) : List Nat := 0 :: entries.filterMap (·.2.made?)

/-- The handles dropped. -/
def dropped (entries : List (Call × Answer)) : List Nat := entries.filterMap fun e => e.1.dropped? e.2

theorem replay_append (name : String) (calls : List Call) (call : Call) :
    replay κ name (calls ++ [call]) =
      ((replay κ name calls).1 ++ [(call, ((replay κ name calls).2.answer call).1)],
        ((replay κ name calls).2.answer call).2) := by
  simp only [replay, List.foldl_append, List.foldl_cons, List.foldl_nil, record]

/-- The replay keeps the steps themselves, in order. -/
theorem replay_calls (name : String) (calls : List Call) : (replay κ name calls).1.map Prod.fst = calls := by
  induction calls using List.reverseRecOn with
  | nil => rfl
  | append_singleton calls call ih => simp [replay_append, ih]

@[simp] theorem sent_append (entries : List (Call × Answer)) (call : Call) (a : Answer) :
    sent (entries ++ [(call, a)]) = sent entries ++ call.sent a := by
  simp [sent]

@[simp] theorem taken_append (entries : List (Call × Answer)) (call : Call) (a : Answer) :
    taken (entries ++ [(call, a)]) = taken entries ++ a.taken?.toList := by
  cases took : a.taken? <;> simp [taken, took]

@[simp] theorem made_append (entries : List (Call × Answer)) (call : Call) (a : Answer) :
    made (entries ++ [(call, a)]) = made entries ++ a.made?.toList := by
  cases gave : a.made? <;> simp [made, gave]

@[simp] theorem dropped_append (entries : List (Call × Answer)) (call : Call) (a : Answer) :
    dropped (entries ++ [(call, a)]) = dropped entries ++ (call.dropped? a).toList := by
  cases gone : call.dropped? a <;> simp [dropped, gone]

theorem answer_refused {m : Mock κ} {h : Nat} (dead : m.holds h = false) (c : Char) (cs : List Char) :
    m.answer (.press h c) = (.refused, m) ∧ m.answer (.pressAll h cs) = (.refused, m) ∧
      m.answer (.clone h) = (.refused, m) ∧ m.answer (.dropHandle h) = (.refused, m) ∧
      m.answer (.isClosed h) = (.refused, m) := by
  simp [answer, dead]

/-- An input that has ended for good: nothing in flight and no live handle or sender. -/
def Ended (buffered : κ → List Char) (senders : κ → Nat) (m : Mock κ) : Prop :=
  m.handles = [] ∧ buffered m.channel = [] ∧ senders m.channel = 0

/-- What an input holds after some steps, read off the steps and their answers, through what
its channel holds (`buffered`, `senders`): the input's name, whether the reader is there, the
handles made and those still live, one sender for each live handle, and the characters in
flight. -/
structure Tracks (buffered : κ → List Char) (senders : κ → Nat) (name : String)
    (entries : List (Call × Answer)) (m : Mock κ) : Prop where
  named : m.name = name
  closed : m.isClosed = true ↔ .dropSource ∈ entries.map Prod.fst
  numbered : made entries = List.range m.nextHandle
  live : m.handles = (made entries).filter (· ∉ dropped entries)
  droppedMade : ∀ h ∈ dropped entries, h < m.nextHandle
  counted : senders m.channel = m.handles.length
  flowing : m.isClosed = false → taken entries ++ buffered m.channel = sent entries
  inOrder : taken entries <+: sent entries

section
variable {buffered : κ → List Char} {senders : κ → Nat} {name : String} {entries : List (Call × Answer)}
  {m : Mock κ}

/-- A step that leaves the input as it was and puts in, takes out, makes and drops nothing keeps
the account. -/
theorem Tracks.quiet (tracks : Tracks buffered senders name entries m) {call : Call} {a : Answer}
    (stays : call ≠ .dropSource) (sends : call.sent a = []) (takes : a.taken? = none)
    (makes : a.made? = none) (drops : call.dropped? a = none) :
    Tracks buffered senders name (entries ++ [(call, a)]) m where
  named := tracks.named
  closed := by simpa [Ne.symm stays] using tracks.closed
  numbered := by simpa [makes] using tracks.numbered
  live := by simpa [makes, drops] using tracks.live
  droppedMade := by simpa [drops] using tracks.droppedMade
  counted := tracks.counted
  flowing := by simpa [sends, takes] using tracks.flowing
  inOrder := by simpa [sends, takes] using tracks.inOrder

/-- Presses accepted while the reader is there join the back of what is in flight. -/
theorem Tracks.sending (tracks : Tracks buffered senders name entries m) (live : m.isClosed = false)
    {call : Call} (stays : call ≠ .dropSource) {cs : List Char} (sends : call.sent .accepted = cs)
    (drops : call.dropped? .accepted = none) {k : κ} (back : buffered k = buffered m.channel ++ cs)
    (same : senders k = senders m.channel) (still : Channel.isClosed k = false) :
    Tracks buffered senders name (entries ++ [(call, .accepted)]) { m with channel := k } where
  named := tracks.named
  closed := by
    have absent : .dropSource ∉ entries.map Prod.fst := by simpa [live] using tracks.closed
    simp [isClosed, still, absent, Ne.symm stays]
  numbered := by simpa [Answer.made?] using tracks.numbered
  live := by simpa [Answer.made?, drops] using tracks.live
  droppedMade := by simpa [drops] using tracks.droppedMade
  counted := same.trans tracks.counted
  flowing := by
    intro _
    simp [back, sends, Answer.taken?, ← tracks.flowing live]
  inOrder := by
    rw [sent_append, taken_append, sends, ← tracks.flowing live]
    simp [Answer.taken?]

end

section Laws

variable {buffered : κ → List Char} {senders : κ → Nat} (laws : Channel.Laws κ buffered senders)
include laws

/-- While the reader is there a press goes into the channel, at the back. -/
theorem press_open {m : Mock κ} (live : m.isClosed = false) (c : Char) :
    ∃ k, m.press c = .ok { m with channel := k } ∧ buffered k = buffered m.channel ++ [c] ∧
      senders k = senders m.channel ∧ Channel.isClosed k = false := by
  obtain ⟨k, sent, back, same, still⟩ := laws.send_open m.channel c live
  exact ⟨k, by simp [press, sent], back, same, still⟩

/-- While the reader is there a run of presses goes into the channel whole, in order. -/
theorem pressAll_open {m : Mock κ} (live : m.isClosed = false) (cs : List Char) :
    ∃ k, m.pressAll cs = .ok { m with channel := k } ∧ buffered k = buffered m.channel ++ cs ∧
      senders k = senders m.channel ∧ Channel.isClosed k = false := by
  induction cs generalizing m with
  | nil => exact ⟨m.channel, by simp [pressAll], by simp, rfl, live⟩
  | cons c more ih =>
    obtain ⟨k, first, back, same, still⟩ := press_open laws live c
    obtain ⟨k', rest, back', same', still'⟩ := @ih { m with channel := k } still
    exact ⟨k', by simp [pressAll, first, rest], by simp [back', back], same'.trans same, still'⟩

/-- Once the reader is gone a run of presses fails on its first press, naming the input. -/
theorem pressAll_closed {m : Mock κ} (gone : m.isClosed = true) (c : Char) (more : List Char) :
    m.pressAll (c :: more) = .error (.closed m.name) := by
  simp [pressAll, press, laws.send_closed m.channel c gone]

variable {name : String} {entries : List (Call × Answer)} {m : Mock κ}

theorem Tracks.start (name : String) : Tracks buffered senders name [] (create name) where
  named := rfl
  closed := by simp [isClosed, create, laws.create_state.2.2]
  numbered := rfl
  live := rfl
  droppedMade := by simp [dropped]
  counted := by simp [create, laws.create_state.2.1]
  flowing := fun _ => by simp [create, laws.create_state.1, taken, sent]
  inOrder := ⟨[], rfl⟩

/-- The reader takes the oldest character in flight. -/
theorem Tracks.taking (tracks : Tracks buffered senders name entries m) (live : m.isClosed = false)
    {c : Char} {more : List Char} (front : buffered m.channel = c :: more) :
    Tracks buffered senders name (entries ++ [(.poll, .read (.value c))])
      { m with channel := (Channel.poll m.channel).2 } := by
  obtain ⟨_, rest, same, still⟩ := laws.poll_value m.channel c more front
  have absent : .dropSource ∉ entries.map Prod.fst := by simpa [live] using tracks.closed
  exact {
    named := tracks.named
    closed := by
      simp only [isClosed] at live
      simp [isClosed, still, live, absent]
    numbered := by simpa [Answer.made?] using tracks.numbered
    live := by simpa [Answer.made?, Call.dropped?] using tracks.live
    droppedMade := by simpa [Call.dropped?] using tracks.droppedMade
    counted := same.trans tracks.counted
    flowing := fun _ => by simp [rest, Call.sent, Answer.taken?, ← tracks.flowing live, front]
    inOrder := ⟨more, by simp [Call.sent, Answer.taken?, ← tracks.flowing live, front]⟩ }

/-- A look at an empty channel finds the end or nothing yet, and changes nothing it holds. -/
theorem Tracks.waiting (tracks : Tracks buffered senders name entries m) (live : m.isClosed = false)
    (empty : buffered m.channel = []) :
    Tracks buffered senders name (entries ++ [(.poll, .read (Channel.poll m.channel).1)])
      { m with channel := (Channel.poll m.channel).2 } := by
  obtain ⟨answered, stillEmpty, same, still⟩ := laws.poll_empty m.channel empty
  have quiet : (Answer.read (Channel.poll m.channel).1).taken? = none := by
    rw [answered]
    split <;> rfl
  have absent : .dropSource ∉ entries.map Prod.fst := by simpa [live] using tracks.closed
  exact {
    named := tracks.named
    closed := by
      simp only [isClosed] at live
      simp [isClosed, still, live, absent]
    numbered := by simpa [Answer.made?] using tracks.numbered
    live := by simpa [Answer.made?, Call.dropped?] using tracks.live
    droppedMade := by simpa [Call.dropped?] using tracks.droppedMade
    counted := same.trans tracks.counted
    flowing := fun _ => by simpa [stillEmpty, empty, quiet, Call.sent] using tracks.flowing live
    inOrder := by simpa [quiet, Call.sent] using tracks.inOrder }

/-- A new handle takes the next number, and the channel one more sender. -/
theorem Tracks.cloning (tracks : Tracks buffered senders name entries m) (h : Nat) :
    Tracks buffered senders name (entries ++ [(.clone h, .cloned m.nextHandle)]) m.clone.1 := by
  obtain ⟨kept, more, still⟩ := laws.addSender_state m.channel
  have fresh : m.nextHandle ∉ dropped entries := fun mem => Nat.lt_irrefl _ (tracks.droppedMade _ mem)
  exact {
    named := tracks.named
    closed := by simpa [clone, isClosed, still] using tracks.closed
    numbered := by simp [clone, Answer.made?, tracks.numbered, List.range_succ]
    live := by simp [clone, Answer.made?, Call.dropped?, tracks.live, List.filter_append, fresh]
    droppedMade := by
      simpa [clone, Call.dropped?] using fun h mem => Nat.lt_succ_of_lt (tracks.droppedMade h mem)
    counted := by simp [clone, more, tracks.counted]
    flowing := by simpa [clone, isClosed, still, kept, Call.sent, Answer.taken?] using tracks.flowing
    inOrder := by simpa [Call.sent, Answer.taken?] using tracks.inOrder }

/-- A live handle dropped is no longer live, and the channel has one sender fewer. -/
theorem Tracks.dropping (tracks : Tracks buffered senders name entries m) {h : Nat} (live : m.holds h = true) :
    Tracks buffered senders name (entries ++ [(.dropHandle h, .done)]) (m.dropHandle h) := by
  obtain ⟨kept, fewer, still⟩ := laws.dropSender_state m.channel
  have member : h ∈ m.handles := by simpa [holds] using live
  exact {
    named := by simpa [dropHandle, live] using tracks.named
    closed := by simpa [dropHandle, live, isClosed, still] using tracks.closed
    numbered := by simpa [Answer.made?, dropHandle, live] using tracks.numbered
    live := by
      -- handles are numbered without repeats, so erasing one filters it out
      have distinct : ((made entries).filter (· ∉ dropped entries)).Nodup :=
        tracks.numbered ▸ (List.nodup_range).filter _
      simp only [dropHandle, live, if_true]
      rw [tracks.live, distinct.erase_eq_filter, List.filter_filter]
      simp only [dropped_append, made_append, Call.dropped?, Answer.made?, Option.toList_some, Option.toList_none,
        List.append_nil]
      apply List.filter_congr
      intro x _
      by_cases same : x = h <;> simp [same]
    droppedMade := by
      have below : h < m.nextHandle := by
        have mem : h ∈ (made entries).filter (· ∉ dropped entries) := by
          simpa [holds, tracks.live] using live
        simpa [tracks.numbered] using (List.mem_filter.mp mem).1
      intro x mem
      simp only [dropped_append, Call.dropped?, Option.toList_some, List.mem_append, List.mem_singleton] at mem
      simp only [dropHandle, live, if_true]
      rcases mem with earlier | rfl
      · exact tracks.droppedMade x earlier
      · exact below
    counted := by simp [dropHandle, live, fewer, tracks.counted, List.length_erase_of_mem member]
    flowing := by simpa [dropHandle, live, isClosed, still, kept, Call.sent, Answer.taken?] using tracks.flowing
    inOrder := by simpa [Call.sent, Answer.taken?] using tracks.inOrder }

/-- Dropping the reader closes the channel: no press reaches it after that. -/
theorem Tracks.closing (tracks : Tracks buffered senders name entries m) :
    Tracks buffered senders name (entries ++ [(.dropSource, .done)]) m.dropReader := by
  obtain ⟨gone, same⟩ := laws.dropReceiver_state m.channel
  exact {
    named := tracks.named
    closed := by simp [dropReader, isClosed, gone]
    numbered := by simpa [Answer.made?, dropReader] using tracks.numbered
    live := by simpa [Answer.made?, Call.dropped?, dropReader] using tracks.live
    droppedMade := by simpa [Call.dropped?, dropReader] using tracks.droppedMade
    counted := by simp [dropReader, same, tracks.counted]
    flowing := by simp [dropReader, isClosed, gone]
    inOrder := by simpa [Call.sent, Answer.taken?] using tracks.inOrder }

theorem answer_pressAll_open {h : Nat} (held : m.holds h = true) (live : m.isClosed = false) (cs : List Char) :
    ∃ k, m.answer (.pressAll h cs) = (.accepted, { m with channel := k }) ∧ buffered k = buffered m.channel ++ cs ∧
      senders k = senders m.channel ∧ Channel.isClosed k = false := by
  obtain ⟨k, sent, back, same, still⟩ := pressAll_open laws live cs
  exact ⟨k, by simp [answer, held, pressed, sent], back, same, still⟩

omit laws in
theorem answer_pressAll_nil {h : Nat} (held : m.holds h = true) : m.answer (.pressAll h []) = (.accepted, m) := by
  simp [answer, held, pressed, pressAll]

theorem answer_pressAll_closed {h : Nat} (held : m.holds h = true) (gone : m.isClosed = true) (c : Char)
    (more : List Char) : m.answer (.pressAll h (c :: more)) = (.failed (.closed m.name), m) := by
  simp [answer, held, pressed, pressAll_closed laws gone]

omit laws in
/-- A press is a run of one press. -/
theorem answer_press (h : Nat) (c : Char) : m.answer (.press h c) = m.answer (.pressAll h [c]) := by
  cases sent : m.press c <;> simp [answer, pressAll, sent]

/-- A run of presses through a handle keeps the account, whatever the call that makes it. -/
theorem Tracks.pressing (tracks : Tracks buffered senders name entries m) {call : Call} {h : Nat}
    {cs : List Char} (same : m.answer call = m.answer (.pressAll h cs)) (stays : call ≠ .dropSource)
    (sends : ∀ a, call.sent a = (Call.pressAll h cs).sent a) (drops : ∀ a, call.dropped? a = none) :
    Tracks buffered senders name (entries ++ [(call, (m.answer call).1)]) (m.answer call).2 := by
  rw [same]
  by_cases held : m.holds h = true
  · cases closed : m.isClosed with
    | false =>
      obtain ⟨k, answered, back, same, still⟩ := answer_pressAll_open laws held closed cs
      rw [answered]
      exact tracks.sending closed stays (sends .accepted) (drops _) back same still
    | true =>
      cases cs with
      | nil =>
        rw [answer_pressAll_nil held]
        exact tracks.quiet stays (sends _) rfl rfl (drops _)
      | cons c more =>
        rw [answer_pressAll_closed laws held closed]
        exact tracks.quiet stays (sends _) rfl rfl (drops _)
  · rw [(answer_refused (by simpa using held) ' ' cs).2.1]
    exact tracks.quiet stays (sends _) rfl rfl (drops _)

/-- Every step keeps the account. -/
theorem Tracks.answer (tracks : Tracks buffered senders name entries m) (call : Call) :
    Tracks buffered senders name (entries ++ [(call, (m.answer call).1)]) (m.answer call).2 := by
  cases call with
  | press h c =>
    refine tracks.pressing laws (answer_press h c) (by simp) (fun a => ?_) (fun _ => rfl)
    cases a <;> rfl
  | pressAll h cs => exact tracks.pressing laws rfl (by simp) (fun _ => rfl) (fun _ => rfl)
  | clone h =>
    by_cases held : m.holds h = true
    · simpa [Mock.answer, held, clone] using tracks.cloning laws h
    · rw [(answer_refused (by simpa using held) ' ' []).2.2.1]
      exact tracks.quiet (by simp) rfl rfl rfl rfl
  | dropHandle h =>
    by_cases held : m.holds h = true
    · simpa [Mock.answer, held] using tracks.dropping laws held
    · rw [(answer_refused (by simpa using held) ' ' []).2.2.2.1]
      exact tracks.quiet (by simp) rfl rfl rfl rfl
  | poll =>
    cases closed : m.isClosed with
    | true =>
      simp only [Mock.answer, closed, if_true]
      exact tracks.quiet (by simp) rfl rfl rfl rfl
    | false =>
      cases front : buffered m.channel with
      | nil => simpa [Mock.answer, closed, poll] using tracks.waiting laws closed front
      | cons c more =>
        have answered : (Channel.poll m.channel).1 = .value c := (laws.poll_value m.channel c more front).1
        simpa [Mock.answer, closed, poll, answered] using tracks.taking laws closed front
  | dropSource => exact tracks.closing laws
  | isClosed h =>
    by_cases held : m.holds h = true
    · simp only [Mock.answer, held, if_true]
      exact tracks.quiet (by simp) rfl rfl rfl rfl
    · rw [(answer_refused (by simpa using held) ' ' []).2.2.2.2]
      exact tracks.quiet (by simp) rfl rfl rfl rfl

/-- Every replay keeps the account. -/
theorem replay_tracks (name : String) (calls : List Call) :
    Tracks buffered senders name (replay κ name calls).1 (replay κ name calls).2 := by
  induction calls using List.reverseRecOn with
  | nil => exact Tracks.start laws name
  | append_singleton calls call ih =>
    rw [replay_append]
    exact ih.answer laws call

/-- While the reader is there, its look takes the oldest character in flight. -/
theorem poll_value_iff (live : m.isClosed = false) (c : Char) :
    (m.answer .poll).1 = .read (.value c) ↔ (buffered m.channel).head? = some c := by
  cases front : buffered m.channel with
  | nil =>
    have answered := (laws.poll_empty m.channel front).1
    by_cases none : senders m.channel = 0 <;> simp [Mock.answer, live, poll, answered, none]
  | cons first more =>
    have answered := (laws.poll_value m.channel first more front).1
    simp [Mock.answer, live, poll, answered]

/-- While the reader is there, its look finds the end exactly when nothing is in flight and no
sender is left. -/
theorem poll_closed_iff (live : m.isClosed = false) :
    (m.answer .poll).1 = .read .closed ↔ buffered m.channel = [] ∧ senders m.channel = 0 := by
  cases front : buffered m.channel with
  | nil =>
    have answered := (laws.poll_empty m.channel front).1
    by_cases none : senders m.channel = 0 <;> simp [Mock.answer, live, poll, answered, none]
  | cons first more =>
    have answered := (laws.poll_value m.channel first more front).1
    simp [Mock.answer, live, poll, answered]

/-- No step but dropping the reader changes an ended input: with no live handle nothing can be
pressed or cloned, and a look finds nothing. -/
theorem Ended.answer (ended : Ended buffered senders m) {call : Call} (stays : call ≠ .dropSource) :
    Ended buffered senders (m.answer call).2 := by
  obtain ⟨gone, empty, none⟩ := ended
  have dead : ∀ h, m.holds h = false := by simp [holds, gone]
  cases call with
  | press h c | pressAll h cs | clone h | dropHandle h | isClosed h =>
    simpa [Mock.answer, dead] using ⟨gone, empty, none⟩
  | poll =>
    cases closed : m.isClosed with
    | true => simpa [Mock.answer, closed] using ⟨gone, empty, none⟩
    | false =>
      obtain ⟨-, stillEmpty, same, -⟩ := laws.poll_empty m.channel empty
      exact ⟨by simp [Mock.answer, closed, poll, gone], by simp [Mock.answer, closed, poll, stillEmpty],
        by simp [Mock.answer, closed, poll, same, none]⟩
  | dropSource => exact absurd rfl stays

theorem Ended.record {done : List (Call × Answer) × Mock κ} (ended : Ended buffered senders done.2)
    {more : List Call} (stays : .dropSource ∉ more) : Ended buffered senders (more.foldl record done).2 := by
  induction more generalizing done with
  | nil => exact ended
  | cons call more ih =>
    simp only [List.mem_cons, not_or] at stays
    exact ih (ended.answer laws (Ne.symm stays.1)) stays.2

end Laws

section
variable {buffered : κ → List Char} {senders : κ → Nat} {name : String} {entries : List (Call × Answer)}
  {m : Mock κ}

/-- The handles that are live are those made and not dropped. -/
theorem Tracks.holds_iff (tracks : Tracks buffered senders name entries m) (h : Nat) :
    m.holds h = true ↔ h ∈ made entries ∧ h ∉ dropped entries := by
  simp [holds, tracks.live]

/-- No sender is left exactly when every handle made has been dropped. -/
theorem Tracks.senders_zero_iff (tracks : Tracks buffered senders name entries m) :
    senders m.channel = 0 ↔ ∀ h ∈ made entries, h ∈ dropped entries := by
  simp [tracks.counted, tracks.live, List.filter_eq_nil_iff]

/-- While the reader is there, nothing is in flight exactly when it has taken every press. -/
theorem Tracks.buffered_nil_iff (tracks : Tracks buffered senders name entries m) (live : m.isClosed = false) :
    buffered m.channel = [] ↔ (taken entries).length = (sent entries).length := by
  have lengths := congrArg List.length (tracks.flowing live)
  rw [List.length_append] at lengths
  rw [← List.length_eq_zero_iff]
  omega

/-- While the reader is there, the oldest character in flight is the oldest press it has not taken. -/
theorem Tracks.buffered_head (tracks : Tracks buffered senders name entries m) (live : m.isClosed = false) :
    (buffered m.channel).head? = (sent entries)[(taken entries).length]? := by
  rw [← tracks.flowing live, List.getElem?_append_right (Nat.le_refl _), Nat.sub_self, List.head?_eq_getElem?]

end

/-- A look finds something only while the reader is there. -/
theorem poll_reading {m : Mock κ} {p : Poll} (found : (m.answer .poll).1 = .read p) : m.isClosed = false := by
  cases closed : m.isClosed with
  | false => rfl
  | true => simp [Mock.answer, closed] at found

section Laws

variable {buffered : κ → List Char} {senders : κ → Nat} (laws : Channel.Laws κ buffered senders)
include laws

/-- Once a look finds the input ended, so does every look after later calls that keep the reader. -/
theorem replay_closed_stays {name : String} {history : List Call}
    (closed : ((replay κ name history).2.answer .poll).1 = .read .closed) {more : List Call}
    (stays : .dropSource ∉ more) : ((replay κ name (history ++ more)).2.answer .poll).1 = .read .closed := by
  have tracks := replay_tracks laws name history
  have there := poll_reading closed
  obtain ⟨empty, none⟩ := (poll_closed_iff laws there).mp closed
  have ended : Ended buffered senders (replay κ name history).2 :=
    ⟨List.length_eq_zero_iff.mp (tracks.counted ▸ none), empty, none⟩
  have later : Ended buffered senders (replay κ name (history ++ more)).2 := by
    simpa only [replay, List.foldl_append] using Ended.record laws ended stays
  -- the reader was there after the history, and none of the later calls drops it
  have absent : .dropSource ∉ history := by
    simpa [there, replay_calls] using tracks.closed
  have stillThere : (replay κ name (history ++ more)).2.isClosed = false := by
    have after := (replay_tracks laws name (history ++ more)).closed
    rw [replay_calls, List.mem_append] at after
    simpa [absent, stays] using after
  exact (poll_closed_iff laws stillThere).mpr ⟨later.2.1, later.2.2⟩

end Laws

/-- Over any steps on one input and its handles, and over any channel that keeps the library's
promises, the reader takes exactly the characters of the accepted presses, each once and in the
order they were pressed: while it is there, what it has not taken is in flight, its next look
takes the oldest press it has not taken, and it finds the end exactly when every handle made has
been dropped and every press taken, and so at every later look. A run of presses through a live
handle fails, naming the input and leaving it as it was, exactly when the reader has been dropped
and the run is not empty, and otherwise goes into the channel whole; a press is a run of one. A
live handle sees the reader closed exactly when it has been dropped. -/
theorem replay_channel (buffered : κ → List Char) (senders : κ → Nat) (laws : Channel.Laws κ buffered senders)
    (name : String) (history : List Call) :
    let entries := (replay κ name history).1
    let m := (replay κ name history).2
    taken entries <+: sent entries ∧
      (.dropSource ∉ history →
        taken entries ++ buffered m.channel = sent entries ∧
        (∀ c, (m.answer .poll).1 = .read (.value c) ↔ (sent entries)[(taken entries).length]? = some c) ∧
        ((m.answer .poll).1 = .read .closed ↔
          (∀ h ∈ made entries, h ∈ dropped entries) ∧ (taken entries).length = (sent entries).length)) ∧
      ((m.answer .poll).1 = .read .closed → ∀ more, .dropSource ∉ more →
        ((replay κ name (history ++ more)).2.answer .poll).1 = .read .closed) ∧
      (∀ h ∈ made entries, h ∉ dropped entries → ∀ cs,
        (m.answer (.pressAll h cs)).1 =
          (if .dropSource ∈ history ∧ cs ≠ [] then .failed (.closed name) else .accepted) ∧
        (.dropSource ∈ history → (m.answer (.pressAll h cs)).2 = m) ∧
        (.dropSource ∉ history → buffered (m.answer (.pressAll h cs)).2.channel = buffered m.channel ++ cs)) ∧
      (∀ h c, m.answer (.press h c) = m.answer (.pressAll h [c])) ∧
      (∀ h ∈ made entries, h ∉ dropped entries →
        (m.answer (.isClosed h)).1 = .closed (decide (.dropSource ∈ history))) := by
  intro entries m
  have tracks : Tracks buffered senders name entries m := replay_tracks laws name history
  -- the reader is there exactly while no step has dropped it
  have closedIff : m.isClosed = true ↔ .dropSource ∈ history := by
    rw [tracks.closed, replay_calls]
  have openIff : m.isClosed = false ↔ .dropSource ∉ history := by
    rw [← closedIff]
    simp
  have held : ∀ h ∈ made entries, h ∉ dropped entries → m.holds h = true := fun h made kept =>
    (tracks.holds_iff h).mpr ⟨made, kept⟩
  refine ⟨tracks.inOrder, fun there => ?_, fun closed more stays => replay_closed_stays laws closed stays,
    fun h made kept cs => ?_, fun h c => answer_press h c, fun h made kept => ?_⟩
  · have live := openIff.mpr there
    refine ⟨tracks.flowing live, fun c => ?_, ?_⟩
    · rw [poll_value_iff laws live, tracks.buffered_head live]
    · rw [poll_closed_iff laws live, tracks.buffered_nil_iff live, tracks.senders_zero_iff, and_comm]
  · by_cases gone : .dropSource ∈ history
    · cases cs with
      | nil => simp [answer_pressAll_nil (held h made kept), gone]
      | cons c more =>
        simp [answer_pressAll_closed laws (held h made kept) (closedIff.mpr gone), gone, tracks.named]
    · obtain ⟨k, answered, back, -, -⟩ := answer_pressAll_open laws (held h made kept) (openIff.mpr gone) cs
      simp [answered, gone, back]
  · simp only [Mock.answer, held h made kept, if_true, Answer.closed.injEq]
    by_cases gone : .dropSource ∈ history
    · simp [closedIff.mpr gone, gone]
    · simp [openIff.mpr gone, gone]

/-- The plain channel keeps the promises; over it, a press after the reader is dropped fails
naming the input, and the handle sees the reader closed. -/
theorem replay_channel_pipe :
    Channel.Laws Pipe Pipe.queued Pipe.senders ∧
      (replay Pipe "Bench Button" [.dropSource]).2.answer (.press 0 'x') =
        (replay Pipe "Bench Button" [.dropSource]).2.answer (.pressAll 0 ['x']) ∧
      ((replay Pipe "Bench Button" [.dropSource]).2.answer (.pressAll 0 ['x'])).1 =
        (if Call.dropSource ∈ [Call.dropSource] ∧ ['x'] ≠ [] then .failed (.closed "Bench Button") else .accepted) :=
  ⟨Pipe.laws, (replay_channel Pipe.queued Pipe.senders Pipe.laws "Bench Button" [.dropSource]).2.2.2.2.1 0 'x',
    ((replay_channel Pipe.queued Pipe.senders Pipe.laws "Bench Button" [.dropSource]).2.2.2.1 0 (by decide)
      (by decide) ['x']).1⟩

example : ((replay Pipe "Mock Input" [.clone 0, .dropHandle 0, .press 1 'z', .dropHandle 1, .poll, .poll]).1.map
    Prod.snd) = [.cloned 1, .done, .accepted, .done, .read (.value 'z'), .read .closed] := by decide

example : (replay Pipe "Bench Button" [.dropSource, .press 0 'x', .isClosed 0]).1.map Prod.snd =
    [.done, .failed (.closed "Bench Button"), .closed true] := by decide

end ButtonRelay.Input.Mock
