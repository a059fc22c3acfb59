/-!
The channel under the hand-pressed input: unbounded, from any number of senders to one receiver,
as tokio's `mpsc::unbounded_channel` provides it. The input only sends, receives, adds and drops
senders, drops the receiver and asks a sender whether the receiver is gone; `Channel.Laws` is what
the library promises of these, read through what the channel holds: the values sent and not yet
received, and the number of live senders. `Pipe` is a channel as a plain value, and it keeps the
promises.
-/

namespace ButtonRelay.Input

/-- What the receiver finds when it looks once. -/
inductive Poll where
  | value (c : Char)
  | closed
  | pending
  deriving DecidableEq, Repr

/-- A channel whose state has type `κ`. -/
class Channel (κ : Type) where
  /-- A new channel, with one sender and the receiver. -/
  create : κ
  /-- A sender sends a value; `none` once the receiver is gone. -/
  send : κ → Char → Option κ
  /-- The receiver looks once for a value. -/
  poll : κ → Poll × κ
  /-- A sender is cloned. -/
  addSender : κ → κ
  /-- A sender is dropped. -/
  dropSender : κ → κ
  /-- The receiver is dropped. -/
  dropReceiver : κ → κ
  /-- Whether the receiver is gone, as a sender sees it. -/
  isClosed : κ → Bool

namespace Channel

/-- What the library promises, over `buffered`, the values sent and not yet received, oldest
first, and `senders`, the number of live senders. -/
structure Laws (κ : Type) [Channel κ] (buffered : κ → List Char) (senders : κ → Nat) : Prop where
  /-- `unbounded_channel()` gives one sender, the receiver, and nothing in flight. -/
  create_state : buffered create = [] ∧ senders (create : κ) = 1 ∧ isClosed (create : κ) = false
  /-- `send` never blocks on an unbounded channel: while the receiver is there the value joins the
  back of the buffer. -/
  send_open : ∀ (k : κ) c, isClosed k = false →
    ∃ k', send k c = some k' ∧ buffered k' = buffered k ++ [c] ∧ senders k' = senders k ∧
      isClosed k' = false
  /-- `send` fails once the receiver is dropped. -/
  send_closed : ∀ (k : κ) c, isClosed k = true → send k c = none
  /-- `recv` gives the values in the order they were sent. -/
  poll_value : ∀ (k : κ) c rest, buffered k = c :: rest →
    (poll k).1 = .value c ∧ buffered (poll k).2 = rest ∧ senders (poll k).2 = senders k ∧
      isClosed (poll k).2 = isClosed k
  /-- With nothing buffered, `recv` gives `None` once every sender is dropped, and otherwise is
  not ready yet. -/
  poll_empty : ∀ k : κ, buffered k = [] →
    (poll k).1 = (if senders k = 0 then .closed else .pending) ∧ buffered (poll k).2 = [] ∧
      senders (poll k).2 = senders k ∧ isClosed (poll k).2 = isClosed k
  /-- Cloning a sender adds one. -/
  addSender_state : ∀ k : κ, buffered (addSender k) = buffered k ∧ senders (addSender k) = senders k + 1 ∧
    isClosed (addSender k) = isClosed k
  /-- Dropping a sender takes one away. -/
  dropSender_state : ∀ k : κ, buffered (dropSender k) = buffered k ∧ senders (dropSender k) = senders k - 1 ∧
    isClosed (dropSender k) = isClosed k
  /-- `is_closed` holds once the receiver is dropped. -/
  dropReceiver_state : ∀ k : κ, isClosed (dropReceiver k) = true ∧ senders (dropReceiver k) = senders k

end Channel

/-- A channel as a plain value: the values in flight, the number of senders, and whether the
receiver is there. -/
structure Pipe where
  queued : List Char
  senders : Nat
  receiving : Bool
  deriving DecidableEq, Repr

instance : Channel Pipe where
  create := ⟨[], 1, true⟩
  send p c := if p.receiving then some { p with queued := p.queued ++ [c] } else none
  poll p :=
    match p.queued with
    | c :: more => (.value c, { p with queued := more })
    | [] => (if p.senders = 0 then .closed else .pending, p)
  addSender p := { p with senders := p.senders + 1 }
  dropSender p := { p with senders := p.senders - 1 }
  dropReceiver p := { p with queued := [], receiving := false }
  isClosed p := !p.receiving

/-- A plain channel keeps the library's promises. -/
theorem Pipe.laws : Channel.Laws Pipe Pipe.queued Pipe.senders where
  create_state := ⟨rfl, rfl, rfl⟩
  send_open := by
    intro p c live
    have receiving : p.receiving = true := by simpa [Channel.isClosed] using live
    exact ⟨{ p with queued := p.queued ++ [c] }, by simp [Channel.send, receiving], rfl, rfl,
      by simpa [Channel.isClosed] using receiving⟩
  send_closed := by
    intro p c closed
    have gone : p.receiving = false := by simpa [Channel.isClosed] using closed
    simp [Channel.send, gone]
  poll_value := by
    intro p c rest front
    simp [Channel.poll, Channel.isClosed, front]
  poll_empty := by
    intro p empty
    simp [Channel.poll, Channel.isClosed, empty]
  addSender_state _ := ⟨rfl, rfl, rfl⟩
  dropSender_state _ := ⟨rfl, rfl, rfl⟩
  dropReceiver_state _ := ⟨rfl, rfl⟩

end ButtonRelay.Input
