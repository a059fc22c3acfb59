import Mathlib
import ButtonRelay.Locking

namespace ButtonRelay.Locking

/-- The rest of a call keeps to the locking discipline from holding `h`, one lock or none: it
takes a lock only when it holds none, lets go only the one it holds, sleeps only on the mutex it
holds, calls back only when it holds none, and ends holding none. -/
inductive Keeps : Option (Lock × Access) → List Action → Prop
  | done : Keeps none []
  | acquire {l : Lock} {a : Access} {rest : List Action} :
      Keeps (some (l, a)) rest → Keeps none (.acquire l a :: rest)
  | release {l : Lock} {a : Access} {rest : List Action} :
      Keeps none rest → Keeps (some (l, a)) (.release l :: rest)
  | work {h : Option (Lock × Access)} {rest : List Action} : Keeps h rest → Keeps h (.work :: rest)
  | sleep {l : Lock} {rest : List Action} :
      Keeps (some (l, .write)) rest → Keeps (some (l, .write)) (.sleep l :: rest)
  | callback {rest : List Action} : Keeps none rest → Keeps none (.callback :: rest)

theorem Keeps.append {h : Option (Lock × Access)} {first rest : List Action} (keeps : Keeps h first)
    (next : Keeps none rest) : Keeps h (first ++ rest) := by
  induction keeps with
  | done => exact next
  | acquire _ ih => exact .acquire ih
  | release _ ih => exact .release ih
  | work _ ih => exact .work ih
  | sleep _ ih => exact .sleep ih
  | callback _ ih => exact .callback ih

theorem Keeps.flatMap {α : Type} {xs : List α} {f : α → List Action} (each : ∀ x ∈ xs, Keeps none (f x)) :
    Keeps none (xs.flatMap f) := by
  induction xs with
  | nil => exact .done
  | cons x more ih =>
    rw [List.flatMap_cons]
    exact (each x List.mem_cons_self).append (ih fun y member => each y (List.mem_cons_of_mem x member))

theorem Keeps.guarded (l : Lock) (a : Access) : Keeps none (guarded l a) :=
  .acquire (.work (.release .done))

theorem Keeps.queueWait : Keeps none queueWait :=
  .acquire (.sleep (.release .done))

theorem callSteps_keeps (call : Step) : Keeps none (callSteps call) := by
  have thenWork {steps : List Action} (keeps : Keeps none steps) : Keeps none (steps ++ [.work]) :=
    keeps.append (.work .done)
  cases call
  case disconnect => exact thenWork (.guarded .registry .write)
  case registerCallback => exact thenWork (.guarded .slot .write)
  case wait => exact thenWork .queueWait
  case debug =>
    exact (Keeps.work (.guarded .registry .read)).append
      ((Keeps.guarded .queue .write).append (.guarded .slot .read))
  case connect | devices | deliveryMode | getCommand => exact .guarded _ _
  all_goals exact .work .done

theorem deliverSteps_keeps (sink : Sink) : Keeps none (deliverSteps sink) := by
  cases sink with
  | queue => exact .guarded .queue .write
  | callback | panicking => exact .callback .done
  | unregistered => exact .work .done

theorem triggerSteps_keeps (devices : List Device) (sink : Sink) :
    Keeps none (triggerSteps devices sink) := by
  have each : Keeps none (.work :: deliverSteps sink ++ [.work]) :=
    (Keeps.work (deliverSteps_keeps sink)).append (.work .done)
  have middle : Keeps none (if devices.isEmpty then [.work]
      else guarded .slot .read ++ devices.flatMap fun _ => .work :: deliverSteps sink ++ [.work]) := by
    split
    · exact .work .done
    · exact (Keeps.guarded .slot .read).append (Keeps.flatMap fun _ _ => each)
  exact ((Keeps.guarded .registry .read).append middle).append (.work .done)

/-- A call keeping to the discipline: it holds at most one lock, and its steps left keep to it
from there. -/
def Frame.Sound (f : Frame) : Prop := ∃ h, f.held = h.toList ∧ Keeps h f.steps

/-- A thread keeping to the discipline: each call under way does, and the calls below the
innermost hold nothing. -/
structure Thread.Sound (t : Thread) : Prop where
  frames : ∀ f ∈ t.frames, f.Sound
  outer : ∀ f ∈ t.frames.tail, f.held = []

theorem Thread.sound_cons {f : Frame} {outer : List Frame} :
    (Thread.mk (f :: outer)).Sound ↔ f.Sound ∧ ∀ g ∈ outer, g.Sound ∧ g.held = [] := by
  constructor
  · intro sound
    exact ⟨sound.frames f List.mem_cons_self,
      fun g member => ⟨sound.frames g (List.mem_cons_of_mem f member), sound.outer g member⟩⟩
  · rintro ⟨top, below⟩
    refine ⟨fun g member => ?_, fun g member => (below g member).2⟩
    rcases List.mem_cons.mp member with rfl | deeper
    · exact top
    · exact (below g deeper).1

theorem Thread.idle_sound : Thread.idle.Sound := ⟨by simp [Thread.idle], by simp [Thread.idle]⟩

/-- Only the innermost call of a sound thread holds anything. -/
theorem Thread.Sound.held_top {f : Frame} {outer : List Frame} (sound : (Thread.mk (f :: outer)).Sound) :
    (Thread.mk (f :: outer)).held = f.held := by
  have quiet : outer.flatMap Frame.held = [] :=
    List.flatMap_eq_nil_iff.mpr fun g member => sound.outer g member
  simp [Thread.held, quiet]

theorem Thread.Sound.held_length {t : Thread} (sound : t.Sound) : t.held.length ≤ 1 := by
  obtain ⟨frames⟩ := t
  cases frames with
  | nil => simp [Thread.held]
  | cons f outer =>
    obtain ⟨h, held, _⟩ := sound.frames f List.mem_cons_self
    rw [sound.held_top, held]
    cases h <;> simp

/-- A thread about to take a lock holds none. -/
theorem Thread.Sound.wants_held {t : Thread} {l : Lock} (sound : t.Sound) (asks : t.wants = some l) :
    t.held = [] := by
  rcases t with ⟨_ | ⟨⟨_ | ⟨⟨l', a⟩ | _ | ⟨⟩ | _ | ⟨⟩, rest⟩, h⟩, outer⟩⟩
  all_goals simp [Thread.wants] at asks
  obtain ⟨_, held, keeps⟩ := sound.frames _ List.mem_cons_self
  rw [sound.held_top, held]
  cases keeps
  rfl

theorem Thread.Sound.begin {t : Thread} {steps : List Action} (sound : t.Sound) (keeps : Keeps none steps) :
    (t.begin steps).Sound := by
  obtain ⟨frames⟩ := t
  cases frames with
  | nil => exact Thread.sound_cons.mpr ⟨⟨none, rfl, keeps⟩, by simp⟩
  | cons => exact sound

theorem Thread.Sound.move {t : Thread} (sound : t.Sound) (held : List (Lock × Access)) (body : List Step) :
    (t.move held body).Sound := by
  rcases t with ⟨_ | ⟨⟨_ | ⟨⟨l, a⟩ | l | ⟨⟩ | l | ⟨⟩, rest⟩, h⟩, outer⟩⟩
  · exact sound
  all_goals
    obtain ⟨⟨top, holding, keeps⟩, below⟩ := Thread.sound_cons.mp sound
    simp only [Thread.move]
  · -- a call with no steps left returns to the one below
    exact ⟨fun g member => (below g member).1, fun g member => (below g (List.mem_of_mem_tail member)).2⟩
  · split
    · cases keeps with
      | acquire keeps => exact Thread.sound_cons.mpr ⟨⟨some (l, a), by simp_all, keeps⟩, below⟩
    · exact sound
  · cases keeps with
    | release keeps => exact Thread.sound_cons.mpr ⟨⟨none, by simp_all, keeps⟩, below⟩
  · cases keeps with
    | work keeps => exact Thread.sound_cons.mpr ⟨⟨top, holding, keeps⟩, below⟩
  · cases keeps with
    | sleep keeps => exact Thread.sound_cons.mpr ⟨⟨_, holding, keeps⟩, below⟩
  · -- the callback's calls run above the trigger's call, which holds nothing meanwhile
    cases keeps with
    | callback keeps =>
      refine Thread.sound_cons.mpr ⟨⟨none, rfl, Keeps.flatMap fun c _ => callSteps_keeps c⟩, ?_⟩
      intro g member
      rcases List.mem_cons.mp member with rfl | deeper
      · exact ⟨⟨none, holding, keeps⟩, holding⟩
      · exact below g deeper

theorem Thread.Sound.doze {t : Thread} (sound : t.Sound) : t.doze.Sound := by
  rcases t with ⟨_ | ⟨⟨_ | ⟨⟨l, a⟩ | l | ⟨⟩ | l | ⟨⟩, rest⟩, h⟩, outer⟩⟩
  case sleep =>
    obtain ⟨⟨_, holding, keeps⟩, below⟩ := Thread.sound_cons.mp sound
    cases keeps with
    | sleep keeps => exact Thread.sound_cons.mpr ⟨⟨none, by simp_all, .acquire (.sleep keeps)⟩, below⟩
  all_goals exact sound

/-- Every thread keeps to the discipline. -/
def State.Sound (s : State) : Prop := ∀ t ∈ s.threads, t.Sound

theorem State.start_sound (hosts : Nat) : (State.start hosts).Sound := by
  intro t member
  simp only [State.start, State.threads, List.mem_cons, List.mem_replicate] at member
  rcases member with rfl | ⟨_, rfl⟩ <;> exact Thread.idle_sound

theorem State.Sound.update {s : State} (sound : s.Sound) (who : Who) {f : Thread → Thread}
    (keeps : ∀ t : Thread, t.Sound → (f t).Sound) : (s.update who f).Sound := by
  cases who with
  | producer =>
    intro t member
    rcases List.mem_cons.mp member with rfl | host
    · exact keeps _ (sound _ List.mem_cons_self)
    · exact sound t (List.mem_cons_of_mem _ host)
  | host i =>
    -- the thread changed is one of the host's, or an idle one past the last
    have changed : (s.hosts.getD i .idle).Sound := by
      rw [List.getD_eq_getElem?_getD]
      cases found : s.hosts[i]? with
      | none => exact Thread.idle_sound
      | some t => exact sound t (List.mem_cons_of_mem _ (List.mem_of_getElem? found))
    intro t member
    rcases List.mem_cons.mp member with rfl | host
    · exact sound _ List.mem_cons_self
    · rcases List.mem_or_eq_of_mem_set host with kept | rfl
      · exact sound t (List.mem_cons_of_mem _ kept)
      · exact keeps _ changed

theorem State.Sound.step {s : State} (sound : s.Sound) (turn : Turn) : (s.step turn).Sound := by
  cases turn with
  | trigger devices sink => exact sound.update .producer fun _ t => t.begin (triggerSteps_keeps devices sink)
  | call i call => exact sound.update (.host i) fun _ t => t.begin (callSteps_keeps call)
  | move who body => exact sound.update who fun _ t => t.move _ body
  | doze who => exact sound.update who fun _ t => t.doze

theorem State.Sound.run {s : State} (sound : s.Sound) (schedule : List Turn) : (s.run schedule).Sound := by
  induction schedule generalizing s with
  | nil => exact sound
  | cons turn more ih => exact ih (sound.step turn)

/-- In some run from `start hosts`, a thread holding `first` asks for `next`: the one lock is
taken before the other. -/
def Before (hosts : Nat) (first next : Lock) : Prop :=
  ∃ schedule, ∃ t ∈ ((State.start hosts).run schedule).threads,
    first ∈ t.held.map Prod.fst ∧ t.wants = some next

theorem not_before (hosts : Nat) (first next : Lock) : ¬ Before hosts first next := by
  rintro ⟨schedule, t, member, holding, asks⟩
  have sound := (State.start_sound hosts).run schedule t member
  rw [sound.wants_held asks] at holding
  simp at holding

/-- However the host's threads, the producer and the host code its callbacks run interleave, no
thread holds more than one of the registry's lock, the slot's lock and the queue's mutex, and the
trigger that called a callback holds none of them while the callback runs. So no thread ever asks
for one of them while holding another, and they are never taken in a cycle. -/
theorem locks_never_nest (hosts : Nat) :
    (∀ schedule, ∀ t ∈ ((State.start hosts).run schedule).threads,
      t.held.length ≤ 1 ∧ ∀ f ∈ t.frames.tail, f.held = []) ∧
    ∀ l, ¬ Relation.TransGen (Before hosts) l l := by
  refine ⟨fun schedule t member => ?_, fun l cycle => ?_⟩
  · have sound := (State.start_sound hosts).run schedule t member
    exact ⟨sound.held_length, sound.outer⟩
  · cases cycle with
    | single first => exact not_before hosts l l first
    | tail _ last => exact not_before hosts _ l last

/-- A callback that takes a command: it holds the queue's mutex while the trigger that called it
holds nothing. -/
example :
    ((State.start 0).run
      ([.trigger [⟨0, "GreenButton", "A-1"⟩] (.callback 1)] ++ List.replicate 7 (.move .producer []) ++
        [.move .producer [.getCommand], .move .producer []])).producer.frames.map Frame.held =
      [[(.queue, .write)], []] := by
  decide

end ButtonRelay.Locking
