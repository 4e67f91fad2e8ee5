import UtpSafety.Lib.Run

/-!
# Pipes

A pipe takes values at one end and hands them out at the other. What has been written arrives after a
while, in order and without anybody noticing, and what has arrived can be read. A flush ends when all
that has been written has arrived.
-/

structure Pipe (α : Type) where
  written : List α
  /-- How many of the values have arrived, and how many have been handed out. -/
  arrived : Nat
  taken : Nat
  taken_le : taken ≤ arrived
  arrived_le : arrived ≤ written.length

namespace Pipe

inductive Event (α : Type) where
  | write (values : List α)
  | arrive (count : Nat)
  | read (values : List α)
  | flush
  deriving DecidableEq

namespace Event

variable {α : Type}

/-- Arrivals go unnoticed. -/
def noticed : Event α → List (Event α)
  | .arrive _ => []
  | event => [event]

def wrote : Event α → List α
  | .write values => values
  | _ => []

def got : Event α → List α
  | .read values => values
  | _ => []

end Event

variable {α : Type}

def empty : Pipe α := ⟨[], 0, 0, Nat.le_refl _, Nat.le_refl _⟩

def write (pipe : Pipe α) (values : List α) : Pipe α :=
  { pipe with
    written := pipe.written ++ values
    arrived_le := by
      rw [List.length_append]
      exact Nat.le_add_right_of_le pipe.arrived_le }

def arrive (pipe : Pipe α) (count : Nat) (hcount : pipe.arrived + count ≤ pipe.written.length) :
    Pipe α :=
  { pipe with
    arrived := pipe.arrived + count
    taken_le := Nat.le_add_right_of_le pipe.taken_le
    arrived_le := hcount }

def take (pipe : Pipe α) (count : Nat) (hcount : pipe.taken + count ≤ pipe.arrived) : Pipe α :=
  { pipe with
    taken := pipe.taken + count
    taken_le := hcount }

/-- Whatever goes by events that are noticed goes by what is noticed. -/
theorem flatMap_noticed {f : Event α → List α} (hf : ∀ count, f (.arrive count) = [])
    (events : List (Event α)) : (events.flatMap Event.noticed).flatMap f = events.flatMap f := by
  have hnoticed : ∀ event : Event α, event.noticed.flatMap f = f event := by
    intro event
    cases event with
    | arrive count => exact (hf count).symm
    | write values => exact List.append_nil _
    | read values => exact List.append_nil _
    | flush => exact List.append_nil _
  rw [List.flatMap_assoc]
  exact congrArg events.flatMap (funext hnoticed)

variable [DecidableEq α]

/-- One event; `none` when it is not possible. -/
def step (pipe : Pipe α) : Event α → Option (Pipe α)
  | .write values => some (pipe.write values)
  | .arrive count =>
      if hcount : pipe.arrived + count ≤ pipe.written.length then some (pipe.arrive count hcount)
      else none
  | .read values =>
      if hcount : pipe.taken + values.length ≤ pipe.arrived then
        if values <+: pipe.written.drop pipe.taken then some (pipe.take values.length hcount) else none
      else none
  | .flush => if pipe.arrived = pipe.written.length then some pipe else none

theorem step_got {pipe pipe' : Pipe α} {event : Event α} (hstep : pipe.step event = some pipe') :
    pipe'.written = pipe.written ++ event.wrote
      ∧ pipe'.written.take pipe'.taken = pipe.written.take pipe.taken ++ event.got := by
  cases event with
  | write values =>
      cases hstep
      have htaken := Nat.le_trans pipe.taken_le pipe.arrived_le
      have hgot : (Event.write values).got = [] := rfl
      refine ⟨rfl, ?_⟩
      rw [hgot, List.append_nil]
      exact List.take_append_of_le_length htaken
  | arrive count =>
      simp only [step] at hstep
      split_ifs at hstep
      cases hstep
      exact ⟨(List.append_nil _).symm, (List.append_nil _).symm⟩
  | read values =>
      simp only [step] at hstep
      split_ifs at hstep with hcount hvalues
      cases hstep
      refine ⟨(List.append_nil _).symm, ?_⟩
      calc pipe.written.take (pipe.taken + values.length)
          = pipe.written.take pipe.taken ++ (pipe.written.drop pipe.taken).take values.length :=
            List.take_add
        _ = pipe.written.take pipe.taken ++ values := by rw [← List.prefix_iff_eq_take.mp hvalues]
  | flush =>
      simp only [step] at hstep
      split_ifs at hstep
      cases hstep
      exact ⟨(List.append_nil _).symm, (List.append_nil _).symm⟩

theorem exec_got {pipe pipe' : Pipe α} {events : List (Event α)}
    (hexec : Run.exec step pipe events = some pipe') :
    pipe'.written = pipe.written ++ events.flatMap Event.wrote
      ∧ pipe'.written.take pipe'.taken
        = pipe.written.take pipe.taken ++ events.flatMap Event.got := by
  induction events generalizing pipe with
  | nil =>
      cases hexec
      exact ⟨(List.append_nil _).symm, (List.append_nil _).symm⟩
  | cons event events ih =>
      obtain ⟨middle, hstep, hrest⟩ := Run.exec_cons.mp hexec
      obtain ⟨hwritten, htaken⟩ := step_got hstep
      obtain ⟨hwritten', htaken'⟩ := ih hrest
      rw [htaken, List.append_assoc] at htaken'
      rw [hwritten, List.append_assoc] at hwritten'
      exact ⟨hwritten', htaken'⟩

/-- **What comes out of a pipe is what went in.** -/
theorem got_isPrefix_wrote {pipe : Pipe α} {events : List (Event α)}
    (hexec : Run.exec step empty events = some pipe) :
    events.flatMap Event.got <+: events.flatMap Event.wrote := by
  obtain ⟨hwritten, htaken⟩ := exec_got hexec
  rw [show events.flatMap Event.got = pipe.written.take pipe.taken from htaken.symm,
    show events.flatMap Event.wrote = pipe.written from hwritten.symm]
  exact List.take_prefix _ _

end Pipe
