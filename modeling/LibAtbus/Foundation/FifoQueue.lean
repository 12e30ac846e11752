/-
Module: LibAtbus.Foundation.FifoQueue
Layer: Foundation
Purpose: The abstract first-in first-out queue and what its two callers can observe. A writer sees
  its item accepted or refused; a reader sees the oldest item, an empty queue, or the report that
  the oldest item does not fit. How much a queue can hold is a parameter: an item is accepted when
  there is room for it behind what is queued, and refused, without a trace, when there is none.
Trusted boundary: human-reviewed spec
Main exports: QueueEvent, QueueStep, QueueRun, QueueRun.conservation
-/
import Mathlib.Data.List.Basic

namespace LibAtbus.FifoQueue

variable {α : Type} {room : List α → α → Prop}

/-- One observation of a caller of the queue. -/
inductive QueueEvent (α : Type) where
  | accepted (item : α)
  | refused (item : α)
  | taken (item : α)
  | empty
  | tooLarge (item : α)
deriving Repr, DecidableEq

/-- What each observation says about the queue before and after it. -/
inductive QueueStep (room : List α → α → Prop) : List α → QueueEvent α → List α → Prop where
  | accepted {queue : List α} {item : α} (fits : room queue item) :
      QueueStep room queue (.accepted item) (queue ++ [item])
  | refused {queue : List α} {item : α}
      (full : ¬room queue item) : QueueStep room queue (.refused item) queue
  | taken (item : α) (queue : List α) : QueueStep room (item :: queue) (.taken item) queue
  | empty : QueueStep room [] .empty []
  | tooLarge (item : α) (queue : List α) :
      QueueStep room (item :: queue) (.tooLarge item) (item :: queue)

/-- A finite sequence of observations, oldest first. -/
inductive QueueRun (room : List α → α → Prop) : List α → List (QueueEvent α) → List α → Prop where
  | nil (queue : List α) : QueueRun room queue [] queue
  | cons {before middle after : List α} {event : QueueEvent α} {events : List (QueueEvent α)}
      (head : QueueStep room before event middle) (tail : QueueRun room middle events after) :
      QueueRun room before (event :: events) after

/-- The items accepted in a sequence of observations, in order. -/
def acceptedItems (events : List (QueueEvent α)) : List α :=
  events.filterMap fun
    | .accepted item => some item
    | _ => none

/-- The items handed to the reader in a sequence of observations, in order. -/
def takenItems (events : List (QueueEvent α)) : List α :=
  events.filterMap fun
    | .taken item => some item
    | _ => none

/-- Nothing is lost, duplicated, altered or reordered: what was in the queue followed by what was
    accepted is what was taken followed by what is still there. -/
theorem QueueRun.conservation {before after : List α} {events : List (QueueEvent α)}
    (run : QueueRun room before events after) :
    before ++ acceptedItems events = takenItems events ++ after := by
  induction run with
  | nil queue => simp [acceptedItems, takenItems]
  | cons head tail ih =>
      cases head <;> simp_all [acceptedItems, takenItems]

end LibAtbus.FifoQueue
