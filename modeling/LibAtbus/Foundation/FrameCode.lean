/-
Module: LibAtbus.Foundation.FrameCode
Layer: Foundation
Purpose: Streams of self-delimiting frames. A code tells the size of the frame a stream starts with
  as soon as enough of the stream is there, and bytes that come later never change its answer. So
  the frames of a stream are determined by the stream: any two ways to cut it agree as far as both
  go.
Trusted boundary: none
Main exports: FrameCode, FrameCode.IsFrame, FrameCode.Reaches, FrameCode.frames_of_prefix,
  FrameCode.reaches_of_prefix, FrameCode.eq_nil_of_unfinished
-/
import Mathlib.Data.List.Basic

namespace LibAtbus

universe u

/-- A way to tell the size of the first frame of a stream, once it is known. -/
structure FrameCode (α : Type u) where
  size : List α → Option Nat
  size_nil : size [] = none
  size_pos : ∀ {stream : List α} {n : Nat}, size stream = some n → 0 < n
  size_append : ∀ {stream : List α} {n : Nat} (more : List α),
    size stream = some n → size (stream ++ more) = some n

namespace FrameCode

variable {α : Type u} (code : FrameCode α)

/-- A whole frame and nothing more. -/
def IsFrame (frame : List α) : Prop := code.size frame = some frame.length

/-- The second stream is what is left of the first one behind some complete frames. -/
inductive Reaches : List α → List α → Prop where
  | refl (stream : List α) : Reaches stream stream
  | next {stream rest : List α} {n : Nat} (size : code.size stream = some n)
      (complete : n ≤ stream.length) (later : Reaches (stream.drop n) rest) : Reaches stream rest

variable {code} {frame stream rest : List α} {frames others : List (List α)}

/-- The size of the first frame, seen in a stream that starts with it. -/
theorem IsFrame.size_append (isFrame : code.IsFrame frame) :
    code.size (frame ++ rest) = some frame.length :=
  code.size_append rest isFrame

/-- A stream that starts like a sequence of frames, and whose first frame has a known size, starts
    with the first frame of the sequence. -/
theorem first_of_prefix {n : Nat} (areFrames : ∀ f ∈ frames, code.IsFrame f)
    (starts : stream <+: frames.flatten) (size : code.size stream = some n) :
    ∃ first later, frames = first :: later ∧ first.length = n := by
  obtain ⟨more, whole⟩ := starts
  have sizeWhole : code.size frames.flatten = some n := by
    rw [← whole]
    exact code.size_append more size
  cases frames with
  | nil =>
      rw [List.flatten_nil, code.size_nil] at sizeWhole
      cases sizeWhole
  | cons first later =>
      have isFirst : code.IsFrame first := areFrames first (by simp)
      rw [List.flatten_cons, isFirst.size_append] at sizeWhole
      exact ⟨first, later, rfl, Option.some.inj sizeWhole⟩

/-- Frames found at the start of a sequence of frames are the first ones of the sequence. -/
theorem frames_of_prefix (areFrames : ∀ f ∈ frames, code.IsFrame f)
    (areOthers : ∀ f ∈ others, code.IsFrame f)
    (starts : frames.flatten ++ rest <+: others.flatten) :
    ∃ later, others = frames ++ later ∧ rest <+: later.flatten := by
  induction frames generalizing others with
  | nil => exact ⟨others, rfl, starts⟩
  | cons frame frames ih =>
      have isFrame : code.IsFrame frame := areFrames frame (by simp)
      rw [List.flatten_cons, List.append_assoc] at starts
      obtain ⟨first, tail, rfl, length⟩ := first_of_prefix areOthers starts isFrame.size_append
      rw [List.flatten_cons] at starts
      have same : frame = first := by
        have short : frame <+: first ++ tail.flatten := (List.prefix_append _ _).trans starts
        have start := List.prefix_of_prefix_length_le short (List.prefix_append _ _) (by omega)
        exact start.eq_of_length length.symm
      subst same
      have starts' := (List.prefix_append_right_inj frame).mp starts
      obtain ⟨later, rfl, rest⟩ := ih (fun f member => areFrames f (by simp [member]))
        (fun f member => areOthers f (by simp [member])) starts'
      exact ⟨later, rfl, rest⟩

/-- What follows a sequence of frames is left behind complete frames. -/
theorem reaches_flatten (areFrames : ∀ f ∈ frames, code.IsFrame f) :
    code.Reaches (frames.flatten ++ rest) rest := by
  induction frames with
  | nil => exact .refl rest
  | cons frame frames ih =>
      have isFrame : code.IsFrame frame := areFrames frame (by simp)
      rw [List.flatten_cons, List.append_assoc]
      refine .next isFrame.size_append ?_ ?_
      · rw [List.length_append]
        exact Nat.le_add_right _ _
      · rw [List.drop_left]
        exact ih fun f member => areFrames f (by simp [member])

/-- What is left of a stream behind complete frames, if the stream starts like a sequence of frames,
    starts like the later frames of the sequence. -/
theorem reaches_of_prefix (reaches : code.Reaches stream rest)
    (areOthers : ∀ f ∈ others, code.IsFrame f) (starts : stream <+: others.flatten) :
    ∃ earlier later, others = earlier ++ later ∧ rest <+: later.flatten := by
  induction reaches generalizing others with
  | refl => exact ⟨[], others, rfl, starts⟩
  | @next stream rest n size complete later ih =>
      obtain ⟨first, tail, rfl, length⟩ := first_of_prefix areOthers starts size
      rw [List.flatten_cons] at starts
      have starts' : stream.drop n <+: tail.flatten := by
        obtain ⟨more, whole⟩ := starts
        have dropped := congrArg (List.drop n) whole
        rw [List.drop_append_of_le_length complete, ← length, List.drop_left, length] at dropped
        exact ⟨more, dropped⟩
      obtain ⟨earlier, later, rfl, rest⟩ :=
        ih (fun f member => areOthers f (by simp [member])) starts'
      exact ⟨first :: earlier, later, rfl, rest⟩

/-- A sequence of frames that does not start with a complete frame is empty. -/
theorem eq_nil_of_unfinished (areFrames : ∀ f ∈ frames, code.IsFrame f)
    (unfinished : ∀ n, code.size frames.flatten = some n → frames.flatten.length < n) :
    frames = [] := by
  cases frames with
  | nil => rfl
  | cons frame frames =>
      have isFrame : code.IsFrame frame := areFrames frame (by simp)
      have short := unfinished frame.length isFrame.size_append
      rw [List.flatten_cons, List.length_append] at short
      omega

end FrameCode

end LibAtbus
