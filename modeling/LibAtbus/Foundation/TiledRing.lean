/-
Module: LibAtbus.Foundation.TiledRing
Layer: Foundation
Purpose: Tiles of different widths laid one behind the other on a ring of cells. A tile says what
  each of its cells must hold, and the cells behind the last tile are free. The rules are those of a
  ring used as a queue of variable-sized entries: an entry is appended on free cells, an entry is
  changed in place and the first entry is taken off.
Trusted boundary: none
Main exports: extent, TilesAt, Laid, Laid.append, Laid.replace, Laid.dropFirst
-/
import LibAtbus.Foundation.RingIndex
import Mathlib.Algebra.BigOperators.Group.List.Basic

namespace LibAtbus.TiledRing

open RingIndex

universe u v

variable {β : Type u} {γ : Type v}

/-- The number of cells a sequence of tiles takes. -/
def extent (width : β → Nat) (tiles : List β) : Nat := (tiles.map width).sum

/-- The tiles lie one behind the other from cell `offset` on: every cell of every tile holds what
    the tile asks for. -/
def TilesAt (width : β → Nat) (holds : β → Nat → γ → Prop) (place : Nat → γ) :
    Nat → List β → Prop
  | _, [] => True
  | offset, tile :: tiles =>
      (∀ j < width tile, holds tile j (place (offset + j))) ∧
        TilesAt width holds place (offset + width tile) tiles

section

variable {width : β → Nat} {holds : β → Nat → γ → Prop} {place other : Nat → γ}
  {offset shift : Nat} {tile tile' : β} {tiles left right : List β}

@[simp] theorem extent_nil : extent width [] = 0 := rfl

@[simp] theorem extent_cons : extent width (tile :: tiles) = width tile + extent width tiles := by
  simp [extent]

@[simp] theorem extent_append :
    extent width (left ++ right) = extent width left + extent width right := by
  simp [extent]

/-- Every cell of the tiles is a cell of one of them. -/
theorem exists_tile {k : Nat} (inside : k < extent width tiles) :
    ∃ left tile right j, tiles = left ++ tile :: right ∧ j < width tile ∧
      k = extent width left + j := by
  induction tiles generalizing k with
  | nil => exact absurd inside (Nat.not_lt_zero k)
  | cons first tiles ih =>
      by_cases here : k < width first
      · exact ⟨[], first, tiles, k, rfl, here, by simp⟩
      · rw [extent_cons] at inside
        have behind : k - width first < extent width tiles := by omega
        obtain ⟨left, tile, right, j, rfl, below, place⟩ := ih behind
        refine ⟨first :: left, tile, right, j, rfl, below, ?_⟩
        rw [extent_cons]
        omega

/-- Tiles before and tiles behind a cut lie independently of each other. -/
theorem tilesAt_append :
    TilesAt width holds place offset (left ++ right) ↔
      TilesAt width holds place offset left ∧
        TilesAt width holds place (offset + extent width left) right := by
  induction left generalizing offset with
  | nil => simp [TilesAt]
  | cons tile tiles ih =>
      simp only [List.cons_append, TilesAt, ih, extent_cons, Nat.add_assoc, and_assoc]

/-- Only the cells the tiles cover matter. -/
theorem TilesAt.congr (laid : TilesAt width holds place offset tiles)
    (same : ∀ k, offset ≤ k → k < offset + extent width tiles → other k = place k) :
    TilesAt width holds other offset tiles := by
  induction tiles generalizing offset with
  | nil => trivial
  | cons tile tiles ih =>
      obtain ⟨first, rest⟩ := laid
      rw [extent_cons] at same
      refine ⟨fun j below => ?_, ih rest fun k lower upper => same k (by omega) (by omega)⟩
      rw [same (offset + j) (by omega) (by omega)]
      exact first j below

/-- Counting the cells from another origin shifts the offset. -/
theorem tilesAt_shift :
    TilesAt width holds (fun k => place (shift + k)) offset tiles ↔
      TilesAt width holds place (shift + offset) tiles := by
  induction tiles generalizing offset with
  | nil => simp [TilesAt]
  | cons tile tiles ih => simp only [TilesAt, ih, Nat.add_assoc]

end

/-- The tiles fill the ring of `n` cells from slot `start` on, and what is left over is free. -/
structure Laid (width : β → Nat) (holds : β → Nat → γ → Prop) (free : γ → Prop)
    (n start : Nat) (ring : Nat → γ) (tiles : List β) : Prop where
  tiled : TilesAt width holds (fun k => ring (slot n start k)) 0 tiles
  behind : ∀ k, extent width tiles ≤ k → k < n → free (ring (slot n start k))

section

variable {width : β → Nat} {holds : β → Nat → γ → Prop} {free : γ → Prop} {n start : Nat}
  {ring ring' : Nat → γ} {tile tile' : β} {tiles left right : List β}

/-- The cells of a tile hold what it asks for. -/
theorem Laid.cell (laid : Laid width holds free n start ring (left ++ tile :: right)) {j : Nat}
    (below : j < width tile) : holds tile j (ring (slot n start (extent width left + j))) := by
  have fromTile := (tilesAt_append.mp laid.tiled).2
  simpa using fromTile.1 j below

/-- Appending a tile that the free cells behind the others already satisfy changes no cell. -/
theorem Laid.append (laid : Laid width holds free n start ring tiles)
    (room : extent width tiles + width tile ≤ n)
    (accepts : ∀ j cell, j < width tile → free cell → holds tile j cell) :
    Laid width holds free n start ring (tiles ++ [tile]) where
  tiled := by
    refine tilesAt_append.mpr ⟨laid.tiled, ?_, trivial⟩
    intro j below
    exact accepts j _ below (laid.behind _ (by omega) (by omega))
  behind := by
    intro k lower upper
    refine laid.behind k ?_ upper
    simp only [extent_append, extent_cons, extent_nil] at lower
    omega

/-- Exchanging a tile for another of the same width: its cells must hold what the new tile asks for,
    the other cells keep their contents. -/
theorem Laid.replace (laid : Laid width holds free n start ring (left ++ tile :: right))
    (room : extent width (left ++ tile :: right) ≤ n) (sameWidth : width tile' = width tile)
    (inside : ∀ j < width tile, holds tile' j (ring' (slot n start (extent width left + j))))
    (outside : ∀ k < n, k < extent width left ∨ extent width left + width tile ≤ k →
      ring' (slot n start k) = ring (slot n start k)) :
    Laid width holds free n start ring' (left ++ tile' :: right) where
  tiled := by
    obtain ⟨before, _, after⟩ := tilesAt_append.mp laid.tiled
    simp only [extent_append, extent_cons] at room
    refine tilesAt_append.mpr ⟨before.congr fun k _ upper => outside k (by omega) (by omega), ?_,
      ?_⟩
    · intro j below
      simpa using inside j (sameWidth ▸ below)
    · rw [sameWidth]
      exact after.congr fun k lower upper => outside k (by omega) (by omega)
  behind := by
    intro k lower upper
    simp only [extent_append, extent_cons, sameWidth] at lower
    rw [outside k upper (by omega)]
    exact laid.behind k (by simp only [extent_append, extent_cons]; omega) upper

/-- Taking the first tile off: its cells become free and the ring now starts behind it. -/
theorem Laid.dropFirst (laid : Laid width holds free n start ring (tile :: tiles))
    (room : extent width (tile :: tiles) ≤ n)
    (cleared : ∀ k < width tile, free (ring' (slot n start k)))
    (kept : ∀ k < n, width tile ≤ k → ring' (slot n start k) = ring (slot n start k)) :
    Laid width holds free n (slot n start (width tile)) ring' tiles where
  tiled := by
    simp only [extent_cons] at room
    have rest := laid.tiled.2
    rw [Nat.zero_add, ← Nat.add_zero (width tile)] at rest
    have shifted := tilesAt_shift.mpr rest
    refine shifted.congr fun k _ upper => ?_
    rw [slot_slot]
    exact kept _ (by omega) (by omega)
  behind := by
    intro k lower upper
    simp only [extent_cons] at room
    rw [slot_slot]
    by_cases inRest : width tile + k < n
    · rw [kept _ inRest (by omega)]
      exact laid.behind _ (by simp only [extent_cons]; omega) inRest
    · -- a whole lap has been walked, so this is a cell of the tile taken off
      have lap : width tile + k = (width tile + k - n) + n := by omega
      rw [lap, slot_add_lap]
      exact cleared _ (by omega)

end

end LibAtbus.TiledRing
