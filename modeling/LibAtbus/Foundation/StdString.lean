/-
Module: LibAtbus.Foundation.StdString
Layer: Foundation
Purpose: Strings as C and C++ use them, with one character for each byte:
  `std::string::find_first_of`, `find_last_of` and `substr`, and decimal numbers as `%d` scans and
  prints them. The rules say where a search ends in a string that is split at what is searched, and
  that a printed number is scanned back.
Trusted boundary: human-reviewed spec
Main exports: CString, findFirstOf, findLastOf, substr, scanDecimal, printDecimal, substr_append,
  findFirstOf_split, exists_split_of_findFirstOf, findLastOf_split, scanDecimal_printDecimal
-/
import Mathlib.Algebra.Group.Nat.Defs
import Mathlib.Data.List.TakeWhile

namespace LibAtbus.StdString

universe u

/-- What a `const char*` points to, up to the NUL. No object of a process is larger than the
    bound. -/
structure CString where
  chars : List Char
  noNul : Char.ofNat 0 ∉ chars
  fits : chars.length < 2 ^ 61

/-! ### Substrings -/

section

variable {α : Type u} {before behind : List α}

/-- `substr`, which throws `std::out_of_range` for a position behind the end. -/
def substr (text : List α) (pos count : Nat) : Option (List α) :=
  if text.length < pos then none else some ((text.drop pos).take count)

/-- A substring from where the string splits. -/
theorem substr_append (count : Nat) :
    substr (before ++ behind) before.length count = some (behind.take count) := by
  rw [substr, if_neg (by simp), List.drop_left]

/-- None of the characters is in the string. -/
def Clear (set text : List α) : Prop := ∀ char ∈ text, char ∉ set

theorem Clear.cons {set text : List α} {char : α} (clear : Clear set (char :: text)) :
    char ∉ set ∧ Clear set text :=
  List.forall_mem_cons.mp clear

end

/-! ### Searches -/

section

variable {α : Type u} [DecidableEq α]

/-- `find_first_of`; `none` is `npos`. -/
def findFirstOf (text set : List α) : Option Nat := text.findIdx? fun char => char ∈ set

/-- `find_last_of`. -/
def findLastOf (set : List α) : List α → Option Nat
  | [] => none
  | char :: text =>
      match findLastOf set text with
      | some place => some (place + 1)
      | none => if char ∈ set then some 0 else none

variable {set text before behind : List α} {sep : α} {place : Nat}

theorem findFirstOf_eq_none_iff : findFirstOf text set = none ↔ Clear set text := by
  simp [findFirstOf, Clear]

/-- A search ends at the first separator. -/
theorem findFirstOf_split (clear : Clear set before) (separates : sep ∈ set) :
    findFirstOf (before ++ sep :: behind) set = some before.length := by
  have notBefore : findFirstOf before set = none := findFirstOf_eq_none_iff.mpr clear
  rw [findFirstOf] at notBefore ⊢
  rw [List.findIdx?_append, notBefore, List.findIdx?_cons, if_pos (decide_eq_true separates)]
  simp

/-- Where a search ends the string splits. -/
theorem exists_split_of_findFirstOf (found : findFirstOf text set = some place) :
    ∃ before sep behind, text = before ++ sep :: behind ∧ Clear set before ∧ sep ∈ set := by
  induction text generalizing place with
  | nil => cases found
  | cons char text ih =>
      by_cases separates : char ∈ set
      · exact ⟨[], char, text, rfl, fun _ member => (nomatch member), separates⟩
      · rw [findFirstOf, List.findIdx?_cons, if_neg (by simp [separates])] at found
        obtain ⟨later, foundLater, -⟩ := Option.map_eq_some_iff.mp found
        obtain ⟨before, sep, behind, rfl, clear, isSep⟩ := ih foundLater
        exact ⟨char :: before, sep, behind, rfl, List.forall_mem_cons.mpr ⟨separates, clear⟩, isSep⟩

theorem findLastOf_eq_none (clear : Clear set text) : findLastOf set text = none := by
  induction text with
  | nil => rfl
  | cons char text ih =>
      obtain ⟨other, clear⟩ := clear.cons
      rw [findLastOf, ih clear]
      exact if_neg other

/-- A search from the end stops at the last separator. -/
theorem findLastOf_split (clear : Clear set behind) (separates : sep ∈ set) :
    findLastOf set (before ++ sep :: behind) = some before.length := by
  induction before with
  | nil =>
      rw [List.nil_append, findLastOf, findLastOf_eq_none clear]
      exact if_pos separates
  | cons char before ih => rw [List.cons_append, findLastOf, ih, List.length_cons]

end

/-! ### Decimal numbers -/

/-- `isspace`. -/
def isSpace (char : Char) : Bool := decide (9 ≤ char.toNat ∧ char.toNat ≤ 13) || char.toNat == 32

/-- The digits `%d` takes. -/
def scanDigits (text : List Char) : Option Nat :=
  match text.takeWhile Char.isDigit with
  | [] => none
  | digits => some (Nat.ofDigitChars 10 digits 0)

/-- `sscanf` with `%d`; `none` when there is no number. A number that does not fit into an `int`,
    for which C defines no result, is kept as it is. -/
def scanDecimal (text : List Char) : Option Int :=
  match text.dropWhile isSpace with
  | '-' :: digits => (scanDigits digits).map fun value => -Int.ofNat value
  | '+' :: digits => (scanDigits digits).map Int.ofNat
  | digits => (scanDigits digits).map Int.ofNat

/-- `snprintf` with `%d`. -/
def printDecimal (value : Int) : List Char :=
  if value < 0 then '-' :: Nat.toDigits 10 value.natAbs else Nat.toDigits 10 value.natAbs

theorem toDigits_all_isDigit (value : Nat) : ∀ char ∈ Nat.toDigits 10 value, char.isDigit = true :=
  fun _ member => Nat.isDigit_of_mem_toDigits (by decide) (by decide) member

theorem scanDigits_toDigits (value : Nat) : scanDigits (Nat.toDigits 10 value) = some value := by
  rw [scanDigits, List.takeWhile_eq_self_iff.mpr (toDigits_all_isDigit value)]
  split
  · exact absurd ‹_› Nat.toDigits_ne_nil
  · rw [Nat.ofDigitChars_ten_toDigits]

/-- A digit is no space. -/
theorem isSpace_of_isDigit {char : Char} (digit : char.isDigit = true) : isSpace char = false := by
  rw [Char.isDigit, Bool.and_eq_true, decide_eq_true_eq, decide_eq_true_eq] at digit
  have least : 48 ≤ char.toNat := digit.1
  simp [isSpace]
  omega

/-- A printed number is scanned back. -/
theorem scanDecimal_printDecimal (value : Int) : scanDecimal (printDecimal value) = some value := by
  obtain ⟨digit, digits, printed⟩ :=
    List.exists_cons_of_ne_nil (@Nat.toDigits_ne_nil value.natAbs 10)
  rw [printDecimal]
  split
  · rename_i negative
    have noSpace : isSpace '-' = false := by decide
    rw [scanDecimal, List.dropWhile_cons_of_neg (by simp [noSpace])]
    simp only [scanDigits_toDigits, Option.map_some, Option.some.injEq, Int.ofNat_eq_natCast]
    omega
  · rename_i positive
    have isDigit : digit.isDigit = true :=
      toDigits_all_isDigit value.natAbs digit (printed ▸ List.mem_cons_self)
    have scanned := scanDigits_toDigits value.natAbs
    rw [printed] at scanned ⊢
    rw [scanDecimal, List.dropWhile_cons_of_neg (by simp [isSpace_of_isDigit isDigit])]
    split
    · rename_i minus
      cases minus
      exact absurd isDigit (by decide)
    · rename_i plus
      cases plus
      exact absurd isDigit (by decide)
    · rw [scanned, Option.map_some, Option.some.injEq, Int.ofNat_eq_natCast]
      omega

end LibAtbus.StdString
