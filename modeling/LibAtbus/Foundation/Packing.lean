/-
Module: LibAtbus.Foundation.Packing
Layer: Foundation
Purpose: Serialised objects and codecs. A packer emits tokens: scalars, and the headers of arrays
  and maps, each followed by what it announces. An unpacker reads them with a stack of the arrays
  and maps that are not complete. A codec packs a value and converts an object back, over the value
  that was there; one that carries a value packs it as exactly one object and gets it back. The
  rules build codecs of vectors, and of records from those of their fields.
Trusted boundary: none
Main exports: PackedObject, Token, unpack, unpack_tokens, unpack_overMap, Codec, Codec.Carries,
  Codec.object, Codec.carries_vector, Field, Codec.record, Codec.carries_record
-/
import Mathlib.Algebra.Group.Int.Defs
import Mathlib.Algebra.Group.Nat.Defs
import Mathlib.Data.List.Basic

namespace LibAtbus.Packing

universe u v

/-- A serialised object. -/
inductive PackedObject where
  | nil
  | bool (value : Bool)
  | int (value : Int)
  | float (bits : BitVec 64)
  | str (value : String)
  | bin (bytes : List UInt8)
  | ext (type : BitVec 8) (bytes : List UInt8)
  | array (items : List PackedObject)
  | map (entries : List (PackedObject × PackedObject))

/-- What a packer emits. -/
inductive Token where
  | nil
  | bool (value : Bool)
  | int (value : Int)
  | float (bits : BitVec 64)
  | str (value : String)
  | bin (bytes : List UInt8)
  | ext (type : BitVec 8) (bytes : List UInt8)
  | array (size : Nat)
  | map (size : Nat)
deriving DecidableEq, Repr

mutual

/-- The tokens of an object. -/
def PackedObject.tokens : PackedObject → List Token
  | .nil => [.nil]
  | .bool value => [.bool value]
  | .int value => [.int value]
  | .float bits => [.float bits]
  | .str value => [.str value]
  | .bin bytes => [.bin bytes]
  | .ext type bytes => [.ext type bytes]
  | .array items => .array items.length :: tokensList items
  | .map entries => .map entries.length :: tokensEntries entries

/-- The tokens of objects one after the other. -/
def tokensList : List PackedObject → List Token
  | [] => []
  | item :: items => item.tokens ++ tokensList items

/-- The tokens of the entries of a map. -/
def tokensEntries : List (PackedObject × PackedObject) → List Token
  | [] => []
  | (key, val) :: entries => key.tokens ++ (val.tokens ++ tokensEntries entries)

end

@[simp]
theorem tokensList_append (first second : List PackedObject) :
    tokensList (first ++ second) = tokensList first ++ tokensList second := by
  induction first with
  | nil => rfl
  | cons item first ih => simp [tokensList, ih]

/-! ### Unpacking -/

/-- An array or a map that is not complete. After the object that comes next, `missing` more are to
    come; of a map the key of that object may be there already. -/
inductive Pending where
  | array (missing : Nat) (items : List PackedObject)
  | map (missing : Nat) (entries : List (PackedObject × PackedObject)) (key : Option PackedObject)

/-- Where unpacking stands after a token: an object is complete, or more is to come. -/
inductive Progress where
  | complete (object : PackedObject)
  | more (stack : List Pending)

/-- An object that is complete goes to the innermost array or map, which may be complete with it. -/
def place : List Pending → PackedObject → Progress
  | [], object => .complete object
  | .array 0 items :: stack, object => place stack (.array (items ++ [object]))
  | .array (missing + 1) items :: stack, object =>
      .more (.array missing (items ++ [object]) :: stack)
  | .map missing entries none :: stack, object =>
      .more (.map missing entries (some object) :: stack)
  | .map 0 entries (some key) :: stack, object => place stack (.map (entries ++ [(key, object)]))
  | .map (missing + 1) entries (some key) :: stack, object =>
      .more (.map missing (entries ++ [(key, object)]) none :: stack)

/-- One token. -/
def feed (stack : List Pending) : Token → Progress
  | .nil => place stack .nil
  | .bool value => place stack (.bool value)
  | .int value => place stack (.int value)
  | .float bits => place stack (.float bits)
  | .str value => place stack (.str value)
  | .bin bytes => place stack (.bin bytes)
  | .ext type bytes => place stack (.ext type bytes)
  | .array 0 => place stack (.array [])
  | .array (missing + 1) => .more (.array missing [] :: stack)
  | .map 0 => place stack (.map [])
  | .map (missing + 1) => .more (.map missing [] none :: stack)

/-- Unpack one object; what is left after it is returned with it. -/
def unpack : List Pending → List Token → Option (PackedObject × List Token)
  | _, [] => none
  | stack, token :: rest =>
      match feed stack token with
      | .complete object => some (object, rest)
      | .more stack => unpack stack rest

/-- Unpacking goes on from where it stands. -/
def resume (rest : List Token) : Progress → Option (PackedObject × List Token)
  | .complete object => some (object, rest)
  | .more stack => unpack stack rest

@[simp]
theorem resume_more (stack : List Pending) (rest : List Token) :
    resume rest (.more stack) = unpack stack rest := rfl

@[simp]
theorem resume_complete (object : PackedObject) (rest : List Token) :
    resume rest (.complete object) = some (object, rest) := rfl

@[simp]
theorem unpack_cons (stack : List Pending) (token : Token) (rest : List Token) :
    unpack stack (token :: rest) = resume rest (feed stack token) := by
  rw [unpack]
  cases feed stack token with
  | complete object => rfl
  | more stack => rfl

mutual

/-- The tokens of an object unpack to that object, wherever it is to go. -/
theorem unpack_tokens : ∀ (object : PackedObject) (stack : List Pending) (rest : List Token),
    unpack stack (object.tokens ++ rest) = resume rest (place stack object)
  | .nil, stack, rest => by simp [PackedObject.tokens, feed]
  | .bool value, stack, rest => by simp [PackedObject.tokens, feed]
  | .int value, stack, rest => by simp [PackedObject.tokens, feed]
  | .float bits, stack, rest => by simp [PackedObject.tokens, feed]
  | .str value, stack, rest => by simp [PackedObject.tokens, feed]
  | .bin bytes, stack, rest => by simp [PackedObject.tokens, feed]
  | .ext type bytes, stack, rest => by simp [PackedObject.tokens, feed]
  | .array [], stack, rest => by simp [PackedObject.tokens, tokensList, feed]
  | .array (item :: items), stack, rest => by
      have unpacked := unpack_tokensList (item :: items) stack [] rest (List.cons_ne_nil item items)
      simpa [PackedObject.tokens, feed] using unpacked
  | .map [], stack, rest => by simp [PackedObject.tokens, tokensEntries, feed]
  | .map (entry :: entries), stack, rest => by
      have unpacked :=
        unpack_tokensEntries (entry :: entries) stack [] rest (List.cons_ne_nil entry entries)
      simpa [PackedObject.tokens, feed] using unpacked

/-- The tokens of the items of an array complete it. -/
theorem unpack_tokensList : ∀ (items : List PackedObject) (stack : List Pending)
    (done : List PackedObject) (rest : List Token), items ≠ [] →
    unpack (.array (items.length - 1) done :: stack) (tokensList items ++ rest) =
      resume rest (place stack (.array (done ++ items)))
  | [], _, _, _, nonempty => absurd rfl nonempty
  | [item], stack, done, rest, _ => by
      have unpacked := unpack_tokens item (.array 0 done :: stack) rest
      simpa [tokensList, place] using unpacked
  | item :: next :: items, stack, done, rest, _ => by
      have unpacked := unpack_tokens item (.array (items.length + 1) done :: stack)
        (tokensList (next :: items) ++ rest)
      have later :=
        unpack_tokensList (next :: items) stack (done ++ [item]) rest (List.cons_ne_nil next items)
      rw [List.length_cons, Nat.add_sub_cancel] at later
      simp only [place, resume_more, later] at unpacked
      simpa [tokensList] using unpacked

/-- The tokens of the entries of a map complete it. -/
theorem unpack_tokensEntries : ∀ (entries : List (PackedObject × PackedObject))
    (stack : List Pending) (done : List (PackedObject × PackedObject)) (rest : List Token),
      entries ≠ [] →
    unpack (.map (entries.length - 1) done none :: stack) (tokensEntries entries ++ rest) =
      resume rest (place stack (.map (done ++ entries)))
  | [], _, _, _, nonempty => absurd rfl nonempty
  | [(key, val)], stack, done, rest, _ => by
      have keyed := unpack_tokens key (.map 0 done none :: stack) (val.tokens ++ rest)
      have unpacked := unpack_tokens val (.map 0 done (some key) :: stack) rest
      simp only [place, resume_more, unpacked] at keyed
      simpa [tokensEntries] using keyed
  | (key, val) :: next :: entries, stack, done, rest, _ => by
      have keyed := unpack_tokens key (.map (entries.length + 1) done none :: stack)
        (val.tokens ++ (tokensEntries (next :: entries) ++ rest))
      have unpacked := unpack_tokens val (.map (entries.length + 1) done (some key) :: stack)
        (tokensEntries (next :: entries) ++ rest)
      have later := unpack_tokensEntries (next :: entries) stack (done ++ [(key, val)]) rest
        (List.cons_ne_nil next entries)
      rw [List.length_cons, Nat.add_sub_cancel] at later
      simp only [place, resume_more, unpacked, later] at keyed
      simpa [tokensEntries] using keyed

end

/-- The tokens of an object are exactly one object. -/
theorem unpack_tokens_nil (object : PackedObject) :
    unpack [] object.tokens = some (object, []) := by
  have unpacked := unpack_tokens object [] []
  simpa [place] using unpacked

/-! ### Below what is unpacked -/

/-- What unpacking makes of a map whose last key is there, at the bottom of the stack: the map with
    that key, or more is to come above it. -/
def Progress.OverMap (entries : List (PackedObject × PackedObject)) (key : PackedObject) :
    Progress → Prop
  | .complete object => ∃ val, object = .map (entries ++ [(key, val)])
  | .more stack => ∃ above, stack = above ++ [.map 0 entries (some key)]

/-- An object that is complete goes into what is above the map, or is its last value. -/
theorem place_overMap (entries : List (PackedObject × PackedObject)) (key : PackedObject)
    (above : List Pending) (object : PackedObject) :
    (place (above ++ [.map 0 entries (some key)]) object).OverMap entries key := by
  induction above generalizing object with
  | nil => exact ⟨object, rfl⟩
  | cons innermost above ih =>
      rw [List.cons_append]
      match innermost with
      | .array 0 items => exact ih (.array (items ++ [object]))
      | .array (missing + 1) items => exact ⟨.array missing (items ++ [object]) :: above, rfl⟩
      | .map missing items none => exact ⟨.map missing items (some object) :: above, by simp⟩
      | .map 0 items (some first) => exact ih (.map (items ++ [(first, object)]))
      | .map (missing + 1) items (some first) =>
          exact ⟨.map missing (items ++ [(first, object)]) none :: above, rfl⟩

theorem feed_overMap (entries : List (PackedObject × PackedObject)) (key : PackedObject)
    (above : List Pending) (token : Token) :
    (feed (above ++ [.map 0 entries (some key)]) token).OverMap entries key := by
  match token with
  | .nil | .bool _ | .int _ | .float _ | .str _ | .bin _ | .ext _ _ | .array 0 | .map 0 =>
      exact place_overMap entries key above _
  | .array (missing + 1) => exact ⟨.array missing [] :: above, rfl⟩
  | .map (missing + 1) => exact ⟨.map missing [] none :: above, rfl⟩

/-- Whatever tokens come, a map whose last key is there is completed by a value. -/
theorem unpack_overMap {entries : List (PackedObject × PackedObject)} {key object : PackedObject}
    {tokens rest : List Token} (above : List Pending)
    (unpacked : unpack (above ++ [.map 0 entries (some key)]) tokens = some (object, rest)) :
    ∃ val, object = .map (entries ++ [(key, val)]) := by
  induction tokens generalizing above with
  | nil => cases unpacked
  | cons token tokens ih =>
      have isOver := feed_overMap entries key above token
      rw [unpack_cons] at unpacked
      cases fed : feed (above ++ [.map 0 entries (some key)]) token with
      | complete whole =>
          rw [fed] at isOver unpacked
          cases unpacked
          exact isOver
      | more stack =>
          rw [fed] at isOver unpacked
          obtain ⟨above', rfl⟩ := isOver
          exact ih above' unpacked

/-! ### Codecs -/

/-- An object does not have the type it is to be converted to. -/
inductive TypeError where
  | mismatch
deriving DecidableEq, Repr

/-- How values are packed, and objects converted over the value that is there; `fresh` is the value
    of a new element. -/
structure Codec (α : Type u) where
  pack : α → List Token
  convert : PackedObject → α → Except TypeError α
  fresh : α

variable {α : Type u} {ρ : Type v}

/-- A value is packed as one object, which converts to it over any other. -/
def Codec.Carries (codec : Codec α) (value : α) : Prop :=
  ∃ object, codec.pack value = object.tokens ∧ ∀ old, codec.convert object old = .ok value

/-- The object an adaptor builds for a value: the one that the value is packed as. -/
def Codec.object (codec : Codec α) (value : α) : PackedObject :=
  match unpack [] (codec.pack value) with
  | some (object, _) => object
  | none => .nil

/-- Values that are packed as the integers of a range. -/
def Codec.ranged (low high : Int) (toInt : α → Int) (ofInt : Int → α) (fresh : α) : Codec α where
  pack value := [.int (toInt value)]
  convert object _ :=
    match object with
    | .int value => if low ≤ value ∧ value ≤ high then .ok (ofInt value) else .error .mismatch
    | _ => .error .mismatch
  fresh := fresh

theorem Codec.carries_ranged {low high : Int} {toInt : α → Int} {ofInt : Int → α} {fresh value : α}
    (least : low ≤ toInt value) (greatest : toInt value ≤ high)
    (back : ofInt (toInt value) = value) :
    (Codec.ranged low high toInt ofInt fresh).Carries value := by
  refine ⟨.int (toInt value), by simp [ranged, PackedObject.tokens], fun old => ?_⟩
  rw [ranged]
  dsimp only
  rw [if_pos ⟨least, greatest⟩, back]

/-- Unsigned integers of a width. -/
def Codec.unsigned (width : Nat) : Codec (BitVec width) :=
  .ranged 0 (2 ^ width - 1) (fun value => value.toNat) (BitVec.ofInt width) 0

theorem Codec.carries_unsigned {width : Nat} (value : BitVec width) :
    (Codec.unsigned width).Carries value := by
  have bound : value.toNat < 2 ^ width := value.isLt
  have cast : ((2 ^ width : Nat) : Int) = 2 ^ width := by simp
  refine carries_ranged ?_ ?_ ?_
  · omega
  · omega
  · simp

/-- Signed integers of a width. -/
def Codec.signed (width : Nat) : Codec (BitVec width) :=
  .ranged (-2 ^ (width - 1)) (2 ^ (width - 1) - 1) BitVec.toInt (BitVec.ofInt width) 0

theorem Codec.carries_signed {width : Nat} (value : BitVec width) :
    (Codec.signed width).Carries value := by
  have least := BitVec.le_toInt value
  have greatest := BitVec.toInt_lt (x := value)
  refine carries_ranged least ?_ ?_
  · omega
  · simp

/-- Booleans. -/
def Codec.bool : Codec Bool where
  pack value := [.bool value]
  convert object _ :=
    match object with
    | .bool value => .ok value
    | _ => .error .mismatch
  fresh := false

theorem Codec.carries_bool (value : Bool) : Codec.bool.Carries value :=
  ⟨.bool value, by simp [bool, PackedObject.tokens], fun _ => rfl⟩

/-- Strings, which convert from binary data as well. -/
def Codec.str : Codec String where
  pack value := [.str value]
  convert object _ :=
    match object with
    | .str value => .ok value
    | .bin bytes => .ok ((String.fromUTF8? ⟨bytes.toArray⟩).getD "")
    | _ => .error .mismatch
  fresh := ""

theorem Codec.carries_str (value : String) : Codec.str.Carries value :=
  ⟨.str value, by simp [str, PackedObject.tokens], fun _ => rfl⟩

/-! ### Vectors -/

/-- The items of an array, each over the element that is there. -/
def Codec.convertElems (codec : Codec α) : List PackedObject → List α → Except TypeError (List α)
  | [], _ => .ok []
  | item :: items, old => do
      let value ← codec.convert item (old.headD codec.fresh)
      let values ← codec.convertElems items old.tail
      return value :: values

/-- Vectors: the vector that is there gets the size of the array. -/
def Codec.vector (codec : Codec α) : Codec (List α) where
  pack values := .array values.length :: values.flatMap codec.pack
  convert object old :=
    match object with
    | .array items => codec.convertElems items old
    | _ => .error .mismatch
  fresh := []

/-- The objects of values one after the other. -/
theorem Codec.carries_elems {codec : Codec α} {values : List α}
    (carried : ∀ value ∈ values, codec.Carries value) :
    ∃ items, items.length = values.length ∧ values.flatMap codec.pack = tokensList items ∧
      ∀ old, codec.convertElems items old = .ok values := by
  induction values with
  | nil => exact ⟨[], rfl, rfl, fun _ => rfl⟩
  | cons value values ih =>
      obtain ⟨item, packed, back⟩ := carried value List.mem_cons_self
      obtain ⟨items, length, packs, backs⟩ :=
        ih fun later member => carried later (List.mem_cons_of_mem value member)
      refine ⟨item :: items, by simp [length], by simp [packed, packs, tokensList], fun old => ?_⟩
      rw [convertElems, back, backs]
      rfl

theorem Codec.carries_vector {codec : Codec α} {values : List α}
    (carried : ∀ value ∈ values, codec.Carries value) : codec.vector.Carries values := by
  obtain ⟨items, length, packs, backs⟩ := carries_elems carried
  exact ⟨.array items, by simp [vector, PackedObject.tokens, length, packs], backs⟩

/-! ### Records -/

/-- A field of a record: how it is packed and converted, and how one record takes it from
    another. -/
structure Field (ρ : Type v) where
  pack : ρ → List Token
  convert : PackedObject → ρ → Except TypeError ρ
  put : ρ → ρ → ρ

/-- The field of a codec. -/
def Field.of (codec : Codec α) (get : ρ → α) (set : ρ → α → ρ) : Field ρ where
  pack record := codec.pack (get record)
  convert object record := (codec.convert object (get record)).map (set record)
  put source record := set record (get source)

/-- The field of a record is packed as one object, which gives it to any other record. -/
def Field.Carries (field : Field ρ) (record : ρ) : Prop :=
  ∃ object, field.pack record = object.tokens ∧
    ∀ old, field.convert object old = .ok (field.put record old)

theorem Field.carries_of {codec : Codec α} {get : ρ → α} {set : ρ → α → ρ} {record : ρ}
    (carried : codec.Carries (get record)) : (Field.of codec get set).Carries record := by
  obtain ⟨object, packed, back⟩ := carried
  refine ⟨object, packed, fun old => ?_⟩
  simp only [of, back]
  rfl

/-- The items of an array are converted to the fields in order; fields without an item are left
    alone. -/
def convertFields : List (Field ρ) → List PackedObject → ρ → Except TypeError ρ
  | field :: fields, item :: items, record => do
      let record ← field.convert item record
      convertFields fields items record
  | _, _, record => .ok record

/-- A record is packed as the array of its fields. -/
def Codec.record (fields : List (Field ρ)) (fresh : ρ) : Codec ρ where
  pack record := .array fields.length :: fields.flatMap fun field => field.pack record
  convert object old :=
    match object with
    | .array items => convertFields fields items old
    | _ => .error .mismatch
  fresh := fresh

/-- The objects of fields one after the other. -/
theorem carries_fields {fields : List (Field ρ)} {record : ρ}
    (carried : ∀ field ∈ fields, field.Carries record) :
    ∃ items, items.length = fields.length ∧
      (fields.flatMap fun field => field.pack record) = tokensList items ∧
      ∀ old,
        convertFields fields items old =
          .ok (fields.foldl (fun old field => field.put record old) old) := by
  induction fields with
  | nil => exact ⟨[], rfl, rfl, fun _ => rfl⟩
  | cons field fields ih =>
      obtain ⟨item, packed, back⟩ := carried field List.mem_cons_self
      obtain ⟨items, length, packs, backs⟩ :=
        ih fun later member => carried later (List.mem_cons_of_mem field member)
      refine ⟨item :: items, by simp [length], by simp [packed, packs, tokensList], fun old => ?_⟩
      rw [convertFields, back, List.foldl_cons, ← backs]
      rfl

/-- A record is carried when its fields are, and all of it is in them. -/
theorem Codec.carries_record {fields : List (Field ρ)} {fresh record : ρ}
    (carried : ∀ field ∈ fields, field.Carries record)
    (covers : ∀ old, fields.foldl (fun old field => field.put record old) old = record) :
    (Codec.record fields fresh).Carries record := by
  obtain ⟨items, length, packs, backs⟩ := carries_fields carried
  refine ⟨.array items, by simp [Codec.record, PackedObject.tokens, length, packs], fun old => ?_⟩
  exact (backs old).trans (congrArg _ (covers old))

end LibAtbus.Packing
