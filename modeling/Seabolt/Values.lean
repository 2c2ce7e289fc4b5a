import Seabolt.Memory

/-!
# `BoltValue`

The dynamically typed value of `values.c`, as a tree.  A `BoltValue` owns its
children, so the block of child values is a list inside its parent, and a
container has exactly as many children as its size.  A String or Bytes value
is the list of its `size` bytes.

`format_as_String`, `format_as_Bytes` and `format_as_Structure` also accept a
negative length, for which they allocate nothing.  `BoltValue.negative` is the
value they leave behind: it has a type and a size and no content.

A function that formats a value replaces what the value held.  Only the List
and Dictionary forms keep a part of it, so only they take the old value as an
argument.  Allocations succeed.
-/

namespace Seabolt

/-- The types that can be formatted with a negative length. -/
inductive NegativeType where
  | string
  | bytes
  | struct (code : Int16)
  deriving DecidableEq, Repr

/-- `struct BoltValue`. -/
inductive BoltValue where
  | null
  | boolean (data : UInt8)
  | integer (data : Int64)
  /-- The bit pattern of the double. -/
  | float (data : UInt64)
  | string (data : List UInt8)
  | dictionary (entries : List (BoltValue × BoltValue))
  | list (elements : List BoltValue)
  | bytes (data : List UInt8)
  | struct (code : Int16) (fields : List BoltValue)
  /-- A value formatted with the length `-(n + 1)`. -/
  | negative (type : NegativeType) (n : Nat)
  deriving Inhabited, Repr

/-- `enum BoltType`. -/
inductive BoltType where
  | null | boolean | integer | float | string | dictionary | list | bytes | struct
  deriving DecidableEq, Repr

namespace BoltValue

/-- Induction on the tree: a container has the property when its children
have it. -/
theorem ind {motive : BoltValue → Prop}
    (null : motive .null)
    (boolean : ∀ data, motive (.boolean data))
    (integer : ∀ data, motive (.integer data))
    (float : ∀ data, motive (.float data))
    (string : ∀ data, motive (.string data))
    (dictionary : ∀ entries, (∀ e ∈ entries, motive e.1 ∧ motive e.2) →
      motive (.dictionary entries))
    (list : ∀ elements, (∀ e ∈ elements, motive e) → motive (.list elements))
    (bytes : ∀ data, motive (.bytes data))
    (struct : ∀ code fields, (∀ e ∈ fields, motive e) → motive (.struct code fields))
    (negative : ∀ type n, motive (.negative type n)) (v : BoltValue) : motive v :=
  BoltValue.rec (motive_1 := motive)
    (motive_2 := fun entries => ∀ e ∈ entries, motive e.1 ∧ motive e.2)
    (motive_3 := fun elements => ∀ e ∈ elements, motive e)
    (motive_4 := fun entry => motive entry.1 ∧ motive entry.2)
    null boolean integer float string dictionary list bytes struct negative
    (fun _ he => absurd he List.not_mem_nil)
    (fun _ _ hhead htail => List.forall_mem_cons.mpr ⟨hhead, htail⟩)
    (fun _ he => absurd he List.not_mem_nil)
    (fun _ _ hhead htail => List.forall_mem_cons.mpr ⟨hhead, htail⟩)
    (fun _ _ hkey hvalue => ⟨hkey, hvalue⟩) v

/-- `BoltValue_type`. -/
def type : BoltValue → BoltType
  | null => .null
  | boolean _ => .boolean
  | integer _ => .integer
  | float _ => .float
  | string _ => .string
  | dictionary _ => .dictionary
  | list _ => .list
  | bytes _ => .bytes
  | struct _ _ => .struct
  | negative .string _ => .string
  | negative .bytes _ => .bytes
  | negative (.struct _) _ => .struct

/-- `BoltValue_size`. -/
def size : BoltValue → Int
  | null => 0
  | boolean _ => 1
  | integer _ => 1
  | float _ => 1
  | string data => data.length
  | dictionary entries => entries.length
  | list elements => elements.length
  | bytes data => data.length
  | struct _ fields => fields.length
  | negative _ n => -(n + 1 : Nat)

/-! ## Formatting -/

/-- `_resize`: keep the children up to the new size and pad with Null. -/
def resize {α : Type} (children : List α) (size : Nat) (pad : α) : List α :=
  children.take size ++ List.replicate (size - children.length) pad

@[simp] theorem length_resize {α : Type} (children : List α) (size : Nat) (pad : α) :
    (resize children size pad).length = size := by
  simp only [resize, List.length_append, List.length_take, List.length_replicate]
  omega

/-- The elements after `BoltValue_format_as_List(value, length)`. -/
def listElements (value : BoltValue) (length : Nat) : List BoltValue :=
  match value with
  | list elements => resize elements length null
  | _ => List.replicate length null

/-- The entries after `BoltValue_format_as_Dictionary(value, length)`. -/
def dictionaryEntries (value : BoltValue) (length : Nat) : List (BoltValue × BoltValue) :=
  match value with
  | dictionary entries => resize entries length (null, null)
  | _ => List.replicate length (null, null)

@[simp] theorem length_listElements (value : BoltValue) (length : Nat) :
    (value.listElements length).length = length := by
  unfold listElements
  split <;> simp

@[simp] theorem length_dictionaryEntries (value : BoltValue) (length : Nat) :
    (value.dictionaryEntries length).length = length := by
  unfold dictionaryEntries
  split <;> simp

/-- `BoltValue_format_as_List`. -/
def formatAsList (value : BoltValue) (length : Nat) : BoltValue :=
  list (value.listElements length)

/-- `BoltValue_format_as_Dictionary`. -/
def formatAsDictionary (value : BoltValue) (length : Nat) : BoltValue :=
  dictionary (value.dictionaryEntries length)

theorem formatAsList_zero (value : BoltValue) : value.formatAsList 0 = list [] := by
  rw [formatAsList, List.length_eq_zero_iff.mp (length_listElements value 0)]

theorem formatAsDictionary_zero (value : BoltValue) :
    value.formatAsDictionary 0 = dictionary [] := by
  rw [formatAsDictionary, List.length_eq_zero_iff.mp (length_dictionaryEntries value 0)]

/-- `BoltValue_format_as_Structure` of a non-negative length. -/
def formatAsStructure (code : Int16) (length : Nat) : BoltValue :=
  struct code (List.replicate length null)

/-! ## Reading -/

/-- `to_bit`. -/
def toBit (x : UInt8) : UInt8 := if x = 0 then 0 else 1

@[simp] theorem toBit_toBit (x : UInt8) : toBit (toBit x) = toBit x := by
  unfold toBit
  split_ifs <;> simp_all

/-- `strncmp(a, b, n) == 0`: equality up to `n` bytes or a common NUL. -/
def strncmpEq : Nat → List UInt8 → List UInt8 → Bool
  | 0, _, _ => true
  | n + 1, a, b =>
    if a.headD 0 ≠ b.headD 0 then false
    else if a.headD 0 = 0 then true
    else strncmpEq n a.tail b.tail

/-- `BoltString_equals`. -/
def stringEquals (value : BoltValue) (data : List UInt8) : Bool :=
  match value with
  | string chars => chars.length = data.length && strncmpEq data.length chars data
  | _ => false

theorem strncmpEq_iff {b : List UInt8} (hb : 0 ∉ b) :
    ∀ {a : List UInt8}, a.length = b.length → (strncmpEq b.length a b = true ↔ a = b) := by
  induction b with
  | nil =>
    intro a hlength
    rw [List.length_eq_zero_iff.mp hlength]
    exact iff_of_true rfl rfl
  | cons y b ih =>
    intro a hlength
    obtain ⟨hy, hrest⟩ := not_or.mp (List.mem_cons.not.mp hb)
    obtain ⟨x, a, rfl⟩ := List.exists_cons_of_length_eq_add_one hlength
    simp only [List.length_cons, strncmpEq, List.headD_cons, List.tail_cons, List.cons.injEq]
    by_cases hxy : x = y
    · subst hxy
      simp only [ne_eq, not_true_eq_false, if_false, Ne.symm hy, true_and]
      exact ih hrest (Nat.succ.inj hlength)
    · simp [hxy]

/-- A String equals a key without NULs only if it is the same. -/
theorem stringEquals_iff {value : BoltValue} {key : List UInt8} (hkey : 0 ∉ key) :
    value.stringEquals key = true ↔ value = string key := by
  cases value with
  | string chars =>
    simp only [stringEquals, Bool.and_eq_true, decide_eq_true_eq, string.injEq]
    constructor
    · rintro ⟨hlength, hequal⟩
      exact (strncmpEq_iff hkey hlength).mp hequal
    · rintro rfl
      exact ⟨rfl, (strncmpEq_iff hkey rfl).mpr rfl⟩
  | _ => simp [stringEquals]

/-- `BoltDictionary_get_key_index` from index 0, followed by
`BoltDictionary_value`: the value at the first key that equals `key`. -/
def valueByKey (entries : List (BoltValue × BoltValue)) (key : List UInt8) :
    Option BoltValue :=
  (entries.find? fun entry => entry.1.stringEquals key).map Prod.snd

/-! ## Copying -/

mutual

/-- `BoltValue_copy`.  `none` is the `memcpy` of a negative length that
copying a String or Bytes value of negative size runs into. -/
def copy (dest : BoltValue) : BoltValue → Option BoltValue
  | null => some null
  | boolean data => some (boolean (toBit data))
  | integer data => some (integer data)
  | float data => some (float data)
  | string data => some (string data)
  | dictionary entries =>
    (copyEntries (dest.dictionaryEntries entries.length) entries).map dictionary
  | list elements => (copyElements (dest.listElements elements.length) elements).map list
  | bytes data => some (bytes data)
  | struct code fields =>
    (copyElements (List.replicate fields.length null) fields).map (struct code)
  | negative .string _ => none
  | negative .bytes _ => none
  | negative (.struct code) n => some (negative (.struct code) n)

/-- The loop of `BoltValue_copy` over list elements or structure fields. -/
def copyElements (dests : List BoltValue) : List BoltValue → Option (List BoltValue)
  | [] => some []
  | v :: vs => do
    let first ← copy (dests.headD null) v
    let rest ← copyElements dests.tail vs
    some (first :: rest)

/-- The loop of `BoltValue_copy` over dictionary entries. -/
def copyEntries (dests : List (BoltValue × BoltValue)) :
    List (BoltValue × BoltValue) → Option (List (BoltValue × BoltValue))
  | [] => some []
  | (k, v) :: vs => do
    let key ← copy (dests.headD (null, null)).1 k
    let value ← copy (dests.headD (null, null)).2 v
    let rest ← copyEntries dests.tail vs
    some ((key, value) :: rest)

end

mutual

/-- The value with every Boolean as 0 or 1, which is all that
`BoltBoolean_get` shows of it. -/
def canon : BoltValue → BoltValue
  | boolean data => boolean (toBit data)
  | dictionary entries => dictionary (canonEntries entries)
  | list elements => list (canonElements elements)
  | struct code fields => struct code (canonElements fields)
  | v => v

/-- `canon` over list elements or structure fields. -/
def canonElements : List BoltValue → List BoltValue
  | [] => []
  | v :: vs => canon v :: canonElements vs

/-- `canon` over dictionary entries. -/
def canonEntries : List (BoltValue × BoltValue) → List (BoltValue × BoltValue)
  | [] => []
  | (k, v) :: vs => (canon k, canon v) :: canonEntries vs

end

theorem canonElements_eq_map (vs : List BoltValue) : canonElements vs = vs.map canon := by
  induction vs with
  | nil => rfl
  | cons v vs ih => simp [canonElements, ih]

theorem canonEntries_eq_map (es : List (BoltValue × BoltValue)) :
    canonEntries es = es.map fun e => (canon e.1, canon e.2) := by
  induction es with
  | nil => rfl
  | cons e es ih => simp [canonEntries, ih]

mutual

/-- No String or Bytes value of negative size anywhere in the tree. -/
def Copyable : BoltValue → Prop
  | dictionary entries => CopyableEntries entries
  | list elements => CopyableElements elements
  | struct _ fields => CopyableElements fields
  | negative .string _ => False
  | negative .bytes _ => False
  | _ => True

/-- `Copyable` for every list element or structure field. -/
def CopyableElements : List BoltValue → Prop
  | [] => True
  | v :: vs => Copyable v ∧ CopyableElements vs

/-- `Copyable` for every key and value of a dictionary. -/
def CopyableEntries : List (BoltValue × BoltValue) → Prop
  | [] => True
  | (k, v) :: vs => Copyable k ∧ Copyable v ∧ CopyableEntries vs

end

theorem copyableElements_iff (vs : List BoltValue) :
    CopyableElements vs ↔ ∀ v ∈ vs, Copyable v := by
  induction vs with
  | nil => simp [CopyableElements]
  | cons v vs ih => simp [CopyableElements, ih]

theorem copyableEntries_iff (es : List (BoltValue × BoltValue)) :
    CopyableEntries es ↔ ∀ e ∈ es, Copyable e.1 ∧ Copyable e.2 := by
  induction es with
  | nil => simp [CopyableEntries]
  | cons e es ih => simp only [CopyableEntries, ih, List.forall_mem_cons, and_assoc]

private theorem copyElements_of_copyable (vs : List BoltValue)
    (ih : ∀ v ∈ vs, ∀ dest, Copyable v → copy dest v = some (canon v)) :
    ∀ dests, CopyableElements vs → copyElements dests vs = some (canonElements vs) := by
  induction vs with
  | nil => intro _ _; rfl
  | cons v vs ihvs =>
    intro dests h
    have hhead := ih v List.mem_cons_self (dests.headD null) h.1
    have htail := ihvs (fun w hw => ih w (List.mem_cons_of_mem v hw)) dests.tail h.2
    simp only [copyElements, hhead, htail, canonElements]
    rfl

private theorem copyEntries_of_copyable (es : List (BoltValue × BoltValue))
    (ih : ∀ e ∈ es, (∀ dest, Copyable e.1 → copy dest e.1 = some (canon e.1)) ∧
      (∀ dest, Copyable e.2 → copy dest e.2 = some (canon e.2))) :
    ∀ dests, CopyableEntries es → copyEntries dests es = some (canonEntries es) := by
  induction es with
  | nil => intro _ _; rfl
  | cons e es ihes =>
    intro dests h
    obtain ⟨k, v⟩ := e
    obtain ⟨hk, hv, hes⟩ := h
    have hboth := ih (k, v) List.mem_cons_self
    have hkey := hboth.1 (dests.headD (null, null)).1 hk
    have hvalue := hboth.2 (dests.headD (null, null)).2 hv
    have htail := ihes (fun w hw => ih w (List.mem_cons_of_mem _ hw)) dests.tail hes
    simp only [copyEntries, hkey, hvalue, htail, canonEntries]
    rfl

/-- A copy does not depend on what the destination held, and it equals the
source up to the representation of Booleans. -/
theorem copy_eq_canon (v : BoltValue) :
    ∀ dest, Copyable v → copy dest v = some (canon v) := by
  induction v using ind with
  | null | boolean _ | integer _ | float _ | string _ | bytes _ =>
    intro _ _
    simp [copy, canon]
  | dictionary es ih =>
    intro dest h
    simp only [copy, canon]
    rw [copyEntries_of_copyable es ih _ h]
    rfl
  | list vs ih =>
    intro dest h
    simp only [copy, canon]
    rw [copyElements_of_copyable vs ih _ h]
    rfl
  | struct code vs ih =>
    intro dest h
    simp only [copy, canon]
    rw [copyElements_of_copyable vs ih _ h]
    rfl
  | negative type n =>
    intro dest h
    cases type with
    | string => exact absurd h (by simp [Copyable])
    | bytes => exact absurd h (by simp [Copyable])
    | struct code => simp [copy, canon]

/-- The same for the entries of a dictionary. -/
theorem copyEntries_eq_canon (es dests : List (BoltValue × BoltValue)) (h : CopyableEntries es) :
    copyEntries dests es = some (canonEntries es) :=
  copyEntries_of_copyable es (fun e _ => ⟨copy_eq_canon e.1, copy_eq_canon e.2⟩) dests h

private theorem copyable_of_copyElements (vs : List BoltValue)
    (ih : ∀ v ∈ vs, ∀ dest copied, copy dest v = some copied → Copyable v) :
    ∀ dests copies, copyElements dests vs = some copies → CopyableElements vs := by
  induction vs with
  | nil => intro _ _ _; trivial
  | cons v vs ihvs =>
    intro dests copies h
    obtain ⟨first, hfirst, h⟩ := Option.bind_eq_some_iff.mp h
    obtain ⟨rest, hrest, -⟩ := Option.bind_eq_some_iff.mp h
    exact ⟨ih v List.mem_cons_self _ first hfirst,
      ihvs (fun w hw => ih w (List.mem_cons_of_mem v hw)) _ rest hrest⟩

private theorem copyable_of_copyEntries (es : List (BoltValue × BoltValue))
    (ih : ∀ e ∈ es, (∀ dest copied, copy dest e.1 = some copied → Copyable e.1) ∧
      (∀ dest copied, copy dest e.2 = some copied → Copyable e.2)) :
    ∀ dests copies, copyEntries dests es = some copies → CopyableEntries es := by
  induction es with
  | nil => intro _ _ _; trivial
  | cons e es ihes =>
    intro dests copies h
    obtain ⟨k, v⟩ := e
    obtain ⟨key, hkey, h⟩ := Option.bind_eq_some_iff.mp h
    obtain ⟨value, hvalue, h⟩ := Option.bind_eq_some_iff.mp h
    obtain ⟨rest, hrest, -⟩ := Option.bind_eq_some_iff.mp h
    have hboth := ih (k, v) List.mem_cons_self
    exact ⟨hboth.1 _ key hkey, hboth.2 _ value hvalue,
      ihes (fun w hw => ih w (List.mem_cons_of_mem _ hw)) _ rest hrest⟩

/-- Only a value that can be copied is. -/
theorem copyable_of_copy (v : BoltValue) :
    ∀ dest copied, copy dest v = some copied → Copyable v := by
  induction v using ind with
  | null | boolean _ | integer _ | float _ | string _ | bytes _ => exact fun _ _ _ => trivial
  | dictionary es ih =>
    intro dest copied h
    obtain ⟨copies, hcopies, -⟩ := Option.map_eq_some_iff.mp h
    exact copyable_of_copyEntries es ih _ copies hcopies
  | list vs ih =>
    intro dest copied h
    obtain ⟨copies, hcopies, -⟩ := Option.map_eq_some_iff.mp h
    exact copyable_of_copyElements vs ih _ copies hcopies
  | struct code vs ih =>
    intro dest copied h
    obtain ⟨copies, hcopies, -⟩ := Option.map_eq_some_iff.mp h
    exact copyable_of_copyElements vs ih _ copies hcopies
  | negative type n =>
    intro dest copied h
    cases type with
    | string => cases h
    | bytes => cases h
    | struct code => exact trivial

end BoltValue

end Seabolt
