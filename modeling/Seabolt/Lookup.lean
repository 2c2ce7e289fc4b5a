import Seabolt.Discovery

/-!
# Looking up keys

`BoltDictionary_get_key_index`, `BoltDictionary_value_by_key` and
`BoltString_equals`, on Strings with any bytes.

Their arguments have lengths, but the bytes are compared with `strncmp`, which does not
look behind a NUL.  `LeastFrom` is what a search should find.  A search with a weaker
test finds the same if and only if nothing that it mistakes is in front of it
(`leastFrom_iff`).
-/

namespace Seabolt

open BoltValue

/-! ## Searching -/

/-- The result is the least index from `start` on that has the property, or -1 if there
is none. -/
def LeastFrom (P : Nat → Prop) (start : Nat) (result : Int) : Prop :=
  (result = -1 ∧ ∀ i, start ≤ i → ¬P i) ∨
    ∃ i : Nat, result = i ∧ start ≤ i ∧ P i ∧ ∀ j, start ≤ j → j < i → ¬P j

section LeastFrom

variable {P Q : Nat → Prop} {start : Nat} {result : Int}

/-- What a weaker test finds is what is looked for if and only if that is in front of
everything the test mistakes. -/
theorem leastFrom_iff (hweaker : ∀ i, P i → Q i) (h : LeastFrom Q start result) :
    LeastFrom P start result ↔
      ∀ j, start ≤ j → Q j → ¬P j → ∃ i, start ≤ i ∧ i < j ∧ P i := by
  rcases h with ⟨rfl, hnone⟩ | ⟨i, rfl, hi, hQ, hleast⟩
  · refine iff_of_true (.inl ⟨rfl, fun i hi hP => hnone i hi (hweaker i hP)⟩) ?_
    exact fun j hj hQ _ => absurd hQ (hnone j hj)
  · constructor
    · rintro (⟨habsurd, -⟩ | ⟨i', hsame, -, hP, -⟩) j hj hQj hPj
      · omega
      · obtain rfl : i = i' := by omega
        refine ⟨i, hi, ?_, hP⟩
        rcases Nat.lt_trichotomy j i with hlt | heq | hgt
        · exact absurd hQj (hleast j hj hlt)
        · exact absurd (heq ▸ hP) hPj
        · exact hgt
    · intro hfront
      refine .inr ⟨i, rfl, hi, ?_, fun j hj hlt hP => hleast j hj hlt (hweaker j hP)⟩
      by_contra hP
      obtain ⟨i', hi', hlt, hP'⟩ := hfront i hi hQ hP
      exact hleast i' hi' hlt (hweaker i' hP')

end LeastFrom

/-! ## The functions -/

/-- `BoltDictionary_get_key_index` of a non-negative start index. -/
def BoltValue.getKeyIndex (entries : List (BoltValue × BoltValue)) (key : List UInt8)
    (start_index : Nat) : Int :=
  if start_index ≥ entries.length then -1
  else
    match (entries.drop start_index).findIdx? fun entry => entry.1.keyEquals key with
    | some i => start_index + i
    | none => -1

/-- `BoltDictionary_value_by_key`: the index of the entry to whose value the result
points. -/
def BoltValue.valueIndexByKey (entries : List (BoltValue × BoltValue)) (key : List UInt8) :
    Option Nat :=
  let index := getKeyIndex entries key 0
  if index < 0 then none else some index.toNat

/-- A size as an `int32_t`. -/
def toInt32 (size : Nat) : Int := Int.bmod size 0x100000000

/-- `BoltString_equals`, with the size of the data made an `int32_t`. -/
def BoltValue.equals (value : BoltValue) (data : List UInt8) : Bool :=
  match value with
  | string chars => (chars.length : Int) = toInt32 data.length && strncmpEq chars.length chars data
  | _ => false

/-! ## Comparing with `strncmp` -/

/-- The bytes agree up to the size, or up to a NUL before it. -/
def AgreesUpTo (size : Nat) (a b : List UInt8) : Prop :=
  a.take size = b.take size ∨
    ∃ k < size, a.take k = b.take k ∧ a[k]? = some 0 ∧ b[k]? = some 0

theorem strncmpEq_iff_agrees (size : Nat) :
    ∀ {a b : List UInt8}, size ≤ a.length → size ≤ b.length →
      (strncmpEq size a b = true ↔ AgreesUpTo size a b) := by
  induction size with
  | zero => exact fun _ _ => iff_of_true rfl (.inl rfl)
  | succ size ih =>
    intro a b ha hb
    obtain ⟨x, a, rfl⟩ := List.exists_cons_of_length_pos (Nat.lt_of_lt_of_le (Nat.succ_pos _) ha)
    obtain ⟨y, b, rfl⟩ := List.exists_cons_of_length_pos (Nat.lt_of_lt_of_le (Nat.succ_pos _) hb)
    have hrest := ih (Nat.le_of_succ_le_succ ha) (Nat.le_of_succ_le_succ hb)
    simp only [strncmpEq, List.headD_cons, List.tail_cons, AgreesUpTo, List.take_succ_cons,
      List.cons.injEq]
    by_cases hxy : x = y
    · subst hxy
      by_cases hx : x = 0
      · subst hx
        simp only [ne_eq, not_true_eq_false, if_false, if_true, true_iff]
        exact .inr ⟨0, Nat.succ_pos _, rfl, rfl, rfl⟩
      · simp only [ne_eq, not_true_eq_false, if_false, hx, true_and, hrest, AgreesUpTo]
        refine or_congr_right ⟨?_, ?_⟩
        · rintro ⟨k, hk, htake, hzero⟩
          refine ⟨k + 1, Nat.succ_lt_succ hk, ?_, hzero⟩
          rw [List.take_succ_cons, List.take_succ_cons, htake]
        · rintro ⟨k, hk, htake, hzero, hzero'⟩
          cases k with
          | zero => exact absurd (Option.some.inj hzero) hx
          | succ k =>
            rw [List.take_succ_cons, List.take_succ_cons] at htake
            exact ⟨k, Nat.lt_of_succ_lt_succ hk, (List.cons.inj htake).2, hzero, hzero'⟩
    · simp only [ne_eq, hxy, not_false_eq_true, if_true, Bool.false_eq_true, false_and, false_or,
        false_iff]
      rintro ⟨k, -, htake, hzero, hzero'⟩
      cases k with
      | zero => exact hxy (Option.some.inj (hzero.trans hzero'.symm))
      | succ k =>
        rw [List.take_succ_cons, List.take_succ_cons] at htake
        exact hxy (List.cons.inj htake).1

/-- A String is mistaken for data of this size: it is not the same, but has the size and
agrees with the data up to it, or up to a NUL. -/
def Mistaken (chars data : List UInt8) (size : Int) : Prop :=
  chars ≠ data ∧ (chars.length : Int) = size ∧ AgreesUpTo chars.length chars data

theorem keyEquals_iff (chars key : List UInt8) :
    (string chars).keyEquals key = true ↔ chars = key ∨ Mistaken chars key key.length := by
  simp only [keyEquals, Bool.and_eq_true, decide_eq_true_eq, Mistaken, Nat.cast_inj]
  by_cases hlength : chars.length = key.length
  · rw [← hlength, strncmpEq_iff_agrees _ le_rfl hlength.le]
    by_cases hsame : chars = key
    · subst hsame
      exact iff_of_true ⟨rfl, .inl rfl⟩ (.inl rfl)
    · simp only [true_and, hsame, false_or, ne_eq, not_false_eq_true]
  · simp only [hlength, false_and, and_false, or_false, false_iff]
    rintro rfl
    exact hlength rfl

theorem toInt32_eq {size : Nat} (h : size ≤ INT32_MAX) : toInt32 size = size := by
  have hmax : INT32_MAX = 0x7FFFFFFF := rfl
  exact Int.bmod_eq_of_le (by norm_num) (by norm_num; omega)

theorem toInt32_le (size : Nat) : toInt32 size ≤ size := by
  have hmax : INT32_MAX = 0x7FFFFFFF := rfl
  by_cases h : size ≤ INT32_MAX
  · exact (toInt32_eq h).le
  · have hlt : toInt32 size < (0x100000000 + 1) / 2 := Int.bmod_lt (by norm_num)
    norm_num at hlt
    omega

theorem equals_iff {chars data : List UInt8} (hsize : chars.length ≤ INT32_MAX) :
    (string chars).equals data = true ↔
      chars = data ∨ Mistaken chars data (toInt32 data.length) := by
  simp only [equals, Bool.and_eq_true, decide_eq_true_eq, Mistaken]
  by_cases hlength : (chars.length : Int) = toInt32 data.length
  · have hle := toInt32_le data.length
    rw [strncmpEq_iff_agrees _ le_rfl (by omega)]
    by_cases hsame : chars = data
    · subst hsame
      exact iff_of_true ⟨hlength, .inl rfl⟩ (.inl rfl)
    · simp only [hlength, true_and, hsame, false_or, ne_eq, not_false_eq_true]
  · simp only [hlength, false_and, and_false, or_false, false_iff]
    rintro rfl
    exact hlength (toInt32_eq hsize).symm

/-! ## Looking up -/

/-- A dictionary whose keys are byte strings. -/
def stringEntries (entries : List (List UInt8 × BoltValue)) : List (BoltValue × BoltValue) :=
  entries.map fun entry => (string entry.1, entry.2)

/-- The entry with this index has the key. -/
def HasKey (entries : List (List UInt8 × BoltValue)) (key : List UInt8) (i : Nat) : Prop :=
  (entries.map Prod.fst)[i]? = some key

/-- Nothing from the start index on is mistaken for the key, unless the key is in front
of it. -/
def Unmistaken (entries : List (List UInt8 × BoltValue)) (key : List UInt8) (start : Nat) : Prop :=
  ∀ j, start ≤ j → ∀ other, HasKey entries other j → Mistaken other key key.length →
    ∃ i, start ≤ i ∧ i < j ∧ HasKey entries key i

/-- `BoltDictionary_get_key_index` finds the least index with a key that `strncmp` takes
for the one it is given. -/
theorem getKeyIndex_least (entries : List (BoltValue × BoltValue)) (key : List UInt8)
    (start : Nat) :
    LeastFrom (fun i => ∃ entry, entries[i]? = some entry ∧ entry.1.keyEquals key = true) start
      (getKeyIndex entries key start) := by
  have hdrop : ∀ i, start ≤ i → entries[i]? = (entries.drop start)[i - start]? := by
    intro i hi
    rw [List.getElem?_drop, Nat.add_sub_cancel' hi]
  unfold getKeyIndex
  by_cases hstart : start ≥ entries.length
  · rw [if_pos hstart]
    refine .inl ⟨rfl, ?_⟩
    rintro i hi ⟨entry, hentry, -⟩
    have hlt := (List.getElem?_eq_some_iff.mp hentry).1
    omega
  · rw [if_neg hstart]
    cases hfind : (entries.drop start).findIdx? fun entry => entry.1.keyEquals key with
    | none =>
      refine .inl ⟨rfl, ?_⟩
      rintro i hi ⟨entry, hentry, hequals⟩
      rw [hdrop i hi] at hentry
      have hnone := List.findIdx?_eq_none_iff.mp hfind entry (List.mem_of_getElem? hentry)
      rw [hequals] at hnone
      cases hnone
    | some i =>
      obtain ⟨hlt, hequals, hbefore⟩ := List.findIdx?_eq_some_iff_getElem.mp hfind
      refine .inr ⟨start + i, rfl, Nat.le_add_right _ _, ⟨(entries.drop start)[i], ?_, hequals⟩, ?_⟩
      · rw [hdrop _ (Nat.le_add_right _ _), Nat.add_sub_cancel_left, List.getElem?_eq_getElem hlt]
      · rintro j hj hji ⟨entry, hentry, hequals'⟩
        rw [hdrop j hj] at hentry
        obtain ⟨hlt', hget⟩ := List.getElem?_eq_some_iff.mp hentry
        refine hbefore (j - start) (by omega) ?_
        rw [hget]
        exact hequals'

/-- The index is exact if and only if no key is mistaken for another. -/
theorem getKeyIndex_exact (entries : List (List UInt8 × BoltValue)) (key : List UInt8)
    (start : Nat) :
    LeastFrom (HasKey entries key) start (getKeyIndex (stringEntries entries) key start) ↔
      Unmistaken entries key start := by
  have htest : ∀ i, (∃ entry, (stringEntries entries)[i]? = some entry ∧
      entry.1.keyEquals key = true) ↔
        HasKey entries key i ∨ ∃ other, HasKey entries other i ∧ Mistaken other key key.length := by
    intro i
    simp only [stringEntries, HasKey, List.getElem?_map]
    cases entries[i]? with
    | none => simp
    | some entry => simp [keyEquals_iff]
  rw [leastFrom_iff (fun i hi => (htest i).mpr (.inl hi)) (getKeyIndex_least _ _ _)]
  constructor
  · intro h j hj other hother hmistaken
    refine h j hj ((htest j).mpr (.inr ⟨other, hother, hmistaken⟩)) fun hkey => hmistaken.1 ?_
    exact Option.some.inj (hother.symm.trans hkey)
  · intro h j hj hfound hnot
    rcases (htest j).mp hfound with hkey | ⟨other, hother, hmistaken⟩
    · exact absurd hkey hnot
    · exact h j hj other hother hmistaken

theorem getKeyIndex_neg_iff (entries : List (BoltValue × BoltValue)) (key : List UInt8)
    (start : Nat) : getKeyIndex entries key start < 0 ↔ getKeyIndex entries key start = -1 := by
  rcases getKeyIndex_least entries key start with ⟨hnone, -⟩ | ⟨i, hsome, -⟩ <;> omega

/-- The value that is found is that of the entry at the index. -/
theorem dictionaryValueByKey_eq (entries : List (BoltValue × BoltValue)) (key : List UInt8) :
    dictionaryValueByKey entries key =
      (valueIndexByKey entries key).bind fun i => entries[i]?.map Prod.snd := by
  unfold dictionaryValueByKey valueIndexByKey getKeyIndex
  rw [List.find?_eq_bind_findIdx?_getElem?, List.drop_zero]
  cases hfind : entries.findIdx? fun entry => entry.1.keyEquals key with
  | none => simp
  | some i =>
    obtain ⟨hlt, -⟩ := List.findIdx?_eq_some_iff_getElem.mp hfind
    have hsome : ¬0 ≥ entries.length := by omega
    have hindex : ¬((0 : Nat) : Int) + (i : Int) < 0 := by omega
    simp only [hsome, if_false, hindex, Option.bind_some]
    simp

/-- What the three functions have to do, the last one for a String and other data. -/
structure LooksUp (entries : List (List UInt8 × BoltValue)) (key : List UInt8) (start : Nat)
    (chars data : List UInt8) : Prop where
  index : LeastFrom (HasKey entries key) start (getKeyIndex (stringEntries entries) key start)
  value : ∃ result, LeastFrom (HasKey entries key) 0 result ∧
    valueIndexByKey (stringEntries entries) key =
      if result = -1 then none else some result.toNat
  equals : (string chars).equals data = true ↔ chars = data

/-- A key is looked up exactly if and only if no key is mistaken for it that is in front
of it, and a String is compared exactly if and only if it is not mistaken for the
data. -/
theorem lookup_iff (entries : List (List UInt8 × BoltValue)) (key : List UInt8) (start : Nat)
    (chars data : List UInt8) (hsize : chars.length ≤ INT32_MAX) :
    LooksUp entries key start chars data ↔
      Unmistaken entries key start ∧ Unmistaken entries key 0 ∧
        ¬Mistaken chars data (toInt32 data.length) := by
  have hequals : ((string chars).equals data = true ↔ chars = data) ↔
      ¬Mistaken chars data (toInt32 data.length) := by
    rw [equals_iff hsize]
    constructor
    · exact fun h hmistaken => hmistaken.1 (h.mp (.inr hmistaken))
    · exact fun h => or_iff_left h
  have hvalue : ∀ result, LeastFrom (HasKey entries key) 0 result →
      (valueIndexByKey (stringEntries entries) key =
          if result = -1 then none else some result.toNat) →
      getKeyIndex (stringEntries entries) key 0 = result := by
    intro result hleast hresult
    have hneg : ∀ n : Nat, (n : Int) ≠ -1 ∧ ¬(n : Int) < 0 := fun n => by omega
    rw [valueIndexByKey] at hresult
    rcases getKeyIndex_least (stringEntries entries) key 0 with ⟨hkey, -⟩ | ⟨i, hkey, -⟩
    · rw [hkey] at hresult ⊢
      rcases hleast with ⟨rfl, -⟩ | ⟨j, rfl, -⟩
      · rfl
      · simp [hneg j] at hresult
    · rw [hkey] at hresult ⊢
      rcases hleast with ⟨rfl, -⟩ | ⟨j, rfl, -⟩
      · simp [hneg i] at hresult
      · simpa [hneg i, hneg j] using hresult
  constructor
  · rintro ⟨hindex, ⟨result, hleast, hresult⟩, hsame⟩
    refine ⟨(getKeyIndex_exact _ _ _).mp hindex, (getKeyIndex_exact _ _ _).mp ?_, hequals.mp hsame⟩
    rwa [hvalue result hleast hresult]
  · rintro ⟨hstart, hzero, hsame⟩
    have hleast := (getKeyIndex_exact _ _ _).mpr hzero
    refine ⟨(getKeyIndex_exact _ _ _).mpr hstart, ⟨_, hleast, ?_⟩, hequals.mpr hsame⟩
    simp only [valueIndexByKey, getKeyIndex_neg_iff]

/-- A key without NULs is looked up exactly. -/
theorem lookup_iff_plain : LooksUp [([107], null), ([108], null)] [108] 0 [108] [108] := by
  have hnone : ∀ other : List UInt8, other ∈ [[107], [108]] → ¬Mistaken other [108] 1 := by
    rintro other hother ⟨hne, -, hagrees⟩
    have hnul : (0 : UInt8) ∉ ([108] : List UInt8) := by decide
    rcases hagrees with hsame | ⟨k, -, -, -, hzero⟩
    · revert other
      decide
    · exact hnul (List.mem_of_getElem? hzero)
  have hunmistaken : Unmistaken [([107], null), ([108], null)] [108] 0 := by
    intro j _ other hother hmistaken
    exact absurd hmistaken (hnone other (List.mem_of_getElem? hother))
  refine (lookup_iff _ _ _ _ _ (by decide)).mpr ⟨hunmistaken, hunmistaken, ?_⟩
  exact fun hmistaken => hmistaken.1 rfl

/-- Two keys that differ behind a NUL are one key to the search, which finds the first
of them for the second. -/
theorem lookup_nul : ¬LooksUp [([97, 0, 98], null), ([97, 0, 99], null)] [97, 0, 99] 0
    [97, 0, 98] [97, 0, 99] := by
  intro h
  have hfound : getKeyIndex (stringEntries [([97, 0, 98], null), ([97, 0, 99], null)])
      [97, 0, 99] 0 = 0 := rfl
  have hindex := h.index
  rw [hfound] at hindex
  rcases hindex with ⟨habsurd, -⟩ | ⟨i, hzero, -, hkey, -⟩
  · omega
  · obtain rfl : i = 0 := by omega
    have hother : ([97, 0, 98] : List UInt8) = [97, 0, 99] := Option.some.inj hkey
    revert hother
    decide

end Seabolt
