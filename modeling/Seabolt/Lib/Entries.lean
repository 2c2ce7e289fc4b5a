import Mathlib.Tactic

/-!
# Lists of entries as maps

A list of keys and values with distinct keys represents a map.  An entry is
changed where it is, and an entry with a new key is added at the end: either way
the list represents the map with one more change.  Two lists that represent the
same map differ in the order of their entries only.
-/

namespace Entries

variable {K V : Type} {entries : List (K × V)} {map map' : K → Option V} {key : K}

/-- The keys are distinct, and the entries are those of the map. -/
structure Represents (entries : List (K × V)) (map : K → Option V) : Prop where
  distinct : (entries.map Prod.fst).Nodup
  lookup : ∀ key value, (key, value) ∈ entries ↔ map key = some value

theorem represents_nil : Represents ([] : List (K × V)) fun _ => none :=
  ⟨List.nodup_nil, fun _ _ => by simp⟩

/-- Without an entry for the key, the map does not have it. -/
theorem Represents.eq_none (h : Represents entries map) (hkey : ∀ value, (key, value) ∉ entries) :
    map key = none := by
  cases hmap : map key with
  | none => rfl
  | some value => exact absurd ((h.lookup key value).mpr hmap) (hkey value)

/-- The entry with a key is at one index only. -/
theorem Represents.index_unique (h : Represents entries map) {i j : Nat} {v w : V}
    (hi : entries[i]? = some (key, v)) (hj : entries[j]? = some (key, w)) : i = j := by
  have hkeys : (entries.map Prod.fst)[i]? = (entries.map Prod.fst)[j]? := by
    rw [List.getElem?_map, List.getElem?_map, hi, hj, Option.map_some, Option.map_some]
  have hlt : i < (entries.map Prod.fst).length := by
    rw [List.length_map]
    exact (List.getElem?_eq_some_iff.mp hi).1
  exact (List.getElem?_inj hlt h.distinct).mp hkeys

/-- The value of an entry is changed where it is. -/
theorem Represents.modify (h : Represents entries map) {i : Nat} {old : V} (change : V → V)
    (hentry : entries[i]? = some (key, old)) (hkey : map' key = some (change old))
    (hother : ∀ other, other ≠ key → map' other = map other) :
    Represents (entries.modify i fun entry => (entry.1, change entry.2)) map' := by
  have hkeys : (entries.modify i fun entry => (entry.1, change entry.2)).map Prod.fst =
      entries.map Prod.fst := by
    apply List.ext_getElem?
    intro j
    rw [List.getElem?_map, List.getElem?_map, List.getElem?_modify]
    cases entries[j]? with
    | none => rfl
    | some entry => by_cases hij : i = j <;> simp [hij]
  refine ⟨by rw [hkeys]; exact h.distinct, fun other value => ?_⟩
  rw [List.mem_iff_getElem?]
  simp only [List.getElem?_modify, Option.map_eq_map, Option.map_eq_some_iff]
  by_cases hsame : other = key
  · subst hsame
    rw [hkey, Option.some.injEq]
    constructor
    · rintro ⟨j, ⟨k, v⟩, hj, hresult⟩
      by_cases hij : i = j
      · subst hij
        obtain ⟨rfl, rfl⟩ := Prod.mk.inj (Option.some.inj (hentry.symm.trans hj))
        rw [if_pos rfl] at hresult
        exact (Prod.mk.inj hresult).2
      · rw [if_neg hij] at hresult
        obtain ⟨rfl, rfl⟩ := Prod.mk.inj hresult
        exact absurd (h.index_unique hentry hj) hij
    · rintro rfl
      exact ⟨i, (other, old), hentry, by rw [if_pos rfl]⟩
  · rw [hother other hsame, ← h.lookup, List.mem_iff_getElem?]
    refine exists_congr fun j => ?_
    by_cases hij : i = j
    · subst hij
      rw [hentry]
      simp [Ne.symm hsame]
    · simp [hij]

/-- An entry with a new key is added at the end. -/
theorem Represents.add (h : Represents entries map) {value : V} (hnew : map key = none)
    (hkey : map' key = some value) (hother : ∀ other, other ≠ key → map' other = map other) :
    Represents (entries ++ [(key, value)]) map' := by
  constructor
  · rw [List.map_append, List.nodup_append]
    refine ⟨h.distinct, List.nodup_singleton _, ?_⟩
    intro k hk k' hk' hequal
    have hold : k = key := hequal.trans (List.mem_singleton.mp hk')
    obtain ⟨⟨_, v⟩, hv, rfl⟩ := List.mem_map.mp hk
    rw [← hold, (h.lookup _ v).mp hv] at hnew
    cases hnew
  · intro other v
    rw [List.mem_append, List.mem_singleton, h.lookup, Prod.mk.injEq]
    by_cases hsame : other = key
    · subst hsame
      rw [hnew, hkey]
      simp [eq_comm]
    · rw [hother other hsame]
      simp [hsame]

/-- Of a map with one key only there is no other list. -/
theorem Represents.nil_or_single (h : Represents entries map)
    (honly : ∀ other, map other ≠ none → other = key) :
    entries = [] ∨ ∃ value, entries = [(key, value)] := by
  have hkeys : ∀ entry ∈ entries, entry.1 = key := fun entry hentry =>
    honly entry.1 (by rw [(h.lookup entry.1 entry.2).mp hentry]; exact Option.some_ne_none _)
  rcases entries with _ | ⟨first, _ | ⟨second, others⟩⟩
  · exact .inl rfl
  · exact .inr ⟨first.2, by rw [← hkeys first List.mem_cons_self]⟩
  · have hfirst := hkeys first List.mem_cons_self
    have hsecond := hkeys second (List.mem_cons_of_mem _ List.mem_cons_self)
    have hdistinct := h.distinct
    simp [hfirst, hsecond] at hdistinct

/-- The lists that represent a map are permutations of each other. -/
theorem Represents.perm {others : List (K × V)} (h : Represents entries map)
    (h' : Represents others map) : entries.Perm others := by
  refine (List.perm_ext_iff_of_nodup h.distinct.of_map h'.distinct.of_map).mpr fun entry => ?_
  obtain ⟨key, value⟩ := entry
  rw [h.lookup, h'.lookup]

end Entries
