import Seabolt.Discovery

/-!
# Texts of addresses

`BoltAddress_create_from_string` and the texts that it is given.

An address is written as its host, a colon and its port, with brackets around a host
that has colons in it, as those of the sixth version of the internet protocol have.
The brackets are not removed again when such a text is parsed
(`addressText_iff`).
-/

namespace Seabolt

/-- The separator of host and port. -/
def COLON : UInt8 := UInt8.ofNat ':'.toNat

/-! ## Comparing strings -/

/-- `strcmp(a, b) == 0`. -/
def strcmpEq : List UInt8 → List UInt8 → Bool
  | [], b => b.headD 0 = 0
  | x :: a, b =>
    if x ≠ b.headD 0 then false
    else if x = 0 then true
    else strcmpEq a b.tail

/-- `strcmp` compares what is before the first NULs. -/
theorem strcmpEq_iff (a : List UInt8) :
    ∀ b : List UInt8, strcmpEq a b = true ↔ upToNul a = upToNul b := by
  induction a with
  | nil =>
    intro b
    cases b with
    | nil => simp [strcmpEq]
    | cons y b =>
      by_cases hy : y = 0 <;> simp [strcmpEq, upToNul, hy]
  | cons x a ih =>
    intro b
    cases b with
    | nil =>
      by_cases hx : x = 0 <;> simp [strcmpEq, upToNul, hx]
    | cons y b =>
      by_cases hxy : x = y
      · subst hxy
        by_cases hx : x = 0
        · simp [strcmpEq, upToNul, hx]
        · have hrest := ih b
          unfold upToNul at hrest
          simp [strcmpEq, upToNul, hx, hrest]
      · by_cases hx : x = 0 <;> by_cases hy : y = 0 <;>
          simp_all [strcmpEq, upToNul]

theorem strcmpEq_iff_eq {a b : List UInt8} (ha : 0 ∉ a) (hb : 0 ∉ b) :
    strcmpEq a b = true ↔ a = b := by
  rw [strcmpEq_iff, upToNul_of_not_mem ha, upToNul_of_not_mem hb]

namespace BoltAddressSet

/-- The comparison of `BoltAddressSet_index_of`. -/
def matching (address current : BoltAddress) : Bool :=
  strcmpEq address.host current.host && strcmpEq address.port current.port

/-- `BoltAddressSet_index_of`, on what the strings are in memory. -/
def scan (set : BoltAddressSet) (address : BoltAddress) : Option Nat :=
  set.findIdx? (matching address)

end BoltAddressSet

/-! ## Parsing -/

namespace BoltAddress

/-- The address as `BoltAddress_resolve` writes it to the log, with brackets if
`strchr` finds a colon in the host. -/
def text (address : BoltAddress) : List UInt8 :=
  if COLON ∈ address.host then ascii "[" ++ address.host ++ ascii "]:" ++ address.port
  else address.host ++ ascii ":" ++ address.port

/-- The parts of an address are C strings. -/
structure IsCString (address : BoltAddress) : Prop where
  host : 0 ∉ address.host
  port : 0 ∉ address.port

variable {host port front back chars : List UInt8}

theorem create_isCString (hhost : 0 ∉ host) (hport : 0 ∉ port) : (create host port).IsCString := by
  constructor
  · show 0 ∉ if host = [] then DEFAULT_BOLT_HOST else host
    split_ifs
    · decide
    · exact hhost
  · show 0 ∉ if port = [] then DEFAULT_BOLT_PORT else port
    split_ifs
    · decide
    · exact hport

theorem createFromString_some {endpoint : List UInt8} {index : Nat}
    (h : strrchr (upToNul endpoint) COLON = some index) :
    createFromString endpoint =
      create ((upToNul endpoint).take index) ((upToNul endpoint).drop (index + 1)) := by
  rw [COLON] at h
  simp only [createFromString, h]

theorem createFromString_none {endpoint : List UInt8}
    (h : strrchr (upToNul endpoint) COLON = none) :
    createFromString endpoint = create (upToNul endpoint) [] := by
  rw [COLON] at h
  simp only [createFromString, h]

theorem createFromString_isCString (endpoint : List UInt8) :
    (createFromString endpoint).IsCString := by
  have hchars := zero_notMem_upToNul endpoint
  cases hindex : strrchr (upToNul endpoint) COLON with
  | none =>
    rw [createFromString_none hindex]
    exact create_isCString hchars List.not_mem_nil
  | some index =>
    rw [createFromString_some hindex]
    exact create_isCString (fun h => hchars (List.mem_of_mem_take h))
      fun h => hchars (List.mem_of_mem_drop h)

/-- The last colon is the one behind which there is no other. -/
theorem strrchr_append (hback : COLON ∉ back) :
    strrchr (front ++ COLON :: back) COLON = some front.length := by
  have hindex : (front ++ COLON :: back).reverse.idxOf? COLON = some back.length := by
    have hreverse : (front ++ COLON :: back).reverse = back.reverse ++ COLON :: front.reverse := by
      simp
    rw [hreverse, List.idxOf?_eq_some_iff]
    refine ⟨by simp, by simp, fun j hj hequal => hback ?_⟩
    rw [List.getElem_append_left (by simpa using hj)] at hequal
    rw [← hequal, ← List.mem_reverse]
    exact List.getElem_mem _
  rw [strrchr, hindex, Option.map_some, List.length_append, List.length_cons]
  congr 1
  omega

theorem strrchr_none (h : COLON ∉ chars) : strrchr chars COLON = none := by
  rw [strrchr, List.idxOf?_eq_none_iff.mpr (fun hmem => h (List.mem_reverse.mp hmem)),
    Option.map_none]

/-- A text is split at its last colon. -/
theorem createFromString_append (hfront : 0 ∉ front) (hport : 0 ∉ port) (hcolon : COLON ∉ port) :
    createFromString (front ++ COLON :: port) = create front port := by
  have hnul : 0 ∉ front ++ COLON :: port := by
    rw [List.mem_append, List.mem_cons]
    rintro (h | h | h)
    · exact hfront h
    · revert h
      decide
    · exact hport h
  have hplain : upToNul (front ++ COLON :: port) = front ++ COLON :: port := upToNul_of_not_mem hnul
  have hindex : strrchr (upToNul (front ++ COLON :: port)) COLON = some front.length := by
    rw [hplain, strrchr_append hcolon]
  rw [createFromString_some hindex, hplain, List.take_left' rfl, ← List.drop_drop,
    List.drop_left' rfl]
  rfl

/-- Only a text without a colon has the default port. -/
theorem createFromString_plain (hne : chars ≠ []) (hnul : 0 ∉ chars) (hcolon : COLON ∉ chars) :
    createFromString chars = ⟨chars, DEFAULT_BOLT_PORT⟩ := by
  have hplain : upToNul chars = chars := upToNul_of_not_mem hnul
  rw [createFromString_none (by rw [hplain, strrchr_none hcolon]), hplain, create, if_neg hne,
    if_pos rfl]

/-- The text of an address is parsed to the address exactly if the host has no colon. -/
theorem createFromString_text_iff (hhost : host ≠ []) (hport : port ≠ []) (hnul : 0 ∉ host)
    (hnul' : 0 ∉ port) (hcolon : COLON ∉ port) :
    createFromString (text ⟨host, port⟩) = ⟨host, port⟩ ↔ COLON ∉ host := by
  by_cases hbrackets : COLON ∈ host
  · refine iff_of_false (fun h => ?_) fun h => h hbrackets
    have htext : text ⟨host, port⟩ = (ascii "[" ++ host ++ ascii "]") ++ COLON :: port := by
      rw [text, if_pos hbrackets]
      simp [ascii, COLON]
    have hfront : 0 ∉ ascii "[" ++ host ++ ascii "]" := by
      simp [ascii, hnul]
    rw [htext, createFromString_append hfront hnul' hcolon] at h
    have hlength := congrArg (fun address => address.host.length) h
    simp [create, ascii] at hlength
    omega
  · refine iff_of_true ?_ hbrackets
    have htext : text ⟨host, port⟩ = host ++ COLON :: port := by
      rw [text, if_neg hbrackets]
      simp [ascii, COLON]
    rw [htext, createFromString_append hnul hnul' hcolon, create, if_neg hhost, if_neg hport]

end BoltAddress

/-! ## Looking up -/

namespace BoltAddressSet

variable {set : BoltAddressSet} {address : BoltAddress}

theorem matching_iff {current : BoltAddress} (h : address.IsCString) (h' : current.IsCString) :
    matching address current = true ↔
      address.host = current.host ∧ address.port = current.port := by
  rw [matching, Bool.and_eq_true, strcmpEq_iff_eq h.host h'.host, strcmpEq_iff_eq h.port h'.port]

/-- In a set of C strings, the scan is the search for an equal address. -/
theorem scan_eq_indexOf (h : address.IsCString) (hset : ∀ current ∈ set, current.IsCString) :
    scan set address = indexOf set address := by
  induction set with
  | nil => rfl
  | cons current set ih =>
    obtain ⟨hcurrent, hset⟩ := List.forall_mem_cons.mp hset
    have hsame : matching address current = decide (address = current) := by
      rw [Bool.eq_iff_iff, matching_iff h hcurrent, decide_eq_true_eq, BoltAddress.mk.injEq]
    have hrest := ih hset
    unfold scan indexOf at hrest ⊢
    rw [List.findIdx?_cons, List.findIdx?_cons, hsame, hrest]

end BoltAddressSet

open BoltAddress BoltAddressSet

/-- The text of an address is parsed to the address if and only if the host has no
colon.  A text without a colon is parsed to a host with the default port, and parsed
addresses are the same for a set of them exactly if they have the same host and the
same port. -/
theorem addressText_iff {host port : List UInt8} (hhost : host ≠ []) (hport : port ≠ [])
    (hnul : 0 ∉ host) (hnul' : 0 ∉ port) (hcolon : COLON ∉ port) :
    (createFromString (text ⟨host, port⟩) = ⟨host, port⟩ ↔ COLON ∉ host) ∧
    (∀ chars, chars ≠ [] → 0 ∉ chars → COLON ∉ chars →
      createFromString chars = ⟨chars, DEFAULT_BOLT_PORT⟩) ∧
    (∀ first second, matching (createFromString first) (createFromString second) = true ↔
      (createFromString first).host = (createFromString second).host ∧
        (createFromString first).port = (createFromString second).port) ∧
    ∀ (endpoints : List (List UInt8)) endpoint,
      scan (endpoints.map createFromString) (createFromString endpoint) =
        indexOf (endpoints.map createFromString) (createFromString endpoint) := by
  refine ⟨createFromString_text_iff hhost hport hnul hnul' hcolon,
    fun chars hne hfree hplain => createFromString_plain hne hfree hplain,
    fun first second => matching_iff (createFromString_isCString _) (createFromString_isCString _),
    fun endpoints endpoint => scan_eq_indexOf (createFromString_isCString _) ?_⟩
  exact List.forall_mem_map.mpr fun other _ => createFromString_isCString other

/-- A name with a port. -/
theorem addressText_iff_name :
    createFromString (text ⟨ascii "localhost", ascii "7688"⟩) = ⟨ascii "localhost", ascii "7688"⟩ ↔
      COLON ∉ ascii "localhost" :=
  (addressText_iff (by decide) (by decide) (by decide) (by decide) (by decide)).1

/-- The loopback address of the sixth version of the internet protocol keeps its
brackets. -/
theorem createFromString_brackets :
    text ⟨ascii "::1", ascii "7687"⟩ = ascii "[::1]:7687" ∧
    createFromString (text ⟨ascii "::1", ascii "7687"⟩) = ⟨ascii "[::1]", ascii "7687"⟩ ∧
    createFromString (text ⟨ascii "::1", ascii "7687"⟩) ≠ ⟨ascii "::1", ascii "7687"⟩ := by
  decide

end Seabolt
