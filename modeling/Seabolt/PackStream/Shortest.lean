import Seabolt.PackStream.Acceptance
import Seabolt.PackStream.Decode

/-!
# Encodings are unique

The grammar is prefix-free: a stream starts with the encoding of at most one
value, and with one encoding of it, whatever structures a reader accepts
(`Encodes.unique`).

A value has an encoding for every size class that can hold its sizes and every
width that can hold its integers.  `load` writes the shortest of them, and there
is no other one of that length (`load_shortest`).
-/

namespace Seabolt

namespace PackStream

variable {check check' : CheckStructSignature} {v v' : BoltValue} {bytes bytes' rest rest' : List UInt8}

/-! ## One value at the front of a stream -/

/-- An encoding is one for every reader that accepts more structures. -/
theorem Encodes.mono (hmono : ∀ code, check code → check' code) (h : Encodes check v bytes) :
    Encodes check' v bytes := by
  induction h with
  | null => exact .null
  | no => exact .no
  | yes => exact .yes
  | tinyInteger x hlow hhigh => exact .tinyInteger x hlow hhigh
  | integer hmarker x hlow hhigh => exact .integer hmarker x hlow hhigh
  | float x => exact .float x
  | string data hheader => exact .string data hheader
  | bytes data hheader => exact .bytes data hheader
  | list parts hheader _ ih => exact .list parts hheader ih
  | map parts hheader hkeys _ ih => exact .map parts hheader hkeys ih
  | struct code parts hcode hcheck hsize _ ih =>
    exact .struct code parts hcode (hmono code hcheck) hsize ih

/-- A stream starts with the encoding of at most one value.  The two readers may
accept different structures. -/
theorem Encodes.unique (h : Encodes check v bytes) (h' : Encodes check' v' bytes')
    (heq : bytes ++ rest = bytes' ++ rest') : v = v' ∧ bytes = bytes' ∧ rest = rest' := by
  let both : CheckStructSignature := fun code => check code || check' code
  have hboth : Encodes both v bytes := h.mono fun code hcode => by simp [both, hcode]
  have hboth' : Encodes both v' bytes' := h'.mono fun code hcode => by simp [both, hcode]
  have hwf := (BoltBuffer.wf_create 0).load (bytes ++ rest)
  have hcontent : ((BoltBuffer.create 0).load (bytes ++ rest)).content = bytes ++ rest := by
    rw [BoltBuffer.content_load (BoltBuffer.wf_create 0), BoltBuffer.content_create, List.nil_append]
  obtain ⟨d, hunload, hd⟩ :=
    unload_of_encodes hboth ⟨_, []⟩ .null [] rest ⟨hwf, hcontent, rfl⟩
  obtain ⟨d', hunload', hd'⟩ :=
    unload_of_encodes hboth' ⟨_, []⟩ .null [] rest' ⟨hwf, hcontent.trans heq, rfl⟩
  rw [hunload, Option.some.injEq, Prod.mk.injEq, Prod.mk.injEq] at hunload'
  obtain ⟨-, rfl, rfl⟩ := hunload'
  obtain rfl : rest = rest' := hd.content_eq.symm.trans hd'.content_eq
  exact ⟨rfl, List.append_cancel_right heq, rfl⟩

/-! ## The shortest encoding -/

/-- The other bytes are these, or there are more of them. -/
def Outdoes (best bytes : List UInt8) : Prop := bytes = best ∨ best.length < bytes.length

theorem Outdoes.refl (best : List UInt8) : Outdoes best best := .inl rfl

theorem Outdoes.append {best best' : List UInt8} (h : Outdoes best bytes)
    (h' : Outdoes best' bytes') : Outdoes (best ++ best') (bytes ++ bytes') := by
  unfold Outdoes at h h' ⊢
  simp only [List.length_append]
  rcases h with rfl | hlt
  · rcases h' with rfl | hlt'
    · exact .inl rfl
    · exact .inr (by omega)
  · rcases h' with rfl | hlt'
    · exact .inr (by omega)
    · exact .inr (by omega)

theorem Outdoes.flatten {α : Type} {best other : α → List UInt8} {parts : List α}
    (h : ∀ p ∈ parts, Outdoes (best p) (other p)) :
    Outdoes (parts.map best).flatten (parts.map other).flatten := by
  induction parts with
  | nil => exact .refl []
  | cons p parts ih =>
    obtain ⟨hp, hparts⟩ := List.forall_mem_cons.mp h
    exact hp.append (ih hparts)

/-- The header that is loaded for a size is the shortest of the grammar. -/
theorem loads_shortestHeader (markers : SizeMarkers) {n : Nat} (hn : n < 0x80000000) :
    ∃ header, Loads (fun buffer => loadSizeHeader markers buffer n) header ∧
      ∀ header', SizeHeader markers n header' → Outdoes header header' := by
  unfold loadSizeHeader
  have hneg : ¬((n : Int) < 0) := by omega
  simp only [hneg, if_false, Int.toNat_natCast]
  split_ifs with htiny hone htwo
  · obtain ⟨first, hfirst⟩ := Option.isSome_iff_exists.mp htiny.1
    refine ⟨_, .load _, fun header' h => ?_⟩
    cases h with
    | tiny hfirst' _ =>
      rw [hfirst, Option.some.injEq] at hfirst'
      subst hfirst'
      left
      rw [hfirst, Option.getD_some]
    | one | two | four => exact .inr (by simp)
  · refine ⟨_, .load_load [_] [_], fun header' h => ?_⟩
    cases h with
    | tiny hfirst hlt => exact absurd ⟨by simp [hfirst], by exact_mod_cast hlt⟩ htiny
    | one =>
      left
      rw [beBytes_one]
      rfl
    | two | four => exact .inr (by simp)
  · have hsize := ByteOrder.unsigned_natCast (n := 2) (x := n) (by norm_num; omega)
    have hload := Loads.loadU8_loadBe (UInt8.ofNat markers.two) 2 n
    rw [hsize] at hload
    refine ⟨_, hload, fun header' h => ?_⟩
    cases h with
    | tiny hfirst hlt => exact absurd ⟨by simp [hfirst], by exact_mod_cast hlt⟩ htiny
    | one hlt => exact absurd (by exact_mod_cast hlt) hone
    | two => exact .refl _
    | four => exact .inr (by simp)
  · have hsize := ByteOrder.unsigned_natCast (n := 4) (x := n) (by norm_num; omega)
    have hload := Loads.loadU8_loadBe (UInt8.ofNat markers.four) 4 n
    rw [hsize] at hload
    refine ⟨_, hload, fun header' h => ?_⟩
    cases h with
    | tiny hfirst hlt => exact absurd ⟨by simp [hfirst], by exact_mod_cast hlt⟩ htiny
    | one hlt => exact absurd (by exact_mod_cast hlt) hone
    | two hlt => exact absurd (by exact_mod_cast hlt) htwo
    | four => exact .refl _

/-- So is the encoding of an integer. -/
theorem loads_shortestInteger (x : Int64) :
    ∃ best, Loads (fun buffer => loadInteger buffer x.toInt) best ∧
      ∀ bytes, Encodes check (.integer x) bytes → Outdoes best bytes := by
  unfold loadInteger
  split_ifs with htiny hone htwo hfour
  · refine ⟨_, .load _, fun bytes h => ?_⟩
    cases h with
    | tinyInteger => exact .refl _
    | integer hmarker =>
      right
      cases hmarker <;> simp
  · refine ⟨_, .loadU8_loadBe _ 1 _, fun bytes h => ?_⟩
    cases h with
    | tinyInteger _ hlow hhigh => exact absurd ⟨hlow, hhigh⟩ htiny
    | integer hmarker =>
      cases hmarker with
      | one => exact .refl _
      | two | four | eight => exact .inr (by simp)
  · refine ⟨_, .loadU8_loadBe _ 2 _, fun bytes h => ?_⟩
    cases h with
    | tinyInteger _ hlow hhigh => exact absurd ⟨hlow, hhigh⟩ htiny
    | integer hmarker _ hlow hhigh =>
      cases hmarker with
      | one =>
        norm_num at hlow hhigh
        omega
      | two => exact .refl _
      | four | eight => exact .inr (by simp)
  · refine ⟨_, .loadU8_loadBe _ 4 _, fun bytes h => ?_⟩
    cases h with
    | tinyInteger _ hlow hhigh => exact absurd ⟨hlow, hhigh⟩ htiny
    | integer hmarker _ hlow hhigh =>
      cases hmarker with
      | one | two =>
        norm_num at hlow hhigh
        omega
      | four => exact .refl _
      | eight => exact .inr (by simp)
  · refine ⟨_, .loadU8_loadBe _ 8 _, fun bytes h => ?_⟩
    cases h with
    | tinyInteger _ hlow hhigh => exact absurd ⟨hlow, hhigh⟩ htiny
    | integer hmarker _ hlow hhigh =>
      cases hmarker with
      | one | two | four =>
        norm_num at hlow hhigh
        omega
      | eight => exact .refl _

/-- A size header followed by the bytes it announces. -/
theorem loads_shortestChars (markers : SizeMarkers) (data : List UInt8)
    (hsize : data.length < 0x80000000) :
    ∃ best, Loads (fun buffer => Outcome.TRY (loadSizeHeader markers buffer data.length)
        fun buffer => some (BOLT_SUCCESS, buffer.load data)) best ∧
      ∀ header, SizeHeader markers data.length header → Outdoes best (header ++ data) := by
  obtain ⟨header, hheader, hbest⟩ := loads_shortestHeader markers hsize
  exact ⟨_, hheader.TRY (.load data), fun header h => (hbest header h).append (.refl data)⟩

theorem SizeHeader.lt {markers : SizeMarkers} {n : Nat} {header : List UInt8}
    (h : SizeHeader markers n header) : n < 0x80000000 := by
  cases h with
  | tiny _ hn | one hn | two hn | four hn => omega

/-- What is loaded for a list of values, compared with other encodings of them. -/
theorem outdoes_elements {parts : List (BoltValue × List UInt8)}
    (ih : ∀ p ∈ parts, Encodable check p.1 ∧ Outdoes (encoding check p.1) p.2) :
    ∃ best, Loads (loadElements check (parts.map Prod.fst)) best ∧
      Outdoes best (parts.map Prod.snd).flatten := by
  have hencodable : ∀ v ∈ parts.map Prod.fst, Encodable check v :=
    List.forall_mem_map.mpr fun p hp => (ih p hp).1
  refine ⟨_, loads_encodings hencodable, ?_⟩
  rw [List.map_map]
  exact .flatten fun p hp => (ih p hp).2

/-- The same for the entries of a Map. -/
theorem outdoes_entries {parts : List EncodedEntry}
    (hkeys : ∀ p ∈ parts, SizeHeader stringMarkers p.key.length p.keyHeader)
    (ih : ∀ p ∈ parts, Encodable check p.value ∧ Outdoes (encoding check p.value) p.valueBytes) :
    ∃ best, Loads (loadEntries check (parts.map EncodedEntry.entry)) best ∧
      Outdoes best (parts.map EncodedEntry.bytes).flatten := by
  have hstrings : ∀ e ∈ parts.map EncodedEntry.entry,
      ∃ key, e.1 = .string key ∧ key.length < 0x80000000 :=
    List.forall_mem_map.mpr fun p hp => ⟨p.key, rfl, (hkeys p hp).lt⟩
  have hvalues : ∀ e ∈ parts.map EncodedEntry.entry, Encodable check e.2 :=
    List.forall_mem_map.mpr fun p hp => (ih p hp).1
  refine ⟨_, loads_entriesEncoding hstrings hvalues, ?_⟩
  rw [entriesEncoding, List.map_map]
  refine .flatten fun p hp => ?_
  obtain ⟨best, hloads, hbest⟩ := loads_shortestChars stringMarkers p.key (hkeys p hp).lt
  have hkey : encoding check (.string p.key) = best := encoding_of_loads hloads
  refine Outdoes.append ?_ (ih p hp).2
  rw [EncodedEntry.entry, hkey]
  exact hbest _ (hkeys p hp)

/-- Whatever encodes a value, it is what is loaded for the value, or it is longer. -/
theorem Encodes.outdone (h : Encodes check v bytes) :
    Encodable check v ∧ Outdoes (encoding check v) bytes := by
  induction h with
  | null => exact ⟨.null, .refl _⟩
  | no => exact ⟨.boolean 0, .refl _⟩
  | yes => exact ⟨.boolean 1, .refl _⟩
  | tinyInteger x hlow hhigh =>
    obtain ⟨best, hloads, hbest⟩ := @loads_shortestInteger check x
    have hencoding : encoding check (.integer x) = best := encoding_of_loads hloads
    exact ⟨.integer x, hencoding ▸ hbest _ (.tinyInteger x hlow hhigh)⟩
  | integer hmarker x hlow hhigh =>
    obtain ⟨best, hloads, hbest⟩ := @loads_shortestInteger check x
    have hencoding : encoding check (.integer x) = best := encoding_of_loads hloads
    exact ⟨.integer x, hencoding ▸ hbest _ (.integer hmarker x hlow hhigh)⟩
  | float x =>
    have hsize := ByteOrder.unsigned_natCast (n := 8) (x := x.toNat) x.toNat_lt
    have hload := Loads.loadU8_loadBe 0xC1 8 x.toNat
    rw [hsize] at hload
    have hencoding : encoding check (.float x) = 0xC1 :: beBytes 8 x.toNat := encoding_of_loads hload
    exact ⟨.float x, hencoding ▸ .refl _⟩
  | string data hheader =>
    obtain ⟨best, hloads, hbest⟩ := loads_shortestChars stringMarkers data hheader.lt
    have hencoding : encoding check (.string data) = best := encoding_of_loads hloads
    exact ⟨.string data hheader.lt, hencoding ▸ hbest _ hheader⟩
  | bytes data hheader =>
    obtain ⟨best, hloads, hbest⟩ := loads_shortestChars bytesMarkers data hheader.lt
    have hencoding : encoding check (.bytes data) = best := encoding_of_loads hloads
    exact ⟨.bytes data hheader.lt, hencoding ▸ hbest _ hheader⟩
  | list parts hheader _ ih =>
    have hlength : (parts.map Prod.fst).length = parts.length := List.length_map _
    obtain ⟨header, hload, hbest⟩ := loads_shortestHeader listMarkers hheader.lt
    obtain ⟨body, hloads, hbody⟩ := outdoes_elements ih
    have hencoding : encoding check (.list (parts.map Prod.fst)) = header ++ body := by
      rw [← hlength] at hload
      exact encoding_of_loads (hload.TRY hloads)
    refine ⟨.list _ (hlength ▸ hheader.lt) (List.forall_mem_map.mpr fun p hp => (ih p hp).1), ?_⟩
    rw [hencoding]
    exact (hbest _ hheader).append hbody
  | map parts hheader hkeys _ ih =>
    have hlength : (parts.map EncodedEntry.entry).length = parts.length := List.length_map _
    obtain ⟨header, hload, hbest⟩ := loads_shortestHeader mapMarkers hheader.lt
    obtain ⟨body, hloads, hbody⟩ := outdoes_entries hkeys ih
    have hencoding : encoding check (.dictionary (parts.map EncodedEntry.entry)) = header ++ body := by
      rw [← hlength] at hload
      exact encoding_of_loads (hload.TRY hloads)
    refine ⟨.dictionary _ (hlength ▸ hheader.lt) ?_ ?_, ?_⟩
    · exact List.forall_mem_map.mpr fun p hp => ⟨p.key, rfl, (hkeys p hp).lt⟩
    · exact List.forall_mem_map.mpr fun p hp => (ih p hp).1
    · rw [hencoding]
      exact (hbest _ hheader).append hbody
  | struct code parts hcode hcheck hsize _ ih =>
    have hlength : (parts.map Prod.fst).length = parts.length := List.length_map _
    have hencodable : Encodable check (.struct code (parts.map Prod.fst)) :=
      .struct code _ hcode hcheck (hlength ▸ hsize) (List.forall_mem_map.mpr fun p hp => (ih p hp).1)
    refine ⟨hencodable, ?_⟩
    rw [encoding_struct hencodable, hlength, List.map_map]
    exact (Outdoes.refl _).append (.flatten fun p hp => (ih p hp).2)

/-- Loading a value appends an encoding of it, and every other encoding of the
value is longer. -/
theorem load_shortest (v : BoltValue) (hv : Encodable check v) (tx : BoltBuffer) (htx : tx.Wf) :
    ∃ e tx', load check v tx = some (BOLT_SUCCESS, tx') ∧ tx'.content = tx.content ++ e ∧
      Encodes check v.canon e ∧
      ∀ bytes, Encodes check v.canon bytes → bytes = e ∨ e.length < bytes.length := by
  obtain ⟨e, hencodes, hloads⟩ := loads_of_encodable hv
  obtain ⟨tx', hload, -, hcontent⟩ := hloads tx htx
  refine ⟨e, tx', hload, hcontent, hencodes, fun bytes h => ?_⟩
  have hencoding : encoding check v.canon = e := by rw [encoding_canon, encoding_of_loads hloads]
  exact hencoding ▸ h.outdone.2

/-- A List with an integer that needs two bytes, and a Map. -/
theorem load_shortest_nested :
    let v := BoltValue.list [.integer (-200), .dictionary [(.string [0x6B], .boolean 7)]]
    ∃ e tx', load (fun _ => false) v (.create 0) = some (BOLT_SUCCESS, tx') ∧
      tx'.content = (BoltBuffer.create 0).content ++ e ∧ Encodes (fun _ => false) v.canon e ∧
      ∀ bytes, Encodes (fun _ => false) v.canon bytes → bytes = e ∨ e.length < bytes.length := by
  refine load_shortest _ (.list _ (by decide) ?_) _ (BoltBuffer.wf_create 0)
  simp only [List.forall_mem_cons, List.not_mem_nil, false_imp_iff, implies_true, and_true]
  refine ⟨.integer _, .dictionary _ (by decide) ?_ ?_⟩
  · simp
  · simp [Encodable.boolean]

end PackStream

end Seabolt
