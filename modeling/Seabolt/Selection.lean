import Mathlib.Data.List.MinMax
import Seabolt.RoutingPool

/-!
# Selecting the least connected server

`BoltRoutingPool_select_least_connected` goes around the servers once, from the
one that the offset says, and keeps the first with the least connections in use.
-/

namespace Seabolt

namespace BoltRoutingPool

variable {pool : BoltRoutingPool} {servers : BoltAddressSet} {count : BoltAddress → Int}

/-! ## One time around -/

/-- A round of the loop: look at a server, and keep it if it has less connections in use than the
one that was kept so far. -/
def visit (pool : BoltRoutingPool) (best : Option BoltAddress × Int) (server : BoltAddress) :
    Option (Option BoltAddress × Int) :=
  (pool.connectionsInUse server).map fun active =>
    if active < best.2 then (some server, active) else best

/-- The server that is visited in the round `k`. -/
theorem rotate_drop (start_index : Nat) {k : Nat} (hk : k < servers.length) :
    ∃ server, servers[(start_index + k) % servers.length]? = some server ∧
      (servers.rotate start_index).drop k = server :: (servers.rotate start_index).drop (k + 1) := by
  have hlength : k < (servers.rotate start_index).length := by rwa [List.length_rotate]
  refine ⟨(servers.rotate start_index)[k], ?_, List.drop_eq_getElem_cons hlength⟩
  rw [Nat.add_comm, ← List.getElem?_rotate hk, List.getElem?_eq_getElem hlength]

/-- From the round `k` on, the loop visits the servers that follow. -/
theorem selectLoop_eq {start_index : Nat} (hstart : start_index < servers.length) (rounds : Nat) :
    ∀ (k : Nat) (best : Option BoltAddress × Int), k + (rounds + 1) = servers.length →
      pool.selectLoop servers start_index (rounds + 1) ((start_index + k) % servers.length) best.1
          best.2 =
        (((servers.rotate start_index).drop k).foldlM pool.visit best).map Prod.fst := by
  induction rounds with
  | zero =>
    intro k best hk
    obtain ⟨server, hserver, hdrop⟩ := rotate_drop start_index (show k < servers.length by omega)
    have hend : ((start_index + k) % servers.length + 1) % servers.length = start_index := by
      rw [Nat.mod_add_mod, show start_index + k + 1 = start_index + servers.length by omega,
        Nat.add_mod_right, Nat.mod_eq_of_lt hstart]
    have hover : (servers.rotate start_index).drop (k + 1) = [] := by
      rw [List.drop_eq_nil_iff, List.length_rotate]
      omega
    rw [selectLoop, hserver, hdrop, hover, List.foldlM_cons, Option.bind_some]
    cases hactive : pool.connectionsInUse server with
    | none => simp [visit, hactive]
    | some active =>
      simp only [visit, hactive, Option.bind_some, hend, if_true, Option.map_some]
      split_ifs <;> rfl
  | succ rounds ih =>
    intro k best hk
    obtain ⟨server, hserver, hdrop⟩ := rotate_drop start_index (show k < servers.length by omega)
    have hindex : ((start_index + k) % servers.length + 1) % servers.length =
        (start_index + (k + 1)) % servers.length := by
      rw [Nat.mod_add_mod, Nat.add_assoc]
    have hgo : (start_index + (k + 1)) % servers.length ≠ start_index := by
      intro heq
      rcases Nat.lt_or_ge (start_index + (k + 1)) servers.length with hsmall | hlarge
      · rw [Nat.mod_eq_of_lt hsmall] at heq
        omega
      · rw [Nat.mod_eq_sub_mod hlarge, Nat.mod_eq_of_lt (by omega)] at heq
        omega
    rw [selectLoop, hserver, hdrop, List.foldlM_cons, Option.bind_some]
    cases hactive : pool.connectionsInUse server with
    | none => simp [visit, hactive]
    | some active =>
      have hrest := ih (k + 1) (if active < best.2 then (some server, active) else best) (by omega)
      simp only [visit, hactive, Option.bind_some, Option.map_some, hindex, hgo, if_false]
      exact hrest

/-- The servers are visited in a circle, from the one at the offset on. -/
theorem selectLeastConnected_eq {offset : Int} (hoffset : 0 ≤ offset) (hservers : servers ≠ []) :
    pool.selectLeastConnected servers offset =
      ((servers.rotate offset.toNat).foldlM pool.visit (none, INT_MAX)).map Prod.fst := by
  obtain ⟨n, rfl⟩ := Int.eq_ofNat_of_zero_le hoffset
  have hpos : 0 < servers.length := List.length_pos_iff.mpr hservers
  obtain ⟨rounds, hrounds⟩ := Nat.exists_eq_add_one.mpr hpos
  have hstart : n % servers.length < servers.length := Nat.mod_lt _ hpos
  have hloop : pool.selectLoop servers (n % servers.length) (rounds + 1)
      ((n % servers.length + 0) % servers.length) none INT_MAX = _ :=
    selectLoop_eq hstart rounds 0 (none, INT_MAX) (by omega)
  simp only [Nat.add_zero, Nat.mod_mod, List.drop_zero, List.rotate_mod] at hloop
  rw [← hrounds] at hloop
  have htmod : Int.tmod (n : Int) servers.length = ((n % servers.length : Nat) : Int) := rfl
  have hnonneg : ¬((n % servers.length : Nat) : Int) < 0 := by omega
  unfold selectLeastConnected
  simp only [hservers, if_false, htmod, hnonneg, Int.toNat_natCast]
  exact hloop

/-! ## The least connected server -/

/-- What is known of the connections in use: there are less than `INT_MAX` of them. -/
def Counts (count : BoltAddress → Int) (servers : BoltAddressSet) (pool : BoltRoutingPool) : Prop :=
  ∀ server ∈ servers, pool.connectionsInUse server = some (count server) ∧ count server < INT_MAX

/-- The visits keep the first server with the least count. -/
theorem foldlM_visit (hcounts : pool.Counts count servers) :
    ∀ {best : Option BoltAddress × Int}, (best.1 = none → best.2 = INT_MAX) →
      (∀ server, best.1 = some server → best.2 = count server) →
      (servers.foldlM pool.visit best).map Prod.fst =
        some (servers.foldl (List.argAux fun a b => count a < count b) best.1) := by
  induction servers with
  | nil => exact fun _ _ => rfl
  | cons server servers ih =>
    intro best hnone hsome
    obtain ⟨⟨hactive, hmax⟩, hcounts⟩ := List.forall_mem_cons.mp hcounts
    rw [List.foldlM_cons, List.foldl_cons]
    simp only [visit, hactive, Option.map_some, Option.bind_eq_bind, Option.bind_some]
    rcases best with ⟨_ | kept, least⟩
    · obtain rfl := hnone rfl
      rw [if_pos hmax]
      exact ih hcounts nofun fun _ heq => by rw [← Option.some.inj heq]
    · obtain rfl := hsome kept rfl
      simp only [List.argAux]
      split_ifs
      · exact ih hcounts nofun fun _ heq => by rw [← Option.some.inj heq]
      · exact ih hcounts nofun fun _ heq => by rw [← Option.some.inj heq]

/-- The server that is selected is the first with the least count. -/
theorem selectLeastConnected_argmin (hcounts : pool.Counts count servers) {offset : Int}
    (hoffset : 0 ≤ offset) (hservers : servers ≠ []) :
    pool.selectLeastConnected servers offset =
      some ((servers.rotate offset.toNat).argmin count) := by
  have hrotated : pool.Counts count (servers.rotate offset.toNat) :=
    fun server hmem => hcounts server (List.mem_rotate.mp hmem)
  rw [selectLeastConnected_eq hoffset hservers]
  exact foldlM_visit hrotated (fun _ => rfl) nofun

/-- The first server in the circle that has the least count. -/
theorem argmin_rotate (offset : Nat) (hservers : servers ≠ []) :
    ∃ j < servers.length, ∃ server, servers[(offset + j) % servers.length]? = some server ∧
      (servers.rotate offset).argmin count = some server ∧
      (∀ other ∈ servers, count server ≤ count other) ∧
      ∀ i < j, ∀ other, servers[(offset + i) % servers.length]? = some other →
        count server < count other := by
  rcases hargmin : (servers.rotate offset).argmin count with _ | server
  · rw [List.argmin_eq_none, List.rotate_eq_nil_iff] at hargmin
    exact absurd hargmin hservers
  obtain ⟨hmem, hleast, hfirst⟩ := List.argmin_eq_some_iff.mp hargmin
  have hlt : (servers.rotate offset).idxOf server < servers.length := by
    rw [← List.length_rotate servers offset]
    exact List.idxOf_lt_length_of_mem hmem
  refine ⟨(servers.rotate offset).idxOf server, hlt, server, ?_, rfl,
    fun other hother => hleast other (List.mem_rotate.mpr hother), ?_⟩
  · rw [Nat.add_comm, ← List.getElem?_rotate hlt, List.getElem?_idxOf hmem]
  · intro i hi other hother
    rw [Nat.add_comm, ← List.getElem?_rotate (hi.trans hlt)] at hother
    by_contra hle
    have hlater : i < (servers.rotate offset).findIdx (· == other) :=
      hi.trans_le (hfirst other (List.mem_of_getElem? hother) (not_lt.mp hle))
    obtain ⟨_, hget⟩ := List.getElem?_eq_some_iff.mp hother
    have hne := List.not_of_lt_findIdx hlater
    simp [hget] at hne

/-- When all counts are equal, the server at the offset is selected. -/
theorem argmin_rotate_equal (offset : Nat) (hservers : servers ≠ [])
    (hequal : ∀ server ∈ servers, ∀ other ∈ servers, count server = count other) :
    (servers.rotate offset).argmin count = servers[offset % servers.length]? := by
  obtain ⟨j, -, server, hserver, hargmin, -, hbefore⟩ := argmin_rotate offset hservers
  rw [hargmin]
  rcases Nat.eq_zero_or_pos j with rfl | hj
  · exact hserver.symm
  · have hlt : (offset + 0) % servers.length < servers.length :=
      Nat.mod_lt _ (List.length_pos_iff.mpr hservers)
    have hfirst := hbefore 0 hj _ (List.getElem?_eq_getElem hlt)
    rw [hequal server (List.mem_of_getElem? hserver) _ (List.getElem_mem hlt)] at hfirst
    exact absurd hfirst (lt_irrefl _)

/-- The least connected server is selected.  The servers are visited once each, in a circle from
the one at the offset on; the first with the least connections in use is selected.  When all have
the same number, consecutive offsets select all servers in turn. -/
theorem selectLeastConnected_correct (pool : BoltRoutingPool) (servers : BoltAddressSet)
    (count : BoltAddress → Int) (hdistinct : servers.Nodup) (hcounts : pool.Counts count servers) :
    (servers = [] → ∀ offset, pool.selectLeastConnected servers offset = some none) ∧
    ∀ offset : Int, 0 ≤ offset → servers ≠ [] →
      (pool.selectLeastConnected servers offset =
          ((servers.rotate offset.toNat).foldlM pool.visit (none, INT_MAX)).map Prod.fst ∧
        (servers.rotate offset.toNat).Perm servers ∧ (servers.rotate offset.toNat).Nodup) ∧
      (∃ j < servers.length, ∃ server,
        servers[(offset.toNat + j) % servers.length]? = some server ∧
        pool.selectLeastConnected servers offset = some (some server) ∧
        (∀ other ∈ servers, count server ≤ count other) ∧
        ∀ i < j, ∀ other, servers[(offset.toNat + i) % servers.length]? = some other →
          count server < count other) ∧
      ((∀ server ∈ servers, ∀ other ∈ servers, count server = count other) →
        ((List.range servers.length).map fun i : Nat =>
          pool.selectLeastConnected servers (offset + i)).Perm
            (servers.map fun server => some (some server))) := by
  constructor
  · rintro rfl offset
    rfl
  intro offset hoffset hservers
  refine ⟨⟨selectLeastConnected_eq hoffset hservers, List.rotate_perm _ _,
    List.nodup_rotate.mpr hdistinct⟩, ?_, fun hequal => ?_⟩
  · obtain ⟨j, hj, server, hserver, hargmin, hleast, hbefore⟩ := argmin_rotate offset.toNat hservers
    refine ⟨j, hj, server, hserver, ?_, hleast, hbefore⟩
    rw [selectLeastConnected_argmin hcounts hoffset hservers, hargmin]
  · have hturns : ((List.range servers.length).map fun i : Nat =>
        pool.selectLeastConnected servers (offset + i)) =
        (servers.rotate offset.toNat).map fun server => some (some server) := by
      apply List.ext_getElem
      · simp
      · intro i hi hi'
        have hlt : i < servers.length := by simpa using hi
        have hturn : (offset + (i : Int)).toNat = i + offset.toNat := by omega
        rw [List.getElem_map, List.getElem_map, List.getElem_range, List.getElem_rotate,
          selectLeastConnected_argmin hcounts (by omega) hservers,
          argmin_rotate_equal _ hservers hequal, hturn,
          List.getElem?_eq_getElem (Nat.mod_lt _ (List.length_pos_iff.mpr hservers))]
    rw [hturns]
    exact (List.rotate_perm servers offset.toNat).map _

/-- Three servers of one host. -/
def three : BoltAddressSet :=
  [⟨ascii "s", ascii "7687"⟩, ⟨ascii "s", ascii "7688"⟩, ⟨ascii "s", ascii "7689"⟩]

/-- The first has two connections in use, and the others have one. -/
def busy : BoltRoutingPool :=
  { create [] 0 0 .null 3 with
    servers := three
    server_pools := [0, 1, 2]
    allocated := (three.zip [2, 1, 1]).map fun (server, in_use_count) =>
      some ⟨server, { BoltDirectPool.create [] 0 0 .null 3 with in_use_count := in_use_count }⟩ }

/-- The circle begins at the first server, and at the last one. -/
theorem selectLeastConnected_correct_busy :
    busy.selectLeastConnected three 3 = some (some ⟨ascii "s", ascii "7688"⟩) ∧
      busy.selectLeastConnected three 5 = some (some ⟨ascii "s", ascii "7689"⟩) := by
  let count (server : BoltAddress) : Int := if server.port = ascii "7687" then 2 else 1
  have hcounts : busy.Counts count three := by
    unfold Counts
    decide +kernel
  have hcorrect := (selectLeastConnected_correct busy three count (by decide) hcounts).2
  constructor
  · obtain ⟨j, hj, server, hserver, hselect, hleast, hbefore⟩ :=
      (hcorrect 3 (by decide) (by decide)).2.1
    change j < 3 at hj
    interval_cases j
    · obtain rfl := Option.some.inj hserver
      exact absurd (hleast ⟨ascii "s", ascii "7688"⟩ (by decide)) (by decide)
    · rwa [← Option.some.inj hserver] at hselect
    · obtain rfl := Option.some.inj hserver
      exact absurd (hbefore 1 (by decide) _ rfl) (by decide)
  · obtain ⟨j, hj, server, hserver, hselect, hleast, hbefore⟩ :=
      (hcorrect 5 (by decide) (by decide)).2.1
    change j < 3 at hj
    interval_cases j
    · rwa [← Option.some.inj hserver] at hselect
    · obtain rfl := Option.some.inj hserver
      exact absurd (hleast ⟨ascii "s", ascii "7688"⟩ (by decide)) (by decide)
    · obtain rfl := Option.some.inj hserver
      exact absurd (hbefore 0 (by decide) _ rfl) (by decide)

end BoltRoutingPool

end Seabolt
