import Seabolt.Procedure

/-!
# Falling back to other routers

`BoltRoutingPool_update_routing_table`: the routers that a discovery tries, and
the loop that tries them.

An attempt takes in what it meets outside: what `BoltAddress_resolve` returns,
what `BoltConnection_open` is called with, and the time at which the table is
updated.  No router is tried twice, so these are functions of the router.
-/

namespace Seabolt

/-- What the attempts of a discovery meet. -/
structure Network where
  surroundings : BoltAddress → Surroundings
  now : BoltAddress → Int

namespace BoltRoutingPool

/-! ## The attempts -/

/-- The start of `BoltRoutingPool_update_routing_table_from`: a new connection is opened and
initialised. -/
def openRouter (surroundings : Surroundings) (pool : BoltRoutingPool) : Outcome BoltConnection :=
  Outcome.TRY (some (surroundings.resolved, .create)) fun connection =>
    Outcome.TRY (connection.openAt surroundings.target) fun connection =>
      connection.init pool.user_agent pool.auth_token

/-- `BoltRoutingPool_update_routing_table_from`. -/
def updateRoutingTableFrom (routing_context : Option BoltValue) (network : Network)
    (server : BoltAddress) (pool : BoltRoutingPool) : Outcome BoltRoutingPool :=
  (pool.openRouter (network.surroundings server)).bind fun initialised =>
    (RoutingTable.updateFrom routing_context initialised (network.now server)
      pool.routing_table).map fun (status, table) => (status, { pool with routing_table := table })

/-! ## The routers -/

/-- The initial routers: what the resolver, if there is one, adds to the empty set, or the address
of the connector. -/
def initialRouters (address_resolver : Option (List BoltAddress)) (address : BoltAddress) :
    BoltAddressSet :=
  let resolved := BoltAddressSet.addAll [] (address_resolver.getD [])
  if resolved.isEmpty then (BoltAddressSet.add resolved address).2 else resolved

/-- The set of servers to update the routing table from. -/
def routers (address_resolver : Option (List BoltAddress)) (address : BoltAddress)
    (pool : BoltRoutingPool) : BoltAddressSet :=
  BoltAddressSet.addAll (BoltAddressSet.addAll [] pool.routing_table.routers)
    (initialRouters address_resolver address)

/-- The loop over the routers: the result, the routers that were tried, and the pool. -/
def tryRouters (routing_context : Option BoltValue) (network : Network) :
    List BoltAddress → BoltRoutingPool → Option (Int × List BoltAddress × BoltRoutingPool)
  | [], pool => some (BOLT_ROUTING_UNABLE_TO_RETRIEVE_ROUTING_TABLE, [], pool)
  | router :: routers, pool =>
    (pool.updateRoutingTableFrom routing_context network router).bind fun (status, pool) =>
      if status = BOLT_SUCCESS then some (BOLT_SUCCESS, [router], pool)
      else (tryRouters routing_context network routers pool).map fun (result, tried, pool) =>
        (result, router :: tried, pool)

/-- `BoltRoutingPool_update_routing_table`, and the routers that it has tried. -/
def discoverRoutingTable (routing_context : Option BoltValue)
    (address_resolver : Option (List BoltAddress)) (address : BoltAddress) (network : Network)
    (pool : BoltRoutingPool) : Option (Int × List BoltAddress × BoltRoutingPool) :=
  pool.tryRouters routing_context network (pool.routers address_resolver address)

variable {routing_context : Option BoltValue} {network : Network} {pool pool' : BoltRoutingPool}
  {server : BoltAddress} {status : Int}

/-! ## One attempt -/

/-- The router answers with the table. -/
def Answers (routing_context : Option BoltValue) (network : Network) (server : BoltAddress)
    (pool : BoltRoutingPool) (table : RoutingTable) : Prop :=
  ∃ initialised response, pool.openRouter (network.surroundings server) = some initialised ∧
    RoutingTable.discover routing_context initialised = some (BOLT_SUCCESS, some response) ∧
    RoutingTable.update (network.now server) response .create = some (BOLT_SUCCESS, table)

/-- The attempt to get the table of the router returns an error. -/
def Refuses (routing_context : Option BoltValue) (network : Network) (server : BoltAddress)
    (pool : BoltRoutingPool) : Prop :=
  ∃ status pool', status ≠ BOLT_SUCCESS ∧
    pool.updateRoutingTableFrom routing_context network server = some (status, pool')

/-- An update that fails leaves the table alone. -/
theorem updateFrom_failed {initialised : Int × BoltConnection} {now : Int} {table table' : RoutingTable}
    (hstatus : status ≠ BOLT_SUCCESS)
    (h : RoutingTable.updateFrom routing_context initialised now table = some (status, table')) :
    table' = table := by
  obtain ⟨⟨discovered, response⟩, -, h⟩ := Option.bind_eq_some_iff.mp h
  dsimp only at h
  split_ifs at h
  · obtain ⟨response, -, hupdate⟩ := Option.bind_eq_some_iff.mp h
    exact RoutingTable.update_atomic hupdate hstatus
  · exact (congrArg Prod.snd (Option.some.inj h)).symm

/-- An attempt that fails leaves no trace. -/
theorem updateRoutingTableFrom_failed (hstatus : status ≠ BOLT_SUCCESS)
    (h : pool.updateRoutingTableFrom routing_context network server = some (status, pool')) :
    pool' = pool := by
  obtain ⟨initialised, -, h⟩ := Option.bind_eq_some_iff.mp h
  obtain ⟨⟨updated, table⟩, hupdate, heq⟩ := Option.map_eq_some_iff.mp h
  obtain ⟨rfl, rfl⟩ := Prod.mk.inj heq
  rw [updateFrom_failed hstatus hupdate]

/-- What an update installs does not depend on the table before it. -/
theorem update_create {now : Int} {response : BoltValue} {table table' : RoutingTable} :
    RoutingTable.update now response table = some (BOLT_SUCCESS, table') ↔
      RoutingTable.update now response .create = some (BOLT_SUCCESS, table') := by
  rw [RoutingTable.update_success, RoutingTable.update_success]
  exact Iff.rfl

/-- An attempt that succeeds installs the table of the router. -/
theorem updateRoutingTableFrom_success :
    pool.updateRoutingTableFrom routing_context network server = some (BOLT_SUCCESS, pool') ↔
      ∃ table, Answers routing_context network server pool table ∧
        pool' = { pool with routing_table := table } := by
  constructor
  · intro h
    obtain ⟨initialised, hopen, h⟩ := Option.bind_eq_some_iff.mp h
    obtain ⟨⟨updated, table⟩, hupdate, heq⟩ := Option.map_eq_some_iff.mp h
    obtain ⟨rfl, rfl⟩ := Prod.mk.inj heq
    obtain ⟨⟨discovered, response⟩, hdiscover, hupdate⟩ := Option.bind_eq_some_iff.mp hupdate
    dsimp only at hupdate
    split_ifs at hupdate with hdiscovered
    · subst hdiscovered
      obtain ⟨response, rfl, hupdate⟩ := Option.bind_eq_some_iff.mp hupdate
      exact ⟨table, ⟨initialised, response, hopen, hdiscover, update_create.mp hupdate⟩, rfl⟩
    · exact absurd (congrArg Prod.fst (Option.some.inj hupdate)) hdiscovered
  · rintro ⟨table, ⟨initialised, response, hopen, hdiscover, hupdate⟩, rfl⟩
    have hcurrent : RoutingTable.update (network.now server) response pool.routing_table =
        some (BOLT_SUCCESS, table) := update_create.mpr hupdate
    simp only [updateRoutingTableFrom, hopen, Option.bind_some, RoutingTable.updateFrom, hdiscover,
      if_true, hcurrent, Option.map_some]

/-! ## The order of the routers -/

/-- The routers of the table come first, and then the initial ones. -/
theorem routers_eq (address_resolver : Option (List BoltAddress)) (address : BoltAddress)
    (pool : BoltRoutingPool) :
    pool.routers address_resolver address =
      (pool.routing_table.routers ++ if address_resolver.getD [] = [] then [address]
        else address_resolver.getD []).eraseDups := by
  have hinitial : initialRouters address_resolver address = BoltAddressSet.addAll []
      (if address_resolver.getD [] = [] then [address] else address_resolver.getD []) := by
    unfold initialRouters
    rw [BoltAddressSet.addAll_nil]
    cases address_resolver.getD [] with
    | nil => rfl
    | cons resolved others => simp [List.eraseDups_cons, BoltAddressSet.addAll_nil]
  unfold routers
  rw [hinitial, BoltAddressSet.addAll_addAll, ← BoltAddressSet.addAll_nil,
    BoltAddressSet.addAll_append]
  rfl

/-! ## The loop -/

/-- How a discovery ends that tries the routers one after the other: with the first that answers,
behind those that refuse, or with none. -/
inductive FallsBack (routing_context : Option BoltValue) (network : Network)
    (routers : List BoltAddress) (pool : BoltRoutingPool) :
    Int × List BoltAddress × BoltRoutingPool → Prop where
  | answered (refusing : List BoltAddress) (router : BoltAddress) (others : List BoltAddress)
      (table : RoutingTable) (hrouters : routers = refusing ++ router :: others)
      (hrefusing : ∀ r ∈ refusing, Refuses routing_context network r pool)
      (hanswers : Answers routing_context network router pool table) :
      FallsBack routing_context network routers pool
        (BOLT_SUCCESS, refusing ++ [router], { pool with routing_table := table })
  | refused (hrefusing : ∀ r ∈ routers, Refuses routing_context network r pool) :
      FallsBack routing_context network routers pool
        (BOLT_ROUTING_UNABLE_TO_RETRIEVE_ROUTING_TABLE, routers, pool)

/-- The first router answers. -/
theorem tryRouters_answered {table : RoutingTable} (others : List BoltAddress)
    (h : Answers routing_context network server pool table) :
    pool.tryRouters routing_context network (server :: others) =
      some (BOLT_SUCCESS, [server], { pool with routing_table := table }) := by
  simp only [tryRouters, updateRoutingTableFrom_success.mpr ⟨table, h, rfl⟩, Option.bind_some, if_true]

/-- The first router refuses, and the others are tried. -/
theorem tryRouters_refused (others : List BoltAddress)
    (h : Refuses routing_context network server pool) :
    pool.tryRouters routing_context network (server :: others) =
      (pool.tryRouters routing_context network others).map fun (result, tried, pool) =>
        (result, server :: tried, pool) := by
  obtain ⟨status, pool', hstatus, hfrom⟩ := h
  obtain rfl := updateRoutingTableFrom_failed hstatus hfrom
  simp only [tryRouters, hfrom, Option.bind_some, hstatus, if_false]

/-- The loop stops at the first router that answers.  It has a result unless an attempt before has
none. -/
theorem tryRouters_iff (routers : List BoltAddress) : ∀ result,
    pool.tryRouters routing_context network routers = some result ↔
      FallsBack routing_context network routers pool result := by
  induction routers with
  | nil =>
    intro result
    constructor
    · intro h
      obtain rfl := Option.some.inj h
      exact .refused (by simp)
    · rintro (⟨refusing, router, others, table, hrouters, -, -⟩ | -)
      · simp at hrouters
      · rfl
  | cons router routers ih =>
    intro result
    constructor
    · intro h
      rcases hfrom : pool.updateRoutingTableFrom routing_context network router with
        _ | ⟨status, pool'⟩
      · simp only [tryRouters, hfrom, Option.bind_none] at h
        cases h
      by_cases hstatus : status = BOLT_SUCCESS
      · subst hstatus
        obtain ⟨table, hanswers, -⟩ := updateRoutingTableFrom_success.mp hfrom
        rw [tryRouters_answered routers hanswers] at h
        obtain rfl := Option.some.inj h
        exact .answered [] router routers table rfl (by simp) hanswers
      · have hrefuses : Refuses routing_context network router pool := ⟨status, pool', hstatus, hfrom⟩
        rw [tryRouters_refused routers hrefuses] at h
        obtain ⟨rest, hrest, rfl⟩ := Option.map_eq_some_iff.mp h
        rcases (ih rest).mp hrest with
          ⟨refusing, answering, others, table, hrouters, hrefusing, hanswers⟩ | hrefusing
        · exact .answered (router :: refusing) answering others table (by rw [hrouters]; rfl)
            (List.forall_mem_cons.mpr ⟨hrefuses, hrefusing⟩) hanswers
        · exact .refused (List.forall_mem_cons.mpr ⟨hrefuses, hrefusing⟩)
    · rintro (⟨refusing, answering, others, table, hrouters, hrefusing, hanswers⟩ | hrefusing)
      · cases refusing with
        | nil =>
          obtain ⟨rfl, rfl⟩ := List.cons.inj hrouters
          exact tryRouters_answered _ hanswers
        | cons first refusing =>
          obtain ⟨rfl, rfl⟩ := List.cons.inj hrouters
          obtain ⟨hfirst, hrefusing⟩ := List.forall_mem_cons.mp hrefusing
          rw [tryRouters_refused _ hfirst,
            (ih _).mpr (.answered refusing answering others table rfl hrefusing hanswers)]
          rfl
      · obtain ⟨hfirst, hrefusing⟩ := List.forall_mem_cons.mp hrefusing
        rw [tryRouters_refused _ hfirst, (ih _).mpr (.refused hrefusing)]
        rfl

/-- The discovery does to the pool what the update of its table does, given what was announced. -/
theorem FallsBack.refines {routers tried : List BoltAddress} {result : Int}
    (h : FallsBack routing_context network routers pool (result, tried, pool')) :
    ∃ now announcement, pool.updateRoutingTable now announcement = (result, pool') := by
  rcases h with ⟨refusing, router, others, table, -, -, initialised, response, -, -, hupdate⟩ | -
  · obtain ⟨ttl, servers, -, -, rfl⟩ := RoutingTable.update_success.mp hupdate
    exact ⟨network.now router, some _, rfl⟩
  · exact ⟨0, none, rfl⟩

/-- Discovery falls back in order.  It tries the routers of the table and then the initial ones,
each address once, until one answers, and installs the table of that router; when all refuse, the
table is left alone. -/
theorem discovery_fallsBack (routing_context : Option BoltValue)
    (address_resolver : Option (List BoltAddress)) (address : BoltAddress) (network : Network)
    (pool : BoltRoutingPool) :
    (pool.routers address_resolver address =
      (pool.routing_table.routers ++ if address_resolver.getD [] = [] then [address]
        else address_resolver.getD []).eraseDups ∧
      (pool.routers address_resolver address).Nodup) ∧
    ∀ result, pool.discoverRoutingTable routing_context address_resolver address network =
        some result ↔
      FallsBack routing_context network (pool.routers address_resolver address) pool result := by
  refine ⟨⟨routers_eq address_resolver address pool, ?_⟩, tryRouters_iff _⟩
  exact BoltAddressSet.nodup_addAll _ (BoltAddressSet.nodup_addAll _ List.nodup_nil)

end BoltRoutingPool

end Seabolt
