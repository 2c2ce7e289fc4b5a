import Mathlib.Data.List.TakeWhile
import Seabolt.RoutingPool

/-!
# Discovery responses

`RoutingTable_update`: the response of the discovery procedure is checked and its
addresses are collected in three new sets, which replace those of the table when
the whole response has been read.

The response is a copy in fresh memory, so that zeros stand behind its short
Strings.  The result is `none` where the source reads through NULL, or duplicates
an address of negative size.
-/

namespace Seabolt

open BoltValue

def READ_ROLE : List UInt8 := ascii "READ"
def WRITE_ROLE : List UInt8 := ascii "WRITE"
def ROUTE_ROLE : List UInt8 := ascii "ROUTE"

def TTL_KEY : List UInt8 := ascii "ttl"
def SERVERS_KEY : List UInt8 := ascii "servers"
def ROLE_KEY : List UInt8 := ascii "role"
def ADDRESSES_KEY : List UInt8 := ascii "addresses"

def DEFAULT_BOLT_HOST : List UInt8 := ascii "localhost"
def DEFAULT_BOLT_PORT : List UInt8 := ascii "7687"

/-! ## Strings -/

/-- The C string that the characters begin with. -/
def upToNul (chars : List UInt8) : List UInt8 := chars.takeWhile (· ≠ 0)

theorem upToNul_of_not_mem {chars : List UInt8} (h : 0 ∉ chars) : upToNul chars = chars := by
  unfold upToNul
  rw [List.takeWhile_eq_self_iff]
  intro c hc
  rw [decide_eq_true_eq]
  rintro rfl
  exact h hc

theorem zero_notMem_upToNul (chars : List UInt8) : 0 ∉ upToNul chars := by
  intro h
  have hne := List.mem_takeWhile_imp h
  simp at hne

/-- `strrchr`: the index of the last occurrence. -/
def strrchr (chars : List UInt8) (c : UInt8) : Option Nat :=
  (chars.reverse.idxOf? c).map fun index => chars.length - 1 - index

namespace BoltAddress

/-- `BoltAddress_create`. -/
def create (host port : List UInt8) : BoltAddress where
  host := if host = [] then DEFAULT_BOLT_HOST else host
  port := if port = [] then DEFAULT_BOLT_PORT else port

/-- `BoltAddress_create_from_string`: the last colon is the separator. -/
def createFromString (endpoint : List UInt8) : BoltAddress :=
  let address := upToNul endpoint
  match strrchr address (UInt8.ofNat ':'.toNat) with
  | some index => create (address.take index) (address.drop (index + 1))
  | none => create address []

end BoltAddress

namespace BoltValue

/-- `BoltString_get`, up to the size of the value. -/
def chars : BoltValue → List UInt8
  | string data => data
  | _ => []

/-- The comparison of `BoltDictionary_get_key_index`.  It does not look at the type of the
key: short Bytes values are equal to a key as well.  Scalars are of size 0 or 1, and
where other values of the size of a key would have their first character is the lowest byte of an
aligned pointer. -/
def keyEquals (value : BoltValue) (key : List UInt8) : Bool :=
  match value with
  | string chars => chars.length = key.length && strncmpEq key.length chars key
  | bytes chars => chars.length = key.length && strncmpEq key.length chars key
  | _ => false

/-- `BoltDictionary_value_by_key`: the value of the first entry with the key. -/
def dictionaryValueByKey (entries : List (BoltValue × BoltValue)) (key : List UInt8) : Option BoltValue :=
  (entries.find? fun entry => entry.1.keyEquals key).map Prod.snd

end BoltValue

/-! ## Updating a table -/

/-- The sets that `RoutingTable_update` collects the addresses in. -/
structure AddressSets where
  readers : BoltAddressSet
  writers : BoltAddressSet
  routers : BoltAddressSet

namespace AddressSets

/-- The chain of `strcmp` on the role, whose last branch is an error. -/
def add (role : List UInt8) (address : BoltAddress) (sets : AddressSets) : Option AddressSets :=
  if role = READ_ROLE then
    some { sets with readers := (BoltAddressSet.add sets.readers address).2 }
  else if role = WRITE_ROLE then
    some { sets with writers := (BoltAddressSet.add sets.writers address).2 }
  else if role = ROUTE_ROLE then
    some { sets with routers := (BoltAddressSet.add sets.routers address).2 }
  else none

/-- The loop over the addresses of a server. -/
def addAddresses (role : List UInt8) : AddressSets → List BoltValue → Outcome AddressSets
  | sets, [] => some (BOLT_SUCCESS, sets)
  | sets, string data :: addresses =>
    match sets.add role (BoltAddress.createFromString data) with
    | some sets => addAddresses role sets addresses
    | none => some (BOLT_ROUTING_UNEXPECTED_DISCOVERY_RESPONSE, sets)
  | _, negative .string _ :: _ => none
  | sets, _ :: _ => some (BOLT_ROUTING_UNEXPECTED_DISCOVERY_RESPONSE, sets)

/-- The body of the loop over the servers. -/
def addServer (sets : AddressSets) (server : BoltValue) : Outcome AddressSets :=
  match server with
  | dictionary entries =>
    match dictionaryValueByKey entries ROLE_KEY with
    | some role =>
      if role.type = .string then
        match dictionaryValueByKey entries ADDRESSES_KEY with
        | some (list addresses) => addAddresses (upToNul role.chars) sets addresses
        | _ => some (BOLT_ROUTING_UNEXPECTED_DISCOVERY_RESPONSE, sets)
      else some (BOLT_ROUTING_UNEXPECTED_DISCOVERY_RESPONSE, sets)
    | none => some (BOLT_ROUTING_UNEXPECTED_DISCOVERY_RESPONSE, sets)
  | _ => some (BOLT_ROUTING_UNEXPECTED_DISCOVERY_RESPONSE, sets)

/-- The loop over the servers. -/
def addServers : AddressSets → List BoltValue → Outcome AddressSets
  | sets, [] => some (BOLT_SUCCESS, sets)
  | sets, server :: servers =>
    Outcome.TRY (addServer sets server) fun sets => addServers sets servers

end AddressSets

namespace RoutingTable

/-- `RoutingTable_update`, at the time `now`.  If the response is no Dictionary, or has no
Integer `ttl`, `servers_value` is still NULL where the loop looks at its size; so it is if there is
no entry `servers`. -/
def update (now : Int) (response : BoltValue) (table : RoutingTable) : Outcome RoutingTable :=
  match response with
  | dictionary entries =>
    match dictionaryValueByKey entries TTL_KEY with
    | some (integer ttl) =>
      match dictionaryValueByKey entries SERVERS_KEY with
      | some (list servers) =>
        (AddressSets.addServers ⟨[], [], []⟩ servers).map fun (status, sets) =>
          if status = BOLT_SUCCESS then
            (status, {
              expires := toInt64 (now + toInt64 (ttl.toInt * 1000))
              last_updated := now
              readers := sets.readers
              writers := sets.writers
              routers := sets.routers })
          else (status, table)
      | some _ => some (BOLT_ROUTING_UNEXPECTED_DISCOVERY_RESPONSE, table)
      | none => none
    | _ => none
  | _ => none

end RoutingTable

/-! ## What a response says -/

/-- An entry of `servers`. -/
structure Server where
  role : List UInt8
  addresses : List (List UInt8)

namespace Server

/-- The value is a Dictionary with a String `role` and a List `addresses` of Strings. -/
def Describes (server : Server) (value : BoltValue) : Prop :=
  ∃ entries role, value = dictionary entries ∧
    dictionaryValueByKey entries ROLE_KEY = some role ∧ role.type = .string ∧ role.chars = server.role ∧
    dictionaryValueByKey entries ADDRESSES_KEY = some (list (server.addresses.map string))

/-- The three roles. -/
def roles : List (List UInt8) := [READ_ROLE, WRITE_ROLE, ROUTE_ROLE]

/-- A server with an address has one of the three roles. -/
def Known (server : Server) : Prop := server.addresses ≠ [] → server.role ∈ roles

/-- The server as `strcmp` sees it. -/
def truncated (server : Server) : Server := { server with role := upToNul server.role }

/-- The addresses of the servers with a role, in their order. -/
def addressesOf (role : List UInt8) (servers : List Server) : List BoltAddress :=
  servers.flatMap fun server =>
    if server.role = role then server.addresses.map BoltAddress.createFromString else []

/-- What the servers announce. -/
def announcement (ttl : Int) (servers : List Server) : Announcement where
  readers := addressesOf READ_ROLE servers
  writers := addressesOf WRITE_ROLE servers
  routers := addressesOf ROUTE_ROLE servers
  ttl := ttl

end Server

/-- The response is a Dictionary with an Integer `ttl` and a List `servers` of servers. -/
def Announces (response : BoltValue) (ttl : Int64) (servers : List Server) : Prop :=
  ∃ entries values, response = dictionary entries ∧
    dictionaryValueByKey entries TTL_KEY = some (integer ttl) ∧
    dictionaryValueByKey entries SERVERS_KEY = some (list values) ∧
    List.Forall₂ Server.Describes servers values

theorem Server.Describes.unique {server server' : Server} {value : BoltValue}
    (h : server.Describes value) (h' : server'.Describes value) : server = server' := by
  obtain ⟨entries, role, rfl, hrole, -, hchars, haddresses⟩ := h
  obtain ⟨entries', role', hentries, hrole', -, hchars', haddresses'⟩ := h'
  cases hentries
  cases hrole.symm.trans hrole'
  have hmap := list.inj (Option.some.inj (haddresses.symm.trans haddresses'))
  have hinjective : Function.Injective string := fun _ _ => string.inj
  have heq := (List.map_injective_iff.mpr hinjective) hmap
  obtain ⟨role1, addresses1⟩ := server
  obtain ⟨role2, addresses2⟩ := server'
  dsimp only at hchars hchars' heq
  rw [← hchars, ← hchars', heq]

theorem Announces.unique {response : BoltValue} {ttl ttl' : Int64} {servers servers' : List Server}
    (h : Announces response ttl servers) (h' : Announces response ttl' servers') :
    ttl = ttl' ∧ servers = servers' := by
  obtain ⟨entries, values, rfl, httl, hvalues, hservers⟩ := h
  obtain ⟨entries', values', hentries, httl', hvalues', hservers'⟩ := h'
  cases hentries
  cases httl.symm.trans httl'
  cases hvalues.symm.trans hvalues'
  refine ⟨rfl, ?_⟩
  clear hvalues hvalues'
  induction hservers generalizing servers' with
  | nil => exact (List.forall₂_nil_right_iff.mp hservers').symm
  | cons hserver hrest ih =>
    cases hservers' with
    | cons hserver' hrest' => rw [hserver.unique hserver', ih hrest']

/-! ## Address sets -/

namespace BoltAddressSet

theorem addAll_append (destination source source' : BoltAddressSet) :
    addAll destination (source ++ source') = addAll (addAll destination source) source' :=
  List.foldl_append

/-- The addresses in their order, without those that have come before. -/
theorem addAll_nil (source : BoltAddressSet) : addAll [] source = source.eraseDups := by
  induction source using List.reverseRecOn with
  | nil => rfl
  | append_singleton source address ih =>
    have hlast : addAll (addAll [] source) [address] = (add (addAll [] source) address).2 := rfl
    rw [addAll_append, hlast, ih, List.eraseDups_append]
    by_cases hmem : address ∈ source
    · have hindex : indexOf source.eraseDups address ≠ none :=
        fun hnone => indexOf_eq_none.mp hnone (List.mem_eraseDups.mpr hmem)
      obtain ⟨index, hindex⟩ := Option.ne_none_iff_exists'.mp hindex
      simp [add, hindex, List.removeAll, hmem]
    · have hnew : address ∉ source.eraseDups := fun hold => hmem (List.mem_eraseDups.mp hold)
      simp [add_of_not_mem hnew, List.removeAll, hmem, List.eraseDups_cons]

end BoltAddressSet

/-! ## The loops -/

namespace AddressSets

/-- Addresses for a role, behind those that are there. -/
def addAll (role : List UInt8) (addresses : List BoltAddress) (sets : AddressSets) : AddressSets where
  readers := BoltAddressSet.addAll sets.readers (if READ_ROLE = role then addresses else [])
  writers := BoltAddressSet.addAll sets.writers (if WRITE_ROLE = role then addresses else [])
  routers := BoltAddressSet.addAll sets.routers (if ROUTE_ROLE = role then addresses else [])

/-- What the servers announce, behind the addresses that are there. -/
def addAnnounced (announcement : Announcement) (sets : AddressSets) : AddressSets where
  readers := BoltAddressSet.addAll sets.readers announcement.readers
  writers := BoltAddressSet.addAll sets.writers announcement.writers
  routers := BoltAddressSet.addAll sets.routers announcement.routers

theorem addAll_nil (role : List UInt8) (sets : AddressSets) : sets.addAll role [] = sets := by
  simp only [addAll, ite_self]
  rfl

/-- An address is added unless the role is unknown. -/
theorem add_eq (role : List UInt8) (address : BoltAddress) (sets : AddressSets) :
    sets.add role address =
      if role ∈ Server.roles then some (sets.addAll role [address]) else none := by
  have hread : READ_ROLE ≠ WRITE_ROLE ∧ READ_ROLE ≠ ROUTE_ROLE ∧ WRITE_ROLE ≠ ROUTE_ROLE := by
    decide +kernel
  obtain ⟨hrw, hrt, hwt⟩ := hread
  have hmem : role ∈ Server.roles ↔ role = READ_ROLE ∨ role = WRITE_ROLE ∨ role = ROUTE_ROLE := by
    simp only [Server.roles, List.mem_cons, List.not_mem_nil, or_false]
  unfold add addAll
  by_cases h1 : role = READ_ROLE
  · subst h1
    rw [if_pos rfl, if_pos (hmem.mpr (.inl rfl)), if_pos rfl, if_neg hrw.symm, if_neg hrt.symm]
    rfl
  by_cases h2 : role = WRITE_ROLE
  · subst h2
    rw [if_neg h1, if_pos rfl, if_pos (hmem.mpr (.inr (.inl rfl))), if_neg hrw, if_pos rfl,
      if_neg hwt.symm]
    rfl
  by_cases h3 : role = ROUTE_ROLE
  · subst h3
    rw [if_neg h1, if_neg h2, if_pos rfl, if_pos (hmem.mpr (.inr (.inr rfl))), if_neg hrt,
      if_neg hwt, if_pos rfl]
    rfl
  · rw [if_neg h1, if_neg h2, if_neg h3, if_neg fun h => (hmem.mp h).elim h1 fun h => h.elim h2 h3]

theorem addAll_cons (role : List UInt8) (address : BoltAddress) (addresses : List BoltAddress)
    (sets : AddressSets) :
    sets.addAll role (address :: addresses) = (sets.addAll role [address]).addAll role addresses := by
  unfold addAll
  congr 1 <;> split_ifs <;> rfl

/-- The addresses of a server are Strings and, if there are any, its role is known. -/
theorem addAddresses_success (role : List UInt8) (values : List BoltValue) :
    ∀ sets sets', addAddresses role sets values = some (BOLT_SUCCESS, sets') ↔
      ∃ addresses, values = addresses.map string ∧ (addresses ≠ [] → role ∈ Server.roles) ∧
        sets' = sets.addAll role (addresses.map BoltAddress.createFromString) := by
  have herror : BOLT_ROUTING_UNEXPECTED_DISCOVERY_RESPONSE ≠ BOLT_SUCCESS := by decide
  induction values with
  | nil =>
    intro sets sets'
    constructor
    · intro h
      cases h
      exact ⟨[], rfl, nofun, (addAll_nil role sets).symm⟩
    · rintro ⟨addresses, hvalues, -, rfl⟩
      rw [List.map_eq_nil_iff.mp hvalues.symm, List.map_nil, addAll_nil]
      rfl
  | cons value values ih =>
    intro sets sets'
    have hother : (∀ data, value ≠ string data) → ¬∃ addresses : List (List UInt8),
        value :: values = addresses.map string ∧ (addresses ≠ [] → role ∈ Server.roles) ∧
          sets' = sets.addAll role (addresses.map BoltAddress.createFromString) := by
      rintro hvalue ⟨_ | ⟨data, addresses⟩, hvalues, -⟩
      · cases hvalues
      · exact hvalue data (List.cons.inj hvalues).1
    cases value with
    | string data =>
      rw [addAddresses, add_eq]
      by_cases hrole : role ∈ Server.roles
      · rw [if_pos hrole]
        dsimp only
        rw [ih]
        constructor
        · rintro ⟨addresses, rfl, -, rfl⟩
          exact ⟨data :: addresses, rfl, fun _ => hrole, (addAll_cons _ _ _ _).symm⟩
        · rintro ⟨_ | ⟨data', addresses⟩, hvalues, -, rfl⟩
          · cases hvalues
          · obtain ⟨hdata, rfl⟩ := List.cons.inj hvalues
            cases hdata
            exact ⟨addresses, rfl, fun _ => hrole, addAll_cons _ _ _ _⟩
      · rw [if_neg hrole]
        refine iff_of_false (fun h => herror (congrArg Prod.fst (Option.some.inj h))) ?_
        rintro ⟨_ | ⟨data', addresses⟩, hvalues, hknown, -⟩
        · cases hvalues
        · exact hrole (hknown nofun)
    | negative type n =>
      refine iff_of_false ?_ (hother nofun)
      cases type with
      | string => exact nofun
      | bytes | struct => exact fun h => herror (congrArg Prod.fst (Option.some.inj h))
    | null | boolean | integer | float | dictionary | list | bytes | struct =>
      refine iff_of_false ?_ (hother nofun)
      exact fun h => herror (congrArg Prod.fst (Option.some.inj h))

/-- A server is described by its entry and, as `strcmp` sees it, known. -/
theorem addServer_success (value : BoltValue) (sets sets' : AddressSets) :
    addServer sets value = some (BOLT_SUCCESS, sets') ↔
      ∃ server : Server, server.Describes value ∧ server.truncated.Known ∧
        sets' = sets.addAll server.truncated.role
          (server.addresses.map BoltAddress.createFromString) := by
  have herror : BOLT_ROUTING_UNEXPECTED_DISCOVERY_RESPONSE ≠ BOLT_SUCCESS := by decide
  constructor
  · intro h
    unfold addServer at h
    split at h
    · rename_i entries
      split at h
      · rename_i role hrole
        split_ifs at h with htype
        · split at h
          · rename_i values haddresses
            obtain ⟨addresses, rfl, hknown, rfl⟩ := (addAddresses_success _ values sets sets').mp h
            exact ⟨⟨role.chars, addresses⟩, ⟨entries, role, rfl, hrole, htype, rfl, haddresses⟩,
              hknown, rfl⟩
          · exact absurd (congrArg Prod.fst (Option.some.inj h)) herror
        · exact absurd (congrArg Prod.fst (Option.some.inj h)) herror
      · exact absurd (congrArg Prod.fst (Option.some.inj h)) herror
    · exact absurd (congrArg Prod.fst (Option.some.inj h)) herror
  · rintro ⟨server, ⟨entries, role, rfl, hrole, htype, hchars, haddresses⟩, hknown, rfl⟩
    simp only [addServer, hrole, htype, if_true, haddresses, hchars]
    exact (addAddresses_success _ _ sets _).mpr ⟨server.addresses, rfl, hknown, rfl⟩

theorem addAnnounced_cons (ttl : Int) (server : Server) (servers : List Server)
    (sets : AddressSets) :
    sets.addAnnounced (Server.announcement ttl (server :: servers)) =
      (sets.addAll server.role (server.addresses.map BoltAddress.createFromString)).addAnnounced
        (Server.announcement ttl servers) := by
  have hif : ∀ role : List UInt8, (if server.role = role
      then server.addresses.map BoltAddress.createFromString else []) =
      if role = server.role then server.addresses.map BoltAddress.createFromString else [] :=
    fun role => if_congr eq_comm rfl rfl
  simp only [addAnnounced, addAll, Server.announcement, Server.addressesOf, List.flatMap_cons,
    BoltAddressSet.addAll_append, hif]

/-- All servers are. -/
theorem addServers_success (ttl : Int) (values : List BoltValue) : ∀ sets sets',
    addServers sets values = some (BOLT_SUCCESS, sets') ↔
      ∃ servers : List Server, List.Forall₂ Server.Describes servers values ∧
        (∀ server ∈ servers, server.truncated.Known) ∧
        sets' = sets.addAnnounced (Server.announcement ttl (servers.map Server.truncated)) := by
  induction values with
  | nil =>
    intro sets sets'
    constructor
    · intro h
      cases h
      exact ⟨[], .nil, nofun, rfl⟩
    · rintro ⟨servers, hservers, -, rfl⟩
      cases hservers
      rfl
  | cons value values ih =>
    intro sets sets'
    constructor
    · intro h
      obtain ⟨middle, hfirst, hrest⟩ := Outcome.TRY_eq_success h
      obtain ⟨server, hserver, hknown, rfl⟩ := (addServer_success value sets middle).mp hfirst
      obtain ⟨servers, hservers, hall, rfl⟩ := (ih _ sets').mp hrest
      refine ⟨server :: servers, .cons hserver hservers, ?_, ?_⟩
      · exact List.forall_mem_cons.mpr ⟨hknown, hall⟩
      · rw [List.map_cons, addAnnounced_cons]
        rfl
    · rintro ⟨servers, hservers, hall, rfl⟩
      cases hservers with
      | cons hserver hrest =>
        rename_i server servers
        obtain ⟨hknown, hall⟩ := List.forall_mem_cons.mp hall
        have hfirst := (addServer_success value sets _).mpr ⟨server, hserver, hknown, rfl⟩
        rw [addServers, hfirst, Outcome.TRY_success, ih]
        refine ⟨servers, hrest, hall, ?_⟩
        rw [List.map_cons, addAnnounced_cons]
        rfl

/-- The loop over the addresses comes to a String of negative size. -/
def AddressesOverrun (role : List UInt8) (values : List BoltValue) : Prop :=
  ∃ (before : List (List UInt8)) (n : Nat) (after : List BoltValue),
    values = before.map string ++ negative .string n :: after ∧
      (before ≠ [] → role ∈ Server.roles)

/-- The loop over the servers does. -/
def ServersOverrun (values : List BoltValue) : Prop :=
  ∃ before entries after role addresses, values = before ++ dictionary entries :: after ∧
    (∀ value ∈ before, ∃ server : Server, server.Describes value ∧ server.truncated.Known) ∧
    dictionaryValueByKey entries ROLE_KEY = some role ∧ role.type = .string ∧
    dictionaryValueByKey entries ADDRESSES_KEY = some (list addresses) ∧
    AddressesOverrun (upToNul role.chars) addresses

theorem addAddresses_eq_none_iff (role : List UInt8) (values : List BoltValue) :
    ∀ sets, addAddresses role sets values = none ↔ AddressesOverrun role values := by
  induction values with
  | nil =>
    refine fun sets => iff_of_false nofun ?_
    rintro ⟨_ | ⟨data, before⟩, n, after, hvalues, -⟩ <;> cases hvalues
  | cons value values ih =>
    intro sets
    have hother : (∀ data, value ≠ string data) → (∀ n, value ≠ negative .string n) →
        ¬AddressesOverrun role (value :: values) := by
      rintro hstring hnegative ⟨_ | ⟨data, before⟩, n, after, hvalues, -⟩
      · exact hnegative n (List.cons.inj hvalues).1
      · exact hstring data (List.cons.inj hvalues).1
    cases value with
    | string data =>
      rw [addAddresses, add_eq]
      by_cases hrole : role ∈ Server.roles
      · rw [if_pos hrole]
        dsimp only
        rw [ih]
        constructor
        · rintro ⟨before, n, after, rfl, -⟩
          exact ⟨data :: before, n, after, rfl, fun _ => hrole⟩
        · rintro ⟨_ | ⟨data', before⟩, n, after, hvalues, -⟩
          · cases hvalues
          · exact ⟨before, n, after, (List.cons.inj hvalues).2, fun _ => hrole⟩
      · rw [if_neg hrole]
        refine iff_of_false nofun ?_
        rintro ⟨_ | ⟨data', before⟩, n, after, hvalues, hknown⟩
        · cases hvalues
        · exact hrole (hknown nofun)
    | negative type n =>
      cases type with
      | string => exact iff_of_true rfl ⟨[], n, values, rfl, nofun⟩
      | bytes | struct => exact iff_of_false nofun (hother nofun nofun)
    | null | boolean | integer | float | dictionary | list | bytes | struct =>
      exact iff_of_false nofun (hother nofun nofun)

theorem addServer_eq_none_iff (value : BoltValue) (sets : AddressSets) :
    addServer sets value = none ↔ ∃ entries role addresses, value = dictionary entries ∧
      dictionaryValueByKey entries ROLE_KEY = some role ∧ role.type = .string ∧
      dictionaryValueByKey entries ADDRESSES_KEY = some (list addresses) ∧
      AddressesOverrun (upToNul role.chars) addresses := by
  constructor
  · intro h
    unfold addServer at h
    split at h
    · rename_i entries
      split at h
      · rename_i role hrole
        split_ifs at h with htype
        split at h
        · rename_i values haddresses
          exact ⟨entries, role, values, rfl, hrole, htype, haddresses,
            (addAddresses_eq_none_iff _ values sets).mp h⟩
        · cases h
      · cases h
    · cases h
  · rintro ⟨entries, role, addresses, rfl, hrole, htype, haddresses, hoverrun⟩
    simp only [addServer, hrole, htype, if_true, haddresses]
    exact (addAddresses_eq_none_iff _ _ sets).mpr hoverrun

theorem addServers_eq_none_iff (values : List BoltValue) :
    ∀ sets, addServers sets values = none ↔ ServersOverrun values := by
  induction values with
  | nil =>
    refine fun sets => iff_of_false nofun ?_
    rintro ⟨_ | ⟨first, before⟩, entries, after, role, addresses, hvalues, -⟩ <;> cases hvalues
  | cons value values ih =>
    intro sets
    rw [addServers]
    constructor
    · intro h
      rcases hfirst : addServer sets value with _ | ⟨status, middle⟩
      · obtain ⟨entries, role, addresses, rfl, hrest⟩ := (addServer_eq_none_iff value sets).mp hfirst
        exact ⟨[], entries, values, role, addresses, rfl, nofun, hrest⟩
      by_cases hstatus : status = BOLT_SUCCESS
      · subst hstatus
        rw [hfirst, Outcome.TRY_success, ih] at h
        obtain ⟨before, entries, after, role, addresses, rfl, hbefore, hrest⟩ := h
        obtain ⟨server, hserver, hknown, -⟩ := (addServer_success value sets middle).mp hfirst
        refine ⟨value :: before, entries, after, role, addresses, rfl, ?_, hrest⟩
        exact List.forall_mem_cons.mpr ⟨⟨server, hserver, hknown⟩, hbefore⟩
      · rw [hfirst, Outcome.TRY_error hstatus] at h
        cases h
    · rintro ⟨_ | ⟨first, before⟩, entries, after, role, addresses, hvalues, hbefore, hrest⟩
      · obtain ⟨rfl, rfl⟩ := List.cons.inj hvalues
        rw [(addServer_eq_none_iff _ sets).mpr ⟨entries, role, addresses, rfl, hrest⟩]
        rfl
      · obtain ⟨rfl, rfl⟩ := List.cons.inj hvalues
        obtain ⟨⟨server, hserver, hknown⟩, hbefore⟩ := List.forall_mem_cons.mp hbefore
        rw [(addServer_success value sets _).mpr ⟨server, hserver, hknown, rfl⟩,
          Outcome.TRY_success, ih]
        exact ⟨before, entries, after, role, addresses, rfl, hbefore, hrest⟩

end AddressSets

/-! ## Success -/

namespace RoutingTable

/-- The time to live in milliseconds. -/
def milliseconds (ttl : Int64) : Int := toInt64 (ttl.toInt * 1000)

/-- An update succeeds if the response announces servers whose roles are known to
`strcmp`.  It installs what these servers announce. -/
theorem update_success {now : Int} {response : BoltValue} {table table' : RoutingTable} :
    update now response table = some (BOLT_SUCCESS, table') ↔
      ∃ ttl servers, Announces response ttl servers ∧
        (∀ server ∈ servers, server.truncated.Known) ∧
        table' = table.install
          (Server.announcement (milliseconds ttl) (servers.map Server.truncated)) now := by
  have herror : BOLT_ROUTING_UNEXPECTED_DISCOVERY_RESPONSE ≠ BOLT_SUCCESS := by decide
  constructor
  · intro h
    unfold update at h
    split at h
    · rename_i entries
      split at h
      · rename_i ttl httl
        split at h
        · rename_i values hvalues
          obtain ⟨⟨status, sets⟩, hloop, hresult⟩ := Option.map_eq_some_iff.mp h
          dsimp only at hresult
          split_ifs at hresult with hstatus
          · subst hstatus
            cases hresult
            obtain ⟨servers, hservers, hknown, rfl⟩ :=
              (AddressSets.addServers_success (milliseconds ttl) values _ _).mp hloop
            exact ⟨ttl, servers, ⟨entries, values, rfl, httl, hvalues, hservers⟩, hknown, rfl⟩
          · exact absurd (congrArg Prod.fst hresult) hstatus
        · exact absurd (congrArg Prod.fst (Option.some.inj h)) herror
        · cases h
      · cases h
    · cases h
  · rintro ⟨ttl, servers, ⟨entries, values, rfl, httl, hvalues, hservers⟩, hknown, rfl⟩
    have hloop := (AddressSets.addServers_success (milliseconds ttl) values ⟨[], [], []⟩ _).mpr
      ⟨servers, hservers, hknown, rfl⟩
    simp only [update, httl, hvalues, hloop, Option.map_some, if_true]
    rfl

/-! ## What is installed -/

/-- An update that succeeds installs the servers with the roles that are announced, and
accepts every response in which only these roles occur. -/
structure InstallsAnnounced (now : Int) (response : BoltValue) (table : RoutingTable) : Prop where
  installed : ∀ table', update now response table = some (BOLT_SUCCESS, table') →
    ∃ ttl servers, Announces response ttl servers ∧
      (∀ server ∈ servers, server.Known) ∧
      table'.readers = (Server.addressesOf READ_ROLE servers).eraseDups ∧
      table'.writers = (Server.addressesOf WRITE_ROLE servers).eraseDups ∧
      table'.routers = (Server.addressesOf ROUTE_ROLE servers).eraseDups
  accepted : ∀ ttl servers, Announces response ttl servers →
    (∀ server ∈ servers, server.role ∈ Server.roles) →
    ∃ table', update now response table = some (BOLT_SUCCESS, table')

theorem zero_notMem_roles {role : List UInt8} (h : role ∈ Server.roles) : 0 ∉ role := by
  have hall : Server.roles.all fun role => !role.contains 0 := by decide +kernel
  have hrole := List.all_eq_true.mp hall role h
  simpa using hrole

/-- A role without NUL is seen as it is. -/
theorem truncated_of_not_mem {server : Server} (h : 0 ∉ server.role) : server.truncated = server := by
  obtain ⟨role, addresses⟩ := server
  simp only [Server.truncated, upToNul_of_not_mem h]

theorem addressesOf_truncated {servers : List Server}
    (h : ∀ server ∈ servers, server.addresses ≠ [] → 0 ∉ server.role) (role : List UInt8) :
    Server.addressesOf role (servers.map Server.truncated) = Server.addressesOf role servers := by
  unfold Server.addressesOf
  rw [List.flatMap_map]
  refine List.flatMap_congr fun server hserver => ?_
  by_cases hempty : server.addresses = []
  · simp only [Server.truncated, hempty, List.map_nil, ite_self]
  · rw [truncated_of_not_mem (h server hserver hempty)]

/-- It does so unless a role that `strcmp` knows goes on behind a NUL. -/
theorem installsAnnounced_iff (now : Int) (response : BoltValue) (table : RoutingTable) :
    InstallsAnnounced now response table ↔
      ∀ ttl servers, Announces response ttl servers →
        (∀ server ∈ servers, server.truncated.Known) →
        ∀ server ∈ servers, server.addresses ≠ [] → 0 ∉ server.role := by
  constructor
  · rintro ⟨hinstalled, -⟩ ttl servers hannounces hknown server hserver haddress
    obtain ⟨ttl', servers', hannounces', hroles, -⟩ :=
      hinstalled _ (update_success.mpr ⟨ttl, servers, hannounces, hknown, rfl⟩)
    obtain ⟨-, rfl⟩ := hannounces.unique hannounces'
    exact zero_notMem_roles (hroles server hserver haddress)
  · intro h
    constructor
    · intro table' hupdate
      obtain ⟨ttl, servers, hannounces, hknown, rfl⟩ := update_success.mp hupdate
      have hroles := h ttl servers hannounces hknown
      refine ⟨ttl, servers, hannounces, fun server hserver haddress => ?_, ?_⟩
      · have hrole := hknown server hserver haddress
        rwa [truncated_of_not_mem (hroles server hserver haddress)] at hrole
      · simp only [install, Server.announcement, addressesOf_truncated hroles,
          BoltAddressSet.addAll_nil, and_self]
    · intro ttl servers hannounces hroles
      refine ⟨_, update_success.mpr ⟨ttl, servers, hannounces, fun server hserver _ => ?_, rfl⟩⟩
      have hrole := hroles server hserver
      rwa [truncated_of_not_mem (zero_notMem_roles hrole)]

/-- A response with one server. -/
def responseOf (ttl : Int64) (server : Server) : BoltValue :=
  dictionary [(string TTL_KEY, integer ttl),
    (string SERVERS_KEY, list [dictionary [(string ROLE_KEY, string server.role),
      (string ADDRESSES_KEY, list (server.addresses.map string))]])]

theorem announces_responseOf (ttl : Int64) (server : Server) :
    Announces (responseOf ttl server) ttl [server] := by
  have hkeys : (string TTL_KEY).keyEquals TTL_KEY = true ∧
      (string TTL_KEY).keyEquals SERVERS_KEY = false ∧
      (string SERVERS_KEY).keyEquals SERVERS_KEY = true ∧
      (string ROLE_KEY).keyEquals ROLE_KEY = true ∧
      (string ROLE_KEY).keyEquals ADDRESSES_KEY = false ∧
      (string ADDRESSES_KEY).keyEquals ADDRESSES_KEY = true := by
    decide +kernel
  obtain ⟨httl, hno, hservers, hrole, hno', haddresses⟩ := hkeys
  have hserver : server.Describes (dictionary [(string ROLE_KEY, string server.role),
      (string ADDRESSES_KEY, list (server.addresses.map string))]) := by
    refine ⟨_, string server.role, rfl, ?_, rfl, rfl, ?_⟩
    · simp [dictionaryValueByKey, hrole]
    · simp [dictionaryValueByKey, hno', haddresses]
  refine ⟨_, _, rfl, ?_, ?_, .cons hserver .nil⟩
  · simp [dictionaryValueByKey, httl]
  · simp [dictionaryValueByKey, hno, hservers]

/-- A role that goes on behind a NUL. -/
theorem nulRole_not_installsAnnounced :
    ¬InstallsAnnounced 0 (responseOf 1 ⟨ascii "READ\x00x", [ascii "s:7687"]⟩) create := by
  rintro ⟨hinstalled, -⟩
  have hannounces := announces_responseOf 1 ⟨ascii "READ\x00x", [ascii "s:7687"]⟩
  have hrole : upToNul (ascii "READ\x00x") ∈ Server.roles ∧ ascii "READ\x00x" ∉ Server.roles := by
    decide +kernel
  have hknown : ∀ server ∈ [(⟨ascii "READ\x00x", [ascii "s:7687"]⟩ : Server)],
      server.truncated.Known := by
    intro server hserver
    cases List.mem_singleton.mp hserver
    exact fun _ => hrole.1
  obtain ⟨ttl, servers, hannounces', hroles, -⟩ :=
    hinstalled _ (update_success.mpr ⟨1, _, hannounces, hknown, rfl⟩)
  obtain ⟨-, rfl⟩ := hannounces.unique hannounces'
  exact hrole.2 (hroles _ List.mem_cons_self nofun)

/-! ## Failure -/

/-- An update returns, and leaves the table as it was unless it succeeds. -/
def Atomic (now : Int) (response : BoltValue) (table : RoutingTable) : Prop :=
  ∃ status table', update now response table = some (status, table') ∧
    (status ≠ BOLT_SUCCESS → table' = table)

/-- The response has what the update reads before it looks at the status again. -/
def Readable (response : BoltValue) : Prop :=
  ∃ entries ttl servers, response = dictionary entries ∧
    dictionaryValueByKey entries TTL_KEY = some (integer ttl) ∧
    dictionaryValueByKey entries SERVERS_KEY = some servers ∧
    ∀ values, servers = list values → ¬AddressSets.ServersOverrun values

/-- An update that returns is atomic. -/
theorem update_atomic {now : Int} {response : BoltValue} {table table' : RoutingTable} {status : Int}
    (h : update now response table = some (status, table')) (hstatus : status ≠ BOLT_SUCCESS) :
    table' = table := by
  unfold update at h
  split at h
  · split at h
    · split at h
      · obtain ⟨⟨status1, sets⟩, -, hresult⟩ := Option.map_eq_some_iff.mp h
        dsimp only at hresult
        split_ifs at hresult with hsuccess
        · exact absurd ((congrArg Prod.fst hresult).symm.trans hsuccess) hstatus
        · exact (congrArg Prod.snd hresult).symm
      · cases h
        rfl
      · cases h
    · cases h
  · cases h

/-- It returns if the response is a Dictionary with an Integer `ttl` and an entry `servers`,
and no address of negative size is reached. -/
theorem atomic_iff (now : Int) (response : BoltValue) (table : RoutingTable) :
    Atomic now response table ↔ Readable response := by
  have hreturns : Atomic now response table ↔ update now response table ≠ none := by
    constructor
    · rintro ⟨status, table', hupdate, -⟩ hnone
      cases hupdate.symm.trans hnone
    · intro hreturns
      obtain ⟨⟨status, table'⟩, hupdate⟩ := Option.ne_none_iff_exists'.mp hreturns
      exact ⟨status, table', hupdate, update_atomic hupdate⟩
  rw [hreturns]
  constructor
  · intro h
    unfold update at h
    split at h
    · rename_i entries
      split at h
      · rename_i ttl httl
        split at h
        · rename_i values hvalues
          refine ⟨entries, ttl, list values, rfl, httl, hvalues, fun values' heq hoverrun => h ?_⟩
          cases heq
          rw [(AddressSets.addServers_eq_none_iff values _).mpr hoverrun]
          rfl
        · rename_i servers hother hservers
          exact ⟨entries, ttl, servers, rfl, httl, hservers, fun values heq => absurd heq (hother values)⟩
        · exact absurd rfl h
      · exact absurd rfl h
    · exact absurd rfl h
  · rintro ⟨entries, ttl, servers, rfl, httl, hservers, hvalues⟩ hnone
    simp only [update, httl, hservers] at hnone
    split at hnone
    · rename_i values heq
      cases heq
      exact hvalues values rfl
        ((AddressSets.addServers_eq_none_iff values _).mp (Option.map_eq_none_iff.mp hnone))
    · cases hnone
    · rename_i heq
      cases heq

/-- A response that is no Dictionary. -/
theorem null_not_atomic : ¬Atomic 0 null create := by
  rintro ⟨status, table', hupdate, -⟩
  cases hupdate

/-! ## Time to live -/

/-- The largest `int64_t`. -/
abbrev INT64_MAX : Int := 0x7FFFFFFFFFFFFFFF

/-- The table has no server for the mode. -/
def Lacks (mode : BoltAccessMode) (table : RoutingTable) : Prop :=
  table.routers = [] ∨
    match mode with
    | .read => table.readers = []
    | .write => table.writers = []

/-- The expiry time of an updated table is exact, or the largest time. -/
structure TtlSound (now : Int) (ttl : Int64) (table : RoutingTable) : Prop where
  updated : table.last_updated = now
  expires : table.expires = min (now + 1000 * ttl.toInt) INT64_MAX
  fresh : 0 < ttl.toInt → table.last_updated < table.expires ∧
    ∀ mode, table.isExpired mode table.last_updated = true → table.Lacks mode
  monotone : ∀ mode time later, time ≤ later → table.isExpired mode time = true →
    table.isExpired mode later = true

theorem isExpired_iff {mode : BoltAccessMode} {time : Int} {table : RoutingTable} :
    table.isExpired mode time = true ↔ table.Lacks mode ∨ table.expires ≤ time := by
  unfold isExpired Lacks
  cases mode <;> simp only [Bool.or_eq_true, List.isEmpty_iff, decide_eq_true_eq]

theorem isExpired_later {mode : BoltAccessMode} {time later : Int} {table : RoutingTable}
    (hle : time ≤ later) (h : table.isExpired mode time = true) :
    table.isExpired mode later = true := by
  rcases isExpired_iff.mp h with hlacks | hexpires
  · exact isExpired_iff.mpr (.inl hlacks)
  · exact isExpired_iff.mpr (.inr (le_trans hexpires hle))

/-- The sum as it is stored. -/
theorem install_expires (now : Int) (ttl : Int64) (servers : List Server) (table : RoutingTable) :
    (table.install (Server.announcement (milliseconds ttl) servers) now).expires =
      toInt64 (now + 1000 * ttl.toInt) := by
  show toInt64 (now + milliseconds ttl) = _
  unfold milliseconds toInt64
  rw [Int.add_bmod_bmod, mul_comm]

theorem toInt64_of_le {x : Int} (hlow : 0 ≤ x) (hhigh : x ≤ INT64_MAX) : toInt64 x = x := by
  simp only [INT64_MAX] at hhigh
  exact Int.bmod_eq_of_le (by omega) (by omega)

theorem toInt64_eq_max_iff {x : Int} : toInt64 x = INT64_MAX ↔ x % 2 ^ 64 = INT64_MAX := by
  simp only [toInt64, Int.bmod, INT64_MAX]
  split_ifs <;> omega

/-- A sum that does not fit is stored as the largest time only if it wraps to it. -/
theorem ttlSound_of_expires {now : Int} {ttl : Int64} {table : RoutingTable}
    (hnow : 0 ≤ now ∧ now ≤ INT64_MAX) (hpositive : 0 ≤ ttl.toInt) (hupdated : table.last_updated = now)
    (hexpires : table.expires = toInt64 (now + 1000 * ttl.toInt)) :
    TtlSound now ttl table ↔
      now + 1000 * ttl.toInt ≤ INT64_MAX ∨
        now < INT64_MAX ∧ (now + 1000 * ttl.toInt) % 2 ^ 64 = INT64_MAX := by
  have hsound : table.expires = min (now + 1000 * ttl.toInt) INT64_MAX →
      (0 < ttl.toInt → now < table.expires) → TtlSound now ttl table := by
    intro hsum hlater
    refine ⟨hupdated, hsum, fun httl => ?_, fun _ _ _ => isExpired_later⟩
    rw [hupdated]
    refine ⟨hlater httl, fun mode hexpired => ?_⟩
    exact (isExpired_iff.mp hexpired).resolve_right (not_le.mpr (hlater httl))
  by_cases hfits : now + 1000 * ttl.toInt ≤ INT64_MAX
  · have hexact := hexpires.trans (toInt64_of_le (by omega) hfits)
    refine iff_of_true (hsound (hexact.trans (min_eq_left hfits).symm) ?_) (.inl hfits)
    rw [hexact]
    omega
  · have hmax : min (now + 1000 * ttl.toInt) INT64_MAX = INT64_MAX :=
      min_eq_right (not_le.mp hfits).le
    have hwraps := toInt64_eq_max_iff (x := now + 1000 * ttl.toInt)
    constructor
    · intro h
      have hstored := h.expires.trans hmax
      have hlater := (h.fresh (by omega)).1
      rw [hupdated, hstored] at hlater
      exact .inr ⟨hlater, hwraps.mp (hexpires.symm.trans hstored)⟩
    · rintro (h | ⟨hless, hsum⟩)
      · exact absurd h hfits
      · have hstored := hexpires.trans (hwraps.mpr hsum)
        refine hsound (hstored.trans hmax.symm) fun _ => ?_
        rw [hstored]
        exact hless

/-- The arithmetic of an update is sound if the sum fits into 64 bits.  Beyond that it is where
the sum happens to wrap to the largest time. -/
theorem ttlSound_iff {now : Int} {response : BoltValue} {table table' : RoutingTable} {ttl : Int64}
    {servers : List Server} (hnow : 0 ≤ now ∧ now ≤ INT64_MAX)
    (hannounces : Announces response ttl servers) (hpositive : 0 ≤ ttl.toInt)
    (hupdate : update now response table = some (BOLT_SUCCESS, table')) :
    TtlSound now ttl table' ↔
      now + 1000 * ttl.toInt ≤ INT64_MAX ∨
        now < INT64_MAX ∧ (now + 1000 * ttl.toInt) % 2 ^ 64 = INT64_MAX := by
  obtain ⟨ttl', servers', hannounces', -, rfl⟩ := update_success.mp hupdate
  obtain ⟨rfl, -⟩ := hannounces.unique hannounces'
  exact ttlSound_of_expires hnow hpositive rfl (install_expires now ttl _ table)

/-- A server that a READ response may name. -/
def reader : Server := ⟨READ_ROLE, [ascii "s:7687"]⟩

theorem update_reader (now : Int) (ttl : Int64) (table : RoutingTable) :
    update now (responseOf ttl reader) table = some (BOLT_SUCCESS, table.install
      (Server.announcement (milliseconds ttl) [reader.truncated]) now) := by
  have hrole : upToNul READ_ROLE ∈ Server.roles := by decide +kernel
  refine update_success.mpr ⟨ttl, [reader], announces_responseOf ttl reader, ?_, rfl⟩
  intro server hserver
  cases List.mem_singleton.mp hserver
  exact fun _ => hrole

theorem ttlSound_minute : 0 ≤ (60 : Int64).toInt ∧
    TtlSound 1000 60 (create.install
      (Server.announcement (milliseconds 60) [reader.truncated]) 1000) :=
  ⟨by decide, (ttlSound_iff (by decide) (announces_responseOf 60 reader) (by decide)
    (update_reader 1000 60 create)).mpr (.inl (by decide))⟩

/-- The largest ttl makes a table that has expired before it was installed. -/
theorem largestTtl_wraps : ∃ table', update 1000 (responseOf Int64.maxValue reader) create =
    some (BOLT_SUCCESS, table') ∧ table'.expires = 0 ∧
      ¬TtlSound 1000 Int64.maxValue table' := by
  refine ⟨_, update_reader 1000 Int64.maxValue create, by decide +kernel, fun h => ?_⟩
  have hexpires := h.expires
  revert hexpires
  decide +kernel

end RoutingTable

end Seabolt
