import Seabolt.ValueTrees
import Seabolt.Lib.Runs

/-!
# Values over whole runs

Values from their creation to their destruction, under any sequence of calls.  A call is
made on a value that has been created or on a child value of one, at any depth.

`ValueRuns.treeStep` is a call on trees, `ValueRuns.step` the same call on values in
memory.  Every run on trees is a run on memory with the same results, in which each value
keeps the invariant and each block is returned once, with the size that it was allocated
with or last adjusted to (`stored_run`).
-/

namespace Seabolt

/-! ## Child values -/

/-- A child value: of `BoltList_value` or `BoltStructure_value`, of `BoltDictionary_key` or
of `BoltDictionary_value`. -/
inductive Child where
  | item (index : Nat)
  | key (index : Nat)
  | value (index : Nat)
  deriving DecidableEq, Repr

namespace Child

/-- The place of the child value in the block. -/
def place : Child → Nat
  | item index => index
  | key index => 2 * index
  | value index => 2 * index + 1

/-- The type that the accessor asserts. -/
def Of (type : BoltType) : Child → Prop
  | item _ => type = .list ∨ type = .struct
  | key _ => type = .dictionary
  | value _ => type = .dictionary

instance (type : BoltType) (child : Child) : Decidable (child.Of type) := by
  cases child <;> unfold Of <;> infer_instance

end Child

namespace BoltValue

/-- The child value of a tree. -/
def child : Child → BoltValue → Option BoltValue
  | .item index, list elements => elements[index]?
  | .item index, struct _ fields => fields[index]?
  | .key index, dictionary entries => entries[index]?.map Prod.fst
  | .value index, dictionary entries => entries[index]?.map Prod.snd
  | _, _ => none

/-- Another child value in the place of one. -/
def setChild (step : Child) (value new : BoltValue) : BoltValue :=
  match step, value with
  | .item index, list elements => list (elements.set index new)
  | .item index, struct code fields => struct code (fields.set index new)
  | .key index, dictionary entries =>
    dictionary (entries.modify index fun entry => (new, entry.2))
  | .value index, dictionary entries =>
    dictionary (entries.modify index fun entry => (entry.1, new))
  | _, value => value

/-- The value at the end of a path. -/
def get : List Child → BoltValue → Option BoltValue
  | [], value => some value
  | step :: path, value => (value.child step).bind (get path)

/-- A function on the value at the end of a path. -/
def atPath (f : BoltValue → Option BoltValue) : List Child → BoltValue → Option BoltValue
  | [], value => f value
  | step :: path, value => do
    let new ← (← value.child step).atPath f path
    some (value.setChild step new)

end BoltValue

namespace StoredValue

/-- The child value of a value. -/
def child (step : Child) (value : StoredValue) : Option StoredValue :=
  if step.Of value.header.type then value.children[step.place]? else none

/-- The value at the end of a path. -/
def get : List Child → StoredValue → Option StoredValue
  | [], value => some value
  | step :: path, value => (value.child step).bind (get path)

/-- A function on the value at the end of a path. -/
def atPath (f : StoredValue → Blocks → Option (StoredValue × Blocks)) :
    List Child → StoredValue → Blocks → Option (StoredValue × Blocks)
  | [], value, blocks => f value blocks
  | step :: path, value, blocks => do
    let old ← value.child step
    let (new, blocks) ← old.atPath f path blocks
    some (value.setChildren (value.children.set step.place new), blocks)

/-! ### Pairs -/

theorem pairs_get {α : Type} {n : Nat} : ∀ {list : List α} (i : Nat), list.length = 2 * n →
    (pairs list)[i]?.map Prod.fst = list[2 * i]? ∧
      (pairs list)[i]?.map Prod.snd = list[2 * i + 1]? := by
  induction n with
  | zero =>
    intro list i hlength
    rw [List.eq_nil_of_length_eq_zero hlength]
    simp [pairs]
  | succ n ih =>
    intro list i hlength
    rcases list with _ | ⟨first, _ | ⟨second, list⟩⟩
    · simp at hlength
    · simp at hlength
      omega
    · have hrest : list.length = 2 * n := by
        simp only [List.length_cons] at hlength
        omega
      cases i with
      | zero => simp [pairs]
      | succ i =>
        obtain ⟨hfst, hsnd⟩ := ih i hrest
        rw [Nat.mul_succ, pairs]
        simp only [List.getElem?_cons_succ]
        exact ⟨hfst, hsnd⟩

theorem pairs_set {α : Type} {n : Nat} (x : α) : ∀ {list : List α} (i : Nat), list.length = 2 * n →
    pairs (list.set (2 * i) x) = (pairs list).modify i (fun pair => (x, pair.2)) ∧
      pairs (list.set (2 * i + 1) x) = (pairs list).modify i (fun pair => (pair.1, x)) := by
  induction n with
  | zero =>
    intro list i hlength
    rw [List.eq_nil_of_length_eq_zero hlength]
    simp [pairs]
  | succ n ih =>
    intro list i hlength
    rcases list with _ | ⟨first, _ | ⟨second, list⟩⟩
    · simp at hlength
    · simp at hlength
      omega
    · have hrest : list.length = 2 * n := by
        simp only [List.length_cons] at hlength
        omega
      cases i with
      | zero => simp [pairs]
      | succ i =>
        obtain ⟨hfst, hsnd⟩ := ih i hrest
        rw [Nat.mul_succ]
        simp only [List.set_cons_succ, pairs, List.modify_succ_cons, hfst, hsnd, and_self]

/-! ### Children of a value and of its tree -/

variable {value old new : StoredValue} {step : Child} {blocks : Blocks} {frame : List (Nat × Nat)}

theorem child_eq_none {v : BoltValue} (h : ¬step.Of v.type) : v.child step = none := by
  cases step with
  | item index =>
    cases v with
    | list elements => exact absurd (.inl rfl) h
    | struct code fields => exact absurd (.inr rfl) h
    | _ => rfl
  | key index =>
    cases v with
    | dictionary entries => exact absurd rfl h
    | _ => rfl
  | value index =>
    cases v with
    | dictionary entries => exact absurd rfl h
    | _ => rfl

/-- The child values of the tree are the trees of the child values. -/
theorem Wf.child_tree (h : value.Wf) (step : Child) :
    value.tree.child step = (value.child step).map tree := by
  unfold child
  by_cases hof : step.Of value.header.type
  · rw [if_pos hof]
    cases step with
    | item index =>
      rcases hof with htype | htype
      · rw [tree_list htype]
        exact List.getElem?_map
      · rw [tree_struct htype]
        exact List.getElem?_map
    | key index =>
      have hlength : (value.children.map tree).length = 2 * value.header.size := by
        rw [List.length_map, h.length_dictionary hof]
      rw [tree_dictionary hof]
      exact (pairs_get index hlength).1.trans List.getElem?_map
    | value index =>
      have hlength : (value.children.map tree).length = 2 * value.header.size := by
        rw [List.length_map, h.length_dictionary hof]
      rw [tree_dictionary hof]
      exact (pairs_get index hlength).2.trans List.getElem?_map
  · rw [if_neg hof, child_eq_none (by rwa [type_tree]), Option.map_none]

/-- Another child value gives another tree in its place. -/
theorem Wf.tree_setChild (h : value.Wf) (hchild : value.child step = some old) :
    (value.setChildren (value.children.set step.place new)).tree =
      value.tree.setChild step new.tree := by
  have hof : step.Of value.header.type := by
    by_contra hnot
    rw [child, if_neg hnot] at hchild
    cases hchild
  rw [tree_setChildren List.length_set, List.map_set]
  cases step with
  | item index =>
    rcases hof with htype | htype
    · rw [shape, htype, tree_list htype]
      rfl
    · rw [shape, htype, tree_struct htype]
      rfl
  | key index =>
    have hlength : (value.children.map tree).length = 2 * value.header.size := by
      rw [List.length_map, h.length_dictionary hof]
    rw [shape, show value.header.type = .dictionary from hof, tree_dictionary hof]
    exact congrArg BoltValue.dictionary (pairs_set new.tree index hlength).1
  | value index =>
    have hlength : (value.children.map tree).length = 2 * value.header.size := by
      rw [List.length_map, h.length_dictionary hof]
    rw [shape, show value.header.type = .dictionary from hof, tree_dictionary hof]
    exact congrArg BoltValue.dictionary (pairs_set new.tree index hlength).2

theorem Wf.of_child (h : value.Wf) (hchild : value.child step = some old) : old.Wf := by
  unfold child at hchild
  split_ifs at hchild
  exact h.children old (List.mem_of_getElem? hchild)

/-- The value at the end of a path of the tree. -/
theorem Wf.get_tree (path : List Child) : ∀ {value : StoredValue}, value.Wf →
    value.tree.get path = (value.get path).map tree := by
  induction path with
  | nil => exact fun _ => rfl
  | cons step path ih =>
    intro value h
    rw [BoltValue.get, get, h.child_tree]
    cases hchild : value.child step with
    | none => rfl
    | some old => exact ih (h.of_child hchild)

theorem Wf.get (path : List Child) : ∀ {value target : StoredValue}, value.Wf →
    value.get path = some target → target.Wf := by
  induction path with
  | nil =>
    intro value target h hget
    rw [← Option.some.inj hget]
    exact h
  | cons step path ih =>
    intro value target h hget
    obtain ⟨old, hchild, hrest⟩ := Option.bind_eq_some_iff.mp hget
    exact ih (h.of_child hchild) hrest

/-- The blocks of a child value among those of all child values. -/
theorem ownedBy_set {children : List StoredValue} {place : Nat} (h : children[place]? = some old)
    (new : StoredValue) :
    (ownedBy children).Perm (old.owned ++ ownedBy (children.eraseIdx place)) ∧
      (ownedBy (children.set place new)).Perm
        (new.owned ++ ownedBy (children.eraseIdx place)) := by
  obtain ⟨hlt, hget⟩ := List.getElem?_eq_some_iff.mp h
  have hsplit : children = children.take place ++ old :: children.drop (place + 1) := by
    rw [← hget, List.getElem_cons_drop, List.take_append_drop]
  have hnew : children.set place new = children.take place ++ new :: children.drop (place + 1) :=
    List.set_eq_take_append_cons_drop.trans (if_pos hlt)
  have hmove : ∀ middle : StoredValue,
      (ownedBy (children.take place ++ middle :: children.drop (place + 1))).Perm
        (middle.owned ++ ownedBy (children.take place ++ children.drop (place + 1))) := by
    intro middle
    rw [ownedBy_append, ownedBy_append, ownedBy, ← List.append_assoc, ← List.append_assoc]
    exact List.Perm.append_right _ List.perm_append_comm
  rw [List.eraseIdx_eq_take_drop_succ]
  constructor
  · conv_lhs => rw [hsplit]
    exact hmove old
  · rw [hnew]
    exact hmove new

/-- A sound function is sound on a child value. -/
theorem sound_atPath {f : StoredValue → Blocks → Option (StoredValue × Blocks)}
    {g : BoltValue → Option BoltValue} (hf : Sound f g) (path : List Child) :
    Sound (atPath f path) (BoltValue.atPath g path) := by
  induction path with
  | nil => exact hf
  | cons step path ih =>
    intro value tree blocks frame h hsome haccount
    obtain ⟨t, ht, hrest⟩ := Option.bind_eq_some_iff.mp hsome
    obtain ⟨t', ht', hdone⟩ := Option.bind_eq_some_iff.mp hrest
    rw [h.child_tree] at ht
    obtain ⟨old, hchild, rfl⟩ := Option.map_eq_some_iff.mp ht
    have hplace : value.children[step.place]? = some old := by
      unfold child at hchild
      split_ifs at hchild
      exact hchild
    have hfront : (value.owned ++ frame).Perm (old.owned ++
        (value.block value.header.data_size ++
          (ownedBy (value.children.eraseIdx step.place) ++ frame))) := by
      rw [owned_eq, List.append_assoc]
      refine (((ownedBy_set hplace old).1.append_right frame).append_left _).trans ?_
      rw [List.append_assoc]
      exact List.perm_append_comm_assoc _ _ _
    obtain ⟨new, blocks', hcall, hwf, htree, haccount'⟩ :=
      ih (h.of_child hchild) ht' (haccount.perm hfront)
    refine ⟨value.setChildren (value.children.set step.place new), blocks', ?_, ?_, ?_, ?_⟩
    · simp only [atPath, Option.bind_eq_bind, hchild, hcall, Option.bind_some]
    · refine h.setChildren List.length_set fun child hmem => ?_
      rcases List.mem_or_eq_of_mem_set hmem with hold | rfl
      · exact h.children child hold
      · exact hwf
    · rw [h.tree_setChild hchild, htree, ← Option.some.inj hdone]
    · rw [owned_setChildren List.length_set, List.append_assoc]
      refine haccount'.perm ((List.perm_append_comm_assoc _ _ _).trans ?_)
      rw [← List.append_assoc new.owned]
      exact ((ownedBy_set hplace new).2.symm.append_right frame).append_left _

end StoredValue

/-! ## Calls -/

/-- What the accessors of a value itself show. -/
inductive View where
  | null
  | boolean (data : UInt8)
  | integer (data : Int64)
  | float (data : UInt64)
  | string (data : List UInt8)
  | dictionary
  | list
  | bytes (data : List UInt8)
  | struct (code : Int16)
  deriving DecidableEq

/-- What the accessors show of a tree.  A tree of a value in memory has no negative
sizes. -/
def BoltValue.view : BoltValue → View
  | null => .null
  | boolean data => .boolean data
  | integer data => .integer data
  | float data => .float data
  | string data => .string data
  | dictionary _ => .dictionary
  | list _ => .list
  | bytes data => .bytes data
  | struct code _ => .struct code
  | negative _ _ => .null

/-- What the accessors show of a value in memory. -/
def StoredValue.view (value : StoredValue) : View :=
  match value.header.type with
  | .null => .null
  | .boolean => .boolean value.booleanGet
  | .integer => .integer value.integerGet
  | .float => .float value.floatGet
  | .string => .string value.charsGet
  | .dictionary => .dictionary
  | .list => .list
  | .bytes => .bytes value.charsGet
  | .struct => .struct value.header.subtype

theorem StoredValue.view_tree (value : StoredValue) : value.tree.view = value.view := by
  rw [tree_eq, shape, view]
  cases value.header.type <;> rfl

namespace ValueRuns

open Blocks

/-- The functions that change a value. -/
inductive Format where
  | null
  | boolean (data : UInt8)
  | integer (data : Int64)
  | float (data : UInt64)
  | string (data : List UInt8)
  | dictionary (length : Nat)
  | list (length : Nat)
  | bytes (data : List UInt8)
  | structure (code : Int16) (length : Nat)
  | resize (size : Nat)
  | setKey (index : Nat) (key : List UInt8)
  deriving DecidableEq

/-- The function in memory.  `BoltDictionary_set_key` formats the key as a String. -/
def Format.call : Format → StoredValue → Blocks → Option (StoredValue × Blocks)
  | null => StoredValue.formatAsNull
  | boolean data => StoredValue.formatAsBoolean data
  | integer data => StoredValue.formatAsInteger data
  | float data => StoredValue.formatAsFloat data
  | string data => StoredValue.formatAsString data
  | dictionary length => StoredValue.formatAsDictionary length
  | list length => StoredValue.formatAsList length
  | bytes data => StoredValue.formatAsBytes data
  | .structure code length => StoredValue.formatAsStructure code length
  | resize size => fun value blocks =>
    if value.header.type = .list then value.listResize size blocks else none
  | setKey index key => StoredValue.atPath (StoredValue.formatAsString key) [.key index]

/-- The function on trees. -/
def Format.tree : Format → BoltValue → Option BoltValue
  | null => fun _ => some .null
  | boolean data => fun _ => some (.boolean (BoltValue.toBit data))
  | integer data => fun _ => some (.integer data)
  | float data => fun _ => some (.float data)
  | string data => fun _ => some (.string data)
  | dictionary length => fun value => some (value.formatAsDictionary length)
  | list length => fun value => some (value.formatAsList length)
  | bytes data => fun _ => some (.bytes data)
  | .structure code length => fun _ => some (.formatAsStructure code length)
  | resize size => fun value =>
    if value.type = .list then some (value.formatAsList size) else none
  | setKey index key => BoltValue.atPath (fun _ => some (.string key)) [.key index]

/-- The calls, on values by their numbers and on their child values by paths. -/
inductive Call where
  | create
  | format (root : Nat) (path : List Child) (format : Format)
  | copy (dest : Nat) (destPath : List Child) (src : Nat) (srcPath : List Child)
  | duplicate (root : Nat) (path : List Child)
  | destroy (root : Nat)
  | read (root : Nat) (path : List Child)
  deriving DecidableEq

/-- What a call returns: nothing, or the size and what the other accessors show. -/
abbrev Reply := Option (Int × View)

/-- Neither value has the other one in it. -/
def Apart (root : Nat) (path : List Child) (root' : Nat) (path' : List Child) : Prop :=
  root = root' → ¬path <+: path' ∧ ¬path' <+: path

instance (root : Nat) (path : List Child) (root' : Nat) (path' : List Child) :
    Decidable (Apart root path root' path') := by
  unfold Apart
  infer_instance

/-- A value that `BoltValue_create` has allocated. -/
structure Root where
  pointer : Nat
  value : StoredValue

/-- The values and all blocks. -/
structure Memory where
  blocks : Blocks
  roots : Heap Root

/-- `BoltValue_create`. -/
def create (blocks : Blocks) : Root × Blocks :=
  let (pointer, blocks) := blocks.allocate SIZE_OF_VALUE
  (⟨pointer, .zeroed⟩, blocks)

/-- One call in memory.  Values that have each other in them are not copied. -/
def step : Runs.Step Call Memory Reply
  | .create, memory =>
    let (root, blocks) := create memory.blocks
    some (none, ⟨blocks, memory.roots.alloc root⟩)
  | .format i path format, memory => do
    let root ← memory.roots.read i
    let (value, blocks) ← root.value.atPath format.call path memory.blocks
    some (none, ⟨blocks, memory.roots.write i { root with value := value }⟩)
  | .copy i path j path', memory =>
    if Apart i path j path' then do
      let dest ← memory.roots.read i
      let src ← memory.roots.read j
      let src ← src.value.get path'
      let (value, blocks) ← dest.value.atPath (StoredValue.copy src) path memory.blocks
      some (none, ⟨blocks, memory.roots.write i { dest with value := value }⟩)
    else none
  | .duplicate i path, memory => do
    let root ← memory.roots.read i
    let src ← root.value.get path
    let (duplicate, blocks) := create memory.blocks
    let (value, blocks) ← StoredValue.copy src duplicate.value blocks
    some (none, ⟨blocks, memory.roots.alloc { duplicate with value := value }⟩)
  | .destroy i, memory => do
    let root ← memory.roots.read i
    let (_, blocks) ← root.value.formatAsNull memory.blocks
    let blocks ← blocks.deallocate root.pointer SIZE_OF_VALUE
    some (none, ⟨blocks, memory.roots.free i⟩)
  | .read i path, memory => do
    let root ← memory.roots.read i
    let value ← root.value.get path
    some (some (value.header.size, value.view), memory)

/-- One call on trees. -/
def treeStep : Runs.Step Call (Heap BoltValue) Reply
  | .create, forest => some (none, forest.alloc .null)
  | .format i path format, forest => do
    let root ← forest.read i
    let value ← root.atPath format.tree path
    some (none, forest.write i value)
  | .copy i path j path', forest =>
    if Apart i path j path' then do
      let dest ← forest.read i
      let src ← forest.read j
      let src ← src.get path'
      let value ← dest.atPath (fun _ => some src) path
      some (none, forest.write i value)
    else none
  | .duplicate i path, forest => do
    let root ← forest.read i
    let src ← root.get path
    some (none, forest.alloc src)
  | .destroy i, forest => do
    let _ ← forest.read i
    some (none, forest.free i)
  | .read i path, forest => do
    let root ← forest.read i
    let value ← root.get path
    some (some (value.size, value.view), forest)

theorem sound_format (format : Format) : StoredValue.Sound format.call format.tree := by
  cases format with
  | null => exact StoredValue.sound_formatAsNull
  | boolean data => exact StoredValue.sound_formatAsBoolean data
  | integer data => exact StoredValue.sound_formatAsInteger data
  | float data => exact StoredValue.sound_formatAsFloat data
  | string data => exact StoredValue.sound_formatAsString data
  | dictionary length => exact StoredValue.sound_formatAsDictionary length
  | list length => exact StoredValue.sound_formatAsList length
  | bytes data => exact StoredValue.sound_formatAsBytes data
  | «structure» code length => exact StoredValue.sound_formatAsStructure code length
  | resize size =>
    intro value tree blocks frame h hsome haccount
    by_cases htype : value.header.type = .list
    · have hcall : Format.call (.resize size) value blocks = value.listResize size blocks :=
        if_pos htype
      rw [hcall]
      exact StoredValue.sound_listResize size h hsome haccount
    · have hnone : Format.tree (.resize size) value.tree = none :=
        if_neg (by rwa [StoredValue.type_tree])
      rw [hnone] at hsome
      cases hsome
  | setKey index key =>
    exact StoredValue.sound_atPath (StoredValue.sound_formatAsString key) [.key index]

/-! ## The simulation -/

/-- The blocks of a value that has been created, its own one first. -/
def Root.owned (root : Root) : List (Nat × Nat) := (root.pointer, SIZE_OF_VALUE) :: root.value.owned

/-- The blocks at a place, which is empty after `BoltValue_destroy`. -/
def ownedAt : Option Root → List (Nat × Nat)
  | some root => root.owned
  | none => []

/-- The values in memory keep the invariant and show the trees, and the blocks in use are
exactly theirs, with the sizes that they have in the headers. -/
structure Represents (forest : Heap BoltValue) (memory : Memory) : Prop where
  trees : forest = memory.roots.map (Option.map fun root => root.value.tree)
  wf : ∀ i root, memory.roots.read i = some root → root.value.Wf
  account : Account memory.blocks (memory.roots.flatMap ownedAt)

variable {forest : Heap BoltValue} {memory : Memory} {roots : Heap Root} {root root' : Root}
  {tree : BoltValue} {blocks : Blocks} {i : Nat}

theorem represents_nil : Represents [] ⟨[], []⟩ where
  trees := rfl
  wf _ _ hread := absurd (Heap.lt_of_read hread) (Nat.not_lt_zero _)
  account := .nil

/-- The blocks of one value come first. -/
theorem owned_read (h : roots.read i = some root) :
    (roots.flatMap ownedAt).Perm (root.owned ++ (roots.eraseIdx i).flatMap ownedAt) := by
  have hlt := Heap.lt_of_read h
  have hentry : roots[i] = some root := by
    rw [Heap.read, List.getElem?_eq_getElem hlt] at h
    exact h
  have hperm := (List.getElem_cons_eraseIdx_perm hlt).symm.flatMap_right ownedAt
  rwa [hentry] at hperm

/-- So do those of what takes its place. -/
theorem owned_set (h : roots.read i = some root) (entry : Option Root) :
    ((roots.set i entry).flatMap ownedAt).Perm
      (ownedAt entry ++ (roots.eraseIdx i).flatMap ownedAt) :=
  (List.set_perm_cons_eraseIdx (Heap.lt_of_read h) entry).flatMap_right ownedAt

namespace Represents

/-- A tree is that of a value. -/
theorem read (h : Represents forest memory) (hread : forest.read i = some tree) :
    ∃ root, memory.roots.read i = some root ∧ root.value.Wf ∧ root.value.tree = tree := by
  rw [h.trees, Heap.read_map] at hread
  obtain ⟨root, hroot, htree⟩ := Option.map_eq_some_iff.mp hread
  exact ⟨root, hroot, h.wf i root hroot, htree⟩

theorem account_read (h : Represents forest memory) (hread : memory.roots.read i = some root) :
    Account memory.blocks (root.owned ++ (memory.roots.eraseIdx i).flatMap ownedAt) :=
  h.account.perm (owned_read hread)

/-- A new value. -/
theorem alloc (h : Represents forest memory) (hwf : root.value.Wf)
    (haccount : Account blocks (root.owned ++ memory.roots.flatMap ownedAt)) :
    Represents (forest.alloc root.value.tree) ⟨blocks, memory.roots.alloc root⟩ where
  trees := by rw [h.trees, Heap.map_alloc]
  wf i root' hread := by
    rcases Heap.read_alloc_cases hread with rfl | hold
    · rw [Heap.read_alloc_self] at hread
      rwa [← Option.some.inj hread]
    · exact h.wf i root' hold
  account := by
    rw [Heap.alloc, List.flatMap_append, List.flatMap_singleton]
    exact haccount.perm List.perm_append_comm

/-- Another value in the place of one. -/
theorem write (h : Represents forest memory) (hread : memory.roots.read i = some root)
    (hwf : root'.value.Wf)
    (haccount : Account blocks (root'.owned ++ (memory.roots.eraseIdx i).flatMap ownedAt)) :
    Represents (forest.write i root'.value.tree) ⟨blocks, memory.roots.write i root'⟩ where
  trees := by rw [h.trees, Heap.map_write]
  wf j other hother := by
    by_cases hsame : i = j
    · subst hsame
      rw [Heap.read_write_self (Heap.lt_of_read hread)] at hother
      rwa [← Option.some.inj hother]
    · rw [Heap.read_write_ne hsame] at hother
      exact h.wf j other hother
  account := haccount.perm (owned_set hread (some root')).symm

/-- One value less. -/
theorem free (h : Represents forest memory) (hread : memory.roots.read i = some root)
    (haccount : Account blocks ((memory.roots.eraseIdx i).flatMap ownedAt)) :
    Represents (forest.free i) ⟨blocks, memory.roots.free i⟩ where
  trees := by rw [h.trees, Heap.map_free]
  wf j other hother := by
    by_cases hsame : i = j
    · subst hsame
      rw [Heap.read_free_self] at hother
      cases hother
    · rw [Heap.read_free_ne hsame] at hother
      exact h.wf j other hother
  account := haccount.perm (owned_set hread none).symm

/-- A sound function on a value that has been created. -/
theorem update {f : StoredValue → Blocks → Option (StoredValue × Blocks)}
    {g : BoltValue → Option BoltValue} (hf : StoredValue.Sound f g) (h : Represents forest memory)
    (hread : memory.roots.read i = some root) (htree : g root.value.tree = some tree) :
    ∃ value blocks, f root.value memory.blocks = some (value, blocks) ∧
      Represents (forest.write i tree)
        ⟨blocks, memory.roots.write i { root with value := value }⟩ := by
  have hfront := (h.account_read hread).perm
    (List.perm_append_comm_assoc [(root.pointer, SIZE_OF_VALUE)] root.value.owned _)
  obtain ⟨value, blocks, hcall, hwf, rfl, haccount⟩ := hf (h.wf i root hread) htree hfront
  have hwf' : ({ root with value := value } : Root).value.Wf := hwf
  exact ⟨value, blocks, hcall, h.write hread hwf'
    (haccount.perm (List.perm_append_comm_assoc _ [(root.pointer, SIZE_OF_VALUE)] _))⟩

end Represents

/-- Every call on trees is a call on memory with the same result. -/
theorem simulates : Runs.Simulates treeStep step Represents := by
  intro call forest memory reply forest' h hcall
  cases call with
  | create =>
    obtain ⟨rfl, rfl⟩ := Prod.mk.inj (Option.some.inj hcall)
    have hwf : (create memory.blocks).1.value.Wf := StoredValue.isNull_zeroed.wf
    exact ⟨_, rfl, h.alloc hwf (h.account.allocate SIZE_OF_VALUE)⟩
  | format i path format =>
    obtain ⟨tree, htree, hcall⟩ := Option.bind_eq_some_iff.mp hcall
    obtain ⟨new, hnew, hcall⟩ := Option.bind_eq_some_iff.mp hcall
    obtain ⟨rfl, rfl⟩ := Prod.mk.inj (Option.some.inj hcall)
    obtain ⟨root, hroot, hwf, rfl⟩ := h.read htree
    obtain ⟨value, blocks, hformat, hrepresents⟩ :=
      h.update (StoredValue.sound_atPath (sound_format format) path) hroot hnew
    refine ⟨_, ?_, hrepresents⟩
    simp only [step, Option.bind_eq_bind, hroot, Option.bind_some, hformat]
  | copy i path j path' =>
    by_cases hapart : Apart i path j path'
    · simp only [treeStep, if_pos hapart] at hcall
      obtain ⟨tree, htree, hcall⟩ := Option.bind_eq_some_iff.mp hcall
      obtain ⟨srcTree, hsrcTree, hcall⟩ := Option.bind_eq_some_iff.mp hcall
      obtain ⟨src, hsrc, hcall⟩ := Option.bind_eq_some_iff.mp hcall
      obtain ⟨new, hnew, hcall⟩ := Option.bind_eq_some_iff.mp hcall
      obtain ⟨rfl, rfl⟩ := Prod.mk.inj (Option.some.inj hcall)
      obtain ⟨root, hroot, hwf, rfl⟩ := h.read htree
      obtain ⟨srcRoot, hsrcRoot, hsrcWf, rfl⟩ := h.read hsrcTree
      rw [hsrcWf.get_tree] at hsrc
      obtain ⟨srcValue, hget, rfl⟩ := Option.map_eq_some_iff.mp hsrc
      obtain ⟨value, blocks, hcopy, hrepresents⟩ :=
        h.update (StoredValue.sound_atPath (hsrcWf.get path' hget).copies path) hroot hnew
      refine ⟨_, ?_, hrepresents⟩
      simp only [step, if_pos hapart, Option.bind_eq_bind, hroot, hsrcRoot, Option.bind_some, hget,
        hcopy]
    · simp only [treeStep, if_neg hapart] at hcall
      cases hcall
  | duplicate i path =>
    obtain ⟨tree, htree, hcall⟩ := Option.bind_eq_some_iff.mp hcall
    obtain ⟨src, hsrc, hcall⟩ := Option.bind_eq_some_iff.mp hcall
    obtain ⟨rfl, rfl⟩ := Prod.mk.inj (Option.some.inj hcall)
    obtain ⟨root, hroot, hwf, rfl⟩ := h.read htree
    rw [hwf.get_tree] at hsrc
    obtain ⟨srcValue, hget, rfl⟩ := Option.map_eq_some_iff.mp hsrc
    have haccount := h.account.allocate SIZE_OF_VALUE
    obtain ⟨value, blocks, hcopy, hwf', htree', haccount'⟩ :=
      (hwf.get path hget).copies StoredValue.isNull_zeroed.wf rfl haccount
    have hnew : Root.value ⟨memory.blocks.length, value⟩ |>.Wf := hwf'
    have halloc := h.alloc hnew
      (haccount'.perm (List.perm_append_comm_assoc _ [(memory.blocks.length, SIZE_OF_VALUE)] _))
    rw [htree'] at halloc
    refine ⟨_, ?_, halloc⟩
    simp only [step, Option.bind_eq_bind, hroot, Option.bind_some, hget, create, Blocks.allocate]
    rw [show StoredValue.copy srcValue .zeroed (memory.blocks.alloc SIZE_OF_VALUE) =
      some (value, blocks) from hcopy]
    rfl
  | destroy i =>
    obtain ⟨tree, htree, hcall⟩ := Option.bind_eq_some_iff.mp hcall
    obtain ⟨rfl, rfl⟩ := Prod.mk.inj (Option.some.inj hcall)
    obtain ⟨root, hroot, hwf, rfl⟩ := h.read htree
    have hfront := (h.account_read hroot).perm
      (List.perm_append_comm_assoc [(root.pointer, SIZE_OF_VALUE)] root.value.owned _)
    obtain ⟨value, blocks, hformat, hnull, haccount⟩ := hwf.clears _ _ hfront
    obtain ⟨blocks', hfree, haccount'⟩ := haccount.deallocate
    refine ⟨_, ?_, h.free hroot haccount'⟩
    simp only [step, Option.bind_eq_bind, hroot, Option.bind_some, hformat, hfree]
  | read i path =>
    obtain ⟨tree, htree, hcall⟩ := Option.bind_eq_some_iff.mp hcall
    obtain ⟨target, htarget, hcall⟩ := Option.bind_eq_some_iff.mp hcall
    obtain ⟨rfl, rfl⟩ := Prod.mk.inj (Option.some.inj hcall)
    obtain ⟨root, hroot, hwf, rfl⟩ := h.read htree
    rw [hwf.get_tree] at htarget
    obtain ⟨value, hget, rfl⟩ := Option.map_eq_some_iff.mp htarget
    refine ⟨memory, ?_, h⟩
    simp only [step, Option.bind_eq_bind, hroot, Option.bind_some, hget,
      (hwf.get path hget).size_tree, StoredValue.view_tree]

/-! ## Runs -/

theorem ownedAt_none (h : ∀ entry ∈ roots, entry = none) : roots.flatMap ownedAt = [] := by
  refine List.flatMap_eq_nil_iff.mpr fun entry hmem => ?_
  rw [h entry hmem]
  rfl

/-- Every run on trees is a run on memory with the same results: what the accessors return
is what they show of the trees.  Each value that has not been destroyed keeps the invariant,
as do its child values.  No block was returned twice or with another size than it had, as
the run on memory is defined; those in use are the ones that the values own, and once all
values have been destroyed there are none. -/
theorem stored_run {calls : List Call} {replies : List Reply}
    (hrun : Runs.run treeStep calls [] = some (replies, forest)) :
    ∃ memory, Runs.run step calls ⟨[], []⟩ = some (replies, memory) ∧ Represents forest memory ∧
      ((∀ entry ∈ forest, entry = none) → ∀ pointer, memory.blocks.read pointer = none) := by
  obtain ⟨memory, hrun', h⟩ := simulates.run calls represents_nil hrun
  refine ⟨memory, hrun', h, fun hnone pointer => ?_⟩
  have hroots : ∀ entry ∈ memory.roots, entry = none := by
    intro entry hmem
    have hentry := hnone (entry.map fun root => root.value.tree)
      (h.trees ▸ List.mem_map_of_mem hmem)
    exact Option.map_eq_none_iff.mp hentry
  have haccount := h.account
  rw [ownedAt_none hroots] at haccount
  exact haccount.closed pointer

/-- A Dictionary with a long key and a List in it, a copy over a String, a List that
shrinks and grows again, and the end of both values. -/
def lifetime : List Call :=
  [.create, .format 0 [] (.dictionary 1), .format 0 [] (.setKey 0 (List.replicate 20 65)),
    .format 0 [.value 0] (.list 2), .format 0 [.value 0, .item 1] (.integer 7),
    .create, .format 1 [] (.string (List.replicate 17 66)), .copy 1 [] 0 [],
    .format 1 [.value 0] (.resize 1), .format 1 [.value 0] (.resize 2),
    .read 1 [.key 0], .read 1 [.value 0, .item 1], .read 0 [.value 0, .item 1],
    .destroy 0, .destroy 1]

theorem stored_run_lifetime : ∃ memory, Runs.run step lifetime ⟨[], []⟩ =
    some (List.replicate 10 none ++ [some (20, .string (List.replicate 20 65)), some (0, .null),
      some (1, .integer 7), none, none], memory) ∧
    ∀ pointer, memory.blocks.read pointer = none := by
  have htrees : Runs.run treeStep lifetime [] =
      some (List.replicate 10 none ++ [some (20, .string (List.replicate 20 65)), some (0, .null),
        some (1, .integer 7), none, none], [none, none]) := by
    rfl
  obtain ⟨memory, hrun, -, hclosed⟩ := stored_run htrees
  exact ⟨memory, hrun, hclosed (by simp)⟩

end ValueRuns

end Seabolt
