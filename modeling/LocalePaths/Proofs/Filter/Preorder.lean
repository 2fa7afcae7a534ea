import LocalePaths.Proofs.Filter.History
import Mathlib.Order.Basic

/-!
# The include tree in pre-order

A configuration of the include tree has an address: which include to take at every step from the top
(`ProjectConfig.included?`). `ProjectConfig.configs` lists what is at the addresses, each once, in the
order of the addresses (`ProjectConfig.configs_inPreorder`): a configuration comes before those that it
includes, and of two includes of one configuration all of the first comes before all of the second.

A stack of configurations that are still to be visited leads to the same list (`ProjectConfig.visit_eq`).
-/

namespace LocalePaths.ProjectConfig

variable {c d : ProjectConfig} {cs stack : List ProjectConfig} {address : List Nat} {i j : Nat}

/-- The configuration of the include tree at an address. -/
def included? (address : List Nat) (c : ProjectConfig) : Option ProjectConfig :=
  at? (address.map .included) c

theorem included?_cons (i : Nat) (address : List Nat) (own : Settings)
    (includes excludes : List ProjectConfig) :
    included? (i :: address) (node own includes excludes) = includes[i]?.bind (included? address) := rfl

/-! ### Addresses -/

mutual

/-- The addresses of the include tree. -/
def addresses : ProjectConfig → List (List Nat)
  | node _ includes _ => [] :: addressesFrom 0 includes

/-- The addresses of configurations with the indices from `i` on, and of those that they include. -/
def addressesFrom (i : Nat) : List ProjectConfig → List (List Nat)
  | [] => []
  | c :: cs => (addresses c).map (i :: ·) ++ addressesFrom (i + 1) cs

end

theorem exists_of_mem_addressesFrom (h : address ∈ addressesFrom i cs) :
    ∃ j rest, address = j :: rest ∧ i ≤ j := by
  induction cs generalizing i with
  | nil => cases h
  | cons c cs ih =>
    rcases List.mem_append.1 h with h | h
    · obtain ⟨rest, -, rfl⟩ := List.mem_map.1 h
      exact ⟨i, rest, rfl, Nat.le_refl i⟩
    · obtain ⟨j, rest, rfl, le⟩ := ih h
      exact ⟨j, rest, rfl, Nat.le_of_succ_le le⟩

mutual

theorem pairwise_addresses : ∀ c : ProjectConfig, c.addresses.Pairwise (· < ·)
  | node _ includes _ => by
    refine List.pairwise_cons.2 ⟨fun address h => ?_, pairwise_addressesFrom 0 includes⟩
    obtain ⟨j, rest, rfl, -⟩ := exists_of_mem_addressesFrom h
    exact List.nil_lt_cons j rest

theorem pairwise_addressesFrom (i : Nat) : ∀ cs : List ProjectConfig,
    (addressesFrom i cs).Pairwise (· < ·)
  | [] => .nil
  | c :: cs => by
    refine List.pairwise_append.2 ⟨?_, pairwise_addressesFrom (i + 1) cs, ?_⟩
    · refine List.pairwise_map.2 ((pairwise_addresses c).imp fun less => ?_)
      exact List.cons_lt_cons_iff.2 (.inr ⟨rfl, less⟩)
    · intro first hfirst second hsecond
      obtain ⟨rest, -, rfl⟩ := List.mem_map.1 hfirst
      obtain ⟨j, rest', rfl, le⟩ := exists_of_mem_addressesFrom hsecond
      exact List.cons_lt_cons_iff.2 (.inl le)

end

mutual

theorem map_included?_addresses : ∀ c : ProjectConfig,
    c.addresses.map (included? · c) = c.configs.map some
  | node own includes excludes =>
    congrArg (some (node own includes excludes) :: ·) (map_included?_addressesFrom own excludes [] includes)

theorem map_included?_addressesFrom (own : Settings) (excludes before : List ProjectConfig) :
    ∀ cs : List ProjectConfig,
      (addressesFrom before.length cs).map (included? · (node own (before ++ cs) excludes)) =
        (configsOf cs).map some
  | [] => rfl
  | c :: cs => by
    have later := map_included?_addressesFrom own excludes (before ++ [c]) cs
    have first : ∀ address, included? (before.length :: address) (node own (before ++ c :: cs) excludes) =
        included? address c := fun address => by
      rw [included?_cons, List.getElem?_append_right (Nat.le_refl _), Nat.sub_self]
      rfl
    rw [List.append_assoc, List.singleton_append, List.length_append, List.length_singleton] at later
    rw [addressesFrom, configsOf, List.map_append, List.map_append, later, List.map_map,
      ← map_included?_addresses c]
    exact congrArg (· ++ _) (List.map_congr_left fun address _ => first address)

end

mutual

theorem mem_addresses_of_included? : ∀ {c d : ProjectConfig} {address : List Nat},
    included? address c = some d → address ∈ c.addresses
  | node own includes excludes, d, [], _ => List.mem_cons_self
  | node own includes excludes, d, i :: address, h => by
    obtain ⟨e, he, h⟩ := Option.bind_eq_some_iff.1 h
    have found := mem_addressesFrom_of_included? 0 he h
    rw [Nat.zero_add] at found
    exact List.mem_cons_of_mem [] found

theorem mem_addressesFrom_of_included? (k : Nat) : ∀ {cs : List ProjectConfig} {e d : ProjectConfig}
    {i : Nat} {address : List Nat}, cs[i]? = some e → included? address e = some d →
      (k + i) :: address ∈ addressesFrom k cs
  | c :: cs, e, d, 0, address, he, h => by
    cases he
    exact List.mem_append_left _ (List.mem_map.2 ⟨address, mem_addresses_of_included? h, rfl⟩)
  | c :: cs, e, d, i + 1, address, he, h => by
    have found : (k + 1 + i) :: address ∈ addressesFrom (k + 1) cs :=
      mem_addressesFrom_of_included? (k + 1) he h
    rw [Nat.add_assoc, Nat.add_comm 1 i] at found
    exact List.mem_append_right _ found

end

/-- The configurations in the list are those of the include tree, each at its place in the order of the
addresses. -/
def InPreorder (c : ProjectConfig) (listed : List ProjectConfig) : Prop :=
  ∃ addresses : List (List Nat), addresses.Pairwise (· < ·) ∧
    (∀ address, address ∈ addresses ↔ (included? address c).isSome) ∧
    addresses.map (included? · c) = listed.map some

theorem configs_inPreorder (c : ProjectConfig) : c.InPreorder c.configs := by
  have same := map_included?_addresses c
  refine ⟨c.addresses, pairwise_addresses c, fun address => ⟨fun h => ?_, fun h => ?_⟩, same⟩
  · have found := List.mem_map_of_mem h (f := (included? · c))
    rw [same] at found
    obtain ⟨d, -, eq⟩ := List.mem_map.1 found
    rw [← eq]
    rfl
  · obtain ⟨d, hd⟩ := Option.isSome_iff_exists.1 h
    exact mem_addresses_of_included? hd

/-! ### Visiting from a stack -/

theorem configsOf_append (cs ds : List ProjectConfig) :
    configsOf (cs ++ ds) = configsOf cs ++ configsOf ds := by
  induction cs with
  | nil => rfl
  | cons c cs ih => rw [List.cons_append, configsOf, ih, configsOf, List.append_assoc]

/-- Takes a configuration from a stack and puts those that it includes on it, the last one first. -/
def next? : List ProjectConfig → Option (ProjectConfig × List ProjectConfig)
  | [] => none
  | c :: stack => some (c, c.includes.reverse.foldl (fun stack d => d :: stack) stack)

theorem next?_cons (c : ProjectConfig) (stack : List ProjectConfig) :
    next? (c :: stack) = some (c, c.includes ++ stack) := by
  rw [next?, List.foldl_reverse, List.foldr_cons_eq_append]
  simp

/-- What is still to be visited is the configuration that is taken, and then the rest. -/
theorem configsOf_of_next? (h : next? stack = some (c, cs)) : configsOf stack = c :: configsOf cs := by
  cases stack with
  | nil => cases h
  | cons d stack =>
    rw [next?_cons] at h
    cases h
    obtain ⟨own, includes, excludes⟩ := c
    rw [configsOf_append]
    rfl

/-- The configurations that are taken from a stack one after another until it is empty. -/
def visit (stack : List ProjectConfig) : List ProjectConfig :=
  match _h : next? stack with
  | none => []
  | some (c, rest) => c :: visit rest
termination_by (configsOf stack).length
decreasing_by
  rw [configsOf_of_next? _h]
  exact Nat.lt_succ_self _

theorem visit_eq (stack : List ProjectConfig) : visit stack = configsOf stack := by
  fun_induction visit stack with
  | case1 stack empty =>
    cases stack with
    | nil => rfl
    | cons c stack => cases empty
  | case2 stack c rest taken ih => rw [configsOf_of_next? taken, ih]

end LocalePaths.ProjectConfig
