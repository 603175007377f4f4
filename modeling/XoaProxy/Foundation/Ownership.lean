import Mathlib.Algebra.BigOperators.Group.List.Basic
import Mathlib.Algebra.GroupWithZero.Nat
import Mathlib.Algebra.Order.BigOperators.Group.List
import Mathlib.Algebra.Order.Group.Nat
import Mathlib.Data.List.Infix
import Mathlib.Data.List.Nodup

namespace XoaProxy

/-!
# Ownership, drop order and custody

The first half describes what a value owns as a tree and computes the order in
which dropping the value releases its resources.  Fields of a structure are
released in declaration order, locals of a scope in reverse declaration order.
Nothing about the order is stipulated anywhere else: swapping two declarations
changes the tree, and with it every theorem about the released list.

The second half is bookkeeping for many parties.  Each party holds a list of
resources, a ledger counts how often each resource is out, and a step that
moves one party's holdings and the ledger by the same amount keeps the books
balanced.  Uniqueness of a holder is then read off a ledger entry of one.
-/

universe u v

/-- The resources owned by a value, in the shape of its declaration. -/
inductive Owned (Resource : Type u) where
  | nothing
  | leaf (resource : Resource)
  | field (first rest : Owned Resource)
  | binding (first rest : Owned Resource)

namespace Owned

variable {Resource : Type u}

/-- The order in which drop glue releases an owned tree. -/
def dropOrder : Owned Resource -> List Resource
  | .nothing => []
  | .leaf resource => [resource]
  | .field first rest => first.dropOrder ++ rest.dropOrder
  | .binding first rest => rest.dropOrder ++ first.dropOrder

/-- A structure with the given fields, in declaration order. -/
def struct (fields : List (Owned Resource)) : Owned Resource :=
  fields.foldr .field .nothing

/-- A scope with the given locals, in declaration order. -/
def scope (locals : List (Owned Resource)) : Owned Resource :=
  locals.foldr .binding .nothing

theorem dropOrder_struct (fields : List (Owned Resource)) :
    (struct fields).dropOrder = fields.flatMap dropOrder := by
  induction fields with
  | nil => rfl
  | cons first rest ih =>
      change first.dropOrder ++ (struct rest).dropOrder = _
      rw [ih, List.flatMap_cons]

theorem dropOrder_scope (locals : List (Owned Resource)) :
    (scope locals).dropOrder = locals.reverse.flatMap dropOrder := by
  induction locals with
  | nil => rfl
  | cons first rest ih =>
      change (scope rest).dropOrder ++ first.dropOrder = _
      rw [ih, List.reverse_cons, List.flatMap_append, List.flatMap_singleton]

end Owned

namespace Custody

variable {Party : Type u} {Resource : Type v} [DecidableEq Resource]

/-- How often a resource is held by the listed parties together. -/
def total (held : Party -> List Resource) (parties : List Party) (resource : Resource) : Nat :=
  (parties.map fun party => (held party).count resource).sum

/-- The ledger agrees with what the parties hold. -/
def Balanced (held : Party -> List Resource) (ledger : Resource -> Nat)
    (parties : List Party) : Prop :=
  forall resource, ledger resource = total held parties resource

/-- One party's step moves its holdings and the ledger by the same amount. -/
def Transfer (before after : List Resource) (ledger ledger' : Resource -> Nat) : Prop :=
  forall resource, ledger' resource + before.count resource =
    ledger resource + after.count resource

variable (held : Party -> List Resource)

theorem total_append (first second : List Party) (resource : Resource) :
    total held (first ++ second) resource =
      total held first resource + total held second resource := by
  simp only [total, List.map_append, List.sum_append]

theorem total_set {parties : List Party} {index : Nat} {party : Party} (next : Party)
    (found : parties[index]? = some party) (resource : Resource) :
    total held (parties.set index next) resource + (held party).count resource =
      total held parties resource + (held next).count resource := by
  induction parties generalizing index with
  | nil => cases found
  | cons head tail ih =>
      cases index with
      | zero =>
          cases found
          simp only [total, List.set_cons_zero, List.map_cons, List.sum_cons]
          omega
      | succ index =>
          have inner := ih found
          simp only [total, List.set_cons_succ, List.map_cons, List.sum_cons] at inner ⊢
          omega

theorem count_le_total {parties : List Party} {index : Nat} {party : Party}
    (found : parties[index]? = some party) (resource : Resource) :
    (held party).count resource ≤ total held parties resource := by
  apply List.single_le_sum (fun _ _ => Nat.zero_le _)
  exact List.mem_map.mpr ⟨party, List.mem_of_getElem? found, rfl⟩

/-- Nobody holds a resource whose total is zero. -/
theorem not_mem_of_total_eq_zero {parties : List Party} {resource : Resource}
    (none : total held parties resource = 0) {index : Nat} {party : Party}
    (found : parties[index]? = some party) : resource ∉ held party := by
  intro member
  have positive := List.count_pos_iff.mpr member
  have bounded := count_le_total held found resource
  omega

theorem exists_holder_of_total_pos {parties : List Party} {resource : Resource}
    (positive : 0 < total held parties resource) :
    Exists fun index : Nat => Exists fun party =>
      parties[index]? = some party ∧ resource ∈ held party := by
  by_contra none
  have zero : total held parties resource = 0 := by
    apply List.sum_eq_zero
    intro count member
    rcases List.mem_map.mp member with ⟨party, listed, rfl⟩
    rcases List.mem_iff_getElem?.mp listed with ⟨index, found⟩
    apply List.count_eq_zero.mpr
    intro holds
    exact none ⟨index, party, found, holds⟩
  omega

/-- A total of at most one leaves room for a single holder. -/
theorem holder_unique {parties : List Party} {resource : Resource}
    (bounded : total held parties resource ≤ 1) {first second : Nat} {left right : Party}
    (leftFound : parties[first]? = some left) (rightFound : parties[second]? = some right)
    (leftHolds : resource ∈ held left) (rightHolds : resource ∈ held right) :
    first = second := by
  induction parties generalizing first second with
  | nil => cases leftFound
  | cons head tail ih =>
      have split : total held (head :: tail) resource =
          (held head).count resource + total held tail resource := by
        simp only [total, List.map_cons, List.sum_cons]
      cases first with
      | zero =>
          cases second with
          | zero => rfl
          | succ second =>
              cases leftFound
              have here := List.count_pos_iff.mpr leftHolds
              have behind : tail[second]? = some right := rightFound
              have later := count_le_total held behind resource
              have there := List.count_pos_iff.mpr rightHolds
              omega
      | succ first =>
          cases second with
          | zero =>
              cases rightFound
              have here := List.count_pos_iff.mpr rightHolds
              have behind : tail[first]? = some left := leftFound
              have later := count_le_total held behind resource
              have there := List.count_pos_iff.mpr leftHolds
              omega
          | succ second =>
              rw [ih (by omega) leftFound rightFound]

variable {held}

/-- The books stay balanced when a new party arrives with empty hands. -/
theorem Balanced.arrive {ledger : Resource -> Nat} {parties : List Party} {party : Party}
    (balanced : Balanced held ledger parties) (empty : held party = []) :
    Balanced held ledger (parties ++ [party]) := by
  intro resource
  rw [total_append, balanced resource]
  simp only [total, List.map_cons, List.map_nil, List.sum_cons, List.sum_nil, empty,
    List.count_nil, Nat.add_zero]

/-- The books stay balanced across one party's transfer. -/
theorem Balanced.transfer {ledger ledger' : Resource -> Nat} {parties : List Party}
    {index : Nat} {party next : Party} (balanced : Balanced held ledger parties)
    (found : parties[index]? = some party)
    (moved : Transfer (held party) (held next) ledger ledger') :
    Balanced held ledger' (parties.set index next) := by
  intro resource
  have books := balanced resource
  have change := moved resource
  have replaced := total_set held next found resource
  omega

omit [DecidableEq Resource] in
/-- A suffix of a release order that still holds an earlier resource holds
every later one as well. -/
theorem mem_of_suffix {order earlier later : List Resource} {holding : List Resource}
    {first second : Resource} (suffix : holding <:+ order)
    (split : order = earlier ++ first :: later) (unique : first ∉ later)
    (after : second ∈ later) (holds : first ∈ holding) : second ∈ holding := by
  rcases suffix with ⟨released, rfl⟩
  rcases List.append_eq_append_iff.mp split with ⟨gap, _, same⟩ | ⟨gap, _, same⟩
  · rw [same]
    exact List.mem_append_right _ (List.mem_cons_of_mem _ after)
  · cases gap with
    | nil =>
        rw [List.nil_append] at same
        rw [← same]
        exact List.mem_cons_of_mem _ after
    | cons head tail =>
        cases same
        exact False.elim (unique (List.mem_append_right _ holds))

theorem total_le_total {parties : List Party} {first second : Resource}
    (below : forall party, (held party).count first ≤ (held party).count second) :
    total held parties first ≤ total held parties second :=
  List.sum_le_sum fun party _ => below party

/-- Of a resource that is released first at most as much is out as of one that
is released after it. -/
theorem count_le_count_of_suffix {order earlier later : List Resource}
    {holding : List Resource} {first second : Resource} (suffix : holding <:+ order)
    (split : order = earlier ++ first :: later) (distinct : order.Nodup)
    (after : second ∈ later) : holding.count first ≤ holding.count second := by
  have once : holding.count first ≤ 1 :=
    List.nodup_iff_count_le_one.mp (distinct.sublist suffix.sublist) first
  by_cases holds : first ∈ holding
  · have unique : first ∉ later := by
      rw [split] at distinct
      exact (List.nodup_cons.mp (List.nodup_append.mp distinct).2.1).1
    have owned := List.count_pos_iff.mpr (mem_of_suffix suffix split unique after holds)
    omega
  · rw [List.count_eq_zero.mpr holds]
    exact Nat.zero_le _

end Custody
end XoaProxy
