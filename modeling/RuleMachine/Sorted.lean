/-!
# Sorted maps and sets

The tables of the rule machine are finite maps and sets kept as lists sorted by an `Ord`
key without repeats: `SortedMap` is a list of pairs, `SortedSet` a list of keys. Putting a
key that is already there replaces its value, so of two writes to one key the later wins,
and walking the list visits the keys in increasing order.
-/

namespace RuleMachine

namespace SortedMap

variable {κ α : Type} [Ord κ]

/-- Puts a key with its value into its place in key order; an existing key gets the new
value. -/
def insert (k : κ) (v : α) : List (κ × α) → List (κ × α)
  | [] => [(k, v)]
  | (k', v') :: rest =>
    match compare k k' with
    | .lt => (k, v) :: (k', v') :: rest
    | .eq => (k, v) :: rest
    | .gt => (k', v') :: insert k v rest

/-- The value of a key. -/
def get? (k : κ) : List (κ × α) → Option α
  | [] => none
  | (k', v) :: rest => if compare k k' == .eq then some v else get? k rest

/-- Whether the key has a value. -/
def contains (k : κ) (m : List (κ × α)) : Bool := (get? k m).isSome

/-- The map of a list of pairs, the later of two pairs with one key winning. -/
def ofList (pairs : List (κ × α)) : List (κ × α) :=
  pairs.foldl (fun m p => insert p.1 p.2 m) []

end SortedMap

namespace SortedSet

variable {κ : Type} [Ord κ]

/-- Puts a key into its place in order, once. -/
def insert (k : κ) : List κ → List κ
  | [] => [k]
  | k' :: rest =>
    match compare k k' with
    | .lt => k :: k' :: rest
    | .eq => k' :: rest
    | .gt => k' :: insert k rest

/-- The set of the keys of a list. -/
def ofList (keys : List κ) : List κ := keys.foldl (fun s k => insert k s) []

/-- The union of two sets. -/
def union (a b : List κ) : List κ := b.foldl (fun s k => insert k s) a

/-- Whether the key is in the set. -/
def contains (k : κ) : List κ → Bool
  | [] => false
  | k' :: rest => compare k k' == .eq || contains k rest

end SortedSet

end RuleMachine
