/-!
# JSON values

`Json` is the document model that the rule machine reads and writes: field values of
records, call parameters, refusal reasons and plan data are all of this type.

A number (`Number`) is held as a reader of JSON text holds it: an integer when its text is an
integer's and it fits a 64-bit word, signed or unsigned, and a double otherwise. An integer never
equals a double, so `1` and `1.0` are different values; two doubles are equal as doubles, so
`0.0` equals `-0.0`, and `1e20` equals `1e+20`.

An object lists its members in strictly increasing key order, the byte order of the keys'
UTF-8 text, which is the code-point order of `String`. `Json.Members.insert` keeps that
order and lets a later member replace an earlier one of the same key, so an object read
from text with a repeated key keeps the last value.
-/

namespace RuleMachine

/-- A JSON number: an integer from `-2 ^ 63` to `2 ^ 64 - 1`, or a double. -/
inductive Number where
  | integer (value : Int)
  | double (value : Float)
  deriving Inhabited, Repr

namespace Number

/-- The number of an integer. -/
def ofInt (i : Int) : Number := .integer i

/-- Two numbers are equal when both are the same integer, or both are doubles that are equal
as doubles. -/
def beq : Number → Number → Bool
  | .integer a, .integer b => a == b
  | .double x, .double y => x == y
  | _, _ => false

instance : BEq Number := ⟨beq⟩

/-- The integer a number holds, if it holds one. -/
def toInt? : Number → Option Int
  | .integer i => some i
  | .double _ => none

end Number

/-- A JSON document. Object members are kept sorted by key, without repeated keys. -/
inductive Json where
  | null
  | bool (value : Bool)
  | number (value : Number)
  | string (value : String)
  | array (items : List Json)
  | object (members : List (String × Json))

namespace Json

/-- The members of an object, sorted by key. -/
abbrev Members := List (String × Json)

namespace Members

/-- Puts a member into a sorted member list: a new key goes to its place in key order, an
existing key gets the new value. -/
def insert (key : String) (value : Json) : Members → Members
  | [] => [(key, value)]
  | (k, v) :: rest =>
    if key < k then (key, value) :: (k, v) :: rest
    else if key = k then (key, value) :: rest
    else (k, v) :: insert key value rest

/-- The members of a list of pairs, in key order; of two pairs with one key the later
wins. -/
def ofList (pairs : List (String × Json)) : Members :=
  pairs.foldl (fun acc p => insert p.1 p.2 acc) []

/-- The value of a key, if the object has it. -/
def get? (key : String) : Members → Option Json
  | [] => none
  | (k, v) :: rest => if k = key then some v else get? key rest

/-- After an insert, the inserted key reads the new value and every other key reads what it
read before. -/
theorem get?_insert (key k : String) (value : Json) (ms : Members) :
    get? k (insert key value ms) = if key = k then some value else get? k ms := by
  induction ms with
  | nil => simp [insert, get?]
  | cons p rest ih =>
    obtain ⟨k', v'⟩ := p
    unfold insert
    by_cases hlt : key < k'
    · rw [if_pos hlt]; rfl
    · rw [if_neg hlt]
      by_cases heq : key = k'
      · subst heq
        rw [if_pos rfl]
        by_cases hk : key = k <;> simp [get?, hk]
      · rw [if_neg heq]
        by_cases hk : k' = k
        · subst hk; simp [get?, heq]
        · simp [get?, hk, ih]

/-- The members of an object: keys strictly increasing. -/
def Sorted (ms : Members) : Prop := ms.Pairwise fun p q => p.1 < q.1

instance (ms : Members) : Decidable (Sorted ms) :=
  inferInstanceAs (Decidable (ms.Pairwise fun p q => p.1 < q.1))

theorem sorted_nil : Sorted [] := List.Pairwise.nil

/-- A member after an insert is the member put in or one that was there. -/
theorem mem_insert_cases {key : String} {value : Json} {ms : Members} {p : String × Json}
    (h : p ∈ insert key value ms) : p = (key, value) ∨ p ∈ ms := by
  induction ms with
  | nil => exact .inl (List.mem_singleton.mp h)
  | cons q rest ih =>
    obtain ⟨k, v⟩ := q
    unfold insert at h
    by_cases hlt : key < k
    · rw [if_pos hlt] at h
      exact (List.mem_cons.mp h).imp_right id
    · rw [if_neg hlt] at h
      by_cases heq : key = k
      · rw [if_pos heq] at h
        rcases List.mem_cons.mp h with rfl | hrest
        · exact .inl rfl
        · exact .inr (List.mem_cons_of_mem _ hrest)
      · rw [if_neg heq] at h
        rcases List.mem_cons.mp h with rfl | hrest
        · exact .inr List.mem_cons_self
        · exact (ih hrest).imp_right (List.mem_cons_of_mem _)

/-- An insert keeps the members sorted: the key goes to its place, or replaces its value. -/
theorem Sorted.insert (key : String) (value : Json) {ms : Members} (h : Sorted ms) :
    Sorted (insert key value ms) := by
  induction ms with
  | nil => exact List.pairwise_singleton _ _
  | cons q rest ih =>
    obtain ⟨k, v⟩ := q
    have hhead := List.pairwise_cons.mp h
    unfold Members.insert
    by_cases hlt : key < k
    · rw [if_pos hlt]
      refine List.Pairwise.cons (fun p hp => ?_) h
      rcases List.mem_cons.mp hp with rfl | hrest
      · exact hlt
      · exact String.lt_trans hlt (hhead.1 p hrest)
    · rw [if_neg hlt]
      by_cases heq : key = k
      · rw [if_pos heq]
        subst heq
        exact List.Pairwise.cons hhead.1 hhead.2
      · rw [if_neg heq]
        -- the key goes further in, so it is above `k`
        have hgt : k < key := Std.lt_of_le_of_ne (String.not_lt.mp hlt) (Ne.symm heq)
        refine List.Pairwise.cons (fun p hp => ?_) (ih hhead.2)
        rcases mem_insert_cases hp with rfl | hrest
        · exact hgt
        · exact hhead.1 p hrest

/-- Whether the object has the key. -/
def contains (key : String) (ms : Members) : Bool :=
  (Members.get? key ms).isSome

/-- The keys, in order. -/
def keys (ms : Members) : List String :=
  ms.map Prod.fst

end Members

/-- An object built from pairs, sorted, the later of two equal keys winning. -/
def obj (pairs : List (String × Json)) : Json :=
  .object (Members.ofList pairs)

/-- A string value. -/
def str (s : String) : Json := .string s

/-- An integer value. -/
def int (n : Int) : Json := .number (Number.ofInt n)

/-- A natural-number value. -/
def nat (n : Nat) : Json := .number (Number.ofInt n)

/-- A list of strings as an array. -/
def strings (xs : List String) : Json := .array (xs.map Json.string)

/-- The value of a key of an object; `none` for a missing key and for every value that
is not an object. -/
def get? (key : String) : Json → Option Json
  | .object ms => Members.get? key ms
  | _ => none

/-- The string inside a string value. -/
def asString? : Json → Option String
  | .string s => some s
  | _ => none

/-- The items of an array value. -/
def asArray? : Json → Option (List Json)
  | .array xs => some xs
  | _ => none

/-- The members of an object value. -/
def asObject? : Json → Option Members
  | .object ms => some ms
  | _ => none

/-- The Boolean inside a Boolean value. -/
def asBool? : Json → Option Bool
  | .bool b => some b
  | _ => none

/-- Whether the value is `null`. -/
def isNull : Json → Bool
  | .null => true
  | _ => false

mutual

/-- Equality of documents: same kind and equal parts, numbers by `Number.beq`, arrays item
by item, objects member by member in key order. -/
def beq : Json → Json → Bool
  | .null, .null => true
  | .bool a, .bool b => a == b
  | .number a, .number b => a.beq b
  | .string a, .string b => a == b
  | .array xs, .array ys => beqItems xs ys
  | .object xs, .object ys => beqMembers xs ys
  | _, _ => false

/-- Item-wise equality of two arrays. -/
def beqItems : List Json → List Json → Bool
  | [], [] => true
  | x :: xs, y :: ys => beq x y && beqItems xs ys
  | _, _ => false

/-- Member-wise equality of two objects. -/
def beqMembers : Members → Members → Bool
  | [], [] => true
  | (k, x) :: xs, (l, y) :: ys => k == l && beq x y && beqMembers xs ys
  | _, _ => false

end

instance : BEq Json := ⟨beq⟩

mutual

/-- The number of nodes of a document: a bound on the steps of any walk that visits each
node once. -/
def size : Json → Nat
  | .array xs => 1 + sizeItems xs
  | .object ms => 1 + sizeMembers ms
  | _ => 1

/-- The nodes of the items of an array. -/
def sizeItems : List Json → Nat
  | [] => 0
  | x :: xs => size x + sizeItems xs

/-- The nodes of the values of an object. -/
def sizeMembers : Members → Nat
  | [] => 0
  | (_, v) :: ms => size v + sizeMembers ms

end

end Json

end RuleMachine
