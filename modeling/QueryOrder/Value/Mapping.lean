/-
Mappings and sequences of values.

* `Value.Key`, `Value.Key.same`: what a mapping compares of a key, so that numbers
  of equal size and texts of equal characters are one key;
* `putBy`: an entry set in a mapping, which keeps the place of a key already
  there;
* `Value.items`: the values that a value can be gone through for;
* `Value.entries`: the entries of a mapping, or of a sequence of pairs.
-/
import QueryOrder.Failure
import QueryOrder.Value.Written

namespace QueryOrder

/-! ### Mappings in the order of their keys -/

/-- An entry set in a mapping: a key already there keeps its place and takes the
new value. -/
def putBy {κ α : Type} (same : κ → κ → Bool) (entries : List (κ × α)) (key : κ) (value : α) :
    List (κ × α) :=
  if entries.any fun entry => same entry.1 key then
    entries.map fun entry => if same entry.1 key then (entry.1, value) else entry
  else entries ++ [(key, value)]

/-- The mapping that entries make when they are set one after the other. -/
def putAll {κ α : Type} (same : κ → κ → Bool) (entries : List (κ × α)) : List (κ × α) :=
  entries.foldl (fun done entry => putBy same done entry.1 entry.2) []

namespace Value

/-! ### Keys -/

/-- What a mapping compares of a key. -/
inductive Key where
  | null
  | number (n : Int)
  | fraction (x : Double)
  | text (s : String)
  | bytes (bs : List UInt8)
  | tuple (items : List Key)
  | member (serial : Nat)
  | scope (s : Scope)
  | written (form : String)
deriving Repr

mutual

/-- Whether two keys are compared as the same. -/
def Key.same : Key → Key → Bool
  | null, null => true
  | number n, number m => n == m
  | fraction x, fraction y => x == y
  | text s, text t => s == t
  | bytes bs, bytes cs => bs == cs
  | tuple items, tuple items' => sameItems items items'
  | member n, member m => n == m
  | scope s, scope t => s == t
  | written form, written form' => form == form'
  | _, _ => false
termination_by structural k => k

/-- Whether the items of two tuples are compared as the same, in order. -/
def Key.sameItems : List Key → List Key → Bool
  | [], [] => true
  | item :: rest, item' :: rest' => item.same item' && sameItems rest rest'
  | _, _ => false
termination_by structural items => items

end

instance : BEq Key := ⟨Key.same⟩

mutual

/-- What a mapping compares of a value that is used as a key. -/
def key : Value → Key
  | null => .null
  | bool b => .number (if b then 1 else 0)
  | int n => .number n
  | float x => match x.toInt? with
    | some n => .number n
    | none => .fraction x
  | text s => .text s
  | textMember _ _ s => .text s
  | intMember _ _ n => .number n
  | bytes bs => .bytes bs
  | tuple items => .tuple (keys items)
  | member serial _ _ _ => .member serial
  | scope s => .scope s
  | v => .written v.written
termination_by structural v => v

/-- What is compared of each item. -/
def keys : List Value → List Key
  | [] => []
  | item :: rest => key item :: keys rest
termination_by structural items => items

end

mutual

/-- Whether a key differs from every key, itself included: what is no number
does, and so does a tuple that holds it. -/
def Key.isElusive : Key → Bool
  | fraction x => x == .nan
  | tuple items => elusiveItem items
  | _ => false
termination_by structural k => k

/-- Whether one of the items differs from every key. -/
def Key.elusiveItem : List Key → Bool
  | [] => false
  | item :: rest => item.isElusive || elusiveItem rest
termination_by structural items => items

end

/-- Whether two values are the same key of a mapping. -/
def sameKey (a b : Value) : Bool := a.key == b.key && !a.key.isElusive

mutual

/-- The part of a value that keeps it from being a key, if there is one: lists
and mappings are no keys, the mapping in an allow-list included. -/
def unhashable? : Value → Option String
  | list _ => some "list"
  | dict _ => some "dict"
  | mapping kind _ _ => some kind
  | allowList _ => some "mappingproxy"
  | other kind _ => some kind
  | tuple items => unhashableItem? items
  | _ => none
termination_by structural v => v

/-- The first part of a tuple that keeps it from being a key. -/
def unhashableItem? : List Value → Option String
  | [] => none
  | item :: rest => unhashable? item <|> unhashableItem? rest
termination_by structural items => items

end

/-! ### Sequences -/

/-- The values that one gets by going through a value: the characters of a text,
the numbers of a byte string, the keys of a mapping, the named parts of an
allow-list. -/
def items? : Value → Option (List Value)
  | text s => some (s.toList.map fun c => text c.toString)
  | textMember _ _ s => some (s.toList.map fun c => text c.toString)
  | bytes bs => some (bs.map fun b => int b.toNat)
  | list items => some items
  | tuple items => some items
  | dict entries => some (entries.map (·.1))
  | mapping _ _ entries => some (entries.map (·.1))
  | allowList a => some
      [tuple [text "fields", tuple (a.fields.map text)], tuple [text "scopes", a.scopesValue]]
  | _ => none

/-- The values that one gets by going through a value. -/
def items (v : Value) : Except Failure (List Value) :=
  match v.items? with
  | some items => .ok items
  | none => .error (.shape (.notIterable v.kind))

/-! ### Entries -/

/-- A value that is used as a key. -/
def asKey (v : Value) : Except Failure Value :=
  match v.unhashable? with
  | some kind => .error (.shape (.unhashable kind))
  | none => .ok v

/-- The key and the value of an element of a sequence of pairs, which stands at
the given place. -/
def entry (index : Nat) (element : Value) : Except Failure (Value × Value) :=
  match element.items? with
  | none => .error (.shape (.elementNotSequence index))
  | some [key, value] => do return (← key.asKey, value)
  | some parts => .error (.shape (.elementLength index parts.length))

/-- The entries of the elements of a sequence, the first of which stands at the
given place. -/
def entriesFrom (index : Nat) : List Value → Except Failure (List (Value × Value))
  | [] => .ok []
  | element :: rest => do
    let first ← entry index element
    return first :: (← entriesFrom (index + 1) rest)

/-- The entries of a mapping, or of a sequence of pairs. What is not given has
none. -/
def entries (v : Value) : Except Failure (List (Value × Value)) :=
  if v.isTruthy then
    match v.entries? with
    | some entries => .ok entries
    | none => do return putAll sameKey (← entriesFrom 0 (← v.items))
  else .ok []

end Value

end QueryOrder
