import FindToSelect.Number
import FindToSelect.Text.Joined

/-!
# Values and documents

The arguments of a call are values: the scalars null, booleans, numbers and strings, and the two
containers. A document is the content of an object, a list of members in source order with distinct
keys.

* `Document.put` is how a document grows: a key that is new goes to the end, and a key that is
  already there keeps its place and takes the new value. The keys therefore stay distinct
  (`Document.nodup_keys_put`);
* `Value.text` is the text of a value as compact JSON, the form in which messages show values.
-/

namespace FindToSelect

/-- **A value of the query language.** -/
inductive Value where
  | null
  | boolean (b : Bool)
  | number (n : Number)
  | string (s : String)
  | array (elements : List Value)
  | object (members : List (String × Value))
deriving Inhabited

/-- **A document**: its members, in order. -/
abbrev Document := List (String × Value)

namespace Document

/-- The keys of a document, in order. -/
def keys (d : Document) : List String :=
  d.map Prod.fst

/-- **Sets a member.** A key that is there keeps its place and takes the value `v`; a new one goes
to the end. -/
def put (d : Document) (key : String) (v : Value) : Document :=
  match d with
  | [] => [(key, v)]
  | (k, w) :: rest => if k = key then (k, v) :: rest else (k, w) :: put rest key v

/-- Setting a member changes the keys only by adding a new one at the end. -/
theorem keys_put (d : Document) (key : String) (v : Value) :
    (d.put key v).keys = if key ∈ d.keys then d.keys else d.keys ++ [key] := by
  induction d with
  | nil => simp [put, keys]
  | cons m rest ih =>
    obtain ⟨k, w⟩ := m
    by_cases h : k = key
    · simp [put, keys, h]
    · have h' : ¬ key = k := fun e => h e.symm
      simp only [keys] at ih
      simp only [put, keys, h, if_false, List.map_cons, List.mem_cons, h', false_or, ih]
      by_cases hk : key ∈ rest.map Prod.fst <;> simp [hk]

/-- Distinct keys stay distinct. -/
theorem nodup_keys_put {d : Document} (h : d.keys.Nodup) (key : String) (v : Value) :
    (d.put key v).keys.Nodup := by
  rw [keys_put]
  split
  · exact h
  · next hk =>
    rw [List.nodup_append]
    refine ⟨h, by simp, ?_⟩
    rintro a ha b hb rfl
    exact hk (by simpa [List.mem_singleton.1 hb] using ha)

end Document

/-! ### The text of a value -/

/-- **One character of a JSON string**: the quote, the backslash and the control characters are
escaped, and nothing else. -/
def jsonChar (c : Char) : List Char :=
  if c = '"' ∨ c = '\\' then ['\\', c]
  else if c = '\x08' then ['\\', 'b']
  else if c = '\x0c' then ['\\', 'f']
  else if c = '\n' then ['\\', 'n']
  else if c = '\r' then ['\\', 'r']
  else if c = '\t' then ['\\', 't']
  else if c.toNat < 0x20 then
    ['\\', 'u', '0', '0', Nat.digitChar (c.toNat / 16), Nat.digitChar (c.toNat % 16)]
  else [c]

/-- A string in JSON quotes. -/
def jsonString (s : String) : List Char :=
  '"' :: s.toList.flatMap jsonChar ++ ['"']

/-- **Doubles in JSON text**: without an exponent from `10 ^ (-5)` up to `10 ^ 16`, with a fraction
always, every exponent with its sign, and a tie going to the even digit. -/
def jsonFloat : FloatLayout where
  tie := .toEven
  plain e := -5 ≤ e && e < 16
  fraction := true
  plus := true

namespace Value

mutual

/-- **The compact JSON text of a value.** -/
def text : Value → List Char
  | null => ['n', 'u', 'l', 'l']
  | boolean true => ['t', 'r', 'u', 'e']
  | boolean false => ['f', 'a', 'l', 's', 'e']
  | number n => n.write jsonFloat
  | string s => jsonString s
  | array elements => '[' :: Text.joined [','] (elementTexts elements) ++ [']']
  | object members => '{' :: Text.joined [','] (memberTexts members) ++ ['}']

/-- The texts of the elements of an array. -/
def elementTexts : List Value → List (List Char)
  | [] => []
  | v :: rest => text v :: elementTexts rest

/-- The texts of the members of an object, each a key, a colon and a value. -/
def memberTexts : List (String × Value) → List (List Char)
  | [] => []
  | (key, v) :: rest => (jsonString key ++ ':' :: text v) :: memberTexts rest

end

/-- The compact JSON text of a value, as a string. -/
def json (v : Value) : String :=
  String.ofList v.text

end Value

end FindToSelect
