import FindToSelect.Json.Lexeme

/-!
# The trees of strict JSON

A `Tree` is what a JSON text says, as far as the settings need it: containers and scalars, members
in source order with repeated keys kept, strings undecoded.

The lexemes are read by a machine that looks at each one once. Its memory is what it is waiting for
and the containers it is inside of, so nesting has no limit. `Json.read?` reads a whole text, with
nothing behind its one value.
-/

namespace FindToSelect.Json

/-- **What a JSON text says.** -/
inductive Tree where
  | null
  | boolean (b : Bool)
  | number
  | string (items : List Text.Item)
  | array (elements : List Tree)
  | object (members : List (List Text.Item × Tree))

/-- The members of an object, in order. -/
abbrev Members := List (List Text.Item × Tree)

/-- **A container that is waiting for the value inside it.** -/
inductive Frame where
  | array (elements : List Tree)
  | object (members : Members) (key : List Text.Item)

/-- **What the next lexeme must be.** -/
inductive State where
  /-- A value. -/
  | value
  /-- The first value of an array, or its end. -/
  | firstElement
  /-- A comma or the end of the array. -/
  | afterElement (elements : List Tree)
  /-- The first key of an object, or its end. -/
  | firstKey
  /-- A key. -/
  | key (members : Members)
  /-- The colon behind a key. -/
  | colon (members : Members) (key : List Text.Item)
  /-- A comma or the end of the object. -/
  | afterMember (members : Members)

/-- **What the machine does with one lexeme**: it goes on, or the value is complete. -/
inductive Step where
  | next (state : State) (stack : List Frame)
  | done (t : Tree)

/-- A complete value goes into the innermost container, or is the result. -/
def Step.deliver (t : Tree) : List Frame → Step
  | [] => .done t
  | .array elements :: stack => .next (.afterElement (elements ++ [t])) stack
  | .object members key :: stack => .next (.afterMember (members ++ [(key, t)])) stack

/-- The first lexeme of a value. -/
def Step.begin? (l : Lexeme) (stack : List Frame) : Option Step :=
  match l with
  | .openBrace => some (.next .firstKey stack)
  | .openBracket => some (.next .firstElement stack)
  | .null => some (.deliver .null stack)
  | .boolean b => some (.deliver (.boolean b) stack)
  | .number => some (.deliver .number stack)
  | .string items => some (.deliver (.string items) stack)
  | _ => none

/-- **The machine on one lexeme.** -/
def step? (state : State) (stack : List Frame) (l : Lexeme) : Option Step :=
  match state with
  | .value => Step.begin? l stack
  | .firstElement =>
    match l with
    | .closeBracket => some (.deliver (.array []) stack)
    | _ => Step.begin? l (.array [] :: stack)
  | .afterElement elements =>
    match l with
    | .comma => some (.next .value (.array elements :: stack))
    | .closeBracket => some (.deliver (.array elements) stack)
    | _ => none
  | .firstKey =>
    match l with
    | .closeBrace => some (.deliver (.object []) stack)
    | .string key => some (.next (.colon [] key) stack)
    | _ => none
  | .key members =>
    match l with
    | .string key => some (.next (.colon members key) stack)
    | _ => none
  | .colon members key =>
    match l with
    | .colon => some (.next .value (.object members key :: stack))
    | _ => none
  | .afterMember members =>
    match l with
    | .comma => some (.next (.key members) stack)
    | .closeBrace => some (.deliver (.object members) stack)
    | _ => none

/-- **The machine on a list of lexemes**: the value, and the lexemes behind it. -/
def run? (state : State) (stack : List Frame) : List Lexeme → Option (Tree × List Lexeme)
  | [] => none
  | l :: ls =>
    match step? state stack l with
    | some (.next state stack) => run? state stack ls
    | some (.done t) => some (t, ls)
    | none => none

/-- The tree of a list of lexemes that is one value. -/
def ofLexemes? (ls : List Lexeme) : Option Tree :=
  match run? .value [] ls with
  | some (t, []) => some t
  | _ => none

/-- **Reads a JSON text.** -/
def read? (cs : List Char) : Option Tree :=
  (lex? cs).bind ofLexemes?

end FindToSelect.Json
