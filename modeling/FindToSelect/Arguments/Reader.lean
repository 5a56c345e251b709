import FindToSelect.Arguments.Error
import FindToSelect.Token.Lexer
import FindToSelect.Value

/-!
# Reading arguments

The tokens of an argument text are read as values separated by commas. In arrays, objects and the
argument list itself a comma may also stand behind the last item. The keys of an object are words or
strings, the keywords included, and a repeated key is set again (`Document.put`).

Reading is a machine that looks at each token once, from left to right. Its memory is what it is
waiting for (`State`) and the containers it is inside of (`Frame`), innermost first:

* `step` is the machine on one token, `run` the machine on a list;
* `readValue` runs it for one value, `read` for a whole argument list;
* `parse` reads an argument text.

An `Outcome` also holds the tokens that were not taken, of a failure too: a token that starts no
value or is no key is taken, and a token that stands where a mark is wanted is not. So reading can
go on from there.
-/

namespace FindToSelect

/-- **The key that a token spells**, if it spells one. -/
def TokenKind.key? : TokenKind → Option String
  | .identifier name => some name
  | .string s => some s
  | .true => some "true"
  | .false => some "false"
  | .null => some "null"
  | _ => none

namespace Arguments

/-- **A container that is waiting for the value inside it.** -/
inductive Frame where
  /-- An array, with the elements before that value. -/
  | array (elements : List Value)
  /-- An object, with the members before that value and its key. -/
  | object (members : Document) (key : String)

/-- **What the next token must be.** The containers in `element`, `afterElement`, `key`, `colon` and
`afterMember` are the innermost ones. -/
inductive State where
  /-- A value. -/
  | value
  /-- A value or the end of the array. -/
  | element (elements : List Value)
  /-- A comma or the end of the array. -/
  | afterElement (elements : List Value)
  /-- A key or the end of the object. -/
  | key (members : Document)
  /-- The colon behind a key. -/
  | colon (members : Document) (key : String)
  /-- A comma or the end of the object. -/
  | afterMember (members : Document)

/-- **What the machine does with one token.** -/
inductive Step where
  /-- The token is taken, and reading goes on. -/
  | next (state : State) (stack : List Frame)
  /-- The token is taken and completes the value. -/
  | done (v : Value)
  /-- The token is taken and refused. -/
  | refuse (e : ParseError)
  /-- The token is not what was wanted and is left. -/
  | leave (e : ParseError)

/-- **A complete value** goes into the innermost container, or is the result. -/
def Step.deliver (v : Value) : List Frame → Step
  | [] => .done v
  | .array elements :: stack => .next (.afterElement (elements ++ [v])) stack
  | .object members key :: stack => .next (.afterMember (members.put key v)) stack

/-- **A container opens** inside those of `stack`, unless they are as many as may nest. -/
def Step.enter (state : State) (span : Span) (stack : List Frame) : Step :=
  if stack.length < maxNesting then .next state stack else .refuse (.tooDeep span)

/-- **The first token of a value** inside the containers of `stack`. -/
def Step.begin (t : Token) (stack : List Frame) : Step :=
  match t.kind with
  | .openBrace => .enter (.key []) t.span stack
  | .openBracket => .enter (.element []) t.span stack
  | .string s => .deliver (.string s) stack
  | .integer n => .deliver (.number (.integer n)) stack
  | .float (.finite x) => .deliver (.number (.float x)) stack
  | .float x => .refuse (.nonFinite x t.span)
  | .true => .deliver (.boolean true) stack
  | .false => .deliver (.boolean false) stack
  | .null => .deliver .null stack
  | _ => .refuse (.notValue t)

/-- **The machine on one token.** -/
def step (state : State) (stack : List Frame) (t : Token) : Step :=
  match state with
  | .value => .begin t stack
  | .element elements =>
    match t.kind with
    | .closeBracket => .deliver (.array elements) stack
    | _ => .begin t (.array elements :: stack)
  | .afterElement elements =>
    match t.kind with
    | .comma => .next (.element elements) stack
    | .closeBracket => .deliver (.array elements) stack
    | _ => .leave (.markMissing .closeBracket t)
  | .key members =>
    match t.kind with
    | .closeBrace => .deliver (.object members) stack
    | kind =>
      match kind.key? with
      | some key => .next (.colon members key) stack
      | none => .refuse (.notKey t)
  | .colon members key =>
    match t.kind with
    | .colon => .next .value (.object members key :: stack)
    | _ => .leave (.markMissing .colon t)
  | .afterMember members =>
    match t.kind with
    | .comma => .next (.key members) stack
    | .closeBrace => .deliver (.object members) stack
    | _ => .leave (.markMissing .closeBrace t)

/-- **The error when the tokens end in a state.** -/
def State.atEnd : State → ParseError
  | .value | .element _ => .valueAtEnd
  | .afterElement _ => .markAtEnd .closeBracket
  | .key _ => .keyAtEnd
  | .colon _ _ => .markAtEnd .colon
  | .afterMember _ => .markAtEnd .closeBrace

/-- **The result of reading**, with the tokens that were not taken. -/
structure Outcome (α : Type) where
  result : Except ParseError α
  rest : List Token

/-- **The machine on a list of tokens.** -/
def run (state : State) (stack : List Frame) : List Token → Outcome Value
  | [] => ⟨.error state.atEnd, []⟩
  | t :: ts =>
    match step state stack t with
    | .next state stack => run state stack ts
    | .done v => ⟨.ok v, ts⟩
    | .refuse e => ⟨.error e, ts⟩
    | .leave e => ⟨.error e, t :: ts⟩

/-- **Reads one value.** -/
def readValue (ts : List Token) : Outcome Value :=
  run .value [] ts

/-- A value that was read took at least one token. -/
theorem length_rest_lt_of_run {state : State} {stack : List Frame} {ts : List Token} {v : Value}
    (h : (run state stack ts).result = .ok v) : (run state stack ts).rest.length < ts.length := by
  induction ts generalizing state stack with
  | nil => simp [run] at h
  | cons t ts ih =>
    unfold run at h ⊢
    split at h <;> simp_all only [List.length_cons]
    · exact Nat.lt_succ_of_lt (ih h)
    · omega
    · cases h
    · cases h

/-- **Reads values up to the end of the tokens**, with a comma between any two and perhaps one
behind the last. -/
def read : List Token → Outcome (List Value)
  | [] => ⟨.ok [], []⟩
  | t :: ts =>
    match _h : (readValue (t :: ts)).result with
    | .error e => ⟨.error e, (readValue (t :: ts)).rest⟩
    | .ok v =>
      match _hr : (readValue (t :: ts)).rest with
      | [] => ⟨.ok [v], []⟩
      | c :: rest =>
        if c.kind = .comma then
          let others := read rest
          ⟨others.result.map (v :: ·), others.rest⟩
        else ⟨.error (.markMissing .comma c), c :: rest⟩
termination_by ts => ts.length
decreasing_by
  have hl := length_rest_lt_of_run _h
  have he := congrArg List.length _hr
  simp only [readValue, List.length_cons] at hl he ⊢
  omega

@[simp] theorem read_nil : read [] = ⟨.ok [], []⟩ := by
  simp [read]

/-- **Reading goes argument by argument**: one value, then the end, a comma or a token that should
have been a comma. -/
theorem read_cons (t : Token) (ts : List Token) :
    read (t :: ts) =
      match readValue (t :: ts) with
      | ⟨.error e, rest⟩ => ⟨.error e, rest⟩
      | ⟨.ok v, []⟩ => ⟨.ok [v], []⟩
      | ⟨.ok v, c :: rest⟩ =>
        if c.kind = .comma then ⟨(read rest).result.map (v :: ·), (read rest).rest⟩
        else ⟨.error (.markMissing .comma c), c :: rest⟩ := by
  rw [read]
  generalize hr : readValue (t :: ts) = r
  obtain ⟨result, rest⟩ := r
  cases result with
  | error e => simp
  | ok v => cases rest <;> simp

/-- **Reads an argument text.** -/
def parse (cs : List Char) : Except ParseError (List Value) :=
  (read (Token.lex cs)).result

end Arguments

end FindToSelect
