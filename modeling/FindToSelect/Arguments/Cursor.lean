import FindToSelect.Arguments.Reader

/-!
# Reading by calls

A cursor stands at a place in a list of tokens. A call on it reads one value or a whole argument
list from there on and leaves it at another place, where the next call starts, whether the first one
succeeded or not. A cursor also counts the objects and arrays that are open where it stands.

The calls go down into containers by recursion, where the machine of `Arguments.run` keeps a stack:

* `Cursor.value` and `Cursor.arguments` are the two calls, `Cursor.call` is either of them, and
  `Cursor.after` is the cursor behind a sequence of calls;
* `Cursor.elements` and `Cursor.members` read what stands inside a container, and `Cursor.nested`
  raises the counter before that and lowers it behind it, or refuses to go deeper;
* `Reply.bind` leaves on the first error, from whatever depth.

A `Reply` carries the proof that its cursor stands in the same tokens and has not gone back, which
is also why the loops over elements and members come to an end.
-/

namespace FindToSelect.Arguments

/-- **A place in a list of tokens**, and the number of containers that are open there. -/
structure Cursor where
  tokens : List Token
  position : Nat
  depth : Nat

namespace Cursor

/-- A cursor before the first of some tokens. -/
def start (ts : List Token) : Cursor :=
  ⟨ts, 0, 0⟩

/-- The token at the cursor. -/
def peek? (c : Cursor) : Option Token :=
  c.tokens[c.position]?

/-- Whether a token of the kind `kind` stands at the cursor. -/
def sees (c : Cursor) (kind : TokenKind) : Bool :=
  match c.peek? with
  | some t => t.kind = kind
  | none => false

/-- The cursor behind the next token. -/
def advance (c : Cursor) : Cursor :=
  { c with position := c.position + 1 }

/-- The cursor inside one more container. -/
def enter (c : Cursor) : Cursor :=
  { c with depth := c.depth + 1 }

/-- The cursor outside the innermost container. -/
def leave (c : Cursor) : Cursor :=
  { c with depth := c.depth - 1 }

/-- The number of tokens from the cursor on. -/
def left (c : Cursor) : Nat :=
  c.tokens.length - c.position

/-- **The cursor `d` stands in the tokens of `c`**, not before `c`, and within the tokens if `c`
does. -/
structure Follows (d c : Cursor) : Prop where
  tokens : d.tokens = c.tokens
  le : c.position ≤ d.position
  bound : c.position ≤ c.tokens.length → d.position ≤ c.tokens.length

theorem Follows.refl (c : Cursor) : c.Follows c :=
  ⟨rfl, Nat.le_refl _, id⟩

theorem Follows.trans {c d e : Cursor} (h : e.Follows d) (h' : d.Follows c) : e.Follows c :=
  ⟨h.tokens.trans h'.tokens, Nat.le_trans h'.le h.le,
    fun hc => h'.tokens ▸ h.bound (h'.tokens ▸ h'.bound hc)⟩

theorem Follows.left_le {c d : Cursor} (h : d.Follows c) : d.left ≤ c.left := by
  have hle := h.le
  simp only [left, h.tokens]
  omega

theorem lt_of_peek? {c : Cursor} {t : Token} (h : c.peek? = some t) :
    c.position < c.tokens.length :=
  (List.getElem?_eq_some_iff.1 h).1

theorem exists_of_sees {c : Cursor} {kind : TokenKind} (h : c.sees kind = true) :
    ∃ t, c.peek? = some t ∧ t.kind = kind := by
  unfold sees at h
  split at h
  · next t ht => exact ⟨t, ht, of_decide_eq_true h⟩
  · cases h

theorem lt_of_sees {c : Cursor} {kind : TokenKind} (h : c.sees kind = true) :
    c.position < c.tokens.length := by
  obtain ⟨t, ht, -⟩ := exists_of_sees h
  exact lt_of_peek? ht

theorem follows_advance {c : Cursor} (h : c.position < c.tokens.length) : c.advance.Follows c :=
  ⟨rfl, Nat.le_succ _, fun _ => h⟩

/-- Behind a token fewer tokens are left. -/
theorem left_advance_lt {c : Cursor} (h : c.position < c.tokens.length) :
    c.advance.left < c.left := by
  simp only [left, advance]
  omega

end Cursor

/-- **What a call gives**: its result and the cursor that it leaves. -/
structure Reply (α : Type) (c : Cursor) where
  result : Except ParseError α
  cursor : Cursor
  follows : cursor.Follows c

namespace Reply

variable {α : Type} {c d : Cursor}

/-- A reply that leaves the cursor where it stands. -/
def stay (c : Cursor) (result : Except ParseError α) : Reply α c :=
  ⟨result, c, .refl c⟩

/-- A reply that takes one token. -/
def take (h : c.position < c.tokens.length) (result : Except ParseError α) : Reply α c :=
  ⟨result, c.advance, Cursor.follows_advance h⟩

/-- The reply of a later cursor. -/
def behind (r : Reply α d) (h : d.Follows c) : Reply α c :=
  ⟨r.result, r.cursor, r.follows.trans h⟩

/-- **Goes on from a reply** where it has a result; an error is passed on, with its cursor. -/
def bind {β : Type} (r : Reply α c) (next : α → (d : Cursor) → d.Follows c → Reply β d) :
    Reply β c :=
  match r.result with
  | .error e => ⟨.error e, r.cursor, r.follows⟩
  | .ok a => (next a r.cursor r.follows).behind r.follows

end Reply

namespace Cursor

/-- **A mark of the kind `kind`** must stand at the cursor and is taken. -/
def expect (c : Cursor) (kind : TokenKind) : Reply Unit c :=
  match h : c.peek? with
  | none => .stay c (.error (.markAtEnd kind))
  | some t =>
    if t.kind = kind then .take (lt_of_peek? h) (.ok ())
    else .stay c (.error (.markMissing kind t))

/-- **Behind an item of a container**: a comma and what follows it, or the mark of the kind `kind`,
which closes the container `v`. -/
def afterItem (c : Cursor) (kind : TokenKind) (v : Value)
    (others : c.sees .comma = true → Reply Value c.advance) : Reply Value c :=
  if h : c.sees .comma = true then (others h).behind (follows_advance (lt_of_sees h))
  else (c.expect kind).bind fun _ d _ => .stay d (.ok v)

/-- **A container**, whose first token `t` stands at the cursor: what is inside it is read one level
deeper. -/
def nested (c : Cursor) {t : Token} (h : c.peek? = some t)
    (body : Unit → Reply Value c.advance.enter) : Reply Value c :=
  if c.depth < maxNesting then
    let r := body ()
    ⟨r.result, r.cursor.leave,
      ⟨r.follows.tokens, Nat.le_trans (Nat.le_succ _) r.follows.le,
        fun _ => r.follows.bound (lt_of_peek? h)⟩⟩
  else .take (lt_of_peek? h) (.error (.tooDeep t.span))

mutual

/-- **Reads one value.** -/
def value (c : Cursor) : Reply Value c :=
  match h : c.peek? with
  | none => .stay c (.error .valueAtEnd)
  | some t =>
    have hlt := lt_of_peek? h
    match t.kind with
    | .openBrace => c.nested h fun _ => members c.advance.enter []
    | .openBracket => c.nested h fun _ => elements c.advance.enter []
    | .string s => .take hlt (.ok (.string s))
    | .integer n => .take hlt (.ok (.number (.integer n)))
    | .float (.finite x) => .take hlt (.ok (.number (.float x)))
    | .float x => .take hlt (.error (.nonFinite x t.span))
    | .true => .take hlt (.ok (.boolean true))
    | .false => .take hlt (.ok (.boolean false))
    | .null => .take hlt (.ok .null)
    | _ => .take hlt (.error (.notValue t))
termination_by (c.left, 0)
decreasing_by
  all_goals exact Prod.Lex.left _ _ (left_advance_lt (lt_of_peek? h))

/-- **Reads the elements of an array** behind the elements `vs`, and its closing bracket. -/
def elements (c : Cursor) (vs : List Value) : Reply Value c :=
  if hclose : c.sees .closeBracket = true then .take (lt_of_sees hclose) (.ok (.array vs))
  else
    (value c).bind fun v d _hd =>
      d.afterItem .closeBracket (.array (vs ++ [v])) fun _hcomma => elements d.advance (vs ++ [v])
termination_by (c.left, 1)
decreasing_by
  · exact Prod.Lex.right _ Nat.zero_lt_one
  · exact Prod.Lex.left _ _ (Nat.lt_of_lt_of_le (left_advance_lt (lt_of_sees _hcomma)) _hd.left_le)

/-- **Reads the members of an object** behind the members `ms`, and its closing brace. -/
def members (c : Cursor) (ms : Document) : Reply Value c :=
  match h : c.peek? with
  | none => .stay c (.error .keyAtEnd)
  | some t =>
    have hlt := lt_of_peek? h
    match t.kind with
    | .closeBrace => .take hlt (.ok (.object ms))
    | kind =>
      match kind.key? with
      | none => .take hlt (.error (.notKey t))
      | some key =>
        let r := (c.advance.expect .colon).bind fun _ d _hd =>
          (value d).bind fun v e _he =>
            e.afterItem .closeBrace (.object (ms.put key v)) fun _hcomma =>
              members e.advance (ms.put key v)
        r.behind (follows_advance hlt)
termination_by (c.left, 1)
decreasing_by
  · exact Prod.Lex.left _ _ (Nat.lt_of_le_of_lt _hd.left_le (left_advance_lt hlt))
  · exact Prod.Lex.left _ _ (Nat.lt_of_lt_of_le (left_advance_lt (lt_of_sees _hcomma))
      (Nat.le_trans (_he.trans _hd).left_le (Nat.le_of_lt (left_advance_lt hlt))))

end

/-- **Reads values up to the end of the tokens**, with a comma between any two and perhaps one
behind the last. -/
def arguments (c : Cursor) : Reply (List Value) c :=
  match c.peek? with
  | none => .stay c (.ok [])
  | some _ =>
    c.value.bind fun v d _hd =>
      match h : d.peek? with
      | none => .stay d (.ok [v])
      | some t =>
        if t.kind = .comma then
          let others := d.advance.arguments.bind fun vs e _ => .stay e (.ok (v :: vs))
          others.behind (follows_advance (lt_of_peek? h))
        else .stay d (.error (.markMissing .comma t))
termination_by c.left
decreasing_by
  exact Nat.lt_of_lt_of_le (left_advance_lt (lt_of_peek? h)) _hd.left_le

end Cursor

/-- **The calls on a cursor.** -/
inductive Call where
  /-- Read one value. -/
  | value
  /-- Read all arguments. -/
  | arguments
deriving DecidableEq

/-- What a call reads. -/
def Call.Result : Call → Type
  | .value => Value
  | .arguments => List Value

namespace Cursor

/-- **One call.** -/
def call (c : Cursor) : (k : Call) → Reply k.Result c
  | .value => c.value
  | .arguments => c.arguments

/-- **The cursor behind a sequence of calls**, whether they succeed or fail. -/
def after (c : Cursor) (ks : List Call) : Cursor :=
  ks.foldl (fun d k => (d.call k).cursor) c

end Cursor

end FindToSelect.Arguments
