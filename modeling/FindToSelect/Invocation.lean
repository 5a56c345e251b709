import FindToSelect.Failure
import FindToSelect.Text.Blank
import FindToSelect.Token.Trivia

/-!
# Invocations

The text of a query is an invocation `db.<collection>.find(<arguments>)`, between blanks.
`Invocation.split` takes it apart from left to right and stops at the first thing that is missing.

The argument list ends at the parenthesis that closes the first one. `closing?` finds it:
parentheses in quoted text and in comments do not count. Quoted text ends at its quote, a backslash
taking the next character along. This is a scan of its own, which knows nothing of tokens.

Text behind the argument list means nothing. A semicolon there is expected; anything else is kept in
`ignored`, for a warning.
-/

namespace FindToSelect

/-- **An invocation**: the collection, the text between the parentheses, and the text behind them
that is ignored, if there is any. -/
structure Invocation where
  collection : String
  arguments : String
  ignored : Option String
deriving DecidableEq

/-- The method that an invocation calls. -/
def findMethod : String := "find"

/-- **The texts before and behind the first `c`.** -/
def splitFirst? (c : Char) : List Char → Option (List Char × List Char)
  | [] => none
  | d :: rest =>
    if d = c then some ([], rest)
    else (splitFirst? c rest).map fun p => (d :: p.1, p.2)

/-- **The length of quoted text** up to and with its closing `quote`, or of all the text if it is
not closed. -/
def quotedLength (quote : Char) : List Char → Nat
  | [] => 0
  | c :: cs =>
    if c = quote then 1
    else if c = '\\' then
      match cs with
      | [] => 1
      | _ :: rest => quotedLength quote rest + 2
    else quotedLength quote cs + 1

/-- The length of the text up to and with the first slash right behind a star, or of all the text if
there is none. `star` says whether a star stands right before the text. -/
def starredLength (star : Bool) : List Char → Nat
  | [] => 0
  | c :: cs => if star ∧ c = '/' then 1 else starredLength (c == '*') cs + 1

/-- **The length of a comment behind its first slash**, and nothing if that slash opens none. -/
def skippedLength : List Char → Nat
  | [] => 0
  | c :: cs =>
    if c = '/' then Trivia.lineLength (c :: cs)
    else if c = '*' then starredLength false cs + 1
    else 0

/-- **The number of characters before the closing parenthesis**, with `depth` other parentheses open
inside. -/
def closing? (depth : Nat) : List Char → Option Nat
  | [] => none
  | c :: cs =>
    if c = '"' ∨ c = '\'' then
      let n := quotedLength c cs
      (closing? depth (cs.drop n)).map (· + n + 1)
    else if c = '/' then
      let n := skippedLength cs
      (closing? depth (cs.drop n)).map (· + n + 1)
    else if c = '(' then (closing? (depth + 1) cs).map (· + 1)
    else if c = ')' then
      match depth with
      | 0 => some 0
      | depth + 1 => (closing? depth cs).map (· + 1)
    else (closing? depth cs).map (· + 1)
termination_by cs => cs.length
decreasing_by
  all_goals simp only [List.length_cons, List.length_drop]
  all_goals omega

/-- **The text behind the argument list that is ignored**: all but the blanks around it and one
semicolon at its end, if anything is left. -/
def ignoredText (cs : List Char) : Option String :=
  let trimmed := Text.trimEnd cs
  let unmarked := if trimmed.getLast? = some ';' then trimmed.dropLast else trimmed
  match Text.trim unmarked with
  | [] => none
  | text => some (String.ofList text)

namespace Invocation

/-- The argument list with its parentheses. -/
def argumentText (i : Invocation) : String :=
  "(" ++ i.arguments ++ ")"

/-- **Takes the text behind the collection apart**: the method call. -/
def ofCall (collection call : List Char) : Except Failure Invocation :=
  match splitFirst? '(' call with
  | none => .error (.malformed .noParentheses)
  | some (method, rest) =>
    if method ≠ findMethod.toList then .error (.unsupportedMethod (String.ofList method))
    else
      match closing? 0 rest with
      | none => .error .unbalanced
      | some n =>
        .ok ⟨String.ofList collection, String.ofList (rest.take n), ignoredText (rest.drop (n + 1))⟩

/-- **Takes the text of a query apart**, the blanks around it removed. -/
def ofText (text : List Char) : Except Failure Invocation :=
  if text = [] then .error .emptyQuery
  else
    match splitFirst? '.' text with
    | none => .error (.malformed .notInvocation)
    | some (start, rest) =>
      if start ≠ ['d', 'b'] then .error (.malformed (.wrongStart (String.ofList start)))
      else
        match splitFirst? '.' rest with
        | none => .error (.malformed .noMethodCall)
        | some (collection, call) =>
          if collection = [] then .error .noCollection else ofCall collection call

/-- **Takes a query apart.** -/
def split (query : String) : Except Failure Invocation :=
  ofText (Text.trim query.toList)

end Invocation

end FindToSelect
