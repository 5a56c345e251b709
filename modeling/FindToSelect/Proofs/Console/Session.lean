import FindToSelect.Console
import Mathlib.Data.List.DropRight

/-!
# Sessions and arguments

A query can be given as an argument or typed in a session. Either way it gets the same answer.

A session carries one thing from line to line, whether `_id` is renamed, and every line `:id` turns
it over. So what a line gives depends on the lines before it by a parity only: `namingBehind` is the
naming for it, `response` its output, and `session_eq` says that a session gives the responses to
its lines in their order, up to the first line that ends it.

A session cuts the blanks off a line and translates the rest, while an argument is translated as it
stands. That is the same, since a translation cuts the blanks off first (`translate_trimmed`).
-/

namespace FindToSelect

/-! ### Blanks around a query -/

/-- **Cutting the blanks off twice** is cutting them off once. -/
theorem Text.trim_trim (cs : List Char) : trim (trim cs) = trim cs := by
  -- what is left starts with a character that is no blank, as before the end was cut
  have hstart : trimStart (trim cs) = trim cs := by
    cases h : trim cs with
    | nil => rfl
    | cons c rest =>
      -- the blanks at the end were cut off a text that had none at its start
      obtain ⟨more, hmore⟩ := List.rdropWhile_prefix isBlank (trimStart cs)
      change trim cs ++ more = trimStart cs at hmore
      rw [h] at hmore
      have hself := List.dropWhile_idempotent isBlank cs
      change List.dropWhile isBlank (trimStart cs) = trimStart cs at hself
      rw [← hmore, List.cons_append, List.dropWhile_cons] at hself
      split at hself
      · next hblank =>
        have hlen := congrArg List.length hself
        have hle := List.length_dropWhile_le isBlank (rest ++ more)
        rw [List.length_cons] at hlen
        omega
      · next hblank => exact List.dropWhile_cons_of_neg hblank
  rw [trim, hstart]
  exact List.rdropWhile_idempotent isBlank (trimStart cs)

namespace Console

/-- The text of a line without the blanks around it. -/
def trimmed (line : String) : String :=
  String.ofList (Text.trim line.toList)

/-- **Blanks around a query mean nothing**, neither to the statement nor to the failure. -/
theorem translate_trimmed (naming : Naming) (query : String) :
    translate naming (trimmed query) = translate naming query := by
  -- splitting starts by cutting the blanks off
  have hsplit : Invocation.split (trimmed query) = Invocation.split query := by
    rw [Invocation.split, trimmed, String.toList_ofList, Text.trim_trim]
    rfl
  rw [translate, Query.parse, hsplit]
  rfl

/-! ### What the lines of a session give -/

/-- Whether a line ends the session. -/
def quits (line : String) : Bool :=
  trimmed line == ":quit" || trimmed line == ":q"

/-- Whether a line turns the renaming over. -/
def toggles (line : String) : Bool :=
  trimmed line == ":id"

/-- **The naming for the line behind some others**: as at first, or turned over if an odd number of
these turn it over. -/
def namingBehind (rename : Bool) (earlier : List String) : Naming :=
  ⟨rename ^^ (earlier.countP toggles % 2 == 1)⟩

/-- **The output for a line behind some others**, if the session goes that far. -/
def response (rename : Bool) (earlier : List String) (line : String) : List Line :=
  if trimmed line = "" then []
  else if toggles line = true then [toggleLine (toggled (namingBehind rename earlier))]
  else
    match translate (namingBehind rename earlier) (trimmed line) with
    | .ok statement => [.out statement]
    | .error e => [.err ("Error: " ++ e.message)]

/-- The lines up to the first that ends the session. -/
def handled (lines : List String) : List String :=
  lines.takeWhile fun line => !quits line

theorem namingBehind_nil (rename : Bool) : namingBehind rename [] = ⟨rename⟩ := by
  cases rename <;> rfl

/-- **A line more in front** is a session that starts with the renaming behind that line. -/
theorem namingBehind_cons (rename : Bool) (line : String) (earlier : List String) :
    namingBehind rename (line :: earlier) = namingBehind (rename ^^ toggles line) earlier := by
  -- one more line that turns the renaming over changes the parity of their number
  have hparity : ∀ n : Nat, ((n + 1) % 2 == 1) = !(n % 2 == 1) := by
    intro n
    rcases Nat.mod_two_eq_zero_or_one n with h | h
    · rw [h, Nat.add_mod, h]
      rfl
    · rw [h, Nat.add_mod, h]
      rfl
  rw [namingBehind, namingBehind, List.countP_cons]
  cases htoggles : toggles line with
  | false => simp
  | true => simp [hparity]

/-- **One line of a session**: its response, and the renaming turned over if it says so. -/
theorem step_eq (rename : Bool) (line : String) :
    step ⟨rename⟩ line =
      if quits line = true then none
      else some (⟨rename ^^ toggles line⟩, response rename [] line) := by
  -- the four commands are told apart by the text without blanks, as the three predicates do
  have hcommand : Command.ofLine line =
      if trimmed line = "" then .skip
      else if trimmed line = ":quit" ∨ trimmed line = ":q" then .quit
      else if trimmed line = ":id" then .toggle
      else .query (trimmed line) := rfl
  have hquits : quits line = true ↔ trimmed line = ":quit" ∨ trimmed line = ":q" := by
    simp [quits]
  have htoggles : toggles line = true ↔ trimmed line = ":id" := by
    simp [toggles]
  rw [step, hcommand, response, namingBehind_nil]
  simp only [hquits, htoggles]
  -- the commands exclude each other, so each case is one branch on both sides
  by_cases hblank : trimmed line = ""
  · have htoggle : toggles line = false := by
      rw [toggles, hblank]
      rfl
    simp [hblank, htoggle]
  rw [if_neg hblank, if_neg hblank]
  by_cases hquit : trimmed line = ":quit" ∨ trimmed line = ":q"
  · rw [if_pos hquit, if_pos hquit]
  rw [if_neg hquit, if_neg hquit]
  by_cases hid : trimmed line = ":id"
  · rw [if_pos hid, if_pos hid, htoggles.2 hid]
    simp [toggled]
  · have htoggle : toggles line = false := by
      rw [Bool.eq_false_iff, Ne, htoggles]
      exact hid
    rw [if_neg hid, if_neg hid, htoggle, Bool.xor_false]
    simp only [answer]
    cases translate ⟨rename⟩ (trimmed line) <;> rfl

/-- The first line acts on the lines behind it through the renaming only. -/
theorem response_cons (rename : Bool) (first line : String) (earlier : List String) :
    response rename (first :: earlier) line = response (rename ^^ toggles first) earlier line := by
  rw [response, response, namingBehind_cons]

/-- **A session gives the responses to its lines in their order.** -/
theorem session_eq (rename : Bool) (lines : List String) :
    session ⟨rename⟩ (lines.map some) =
      ⟨((handled lines).mapIdx fun k line => response rename ((handled lines).take k) line).flatten,
        0⟩ := by
  induction lines generalizing rename with
  | nil => rfl
  | cons line lines ih =>
    rw [List.map_cons, session, step_eq]
    cases hquits : quits line with
    | true =>
      -- the session ends here, so nothing is handled any more
      have hhandled : handled (line :: lines) = [] := by
        rw [handled, List.takeWhile_cons, hquits]
        rfl
      rw [hhandled]
      rfl
    | false =>
      have hhandled : handled (line :: lines) = line :: handled lines := by
        rw [handled, List.takeWhile_cons, hquits]
        rfl
      -- behind this line, every response is as in a session that starts with its naming
      rw [hhandled, List.mapIdx_cons, List.flatten_cons, List.take_zero]
      simp only [List.take_succ_cons, response_cons]
      rw [if_neg Bool.false_ne_true]
      simp only [ih]
      rfl

/-! ### Lines -/

/-- A line and its line feed are the first line of a text. -/
theorem linesOf_append {line : List Char} (h : '\n' ∉ line) (rest : List Char) :
    linesOf (line ++ '\n' :: rest) = line :: linesOf rest := by
  induction line with
  | nil => rfl
  | cons c line ih =>
    rw [List.mem_cons, not_or] at h
    rw [List.cons_append, linesOf, if_neg (Ne.symm h.1), ih h.2]

/-- A text without a line feed is one line, unless it is empty. -/
theorem linesOf_of_notMem {line : List Char} (hne : line ≠ []) (h : '\n' ∉ line) :
    linesOf line = [line] := by
  induction line with
  | nil => exact absurd rfl hne
  | cons c line ih =>
    rw [List.mem_cons, not_or] at h
    rw [linesOf, if_neg (Ne.symm h.1)]
    cases line with
    | nil => rfl
    | cons d line => rw [ih (List.cons_ne_nil d line) h.2]

/-- **Lines that are put together are taken apart again**, with a line feed behind the last or
without. -/
theorem linesOf_joined {lines : List (List Char)} (h : ∀ line ∈ lines, line ≠ [] ∧ '\n' ∉ line)
    (hne : lines ≠ []) {ending : List Char} (hending : ending = [] ∨ ending = ['\n']) :
    linesOf (Text.joined ['\n'] lines ++ ending) = lines := by
  induction lines with
  | nil => exact absurd rfl hne
  | cons line lines ih =>
    rw [List.forall_mem_cons] at h
    cases lines with
    | nil =>
      -- the last line ends the text, or has a line feed behind it like the others
      rcases hending with rfl | rfl
      · rw [Text.joined_singleton, List.append_nil, linesOf_of_notMem h.1.1 h.1.2]
      · rw [Text.joined_singleton, linesOf_append h.1.2]
        rfl
    | cons next lines =>
      rw [Text.joined_cons_cons, List.append_assoc, List.append_assoc, List.singleton_append,
        linesOf_append h.1.2, ih h.2 (List.cons_ne_nil next lines)]

/-! ### Queries -/

/-- A line that is neither blank nor a command. -/
def IsQuery (line : String) : Prop :=
  trimmed line ∉ ["", ":quit", ":q", ":id"]

theorem IsQuery.toList_ne_nil {line : String} (h : IsQuery line) : line.toList ≠ [] := by
  intro hnil
  refine h ?_
  rw [trimmed, hnil]
  exact List.mem_cons_self

/-- **A query gets the answer that it gets as an argument.** -/
theorem response_of_isQuery (rename : Bool) {query : String} (h : IsQuery query) :
    response rename [] query = [answer ⟨rename⟩ query] := by
  simp only [IsQuery, List.mem_cons, List.not_mem_nil, or_false, not_or] at h
  have htoggle : ¬ toggles query = true := by
    rw [toggles, beq_iff_eq]
    exact h.2.2.2
  rw [response, if_neg h.1, if_neg htoggle, namingBehind_nil, translate_trimmed, answer]
  cases translate ⟨rename⟩ query <;> rfl

/-- **A session of queries gives their answers.** -/
theorem session_queries (rename : Bool) {queries : List String} (h : ∀ q ∈ queries, IsQuery q) :
    session ⟨rename⟩ (queries.map some) = ⟨queries.map (answer ⟨rename⟩), 0⟩ := by
  induction queries with
  | nil => rfl
  | cons query queries ih =>
    rw [List.forall_mem_cons] at h
    have hquery := h.1
    simp only [IsQuery, List.mem_cons, List.not_mem_nil, or_false, not_or] at hquery
    -- a query is none of the commands, so the session goes on with the same renaming
    have hquits : ¬ quits query = true := by
      simp [quits, hquery]
    have htoggle : toggles query = false := by
      simp [toggles, hquery]
    rw [List.map_cons, session, step_eq, if_neg hquits, response_of_isQuery rename h.1, htoggle,
      Bool.xor_false]
    simp only [ih h.2]
    rfl

/-- A line without a backspace is delivered as it stands. -/
theorem meantLine_of_notMem {line : String} (h : Text.backspace ∉ line.toList) :
    meantLine line.toList = some line := by
  rw [meantLine, Text.typed?_of_not_mem h, Option.map_some, String.ofList_toList]

-- a backspace is carried out, while in an argument it is a character like any other
example : meantLine "db.x\x08u.find()".toList = some "db.u.find()" := by decide +kernel

/-- Flags are no queries. -/
theorem queriesOf_of_forall_eq {flags : List String} (h : ∀ flag ∈ flags, flag = renameFlag) :
    queriesOf flags = [] := by
  rw [queriesOf, List.filter_eq_nil_iff]
  intro flag hflag
  rw [h flag hflag]
  simp

/-- **The program without queries is a session.** -/
theorem invoke_flags {file : Settings.File} {settings : Settings}
    (hsettings : startSettings file = .ok settings) {flags : List String}
    (hflags : ∀ flag ∈ flags, flag = renameFlag) {input : String} {lines : List String}
    (hlines : (linesOf input.toList).map meantLine = lines.map some) :
    invoke file flags input =
      (session ⟨settings.renameId || flags.contains renameFlag⟩ (lines.map some)).after banner := by
  rw [invoke, hsettings]
  simp only [queriesOf_of_forall_eq hflags, hlines]
  rfl

/-- **The program with queries answers them.** -/
theorem invoke_queries {file : Settings.File} {settings : Settings}
    (hsettings : startSettings file = .ok settings) {arguments : List String}
    (hqueries : queriesOf arguments ≠ []) (input : String) :
    invoke file arguments input =
      ⟨(queriesOf arguments).map
        (answer ⟨settings.renameId || arguments.contains renameFlag⟩), 0⟩ := by
  rw [invoke, hsettings]
  cases h : queriesOf arguments with
  | nil => exact absurd h hqueries
  | cons query queries => rfl

/-- **A session and the arguments are the same translator.** A session gives the responses to its
lines in their order, up to the first line that ends it. And `queries` that are typed one on each
line get what they get as arguments, wherever `--rename-id` stands among them: the same output
behind the banner, the same errors, the same exit code. That is for lines that are delivered as they
are typed, as those without backspaces are. -/
theorem session_agrees_with_arguments :
    (∀ (file : Settings.File) (settings : Settings) (flags : List String) (input : String)
        (lines : List String),
      startSettings file = .ok settings → (∀ flag ∈ flags, flag = "--rename-id") →
      (linesOf input.toList).map meantLine = lines.map some →
      invoke file flags input =
        ⟨banner ++ ((handled lines).mapIdx fun k line =>
            response (settings.renameId || flags.contains "--rename-id")
              ((handled lines).take k) line).flatten, 0⟩) ∧
    (∀ line : String, Text.backspace ∉ line.toList → meantLine line.toList = some line) ∧
    (∀ (file : Settings.File) (queries arguments flags : List String) (input unread : String),
      queries ≠ [] → (∀ q ∈ queries, IsQuery q ∧ '\n' ∉ q.toList ∧ meantLine q.toList = some q) →
      arguments.filter (· != "--rename-id") = queries →
      (∃ ending, (ending = [] ∨ ending = ['\n']) ∧
        input.toList = Text.joined ['\n'] (queries.map String.toList) ++ ending) →
      (∀ flag ∈ flags, flag = "--rename-id") →
      ("--rename-id" ∈ flags ↔ "--rename-id" ∈ arguments) →
      let typed := invoke file flags input
      let called := invoke file arguments unread
      outputs typed.lines =
          (if (startSettings file).isOk then outputs banner else []) ++ outputs called.lines ∧
        errors typed.lines = errors called.lines ∧ typed.exit = called.exit) := by
  refine ⟨?_, fun _ => meantLine_of_notMem, ?_⟩
  · intro file settings flags input lines hsettings hflags hlines
    rw [invoke_flags hsettings hflags hlines, session_eq]
    rfl
  · rintro file queries arguments flags input unread hne hqueries hnamed ⟨ending, hending, hinput⟩
      hflags hsame
    -- the queries are those that the program finds among its arguments
    obtain rfl : queriesOf arguments = queries := hnamed
    cases hsettings : startSettings file with
    | error e =>
      -- both runs end before they look at a query
      have hrun : ∀ as text, invoke file as text = ⟨[loadFailure], 1⟩ := by
        intro as text
        rw [invoke, hsettings]
      rw [hrun, hrun]
      exact ⟨rfl, rfl, rfl⟩
    | ok settings =>
      -- the lines of the input are the queries, and the session answers each as an argument
      have hparts : ∀ line ∈ (queriesOf arguments).map String.toList, line ≠ [] ∧ '\n' ∉ line := by
        intro line hline
        obtain ⟨q, hq, rfl⟩ := List.mem_map.1 hline
        exact ⟨(hqueries q hq).1.toList_ne_nil, (hqueries q hq).2.1⟩
      have hlines : (linesOf input.toList).map meantLine = (queriesOf arguments).map some := by
        rw [hinput, linesOf_joined hparts (by simpa using hne) hending, List.map_map]
        exact List.map_congr_left fun q hq => (hqueries q hq).2.2
      have hflag : flags.contains renameFlag = arguments.contains renameFlag := by
        rw [Bool.eq_iff_iff, List.contains_iff_mem, List.contains_iff_mem]
        exact hsame
      have hruns : invoke file flags input = (invoke file arguments unread).after banner := by
        rw [invoke_flags hsettings hflags hlines, session_queries _ fun q hq => (hqueries q hq).1,
          invoke_queries hsettings hne, hflag]
      rw [hruns]
      exact ⟨List.filterMap_append, List.filterMap_append, rfl⟩

/-- A session that turns the renaming over and ends before its last line; and two queries, one of
them refused, typed with the renaming on. -/
theorem session_agrees_with_arguments_two_queries :
    invoke .missing [] ":id\ndb.u.find()\n :q\noops" =
        ⟨banner ++ (response false [] ":id" ++ response false [":id"] "db.u.find()"), 0⟩ ∧
    (let typed := invoke .missing ["--rename-id"] " db.u.find() \noops"
     let called := invoke .missing [" db.u.find() ", "--rename-id", "oops"] ""
     outputs typed.lines = outputs banner ++ outputs called.lines ∧
       errors typed.lines = errors called.lines ∧ typed.exit = called.exit) := by
  obtain ⟨hsession, hdelivered, hagree⟩ := session_agrees_with_arguments
  constructor
  · have htext : linesOf ":id\ndb.u.find()\n :q\noops".toList =
        [":id", "db.u.find()", " :q", "oops"].map String.toList := by decide +kernel
    have hclean : ∀ line ∈ [":id", "db.u.find()", " :q", "oops"],
        Text.backspace ∉ line.toList := by decide +kernel
    have hlines : (linesOf ":id\ndb.u.find()\n :q\noops".toList).map meantLine =
        [":id", "db.u.find()", " :q", "oops"].map some := by
      rw [htext, List.map_map]
      exact List.map_congr_left fun line hline => hdelivered line (hclean line hline)
    have hhandled : handled [":id", "db.u.find()", " :q", "oops"] = [":id", "db.u.find()"] := by
      decide +kernel
    have hrun := hsession .missing {} [] _ _ rfl (by simp) hlines
    rw [hhandled] at hrun
    simpa using hrun
  · have hclean : ∀ q ∈ [" db.u.find() ", "oops"], trimmed q ∉ ["", ":quit", ":q", ":id"] ∧
        '\n' ∉ q.toList ∧ Text.backspace ∉ q.toList := by decide +kernel
    refine hagree .missing [" db.u.find() ", "oops"] _ _ _ "" (by simp) (fun q hq => ?_)
      (by decide +kernel) ⟨[], Or.inl rfl, by decide +kernel⟩ (by simp) (by simp)
    obtain ⟨hquery, hfeed, hbackspace⟩ := hclean q hq
    exact ⟨hquery, hfeed, hdelivered q hbackspace⟩

end Console

end FindToSelect
