/-!
# Texts put together with a separator
-/

namespace FindToSelect.Text

/-- **The texts in order, with `separator` between any two.** -/
def joined (separator : List Char) : List (List Char) → List Char
  | [] => []
  | [x] => x
  | x :: y :: rest => x ++ separator ++ joined separator (y :: rest)

@[simp] theorem joined_nil (separator : List Char) : joined separator [] = [] := rfl

@[simp] theorem joined_singleton (separator x : List Char) : joined separator [x] = x := rfl

@[simp] theorem joined_cons_cons (separator x y : List Char) (rest : List (List Char)) :
    joined separator (x :: y :: rest) = x ++ separator ++ joined separator (y :: rest) := rfl

end FindToSelect.Text
