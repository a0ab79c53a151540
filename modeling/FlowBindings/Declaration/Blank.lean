/-!
# Blanks and comments

What may stand between two tokens of a declaration: spaces, line breaks and the
two kinds of comment. A `//` comment ends before the first newline that is not
escaped by a backslash; a `/*` comment ends after the first `*/`, and without
one it is no comment at all. Tabs never reach this module: `expandTabs` has
turned them into spaces, so that columns count what a reader sees.
-/

namespace FlowBindings.Declaration

/-- Replace each tab by blanks up to the next column that is a multiple of
eight; `column` counts from the last line break. -/
def expandTabs : (column : Nat) → List Char → List Char
  | _, [] => []
  | column, c :: rest =>
    if c == '\t' then
      List.replicate (8 - column % 8) ' ' ++ expandTabs (column + (8 - column % 8)) rest
    else if c == '\n' || c == '\r' then
      c :: expandTabs 0 rest
    else
      c :: expandTabs (column + 1) rest

def isSpace (c : Char) : Bool :=
  c == ' ' || c == '\n' || c == '\t' || c == '\r'

/-- What follows the text of a `//` comment: nothing, or its newline. A newline
behind a backslash belongs to the comment. -/
def afterLine : List Char → List Char
  | [] => []
  | '\\' :: '\n' :: rest => afterLine rest
  | '\n' :: rest => '\n' :: rest
  | _ :: rest => afterLine rest

/-- What follows the first `*/`, if there is one. -/
def afterBlock? : List Char → Option (List Char)
  | [] => none
  | '*' :: '/' :: rest => some rest
  | _ :: rest => afterBlock? rest

theorem length_afterLine_le (cs : List Char) : (afterLine cs).length ≤ cs.length := by
  fun_induction afterLine cs <;> simp_all <;> omega

theorem length_lt_of_afterBlock? {cs rest : List Char} (h : afterBlock? cs = some rest) :
    rest.length < cs.length := by
  fun_induction afterBlock? cs with
  | case1 => simp at h
  | case2 r =>
    obtain rfl : r = rest := by simpa using h
    simp only [List.length_cons]
    omega
  | case3 c r _ ih => have := ih h; simp; omega

/-- What remains after all blanks and comments at the front. -/
def skipBlanks (cs : List Char) : List Char :=
  match cs with
  | [] => []
  | '/' :: '/' :: rest => skipBlanks (afterLine rest)
  | '/' :: '*' :: rest =>
    match h : afterBlock? rest with
    | some after => skipBlanks after
    | none => '/' :: '*' :: rest
  | c :: rest => if isSpace c then skipBlanks rest else c :: rest
termination_by cs.length
decreasing_by
  · have := length_afterLine_le rest
    simp; omega
  · have := length_lt_of_afterBlock? h
    simp; omega
  · simp

end FlowBindings.Declaration
