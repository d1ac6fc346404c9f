import SpaceVeins.Shared.CxxString

/-!
# The lines of a text file

`std::getline` called until it fails. The last line need not end with a newline,
and nothing is read after the last newline. A line that does not fit into a
string makes the call fail, so nothing is read from there on.
-/

set_option autoImplicit false

namespace CxxString

/-- The text between the newlines. -/
def splitLines : List Char → List (List Char)
  | [] => []
  | c :: rest =>
    if c = '\n' then [] :: splitLines rest
    else
      match splitLines rest with
      | [] => [[c]]
      | line :: lines => (c :: line) :: lines

/-- The lines in front of the first one that is too long. -/
def readable : List (List Char) → List StdString
  | [] => []
  | line :: lines => if h : line.length < npos then ⟨line, h⟩ :: readable lines else []

/-- What the calls of `std::getline` on this file yield before the first one that fails. -/
def getlines (file : List Char) : List StdString := readable (splitLines file)

theorem splitLines_append {line : List Char} (h : '\n' ∉ line) (rest : List Char) :
    splitLines (line ++ '\n' :: rest) = line :: splitLines rest := by
  induction line with
  | nil => simp [splitLines]
  | cons c line ih =>
    rw [List.mem_cons, not_or] at h
    rw [List.cons_append, splitLines, if_neg (Ne.symm h.1), ih h.2]

theorem getlines_append {line : StdString} (h : '\n' ∉ line.chars) (rest : List Char) :
    getlines (line.chars ++ '\n' :: rest) = line :: getlines rest := by
  rw [getlines, splitLines_append h, readable, dif_pos line.length_lt]
  rfl

end CxxString
