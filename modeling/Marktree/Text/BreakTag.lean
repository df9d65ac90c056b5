import Marktree.Text.Basic

/-!
# Break tags

The tag `<br>` in any case, with blanks and a slash allowed before the closing bracket, parts
paragraphs.
-/
namespace Marktree.Text

/-- What follows a break tag at the front of a text. -/
def breakTag? : List Char → Option (List Char)
  | '<' :: b :: r :: cs =>
    if b.toLower = 'b' && r.toLower = 'r' then
      match cs.dropWhile isBlank with
      | '/' :: '>' :: rest => some rest
      | '>' :: rest => some rest
      | _ => none
    else none
  | _ => none

theorem length_of_breakTag? {s rest : List Char} (h : breakTag? s = some rest) :
    rest.length < s.length := by
  unfold breakTag? at h
  split at h
  · rename_i b r cs
    have hle := (List.dropWhile_sublist isBlank (l := cs)).length_le
    split at h
    · split at h <;> rename_i heq <;> simp_all <;> omega
    · simp at h
  · simp at h

/-- Every break tag becomes an empty line. -/
def partBreaks (s : List Char) : List Char :=
  match _h : breakTag? s with
  | some rest => '\n' :: '\n' :: partBreaks rest
  | none =>
    match s with
    | [] => []
    | c :: cs => c :: partBreaks cs
termination_by s.length
decreasing_by
  · exact length_of_breakTag? _h
  · simp

end Marktree.Text
