/-!
# Paths

A key may be a path: names that are divided by points or stand in square brackets.
-/

namespace Chip8.Settings

/-- The parts of a key after the first: each follows a point or stands in square brackets, and
what does neither is passed over. -/
def furtherParts (cs : List Char) : List String :=
  match cs with
  | [] => []
  | '.' :: rest =>
    let part := rest.takeWhile fun c => c != '.' && c != '['
    String.ofList part :: furtherParts (rest.drop part.length)
  | '[' :: rest =>
    let part := rest.takeWhile fun c => c != ']' && c != '\n'
    if rest[part.length]? = some ']' then
      String.ofList part :: furtherParts (rest.drop (part.length + 1))
    else furtherParts rest
  | _ :: rest => furtherParts rest
termination_by cs.length
decreasing_by
  all_goals
    simp only [List.length_cons, List.length_drop]
    omega

/-- The parts of a key.  Each point at its start is a part of its own, an empty one, and a key
that starts with a bracket has no part before it. -/
def keyParts (key : String) : List String :=
  let cs := key.toList
  let points := cs.takeWhile (· == '.')
  let first := (cs.drop points.length).takeWhile fun c => c != '.' && c != '['
  let rest := cs.drop (points.length + first.length)
  let empties := List.replicate points.length ""
  if first.isEmpty && !rest.isEmpty then empties ++ furtherParts rest
  else empties ++ String.ofList first :: furtherParts rest

end Chip8.Settings
