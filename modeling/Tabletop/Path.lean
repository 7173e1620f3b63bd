/-!
# Paths

A path is written with single slashes, without empty parts and without the parts
that stand for the place itself; a part that stands for the place above stays.
Exactly two slashes at the front are kept as they are.
-/

namespace Tabletop
namespace Path

/-- The parts of a path, without those that change nothing. -/
def parts (path : String) : List String :=
  ((path.toList.splitOn '/').filter fun part => part != [] && part != ['.']).map
    String.ofList

/-- The slashes that begin a path: none, one, or exactly two. -/
def root (path : String) : String :=
  match path.toList with
  | '/' :: '/' :: '/' :: _ => "/"
  | '/' :: '/' :: _ => "//"
  | '/' :: _ => "/"
  | _ => ""

/-- The normal form of a path; a point if nothing else is left. -/
def normal (path : String) : String :=
  let written := root path ++ String.intercalate "/" (parts path)
  if written = "" then "." else written

/-- A file in a directory. -/
def child (directory file : String) : String :=
  root directory ++ String.intercalate "/" (parts directory ++ [file])

/-- The place that parts lead to from the start, innermost part first; nothing
above the start has a name. -/
def resolve : List String → Option (List String)
  | parts => parts.foldl (fun place part =>
      match place with
      | none => none
      | some place =>
          if part = ".." then
            match place with
            | [] => none
            | _ :: above => some above
          else some (part :: place)) (some [])

/-- The directories that have to exist for a path, as far as they are below the
start, in order of their names. -/
def directories (path : String) : List String :=
  if root path ≠ "" then []
  else
    let whole := parts path
    let places := (List.range (whole.length + 1)).filterMap fun number =>
      resolve (whole.take number)
    let named := (places.filter (· ≠ [])).map fun place =>
      String.intercalate "/" place.reverse
    named.eraseDups.mergeSort fun left right => decide (left ≤ right)

end Path
end Tabletop
