import NodeGroups.Url.Domain
import NodeGroups.Url.Percent

namespace NodeGroups.Url.Path

/-- One step of a path, in its escaped form. -/
abbrev Segment := List Char

def isCurrent (s : Segment) : Bool :=
  let t := s.map asciiLower
  t = ['.'] || t = ['%', '2', 'e']

def isParent (s : Segment) : Bool :=
  let t := s.map asciiLower
  t = ['.', '.'] || t = ['.', '%', '2', 'e'] || t = ['%', '2', 'e', '.'] ||
    t = ['%', '2', 'e', '%', '2', 'e']

/-- A drive letter, which no step to the parent leaves. -/
def isDrive : Segment → Bool
  | [c, mark] => ('a' ≤ asciiLower c && asciiLower c ≤ 'z') && (mark = ':' || mark = '|')
  | _ => false

/-- The path one step up; segments stand last first. -/
def parent : List Segment → List Segment
  | [] => []
  | s :: done => if isDrive s then s :: done else done

/-- Takes the steps one by one from `done` on, which stands last first. A path that ends in a step to
itself or to the parent ends in a slash. -/
def walk (done : List Segment) : List Segment → List Segment
  | [] => done.reverse
  | s :: rest =>
    let close (done : List Segment) : List Segment := if rest.isEmpty then [] :: done else done
    if isParent s then walk (close (parent done)) rest
    else if isCurrent s then walk (close done) rest
    else walk (s :: done) rest

/-- The segments of a path written behind its first slash. A backslash counts as a slash. -/
def parse (cs : List Char) : List Segment :=
  walk [] ((Text.splitOn '/' (cs.map fun c => if c = '\\' then '/' else c)).map
    (percentEncode escapedInPath))

def text (path : List Segment) : List Char := path.flatMap fun s => '/' :: s

end NodeGroups.Url.Path
