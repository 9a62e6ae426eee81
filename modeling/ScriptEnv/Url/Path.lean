import ScriptEnv.Text.Split
import ScriptEnv.Url.Percent

namespace ScriptEnv.Url

def isDot (s : List Char) : Bool :=
  [['.'], ['%', '2', 'e'], ['%', '2', 'E']].contains s

def isDoubleDot (s : List Char) : Bool :=
  [['.', '.'], ['.', '%', '2', 'e'], ['.', '%', '2', 'E'], ['%', '2', 'e', '.'], ['%', '2', 'E', '.'],
    ['%', '2', 'e', '%', '2', 'e'], ['%', '2', 'e', '%', '2', 'E'], ['%', '2', 'E', '%', '2', 'e'],
    ['%', '2', 'E', '%', '2', 'E']].contains s

/-- A letter and a colon or bar, up to the end or a backslash: the name of a drive, which `..` does
not take away. -/
def isDrive : List Char → Bool
  | a :: b :: r => a.isAlpha && (b = ':' || b = '|') && (r = [] || r.head? = some '\\')
  | _ => false

def upToSlash (path : List Char) : List Char := (path.reverse.dropWhile (· ≠ '/')).reverse

/-- What `..` makes of a path that ends in a slash. -/
def parent (path : List Char) : List Char :=
  let body := path.dropLast
  let above := upToSlash body
  if above = [] ∨ isDrive (body.drop above.length) then path else above

def addSegment (path segment : List Char) (slash : Bool) : List Char :=
  if isDoubleDot segment then parent path
  else if isDot segment then path
  else path ++ segment ++ if slash then ['/'] else []

def addSegments (path : List Char) : List (List Char) → List Char
  | [] => path
  | [s] => addSegment path (percentEncode pathSet s) false
  | s :: r => addSegments (addSegment path (percentEncode pathSet s) true) r

def addPath (path text : List Char) : List Char := addSegments path (Text.splitOn '/' text)

end ScriptEnv.Url
